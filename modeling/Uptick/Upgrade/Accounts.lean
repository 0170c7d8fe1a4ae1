import Uptick.Extern
import Uptick.Lib.KVStore

/-!
# The accounts in the v0.4.0 upgrade

`app/upgrades/v040` rewrites the auth store: an `EthAccount` of Ethermint becomes the base account it
wraps, and a public key of Ethermint's type becomes one of the type that replaces it. The rewrite looks at
the key of an account and not into it, so the members of a multisig key stay as they are.
-/

namespace Uptick.Upgrade

open Text Outcome

/-- A public key in the `Any` it is stored in, the type taken from the type URL: Ethermint's
`legacy.EthSecp256k1PubKey`, the `evmsecp256k1.PubKey` that replaces it, the SDK's multisig key, or a key
of another type with its contents. -/
inductive PubKey
  | legacyEth (key : GoString)
  | evmEth (key : GoString)
  | multisig (threshold : Nat) (members : List PubKey)
  | other (typeURL contents : GoString)

mutual

/-- The key, or a member of it at any depth, is of Ethermint's type. -/
def PubKey.containsLegacy : PubKey → Bool
  | .legacyEth _ => true
  | .multisig _ members => anyLegacy members
  | .evmEth _ => false
  | .other _ _ => false

def anyLegacy : List PubKey → Bool
  | [] => false
  | pk :: pks => pk.containsLegacy || anyLegacy pks

end

/-- `authtypes.BaseAccount` -/
structure BaseAccount where
  address : GoString
  pubKey : Option PubKey
  accountNumber : UInt64
  sequence : UInt64

/-- The account types the codec of the migration decodes: the base account, Ethermint's `EthAccount`, and
the module and vesting accounts of the SDK, which wrap a base account and hold fields of their own. -/
inductive Account (Fields : Type)
  | base (account : BaseAccount)
  | eth (base : Option BaseAccount) (codeHash : GoString)
  | wrapped (base : Option BaseAccount) (fields : Fields)

/-- What the migration takes from other packages. `unmarshalInterface` is of the codec of the migration and
`marshalInterface` of the app's, `setPubKey` tells whether an account with these fields accepts a new key. -/
structure AuthCodec where
  Fields : Type
  unmarshalInterface : GoString → Except Error (Account Fields)
  marshalInterface : Account Fields → Except Error GoString
  setPubKey : Fields → Except Error Unit

variable (A : AuthCodec) {E : Type}

/-- The auth store and the state of the EVM keeper. -/
structure AuthState (E : Type) where
  auth : KVStore GoString
  evm : E

/-- `authtypes.AddressStoreKeyPrefix` -/
def addressStoreKeyPrefix : GoString := [1]

/-- The key under which the auth store holds an account. -/
def accountKey (addr : GoString) : GoString := addressStoreKeyPrefix ++ addr

/-- `common.HexToHash`: the last thirty-two bytes, padded with zeros on the left. -/
def hexToHash (s : GoString) : GoString :=
  let b := Evm.fromHex s
  (List.replicate 32 0 ++ b).drop b.length

def PubKey.migrated : PubKey → PubKey
  | .legacyEth key => .evmEth key
  | pk => pk

def BaseAccount.migrated (base : BaseAccount) : BaseAccount :=
  { base with pubKey := base.pubKey.map PubKey.migrated }

/-- `account.GetPubKey()`, which dereferences the base account. -/
def Account.getPubKey {F : Type} : Account F → Except Error (Option PubKey)
  | .base account => .ok account.pubKey
  | .eth (some inner) _ => .ok inner.pubKey
  | .wrapped (some inner) _ => .ok inner.pubKey
  | _ => .error (external "invalid memory address or nil pointer dereference")

/-- `account.SetPubKey(pk)` -/
def Account.setPubKey (account : Account A.Fields) (pk : PubKey) : Except Error (Account A.Fields) :=
  match account with
  | .base account => .ok (.base { account with pubKey := some pk })
  | .eth (some inner) codeHash => .ok (.eth (some { inner with pubKey := some pk }) codeHash)
  | .wrapped (some inner) fields => do
    A.setPubKey fields
    .ok (.wrapped (some { inner with pubKey := some pk }) fields)
  | _ => .error (external "invalid memory address or nil pointer dereference")

def migrateRetainedAccountPubKey (auth : KVStore GoString) (key : GoString) (account : Account A.Fields) :
    Except Error (KVStore GoString) := do
  match ← account.getPubKey with
  | some (.legacyEth ethKey) =>
    let account ← mapError (·.wrapf "set migrated pubkey on retained account %x" [.s (Hex.encode key)])
      (account.setPubKey A (.evmEth ethKey))
    let newBytes ← mapError (·.wrapf "marshal retained account %x" [.s (Hex.encode key)])
      (A.marshalInterface account)
    .ok (auth.set (accountKey key) newBytes)
  | _ => .ok auth

/-- The hash of an account without code is the empty text, and then nothing is set. -/
def migrateCodeHash (setCodeHash : Option (E → GoString → GoString → E)) (evm : E) (key codeHash : GoString) : E :=
  match setCodeHash with
  | some set => if codeHash = [] then evm else set evm key (hexToHash codeHash)
  | none => evm

/-- One round: the account under a key of the address prefix. -/
def migrateAccount (setCodeHash : Option (E → GoString → GoString → E)) (st : AuthState E)
    (entry : GoString × GoString) : Except Error (AuthState E) := do
  let key := entry.1.drop addressStoreKeyPrefix.length
  let account ← mapError (·.wrapf "decode auth account %x" [.s (Hex.encode key)]) (A.unmarshalInterface entry.2)
  match account with
  | .eth none _ =>
    .error ⟨.external (str "legacy EthAccount " ++ Hex.encode key ++ str " has nil BaseAccount"), []⟩
  | .eth (some base) codeHash =>
    let evm := migrateCodeHash setCodeHash st.evm key codeHash
    let newBytes ← mapError (·.wrapf "marshal migrated BaseAccount %x" [.s (Hex.encode key)])
      (A.marshalInterface (.base base.migrated))
    .ok ⟨st.auth.set (accountKey key) newBytes, evm⟩
  | account =>
    let auth ← migrateRetainedAccountPubKey A st.auth key account
    .ok { st with auth }

def migrateLegacyEVMAccounts (storeKey : Bool) (setCodeHash : Option (E → GoString → GoString → E))
    (st : AuthState E) : Except Error (AuthState E) := do
  require (storeKey = true) (external "auth store key not found")
  forEach (migrateAccount A setCodeHash) st (st.auth.withPrefix addressStoreKeyPrefix)

variable {A}

def Account.holder {F : Type} : Account F → Option BaseAccount
  | .base account => some account
  | .eth inner _ => inner
  | .wrapped inner _ => inner

def Account.fields {F : Type} : Account F → Option F
  | .wrapped _ fields => some fields
  | _ => none

/-- The record that takes the place of an account. -/
def Account.migrated {F : Type} : Account F → Account F
  | .base account => .base account.migrated
  | .eth (some inner) _ => .base inner.migrated
  | .eth none codeHash => .eth none codeHash
  | .wrapped inner fields => .wrapped (inner.map BaseAccount.migrated) fields

/-- What a stored value holds, the types read from the type URLs: the codec of the migration reads it so,
and what the app's codec writes reads back. -/
structure AuthCodec.Reads (A : AuthCodec) (read : GoString → Option (Account A.Fields)) : Prop where
  unmarshal : ∀ {bytes account}, A.unmarshalInterface bytes = .ok account → read bytes = some account
  marshal : ∀ {bytes account}, A.marshalInterface account = .ok bytes → read bytes = some account

lemma PubKey.migrated_of_not_legacy {pk : PubKey} (h : ∀ key, pk ≠ .legacyEth key) : pk.migrated = pk := by
  cases pk with
  | legacyEth key => exact absurd rfl (h key)
  | evmEth | multisig | other => rfl

lemma BaseAccount.migrated_of_not_legacy {account : BaseAccount}
    (h : ∀ key, account.pubKey ≠ some (.legacyEth key)) : account.migrated = account := by
  have hkey : account.pubKey.map PubKey.migrated = account.pubKey := by
    cases hpk : account.pubKey with
    | none => rfl
    | some pk =>
      have hplain : ∀ key, pk ≠ .legacyEth key := fun key heq => h key (by rw [hpk, heq])
      rw [Option.map_some, PubKey.migrated_of_not_legacy hplain]
  rw [BaseAccount.migrated, hkey]

lemma BaseAccount.migrated_of_legacy {account : BaseAccount} {key : GoString}
    (h : account.pubKey = some (.legacyEth key)) :
    account.migrated = { account with pubKey := some (.evmEth key) } := by
  rw [BaseAccount.migrated, h]
  rfl

/-- The account is one that the migration retains: it is not an `EthAccount`. -/
def Account.Retained {F : Type} (account : Account F) : Prop := ∀ inner codeHash, account ≠ .eth inner codeHash

lemma Account.migrated_of_setPubKey {account account' : Account A.Fields} {key : GoString}
    (hretained : account.Retained) (hpk : account.getPubKey = .ok (some (.legacyEth key)))
    (h : account.setPubKey A (.evmEth key) = .ok account') : account' = account.migrated := by
  cases account with
  | base account =>
    cases h
    rw [Account.migrated, BaseAccount.migrated_of_legacy (Except.ok.inj hpk)]
  | eth inner codeHash => exact absurd rfl (hretained inner codeHash)
  | wrapped inner fields =>
    cases inner with
    | none => cases hpk
    | some inner =>
      obtain ⟨_, -, h⟩ := bind_eq_ok.mp h
      cases h
      rw [Account.migrated, Option.map_some, BaseAccount.migrated_of_legacy (Except.ok.inj hpk)]

lemma Account.migrated_of_getPubKey {F : Type} {account : Account F} {pk : Option PubKey}
    (hretained : account.Retained) (hpk : account.getPubKey = .ok pk)
    (hplain : ∀ key, pk ≠ some (.legacyEth key)) : account.migrated = account := by
  cases account with
  | base account =>
    cases hpk
    rw [Account.migrated, BaseAccount.migrated_of_not_legacy hplain]
  | eth inner codeHash => exact absurd rfl (hretained inner codeHash)
  | wrapped inner fields =>
    cases inner with
    | none => cases hpk
    | some inner =>
      cases hpk
      rw [Account.migrated, Option.map_some, BaseAccount.migrated_of_not_legacy hplain]

lemma Account.holder_of_getPubKey {F : Type} {account : Account F} {pk : Option PubKey}
    (h : account.getPubKey = .ok pk) : account.holder ≠ none := by
  rcases account with a | ⟨_ | a, c⟩ | ⟨_ | a, c⟩
  all_goals first
    | cases h
      done
    | exact Option.some_ne_none a

/-- A stored record is replaced by its migrated one, and the account has a base account. -/
def Rewrites (read : GoString → Option (Account A.Fields)) (bytes newBytes : GoString) : Prop :=
  ∃ account, A.unmarshalInterface bytes = .ok account ∧ account.holder ≠ none ∧
    read newBytes = some account.migrated

lemma rewrites_set {read : GoString → Option (Account A.Fields)} {auth : KVStore GoString}
    {k bytes newBytes : GoString} (hk : k ≠ []) (h : Rewrites read bytes newBytes) :
    (∃ w, (auth.set k newBytes).get? k = some w ∧ Rewrites read bytes w) ∧
      ∀ k', k' ≠ k → (auth.set k newBytes).get? k' = auth.get? k' := by
  constructor
  · exact ⟨newBytes, by rw [KVStore.get?_set auth hk, if_pos rfl], h⟩
  · intro k' hne
    exact KVStore.get?_set_of_ne auth newBytes hne

lemma accountKey_ne_nil (addr : GoString) : accountKey addr ≠ [] := by simp [accountKey, addressStoreKeyPrefix]

variable {read : GoString → Option (Account A.Fields)} {auth auth' : KVStore GoString}

lemma migrateRetainedAccountPubKey_rewrites (hread : A.Reads read) {key bytes : GoString}
    {account : Account A.Fields} (hretained : account.Retained)
    (hget : auth.get? (accountKey key) = some bytes) (hbytes : A.unmarshalInterface bytes = .ok account)
    (h : migrateRetainedAccountPubKey A auth key account = .ok auth') :
    (∃ w, auth'.get? (accountKey key) = some w ∧ Rewrites read bytes w) ∧
      ∀ k, k ≠ accountKey key → auth'.get? k = auth.get? k := by
  obtain ⟨pk, hpk, h⟩ := bind_eq_ok.mp h
  have hholder : account.holder ≠ none := Account.holder_of_getPubKey hpk
  split at h
  · obtain ⟨account', hset, h⟩ := bind_eq_ok.mp h
    obtain ⟨newBytes, hnew, h⟩ := bind_eq_ok.mp h
    cases h
    have hmigrated := Account.migrated_of_setPubKey hretained hpk (mapError_eq_ok.mp hset)
    apply rewrites_set (accountKey_ne_nil key)
    refine ⟨account, hbytes, hholder, ?_⟩
    rw [hread.marshal (mapError_eq_ok.mp hnew), hmigrated]
  · next hplain =>
    cases h
    refine ⟨⟨bytes, hget, account, hbytes, hholder, ?_⟩, fun _ _ => rfl⟩
    have hsame := Account.migrated_of_getPubKey hretained hpk fun key heq => hplain key heq
    rw [hread.unmarshal hbytes, hsame]

variable {setCodeHash : Option (E → GoString → GoString → E)} {st st' : AuthState E}

lemma migrateAccount_rewrites (hread : A.Reads read) {k bytes : GoString}
    (hk : hasPrefix k addressStoreKeyPrefix = true) (hget : st.auth.get? k = some bytes)
    (h : migrateAccount A setCodeHash st (k, bytes) = .ok st') :
    (∃ w, st'.auth.get? k = some w ∧ Rewrites read bytes w) ∧
      ∀ k', k' ≠ k → st'.auth.get? k' = st.auth.get? k' := by
  obtain ⟨addr, rfl⟩ := hasPrefix_iff.mp hk
  have hdrop : (addressStoreKeyPrefix ++ addr).drop addressStoreKeyPrefix.length = addr := List.drop_left
  simp only [migrateAccount, hdrop] at h
  obtain ⟨account, hdecode, h⟩ := bind_eq_ok.mp h
  have hbytes := mapError_eq_ok.mp hdecode
  split at h
  · cases h
  · next inner codeHash =>
    obtain ⟨newBytes, hnew, h⟩ := bind_eq_ok.mp h
    cases h
    apply rewrites_set (accountKey_ne_nil addr)
    exact ⟨_, hbytes, Option.some_ne_none inner, hread.marshal (mapError_eq_ok.mp hnew)⟩
  · next hnil heth =>
    obtain ⟨auth, hauth, h⟩ := bind_eq_ok.mp h
    cases h
    have hretained : account.Retained := by
      intro inner codeHash heq
      cases inner with
      | none => exact hnil codeHash heq
      | some inner => exact heth inner codeHash heq
    exact migrateRetainedAccountPubKey_rewrites hread hretained hget hbytes hauth

/-- After the loop every account record is the migrated one, and no other entry of the store has changed. -/
theorem migrateLegacyEVMAccounts_rewrites (hread : A.Reads read) {storeKey : Bool}
    (h : migrateLegacyEVMAccounts A storeKey setCodeHash st = .ok st') :
    (∀ addr bytes, st.auth.get? (accountKey addr) = some bytes →
      ∃ w, st'.auth.get? (accountKey addr) = some w ∧ Rewrites read bytes w) ∧
    ∀ k, hasPrefix k addressStoreKeyPrefix = false ∨ st.auth.get? k = none →
      st'.auth.get? k = st.auth.get? k := by
  obtain ⟨-, h⟩ := require_bind_eq_ok.mp h
  obtain ⟨hdone, hsame⟩ := forEach_rewrites (fun st : AuthState E => st.auth.get?) (Rewrites read)
    (fun s k v t hmem hget hround => migrateAccount_rewrites hread (KVStore.mem_withPrefix.mp hmem).2 hget hround)
    (st.auth.nodup_withPrefix addressStoreKeyPrefix) (fun k v hmem => (KVStore.mem_withPrefix.mp hmem).1) h
  constructor
  · intro addr bytes hget
    exact hdone _ _ (KVStore.mem_withPrefix.mpr ⟨hget, hasPrefix_iff.mpr ⟨addr, rfl⟩⟩)
  · intro k hk
    apply hsame
    intro hmem
    obtain ⟨entry, hentry, rfl⟩ := List.mem_map.mp hmem
    obtain ⟨hget, hpre⟩ := KVStore.mem_withPrefix.mp hentry
    rcases hk with hk | hk
    · exact absurd hpre (by simpa using hk)
    · rw [hget] at hk
      cases hk

/-! ### What the migrated store holds -/

/-- `Bytes()` of a key. Those of a multisig key are an encoding of it, `amino`. -/
def PubKey.bytes (amino : Nat → List PubKey → GoString) : PubKey → GoString
  | .legacyEth key => key
  | .evmEth key => key
  | .multisig threshold members => amino threshold members
  | .other _ contents => contents

/-- A base account with the address, the number, the sequence and the key bytes of another. -/
structure BaseAccount.KeptIn (old new : BaseAccount) : Prop where
  address : new.address = old.address
  accountNumber : new.accountNumber = old.accountNumber
  sequence : new.sequence = old.sequence
  keyBytes : ∀ amino, new.pubKey.map (PubKey.bytes amino) = old.pubKey.map (PubKey.bytes amino)

/-- A record with all of that and the module or vesting fields of another. -/
def Account.KeptIn {F : Type} (old new : Account F) : Prop :=
  (∃ a b, old.holder = some a ∧ new.holder = some b ∧ a.KeptIn b) ∧ new.fields = old.fields

/-- The record is of Ethermint's account type or holds a key of its key type at any depth. -/
def Account.containsLegacy {F : Type} : Account F → Bool
  | .base account => account.pubKey.any PubKey.containsLegacy
  | .eth _ _ => true
  | .wrapped inner _ => inner.any fun account => account.pubKey.any PubKey.containsLegacy

/-- A multisig key with a member, at any depth, of Ethermint's type. -/
def PubKey.hasLegacyMember : PubKey → Bool
  | .multisig _ members => anyLegacy members
  | _ => false

/-- Every record of the store before is kept in the store after, and no record after is a legacy one. -/
structure Migrated (read : GoString → Option (Account A.Fields)) (auth auth' : KVStore GoString) : Prop where
  kept : ∀ addr bytes account, auth.get? (accountKey addr) = some bytes → read bytes = some account →
    ∃ bytes' account', auth'.get? (accountKey addr) = some bytes' ∧ read bytes' = some account' ∧
      account.KeptIn account'
  clean : ∀ addr bytes account, auth'.get? (accountKey addr) = some bytes → read bytes = some account →
    account.containsLegacy = false

lemma PubKey.bytes_migrated (amino : Nat → List PubKey → GoString) (pk : PubKey) :
    pk.migrated.bytes amino = pk.bytes amino := by
  cases pk <;> rfl

lemma PubKey.containsLegacy_migrated (pk : PubKey) : pk.migrated.containsLegacy = pk.hasLegacyMember := by
  cases pk <;> simp [PubKey.migrated, PubKey.containsLegacy, PubKey.hasLegacyMember]

lemma BaseAccount.keptIn_migrated (account : BaseAccount) : account.KeptIn account.migrated where
  address := rfl
  accountNumber := rfl
  sequence := rfl
  keyBytes := by
    intro amino
    rw [BaseAccount.migrated, Option.map_map]
    congr 1
    funext pk
    exact PubKey.bytes_migrated amino pk

lemma Account.holder_migrated {F : Type} (account : Account F) :
    account.migrated.holder = account.holder.map BaseAccount.migrated := by
  rcases account with a | ⟨_ | a, c⟩ | ⟨_ | a, c⟩ <;> rfl

lemma Account.fields_migrated {F : Type} (account : Account F) : account.migrated.fields = account.fields := by
  rcases account with a | ⟨_ | a, c⟩ | ⟨_ | a, c⟩ <;> rfl

lemma Account.keptIn_migrated {F : Type} {account : Account F} (h : account.holder ≠ none) :
    account.KeptIn account.migrated := by
  obtain ⟨a, ha⟩ := Option.ne_none_iff_exists'.mp h
  refine ⟨⟨a, a.migrated, ha, ?_, a.keptIn_migrated⟩, account.fields_migrated⟩
  rw [account.holder_migrated, ha, Option.map_some]

lemma Account.containsLegacy_migrated {F : Type} {account : Account F} {a : BaseAccount}
    (ha : account.holder = some a) :
    account.migrated.containsLegacy = a.pubKey.any PubKey.hasLegacyMember := by
  have hany : (a.migrated.pubKey.any PubKey.containsLegacy) = a.pubKey.any PubKey.hasLegacyMember := by
    rw [BaseAccount.migrated]
    cases a.pubKey with
    | none => rfl
    | some pk => exact PubKey.containsLegacy_migrated pk
  rcases account with b | ⟨_ | b, c⟩ | ⟨_ | b, c⟩ <;> cases ha <;> exact hany

/-- A migration that succeeds keeps every record and clears Ethermint's types exactly when no account has a
multisig key with a member of Ethermint's key type. -/
theorem accounts_migrated_iff (hread : A.Reads read) {storeKey : Bool}
    (h : migrateLegacyEVMAccounts A storeKey setCodeHash st = .ok st') :
    Migrated read st.auth st'.auth ↔
      ∀ addr bytes account a pk, st.auth.get? (accountKey addr) = some bytes → read bytes = some account →
        account.holder = some a → a.pubKey = some pk → pk.hasLegacyMember = false := by
  obtain ⟨hdone, hsame⟩ := migrateLegacyEVMAccounts_rewrites hread h
  constructor
  · intro hmigrated addr bytes account a pk hget hbytes ha hpk
    obtain ⟨w, hw, account', hdecode, -, hrecord⟩ := hdone addr bytes hget
    have heq : account' = account := Option.some.inj ((hread.unmarshal hdecode).symm.trans hbytes)
    rw [heq] at hrecord
    have hclean := hmigrated.clean addr w _ hw hrecord
    rw [Account.containsLegacy_migrated ha, hpk] at hclean
    exact hclean
  · intro hplain
    constructor
    · intro addr bytes account hget hbytes
      obtain ⟨w, hw, account', hdecode, hholder, hrecord⟩ := hdone addr bytes hget
      have heq : account' = account := Option.some.inj ((hread.unmarshal hdecode).symm.trans hbytes)
      rw [heq] at hholder hrecord
      exact ⟨w, account.migrated, hw, hrecord, Account.keptIn_migrated hholder⟩
    · intro addr bytes' record hget' hrecord'
      -- a record after the migration was there before
      have hbefore : st.auth.get? (accountKey addr) ≠ none := by
        intro hnone
        rw [hsame _ (.inr hnone), hnone] at hget'
        cases hget'
      obtain ⟨bytes, hget⟩ := Option.ne_none_iff_exists'.mp hbefore
      obtain ⟨w, hw, account, hdecode, hholder, hrecord⟩ := hdone addr bytes hget
      obtain ⟨a, ha⟩ := Option.ne_none_iff_exists'.mp hholder
      have hsame : bytes' = w := Option.some.inj (hget'.symm.trans hw)
      have heq : record = account.migrated := Option.some.inj (hrecord'.symm.trans (hsame ▸ hrecord))
      rw [heq, Account.containsLegacy_migrated ha]
      cases hpk : a.pubKey with
      | none => rfl
      | some pk => exact hplain addr bytes account a pk hget (hread.unmarshal hdecode) ha hpk

namespace Sample

/-- An `EthAccount` with a key of Ethermint's type. -/
def ethAccount : Account Unit := .eth (some ⟨str "uptick1alice", some (.legacyEth [2, 7]), 5, 9⟩) []

/-- A base account with a multisig key, one of whose members is of Ethermint's type. -/
def multisigAccount : Account Unit :=
  .base ⟨str "uptick1council",
    some (.multisig 1 [.other (str "/cosmos.crypto.secp256k1.PubKey") [3], .legacyEth [2, 7]]), 6, 0⟩

/-- A codec of these two records, and of the one that takes the place of the first. -/
def decodeRecord (bytes : GoString) : Option (Account Unit) :=
  if bytes = [1] then some ethAccount
  else if bytes = [2] then some multisigAccount
  else if bytes = [3] then some ethAccount.migrated
  else none

def encodeRecord : Account Unit → Except Error GoString
  | .base ⟨address, some (.evmEth key), number, sequence⟩ =>
    if address = str "uptick1alice" ∧ key = [2, 7] ∧ number = 5 ∧ sequence = 9 then .ok [3]
    else .error (external "unknown record")
  | _ => .error (external "unknown record")

def authCodec : AuthCodec where
  Fields := Unit
  unmarshalInterface bytes :=
    match decodeRecord bytes with
    | some account => .ok account
    | none => .error (external "unknown record")
  marshalInterface := encodeRecord
  setPubKey _ := .ok ()

lemma decodeRecord_of_encodeRecord {account : Account Unit} {bytes : GoString}
    (h : encodeRecord account = .ok bytes) : decodeRecord bytes = some account := by
  unfold encodeRecord at h
  split at h
  · split at h
    · next hrecord =>
      obtain ⟨rfl, rfl, rfl, rfl⟩ := hrecord
      cases h
      rfl
    · cases h
  · cases h

lemma authCodec_reads : authCodec.Reads decodeRecord where
  unmarshal := by
    intro bytes account h
    simp only [authCodec] at h
    split at h
    · next hdecode =>
      cases h
      exact hdecode
    · cases h
  marshal := decodeRecord_of_encodeRecord

def ethStore : KVStore GoString := KVStore.empty.set (accountKey [7]) [1]

def multisigStore : KVStore GoString := KVStore.empty.set (accountKey [8]) [2]

end Sample

theorem accounts_migrated_sample :
    Migrated (A := Sample.authCodec) Sample.decodeRecord Sample.ethStore
      (Sample.ethStore.set (accountKey [7]) [3]) := by
  have h : migrateLegacyEVMAccounts Sample.authCodec true none ⟨Sample.ethStore, ()⟩ =
      .ok ⟨Sample.ethStore.set (accountKey [7]) [3], ()⟩ := rfl
  apply (accounts_migrated_iff Sample.authCodec_reads h).mpr
  intro addr bytes account a pk hget hbytes ha hpk
  have hentry : accountKey addr = accountKey [7] ∧ bytes = [1] := by
    rcases KVStore.get?_set_eq_some hget with hown | ⟨-, hnone⟩
    · exact hown
    · cases hnone
  rw [hentry.2] at hbytes
  cases hbytes
  cases ha
  cases hpk
  rfl

/-- The member of the multisig key is still of Ethermint's type. -/
theorem accounts_not_migrated_multisig :
    ∃ st', migrateLegacyEVMAccounts Sample.authCodec true none ⟨Sample.multisigStore, ()⟩ = .ok st' ∧
      ¬ Migrated (A := Sample.authCodec) Sample.decodeRecord Sample.multisigStore st'.auth := by
  refine ⟨⟨Sample.multisigStore, ()⟩, rfl, ?_⟩
  intro hmigrated
  have hclean := hmigrated.clean [8] [2] Sample.multisigAccount rfl rfl
  cases hclean

end Uptick.Upgrade
