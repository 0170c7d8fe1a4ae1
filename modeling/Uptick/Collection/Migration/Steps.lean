import Uptick.Collection.GenesisImport
import Uptick.Collection.Migration.Store

/-!
# The rounds of the migration

When a round of each loop succeeds and what it leaves, and which keys it does not touch. The first byte of a key and
the byte behind it tell the legacy NFT keys, the classes and the supply counters apart.
-/

namespace Uptick.Collection.Migration

open Text Outcome NftStore

variable {X : Extern} {K : Keeper} {cdc : LegacyCodec} {B B' : ByteStore} {d : GoString}

lemma delete_eq_ok {R : Records} {k : GoString} :
    delete R B k = .ok B' ↔ validKey R k = true ∧ B.delete k = B' := by
  unfold delete
  rw [require_bind_eq_ok, Except.ok.injEq]

/-- The store takes the keys that a token is written and deleted under. -/
structure TokenFits (X : Extern) (R : Records) (d : GoString) (nft : BaseNFT) (owner : AccAddress) : Prop where
  keys : KeysFit R d nft.id owner
  nftKey : validKey R (keyNFT d nft.id) = true
  ownerKey : validKey R (keyOwner X owner d nft.id) = true

def putMigrated (X : Extern) (R : Records) (B : ByteStore) (d : GoString) (nft : BaseNFT) (owner : AccAddress) :
    ByteStore :=
  (((putToken R B d nft.id nft.toNFT owner).set (classTotalSupply d)
    (BigEndian.encode 8 (getTotalSupply B d + 1))).delete (keyNFT d nft.id)).delete (keyOwner X owner d nft.id)

lemma saveNFT_eq_ok {R : Records} {n : GoString} {f : TokenFields} {o : AccAddress} :
    saveNFT R B d n f o = .ok B' ↔ KeysFit R d n o ∧ getTotalSupply B d ≠ maxUint64 ∧
      B' = (putToken R B d n ⟨f.uri, f.uriHash, .value ⟨f.name, f.data⟩⟩ o).set (classTotalSupply d)
        (BigEndian.encode 8 (getTotalSupply B d + 1)) := by
  have hsteps : saveNFT R B d n f o = (setToken R B d n ⟨f.uri, f.uriHash, .value ⟨f.name, f.data⟩⟩ o >>=
      fun B => incrTotalSupply R B d) := by
    unfold saveNFT setToken
    exact (bind_assoc _ _ _).symm
  rw [hsteps, bind_eq_ok]
  constructor
  · rintro ⟨B₁, hset, hincr⟩
    obtain ⟨hfit, rfl⟩ := setToken_eq_ok.mp hset
    obtain ⟨hmax, hincr⟩ := require_bind_eq_ok.mp hincr
    rw [getTotalSupply_putToken] at hmax hincr
    exact ⟨hfit, hmax, (set_eq_ok.mp hincr).2.symm⟩
  · rintro ⟨hfit, hmax, rfl⟩
    refine ⟨_, setToken_eq_ok.mpr ⟨hfit, rfl⟩, ?_⟩
    have hkey : validKey R (Key.supply d).bytes = true := by
      have hlen := hfit.length
      rw [validKey_bytes]
      simp only [Key.bytes, classTotalSupply, List.length_cons]
      omega
    rw [incrTotalSupply, getTotalSupply_putToken, require_of hmax, ok_bind]
    exact set_eq_ok.mpr ⟨hkey, rfl⟩

/-- What a round reads from an entry: the token and its owner. -/
def readNFT (X : Extern) (cdc : LegacyCodec) (entry : GoString × GoString) : Except Error (BaseNFT × AccAddress) := do
  let nft ← cdc.unmarshalBaseNFT entry.2
  let owner ← X.decodeAcc nft.owner
  .ok (nft, owner)

lemma readNFT_eq_ok {entry : GoString × GoString} {p : BaseNFT × AccAddress} : readNFT X cdc entry = .ok p ↔
    cdc.unmarshalBaseNFT entry.2 = .ok p.1 ∧ X.decodeAcc p.1.owner = .ok p.2 := by
  unfold readNFT
  simp only [bind_eq_ok, Except.ok.injEq]
  constructor
  · rintro ⟨nft, hnft, owner, howner, rfl⟩
    exact ⟨hnft, howner⟩
  · rintro ⟨hnft, howner⟩
    exact ⟨p.1, hnft, p.2, howner, rfl⟩

lemma migrateNFT_eq_ok {entry : GoString × GoString} : migrateNFT X K cdc d B entry = .ok B' ↔
    ∃ p, readNFT X cdc entry = .ok p ∧ TokenFits X K.toRecords d p.1 p.2 ∧ getTotalSupply B d ≠ maxUint64 ∧
      B' = putMigrated X K.toRecords B d p.1 p.2 := by
  unfold migrateNFT
  simp only [bind_eq_ok, saveNFT_eq_ok, delete_eq_ok, readNFT_eq_ok]
  constructor
  · rintro ⟨nft, hnft, owner, howner, B₁, ⟨hfit, hmax, rfl⟩, B₂, ⟨hkey, rfl⟩, hkey', rfl⟩
    exact ⟨(nft, owner), ⟨hnft, howner⟩, ⟨hfit, hkey, hkey'⟩, hmax, rfl⟩
  · rintro ⟨p, ⟨hnft, howner⟩, ⟨hfit, hkey, hkey'⟩, hmax, rfl⟩
    exact ⟨p.1, hnft, p.2, howner, _, ⟨hfit, hmax, rfl⟩, _, ⟨hkey, rfl⟩, hkey', rfl⟩

lemma keyNFT_eq (hd : d ≠ []) (n : GoString) : keyNFT d n = 0x01 :: 47 :: (d ++ 47 :: n) := by
  by_cases hn : n = [] <;> simp [keyNFT, delimiter, hd, hn]

lemma get?_putMigrated_of_one {R : Records} {nft : BaseNFT} {o : AccAddress} (rest : GoString) :
    (putMigrated X R B d nft o).get? (0x01 :: rest) =
      if 0x01 :: rest = keyNFT d nft.id then none else B.get? (0x01 :: rest) := by
  have howner : (0x01 : UInt8) :: rest ≠ keyOwner X o d nft.id := by simp [keyOwner]
  have hsupply : (0x01 : UInt8) :: rest ≠ classTotalSupply d := by simp [classTotalSupply]
  unfold putMigrated
  rw [KVStore.get?_delete, if_neg howner, KVStore.get?_delete, KVStore.get?_set_of_ne _ _ hsupply,
    get?_putToken_of_head (by simp) (by simp) (by simp)]

lemma get?_putMigrated_of_five {R : Records} {nft : BaseNFT} {o : AccAddress} (c : GoString) :
    (putMigrated X R B d nft o).get? (classTotalSupply c) =
      if c = d then some (BigEndian.encode 8 (getTotalSupply B d + 1)) else B.get? (classTotalSupply c) := by
  have howner : classTotalSupply c ≠ keyOwner X o d nft.id := by simp [keyOwner, classTotalSupply]
  have hnft : classTotalSupply c ≠ keyNFT d nft.id := by simp [keyNFT, classTotalSupply]
  have hne : classTotalSupply d ≠ [] := List.cons_ne_nil _ _
  unfold putMigrated
  rw [KVStore.get?_delete, if_neg howner, KVStore.get?_delete, if_neg hnft, KVStore.get?_set _ hne,
    get?_putToken_of_head (by simp [classTotalSupply]) (by simp [classTotalSupply]) (by simp [classTotalSupply])]
  simp [classTotalSupply]

lemma getTotalSupply_putMigrated {R : Records} {nft : BaseNFT} {o : AccAddress}
    (hlt : getTotalSupply B d + 1 < 2 ^ 64) (c : GoString) : getTotalSupply (putMigrated X R B d nft o) c =
      if c = d then getTotalSupply B d + 1 else getTotalSupply B c := by
  unfold getTotalSupply KVStore.get
  rw [get?_putMigrated_of_five]
  by_cases hc : c = d
  · rw [if_pos hc, if_pos hc, Option.getD_some]
    exact BigEndian.decode_encode_of_lt (by simpa using hlt)
  · rw [if_neg hc, if_neg hc]

/-- An entry that a round for the class passes. -/
def EntryFits (X : Extern) (R : Records) (cdc : LegacyCodec) (d : GoString) (entry : GoString × GoString) : Prop :=
  ∃ p, readNFT X cdc entry = .ok p ∧ TokenFits X R d p.1 p.2

def deletedKeys (X : Extern) (cdc : LegacyCodec) (d : GoString)
    (entries : List (GoString × GoString)) : List GoString :=
  entries.filterMap fun entry => (readNFT X cdc entry).toOption.map fun p => keyNFT d p.1.id

lemma exists_migrateNFTs {es : List (GoString × GoString)} (hlt : getTotalSupply B d < 2 ^ 64) :
    (∃ B', forEach (migrateNFT X K cdc d) B es = .ok B') ↔
      (∀ e ∈ es, EntryFits X K.toRecords cdc d e) ∧ getTotalSupply B d + es.length < 2 ^ 64 := by
  induction es generalizing B with
  | nil => simpa using hlt
  | cons e es ih =>
    simp only [forEach_cons_eq_ok, List.mem_cons, forall_eq_or_imp, List.length_cons]
    constructor
    · rintro ⟨B', B₁, hone, hrest⟩
      obtain ⟨p, hp, hfit, hmax, rfl⟩ := migrateNFT_eq_ok.mp hone
      have hnext : getTotalSupply B d + 1 < 2 ^ 64 := by
        unfold maxUint64 at hmax
        omega
      have hsupply : getTotalSupply (putMigrated X K.toRecords B d p.1 p.2) d = getTotalSupply B d + 1 := by
        rw [getTotalSupply_putMigrated hnext, if_pos rfl]
      obtain ⟨hall, hlen⟩ := (ih (by rw [hsupply]; exact hnext)).mp ⟨B', hrest⟩
      rw [hsupply] at hlen
      exact ⟨⟨⟨p, hp, hfit⟩, hall⟩, by omega⟩
    · rintro ⟨⟨⟨p, hp, hfit⟩, hall⟩, hlen⟩
      have hmax : getTotalSupply B d ≠ maxUint64 := by
        unfold maxUint64
        omega
      have hnext : getTotalSupply B d + 1 < 2 ^ 64 := by omega
      have hsupply : getTotalSupply (putMigrated X K.toRecords B d p.1 p.2) d = getTotalSupply B d + 1 := by
        rw [getTotalSupply_putMigrated hnext, if_pos rfl]
      obtain ⟨B', hrest⟩ := (ih (by rw [hsupply]; exact hnext)).mpr ⟨hall, by rw [hsupply]; omega⟩
      exact ⟨B', _, migrateNFT_eq_ok.mpr ⟨p, hp, hfit, hmax, rfl⟩, hrest⟩

lemma get?_migrateNFTs_of_one {es : List (GoString × GoString)} (h : forEach (migrateNFT X K cdc d) B es = .ok B')
    (rest : GoString) : B'.get? (0x01 :: rest) =
      if 0x01 :: rest ∈ deletedKeys X cdc d es then none else B.get? (0x01 :: rest) := by
  induction es generalizing B with
  | nil =>
    cases h
    simp [deletedKeys]
  | cons e es ih =>
    obtain ⟨B₁, hone, hrest⟩ := forEach_cons_eq_ok.mp h
    obtain ⟨p, hp, -, -, rfl⟩ := migrateNFT_eq_ok.mp hone
    have hcons : deletedKeys X cdc d (e :: es) = keyNFT d p.1.id :: deletedKeys X cdc d es := by
      simp [deletedKeys, hp, Except.toOption]
    rw [ih hrest, get?_putMigrated_of_one, hcons]
    by_cases hmem : 0x01 :: rest ∈ deletedKeys X cdc d es
    · simp [hmem]
    · simp [hmem]

lemma getTotalSupply_migrateNFTs {es : List (GoString × GoString)} (h : forEach (migrateNFT X K cdc d) B es = .ok B')
    (hlt : getTotalSupply B d < 2 ^ 64) (c : GoString) : getTotalSupply B' c =
      if c = d then getTotalSupply B d + es.length else getTotalSupply B c := by
  induction es generalizing B with
  | nil =>
    cases h
    by_cases hc : c = d <;> simp [hc]
  | cons e es ih =>
    obtain ⟨B₁, hone, hrest⟩ := forEach_cons_eq_ok.mp h
    obtain ⟨p, hp, -, hmax, rfl⟩ := migrateNFT_eq_ok.mp hone
    have hnext : getTotalSupply B d + 1 < 2 ^ 64 := by
      unfold maxUint64 at hmax
      omega
    have hsupply : ∀ c, getTotalSupply (putMigrated X K.toRecords B d p.1 p.2) c =
        if c = d then getTotalSupply B d + 1 else getTotalSupply B c := getTotalSupply_putMigrated hnext
    rw [ih hrest (by rw [hsupply, if_pos rfl]; exact hnext), hsupply, hsupply, if_pos rfl, List.length_cons]
    by_cases hc : c = d
    · rw [if_pos hc, if_pos hc]
      omega
    · rw [if_neg hc, if_neg hc, if_neg hc]

/-- A denom that a round saves: its id and its texts pass, and its name can be a key. -/
structure DenomFits (R : Records) (denom : Denom) : Prop where
  id : validateDenomID denom.id = .ok ()
  bounds : validateDenomMetadataBounds denom.schema denom.data = .ok ()
  nameKey : validKey R (keyDenomName denom.name) = true

/-- What a round reads from an entry: the denom and its creator. -/
def ReadsDenom (X : Extern) (cdc : LegacyCodec) (entry : GoString × GoString) (denom : Denom) : Prop :=
  cdc.unmarshalDenom entry.2 = .ok denom ∧ ∃ creator, X.decodeAcc denom.creator = .ok creator

/-- The record that `SaveDenom` writes. -/
def denomClass (X : Extern) (denom : Denom) (creator : AccAddress) : Class :=
  ⟨denom.name, denom.symbol, denom.description, denom.uri, denom.uriHash,
    .value ⟨X.accString creator, denom.schema, denom.mintRestricted, denom.updateRestricted, denom.data⟩⟩

def putDenom (X : Extern) (R : Records) (B : ByteStore) (denom : Denom) (creator : AccAddress) : ByteStore :=
  (((B.set (classStoreKey denom.id) (R.marshalClass denom.id (denomClass X denom creator))).delete
    (keyDenom denom.id)).delete (keyDenomName denom.name)).delete (keyCollection denom.id)

lemma saveDenom_eq_ok {denom : Denom} {creator : AccAddress} :
    NftStore.saveDenom X K B denom.id denom.fields creator = .ok B' ↔ validateDenomID denom.id = .ok () ∧
      validateDenomMetadataBounds denom.schema denom.data = .ok () ∧ hasClass B denom.id = false ∧
      validKey K.toRecords (classStoreKey denom.id) = true ∧
      B' = B.set (classStoreKey denom.id) (K.marshalClass denom.id (denomClass X denom creator)) := by
  unfold NftStore.saveDenom
  rw [check_bind_eq_ok, check_bind_eq_ok, K.saveClass_eq_ok, set_eq_ok, eq_comm (a := B')]
  rfl

lemma migrateDenom_eq_ok (hmax : 515 ≤ K.maxKeyLength) {entry : GoString × GoString} {denom : Denom}
    {creator : AccAddress} (hdenom : cdc.unmarshalDenom entry.2 = .ok denom)
    (hcreator : X.decodeAcc denom.creator = .ok creator) : migrateDenom X K cdc B entry = .ok B' ↔
      DenomFits K.toRecords denom ∧ hasClass B denom.id = false ∧
        migrateToken X K cdc (putDenom X K.toRecords B denom creator) denom.id = .ok B' := by
  unfold migrateDenom
  rw [hdenom, ok_bind, hcreator, ok_bind]
  simp only [bind_eq_ok, saveDenom_eq_ok, delete_eq_ok]
  constructor
  · rintro ⟨B₁, ⟨hid, hbounds, hnew, -, rfl⟩, B₂, ⟨-, rfl⟩, B₃, ⟨hname, rfl⟩, B₄, ⟨-, rfl⟩, htokens⟩
    exact ⟨⟨hid, hbounds, hname⟩, hnew, htokens⟩
  · rintro ⟨hfit, hnew, htokens⟩
    have hlen := (bounds_of_validateDenomID hfit.id).2
    have hclass : validKey K.toRecords (classStoreKey denom.id) = true := by
      rw [classStoreKey, validKey_cons]
      omega
    have hslash : ∀ b : UInt8, validKey K.toRecords (b :: (delimiter ++ denom.id)) = true := by
      intro b
      rw [validKey_cons]
      simp only [delimiter, List.length_cons, List.length_append, List.length_nil]
      omega
    exact ⟨_, ⟨hfit.id, hfit.bounds, hnew, hclass, rfl⟩, _, ⟨hslash 0x04, rfl⟩, _, ⟨hfit.nameKey, rfl⟩, _,
      ⟨hslash 0x03, rfl⟩, htokens⟩

lemma get?_putDenom_of_one {R : Records} {denom : Denom} {creator : AccAddress} {rest : GoString}
    (hne : rest ≠ denom.id) : (putDenom X R B denom creator).get? (0x01 :: rest) = B.get? (0x01 :: rest) := by
  have hclass : (0x01 : UInt8) :: rest ≠ classStoreKey denom.id := by simp [classStoreKey, hne]
  unfold putDenom
  rw [KVStore.get?_delete, if_neg (by simp [keyCollection]), KVStore.get?_delete, if_neg (by simp [keyDenomName]),
    KVStore.get?_delete, if_neg (by simp [keyDenom]), KVStore.get?_set_of_ne _ _ hclass]

lemma hasClass_putDenom {R : Records} {denom : Denom} {creator : AccAddress} (c : GoString) :
    hasClass (putDenom X R B denom creator) c = (decide (c = denom.id) || hasClass B c) := by
  by_cases hc : c = denom.id
  · subst hc
    unfold hasClass KVStore.has putDenom
    rw [KVStore.get?_delete, if_neg (by simp [keyCollection, classStoreKey]), KVStore.get?_delete,
      if_neg (by simp [keyDenomName, classStoreKey]), KVStore.get?_delete, if_neg (by simp [keyDenom, classStoreKey]),
      KVStore.get?_set _ (show classStoreKey denom.id ≠ [] from List.cons_ne_nil _ _), if_pos rfl]
    simp
  · unfold hasClass KVStore.has classStoreKey
    rw [get?_putDenom_of_one hc]
    simp [hc]

lemma getTotalSupply_putDenom {R : Records} {denom : Denom} {creator : AccAddress} {c : GoString}
    (hc : c.head? ≠ some 47) : getTotalSupply (putDenom X R B denom creator) c = getTotalSupply B c := by
  have hname : classTotalSupply c ≠ keyDenomName denom.name := by
    intro h
    simp only [classTotalSupply, keyDenomName, delimiter, List.cons.injEq, true_and] at h
    rw [h] at hc
    exact hc rfl
  unfold getTotalSupply KVStore.get putDenom
  rw [KVStore.get?_delete, if_neg (by simp [keyCollection, classTotalSupply]), KVStore.get?_delete, if_neg hname,
    KVStore.get?_delete, if_neg (by simp [keyDenom, classTotalSupply]),
    KVStore.get?_set_of_ne _ _ (by simp [classTotalSupply, classStoreKey])]

lemma head_of_validateDenomID {id : GoString} (h : validateDenomID id = .ok ()) : id.head? ≠ some 47 := by
  intro hhead
  cases id with
  | nil => cases hhead
  | cons b rest =>
    obtain rfl : b = 47 := Option.some.inj hhead
    unfold validateDenomID at h
    obtain ⟨-, h⟩ := require_bind_eq_ok.mp h
    obtain ⟨-, h⟩ := require_bind_eq_ok.mp h
    have huptick : hasPrefix (47 :: rest) (str "uptick-") = false :=
      hasPrefix_eq_false (by decide +kernel) (by rw [List.head?_cons]; decide +kernel)
    have hibc : isIBCDenom (47 :: rest) = false :=
      hasPrefix_eq_false (by decide +kernel) (by rw [List.head?_cons]; decide +kernel)
    rw [huptick, hibc] at h
    obtain ⟨hid, -⟩ := require_bind_eq_ok.mp h
    simp [regexpID, isLower] at hid

end Uptick.Collection.Migration
