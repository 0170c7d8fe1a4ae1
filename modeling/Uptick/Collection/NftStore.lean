import Uptick.Collection.Ledger
import Uptick.Lib.BigEndian
import Uptick.Lib.KeyLayout

/-!
# The byte store of x/nft

The records of x/nft under the keys that `migrations/v2/keeper.go` writes them to. The module that creates them is not
part of this repository: it is a parameter, with what its documentation says a new class and a new token write. A store
represents a ledger when it holds the records of the ledger and nothing else; the zero byte behind a class id keeps
the keys apart.
-/

namespace Uptick.Collection

open Text Outcome

abbrev ByteStore := KVStore GoString

namespace NftStore

/-- `nftkeeper.Delimiter` -/
def delimiter : GoString := [0]

/-- `nftkeeper.Placeholder` -/
def placeholder : GoString := [1]

/-- `address.MustLengthPrefix` of at most 255 bytes. -/
def lengthPrefix (bz : GoString) : GoString := UInt8.ofNat bz.length :: bz

def classStoreKey (classID : GoString) : GoString := 0x01 :: classID

def nftStoreKey (classID : GoString) : GoString := 0x02 :: (classID ++ delimiter)

def nftOfClassByOwnerStoreKey (owner : AccAddress) (classID : GoString) : GoString :=
  0x03 :: (lengthPrefix owner ++ delimiter ++ classID ++ delimiter)

def ownerStoreKey (classID nftID : GoString) : GoString := 0x04 :: (classID ++ delimiter ++ nftID)

def classTotalSupply (classID : GoString) : GoString := 0x05 :: classID

/-- A record by its place. -/
inductive Key
  | class_ (classID : GoString)
  | nft (classID nftID : GoString)
  | byOwner (owner : AccAddress) (classID nftID : GoString)
  | owner (classID nftID : GoString)
  | supply (classID : GoString)
  deriving DecidableEq

def Key.bytes : Key → GoString
  | .class_ c => classStoreKey c
  | .nft c n => nftStoreKey c ++ n
  | .byOwner o c n => nftOfClassByOwnerStoreKey o c ++ n
  | .owner c n => ownerStoreKey c n
  | .supply c => classTotalSupply c

/-- A key that another record cannot share. -/
def Key.Plain : Key → Prop
  | .nft c _ => 0 ∉ c
  | .owner c _ => 0 ∉ c
  | .byOwner o c _ => o.length ≤ 255 ∧ 0 ∉ c
  | _ => True

lemma lengthPrefix_inj {o o' s s' : GoString} (ho : o.length ≤ 255) (ho' : o'.length ≤ 255)
    (h : lengthPrefix o ++ s = lengthPrefix o' ++ s') : o = o' ∧ s = s' := by
  simp only [lengthPrefix, List.cons_append, List.cons.injEq] at h
  have hlen : o.length = o'.length := by
    have hnat := congrArg UInt8.toNat h.1
    rw [UInt8.toNat_ofNat', UInt8.toNat_ofNat'] at hnat
    omega
  exact List.append_inj h.2 hlen

lemma delimited_inj {c c' n n' : GoString} (hc : 0 ∉ c) (hc' : 0 ∉ c')
    (h : c ++ delimiter ++ n = c' ++ delimiter ++ n') : c = c' ∧ n = n' := by
  simp only [delimiter, List.append_assoc, List.singleton_append] at h
  exact append_cons_inj hc hc' h

def Key.kind : Key → UInt8
  | .class_ _ => 0x01
  | .nft _ _ => 0x02
  | .byOwner _ _ _ => 0x03
  | .owner _ _ => 0x04
  | .supply _ => 0x05

lemma Key.head?_bytes (a : Key) : a.bytes.head? = some a.kind := by
  cases a <;> rfl

lemma Key.bytes_ne_nil (a : Key) : a.bytes ≠ [] := by
  cases a <;> exact List.cons_ne_nil _ _

lemma Key.bytes_inj {a b : Key} (ha : a.Plain) (hb : b.Plain) (h : a.bytes = b.bytes) : a = b := by
  have hkind : a.kind = b.kind := by
    apply Option.some.inj
    rw [← a.head?_bytes, ← b.head?_bytes, h]
  have htail : a.bytes.tail = b.bytes.tail := congrArg List.tail h
  -- Records of two kinds differ in the first byte.
  cases a <;> cases b <;> try (simp [Key.kind] at hkind; done)
  case class_.class_ c c' => exact congrArg Key.class_ htail
  case supply.supply c c' => exact congrArg Key.supply htail
  case nft.nft c n c' n' =>
    obtain ⟨rfl, rfl⟩ := delimited_inj ha hb htail
    rfl
  case owner.owner c n c' n' =>
    obtain ⟨rfl, rfl⟩ := delimited_inj ha hb htail
    rfl
  case byOwner.byOwner o c n o' c' n' =>
    simp only [Key.bytes, nftOfClassByOwnerStoreKey, List.cons_append, List.tail_cons, List.append_assoc] at htail
    obtain ⟨rfl, hrest⟩ := lengthPrefix_inj ha.1 hb.1 htail
    have hclass := List.append_cancel_left hrest
    rw [← List.append_assoc, ← List.append_assoc] at hclass
    obtain ⟨rfl, rfl⟩ := delimited_inj ha.2 hb.2 hclass
    rfl

def layout : KeyLayout Key where
  bytes := Key.bytes
  Plain := Key.Plain
  bytes_ne_nil := fun {a} _ => a.bytes_ne_nil
  bytes_inj := Key.bytes_inj

/-- The protobuf encoding of the records, and the longest key that the store takes. -/
structure Records where
  marshalClass : GoString → Class → GoString
  unmarshalClass : GoString → Except Error (GoString × Class)
  marshalNFT : GoString → GoString → NFT → GoString
  unmarshalNFT : GoString → Except Error (GoString × GoString × NFT)
  maxKeyLength : Nat
  unmarshalClass_marshalClass : ∀ id cl, unmarshalClass (marshalClass id cl) = .ok (id, cl)
  unmarshalNFT_marshalNFT : ∀ c n t, unmarshalNFT (marshalNFT c n t) = .ok (c, n, t)

variable (R : Records)

def validKey (k : GoString) : Bool := k ≠ [] && k.length ≤ R.maxKeyLength

/-- `Set`, which panics on a key that the store does not take. -/
def set (B : ByteStore) (k v : GoString) : Except Error ByteStore := do
  require (validKey R k = true) (external "invalid store key")
  .ok (B.set k v)

/-- `Set` of the part of a store behind some bytes: the key is checked without those too. -/
def prefixSet (B : ByteStore) (pre k v : GoString) : Except Error ByteStore := do
  require (validKey R k = true) (external "invalid store key")
  set R B (pre ++ k) v

def setNFT (B : ByteStore) (classID nftID : GoString) (token : NFT) : Except Error ByteStore :=
  prefixSet R B (nftStoreKey classID) nftID (R.marshalNFT classID nftID token)

def setOwner (B : ByteStore) (classID nftID : GoString) (owner : AccAddress) : Except Error ByteStore := do
  let B ← set R B (ownerStoreKey classID nftID) owner
  require (owner.length ≤ 255) (external "address length should be max 255 bytes")
  prefixSet R B (nftOfClassByOwnerStoreKey owner classID) nftID placeholder

def getTotalSupply (B : ByteStore) (classID : GoString) : Nat := BigEndian.decode (B.get (classTotalSupply classID))

def updateTotalSupply (B : ByteStore) (classID : GoString) (supply : Nat) : Except Error ByteStore :=
  set R B (classTotalSupply classID) (BigEndian.encode 8 supply)

def setToken (B : ByteStore) (classID nftID : GoString) (token : NFT) (owner : AccAddress) :
    Except Error ByteStore := do
  let B ← setNFT R B classID nftID token
  setOwner R B classID nftID owner

def hasClass (B : ByteStore) (classID : GoString) : Bool := B.has (classStoreKey classID)

def hasNFT (B : ByteStore) (classID nftID : GoString) : Bool := B.has (nftStoreKey classID ++ nftID)

def getClass (B : ByteStore) (classID : GoString) : Except Error (Option (GoString × Class)) :=
  match B.get? (classStoreKey classID) with
  | none => .ok none
  | some bz => (R.unmarshalClass bz).map some

def getClasses (B : ByteStore) : Except Error (List (GoString × Class)) :=
  (B.withPrefix [0x01]).mapM fun e => R.unmarshalClass e.2

def getOwner (B : ByteStore) (classID nftID : GoString) : AccAddress := B.get (ownerStoreKey classID nftID)

def getNFTsOfClass (B : ByteStore) (classID : GoString) : Except Error (List (GoString × GoString × NFT)) :=
  (B.withPrefix (nftStoreKey classID)).mapM fun e => R.unmarshalNFT e.2

/-- The keeper of x/nft over its store: a new class and a new token are written as above, and nothing that exists is
written again. -/
structure Keeper extends Records where
  saveClass : ByteStore → GoString → Class → Except Error ByteStore
  mint : ByteStore → GoString → GoString → NFT → AccAddress → Except Error ByteStore
  saveClass_eq_ok : ∀ {B c cl B'}, saveClass B c cl = .ok B' ↔
    hasClass B c = false ∧ set toRecords B (classStoreKey c) (marshalClass c cl) = .ok B'
  mint_eq_ok : ∀ {B c n t o B'}, mint B c n t o = .ok B' ↔
    hasClass B c = true ∧ hasNFT B c n = false ∧ ∃ B₁, setToken toRecords B c n t o = .ok B₁ ∧
      updateTotalSupply toRecords B₁ c (getTotalSupply B₁ c + 1) = .ok B'

section

variable {R} {B B' : ByteStore} {c n : GoString} {t : NFT} {o : AccAddress}

lemma set_eq_ok {k v : GoString} : set R B k v = .ok B' ↔ validKey R k = true ∧ B.set k v = B' := by
  unfold set
  rw [require_bind_eq_ok, Except.ok.injEq]

lemma prefixSet_eq_ok {pre k v : GoString} : prefixSet R B pre k v = .ok B' ↔
    validKey R k = true ∧ validKey R (pre ++ k) = true ∧ B.set (pre ++ k) v = B' := by
  unfold prefixSet
  rw [require_bind_eq_ok, set_eq_ok]

/-- The store with the record, the owner and the owner's index entry of a token. -/
def putToken (R : Records) (B : ByteStore) (c n : GoString) (t : NFT) (o : AccAddress) : ByteStore :=
  ((B.set (Key.nft c n).bytes (R.marshalNFT c n t)).set (Key.owner c n).bytes o).set
    (Key.byOwner o c n).bytes placeholder

/-- The store takes the keys that a token is written under. -/
structure KeysFit (R : Records) (c n : GoString) (o : AccAddress) : Prop where
  id : n ≠ []
  account : o.length ≤ 255
  length : o.length + c.length + n.length + 4 ≤ R.maxKeyLength

lemma length_bytes_byOwner : (Key.byOwner o c n).bytes.length = o.length + c.length + n.length + 4 := by
  simp only [Key.bytes, nftOfClassByOwnerStoreKey, lengthPrefix, delimiter, List.length_append, List.length_cons,
    List.length_nil]
  omega

lemma validKey_cons {b : UInt8} {k : GoString} : validKey R (b :: k) = true ↔ k.length + 1 ≤ R.maxKeyLength := by
  simp [validKey]

lemma validKey_bytes {a : Key} : validKey R a.bytes = true ↔ a.bytes.length ≤ R.maxKeyLength := by
  have hne : a.bytes ≠ [] := a.bytes_ne_nil
  simp [validKey, hne]

lemma setToken_eq_ok : setToken R B c n t o = .ok B' ↔ KeysFit R c n o ∧ putToken R B c n t o = B' := by
  simp only [setToken, setNFT, setOwner, bind_eq_ok, prefixSet_eq_ok, set_eq_ok, require_eq_ok]
  constructor
  · rintro ⟨B₁, ⟨hid, hnft, rfl⟩, B₂, ⟨howner, rfl⟩, -, hacc, -, hby, rfl⟩
    have hne : n ≠ [] := by
      rintro rfl
      cases hid
    have hlen : (Key.byOwner o c n).bytes.length ≤ R.maxKeyLength := validKey_bytes.mp hby
    rw [length_bytes_byOwner] at hlen
    exact ⟨⟨hne, hacc, hlen⟩, rfl⟩
  · rintro ⟨h, rfl⟩
    -- The index entry of the owner has the longest of the keys.
    have hby : validKey R (Key.byOwner o c n).bytes = true := by
      rw [validKey_bytes, length_bytes_byOwner]
      exact h.length
    have hid : validKey R n = true := by
      have hlen := h.length
      simp only [validKey, ne_eq, h.id, not_false_eq_true, decide_true, Bool.true_and, decide_eq_true_eq]
      omega
    have hshort : ∀ a : Key, a.bytes.length = c.length + n.length + 2 → validKey R a.bytes = true := by
      intro a ha
      have hlen := h.length
      rw [validKey_bytes]
      omega
    have hnft : validKey R (Key.nft c n).bytes = true := by
      apply hshort
      simp only [Key.bytes, nftStoreKey, delimiter, List.length_append, List.length_cons, List.length_nil]
      omega
    have howner : validKey R (Key.owner c n).bytes = true := by
      apply hshort
      simp only [Key.bytes, ownerStoreKey, delimiter, List.length_append, List.length_cons, List.length_nil]
      omega
    exact ⟨_, ⟨hid, hnft, rfl⟩, _, ⟨howner, rfl⟩, (), h.account, hid, hby, rfl⟩

lemma get?_putToken_of_head {k : GoString} (h₂ : k.head? ≠ some 0x02) (h₃ : k.head? ≠ some 0x03)
    (h₄ : k.head? ≠ some 0x04) : (putToken R B c n t o).get? k = B.get? k := by
  have hne : ∀ a : Key, k.head? ≠ some a.kind → k ≠ a.bytes := by
    rintro a ha rfl
    exact ha a.head?_bytes
  unfold putToken
  rw [KVStore.get?_set_of_ne _ _ (hne (.byOwner o c n) h₃), KVStore.get?_set_of_ne _ _ (hne (.owner c n) h₄),
    KVStore.get?_set_of_ne _ _ (hne (.nft c n) h₂)]

lemma getTotalSupply_putToken (c' : GoString) : getTotalSupply (putToken R B c n t o) c' = getTotalSupply B c' := by
  unfold getTotalSupply KVStore.get
  rw [get?_putToken_of_head (by simp [classTotalSupply]) (by simp [classTotalSupply]) (by simp [classTotalSupply])]

end

end NftStore

end Uptick.Collection
