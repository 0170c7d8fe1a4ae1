import Uptick.Collection.Types

/-!
# The token ledger below x/collection

The records of the SDK's x/nft module and its keeper. The keeper is not part of this repository: it is
a parameter, with what its documentation says each operation needs and does. Its error texts are left
open.
-/

namespace Uptick.Collection

open Text

/-- The payload of a record: missing, not readable as the type expected there, or readable. -/
inductive Payload (α : Type)
  | absent
  | unreadable (err : GoString)
  | value (a : α)
  deriving DecidableEq, Repr

structure NFTMetadata where
  name : GoString
  data : GoString
  deriving DecidableEq, Repr

def NFTMetadata.zero : NFTMetadata := ⟨[], []⟩

structure DenomMetadata where
  creator : GoString
  schema : GoString
  mintRestricted : Bool
  updateRestricted : Bool
  data : GoString
  deriving DecidableEq, Repr

def DenomMetadata.zero : DenomMetadata := ⟨[], [], false, false, []⟩

/-- `nft.NFT` without the ids, which are its key. -/
structure NFT where
  uri : GoString
  uriHash : GoString
  data : Payload NFTMetadata
  deriving DecidableEq, Repr

/-- `nft.Class` without its id. -/
structure Class where
  name : GoString
  symbol : GoString
  description : GoString
  uri : GoString
  uriHash : GoString
  data : Payload DenomMetadata
  deriving DecidableEq, Repr

structure Held where
  nft : NFT
  owner : AccAddress
  deriving DecidableEq, Repr

/-- The classes by class id, and the tokens by class id and token id. -/
@[ext]
structure NftLedger where
  getClass : GoString → Option Class
  held : GoString → GoString → Option Held

namespace NftLedger

def empty : NftLedger := ⟨fun _ => none, fun _ _ => none⟩

def hasClass (L : NftLedger) (classID : GoString) : Bool := (L.getClass classID).isSome

def getNFT (L : NftLedger) (classID nftID : GoString) : Option NFT := (L.held classID nftID).map (·.nft)

def hasNFT (L : NftLedger) (classID nftID : GoString) : Bool := (L.held classID nftID).isSome

/-- The owner, the empty address for a token that does not exist. -/
def getOwner (L : NftLedger) (classID nftID : GoString) : AccAddress :=
  ((L.held classID nftID).map (·.owner)).getD []

def put (L : NftLedger) (classID nftID : GoString) (h : Option Held) : NftLedger :=
  { L with held := fun c n => if c = classID ∧ n = nftID then h else L.held c n }

def putClass (L : NftLedger) (classID : GoString) (cl : Class) : NftLedger :=
  { L with getClass := fun c => if c = classID then some cl else L.getClass c }

@[simp] lemma getClass_put (L : NftLedger) (c n : GoString) (h : Option Held) :
    (L.put c n h).getClass = L.getClass := rfl

@[simp] lemma held_putClass (L : NftLedger) (c : GoString) (cl : Class) :
    (L.putClass c cl).held = L.held := rfl

@[simp] lemma held_put_self (L : NftLedger) (c n : GoString) (h : Option Held) :
    (L.put c n h).held c n = h := by
  simp [put]

lemma held_put_of_ne (L : NftLedger) {c n c' n' : GoString} (h : Option Held)
    (hne : (c', n') ≠ (c, n)) : (L.put c n h).held c' n' = L.held c' n' := by
  have : ¬(c' = c ∧ n' = n) := by
    intro ⟨h₁, h₂⟩
    exact hne (by rw [h₁, h₂])
  simp [put, this]

lemma getOwner_of_held {L : NftLedger} {c n : GoString} {h : Held} (hh : L.held c n = some h) :
    L.getOwner c n = h.owner := by
  simp [getOwner, hh]

lemma exists_held_of_getOwner {L : NftLedger} {c n : GoString} {o : AccAddress} (hne : o ≠ [])
    (h : L.getOwner c n = o) : ∃ t, L.held c n = some ⟨t, o⟩ := by
  unfold getOwner at h
  cases hh : L.held c n with
  | none =>
    rw [hh] at h
    exact absurd h.symm hne
  | some k =>
    rw [hh] at h
    simp only [Option.map_some, Option.getD_some] at h
    exact ⟨k.nft, by rw [← h]⟩

end NftLedger

/-- The keeper of x/nft. Each operation succeeds exactly when the class is there and the token is not
(for a mint), or when both are there, and then changes that one record. -/
structure NftKeeper where
  mint : NftLedger → GoString → GoString → NFT → AccAddress → Except Error NftLedger
  burn : NftLedger → GoString → GoString → Except Error NftLedger
  update : NftLedger → GoString → GoString → NFT → Except Error NftLedger
  transfer : NftLedger → GoString → GoString → AccAddress → Except Error NftLedger
  saveClass : NftLedger → GoString → Class → Except Error NftLedger
  updateClass : NftLedger → GoString → Class → Except Error NftLedger
  mint_eq_ok : ∀ {L c n t r L'}, mint L c n t r = .ok L' ↔
    L.hasClass c ∧ L.held c n = none ∧ L' = L.put c n (some ⟨t, r⟩)
  burn_eq_ok : ∀ {L c n L'}, burn L c n = .ok L' ↔
    L.hasClass c ∧ L.hasNFT c n ∧ L' = L.put c n none
  update_eq_ok : ∀ {L c n t L'}, update L c n t = .ok L' ↔
    L.hasClass c ∧ ∃ h, L.held c n = some h ∧ L' = L.put c n (some ⟨t, h.owner⟩)
  transfer_eq_ok : ∀ {L c n r L'}, transfer L c n r = .ok L' ↔
    L.hasClass c ∧ ∃ h, L.held c n = some h ∧ L' = L.put c n (some ⟨h.nft, r⟩)
  saveClass_eq_ok : ∀ {L c cl L'}, saveClass L c cl = .ok L' ↔
    L.getClass c = none ∧ L' = L.putClass c cl
  updateClass_eq_ok : ∀ {L c cl L'}, updateClass L c cl = .ok L' ↔
    L.hasClass c ∧ L' = L.putClass c cl

end Uptick.Collection
