import Uptick.Extern

/-!
# ERC721 contracts

What x/erc721 asks of the EVM and of the ERC721 contracts it hosts. Neither is part of this repository:
the calls are a parameter, and a conforming contract is one whose calls do what the ERC-721 standard
says. A call that fails leaves the state as it was. A receiver's `onERC721Received` hook may refuse a
token and does nothing else.
-/

namespace Uptick.Evm

open Text

/-- `types.NFTEnhance`, the answer of `getNFTEnhanceInfo`. -/
structure NFTEnhance where
  name : GoString
  uri : GoString
  data : GoString
  uriHash : GoString
  deriving DecidableEq, Repr

/-- `types.ClassEnhance`, the answer of `getClassEnhanceInfo`. -/
structure ClassEnhance where
  data : GoString
  description : GoString
  mintRestricted : Bool
  schema : GoString
  updateRestricted : Bool
  uri : GoString
  uriHash : GoString
  deriving DecidableEq, Repr

/-- The arguments of the constructor of `ERC721Uptick`. -/
structure CtorArgs where
  name : GoString
  symbol : GoString
  baseTokenURI : GoString
  data : GoString
  description : GoString
  mintRestricted : Bool
  schema : GoString
  updateRestricted : Bool
  uriHash : GoString
  deriving DecidableEq, Repr

/-- The calls of the EVM keeper. The first address of a call is the contract; `deploy`, `safeTransferFrom`
and `burn` also take the caller before it. Minting is always called by the module account.
`acceptsERC721` says whether an account takes a token it is sent: it has no code, or its hook agrees. -/
structure EvmCalls where
  State : Type
  sequence : State → Address → Except Error Nat
  hasCode : State → Address → Bool
  name : State → Address → Except Error GoString
  symbol : State → Address → Except Error GoString
  getClassEnhanceInfo : State → Address → Except Error ClassEnhance
  getNFTEnhanceInfo : State → Address → Nat → Except Error NFTEnhance
  tokenURI : State → Address → Nat → Except Error GoString
  ownerOf : State → Address → Nat → Except Error Address
  acceptsERC721 : State → Address → Bool
  deploy : State → Address → CtorArgs → Except Error State
  mintEnhance : State → Address → Address → Nat → NFTEnhance → Except Error State
  mint : State → Address → Address → Nat → GoString → Except Error State
  safeTransferFrom : State → Address → Address → Address → Address → Nat → Except Error State
  burn : State → Address → Address → Nat → Except Error State

namespace EvmCalls

variable (E : EvmCalls)

def owner (st : E.State) (contract : Address) (tokenID : Nat) : Option Address :=
  (E.ownerOf st contract tokenID).toOption

/-- One token has the given owner afterwards; no other token and no code changed. -/
structure Moved (st st' : E.State) (contract : Address) (tokenID : Nat) (o : Option Address) : Prop where
  owner_self : E.owner st' contract tokenID = o
  owner_other : ∀ c v, (c, v) ≠ (contract, tokenID) → E.owner st' c v = E.owner st c v
  code : E.hasCode st' = E.hasCode st

lemma owner_eq_some {st : E.State} {c : Address} {v : Nat} {o : Address} :
    E.owner st c v = some o ↔ E.ownerOf st c v = .ok o := by
  unfold owner
  cases E.ownerOf st c v <;> simp [Except.toOption]

/-- Calls that the standard allows do not fail: an owner sends its token to every account that takes it,
and destroys it. -/
structure Live : Prop where
  safeTransferFrom : ∀ {st c src dst v}, E.owner st c v = some src → E.acceptsERC721 st dst = true →
    ∃ st', E.safeTransferFrom st src c src dst v = .ok st'
  burn : ∀ {st c src v}, E.owner st c v = some src → ∃ st', E.burn st src c v = .ok st'

/-- A contract fails where nobody owns the token, and does not answer with the zero address. -/
def HasOwners : Prop := ∀ st c v, E.ownerOf st c v ≠ .ok zeroAddress

end EvmCalls

/-- The EVM with conforming contracts. -/
structure EvmKeeper (X : Extern) extends EvmCalls where
  /-- An address without code owns no tokens and answers no call. -/
  owner_of_no_code : ∀ {st c} (v : Nat), hasCode st c = false → toEvmCalls.owner st c v = none
  name_of_no_code : ∀ {st c n}, hasCode st c = false → name st c ≠ .ok n
  /-- A new contract stands at the address that the creator's sequence determines, which had no code. -/
  deploy_ok : ∀ {st creator args st'}, deploy st creator args = .ok st' → ∃ nonce,
    sequence st creator = .ok nonce ∧ hasCode st (X.createAddress creator nonce) = false ∧
      (∀ c, hasCode st' c = (c = X.createAddress creator nonce || hasCode st c)) ∧
      ∀ c v, toEvmCalls.owner st' c v = toEvmCalls.owner st c v
  /-- A mint creates a token that did not exist. -/
  mintEnhance_ok : ∀ {st c dst v info st'}, mintEnhance st c dst v info = .ok st' →
    toEvmCalls.owner st c v = none ∧ toEvmCalls.Moved st st' c v (some dst)
  mint_ok : ∀ {st c dst v uri st'}, mint st c dst v uri = .ok st' →
    toEvmCalls.owner st c v = none ∧ toEvmCalls.Moved st st' c v (some dst)
  /-- A transfer takes the token from the account it names, and the other account takes it. -/
  safeTransferFrom_ok : ∀ {st caller c src dst v st'},
    safeTransferFrom st caller c src dst v = .ok st' →
      toEvmCalls.owner st c v = some src ∧ acceptsERC721 st dst = true ∧
        toEvmCalls.Moved st st' c v (some dst)
  burn_ok : ∀ {st caller c v st'}, burn st caller c v = .ok st' → toEvmCalls.Moved st st' c v none

lemma EvmKeeper.hasCode_of_owner {X : Extern} (E : EvmKeeper X) {st : E.State} {c o : Address} {v : Nat}
    (h : E.owner st c v = some o) : E.hasCode st c = true := by
  cases hc : E.hasCode st c with
  | true => rfl
  | false =>
    rw [E.owner_of_no_code v hc] at h
    cases h

end Uptick.Evm
