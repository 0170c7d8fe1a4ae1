import Uptick.Collection.BuilderSpec

/-!
# The keeper that nft-transfer calls

`x/internft/keeper.go`: nft-transfer reads and writes the native ledger through this adapter only. It hands over the
class and token data of packets as they came, so a call may have any arguments.
-/

namespace Uptick.Internft

open Text Outcome Collection

section

variable (X : Extern) (nk : NftKeeper)

def bareClass (classURI : GoString) : Collection.Class :=
  ⟨[], [], [], classURI, [], .value ⟨X.accString Collection.accModuleAddress, [], true, true, []⟩⟩

/-- The class that a packet describes. -/
def packetClass (classURI classData : GoString) : Except Error Collection.Class :=
  if classData.length ≠ 0 then ClassBuilder.build X classURI classData else .ok (bareClass X classURI)

def createOrUpdateClass (L : NftLedger) (classID classURI classData : GoString) : Except Error NftLedger := do
  let class_ ← packetClass X classURI classData
  if L.hasClass classID then nk.updateClass L classID class_
  else nk.saveClass L classID class_

def mint (L : NftLedger) (classID tokenID tokenURI tokenData : GoString) (receiver : AccAddress) :
    Except Error NftLedger := do
  let token ← TokenBuilder.build tokenURI tokenData
  nk.mint L classID tokenID token receiver

def transfer (L : NftLedger) (classID tokenID tokenData : GoString) (receiver : AccAddress) :
    Except Error NftLedger := do
  let L ← nk.transfer L classID tokenID receiver
  if tokenData.length = 0 then .ok L
  else
    match L.getNFT classID tokenID with
    | none => .ok L
    | some nft => do
      let token ← TokenBuilder.build nft.uri tokenData
      nk.update L classID tokenID token

/-- A token that is gone is skipped; one that is bound to a contract token stays. -/
def burn (converted : GoString → GoString → Bool) (L : NftLedger) (classID tokenID : GoString) :
    Except Error NftLedger :=
  if L.hasNFT classID tokenID = false then .ok L
  else do
    require (converted classID tokenID = false) (wrapf .nftBoundToContract
      "nft %s/%s is paired with a contract token; convert it back (un-wrap) before transferring it over ICS-721"
      [.s classID, .s tokenID])
    nk.burn L classID tokenID

end

/-- The calls that write. -/
inductive Call
  | createOrUpdateClass (classID classURI classData : GoString)
  | mint (classID tokenID tokenURI tokenData : GoString) (receiver : AccAddress)
  | transfer (classID tokenID tokenData : GoString) (receiver : AccAddress)
  | burn (classID tokenID : GoString)
  deriving DecidableEq

/-- A call, with the answer of the `ConvertedNFTChecker` that the application wires in. -/
def Call.run (X : Extern) (nk : NftKeeper) (converted : GoString → GoString → Bool) (L : NftLedger) :
    Call → Except Error NftLedger
  | .createOrUpdateClass classID classURI classData => Internft.createOrUpdateClass X nk L classID classURI classData
  | .mint classID tokenID tokenURI tokenData receiver =>
    Internft.mint nk L classID tokenID tokenURI tokenData receiver
  | .transfer classID tokenID tokenData receiver => Internft.transfer nk L classID tokenID tokenData receiver
  | .burn classID tokenID => Internft.burn nk converted L classID tokenID

variable {X : Extern} {nk : NftKeeper} {L L' : NftLedger} {c n : GoString}

lemma createOrUpdateClass_ok {uri data : GoString} (h : createOrUpdateClass X nk L c uri data = .ok L') :
    ∃ cl, packetClass X uri data = .ok cl ∧ L' = L.putClass c cl := by
  obtain ⟨cl, hcl, h⟩ := bind_eq_ok.mp h
  refine ⟨cl, hcl, ?_⟩
  split at h
  · exact (nk.updateClass_eq_ok.mp h).2
  · exact (nk.saveClass_eq_ok.mp h).2

lemma mint_ok {uri data : GoString} {receiver : AccAddress} (h : mint nk L c n uri data receiver = .ok L') :
    ∃ token, TokenBuilder.build uri data = .ok token ∧ L.hasClass c = true ∧ L.held c n = none ∧
      L' = L.put c n (some ⟨token, receiver⟩) := by
  obtain ⟨token, htoken, h⟩ := bind_eq_ok.mp h
  exact ⟨token, htoken, nk.mint_eq_ok.mp h⟩

lemma transfer_ok {data : GoString} {receiver : AccAddress} (h : transfer nk L c n data receiver = .ok L') :
    ∃ token owner token', L.held c n = some ⟨token, owner⟩ ∧
      (data = [] ∧ token' = token ∨ data ≠ [] ∧ TokenBuilder.build token.uri data = .ok token') ∧
      L' = L.put c n (some ⟨token', receiver⟩) := by
  obtain ⟨L₁, hmove, h⟩ := bind_eq_ok.mp h
  obtain ⟨-, ⟨token, owner⟩, hheld, rfl⟩ := nk.transfer_eq_ok.mp hmove
  dsimp only at h
  split at h
  · next hlen =>
    cases h
    exact ⟨token, owner, token, hheld, .inl ⟨List.length_eq_zero_iff.mp hlen, rfl⟩, rfl⟩
  · next hlen =>
    have hget : (L.put c n (some ⟨token, receiver⟩)).getNFT c n = some token := by
      rw [NftLedger.getNFT, NftLedger.held_put_self]
      rfl
    rw [hget] at h
    obtain ⟨token', htoken, h⟩ := bind_eq_ok.mp h
    obtain ⟨-, h', hheld', rfl⟩ := nk.update_eq_ok.mp h
    rw [NftLedger.held_put_self, Option.some.injEq] at hheld'
    subst hheld'
    exact ⟨token, owner, token', hheld, .inr ⟨fun hnil => hlen (by rw [hnil]; rfl), htoken⟩, put_put L c n _ _⟩

lemma burn_ok {converted : GoString → GoString → Bool} (h : burn nk converted L c n = .ok L') :
    L.held c n = none ∧ L' = L ∨ converted c n = false ∧ L' = L.put c n none := by
  unfold burn at h
  split at h
  · next hgone =>
    exact .inl ⟨by simpa [NftLedger.hasNFT] using hgone, (Except.ok.inj h).symm⟩
  · obtain ⟨hfree, h⟩ := require_bind_eq_ok.mp h
    exact .inr ⟨hfree, (nk.burn_eq_ok.mp h).2.2⟩

end Uptick.Internft
