import Uptick.Cw721.Convert
import Uptick.Erc721.ConvertSpec
import Uptick.Erc721.Naming

/-!
# What a successful conversion of x/cw721 did

The counterpart of the lemmas about x/erc721, for the rounds of the two loops.
-/

namespace Uptick.Cw721

open Text Outcome Collection

variable {C : Chain} {w w' : World C}

lemma decodeAcc_module (X : Extern) : X.decodeAcc (X.accString accModuleAddress) = .ok accModuleAddress :=
  X.decodeAcc_accString (by decide) (by decide)

lemma createNFTUID_ne_nil (K n : GoString) : createNFTUID K n ≠ [] := Erc721.createNFTUID_ne_nil K n

/-- The CW721 token of an NFT is handed out: a new one when nothing is bound under this spelling, the bound
one when exactly this NFT is, whoever holds it as long as the module account may move it. -/
structure ReleasesCW721 (w : World C) (c K t n receiver : GoString) (contract : AccAddress)
    (wasm' : C.wasm.State) : Prop where
  contract_eq : C.decodeAcc c = .ok contract
  moved : C.wasm.Moved w.wasm wasm' contract t receiver
  source : getNFTPairByContractTokenID w.cw721 c t = [] ∧ C.wasm.owner w.wasm contract t = none ∨
    getNFTPairByContractTokenID w.cw721 c t = createNFTUID K n ∧
      (C.wasm.owner w.wasm contract t = some (C.accString accModuleAddress) ∨
        (C.wasm.owner w.wasm contract t).isSome = true ∧ C.wasm.approved w.wasm contract t accModuleAddress)

lemma releaseCW721_ok {msg : MsgConvertNFT} {t n uri : GoString} {wasm' : C.wasm.State}
    (h : releaseCW721 w msg t n uri = .ok wasm') :
    ∃ contract, ReleasesCW721 w msg.contractAddress msg.classId t n msg.receiver contract wasm' := by
  unfold releaseCW721 at h
  dsimp only at h
  split at h
  · next hnil =>
    obtain ⟨contract, hc, hmint⟩ := bind_eq_ok.mp h
    obtain ⟨hnone, hmoved⟩ := C.wasm.mint_ok hmint
    exact ⟨contract, hc, hmoved, .inl ⟨hnil, hnone⟩⟩
  · obtain ⟨hbound, h⟩ := require_bind_eq_ok.mp h
    obtain ⟨sender, hs, h⟩ := bind_eq_ok.mp h
    rw [decodeAcc_module, Except.ok.injEq] at hs
    subst hs
    obtain ⟨contract, hc, htransfer⟩ := bind_eq_ok.mp h
    obtain ⟨howner, hmoved⟩ := C.wasm.transferNft_ok htransfer
    exact ⟨contract, hc, hmoved, .inr ⟨hbound, howner⟩⟩

/-- One round of the way out: the sender's NFT goes to the module account unchanged, its token to the
receiver. -/
theorem cosmos2WasmRound_ok {msg : MsgConvertNFT} {ids : GoString × GoString}
    (h : cosmos2WasmRound msg w ids = .ok w') :
    ∃ sender token contract wasm', C.decodeAcc msg.sender = .ok sender ∧
      w.nft.held msg.classId ids.2 = some ⟨token, sender⟩ ∧
      ReleasesCW721 w msg.contractAddress msg.classId ids.1 ids.2 msg.receiver contract wasm' ∧
      w' = { w with nft := w.nft.put msg.classId ids.2 (some ⟨token, accModuleAddress⟩), wasm := wasm' } := by
  unfold cosmos2WasmRound at h
  obtain ⟨info, hinfo, h⟩ := bind_eq_ok.mp h
  obtain ⟨nft, hnft, h⟩ := bind_eq_ok.mp h
  obtain ⟨wasm', hwasm, h⟩ := bind_eq_ok.mp h
  obtain ⟨src, dst, token, denom, hs, hd, hheld, -, rfl⟩ := (Erc721.transferNFT_shown_eq_ok hinfo).mp hnft
  rw [decodeAcc_module, Except.ok.injEq] at hd
  subst hd
  obtain ⟨contract, hrel⟩ := releaseCW721_ok hwasm
  cases h
  exact ⟨src, token, contract, wasm', hs, hheld, ⟨hrel.contract_eq, hrel.moved, hrel.source⟩, rfl⟩

structure TakesCW721 (w : World C) (c t sender : GoString) (contract : AccAddress) (wasm' : C.wasm.State) :
    Prop where
  contract_eq : C.decodeAcc c = .ok contract
  owner : C.wasm.owner w.wasm contract t = some sender
  moved : C.wasm.Moved w.wasm wasm' contract t (C.accString accModuleAddress)

/-- The native NFT goes to the receiver: a new one when the token has no binding, the one at the module
account, unchanged, otherwise. -/
structure ReleasesNFT (w : World C) (c K t n receiver tokenUri : GoString) (recipient : AccAddress)
    (L' : NftLedger) : Prop where
  recipient_eq : C.decodeAcc receiver = .ok recipient
  source : getNFTPairByContractTokenID w.cw721 c t = [] ∧ n ≠ [] ∧ w.nft.held K n = none ∧
      L' = w.nft.put K n (some ⟨⟨tokenUri, [], .value ⟨[], []⟩⟩, recipient⟩) ∨
    getNFTPairByContractTokenID w.cw721 c t ≠ [] ∧ ∃ token, w.nft.held K n = some ⟨token, accModuleAddress⟩ ∧
      L' = w.nft.put K n (some ⟨token, recipient⟩)

lemma releaseNFT_ok {msg : MsgConvertCW721} {t n tokenUri : GoString} {L' : NftLedger}
    (h : releaseNFT w msg t n tokenUri = .ok L') :
    ∃ recipient, ReleasesNFT w msg.contractAddress msg.classId t n msg.receiver tokenUri recipient L' := by
  unfold releaseNFT at h
  split at h
  · next hnil =>
    obtain ⟨recipient, _, _, hr, -, -, -, -, hn, -, hnone, rfl⟩ := mintNFT_eq_ok.mp h
    exact ⟨recipient, hr, .inl ⟨hnil, hn, hnone, rfl⟩⟩
  · next hne =>
    split at h
    · cases h
    · next info hinfo =>
      obtain ⟨src, dst, token, denom, hs, hd, hheld, -, rfl⟩ := (Erc721.transferNFT_shown_eq_ok hinfo).mp h
      rw [decodeAcc_module, Except.ok.injEq] at hs
      subst hs
      exact ⟨dst, hd, .inr ⟨hne, token, hheld, rfl⟩⟩

theorem wasm2CosmosRound_ok {msg : MsgConvertCW721} {ids : GoString × GoString}
    (h : wasm2CosmosRound msg w ids = .ok w') :
    ∃ contract wasm' recipient uri L', TakesCW721 w msg.contractAddress ids.1 msg.sender contract wasm' ∧
      ReleasesNFT w msg.contractAddress msg.classId ids.1 ids.2 msg.receiver uri recipient L' ∧
      w' = { w with wasm := wasm', nft := L' } := by
  unfold wasm2CosmosRound at h
  obtain ⟨info, hinfo, h⟩ := bind_eq_ok.mp h
  obtain ⟨wasm', htake, h⟩ := bind_eq_ok.mp h
  obtain ⟨L', hnft, h⟩ := bind_eq_ok.mp h
  cases h
  obtain ⟨contract, hc, hquery⟩ := bind_eq_ok.mp hinfo
  obtain ⟨⟨-, howner⟩, htake⟩ := require_bind_eq_ok.mp htake
  obtain ⟨sender, -, htake⟩ := bind_eq_ok.mp htake
  obtain ⟨contract', hc', htransfer⟩ := bind_eq_ok.mp htake
  obtain rfl : contract = contract' := Except.ok.inj (hc.symm.trans hc')
  obtain ⟨recipient, hrel⟩ := releaseNFT_ok hnft
  refine ⟨contract, wasm', recipient, info.tokenUri, L', ⟨hc, ?_, (C.wasm.transferNft_ok htransfer).2⟩,
    ⟨hrel.recipient_eq, hrel.source⟩, rfl⟩
  rw [← howner]
  exact C.wasm.owner_of_allNftInfo hquery

end Uptick.Cw721
