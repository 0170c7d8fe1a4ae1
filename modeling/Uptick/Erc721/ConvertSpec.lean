import Uptick.Erc721.Refund

/-!
# What a successful conversion did

One lemma for each function of the message server that says exactly when it succeeds and with which
result. Everything proved about conversions later goes through these.
-/

namespace Uptick.Erc721

open Text Evm Outcome Collection

variable {C : Chain} {w w' : World C}

lemma decodeAcc_module (X : Extern) : X.decodeAcc (X.accString accModuleAddress) = .ok accModuleAddress :=
  X.decodeAcc_accString (by decide) (by decide)

lemma accModuleAddress_ne_nil : accModuleAddress ≠ [] := by decide

/-- A transfer that hands in the metadata a query shows does not change the record. -/
lemma movedToken_shown (token : NFT) : movedToken token ⟨(shownMetadata token.data).name, token.uri,
    token.uriHash, (shownMetadata token.data).data⟩ = .ok (false, token) := by
  have hmeta : tokenMetadataChanged token ⟨(shownMetadata token.data).name, token.uri, token.uriHash,
      (shownMetadata token.data).data⟩ = .ok false := by
    unfold tokenMetadataChanged
    cases hd : token.data with
    | absent => simp [shownMetadata, NFTMetadata.zero, modified]
    | unreadable err => simp [shownMetadata, NFTMetadata.zero, modified]
    | value m => simp [shownMetadata, unmarshal]
  have htoken : tokenChanged token ⟨(shownMetadata token.data).name, token.uri, token.uriHash,
      (shownMetadata token.data).data⟩ = false := by
    simp [tokenChanged]
  rw [movedToken, hmeta, ok_bind, htoken]
  rfl

/-- Moving an NFT with its own metadata: the source holds it, the class is readable, and only the owner
changes. -/
lemma transferNFT_shown_eq_ok {X : Extern} {nk : NftKeeper} {L L' : NftLedger} {K n sender recipient : GoString}
    {info : BaseNFT} (hinfo : getNFT X L K n = .ok info) :
    transferNFT X nk L ⟨n, K, ⟨info.name, info.uri, info.uriHash, info.data⟩, sender, recipient⟩ = .ok L' ↔
      ∃ src dst token denom, X.decodeAcc sender = .ok src ∧ X.decodeAcc recipient = .ok dst ∧
        L.held K n = some ⟨token, src⟩ ∧ getDenomInfo L K = .ok denom ∧ L' = L.put K n (some ⟨token, dst⟩) := by
  unfold getNFT NftLedger.getNFT at hinfo
  rw [transferNFT_eq_ok]
  cases hh : L.held K n with
  | none => simp [hh] at hinfo
  | some k =>
    simp only [hh, Option.map_some, Except.ok.injEq] at hinfo
    subst hinfo
    simp only [transferOwnership_eq_ok, hh]
    constructor
    · rintro ⟨src, dst, hs, hd, token, denom, m, hk, hden, hm, -, rfl⟩
      simp only [Option.some.injEq] at hk
      subst hk
      rw [movedToken_shown, Except.ok.injEq] at hm
      subst hm
      exact ⟨src, dst, token, denom, hs, hd, rfl, hden, rfl⟩
    · rintro ⟨src, dst, token, denom, hs, hd, hk, hden, rfl⟩
      simp only [Option.some.injEq] at hk
      subst hk
      exact ⟨src, dst, hs, hd, token, denom, _, rfl, hden, movedToken_shown token, by simp, rfl⟩

lemma exists_getNFT {X : Extern} {L : NftLedger} {K n : GoString} {h : Held} (hh : L.held K n = some h) :
    ∃ info, getNFT X L K n = .ok info ∧ info.name = (shownMetadata h.nft.data).name ∧ info.uri = h.nft.uri ∧
      info.data = (shownMetadata h.nft.data).data ∧ info.uriHash = h.nft.uriHash := by
  refine ⟨⟨n, (shownMetadata h.nft.data).name, h.nft.uri, (shownMetadata h.nft.data).data,
    X.accString (L.getOwner K n), h.nft.uriHash⟩, ?_, rfl, rfl, rfl, rfl⟩
  simp [getNFT, NftLedger.getNFT, hh]

lemma mintERC721_ok {evm evm' : C.evm.State} {contract receiver : Address} {v : Nat} {info : BaseNFT}
    (h : mintERC721 evm contract receiver v info = .ok evm') :
    C.evm.owner evm contract v = none ∧ C.evm.Moved evm evm' contract v (some receiver) := by
  unfold mintERC721 at h
  split at h
  · next evm'' he =>
    cases h
    exact C.evm.mintEnhance_ok he
  · exact C.evm.mint_ok h

/-- The token of an NFT is handed out: a new one when nothing is bound under its spellings, the escrowed
one when exactly this NFT is. -/
lemma releaseERC721_eq_ok {contract receiver : Address} {c K t n : GoString} {v : Nat} {info : BaseNFT}
    {evm' : C.evm.State} : releaseERC721 w contract receiver c K t n v info = .ok evm' ↔
      (getNFTPairByContractTokenID C.toExtern w.erc721 c t = [] ∧
          mintERC721 w.evm contract receiver v info = .ok evm') ∨
        (getNFTPairByContractTokenID C.toExtern w.erc721 c t = createNFTUID K n ∧
          C.evm.owner w.evm (hexToAddress c) v = some moduleAddress ∧
          C.evm.safeTransferFrom w.evm moduleAddress contract moduleAddress receiver v = .ok evm') := by
  unfold releaseERC721
  by_cases hf : getNFTPairByContractTokenID C.toExtern w.erc721 c t = []
  · have hne : ¬(getNFTPairByContractTokenID C.toExtern w.erc721 c t = createNFTUID K n) := by
      rw [hf]
      exact (createNFTUID_ne_nil K n).symm
    simp [hf, (createNFTUID_ne_nil K n).symm]
  · simp only [hf, if_false, false_and, false_or]
    rw [require_bind_eq_ok, bind_eq_ok]
    simp only [mapError_eq_ok]
    constructor
    · rintro ⟨hu, o, ho, h⟩
      obtain ⟨rfl, h⟩ := require_bind_eq_ok.mp h
      exact ⟨hu, (C.evm.owner_eq_some).mpr ho, h⟩
    · rintro ⟨hu, ho, h⟩
      refine ⟨hu, moduleAddress, (C.evm.owner_eq_some).mp ho, ?_⟩
      rw [require_bind_eq_ok]
      exact ⟨rfl, h⟩

/-- One round of the way out: the sender's NFT goes to the module account unchanged, its token to the
receiver. -/
theorem cosmos2EvmRound_eq_ok {contract receiver : Address} {c : GoString} {msg : MsgConvertNFT}
    {ids : GoString × GoString} : cosmos2EvmRound contract receiver c msg w ids = .ok w' ↔
      ∃ v sender token denom info evm', parseEVMTokenID ids.1 = .ok v ∧
        C.decodeAcc msg.cosmosSender = .ok sender ∧ w.nft.held msg.classId ids.2 = some ⟨token, sender⟩ ∧
        getDenomInfo w.nft msg.classId = .ok denom ∧ getNFT C.toExtern w.nft msg.classId ids.2 = .ok info ∧
        releaseERC721 { w with nft := w.nft.put msg.classId ids.2 (some ⟨token, accModuleAddress⟩) }
          contract receiver c msg.classId ids.1 ids.2 v info = .ok evm' ∧
        w' = { w with nft := w.nft.put msg.classId ids.2 (some ⟨token, accModuleAddress⟩), evm := evm' } := by
  unfold cosmos2EvmRound
  simp only [bind_eq_ok]
  constructor
  · rintro ⟨v, hv, info, hinfo, nft, hnft, evm', hevm, hw⟩
    obtain ⟨src, dst, token, denom, hs, hd, hheld, hden, rfl⟩ := (transferNFT_shown_eq_ok hinfo).mp hnft
    rw [decodeAcc_module, Except.ok.injEq] at hd
    subst hd
    cases hw
    exact ⟨v, src, token, denom, info, evm', hv, hs, hheld, hden, hinfo, hevm, rfl⟩
  · rintro ⟨v, src, token, denom, info, evm', hv, hs, hheld, hden, hinfo, hevm, rfl⟩
    refine ⟨v, hv, info, hinfo, _, (transferNFT_shown_eq_ok hinfo).mpr
      ⟨src, accModuleAddress, token, denom, hs, decodeAcc_module _, hheld, hden, rfl⟩, evm', hevm, rfl⟩

lemma takeERC721_eq_ok {pair : TokenPair} {sender : Address} {t : GoString} {v : Nat} {evm' : C.evm.State} :
    takeERC721 w pair sender t v = .ok evm' ↔
      C.evm.owner w.evm pair.getERC721Contract v = some sender ∧
        (isIBCDenom pair.classId = true ∧
            C.evm.burn w.evm sender pair.getERC721Contract v = .ok evm' ∨
          isIBCDenom pair.classId = false ∧ C.evm.safeTransferFrom w.evm sender pair.getERC721Contract sender
            moduleAddress v = .ok evm') := by
  unfold takeERC721
  rw [bind_eq_ok]
  simp only [mapError_eq_ok]
  constructor
  · rintro ⟨o, ho, h⟩
    obtain ⟨rfl, h⟩ := require_bind_eq_ok.mp h
    refine ⟨(C.evm.owner_eq_some).mpr ho, ?_⟩
    split at h
    · next hibc => exact .inl ⟨hibc, mapError_eq_ok.mp h⟩
    · next hibc => exact .inr ⟨by simpa using hibc, mapError_eq_ok.mp h⟩
  · rintro ⟨ho, h⟩
    refine ⟨sender, (C.evm.owner_eq_some).mp ho, ?_⟩
    rw [require_bind_eq_ok]
    refine ⟨rfl, ?_⟩
    rcases h with ⟨hibc, h⟩ | ⟨hibc, h⟩
    · rw [if_pos hibc]
      exact mapError_eq_ok.mpr h
    · rw [if_neg (by simp [hibc])]
      exact mapError_eq_ok.mpr h

/-- The native NFT is handed out: a new one when the token has no binding, the one at the module account,
with the contract's metadata merged in, otherwise. -/
lemma releaseNFT_eq_ok {msg : MsgConvertERC721} {t n : GoString} {info : NFTEnhance} {L' : NftLedger} :
    releaseNFT w msg t n info = .ok L' ↔ ∃ recipient denom,
      C.decodeAcc msg.cosmosReceiver = .ok recipient ∧ getDenomInfo w.nft msg.classId = .ok denom ∧
      ((getNFTPairByContractTokenID C.toExtern w.erc721 msg.evmContractAddress t = [] ∧
          ¬(denom.mintRestricted = true ∧ denom.creator ≠ C.accString accModuleAddress) ∧
          msg.classId ≠ [] ∧ n ≠ [] ∧ recipient ≠ [] ∧ w.nft.held msg.classId n = none ∧
          L' = w.nft.put msg.classId n (some ⟨⟨info.uri, info.uriHash, .value ⟨info.name, info.data⟩⟩, recipient⟩)) ∨
        (getNFTPairByContractTokenID C.toExtern w.erc721 msg.evmContractAddress t ≠ [] ∧
          ∃ token m, w.nft.held msg.classId n = some ⟨token, accModuleAddress⟩ ∧
            movedToken token ⟨info.name, info.uri, info.uriHash, info.data⟩ = .ok m ∧
            ¬(denom.updateRestricted = true ∧ m.1 = true) ∧
            L' = w.nft.put msg.classId n (some ⟨m.2, recipient⟩))) := by
  unfold releaseNFT
  by_cases hf : getNFTPairByContractTokenID C.toExtern w.erc721 msg.evmContractAddress t = []
  · simp only [hf, if_true, mapError_eq_ok, mintNFT_eq_ok, decodeAcc_module, Except.ok.injEq, true_and,
      ne_eq, not_true_eq_false, false_and, or_false]
    constructor
    · rintro ⟨recipient, sender, denom, hr, rfl, hd, hm, h₁, h₂, h₃, h₄, rfl⟩
      exact ⟨recipient, denom, hr, hd, hm, h₁, h₂, h₃, h₄, rfl⟩
    · rintro ⟨recipient, denom, hr, hd, hm, h₁, h₂, h₃, h₄, rfl⟩
      exact ⟨recipient, _, denom, hr, rfl, hd, hm, h₁, h₂, h₃, h₄, rfl⟩
  · simp only [hf, if_false, false_and, false_or, ne_eq, not_false_eq_true, true_and]
    rw [require_bind_eq_ok, mapError_eq_ok, transferNFT_eq_ok]
    simp only [decodeAcc_module, Except.ok.injEq, transferOwnership_eq_ok]
    constructor
    · rintro ⟨-, sender, recipient, rfl, hr, token, denom, m, hheld, hd, hm, hres, rfl⟩
      exact ⟨recipient, denom, hr, hd, token, m, hheld, hm, hres, rfl⟩
    · rintro ⟨recipient, denom, hr, hd, token, m, hheld, hm, hres, rfl⟩
      exact ⟨NftLedger.getOwner_of_held hheld, _, recipient, rfl, hr, token, denom, m, hheld, hd, hm, hres, rfl⟩

theorem evm2CosmosRound_eq_ok {pair : TokenPair} {msg : MsgConvertERC721} {sender : Address}
    {ids : GoString × GoString} : evm2CosmosRound pair msg sender w ids = .ok w' ↔
      ∃ v info evm' L', parseEVMTokenID ids.1 = .ok v ∧
        queryNFTEnhance w pair.getERC721Contract v = .ok info ∧ takeERC721 w pair sender ids.1 v = .ok evm' ∧
        releaseNFT { w with evm := evm' } msg ids.1 ids.2 info = .ok L' ∧
        w' = { w with evm := evm', nft := L' } := by
  unfold evm2CosmosRound
  simp only [bind_eq_ok, mapError_eq_ok]
  constructor
  · rintro ⟨v, hv, info, hinfo, evm', hevm, L', hL, hw⟩
    cases hw
    exact ⟨v, info, evm', L', hv, hinfo, hevm, hL, rfl⟩
  · rintro ⟨v, info, evm', L', hv, hinfo, hevm, hL, rfl⟩
    exact ⟨v, hv, info, hinfo, evm', hevm, L', hL, rfl⟩

end Uptick.Erc721
