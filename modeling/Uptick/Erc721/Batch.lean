import Uptick.Erc721.Bindings
import Uptick.Erc721.Registry
import Uptick.Lib.Exchange

/-!
# A batch as an exchange

The two loops of x/erc721 as exchanges between the native ledger and the EVM: on the way out NFTs go into
the custody of the module account and ERC721 tokens come out, on the way in it is the other way round.
-/

namespace Uptick.Erc721

open Text Evm Outcome Collection Exchange

variable {C : Chain}

def nftOwner (w : World C) (x : GoString × GoString) : Option AccAddress := (w.nft.held x.1 x.2).map (·.owner)

def ercOwner (w : World C) (x : Address × Nat) : Option Address := C.evm.owner w.evm x.1 x.2

lemma nftOwner_put_self (w : World C) (K n : GoString) (h : Held) :
    nftOwner { w with nft := w.nft.put K n (some h) } (K, n) = some h.owner := by
  simp [nftOwner]

lemma nftOwner_put_of_ne (w : World C) {K n : GoString} (h : Option Held) {x : GoString × GoString}
    (hne : x ≠ (K, n)) : nftOwner { w with nft := w.nft.put K n h } x = nftOwner w x := by
  unfold nftOwner
  rw [NftLedger.held_put_of_ne _ _ hne]

/-- The parts of the state that no loop of x/erc721 touches. -/
structure LoopFrame (w w' : World C) : Prop where
  erc721 : w'.erc721 = w.erc721
  cw721 : w'.cw721 = w.cw721
  wasm : w'.wasm = w.wasm
  getClass : w'.nft.getClass = w.nft.getClass
  code : C.evm.hasCode w'.evm = C.evm.hasCode w.evm

lemma LoopFrame.refl (w : World C) : LoopFrame w w := ⟨rfl, rfl, rfl, rfl, rfl⟩

lemma LoopFrame.trans {w w' w'' : World C} (h : LoopFrame w w') (h' : LoopFrame w' w'') : LoopFrame w w'' :=
  ⟨h'.erc721.trans h.erc721, h'.cw721.trans h.cw721, h'.wasm.trans h.wasm, h'.getClass.trans h.getClass,
    h'.code.trans h.code⟩

/-- NFTs of the sender go to the module account; a token bound under the contract text comes from there. -/
def outTerms (X : Extern) (st : Store) (c : GoString) (sender : AccAddress) (receiver : Address) :
    Terms (GoString × GoString) (Address × Nat) AccAddress Address where
  sender := sender
  receiver := receiver
  Custody := fun o => o = some accModuleAddress
  Releasable := fun o => o = moduleAddress
  Bound := fun x y => y.1 = hexToAddress c ∧ BoundUnder X st c y.2 x.1 x.2

/-- What a handed-out ERC721 token was: new, or bound to this NFT and at the module account. -/
lemma releaseERC721_ok {w : World C} {a receiver : Address} {K t n : GoString} {v : Nat} {info : BaseNFT}
    {evm' : C.evm.State} (hv : parseEVMTokenID t = .ok v)
    (h : releaseERC721 w a receiver a.lowerHex K t n v info = .ok evm') :
    C.evm.Moved w.evm evm' a v (some receiver) ∧
      (getNFTPairByContractTokenID C.toExtern w.erc721 a.lowerHex t = [] ∧ C.evm.owner w.evm a v = none ∨
        BoundUnder C.toExtern w.erc721 a.lowerHex v K n ∧ C.evm.owner w.evm a v = some moduleAddress) := by
  rcases releaseERC721_eq_ok.mp h with ⟨hnil, hmint⟩ | ⟨hbound, howner, htransfer⟩
  · obtain ⟨hnone, hmoved⟩ := mintERC721_ok hmint
    exact ⟨hmoved, .inl ⟨hnil, hnone⟩⟩
  · rw [hexToAddress_lowerHex] at howner
    exact ⟨(C.evm.safeTransferFrom_ok htransfer).2.2, .inr ⟨boundUnder_of_resolve hv hbound, howner⟩⟩

theorem cosmos2EvmRound_round {w w' : World C} {a receiver : Address} {msg : MsgConvertNFT} {sender : AccAddress}
    (hsender : C.decodeAcc msg.cosmosSender = .ok sender) {ids : GoString × GoString}
    (h : cosmos2EvmRound a receiver a.lowerHex msg w ids = .ok w') :
    LoopFrame w w' ∧
      Round (outTerms C.toExtern w.erc721 a.lowerHex sender receiver) (msg.classId, ids.2) (a, tokenValue ids.1)
        (nftOwner w) (nftOwner w') (ercOwner w) (ercOwner w') := by
  obtain ⟨v, s, token, denom, info, evm', hv, hs, hheld, -, -, hrel, rfl⟩ := cosmos2EvmRound_eq_ok.mp h
  obtain rfl : s = sender := Except.ok.inj (hs.symm.trans hsender)
  obtain ⟨hmoved, hsource⟩ := releaseERC721_ok hv hrel
  rw [tokenValue_eq hv]
  refine ⟨⟨rfl, rfl, rfl, rfl, hmoved.code⟩, ?_⟩
  refine
    { given := by simp [nftOwner, hheld, outTerms]
      custody := nftOwner_put_self w msg.classId ids.2 ⟨token, accModuleAddress⟩
      given_other := fun x hx => nftOwner_put_of_ne w _ hx
      source := ?_
      received := hmoved.owner_self
      received_other := fun y hy => hmoved.owner_other y.1 y.2 hy }
  rcases hsource with ⟨-, hnone⟩ | ⟨hbound, howner⟩
  · exact .inl hnone
  · exact .inr ⟨⟨(hexToAddress_lowerHex a).symm, hbound⟩, moduleAddress, howner, rfl⟩

theorem cosmos2Evm_rounds {w w' : World C} {a receiver : Address} {msg : MsgConvertNFT} {sender : AccAddress}
    (hsender : C.decodeAcc msg.cosmosSender = .ok sender) {ids : List (GoString × GoString)}
    (h : forEach (cosmos2EvmRound a receiver a.lowerHex msg) w ids = .ok w') :
    LoopFrame w w' ∧ Rounds (outTerms C.toExtern w.erc721 a.lowerHex sender receiver)
      (ids.map fun x => ((msg.classId, x.2), (a, tokenValue x.1))) (nftOwner w) (ercOwner w) (nftOwner w')
      (ercOwner w') := by
  refine rounds_of_forEach (fun x => (msg.classId, x.2)) (fun x => (a, tokenValue x.1)) nftOwner ercOwner
    (fun s x t _ hs hst => ?_) (LoopFrame.refl w) h
  obtain ⟨hframe, hround⟩ := cosmos2EvmRound_round hsender hst
  rw [hs.erc721] at hround
  exact ⟨hs.trans hframe, hround⟩

/-- A successful `ConvertNFT` between its start and its end: preparations, a batch of exchanges over the
index they leave, and the index writes. -/
structure OutBatch (w w' : World C) (sender : AccAddress) (receiver : Address) (K : GoString) (w₁ : World C)
    (pair : TokenPair) (ids : List (GoString × GoString)) : Prop where
  prepares : Prepares w w₁
  pair_eq : getPairByClass w₁.erc721 K = .ok pair
  rounds : Rounds (outTerms C.toExtern w₁.erc721 pair.getERC721Contract.lowerHex sender receiver)
    (ids.map fun x => ((K, x.2), (pair.getERC721Contract, tokenValue x.1))) (nftOwner w) (ercOwner w)
    (nftOwner w') (ercOwner w')
  bound : bindPairs (C := C) w₁.erc721 pair.getERC721Contract.lowerHex K ids = .ok w'.erc721
  cw721 : w'.cw721 = w.cw721
  wasm : w'.wasm = w.wasm
  getClass : w'.nft.getClass = w₁.nft.getClass
  code : C.evm.hasCode w'.evm = C.evm.hasCode w₁.evm

lemma nftOwner_of_prepares {w w₁ : World C} (h : Prepares w w₁) : nftOwner w₁ = nftOwner w := by
  funext x
  rw [nftOwner, nftOwner, h.held]

lemma ercOwner_of_prepares {w w₁ : World C} (h : Prepares w w₁) : ercOwner w₁ = ercOwner w :=
  funext fun x => h.owner x.1 x.2

theorem convertNFT_batch {w w' : World C} {msg : MsgConvertNFT} {sender : AccAddress}
    (hsender : C.decodeAcc msg.cosmosSender = .ok sender) (h : convertNFT w msg = .ok w') :
    ∃ w₁ pair ids, OutBatch w w' sender (hexToAddress msg.evmReceiver) msg.classId w₁ pair ids ∧
      ∀ x ∈ ids, x.2 ∈ msg.cosmosTokenIds := by
  obtain ⟨w₁, pair, c, ids, steps⟩ := convertNFT_steps h
  obtain ⟨w₂, st, -, hloop, hbind, rfl⟩ := convertCosmos2Evm_eq_ok.mp steps.converted
  obtain ⟨hframe, hrounds⟩ := @cosmos2Evm_rounds C w₁ w₂ _ _
    { msg with evmContractAddress := c, evmTokenIds := ids } sender hsender _ hloop
  rw [nftOwner_of_prepares steps.prepares, ercOwner_of_prepares steps.prepares] at hrounds
  rw [hframe.erc721] at hbind
  refine ⟨w₁, pair, ids.zip msg.cosmosTokenIds, ?_, fun x hx => (List.of_mem_zip hx).2⟩
  exact
    { prepares := steps.prepares
      pair_eq := steps.pair_eq
      rounds := hrounds
      bound := hbind
      cw721 := hframe.cw721.trans steps.prepares.cw721
      wasm := hframe.wasm.trans steps.prepares.wasm
      getClass := hframe.getClass
      code := hframe.code }

/-- ERC721 tokens of the sender go to the module account, or are burned for a voucher class; a bound NFT
comes from there. -/
def inTerms (X : Extern) (st : Store) (c K : GoString) (sender : Address) (receiver : AccAddress) :
    Terms (Address × Nat) (GoString × GoString) Address AccAddress where
  sender := sender
  receiver := receiver
  Custody := fun o => o = if isIBCDenom K then none else some moduleAddress
  Releasable := fun o => o = accModuleAddress
  Bound := fun x y => x.1 = hexToAddress c ∧ BoundUnder X st c x.2 y.1 y.2

lemma takeERC721_ok {w : World C} {pair : TokenPair} {sender : Address} {t : GoString} {v : Nat}
    {evm' : C.evm.State} (h : takeERC721 w pair sender t v = .ok evm') :
    C.evm.owner w.evm pair.getERC721Contract v = some sender ∧
      C.evm.Moved w.evm evm' pair.getERC721Contract v
        (if isIBCDenom pair.classId then none else some moduleAddress) := by
  obtain ⟨howner, ⟨hibc, hburn⟩ | ⟨hibc, htransfer⟩⟩ := takeERC721_eq_ok.mp h
  · rw [hibc, if_pos rfl]
    exact ⟨howner, C.evm.burn_ok hburn⟩
  · rw [hibc, if_neg (by simp)]
    exact ⟨howner, (C.evm.safeTransferFrom_ok htransfer).2.2⟩

theorem evm2CosmosRound_round {w w' : World C} {pair : TokenPair} {msg : MsgConvertERC721} {sender : Address}
    {recipient : AccAddress} {ids : GoString × GoString} (hrecipient : C.decodeAcc msg.cosmosReceiver = .ok recipient)
    (hpair : pair.getERC721Contract = hexToAddress msg.evmContractAddress)
    (hbound : getNFTPairByContractTokenID C.toExtern w.erc721 msg.evmContractAddress ids.1 = [] ∨
      getNFTPairByContractTokenID C.toExtern w.erc721 msg.evmContractAddress ids.1 =
        createNFTUID msg.classId ids.2)
    (h : evm2CosmosRound pair msg sender w ids = .ok w') :
    LoopFrame w w' ∧
      Round (inTerms C.toExtern w.erc721 msg.evmContractAddress pair.classId sender recipient)
        (pair.getERC721Contract, tokenValue ids.1) (msg.classId, ids.2) (ercOwner w) (ercOwner w') (nftOwner w)
        (nftOwner w') := by
  obtain ⟨v, info, evm', L', hv, -, htake, hrel, rfl⟩ := evm2CosmosRound_eq_ok.mp h
  obtain ⟨howner, hmoved⟩ := takeERC721_ok htake
  obtain ⟨r, denom, hr, -, hsource⟩ := releaseNFT_eq_ok.mp hrel
  obtain rfl : r = recipient := Except.ok.inj (hr.symm.trans hrecipient)
  rw [tokenValue_eq hv]
  rcases hsource with ⟨-, -, -, -, -, hnone, rfl⟩ | ⟨hne, token, m, hheld, -, -, rfl⟩
  · refine ⟨⟨rfl, rfl, rfl, rfl, hmoved.code⟩, ?_⟩
    exact
      { given := howner
        custody := hmoved.owner_self
        given_other := fun x hx => hmoved.owner_other x.1 x.2 hx
        source := .inl (by simpa [nftOwner] using hnone)
        received := by simp [nftOwner, inTerms]
        received_other := fun y hy => nftOwner_put_of_ne w _ hy }
  · refine ⟨⟨rfl, rfl, rfl, rfl, hmoved.code⟩, ?_⟩
    exact
      { given := howner
        custody := hmoved.owner_self
        given_other := fun x hx => hmoved.owner_other x.1 x.2 hx
        source := .inr ⟨⟨hpair, boundUnder_of_resolve hv (hbound.resolve_left hne)⟩, accModuleAddress,
          by simpa [nftOwner] using ⟨_, hheld, rfl⟩, rfl⟩
        received := by simp [nftOwner, inTerms]
        received_other := fun y hy => nftOwner_put_of_ne w _ hy }

theorem evm2Cosmos_rounds {w w' : World C} {pair : TokenPair} {msg : MsgConvertERC721} {sender : Address}
    {recipient : AccAddress} (hrecipient : C.decodeAcc msg.cosmosReceiver = .ok recipient)
    (hpair : pair.getERC721Contract = hexToAddress msg.evmContractAddress) {ids : List (GoString × GoString)}
    (hbound : ∀ x ∈ ids, getNFTPairByContractTokenID C.toExtern w.erc721 msg.evmContractAddress x.1 = [] ∨
      getNFTPairByContractTokenID C.toExtern w.erc721 msg.evmContractAddress x.1 = createNFTUID msg.classId x.2)
    (h : forEach (evm2CosmosRound pair msg sender) w ids = .ok w') :
    LoopFrame w w' ∧ Rounds (inTerms C.toExtern w.erc721 msg.evmContractAddress pair.classId sender recipient)
      (ids.map fun x => ((pair.getERC721Contract, tokenValue x.1), (msg.classId, x.2))) (ercOwner w) (nftOwner w)
      (ercOwner w') (nftOwner w') := by
  refine rounds_of_forEach (fun x => (pair.getERC721Contract, tokenValue x.1)) (fun x => (msg.classId, x.2))
    ercOwner nftOwner (fun s x t hx hs hst => ?_) (LoopFrame.refl w) h
  have hb := hbound x hx
  rw [← hs.erc721] at hb
  obtain ⟨hframe, hround⟩ := evm2CosmosRound_round hrecipient hpair hb hst
  rw [hs.erc721] at hround
  exact ⟨hs.trans hframe, hround⟩

structure InBatch (w w' : World C) (sender : Address) (recipient : AccAddress) (c K : GoString) (w₁ : World C)
    (pair : TokenPair) (ids : List (GoString × GoString)) : Prop where
  prepares : Prepares w w₁
  pair_eq : getPairByEVM C.toExtern w₁.erc721 c = .ok pair
  class_eq : pair.classId = K
  contract_eq : pair.getERC721Contract = hexToAddress c
  rounds : Rounds (inTerms C.toExtern w₁.erc721 c K sender recipient)
    (ids.map fun x => ((hexToAddress c, tokenValue x.1), (K, x.2))) (ercOwner w) (nftOwner w) (ercOwner w')
    (nftOwner w')
  registry : SameRegistry w₁.erc721 w'.erc721
  settled : isIBCDenom K = false → bindPairs (C := C) w₁.erc721 c K ids = .ok w'.erc721
  cw721 : w'.cw721 = w.cw721
  wasm : w'.wasm = w.wasm
  getClass : w'.nft.getClass = w₁.nft.getClass
  code : C.evm.hasCode w'.evm = C.evm.hasCode w₁.evm

theorem convertERC721_batch {w w' : World C} {msg : MsgConvertERC721} (hb : isBlank msg.classId = false)
    (hne : msg.evmTokenIds ≠ []) {sender recipient : AccAddress} (hsender : C.decodeAcc msg.cosmosSender = .ok sender)
    (hrecipient : C.decodeAcc msg.cosmosReceiver = .ok recipient)
    (hreg : RegistryConsistent C.toExtern w.erc721) {res : MsgConvertERC721Response}
    (h : convertERC721 w msg = .ok (w', res)) :
    ∃ w₁ pair ns, InBatch w w' (evmAddress sender) recipient (canonicalContractAddress msg.evmContractAddress)
        msg.classId w₁ pair (msg.evmTokenIds.zip ns) ∧
      NamesAll (getNFTPairByContractTokenID C.toExtern w.erc721
        (canonicalContractAddress msg.evmContractAddress)) msg.classId msg.evmTokenIds msg.cosmosTokenIds ns ∧
      res = convertERC721Response C.toExtern msg ns sender := by
  obtain ⟨ns, s, w₁, pair, steps, hres⟩ := (convertERC721_eq_ok hb hne).mp h
  obtain rfl : s = sender := Except.ok.inj (steps.sender_eq.symm.trans hsender)
  obtain ⟨w₂, st, -, hcheck, hloop, hsettle, rfl⟩ := convertEvm2Cosmos_eq_ok.mp steps.converted
  have hprep : Prepares w w₁ := ensureRegisteredERC721_prepares steps.registered
  have hpair : pair.getERC721Contract = hexToAddress (canonicalContractAddress msg.evmContractAddress) :=
    @contract_of_registered C w w₁ (msg.resolved msg.classId ns) _ pair hreg steps.registered steps.pair_eq
  rw [validateNoMappingConflict_eq_ok] at hcheck
  obtain ⟨hframe, hrounds⟩ := @evm2Cosmos_rounds C w₁ w₂ pair (msg.resolved msg.classId ns) _ recipient hrecipient
    hpair _ (fun x hx => (checkNoMappingConflict_eq_ok.mp (hcheck x hx)).imp_right fun h => h.1) hloop
  rw [nftOwner_of_prepares hprep, ercOwner_of_prepares hprep, hpair, steps.class_eq] at hrounds
  rw [hframe.erc721] at hsettle
  refine ⟨w₁, pair, ns, ?_, steps.named, hres⟩
  exact
    { prepares := hprep
      pair_eq := steps.pair_eq
      class_eq := steps.class_eq
      contract_eq := hpair
      rounds := hrounds
      registry := sameRegistry_settleIndex hsettle
      settled := by
        intro hibc
        rw [settleIndex, if_neg (by simp [steps.class_eq, hibc])] at hsettle
        exact hsettle
      cw721 := hframe.cw721.trans hprep.cw721
      wasm := hframe.wasm.trans hprep.wasm
      getClass := hframe.getClass
      code := hframe.code }

end Uptick.Erc721
