import Uptick.Cw721.HandlerSpec
import Uptick.Erc721.Batch

/-!
# A batch of x/cw721 as an exchange

The two loops as exchanges between the native ledger and the wasm contracts. On the way out the source of
a bound token is open: the module account moves it from whoever holds it.
-/

namespace Uptick.Cw721

open Text Outcome Collection Exchange Erc721

variable {C : Chain}

/-- The owners of the CW721 tokens, by contract and id, as the contracts spell them. -/
def cwOwner (w : World C) (x : AccAddress × GoString) : Option GoString := C.wasm.owner w.wasm x.1 x.2

/-- The forward index has the NFT under the token id and some spelling of the contract. -/
def ForwardBinds (X : Extern) (st : Store) (c : AccAddress) (t K n : GoString) : Prop :=
  ∃ text, st.byTokenUID.get? (createTokenUID text t) = some (createNFTUID K n) ∧ X.decodeAcc text = .ok c

lemma forwardBinds_of_get {X : Extern} {st : Store} {c t K n : GoString} {contract : AccAddress}
    (hc : X.decodeAcc c = .ok contract) (h : getNFTPairByContractTokenID st c t = createNFTUID K n) :
    ForwardBinds X st contract t K n := by
  exact ⟨c, KVStore.get?_of_get h (createNFTUID_ne_nil K n), hc⟩

/-- The parts of the state that no loop of x/cw721 touches. -/
structure LoopFrame (w w' : World C) : Prop where
  erc721 : w'.erc721 = w.erc721
  cw721 : w'.cw721 = w.cw721
  evm : w'.evm = w.evm
  getClass : w'.nft.getClass = w.nft.getClass

lemma LoopFrame.refl (w : World C) : LoopFrame w w := ⟨rfl, rfl, rfl, rfl⟩

lemma LoopFrame.trans {w w' w'' : World C} (h : LoopFrame w w') (h' : LoopFrame w' w'') : LoopFrame w w'' :=
  ⟨h'.erc721.trans h.erc721, h'.cw721.trans h.cw721, h'.evm.trans h.evm, h'.getClass.trans h.getClass⟩

/-- NFTs of the sender go to the module account; a bound token may come from anybody. -/
def outTerms (X : Extern) (st : Store) (sender : AccAddress) (receiver : GoString) :
    Terms (GoString × GoString) (AccAddress × GoString) AccAddress GoString where
  sender := sender
  receiver := receiver
  Custody := fun o => o = some accModuleAddress
  Releasable := fun _ => True
  Bound := fun x y => ForwardBinds X st y.1 y.2 x.1 x.2

theorem cosmos2WasmRound_round {w w' : World C} {msg : MsgConvertNFT} {sender contract : AccAddress}
    (hsender : C.decodeAcc msg.sender = .ok sender) (hcontract : C.decodeAcc msg.contractAddress = .ok contract)
    {ids : GoString × GoString} (h : cosmos2WasmRound msg w ids = .ok w') :
    LoopFrame w w' ∧ Round (outTerms C.toExtern w.cw721 sender msg.receiver) (msg.classId, ids.2)
      (contract, ids.1) (nftOwner w) (nftOwner w') (cwOwner w) (cwOwner w') := by
  obtain ⟨s, token, c, wasm', hs, hheld, hrel, rfl⟩ := cosmos2WasmRound_ok h
  obtain rfl : s = sender := Except.ok.inj (hs.symm.trans hsender)
  obtain rfl : c = contract := Except.ok.inj (hrel.contract_eq.symm.trans hcontract)
  refine ⟨⟨rfl, rfl, rfl, rfl⟩, ?_⟩
  refine
    { given := by simp [nftOwner, hheld, outTerms]
      custody := nftOwner_put_self w msg.classId ids.2 ⟨token, accModuleAddress⟩
      given_other := fun x hx => nftOwner_put_of_ne w _ hx
      source := ?_
      received := hrel.moved.owner_self
      received_other := fun y hy => hrel.moved.owner_other y.1 y.2 hy }
  rcases hrel.source with ⟨-, hnone⟩ | ⟨hbound, howner⟩
  · exact .inl hnone
  · have hfwd := forwardBinds_of_get hcontract hbound
    rcases howner with howner | ⟨hsome, -⟩
    · exact .inr ⟨hfwd, _, howner, trivial⟩
    · obtain ⟨o, ho⟩ := Option.isSome_iff_exists.mp hsome
      exact .inr ⟨hfwd, o, ho, trivial⟩

theorem cosmos2Wasm_rounds {w w' : World C} {msg : MsgConvertNFT} {sender contract : AccAddress}
    (hsender : C.decodeAcc msg.sender = .ok sender) (hcontract : C.decodeAcc msg.contractAddress = .ok contract)
    {ids : List (GoString × GoString)} (h : forEach (cosmos2WasmRound msg) w ids = .ok w') :
    LoopFrame w w' ∧ Rounds (outTerms C.toExtern w.cw721 sender msg.receiver)
      (ids.map fun x => ((msg.classId, x.2), (contract, x.1))) (nftOwner w) (cwOwner w) (nftOwner w')
      (cwOwner w') := by
  refine rounds_of_forEach (fun x => (msg.classId, x.2)) (fun x => (contract, x.1)) nftOwner cwOwner
    (fun s x t _ hs hst => ?_) (LoopFrame.refl w) h
  obtain ⟨hframe, hround⟩ := cosmos2WasmRound_round hsender hcontract hst
  rw [hs.cw721] at hround
  exact ⟨hs.trans hframe, hround⟩

lemma decodeAcc_of_cosmos2WasmRound {w w' : World C} {msg : MsgConvertNFT} {ids : GoString × GoString}
    (h : cosmos2WasmRound msg w ids = .ok w') : ∃ contract, C.decodeAcc msg.contractAddress = .ok contract := by
  obtain ⟨_, _, c, _, -, -, hrel, -⟩ := cosmos2WasmRound_ok h
  exact ⟨c, hrel.contract_eq⟩

/-- CW721 tokens of the sender go to the module account; a bound NFT comes from there. -/
def inTerms (X : Extern) (st : Store) (sender : GoString) (receiver : AccAddress) :
    Terms (AccAddress × GoString) (GoString × GoString) GoString AccAddress where
  sender := sender
  receiver := receiver
  Custody := fun o => o = some (X.accString accModuleAddress)
  Releasable := fun o => o = accModuleAddress
  Bound := fun x y => ForwardBinds X st x.1 x.2 y.1 y.2

theorem wasm2CosmosRound_round {w w' : World C} {msg : MsgConvertCW721} {contract recipient : AccAddress}
    {ids : GoString × GoString} (hcontract : C.decodeAcc msg.contractAddress = .ok contract)
    (hrecipient : C.decodeAcc msg.receiver = .ok recipient)
    (hbound : getNFTPairByContractTokenID w.cw721 msg.contractAddress ids.1 = [] ∨
      getNFTPairByContractTokenID w.cw721 msg.contractAddress ids.1 = createNFTUID msg.classId ids.2)
    (h : wasm2CosmosRound msg w ids = .ok w') :
    LoopFrame w w' ∧ Round (inTerms C.toExtern w.cw721 msg.sender recipient) (contract, ids.1)
      (msg.classId, ids.2) (cwOwner w) (cwOwner w') (nftOwner w) (nftOwner w') := by
  obtain ⟨c, wasm', r, uri, L', htake, hrel, rfl⟩ := wasm2CosmosRound_ok h
  obtain rfl : c = contract := Except.ok.inj (htake.contract_eq.symm.trans hcontract)
  obtain rfl : r = recipient := Except.ok.inj (hrel.recipient_eq.symm.trans hrecipient)
  rcases hrel.source with ⟨-, -, hnone, rfl⟩ | ⟨hne, token, hheld, rfl⟩
  · refine ⟨⟨rfl, rfl, rfl, rfl⟩, ?_⟩
    exact
      { given := htake.owner
        custody := htake.moved.owner_self
        given_other := fun x hx => htake.moved.owner_other x.1 x.2 hx
        source := .inl (by simpa [nftOwner] using hnone)
        received := by simp [nftOwner, inTerms]
        received_other := fun y hy => nftOwner_put_of_ne w _ hy }
  · refine ⟨⟨rfl, rfl, rfl, rfl⟩, ?_⟩
    have hfwd := forwardBinds_of_get hcontract (hbound.resolve_left hne)
    exact
      { given := htake.owner
        custody := htake.moved.owner_self
        given_other := fun x hx => htake.moved.owner_other x.1 x.2 hx
        source := .inr ⟨hfwd, accModuleAddress, by simpa [nftOwner] using ⟨_, hheld, rfl⟩, rfl⟩
        received := by simp [nftOwner, inTerms]
        received_other := fun y hy => nftOwner_put_of_ne w _ hy }

theorem wasm2Cosmos_rounds {w w' : World C} {msg : MsgConvertCW721} {contract recipient : AccAddress}
    (hcontract : C.decodeAcc msg.contractAddress = .ok contract)
    (hrecipient : C.decodeAcc msg.receiver = .ok recipient) {ids : List (GoString × GoString)}
    (hbound : ∀ x ∈ ids, getNFTPairByContractTokenID w.cw721 msg.contractAddress x.1 = [] ∨
      getNFTPairByContractTokenID w.cw721 msg.contractAddress x.1 = createNFTUID msg.classId x.2)
    (h : forEach (wasm2CosmosRound msg) w ids = .ok w') :
    LoopFrame w w' ∧ Rounds (inTerms C.toExtern w.cw721 msg.sender recipient)
      (ids.map fun x => ((contract, x.1), (msg.classId, x.2))) (cwOwner w) (nftOwner w) (cwOwner w')
      (nftOwner w') := by
  refine rounds_of_forEach (fun x => (contract, x.1)) (fun x => (msg.classId, x.2)) cwOwner nftOwner
    (fun s x t hx hs hst => ?_) (LoopFrame.refl w) h
  have hb := hbound x hx
  rw [← hs.cw721] at hb
  obtain ⟨hframe, hround⟩ := wasm2CosmosRound_round hcontract hrecipient hb hst
  rw [hs.cw721] at hround
  exact ⟨hs.trans hframe, hround⟩

end Uptick.Cw721
