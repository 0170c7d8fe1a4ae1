import Uptick.BoundExists

/-!
# Convert packets in flight

A packet that a conversion module sent carries NFTs of a class that is registered here, under the name of the class.
When it comes back, both nft-transfer and the module find that class.
-/

namespace Uptick

open Text Outcome Collection

variable {C : Chain} {w w' : World C}

namespace Erc721

lemma convertNFT_spares {msg : MsgConvertNFT} (h : convertNFT w msg = .ok w')
    (converted : GoString → GoString → Bool) : Spares converted w.nft w'.nft := by
  obtain ⟨w₁, pair, c, ids, steps, hnft⟩ := convertNFT_steps_nft h
  obtain ⟨w₂, st, -, hloop, -, rfl⟩ := convertCosmos2Evm_eq_ok.mp steps.converted
  have hfills := cosmos2Evm_fills hloop
  have hspares := hfills.spares converted
  rw [hnft] at hspares
  exact hspares

lemma convertERC721_spares {msg : MsgConvertERC721} (hb : isBlank msg.classId = false) (hne : msg.evmTokenIds ≠ [])
    {res : MsgConvertERC721Response} (h : convertERC721 w msg = .ok (w', res))
    (converted : GoString → GoString → Bool) : Spares converted w.nft w'.nft := by
  obtain ⟨ns, sender, w₁, pair, steps, -⟩ := (convertERC721_eq_ok hb hne).mp h
  obtain ⟨w₂, st, -, -, hloop, -, rfl⟩ := convertEvm2Cosmos_eq_ok.mp steps.converted
  have hfills := evm2Cosmos_fills hloop
  exact (ensureRegisteredERC721_spares steps.registered converted).trans (hfills.spares converted)

lemma Refunds.hasClass {K n : GoString} (h : Refunds K w n w') (K' : GoString) :
    w'.nft.hasClass K' = w.nft.hasClass K' := by
  have hburn : ∀ evm t c, (burnRefunded (cleared w evm K n t c) K n).nft.hasClass K' = w.nft.hasClass K' := by
    intro evm t c
    rw [burnRefunded_eq]
    split <;> rfl
  cases h with
  | skipped => rfl
  | returned => exact hburn _ _ _
  | dropped => exact hburn _ _ _

lemma settleIBCVoucherPairs_hasClass (w : World C) (K : GoString) :
    (settleIBCVoucherPairs w).world.nft.hasClass K = w.nft.hasClass K := by
  refine @settle_invariant C (fun s => s.world.nft.hasClass K = w.nft.hasClass K) w (fun s hs _ _ _ b _ => ?_)
    (fun s hs pair _ _ _ => hs) rfl
  rw [world_handle, ← hs]
  have hcases := settleVoucherBinding_handles s.world b
  generalize settleVoucherBinding s.world b = r at hcases
  cases hcases <;> rfl

end Erc721

namespace Cw721

lemma convertNFT_spares {msg : MsgConvertNFT} (h : convertNFT w msg = .ok w')
    (converted : GoString → GoString → Bool) : Spares converted w.nft w'.nft := by
  obtain ⟨w₁, c, ids, steps, hnft⟩ := convertNFT_steps_nft h
  obtain ⟨w₂, st, -, hloop, -, rfl⟩ := convertCosmos2Wasm_ok steps.converted
  have hfills := cosmos2Wasm_fills hloop
  have hspares := hfills.spares converted
  rw [hnft] at hspares
  exact hspares

lemma convertCW721_spares {msg : MsgConvertCW721} (hmsg : msg.Valid C.toExtern) {res : MsgConvertCW721Response}
    (h : convertCW721 w msg = .ok (w', res)) (converted : GoString → GoString → Bool) :
    Spares converted w.nft w'.nft := by
  obtain ⟨w₁, c, ns, pair, steps, -⟩ := convertCW721_steps hmsg h
  obtain ⟨w₂, st, hloop, -, rfl⟩ := convertWasm2Cosmos_ok steps.converted
  have hfills := wasm2Cosmos_fills hloop
  exact (ensureRegisteredCW721_spares steps.registered converted).trans (hfills.spares converted)

lemma Refunds.hasClass {K n : GoString} (h : Refunds K w n w') (K' : GoString) :
    w'.nft.hasClass K' = w.nft.hasClass K' := by
  have hburn : ∀ wasm t c, (burnRefunded (cleared w wasm K n t c) K n).nft.hasClass K' = w.nft.hasClass K' := by
    intro wasm t c
    rw [burnRefunded_eq]
    split <;> rfl
  cases h with
  | skipped => rfl
  | returned => exact hburn _ _ _
  | dropped => exact hburn _ _ _

end Cw721

lemma Ibc.onTimeoutPacket_hasClass {p : Packet} (h : onTimeoutPacket w p = .ok w') (K : GoString)
    (hK : w.nft.hasClass K = true) : w'.nft.hasClass K = true := by
  have hback : ∀ acc L, C.ics.refund w.nft p acc = .ok L → L.hasClass K = true := by
    intro acc L hL
    exact ((C.ics.refund_ok hL (C.ics.getVoucherClassID_eq _ _)).hasClass K).trans hK
  unfold onTimeoutPacket at h
  split at h
  · obtain ⟨_, -, h⟩ := bind_eq_ok.mp h
    obtain ⟨L, hL, h⟩ := bind_eq_ok.mp h
    cases h
    exact Erc721.refundPacketToken_invariant (fun _ _ _ _ hw hr => (hr.hasClass K).trans hw) (hback _ _ hL)
  · obtain ⟨_, -, h⟩ := bind_eq_ok.mp h
    obtain ⟨L, hL, h⟩ := bind_eq_ok.mp h
    cases h
    exact Cw721.refundPacketToken_invariant (fun _ _ _ _ hw hr => (hr.hasClass K).trans hw) (hback _ _ hL)
  · obtain ⟨_, -, h⟩ := bind_eq_ok.mp h
    obtain ⟨L, hL, h⟩ := bind_eq_ok.mp h
    cases h
    exact hback _ _ hL

/-- No step removes a class. -/
theorem Step.hasClass {s s' : System C} {op : Op C} (h : Step s op s') (K : GoString)
    (hK : s.world.nft.hasClass K = true) : s'.world.nft.hasClass K = true := by
  cases h with
  | collection _ h => exact (CollectionMsg.spares h).kept K hK
  | @convert _ _ _ msg valid h =>
    cases msg with
    | convertNFT msg => exact (Erc721.convertNFT_spares h fun _ _ => true).kept K hK
    | convertERC721 msg =>
      obtain ⟨⟨w₁, res⟩, hrun, rfl⟩ := map_eq_ok.mp h
      have hmsg := Erc721.MsgConvertERC721.validateBasic_eq_ok.mp valid
      exact (Erc721.convertERC721_spares hmsg.classId hmsg.nonempty hrun fun _ _ => true).kept K hK
    | convertNFTToCW721 msg => exact (Cw721.convertNFT_spares h fun _ _ => true).kept K hK
    | convertCW721 msg =>
      obtain ⟨⟨w₁, res⟩, hrun, rfl⟩ := map_eq_ok.mp h
      exact (Cw721.convertCW721_spares (Cw721.MsgConvertCW721.valid_of_validateBasic valid) hrun
        fun _ _ => true).kept K hK
  | @transferERC721 _ _ _ msg _ valid h =>
    obtain ⟨w₁, res, L, _, steps⟩ := Erc721.transferERC721_steps h
    obtain ⟨hb, hne⟩ := msg.classId_and_nonempty valid
    obtain ⟨-, _, -, hsent⟩ := C.ics.transfer_ok steps.sent
    rw [steps.world]
    exact (hsent.hasClass K).trans ((Erc721.convertERC721_spares hb hne steps.converted fun _ _ => true).kept K hK)
  | @transferCW721 _ _ _ msg _ valid h =>
    obtain ⟨w₁, c, res, L, steps⟩ := Cw721.transferCW721_steps h
    obtain ⟨-, _, -, hsent⟩ := C.ics.transfer_ok steps.sent
    rw [steps.world]
    exact (hsent.hasClass K).trans
      ((Cw721.convertCW721_spares (msg.valid_convertMsg valid c) steps.converted fun _ _ => true).kept K hK)
  | transfer h =>
    obtain ⟨-, _, -, hsent⟩ := C.ics.transfer_ok h
    exact (hsent.hasClass K).trans hK
  | receive h => exact (@Ibc.Received.spares (fun _ _ => true) _ _ _ _ h).kept K hK
  | deliver => exact hK
  | refund _ h => exact Ibc.onTimeoutPacket_hasClass h K hK
  | settle => exact (Erc721.settleIBCVoucherPairs_hasClass _ K).trans hK
  | prune => exact hK
  | purge => exact hK
  | evm => exact hK
  | wasm => exact hK

namespace Ibc

/-- The packet names a class of this chain that is no voucher class. -/
structure OfClass (w : World C) (p : Packet) : Prop where
  hasClass : w.nft.hasClass p.classId = true
  nonVoucher : isIBCDenom p.classId = false
  noPrefix : hasPrefix p.classId (C.ics.classPrefix p.sourcePort p.sourceChannel) = false

lemma OfClass.voucherClass {p : Packet} (h : OfClass w p) :
    C.ics.getVoucherClassID w.nft p.classId = .ok p.classId := by
  rw [C.ics.getVoucherClassID_eq, if_pos h.hasClass]

lemma OfClass.refundClass {p : Packet} (h : OfClass w p) : getRefundClassId w p = .ok p.classId := by
  unfold getRefundClassId
  split
  · rfl
  · rw [if_neg (by simp [h.noPrefix])]
    exact h.voucherClass

lemma accString_ne {X : Extern} {s : GoString} {acc module : AccAddress} (hs : X.decodeAcc s = .ok acc)
    (hmodule : X.decodeAcc (X.accString module) = .ok module) (hne : acc ≠ module) : s ≠ X.accString module := by
  rintro rfl
  exact hne (Except.ok.inj (hs.symm.trans hmodule))

lemma kind_of_signer {X : Extern} {p : Packet} {acc : AccAddress} (hs : X.decodeAcc p.sender = .ok acc)
    (herc : acc ≠ Erc721.accModuleAddress) (hcw : acc ≠ Cw721.accModuleAddress) :
    outboundConvertKind X p = .none := by
  unfold outboundConvertKind
  rw [if_neg fun h => accString_ne hs (Erc721.decodeAcc_module X) herc h.1,
    if_neg fun h => accString_ne hs (Cw721.decodeAcc_module X) hcw h.1]

lemma kind_of_erc721 {X : Extern} {p : Packet} (hs : p.sender = X.accString Erc721.accModuleAddress) :
    outboundConvertKind X p ≠ .cw721 := by
  have hne : p.sender ≠ X.accString Cw721.accModuleAddress := by
    rw [hs]
    exact accString_ne (Erc721.decodeAcc_module X) (Cw721.decodeAcc_module X) (by decide)
  unfold outboundConvertKind
  split
  · simp
  · rw [if_neg fun h => hne h.1]
    simp

lemma kind_of_cw721 {X : Extern} {p : Packet} (hs : p.sender = X.accString Cw721.accModuleAddress) :
    outboundConvertKind X p ≠ .erc721 := by
  have hne : p.sender ≠ X.accString Erc721.accModuleAddress := by
    rw [hs]
    exact accString_ne (Cw721.decodeAcc_module X) (Erc721.decodeAcc_module X) (by decide)
  unfold outboundConvertKind
  rw [if_neg fun h => hne h.1]
  split <;> simp

end Ibc

/-- The convert packets of one module in flight. -/
def ConvertFlights (kind : Ibc.ConvertKind) (s : System C) : Prop :=
  ∀ f ∈ s.flights, Ibc.outboundConvertKind C.toExtern f.packet = kind → Ibc.OfClass s.world f.packet

lemma ConvertFlights.step {kind : Ibc.ConvertKind} {s s' : System C} {op : Op C} (h : ConvertFlights kind s)
    (hstep : Step s op s') (hnew : ∀ f ∈ s'.flights, f ∉ s.flights →
      Ibc.outboundConvertKind C.toExtern f.packet = kind → Ibc.OfClass s'.world f.packet) : ConvertFlights kind s' := by
  intro f hf hkind
  by_cases hold : f ∈ s.flights
  · obtain ⟨hclass, hibc, hpre⟩ := h f hold hkind
    exact ⟨hstep.hasClass _ hclass, hibc, hpre⟩
  · exact hnew f hf hold hkind

end Uptick
