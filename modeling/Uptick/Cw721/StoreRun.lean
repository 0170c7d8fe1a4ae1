import Uptick.Conforming
import Uptick.Cw721.Registry

/-!
# The store of x/cw721 in a run

Every step keeps the store in order. In a run whose signers hold keys, the packets that the module sent carry NFTs of
classes that are registered here.
-/

namespace Uptick.Cw721

open Text Outcome Collection

variable {C : Chain} {P : AccAddress → Prop} {s s' : System C} {op : Op C}

lemma onTimeoutPacket_storeInv {w w' : World C} {p : Ibc.Packet} (h : Ibc.onTimeoutPacket w p = .ok w')
    (hinv : StoreInv C.toExtern P w.cw721) : StoreInv C.toExtern P w'.cw721 := by
  unfold Ibc.onTimeoutPacket at h
  split at h
  · obtain ⟨K, -, h⟩ := bind_eq_ok.mp h
    obtain ⟨L, -, h⟩ := bind_eq_ok.mp h
    cases h
    refine Erc721.refundPacketToken_invariant (I := fun w => StoreInv C.toExtern P w.cw721)
      (fun w n w' _ hw hr => ?_) hinv
    cases hr with
    | skipped => exact hw
    | returned => rwa [(Erc721.burnRefunded_frame _ K n).2.1]
    | dropped => rwa [(Erc721.burnRefunded_frame _ K n).2.1]
  · obtain ⟨K, -, h⟩ := bind_eq_ok.mp h
    obtain ⟨L, -, h⟩ := bind_eq_ok.mp h
    cases h
    exact refundPacketToken_invariant (I := fun w => StoreInv C.toExtern P w.cw721)
      (fun _ _ _ _ hw hr => hr.storeInv hw) hinv
  · obtain ⟨acc, -, h⟩ := bind_eq_ok.mp h
    obtain ⟨L, -, h⟩ := bind_eq_ok.mp h
    cases h
    exact hinv

end Uptick.Cw721

namespace Uptick.Erc721

open Text Outcome

variable {C : Chain} {w w' : World C}

lemma convertNFT_cw721 {msg : MsgConvertNFT} (h : convertNFT w msg = .ok w') : w'.cw721 = w.cw721 := by
  obtain ⟨w₁, pair, c, ids, steps, -⟩ := convertNFT_steps_nft h
  obtain ⟨w₂, st, -, hloop, -, rfl⟩ := convertCosmos2Evm_eq_ok.mp steps.converted
  have hfills := cosmos2Evm_fills hloop
  exact hfills.cw721.trans steps.prepares.cw721

lemma convertERC721_cw721 {msg : MsgConvertERC721} (hb : isBlank msg.classId = false) (hne : msg.evmTokenIds ≠ [])
    {res : MsgConvertERC721Response} (h : convertERC721 w msg = .ok (w', res)) : w'.cw721 = w.cw721 := by
  obtain ⟨ns, sender, w₁, pair, steps, -⟩ := (convertERC721_eq_ok hb hne).mp h
  obtain ⟨w₂, st, -, -, hloop, -, rfl⟩ := convertEvm2Cosmos_eq_ok.mp steps.converted
  have hfills := evm2Cosmos_fills hloop
  exact hfills.cw721.trans (ensureRegisteredERC721_prepares steps.registered).cw721

lemma transferERC721_cw721 {msg : MsgTransferERC721} {p : Ibc.Packet} (valid : msg.validateBasic C.toExtern = .ok ())
    (h : transferERC721 w msg = .ok (w', p)) : w'.cw721 = w.cw721 := by
  obtain ⟨w₁, res, L, _, steps⟩ := transferERC721_steps h
  obtain ⟨hb, hne⟩ := msg.classId_and_nonempty valid
  have hconv : w₁.cw721 = w.cw721 := convertERC721_cw721 hb hne steps.converted
  rw [steps.world]
  exact hconv

lemma settleIBCVoucherPairs_cw721 (w : World C) : (settleIBCVoucherPairs w).world.cw721 = w.cw721 := by
  refine @settle_invariant C (fun s => s.world.cw721 = w.cw721) w (fun s hs _ _ _ b _ => ?_)
    (fun s hs pair _ _ _ => hs) rfl
  rw [world_handle, ← hs]
  have hcases := settleVoucherBinding_handles s.world b
  generalize settleVoucherBinding s.world b = r at hcases
  cases hcases <;> rfl

end Uptick.Erc721

namespace Uptick.Cw721

open Text Outcome Collection

variable {C : Chain} {P : AccAddress → Prop} {D : Set GoString} {s s' : System C} {op : Op C}

lemma ConvertMsg.cw721_storeInv (hosts : Hosts C P) {w w' : World C} {msg : ConvertMsg}
    (valid : msg.validateBasic C.toExtern = .ok ()) (h : msg.handle w = .ok w')
    (hinv : StoreInv C.toExtern P w.cw721) : StoreInv C.toExtern P w'.cw721 := by
  cases msg with
  | convertNFT msg => rwa [Erc721.convertNFT_cw721 h]
  | convertERC721 msg =>
    obtain ⟨⟨w₁, res⟩, hrun, rfl⟩ := map_eq_ok.mp h
    have hmsg := Erc721.MsgConvertERC721.validateBasic_eq_ok.mp valid
    rwa [Erc721.convertERC721_cw721 hmsg.classId hmsg.nonempty hrun]
  | convertNFTToCW721 msg => exact convertNFT_storeInv hosts hinv h
  | convertCW721 msg =>
    obtain ⟨⟨w₁, res⟩, hrun, rfl⟩ := map_eq_ok.mp h
    exact (convertCW721_storeInv hosts (MsgConvertCW721.valid_of_validateBasic valid) hinv hrun).1

theorem StoreInv.step (hosts : Hosts C P) (h : Step s op s') (hinv : StoreInv C.toExtern P s.world.cw721) :
    StoreInv C.toExtern P s'.world.cw721 := by
  cases h with
  | convert valid h => exact ConvertMsg.cw721_storeInv hosts valid h hinv
  | transferERC721 valid h => rwa [Erc721.transferERC721_cw721 valid h]
  | transferCW721 valid h => exact (transferCW721_storeInv hosts valid hinv h).1
  | refund _ h => exact onTimeoutPacket_storeInv h hinv
  | settle => rwa [Erc721.settleIBCVoucherPairs_cw721]
  | _ => exact hinv

structure Safe (P : AccAddress → Prop) (s : System C) : Prop where
  store : StoreInv C.toExtern P s.world.cw721
  flights : ConvertFlights .cw721 s

theorem Safe.step (hosts : Hosts C P) (hinv : Safe P s) (hstep : Step s op s') (hok : Conforming D s op s') :
    Safe P s' := by
  refine ⟨hinv.store.step hosts hstep, hinv.flights.step hstep fun f hf hnew hkind => ?_⟩
  cases hstep with
  | @transferERC721 _ _ fl msg p valid h =>
    obtain ⟨_, _, _, _, steps⟩ := Erc721.transferERC721_steps h
    obtain ⟨⟨hp, -⟩, -⟩ := C.ics.transfer_ok steps.sent
    obtain rfl : f = ⟨p, msg.cosmosSender⟩ := (List.mem_cons.mp hf).resolve_right hnew
    exact absurd hkind (Ibc.kind_of_erc721 (by rw [hp]; rfl))
  | @transferCW721 _ _ fl msg p valid h =>
    obtain ⟨-, hclass, hibc, hpre⟩ := transferCW721_storeInv hosts valid hinv.store h
    obtain rfl : f = ⟨p, msg.cwSender⟩ := (List.mem_cons.mp hf).resolve_right hnew
    exact ⟨hclass, hibc, hpre⟩
  | @transfer _ fl msg L p h =>
    obtain ⟨⟨hp, -⟩, acc, hacc, -⟩ := C.ics.transfer_ok h
    obtain rfl : f = ⟨p, msg.sender⟩ := (List.mem_cons.mp hf).resolve_right hnew
    have hnone : Ibc.outboundConvertKind C.toExtern p = .none :=
      Ibc.kind_of_signer (by rw [hp]; exact hacc) (hok.ne_module rfl hacc) (hok.signer _ acc rfl hacc).2
    rw [hnone] at hkind
    cases hkind
  | deliver => exact absurd (List.mem_of_mem_erase hf) hnew
  | refund => exact absurd (List.mem_of_mem_erase hf) hnew
  | _ => exact absurd hf hnew

lemma Safe.of_fresh (h : s.Fresh) : Safe P s := by
  obtain ⟨_, _, hst⟩ := h.cw721
  refine ⟨?_, fun f hf => ?_⟩
  · rw [hst]
    exact .of_empty rfl rfl rfl rfl rfl
  · rw [h.flights] at hf
    cases hf

end Uptick.Cw721
