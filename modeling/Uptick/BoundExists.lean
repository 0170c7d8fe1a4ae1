import Uptick.BoundInv
import Uptick.SampleChain

/-!
# Bound NFTs exist in every run

The remaining steps of the system: transfers, the callbacks of packets, the migrations, and what happens on the EVM
and the wasm module. Then the whole run, from empty stores.
-/

namespace Uptick

open Text Evm Outcome Collection

variable {C : Chain} {w w' : World C}

lemma BoundInv.ledger {L : NftLedger} (h : BoundInv w) (hL : Spares w.isConvertedNFT w.nft L) :
    BoundInv { w with nft := L } :=
  h.step hL (fun _ _ => .inl) (fun _ _ => .inl)

lemma BoundInv.shrink (h : BoundInv w) (hnft : w'.nft = w.nft)
    (he : ∀ y uid, w'.erc721.byNFTUID.get? y = some uid → w.erc721.byNFTUID.get? y = some uid)
    (hc : ∀ y uid, w'.cw721.byNFTUID.get? y = some uid → w.cw721.byNFTUID.get? y = some uid) : BoundInv w' := by
  apply h.step
  · rw [hnft]
    exact Spares.refl _
  · exact fun y uid hget => .inl (he y uid hget)
  · exact fun y uid hget => .inl (hc y uid hget)

lemma ConvertMsg.boundInv {msg : ConvertMsg} (valid : msg.validateBasic C.toExtern = .ok ())
    (h : msg.handle w = .ok w') (hinv : BoundInv w) : BoundInv w' := by
  cases msg with
  | convertNFT msg => exact Erc721.convertNFT_boundInv valid h hinv
  | convertERC721 msg =>
    obtain ⟨⟨w₁, res⟩, hrun, rfl⟩ := map_eq_ok.mp h
    have hmsg := Erc721.MsgConvertERC721.validateBasic_eq_ok.mp valid
    exact Erc721.convertERC721_boundInv hmsg.classId hmsg.nonempty hrun hinv
  | convertNFTToCW721 msg => exact Cw721.convertNFT_boundInv valid h hinv
  | convertCW721 msg =>
    obtain ⟨⟨w₁, res⟩, hrun, rfl⟩ := map_eq_ok.mp h
    exact Cw721.convertCW721_boundInv (Cw721.MsgConvertCW721.valid_of_validateBasic valid) hrun hinv

namespace Erc721

lemma transferERC721_boundInv {msg : MsgTransferERC721} {p : Ibc.Packet}
    (valid : msg.validateBasic C.toExtern = .ok ()) (h : transferERC721 w msg = .ok (w', p)) (hinv : BoundInv w) :
    BoundInv w' := by
  obtain ⟨w₁, res, L, sender, steps⟩ := transferERC721_steps h
  obtain ⟨hb, hne⟩ := msg.classId_and_nonempty valid
  have hconv : BoundInv w₁ := convertERC721_boundInv hb hne steps.converted hinv
  obtain ⟨-, _, -, hsent⟩ := C.ics.transfer_ok steps.sent
  obtain ⟨kv, hkv⟩ := recordRefunds_eq C.toExtern w₁.erc721 res sender
  rw [steps.world, hkv]
  exact (hconv.ledger hsent.spares).shrink rfl (fun _ _ => id) (fun _ _ => id)

/-- A round deletes the entry of the NFT before it asks the guard. -/
lemma Refunds.boundInv {K n : GoString} (h : Refunds K w n w') (hinv : BoundInv w) : BoundInv w' := by
  have hburn : ∀ evm t c, BoundInv (burnRefunded (cleared w evm K n t c) K n) := by
    intro evm t c
    have hclear : BoundInv (cleared w evm K n t c) := by
      refine hinv.shrink rfl (fun y uid hget => ?_) (fun _ _ => id)
      rw [cleared, byNFTUID_clearRefund] at hget
      exact (KVStore.get?_delete_eq_some hget).2
    rw [burnRefunded_eq]
    split
    · next hfree => exact hclear.ledger (.put_none hfree.2.1)
    · exact hclear
  cases h with
  | skipped => exact hinv
  | returned => exact hburn _ _ _
  | dropped => exact hburn _ _ _

lemma settleIBCVoucherPairs_boundInv (hinv : BoundInv w) : BoundInv (settleIBCVoucherPairs w).world := by
  refine @settle_invariant C (fun s => BoundInv s.world) w (fun s hs _ _ _ b _ => ?_)
    (fun s hs pair _ _ _ => ?_) hinv
  · have hdelete : ∀ y uid, (deleteVoucherBindingKeys C.toExtern s.world.erc721 b.contract b.tokenID b.classID
        b.nftID).byNFTUID.get? y = some uid → s.world.erc721.byNFTUID.get? y = some uid := by
      intro y uid hget
      unfold deleteVoucherBindingKeys at hget
      rw [deleteNFTPairByTokenID_eq] at hget
      exact (KVStore.get?_delete_eq_some hget).2
    rw [world_handle]
    have hcases := settleVoucherBinding_handles s.world b
    generalize settleVoucherBinding s.world b = r at hcases
    cases hcases with
    | kept => exact hs
    | stale => exact hs.shrink rfl hdelete (fun _ _ => id)
    | orphan => exact hs.shrink rfl hdelete (fun _ _ => id)
    | wrapped => exact (hs.ledger (.put_some _ _ _ _)).shrink rfl hdelete (fun _ _ => id)
  · exact hs.shrink rfl (shrinks_purgeTokenPair _ _ _).reverse (fun _ _ => id)

end Erc721

namespace Cw721

lemma transferCW721_boundInv {msg : MsgTransferCW721} {p : Ibc.Packet}
    (valid : msg.validateBasic C.toExtern = .ok ()) (h : transferCW721 w msg = .ok (w', p)) (hinv : BoundInv w) :
    BoundInv w' := by
  obtain ⟨w₁, c, res, L, steps⟩ := transferCW721_steps h
  have hconv : BoundInv w₁ := convertCW721_boundInv (msg.valid_convertMsg valid c) steps.converted hinv
  obtain ⟨-, _, -, hsent⟩ := C.ics.transfer_ok steps.sent
  rw [steps.world, recordRefunds_eq]
  exact (hconv.ledger hsent.spares).shrink rfl (fun _ _ => id) (fun _ _ => id)

lemma Refunds.boundInv {K n : GoString} (h : Refunds K w n w') (hinv : BoundInv w) : BoundInv w' := by
  have hburn : ∀ wasm t c, BoundInv (burnRefunded (cleared w wasm K n t c) K n) := by
    intro wasm t c
    have hclear : BoundInv (cleared w wasm K n t c) :=
      hinv.shrink rfl (fun _ _ => id) (fun y uid hget => (KVStore.get?_delete_eq_some hget).2)
    rw [burnRefunded_eq]
    split
    · next hfree => exact hclear.ledger (.put_none hfree.2.1)
    · exact hclear
  cases h with
  | skipped => exact hinv
  | returned => exact hburn _ _ _
  | dropped => exact hburn _ _ _

end Cw721

namespace Ibc

/-- nft-transfer brings the NFTs back, then the module of the packet refunds the tokens. -/
lemma onTimeoutPacket_boundInv {p : Packet} (h : onTimeoutPacket w p = .ok w') (hinv : BoundInv w) :
    BoundInv w' := by
  have hback : ∀ acc L, C.ics.refund w.nft p acc = .ok L → BoundInv { w with nft := L } := by
    intro acc L hL
    exact hinv.ledger (C.ics.refund_ok hL (C.ics.getVoucherClassID_eq _ _)).spares
  unfold onTimeoutPacket at h
  split at h
  · obtain ⟨K, -, h⟩ := bind_eq_ok.mp h
    obtain ⟨L, hL, h⟩ := bind_eq_ok.mp h
    cases h
    exact Erc721.refundPacketToken_invariant (fun _ _ _ _ hw hr => hr.boundInv hw) (hback _ _ hL)
  · obtain ⟨K, -, h⟩ := bind_eq_ok.mp h
    obtain ⟨L, hL, h⟩ := bind_eq_ok.mp h
    cases h
    exact Cw721.refundPacketToken_invariant (fun _ _ _ _ hw hr => hr.boundInv hw) (hback _ _ hL)
  · obtain ⟨acc, -, h⟩ := bind_eq_ok.mp h
    obtain ⟨L, hL, h⟩ := bind_eq_ok.mp h
    cases h
    exact hback _ _ hL

end Ibc

theorem Step.boundInv {s s' : System C} {op : Op C} (h : Step s op s') (hinv : BoundInv s.world) :
    BoundInv s'.world := by
  cases h with
  | collection _ h => exact hinv.ledger (CollectionMsg.spares h)
  | convert valid h => exact ConvertMsg.boundInv valid h hinv
  | transferERC721 valid h => exact Erc721.transferERC721_boundInv valid h hinv
  | transferCW721 valid h => exact Cw721.transferCW721_boundInv valid h hinv
  | transfer h =>
    obtain ⟨-, _, -, hsent⟩ := C.ics.transfer_ok h
    exact hinv.ledger hsent.spares
  | receive h => exact hinv.ledger h.spares
  | deliver => exact hinv
  | refund _ h => exact Ibc.onTimeoutPacket_boundInv h hinv
  | settle => exact Erc721.settleIBCVoucherPairs_boundInv hinv
  | prune o =>
    refine hinv.shrink rfl (fun y uid hget => ?_) (fun _ _ => id)
    rw [Erc721.byNFTUID_prune] at hget
    exact hget
  | purge => exact hinv.shrink rfl (Erc721.shrinks_purgeTokenPair _ _ _).reverse (fun _ _ => id)
  | evm => exact hinv.shrink rfl (fun _ _ => id) (fun _ _ => id)
  | wasm => exact hinv.shrink rfl (fun _ _ => id) (fun _ _ => id)

lemma System.Fresh.boundInv {s : System C} (h : s.Fresh) : BoundInv s.world := by
  obtain ⟨_, he⟩ := h.erc721
  obtain ⟨_, _, hc⟩ := h.cw721
  refine ⟨fun K hK => ?_, fun y uid hget => ?_, fun y uid hget => ?_⟩
  · rw [h.nft] at hK
    cases hK
  · rw [he] at hget
    cases hget
  · rw [hc] at hget
    cases hget

/-- In every run from empty stores, each reverse entry of x/erc721 and of x/cw721 names an NFT that exists. -/
theorem bindings_exist {s s' : System C} (hfresh : s.Fresh) (h : Run (fun _ _ _ => True) s s') :
    BindingsExist s'.world :=
  (h.invariant (fun _ _ _ hinv hstep _ => hstep.boundInv hinv) hfresh.boundInv).bindingsExist

/-- One user creates a class, mints an NFT and wraps it as an ERC721 token. -/
def firstConversion : List (Op Sample.chain) :=
  [.collection (.issueDenom ⟨str "kitty", Sample.accString Sample.alice,
      ⟨str "Kitties", [], str "KIT", false, false, [], [], [], []⟩⟩),
    .collection (.mintNFT ⟨str "cat1", str "kitty", ⟨[], [], [], []⟩, Sample.accString Sample.alice,
      Sample.accString Sample.alice⟩),
    .convert (.convertNFT ⟨str "kitty", [str "cat1"], str "0x1111111111111111111111111111111111111111",
      Sample.accString Sample.alice, [], []⟩)]

theorem bindings_exist_after_conversion : ∃ s s' : System Sample.chain, s.Fresh ∧ Run (fun _ _ _ => True) s s' ∧
    s'.world.erc721.byNFTUID.has (Erc721.createNFTUID (str "kitty") (str "cat1")) = true ∧ BindingsExist s'.world := by
  let s : System Sample.chain := ⟨⟨.empty, .empty, .empty, .empty, .empty⟩, []⟩
  have hfresh : s.Fresh := ⟨⟨true, rfl⟩, ⟨_, _, rfl⟩, rfl, rfl⟩
  obtain ⟨s', hrun⟩ := exists_eq_ok (x := s.execAll firstConversion) (by decide +kernel)
  have h := System.run_of_execAll (fun _ _ _ _ => trivial) hrun
  have hbound : (s.execAll firstConversion).toOption.any (fun s' =>
      s'.world.erc721.byNFTUID.has (Erc721.createNFTUID (str "kitty") (str "cat1"))) = true := by decide +kernel
  rw [hrun] at hbound
  exact ⟨s, s', hfresh, h, hbound, bindings_exist hfresh h⟩

end Uptick
