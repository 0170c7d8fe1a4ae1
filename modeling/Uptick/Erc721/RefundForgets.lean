import Uptick.Erc721.RefundCustody

/-!
# What is left of an NFT after its refund

When a round of `RefundPacketToken` moves an ERC721 token out of the module account, the native NFT and its entries
should be gone. The burn asks x/cw721 too, and the refund records are under keys that the round may not look at.
-/

namespace Uptick.Erc721

open Text Numeral Evm Outcome Collection

variable {C : Chain} {w w' w₀ : World C} {K n m : GoString} {c : Address} {v : Nat}

/-- The callback of a packet comes to the NFT, and its round moves the token. -/
structure HandsBack (w : World C) (p : Ibc.Packet) (K n : GoString) (c : Address) (v : Nat) : Prop where
  kind : Ibc.outboundConvertKind C.toExtern p = .erc721
  classId : Ibc.getRefundClassId w p = .ok K
  round : ∃ L before after, C.ics.refund w.nft p accModuleAddress = .ok L ∧ p.tokenIds = before ++ n :: after ∧
    C.evm.owner (refundToken K (refundPacketToken { w with nft := L } K before) n).evm c v ≠
      C.evm.owner (refundPacketToken { w with nft := L } K before).evm c v

/-- A key under which `TransferERC721` records the receiver of the token: the contract in any spelling, with the id of
the NFT or the id of the token as a message may write it. -/
def RecordKey (n : GoString) (c : Address) (v : Nat) (k : GoString) : Prop :=
  ∃ contract id, isHexAddress contract = true ∧ hexToAddress contract = c ∧
    (id = n ∨ validateEVMTokenID id = .ok () ∧ parseEVMTokenID id = .ok v) ∧ k = toLower contract ++ id

/-- Neither the NFT nor an entry of x/erc721 for it is left. -/
structure Forgotten (w : World C) (K n : GoString) (c : Address) (v : Nat) : Prop where
  burned : w.nft.hasNFT K n = false
  reverse : w.erc721.byNFTUID.get? (createNFTUID K n) = none
  forward : ∀ uid, w.erc721.byTokenUID.get? uid ≠ some (createNFTUID K n)
  records : ∀ k, RecordKey n c v k → w.erc721.evmAddress.get? k = none

/-- The round of the NFT deletes the record with this key: the contract and the token id are those of the index. -/
def Deletes (st : Store) (K n k : GoString) : Prop :=
  ∃ t c, getNFTFromUID (getTokenUIDPairByNFTUID st (createNFTUID K n)) = (t, c) ∧ c ≠ [] ∧
    (k = toLower c ++ n ∨ k = toLower c ++ t)

lemma Deletes.of_shrinks {st st' : Store} {k : GoString} (h : Deletes st' K n k) (hs : StoreShrinks st st') :
    Deletes st K n k := by
  obtain ⟨t, c, hcut, hc, hk⟩ := h
  refine ⟨t, c, ?_, hc, hk⟩
  cases hget : st'.byNFTUID.get? (createNFTUID K n) with
  | none =>
    have hnil : getTokenUIDPairByNFTUID st' (createNFTUID K n) = [] := KVStore.get_eq_nil hget
    rw [hnil] at hcut
    cases hcut
    exact absurd rfl hc
  | some uid =>
    have hval : getTokenUIDPairByNFTUID st (createNFTUID K n) = uid := KVStore.get_of_get? (hs.reverse _ _ hget)
    rw [hval, ← hcut, getTokenUIDPairByNFTUID, KVStore.get_of_get? hget]

/-- What the rounds have done so far to the world in which they started. -/
structure Refunding (w₀ : World C) (K : GoString) (ns : List GoString) (w : World C) : Prop where
  shrinks : StoreShrinks w₀.erc721 w.erc721
  cw721 : w.cw721 = w₀.cw721
  hasClass : w.nft.hasClass K = w₀.nft.hasClass K
  kept : ∀ m, w.erc721.byNFTUID.get? (createNFTUID K m) ≠ none → w.nft.held K m = w₀.nft.held K m
  gone : ∀ m, w₀.nft.held K m = none → w.nft.held K m = none
  deleted : ∀ k, w₀.erc721.evmAddress.get? k ≠ none → w.erc721.evmAddress.get? k = none →
    ∃ m ∈ ns, Deletes w₀.erc721 K m k

lemma Refunding.refl (w : World C) (K : GoString) (ns : List GoString) : Refunding w K ns w :=
  ⟨.refl _, rfl, rfl, fun _ _ => rfl, fun _ => id, fun _ hne h => absurd h hne⟩

lemma nft_burnRefunded (w : World C) (K n : GoString) : (burnRefunded w K n).nft = w.nft ∨
    (burnRefunded w K n).nft = w.nft.put K n none := by
  rw [burnRefunded_eq]
  split
  · exact .inr rfl
  · exact .inl rfl

lemma Refunding.clear {ns : List GoString} (h : Refunding w₀ K ns w) (hm : m ∈ ns) (hK : comma ∉ K)
    (hindex : IndexInv w₀.erc721) {t c : GoString} {v : Nat} {o : Address} (found : RefundFound w K m t c v o)
    (evm : C.evm.State) : Refunding w₀ K ns (burnRefunded (cleared w evm K m t c) K m) := by
  have hbind := found.binding (hindex.of_shrinks h.shrinks) hK
  obtain ⟨hst, hcw, -, hclass, -⟩ := burnRefunded_frame (cleared w evm K m t c) K m
  refine ⟨?_, hcw.trans h.cw721, ?_, fun m' hm' => ?_, fun m' hnone => ?_, fun k hk hnone => ?_⟩
  · rw [hst]
    exact h.shrinks.trans (hbind.shrinks _)
  · rw [NftLedger.hasClass, hclass]
    exact h.hasClass
  · rw [hst, cleared, byNFTUID_clearRefund, KVStore.get?_delete] at hm'
    have hne : m' ≠ m := by
      rintro rfl
      simp at hm'
    have hkey : createNFTUID K m' ≠ createNFTUID K m := fun heq => hne (uid_inj hK hK heq).1
    rw [if_neg hkey] at hm'
    rw [← h.kept m' hm']
    rcases nft_burnRefunded (cleared w evm K m t c) K m with hsame | hput
    · rw [hsame]
      rfl
    · rw [hput, NftLedger.held_put_of_ne _ _ (by simp [hne])]
      rfl
  · have hold : w.nft.held K m' = none := h.gone m' hnone
    rcases nft_burnRefunded (cleared w evm K m t c) K m with hsame | hput
    · rw [hsame]
      exact hold
    · rw [hput]
      by_cases heq : (K, m') = (K, m)
      · cases heq
        exact NftLedger.held_put_self _ _ _ _
      · rw [NftLedger.held_put_of_ne _ _ heq]
        exact hold
  · rw [hst, cleared, evmAddress_clearRefund] at hnone
    split at hnone
    · next hkey => exact ⟨m, hm, Deletes.of_shrinks ⟨t, c, found.bound, found.contract, hkey⟩ h.shrinks⟩
    · exact h.deleted k hk hnone

lemma Refunding.step {ns : List GoString} (h : Refunding w₀ K ns w) (hm : m ∈ ns) (hK : comma ∉ K)
    (hindex : IndexInv w₀.erc721) (hr : Refunds K w m w') : Refunding w₀ K ns w' := by
  cases hr with
  | skipped => exact h
  | returned found _ _ => exact h.clear hm hK hindex found _
  | dropped found _ => exact h.clear hm hK hindex found _

lemma Refunding.loop {ns : List GoString} (hK : comma ∉ K) (hindex : IndexInv w₀.erc721) (l : List GoString)
    (hl : ∀ m ∈ l, m ∈ ns) : Refunding w₀ K ns (refundPacketToken w₀ K l) :=
  refundPacketToken_invariant (I := Refunding w₀ K ns)
    (fun _ _ _ hm hI hr => hI.step (hl _ hm) hK hindex hr) (.refl _ _ _)

lemma Forgotten.of_refunding {ns : List GoString} (h : Forgotten w K n c v) (hr : Refunding w K ns w') :
    Forgotten w' K n c v := by
  have hheld : w.nft.held K n = none := by simpa [NftLedger.hasNFT] using h.burned
  refine ⟨?_, ?_, fun uid hget => h.forward uid (hr.shrinks.forward _ _ hget), fun k hk => ?_⟩
  · simp [NftLedger.hasNFT, hr.gone n hheld]
  · refine Option.eq_none_iff_forall_ne_some.mpr fun uid hget => ?_
    have hold := hr.shrinks.reverse _ _ hget
    rw [h.reverse] at hold
    cases hold
  · refine Option.eq_none_iff_forall_ne_some.mpr fun a hget => ?_
    have hold := hr.shrinks.records _ _ hget
    rw [h.records k hk] at hold
    cases hold

lemma RefundFound.forgotten {ns : List GoString} {t text : GoString} {o : Address} {evm : C.evm.State}
    (found : RefundFound w K n t text v o) (h : Refunding w₀ K ns w) (hK : comma ∉ K) (hindex : IndexInv w₀.erc721)
    (hclass : w₀.nft.hasClass K = true) (howner : w₀.nft.getOwner K n = accModuleAddress)
    (hfree : w₀.cw721.byNFTUID.get? (createNFTUID K n) = none)
    (hrecords : ∀ k, RecordKey n (hexToAddress text) v k → w₀.erc721.evmAddress.get? k ≠ none →
      Deletes w₀.erc721 K n k) :
    Forgotten (burnRefunded (cleared w evm K n t text) K n) K n (hexToAddress text) v := by
  have hinv := hindex.of_shrinks h.shrinks
  have hbind := found.binding hinv hK
  have hreverse : (clearRefund C.toExtern w.erc721 K n t text).byNFTUID.get? (createNFTUID K n) = none := by
    rw [byNFTUID_clearRefund]
    simp
  have hheld : w.nft.held K n = w₀.nft.held K n := h.kept n (by rw [hbind.reverse]; exact Option.some_ne_none _)
  have hburn : burnRefunded (cleared w evm K n t text) K n =
      { cleared w evm K n t text with nft := w.nft.put K n none } := by
    rw [burnRefunded_eq, if_pos]
    · rfl
    refine ⟨?_, ?_, h.hasClass.trans hclass⟩
    · rw [← howner, NftLedger.getOwner, NftLedger.getOwner, ← hheld]
      rfl
    · -- the entry of this module is gone, and x/cw721 has none
      have hcw : (cleared w evm K n t text).cw721.byNFTUID.get? (createNFTUID K n) = none := by
        rw [← hfree, ← h.cw721]
        rfl
      have he : getTokenUIDPairByNFTUID (cleared w evm K n t text).erc721 (createNFTUID K n) = [] :=
        KVStore.get_eq_nil hreverse
      have hc : Cw721.getNFTPairByClassNFTID (cleared w evm K n t text).cw721 K n = [] := KVStore.get_eq_nil hcw
      simp [World.isConvertedNFT, he, hc]
  rw [hburn]
  refine ⟨?_, hreverse, fun uid hget => ?_, fun k hk => ?_⟩
  · simp [NftLedger.hasNFT]
  · have hback := (hbind.shrinks C.toExtern).halfExact hinv.halfExact uid _ hget
    rw [hreverse] at hback
    cases hback
  · show (clearRefund C.toExtern w.erc721 K n t text).evmAddress.get? k = none
    rw [evmAddress_clearRefund]
    split
    · rfl
    · next hother =>
      refine Option.eq_none_iff_forall_ne_some.mpr fun a hget => ?_
      have hold := h.shrinks.records _ _ hget
      obtain ⟨t', c', hcut, -, hkey⟩ := hrecords k hk (by rw [hold]; exact Option.some_ne_none _)
      have hsame : getTokenUIDPairByNFTUID w₀.erc721 (createNFTUID K n) =
          getTokenUIDPairByNFTUID w.erc721 (createNFTUID K n) := by
        rw [getTokenUIDPairByNFTUID, getTokenUIDPairByNFTUID, KVStore.get_of_get? hbind.reverse,
          KVStore.get_of_get? (h.shrinks.reverse _ _ hbind.reverse)]
      rw [hsame, found.bound, Prod.mk.injEq] at hcut
      obtain ⟨rfl, rfl⟩ := hcut
      exact hother hkey

lemma Refunds.found_of_moved (hr : Refunds K w n w') (hmoved : C.evm.owner w'.evm c v ≠ C.evm.owner w.evm c v) :
    ∃ t text evm, RefundFound w K n t text v moduleAddress ∧ c = hexToAddress text ∧
      w' = burnRefunded (cleared w evm K n t text) K n := by
  cases hr with
  | skipped => exact absurd rfl hmoved
  | @returned t text v' evm found _ sent =>
    rw [(burnRefunded_frame _ K n).2.2.1] at hmoved
    by_cases heq : (c, v) = (hexToAddress text, v')
    · cases heq
      exact ⟨t, text, evm, found, rfl, rfl⟩
    · exact absurd ((C.evm.safeTransferFrom_ok sent).2.2.owner_other c v heq) hmoved
  | dropped =>
    rw [(burnRefunded_frame _ K n).2.2.1] at hmoved
    exact absurd rfl hmoved

lemma refundPacketToken_append (w : World C) (K n : GoString) (before after : List GoString) :
    refundPacketToken w K (before ++ n :: after) =
      refundPacketToken (refundToken K (refundPacketToken w K before) n) K after := by
  unfold refundPacketToken
  rw [List.foldl_append, List.foldl_cons]

theorem refundPacketToken_forgotten {before after : List GoString} (hK : comma ∉ K) (hindex : IndexInv w.erc721)
    (hclass : w.nft.hasClass K = true) (howner : w.nft.getOwner K n = accModuleAddress)
    (hmoved : C.evm.owner (refundToken K (refundPacketToken w K before) n).evm c v ≠
      C.evm.owner (refundPacketToken w K before).evm c v)
    (hfree : w.cw721.byNFTUID.get? (createNFTUID K n) = none)
    (hrecords : ∀ k, RecordKey n c v k → w.erc721.evmAddress.get? k ≠ none → Deletes w.erc721 K n k) :
    Forgotten (refundPacketToken w K (before ++ n :: after)) K n c v := by
  have hbefore : Refunding w K (before ++ n :: after) (refundPacketToken w K before) :=
    .loop hK hindex before fun m hm => List.mem_append_left _ hm
  have hround := refundToken_refunds K (refundPacketToken w K before) n
  have hafter := hbefore.step (List.mem_append_right _ List.mem_cons_self) hK hindex hround
  obtain ⟨t, text, evm, found, rfl, heq⟩ := hround.found_of_moved hmoved
  have hforgotten := @RefundFound.forgotten C _ _ K n v _ t text _ evm found hbefore hK
    hindex hclass howner hfree hrecords
  rw [← heq] at hforgotten
  have hrest : Refunding _ K after (refundPacketToken (refundToken K (refundPacketToken w K before) n) K after) :=
    .loop hK (hindex.of_shrinks hafter.shrinks) after fun _ => id
  rw [refundPacketToken_append]
  exact hforgotten.of_refunding hrest

end Uptick.Erc721
