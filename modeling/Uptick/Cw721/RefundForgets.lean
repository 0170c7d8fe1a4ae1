import Uptick.Cw721.Registry

/-!
# What is left of an NFT after its refund in x/cw721

The counterpart of the lemmas about x/erc721. There is one key for the record of a token, so that the only thing that
can stay is the NFT itself, when x/erc721 has an entry for it.
-/

namespace Uptick.Cw721

open Text Outcome Collection

variable {C : Chain} {w w' w₀ : World C} {K n m t : GoString} {contract : AccAddress} {P : AccAddress → Prop}

/-- The callback of a packet comes to the NFT, and its round moves the token. -/
structure HandsBack (w : World C) (p : Ibc.Packet) (K n : GoString) (contract : AccAddress) (t : GoString) : Prop where
  kind : Ibc.outboundConvertKind C.toExtern p = .cw721
  classId : Ibc.getRefundClassId w p = .ok K
  round : ∃ L before after, C.ics.refund w.nft p accModuleAddress = .ok L ∧ p.tokenIds = before ++ n :: after ∧
    C.wasm.owner (refundToken K (refundPacketToken { w with nft := L } K before) n).wasm contract t ≠
      C.wasm.owner (refundPacketToken { w with nft := L } K before).wasm contract t

structure Forgotten (w : World C) (K n : GoString) (contract : AccAddress) (t : GoString) : Prop where
  burned : w.nft.hasNFT K n = false
  reverse : w.cw721.byNFTUID.get? (createNFTUID K n) = none
  forward : ∀ uid, w.cw721.byTokenUID.get? uid ≠ some (createNFTUID K n)
  record : w.cw721.cwAddress.get? (C.accString contract ++ t) = none

/-- What the rounds have done so far to the world in which they started. -/
structure Refunding (P : AccAddress → Prop) (w₀ : World C) (K : GoString) (w : World C) : Prop where
  store : StoreInv C.toExtern P w.cw721
  reverse : ∀ y uid, w.cw721.byNFTUID.get? y = some uid → w₀.cw721.byNFTUID.get? y = some uid
  record : ∀ k a, w.cw721.cwAddress.get? k = some a → w₀.cw721.cwAddress.get? k = some a
  erc721 : w.erc721 = w₀.erc721
  hasClass : w.nft.hasClass K = w₀.nft.hasClass K
  kept : ∀ m, w.cw721.byNFTUID.get? (createNFTUID K m) ≠ none → w.nft.held K m = w₀.nft.held K m
  gone : ∀ m, w₀.nft.held K m = none → w.nft.held K m = none

lemma Refunding.refl (h : StoreInv C.toExtern P w.cw721) (K : GoString) : Refunding P w K w :=
  ⟨h, fun _ _ => id, fun _ _ => id, rfl, rfl, fun _ _ => rfl, fun _ => id⟩

lemma burnRefunded_frame (w : World C) (K n : GoString) : (burnRefunded w K n).erc721 = w.erc721 ∧
    (burnRefunded w K n).cw721 = w.cw721 ∧ (burnRefunded w K n).wasm = w.wasm ∧
    (burnRefunded w K n).nft.getClass = w.nft.getClass ∧
    ((burnRefunded w K n).nft = w.nft ∨ (burnRefunded w K n).nft = w.nft.put K n none) := by
  rw [burnRefunded_eq]
  split
  · exact ⟨rfl, rfl, rfl, rfl, .inr rfl⟩
  · exact ⟨rfl, rfl, rfl, rfl, .inl rfl⟩

lemma Refunding.clear (h : Refunding P w₀ K w) (hK : comma ∉ K) {t c : GoString} (wasm : C.wasm.State)
    (hstore : StoreInv C.toExtern P (burnRefunded (cleared w wasm K m t c) K m).cw721) :
    Refunding P w₀ K (burnRefunded (cleared w wasm K m t c) K m) := by
  obtain ⟨he, hst, -, hclass, hnft⟩ := burnRefunded_frame (cleared w wasm K m t c) K m
  refine ⟨hstore, fun y uid hget => ?_, fun k a hget => ?_, he.trans h.erc721, ?_, fun m' hm' => ?_, fun m' hnone => ?_⟩
  · rw [hst] at hget
    exact h.reverse y uid (KVStore.get?_delete_eq_some hget).2
  · rw [hst] at hget
    exact h.record k a (KVStore.get?_delete_eq_some hget).2
  · rw [NftLedger.hasClass, hclass]
    exact h.hasClass
  · have hold : (w.cw721.byNFTUID.delete (createNFTUID K m)).get? (createNFTUID K m') ≠ none := by
      rw [hst] at hm'
      exact hm'
    rw [KVStore.get?_delete] at hold
    have hne : m' ≠ m := by
      rintro rfl
      simp at hold
    have hkey : createNFTUID K m' ≠ createNFTUID K m := fun heq => hne (Erc721.uid_inj hK hK heq).1
    rw [if_neg hkey] at hold
    rw [← h.kept m' hold]
    rcases hnft with hsame | hput
    · rw [hsame]
      rfl
    · rw [hput, NftLedger.held_put_of_ne _ _ (by simp [hne])]
      rfl
  · have hold : w.nft.held K m' = none := h.gone m' hnone
    rcases hnft with hsame | hput
    · rw [hsame]
      exact hold
    · rw [hput]
      by_cases heq : (K, m') = (K, m)
      · cases heq
        exact NftLedger.held_put_self _ _ _ _
      · rw [NftLedger.held_put_of_ne _ _ heq]
        exact hold

lemma Refunding.step (h : Refunding P w₀ K w) (hK : comma ∉ K) (hr : Refunds K w m w') : Refunding P w₀ K w' := by
  have hstore := hr.storeInv h.store
  cases hr with
  | skipped => exact h
  | returned => exact h.clear hK _ hstore
  | dropped => exact h.clear hK _ hstore

lemma Refunding.loop (hstore : StoreInv C.toExtern P w.cw721) (hK : comma ∉ K) (ns : List GoString) :
    Refunding P w K (refundPacketToken w K ns) :=
  refundPacketToken_invariant (I := Refunding P w K) (fun _ _ _ _ hI hr => hI.step hK hr) (.refl hstore K)

lemma Forgotten.of_refunding (h : Forgotten w K n contract t) (hr : Refunding P w K w') :
    Forgotten w' K n contract t := by
  have hheld : w.nft.held K n = none := by simpa [NftLedger.hasNFT] using h.burned
  have hreverse : w'.cw721.byNFTUID.get? (createNFTUID K n) = none := by
    refine Option.eq_none_iff_forall_ne_some.mpr fun uid hget => ?_
    have hold := hr.reverse _ _ hget
    rw [h.reverse] at hold
    cases hold
  refine ⟨?_, hreverse, fun uid hget => ?_, ?_⟩
  · simp [NftLedger.hasNFT, hr.gone n hheld]
  · rw [hr.store.linked, hreverse] at hget
    cases hget
  · refine Option.eq_none_iff_forall_ne_some.mpr fun a hget => ?_
    have hold := hr.record _ _ hget
    rw [h.record] at hold
    cases hold

lemma RefundFound.contract_spelled {c o : GoString} (found : RefundFound w K n t c contract o)
    (hstore : StoreInv C.toExtern P w.cw721) (hplain : ∀ acc, comma ∉ C.accString acc) :
    c = C.accString contract := by
  obtain ⟨-, hcomma, -⟩ := Erc721.eq_of_getNFTFromUID found.bound found.contract_ne
  obtain ⟨c', t', ⟨acc, hacc, hspell, -⟩, huid⟩ := hstore.token _ _ ((hstore.linked _ _).mpr found.reverse)
  have hcomma' : comma ∉ c' := hspell ▸ hplain acc
  obtain ⟨-, rfl⟩ := Erc721.uid_inj hcomma hcomma' huid
  rw [hspell, show acc = contract from Except.ok.inj (hacc.symm.trans found.contract_eq)]

/-- The round that moved the token deletes its binding, and burns the NFT unless x/erc721 has an entry. -/
lemma RefundFound.forgotten {c o : GoString} {wasm : C.wasm.State} (found : RefundFound w K n t c contract o)
    (h : Refunding P w₀ K w) (hafter : StoreInv C.toExtern P (burnRefunded (cleared w wasm K n t c) K n).cw721)
    (hplain : ∀ acc, comma ∉ C.accString acc) (hclass : w₀.nft.hasClass K = true)
    (howner : w₀.nft.getOwner K n = accModuleAddress)
    (hfree : w₀.erc721.byNFTUID.get? (createNFTUID K n) = none) :
    Forgotten (burnRefunded (cleared w wasm K n t c) K n) K n contract t := by
  have hreverse : (cleared w wasm K n t c).cw721.byNFTUID.get? (createNFTUID K n) = none := by
    show (w.cw721.byNFTUID.delete (createNFTUID K n)).get? (createNFTUID K n) = none
    simp
  have hheld : w.nft.held K n = w₀.nft.held K n := h.kept n (by rw [found.reverse]; exact nofun)
  have hburn : burnRefunded (cleared w wasm K n t c) K n =
      { cleared w wasm K n t c with nft := w.nft.put K n none } := by
    rw [burnRefunded_eq, if_pos]
    · rfl
    refine ⟨?_, ?_, h.hasClass.trans hclass⟩
    · rw [← howner, NftLedger.getOwner, NftLedger.getOwner, ← hheld]
      rfl
    · have he : (cleared w wasm K n t c).erc721.byNFTUID.get? (createNFTUID K n) = none := by
        rw [← hfree, ← h.erc721]
        rfl
      have hgete : Erc721.getTokenUIDPairByNFTUID (cleared w wasm K n t c).erc721 (Erc721.createNFTUID K n) = [] :=
        KVStore.get_eq_nil he
      have hgetc : getNFTPairByClassNFTID (cleared w wasm K n t c).cw721 K n = [] := KVStore.get_eq_nil hreverse
      simp [World.isConvertedNFT, hgete, hgetc]
  rw [hburn] at hafter ⊢
  refine ⟨?_, hreverse, fun uid hget => ?_, ?_⟩
  · simp [NftLedger.hasNFT]
  · rw [hafter.linked] at hget
    exact absurd (hget.symm.trans hreverse) (by simp)
  · rw [← found.contract_spelled h.store hplain]
    show (w.cw721.cwAddress.delete (c ++ t)).get? (c ++ t) = none
    simp

lemma Refunds.found_of_moved (hr : Refunds K w n w')
    (hmoved : C.wasm.owner w'.wasm contract t ≠ C.wasm.owner w.wasm contract t) :
    ∃ c o wasm, RefundFound w K n t c contract o ∧ w' = burnRefunded (cleared w wasm K n t c) K n := by
  cases hr with
  | skipped => exact absurd rfl hmoved
  | @returned t' c o contract' wasm found _ _ sent =>
    rw [(burnRefunded_frame _ K n).2.2.1] at hmoved
    by_cases heq : (contract, t) = (contract', t')
    · cases heq
      exact ⟨c, o, wasm, found, rfl⟩
    · exact absurd ((C.wasm.transferNft_ok sent).2.owner_other contract t heq) hmoved
  | dropped =>
    rw [(burnRefunded_frame _ K n).2.2.1] at hmoved
    exact absurd rfl hmoved

lemma refundPacketToken_append (w : World C) (K n : GoString) (before after : List GoString) :
    refundPacketToken w K (before ++ n :: after) =
      refundPacketToken (refundToken K (refundPacketToken w K before) n) K after := by
  unfold refundPacketToken
  rw [List.foldl_append, List.foldl_cons]

theorem refundPacketToken_forgotten {before after : List GoString} (hstore : StoreInv C.toExtern P w.cw721)
    (hK : comma ∉ K) (hplain : ∀ acc, comma ∉ C.accString acc) (hclass : w.nft.hasClass K = true)
    (howner : w.nft.getOwner K n = accModuleAddress)
    (hmoved : C.wasm.owner (refundToken K (refundPacketToken w K before) n).wasm contract t ≠
      C.wasm.owner (refundPacketToken w K before).wasm contract t)
    (hfree : w.erc721.byNFTUID.get? (createNFTUID K n) = none) :
    Forgotten (refundPacketToken w K (before ++ n :: after)) K n contract t := by
  have hbefore : Refunding P w K (refundPacketToken w K before) := .loop hstore hK before
  have hround := refundToken_refunds K (refundPacketToken w K before) n
  have hafter := hround.storeInv hbefore.store
  obtain ⟨c, o, wasm, found, heq⟩ := hround.found_of_moved hmoved
  have hforgotten := @RefundFound.forgotten C _ _ K n t contract P c o wasm found hbefore (heq ▸ hafter) hplain hclass
    howner hfree
  rw [← heq] at hforgotten
  rw [refundPacketToken_append]
  exact hforgotten.of_refunding (.loop hafter hK after)

end Uptick.Cw721
