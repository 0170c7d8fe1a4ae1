import Uptick.Erc721.Custody

/-!
# Transfers, refunds and custody

A transfer hands the NFT on to the escrow account of the channel. When the packet comes back, a round of the refund lets
go of the ERC721 token together with its binding. No other NFT that is bound to the token is away at that time, since
the NFT of the round was in escrow.
-/

namespace Uptick.Erc721

open Text Numeral Evm Outcome Collection Escrow

variable {C : Chain} {D : Set GoString} {w w' : World C}

lemma IndexInv.of_index {st st' : Store} (h : IndexInv st) (hf : st'.byTokenUID = st.byTokenUID)
    (hr : st'.byNFTUID = st.byNFTUID) : IndexInv st' := by
  refine ⟨fun uid y hget => ?_, fun y uid hget => ?_⟩
  · rw [hf] at hget
    rw [hr]
    exact h.halfExact uid y hget
  · rw [hr] at hget
    obtain ⟨x, u, hy, hibc, hbinds⟩ := h.reverse y uid hget
    refine ⟨x, u, hy, hibc, ?_⟩
    rw [ReverseBinds, hr]
    exact hbinds

lemma isConvertedNFT_of_reverse {K n uid : GoString} (huid : uid ≠ [])
    (hget : w.erc721.byNFTUID.get? (createNFTUID K n) = some uid) : w.isConvertedNFT K n = true := by
  have hval : getTokenUIDPairByNFTUID w.erc721 (createNFTUID K n) = uid := KVStore.get_of_get? hget
  simp [World.isConvertedNFT, hval, huid]

theorem transferERC721_custody (hinj : Set.InjOn C.tmhash D) {msg : MsgTransferERC721}
    (valid : msg.validateBasic C.toExtern = .ok ()) {sender : AccAddress}
    (hs : C.decodeAcc msg.cosmosSender = .ok sender) (hsender : evmAddress sender ≠ moduleAddress)
    (hD : PairsIn D w'.erc721) {p : Ibc.Packet} (h : transferERC721 w msg = .ok (w', p)) (hinv : Custody D w) :
    Custody D w' ∧ w'.nft.hasClass p.classId = true ∧ isIBCDenom p.classId = false ∧
      hasPrefix p.classId (C.ics.classPrefix p.sourcePort p.sourceChannel) = false := by
  obtain ⟨w₁, res, L, acc, steps⟩ := transferERC721_steps h
  obtain ⟨hb, hne⟩ := msg.classId_and_nonempty valid
  have hhex : isHexAddress msg.evmContractAddress = true := by
    obtain ⟨hcontract, -⟩ := check_bind_eq_ok.mp valid
    exact require_eq_ok.mp hcontract
  obtain ⟨kv, hkv⟩ := recordRefunds_eq C.toExtern w₁.erc721 res acc
  have hw' : w' = { w₁ with nft := L, erc721 := { w₁.erc721 with evmAddress := kv } } := by rw [steps.world, hkv]
  have hD₁ : PairsIn D w₁.erc721 := by
    rw [hw'] at hD
    exact hD
  have hun : Unwrapped D w₁ msg.classId res.cosmosTokenIds accModuleAddress :=
    @convertERC721_unwrapped C D w w₁ hinj (msg.convertMsg C.toExtern) hb hne hhex sender accModuleAddress hs
      hsender (decodeAcc_module _) hD₁ res steps.converted hinv
  have hbound₁ : BoundInv w₁ := convertERC721_boundInv hb hne steps.converted hinv.bound
  obtain ⟨ns, s, w₂, pair, csteps, hres⟩ := (convertERC721_eq_ok hb hne).mp steps.converted
  have hclass : res.classId = msg.classId := by
    rw [hres]
    rfl
  obtain ⟨⟨hp, hway⟩, _, -, hsent⟩ := C.ics.transfer_ok steps.sent
  have hK : (msg.ibcMsg C.toExtern res).classId = msg.classId := hclass
  rw [hK] at hway hsent
  have hkept : ∀ n ∈ res.cosmosTokenIds, (L.held msg.classId n).map (·.owner) ≠ none := by
    intro n hn
    obtain ⟨uid, huid, hget⟩ := hun.reverse n hn
    obtain ⟨_, -, hafter | ⟨hfree, -⟩⟩ := hsent.token n hn
    · simp [hafter]
    · rw [isConvertedNFT_of_reverse huid hget] at hfree
      cases hfree
  have hcust : Custody D w' := by
    refine ⟨transferERC721_boundInv valid h hinv.bound, ?_, ?_, ?_⟩
    · rw [hw']
      exact hun.registry.congr ⟨rfl, rfl, rfl⟩
    · rw [hw']
      exact hun.index.of_index rfl rfl
    · rw [hw']
      refine hun.locked _ hkept fun x hx => ?_
      unfold nftOwner
      dsimp only
      rw [hsent.held_other x.1 x.2 hx]
  -- the class of the packet is the class of the pair
  rcases hway with ⟨-, hpclass, hpre⟩ | ⟨hvoucher, -⟩
  · refine ⟨hcust, ?_, ?_, ?_⟩
    · rw [hpclass, hw']
      obtain ⟨n, hn⟩ := List.exists_mem_of_ne_nil ns fun hnil => by
        have hlen := csteps.named.length_eq
        rw [hnil] at hlen
        exact hne (List.length_eq_zero_iff.mp hlen)
      obtain ⟨uid, -, hget⟩ := hun.reverse n (by rw [hres]; exact hn)
      have hentry := hbound₁.erc721 _ _ hget
      have hhas := hentry.hasClass
      rw [hentry.cut hun.plain] at hhas
      exact (hsent.hasClass msg.classId).trans hhas
    · rw [hpclass]
      exact hun.nonVoucher
    · rw [hp, hpclass]
      exact hpre
  · have hfalse := hun.nonVoucher
    rw [hvoucher] at hfalse
    cases hfalse

section Round

variable {K n t c : GoString} {v : Nat} {o : Address}

/-- The binding that a round finds, as the index has it. -/
structure Binding (st : Store) (K n t c : GoString) (v : Nat) : Prop where
  binds : ReverseBinds st (K, n) (hexToAddress c, v)
  canonical : CanonicalText c (hexToAddress c)
  token : t = text 10 v
  reverse : st.byNFTUID.get? (createNFTUID K n) = some (createTokenUID c t)

lemma RefundFound.binding (found : RefundFound w K n t c v o) (hindex : IndexInv w.erc721) (hK : comma ∉ K) :
    Binding w.erc721 K n t c v := by
  obtain ⟨huid, hcomma, -⟩ := eq_of_getNFTFromUID found.bound found.contract
  have hget : w.erc721.byNFTUID.get? (createNFTUID K n) = some (createTokenUID c t) :=
    KVStore.get?_of_get huid (createTokenUID_ne_nil c t)
  obtain ⟨-, u, hu⟩ := hindex.reverseBinds hK hget
  obtain ⟨-, hv, c', hc', hget'⟩ := hu
  rw [hget, Option.some.injEq] at hget'
  obtain ⟨rfl, rfl⟩ := uid_inj hcomma (comma_notMem_of_isHexAddress hc'.isHexAddress) hget'
  have hparse := found.parse
  rw [parseEVMTokenID_of_parse (parse_text hv true), Except.ok.injEq] at hparse
  subst hparse
  have hcanon : CanonicalText c (hexToAddress c) := by
    rw [hc'.hexToAddress_eq]
    exact hc'
  exact ⟨hindex.reverseBinds_of_get hK hcanon hget, hcanon, rfl, hget⟩

lemma Binding.mem_variantUIDs (h : Binding w.erc721 K n t c v) (X : Extern) :
    createTokenUID c t ∈ variantUIDs X c t := by
  have hv : v < 2 ^ 256 := h.binds.2.1
  rw [Erc721.mem_variantUIDs]
  refine ⟨t, ?_, c, ?_, rfl⟩
  · rw [h.token, evmTokenIDKeyVariants_of_parse (parse_text hv true)]
    simp [tokenSpellings]
  · have hmem := canonicalContractAddress_mem X c
    rw [h.canonical.canonical_eq] at hmem
    exact hmem

lemma Binding.shrinks (h : Binding w.erc721 K n t c v) (X : Extern) :
    StoreShrinks w.erc721 (clearRefund X w.erc721 K n t c) where
  forward := by
    intro uid y hget
    rw [byTokenUID_clearRefund] at hget
    exact (KVStore.get?_deleteAll_eq_some.mp hget).2
  reverse := by
    intro y uid hget
    rw [byNFTUID_clearRefund] at hget
    exact (KVStore.get?_delete_eq_some hget).2
  records := by
    intro k a hget
    rw [evmAddress_clearRefund] at hget
    split at hget
    · cases hget
    · exact hget
  halfExact := by
    intro hexact uid y hget
    rw [byTokenUID_clearRefund] at hget
    obtain ⟨hmem, hold⟩ := KVStore.get?_deleteAll_eq_some.mp hget
    have hrev := hexact uid y hold
    rw [byNFTUID_clearRefund, KVStore.get?_delete, if_neg ?_]
    · exact hrev
    · rintro rfl
      rw [h.reverse, Option.some.injEq] at hrev
      exact hmem (hrev ▸ h.mem_variantUIDs X)

lemma ReverseBinds.of_clearRefund {X : Extern} {st : Store} {x : GoString × GoString} {u : Address × Nat}
    (h : ReverseBinds (clearRefund X st K n t c) x u) : x ≠ (K, n) ∧ ReverseBinds st x u := by
  obtain ⟨hx, hu, c', hc', hget⟩ := h
  rw [byNFTUID_clearRefund] at hget
  obtain ⟨hne, hold⟩ := KVStore.get?_delete_eq_some hget
  refine ⟨?_, hx, hu, c', hc', hold⟩
  rintro rfl
  exact hne rfl

lemma burnRefunded_frame (w : World C) (K n : GoString) :
    (burnRefunded w K n).erc721 = w.erc721 ∧ (burnRefunded w K n).cw721 = w.cw721 ∧
      (burnRefunded w K n).evm = w.evm ∧ (burnRefunded w K n).nft.getClass = w.nft.getClass ∧
      ∀ x, x ≠ (K, n) → nftOwner (burnRefunded w K n) x = nftOwner w x := by
  rw [burnRefunded_eq]
  split
  · exact ⟨rfl, rfl, rfl, rfl, fun x hx => nftOwner_put_of_ne w none hx⟩
  · exact ⟨rfl, rfl, rfl, rfl, fun _ _ => rfl⟩

lemma Binding.release {evm : C.evm.State} (h : Binding w.erc721 K n t c v) (hinv : Custody D w)
    (hbound : BoundInv (burnRefunded (cleared w evm K n t c) K n))
    (halone : Alone (ReverseBinds w.erc721) accModuleAddress (nftOwner w) (K, n))
    (hevm : ∀ u, u ≠ (hexToAddress c, v) → C.evm.owner evm u.1 u.2 = ercOwner w u) :
    Custody D (burnRefunded (cleared w evm K n t c) K n) := by
  obtain ⟨hst, -, hw, -, hother⟩ := burnRefunded_frame (cleared w evm K n t c) K n
  refine ⟨hbound, ?_, ?_, ?_⟩
  · rw [hst]
    refine hinv.registry.congr ?_
    unfold cleared clearRefund
    dsimp only
    rw [deleteNFTPairByTokenID_eq]
    split <;> exact ⟨rfl, rfl, rfl⟩
  · rw [hst]
    exact hinv.index.of_shrinks (h.shrinks _)
  · refine hinv.locked.release h.binds halone (fun x u hb => ?_) hother (fun u hu => ?_)
    · rw [hst] at hb
      exact ReverseBinds.of_clearRefund hb
    · rw [ercOwner, hw]
      exact hevm u hu

theorem Refunds.custody {ns : List GoString} (h : Refunds K w n w') (hK : comma ∉ K) (hn : n ∈ ns)
    (hinv : Custody D w)
    (halone : ∀ m ∈ ns, Alone (ReverseBinds w.erc721) accModuleAddress (nftOwner w) (K, m)) :
    Custody D w' ∧ ∀ m ∈ ns, Alone (ReverseBinds w'.erc721) accModuleAddress (nftOwner w') (K, m) := by
  have hbound := h.boundInv hinv.bound
  have hrest : ∀ evm t c, ∀ m ∈ ns, Alone (ReverseBinds (burnRefunded (cleared w evm K n t c) K n).erc721)
      accModuleAddress (nftOwner (burnRefunded (cleared w evm K n t c) K n)) (K, m) := by
    intro evm t c m hm x u hb hb' hne
    obtain ⟨hst, -, -, -, hother⟩ := burnRefunded_frame (cleared w evm K n t c) K n
    rw [hst] at hb hb'
    obtain ⟨-, hold⟩ := ReverseBinds.of_clearRefund hb
    obtain ⟨hx, hold'⟩ := ReverseBinds.of_clearRefund hb'
    rw [hother x hx]
    exact halone m hm x u hold hold' hne
  cases h with
  | skipped => exact ⟨hinv, halone⟩
  | returned found _ sent =>
    refine ⟨(found.binding hinv.index hK).release hinv hbound (halone n hn) fun u hu => ?_, hrest _ _ _⟩
    exact (C.evm.safeTransferFrom_ok sent).2.2.owner_other u.1 u.2 hu
  | dropped found _ =>
    exact ⟨(found.binding hinv.index hK).release hinv hbound (halone n hn) fun _ _ => rfl, hrest _ _ _⟩

end Round

theorem refundPacketToken_custody {K : GoString} {ns : List GoString} {escrow : AccAddress} {L : NftLedger}
    (hK : comma ∉ K) (hescrow : escrow ≠ accModuleAddress)
    (hback : Ibc.Returned escrow accModuleAddress w.nft L K ns) (hinv : Custody D w) :
    Custody D (refundPacketToken { w with nft := L } K ns) := by
  -- the NFTs of the packet were away, the others are where they were
  have haway : ∀ n ∈ ns, nftOwner w (K, n) ≠ some accModuleAddress := by
    intro n hn howner
    obtain ⟨hbefore, -⟩ := hback.token n hn
    rw [nftOwner, Option.map_eq_some_iff] at howner
    obtain ⟨held, hheld, howner⟩ := howner
    rcases hbefore with hnone | hesc
    · rw [hnone] at hheld
      cases hheld
    · rw [NftLedger.getOwner, hheld] at hesc
      exact hescrow (hesc.symm.trans howner)
  have hkeep : ∀ x, nftOwner w x = some accModuleAddress →
      nftOwner { w with nft := L } x = some accModuleAddress := by
    intro x hx
    by_cases hmem : x.1 = K ∧ x.2 ∈ ns
    · obtain ⟨-, token, hafter⟩ := hback.token x.2 hmem.2
      rw [nftOwner, hmem.1, hafter]
      rfl
    · rw [nftOwner, hback.held_other x.1 x.2 hmem]
      exact hx
  have hstart : Custody D { w with nft := L } :=
    hinv.moves (hinv.bound.ledger hback.spares) (.refl _) hinv.registry (fun x _ _ => hkeep x) fun _ => id
  refine (refundPacketToken_invariant (I := fun w => Custody D w ∧
    ∀ m ∈ ns, Alone (ReverseBinds w.erc721) accModuleAddress (nftOwner w) (K, m))
    (fun w n w' hn hI hr => hr.custody hK hn hI.1 hI.2) ⟨hstart, fun m hm x u hb hb' hne => ?_⟩).1
  exact hkeep x (hinv.locked.alone (haway m hm) x u hb hb' hne)

end Uptick.Erc721
