import Uptick.BoundExists
import Uptick.Erc721.RegistrySteps
import Uptick.Lib.Escrow

/-!
# Custody

Of a bound NFT and its ERC721 token at most one is away from the module account. What the conversions do to this
invariant, as a batch of exchanges between the two ledgers with the module account as the custodian.
-/

namespace Uptick.Erc721

open Text Numeral Evm Outcome Collection Escrow

variable {C : Chain} {D : Set GoString} {w w' : World C}

/-- The invariant of a module that started empty. The set has the texts of all pairs that are ever stored. -/
structure Custody (D : Set GoString) (w : World C) : Prop where
  bound : BoundInv w
  registry : RegistryInv C.toExtern D w.erc721
  index : IndexInv w.erc721
  locked : Locked (ReverseBinds w.erc721) accModuleAddress moduleAddress (nftOwner w) (ercOwner w)

lemma nftOwner_ne_none (h : BoundInv w) {x : GoString × GoString} {u : Address × Nat}
    (hb : ReverseBinds w.erc721 x u) : nftOwner w x ≠ none := by
  obtain ⟨hK, -, c, -, hget⟩ := hb
  have hentry := h.erc721 _ _ hget
  have hnft := hentry.names
  rw [NamesNFT, hentry.cut hK, NftLedger.hasNFT] at hnft
  rw [nftOwner, ne_eq, Option.map_eq_none_iff, ← ne_eq, Option.ne_none_iff_isSome]
  exact hnft

lemma IndexInv.reverseBinds_of_get {st : Store} {K n c : GoString} {a : Address} {v : Nat} (h : IndexInv st)
    (hK : comma ∉ K) (hc : CanonicalText c a)
    (hget : st.byNFTUID.get? (createNFTUID K n) = some (createTokenUID c (text 10 v))) :
    ReverseBinds st (K, n) (a, v) := by
  obtain ⟨-, u, hu⟩ := h.reverseBinds hK hget
  obtain ⟨-, hv, c', hc', hget'⟩ := hu
  rw [hget, Option.some.injEq] at hget'
  obtain ⟨htext, -⟩ := uid_inj (comma_notMem_of_isHexAddress hc.isHexAddress)
    (comma_notMem_of_isHexAddress hc'.isHexAddress) hget'
  rw [← text_injective (by decide) (by decide) htext] at hv
  exact ⟨hK, hv, c, hc, hget⟩

theorem Custody.moves (h : Custody D w) (hbound : BoundInv w') (hs : StoreShrinks w.erc721 w'.erc721)
    (hreg : RegistryInv C.toExtern D w'.erc721)
    (hn : ∀ x u, ReverseBinds w'.erc721 x u → nftOwner w x = some accModuleAddress →
      nftOwner w' x = some accModuleAddress)
    (he : ∀ u, ercOwner w u = some moduleAddress → ercOwner w' u = some moduleAddress) : Custody D w' where
  bound := hbound
  registry := hreg
  index := h.index.of_shrinks hs
  locked := by
    have hsub := h.locked.mono fun _ _ hb => ReverseBinds.of_shrinks hs hb
    refine (hsub.move_first fun x u hb _ => ⟨?_, hn x u hb⟩).move_second he
    exact nftOwner_ne_none hbound hb

section Out

variable {sender : AccAddress} {receiver : Address} {K : GoString} {w₁ : World C} {pair : TokenPair}
  {ids : List (GoString × GoString)}

/-- An NFT of the batch was with the sender, so its token is with the module account. It is then bound under a text
that the conversion looks for. -/
lemma OutBatch.rebindable (batch : OutBatch w w' sender receiver K w₁ pair ids) (hinv : Custody D w)
    (hsender : sender ≠ accModuleAddress) (hK : comma ∉ K) (x : GoString × GoString) (hx : x ∈ ids) :
    Rebindable C.toExtern w₁.erc721 pair.getERC721Contract.lowerHex (tokenValue x.1) K x.2 := by
  intro c hc hget
  have hindex := hinv.index.of_shrinks batch.prepares.store
  have hmem : ((K, x.2), (pair.getERC721Contract, tokenValue x.1)) ∈
      ids.map fun x => ((K, x.2), (pair.getERC721Contract, tokenValue x.1)) := List.mem_map_of_mem hx
  rw [hexToAddress_lowerHex] at hc
  have hbinds := hindex.reverseBinds_of_get hK hc hget
  rcases batch.rounds.source_of_mem hmem with hnone | ⟨-, hunder⟩
  · exfalso
    have hgiven : nftOwner w (K, x.2) = some sender := (batch.rounds.custody_of_mem hmem).1
    have hlocked := hinv.locked.locked (hbinds.of_shrinks batch.prepares.store) (by
      rw [hgiven]
      exact fun h => hsender (Option.some.inj h))
    rw [hnone] at hlocked
    cases hlocked
  · obtain ⟨c', hc', htext, hget'⟩ := hunder.reverse hindex (isHexAddress_lowerHex _)
    rw [hget, Option.some.injEq] at hget'
    obtain ⟨-, rfl⟩ := uid_inj (comma_notMem_of_isHexAddress hc.isHexAddress)
      (comma_notMem_of_isHexAddress htext.isHexAddress) hget'
    exact hc'

theorem convertNFT_custody (hinj : Set.InjOn C.tmhash D) {msg : MsgConvertNFT}
    (valid : msg.validateBasic C.toExtern = .ok ()) (hs : C.decodeAcc msg.cosmosSender = .ok sender)
    (hsender : sender ≠ accModuleAddress) (hD : PairsIn D w'.erc721) (h : convertNFT w msg = .ok w')
    (hinv : Custody D w) : Custody D w' := by
  have hreg : RegistryInv C.toExtern D w'.erc721 :=
    convertNFT_registryInv (msg.classId_and_ids valid).1 hinv.registry hinv.bound.plain hD h
  obtain ⟨w₁, pair, ids, batch, -⟩ := convertNFT_batch hs h
  have hreg₁ : RegistryInv C.toExtern D w₁.erc721 := hreg.congr (sameRegistry_bindPairs batch.bound).symm
  obtain ⟨-, -, -, hK, hibc⟩ := hreg₁.pair _ _ (pairById_eq_ok.mp batch.pair_eq).2
  rw [hreg₁.classId_eq hinj batch.pair_eq] at hK hibc
  have hindex := hinv.index.of_shrinks batch.prepares.store
  have hc := isHexAddress_lowerHex pair.getERC721Contract
  have hpre := batch.rebindable hinv hsender hK
  refine ⟨convertNFT_boundInv valid h hinv.bound, hreg, (bindPairs_ok hindex hc hK hibc hpre batch.bound).1, ?_⟩
  have hlocked := hinv.locked.mono fun _ _ hb => ReverseBinds.of_shrinks batch.prepares.store hb
  refine hlocked.exchange_first batch.rounds hsender (fun _ ho => ho) (fun x u hmem hb => ?_) (fun x u hb => ?_)
  · obtain ⟨hu, hunder⟩ := hb
    obtain ⟨y, -, heq⟩ := List.mem_map.mp hmem
    have hx : x.1 = msg.classId := by rw [← (Prod.mk.inj heq).1]
    have hbinds := hunder.reverseBinds hindex hc (hx ▸ hK)
    rw [← hu] at hbinds
    exact hbinds
  · rcases reverseBinds_of_bindPairs hindex hc hK hibc hpre batch.bound hb with ⟨y, hy, rfl, rfl⟩ | ⟨hold, -⟩
    · rw [hexToAddress_lowerHex]
      exact .inl (List.mem_map_of_mem hy)
    · exact .inr hold

end Out

section In

variable {c K : GoString} {w₁ : World C} {pair : TokenPair} {ids : List (GoString × GoString)}

lemma InBatch.rebindable {sender : Address} {recipient : AccAddress}
    (batch : InBatch w w' sender recipient c K w₁ pair ids) (hinv : Custody D w) (hhex : isHexAddress c = true)
    (hK : comma ∉ K) (x : GoString × GoString) (hx : x ∈ ids) :
    Rebindable C.toExtern w₁.erc721 c (tokenValue x.1) K x.2 := by
  intro c' hc hget
  have hindex := hinv.index.of_shrinks batch.prepares.store
  have hmem : ((hexToAddress c, tokenValue x.1), (K, x.2)) ∈
      ids.map fun x => ((hexToAddress c, tokenValue x.1), (K, x.2)) := List.mem_map_of_mem hx
  have hbinds := hindex.reverseBinds_of_get hK hc hget
  rcases batch.rounds.source_of_mem hmem with hnone | ⟨-, hunder⟩
  · exact absurd hnone (hinv.locked.exists_of_bound (hbinds.of_shrinks batch.prepares.store))
  · obtain ⟨c'', hmem', htext, hget'⟩ := hunder.reverse hindex hhex
    rw [hget, Option.some.injEq] at hget'
    obtain ⟨-, rfl⟩ := uid_inj (comma_notMem_of_isHexAddress hc.isHexAddress)
      (comma_notMem_of_isHexAddress htext.isHexAddress) hget'
    exact hmem'

/-- What `ConvertERC721` leaves: the NFTs of the batch are the recipient's and may go on from there, since their
tokens are with the module account. -/
structure Unwrapped (D : Set GoString) (w' : World C) (K : GoString) (ns : List GoString) (recipient : AccAddress) :
    Prop where
  registry : RegistryInv C.toExtern D w'.erc721
  index : IndexInv w'.erc721
  plain : comma ∉ K
  nonVoucher : isIBCDenom K = false
  received : ∀ n ∈ ns, nftOwner w' (K, n) = some recipient
  reverse : ∀ n ∈ ns, ∃ uid, uid ≠ [] ∧ w'.erc721.byNFTUID.get? (createNFTUID K n) = some uid
  locked : ∀ f, (∀ n ∈ ns, f (K, n) ≠ none) → (∀ x, ¬(x.1 = K ∧ x.2 ∈ ns) → f x = nftOwner w' x) →
    Locked (ReverseBinds w'.erc721) accModuleAddress moduleAddress f (ercOwner w')

theorem convertERC721_unwrapped (hinj : Set.InjOn C.tmhash D) {msg : MsgConvertERC721}
    (hb : isBlank msg.classId = false) (hne : msg.evmTokenIds ≠ []) (hhex : isHexAddress msg.evmContractAddress = true)
    {sender recipient : AccAddress} (hs : C.decodeAcc msg.cosmosSender = .ok sender)
    (hsender : evmAddress sender ≠ moduleAddress) (hr : C.decodeAcc msg.cosmosReceiver = .ok recipient)
    (hD : PairsIn D w'.erc721) {res : MsgConvertERC721Response} (h : convertERC721 w msg = .ok (w', res))
    (hinv : Custody D w) : Unwrapped D w' msg.classId res.cosmosTokenIds recipient := by
  have hreg : RegistryInv C.toExtern D w'.erc721 := convertERC721_registryInv hb hne hinv.registry hD h
  obtain ⟨w₁, pair, ns, batch, named, rfl⟩ := convertERC721_batch hb hne hs hr (hinv.registry.consistent hinj) h
  have hreg₁ : RegistryInv C.toExtern D w₁.erc721 := hreg.congr batch.registry.symm
  obtain ⟨-, -, -, hK, hibc⟩ := hreg₁.pair _ _ (getPairByEVM_eq_ok.mp batch.pair_eq).2
  rw [batch.class_eq] at hK hibc
  have hindex := hinv.index.of_shrinks batch.prepares.store
  obtain ⟨-, hhex'⟩ := hexToAddress_canonical hhex
  have hpre := batch.rebindable hinv hhex' hK
  have hwrites := batch.settled hibc
  -- the NFTs of the batch are those that the response names
  have hmem : ∀ n, (∃ t, (t, n) ∈ msg.evmTokenIds.zip ns) ↔ n ∈ ns := by
    intro n
    have hsnd : (msg.evmTokenIds.zip ns).map Prod.snd = ns := List.map_snd_zip named.length_eq.ge
    have hiff : n ∈ (msg.evmTokenIds.zip ns).map Prod.snd ↔ ∃ t, (t, n) ∈ msg.evmTokenIds.zip ns := by simp
    rw [hsnd] at hiff
    exact hiff.symm
  obtain ⟨hindex', -, hnew⟩ := bindPairs_ok hindex hhex' hK hibc hpre hwrites
  refine ⟨hreg, hindex', hK, hibc, fun n hn => ?_, fun n hn => ?_, fun f hin hout => ?_⟩
  · obtain ⟨t, ht⟩ := (hmem n).mpr hn
    exact batch.rounds.receiver_of_mem (List.mem_map_of_mem (f := fun x => (_, (msg.classId, x.2))) ht)
  · obtain ⟨t, ht⟩ := (hmem n).mpr hn
    exact ⟨_, createTokenUID_ne_nil _ _, (hnew _ ht).2⟩
  · have hlocked := hinv.locked.mono fun _ _ hb => ReverseBinds.of_shrinks batch.prepares.store hb
    refine hlocked.exchange_second batch.rounds hsender (fun o ho => ?_) (fun x u hbinds => ?_) (fun u x hx => ?_)
      (fun x hx => ?_)
    · simpa [inTerms, hibc] using ho
    · rcases reverseBinds_of_bindPairs hindex hhex' hK hibc hpre hwrites hbinds with ⟨y, hy, rfl, rfl⟩ | ⟨hold, hnew⟩
      · exact .inl (List.mem_map_of_mem hy)
      · refine .inr ⟨hold, fun u hu => ?_⟩
        obtain ⟨y, hy, heq⟩ := List.mem_map.mp hu
        exact hnew y hy (Prod.mk.inj heq).2.symm
    · obtain ⟨y, hy, heq⟩ := List.mem_map.mp hx
      rw [← (Prod.mk.inj heq).2]
      exact hin y.2 ((hmem y.2).mp ⟨y.1, hy⟩)
    · have hfree : ¬(x.1 = msg.classId ∧ x.2 ∈ ns) := by
        rintro ⟨hclass, hn⟩
        obtain ⟨t, ht⟩ := (hmem x.2).mpr hn
        apply hx (_, tokenValue t)
        rw [← Prod.mk.eta (p := x), hclass]
        exact List.mem_map.mpr ⟨(t, x.2), ht, rfl⟩
      rw [hout x hfree]
      exact batch.rounds.received_of_notMem hx

theorem convertERC721_custody (hinj : Set.InjOn C.tmhash D) {msg : MsgConvertERC721} (hmsg : msg.Valid C.toExtern)
    {sender : AccAddress} (hs : C.decodeAcc msg.cosmosSender = .ok sender)
    (hsender : evmAddress sender ≠ moduleAddress) (hD : PairsIn D w'.erc721) {res : MsgConvertERC721Response}
    (h : convertERC721 w msg = .ok (w', res)) (hinv : Custody D w) : Custody D w' := by
  obtain ⟨recipient, hr⟩ := hmsg.receiver
  have hun := convertERC721_unwrapped hinj hmsg.classId hmsg.nonempty hmsg.contract hs hsender hr hD h hinv
  refine ⟨convertERC721_boundInv hmsg.classId hmsg.nonempty h hinv.bound, hun.registry, hun.index,
    hun.locked _ (fun n hn => ?_) (fun _ _ => rfl)⟩
  rw [hun.received n hn]
  exact Option.some_ne_none _

end In

end Uptick.Erc721
