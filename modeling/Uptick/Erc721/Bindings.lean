import Uptick.Erc721.Prepare

/-!
# The bindings of the pair index

What the index of a module that started empty looks like: a forward entry has its reverse entry, and a
reverse entry names a token by its base-10 text and its contract in lower case, with `0x` or without. The
relation between NFTs and tokens that it stands for, and what the writes of a batch add to it.
-/

namespace Uptick.Erc721

open Text Numeral Evm Outcome Collection

/-- The forward index has the NFT under some spelling of the token. -/
def ForwardBinds (st : Store) (c : Address) (v : Nat) (K n : GoString) : Prop :=
  ∃ text t, st.byTokenUID.get? (createTokenUID text t) = some (createNFTUID K n) ∧
    parseEVMTokenID t = .ok v ∧ hexToAddress text = c

/-- The forward index has the NFT under a key that is probed for this contract text. -/
def BoundUnder (X : Extern) (st : Store) (c : GoString) (v : Nat) (K n : GoString) : Prop :=
  v < 2 ^ 256 ∧ ∃ uid ∈ variantUIDs X c (text 10 v), st.byTokenUID.get? uid = some (createNFTUID K n)

/-- A contract text as the index has it: lower case, with `0x` or without. -/
def CanonicalText (c : GoString) (a : Address) : Prop := c = a.lowerHex ∨ c = a.digits

/-- The reverse index has the token for the NFT. -/
def ReverseBinds (st : Store) (x : GoString × GoString) (t : Address × Nat) : Prop :=
  comma ∉ x.1 ∧ t.2 < 2 ^ 256 ∧ ∃ c, CanonicalText c t.1 ∧
    st.byNFTUID.get? (createNFTUID x.1 x.2) = some (createTokenUID c (text 10 t.2))

/-- The index of a module that started empty. -/
structure IndexInv (st : Store) : Prop where
  halfExact : HalfExact st
  reverse : ∀ y uid, st.byNFTUID.get? y = some uid →
    ∃ x t, y = createNFTUID x.1 x.2 ∧ isIBCDenom x.1 = false ∧ ReverseBinds st x t

section

variable {X : Extern} {st st' : Store} {c c' K n t : GoString} {a : Address} {v : Nat}

namespace CanonicalText

lemma isHexAddress (h : CanonicalText c a) : isHexAddress c = true := by
  rcases h with rfl | rfl
  · exact isHexAddress_lowerHex a
  · exact isHexAddress_digits a

lemma hexToAddress_eq (h : CanonicalText c a) : hexToAddress c = a := by
  rcases h with rfl | rfl
  · exact hexToAddress_lowerHex a
  · exact hexToAddress_digits a

lemma toLower_eq (h : CanonicalText c a) : toLower c = c := by
  rcases h with rfl | rfl
  · exact toLower_lowerHex a
  · exact toLower_digits a

lemma canonical_eq (h : CanonicalText c a) : canonicalContractAddress c = c := by
  rw [canonicalContractAddress, if_pos h.isHexAddress, h.toLower_eq]

end CanonicalText

lemma canonicalText_canonical (hc : isHexAddress c = true) :
    CanonicalText (canonicalContractAddress c) (hexToAddress c) := by
  cases hx : has0xPrefix c with
  | true => exact .inl (canonicalContractAddress_of_0x hc hx)
  | false => exact .inr (canonicalContractAddress_of_plain hc hx)

lemma parse_of_parseEVMTokenID (h : parseEVMTokenID t = .ok v) :
    ∃ legacy, parseEVMTokenIDValue t true = .ok (v, legacy) := by
  unfold parseEVMTokenID at h
  obtain ⟨⟨v', legacy⟩, hp, h⟩ := bind_eq_ok.mp h
  cases h
  exact ⟨legacy, hp⟩

lemma parseEVMTokenID_of_parse {legacy : Bool} (h : parseEVMTokenIDValue t true = .ok (v, legacy)) :
    parseEVMTokenID t = .ok v := by
  rw [parseEVMTokenID, h]
  rfl

/-- The number that a token id of a batch denotes. -/
def tokenValue (t : GoString) : Nat := ((parseEVMTokenID t).toOption).getD 0

lemma tokenValue_eq (h : parseEVMTokenID t = .ok v) : tokenValue t = v := by
  rw [tokenValue, h]
  rfl

lemma boundUnder_of_resolve (hv : parseEVMTokenID t = .ok v)
    (h : getNFTPairByContractTokenID X st c t = createNFTUID K n) : BoundUnder X st c v K n := by
  have hne : (resolveNFTUIDPair X st c t).1 ≠ [] := by
    intro h0
    exact createNFTUID_ne_nil K n (h.symm.trans h0)
  obtain ⟨uid, hmem, -, hget⟩ := @exists_of_resolveNFTUIDPair X st c t _ _ rfl hne
  obtain ⟨legacy, hp⟩ := parse_of_parseEVMTokenID hv
  refine ⟨(parseEVMTokenIDValue_eq_ok.mp hp).2.1, uid, ?_, hget.trans (congrArg some h)⟩
  rw [variantUIDs, keyVariants_of_parse hp]
  exact hmem

lemma exists_of_mem_variantUIDs {uid : GoString} (hv : v < 2 ^ 256) (h : uid ∈ variantUIDs X c (text 10 v)) :
    ∃ t ∈ tokenSpellings v, ∃ c' ∈ contractAddressKeyVariants X c, uid = createTokenUID c' t := by
  obtain ⟨t, ht, c', hc', rfl⟩ := mem_variantUIDs.mp h
  rw [evmTokenIDKeyVariants_of_parse (parse_text hv true)] at ht
  exact ⟨t, ht, c', hc', rfl⟩

lemma BoundUnder.forwardBinds (hc : isHexAddress c = true) (h : BoundUnder X st c v K n) :
    ForwardBinds st (hexToAddress c) v K n := by
  obtain ⟨hv, uid, hmem, hget⟩ := h
  obtain ⟨t, ht, c', hc', rfl⟩ := exists_of_mem_variantUIDs hv hmem
  obtain ⟨_, hp⟩ := parse_of_mem_tokenSpellings hv ht
  exact ⟨c', t, hget, parseEVMTokenID_of_parse hp, hexToAddress_of_mem_variants hc hc'⟩

lemma ForwardBinds.of_shrinks (hs : StoreShrinks st st') (h : ForwardBinds st' a v K n) :
    ForwardBinds st a v K n := by
  obtain ⟨text, t, hget, hv, hc⟩ := h
  exact ⟨text, t, hs.forward _ _ hget, hv, hc⟩

lemma ReverseBinds.of_shrinks {x : GoString × GoString} {u : Address × Nat} (hs : StoreShrinks st st')
    (h : ReverseBinds st' x u) : ReverseBinds st x u := by
  obtain ⟨hK, hv, c, hc, hget⟩ := h
  exact ⟨hK, hv, c, hc, hs.reverse _ _ hget⟩

lemma IndexInv.of_shrinks (hs : StoreShrinks st st') (h : IndexInv st) : IndexInv st' := by
  refine ⟨hs.halfExact h.halfExact, fun y uid hget => ?_⟩
  obtain ⟨x, u, rfl, hibc, hK, hv, c, hc, hold⟩ := h.reverse y uid (hs.reverse y uid hget)
  rw [hs.reverse _ _ hget] at hold
  exact ⟨x, u, rfl, hibc, hK, hv, c, hc, hget.trans hold⟩

lemma IndexInv.of_empty (hf : st.byTokenUID = .empty) (hr : st.byNFTUID = .empty) : IndexInv st := by
  refine ⟨fun uid y h => ?_, fun y uid h => ?_⟩
  · rw [hf] at h
    cases h
  · rw [hr] at h
    cases h

lemma ReverseBinds.unique {x : GoString × GoString} {u u' : Address × Nat} (h : ReverseBinds st x u)
    (h' : ReverseBinds st x u') : u = u' := by
  obtain ⟨-, -, c, hc, hget⟩ := h
  obtain ⟨-, -, c', hc', hget'⟩ := h'
  rw [hget, Option.some.injEq] at hget'
  obtain ⟨htext, rfl⟩ := uid_inj (comma_notMem_of_isHexAddress hc.isHexAddress)
    (comma_notMem_of_isHexAddress hc'.isHexAddress) hget'
  refine Prod.ext ?_ (text_injective (by decide) (by decide) htext)
  rw [← hc.hexToAddress_eq, ← hc'.hexToAddress_eq]

lemma IndexInv.reverseBinds (h : IndexInv st) (hK : comma ∉ K) {uid : GoString}
    (hget : st.byNFTUID.get? (createNFTUID K n) = some uid) :
    isIBCDenom K = false ∧ ∃ u, ReverseBinds st (K, n) u := by
  obtain ⟨⟨K', n'⟩, u, hkey, hibc, hbinds⟩ := h.reverse _ uid hget
  obtain ⟨rfl, rfl⟩ := uid_inj hK hbinds.1 hkey
  exact ⟨hibc, u, hbinds⟩

/-- The NFT is not bound to this token under a contract text that is not probed for this one. -/
def Rebindable (X : Extern) (st : Store) (c : GoString) (v : Nat) (K n : GoString) : Prop :=
  ∀ c', CanonicalText c' (hexToAddress c) →
    st.byNFTUID.get? (createNFTUID K n) = some (createTokenUID c' (text 10 v)) → c' ∈ contractAddressKeyVariants X c

lemma BoundUnder.reverse (hinv : IndexInv st) (hc : isHexAddress c = true) (h : BoundUnder X st c v K n) :
    ∃ c' ∈ contractAddressKeyVariants X c, CanonicalText c' (hexToAddress c) ∧
      st.byNFTUID.get? (createNFTUID K n) = some (createTokenUID c' (text 10 v)) := by
  obtain ⟨hv, uid, hmem, hget⟩ := h
  have hrev := hinv.halfExact _ _ hget
  obtain ⟨t, ht, c', hc', rfl⟩ := exists_of_mem_variantUIDs hv hmem
  obtain ⟨x, u, hkey, -, -, hu, c'', hc'', hget''⟩ := hinv.reverse _ _ hrev
  rw [← hkey, hrev, Option.some.injEq] at hget''
  obtain ⟨rfl, rfl⟩ := uid_inj (comma_notMem_contractVariants hc hc')
    (comma_notMem_of_isHexAddress hc''.isHexAddress) hget''
  obtain ⟨_, hp⟩ := parse_of_mem_tokenSpellings hv ht
  obtain ⟨rfl, -⟩ := Prod.mk.inj (Except.ok.inj ((parse_text hu true).symm.trans hp))
  have haddr : hexToAddress c = u.1 := by
    rw [← hexToAddress_of_mem_variants hc hc', hc''.hexToAddress_eq]
  rw [haddr]
  exact ⟨c', hc', hc'', hrev⟩

lemma BoundUnder.reverseBinds (hinv : IndexInv st) (hc : isHexAddress c = true) (hK : comma ∉ K)
    (h : BoundUnder X st c v K n) : ReverseBinds st (K, n) (hexToAddress c, v) := by
  obtain ⟨c', -, hc', hget⟩ := h.reverse hinv hc
  exact ⟨hK, h.1, c', hc', hget⟩

lemma Accepts.token_of_reverse {tokenID : GoString} {legacy : Bool} (hc : isHexAddress c = true)
    (h : Accepts X st c tokenID K n v legacy) (hc' : isHexAddress c' = true) {v' : Nat} (hv' : v' < 2 ^ 256)
    (hget : st.byNFTUID.get? (createNFTUID K n) = some (createTokenUID c' (text 10 v'))) :
    v' = v ∧ hexToAddress c' = hexToAddress c := by
  have hv : v < 2 ^ 256 := (parseEVMTokenIDValue_eq_ok.mp h.parse).2.1
  have hcanon := canonicalText_canonical hc
  have hval := KVStore.get_of_get? hget
  have hcut := getNFTFromUID_createTokenUID (text_ne_nil 10 v') (ne_nil_of_isHexAddress hc')
    (comma_notMem_of_isHexAddress hc')
  rcases h.reverse with hnil | hsame | ⟨htoken, hcontract⟩
  · rw [hval] at hnil
    exact absurd hnil (createTokenUID_ne_nil _ _)
  · rw [hval] at hsame
    obtain ⟨htext, hcc⟩ := uid_inj (comma_notMem_of_isHexAddress hc')
      (comma_notMem_of_isHexAddress hcanon.isHexAddress) hsame
    exact ⟨text_injective (by decide) (by decide) htext, by rw [hcc, hcanon.hexToAddress_eq]⟩
  · rw [hval, hcut] at htoken hcontract
    refine ⟨(equalEVMTokenID_of_parse (parse_text hv' true) (parse_text hv true)).mp htoken, ?_⟩
    rw [(equalContractAddress_of_hex hc' hcanon.isHexAddress).mp hcontract, hcanon.hexToAddress_eq]

/-- A write keeps the invariant, when the NFT is not bound to the token under another contract text. -/
lemma IndexInv.rebind {tokenID : GoString} {legacy : Bool} (hinv : IndexInv st) (hc : isHexAddress c = true)
    (hK : comma ∉ K) (hibc : isIBCDenom K = false) (hacc : Accepts X st c tokenID K n v legacy)
    (hpre : Rebindable X st c v K n) : IndexInv (Erc721.rebind X st c tokenID K n v) := by
  have hv : v < 2 ^ 256 := (parseEVMTokenIDValue_eq_ok.mp hacc.parse).2.1
  refine ⟨fun uid y hget => ?_, fun y uid hget => ?_⟩
  · rw [byTokenUID_rebind] at hget
    rw [byNFTUID_rebind]
    split at hget
    · next huid =>
      cases hget
      rw [if_pos rfl, huid]
    · next huid =>
      split at hget
      · cases hget
      · next hstale =>
        have hrev := hinv.halfExact _ _ hget
        rw [if_neg ?_]
        · exact hrev
        · -- another key of this NFT is a spelling of the token, so the write has dropped it
          rintro rfl
          obtain ⟨x, u, hkey, -, -, hu, c', hc', hget'⟩ := hinv.reverse _ _ hrev
          rw [← hkey, hrev, Option.some.injEq] at hget'
          subst hget'
          obtain ⟨rfl, haddr⟩ := hacc.token_of_reverse hc hc'.isHexAddress hu hrev
          rw [hc'.hexToAddress_eq] at haddr
          rw [haddr] at hc'
          apply hstale
          have hmem : createTokenUID c' (text 10 u.2) ∈ variantUIDs X c tokenID := by
            refine mem_variantUIDs.mpr ⟨text 10 u.2, ?_, c', hpre c' hc' hrev, rfl⟩
            rw [evmTokenIDKeyVariants_of_parse hacc.parse]
            simp [tokenSpellings]
          simp only [staleKeys, present, List.mem_filter, decide_eq_true_eq]
          exact ⟨⟨hmem, by rw [KVStore.get_of_get? hget]; exact createNFTUID_ne_nil K n⟩, huid⟩
  · rw [byNFTUID_rebind] at hget
    split at hget
    · next hy =>
      refine ⟨(K, n), (hexToAddress c, v), hy, hibc, hK, hv, _, canonicalText_canonical hc, ?_⟩
      rw [byNFTUID_rebind, if_pos rfl]
    · next hy =>
      obtain ⟨x, u, rfl, hx, hxK, hu, c', hc', hget'⟩ := hinv.reverse y uid hget
      refine ⟨x, u, rfl, hx, hxK, hu, c', hc', ?_⟩
      rw [byNFTUID_rebind, if_neg hy]
      exact hget'

variable {C : Chain} {ids : List (GoString × GoString)}

/-- The writes of a batch keep a reverse entry of their contract. -/
lemma bindPairs_keeps (hc : isHexAddress c = true) (h : bindPairs (C := C) st c K ids = .ok st') {y : GoString}
    (hv : v < 2 ^ 256) (hget : st.byNFTUID.get? y = some (createTokenUID (canonicalContractAddress c) (text 10 v))) :
    st'.byNFTUID.get? y = some (createTokenUID (canonicalContractAddress c) (text 10 v)) := by
  refine @forEach_invariant _ _ _ _ (fun s : Store => s.byNFTUID.get? y =
    some (createTokenUID (canonicalContractAddress c) (text 10 v))) _ (fun s x s' _ hs hstep => ?_) _ _ hget h
  obtain ⟨v', legacy, hacc, rfl⟩ := bindPair_eq_ok.mp hstep
  rw [byNFTUID_rebind]
  split
  · next hy =>
    rw [hy] at hs
    rw [(hacc.token_of_reverse hc (canonicalText_canonical hc).isHexAddress hv hs).1]
  · exact hs

theorem bindPairs_ok (hinv : IndexInv st) (hc : isHexAddress c = true) (hK : comma ∉ K)
    (hibc : isIBCDenom K = false)
    (hpre : ∀ x ∈ ids, Rebindable C.toExtern st c (tokenValue x.1) K x.2)
    (h : bindPairs (C := C) st c K ids = .ok st') :
    IndexInv st' ∧
      (∀ y, (∀ x ∈ ids, y ≠ createNFTUID K x.2) → st'.byNFTUID.get? y = st.byNFTUID.get? y) ∧
      (∀ x ∈ ids, tokenValue x.1 < 2 ^ 256 ∧ st'.byNFTUID.get? (createNFTUID K x.2) =
        some (createTokenUID (canonicalContractAddress c) (text 10 (tokenValue x.1)))) := by
  induction ids generalizing st with
  | nil =>
    cases h
    exact ⟨hinv, fun _ _ => rfl, by simp⟩
  | cons x xs ih =>
    obtain ⟨st₁, hbind, hrest⟩ := forEach_cons_eq_ok.mp h
    obtain ⟨v, legacy, hacc, rfl⟩ := bindPair_eq_ok.mp hbind
    have hv : v < 2 ^ 256 := (parseEVMTokenIDValue_eq_ok.mp hacc.parse).2.1
    have hvalue : tokenValue x.1 = v := tokenValue_eq (parseEVMTokenID_of_parse hacc.parse)
    have hinv₁ := hinv.rebind hc hK hibc hacc (hvalue ▸ hpre x (by simp))
    have hpre₁ : ∀ x' ∈ xs, Rebindable C.toExtern (rebind C.toExtern st c x.1 K x.2 v) c (tokenValue x'.1) K x'.2 := by
      intro x' hx' c' hc' hget
      rw [byNFTUID_rebind] at hget
      split at hget
      · obtain ⟨-, rfl⟩ := uid_inj (comma_notMem_of_isHexAddress (canonicalText_canonical hc).isHexAddress)
          (comma_notMem_of_isHexAddress hc'.isHexAddress) (Option.some.inj hget)
        exact canonicalContractAddress_mem C.toExtern c
      · exact hpre x' (by simp [hx']) c' hc' hget
    obtain ⟨hinv', hother, hnew⟩ := ih hinv₁ hpre₁ hrest
    refine ⟨hinv', fun y hy => ?_, fun x' hx' => ?_⟩
    · rw [hother y fun x' hx' => hy x' (by simp [hx']), byNFTUID_rebind, if_neg (hy x (by simp))]
    · rcases List.mem_cons.mp hx' with rfl | hx'
      · rw [hvalue]
        refine ⟨hv, bindPairs_keeps hc hrest hv ?_⟩
        rw [byNFTUID_rebind, if_pos rfl]
      · exact hnew x' hx'

lemma reverseBinds_of_bindPairs (hinv : IndexInv st) (hc : isHexAddress c = true) (hK : comma ∉ K)
    (hibc : isIBCDenom K = false) (hpre : ∀ x ∈ ids, Rebindable C.toExtern st c (tokenValue x.1) K x.2)
    (h : bindPairs (C := C) st c K ids = .ok st') {y : GoString × GoString} {u : Address × Nat}
    (hbinds : ReverseBinds st' y u) :
    (∃ x ∈ ids, y = (K, x.2) ∧ u = (hexToAddress c, tokenValue x.1)) ∨
      ReverseBinds st y u ∧ ∀ x ∈ ids, y ≠ (K, x.2) := by
  obtain ⟨-, hother, hnew⟩ := bindPairs_ok hinv hc hK hibc hpre h
  by_cases hmem : ∃ x ∈ ids, y = (K, x.2)
  · obtain ⟨x, hx, rfl⟩ := hmem
    obtain ⟨hv, hget⟩ := hnew x hx
    refine .inl ⟨x, hx, rfl, hbinds.unique ⟨hK, hv, _, canonicalText_canonical hc, hget⟩⟩
  · have hne : ∀ x ∈ ids, y ≠ (K, x.2) := fun x hx heq => hmem ⟨x, hx, heq⟩
    obtain ⟨hy, hv, c', hc', hget⟩ := hbinds
    refine .inr ⟨⟨hy, hv, c', hc', ?_⟩, hne⟩
    rw [← hother _ fun x hx heq => ?_]
    · exact hget
    · obtain ⟨hn, hK'⟩ := uid_inj hy hK heq
      exact hne x hx (Prod.ext hK' hn)

end

end Uptick.Erc721
