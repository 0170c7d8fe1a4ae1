import Uptick.Erc721.Index
import Uptick.Sample

/-!
# The pair index as a one-to-one relation

A well-formed index stores each token under one spelling of its value and its contract, and its two
directions are inverse to each other. It then stands for a one-to-one relation between tokens and
NFTs, and a write through `SetNFTPairs` inserts one pair into that relation.
-/

namespace Uptick.Erc721

open Text Numeral Evm Outcome

section

variable (X : Extern)

/-- The key spells token `v` of contract `a`: the token id in base 10 or in the `0x` form, the
contract in lower case or in the EIP-55 form. -/
def SpellsToken (uid : GoString) (v : Nat) (a : Address) : Prop :=
  ∃ t c, uid = createTokenUID c t ∧ (t = text 10 v ∨ legacyEVMTokenID (text 10 v) = some t) ∧
    (c = a.lowerHex ∨ c = a.hex X.keccak256)

/-- The two directions of the index are inverse to each other. -/
def ExactInverse (st : Store) : Prop :=
  ∀ x y, st.byTokenUID.get? x = some y ↔ st.byNFTUID.get? y = some x

structure WellFormed (st : Store) : Prop where
  exact : ExactInverse st
  spelled : ∀ x y, st.byTokenUID.get? x = some y → ∃ v a, SpellsToken X x v a
  unique : ∀ x x' y y' v a, st.byTokenUID.get? x = some y → st.byTokenUID.get? x' = some y' →
    SpellsToken X x v a → SpellsToken X x' v a → x = x'

/-- The relation that the index stands for. -/
def Binds (st : Store) (v : Nat) (a : Address) (nftUID : GoString) : Prop :=
  ∃ uid, SpellsToken X uid v a ∧ st.byTokenUID.get? uid = some nftUID

variable {X}

lemma spellsToken_iff {uid : GoString} {v : Nat} {a : Address} (hv : v < 2 ^ 256) :
    SpellsToken X uid v a ↔
      ∃ t ∈ tokenSpellings v, ∃ c ∈ addressSpellings X a, uid = createTokenUID c t := by
  have htoken : ∀ t, (t = text 10 v ∨ legacyEVMTokenID (text 10 v) = some t) ↔ t ∈ tokenSpellings v := by
    intro t
    rw [legacyEVMTokenID_text, tokenSpellings]
    by_cases h0 : v = 0
    · simp [h0]
    · rw [if_neg (by omega), if_neg h0]
      simp [eq_comm]
  constructor
  · rintro ⟨t, c, rfl, ht, hc⟩
    exact ⟨t, (htoken t).mp ht, c, mem_addressSpellings.mpr hc, rfl⟩
  · rintro ⟨t, ht, c, hc, rfl⟩
    exact ⟨t, c, rfl, (htoken t).mpr ht, mem_addressSpellings.mp hc⟩

lemma mem_variantUIDs_iff_spells {c t uid : GoString} {v : Nat} {legacy : Bool}
    (hc : isHexAddress c = true) (hx : has0xPrefix c = true)
    (hp : parseEVMTokenIDValue t true = .ok (v, legacy)) :
    uid ∈ variantUIDs X c t ↔ SpellsToken X uid v (hexToAddress c) := by
  rw [mem_variantUIDs, evmTokenIDKeyVariants_of_parse hp, contractAddressKeyVariants_of_0x hc hx,
    spellsToken_iff (parseEVMTokenIDValue_eq_ok.mp hp).2.1]

lemma comma_notMem_of_spelling {a : Address} {c : GoString} (h : c = a.lowerHex ∨ c = a.hex X.keccak256) :
    comma ∉ c := by
  rcases h with rfl | rfl <;> exact comma_notMem_of_isHexAddress (by simp)

lemma spellsToken_unique {uid : GoString} {v w : Nat} {a b : Address} (h : SpellsToken X uid v a)
    (h' : SpellsToken X uid w b) : v = w ∧ a = b := by
  obtain ⟨t, c, rfl, ht, hc⟩ := h
  obtain ⟨t', c', huid, ht', hc'⟩ := h'
  obtain ⟨rfl, rfl⟩ := uid_inj (comma_notMem_of_spelling hc) (comma_notMem_of_spelling hc') huid
  constructor
  · rw [legacyEVMTokenID_text] at ht ht'
    -- A base-10 text never starts with the mark of the other form.
    rcases ht with rfl | ht <;> rcases ht' with ht' | ht'
    · exact text_injective (by decide) (by decide) ht'
    · split at ht'
      · cases ht'
      · exact absurd (Option.some.inj ht') (legacyText_ne_text w v)
    · subst ht'
      split at ht
      · cases ht
      · exact absurd (Option.some.inj ht) (legacyText_ne_text v w)
    · split at ht
      · cases ht
      · split at ht'
        · cases ht'
        · have heq : legacyText v = legacyText w := (Option.some.inj ht).trans (Option.some.inj ht').symm
          have hv := parse_legacyText (show v < 2 ^ 256 by omega)
          rw [heq, parse_legacyText (show w < 2 ^ 256 by omega)] at hv
          exact (Prod.mk.inj (Except.ok.inj hv)).1.symm
  · have ha : hexToAddress c = a := by rcases hc with rfl | rfl <;> simp
    have hb : hexToAddress c = b := by rcases hc' with rfl | rfl <;> simp
    rw [← ha, hb]

lemma spellsToken_canonical (v : Nat) (a : Address) :
    SpellsToken X (createTokenUID a.lowerHex (text 10 v)) v a :=
  ⟨text 10 v, a.lowerHex, rfl, Or.inl rfl, Or.inl rfl⟩

lemma equal_of_spellsToken {uid : GoString} {v : Nat} {a : Address} (h : SpellsToken X uid v a) {w : Nat}
    (hw : w < 2 ^ 256) {b : Address} (ht : equalEVMTokenID (getNFTFromUID uid).1 (text 10 w) = true)
    (hc : equalContractAddress (getNFTFromUID uid).2 b.lowerHex = true) : v = w ∧ a = b := by
  obtain ⟨t, c, rfl, htv, hca⟩ := h
  have hcne : isHexAddress c = true := by rcases hca with rfl | rfl <;> simp
  have htne : t ≠ [] := by
    rintro rfl
    rcases htv with htv | htv
    · exact text_ne_nil 10 v htv.symm
    · rw [legacyEVMTokenID_text] at htv
      split at htv
      · cases htv
      · simp [legacyText, str_0x] at htv
  rw [getNFTFromUID_createTokenUID htne (ne_nil_of_isHexAddress hcne)
    (comma_notMem_of_isHexAddress hcne)] at ht hc
  refine ⟨?_, ?_⟩
  · by_cases hv : v < 2 ^ 256
    · have hmem : t ∈ tokenSpellings v := by
        obtain ⟨t', ht', c', hc', heq⟩ :=
          (spellsToken_iff hv).mp ⟨t, c, rfl, htv, hca⟩
        obtain ⟨rfl, -⟩ := uid_inj (comma_notMem_of_isHexAddress hcne)
          (comma_notMem_of_isHexAddress (isHexAddress_of_mem_addressSpellings hc')) heq
        exact ht'
      obtain ⟨l, hp⟩ := parse_of_mem_tokenSpellings hv hmem
      exact (equalEVMTokenID_of_parse hp (parse_text hw true)).mp ht
    · -- A text above the range equals a text in the range only letter by letter.
      rw [legacyEVMTokenID_text, if_pos (Or.inr (by omega))] at htv
      have hteq : t = text 10 v := htv.resolve_right (by simp)
      subst hteq
      unfold equalEVMTokenID at ht
      rw [Bool.or_eq_true, beq_iff_eq] at ht
      rcases ht with ht | ht
      · exact text_injective (by decide) (by decide) ht
      · cases hp : parseEVMTokenIDValue (text 10 v) true with
        | error e =>
          rw [hp] at ht
          cases ht
        | ok r =>
          obtain ⟨u, l⟩ := r
          obtain ⟨hl, hu, hs⟩ := parseEVMTokenIDValue_eq_ok.mp hp
          rw [has0xPrefix_text] at hl
          simp only [Bool.and_false] at hl
          subst hl
          rw [if_neg (by decide), if_neg (by decide), setString_text (by decide) (by decide)] at hs
          exact absurd (Int.ofNat.inj (Option.some.inj hs)) (by omega)
  · have ha : hexToAddress c = a := by rcases hca with rfl | rfl <;> simp
    rw [equalContractAddress_of_hex hcne (by simp), hexToAddress_lowerHex, ha] at hc
    exact hc

lemma ExactInverse.ne_nil {st : Store} (h : ExactInverse st) {x y : GoString}
    (hxy : st.byTokenUID.get? x = some y) : y ≠ [] := by
  rintro rfl
  have hrev := (h x []).mp hxy
  simp at hrev

section Write

variable {st : Store} {c t classID nftID : GoString} {v : Nat} {legacy : Bool}

lemma bound_of_accepts (hw : WellFormed X st) (hc : isHexAddress c = true) (hx : has0xPrefix c = true)
    (hacc : Accepts X st c t classID nftID v legacy) {uid y : GoString}
    (hs : SpellsToken X uid v (hexToAddress c)) (hy : st.byTokenUID.get? uid = some y) :
    y = createNFTUID classID nftID := by
  have hmem := (mem_variantUIDs_iff_spells hc hx hacc.parse).mpr hs
  have hget := KVStore.get_of_get? hy
  rcases hacc.agree uid hmem with hnil | heq
  · exact absurd (hget.symm.trans hnil) (hw.exact.ne_nil hy)
  · exact hget.symm.trans heq

lemma spells_of_accepts (hw : WellFormed X st) (hc : isHexAddress c = true) (hx : has0xPrefix c = true)
    (hacc : Accepts X st c t classID nftID v legacy) {uid : GoString}
    (hrev : st.byNFTUID.get? (createNFTUID classID nftID) = some uid) :
    SpellsToken X uid v (hexToAddress c) := by
  have hfwd := (hw.exact _ _).mpr hrev
  have hget := KVStore.get_of_get? hrev
  obtain ⟨w, b, hspells⟩ := hw.spelled _ _ hfwd
  have hcanon := canonicalContractAddress_of_0x hc hx
  rcases hacc.reverse with hnil | heq | ⟨ht, ha⟩
  · rw [hget] at hnil
    subst hnil
    simp at hfwd
  · rw [hget, hcanon] at heq
    subst heq
    exact spellsToken_canonical v _
  · rw [hget] at ht ha
    rw [hcanon] at ha
    obtain ⟨rfl, rfl⟩ := equal_of_spellsToken hspells (parseEVMTokenIDValue_eq_ok.mp hacc.parse).2.1 ht ha
    exact hspells

lemma byTokenUID_rebind_iff (hw : WellFormed X st) (hc : isHexAddress c = true) (hx : has0xPrefix c = true)
    (hacc : Accepts X st c t classID nftID v legacy) {uid y : GoString} :
    (rebind X st c t classID nftID v).byTokenUID.get? uid = some y ↔
      (uid = createTokenUID (hexToAddress c).lowerHex (text 10 v) ∧ y = createNFTUID classID nftID) ∨
      (¬ SpellsToken X uid v (hexToAddress c) ∧ st.byTokenUID.get? uid = some y) := by
  have hcanon := canonicalContractAddress_of_0x hc hx
  have hstale : uid ∈ staleKeys X st c t v ↔ (SpellsToken X uid v (hexToAddress c) ∧
      st.byTokenUID.get uid ≠ [] ∧ uid ≠ createTokenUID (hexToAddress c).lowerHex (text 10 v)) := by
    simp only [staleKeys, present, List.mem_filter, decide_eq_true_eq, hcanon,
      mem_variantUIDs_iff_spells hc hx hacc.parse, and_assoc]
  rw [byTokenUID_rebind, hcanon]
  by_cases huid : uid = createTokenUID (hexToAddress c).lowerHex (text 10 v)
  · have hs : SpellsToken X uid v (hexToAddress c) := huid ▸ spellsToken_canonical v _
    rw [if_pos huid]
    simp [huid, huid ▸ hs, eq_comm]
  · rw [if_neg huid]
    by_cases hs : SpellsToken X uid v (hexToAddress c)
    · have hnone : (if uid ∈ staleKeys X st c t v then none else st.byTokenUID.get? uid) = none := by
        split
        · rfl
        · rename_i hns
          cases hget : st.byTokenUID.get? uid with
          | none => rfl
          | some z =>
            have hz : st.byTokenUID.get uid ≠ [] := by
              rw [KVStore.get_of_get? hget]
              exact hw.exact.ne_nil hget
            exact absurd (hstale.mpr ⟨hs, hz, huid⟩) hns
      rw [hnone]
      simp [huid, hs]
    · rw [if_neg fun hmem => hs (hstale.mp hmem).1]
      simp [huid, hs]

lemma byNFTUID_rebind_iff (hc : isHexAddress c = true) (hx : has0xPrefix c = true) {uid y : GoString} :
    (rebind X st c t classID nftID v).byNFTUID.get? y = some uid ↔
      (uid = createTokenUID (hexToAddress c).lowerHex (text 10 v) ∧ y = createNFTUID classID nftID) ∨
      (y ≠ createNFTUID classID nftID ∧ st.byNFTUID.get? y = some uid) := by
  rw [byNFTUID_rebind, canonicalContractAddress_of_0x hc hx]
  by_cases hy : y = createNFTUID classID nftID
  · simp [hy, eq_comm]
  · simp [hy]

theorem wellFormed_rebind (hw : WellFormed X st) (hc : isHexAddress c = true) (hx : has0xPrefix c = true)
    (hacc : Accepts X st c t classID nftID v legacy) :
    WellFormed X (rebind X st c t classID nftID v) := by
  refine ⟨fun uid y => ?_, fun uid y huid => ?_, fun uid uid' y y' w b huid huid' hs hs' => ?_⟩
  · rw [byTokenUID_rebind_iff hw hc hx hacc, byNFTUID_rebind_iff hc hx]
    refine or_congr Iff.rfl ⟨?_, ?_⟩
    · rintro ⟨hns, hget⟩
      have hrev := (hw.exact _ _).mp hget
      refine ⟨?_, hrev⟩
      rintro rfl
      exact hns (spells_of_accepts hw hc hx hacc hrev)
    · rintro ⟨hne, hrev⟩
      have hget := (hw.exact _ _).mpr hrev
      exact ⟨fun hs => hne (bound_of_accepts hw hc hx hacc hs hget), hget⟩
  · rcases (byTokenUID_rebind_iff hw hc hx hacc).mp huid with ⟨rfl, -⟩ | ⟨-, hget⟩
    · exact ⟨v, _, spellsToken_canonical v _⟩
    · exact hw.spelled uid y hget
  · rcases (byTokenUID_rebind_iff hw hc hx hacc).mp huid with ⟨rfl, -⟩ | ⟨hns, hget⟩ <;>
      rcases (byTokenUID_rebind_iff hw hc hx hacc).mp huid' with ⟨rfl, -⟩ | ⟨hns', hget'⟩
    · rfl
    · obtain ⟨rfl, rfl⟩ := spellsToken_unique hs (spellsToken_canonical v _)
      exact absurd hs' hns'
    · obtain ⟨rfl, rfl⟩ := spellsToken_unique hs' (spellsToken_canonical v _)
      exact absurd hs hns
    · exact hw.unique uid uid' y y' w b hget hget' hs hs'

end Write

/-- `SetNFTPairs` with a contract spelled with `0x`, on a well-formed index: an error leaves the store
as it was; a success leaves a well-formed index that holds the binding under its canonical key in both
directions and every other binding, and the rest of the store, as before. -/
theorem setNFTPairs_wellFormed (X : Extern) (st : Store) (hw : WellFormed X st)
    (c t classID nftID : GoString) (hc : isHexAddress c = true) (hx : has0xPrefix c = true) :
    match setNFTPairs X st c t classID nftID with
    | (.error _, st') => st' = st
    | (.ok (), st') => WellFormed X st' ∧ ∃ v legacy, parseEVMTokenIDValue t true = .ok (v, legacy) ∧
        (∀ uid, st'.byTokenUID.get? uid = some (createNFTUID classID nftID) ↔
          uid = createTokenUID (hexToAddress c).lowerHex (text 10 v)) ∧
        (∀ y, st'.byNFTUID.get? y = some (createTokenUID (hexToAddress c).lowerHex (text 10 v)) ↔
          y = createNFTUID classID nftID) ∧
        (∀ uid, ¬ SpellsToken X uid v (hexToAddress c) →
          st'.byTokenUID.get? uid = st.byTokenUID.get? uid) ∧
        (∀ y, y ≠ createNFTUID classID nftID → st'.byNFTUID.get? y = st.byNFTUID.get? y) ∧
        { st' with byTokenUID := st.byTokenUID, byNFTUID := st.byNFTUID } = st := by
  cases hrun : setNFTPairs X st c t classID nftID with
  | mk outcome st' =>
    cases outcome with
    | error e => exact setNFTPairs_error hrun
    | ok u =>
      obtain ⟨v, legacy, hacc, rfl⟩ := setNFTPairs_eq_ok.mp hrun
      have hw' := wellFormed_rebind hw hc hx hacc
      have hkey := (byTokenUID_rebind_iff hw hc hx hacc).mpr (Or.inl ⟨rfl, rfl⟩)
      have hrev := (hw'.exact _ _).mp hkey
      refine ⟨hw', v, legacy, hacc.parse, fun uid => ⟨fun h => ?_, fun h => h ▸ hkey⟩,
        fun y => ⟨fun h => ?_, fun h => h ▸ hrev⟩, fun uid hns => ?_, fun y hy => ?_, rfl⟩
      · have huid := (hw'.exact _ _).mp h
        exact Option.some.inj (huid.symm.trans hrev)
      · have hy := (hw'.exact _ _).mpr h
        exact Option.some.inj (hy.symm.trans hkey)
      · have huid : uid ≠ createTokenUID (hexToAddress c).lowerHex (text 10 v) := by
          rintro rfl
          exact hns (spellsToken_canonical v _)
        ext y
        rw [byTokenUID_rebind_iff hw hc hx hacc]
        simp [huid, hns]
      · rw [byNFTUID_rebind, if_neg hy]

lemma wellFormed_single {st : Store} {uid y : GoString} {v : Nat} {a : Address} (hs : SpellsToken X uid v a)
    (hfwd : st.byTokenUID = KVStore.empty.set uid y) (hrev : st.byNFTUID = KVStore.empty.set y uid)
    (hy : y ≠ []) : WellFormed X st := by
  have huid : uid ≠ [] := by
    obtain ⟨t, c, rfl, -⟩ := hs
    exact createTokenUID_ne_nil c t
  have hget : ∀ x z, st.byTokenUID.get? x = some z ↔ x = uid ∧ z = y := by
    intro x z
    rw [hfwd, KVStore.get?_set _ huid]
    by_cases hx : x = uid <;> simp [hx, eq_comm]
  have hget' : ∀ z x, st.byNFTUID.get? z = some x ↔ x = uid ∧ z = y := by
    intro z x
    rw [hrev, KVStore.get?_set _ hy]
    by_cases hz : z = y <;> simp [hz, eq_comm]
  refine ⟨fun x z => by rw [hget, hget'], fun x z hx => ?_, fun x x' z z' w b hx hx' _ _ => ?_⟩
  · obtain ⟨rfl, rfl⟩ := (hget x z).mp hx
    exact ⟨v, a, hs⟩
  · rw [((hget x z).mp hx).1, ((hget x' z').mp hx').1]

/-- Token 5 of the sample contract, bound under the `0x` spelling of its id. -/
def legacyStore : Store :=
  { Store.empty with
    byTokenUID := KVStore.empty.set (createTokenUID Sample.contract (str "0x05")) (str "cat1,kitty")
    byNFTUID := KVStore.empty.set (str "cat1,kitty") (createTokenUID Sample.contract (str "0x05")) }

lemma wellFormed_legacyStore : WellFormed Sample.X legacyStore := by
  have hs : SpellsToken Sample.X (createTokenUID Sample.contract (str "0x05")) 5
      (hexToAddress Sample.contract) :=
    ⟨str "0x05", Sample.contract, rfl, Or.inr (by decide +kernel), Or.inl (by decide +kernel)⟩
  exact wellFormed_single hs rfl rfl (by decide +kernel)

/-- Writing the binding again with the base-10 id moves it to the canonical key. -/
theorem setNFTPairs_wellFormed_upgrade :
    WellFormed Sample.X
      (setNFTPairs Sample.X legacyStore Sample.contract (str "5") (str "kitty") (str "cat1")).2 ∧
    (setNFTPairs Sample.X legacyStore Sample.contract (str "5") (str "kitty") (str "cat1")).2.byTokenUID.keys =
      [createTokenUID Sample.contract (str "5")] := by
  have h := setNFTPairs_wellFormed Sample.X legacyStore wellFormed_legacyStore Sample.contract (str "5")
    (str "kitty") (str "cat1") (by decide +kernel) (by decide +kernel)
  have hok : (setNFTPairs Sample.X legacyStore Sample.contract (str "5") (str "kitty") (str "cat1")).1.toBool =
      true := by decide +kernel
  refine ⟨?_, by decide +kernel⟩
  cases hrun : setNFTPairs Sample.X legacyStore Sample.contract (str "5") (str "kitty") (str "cat1") with
  | mk outcome st' =>
    rw [hrun] at h hok
    cases outcome with
    | error e => cases hok
    | ok u => exact h.1

end

end Uptick.Erc721
