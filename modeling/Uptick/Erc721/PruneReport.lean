import Uptick.Erc721.Prune
import Uptick.Sample

/-!
# What a pruned index is

The pass is one function of the store: it gives every forward key one kind, removes the duplicates and
finds nothing more to remove. Its clean verdict looks at keys and counts, and its duplicates are keys
that the reverse index vouches for; on a damaged index neither says what the forward index holds.
-/

namespace Uptick.Erc721

open Text Numeral Evm Outcome GoMap

section Report

variable {X : Extern} (o o' : MapOrder) {st st' : Store}

/-- What a forward key can be. -/
inductive KeyKind
  | authority | deleted | conflict | orphan
  deriving DecidableEq

/-- A forward key of `st` is of this kind, as the report `r` has it. -/
def UIDIndexPruneReport.Lists (r : UIDIndexPruneReport) (st : Store) (uid : GoString) : KeyKind → Prop
  | .authority => Authority st uid
  | .deleted => uid ∈ r.deleted
  | .conflict => uid ∈ r.conflicts
  | .orphan => uid ∈ r.orphans

lemma existsUnique_kind {uid : GoString} (h : st.byTokenUID.has uid = true) :
    ∃! kind, (pruneDuplicateUIDIndexEntries X o st).2.Lists st uid kind := by
  by_cases hauth : Authority st uid
  · refine ⟨.authority, hauth, fun kind hkind => ?_⟩
    cases kind with
    | authority => rfl
    | deleted => exact absurd hauth ((mem_report_deleted o).mp hkind).1
    | conflict => exact absurd hauth ((mem_report_conflicts o).mp hkind).2.1
    | orphan => exact absurd hauth.claimed ((mem_report_orphans o).mp hkind).2
  by_cases hclaim : Claimed X st uid
  · by_cases hdup : Duplicate X st uid
    · refine ⟨.deleted, (mem_report_deleted o).mpr hdup, fun kind hkind => ?_⟩
      cases kind with
      | authority => exact absurd hkind hauth
      | deleted => rfl
      | conflict => exact absurd hdup ((mem_report_conflicts o).mp hkind).2.2.2
      | orphan => exact absurd hclaim ((mem_report_orphans o).mp hkind).2
    · refine ⟨.conflict, (mem_report_conflicts o).mpr ⟨h, hauth, hclaim, hdup⟩, fun kind hkind => ?_⟩
      cases kind with
      | authority => exact absurd hkind hauth
      | deleted => exact absurd ((mem_report_deleted o).mp hkind) hdup
      | conflict => rfl
      | orphan => exact absurd hclaim ((mem_report_orphans o).mp hkind).2
  · refine ⟨.orphan, (mem_report_orphans o).mpr ⟨h, hclaim⟩, fun kind hkind => ?_⟩
    cases kind with
    | authority => exact absurd hkind hauth
    | deleted => exact absurd ((mem_report_deleted o).mp hkind).claimed hclaim
    | conflict => exact absurd ((mem_report_conflicts o).mp hkind).2.2.1 hclaim
    | orphan => rfl

lemma prune_order : pruneDuplicateUIDIndexEntries X o st = pruneDuplicateUIDIndexEntries X o' st := by
  have hreport : (pruneDuplicateUIDIndexEntries X o st).2 = (pruneDuplicateUIDIndexEntries X o' st).2 := by
    have hdeleted := report_deleted_congr o o' fun uid => Iff.refl (Duplicate X st uid)
    have hconflicts := report_conflicts_congr o o' fun uid => Iff.refl (Conflicting X st uid)
    have horphans := report_orphans_congr o o' fun uid => Iff.refl (Orphaned X st uid)
    have hunpaired := report_unpaired_congr (X := X) o o' (Eq.refl st.byNFTUID) fun _ _ => rfl
    simp only [pruneDuplicateUIDIndexEntries] at hdeleted hconflicts horphans hunpaired ⊢
    rw [hdeleted, hconflicts, horphans, hunpaired]
  refine Prod.ext ?_ hreport
  rw [prune_store, prune_store, hreport]

lemma duplicate_prune (uid : GoString) :
    ¬ Duplicate X (pruneDuplicateUIDIndexEntries X o st).1 uid := by
  rintro ⟨hauth, n, t, hget, hrev, hb⟩
  rw [byNFTUID_prune] at hrev
  obtain ⟨hfwd, hdup⟩ := (get?_prune o).mp hget
  refine hdup ⟨?_, n, t, hfwd, hrev, hb⟩
  rwa [Authority, byNFTUID_prune] at hauth

lemma has_prune {uid : GoString} (h : ¬ Duplicate X st uid) :
    (pruneDuplicateUIDIndexEntries X o st).1.byTokenUID.has uid = st.byTokenUID.has uid := by
  rw [prune_store, KVStore.has, KVStore.get?_deleteAll, if_neg (mt (mem_report_deleted o).mp h), KVStore.has]

lemma claimed_prune {uid : GoString} :
    Claimed X (pruneDuplicateUIDIndexEntries X o st).1 uid ↔ Claimed X st uid := by
  rw [Claimed, Claimed, byNFTUID_prune]

lemma authority_prune {uid : GoString} :
    Authority (pruneDuplicateUIDIndexEntries X o st).1 uid ↔ Authority st uid := by
  rw [Authority, Authority, byNFTUID_prune]

lemma conflicting_prune (uid : GoString) :
    Conflicting X (pruneDuplicateUIDIndexEntries X o st).1 uid ↔ Conflicting X st uid := by
  unfold Conflicting
  rw [authority_prune, claimed_prune]
  constructor
  · rintro ⟨hhas, hauth, hclaim, -⟩
    obtain ⟨n, hn⟩ := Option.isSome_iff_exists.mp hhas
    obtain ⟨hfwd, hdup⟩ := (get?_prune o).mp hn
    exact ⟨by simp [KVStore.has, hfwd], hauth, hclaim, hdup⟩
  · rintro ⟨hhas, hauth, hclaim, hdup⟩
    exact ⟨(has_prune o hdup).trans hhas, hauth, hclaim, duplicate_prune o uid⟩

lemma orphaned_prune (uid : GoString) :
    Orphaned X (pruneDuplicateUIDIndexEntries X o st).1 uid ↔ Orphaned X st uid := by
  unfold Orphaned
  rw [claimed_prune, and_congr_left_iff]
  intro hclaim
  rw [has_prune o fun hdup => hclaim hdup.claimed]

/-- The pass does not depend on the iteration orders. Every forward key is of one kind, only those
reported as deleted go, and a second pass finds the same store again and nothing to delete. -/
theorem prune_orderFree_partition_idempotent (X : Extern) (o o' : MapOrder) (st : Store) :
    pruneDuplicateUIDIndexEntries X o st = pruneDuplicateUIDIndexEntries X o' st ∧
      (∀ uid, st.byTokenUID.has uid = true →
        ∃! kind, (pruneDuplicateUIDIndexEntries X o st).2.Lists st uid kind) ∧
      (∀ uid ∈ (pruneDuplicateUIDIndexEntries X o st).2.deleted, st.byTokenUID.has uid = true) ∧
      (pruneDuplicateUIDIndexEntries X o st).1 = { st with
        byTokenUID := st.byTokenUID.deleteAll (pruneDuplicateUIDIndexEntries X o st).2.deleted } ∧
      let first := pruneDuplicateUIDIndexEntries X o st
      let second := pruneDuplicateUIDIndexEntries X o' first.1
      second.1 = first.1 ∧ second.2.deleted = [] ∧ second.2.conflicts = first.2.conflicts ∧
        second.2.orphans = first.2.orphans ∧ second.2.unpairedNFTs = first.2.unpairedNFTs := by
  have hnone : (pruneDuplicateUIDIndexEntries X o' (pruneDuplicateUIDIndexEntries X o st).1).2.deleted = [] := by
    rw [List.eq_nil_iff_forall_not_mem]
    intro uid hmem
    exact duplicate_prune o uid ((mem_report_deleted o').mp hmem)
  refine ⟨prune_order o o', fun uid h => existsUnique_kind o h,
    fun uid h => ((mem_report_deleted o).mp h).has, prune_store o, ?_, hnone, ?_, ?_, ?_⟩
  · rw [prune_store o', hnone]
    rfl
  · exact report_conflicts_congr o' o (conflicting_prune o)
  · exact report_orphans_congr o' o (orphaned_prune o)
  · refine report_unpaired_congr o' o (byNFTUID_prune o) fun uid hauth => has_prune o ?_
    exact fun hdup => hdup.1 ((authority_prune o).mp hauth)

def indexOnly (forward reverse : List (GoString × GoString)) : Store :=
  { Store.empty with
    byTokenUID := forward.foldl (fun s e => s.set e.1 e.2) .empty
    byNFTUID := reverse.foldl (fun s e => s.set e.1 e.2) .empty }

lemma uidIndexPruneClean_iff {r : UIDIndexPruneReport} : uidIndexPruneClean r = true ↔
    r.forwardAfter = r.scanned ∧ r.conflicts = [] ∧ r.orphans = [] ∧ r.unpairedNFTs = [] := by
  simp [uidIndexPruneClean, UIDIndexPruneReport.balanced, and_assoc]

lemma authority_of_clean (hclean : uidIndexPruneClean (pruneDuplicateUIDIndexEntries X o st).2 = true)
    {uid n : GoString} (h : (pruneDuplicateUIDIndexEntries X o st).1.byTokenUID.get? uid = some n) :
    Authority st uid := by
  obtain ⟨-, hconflicts, horphans, -⟩ := uidIndexPruneClean_iff.mp hclean
  obtain ⟨hfwd, hdup⟩ := (get?_prune o).mp h
  have hhas : st.byTokenUID.has uid = true := by simp [KVStore.has, hfwd]
  by_contra hauth
  by_cases hclaim : Claimed X st uid
  · have hmem := (mem_report_conflicts o).mpr ⟨hhas, hauth, hclaim, hdup⟩
    rw [hconflicts] at hmem
    exact List.not_mem_nil hmem
  · have hmem := (mem_report_orphans o).mpr ⟨hhas, hclaim⟩
    rw [horphans] at hmem
    exact List.not_mem_nil hmem

/-- A clean verdict compares keys and counts. The indexes are inverse to each other when, besides, the
key that each reverse entry names holds the NFT of the entry. -/
theorem prune_clean_inverse_iff (X : Extern) (o : MapOrder) (st : Store)
    (hclean : uidIndexPruneClean (pruneDuplicateUIDIndexEntries X o st).2 = true) :
    (∀ t n, (pruneDuplicateUIDIndexEntries X o st).1.byTokenUID.get? t = some n ↔
      (pruneDuplicateUIDIndexEntries X o st).1.byNFTUID.get? n = some t) ↔
    ∀ n t, st.byNFTUID.get? n = some t → st.byTokenUID.get? t = some n := by
  constructor
  · intro hinverse n t hrev
    have hafter := (hinverse t n).mpr (by rw [byNFTUID_prune]; exact hrev)
    exact ((get?_prune o).mp hafter).1
  · intro hvouched t n
    rw [byNFTUID_prune]
    constructor
    · intro hafter
      obtain ⟨n', hn'⟩ := authority_of_clean o hclean hafter
      have hsame := hvouched n' t hn'
      rw [((get?_prune o).mp hafter).1] at hsame
      rw [Option.some.inj hsame]
      exact hn'
    · intro hrev
      exact (get?_prune o).mpr ⟨hvouched n t hrev, fun hdup => hdup.1 ⟨n, hrev⟩⟩

/-- Token 7 is stored under its decimal and its `0x` spelling, token 8 under one. -/
def healthyIndex : Store :=
  indexOnly [(createTokenUID Sample.contract (str "7"), str "cat1,kitty"),
      (createTokenUID Sample.contract (str "0x07"), str "cat1,kitty"),
      (createTokenUID Sample.contract (str "8"), str "cat2,kitty")]
    [(str "cat1,kitty", createTokenUID Sample.contract (str "7")),
      (str "cat2,kitty", createTokenUID Sample.contract (str "8"))]

/-- Two tokens, each bound to the NFT of the other in the forward direction. -/
def crossedIndex : Store :=
  indexOnly [(str "1,0x4444444444444444444444444444444444444444", str "cat2,kitty"),
      (str "2,0x4444444444444444444444444444444444444444", str "cat1,kitty")]
    [(str "cat1,kitty", str "1,0x4444444444444444444444444444444444444444"),
      (str "cat2,kitty", str "2,0x4444444444444444444444444444444444444444")]

/-- One key of token 7 is pruned, and what is left are inverse indexes. -/
theorem prune_clean_inverse_healthy :
    (pruneDuplicateUIDIndexEntries Sample.X .listed healthyIndex).2.deleted =
      [createTokenUID Sample.contract (str "0x07")] ∧
    uidIndexPruneClean (pruneDuplicateUIDIndexEntries Sample.X .listed healthyIndex).2 = true ∧
    ∀ t n, (pruneDuplicateUIDIndexEntries Sample.X .listed healthyIndex).1.byTokenUID.get? t = some n ↔
      (pruneDuplicateUIDIndexEntries Sample.X .listed healthyIndex).1.byNFTUID.get? n = some t := by
  have hvouched : ∀ e ∈ healthyIndex.byNFTUID.entries, healthyIndex.byTokenUID.get? e.2 = some e.1 := by
    decide +kernel
  refine ⟨by decide +kernel, by decide +kernel, ?_⟩
  apply (prune_clean_inverse_iff Sample.X .listed healthyIndex (by decide +kernel)).mpr
  exact fun n t h => hvouched (n, t) (KVStore.mem_entries.mpr h)

theorem prune_clean_crossed :
    uidIndexPruneClean (pruneDuplicateUIDIndexEntries Sample.X .listed crossedIndex).2 = true ∧
      ∃ t n, (pruneDuplicateUIDIndexEntries Sample.X .listed crossedIndex).1.byTokenUID.get? t = some n ∧
        (pruneDuplicateUIDIndexEntries Sample.X .listed crossedIndex).1.byNFTUID.get? n ≠ some t :=
  ⟨by decide +kernel, str "1,0x4444444444444444444444444444444444444444", str "cat2,kitty",
    by decide +kernel, by decide +kernel⟩

/-- Two forward keys of one token: the same text, or two texts that denote the same number and the same
address. -/
def SameToken (uid uid' : GoString) : Prop :=
  uid = uid' ∨
    ((getNFTFromUID uid).1 ≠ [] ∧ (getNFTFromUID uid').1 ≠ [] ∧
      equalEVMTokenID (getNFTFromUID uid).1 (getNFTFromUID uid').1 = true ∧
      equalContractAddress (getNFTFromUID uid).2 (getNFTFromUID uid').2 = true)

/-- The first NFT that is found under the probed keys. -/
def firstHeld (st : Store) (uids : List GoString) : Option GoString :=
  (uids.map st.byTokenUID.get).find? (· ≠ [])

lemma resolveNFTUIDPair_fst {contract tokenID : GoString} :
    (resolveNFTUIDPair X st contract tokenID).1 = (firstHeld st (variantUIDs X contract tokenID)).getD [] := by
  unfold resolveNFTUIDPair firstHeld variantUIDs getNFTUIDPairByTokenUID
  induction keyVariants X contract tokenID with
  | nil => rfl
  | cons k ks ih =>
    by_cases hk : st.byTokenUID.get k.2 = []
    · simpa [hk] using ih
    · simp [hk]

lemma firstHeld_ne_nil {uids : List GoString} {n : GoString} (h : firstHeld st uids = some n) : n ≠ [] := by
  simpa using List.find?_some h

lemma exists_of_firstHeld {uids : List GoString} {n : GoString} (h : firstHeld st uids = some n) :
    ∃ before uid after, uids = before ++ uid :: after ∧ (∀ k ∈ before, st.byTokenUID.get k = []) ∧
      st.byTokenUID.get uid = n := by
  induction uids with
  | nil => cases h
  | cons k uids ih =>
    by_cases hk : st.byTokenUID.get k = []
    · rw [firstHeld, List.map_cons, List.find?_cons_of_neg (by simp [hk])] at h
      obtain ⟨before, uid, after, rfl, hbefore, hget⟩ := ih h
      exact ⟨k :: before, uid, after, rfl, by simpa [hk] using hbefore, hget⟩
    · rw [firstHeld, List.map_cons, List.find?_cons_of_pos (by simp [hk])] at h
      exact ⟨[], k, uids, rfl, by simp, Option.some.inj h⟩

lemma firstHeld_of_split {before after : List GoString} {uid n : GoString} (hn : n ≠ [])
    (hget : st.byTokenUID.get uid = n)
    (hbefore : ∀ k ∈ before, st.byTokenUID.get k = [] ∨ st.byTokenUID.get k = n) :
    firstHeld st (before ++ uid :: after) = some n := by
  induction before with
  | nil => simp [firstHeld, hget, hn]
  | cons k before ih =>
    have hrest := ih fun k' hk' => hbefore k' (List.mem_cons_of_mem _ hk')
    rcases hbefore k List.mem_cons_self with hk | hk
    · simpa [firstHeld, hk] using hrest
    · simp [firstHeld, hk, hn]

lemma get_prune (uid : GoString) :
    (pruneDuplicateUIDIndexEntries X o st).1.byTokenUID.get uid = [] ∨
      (pruneDuplicateUIDIndexEntries X o st).1.byTokenUID.get uid = st.byTokenUID.get uid := by
  rw [prune_store, KVStore.get, KVStore.get?_deleteAll]
  split_ifs
  · exact .inl rfl
  · exact .inr rfl

lemma get_prune_of_not_duplicate {uid : GoString} (h : ¬ Duplicate X st uid) :
    (pruneDuplicateUIDIndexEntries X o st).1.byTokenUID.get uid = st.byTokenUID.get uid := by
  rw [prune_store, KVStore.get, KVStore.get?_deleteAll, if_neg (mt (mem_report_deleted o).mp h), KVStore.get]

lemma canonicalTokenUID_of_cut {uid : GoString} (h : (getNFTFromUID uid).2 ≠ []) :
    canonicalTokenUID X uid = createTokenUID (canonicalContractAddress (getNFTFromUID uid).2)
      ((evmTokenIDKeyVariants (getNFTFromUID uid).1).headD []) := by
  have hfst : (getNFTFromUID uid).1 ≠ [] := (eq_of_getNFTFromUID rfl h).2.2
  obtain ⟨t, ts, ht⟩ : ∃ t ts, evmTokenIDKeyVariants (getNFTFromUID uid).1 = t :: ts := by
    unfold evmTokenIDKeyVariants
    split
    · exact ⟨_, _, rfl⟩
    · split
      · split <;> exact ⟨_, _, rfl⟩
      · exact ⟨_, _, rfl⟩
  obtain ⟨cs, hcs⟩ : ∃ cs, contractAddressKeyVariants X (getNFTFromUID uid).2 =
      canonicalContractAddress (getNFTFromUID uid).2 :: cs := by
    unfold contractAddressKeyVariants
    dsimp only
    split
    · split <;> exact ⟨_, rfl⟩
    · exact ⟨_, rfl⟩
  simp [canonicalTokenUID, tokenUIDKeyVariants, hfst, h, ht, hcs]

lemma canonicalTokenUID_of_uncut {uid : GoString} (h : (getNFTFromUID uid).2 = []) : canonicalTokenUID X uid = uid := by
  simp [canonicalTokenUID, tokenUIDKeyVariants, h]

lemma canonicalContractAddress_ne_nil {a : GoString} (h : a ≠ []) : canonicalContractAddress a ≠ [] := by
  unfold canonicalContractAddress
  split
  · simpa [toLower] using h
  · exact h

lemma getNFTFromUID_canonicalTokenUID {uid : GoString} (h : (getNFTFromUID uid).2 ≠ []) :
    getNFTFromUID (canonicalTokenUID X uid) = ((evmTokenIDKeyVariants (getNFTFromUID uid).1).headD [],
      canonicalContractAddress (getNFTFromUID uid).2) := by
  obtain ⟨-, hcomma, hfst⟩ := @eq_of_getNFTFromUID uid _ _ rfl h
  rw [canonicalTokenUID_of_cut h]
  apply getNFTFromUID_createTokenUID
  · rcases headD_evmTokenIDKeyVariants (getNFTFromUID uid).1 with ⟨v, l, -, hhead⟩ | ⟨-, hhead⟩
    · rw [hhead]
      exact text_ne_nil 10 v
    · rw [hhead]
      exact hfst
  · exact canonicalContractAddress_ne_nil h
  · unfold canonicalContractAddress
    split
    · next hhex => exact comma_notMem_of_isHexAddress (by rw [isHexAddress_toLower]; exact hhex)
    · exact hcomma

lemma sameToken_of_canonical {uid uid' : GoString} (h : canonicalTokenUID X uid = canonicalTokenUID X uid') :
    SameToken uid uid' := by
  by_cases hcut : (getNFTFromUID uid).2 = [] <;> by_cases hcut' : (getNFTFromUID uid').2 = []
  · rw [canonicalTokenUID_of_uncut hcut, canonicalTokenUID_of_uncut hcut'] at h
    exact .inl h
  · rw [canonicalTokenUID_of_uncut hcut] at h
    rw [h, getNFTFromUID_canonicalTokenUID hcut'] at hcut
    exact absurd hcut (canonicalContractAddress_ne_nil hcut')
  · rw [canonicalTokenUID_of_uncut hcut'] at h
    rw [← h, getNFTFromUID_canonicalTokenUID hcut] at hcut'
    exact absurd hcut' (canonicalContractAddress_ne_nil hcut)
  · have hparts := congrArg getNFTFromUID h
    rw [getNFTFromUID_canonicalTokenUID hcut, getNFTFromUID_canonicalTokenUID hcut', Prod.mk.injEq] at hparts
    exact .inr ⟨(eq_of_getNFTFromUID rfl hcut).2.2, (eq_of_getNFTFromUID rfl hcut').2.2,
      equalEVMTokenID_of_headD hparts.1, equalContractAddress_of_canonical hparts.2⟩

/-- The key `uid` of the NFT `n` is backed by the key `t`: it holds the NFT too, and every lookup that probes
`uid` probes it, before any key with another NFT. -/
structure Backed (X : Extern) (st : Store) (uid n t : GoString) : Prop where
  held : st.byTokenUID.get? t = some n
  probed : ∀ contract tokenID, uid ∈ variantUIDs X contract tokenID →
    ∃ before after, variantUIDs X contract tokenID = before ++ t :: after ∧
      ∀ k ∈ before, st.byTokenUID.get k = [] ∨ st.byTokenUID.get k = n

/-- The stores whose duplicates can go: each is backed by the key that the reverse entry of its NFT names. -/
def DuplicatesBacked (X : Extern) (st : Store) : Prop :=
  ∀ uid n t, ¬ Authority st uid → st.byTokenUID.get? uid = some n → st.byNFTUID.get? n = some t →
    canonicalTokenUID X uid = canonicalTokenUID X t → Backed X st uid n t

/-- Where the duplicates are backed, a token that was found before the pass is found with the same NFT after
it, and each deleted key leaves a key of its token with its NFT. -/
theorem prune_keeps_bindings (X : Extern) (o : MapOrder) (st : Store) (hbacked : DuplicatesBacked X st) :
    (∀ contract tokenID, (resolveNFTUIDPair X st contract tokenID).1 ≠ [] →
      (resolveNFTUIDPair X (pruneDuplicateUIDIndexEntries X o st).1 contract tokenID).1 =
        (resolveNFTUIDPair X st contract tokenID).1) ∧
    ∀ uid ∈ (pruneDuplicateUIDIndexEntries X o st).2.deleted, ∀ n, st.byTokenUID.get? uid = some n →
      ∃ uid', (pruneDuplicateUIDIndexEntries X o st).1.byTokenUID.get? uid' = some n ∧ SameToken uid uid' := by
  have hnamed : ∀ {n t}, st.byNFTUID.get? n = some t → ¬ Duplicate X st t := fun hrev hdup => hdup.1 ⟨_, hrev⟩
  constructor
  · intro contract tokenID hne
    rw [resolveNFTUIDPair_fst] at hne
    rw [resolveNFTUIDPair_fst, resolveNFTUIDPair_fst]
    cases hfirst : firstHeld st (variantUIDs X contract tokenID) with
    | none =>
      rw [hfirst] at hne
      exact absurd rfl hne
    | some n =>
      have hn : n ≠ [] := firstHeld_ne_nil hfirst
      obtain ⟨before, uid, after, huids, hbefore, hget⟩ := exists_of_firstHeld hfirst
      by_cases hdup : Duplicate X st uid
      · -- The key that is found first goes, the key that backs it stays.
        obtain ⟨hauth, n', t, hfwd, hrev, hb⟩ := hdup
        obtain rfl : n' = n := by rw [← hget, KVStore.get_of_get? hfwd]
        have hmem : uid ∈ variantUIDs X contract tokenID := by simp [huids]
        have hback := hbacked uid n' t hauth hfwd hrev hb
        obtain ⟨before', after', huids', hbefore'⟩ := hback.probed contract tokenID hmem
        rw [huids', firstHeld_of_split hn]
        · rw [get_prune_of_not_duplicate o (hnamed hrev), KVStore.get_of_get? hback.held]
        · intro k hk
          rcases @get_prune X o st k with hgone | hkept
          · exact .inl hgone
          · rw [hkept]
            exact hbefore' k hk
      · rw [huids, firstHeld_of_split hn]
        · rw [get_prune_of_not_duplicate o hdup, hget]
        · intro k hk
          rcases @get_prune X o st k with hgone | hkept
          · exact .inl hgone
          · exact .inl (hkept.trans (hbefore k hk))
  · intro uid hmem n hn
    obtain ⟨hauth, n', t, hfwd, hrev, hb⟩ := (mem_report_deleted o).mp hmem
    obtain rfl : n' = n := Option.some.inj (hfwd.symm.trans hn)
    exact ⟨t, (get?_prune o).mpr ⟨(hbacked uid n' t hauth hfwd hrev hb).held, hnamed hrev⟩,
      sameToken_of_canonical hb⟩

lemma mem_variants_of_probed {a s contract tokenID : GoString} (ha : comma ∉ a) (hs : comma ∉ s)
    (h : createTokenUID a s ∈ variantUIDs X contract tokenID) :
    s ∈ evmTokenIDKeyVariants tokenID ∧ a ∈ contractAddressKeyVariants X contract := by
  obtain ⟨t, ht, c, hc, heq⟩ := mem_variantUIDs.mp h
  have hcount : (createTokenUID a s).count comma = (createTokenUID c t).count comma := by rw [heq]
  have hcomma : comma ∉ c := by
    rw [← List.count_eq_zero]
    simp only [createTokenUID, List.count_append, List.count_cons_self, List.count_eq_zero_of_not_mem ha,
      List.count_eq_zero_of_not_mem hs] at hcount
    omega
  obtain ⟨rfl, rfl⟩ := uid_inj ha hcomma heq
  exact ⟨ht, hc⟩

lemma variantUIDs_of_probed {contract tokenID : GoString}
    (h : createTokenUID Sample.contract (str "0x07") ∈ variantUIDs Sample.X contract tokenID) :
    variantUIDs Sample.X contract tokenID = [createTokenUID Sample.contract (str "7"),
        createTokenUID Sample.contract (str "0x07")] ∨
      variantUIDs Sample.X contract tokenID = [createTokenUID (Sample.contract.drop 2) (str "7"),
        createTokenUID Sample.contract (str "7"), createTokenUID (Sample.contract.drop 2) (str "0x07"),
        createTokenUID Sample.contract (str "0x07")] := by
  obtain ⟨ht, hc⟩ := mem_variants_of_probed (by decide) (by decide) h
  have htokens : evmTokenIDKeyVariants tokenID = [str "7", str "0x07"] := by
    cases hp : canonicalEVMTokenID tokenID with
    | error e =>
      have hone : evmTokenIDKeyVariants tokenID = [tokenID] := by rw [evmTokenIDKeyVariants, hp]
      rw [hone, List.mem_singleton] at ht
      have hok : canonicalEVMTokenID (str "0x07") = .ok (str "7", true) := by decide +kernel
      rw [← ht, hok] at hp
      cases hp
    | ok p =>
      obtain ⟨v, hv, -⟩ := canonicalEVMTokenID_eq_ok.mp hp
      have hlt : v < 2 ^ 256 := (parseEVMTokenIDValue_eq_ok.mp hv).2.1
      rw [evmTokenIDKeyVariants_of_parse hv] at ht ⊢
      obtain ⟨l, hl⟩ := parse_of_mem_tokenSpellings hlt ht
      have hseven : parseEVMTokenIDValue (str "0x07") true = .ok (7, true) := by decide +kernel
      rw [hseven] at hl
      obtain ⟨rfl, -⟩ := Prod.mk.inj (Except.ok.inj hl)
      decide +kernel
  have hhex : isHexAddress contract = true := by
    by_contra hnot
    have hone : contractAddressKeyVariants Sample.X contract = [contract] := by
      simp [contractAddressKeyVariants, checksumContractAddress, canonicalContractAddress, hnot]
    rw [hone, List.mem_singleton] at hc
    subst hc
    exact hnot (by decide)
  have ha := hexToAddress_of_mem_variants hhex hc
  cases hx : has0xPrefix contract with
  | true =>
    left
    rw [variantUIDs, keyVariants, htokens, contractAddressKeyVariants_of_0x hhex hx, ← ha]
    decide +kernel
  | false =>
    right
    rw [variantUIDs, keyVariants, htokens, contractAddressKeyVariants_of_plain hhex hx, ← ha]
    decide +kernel

/-- The decimal key of token 7 backs the `0x` key, however the contract is spelled in a lookup. -/
lemma duplicatesBacked_healthyIndex : DuplicatesBacked Sample.X healthyIndex := by
  intro uid n t hauth hfwd hrev hb
  have hdup : ∀ e ∈ healthyIndex.byTokenUID.entries, e.1 = createTokenUID Sample.contract (str "0x07") ∨
      ∃ r ∈ healthyIndex.byNFTUID.entries, r.2 = e.1 := by decide +kernel
  have huid : uid = createTokenUID Sample.contract (str "0x07") := by
    rcases hdup (uid, n) (KVStore.mem_entries.mpr hfwd) with h | ⟨⟨m, uid'⟩, hr, rfl⟩
    · exact h
    · exact absurd ⟨m, KVStore.mem_entries.mp hr⟩ hauth
  subst huid
  have hn : healthyIndex.byTokenUID.get? (createTokenUID Sample.contract (str "0x07")) = some (str "cat1,kitty") := by
    decide +kernel
  obtain rfl : str "cat1,kitty" = n := Option.some.inj (hn.symm.trans hfwd)
  have ht : healthyIndex.byNFTUID.get? (str "cat1,kitty") = some (createTokenUID Sample.contract (str "7")) := by
    decide +kernel
  obtain rfl : createTokenUID Sample.contract (str "7") = t := Option.some.inj (ht.symm.trans hrev)
  refine ⟨by decide +kernel, fun contract tokenID h => ?_⟩
  rcases variantUIDs_of_probed h with hkeys | hkeys
  · exact ⟨[], _, hkeys, by simp⟩
  · refine ⟨[createTokenUID (Sample.contract.drop 2) (str "7")], _, hkeys, ?_⟩
    decide +kernel

theorem prune_keeps_bindings_healthy :
    DuplicatesBacked Sample.X healthyIndex ∧
    (pruneDuplicateUIDIndexEntries Sample.X .listed healthyIndex).2.deleted =
      [createTokenUID Sample.contract (str "0x07")] ∧
    (resolveNFTUIDPair Sample.X (pruneDuplicateUIDIndexEntries Sample.X .listed healthyIndex).1 Sample.contract
      (str "0x07")).1 = str "cat1,kitty" := by
  have hfound : (resolveNFTUIDPair Sample.X healthyIndex Sample.contract (str "0x07")).1 = str "cat1,kitty" := by
    decide +kernel
  refine ⟨duplicatesBacked_healthyIndex, by decide +kernel, ?_⟩
  rw [(prune_keeps_bindings Sample.X .listed healthyIndex duplicatesBacked_healthyIndex).1, hfound]
  rw [hfound]
  decide

/-- One token, stored under its lower-case key; the NFT names the EIP-55 key, which holds nothing. -/
def unbackedIndex : Store :=
  indexOnly [(str "7,0xa92ca1f63c993f2dd1ec18209579e3b263fdb09c", str "cat1,kitty")]
    [(str "cat1,kitty", createTokenUID (Sample.deployed.hex Sample.X.keccak256) (str "7"))]

theorem prune_loses_binding :
    (resolveNFTUIDPair Sample.X unbackedIndex (str "0xa92ca1f63c993f2dd1ec18209579e3b263fdb09c") (str "7")).1 =
        str "cat1,kitty" ∧
      (resolveNFTUIDPair Sample.X (pruneDuplicateUIDIndexEntries Sample.X .listed unbackedIndex).1
        (str "0xa92ca1f63c993f2dd1ec18209579e3b263fdb09c") (str "7")).1 = [] ∧
      (pruneDuplicateUIDIndexEntries Sample.X .listed unbackedIndex).2.deleted =
        [str "7,0xa92ca1f63c993f2dd1ec18209579e3b263fdb09c"] ∧
      (pruneDuplicateUIDIndexEntries Sample.X .listed unbackedIndex).1.byTokenUID.keys = [] := by
  decide +kernel

end Report

end Uptick.Erc721
