import Uptick.Erc721.Index
import Uptick.Lib.GoMap

/-!
# Pruning the pair index

`PruneDuplicateUIDIndexEntries` of `keeper/uid_index_prune.go` and the verdict that the v0.4.1 upgrade
handler takes from its report. The pass ranges over maps, so the iteration orders are a parameter.
-/

namespace Uptick.Erc721

open Text Numeral Evm Outcome GoMap

section Model

variable (X : Extern)

/-- Every spelling a forward key may have been written under, canonical first; a key that cannot be cut
is its only spelling. -/
def tokenUIDKeyVariants (tokenUID : GoString) : List GoString :=
  let (tokenID, address) := getNFTFromUID tokenUID
  if tokenID = [] ∨ address = [] then [tokenUID]
  else (evmTokenIDKeyVariants tokenID).flatMap fun tokenVariant =>
    (contractAddressKeyVariants X address).map fun addressVariant =>
      createTokenUID addressVariant tokenVariant

/-- `TokenUIDKeyVariants(tokenUID)[0]`: the binding that a forward key denotes. -/
def canonicalTokenUID (tokenUID : GoString) : GoString := (tokenUIDKeyVariants X tokenUID).headD []

structure UIDIndexPruneReport where
  scanned : Nat
  forwardBefore : Nat
  deleted : List GoString
  conflicts : List GoString
  orphans : List GoString
  unpairedNFTs : List GoString
  deriving DecidableEq, Repr

def UIDIndexPruneReport.forwardAfter (r : UIDIndexPruneReport) : Int := r.forwardBefore - r.deleted.length

def UIDIndexPruneReport.balanced (r : UIDIndexPruneReport) : Bool := r.forwardAfter = r.scanned

/-- The forward keys grouped by the binding they denote. -/
def groupByBinding (tokenUIDs : List GoString) : GoString → List GoString :=
  tokenUIDs.foldl (fun byBinding tokenUID =>
    let canonical := canonicalTokenUID X tokenUID
    Function.update byBinding canonical (byBinding canonical ++ [tokenUID])) fun _ => []

structure PruneMarks where
  accounted : List GoString
  deleted : List GoString
  conflicts : List GoString

/-- One candidate of a reverse entry: the entry's own key and every authority are passed over. -/
def markVariant (forward : KVStore GoString) (authorities : List GoString) (nftUID tokenUID : GoString)
    (m : PruneMarks) (variant : GoString) : PruneMarks :=
  if variant = tokenUID then m
  else if variant ∈ authorities then m
  else
    match forward.get? variant with
    | none => m
    | some stored =>
      let accounted := m.accounted.insert variant
      if stored = nftUID then ⟨accounted, m.deleted.insert variant, m.conflicts⟩
      else ⟨accounted, m.deleted, m.conflicts.insert variant⟩

def markEntry (forward : KVStore GoString) (authorities : List GoString)
    (byBinding : GoString → List GoString) (m : PruneMarks) (e : GoString × GoString) : PruneMarks :=
  (byBinding (canonicalTokenUID X e.2)).foldl (markVariant forward authorities e.1 e.2)
    { m with accounted := m.accounted.insert e.2 }

def sortedKeys (o : MapOrder) (site : Nat) (set : List GoString) : List GoString :=
  sortStrings (o.visit site set)

def authorities (o : MapOrder) (reverse : KVStore GoString) : List GoString :=
  (o.visit 0 reverse.entries).foldl (fun s e => s.insert e.2) []

def pruneMarks (o : MapOrder) (forward reverse : KVStore GoString) : PruneMarks :=
  (o.visit 2 reverse.entries).foldl
    (markEntry X forward (authorities o reverse) (groupByBinding X (o.visit 1 forward.keys))) ⟨[], [], []⟩

def pruneDuplicateUIDIndexEntries (o : MapOrder) (st : Store) : Store × UIDIndexPruneReport :=
  let forward := st.byTokenUID
  let reverse := st.byNFTUID
  let marks := pruneMarks X o forward reverse
  let conflicts := (o.visit 3 marks.deleted).foldl (fun s variant => s.filter (· ≠ variant)) marks.conflicts
  let orphans := (o.visit 4 forward.keys).filter (· ∉ marks.accounted)
  let unpaired := ((o.visit 5 reverse.entries).map Prod.snd).filter fun tokenUID => !forward.has tokenUID
  let st := (o.visit 6 marks.deleted).foldl deleteNFTUIDPairByTokenUID st
  (st, ⟨reverse.entries.length, forward.entries.length, sortedKeys o 7 marks.deleted,
    sortedKeys o 8 conflicts, sortStrings orphans, sortStrings unpaired⟩)

/-- `uidIndexPruneClean` of `app/upgrades/v041/migrate.go`. -/
def uidIndexPruneClean (r : UIDIndexPruneReport) : Bool :=
  r.balanced && r.conflicts.length = 0 && r.orphans.length = 0 && r.unpairedNFTs.length = 0

/-- Some reverse entry names this very key. -/
def Authority (st : Store) (uid : GoString) : Prop := ∃ n, st.byNFTUID.get? n = some uid

/-- Some reverse entry names a spelling of the binding that this key denotes. -/
def Claimed (st : Store) (uid : GoString) : Prop :=
  ∃ n t, st.byNFTUID.get? n = some t ∧ canonicalTokenUID X uid = canonicalTokenUID X t

/-- A forward key that no reverse entry names, while the entry of its NFT names another spelling. -/
def Duplicate (st : Store) (uid : GoString) : Prop :=
  ¬ Authority st uid ∧ ∃ n t, st.byTokenUID.get? uid = some n ∧ st.byNFTUID.get? n = some t ∧
    canonicalTokenUID X uid = canonicalTokenUID X t

/-- A forward key of a claimed binding that is neither an authority nor a duplicate. -/
def Conflicting (st : Store) (uid : GoString) : Prop :=
  st.byTokenUID.has uid = true ∧ ¬ Authority st uid ∧ Claimed X st uid ∧ ¬ Duplicate X st uid

/-- A forward key of a binding that no reverse entry claims. -/
def Orphaned (st : Store) (uid : GoString) : Prop := st.byTokenUID.has uid = true ∧ ¬ Claimed X st uid

end Model

section Marks

variable {X : Extern} {st : Store}

lemma mem_groupByBinding {uids : List GoString} {b uid : GoString} :
    uid ∈ groupByBinding X uids b ↔ uid ∈ uids ∧ canonicalTokenUID X uid = b := by
  have hloop := mem_foldl_iff (p := fun m : GoString → List GoString => m b)
    (f := fun m uid => Function.update m (canonicalTokenUID X uid) (m (canonicalTokenUID X uid) ++ [uid]))
    (Q := fun a x => x = a ∧ canonicalTokenUID X a = b) ?_ uids (fun _ => []) uid
  · rw [groupByBinding, hloop]
    constructor
    · rintro (h | ⟨a, ha, rfl, hb⟩)
      · simp at h
      · exact ⟨ha, hb⟩
    · rintro ⟨h, hb⟩
      exact .inr ⟨uid, h, rfl, hb⟩
  · intro m a x
    by_cases hab : canonicalTokenUID X a = b
    · subst hab
      simp
    · rw [Function.update_of_ne (Ne.symm hab)]
      simp [hab]

lemma mem_authorities (o : MapOrder) {uid : GoString} :
    uid ∈ authorities o st.byNFTUID ↔ Authority st uid := by
  have hloop := mem_foldl_iff (p := fun s : List GoString => s) (f := fun s (e : GoString × GoString) =>
    s.insert e.2) (Q := fun e x => x = e.2) (fun s e x => by rw [List.mem_insert_iff, or_comm])
    (o.visit 0 st.byNFTUID.entries) [] uid
  simp only [List.not_mem_nil, false_or, o.mem_visit] at hloop
  rw [authorities, hloop]
  constructor
  · rintro ⟨⟨n, t⟩, he, rfl⟩
    exact ⟨n, KVStore.mem_entries.mp he⟩
  · rintro ⟨n, hn⟩
    exact ⟨(n, uid), KVStore.mem_entries.mpr hn, rfl⟩

/-- The candidates that a reverse entry may judge. -/
def Judged (forward : KVStore GoString) (authorities : List GoString) (tokenUID variant : GoString) : Prop :=
  variant ≠ tokenUID ∧ variant ∉ authorities ∧ ∃ stored, forward.get? variant = some stored

section Variant

variable (forward : KVStore GoString) (authorities : List GoString) (nftUID tokenUID : GoString)
  (m : PruneMarks) (a x : GoString)

lemma mem_accounted_markVariant :
    x ∈ (markVariant forward authorities nftUID tokenUID m a).accounted ↔
      x ∈ m.accounted ∨ x = a ∧ Judged forward authorities tokenUID a := by
  unfold markVariant Judged
  split_ifs with h1 h2
  · simp [h1]
  · simp [h2]
  · cases hget : forward.get? a with
    | none => simp
    | some stored =>
      dsimp only
      split_ifs <;> simp [h1, h2, or_comm]

lemma mem_deleted_markVariant :
    x ∈ (markVariant forward authorities nftUID tokenUID m a).deleted ↔
      x ∈ m.deleted ∨ x = a ∧ Judged forward authorities tokenUID a ∧ forward.get? a = some nftUID := by
  unfold markVariant Judged
  split_ifs with h1 h2
  · simp [h1]
  · simp [h2]
  · cases hget : forward.get? a with
    | none => simp
    | some stored =>
      dsimp only
      split_ifs with h3
      · simp [h1, h2, h3, or_comm]
      · simp [h3]

lemma mem_conflicts_markVariant :
    x ∈ (markVariant forward authorities nftUID tokenUID m a).conflicts ↔
      x ∈ m.conflicts ∨ x = a ∧ Judged forward authorities tokenUID a ∧ forward.get? a ≠ some nftUID := by
  unfold markVariant Judged
  split_ifs with h1 h2
  · simp [h1]
  · simp [h2]
  · cases hget : forward.get? a with
    | none => simp
    | some stored =>
      dsimp only
      split_ifs with h3
      · simp [h3]
      · simp [h1, h2, h3, or_comm]

lemma nodup_deleted_markVariant (h : m.deleted.Nodup) :
    (markVariant forward authorities nftUID tokenUID m a).deleted.Nodup := by
  unfold markVariant
  split_ifs
  · exact h
  · exact h
  · cases forward.get? a with
    | none => exact h
    | some stored =>
      dsimp only
      split_ifs
      · exact h.insert
      · exact h

lemma nodup_conflicts_markVariant (h : m.conflicts.Nodup) :
    (markVariant forward authorities nftUID tokenUID m a).conflicts.Nodup := by
  unfold markVariant
  split_ifs
  · exact h
  · exact h
  · cases forward.get? a with
    | none => exact h
    | some stored =>
      dsimp only
      split_ifs
      · exact h
      · exact h.insert

end Variant

/-- A forward key that reverse entry `e` judges: it denotes the same binding and is no authority. -/
def JudgedBy (X : Extern) (st : Store) (e : GoString × GoString) (uid : GoString) : Prop :=
  canonicalTokenUID X uid = canonicalTokenUID X e.2 ∧ ¬ Authority st uid ∧
    ∃ stored, st.byTokenUID.get? uid = some stored

lemma judgedBy_iff (o : MapOrder) {e : GoString × GoString} (he : e ∈ st.byNFTUID.entries)
    (R : GoString → Prop) {uid : GoString} :
    (∃ a ∈ groupByBinding X (o.visit 1 st.byTokenUID.keys) (canonicalTokenUID X e.2),
      uid = a ∧ Judged st.byTokenUID (authorities o st.byNFTUID) e.2 a ∧ R a) ↔
      JudgedBy X st e uid ∧ R uid := by
  unfold Judged JudgedBy
  simp only [mem_groupByBinding, o.mem_visit, mem_authorities, KVStore.mem_keys]
  constructor
  · rintro ⟨a, ⟨-, hb⟩, rfl, ⟨-, hauth, hstored⟩, hR⟩
    exact ⟨⟨hb, hauth, hstored⟩, hR⟩
  · rintro ⟨⟨hb, hauth, hstored⟩, hR⟩
    refine ⟨uid, ⟨hstored, hb⟩, rfl, ⟨?_, hauth, hstored⟩, hR⟩
    -- The entry's own key is an authority.
    rintro rfl
    exact hauth ⟨e.1, KVStore.mem_entries.mp he⟩

variable (o : MapOrder)

lemma mem_accounted {uid : GoString} : uid ∈ (pruneMarks X o st.byTokenUID st.byNFTUID).accounted ↔
    ∃ e ∈ st.byNFTUID.entries, uid = e.2 ∨ JudgedBy X st e uid := by
  rw [pruneMarks, mem_foldl_iff (p := PruneMarks.accounted) (Q := fun e x => x = e.2 ∨
    ∃ a ∈ groupByBinding X (o.visit 1 st.byTokenUID.keys) (canonicalTokenUID X e.2),
      x = a ∧ Judged st.byTokenUID (authorities o st.byNFTUID) e.2 a ∧ True)]
  · simp only [List.not_mem_nil, false_or, o.mem_visit]
    refine exists_congr fun e => and_congr_right fun he => ?_
    rw [judgedBy_iff o he fun _ => True, and_true]
  · intro m e x
    rw [markEntry, mem_foldl_iff (p := PruneMarks.accounted)
      (mem_accounted_markVariant st.byTokenUID (authorities o st.byNFTUID) e.1 e.2), List.mem_insert_iff]
    simp only [and_true]
    tauto

lemma mem_deleted {uid : GoString} : uid ∈ (pruneMarks X o st.byTokenUID st.byNFTUID).deleted ↔
    Duplicate X st uid := by
  rw [pruneMarks, mem_foldl_iff (p := PruneMarks.deleted) (Q := fun e x =>
    ∃ a ∈ groupByBinding X (o.visit 1 st.byTokenUID.keys) (canonicalTokenUID X e.2),
      x = a ∧ Judged st.byTokenUID (authorities o st.byNFTUID) e.2 a ∧ st.byTokenUID.get? a = some e.1)]
  · simp only [List.not_mem_nil, false_or, o.mem_visit]
    constructor
    · rintro ⟨e, he, hcand⟩
      obtain ⟨⟨hb, hauth, -⟩, hget⟩ := (judgedBy_iff o he fun a => st.byTokenUID.get? a = some e.1).mp hcand
      exact ⟨hauth, e.1, e.2, hget, KVStore.mem_entries.mp he, hb⟩
    · rintro ⟨hauth, n, t, hget, hrev, hb⟩
      have he : (n, t) ∈ st.byNFTUID.entries := KVStore.mem_entries.mpr hrev
      exact ⟨(n, t), he, (judgedBy_iff o he fun a => st.byTokenUID.get? a = some n).mpr
        ⟨⟨hb, hauth, n, hget⟩, hget⟩⟩
  · intro m e x
    exact mem_foldl_iff (p := PruneMarks.deleted)
      (mem_deleted_markVariant st.byTokenUID (authorities o st.byNFTUID) e.1 e.2) _ _ x

lemma mem_conflicts {uid : GoString} : uid ∈ (pruneMarks X o st.byTokenUID st.byNFTUID).conflicts ↔
    ∃ e ∈ st.byNFTUID.entries, JudgedBy X st e uid ∧ st.byTokenUID.get? uid ≠ some e.1 := by
  rw [pruneMarks, mem_foldl_iff (p := PruneMarks.conflicts) (Q := fun e x =>
    ∃ a ∈ groupByBinding X (o.visit 1 st.byTokenUID.keys) (canonicalTokenUID X e.2),
      x = a ∧ Judged st.byTokenUID (authorities o st.byNFTUID) e.2 a ∧ st.byTokenUID.get? a ≠ some e.1)]
  · simp only [List.not_mem_nil, false_or, o.mem_visit]
    refine exists_congr fun e => and_congr_right fun he => ?_
    exact judgedBy_iff o he fun a => st.byTokenUID.get? a ≠ some e.1
  · intro m e x
    exact mem_foldl_iff (p := PruneMarks.conflicts)
      (mem_conflicts_markVariant st.byTokenUID (authorities o st.byNFTUID) e.1 e.2) _ _ x

lemma nodup_deleted : (pruneMarks X o st.byTokenUID st.byNFTUID).deleted.Nodup := by
  refine nodup_foldl (p := PruneMarks.deleted) (fun m e hm => ?_) _ List.nodup_nil
  exact nodup_foldl (fun m a => nodup_deleted_markVariant _ _ _ _ m a) _ hm

lemma nodup_conflicts : (pruneMarks X o st.byTokenUID st.byNFTUID).conflicts.Nodup := by
  refine nodup_foldl (p := PruneMarks.conflicts) (fun m e hm => ?_) _ List.nodup_nil
  exact nodup_foldl (fun m a => nodup_conflicts_markVariant _ _ _ _ m a) _ hm

end Marks

section Report

variable {X : Extern}

lemma Authority.claimed {st : Store} {uid : GoString} (h : Authority st uid) : Claimed X st uid := by
  obtain ⟨n, hn⟩ := h
  exact ⟨n, uid, hn, rfl⟩

lemma Duplicate.claimed {st : Store} {uid : GoString} (h : Duplicate X st uid) : Claimed X st uid := by
  obtain ⟨-, n, t, -, hrev, hb⟩ := h
  exact ⟨n, t, hrev, hb⟩

lemma Duplicate.has {st : Store} {uid : GoString} (h : Duplicate X st uid) : st.byTokenUID.has uid = true := by
  obtain ⟨-, n, t, hget, -⟩ := h
  simp [KVStore.has, hget]

variable (o o' : MapOrder) {st st' : Store}

lemma mem_report_deleted {uid : GoString} :
    uid ∈ (pruneDuplicateUIDIndexEntries X o st).2.deleted ↔ Duplicate X st uid := by
  simp only [pruneDuplicateUIDIndexEntries, sortedKeys, mem_sortStrings, o.mem_visit, mem_deleted]

lemma mem_unresolved {s l : List GoString} {uid : GoString} :
    uid ∈ l.foldl (fun s variant => s.filter (· ≠ variant)) s ↔ uid ∈ s ∧ uid ∉ l := by
  induction l generalizing s with
  | nil => simp
  | cons a l ih =>
    rw [List.foldl_cons, ih, List.mem_filter]
    simp only [decide_eq_true_eq, List.mem_cons, not_or]
    tauto

lemma nodup_unresolved {s l : List GoString} (h : s.Nodup) :
    (l.foldl (fun s variant => s.filter (· ≠ variant)) s).Nodup :=
  nodup_foldl (p := fun s : List GoString => s) (fun _ _ hs => hs.filter _) l h

lemma mem_report_conflicts {uid : GoString} :
    uid ∈ (pruneDuplicateUIDIndexEntries X o st).2.conflicts ↔ Conflicting X st uid := by
  simp only [pruneDuplicateUIDIndexEntries, sortedKeys, mem_sortStrings, o.mem_visit, mem_unresolved,
    mem_deleted, mem_conflicts]
  constructor
  · rintro ⟨⟨e, he, ⟨hb, hauth, stored, hget⟩, -⟩, hdup⟩
    have hhas : st.byTokenUID.has uid = true := by simp [KVStore.has, hget]
    exact ⟨hhas, hauth, ⟨e.1, e.2, KVStore.mem_entries.mp he, hb⟩, hdup⟩
  · rintro ⟨hhas, hauth, ⟨n, t, hrev, hb⟩, hdup⟩
    obtain ⟨stored, hget⟩ := Option.isSome_iff_exists.mp hhas
    refine ⟨⟨(n, t), KVStore.mem_entries.mpr hrev, ⟨hb, hauth, stored, hget⟩, ?_⟩, hdup⟩
    intro hn
    exact hdup ⟨hauth, n, t, hn, hrev, hb⟩

lemma mem_report_orphans {uid : GoString} :
    uid ∈ (pruneDuplicateUIDIndexEntries X o st).2.orphans ↔ Orphaned X st uid := by
  simp only [pruneDuplicateUIDIndexEntries, mem_sortStrings, List.mem_filter, o.mem_visit, mem_accounted,
    decide_eq_true_eq, KVStore.mem_keys]
  constructor
  · rintro ⟨⟨stored, hget⟩, hacc⟩
    refine ⟨by simp [KVStore.has, hget], ?_⟩
    rintro ⟨n, t, hrev, hb⟩
    by_cases hauth : Authority st uid
    · obtain ⟨n', hn'⟩ := hauth
      exact hacc ⟨(n', uid), KVStore.mem_entries.mpr hn', .inl rfl⟩
    · exact hacc ⟨(n, t), KVStore.mem_entries.mpr hrev, .inr ⟨hb, hauth, stored, hget⟩⟩
  · rintro ⟨hhas, hclaim⟩
    refine ⟨Option.isSome_iff_exists.mp hhas, ?_⟩
    rintro ⟨e, he, rfl | ⟨hb, -⟩⟩
    · exact hclaim ⟨e.1, e.2, KVStore.mem_entries.mp he, rfl⟩
    · exact hclaim ⟨e.1, e.2, KVStore.mem_entries.mp he, hb⟩

lemma get?_prune {uid n : GoString} :
    (pruneDuplicateUIDIndexEntries X o st).1.byTokenUID.get? uid = some n ↔
      st.byTokenUID.get? uid = some n ∧ ¬ Duplicate X st uid := by
  simp only [pruneDuplicateUIDIndexEntries, byTokenUID_foldl_delete, KVStore.get?_deleteAll, o.mem_visit,
    mem_deleted]
  split_ifs with hdel
  · have hdup : Duplicate X st uid := (mem_deleted o).mp ((o.mem_visit 6).mp hdel)
    simp [hdup]
  · have hdup : ¬ Duplicate X st uid := fun h => hdel ((o.mem_visit 6).mpr ((mem_deleted o).mpr h))
    simp [hdup]

lemma byNFTUID_prune : (pruneDuplicateUIDIndexEntries X o st).1.byNFTUID = st.byNFTUID := by
  simp only [pruneDuplicateUIDIndexEntries, byTokenUID_foldl_delete]

lemma report_deleted_congr (h : ∀ uid, Duplicate X st uid ↔ Duplicate X st' uid) :
    (pruneDuplicateUIDIndexEntries X o st).2.deleted = (pruneDuplicateUIDIndexEntries X o' st').2.deleted := by
  refine sortStrings_eq_of_mem_iff (o.nodup_visit 7 (nodup_deleted o)) (o'.nodup_visit 7 (nodup_deleted o'))
    fun uid => ?_
  rw [o.mem_visit, o'.mem_visit, mem_deleted, mem_deleted, h]

lemma report_conflicts_congr (h : ∀ uid, Conflicting X st uid ↔ Conflicting X st' uid) :
    (pruneDuplicateUIDIndexEntries X o st).2.conflicts =
      (pruneDuplicateUIDIndexEntries X o' st').2.conflicts := by
  refine sortStrings_eq_of_mem_iff (o.nodup_visit 8 (nodup_unresolved (nodup_conflicts o)))
    (o'.nodup_visit 8 (nodup_unresolved (nodup_conflicts o'))) fun uid => ?_
  have hmem := (mem_report_conflicts o).trans ((h uid).trans (mem_report_conflicts o').symm)
  simpa only [pruneDuplicateUIDIndexEntries, sortedKeys, mem_sortStrings] using hmem

lemma report_orphans_congr (h : ∀ uid, Orphaned X st uid ↔ Orphaned X st' uid) :
    (pruneDuplicateUIDIndexEntries X o st).2.orphans = (pruneDuplicateUIDIndexEntries X o' st').2.orphans := by
  refine sortStrings_eq_of_mem_iff ((o.nodup_visit 4 st.byTokenUID.nodup_keys).filter _)
    ((o'.nodup_visit 4 st'.byTokenUID.nodup_keys).filter _) fun uid => ?_
  have hmem := (mem_report_orphans o).trans ((h uid).trans (mem_report_orphans o').symm)
  simpa only [pruneDuplicateUIDIndexEntries, mem_sortStrings] using hmem

lemma report_unpaired_congr (hrev : st.byNFTUID = st'.byNFTUID)
    (h : ∀ uid, Authority st uid → st.byTokenUID.has uid = st'.byTokenUID.has uid) :
    (pruneDuplicateUIDIndexEntries X o st).2.unpairedNFTs =
      (pruneDuplicateUIDIndexEntries X o' st').2.unpairedNFTs := by
  refine sortStrings_eq_of_perm ?_
  rw [← hrev]
  have hfilter : ∀ l : List GoString, (∀ t ∈ l, Authority st t) →
      l.filter (fun t => !st'.byTokenUID.has t) = l.filter fun t => !st.byTokenUID.has t := by
    intro l hl
    exact List.filter_congr fun t ht => by rw [h t (hl t ht)]
  have hauth : ∀ t ∈ (o'.visit 5 st.byNFTUID.entries).map Prod.snd, Authority st t := by
    intro t ht
    obtain ⟨e, he, rfl⟩ := List.mem_map.mp ht
    exact ⟨e.1, KVStore.mem_entries.mp ((o'.mem_visit 5).mp he)⟩
  rw [hfilter _ hauth]
  apply List.Perm.filter
  apply List.Perm.map
  exact (o.visit_perm 5 _).trans (o'.visit_perm 5 _).symm

/-- The pass changes the forward index only, by the keys it reports as deleted. -/
lemma prune_store : (pruneDuplicateUIDIndexEntries X o st).1 =
    { st with
      byTokenUID := st.byTokenUID.deleteAll (pruneDuplicateUIDIndexEntries X o st).2.deleted } := by
  have hforward : (pruneDuplicateUIDIndexEntries X o st).1.byTokenUID =
      st.byTokenUID.deleteAll (pruneDuplicateUIDIndexEntries X o st).2.deleted := by
    ext uid n
    rw [get?_prune, KVStore.get?_deleteAll]
    split_ifs with hdel
    · simp [(mem_report_deleted o).mp hdel]
    · simp [mt (mem_report_deleted o).mpr hdel]
  rw [← hforward]
  simp only [pruneDuplicateUIDIndexEntries, byTokenUID_foldl_delete]

end Report

end Uptick.Erc721
