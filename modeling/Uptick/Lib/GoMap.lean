import Uptick.Lib.KVStore

/-!
# Ranging over Go maps

The language leaves open in which order a `range` statement visits the entries of a map. A program
that ranges over maps takes the orders as a parameter; sets are duplicate-free lists, and what a loop
collects in one is told by what a single round adds.
-/

namespace GoMap

open Text

/-- The iteration orders of one execution: for each `range` statement, numbered, the order in which it
visits what it ranges over. -/
structure MapOrder where
  visit : {α : Type} → Nat → List α → List α
  visit_perm : ∀ {α : Type} (site : Nat) (l : List α), (visit site l).Perm l

namespace MapOrder

/-- Every statement visits the entries as they are listed. -/
def listed : MapOrder := ⟨fun _ l => l, fun _ _ => List.Perm.refl _⟩

variable (o : MapOrder) {α : Type}

@[simp] lemma mem_visit (site : Nat) {l : List α} {x : α} : x ∈ o.visit site l ↔ x ∈ l :=
  (o.visit_perm site l).mem_iff

lemma nodup_visit (site : Nat) {l : List α} (h : l.Nodup) : (o.visit site l).Nodup :=
  (o.visit_perm site l).nodup_iff.mpr h

end MapOrder

section Loops

variable {σ α β : Type} {f : σ → α → σ} {p : σ → List β}

/-- What a loop collects: it was there before, or some round added it. -/
theorem mem_foldl_iff {Q : α → β → Prop} (hstep : ∀ s a x, x ∈ p (f s a) ↔ x ∈ p s ∨ Q a x)
    (l : List α) (s : σ) (x : β) : x ∈ p (l.foldl f s) ↔ x ∈ p s ∨ ∃ a ∈ l, Q a x := by
  induction l generalizing s with
  | nil => simp
  | cons a l ih =>
    rw [List.foldl_cons, ih, hstep]
    simp only [List.mem_cons, exists_eq_or_imp]
    tauto

/-- A loop whose rounds keep a collection free of duplicates keeps it so. -/
theorem nodup_foldl (hstep : ∀ s a, (p s).Nodup → (p (f s a)).Nodup) (l : List α) {s : σ}
    (hs : (p s).Nodup) : (p (l.foldl f s)).Nodup := by
  induction l generalizing s with
  | nil => exact hs
  | cons a l ih => exact ih (hstep s a hs)

end Loops

/-- `sort.Strings`. -/
def sortStrings (l : List GoString) : List GoString := l.insertionSort (· ≤ ·)

@[simp] lemma mem_sortStrings {l : List GoString} {x : GoString} : x ∈ sortStrings l ↔ x ∈ l :=
  List.mem_insertionSort _

/-- Sorting forgets the order of its input. -/
theorem sortStrings_eq_of_perm {l l' : List GoString} (h : l.Perm l') : sortStrings l = sortStrings l' := by
  have hperm : (sortStrings l).Perm (sortStrings l') :=
    (List.perm_insertionSort _ l).trans (h.trans (List.perm_insertionSort _ l').symm)
  exact hperm.eq_of_pairwise' (List.pairwise_insertionSort _ l) (List.pairwise_insertionSort _ l')

/-- Two sets with the same members are printed alike. -/
theorem sortStrings_eq_of_mem_iff {l l' : List GoString} (hl : l.Nodup) (hl' : l'.Nodup)
    (h : ∀ x, x ∈ l ↔ x ∈ l') : sortStrings l = sortStrings l' :=
  sortStrings_eq_of_perm ((List.perm_ext_iff_of_nodup hl hl').mpr h)

end GoMap
