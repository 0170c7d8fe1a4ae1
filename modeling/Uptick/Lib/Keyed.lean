import Mathlib.Data.List.Nodup

/-!
# Lists of records with keys

Finding a record of a list by its key, where the keys are distinct.
-/

namespace Keyed

variable {α κ : Type*} [DecidableEq κ] {key : α → κ} {l : List α} {x : α} {k : κ}

def find (key : α → κ) (l : List α) (k : κ) : Option α := l.find? fun x => key x = k

@[simp] lemma find_nil (key : α → κ) (k : κ) : find key [] k = none := rfl

lemma find_eq_none : find key l k = none ↔ k ∉ l.map key := by
  simp [find]

lemma find_append_singleton (hx : key x ∉ l.map key) (k : κ) :
    find key (l ++ [x]) k = if k = key x then some x else find key l k := by
  unfold find
  rw [List.find?_append]
  by_cases hk : k = key x
  · have hnone : find key l (key x) = none := find_eq_none.mpr hx
    rw [hk, if_pos rfl]
    change (find key l (key x)).or _ = _
    rw [hnone]
    simp
  · have hlast : [x].find? (fun y => decide (key y = k)) = none := by
      simp [Ne.symm hk]
    rw [if_neg hk, hlast, Option.or_none]

lemma find_eq_some (hnodup : (l.map key).Nodup) : find key l k = some x ↔ x ∈ l ∧ key x = k := by
  induction l with
  | nil => simp
  | cons y l ih =>
    rw [List.map_cons, List.nodup_cons] at hnodup
    unfold find at ih ⊢
    by_cases hy : key y = k
    · have hout : x ∈ l → key x ≠ k := by
        intro hx hk
        exact hnodup.1 (List.mem_map.mpr ⟨x, hx, hk.trans hy.symm⟩)
      rw [List.find?_cons_of_pos (by simpa using hy), Option.some.injEq, List.mem_cons]
      constructor
      · rintro rfl
        exact ⟨.inl rfl, hy⟩
      · rintro ⟨rfl | hx, hk⟩
        · rfl
        · exact absurd hk (hout hx)
    · rw [List.find?_cons_of_neg (by simpa using hy), ih hnodup.2, List.mem_cons]
      constructor
      · rintro ⟨hx, hk⟩
        exact ⟨.inr hx, hk⟩
      · rintro ⟨rfl | hx, hk⟩
        · exact absurd hk hy
        · exact ⟨hx, hk⟩

end Keyed
