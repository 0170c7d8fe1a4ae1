import Uptick.Collection.Genesis

/-!
# Cutting metadata to its bound

`clampToValidUTF8Bound` keeps as much of a text as fits, without cutting a rune and without bytes that are not UTF-8.
-/

namespace Uptick.Collection

open Text Utf8

lemma runeBoundary_le (s : GoString) (cut : Nat) : runeBoundary s cut ≤ cut := by
  induction cut with
  | zero => rfl
  | succ cut ih =>
    unfold runeBoundary
    split
    · exact le_rfl
    · split
      · exact le_rfl
      · omega

lemma length_clampToValidUTF8Bound (s : GoString) (max : Nat) : (clampToValidUTF8Bound s max).1.length ≤ max := by
  unfold clampToValidUTF8Bound
  split
  · next h => exact h.1
  · have hcut : (s.take (runeBoundary s (min max s.length))).length ≤ max := by
      have hle := runeBoundary_le s (min max s.length)
      rw [List.length_take]
      omega
    dsimp only
    split
    · exact hcut
    · exact (Utf8.length_dropInvalid _ _).trans hcut

/-- Past the cut, up to the bound, no rune starts. -/
lemma drop_of_runeBoundary_lt {s : GoString} {m k : Nat} (hlt : runeBoundary s m < k) (hle : k ≤ m) :
    ∃ b t, s.drop k = b :: t ∧ runeStart b = false := by
  induction m with
  | zero => omega
  | succ m ih =>
    unfold runeBoundary at hlt
    split at hlt
    · omega
    · next b t hdrop =>
      split at hlt
      · omega
      · next hstart =>
        by_cases heq : k = m + 1
        · exact ⟨b, t, heq ▸ hdrop, Bool.eq_false_of_not_eq_true hstart⟩
        · exact ih hlt (by omega)

lemma drop_runeBoundary (s : GoString) (m : Nat) :
    runeBoundary s m = 0 ∨ s.drop (runeBoundary s m) = [] ∨
      ∃ b t, s.drop (runeBoundary s m) = b :: t ∧ runeStart b = true := by
  induction m with
  | zero => exact .inl rfl
  | succ m ih =>
    unfold runeBoundary
    split
    · next hdrop => exact .inr (.inl hdrop)
    · next b t hdrop =>
      split
      · next hstart => exact .inr (.inr ⟨b, t, hdrop, hstart⟩)
      · exact ih

lemma valid_take_runeBoundary {s : GoString} (h : Valid s) (m : Nat) : Valid (s.take (runeBoundary s m)) := by
  rcases drop_runeBoundary s m with hzero | hnil | ⟨b, t, hdrop, hstart⟩
  · rw [hzero]
    exact .nil
  · have hall := List.take_append_drop (runeBoundary s m) s
    rw [hnil, List.append_nil] at hall
    rwa [hall]
  · exact (h.take_iff hdrop).mpr hstart

lemma length_le_runeBoundary {s p t : GoString} (h : Valid s) (hs : s = p ++ t) (hp : Valid p) {m : Nat}
    (hle : p.length ≤ m) : p.length ≤ runeBoundary s m := by
  by_contra hlt
  obtain ⟨b, rest, hdrop, hstart⟩ := drop_of_runeBoundary_lt (Nat.lt_of_not_le hlt) hle
  have htake : Valid (s.take p.length) := by
    rw [hs, List.take_left]
    exact hp
  rw [h.take_iff hdrop, hstart] at htake
  cases htake

lemma valid_clampToValidUTF8Bound (s : GoString) (max : Nat) : Valid (clampToValidUTF8Bound s max).1 := by
  unfold clampToValidUTF8Bound
  split
  · next h => exact validString_eq_true.mp h.2
  · dsimp only
    split
    · next hvalid => exact validString_eq_true.mp hvalid
    · exact valid_dropInvalid _ _

/-- The longest prefix of a text that fits the bound and ends where a rune ends. -/
structure LongestPrefix (s out : GoString) (max : Nat) : Prop where
  start : ∃ t, s = out ++ t ∧ Valid t
  longest : ∀ p t, s = p ++ t → Valid p → p.length ≤ max → p.length ≤ out.length

lemma longestPrefix_clampToValidUTF8Bound {s : GoString} (h : Valid s) (max : Nat) :
    LongestPrefix s (clampToValidUTF8Bound s max).1 max := by
  unfold clampToValidUTF8Bound
  split
  · refine ⟨⟨[], by simp, .nil⟩, fun p t hs _ _ => ?_⟩
    dsimp only
    rw [hs, List.length_append]
    omega
  · next hlong =>
    have hmax : max < s.length := by
      by_contra hle
      exact hlong ⟨Nat.le_of_not_lt hle, validString_eq_true.mpr h⟩
    have hcut := valid_take_runeBoundary h (min max s.length)
    have hle := runeBoundary_le s (min max s.length)
    dsimp only
    rw [if_pos (validString_eq_true.mpr hcut)]
    constructor
    · refine ⟨s.drop (runeBoundary s (min max s.length)), (List.take_append_drop _ s).symm, ?_⟩
      apply hcut.of_append
      rwa [List.take_append_drop]
    · intro p t hs hp hfits
      have hp' := length_le_runeBoundary h hs hp (show p.length ≤ min max s.length by omega)
      rw [List.length_take]
      omega

/-- What is left is UTF-8 within the bound, a change is reported exactly when there is one, a second cut changes
nothing, and of a valid text the longest prefix that ends with a rune is left. -/
theorem clampToValidUTF8Bound_spec (s : GoString) (max : Nat) :
    Valid (clampToValidUTF8Bound s max).1 ∧ (clampToValidUTF8Bound s max).1.length ≤ max ∧
    ((clampToValidUTF8Bound s max).2 = true ↔ (clampToValidUTF8Bound s max).1 ≠ s) ∧
    clampToValidUTF8Bound (clampToValidUTF8Bound s max).1 max = ((clampToValidUTF8Bound s max).1, false) ∧
    (Valid s → LongestPrefix s (clampToValidUTF8Bound s max).1 max) := by
  have hvalid := valid_clampToValidUTF8Bound s max
  have hlen := length_clampToValidUTF8Bound s max
  refine ⟨hvalid, hlen, ?_, if_pos ⟨hlen, validString_eq_true.mpr hvalid⟩, fun h =>
    longestPrefix_clampToValidUTF8Bound h max⟩
  by_cases hfits : s.length ≤ max ∧ validString s = true
  · have hsame : clampToValidUTF8Bound s max = (s, false) := if_pos hfits
    rw [hsame]
    simp
  · have hchanged : (clampToValidUTF8Bound s max).2 = true := by
      rw [clampToValidUTF8Bound, if_neg hfits]
    refine iff_of_true hchanged fun hsame => hfits ?_
    rw [hsame] at hvalid hlen
    exact ⟨hlen, validString_eq_true.mpr hvalid⟩

end Uptick.Collection
