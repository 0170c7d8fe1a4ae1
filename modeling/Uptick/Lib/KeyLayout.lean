import Mathlib.Logic.Function.Basic
import Uptick.Lib.KVStore

/-!
# Key layouts

A store that holds records of several kinds writes each under its own bytes. A layout names the records by abstract
keys and says which of them have bytes of their own; over those, the store is a table indexed by the abstract keys.
-/

open Text

/-- Abstract keys with their bytes, which tell the plain ones apart. -/
structure KeyLayout (K : Type) where
  bytes : K → GoString
  Plain : K → Prop
  bytes_ne_nil : ∀ {a}, Plain a → bytes a ≠ []
  bytes_inj : ∀ {a b}, Plain a → Plain b → bytes a = bytes b → a = b

namespace KeyLayout

variable {K V : Type} {E : KeyLayout K} {s : KVStore V} {T : K → Option V}

/-- The entries of the store are those of the table. -/
def Holds (E : KeyLayout K) (s : KVStore V) (T : K → Option V) : Prop :=
  ∀ k v, s.get? k = some v ↔ ∃ a, E.Plain a ∧ E.bytes a = k ∧ T a = some v

lemma holds_empty (E : KeyLayout K) : E.Holds (KVStore.empty : KVStore V) fun _ => none := by
  intro k v
  simp

lemma Holds.get? (h : E.Holds s T) {a : K} (ha : E.Plain a) : s.get? (E.bytes a) = T a := by
  apply Option.ext
  intro v
  rw [h]
  constructor
  · rintro ⟨b, hb, hbytes, hv⟩
    rw [← E.bytes_inj hb ha hbytes]
    exact hv
  · intro hv
    exact ⟨a, ha, rfl, hv⟩

lemma Holds.congr (h : E.Holds s T) {T' : K → Option V} (hT : ∀ a, E.Plain a → T a = T' a) : E.Holds s T' := by
  intro k v
  rw [h]
  refine exists_congr fun a => and_congr_right fun ha => ?_
  rw [hT a ha]

/-- The layout together with raw keys of a certain form, which the abstract keys stay clear of. -/
def withRaw (E : KeyLayout K) (P : GoString → Prop) (hP : ∀ k, P k → k ≠ []) : KeyLayout (K ⊕ GoString) where
  bytes := Sum.elim E.bytes id
  Plain := Sum.elim (fun a => E.Plain a ∧ ¬ P (E.bytes a)) P
  bytes_ne_nil := by
    rintro (a | k) ha
    · exact E.bytes_ne_nil ha.1
    · exact hP k ha
  bytes_inj := by
    rintro (a | k) (b | l) ha hb h
    · exact congrArg Sum.inl (E.bytes_inj ha.1 hb.1 h)
    · have hraw : E.bytes a = l := h
      exact absurd (hraw.symm ▸ hb : P (E.bytes a)) ha.2
    · have hraw : k = E.bytes b := h
      exact absurd (hraw ▸ ha : P (E.bytes b)) hb.2
    · exact congrArg Sum.inr h

variable [DecidableEq K]

lemma Holds.update (h : E.Holds s T) {a : K} (ha : E.Plain a) {s' : KVStore V} {o : Option V}
    (hs : ∀ k, s'.get? k = if k = E.bytes a then o else s.get? k) : E.Holds s' (Function.update T a o) := by
  intro k v
  rw [hs]
  by_cases hk : k = E.bytes a
  · rw [if_pos hk, hk]
    constructor
    · intro hv
      exact ⟨a, ha, rfl, by rw [Function.update_self, hv]⟩
    · rintro ⟨b, hb, hbytes, hv⟩
      rwa [E.bytes_inj hb ha hbytes, Function.update_self] at hv
  · rw [if_neg hk, h]
    have hother : ∀ b, E.bytes b = k → Function.update T a o b = T b := by
      intro b hb
      apply Function.update_of_ne
      rintro rfl
      exact hk hb.symm
    constructor
    · rintro ⟨b, hb, hbytes, hv⟩
      exact ⟨b, hb, hbytes, by rw [hother b hbytes, hv]⟩
    · rintro ⟨b, hb, hbytes, hv⟩
      exact ⟨b, hb, hbytes, by rw [← hother b hbytes, hv]⟩

theorem Holds.set (h : E.Holds s T) {a : K} (ha : E.Plain a) (v : V) :
    E.Holds (s.set (E.bytes a) v) (Function.update T a (some v)) :=
  h.update ha fun k => s.get?_set (E.bytes_ne_nil ha) v k

theorem Holds.delete (h : E.Holds s T) {a : K} (ha : E.Plain a) :
    E.Holds (s.delete (E.bytes a)) (Function.update T a none) :=
  h.update ha fun k => s.get?_delete _ k

end KeyLayout
