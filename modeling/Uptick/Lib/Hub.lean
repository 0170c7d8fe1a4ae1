import Mathlib.Logic.Relation
import Uptick.Lib.Escrow

/-!
# One ledger with two custodians

The items of a ledger are bound to items of two other ledgers, each through a custodian of its own. Items that are
bound, directly or through others, stand for one thing. Of all items that stand for one thing at most one is out of
custody.
-/

namespace Hub

open Escrow

variable {N U V O P Q : Type}

/-- An item of one of the three ledgers. -/
inductive Item (N U V : Type)
  | hub (n : N)
  | left (u : U)
  | right (v : V)

inductive Bound (left : N → U → Prop) (right : N → V → Prop) : Item N U V → Item N U V → Prop
  | left {n : N} {u : U} (h : left n u) : Bound left right (.hub n) (.left u)
  | right {n : N} {v : V} (h : right n v) : Bound left right (.hub n) (.right v)

/-- The two items stand for one thing. -/
def Kin (left : N → U → Prop) (right : N → V → Prop) : Item N U V → Item N U V → Prop :=
  Relation.EqvGen (Bound left right)

/-- The item is there and away from the custodians. -/
def Circulates (L R : O) (L' : P) (R' : Q) (f : N → Option O) (g : U → Option P) (h : V → Option Q) :
    Item N U V → Prop
  | .hub n => ∃ o, f n = some o ∧ o ≠ L ∧ o ≠ R
  | .left u => ∃ o, g u = some o ∧ o ≠ L'
  | .right v => ∃ o, h v = some o ∧ o ≠ R'

variable {left : N → U → Prop} {right : N → V → Prop}

/-- The items of the hub that an item is, or is bound to. -/
def Of (left : N → U → Prop) (right : N → V → Prop) : Item N U V → N → Prop
  | .hub n, m => m = n
  | .left u, m => left m u
  | .right v, m => right m v

/-- Two items of the hub that are equal or bound to one item on the left. -/
def Near (left : N → U → Prop) (n m : N) : Prop := n = m ∨ ∃ u, left n u ∧ left m u

/-- An item of the hub is bound to one item on either side, and an item on the right to one of the hub. -/
structure Functional (left : N → U → Prop) (right : N → V → Prop) : Prop where
  left_unique : ∀ {n u u'}, left n u → left n u' → u = u'
  right_unique : ∀ {n v v'}, right n v → right n v' → v = v'
  right_inj : ∀ {n n' v}, right n v → right n' v → n = n'

lemma Near.symm {n m : N} (h : Near left n m) : Near left m n := by
  rcases h with rfl | ⟨u, hn, hm⟩
  · exact .inl rfl
  · exact .inr ⟨u, hm, hn⟩

lemma Near.trans (hf : Functional left right) {n m k : N} (h : Near left n m) (h' : Near left m k) :
    Near left n k := by
  rcases h with rfl | ⟨u, hn, hm⟩
  · exact h'
  · rcases h' with rfl | ⟨u', hm', hk⟩
    · exact .inr ⟨u, hn, hm⟩
    · rw [hf.left_unique hm' hm] at hk
      exact .inr ⟨u, hn, hk⟩

lemma near_of_of (hf : Functional left right) {A : Item N U V} {n m : N} (hn : Of left right A n)
    (hm : Of left right A m) : Near left n m := by
  cases A with
  | hub k => exact .inl (hn.trans hm.symm)
  | left u => exact .inr ⟨u, hn, hm⟩
  | right v => exact .inl (hf.right_inj hn hm)

theorem kin_cases (hf : Functional left right) {A B : Item N U V} (h : Kin left right A B) :
    A = B ∨ ∃ n m, Of left right A n ∧ Of left right B m ∧ Near left n m := by
  induction h with
  | rel A B hb =>
    cases hb with
    | left hb => exact .inr ⟨_, _, rfl, hb, .inl rfl⟩
    | right hb => exact .inr ⟨_, _, rfl, hb, .inl rfl⟩
  | refl A => exact .inl rfl
  | symm A B _ ih =>
    rcases ih with rfl | ⟨n, m, hn, hm, hnear⟩
    · exact .inl rfl
    · exact .inr ⟨m, n, hm, hn, hnear.symm⟩
  | trans A B D _ _ ih ih' =>
    rcases ih with rfl | ⟨n, m, hn, hm, hnear⟩
    · exact ih'
    · rcases ih' with rfl | ⟨m', k, hm', hk, hnear'⟩
      · exact .inr ⟨n, m, hn, hm, hnear⟩
      · exact .inr ⟨n, k, hn, hk, hnear.trans hf ((near_of_of hf hm hm').trans hf hnear')⟩

section Custodians

variable {L R : O} {L' : P} {R' : Q} {f : N → Option O} {g : U → Option P} {h : V → Option Q}

lemma owner_of_circulates (hl : Locked left L L' f g) (hr : Locked right R R' f h) {A : Item N U V} {n : N}
    (hA : Circulates L R L' R' f g h A) (hn : Of left right A n) :
    A = .hub n ∧ f n ≠ some L ∧ f n ≠ some R ∨ (∃ u, A = .left u) ∧ f n = some L ∨
      (∃ v, A = .right v) ∧ f n = some R := by
  cases A with
  | hub k =>
    obtain rfl : n = k := hn
    obtain ⟨o, ho, hL, hR⟩ := hA
    refine .inl ⟨rfl, ?_, ?_⟩
    · rw [ho]
      exact fun heq => hL (Option.some.inj heq)
    · rw [ho]
      exact fun heq => hR (Option.some.inj heq)
  | left u =>
    obtain ⟨o, ho, hne⟩ := hA
    refine .inr (.inl ⟨⟨u, rfl⟩, ?_⟩)
    by_contra haway
    rw [hl.locked hn haway, Option.some.injEq] at ho
    exact hne ho.symm
  | right v =>
    obtain ⟨o, ho, hne⟩ := hA
    refine .inr (.inr ⟨⟨v, rfl⟩, ?_⟩)
    by_contra haway
    rw [hr.locked hn haway, Option.some.injEq] at ho
    exact hne ho.symm

variable (hf : Functional left right) (hLR : L ≠ R) (hl : Locked left L L' f g) (hr : Locked right R R' f h)
  {A B : Item N U V} (hA : Circulates L R L' R' f g h A) (hB : Circulates L R L' R' f g h B)

include hf hLR hl hr hA hB

lemma eq_of_common {n : N} (hn : Of left right A n) (hm : Of left right B n) : A = B := by
  have hne : some L ≠ some R := fun heq => hLR (Option.some.inj heq)
  rcases owner_of_circulates hl hr hA hn with ⟨rfl, hnL, hnR⟩ | ⟨⟨u, rfl⟩, hL⟩ | ⟨⟨v, rfl⟩, hR⟩
  · rcases owner_of_circulates hl hr hB hm with ⟨rfl, -, -⟩ | ⟨-, hL⟩ | ⟨-, hR⟩
    · rfl
    · exact absurd hL hnL
    · exact absurd hR hnR
  · rcases owner_of_circulates hl hr hB hm with ⟨rfl, hnL, -⟩ | ⟨⟨u', rfl⟩, -⟩ | ⟨-, hR⟩
    · exact absurd hL hnL
    · rw [hf.left_unique hn hm]
    · exact absurd (hL.symm.trans hR) hne
  · rcases owner_of_circulates hl hr hB hm with ⟨rfl, -, hnR⟩ | ⟨-, hL⟩ | ⟨⟨v', rfl⟩, -⟩
    · exact absurd hR hnR
    · exact absurd (hL.symm.trans hR) hne
    · rw [hf.right_unique hn hm]

lemma eq_of_single {n m : N} {u : U} (hn : Of left right A n) (hm : Of left right B m) (hu : left n u)
    (hu' : left m u) (hL : f n = some L) : A = B := by
  have hAu : A = .left u := by
    rcases owner_of_circulates hl hr hA hn with ⟨rfl, hnL, -⟩ | ⟨⟨u', rfl⟩, -⟩ | ⟨-, hR⟩
    · exact absurd hL hnL
    · rw [hf.left_unique hn hu]
    · exact absurd (Option.some.inj (hL.symm.trans hR)) hLR
  subst hAu
  exact eq_of_common hf hLR hl hr hA hB (show Of left right (.left u) m from hu') hm

/-- Of all items that stand for one thing at most one circulates. -/
theorem eq_of_kin (hkin : Kin left right A B) : A = B := by
  rcases kin_cases hf hkin with heq | ⟨n, m, hn, hm, rfl | ⟨u, hu, hu'⟩⟩
  · exact heq
  · exact eq_of_common hf hLR hl hr hA hB hn hm
  · by_cases hnm : n = m
    · subst hnm
      exact eq_of_common hf hLR hl hr hA hB hn hm
    · rcases hl.single hu hu' hnm with hL | hL
      · exact eq_of_single hf hLR hl hr hA hB hn hm hu hu' hL
      · exact (eq_of_single hf hLR hl hr hB hA hm hn hu' hu hL).symm

end Custodians

end Hub
