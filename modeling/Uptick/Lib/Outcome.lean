import Mathlib.Data.List.Forall2

/-!
# Fallible computations

Inversion rules for programs in `Except`: a sequence that succeeded passed each of its steps, and a
loop that succeeded keeps every invariant that one round keeps.
-/

namespace Outcome

variable {ε α β σ : Type}

/-- A guard: the program goes on when the condition holds. -/
def require (p : Prop) [Decidable p] (e : ε) : Except ε Unit := if p then .ok () else .error e

@[simp] lemma require_eq_ok {p : Prop} [Decidable p] {e : ε} {u : Unit} : require p e = .ok u ↔ p := by
  unfold require
  split <;> simp_all

lemma require_of {p : Prop} [Decidable p] {e : ε} (h : p) : require p e = .ok () := by
  simp [require, h]

lemma bind_eq_ok {x : Except ε α} {f : α → Except ε β} {b : β} :
    (x >>= f) = .ok b ↔ ∃ a, x = .ok a ∧ f a = .ok b := by
  cases x <;> simp [Bind.bind, Except.bind]

lemma check_bind_eq_ok {x : Except ε Unit} {f : Unit → Except ε β} {b : β} :
    (x >>= f) = .ok b ↔ x = .ok () ∧ f () = .ok b := by
  cases x <;> simp [Bind.bind, Except.bind]

lemma require_bind_eq_ok {p : Prop} [Decidable p] {e : ε} {f : Unit → Except ε β} {b : β} :
    (require p e >>= f) = .ok b ↔ p ∧ f () = .ok b := by
  rw [check_bind_eq_ok, require_eq_ok]

lemma bind_eq_error {x : Except ε α} {f : α → Except ε β} {e : ε} :
    (x >>= f) = .error e ↔ x = .error e ∨ ∃ a, x = .ok a ∧ f a = .error e := by
  cases x <;> simp [Bind.bind, Except.bind]

lemma require_eq_error {p : Prop} [Decidable p] {e e' : ε} : require p e = .error e' ↔ ¬ p ∧ e = e' := by
  unfold require
  split <;> simp_all

lemma map_eq_ok {x : Except ε α} {f : α → β} {b : β} : x.map f = .ok b ↔ ∃ a, x = .ok a ∧ f a = b := by
  cases x <;> simp [Except.map]

lemma toOption_eq_some {x : Except ε α} {a : α} : x.toOption = some a ↔ x = .ok a := by
  cases x with
  | error err => simp [Except.toOption]
  | ok b => simp [Except.toOption]

lemma exists_eq_ok {x : Except ε α} (h : x.toBool = true) : ∃ a, x = .ok a := by
  cases x with
  | ok a => exact ⟨a, rfl⟩
  | error e => cases h

@[simp] lemma ok_bind (a : α) (f : α → Except ε β) : ((Except.ok a : Except ε α) >>= f) = f a := rfl

@[simp] lemma error_bind (e : ε) (f : α → Except ε β) :
    ((Except.error e : Except ε α) >>= f) = .error e := rfl

@[simp] lemma pure_eq_ok (a : α) : (pure a : Except ε α) = .ok a := rfl

/-- `sdkerrors.Wrap`: a failure is relabelled, a success goes through. -/
def mapError (f : ε → ε) : Except ε α → Except ε α
  | .ok a => .ok a
  | .error e => .error (f e)

@[simp] lemma mapError_eq_ok {f : ε → ε} {x : Except ε α} {a : α} :
    mapError f x = .ok a ↔ x = .ok a := by
  cases x <;> simp [mapError]

lemma exists_of_mem_right {r : α → β → Prop} {xs : List α} {ys : List β} (h : List.Forall₂ r xs ys) {y : β}
    (hy : y ∈ ys) : ∃ x ∈ xs, r x y := by
  induction h with
  | nil => cases hy
  | @cons x y' xs ys hxy _ ih =>
    rcases List.mem_cons.mp hy with rfl | hy
    · exact ⟨x, List.mem_cons_self, hxy⟩
    · obtain ⟨x', hx', hr⟩ := ih hy
      exact ⟨x', List.mem_cons_of_mem _ hx', hr⟩

lemma exists_of_mem_left {r : α → β → Prop} {xs : List α} {ys : List β} (h : List.Forall₂ r xs ys) {x : α}
    (hx : x ∈ xs) : ∃ y ∈ ys, r x y :=
  exists_of_mem_right h.flip hx

lemma mapM_eq_ok {f : α → Except ε β} {xs : List α} {ys : List β} :
    xs.mapM f = .ok ys ↔ List.Forall₂ (fun x y => f x = .ok y) xs ys := by
  induction xs generalizing ys with
  | nil => simp [eq_comm]
  | cons x xs ih =>
    simp only [List.mapM_cons, bind_eq_ok, pure_eq_ok, Except.ok.injEq, ih, List.forall₂_cons_left_iff]
    constructor
    · rintro ⟨y, hy, ys', hys, rfl⟩
      exact ⟨y, ys', hy, hys, rfl⟩
    · rintro ⟨y, ys', hy, hys, rfl⟩
      exact ⟨y, hy, ys', hys, rfl⟩

lemma exists_mapM_eq_ok {f : α → Except ε β} {xs : List α} (h : ∀ x ∈ xs, ∃ y, f x = .ok y) :
    ∃ ys, xs.mapM f = .ok ys := by
  induction xs with
  | nil => exact ⟨[], rfl⟩
  | cons x xs ih =>
    obtain ⟨y, hy⟩ := h x List.mem_cons_self
    obtain ⟨ys, hys⟩ := ih fun z hz => h z (List.mem_cons_of_mem _ hz)
    exact ⟨y :: ys, mapM_eq_ok.mpr (.cons hy (mapM_eq_ok.mp hys))⟩

/-- A loop over a list that carries a state and stops at the first failure. -/
def forEach (f : σ → α → Except ε σ) : σ → List α → Except ε σ
  | s, [] => .ok s
  | s, x :: xs => do forEach f (← f s x) xs

@[simp] lemma forEach_nil (f : σ → α → Except ε σ) (s : σ) : forEach f s [] = .ok s := rfl

lemma forEach_cons_eq_ok {f : σ → α → Except ε σ} {s t : σ} {x : α} {xs : List α} :
    forEach f s (x :: xs) = .ok t ↔ ∃ u, f s x = .ok u ∧ forEach f u xs = .ok t := by
  simp only [forEach, bind_eq_ok]

lemma forEach_check_eq_ok {f : α → Except ε Unit} {xs : List α} :
    forEach (fun (_ : Unit) x => f x) () xs = .ok () ↔ ∀ x ∈ xs, f x = .ok () := by
  induction xs with
  | nil => simp
  | cons x xs ih =>
    rw [List.forall_mem_cons, ← ih]
    exact check_bind_eq_ok

lemma exists_of_forEach_eq_error {f : σ → α → Except ε σ} {s : σ} {xs : List α} {e : ε}
    (h : forEach f s xs = .error e) : ∃ t, ∃ x ∈ xs, f t x = .error e := by
  induction xs generalizing s with
  | nil => cases h
  | cons x xs ih =>
    rcases bind_eq_error.mp h with hx | ⟨t, -, hrest⟩
    · exact ⟨s, x, List.mem_cons_self, hx⟩
    · obtain ⟨u, y, hy, hfail⟩ := ih hrest
      exact ⟨u, y, List.mem_cons_of_mem _ hy, hfail⟩

lemma forEach_append {f : σ → α → Except ε σ} {s : σ} {xs ys : List α} :
    forEach f s (xs ++ ys) = (forEach f s xs >>= fun t => forEach f t ys) := by
  induction xs generalizing s with
  | nil => rfl
  | cons x xs ih =>
    rw [List.cons_append, forEach, forEach]
    cases f s x with
    | error e => rfl
    | ok t => exact ih

lemma forEach_eq_error {f : σ → α → Except ε σ} {s : σ} {xs : List α} {e : ε} :
    forEach f s xs = .error e ↔
      ∃ before x after t, xs = before ++ x :: after ∧ forEach f s before = .ok t ∧ f t x = .error e := by
  constructor
  · intro h
    induction xs generalizing s with
    | nil => cases h
    | cons x xs ih =>
      rcases bind_eq_error.mp h with hx | ⟨u, hu, hrest⟩
      · exact ⟨[], x, xs, s, rfl, rfl, hx⟩
      · obtain ⟨before, y, after, t, rfl, hbefore, hy⟩ := ih hrest
        exact ⟨x :: before, y, after, t, rfl, forEach_cons_eq_ok.mpr ⟨u, hu, hbefore⟩, hy⟩
  · rintro ⟨before, x, after, t, rfl, hbefore, hx⟩
    rw [forEach_append, hbefore, ok_bind, forEach, hx, error_bind]

/-- The loop rule: an invariant of one round is an invariant of the loop. -/
theorem forEach_invariant {f : σ → α → Except ε σ} {inv : σ → Prop} {xs : List α}
    (hstep : ∀ s x t, x ∈ xs → inv s → f s x = .ok t → inv t) {s t : σ} (hs : inv s)
    (h : forEach f s xs = .ok t) : inv t := by
  induction xs generalizing s with
  | nil =>
    simp only [forEach_nil, Except.ok.injEq] at h
    exact h ▸ hs
  | cons x xs ih =>
    obtain ⟨u, hu, hrest⟩ := forEach_cons_eq_ok.mp h
    exact ih (fun s y t hy => hstep s y t (by simp [hy])) (hstep s x u (by simp) hs hu) hrest

/-- Steps of a relation along a list. -/
inductive Chained (R : σ → α → σ → Prop) : σ → List α → σ → Prop
  | nil (s : σ) : Chained R s [] s
  | cons {s t u : σ} {x : α} {xs : List α} (head : R s x t) (tail : Chained R t xs u) : Chained R s (x :: xs) u

/-- A loop is a chain of what its rounds do. -/
theorem chained_of_forEach {f : σ → α → Except ε σ} {R : σ → α → σ → Prop} (hround : ∀ s x t, f s x = .ok t → R s x t)
    {s t : σ} {xs : List α} (h : forEach f s xs = .ok t) : Chained R s xs t := by
  induction xs generalizing s with
  | nil =>
    cases h
    exact .nil _
  | cons x xs ih =>
    obtain ⟨u, hu, hrest⟩ := forEach_cons_eq_ok.mp h
    exact .cons (hround s x u hu) (ih hrest)

/-- A loop that refuses what it has seen: it passes when every element is good and unseen at the start, and
no element makes a later one seen. -/
theorem forEach_unseen {f : σ → α → Except ε σ} {good : α → Prop} {seen : σ → α → Prop} {R : α → α → Prop}
    (hok : ∀ s x, (∃ t, f s x = .ok t) ↔ good x ∧ ¬ seen s x)
    (hseen : ∀ s x t y, f s x = .ok t → (seen t y ↔ seen s y ∨ R x y)) (s : σ) (xs : List α) :
    (∃ t, forEach f s xs = .ok t) ↔
      (∀ x ∈ xs, good x ∧ ¬ seen s x) ∧ xs.Pairwise fun x y => ¬ R x y := by
  induction xs generalizing s with
  | nil => simp
  | cons x xs ih =>
    simp only [forEach_cons_eq_ok, List.mem_cons, forall_eq_or_imp, List.pairwise_cons]
    constructor
    · rintro ⟨t, u, hu, hrest⟩
      obtain ⟨hall, hpair⟩ := (ih u).mp ⟨t, hrest⟩
      refine ⟨⟨(hok s x).mp ⟨u, hu⟩, fun y hy => ⟨(hall y hy).1, fun hs => ?_⟩⟩, fun y hy hR => ?_, hpair⟩
      · exact (hall y hy).2 ((hseen s x u y hu).mpr (.inl hs))
      · exact (hall y hy).2 ((hseen s x u y hu).mpr (.inr hR))
    · rintro ⟨⟨hx, hall⟩, hnew, hpair⟩
      obtain ⟨u, hu⟩ := (hok s x).mpr hx
      have hrest : ∀ y ∈ xs, good y ∧ ¬ seen u y := by
        intro y hy
        refine ⟨(hall y hy).1, fun hs => ?_⟩
        rcases (hseen s x u y hu).mp hs with hs | hR
        · exact (hall y hy).2 hs
        · exact hnew y hy hR
      obtain ⟨t, ht⟩ := (ih u).mpr ⟨hrest, hpair⟩
      exact ⟨t, u, hu, ht⟩

/-- A loop whose rounds depend on the rounds before: it passes when each element fits behind those that
precede it, as told on the state at the start. -/
theorem forEach_fits {f : σ → α → Except ε σ} {fits : σ → List α → α → Prop}
    (hok : ∀ s x, (∃ t, f s x = .ok t) ↔ fits s [] x)
    (hstep : ∀ s x t before y, f s x = .ok t → (fits t before y ↔ fits s (x :: before) y)) (s : σ) (xs : List α) :
    (∃ t, forEach f s xs = .ok t) ↔ ∀ before y after, xs = before ++ y :: after → fits s before y := by
  induction xs generalizing s with
  | nil => simp
  | cons x xs ih =>
    simp only [forEach_cons_eq_ok]
    constructor
    · rintro ⟨t, u, hu, hrest⟩ before y after hsplit
      cases before with
      | nil =>
        obtain ⟨rfl, -⟩ := List.cons.inj hsplit
        exact (hok s x).mp ⟨u, hu⟩
      | cons z before =>
        obtain ⟨rfl, htail⟩ := List.cons.inj hsplit
        exact (hstep s x u before y hu).mp ((ih u).mp ⟨t, hrest⟩ before y after htail)
    · intro hall
      obtain ⟨u, hu⟩ := (hok s x).mpr (hall [] x xs rfl)
      have hrest : ∃ t, forEach f u xs = .ok t := by
        apply (ih u).mpr
        intro before y after hsplit
        exact (hstep s x u before y hu).mpr (hall (x :: before) y after (by rw [hsplit]; rfl))
      obtain ⟨t, ht⟩ := hrest
      exact ⟨t, u, hu, ht⟩

/-- A loop over records under distinct keys whose rounds each rewrite only their own record: in the end every
record is rewritten, and nothing else has changed. -/
theorem forEach_rewrites {κ ν : Type} {f : σ → κ × ν → Except ε σ} (get : σ → κ → Option ν) (R : ν → ν → Prop)
    {xs : List (κ × ν)}
    (hstep : ∀ s k v t, (k, v) ∈ xs → get s k = some v → f s (k, v) = .ok t →
      (∃ w, get t k = some w ∧ R v w) ∧ ∀ k', k' ≠ k → get t k' = get s k')
    {s t : σ} (hnodup : (xs.map Prod.fst).Nodup) (hget : ∀ k v, (k, v) ∈ xs → get s k = some v)
    (h : forEach f s xs = .ok t) :
    (∀ k v, (k, v) ∈ xs → ∃ w, get t k = some w ∧ R v w) ∧ ∀ k, k ∉ xs.map Prod.fst → get t k = get s k := by
  induction xs generalizing s with
  | nil =>
    cases h
    simp
  | cons x xs ih =>
    obtain ⟨u, hu, hrest⟩ := forEach_cons_eq_ok.mp h
    obtain ⟨hown, hothers⟩ := hstep s x.1 x.2 u List.mem_cons_self (hget _ _ List.mem_cons_self) hu
    simp only [List.map_cons, List.nodup_cons] at hnodup
    have hkept : ∀ k v, (k, v) ∈ xs → get u k = some v := by
      intro k v hmem
      have hne : k ≠ x.1 := fun heq => hnodup.1 (heq ▸ List.mem_map_of_mem (f := Prod.fst) hmem)
      rw [hothers k hne]
      exact hget k v (List.mem_cons_of_mem _ hmem)
    have hstep' : ∀ s k v t, (k, v) ∈ xs → get s k = some v → f s (k, v) = .ok t →
        (∃ w, get t k = some w ∧ R v w) ∧ ∀ k', k' ≠ k → get t k' = get s k' :=
      fun s k v t hmem => hstep s k v t (List.mem_cons_of_mem _ hmem)
    obtain ⟨hdone, hsame⟩ := ih hstep' hnodup.2 hkept hrest
    constructor
    · intro k v hmem
      rcases List.mem_cons.mp hmem with rfl | hmem
      · -- the record of this round is not met again
        rw [hsame _ hnodup.1]
        exact hown
      · exact hdone k v hmem
    · intro k hk
      simp only [List.map_cons, List.mem_cons, not_or] at hk
      rw [hsame k hk.2, hothers k hk.1]

end Outcome
