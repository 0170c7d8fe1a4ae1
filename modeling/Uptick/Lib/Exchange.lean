import Uptick.Lib.Outcome

/-!
# Exchanges between two ledgers

A batch of exchanges between a ledger of items `A` and a ledger of items `B`: in each round the sender gives
an item of the first ledger into custody and the receiver gets an item of the second, which is new or was
bound to the item given. What a whole batch moves is read off from its start and its end.
-/

namespace Exchange

variable {A B O P : Type}

/-- Who gives, who gets, which owners count as custody, and whom an item may be handed out from. -/
structure Terms (A B O P : Type) where
  sender : O
  receiver : P
  Custody : Option O → Prop
  Releasable : P → Prop
  Bound : A → B → Prop

/-- One round: `a` goes from the sender into custody, `b` to the receiver. -/
structure Round (T : Terms A B O P) (a : A) (b : B) (f f' : A → Option O) (g g' : B → Option P) : Prop where
  given : f a = some T.sender
  custody : T.Custody (f' a)
  given_other : ∀ x, x ≠ a → f' x = f x
  source : g b = none ∨ T.Bound a b ∧ ∃ o, g b = some o ∧ T.Releasable o
  received : g' b = some T.receiver
  received_other : ∀ y, y ≠ b → g' y = g y

/-- The rounds of a batch, in order. -/
inductive Rounds (T : Terms A B O P) :
    List (A × B) → (A → Option O) → (B → Option P) → (A → Option O) → (B → Option P) → Prop
  | nil (f : A → Option O) (g : B → Option P) : Rounds T [] f g f g
  | cons {a : A} {b : B} {l : List (A × B)} {f f₁ f₂ : A → Option O} {g g₁ g₂ : B → Option P}
      (h : Round T a b f f₁ g g₁) (hs : Rounds T l f₁ g₁ f₂ g₂) : Rounds T ((a, b) :: l) f g f₂ g₂

variable {T : Terms A B O P} {l : List (A × B)} {f f' : A → Option O} {g g' : B → Option P}

lemma Rounds.custody_of_custody (h : Rounds T l f g f' g') {x : A} (hx : T.Custody (f x)) :
    T.Custody (f' x) := by
  induction h with
  | nil => exact hx
  | @cons a b l f f₁ f₂ g g₁ g₂ hr _ ih =>
    apply ih
    by_cases hxa : x = a
    · rw [hxa]
      exact hr.custody
    · rw [hr.given_other x hxa]
      exact hx

/-- What happened to the first ledger: an item moved only from the sender into custody, and only when the
batch names it. -/
theorem Rounds.given (h : Rounds T l f g f' g') (x : A) :
    f' x = f x ∨ f x = some T.sender ∧ T.Custody (f' x) ∧ ∃ y, (x, y) ∈ l := by
  induction h with
  | nil => exact .inl rfl
  | @cons a b l f f₁ f₂ g g₁ g₂ hr hs ih =>
    by_cases hxa : x = a
    · subst hxa
      exact .inr ⟨hr.given, hs.custody_of_custody hr.custody, b, by simp⟩
    · rw [← hr.given_other x hxa]
      rcases ih with hsame | ⟨hsender, hcustody, y, hy⟩
      · exact .inl hsame
      · exact .inr ⟨hsender, hcustody, y, List.mem_cons_of_mem _ hy⟩

/-- Every item of the first ledger that the batch names was the sender's and ends in custody. -/
theorem Rounds.custody_of_mem (h : Rounds T l f g f' g') {x : A} {y : B} (hxy : (x, y) ∈ l) :
    f x = some T.sender ∧ T.Custody (f' x) := by
  induction h with
  | nil => simp at hxy
  | @cons a b l f f₁ f₂ g g₁ g₂ hr hs ih =>
    rcases List.mem_cons.mp hxy with heq | hmem
    · obtain ⟨rfl, rfl⟩ := Prod.mk.inj heq
      exact ⟨hr.given, hs.custody_of_custody hr.custody⟩
    · obtain ⟨hsender, hcustody⟩ := ih hmem
      refine ⟨?_, hcustody⟩
      by_cases hxa : x = a
      · rw [hxa]
        exact hr.given
      · rw [← hr.given_other x hxa]
        exact hsender

/-- A batch names an item of the first ledger once, if what is in custody is not with the sender. -/
lemma Rounds.snd_unique (h : Rounds T l f g f' g') (hnot : ¬ T.Custody (some T.sender)) {x : A} {y y' : B}
    (hy : (x, y) ∈ l) (hy' : (x, y') ∈ l) : y = y' := by
  induction h with
  | nil => simp at hy
  | @cons a b l f f₁ f₂ g g₁ g₂ hr hs ih =>
    -- the item of the first round is in custody for the rest of the batch
    have hfresh : ∀ z, (a, z) ∉ l := by
      intro z hz
      have hcustody := hr.custody
      rw [(hs.custody_of_mem hz).1] at hcustody
      exact hnot hcustody
    rcases List.mem_cons.mp hy with heq | hmem
    · obtain ⟨rfl, rfl⟩ := Prod.mk.inj heq
      rcases List.mem_cons.mp hy' with heq' | hmem'
      · exact (Prod.mk.inj heq').2.symm
      · exact absurd hmem' (hfresh y')
    · rcases List.mem_cons.mp hy' with heq' | hmem'
      · obtain ⟨rfl, rfl⟩ := Prod.mk.inj heq'
        exact absurd hmem (hfresh y)
      · exact ih hmem hmem'

lemma Rounds.receiver_of_receiver (h : Rounds T l f g f' g') {y : B} (hy : g y = some T.receiver) :
    g' y = some T.receiver := by
  induction h with
  | nil => exact hy
  | @cons a b l f f₁ f₂ g g₁ g₂ hr _ ih =>
    apply ih
    by_cases hyb : y = b
    · rw [hyb]
      exact hr.received
    · rw [hr.received_other y hyb]
      exact hy

theorem Rounds.receiver_of_mem (h : Rounds T l f g f' g') {x : A} {y : B} (hxy : (x, y) ∈ l) :
    g' y = some T.receiver := by
  induction h with
  | nil => simp at hxy
  | @cons a b l f f₁ f₂ g g₁ g₂ hr hs ih =>
    rcases List.mem_cons.mp hxy with heq | hmem
    · obtain ⟨rfl, rfl⟩ := Prod.mk.inj heq
      exact hs.receiver_of_receiver hr.received
    · exact ih hmem

/-- What happened to the second ledger: an item is new, or it was bound to an item that the sender gave into
custody in the same batch. -/
theorem Rounds.received (h : Rounds T l f g f' g') (y : B) :
    g' y = g y ∨ g y = none ∨ ∃ x o, (x, y) ∈ l ∧ T.Bound x y ∧ g y = some o ∧ T.Releasable o := by
  induction h with
  | nil => exact .inl rfl
  | @cons a b l f f₁ f₂ g g₁ g₂ hr hs ih =>
    by_cases hyb : y = b
    · subst hyb
      rcases hr.source with hnone | ⟨hbound, o, ho, hrel⟩
      · exact .inr (.inl hnone)
      · exact .inr (.inr ⟨a, o, by simp, hbound, ho, hrel⟩)
    · rw [← hr.received_other y hyb]
      rcases ih with hsame | hnone | ⟨x, o, hmem, hrest⟩
      · exact .inl hsame
      · exact .inr (.inl hnone)
      · exact .inr (.inr ⟨x, o, List.mem_cons_of_mem _ hmem, hrest⟩)

lemma Rounds.given_of_ne (h : Rounds T l f g f' g') {x : A} {o : O} (ho : f x = some o) (hne : T.sender ≠ o) :
    f' x = some o := by
  rcases h.given x with hsame | ⟨hsender, -⟩
  · rw [hsame, ho]
  · exact absurd (Option.some.inj (hsender.symm.trans ho)) hne

lemma Rounds.received_of_not (h : Rounds T l f g f' g') {y : B} {o : P} (ho : g y = some o)
    (hnot : ∀ x, (x, y) ∈ l → T.Bound x y → ¬ T.Releasable o) : g' y = some o := by
  rcases h.received y with hsame | hnone | ⟨x, o', hmem, hbound, ho', hrel⟩
  · rw [hsame, ho]
  · rw [hnone] at ho
    cases ho
  · obtain rfl := Option.some.inj (ho'.symm.trans ho)
    exact absurd hrel (hnot x hmem hbound)

lemma Rounds.source_of_mem (h : Rounds T l f g f' g') {x : A} {y : B} (hxy : (x, y) ∈ l) :
    g y = none ∨ T.Bound x y := by
  induction h with
  | nil => simp at hxy
  | @cons a b l f f₁ f₂ g g₁ g₂ hr hs ih =>
    rcases List.mem_cons.mp hxy with heq | hmem
    · obtain ⟨rfl, rfl⟩ := Prod.mk.inj heq
      exact hr.source.imp_right fun hb => hb.1
    · rcases ih hmem with hnone | hbound
      · have hyb : y ≠ b := by
          rintro rfl
          rw [hr.received] at hnone
          cases hnone
        rw [hr.received_other y hyb] at hnone
        exact .inl hnone
      · exact .inr hbound

lemma Rounds.received_of_notMem (h : Rounds T l f g f' g') {y : B} (hy : ∀ x, (x, y) ∉ l) : g' y = g y := by
  induction h with
  | nil => rfl
  | @cons a b l f f₁ f₂ g g₁ g₂ hr hs ih =>
    have hyb : y ≠ b := by
      rintro rfl
      exact hy a (by simp)
    rw [ih fun x hx => hy x (List.mem_cons_of_mem _ hx), hr.received_other y hyb]

/-- A loop whose rounds are exchanges is a batch of exchanges. -/
theorem rounds_of_forEach {σ α ε : Type} {step : σ → α → Except ε σ} {inv : σ → Prop} {xs : List α}
    (fst : α → A) (snd : α → B) (F : σ → A → Option O) (G : σ → B → Option P)
    (hstep : ∀ s x t, x ∈ xs → inv s → step s x = .ok t →
      inv t ∧ Round T (fst x) (snd x) (F s) (F t) (G s) (G t))
    {s t : σ} (hs : inv s) (h : Outcome.forEach step s xs = .ok t) :
    inv t ∧ Rounds T (xs.map fun x => (fst x, snd x)) (F s) (G s) (F t) (G t) := by
  induction xs generalizing s with
  | nil =>
    simp only [Outcome.forEach_nil, Except.ok.injEq] at h
    subst h
    exact ⟨hs, .nil _ _⟩
  | cons x xs ih =>
    obtain ⟨u, hu, hrest⟩ := Outcome.forEach_cons_eq_ok.mp h
    obtain ⟨hinv, hround⟩ := hstep s x u (by simp) hs hu
    obtain ⟨hinv', hrounds⟩ := ih (fun s y t hy => hstep s y t (by simp [hy])) hinv hrest
    exact ⟨hinv', .cons hround hrounds⟩

end Exchange
