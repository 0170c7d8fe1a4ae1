import Uptick.Lib.Exchange

/-!
# Two ledgers bound through a custodian

Items of a first ledger are bound to items of a second. The custodian has an account on both, and of a
bound pair only one half may be out of its hands. The invariant is kept by the moves of the two ledgers'
users and by the exchanges of a batch, in both directions.
-/

namespace Escrow

open Exchange

variable {N U O P : Type}

/-- Of a bound pair at most one half is away from the custodian, who is `M` on the first ledger and `M'` on
the second. Two items may be bound to one, but then only one of them is away. -/
structure Locked (bound : N → U → Prop) (M : O) (M' : P) (f : N → Option O) (g : U → Option P) : Prop where
  exists_of_bound : ∀ {n t}, bound n t → f n ≠ none
  locked : ∀ {n t}, bound n t → f n ≠ some M → g t = some M'
  single : ∀ {n n' t}, bound n t → bound n' t → n ≠ n' → f n = some M ∨ f n' = some M

variable {bound bound' : N → U → Prop} {M : O} {M' : P} {f f' : N → Option O} {g g' : U → Option P}

namespace Locked

lemma of_unbound (h : ∀ n t, ¬ bound n t) : Locked bound M M' f g where
  exists_of_bound := fun hb => absurd hb (h _ _)
  locked := fun hb => absurd hb (h _ _)
  single := fun hb => absurd hb (h _ _)

lemma mono (h : Locked bound M M' f g) (hsub : ∀ n t, bound' n t → bound n t) : Locked bound' M M' f g where
  exists_of_bound := fun hb => h.exists_of_bound (hsub _ _ hb)
  locked := fun hb => h.locked (hsub _ _ hb)
  single := fun hb hb' => h.single (hsub _ _ hb) (hsub _ _ hb')

lemma move_second (h : Locked bound M M' f g) (hg : ∀ t, g t = some M' → g' t = some M') :
    Locked bound M M' f g' where
  exists_of_bound := h.exists_of_bound
  locked := fun hb hn => hg _ (h.locked hb hn)
  single := h.single

lemma move_first (h : Locked bound M M' f g)
    (hf : ∀ n t, bound n t → f n ≠ none → f' n ≠ none ∧ (f n = some M → f' n = some M)) :
    Locked bound M M' f' g where
  exists_of_bound := fun hb => (hf _ _ hb (h.exists_of_bound hb)).1
  locked := fun hb hn => h.locked hb fun hM => hn ((hf _ _ hb (h.exists_of_bound hb)).2 hM)
  single := by
    intro n n' t hb hb' hne
    rcases h.single hb hb' hne with hM | hM
    · exact .inl ((hf _ _ hb (h.exists_of_bound hb)).2 hM)
    · exact .inr ((hf _ _ hb' (h.exists_of_bound hb')).2 hM)

/-- A batch of exchanges that takes items of the first ledger into custody, with the bindings it adds. -/
theorem exchange_first {T : Terms N U O P} {l : List (N × U)} (h : Locked bound M M' f g)
    (hr : Rounds T l f g f' g') (hsender : T.sender ≠ M) (hcustody : ∀ o, T.Custody o → o = some M)
    (hbound : ∀ n t, (n, t) ∈ l → T.Bound n t → bound n t) (hnew : ∀ n t, bound' n t → (n, t) ∈ l ∨ bound n t) :
    Locked bound' M M' f' g' := by
  -- an item is in custody, or its binding is an old one and it has not moved
  have hcases : ∀ {n t}, bound' n t → f' n = some M ∨ bound n t ∧ f' n = f n ∧ ∀ y, (n, y) ∉ l := by
    intro n t hb
    by_cases hmem : ∃ y, (n, y) ∈ l
    · obtain ⟨y, hy⟩ := hmem
      exact .inl (hcustody _ (hr.custody_of_mem hy).2)
    · have hold : ∀ y, (n, y) ∉ l := fun y hy => hmem ⟨y, hy⟩
      refine .inr ⟨(hnew n t hb).resolve_left (hold t), ?_, hold⟩
      rcases hr.given n with hsame | ⟨-, -, hin⟩
      · exact hsame
      · exact absurd hin hmem
  refine ⟨?_, ?_, ?_⟩
  · intro n t hb hnone
    rcases hcases hb with hM | ⟨hold, hsame, -⟩
    · rw [hM] at hnone
      cases hnone
    · exact h.exists_of_bound hold (hsame.symm.trans hnone)
  · intro n t hb hn
    obtain ⟨hold, hsame, hout⟩ := (hcases hb).resolve_left hn
    have hg : g t = some M' := h.locked hold (hsame ▸ hn)
    rcases hr.received t with heq | hnone | ⟨x, o, hmem, hx, -⟩
    · rw [heq, hg]
    · rw [hnone] at hg
      cases hg
    · -- the item that was handed out is bound to another item of the sender
      exfalso
      have hxn : x ≠ n := by
        rintro rfl
        exact hout t hmem
      have hxs : f x = some T.sender := (hr.custody_of_mem hmem).1
      rcases h.single (hbound x t hmem hx) hold hxn with hM | hM
      · rw [hxs] at hM
        exact hsender (Option.some.inj hM)
      · exact hn (hsame.trans hM)
  · intro n n' t hb hb' hne
    rcases hcases hb with hM | ⟨hold, hsame, -⟩
    · exact .inl hM
    · rcases hcases hb' with hM | ⟨hold', hsame', -⟩
      · exact .inr hM
      · rw [hsame, hsame']
        exact h.single hold hold' hne

/-- A batch of exchanges that takes items of the second ledger into custody. What becomes of the items of
the first ledger that it hands out is left open. -/
theorem exchange_second {T : Terms U N P O} {l : List (U × N)} {f₁ : N → Option O} (h : Locked bound M M' f g)
    (hr : Rounds T l g f g' f₁) (hsender : T.sender ≠ M') (hcustody : ∀ o, T.Custody o → o = some M')
    (hnew : ∀ n t, bound' n t → (t, n) ∈ l ∨ bound n t ∧ ∀ y, (y, n) ∉ l)
    (hin : ∀ t n, (t, n) ∈ l → f' n ≠ none) (hout : ∀ n, (∀ t, (t, n) ∉ l) → f' n = f n) :
    Locked bound' M M' f' g' := by
  have hnot : ¬ T.Custody (some T.sender) := fun hc => hsender (Option.some.inj (hcustody _ hc))
  refine ⟨?_, ?_, ?_⟩
  · intro n t hb
    rcases hnew n t hb with hmem | ⟨hold, hrest⟩
    · exact hin t n hmem
    · rw [hout n hrest]
      exact h.exists_of_bound hold
  · intro n t hb hn
    rcases hnew n t hb with hmem | ⟨hold, hrest⟩
    · exact hcustody _ (hr.custody_of_mem hmem).2
    · rw [hout n hrest] at hn
      have hg := h.locked hold hn
      rcases hr.given t with hsame | ⟨hs, -, -⟩
      · rw [hsame, hg]
      · rw [hg] at hs
        exact absurd (Option.some.inj hs).symm hsender
  · intro n n' t hb hb' hne
    -- an item that is bound to what the sender gave was with the custodian
    have hold : ∀ {m m'}, (t, m) ∈ l → bound m' t → (∀ y, (y, m') ∉ l) → f' m' = some M := by
      intro m m' hmem hm' hrest
      rw [hout m' hrest]
      by_contra hM
      have hg := h.locked hm' hM
      rw [(hr.custody_of_mem hmem).1] at hg
      exact hsender (Option.some.inj hg)
    rcases hnew n t hb with hmem | ⟨hn, hrest⟩
    · rcases hnew n' t hb' with hmem' | ⟨hn', hrest'⟩
      · exact absurd (hr.snd_unique hnot hmem hmem') hne
      · exact .inr (hold hmem hn' hrest')
    · rcases hnew n' t hb' with hmem' | ⟨hn', hrest'⟩
      · exact .inl (hold hmem' hn hrest)
      · rw [hout n hrest, hout n' hrest']
        exact h.single hn hn' hne

end Locked

/-- Every other item that is bound to what this item is bound to is with the custodian. -/
def Alone (bound : N → U → Prop) (M : O) (f : N → Option O) (n : N) : Prop :=
  ∀ n' t, bound n t → bound n' t → n' ≠ n → f n' = some M

/-- An item that is away from the custodian is the only one of its kind. -/
lemma Locked.alone (h : Locked bound M M' f g) {n : N} (hn : f n ≠ some M) : Alone bound M f n :=
  fun _ _ hb hb' hne => (h.single hb' hb hne).resolve_right hn

theorem Locked.release (h : Locked bound M M' f g) {n : N} {t : U} (hb : bound n t) (halone : Alone bound M f n)
    (hsub : ∀ n' t', bound' n' t' → n' ≠ n ∧ bound n' t') (hf : ∀ n', n' ≠ n → f' n' = f n')
    (hg : ∀ t', t' ≠ t → g' t' = g t') : Locked bound' M M' f' g' where
  exists_of_bound := by
    intro n' t' hb'
    obtain ⟨hne, hold⟩ := hsub n' t' hb'
    rw [hf n' hne]
    exact h.exists_of_bound hold
  locked := by
    intro n' t' hb' hn'
    obtain ⟨hne, hold⟩ := hsub n' t' hb'
    rw [hf n' hne] at hn'
    by_cases ht : t' = t
    · rw [ht] at hold
      exact absurd (halone n' t hb hold hne) hn'
    · rw [hg t' ht]
      exact h.locked hold hn'
  single := by
    intro n₁ n₂ t' hb₁ hb₂ hne
    obtain ⟨hne₁, hold₁⟩ := hsub n₁ t' hb₁
    obtain ⟨hne₂, hold₂⟩ := hsub n₂ t' hb₂
    rw [hf n₁ hne₁, hf n₂ hne₂]
    exact h.single hold₁ hold₂ hne

end Escrow
