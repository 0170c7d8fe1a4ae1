import Uptick.Erc721.SettlementSpec

/-!
# Runs of the settlement

A run handles the bindings of one pair after the other and removes a pair whose bindings are all cleared. An
invariant of a run is one that both steps keep.
-/

namespace Uptick.Erc721

open Text Evm Outcome Collection

def VoucherBinding.nftUID (b : VoucherBinding) : GoString := createNFTUID b.classID b.nftID

section Reading

variable {st : Store} {b b' : VoucherBinding} {n t K : GoString}

lemma readBinding_eq_some : readBinding (n, t) = some b ↔
    getNFTFromUID n = (b.nftID, b.classID) ∧ getNFTFromUID t = (b.tokenID, b.contract) ∧
      ¬ (b.nftID = [] ∨ b.classID = [] ∨ b.tokenID = [] ∨ b.contract = []) := by
  unfold readBinding
  dsimp only
  split_ifs with h
  · simp only [false_iff]
    rintro ⟨hn, ht, hb⟩
    rw [hn, ht] at h
    exact hb h
  · rw [Option.some.injEq]
    constructor
    · rintro rfl
      exact ⟨rfl, rfl, h⟩
    · rintro ⟨hn, ht, -⟩
      rw [hn, ht]

lemma nftUID_of_readBinding (h : readBinding (n, t) = some b) : b.nftUID = n := by
  obtain ⟨hn, -, hne⟩ := readBinding_eq_some.mp h
  exact (eq_of_getNFTFromUID hn (fun h => hne (.inr (.inl h)))).1.symm

lemma mem_bindingsByClass : b ∈ bindingsByClass st K ↔
    (∃ n t, st.byNFTUID.get? n = some t ∧ readBinding (n, t) = some b) ∧ b.classID = K := by
  unfold bindingsByClass
  rw [List.mem_filter, List.mem_filterMap, decide_eq_true_iff]
  refine and_congr_left fun _ => ⟨?_, ?_⟩
  · rintro ⟨⟨n, t⟩, hmem, hread⟩
    exact ⟨n, t, KVStore.mem_entries.mp hmem, hread⟩
  · rintro ⟨n, t, hget, hread⟩
    exact ⟨(n, t), KVStore.mem_entries.mpr hget, hread⟩

end Reading

section Run

variable {C : Chain} {s : Settlement C} {b : VoucherBinding} {pair : TokenPair}

/-- The run after one more binding. -/
def Settlement.handle (s : Settlement C) (b : VoucherBinding) : Settlement C := (settleRound (s, 0) b).1

/-- The binding was handled and not kept. -/
def Settlement.Clears (s : Settlement C) (b : VoucherBinding) : Prop := ∃ o, o ≠ .kept ∧ (b, o) ∈ s.handled

/-- The reverse entry of the NFT was settled or cleared. -/
def Settlement.Cleared (s : Settlement C) (n : GoString) : Prop := ∃ b, s.Clears b ∧ b.nftUID = n

@[simp] lemma world_handle (s : Settlement C) (b : VoucherBinding) :
    (s.handle b).world = (settleVoucherBinding s.world b).1 := by
  unfold Settlement.handle settleRound
  dsimp only
  cases (settleVoucherBinding s.world b).2 <;> rfl

@[simp] lemma handled_handle (s : Settlement C) (b : VoucherBinding) :
    (s.handle b).handled = s.handled ++ [(b, (settleVoucherBinding s.world b).2)] := by
  unfold Settlement.handle settleRound
  dsimp only
  cases (settleVoucherBinding s.world b).2 <;> rfl

@[simp] lemma purged_handle (s : Settlement C) (b : VoucherBinding) : (s.handle b).purged = s.purged := by
  unfold Settlement.handle settleRound
  dsimp only
  cases (settleVoucherBinding s.world b).2 <;> rfl

lemma settleRound_eq (s : Settlement C) (k : Nat) (b : VoucherBinding) : settleRound (s, k) b =
    (s.handle b, if (settleVoucherBinding s.world b).2 = .kept then k else k + 1) := by
  unfold Settlement.handle settleRound
  dsimp only
  cases (settleVoucherBinding s.world b).2 <;> rfl

lemma clears_handle_of_clears {b' : VoucherBinding} (h : s.Clears b') : (s.handle b).Clears b' := by
  obtain ⟨o, ho, hmem⟩ := h
  refine ⟨o, ho, ?_⟩
  rw [handled_handle]
  exact List.mem_append_left _ hmem

lemma clears_handle {b' : VoucherBinding} : (s.handle b).Clears b' ↔
    s.Clears b' ∨ b' = b ∧ (settleVoucherBinding s.world b).2 ≠ .kept := by
  unfold Settlement.Clears
  simp only [handled_handle, List.mem_append, List.mem_singleton, Prod.mk.injEq]
  constructor
  · rintro ⟨o, ho, hmem | ⟨rfl, rfl⟩⟩
    · exact .inl ⟨o, ho, hmem⟩
    · exact .inr ⟨rfl, ho⟩
  · rintro (⟨o, ho, hmem⟩ | ⟨rfl, ho⟩)
    · exact ⟨o, ho, .inl hmem⟩
    · exact ⟨_, ho, .inr ⟨rfl, rfl⟩⟩

/-- The bindings of one pair: an invariant of the steps is kept, and the counter says whether all of them
were cleared. -/
lemma foldl_settleRound {I : Settlement C → Prop} (bs : List VoucherBinding)
    (hhandle : ∀ s, I s → ∀ b ∈ bs, I (s.handle b)) {s : Settlement C} (k : Nat) (h : I s) :
    I (bs.foldl settleRound (s, k)).1 ∧ (∀ b, s.Clears b → (bs.foldl settleRound (s, k)).1.Clears b) ∧
      (bs.foldl settleRound (s, k)).2 ≤ k + bs.length ∧
      ((bs.foldl settleRound (s, k)).2 = k + bs.length → ∀ b ∈ bs, (bs.foldl settleRound (s, k)).1.Clears b) := by
  induction bs generalizing s k with
  | nil => exact ⟨h, fun _ hb => hb, by simp, by simp⟩
  | cons b bs ih =>
    have hnext := hhandle s h b List.mem_cons_self
    have hrest : ∀ s, I s → ∀ b ∈ bs, I (s.handle b) := fun s hs b' hb' =>
      hhandle s hs b' (List.mem_cons_of_mem _ hb')
    rw [List.foldl_cons, settleRound_eq, List.length_cons]
    by_cases ho : (settleVoucherBinding s.world b).2 = .kept
    · -- a kept binding leaves the counter behind for good
      rw [if_pos ho]
      obtain ⟨hI, hmono, hle, -⟩ := ih hrest k hnext
      refine ⟨hI, fun b' hb' => hmono b' (clears_handle_of_clears hb'), by omega, fun heq => ?_⟩
      omega
    · rw [if_neg ho]
      obtain ⟨hI, hmono, hle, hall⟩ := ih hrest (k + 1) hnext
      refine ⟨hI, fun b' hb' => hmono b' (clears_handle_of_clears hb'), by omega, fun heq b' hb' => ?_⟩
      rcases List.mem_cons.mp hb' with rfl | hb'
      · exact hmono b' (clears_handle.mpr (.inr ⟨rfl, ho⟩))
      · exact hall (by omega) b' hb'

lemma settlePair_invariant {I : Settlement C → Prop} {bs : GoString → List VoucherBinding}
    (hhandle : isIBCDenom pair.classId = true → ∀ s, I s → ∀ b ∈ bs pair.classId, I (s.handle b))
    (hpurge : isIBCDenom pair.classId = true → ∀ s, I s → (∀ b ∈ bs pair.classId, s.Clears b) → I (s.purge pair))
    (h : I s) : I (settlePair bs s pair) := by
  unfold settlePair
  cases hibc : isIBCDenom pair.classId with
  | false => exact h
  | true =>
    rw [if_neg (by simp)]
    split
    · next hnil =>
      apply hpurge hibc s h
      rw [List.length_eq_zero_iff.mp hnil]
      simp
    · obtain ⟨hI, -, -, hall⟩ := foldl_settleRound (bs pair.classId) (hhandle hibc) 0 h
      dsimp only
      split
      · next heq => exact hpurge hibc _ hI (hall (by omega))
      · exact hI

lemma foldl_settlePair_invariant {I : Settlement C → Prop} {bs : GoString → List VoucherBinding}
    (l : List TokenPair)
    (hhandle : ∀ s, I s → ∀ pair ∈ l, isIBCDenom pair.classId = true → ∀ b ∈ bs pair.classId, I (s.handle b))
    (hpurge : ∀ s, I s → ∀ pair ∈ l, isIBCDenom pair.classId = true → (∀ b ∈ bs pair.classId, s.Clears b) →
      I (s.purge pair))
    (h : I s) : I (l.foldl (settlePair bs) s) := by
  induction l generalizing s with
  | nil => exact h
  | cons pair l ih =>
    have hnext : I (settlePair bs s pair) :=
      settlePair_invariant (fun hibc s hs => hhandle s hs pair List.mem_cons_self hibc)
        (fun hibc s hs => hpurge s hs pair List.mem_cons_self hibc) h
    exact ih (fun s hs p hp => hhandle s hs p (List.mem_cons_of_mem _ hp))
      (fun s hs p hp => hpurge s hs p (List.mem_cons_of_mem _ hp)) hnext

lemma purged_foldl_settlePair {l : List TokenPair} {bs : GoString → List VoucherBinding} (h : pair ∈ s.purged) :
    pair ∈ (l.foldl (settlePair bs) s).purged := by
  apply foldl_settlePair_invariant (I := fun s => pair ∈ s.purged) l _ _ h
  · intro s hs _ _ _ b _
    rw [purged_handle]
    exact hs
  · exact fun s hs _ _ _ _ => List.mem_append_left _ hs

theorem settle_invariant {I : Settlement C → Prop} {w : World C}
    (hhandle : ∀ s, I s → ∀ pair ∈ getTokenPairs w.erc721, isIBCDenom pair.classId = true →
      ∀ b ∈ bindingsByClass w.erc721 pair.classId, I (s.handle b))
    (hpurge : ∀ s, I s → ∀ pair ∈ getTokenPairs w.erc721, isIBCDenom pair.classId = true →
      (∀ b ∈ bindingsByClass w.erc721 pair.classId, s.Clears b) → I (s.purge pair))
    (hstart : I (.start w)) : I (settleIBCVoucherPairs w) :=
  foldl_settlePair_invariant _ hhandle hpurge hstart

end Run

end Uptick.Erc721
