import Uptick.Erc721.SettlementRun

/-!
# What a settlement does to tokens

A token that somebody other than the module account owns is burned only against the release of a native NFT
that is bound to it, to the same account. No native NFT is destroyed, and the counters add up.
-/

namespace Uptick.Erc721

open Text Evm Outcome Collection

structure NamesToken (b : VoucherBinding) (c : Address) (v : Nat) : Prop where
  token : parseEVMTokenID b.tokenID = .ok v
  hex : isHexAddress b.contract = true
  contract : hexToAddress b.contract = c

section

variable {C : Chain}

/-- The NFT of the binding moved from the module account to the account. -/
def Released (w w' : World C) (b : VoucherBinding) (u : Address) : Prop :=
  ∃ token, w.nft.held b.classID b.nftID = some ⟨token, accModuleAddress⟩ ∧
    w'.nft.held b.classID b.nftID = some ⟨token, u.bytes⟩

lemma bytes_ne_module {u : Address} (h : u ≠ moduleAddress) : u.bytes ≠ accModuleAddress := by
  intro heq
  apply h
  rw [moduleAddress, evmAddress, ← heq, bytesToAddress_bytes]

/-- What a run has done to the tokens since it started. -/
structure Settles (w : World C) (s : Settlement C) : Prop where
  held : ∀ K n, s.world.nft.held K n = w.nft.held K n ∨ ∃ token u, u ≠ moduleAddress ∧
    w.nft.held K n = some ⟨token, accModuleAddress⟩ ∧ s.world.nft.held K n = some ⟨token, u.bytes⟩
  owner : ∀ c v, C.evm.owner s.world.evm c v = C.evm.owner w.evm c v ∨ C.evm.owner s.world.evm c v = none
  burned : ∀ c v u, C.evm.owner w.evm c v = some u → u ≠ moduleAddress →
    C.evm.owner s.world.evm c v ≠ some u → ∃ b o, (b, o) ∈ s.handled ∧ NamesToken b c v ∧ Released w s.world b u

namespace Settles

variable {w : World C} {s : Settlement C} {b : VoucherBinding} {v : Nat} {u : Address}

lemma start (w : World C) : Settles w (.start w) where
  held := fun _ _ => .inl rfl
  owner := fun _ _ => .inl rfl
  burned := fun _ _ _ h _ hne => absurd h hne

lemma owner_of_asks (h : Settles w s) (hask : Asks s.world b v u) :
    C.evm.owner w.evm (hexToAddress b.contract) v = some u := by
  have hnow := C.evm.owner_eq_some.mpr hask.owner
  rcases h.owner (hexToAddress b.contract) v with hsame | hnone
  · rw [← hsame]
    exact hnow
  · rw [hnow] at hnone
    cases hnone

lemma congr {s' : Settlement C} (h : Settles w s) (hnft : s'.world.nft = s.world.nft)
    (hevm : s'.world.evm = s.world.evm) (hmem : ∀ x ∈ s.handled, x ∈ s'.handled) : Settles w s' := by
  refine ⟨?_, ?_, fun c v u hu hmod hne => ?_⟩
  · rw [hnft]
    exact h.held
  · rw [hevm]
    exact h.owner
  · rw [hevm] at hne
    obtain ⟨b, o, hb, hnames, token, hbefore, hafter⟩ := h.burned c v u hu hmod hne
    exact ⟨b, o, hmem _ hb, hnames, token, hbefore, by rw [hnft]; exact hafter⟩

lemma owner_of_burn (h : Settles w s) {caller c : Address} {evm : C.evm.State}
    (hburn : C.evm.burn s.world.evm caller c v = .ok evm) (c' : Address) (v' : Nat) :
    C.evm.owner evm c' v' = C.evm.owner w.evm c' v' ∨ C.evm.owner evm c' v' = none := by
  have hmoved := C.evm.burn_ok hburn
  by_cases heq : (c', v') = (c, v)
  · cases heq
    exact .inr hmoved.owner_self
  · rw [hmoved.owner_other c' v' heq]
    exact h.owner c' v'

lemma handle (h : Settles w s) (b : VoucherBinding) : Settles w (s.handle b) := by
  have hkeep : ∀ x ∈ s.handled, x ∈ (s.handle b).handled := fun x hx => by
    rw [handled_handle]
    exact List.mem_append_left _ hx
  have hlast : (b, (settleVoucherBinding s.world b).2) ∈ (s.handle b).handled := by
    rw [handled_handle]
    exact List.mem_append_right _ (List.mem_singleton.mpr rfl)
  have hworld := world_handle s b
  have hcases := settleVoucherBinding_handles s.world b
  generalize settleVoucherBinding s.world b = r at hcases hworld hlast
  cases hcases with
  | kept => exact h.congr (by rw [hworld]) (by rw [hworld]) hkeep
  | stale => exact h.congr (by rw [hworld]; rfl) (by rw [hworld]; rfl) hkeep
  | @orphan v evm ask native burn =>
    have hstart := h.owner_of_asks ask
    refine ⟨?_, ?_, fun c v' u hu hmod hne => ?_⟩
    · rw [hworld]
      exact h.held
    · rw [hworld]
      exact fun c' v' => h.owner_of_burn burn c' v'
    · -- the token that was burned is the module's own
      rw [hworld] at hne ⊢
      by_cases heq : (c, v') = (hexToAddress b.contract, v)
      · cases heq
        rw [hstart, Option.some.injEq] at hu
        exact absurd hu.symm hmod
      · have hsame : C.evm.owner s.world.evm c v' ≠ some u := by
          rw [← (C.evm.burn_ok burn).owner_other c v' heq]
          exact hne
        obtain ⟨b', o, hb', hnames, hrel⟩ := h.burned c v' u hu hmod hsame
        exact ⟨b', o, hkeep _ hb', hnames, hrel⟩
  | @wrapped v u token evm denom ask owner native burn readable =>
    have hstart := h.owner_of_asks ask
    -- the NFT was the module's from the start: a released one is no longer
    have hnative : w.nft.held b.classID b.nftID = some ⟨token, accModuleAddress⟩ := by
      rcases h.held b.classID b.nftID with hsame | ⟨token', u', hu', -, hnow⟩
      · rw [← hsame]
        exact native
      · rw [hnow, Option.some.injEq, Held.mk.injEq] at native
        exact absurd native.2 (bytes_ne_module hu')
    have hheld : ∀ K n, (s.handle b).world.nft.held K n =
        if K = b.classID ∧ n = b.nftID then some ⟨token, u.bytes⟩ else s.world.nft.held K n := by
      intro K n
      rw [hworld]
      rfl
    refine ⟨fun K n => ?_, ?_, fun c v' u' hu hmod hne => ?_⟩
    · rw [hheld]
      split_ifs with heq
      · obtain ⟨rfl, rfl⟩ := heq
        exact .inr ⟨token, u, owner.ne_module, hnative, rfl⟩
      · exact h.held K n
    · rw [hworld]
      exact fun c' v' => h.owner_of_burn burn c' v'
    · by_cases heq : (c, v') = (hexToAddress b.contract, v)
      · cases heq
        rw [hstart, Option.some.injEq] at hu
        subst hu
        exact ⟨b, _, hlast, ⟨ask.token, ask.contract, rfl⟩, token, hnative, by rw [hheld, if_pos ⟨rfl, rfl⟩]⟩
      · have hsame : C.evm.owner s.world.evm c v' ≠ some u' := by
          rw [← (C.evm.burn_ok burn).owner_other c v' heq]
          rw [hworld] at hne
          exact hne
        obtain ⟨b', o, hb', hnames, token', hbefore, hafter⟩ := h.burned c v' u' hu hmod hsame
        refine ⟨b', o, hkeep _ hb', hnames, token', hbefore, ?_⟩
        rw [hheld, if_neg, hafter]
        rintro ⟨hK, hn⟩
        rw [hK, hn, native, Option.some.injEq, Held.mk.injEq] at hafter
        exact bytes_ne_module hmod hafter.2.symm

end Settles

theorem settles_run (w : World C) : Settles w (settleIBCVoucherPairs w) :=
  settle_invariant (fun _ hs _ _ _ b _ => hs.handle b)
    (fun _ hs _ _ _ _ => hs.congr rfl rfl fun _ hx => hx) (Settles.start w)

/-- The bindings that a run handles, in order. -/
def voucherBindings (st : Store) : List VoucherBinding :=
  ((getTokenPairs st).filter fun pair => isIBCDenom pair.classId).flatMap fun pair =>
    bindingsByClass st pair.classId

/-- The parseable reverse entries whose class is the class of a voucher pair. -/
def parseableBindings (st : Store) : List VoucherBinding :=
  (st.byNFTUID.entries.filterMap readBinding).filter fun b =>
    (getTokenPairs st).any fun pair => isIBCDenom pair.classId && pair.classId == b.classID

lemma handled_foldl_settleRound (bs : List VoucherBinding) (s : Settlement C) (k : Nat) :
    (bs.foldl settleRound (s, k)).1.handled.map Prod.fst = s.handled.map Prod.fst ++ bs := by
  induction bs generalizing s k with
  | nil => simp
  | cons b bs ih =>
    rw [List.foldl_cons, settleRound_eq, ih, handled_handle]
    simp

lemma handled_settlePair (bs : GoString → List VoucherBinding) (s : Settlement C) (pair : TokenPair) :
    (settlePair bs s pair).handled.map Prod.fst =
      s.handled.map Prod.fst ++ (if isIBCDenom pair.classId then bs pair.classId else []) := by
  have hpurge : ∀ s : Settlement C, (s.purge pair).handled = s.handled := fun _ => rfl
  unfold settlePair
  cases hibc : isIBCDenom pair.classId with
  | false => simp
  | true =>
    rw [if_neg (by simp), if_pos rfl]
    split
    · next hnil =>
      rw [hpurge, List.length_eq_zero_iff.mp hnil, List.append_nil]
    · have hround := handled_foldl_settleRound (bs pair.classId) s 0
      dsimp only
      split
      · rw [hpurge, hround]
      · exact hround

theorem handled_settle (w : World C) :
    (settleIBCVoucherPairs w).handled.map Prod.fst = voucherBindings w.erc721 := by
  have hfold : ∀ (l : List TokenPair) (bs : GoString → List VoucherBinding) (s : Settlement C),
      (l.foldl (settlePair bs) s).handled.map Prod.fst = s.handled.map Prod.fst ++
        (l.filter fun pair => isIBCDenom pair.classId).flatMap fun pair => bs pair.classId := by
    intro l bs
    induction l with
    | nil => simp
    | cons pair l ih =>
      intro s
      rw [List.foldl_cons, ih, handled_settlePair, List.filter_cons]
      cases isIBCDenom pair.classId <;> simp
  exact hfold _ _ (.start w)

lemma counts_settle (w : World C) : (settleIBCVoucherPairs w).settled + (settleIBCVoucherPairs w).staleCleared +
    (settleIBCVoucherPairs w).kept = (settleIBCVoucherPairs w).handled.length := by
  apply settle_invariant (I := fun s => s.settled + s.staleCleared + s.kept = s.handled.length)
  · intro s hs _ _ _ b _
    rw [handled_handle, List.length_append, List.length_singleton, ← hs]
    unfold Settlement.handle settleRound
    dsimp only
    cases (settleVoucherBinding s.world b).2 <;> dsimp only <;> omega
  · exact fun s hs _ _ _ _ => hs
  · rfl

/-- Grouping by keys that are distinct counts each element once. -/
lemma length_flatMap_filter {α β : Type} [DecidableEq β] (f : α → β) (l : List α) (ks : List β)
    (hnd : ks.Nodup) : (ks.flatMap fun k => l.filter fun x => f x = k).length =
      (l.filter fun x => f x ∈ ks).length := by
  induction ks with
  | nil => simp
  | cons k ks ih =>
    obtain ⟨hk, hnd⟩ := List.nodup_cons.mp hnd
    have hsplit : (l.filter fun x => f x ∈ k :: ks).length =
        (l.filter fun x => f x = k).length + (l.filter fun x => f x ∈ ks).length := by
      clear ih
      induction l with
      | nil => rfl
      | cons x l ih =>
        simp only [List.filter_cons, List.mem_cons, Bool.decide_or, Bool.or_eq_true, decide_eq_true_eq]
        simp only [List.mem_cons, Bool.decide_or] at ih
        by_cases hx : f x = k
        · have hout : f x ∉ ks := hx ▸ hk
          simp only [hx, true_or, if_true, hk, if_false, List.length_cons, ih]
          omega
        · by_cases hmem : f x ∈ ks
          · simp only [hx, hmem, or_true, if_true, if_false, List.length_cons, ih]
            omega
          · simp only [hx, hmem, or_self, if_false, ih]
    rw [List.flatMap_cons, List.length_append, ih hnd, hsplit]

/-- Pairs of distinct classes: a run handles every parseable binding of a voucher pair once. -/
theorem length_voucherBindings {st : Store}
    (hpairs : (getTokenPairs st).Pairwise fun p q => p.classId ≠ q.classId) :
    (voucherBindings st).length = (parseableBindings st).length := by
  have hnd : (((getTokenPairs st).filter fun pair => isIBCDenom pair.classId).map TokenPair.classId).Nodup :=
    List.pairwise_map.mpr (hpairs.filter _)
  have hcount := length_flatMap_filter VoucherBinding.classID (st.byNFTUID.entries.filterMap readBinding) _ hnd
  rw [List.flatMap_map] at hcount
  refine hcount.trans (congrArg List.length (List.filter_congr fun b _ => ?_))
  rw [Bool.eq_iff_iff]
  simp [and_assoc]

/-- What a settlement guarantees for every ownership: no token of anybody but the module account is burned
without the release of its NFT to the owner, no native NFT is destroyed, a kept binding changes nothing, and
the counters count the parseable bindings of voucher pairs. -/
structure SettlesSafely (w : World C) : Prop where
  burned : ∀ c v u, C.evm.owner w.evm c v = some u → u ≠ moduleAddress →
    C.evm.owner (settleIBCVoucherPairs w).world.evm c v ≠ some u →
    ∃ b ∈ parseableBindings w.erc721, NamesToken b c v ∧ Released w (settleIBCVoucherPairs w).world b u
  native : ∀ K n h, w.nft.held K n = some h → ∃ o, (settleIBCVoucherPairs w).world.nft.held K n = some ⟨h.nft, o⟩
  kept : ∀ (v : World C) b, (settleVoucherBinding v b).2 = .kept → (settleVoucherBinding v b).1 = v
  counted : (settleIBCVoucherPairs w).settled + (settleIBCVoucherPairs w).staleCleared +
    (settleIBCVoucherPairs w).kept = (parseableBindings w.erc721).length

lemma mem_voucherBindings {st : Store} {b : VoucherBinding} : b ∈ voucherBindings st ↔
    ∃ pair ∈ getTokenPairs st, isIBCDenom pair.classId = true ∧ b ∈ bindingsByClass st pair.classId := by
  unfold voucherBindings
  simp [List.mem_flatMap, and_assoc]

lemma mem_parseableBindings_of_mem {st : Store} {b : VoucherBinding} (h : b ∈ voucherBindings st) :
    b ∈ parseableBindings st := by
  obtain ⟨pair, hpair, hibc, hb⟩ := mem_voucherBindings.mp h
  unfold bindingsByClass at hb
  obtain ⟨hmem, hclass⟩ := List.mem_filter.mp hb
  apply List.mem_filter.mpr
  refine ⟨hmem, List.any_eq_true.mpr ⟨pair, hpair, ?_⟩⟩
  rw [hibc, of_decide_eq_true hclass]
  simp

theorem settlesSafely (w : World C)
    (hpairs : (getTokenPairs w.erc721).Pairwise fun p q => p.classId ≠ q.classId) : SettlesSafely w := by
  have hrun := settles_run w
  refine ⟨fun c v u hu hmod hne => ?_, fun K n h hh => ?_, fun v b hkept => ?_, ?_⟩
  · obtain ⟨b, o, hmem, hnames, hrel⟩ := hrun.burned c v u hu hmod hne
    refine ⟨b, mem_parseableBindings_of_mem ?_, hnames, hrel⟩
    rw [← handled_settle]
    exact List.mem_map_of_mem hmem
  · rcases hrun.held K n with hsame | ⟨token, u, -, hbefore, hafter⟩
    · rw [hsame, hh]
      exact ⟨h.owner, rfl⟩
    · rw [hh, Option.some.injEq] at hbefore
      rw [hafter, hbefore]
      exact ⟨u.bytes, rfl⟩
  · rw [settleVoucherBinding_of_kept hkept]
  · rw [counts_settle, ← List.length_map Prod.fst, handled_settle, length_voucherBindings hpairs]

end

end Uptick.Erc721
