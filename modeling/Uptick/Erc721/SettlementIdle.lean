import Uptick.Erc721.Bindings
import Uptick.Erc721.Registry
import Uptick.Erc721.SettlementSafe
import Uptick.Erc721.SettlementSweep

/-!
# A second settlement

A binding that a run keeps is kept again, since the run changes nothing that the decision reads but burned
tokens. A pair that is left without bindings is an empty shell for the next run. That happens when the removal
of another pair takes along the bindings that were kept.
-/

namespace Uptick.Erc721

open Text Evm Outcome Collection

/-- Stored pairs differ in class and contract, and the bindings of a voucher pair name its contract. -/
structure VoucherStore (st : Store) : Prop where
  pairs : (getTokenPairs st).Pairwise fun p q =>
    p.classId ≠ q.classId ∧ p.getERC721Contract ≠ q.getERC721Contract
  names : ∀ pair ∈ getTokenPairs st, isIBCDenom pair.classId = true → ∀ b ∈ bindingsByClass st pair.classId,
    isHexAddress b.contract = true ∧ hexToAddress b.contract = pair.getERC721Contract

structure Recorded (X : Extern) (st : Store) : Prop where
  ids : ∀ id pair, st.tokenPair.get? id = some pair → id = pair.getID X
  addresses : ∀ pair ∈ getTokenPairs st, pair.erc721Address ≠ []

/-- A voucher pair that some ownership lets a run remove. -/
structure Removable (st : Store) (pair : TokenPair) : Prop where
  stored : pair ∈ getTokenPairs st
  voucher : isIBCDenom pair.classId = true
  bindings : ∀ b ∈ bindingsByClass st pair.classId, Addressable b

/-- The key is a forward entry of the pair that is there when the pair is removed. -/
structure SweptKey (X : Extern) (st : Store) (pair : TokenPair) (uid n : GoString) : Prop where
  contract : OfContract pair uid
  named : st.byTokenUID.get? uid = some n
  unclaimed : ∀ b ∈ bindingsByClass st pair.classId, uid ∉ variantUIDs X b.contract b.tokenID

/-- The removal of another pair takes the binding along. -/
def SweptByOther (X : Extern) (st : Store) (pair : TokenPair) (b : VoucherBinding) : Prop :=
  ∃ other uid, Removable st other ∧ other.classId ≠ pair.classId ∧ SweptKey X st other uid b.nftUID

/-- No voucher pair can lose all the bindings that a run keeps to the removal of other pairs: when one binding
can be lost, there is another that is always kept and cannot be. -/
def KeepsOwnBindings (X : Extern) (st : Store) : Prop :=
  ∀ pair ∈ getTokenPairs st, isIBCDenom pair.classId = true →
    (∃ b ∈ bindingsByClass st pair.classId, SweptByOther X st pair b) →
      ∃ b ∈ bindingsByClass st pair.classId, ¬ Addressable b ∧ ¬ SweptByOther X st pair b

section Stable

variable {C : Chain} {w w' : World C} {b b' : VoucherBinding}

/-- The second of two runs settles, clears and removes nothing. -/
structure SecondRunIdle (w : World C) : Prop where
  settled : (settleIBCVoucherPairs (settleIBCVoucherPairs w).world).settled = 0
  staleCleared : (settleIBCVoucherPairs (settleIBCVoucherPairs w).world).staleCleared = 0
  pairsDeleted : (settleIBCVoucherPairs (settleIBCVoucherPairs w).world).pairsDeleted = 0

/-- A kept binding stays one when its NFT is where it was and its token is too, or is gone. -/
lemma kept_of_later (hlive : C.evm.Live) (hkept : (settleVoucherBinding w b).2 = .kept)
    (hheld : w'.nft.held b.classID b.nftID = w.nft.held b.classID b.nftID)
    (hclass : w'.nft.getClass = w.nft.getClass) (hcode : C.evm.hasCode w'.evm = C.evm.hasCode w.evm)
    (howner : ∀ v, C.evm.owner w'.evm (hexToAddress b.contract) v = C.evm.owner w.evm (hexToAddress b.contract) v ∨
      C.evm.owner w'.evm (hexToAddress b.contract) v = none) :
    (settleVoucherBinding w' b).2 = .kept := by
  have hask : ∀ {v u}, Asks w' b v u → Asks w b v u ∧ C.evm.owner w.evm (hexToAddress b.contract) v = some u := by
    intro v u h
    have hnow := C.evm.owner_eq_some.mpr h.owner
    have hthen : C.evm.owner w.evm (hexToAddress b.contract) v = some u := by
      rcases howner v with hsame | hnone
      · rw [← hsame]
        exact hnow
      · rw [hnow] at hnone
        cases hnone
    exact ⟨⟨h.token, h.contract, C.evm.owner_eq_some.mp hthen⟩, hthen⟩
  have huser : ∀ {u}, IsUser w' u → IsUser w u := by
    intro u h
    exact ⟨h.ne_zero, h.ne_module, by rw [← hcode]; exact h.no_code⟩
  have hgetOwner : w'.nft.getOwner b.classID b.nftID = w.nft.getOwner b.classID b.nftID := by
    unfold NftLedger.getOwner
    rw [hheld]
  have hcases := settleVoucherBinding_handles w' b
  generalize settleVoucherBinding w' b = r at hcases
  cases hcases with
  | kept => rfl
  | stale ask owner native =>
    rw [hgetOwner] at native
    rw [settleVoucherBinding_of_stale (hask ask).1 (owner.imp_right huser) native] at hkept
    cases hkept
  | orphan ask native burn =>
    rw [hgetOwner] at native
    obtain ⟨hthen, hown⟩ := hask ask
    obtain ⟨evm, hburn⟩ := hlive.burn hown
    rw [settleVoucherBinding_of_orphan hthen native hburn] at hkept
    cases hkept
  | @wrapped v u token evm denom ask owner native burn readable =>
    obtain ⟨hthen, hown⟩ := hask ask
    obtain ⟨evm', hburn⟩ := hlive.burn hown
    rw [hheld] at native
    have hdenom : getDenomInfo w.nft b.classID = .ok denom := by
      unfold getDenomInfo at readable ⊢
      rw [← hclass]
      exact readable
    rw [settleVoucherBinding_of_wrapped hthen (huser owner) native hburn hdenom] at hkept
    cases hkept

lemma kept_after (hlive : C.evm.Live) (hkept : (settleVoucherBinding w b).2 = .kept)
    (hsame : b'.classID = b.classID → b'.nftID = b.nftID → b' = b) :
    (settleVoucherBinding (settleVoucherBinding w b').1 b).2 = .kept := by
  have hburned : ∀ {caller v' evm}, C.evm.burn w.evm caller (hexToAddress b'.contract) v' = .ok evm → ∀ c v,
      C.evm.owner evm c v = C.evm.owner w.evm c v ∨ C.evm.owner evm c v = none := by
    intro caller v' evm hburn c v
    have hmoved := C.evm.burn_ok hburn
    by_cases heq : (c, v) = (hexToAddress b'.contract, v')
    · cases heq
      exact .inr hmoved.owner_self
    · exact .inl (hmoved.owner_other c v heq)
  by_cases heq : b' = b
  · rw [heq, settleVoucherBinding_of_kept hkept]
    exact hkept
  have hcases := settleVoucherBinding_handles w b'
  generalize settleVoucherBinding w b' = r at hcases
  cases hcases with
  | kept => exact hkept
  | stale => exact kept_of_later hlive hkept rfl rfl rfl fun _ => .inl rfl
  | orphan ask native burn =>
    exact kept_of_later hlive hkept rfl rfl (C.evm.burn_ok burn).code fun v => hburned burn _ v
  | wrapped ask owner native burn readable =>
    refine kept_of_later hlive hkept ?_ rfl (C.evm.burn_ok burn).code fun v => hburned burn _ v
    refine NftLedger.held_put_of_ne _ _ fun hkey => heq (hsame ?_ ?_)
    · exact (Prod.mk.inj hkey).1.symm
    · exact (Prod.mk.inj hkey).2.symm

end Stable

section Clears

variable {C : Chain} {s : Settlement C} {b : VoucherBinding} {pair : TokenPair}

lemma token_of_readBinding {n t : GoString} (h : readBinding (n, t) = some b) :
    t = createTokenUID b.contract b.tokenID := by
  obtain ⟨-, ht, hne⟩ := readBinding_eq_some.mp h
  exact (eq_of_getNFTFromUID ht fun hc => hne (.inr (.inr (.inr hc)))).1

lemma nodup_bindingsByClass (st : Store) (K : GoString) : (bindingsByClass st K).Nodup := by
  have hentries : st.byNFTUID.entries.Nodup := List.Nodup.of_map Prod.fst (KVStore.nodup_keys st.byNFTUID)
  apply List.Nodup.filter
  apply hentries.filterMap
  rintro ⟨n, t⟩ ⟨n', t'⟩ b hb hb'
  rw [← nftUID_of_readBinding hb, ← nftUID_of_readBinding hb', token_of_readBinding hb, token_of_readBinding hb']

lemma eq_of_mem_bindings {st : Store} {b' : VoucherBinding} {K K' : GoString} (hb : b ∈ bindingsByClass st K)
    (hb' : b' ∈ bindingsByClass st K') (hclass : b'.classID = b.classID) (hid : b'.nftID = b.nftID) : b' = b := by
  obtain ⟨⟨n, t, hget, hread⟩, -⟩ := mem_bindingsByClass.mp hb
  obtain ⟨⟨n', t', hget', hread'⟩, -⟩ := mem_bindingsByClass.mp hb'
  have hn : n' = n := by
    rw [← nftUID_of_readBinding hread, ← nftUID_of_readBinding hread', VoucherBinding.nftUID, hclass, hid]
    rfl
  rw [hn, hget, Option.some.injEq] at hget'
  rw [hn, ← hget', hread, Option.some.injEq] at hread'
  exact hread'.symm

/-- Only a binding on the list is cleared. -/
lemma clears_foldl_settleRound {bs : List VoucherBinding} {k : Nat}
    (h : (bs.foldl settleRound (s, k)).1.Clears b) : s.Clears b ∨ b ∈ bs := by
  induction bs generalizing s k with
  | nil => exact .inl h
  | cons b' bs ih =>
    rw [List.foldl_cons, settleRound_eq] at h
    rcases ih h with hclears | hmem
    · rcases clears_handle.mp hclears with hclears | ⟨rfl, -⟩
      · exact .inl hclears
      · exact .inr List.mem_cons_self
    · exact .inr (List.mem_cons_of_mem _ hmem)

lemma clears_foldl_settlePair {l : List TokenPair} {bs : GoString → List VoucherBinding}
    (h : (l.foldl (settlePair bs) s).Clears b) : s.Clears b ∨ ∃ pair ∈ l, b ∈ bs pair.classId := by
  have hrun := @foldl_settlePair_invariant C s
    (fun s' => ∀ b, s'.Clears b → s.Clears b ∨ ∃ pair ∈ l, b ∈ bs pair.classId) bs l
    (fun s' hs' pair hpair _ b' hb' b hb => by
      rcases clears_handle.mp hb with hb | ⟨rfl, -⟩
      · exact hs' b hb
      · exact .inr ⟨pair, hpair, hb'⟩)
    (fun s' hs' _ _ _ _ => hs') (fun b hb => .inl hb)
  exact hrun b h

lemma exists_kept_of_count {bs : List VoucherBinding} {k : Nat} (hnd : bs.Nodup)
    (hfresh : ∀ b ∈ bs, ¬ s.Clears b) (hcount : (bs.foldl settleRound (s, k)).2 ≠ k + bs.length) :
    ∃ b ∈ bs, ¬ (bs.foldl settleRound (s, k)).1.Clears b := by
  induction bs generalizing s k with
  | nil => exact absurd rfl hcount
  | cons b bs ih =>
    obtain ⟨hb, hnd⟩ := List.nodup_cons.mp hnd
    rw [List.foldl_cons, settleRound_eq] at hcount ⊢
    by_cases ho : (settleVoucherBinding s.world b).2 = .kept
    · refine ⟨b, List.mem_cons_self, fun hclears => ?_⟩
      rcases clears_foldl_settleRound hclears with hclears | hmem
      · rcases clears_handle.mp hclears with hclears | ⟨-, hne⟩
        · exact hfresh b List.mem_cons_self hclears
        · exact hne ho
      · exact hb hmem
    · rw [if_neg ho] at hcount ⊢
      have hnext : ∀ b' ∈ bs, ¬ (s.handle b).Clears b' := by
        intro b' hb' hclears
        rcases clears_handle.mp hclears with hclears | ⟨rfl, -⟩
        · exact hfresh b' (List.mem_cons_of_mem _ hb') hclears
        · exact hb hb'
      have hshort : (bs.foldl settleRound (s.handle b, k + 1)).2 ≠ k + 1 + bs.length := by
        rw [List.length_cons] at hcount
        omega
      obtain ⟨b', hb', hkept⟩ := ih hnd hnext hshort
      exact ⟨b', List.mem_cons_of_mem _ hb', hkept⟩

lemma exists_not_clears {w : World C} (hst : VoucherStore w.erc721) (hpair : pair ∈ getTokenPairs w.erc721)
    (hibc : isIBCDenom pair.classId = true) (hout : pair ∉ (settleIBCVoucherPairs w).purged) :
    ∃ b ∈ bindingsByClass w.erc721 pair.classId, ¬ (settleIBCVoucherPairs w).Clears b := by
  obtain ⟨before, after, hsplit⟩ := List.append_of_mem hpair
  have hpairs := hst.pairs
  rw [hsplit, List.pairwise_append, List.pairwise_cons] at hpairs
  obtain ⟨-, ⟨hafter, -⟩, hbefore⟩ := hpairs
  unfold settleIBCVoucherPairs at hout ⊢
  rw [hsplit, List.foldl_append, List.foldl_cons] at hout ⊢
  -- the bindings of the class are handled at the turn of the pair and at no other
  have hfresh : ∀ b ∈ bindingsByClass w.erc721 pair.classId,
      ¬ (before.foldl (settlePair (bindingsByClass w.erc721)) (.start w)).Clears b := by
    intro b hb hclears
    rcases clears_foldl_settlePair hclears with ⟨o, -, hmem⟩ | ⟨Q, hQ, hbQ⟩
    · cases hmem
    · have hK : Q.classId = pair.classId := (mem_bindingsByClass.mp hbQ).2.symm.trans (mem_bindingsByClass.mp hb).2
      exact (hbefore Q hQ pair List.mem_cons_self).1 hK
  have hlater : ∀ {s' : Settlement C} {b}, b ∈ bindingsByClass w.erc721 pair.classId → ¬ s'.Clears b →
      ¬ (after.foldl (settlePair (bindingsByClass w.erc721)) s').Clears b := by
    intro s' b hb hkept hclears
    rcases clears_foldl_settlePair hclears with hclears | ⟨Q, hQ, hbQ⟩
    · exact hkept hclears
    · have hK : pair.classId = Q.classId := (mem_bindingsByClass.mp hb).2.symm.trans (mem_bindingsByClass.mp hbQ).2
      exact (hafter Q hQ).1 hK
  generalize before.foldl (settlePair (bindingsByClass w.erc721)) (.start w) = s at hfresh hout ⊢
  have hgone : ∀ s' : Settlement C, pair ∈ (s'.purge pair).purged := fun s' =>
    List.mem_append_right _ (List.mem_singleton.mpr rfl)
  unfold settlePair at hout ⊢
  rw [if_neg (by simp [hibc])] at hout ⊢
  by_cases hnil : (bindingsByClass w.erc721 pair.classId).length = 0
  · rw [if_pos hnil] at hout
    exact absurd (purged_foldl_settlePair (hgone s)) hout
  · rw [if_neg hnil] at hout ⊢
    dsimp only at hout ⊢
    by_cases hcount : ((bindingsByClass w.erc721 pair.classId).foldl settleRound (s, 0)).2 =
        (bindingsByClass w.erc721 pair.classId).length
    · rw [if_pos hcount] at hout
      exact absurd (purged_foldl_settlePair (hgone _)) hout
    · rw [if_neg hcount]
      obtain ⟨b, hb, hkept⟩ := exists_kept_of_count (nodup_bindingsByClass w.erc721 pair.classId) hfresh
        (by rwa [Nat.zero_add])
      exact ⟨b, hb, hlater hb hkept⟩

end Clears

section Enough

variable {C : Chain} {s : Settlement C} {st : Store} {pair : TokenPair}

lemma tokenPair_settleVoucherBinding (w : World C) (b : VoucherBinding) :
    (settleVoucherBinding w b).1.erc721.tokenPair = w.erc721.tokenPair := by
  by_cases ho : (settleVoucherBinding w b).2 = .kept
  · rw [settleVoucherBinding_of_kept ho]
  · rw [(settleVoucherBinding_of_cleared ho).2]
    unfold deleteVoucherBindingKeys
    rw [deleteNFTPairByTokenID_eq]
    rfl

/-- Where the entries of the starting store went: a reverse entry that is not there was cleared, or swept with
a removed pair; a pair record that is not there was removed. -/
structure Traced (st : Store) (s : Settlement C) : Prop where
  swept : Swept st s
  reverse : ∀ n t, st.byNFTUID.get? n = some t → s.Cleared n ∨ s.world.erc721.byNFTUID.get? n = some t ∨
    ∃ Q ∈ s.purged, OfClass Q n ∨ ∃ uid, SweptKey C.toExtern st Q uid n
  purged : ∀ Q ∈ s.purged, Removable st Q
  records : ∀ id p, s.world.erc721.tokenPair.get? id = some p ↔
    st.tokenPair.get? id = some p ∧ ∀ Q ∈ s.purged, Q.getID C.toExtern ≠ id

lemma Traced.handle (h : Traced st s) (b : VoucherBinding) : Traced st (s.handle b) := by
  refine ⟨h.swept.handle b, fun n t hget => ?_, ?_, fun id p => ?_⟩
  · rcases h.reverse n t hget with ⟨b', hb', hn⟩ | hcur | hpurged
    · exact .inl ⟨b', clears_handle_of_clears hb', hn⟩
    · by_cases ho : (settleVoucherBinding s.world b).2 = .kept
      · refine .inr (.inl ?_)
        rw [world_handle, settleVoucherBinding_of_kept ho]
        exact hcur
      · by_cases hn : n = createNFTUID b.classID b.nftID
        · exact .inl ⟨b, clears_handle.mpr (.inr ⟨rfl, ho⟩), hn.symm⟩
        · refine .inr (.inl ?_)
          rw [world_handle, (settleVoucherBinding_of_cleared ho).2, byNFTUID_deleteVoucherBindingKeys,
            KVStore.get?_delete, if_neg hn]
          exact hcur
    · refine .inr (.inr ?_)
      rw [purged_handle]
      exact hpurged
  · rw [purged_handle]
    exact h.purged
  · rw [world_handle, tokenPair_settleVoucherBinding, purged_handle]
    exact h.records id p

lemma Traced.purge (h : Traced st s) (hpair : pair ∈ getTokenPairs st) (hibc : isIBCDenom pair.classId = true)
    (hall : ∀ b ∈ bindingsByClass st pair.classId, s.Clears b) : Traced st (s.purge pair) := by
  have hlast : ∀ {Q}, Q ∈ (s.purge pair).purged ↔ Q ∈ s.purged ∨ Q = pair := by
    intro Q
    unfold Settlement.purge
    rw [List.mem_append, List.mem_singleton]
  refine ⟨h.swept.purge pair, fun n t hget => ?_, fun Q hQ => ?_, fun id p => ?_⟩
  · rcases h.reverse n t hget with hcl | hcur | ⟨Q, hQ, hwhy⟩
    · exact .inl hcl
    · by_cases hclass : OfClass pair n
      · exact .inr (.inr ⟨pair, hlast.mpr (.inr rfl), .inl hclass⟩)
      · by_cases hnamed : NamedByContract s.world.erc721 pair n
        · obtain ⟨uid, hof, hfwd⟩ := hnamed
          refine .inr (.inr ⟨pair, hlast.mpr (.inr rfl), .inr ⟨uid, hof, h.swept.forward uid n hfwd, ?_⟩⟩)
          intro b hb hvariant
          rw [(h.swept.gone b (hall b hb)).2.2 uid hvariant] at hfwd
          cases hfwd
        · exact .inr (.inl (byNFTUID_purgeTokenPair.mpr ⟨hcur, hclass, hnamed⟩))
    · exact .inr (.inr ⟨Q, hlast.mpr (.inl hQ), hwhy⟩)
  · rcases hlast.mp hQ with hQ | rfl
    · exact h.purged Q hQ
    · exact ⟨hpair, hibc, fun b hb => (h.swept.gone b (hall b hb)).1⟩
  · have hdelete : (s.purge pair).world.erc721.tokenPair = s.world.erc721.tokenPair.delete (pair.getID C.toExtern) := by
      have hsame := (sameRegistry_deletePairPerTokenState s.world.erc721 pair).tokenPair
      unfold Settlement.purge purgeTokenPair deleteTokenPair deleteERC721Map deleteClassMap
      dsimp only
      rw [hsame]
    rw [hdelete, KVStore.get?_delete]
    split_ifs with hid
    · simp only [false_iff, not_and, not_forall]
      intro _
      exact ⟨pair, hlast.mpr (.inr rfl), fun hne => hne hid.symm⟩
    · rw [h.records id p]
      refine and_congr_right fun _ => ⟨fun hall Q hQ => ?_, fun hall Q hQ => hall Q (hlast.mpr (.inl hQ))⟩
      rcases hlast.mp hQ with hQ | rfl
      · exact hall Q hQ
      · exact fun heq => hid heq.symm

theorem traced_run (w : World C) : Traced w.erc721 (settleIBCVoucherPairs w) := by
  refine settle_invariant (fun s hs _ _ _ b _ => hs.handle b)
    (fun s hs pair hpair hibc hall => hs.purge hpair hibc hall) ⟨Swept.start w, ?_, ?_, ?_⟩
  · exact fun n t hget => .inr (.inl hget)
  · intro Q hQ
    cases hQ
  · intro id p
    refine ⟨fun hget => ⟨hget, fun Q hQ => by cases hQ⟩, fun hget => hget.1⟩

lemma kept_run (w : World C) (hlive : C.evm.Live) {b : VoucherBinding}
    (h : (b, SettleOutcome.kept) ∈ (settleIBCVoucherPairs w).handled) :
    (settleVoucherBinding (settleIBCVoucherPairs w).world b).2 = .kept := by
  have hrun := settle_invariant (w := w)
    (I := fun s => (∀ b o, (b, o) ∈ s.handled → ∃ K, b ∈ bindingsByClass w.erc721 K) ∧
      ∀ b, (b, SettleOutcome.kept) ∈ s.handled → (settleVoucherBinding s.world b).2 = .kept)
    (fun s hs pair _ _ b' hb' => by
      refine ⟨fun b o hmem => ?_, fun b hmem => ?_⟩
      · rw [handled_handle] at hmem
        rcases List.mem_append.mp hmem with hmem | hmem
        · exact hs.1 b o hmem
        · obtain ⟨rfl, -⟩ := Prod.mk.inj (List.mem_singleton.mp hmem)
          exact ⟨_, hb'⟩
      · rw [handled_handle] at hmem
        rw [world_handle]
        rcases List.mem_append.mp hmem with hmem | hmem
        · obtain ⟨K, hb⟩ := hs.1 b _ hmem
          exact kept_after hlive (hs.2 b hmem) fun hclass hid => eq_of_mem_bindings hb hb' hclass hid
        · obtain ⟨rfl, hkept⟩ := Prod.mk.inj (List.mem_singleton.mp hmem)
          rw [settleVoucherBinding_of_kept hkept.symm]
          exact hkept.symm)
    (fun s hs _ _ _ _ => ⟨hs.1, fun b hmem =>
      kept_of_later hlive (hs.2 b hmem) rfl rfl rfl fun _ => .inl rfl⟩)
    ⟨fun _ _ hmem => absurd hmem List.not_mem_nil, fun _ hmem => absurd hmem List.not_mem_nil⟩
  exact hrun.2 b h

lemma mem_getTokenPairs : pair ∈ getTokenPairs st ↔ ∃ id, st.tokenPair.get? id = some pair := by
  unfold getTokenPairs
  rw [List.mem_map]
  constructor
  · rintro ⟨⟨id, p⟩, hmem, rfl⟩
    exact ⟨id, KVStore.mem_entries.mp hmem⟩
  · rintro ⟨id, hget⟩
    exact ⟨(id, pair), KVStore.mem_entries.mpr hget, rfl⟩

lemma VoucherStore.eq_of_classId (h : VoucherStore st) {Q : TokenPair} (hpair : pair ∈ getTokenPairs st)
    (hQ : Q ∈ getTokenPairs st) (hK : Q.classId = pair.classId) : Q = pair := by
  by_contra hne
  have hsymm : Std.Symm fun p q : TokenPair => p.classId ≠ q.classId := ⟨fun _ _ => Ne.symm⟩
  exact (h.pairs.imp And.left).forall hQ hpair hne hK

lemma sweptByOther_of_gone {w : World C} (hst : VoucherStore w.erc721) (hpair : pair ∈ getTokenPairs w.erc721)
    (hout : pair ∉ (settleIBCVoucherPairs w).purged) {b : VoucherBinding}
    (hb : b ∈ bindingsByClass w.erc721 pair.classId) (hclears : ¬ (settleIBCVoucherPairs w).Clears b)
    (hgone : b ∉ bindingsByClass (settleIBCVoucherPairs w).world.erc721 pair.classId) :
    SweptByOther C.toExtern w.erc721 pair b := by
  have htraced := traced_run w
  obtain ⟨⟨n, t, hget, hread⟩, hK⟩ := mem_bindingsByClass.mp hb
  have hn := nftUID_of_readBinding hread
  rcases htraced.reverse n t hget with hcleared | hcur | ⟨Q, hQ, hwhy⟩
  · -- the entry that was cleared is the binding itself
    obtain ⟨t', b', hget', hread', hb'⟩ := readable_of_cleared w hcleared
    rw [hget, Option.some.injEq] at hget'
    rw [← hget', hread, Option.some.injEq] at hread'
    exact absurd (hread' ▸ hb') hclears
  · exact absurd (mem_bindingsByClass.mpr ⟨⟨n, t, hcur, hread⟩, hK⟩) hgone
  · have hremovable := htraced.purged Q hQ
    have hother : Q.classId ≠ pair.classId := by
      intro hclass
      rw [hst.eq_of_classId hpair hremovable.stored hclass] at hQ
      exact hout hQ
    rcases hwhy with hclass | ⟨uid, hkey⟩
    · unfold OfClass at hclass
      rw [(readBinding_eq_some.mp hread).1] at hclass
      exact absurd (hclass.symm.trans hK) hother
    · exact ⟨Q, uid, hremovable, hother, hn ▸ hkey⟩

lemma bindings_ne_nil {w : World C} (hst : VoucherStore w.erc721) (hids : ∀ id p,
    w.erc721.tokenPair.get? id = some p → id = p.getID C.toExtern)
    (hkeeps : KeepsOwnBindings C.toExtern w.erc721)
    (hpair : pair ∈ getTokenPairs (settleIBCVoucherPairs w).world.erc721)
    (hibc : isIBCDenom pair.classId = true) :
    bindingsByClass (settleIBCVoucherPairs w).world.erc721 pair.classId ≠ [] := by
  intro hnil
  obtain ⟨id, hid⟩ := mem_getTokenPairs.mp hpair
  obtain ⟨hrecord, hkept⟩ := ((traced_run w).records id pair).mp hid
  have hstored : pair ∈ getTokenPairs w.erc721 := mem_getTokenPairs.mpr ⟨id, hrecord⟩
  have hout : pair ∉ (settleIBCVoucherPairs w).purged := fun hmem => hkept pair hmem (hids id pair hrecord).symm
  have hswept : ∀ b ∈ bindingsByClass w.erc721 pair.classId, ¬ (settleIBCVoucherPairs w).Clears b →
      SweptByOther C.toExtern w.erc721 pair b := by
    intro b hb hclears
    apply sweptByOther_of_gone hst hstored hout hb hclears
    rw [hnil]
    exact List.not_mem_nil
  obtain ⟨b₀, hb₀, hkept₀⟩ := exists_not_clears hst hstored hibc hout
  obtain ⟨b₁, hb₁, haddr, hfree⟩ := hkeeps pair hstored hibc ⟨b₀, hb₀, hswept b₀ hb₀ hkept₀⟩
  exact hfree (hswept b₁ hb₁ fun hclears => haddr ((traced_run w).swept.gone b₁ hclears).1)

lemma kept_of_mem_bindings {w : World C} (hlive : C.evm.Live)
    (hpair : pair ∈ getTokenPairs (settleIBCVoucherPairs w).world.erc721)
    (hibc : isIBCDenom pair.classId = true) {b : VoucherBinding}
    (hb : b ∈ bindingsByClass (settleIBCVoucherPairs w).world.erc721 pair.classId) :
    (settleVoucherBinding (settleIBCVoucherPairs w).world b).2 = .kept := by
  have htraced := traced_run w
  obtain ⟨id, hid⟩ := mem_getTokenPairs.mp hpair
  have hstored : pair ∈ getTokenPairs w.erc721 := mem_getTokenPairs.mpr ⟨id, ((htraced.records id pair).mp hid).1⟩
  obtain ⟨⟨n, t, hcur, hread⟩, hK⟩ := mem_bindingsByClass.mp hb
  have hmem : b ∈ (settleIBCVoucherPairs w).handled.map Prod.fst := by
    rw [handled_settle]
    refine mem_voucherBindings.mpr ⟨pair, hstored, hibc, mem_bindingsByClass.mpr ⟨⟨n, t, ?_, hread⟩, hK⟩⟩
    exact htraced.swept.reverse n t hcur
  obtain ⟨⟨b', o⟩, hhandled, rfl⟩ := List.mem_map.mp hmem
  by_cases ho : o = .kept
  · subst ho
    exact kept_run w hlive hhandled
  · have hgone := (htraced.swept.gone b' ⟨o, ho, hhandled⟩).2.1
    rw [nftUID_of_readBinding hread, hcur] at hgone
    cases hgone

theorem secondRunIdle_of_keepsOwnBindings {w : World C} (hlive : C.evm.Live) (hst : VoucherStore w.erc721)
    (hids : ∀ id p, w.erc721.tokenPair.get? id = some p → id = p.getID C.toExtern)
    (hkeeps : KeepsOwnBindings C.toExtern w.erc721) : SecondRunIdle w := by
  have hrun := settle_invariant (w := (settleIBCVoucherPairs w).world)
    (I := fun s => s.world = (settleIBCVoucherPairs w).world ∧ (∀ b, ¬ s.Clears b) ∧
      s.settled = 0 ∧ s.staleCleared = 0 ∧ s.pairsDeleted = 0)
    (fun s hs pair hpair hibc b hb => by
      obtain ⟨hworld, hnone, hcounts⟩ := hs
      have hkept : (settleVoucherBinding s.world b).2 = .kept := by
        rw [hworld]
        exact kept_of_mem_bindings hlive hpair hibc hb
      refine ⟨?_, fun b' hb' => ?_, ?_⟩
      · rw [world_handle, settleVoucherBinding_of_kept hkept]
        exact hworld
      · rcases clears_handle.mp hb' with hb' | ⟨-, hne⟩
        · exact hnone b' hb'
        · exact hne hkept
      · unfold Settlement.handle settleRound
        dsimp only
        rw [settleVoucherBinding_of_kept hkept]
        exact hcounts)
    (fun s hs pair hpair hibc hall => by
      obtain ⟨b, hb⟩ := List.exists_mem_of_ne_nil _ (bindings_ne_nil hst hids hkeeps hpair hibc)
      exact absurd (hall b hb) (hs.2.1 b))
    ⟨rfl, fun b hb => by
      obtain ⟨o, -, hmem⟩ := hb
      exact absurd hmem List.not_mem_nil, rfl, rfl, rfl⟩
  obtain ⟨-, -, hsettled, hstale, hdeleted⟩ := hrun
  exact ⟨hsettled, hstale, hdeleted⟩

end Enough

/-! ### Necessary -/

section Necessary

variable {C : Chain} {st : Store} {pair : TokenPair} {b : VoucherBinding}

lemma not_ofContract_of_variant (hst : VoucherStore st) {Q R : TokenPair} (hQ : Q ∈ getTokenPairs st)
    (hR : R ∈ getTokenPairs st) (hRibc : isIBCDenom R.classId = true) (hne : R.classId ≠ Q.classId)
    (hb : b ∈ bindingsByClass st R.classId) (htoken : Addressable b) {uid : GoString}
    (huid : uid ∈ variantUIDs C.toExtern b.contract b.tokenID) : ¬ OfContract Q uid := by
  intro hof
  obtain ⟨hhex, hcontract⟩ := hst.names R hR hRibc b hb
  obtain ⟨⟨v, hv⟩, -⟩ := htoken
  obtain ⟨legacy, hparse⟩ := parse_of_parseEVMTokenID hv
  obtain ⟨t, ht, c, hc, rfl⟩ := mem_variantUIDs.mp huid
  rw [evmTokenIDKeyVariants_of_parse hparse] at ht
  have hchex := isHexAddress_of_mem_variants hhex hc
  unfold OfContract at hof
  rw [getNFTFromUID_createTokenUID (ne_nil_of_mem_tokenSpellings ht) (ne_nil_of_isHexAddress hchex)
    (comma_notMem_of_isHexAddress hchex)] at hof
  have hsame : Q.getERC721Contract = R.getERC721Contract := by
    rw [← hcontract, ← hexToAddress_of_mem_variants hhex hc]
    exact (hexToAddress_of_equalFold hchex hof).2
  have hsymm : Std.Symm fun p q : TokenPair => p.getERC721Contract ≠ q.getERC721Contract := ⟨fun _ _ => Ne.symm⟩
  exact (hst.pairs.imp And.right).forall hQ hR (fun heq => hne (by rw [heq])) hsame

def onlyNFT (b : VoucherBinding) (c n : GoString) : Bool := c == b.classID && n == b.nftID

variable (wasm : C.wasm.State) {user : Address}

lemma mem_purged_of_removable (huser : CanHold st user) {Q : TokenPair} (hQ : Removable st Q)
    (hb : b ∈ bindingsByClass st pair.classId) (hne : Q.classId ≠ pair.classId) :
    Q ∈ (settleIBCVoucherPairs (vacantWorld C user wasm st (onlyNFT b))).purged := by
  apply mem_purged_vacant wasm huser hQ.stored hQ.voucher
  intro b' hb'
  refine ⟨?_, hQ.bindings b' hb'⟩
  have hK : b'.classID ≠ b.classID := by
    rw [(mem_bindingsByClass.mp hb').2, (mem_bindingsByClass.mp hb).2]
    exact hne
  simp [onlyNFT, hK]

lemma gone_of_sweptByOther (huser : CanHold st user) (hst : VoucherStore st) (hrec : Recorded C.toExtern st)
    {b' : VoucherBinding} (hb : b ∈ bindingsByClass st pair.classId) (hswept : SweptByOther C.toExtern st pair b') :
    (settleIBCVoucherPairs (vacantWorld C user wasm st (onlyNFT b))).world.erc721.byNFTUID.get? b'.nftUID = none := by
  obtain ⟨Q, uid, hQ, hne, hkey⟩ := hswept
  have hrun := settle_invariant (w := vacantWorld C user wasm st (onlyNFT b))
    (I := fun s => Swept st s ∧ Doomed uid b'.nftUID Q s)
    (fun s hs R hR hRibc b₁ hb₁ => by
      refine ⟨hs.1.handle b₁, hs.2.handle fun ho hvariant => ?_⟩
      obtain ⟨⟨v, u, hask⟩, -⟩ := settleVoucherBinding_of_cleared ho
      by_cases hK : R.classId = Q.classId
      · exact hkey.unclaimed b₁ (hK ▸ hb₁) hvariant
      · exact not_ofContract_of_variant hst hQ.stored hR hRibc hK hb₁ ⟨⟨v, hask.token⟩, hask.contract⟩ hvariant
          hkey.contract)
    (fun s hs R hR hRibc hall => by
      refine ⟨hs.1.purge R, hs.2.purge hs.1 hkey.contract hall fun m hm hclass => ?_⟩
      -- both parts of the key and both parts of the value are there
      have hcontract : (getNFTFromUID uid).2 ≠ [] := by
        intro hnil
        have hof := hkey.contract
        unfold OfContract equalFold at hof
        rw [hnil] at hof
        have hlen := congrArg List.length (beq_iff_eq.mp hof)
        rw [length_toLower, length_toLower] at hlen
        exact hrec.addresses Q hQ.stored (List.length_eq_zero_iff.mp hlen.symm)
      have hclassne : (getNFTFromUID m).2 ≠ [] := by
        unfold OfClass at hclass
        rw [hclass]
        intro hnil
        rw [hnil] at hRibc
        exact absurd hRibc (by decide)
      obtain ⟨-, -, htoken⟩ := eq_of_getNFTFromUID (Prod.mk.eta (p := getNFTFromUID uid)).symm hcontract
      obtain ⟨-, -, hnft⟩ := eq_of_getNFTFromUID (Prod.mk.eta (p := getNFTFromUID m)).symm hclassne
      unfold readBinding
      simp [hcontract, hclassne, htoken, hnft])
    ⟨Swept.start (vacantWorld C user wasm st (onlyNFT b)), .inr hkey.named, fun hp => absurd hp List.not_mem_nil⟩
  exact hrun.2.removed (mem_purged_of_removable wasm huser hQ hb hne)

lemma notMem_purged_onlyNFT (huser : CanHold st user) (hb : b ∈ bindingsByClass st pair.classId) :
    pair ∉ (settleIBCVoucherPairs (vacantWorld C user wasm st (onlyNFT b))).purged := by
  intro hmem
  have hrun := settle_invariant (w := vacantWorld C user wasm st (onlyNFT b))
    (I := fun s => ∀ Q ∈ s.purged, ∀ b' ∈ bindingsByClass st Q.classId, s.Clears b')
    (fun s hs R _ _ b₁ _ Q hQ b' hb' => by
      rw [purged_handle] at hQ
      exact clears_handle_of_clears (hs Q hQ b' hb'))
    (fun s hs R _ _ hall Q hQ b' hb' => by
      rcases List.mem_append.mp hQ with hQ | hQ
      · exact hs Q hQ b' hb'
      · rw [List.mem_singleton.mp hQ] at hb'
        exact hall b' hb')
    (fun Q hQ => absurd hQ List.not_mem_nil)
  have hpresent := (vacant_run wasm st huser.ne_module).2 b (hrun pair hmem b hb)
  simp [onlyNFT] at hpresent

lemma clears_onlyNFT (huser : CanHold st user) {b' : VoucherBinding} (hpair : pair ∈ getTokenPairs st)
    (hibc : isIBCDenom pair.classId = true) (hb' : b' ∈ bindingsByClass st pair.classId) (haddr : Addressable b')
    (hother : onlyNFT b b'.classID b'.nftID = false) :
    (settleIBCVoucherPairs (vacantWorld C user wasm st (onlyNFT b))).Clears b' := by
  have hrun := settle_invariant (w := vacantWorld C user wasm st (onlyNFT b))
    (I := fun s => Vacant (onlyNFT b) s.world ∧ ∀ b₁ o, (b₁, o) ∈ s.handled → Addressable b₁ →
      onlyNFT b b₁.classID b₁.nftID = false → o ≠ .kept)
    (fun s hs _ _ _ b₂ hb₂ => by
      have hvacant := (vacant_settle hs.1 huser.ne_module b₂).1
      refine ⟨by rwa [world_handle], fun b₁ o hmem haddr₁ hother₁ => ?_⟩
      rw [handled_handle] at hmem
      rcases List.mem_append.mp hmem with hmem | hmem
      · exact hs.2 b₁ o hmem haddr₁ hother₁
      · obtain ⟨rfl, rfl⟩ := Prod.mk.inj (List.mem_singleton.mp hmem)
        rw [settle_vacant hs.1 huser.ne_module hother₁ haddr₁ (huser.contracts _ _ hb₂)]
        simp)
    (fun s hs _ _ _ _ => ⟨⟨hs.1.nft, hs.1.evm⟩, hs.2⟩)
    ⟨⟨rfl, rfl⟩, fun _ _ hmem => absurd hmem List.not_mem_nil⟩
  have hmem : b' ∈ (settleIBCVoucherPairs (vacantWorld C user wasm st (onlyNFT b))).handled.map Prod.fst := by
    rw [handled_settle]
    exact mem_voucherBindings.mpr ⟨pair, hpair, hibc, hb'⟩
  obtain ⟨⟨b₁, o⟩, hhandled, rfl⟩ := List.mem_map.mp hmem
  exact ⟨o, hrun.2 b₁ o hhandled haddr hother, hhandled⟩

lemma pairsDeleted_of_shell {w : World C} (hpair : pair ∈ getTokenPairs w.erc721)
    (hibc : isIBCDenom pair.classId = true) (hnil : bindingsByClass w.erc721 pair.classId = []) :
    (settleIBCVoucherPairs w).pairsDeleted ≠ 0 := by
  have hcount : (settleIBCVoucherPairs w).pairsDeleted = (settleIBCVoucherPairs w).purged.length := by
    apply settle_invariant (I := fun s => s.pairsDeleted = s.purged.length)
    · intro s hs _ _ _ b _
      rw [purged_handle, ← hs]
      unfold Settlement.handle settleRound
      dsimp only
      cases (settleVoucherBinding s.world b).2 <;> rfl
    · intro s hs _ _ _ _
      unfold Settlement.purge
      rw [List.length_append, List.length_singleton, hs]
    · rfl
  have hmem : pair ∈ (settleIBCVoucherPairs w).purged := by
    obtain ⟨before, after, hsplit⟩ := List.append_of_mem hpair
    unfold settleIBCVoucherPairs
    rw [hsplit, List.foldl_append, List.foldl_cons]
    apply purged_foldl_settlePair
    unfold settlePair
    rw [if_neg (by simp [hibc]), if_pos (by rw [hnil]; rfl)]
    exact List.mem_append_right _ (List.mem_singleton.mpr rfl)
  rw [hcount]
  exact Nat.pos_iff_ne_zero.mp (List.length_pos_of_mem hmem)

/-- An idle second run, whatever the ownership, leaves no pair that other pairs can strip of its bindings. -/
theorem keepsOwnBindings_of_idle (huser : CanHold st user) (hst : VoucherStore st) (hrec : Recorded C.toExtern st)
    (h : ∀ b, SecondRunIdle (vacantWorld C user wasm st (onlyNFT b))) : KeepsOwnBindings C.toExtern st := by
  rintro pair hpair hibc ⟨b, hb, hswept⟩
  by_contra hno
  push Not at hno
  have htraced := traced_run (vacantWorld C user wasm st (onlyNFT b))
  have hstays := notMem_purged_onlyNFT wasm huser hb
  -- no binding of the pair survives the first run
  have hnil : bindingsByClass (settleIBCVoucherPairs (vacantWorld C user wasm st (onlyNFT b))).world.erc721
      pair.classId = [] := by
    apply List.eq_nil_iff_forall_not_mem.mpr
    intro b' hmem
    obtain ⟨⟨n, t, hcur, hread⟩, hK⟩ := mem_bindingsByClass.mp hmem
    have hb' : b' ∈ bindingsByClass st pair.classId :=
      mem_bindingsByClass.mpr ⟨⟨n, t, htraced.swept.reverse n t hcur, hread⟩, hK⟩
    have hgone : (settleIBCVoucherPairs (vacantWorld C user wasm st (onlyNFT b))).world.erc721.byNFTUID.get?
        b'.nftUID = none := by
      by_cases haddr : Addressable b'
      · cases hother : onlyNFT b b'.classID b'.nftID with
        | false => exact (htraced.swept.gone b' (clears_onlyNFT wasm huser hpair hibc hb' haddr hother)).2.1
        | true =>
          simp only [onlyNFT, Bool.and_eq_true, beq_iff_eq] at hother
          rw [eq_of_mem_bindings hb hb' hother.1 hother.2]
          exact gone_of_sweptByOther wasm huser hst hrec hb hswept
      · exact gone_of_sweptByOther wasm huser hst hrec hb (hno b' hb' haddr)
    rw [nftUID_of_readBinding hread, hcur] at hgone
    cases hgone
  -- its record does
  have hrecord : pair ∈ getTokenPairs
      (settleIBCVoucherPairs (vacantWorld C user wasm st (onlyNFT b))).world.erc721 := by
    obtain ⟨id, hid⟩ := mem_getTokenPairs.mp hpair
    refine mem_getTokenPairs.mpr ⟨id, (htraced.records id pair).mpr ⟨hid, fun Q hQ heq => ?_⟩⟩
    obtain ⟨id', hid'⟩ := mem_getTokenPairs.mp (htraced.purged Q hQ).stored
    have hsame : id' = id := (hrec.ids id' Q hid').trans heq
    rw [hsame] at hid'
    have hrow : st.tokenPair.get? id = some Q := hid'
    rw [hid, Option.some.injEq] at hrow
    exact hstays (hrow ▸ hQ)
  exact pairsDeleted_of_shell hrecord hibc hnil (h b).pairsDeleted

end Necessary

/-- For every store whose pairs differ and whose voucher bindings name their own contract: a settlement is safe
whatever the ownership. When the pairs are stored under their own ids, a second run is idle whatever the
ownership exactly when no pair can lose its kept bindings to the removal of others. Contracts that never answer
with the zero address do not make it idle more often, as long as one address is left for a user. -/
theorem settlement_safe_and_idle_iff (C : Chain) (wasm : C.wasm.State) (st : Store) (hst : VoucherStore st) :
    (∀ (E : EvmKeeper C.toExtern) (w : World (withEvm C E)), w.erc721 = st → SettlesSafely w) ∧
      (Recorded C.toExtern st →
        ((∀ E : EvmKeeper C.toExtern, E.Live → ∀ w : World (withEvm C E), w.erc721 = st → SecondRunIdle w) ↔
          KeepsOwnBindings C.toExtern st) ∧
        ∀ user, Unnamed st user →
          ((∀ E : EvmKeeper C.toExtern, E.Live → E.HasOwners →
            ∀ w : World (withEvm C E), w.erc721 = st → SecondRunIdle w) ↔ KeepsOwnBindings C.toExtern st)) := by
  refine ⟨?_, fun hrec => ⟨⟨fun h => ?_, ?_⟩, fun user huser => ⟨fun h => ?_, ?_⟩⟩⟩
  · rintro E w rfl
    exact settlesSafely w (hst.pairs.imp And.left)
  · obtain ⟨user, huser, -⟩ := exists_canHold st
    exact keepsOwnBindings_of_idle wasm huser hst hrec fun b => h _ (heldEvm_live C.toExtern user) _ rfl
  · rintro hkeeps E hlive w rfl
    exact secondRunIdle_of_keepsOwnBindings hlive hst hrec.ids hkeeps
  · exact keepsOwnBindings_of_idle wasm huser.canHold hst hrec fun b =>
      h _ (heldEvm_live C.toExtern user) (heldEvm_hasOwners C.toExtern huser.ne_zero) _ rfl
  · rintro hkeeps E hlive - w rfl
    exact secondRunIdle_of_keepsOwnBindings hlive hst hrec.ids hkeeps

def voucherStore (pairs : List TokenPair) (forward reverse : List (GoString × GoString)) : Store :=
  { Store.empty with
    tokenPair := KVStore.empty.setAll (pairs.map fun p => (p.getID Sample.X, p))
    byTokenUID := KVStore.empty.setAll forward
    byNFTUID := KVStore.empty.setAll reverse }

lemma recorded_of_entries {X : Extern} {st : Store} (hids : ∀ e ∈ st.tokenPair.entries, e.1 = e.2.getID X)
    (haddr : ∀ pair ∈ getTokenPairs st, pair.erc721Address ≠ []) : Recorded X st :=
  ⟨fun id pair hget => hids (id, pair) (KVStore.mem_entries.mpr hget), haddr⟩

def kittyPair : TokenPair := ⟨Sample.contract, voucherClass⟩

/-- A voucher pair with a binding whose halves both belong to users, and a second one without bindings. One stray
forward entry under the contract of the second names the NFT of the first. -/
def strayStore (reverse : List (GoString × GoString)) : Store :=
  voucherStore [kittyPair, ⟨str "0x5555555555555555555555555555555555555555", str "ibc/CD"⟩]
    [(createTokenUID Sample.contract (str "5"), str "cat,ibc/AB"),
      (str "9,0x5555555555555555555555555555555555555555", str "cat,ibc/AB")]
    ((str "cat,ibc/AB", createTokenUID Sample.contract (str "5")) :: reverse)

def strayWorldOf (reverse : List (GoString × GoString)) : World Sample.chain where
  erc721 := strayStore reverse
  cw721 := .empty
  nft := ((NftLedger.empty.putClass voucherClass ⟨[], [], [], [], [], .value DenomMetadata.zero⟩).put
    voucherClass (str "cat") (some ⟨⟨[], [], .value ⟨[], []⟩⟩, Sample.bob⟩))
  evm := Sample.evmWith [(5, evmAddress Sample.alice)]
  wasm := .empty

/-- The first pair has another binding, whose token id cannot be read. -/
def anchored : List (GoString × GoString) := [(str "dog,ibc/AB", createTokenUID Sample.contract (str "x"))]

lemma keepsOwnBindings_anchored : KeepsOwnBindings Sample.X (strayStore anchored) := by
  have hfirst : ∀ pair ∈ getTokenPairs (strayStore anchored), bindingsByClass (strayStore anchored) pair.classId ≠ [] →
      pair.classId = voucherClass := by decide +kernel
  rintro pair hpair - ⟨b, hb, -⟩
  rw [hfirst pair hpair (List.ne_nil_of_mem hb)]
  refine ⟨⟨voucherClass, str "dog", str "x", Sample.contract⟩, by decide +kernel, ?_, ?_⟩
  · rintro ⟨⟨v, hv⟩, -⟩
    have hfails : (parseEVMTokenID (str "x")).toBool = false := by decide +kernel
    rw [hv] at hfails
    cases hfails
  · rintro ⟨Q, uid, -, -, hkey⟩
    have hvalues : ∀ e ∈ (strayStore anchored).byTokenUID.entries, e.2 ≠ str "dog,ibc/AB" := by decide +kernel
    exact hvalues _ (KVStore.mem_entries.mpr hkey.named) rfl

/-- The first run removes the empty pair and the binding of cat with it; the other binding is still there. -/
theorem settlement_idle_anchored :
    (settleIBCVoucherPairs (strayWorldOf anchored)).pairsDeleted = 1 ∧
    (settleIBCVoucherPairs (strayWorldOf anchored)).world.erc721.byNFTUID.has (str "cat,ibc/AB") = false ∧
    SecondRunIdle (strayWorldOf anchored) := by
  refine ⟨by decide +kernel, by decide +kernel, ?_⟩
  exact ((settlement_safe_and_idle_iff Sample.chain .empty (strayStore anchored)
    ⟨by decide +kernel, by decide +kernel⟩).2 (recorded_of_entries (by decide +kernel) (by decide +kernel))).1.mpr
    keepsOwnBindings_anchored Sample.evm Sample.evm_live _ rfl

def strayWorld : World Sample.chain := strayWorldOf []

/-- The first run keeps the binding and removes the empty pair, and with it the binding. The second run removes
the first pair. -/
theorem settlement_second_run_purges :
    VoucherStore strayWorld.erc721 ∧ Recorded Sample.X strayWorld.erc721 ∧
    (settleIBCVoucherPairs strayWorld).kept = 1 ∧ (settleIBCVoucherPairs strayWorld).pairsDeleted = 1 ∧
    (settleIBCVoucherPairs (settleIBCVoucherPairs strayWorld).world).pairsDeleted = 1 :=
  ⟨⟨by decide +kernel, by decide +kernel⟩, recorded_of_entries (by decide +kernel) (by decide +kernel),
    by decide +kernel, by decide +kernel, by decide +kernel⟩

end Uptick.Erc721
