import Uptick.Erc721.SettlementRun
import Uptick.SampleChain

/-!
# What a settlement sweeps away

Bindings are grouped by class, without the entries that cannot be read. Removing a pair then drops every
reverse entry of the class, and the entries that forward entries of its contract name. For which stores this
drops nothing that was not settled, whoever owns the tokens.
-/

namespace Uptick.Erc721

open Text Evm Outcome Collection

/-- The binding can be read as a token of a contract. -/
def Addressable (b : VoucherBinding) : Prop :=
  (∃ v, parseEVMTokenID b.tokenID = .ok v) ∧ isHexAddress b.contract = true

/-- Removing the pair drops cleared entries only: every reverse entry of its class can be read, and a forward
entry of its contract that names another NFT with a binding is under a key that clearing the bindings of the
class drops before. -/
structure SweepSafe (X : Extern) (st : Store) (pair : TokenPair) : Prop where
  readable : ∀ n t, st.byNFTUID.get? n = some t → OfClass pair n → readBinding (n, t) ≠ none
  forward : ∀ uid n, st.byTokenUID.get? uid = some n → OfContract pair uid → ¬ OfClass pair n →
    st.byNFTUID.get? n ≠ none →
      ∃ b ∈ bindingsByClass st pair.classId, uid ∈ variantUIDs X b.contract b.tokenID

/-- Every voucher pair that some ownership lets the settlement remove is safe to remove. -/
def SweepsOnlyCleared (X : Extern) (st : Store) : Prop :=
  ∀ pair ∈ getTokenPairs st, isIBCDenom pair.classId = true →
    (∀ b ∈ bindingsByClass st pair.classId, Addressable b) → SweepSafe X st pair

section

variable {C : Chain}

/-- A pair is removed only when every reverse entry of its class was settled or cleared, and a reverse entry
that was not is there at the end, unchanged. -/
structure LeavesUnsettled (w : World C) : Prop where
  purged : ∀ pair ∈ (settleIBCVoucherPairs w).purged, ∀ n t, w.erc721.byNFTUID.get? n = some t →
    OfClass pair n → (settleIBCVoucherPairs w).Cleared n
  present : ∀ n t, w.erc721.byNFTUID.get? n = some t → ¬ (settleIBCVoucherPairs w).Cleared n →
    (settleIBCVoucherPairs w).world.erc721.byNFTUID.get? n = some t

lemma byTokenUID_deleteVoucherBindingKeys (X : Extern) (st : Store) (c t K n : GoString) :
    (deleteVoucherBindingKeys X st c t K n).byTokenUID = st.byTokenUID.deleteAll (variantUIDs X c t) := by
  have hkeys := deleteNFTPairByTokenID_eq X st c t
  unfold deleteVoucherBindingKeys
  rw [hkeys]
  rfl

lemma byNFTUID_deleteVoucherBindingKeys (X : Extern) (st : Store) (c t K n : GoString) :
    (deleteVoucherBindingKeys X st c t K n).byNFTUID = st.byNFTUID.delete (createNFTUID K n) := by
  have hkeys := deleteNFTPairByTokenID_eq X st c t
  unfold deleteVoucherBindingKeys
  rw [hkeys]
  rfl

/-- What a run has done to the index so far, given the store it started from. -/
structure Swept (st : Store) (s : Settlement C) : Prop where
  forward : ∀ uid n, s.world.erc721.byTokenUID.get? uid = some n → st.byTokenUID.get? uid = some n
  reverse : ∀ n t, s.world.erc721.byNFTUID.get? n = some t → st.byNFTUID.get? n = some t
  gone : ∀ b, s.Clears b → Addressable b ∧ s.world.erc721.byNFTUID.get? b.nftUID = none ∧
    ∀ uid ∈ variantUIDs C.toExtern b.contract b.tokenID, s.world.erc721.byTokenUID.get? uid = none

namespace Swept

variable {st : Store} {s : Settlement C} {b : VoucherBinding} {pair : TokenPair}

lemma start (w : World C) : Swept w.erc721 (.start w) where
  forward := fun _ _ h => h
  reverse := fun _ _ h => h
  gone := by
    rintro b ⟨o, -, hmem⟩
    cases hmem

lemma handle (h : Swept st s) (b : VoucherBinding) : Swept st (s.handle b) := by
  by_cases ho : (settleVoucherBinding s.world b).2 = .kept
  · have hworld : (s.handle b).world = s.world := by
      rw [world_handle, settleVoucherBinding_of_kept ho]
    refine ⟨?_, ?_, fun b' hb' => ?_⟩
    · rw [hworld]
      exact h.forward
    · rw [hworld]
      exact h.reverse
    · rcases clears_handle.mp hb' with hb' | ⟨-, hcleared⟩
      · rw [hworld]
        exact h.gone b' hb'
      · exact absurd ho hcleared
  · obtain ⟨⟨v, u, hask⟩, hstore⟩ := settleVoucherBinding_of_cleared ho
    have hfwd : ∀ uid n, (s.handle b).world.erc721.byTokenUID.get? uid = some n ↔
        uid ∉ variantUIDs C.toExtern b.contract b.tokenID ∧ s.world.erc721.byTokenUID.get? uid = some n := by
      intro uid n
      rw [world_handle, hstore, byTokenUID_deleteVoucherBindingKeys, KVStore.get?_deleteAll_eq_some]
    have hrev : ∀ n, (s.handle b).world.erc721.byNFTUID.get? n =
        if n = b.nftUID then none else s.world.erc721.byNFTUID.get? n := by
      intro n
      rw [world_handle, hstore, byNFTUID_deleteVoucherBindingKeys, KVStore.get?_delete]
      rfl
    have hnone : ∀ uid, (s.world.erc721.byTokenUID.get? uid = none ∨
        uid ∈ variantUIDs C.toExtern b.contract b.tokenID) →
        (s.handle b).world.erc721.byTokenUID.get? uid = none := by
      intro uid huid
      apply Option.eq_none_iff_forall_not_mem.mpr
      intro n hn
      obtain ⟨hout, hget⟩ := (hfwd uid n).mp hn
      rcases huid with hnil | hmem
      · rw [hnil] at hget
        cases hget
      · exact hout hmem
    refine ⟨fun uid n hn => h.forward uid n ((hfwd uid n).mp hn).2, fun n t hn => ?_, fun b' hb' => ?_⟩
    · rw [hrev] at hn
      split_ifs at hn
      exact h.reverse n t hn
    · rcases clears_handle.mp hb' with hb' | ⟨rfl, -⟩
      · obtain ⟨haddr, hnft, hkeys⟩ := h.gone b' hb'
        refine ⟨haddr, ?_, fun uid huid => hnone uid (.inl (hkeys uid huid))⟩
        rw [hrev, hnft]
        exact ite_self _
      · refine ⟨⟨⟨v, hask.token⟩, hask.contract⟩, ?_, fun uid huid => hnone uid (.inr huid)⟩
        rw [hrev, if_pos rfl]

lemma purge (h : Swept st s) (pair : TokenPair) : Swept st (s.purge pair) := by
  refine ⟨fun uid n hn => h.forward uid n (byTokenUID_purgeTokenPair.mp hn).1,
    fun n t hn => h.reverse n t (byNFTUID_purgeTokenPair.mp hn).1, fun b hb => ?_⟩
  obtain ⟨haddr, hnft, hkeys⟩ := h.gone b hb
  refine ⟨haddr, ?_, fun uid huid => ?_⟩
  · apply Option.eq_none_iff_forall_not_mem.mpr
    intro t ht
    rw [(byNFTUID_purgeTokenPair.mp ht).1] at hnft
    cases hnft
  · apply Option.eq_none_iff_forall_not_mem.mpr
    intro n hn
    have hget := hkeys uid huid
    rw [(byTokenUID_purgeTokenPair.mp hn).1] at hget
    cases hget

end Swept

section Enough

variable {w : World C} {s : Settlement C} {pair : TokenPair}

/-- The reverse entry is there, or it was cleared. -/
def Accounted (st : Store) (s : Settlement C) : Prop :=
  ∀ n t, st.byNFTUID.get? n = some t → s.Cleared n ∨ s.world.erc721.byNFTUID.get? n = some t

lemma accounted_handle {st : Store} {b : VoucherBinding} (h : Accounted st s) : Accounted st (s.handle b) := by
  intro n t hget
  rcases h n t hget with ⟨b', hb', rfl⟩ | hcur
  · exact .inl ⟨b', clears_handle_of_clears hb', rfl⟩
  · by_cases ho : (settleVoucherBinding s.world b).2 = .kept
    · right
      rw [world_handle, settleVoucherBinding_of_kept ho]
      exact hcur
    · by_cases hn : n = b.nftUID
      · exact .inl ⟨b, clears_handle.mpr (.inr ⟨rfl, ho⟩), hn.symm⟩
      · right
        have hother : ¬ n = createNFTUID b.classID b.nftID := hn
        rw [world_handle, (settleVoucherBinding_of_cleared ho).2, byNFTUID_deleteVoucherBindingKeys,
          KVStore.get?_delete, if_neg hother]
        exact hcur

lemma cleared_of_ofClass {st : Store} (hsafe : SweepSafe C.toExtern st pair)
    (hall : ∀ b ∈ bindingsByClass st pair.classId, s.Clears b) {n t : GoString}
    (hget : st.byNFTUID.get? n = some t) (hclass : OfClass pair n) : s.Cleared n := by
  obtain ⟨b, hb⟩ := Option.ne_none_iff_exists'.mp (hsafe.readable n t hget hclass)
  have hK : b.classID = pair.classId := by
    have hparts := (readBinding_eq_some.mp hb).1
    unfold OfClass at hclass
    rw [hparts] at hclass
    exact hclass
  exact ⟨b, hall b (mem_bindingsByClass.mpr ⟨⟨n, t, hget, hb⟩, hK⟩), nftUID_of_readBinding hb⟩

lemma accounted_purge {st : Store} (hs : Swept st s) (hsafe : SweepSafe C.toExtern st pair)
    (hall : ∀ b ∈ bindingsByClass st pair.classId, s.Clears b) (h : Accounted st s) :
    Accounted st (s.purge pair) := by
  intro n t hget
  rcases h n t hget with hcleared | hcur
  · exact .inl hcleared
  · by_cases hclass : OfClass pair n
    · exact .inl (cleared_of_ofClass hsafe hall hget hclass)
    · right
      apply byNFTUID_purgeTokenPair.mpr
      refine ⟨hcur, hclass, ?_⟩
      -- a forward entry of the contract that is still there names no other NFT with a binding
      rintro ⟨uid, hof, hnamed⟩
      obtain ⟨b, hb, hvariant⟩ := hsafe.forward uid n (hs.forward uid n hnamed) hof hclass (by simp [hget])
      obtain ⟨-, -, hkeys⟩ := hs.gone b (hall b hb)
      rw [hkeys uid hvariant] at hnamed
      cases hnamed

theorem leavesUnsettled_of_sweepsOnlyCleared (h : SweepsOnlyCleared C.toExtern w.erc721) : LeavesUnsettled w := by
  have hsafe : ∀ s : Settlement C, Swept w.erc721 s → ∀ pair ∈ getTokenPairs w.erc721,
      isIBCDenom pair.classId = true → (∀ b ∈ bindingsByClass w.erc721 pair.classId, s.Clears b) →
      SweepSafe C.toExtern w.erc721 pair := by
    intro s hs pair hpair hibc hall
    exact h pair hpair hibc fun b hb => (hs.gone b (hall b hb)).1
  have hrun := settle_invariant (w := w)
    (I := fun s => Swept w.erc721 s ∧ Accounted w.erc721 s ∧ ∀ pair ∈ s.purged, ∀ n t,
      w.erc721.byNFTUID.get? n = some t → OfClass pair n → s.Cleared n)
    (fun s hs pair hpair hibc b hb => by
      obtain ⟨hswept, hacc, hpurged⟩ := hs
      refine ⟨hswept.handle b, accounted_handle hacc, fun p hp n t hget hclass => ?_⟩
      rw [purged_handle] at hp
      obtain ⟨b', hb', hn⟩ := hpurged p hp n t hget hclass
      exact ⟨b', clears_handle_of_clears hb', hn⟩)
    (fun s hs pair hpair hibc hall => by
      obtain ⟨hswept, hacc, hpurged⟩ := hs
      have hpsafe := hsafe s hswept pair hpair hibc hall
      refine ⟨hswept.purge pair, accounted_purge hswept hpsafe hall hacc, fun p hp n t hget hclass => ?_⟩
      rcases List.mem_append.mp hp with hp | hp
      · exact hpurged p hp n t hget hclass
      · rw [List.mem_singleton.mp hp] at hclass
        exact cleared_of_ofClass hpsafe hall hget hclass)
    ⟨Swept.start w, fun n t hget => .inr hget, fun p hp => by cases hp⟩
  obtain ⟨-, hacc, hpurged⟩ := hrun
  exact ⟨hpurged, fun n t hget hout => (hacc n t hget).resolve_left hout⟩

end Enough

end

section Doomed

variable {C : Chain} {s : Settlement C} {b : VoucherBinding} {pair : TokenPair}

/-- While the forward entry of the NFT is there the NFT's own entry can still be dropped; when the pair is
removed it is. -/
structure Doomed (uid n : GoString) (pair : TokenPair) (s : Settlement C) : Prop where
  pending : s.world.erc721.byNFTUID.get? n = none ∨ s.world.erc721.byTokenUID.get? uid = some n
  removed : pair ∈ s.purged → s.world.erc721.byNFTUID.get? n = none

lemma Doomed.handle {uid n : GoString} (h : Doomed uid n pair s)
    (hout : (settleVoucherBinding s.world b).2 ≠ .kept → uid ∉ variantUIDs C.toExtern b.contract b.tokenID) :
    Doomed uid n pair (s.handle b) := by
  by_cases ho : (settleVoucherBinding s.world b).2 = .kept
  · have hworld : (s.handle b).world = s.world := by
      rw [world_handle, settleVoucherBinding_of_kept ho]
    refine ⟨?_, ?_⟩
    · rw [hworld]
      exact h.pending
    · rw [hworld, purged_handle]
      exact h.removed
  · have hrev : (s.handle b).world.erc721.byNFTUID.get? n =
        if n = createNFTUID b.classID b.nftID then none else s.world.erc721.byNFTUID.get? n := by
      rw [world_handle, (settleVoucherBinding_of_cleared ho).2, byNFTUID_deleteVoucherBindingKeys,
        KVStore.get?_delete]
    have hstay : s.world.erc721.byNFTUID.get? n = none → (s.handle b).world.erc721.byNFTUID.get? n = none := by
      intro hnone
      rw [hrev, hnone]
      exact ite_self _
    refine ⟨h.pending.imp hstay fun hfwd => ?_, fun hp => ?_⟩
    · rw [world_handle, (settleVoucherBinding_of_cleared ho).2, byTokenUID_deleteVoucherBindingKeys,
        KVStore.get?_deleteAll_eq_some]
      exact ⟨hout ho, hfwd⟩
    · rw [purged_handle] at hp
      exact hstay (h.removed hp)

lemma Doomed.purge {st : Store} {uid n : GoString} {Q : TokenPair} (h : Doomed uid n pair s)
    (hs : Swept st s) (hof : OfContract pair uid) (hall : ∀ b ∈ bindingsByClass st Q.classId, s.Clears b)
    (hread : ∀ m, st.byNFTUID.get? m = some uid → OfClass Q m → readBinding (m, uid) ≠ none) :
    Doomed uid n pair (s.purge Q) := by
  have hstay : s.world.erc721.byNFTUID.get? n = none → (s.purge Q).world.erc721.byNFTUID.get? n = none := by
    intro hnone
    apply Option.eq_none_iff_forall_not_mem.mpr
    intro t ht
    rw [(byNFTUID_purgeTokenPair.mp ht).1] at hnone
    cases hnone
  have hdrop : ∀ p : TokenPair, OfContract p uid → s.world.erc721.byTokenUID.get? uid = some n →
      (s.purge p).world.erc721.byNFTUID.get? n = none := by
    intro p hp hfwd
    apply Option.eq_none_iff_forall_not_mem.mpr
    intro t ht
    exact (byNFTUID_purgeTokenPair.mp ht).2.2 ⟨uid, hp, hfwd⟩
  refine ⟨?_, fun hp => ?_⟩
  · rcases h.pending with hnone | hfwd
    · exact .inl (hstay hnone)
    · by_cases hQ : OfContract Q uid
      · exact .inl (hdrop Q hQ hfwd)
      · right
        apply byTokenUID_purgeTokenPair.mpr
        refine ⟨hfwd, hQ, fun m hclass _ hm => ?_⟩
        -- the entries of the class were readable, so they are cleared by now
        obtain ⟨b, hb⟩ := Option.ne_none_iff_exists'.mp (hread m (hs.reverse m uid hm) hclass)
        have hK : b.classID = Q.classId := by
          unfold OfClass at hclass
          rw [(readBinding_eq_some.mp hb).1] at hclass
          exact hclass
        obtain ⟨-, hgone, -⟩ := hs.gone b
          (hall b (mem_bindingsByClass.mpr ⟨⟨m, uid, hs.reverse m uid hm, hb⟩, hK⟩))
        rw [nftUID_of_readBinding hb, hm] at hgone
        cases hgone
  · rcases h.pending with hnone | hfwd
    · exact hstay hnone
    · rcases List.mem_append.mp hp with hp | hp
      · exact hstay (h.removed hp)
      · rw [List.mem_singleton.mp hp] at hof
        exact hdrop Q hof hfwd

lemma readable_of_cleared (w : World C) {n : GoString} (h : (settleIBCVoucherPairs w).Cleared n) :
    ∃ t b, w.erc721.byNFTUID.get? n = some t ∧ readBinding (n, t) = some b ∧
      (settleIBCVoucherPairs w).Clears b := by
  have hrun := settle_invariant (w := w)
    (I := fun s => ∀ b o, (b, o) ∈ s.handled → ∃ n t, w.erc721.byNFTUID.get? n = some t ∧ readBinding (n, t) = some b)
    (fun s hs pair _ _ b hb b' o hmem => by
      rw [handled_handle] at hmem
      rcases List.mem_append.mp hmem with hmem | hmem
      · exact hs b' o hmem
      · obtain ⟨rfl, -⟩ := Prod.mk.inj (List.mem_singleton.mp hmem)
        exact (mem_bindingsByClass.mp hb).1)
    (fun s hs _ _ _ _ => hs)
    (fun b o hmem => absurd hmem List.not_mem_nil)
  obtain ⟨b, ⟨o, ho, hmem⟩, rfl⟩ := h
  obtain ⟨n, t, hget, hread⟩ := hrun b o hmem
  rw [nftUID_of_readBinding hread]
  exact ⟨t, b, hget, hread, o, ho, hmem⟩

end Doomed

/-! ### Ownership under which chosen bindings are stale -/

/-- The chain with other contracts. -/
def withEvm (C : Chain) (E : EvmKeeper C.toExtern) : Chain := { C with evm := E }

/-- Whether an address is a contract when one account holds every token: every address but the account is. -/
def issues (user c : Address) : Bool := c != user || user == zeroAddress

/-- Contracts whose tokens one account holds until they are burned, and that refuse every other call. The state says
which tokens are burned. -/
def heldEvm (X : Extern) (user : Address) : EvmKeeper X where
  State := Address → Nat → Bool
  sequence := fun _ _ => .error ⟨.external [], []⟩
  hasCode := fun _ c => issues user c
  name := fun _ _ => .error ⟨.external [], []⟩
  symbol := fun _ _ => .error ⟨.external [], []⟩
  getClassEnhanceInfo := fun _ _ => .error ⟨.external [], []⟩
  getNFTEnhanceInfo := fun _ _ _ => .error ⟨.external [], []⟩
  tokenURI := fun _ _ _ => .error ⟨.external [], []⟩
  ownerOf := fun st c v => if st c v || !issues user c then .error ⟨.external [], []⟩ else .ok user
  acceptsERC721 := fun _ _ => false
  deploy := fun _ _ _ => .error ⟨.external [], []⟩
  mintEnhance := fun _ _ _ _ _ => .error ⟨.external [], []⟩
  mint := fun _ _ _ _ _ => .error ⟨.external [], []⟩
  safeTransferFrom := fun _ _ _ _ _ _ => .error ⟨.external [], []⟩
  burn := fun st _ c v => .ok fun c' v' => (c' == c && v' == v) || st c' v'
  owner_of_no_code := by
    intro st c v h
    simp [EvmCalls.owner, h, Except.toOption]
  name_of_no_code := by
    intro st c n h hname
    cases hname
  deploy_ok := by
    intro st creator args st' h
    cases h
  mintEnhance_ok := by
    intro st c dst v info st' h
    cases h
  mint_ok := by
    intro st c dst v uri st' h
    cases h
  safeTransferFrom_ok := by
    intro st caller c src dst v st' h
    cases h
  burn_ok := by
    intro st caller c v st' h
    obtain rfl := Except.ok.inj h
    refine ⟨?_, fun c' v' hne => ?_, rfl⟩
    · simp [EvmCalls.owner, Except.toOption]
    · have hother : (c' == c && v' == v) = false := by
        cases hsame : (c' == c && v' == v) with
        | false => rfl
        | true =>
          simp only [Bool.and_eq_true, beq_iff_eq] at hsame
          exact absurd (by rw [hsame.1, hsame.2]) hne
      simp only [EvmCalls.owner, hother, Bool.false_or]

lemma heldEvm_live (X : Extern) (user : Address) : (heldEvm X user).Live where
  safeTransferFrom := by
    intro st c src dst v _ haccepts
    cases haccepts
  burn := fun _ => ⟨_, rfl⟩

lemma heldEvm_hasOwners (X : Extern) {user : Address} (huser : user ≠ zeroAddress) : (heldEvm X user).HasOwners := by
  intro st c v h
  have howner : (if st c v || !issues user c then _ else Except.ok user) = .ok zeroAddress := h
  split at howner
  · cases howner
  · exact huser (Except.ok.inj howner)

/-- The account can hold a token of every contract that a binding of the store names. -/
structure CanHold (st : Store) (user : Address) : Prop where
  ne_module : user ≠ moduleAddress
  contracts : ∀ K, ∀ b ∈ bindingsByClass st K, issues user (hexToAddress b.contract) = true

/-- A user whose address no binding of the store names. -/
structure Unnamed (st : Store) (user : Address) : Prop where
  ne_zero : user ≠ zeroAddress
  ne_module : user ≠ moduleAddress
  contracts : ∀ K, ∀ b ∈ bindingsByClass st K, hexToAddress b.contract ≠ user

lemma Unnamed.canHold {st : Store} {user : Address} (h : Unnamed st user) : CanHold st user :=
  ⟨h.ne_module, fun K b hb => by simp [issues, h.contracts K b hb]⟩

/-- Such a user, and the zero address only for a store that names every address. -/
lemma exists_canHold (st : Store) :
    ∃ user, CanHold st user ∧ (user = zeroAddress → ∀ u, ¬ Unnamed st u) := by
  by_cases h : ∃ u, Unnamed st u
  · obtain ⟨u, hu⟩ := h
    exact ⟨u, hu.canHold, fun hzero => absurd hzero hu.ne_zero⟩
  · exact ⟨zeroAddress, ⟨by decide, fun _ _ _ => by simp [issues]⟩, fun _ u hu => h ⟨u, hu⟩⟩

def ledgerOf (present : GoString → GoString → Bool) : NftLedger :=
  ⟨fun _ => none, fun c n => if present c n then some ⟨⟨[], [], .absent⟩, [1]⟩ else none⟩

lemma getOwner_ledgerOf (present : GoString → GoString → Bool) (c n : GoString) :
    (ledgerOf present).getOwner c n = if present c n then [1] else [] := by
  unfold ledgerOf NftLedger.getOwner
  split_ifs with h <;> simp [h]

section Vacant

variable {C : Chain} {present : GoString → GoString → Bool} {user : Address} {b : VoucherBinding} {pair : TokenPair}

/-- The ownership under which exactly the bindings of NFTs that do not exist are stale. -/
def vacantWorld (C : Chain) (user : Address) (wasm : C.wasm.State) (st : Store)
    (present : GoString → GoString → Bool) : World (withEvm C (heldEvm C.toExtern user)) where
  erc721 := st
  cw721 := .empty
  nft := ledgerOf present
  evm := fun _ _ => false
  wasm := wasm

variable {w : World (withEvm C (heldEvm C.toExtern user))} {s : Settlement (withEvm C (heldEvm C.toExtern user))}

/-- The ledger and the tokens are as at the start. -/
structure Vacant (present : GoString → GoString → Bool) (w : World (withEvm C (heldEvm C.toExtern user))) :
    Prop where
  nft : w.nft = ledgerOf present
  evm : w.evm = fun _ _ => false

lemma settle_vacant (hw : Vacant present w) (huser : user ≠ moduleAddress)
    (hpresent : present b.classID b.nftID = false) (haddr : Addressable b)
    (hissues : issues user (hexToAddress b.contract) = true) :
    settleVoucherBinding w b = (deleteBinding w b, .staleCleared) := by
  obtain ⟨⟨v, hv⟩, hc⟩ := haddr
  have howner : (withEvm C (heldEvm C.toExtern user)).evm.ownerOf w.evm (hexToAddress b.contract) v = .ok user := by
    rw [hw.evm]
    exact if_neg (by simp [hissues])
  have hu : user = zeroAddress ∨ IsUser w user := by
    by_cases hzero : user = zeroAddress
    · exact .inl hzero
    · exact .inr ⟨hzero, huser, show issues user user = false by simp [issues, hzero]⟩
  apply settleVoucherBinding_of_stale ⟨hv, hc, howner⟩ hu
  rw [hw.nft, getOwner_ledgerOf, hpresent]
  rfl

/-- Only bindings of NFTs that do not exist are cleared, and no token moves. -/
lemma vacant_settle (hw : Vacant present w) (huser : user ≠ moduleAddress) (b : VoucherBinding) :
    Vacant present (settleVoucherBinding w b).1 ∧
      ((settleVoucherBinding w b).2 ≠ .kept → present b.classID b.nftID = false) := by
  have hheld : ∀ {v u}, Asks w b v u → u = user := by
    intro v u hask
    have howner : (if w.evm (hexToAddress b.contract) v || !issues user (hexToAddress b.contract) then _
      else Except.ok user) = .ok u := hask.owner
    split at howner
    · cases howner
    · exact (Except.ok.inj howner).symm
  have hcases := settleVoucherBinding_handles w b
  generalize settleVoucherBinding w b = r at hcases
  cases hcases with
  | kept => exact ⟨hw, fun h => absurd rfl h⟩
  | stale ask owner native =>
    refine ⟨⟨hw.nft, hw.evm⟩, fun _ => ?_⟩
    rw [hw.nft, getOwner_ledgerOf] at native
    cases hp : present b.classID b.nftID with
    | false => rfl
    | true =>
      rw [hp, if_pos rfl] at native
      cases native
  | orphan ask native burn => exact absurd (hheld ask).symm huser
  | wrapped ask owner native burn readable =>
    rw [hw.nft, ledgerOf] at native
    dsimp only at native
    split at native
    · cases native
    · cases native

lemma foldl_vacant (hw : Vacant present s.world) (bs : List VoucherBinding) (k : Nat)
    (huser : user ≠ moduleAddress) (hbs : ∀ b ∈ bs, present b.classID b.nftID = false ∧ Addressable b ∧
      issues user (hexToAddress b.contract) = true) :
    (bs.foldl settleRound (s, k)).2 = k + bs.length := by
  induction bs generalizing s k with
  | nil => rfl
  | cons b bs ih =>
    obtain ⟨hK, haddr, hissues⟩ := hbs b List.mem_cons_self
    have hstep := settle_vacant hw huser hK haddr hissues
    rw [List.foldl_cons, settleRound_eq, hstep, if_neg (by simp), ih, List.length_cons]
    · omega
    · rw [world_handle]
      exact (vacant_settle hw huser b).1
    · exact fun b' hb' => hbs b' (List.mem_cons_of_mem _ hb')

lemma mem_purged_settlePair {bs : GoString → List VoucherBinding} (hw : Vacant present s.world)
    (huser : user ≠ moduleAddress) (hibc : isIBCDenom pair.classId = true)
    (hbs : ∀ b ∈ bs pair.classId, present b.classID b.nftID = false ∧ Addressable b ∧
      issues user (hexToAddress b.contract) = true) :
    pair ∈ (settlePair bs s pair).purged := by
  have hlast : ∀ s : Settlement (withEvm C (heldEvm C.toExtern user)), pair ∈ (s.purge pair).purged := fun s =>
    List.mem_append_right _ (List.mem_singleton.mpr rfl)
  unfold settlePair
  rw [if_neg (by simp [hibc])]
  split
  · exact hlast s
  · dsimp only
    rw [foldl_vacant hw _ 0 huser hbs, if_pos (by omega)]
    exact hlast _

lemma mem_purged_vacant (wasm : C.wasm.State) {st : Store} (huser : CanHold st user) (hpair : pair ∈ getTokenPairs st)
    (hibc : isIBCDenom pair.classId = true)
    (hbs : ∀ b ∈ bindingsByClass st pair.classId, present b.classID b.nftID = false ∧ Addressable b) :
    pair ∈ (settleIBCVoucherPairs (vacantWorld C user wasm st present)).purged := by
  obtain ⟨before, after, hsplit⟩ := List.append_of_mem hpair
  have hlist : getTokenPairs (vacantWorld C user wasm st present).erc721 = before ++ pair :: after := hsplit
  unfold settleIBCVoucherPairs
  rw [hlist, List.foldl_append, List.foldl_cons]
  apply purged_foldl_settlePair
  apply mem_purged_settlePair _ huser.ne_module hibc
    (fun b hb => ⟨(hbs b hb).1, (hbs b hb).2, huser.contracts _ b hb⟩)
  apply foldl_settlePair_invariant (I := fun s => Vacant present s.world) before
  · intro s hs _ _ _ b _
    rw [world_handle]
    exact (vacant_settle hs huser.ne_module b).1
  · exact fun s hs _ _ _ _ => ⟨hs.nft, hs.evm⟩
  · exact ⟨rfl, rfl⟩

lemma vacant_run (wasm : C.wasm.State) (st : Store) (huser : user ≠ moduleAddress) :
    Vacant present (settleIBCVoucherPairs (vacantWorld C user wasm st present)).world ∧
      ∀ b, (settleIBCVoucherPairs (vacantWorld C user wasm st present)).Clears b →
        present b.classID b.nftID = false := by
  apply settle_invariant (I := fun s => Vacant present s.world ∧ ∀ b, s.Clears b → present b.classID b.nftID = false)
  · intro s hs _ _ _ b _
    obtain ⟨hw, hpresent⟩ := vacant_settle hs.1 huser b
    refine ⟨by rwa [world_handle], fun b' hb' => ?_⟩
    rcases clears_handle.mp hb' with hb' | ⟨rfl, ho⟩
    · exact hs.2 b' hb'
    · exact hpresent ho
  · exact fun s hs _ _ _ _ => ⟨⟨hs.1.nft, hs.1.evm⟩, hs.2⟩
  · refine ⟨⟨rfl, rfl⟩, ?_⟩
    rintro b ⟨o, -, hmem⟩
    exact absurd hmem List.not_mem_nil

end Vacant

section Necessary

variable {C : Chain} {user : Address} {pair : TokenPair}

def exceptClass (K : GoString) (c _ : GoString) : Bool := c ≠ K

lemma exceptClass_of_mem {st : Store} (hbs : ∀ b ∈ bindingsByClass st pair.classId, Addressable b) :
    ∀ b ∈ bindingsByClass st pair.classId,
      exceptClass pair.classId b.classID b.nftID = false ∧ Addressable b := by
  intro b hb
  refine ⟨?_, hbs b hb⟩
  rw [exceptClass, (mem_bindingsByClass.mp hb).2]
  simp

/-- Unreadable entries of a class are lost with its pair. -/
lemma readable_of_leavesUnsettled (wasm : C.wasm.State) {st : Store} (huser : CanHold st user)
    (hpair : pair ∈ getTokenPairs st)
    (hibc : isIBCDenom pair.classId = true) (hbs : ∀ b ∈ bindingsByClass st pair.classId, Addressable b)
    (h : LeavesUnsettled (vacantWorld C user wasm st (exceptClass pair.classId))) {n t : GoString}
    (hget : st.byNFTUID.get? n = some t) (hclass : OfClass pair n) : readBinding (n, t) ≠ none := by
  have hcleared := h.purged pair (mem_purged_vacant wasm huser hpair hibc (exceptClass_of_mem hbs)) n t hget hclass
  obtain ⟨t', b, hget', hread, -⟩ := readable_of_cleared _ hcleared
  have hsame : st.byNFTUID.get? n = some t' := hget'
  rw [hget, Option.some.injEq] at hsame
  rw [hsame, hread]
  simp

lemma forward_of_leavesUnsettled (wasm : C.wasm.State) {st : Store} (huser : CanHold st user)
    (hpair : pair ∈ getTokenPairs st)
    (hibc : isIBCDenom pair.classId = true) (hbs : ∀ b ∈ bindingsByClass st pair.classId, Addressable b)
    (hall : ∀ K, LeavesUnsettled (vacantWorld C user wasm st (exceptClass K))) {uid n : GoString}
    (hfwd : st.byTokenUID.get? uid = some n) (hof : OfContract pair uid) (hclass : ¬ OfClass pair n)
    (hbound : st.byNFTUID.get? n ≠ none) :
    ∃ b ∈ bindingsByClass st pair.classId, uid ∈ variantUIDs C.toExtern b.contract b.tokenID := by
  by_contra hnone
  push Not at hnone
  obtain ⟨t, ht⟩ := Option.ne_none_iff_exists'.mp hbound
  have hclassOf : ∀ {b : VoucherBinding}, exceptClass pair.classId b.classID b.nftID = false →
      b.classID = pair.classId := by
    intro b hb
    simpa [exceptClass] using hb
  have hrun := settle_invariant (w := vacantWorld C user wasm st (exceptClass pair.classId))
    (I := fun s => Swept st s ∧ Vacant (exceptClass pair.classId) s.world ∧ Doomed uid n pair s)
    (fun s hs Q _ _ b hb => by
      obtain ⟨hvacant, hpresent⟩ := vacant_settle hs.2.1 huser.ne_module b
      refine ⟨hs.1.handle b, by rwa [world_handle], hs.2.2.handle fun ho => ?_⟩
      exact hnone b (mem_bindingsByClass.mpr ⟨(mem_bindingsByClass.mp hb).1, hclassOf (hpresent ho)⟩))
    (fun s hs Q hQ hQibc hcl => by
      refine ⟨hs.1.purge Q, ⟨hs.2.1.nft, hs.2.1.evm⟩, hs.2.2.purge hs.1 hof hcl fun m hm hmclass => ?_⟩
      exact readable_of_leavesUnsettled wasm huser hQ hQibc (fun b hb => (hs.1.gone b (hcl b hb)).1) (hall Q.classId)
        hm hmclass)
    ⟨Swept.start (vacantWorld C user wasm st (exceptClass pair.classId)), ⟨rfl, rfl⟩, .inr hfwd,
      fun hp => absurd hp List.not_mem_nil⟩
  have hgone := hrun.2.2.removed (mem_purged_vacant wasm huser hpair hibc (exceptClass_of_mem hbs))
  have hout : ¬ (settleIBCVoucherPairs (vacantWorld C user wasm st (exceptClass pair.classId))).Cleared n := by
    intro hcleared
    obtain ⟨t', b, -, hread, hb⟩ := readable_of_cleared _ hcleared
    apply hclass
    unfold OfClass
    rw [(readBinding_eq_some.mp hread).1]
    exact hclassOf ((vacant_run wasm st huser.ne_module).2 b hb)
  have hkept := (hall pair.classId).present n t ht hout
  rw [hgone] at hkept
  cases hkept

end Necessary

/-- A settlement leaves every entry that it did not settle, whatever the contracts answer and whoever owns the
NFTs, exactly for the stores whose removable voucher pairs are safe to remove. -/
theorem settlement_leavesUnsettled_iff (C : Chain) (wasm : C.wasm.State) (st : Store) :
    (∀ (E : EvmKeeper C.toExtern) (w : World (withEvm C E)), w.erc721 = st → LeavesUnsettled w) ↔
      SweepsOnlyCleared C.toExtern st := by
  constructor
  · intro h pair hpair hibc hbs
    obtain ⟨user, huser, -⟩ := exists_canHold st
    have hall : ∀ K, LeavesUnsettled (vacantWorld C user wasm st (exceptClass K)) := fun K => h _ _ rfl
    refine ⟨fun n t hget hclass => ?_, fun uid n hfwd hof hclass hbound => ?_⟩
    · exact readable_of_leavesUnsettled wasm huser hpair hibc hbs (hall pair.classId) hget hclass
    · exact forward_of_leavesUnsettled wasm huser hpair hibc hbs hall hfwd hof hclass hbound
  · rintro h E w rfl
    exact leavesUnsettled_of_sweepsOnlyCleared h

def voucherClass : GoString := str "ibc/AB"

/-- A voucher pair with one wrapped NFT and one reverse entry whose value cannot be read. -/
def unreadableWorld : World Sample.chain where
  erc721 :=
    { Store.empty with
      tokenPair := KVStore.empty.set (TokenPair.getID Sample.X ⟨Sample.contract, voucherClass⟩)
        ⟨Sample.contract, voucherClass⟩
      byTokenUID := KVStore.empty.set (createTokenUID Sample.contract (str "5")) (str "cat,ibc/AB")
      byNFTUID := (KVStore.empty.set (str "cat,ibc/AB") (createTokenUID Sample.contract (str "5"))).set
        (str "dog,ibc/AB") (str "broken") }
  cw721 := .empty
  nft := ((NftLedger.empty.putClass voucherClass ⟨[], [], [], [], [], .value DenomMetadata.zero⟩).put
    voucherClass (str "cat") (some ⟨⟨[], [], .value ⟨[], []⟩⟩, accModuleAddress⟩))
  evm := Sample.evmWith [(5, evmAddress Sample.alice)]
  wasm := .empty

/-- The run settles the first entry, removes the pair, and the second entry is gone with it. -/
theorem settlement_drops_unreadable :
    unreadableWorld.erc721.byNFTUID.get? (str "dog,ibc/AB") = some (str "broken") ∧
    (settleIBCVoucherPairs unreadableWorld).handled =
      [(⟨voucherClass, str "cat", str "5", Sample.contract⟩, .settled)] ∧
    (settleIBCVoucherPairs unreadableWorld).purged = [⟨Sample.contract, voucherClass⟩] ∧
    (settleIBCVoucherPairs unreadableWorld).world.erc721.byNFTUID.get? (str "dog,ibc/AB") = none := by
  refine ⟨by decide +kernel, by decide +kernel, by decide +kernel, by decide +kernel⟩

end Uptick.Erc721
