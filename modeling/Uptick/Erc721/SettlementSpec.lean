import Uptick.Erc721.ConvertSpec
import Uptick.Erc721.Index
import Uptick.Erc721.Settlement

/-!
# What settling a binding and removing a pair do

A binding is kept, and then nothing at all changes, or it is cleared in one of three ways. Removing a pair
drops the reverse entries of its class and those that forward entries of its contract name.
-/

namespace Uptick.Erc721

open Text Evm Outcome Collection

variable {C : Chain} {w : World C} {b : VoucherBinding} {v : Nat} {u : Address}

lemma decodeAcc_bytes (X : Extern) (a : Address) : X.decodeAcc (X.accString a.bytes) = .ok a.bytes := by
  have hlen := a.length_bytes
  apply X.decodeAcc_accString
  · intro hnil
    rw [hnil] at hlen
    cases hlen
  · omega

/-- The binding can be read as a token of a contract, and the contract answers who owns it. -/
structure Asks (w : World C) (b : VoucherBinding) (v : Nat) (u : Address) : Prop where
  token : parseEVMTokenID b.tokenID = .ok v
  contract : isHexAddress b.contract = true
  owner : C.evm.ownerOf w.evm (hexToAddress b.contract) v = .ok u

/-- An account without code, neither the zero address nor the module account. -/
structure IsUser (w : World C) (u : Address) : Prop where
  ne_zero : u ≠ zeroAddress
  ne_module : u ≠ moduleAddress
  no_code : C.evm.hasCode w.evm u = false

lemma settleVoucherBinding_of_asks (h : Asks w b v u) :
    settleVoucherBinding w b = settleOwned w b (hexToAddress b.contract) v u := by
  unfold settleVoucherBinding
  rw [h.token]
  dsimp only
  rw [if_neg (by simp [h.contract]), h.owner]

lemma settleVoucherBinding_of_stale (h : Asks w b v u) (hu : u = zeroAddress ∨ IsUser w u)
    (hnone : w.nft.getOwner b.classID b.nftID = []) :
    settleVoucherBinding w b = (deleteBinding w b, .staleCleared) := by
  have hzero : moduleAddress ≠ zeroAddress := by decide
  rw [settleVoucherBinding_of_asks h]
  unfold settleOwned
  rcases hu with rfl | hu
  · simp [hnone]
  · simp [hnone, hu.ne_zero, hu.ne_module, hu.no_code]

lemma settleVoucherBinding_of_orphan (h : Asks w b v moduleAddress)
    (hnone : w.nft.getOwner b.classID b.nftID = []) {evm : C.evm.State}
    (hburn : C.evm.burn w.evm moduleAddress (hexToAddress b.contract) v = .ok evm) :
    settleVoucherBinding w b = (deleteBinding { w with evm := evm } b, .settled) := by
  have hzero : moduleAddress ≠ zeroAddress := by decide
  rw [settleVoucherBinding_of_asks h]
  unfold settleOwned
  simp only [hnone, hzero, ne_eq, not_false_eq_true, and_self, not_true_eq_false, and_false, false_and, if_false,
    if_true]
  rw [settleOrphan, hburn]
  rfl

lemma settleVoucherBinding_of_wrapped (h : Asks w b v u) (hu : IsUser w u) {token : NFT}
    (hheld : w.nft.held b.classID b.nftID = some ⟨token, accModuleAddress⟩) {evm : C.evm.State}
    (hburn : C.evm.burn w.evm u (hexToAddress b.contract) v = .ok evm) {denom : Denom}
    (hdenom : getDenomInfo w.nft b.classID = .ok denom) :
    settleVoucherBinding w b = (deleteBinding { w with
      evm := evm, nft := w.nft.put b.classID b.nftID (some ⟨token, u.bytes⟩) } b, .settled) := by
  have hmodule : accModuleAddress ≠ [] := by decide
  have howner := NftLedger.getOwner_of_held hheld
  obtain ⟨info, hinfo, -⟩ := @exists_getNFT C.toExtern _ _ _ _ hheld
  have hmove := (@transferNFT_shown_eq_ok C.toExtern C.nk _ _ _ _ (C.accString accModuleAddress)
    (C.accString u.bytes) _ hinfo).mpr ⟨_, _, token, denom, decodeAcc_module _, decodeAcc_bytes _ u, hheld, hdenom, rfl⟩
  rw [settleVoucherBinding_of_asks h]
  unfold settleOwned
  simp only [howner, hu.ne_zero, hu.ne_module, hu.no_code, hmodule, ne_eq, not_false_eq_true, and_self, and_false,
    Bool.false_eq_true, if_false, if_true]
  rw [settleWrapped, hburn, ok_bind, hinfo, ok_bind, hmove]
  rfl

/-- The ways a binding is handled. -/
inductive Handles (w : World C) (b : VoucherBinding) : World C × SettleOutcome → Prop
  | kept : Handles w b (w, .kept)
  | stale {v : Nat} {u : Address} (ask : Asks w b v u) (owner : u = zeroAddress ∨ IsUser w u)
      (native : w.nft.getOwner b.classID b.nftID = []) : Handles w b (deleteBinding w b, .staleCleared)
  | orphan {v : Nat} {evm : C.evm.State} (ask : Asks w b v moduleAddress)
      (native : w.nft.getOwner b.classID b.nftID = [])
      (burn : C.evm.burn w.evm moduleAddress (hexToAddress b.contract) v = .ok evm) :
      Handles w b (deleteBinding { w with evm := evm } b, .settled)
  | wrapped {v : Nat} {u : Address} {token : NFT} {evm : C.evm.State} {denom : Denom} (ask : Asks w b v u)
      (owner : IsUser w u)
      (native : w.nft.held b.classID b.nftID = some ⟨token, accModuleAddress⟩)
      (burn : C.evm.burn w.evm u (hexToAddress b.contract) v = .ok evm)
      (readable : getDenomInfo w.nft b.classID = .ok denom) :
      Handles w b (deleteBinding { w with
        evm := evm, nft := w.nft.put b.classID b.nftID (some ⟨token, u.bytes⟩) } b, .settled)

lemma handles_settleWrapped (h : Asks w b v u) (hu : IsUser w u) :
    Handles w b (settleWrapped w b (hexToAddress b.contract) v u) := by
  unfold settleWrapped
  cases hrun : (do
    let evm ← C.evm.burn w.evm u (hexToAddress b.contract) v
    let nft ← Collection.getNFT C.toExtern w.nft b.classID b.nftID
    let ledger ← Collection.transferNFT C.toExtern C.nk w.nft ⟨b.nftID, b.classID,
      ⟨nft.name, nft.uri, nft.uriHash, nft.data⟩, C.accString accModuleAddress, C.accString u.bytes⟩
    .ok (deleteBinding { w with evm := evm, nft := ledger } b)) with
  | error e => exact .kept
  | ok w' =>
    obtain ⟨evm, hburn, hrun⟩ := bind_eq_ok.mp hrun
    obtain ⟨info, hinfo, hrun⟩ := bind_eq_ok.mp hrun
    obtain ⟨ledger, hledger, hrun⟩ := bind_eq_ok.mp hrun
    obtain ⟨src, dst, token, denom, hsrc, hdst, hheld, hdenom, rfl⟩ := (transferNFT_shown_eq_ok hinfo).mp hledger
    have hmod : src = accModuleAddress := by
      rw [decodeAcc_module] at hsrc
      exact (Except.ok.inj hsrc).symm
    subst hmod
    have hbytes : dst = u.bytes := by
      rw [decodeAcc_bytes] at hdst
      exact (Except.ok.inj hdst).symm
    subst hbytes
    obtain rfl := Except.ok.inj hrun
    exact .wrapped h hu hheld hburn hdenom

/-- A binding is handled in one of the four ways. -/
theorem settleVoucherBinding_handles (w : World C) (b : VoucherBinding) :
    Handles w b (settleVoucherBinding w b) := by
  unfold settleVoucherBinding
  cases htoken : parseEVMTokenID b.tokenID with
  | error e => exact .kept
  | ok v =>
    dsimp only
    split
    · exact .kept
    next hcontract =>
    cases howner : C.evm.ownerOf w.evm (hexToAddress b.contract) v with
    | error e => exact .kept
    | ok u =>
      have hask : Asks w b v u := ⟨htoken, by simpa using hcontract, howner⟩
      dsimp only
      unfold settleOwned
      dsimp only
      split_ifs with hcode hwrap horphan hstale
      · exact .kept
      all_goals
        have hnocode : (¬ u = zeroAddress ∧ ¬ (u ≠ zeroAddress ∧ u = moduleAddress)) →
            C.evm.hasCode w.evm u = false := fun huser => by
          cases hc : C.evm.hasCode w.evm u with
          | false => rfl
          | true => exact absurd ⟨huser, hc⟩ hcode
      · obtain ⟨⟨hzero, hmod⟩, -⟩ := hwrap
        have huser : IsUser w u := ⟨hzero, fun h => hmod ⟨hzero, h⟩, hnocode ⟨hzero, hmod⟩⟩
        exact handles_settleWrapped hask huser
      · obtain ⟨⟨-, rfl⟩, hnone⟩ := horphan
        unfold settleOrphan
        cases hburn : C.evm.burn w.evm moduleAddress (hexToAddress b.contract) v with
        | error e => exact .kept
        | ok evm => exact .orphan hask hnone hburn
      · obtain ⟨hnone, huser⟩ := hstale
        refine .stale hask ?_ hnone
        rcases huser with ⟨hzero, hmod⟩ | hzero
        · exact .inr ⟨hzero, fun h => hmod ⟨hzero, h⟩, hnocode ⟨hzero, hmod⟩⟩
        · exact .inl hzero
      · exact .kept

lemma settleVoucherBinding_of_kept (h : (settleVoucherBinding w b).2 = .kept) :
    settleVoucherBinding w b = (w, .kept) := by
  have hcases := settleVoucherBinding_handles w b
  generalize settleVoucherBinding w b = r at hcases h
  cases hcases with
  | kept => rfl
  | stale => cases h
  | orphan => cases h
  | wrapped => cases h

lemma settleVoucherBinding_of_cleared (h : (settleVoucherBinding w b).2 ≠ .kept) :
    (∃ v u, Asks w b v u) ∧ (settleVoucherBinding w b).1.erc721 =
      deleteVoucherBindingKeys C.toExtern w.erc721 b.contract b.tokenID b.classID b.nftID := by
  have hcases := settleVoucherBinding_handles w b
  generalize settleVoucherBinding w b = r at hcases h
  cases hcases with
  | kept => exact absurd rfl h
  | stale ask => exact ⟨⟨_, _, ask⟩, rfl⟩
  | orphan ask => exact ⟨⟨_, _, ask⟩, rfl⟩
  | wrapped ask => exact ⟨⟨_, _, ask⟩, rfl⟩

section Purge

variable {X : Extern} {st : Store} {pair : TokenPair}

/-- The scan of forward entries drops them with the reverse entries of the NFTs that they name. -/
lemma get?_foldl_deleteScannedTokenUID (uids : List GoString) (st : Store) :
    (uids.foldl deleteScannedTokenUID st).byTokenUID = st.byTokenUID.deleteAll uids ∧
      ∀ n, (uids.foldl deleteScannedTokenUID st).byNFTUID.get? n =
        if ∃ uid ∈ uids, st.byTokenUID.get? uid = some n then none else st.byNFTUID.get? n := by
  induction uids generalizing st with
  | nil => exact ⟨rfl, fun n => by simp⟩
  | cons uid uids ih =>
    have hfwd : (deleteScannedTokenUID st uid).byTokenUID = st.byTokenUID.delete uid := by
      unfold deleteScannedTokenUID
      dsimp only
      split <;> rfl
    have hrev : ∀ n, (deleteScannedTokenUID st uid).byNFTUID.get? n =
        if st.byTokenUID.get? uid = some n then none else st.byNFTUID.get? n := by
      intro n
      unfold deleteScannedTokenUID getNFTUIDPairByTokenUID deleteNFTUIDPairByTokenUID deleteNFTUIDPairByNFTUID
      cases hget : st.byTokenUID.get? uid with
      | none => simp [KVStore.get_eq_nil hget]
      | some m =>
        rw [KVStore.get_of_get? hget]
        by_cases hm : m = []
        · subst hm
          simp only [ne_eq, not_true_eq_false, if_false, Option.some.injEq]
          split_ifs with hn
          · rw [← hn, KVStore.get?_nil]
          · rfl
        · simp only [ne_eq, hm, not_false_eq_true, if_true, KVStore.get?_delete, Option.some.injEq, eq_comm]
    obtain ⟨ihf, ihr⟩ := ih (deleteScannedTokenUID st uid)
    rw [List.foldl_cons]
    refine ⟨by rw [ihf, hfwd]; rfl, fun n => ?_⟩
    rw [ihr, hfwd, hrev]
    -- a later key still has its value: only the key itself was deleted
    by_cases h₁ : st.byTokenUID.get? uid = some n
    · simp [h₁]
    · have hsame : (∃ x ∈ uids, (st.byTokenUID.delete uid).get? x = some n) ↔
          ∃ x ∈ uids, st.byTokenUID.get? x = some n := by
        refine exists_congr fun x => and_congr_right fun _ => ?_
        rw [KVStore.get?_delete]
        split_ifs with hx
        · rw [hx]
          simp [h₁]
        · rfl
      simp only [hsame, h₁, if_false, List.mem_cons, exists_eq_or_imp, false_or]

/-- The scan of reverse entries drops them with the forward entries under the tokens that they name. -/
lemma get?_foldl_deleteScannedNFTUID (ns : List GoString) (st : Store) :
    (ns.foldl deleteScannedNFTUID st).byNFTUID = st.byNFTUID.deleteAll ns ∧
      ∀ uid, (ns.foldl deleteScannedNFTUID st).byTokenUID.get? uid =
        if ∃ n ∈ ns, st.byNFTUID.get? n = some uid then none else st.byTokenUID.get? uid := by
  -- the same argument with the two directions exchanged
  have hflip := get?_foldl_deleteScannedTokenUID ns
    { st with byTokenUID := st.byNFTUID, byNFTUID := st.byTokenUID }
  have hswap : ∀ (l : List GoString) (s : Store),
      let s' := l.foldl deleteScannedTokenUID { s with byTokenUID := s.byNFTUID, byNFTUID := s.byTokenUID }
      let s'' := l.foldl deleteScannedNFTUID s
      s''.byNFTUID = s'.byTokenUID ∧ s''.byTokenUID = s'.byNFTUID := by
    intro l
    induction l with
    | nil => exact fun s => ⟨rfl, rfl⟩
    | cons x l ih =>
      intro s
      have hstep : deleteScannedTokenUID { s with byTokenUID := s.byNFTUID, byNFTUID := s.byTokenUID } x =
          { deleteScannedNFTUID s x with
            byTokenUID := (deleteScannedNFTUID s x).byNFTUID
            byNFTUID := (deleteScannedNFTUID s x).byTokenUID } := by
        unfold deleteScannedTokenUID deleteScannedNFTUID
        dsimp only [getNFTUIDPairByTokenUID, getTokenUIDPairByNFTUID]
        split <;> rfl
      dsimp only at ih ⊢
      rw [List.foldl_cons, List.foldl_cons, hstep]
      exact ih _
  obtain ⟨hrev, hfwd⟩ := hswap ns st
  exact ⟨hrev.trans hflip.1, fun uid => by rw [hfwd]; exact hflip.2 uid⟩

def OfContract (pair : TokenPair) (uid : GoString) : Prop :=
  equalFold (getNFTFromUID uid).2 pair.erc721Address = true

def OfClass (pair : TokenPair) (n : GoString) : Prop := (getNFTFromUID n).2 = pair.classId

/-- A forward entry of the contract names the NFT. -/
def NamedByContract (st : Store) (pair : TokenPair) (n : GoString) : Prop :=
  ∃ uid, OfContract pair uid ∧ st.byTokenUID.get? uid = some n

def scannedTokenUIDs (st : Store) (pair : TokenPair) : List GoString :=
  st.byTokenUID.keys.filter fun uid => equalFold (getNFTFromUID uid).2 pair.erc721Address

lemma exists_scanned_iff {n : GoString} :
    (∃ uid ∈ scannedTokenUIDs st pair, st.byTokenUID.get? uid = some n) ↔ NamedByContract st pair n := by
  unfold scannedTokenUIDs
  constructor
  · rintro ⟨uid, huid, hget⟩
    exact ⟨uid, (List.mem_filter.mp huid).2, hget⟩
  · rintro ⟨uid, hof, hget⟩
    exact ⟨uid, List.mem_filter.mpr ⟨KVStore.mem_keys.mpr ⟨n, hget⟩, hof⟩, hget⟩

lemma byNFTUID_scanned {n t : GoString} :
    ((scannedTokenUIDs st pair).foldl deleteScannedTokenUID st).byNFTUID.get? n = some t ↔
      st.byNFTUID.get? n = some t ∧ ¬ NamedByContract st pair n := by
  rw [(get?_foldl_deleteScannedTokenUID _ st).2 n]
  split_ifs with h
  · simp [exists_scanned_iff.mp h]
  · have hnamed : ¬ NamedByContract st pair n := fun hN => h (exists_scanned_iff.mpr hN)
    simp [hnamed]

theorem byNFTUID_purgeTokenPair {n t : GoString} : (purgeTokenPair X st pair).byNFTUID.get? n = some t ↔
    st.byNFTUID.get? n = some t ∧ ¬ OfClass pair n ∧ ¬ NamedByContract st pair n := by
  have hpurge : (purgeTokenPair X st pair).byNFTUID =
      ((((scannedTokenUIDs st pair).foldl deleteScannedTokenUID st).byNFTUID.keys.filter fun n =>
        (getNFTFromUID n).2 == pair.classId).foldl deleteScannedNFTUID
          ((scannedTokenUIDs st pair).foldl deleteScannedTokenUID st)).byNFTUID := rfl
  rw [hpurge, (get?_foldl_deleteScannedNFTUID _ _).1, KVStore.get?_deleteAll_eq_some, byNFTUID_scanned]
  constructor
  · rintro ⟨hout, hget, hnamed⟩
    refine ⟨hget, fun hclass => hout (List.mem_filter.mpr ⟨?_, beq_iff_eq.mpr hclass⟩), hnamed⟩
    exact KVStore.mem_keys.mpr ⟨t, byNFTUID_scanned.mpr ⟨hget, hnamed⟩⟩
  · rintro ⟨hget, hclass, hnamed⟩
    exact ⟨fun hmem => hclass (beq_iff_eq.mp (List.mem_filter.mp hmem).2), hget, hnamed⟩

theorem byTokenUID_purgeTokenPair {uid n : GoString} :
    (purgeTokenPair X st pair).byTokenUID.get? uid = some n ↔ st.byTokenUID.get? uid = some n ∧
      ¬ OfContract pair uid ∧
      ∀ m, OfClass pair m → ¬ NamedByContract st pair m → st.byNFTUID.get? m ≠ some uid := by
  have hpurge : (purgeTokenPair X st pair).byTokenUID =
      ((((scannedTokenUIDs st pair).foldl deleteScannedTokenUID st).byNFTUID.keys.filter fun n =>
        (getNFTFromUID n).2 == pair.classId).foldl deleteScannedNFTUID
          ((scannedTokenUIDs st pair).foldl deleteScannedTokenUID st)).byTokenUID := rfl
  have hvalue : (∃ m ∈ ((scannedTokenUIDs st pair).foldl deleteScannedTokenUID st).byNFTUID.keys.filter fun n =>
        (getNFTFromUID n).2 == pair.classId,
      ((scannedTokenUIDs st pair).foldl deleteScannedTokenUID st).byNFTUID.get? m = some uid) ↔
      ∃ m, OfClass pair m ∧ ¬ NamedByContract st pair m ∧ st.byNFTUID.get? m = some uid := by
    simp only [byNFTUID_scanned, List.mem_filter, KVStore.mem_keys]
    constructor
    · rintro ⟨m, ⟨-, hclass⟩, hget, hnamed⟩
      exact ⟨m, beq_iff_eq.mp hclass, hnamed, hget⟩
    · rintro ⟨m, hclass, hnamed, hget⟩
      exact ⟨m, ⟨⟨uid, hget, hnamed⟩, beq_iff_eq.mpr hclass⟩, hget, hnamed⟩
  have hscan : ((scannedTokenUIDs st pair).foldl deleteScannedTokenUID st).byTokenUID.get? uid = some n ↔
      st.byTokenUID.get? uid = some n ∧ ¬ OfContract pair uid := by
    rw [(get?_foldl_deleteScannedTokenUID _ st).1, KVStore.get?_deleteAll_eq_some]
    constructor
    · rintro ⟨hout, hget⟩
      refine ⟨hget, fun hof => hout (List.mem_filter.mpr ⟨KVStore.mem_keys.mpr ⟨n, hget⟩, hof⟩)⟩
    · rintro ⟨hget, hof⟩
      exact ⟨fun hmem => hof (List.mem_filter.mp hmem).2, hget⟩
  rw [hpurge, (get?_foldl_deleteScannedNFTUID _ _).2 uid]
  split_ifs with h
  · obtain ⟨m, hclass, hnamed, hget⟩ := hvalue.mp h
    simp only [false_iff]
    rintro ⟨-, -, hall⟩
    exact hall m hclass hnamed hget
  · rw [hscan]
    refine and_congr_right fun _ => (and_iff_left ?_).symm
    intro m hclass hnamed hget
    exact h (hvalue.mpr ⟨m, hclass, hnamed, hget⟩)

end Purge

end Uptick.Erc721
