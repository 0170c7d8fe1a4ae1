import Mathlib.Data.List.Sort
import Uptick.Erc721.Types
import Uptick.Lib.KVStore

/-!
# Genesis of the conversion modules

The export and the validation of the per-token state, which x/erc721 and x/cw721 repeat almost word for
word: the pair index in both directions and the receivers of IBC refunds. A registered pair is given by
its contract and its class. What the modules do differently is a parameter.
-/

namespace Uptick.Genesis

open Text Outcome Erc721

structure NFTUIDPair where
  tokenUid : GoString
  nftUid : GoString
  deriving DecidableEq, Repr

structure RefundReceiver where
  contractAddress : GoString
  tokenId : GoString
  receiver : GoString
  deriving DecidableEq, Repr

inductive GenesisExportIssueKind
  | uidIndexBackward | uidIndexForward | refundKeyOrphan | uidIndexUnregisteredPair
  deriving DecidableEq, Repr

def GenesisExportIssueKind.text : GenesisExportIssueKind → GoString
  | .uidIndexBackward => str "nft_uid_index_reverse_without_forward"
  | .uidIndexForward => str "nft_uid_index_forward_without_reverse"
  | .refundKeyOrphan => str "refund_key_orphaned"
  | .uidIndexUnregisteredPair => str "nft_uid_index_unregistered_pair"

/-- The record that cannot be exported, by its store key; the key of a refund record is stored quoted. -/
structure GenesisExportIssue where
  kind : GenesisExportIssueKind
  key : Arg
  detail : String × List Arg
  deriving DecidableEq, Repr

/-- The contract of the token and the class of the NFT are those of one registered pair. -/
def uidBelongsToRegisteredPair (registered : List (GoString × GoString)) (tokenUID nftUID : GoString) : Bool :=
  let contract := (getNFTFromUID tokenUID).2
  let classID := (getNFTFromUID nftUID).2
  contract ≠ [] && classID ≠ [] && registered.any fun tp => equalFold tp.1 contract && tp.2 == classID

/-- What the loop over the reverse entries carries; `forward` holds the entries without a partner yet. -/
structure UIDExport where
  forward : KVStore GoString
  pairs : List NFTUIDPair
  issues : List GenesisExportIssue

def backwardIssue (e : GoString × GoString) (partner : GoString) : GenesisExportIssue :=
  ⟨.uidIndexBackward, .s e.1, "reverse entry points at token UID %q whose forward entry is %q",
    [.q e.2, .q partner]⟩

def unregisteredIssue (e : GoString × GoString) : GenesisExportIssue :=
  ⟨.uidIndexUnregisteredPair, .s e.2, "binding (%q -> %q) does not belong to any registered token pair",
    [.q e.2, .q e.1]⟩

def exportReverseEntry (registered : List (GoString × GoString)) (s : UIDExport) (e : GoString × GoString) :
    UIDExport :=
  if s.forward.get? e.2 ≠ some e.1 then
    { s with issues := s.issues ++ [backwardIssue e (s.forward.get e.2)] }
  else if uidBelongsToRegisteredPair registered e.2 e.1 = false then
    { s with forward := s.forward.delete e.2, issues := s.issues ++ [unregisteredIssue e] }
  else { s with forward := s.forward.delete e.2, pairs := s.pairs ++ [⟨e.2, e.1⟩] }

def forwardIssue (e : GoString × GoString) : GenesisExportIssue :=
  ⟨.uidIndexForward, .s e.1, "forward entry points at nft UID %q which has no reverse entry", [.q e.2]⟩

/-- The key of an issue about the index, where it is not quoted. -/
def GenesisExportIssue.uid (i : GenesisExportIssue) : GoString :=
  match i.key with
  | .s uid => uid
  | _ => []

/-- By key, then by kind. -/
def issueLE (a b : GenesisExportIssue) : Prop := a.uid < b.uid ∨ a.uid = b.uid ∧ a.kind.text ≤ b.kind.text

instance : DecidableRel issueLE := fun _ _ => inferInstanceAs (Decidable (_ ∨ _))

def exportNFTUIDPairsWithReport (forward reverse : KVStore GoString) (registered : List (GoString × GoString)) :
    List NFTUIDPair × List GenesisExportIssue :=
  let s := reverse.entries.foldl (exportReverseEntry registered) ⟨forward, [], []⟩
  (s.pairs, (s.issues ++ s.forward.entries.map forwardIssue).insertionSort issueLE)

/-- `err.Error()`: the outermost message first, the registered error last. -/
def errorText (err : Error) : String × List Arg :=
  err.wraps.foldl (fun text w => (w.1 ++ ": " ++ text.1, w.2 ++ text.2)) ("%s", [.e err.root])

def exportRefundEntry (split : GoString → Except Error (GoString × GoString))
    (s : List RefundReceiver × List GenesisExportIssue) (e : GoString × GoString) :
    List RefundReceiver × List GenesisExportIssue :=
  match split e.1 with
  | .ok (contract, tokenID) => (s.1 ++ [⟨contract, tokenID, e.2⟩], s.2)
  | .error err => (s.1, s.2 ++ [⟨.refundKeyOrphan, .q e.1, errorText err⟩])

def exportRefundReceiversWithReport (split : GoString → Except Error (GoString × GoString))
    (refunds : KVStore GoString) : List RefundReceiver × List GenesisExportIssue :=
  refunds.entries.foldl (exportRefundEntry split) ([], [])

/-- One binding; the state holds the token UIDs and the NFT UIDs seen so far. -/
def validateUIDPair (root : RootError) (registered : List (GoString × GoString))
    (seen : List GoString × List GoString) (pair : NFTUIDPair) :
    Except Error (List GoString × List GoString) := do
  require (pair.tokenUid ≠ [] ∧ pair.nftUid ≠ [])
    (wrapf root "empty NFT UID pair entry (token %q, nft %q)" [.q pair.tokenUid, .q pair.nftUid])
  require (pair.tokenUid ∉ seen.1)
    (wrapf root "duplicate token UID %q in genesis NFT UID pairs" [.q pair.tokenUid])
  require (pair.nftUid ∉ seen.2)
    (wrapf root "duplicate NFT UID %q in genesis NFT UID pairs" [.q pair.nftUid])
  require (uidBelongsToRegisteredPair registered pair.tokenUid pair.nftUid = true)
    (wrapf root ("NFT UID pair (token %q, nft %q) does not belong to any registered token pair " ++
      "(a genesis export drops such records and lists them in <home>/export-issues.json; " ++
      "check that file on the node that produced this genesis)") [.q pair.tokenUid, .q pair.nftUid])
  .ok (pair.tokenUid :: seen.1, pair.nftUid :: seen.2)

/-- What the two modules write differently about a refund receiver. -/
structure RefundRules where
  root : RootError
  incomplete : String
  unregistered : String
  dedupe : GoString → GoString → GoString

/-- One refund receiver; the state holds the keys seen so far. -/
def validateRefund (rules : RefundRules) (registered : List (GoString × GoString)) (seen : List GoString)
    (r : RefundReceiver) : Except Error (List GoString) := do
  require (r.contractAddress ≠ [] ∧ r.tokenId ≠ [] ∧ r.receiver ≠ [])
    (wrapf rules.root rules.incomplete [.q r.contractAddress, .q r.tokenId, .q r.receiver])
  require (toLower r.contractAddress ∈ registered.map fun tp => toLower tp.1)
    (wrapf rules.root rules.unregistered [.q r.contractAddress])
  let dedupe := rules.dedupe (toLower r.contractAddress) r.tokenId
  require (dedupe ∉ seen) (wrapf rules.root "duplicate refund receiver for contract %q token %q"
    [.q r.contractAddress, .q r.tokenId])
  .ok (dedupe :: seen)

def validateGenesisPairs (rules : RefundRules) (pairs : List NFTUIDPair) (receivers : List RefundReceiver)
    (registered : List (GoString × GoString)) : Except Error Unit := do
  let _ ← forEach (validateUIDPair rules.root registered) ([], []) pairs
  let _ ← forEach (validateRefund rules registered) [] receivers
  pure ()

/-! ### What is exported -/

section Export

variable {registered : List (GoString × GoString)} {s : UIDExport} {e : GoString × GoString}

/-- A reverse entry whose token names it back. -/
def Paired (forward : KVStore GoString) (e : GoString × GoString) : Prop := forward.get? e.2 = some e.1

instance (forward : KVStore GoString) (e : GoString × GoString) : Decidable (Paired forward e) :=
  inferInstanceAs (Decidable (_ = _))

lemma exportReverseEntry_of_unpaired (h : ¬ Paired s.forward e) : exportReverseEntry registered s e =
    { s with issues := s.issues ++ [backwardIssue e (s.forward.get e.2)] } := by
  have hp : s.forward.get? e.2 ≠ some e.1 := h
  rw [exportReverseEntry, if_pos hp]

lemma exportReverseEntry_of_paired (h : Paired s.forward e) : exportReverseEntry registered s e =
    if uidBelongsToRegisteredPair registered e.2 e.1 = true then
      { s with forward := s.forward.delete e.2, pairs := s.pairs ++ [⟨e.2, e.1⟩] }
    else { s with forward := s.forward.delete e.2, issues := s.issues ++ [unregisteredIssue e] } := by
  have hp : s.forward.get? e.2 = some e.1 := h
  rw [exportReverseEntry, if_neg (not_not.mpr hp)]
  cases uidBelongsToRegisteredPair registered e.2 e.1 <;> rfl

lemma paired_exportReverseEntry {e' : GoString × GoString} (hne : e'.1 ≠ e.1) :
    Paired (exportReverseEntry registered s e).forward e' ↔ Paired s.forward e' := by
  by_cases hp : Paired s.forward e
  · have hfwd : (exportReverseEntry registered s e).forward = s.forward.delete e.2 := by
      rw [exportReverseEntry_of_paired hp]
      split_ifs <;> rfl
    rw [hfwd, Paired, Paired, KVStore.get?_delete]
    split_ifs with htoken
    · rw [htoken, hp]
      simp [Ne.symm hne]
    · rfl
  · rw [exportReverseEntry_of_unpaired hp]

lemma pairs_exportReverseEntry : (exportReverseEntry registered s e).pairs =
    s.pairs ++ (if Paired s.forward e ∧ uidBelongsToRegisteredPair registered e.2 e.1 = true then [⟨e.2, e.1⟩]
      else []) := by
  by_cases hp : Paired s.forward e
  · rw [exportReverseEntry_of_paired hp]
    cases uidBelongsToRegisteredPair registered e.2 e.1 <;> simp [hp]
  · rw [exportReverseEntry_of_unpaired hp, if_neg fun h => hp h.1, List.append_nil]

lemma get?_exportReverseEntry (uid : GoString) : (exportReverseEntry registered s e).forward.get? uid =
    if e.2 = uid ∧ Paired s.forward e then none else s.forward.get? uid := by
  by_cases hp : Paired s.forward e
  · have hfwd : (exportReverseEntry registered s e).forward = s.forward.delete e.2 := by
      rw [exportReverseEntry_of_paired hp]
      split_ifs <;> rfl
    rw [hfwd, KVStore.get?_delete]
    simp [hp, eq_comm]
  · rw [exportReverseEntry_of_unpaired hp]
    simp [hp]

lemma issues_exportReverseEntry : ∃ new, (exportReverseEntry registered s e).issues = s.issues ++ new ∧
    (¬ Paired s.forward e → ∃ partner, backwardIssue e partner ∈ new) ∧
    (Paired s.forward e → uidBelongsToRegisteredPair registered e.2 e.1 = false → unregisteredIssue e ∈ new) := by
  by_cases hp : Paired s.forward e
  · rw [exportReverseEntry_of_paired hp]
    cases uidBelongsToRegisteredPair registered e.2 e.1 with
    | true => exact ⟨[], by simp, fun h => absurd hp h, fun _ h => by cases h⟩
    | false => exact ⟨[unregisteredIssue e], by simp, fun h => absurd hp h, fun _ _ => by simp⟩
  · rw [exportReverseEntry_of_unpaired hp]
    exact ⟨_, rfl, fun _ => ⟨_, List.mem_singleton.mpr rfl⟩, fun h => absurd h hp⟩

/-- The loop over reverse entries with distinct keys: the exported bindings, the forward entries that are
left over, and an issue for every entry that is not exported. -/
theorem exportReverse_foldl (l : List (GoString × GoString)) (hnd : (l.map Prod.fst).Nodup) (s : UIDExport) :
    (l.foldl (exportReverseEntry registered) s).pairs = s.pairs ++ (l.filter fun e => Paired s.forward e ∧
        uidBelongsToRegisteredPair registered e.2 e.1 = true).map (fun e => ⟨e.2, e.1⟩) ∧
      (∀ uid, (l.foldl (exportReverseEntry registered) s).forward.get? uid =
        if ∃ e ∈ l, e.2 = uid ∧ Paired s.forward e then none else s.forward.get? uid) ∧
      s.issues ⊆ (l.foldl (exportReverseEntry registered) s).issues ∧
      ∀ e ∈ l, (¬ Paired s.forward e → ∃ partner,
          backwardIssue e partner ∈ (l.foldl (exportReverseEntry registered) s).issues) ∧
        (Paired s.forward e → uidBelongsToRegisteredPair registered e.2 e.1 = false →
          unregisteredIssue e ∈ (l.foldl (exportReverseEntry registered) s).issues) := by
  induction l generalizing s with
  | nil => simp
  | cons e l ih =>
    simp only [List.map_cons, List.nodup_cons] at hnd
    have hsame : ∀ e' ∈ l, Paired (exportReverseEntry registered s e).forward e' ↔ Paired s.forward e' :=
      fun e' he' => paired_exportReverseEntry fun h => hnd.1 (h ▸ List.mem_map_of_mem he')
    rw [List.foldl_cons]
    obtain ⟨hpairs, hforward, hkept, hissues⟩ := ih hnd.2 (exportReverseEntry registered s e)
    obtain ⟨new, hnew, hback, hunreg⟩ := @issues_exportReverseEntry registered s e
    refine ⟨?_, fun uid => ?_, fun i hi => hkept (by rw [hnew]; exact List.mem_append_left _ hi), ?_⟩
    · rw [hpairs, pairs_exportReverseEntry, List.append_assoc]
      congr 1
      rw [List.filter_cons]
      have hfilter := List.filter_congr (l := l)
        (p := fun e' => decide (Paired (exportReverseEntry registered s e).forward e' ∧
          uidBelongsToRegisteredPair registered e'.2 e'.1 = true))
        (q := fun e' => decide (Paired s.forward e' ∧ uidBelongsToRegisteredPair registered e'.2 e'.1 = true))
        fun e' he' => by simp only [hsame e' he']
      rw [hfilter]
      by_cases hb : Paired s.forward e ∧ uidBelongsToRegisteredPair registered e.2 e.1 = true
      · simp [hb]
      · simp only [hb, if_false, decide_false, List.nil_append, Bool.false_eq_true]
    · have hex : (∃ e' ∈ l, e'.2 = uid ∧ Paired (exportReverseEntry registered s e).forward e') ↔
          ∃ e' ∈ l, e'.2 = uid ∧ Paired s.forward e' :=
        exists_congr fun e' => and_congr_right fun he' => and_congr_right fun _ => hsame e' he'
      simp only [hforward, hex, get?_exportReverseEntry, List.mem_cons, exists_eq_or_imp]
      by_cases hl : ∃ e' ∈ l, e'.2 = uid ∧ Paired s.forward e'
      · simp [hl]
      · simp [hl]
    · intro e' he'
      rcases List.mem_cons.mp he' with rfl | he'
      · refine ⟨fun hp => ?_, fun hp hb => hkept ?_⟩
        · obtain ⟨partner, hmem⟩ := hback hp
          exact ⟨partner, hkept (by rw [hnew]; exact List.mem_append_right _ hmem)⟩
        · rw [hnew]
          exact List.mem_append_right _ (hunreg hp hb)
      · rw [← hsame e' he']
        exact hissues e' he'

section Index

variable {forward reverse : KVStore GoString}

lemma nodup_reverse (reverse : KVStore GoString) : (reverse.entries.map Prod.fst).Nodup := reverse.nodup_keys

lemma exported_eq : (exportNFTUIDPairsWithReport forward reverse registered).1 =
    (reverse.entries.filter fun e => Paired forward e ∧
      uidBelongsToRegisteredPair registered e.2 e.1 = true).map (fun e => ⟨e.2, e.1⟩) := by
  rw [exportNFTUIDPairsWithReport, (exportReverse_foldl _ (nodup_reverse reverse) _).1, List.nil_append]

/-- The exported bindings are those stored in both directions that belong to a registered pair. -/
lemma mem_exported {p : NFTUIDPair} : p ∈ (exportNFTUIDPairsWithReport forward reverse registered).1 ↔
    reverse.get? p.nftUid = some p.tokenUid ∧ forward.get? p.tokenUid = some p.nftUid ∧
      uidBelongsToRegisteredPair registered p.tokenUid p.nftUid = true := by
  rw [exported_eq, List.mem_map]
  constructor
  · rintro ⟨e, he, rfl⟩
    obtain ⟨hmem, hcond⟩ := List.mem_filter.mp he
    obtain ⟨hp, hb⟩ := of_decide_eq_true hcond
    exact ⟨KVStore.mem_entries.mp hmem, hp, hb⟩
  · rintro ⟨hrev, hp, hb⟩
    refine ⟨(p.nftUid, p.tokenUid), List.mem_filter.mpr ⟨KVStore.mem_entries.mpr hrev, ?_⟩, rfl⟩
    exact decide_eq_true ⟨hp, hb⟩

lemma pairwise_exported : (exportNFTUIDPairsWithReport forward reverse registered).1.Pairwise fun p q =>
    ¬ (p.tokenUid = q.tokenUid ∨ p.nftUid = q.nftUid) := by
  rw [exported_eq, List.pairwise_map]
  have hsorted : reverse.entries.Pairwise fun e e' => e.1 < e'.1 := List.pairwise_map.mp reverse.sorted
  refine (List.Pairwise.and_mem.mp (hsorted.filter _)).imp ?_
  rintro e e' ⟨he, he', hlt⟩ (htoken | hnft)
  · have hp : Paired forward e := (of_decide_eq_true (List.mem_filter.mp he).2).1
    have hp' : Paired forward e' := (of_decide_eq_true (List.mem_filter.mp he').2).1
    dsimp only at htoken
    rw [Paired, htoken, hp'] at hp
    exact ne_of_lt hlt (Option.some.inj hp).symm
  · exact ne_of_lt hlt hnft

/-- A report names the record under this key. -/
def Reported (issues : List GenesisExportIssue) (kinds : List GenesisExportIssueKind) (key : Arg) : Prop :=
  ∃ i ∈ issues, i.kind ∈ kinds ∧ i.key = key

lemma reverse_accounted {n t : GoString} (h : reverse.get? n = some t) :
    ⟨t, n⟩ ∈ (exportNFTUIDPairsWithReport forward reverse registered).1 ∨
      Reported (exportNFTUIDPairsWithReport forward reverse registered).2 [.uidIndexBackward] (.s n) ∨
      Reported (exportNFTUIDPairsWithReport forward reverse registered).2 [.uidIndexUnregisteredPair] (.s t) := by
  obtain ⟨-, -, -, hissues⟩ :=
    @exportReverse_foldl registered _ (nodup_reverse reverse) ⟨forward, [], []⟩
  obtain ⟨hback, hunreg⟩ := hissues (n, t) (KVStore.mem_entries.mpr h)
  by_cases hp : Paired forward (n, t)
  · cases hb : uidBelongsToRegisteredPair registered t n with
    | true => exact .inl (mem_exported.mpr ⟨h, hp, hb⟩)
    | false =>
      refine .inr (.inr ⟨unregisteredIssue (n, t), ?_, by simp [unregisteredIssue], rfl⟩)
      exact (List.mem_insertionSort _).mpr (List.mem_append_left _ (hunreg hp hb))
  · obtain ⟨partner, hmem⟩ := hback hp
    refine .inr (.inl ⟨backwardIssue (n, t) partner, ?_, by simp [backwardIssue], rfl⟩)
    exact (List.mem_insertionSort _).mpr (List.mem_append_left _ hmem)

lemma forward_accounted {t n : GoString} (h : forward.get? t = some n) :
    ⟨t, n⟩ ∈ (exportNFTUIDPairsWithReport forward reverse registered).1 ∨
      Reported (exportNFTUIDPairsWithReport forward reverse registered).2
        [.uidIndexForward, .uidIndexUnregisteredPair] (.s t) := by
  obtain ⟨-, hforward, -, hissues⟩ :=
    @exportReverse_foldl registered _ (nodup_reverse reverse) ⟨forward, [], []⟩
  by_cases hp : ∃ e ∈ reverse.entries, e.2 = t ∧ Paired forward e
  · obtain ⟨e, he, rfl, hp⟩ := hp
    obtain rfl : e.1 = n := by
      rw [Paired, h] at hp
      exact (Option.some.inj hp).symm
    cases hb : uidBelongsToRegisteredPair registered e.2 e.1 with
    | true => exact .inl (mem_exported.mpr ⟨KVStore.mem_entries.mp he, hp, hb⟩)
    | false =>
      refine .inr ⟨unregisteredIssue e, ?_, by simp [unregisteredIssue], rfl⟩
      exact (List.mem_insertionSort _).mpr (List.mem_append_left _ ((hissues e he).2 hp hb))
  · have hleft := hforward t
    rw [if_neg hp, h] at hleft
    refine .inr ⟨forwardIssue (t, n), ?_, by simp [forwardIssue], rfl⟩
    refine (List.mem_insertionSort _).mpr (List.mem_append_right _ (List.mem_map_of_mem ?_))
    exact KVStore.mem_entries.mpr hleft

end Index

section Refunds

variable {split : GoString → Except Error (GoString × GoString)} {refunds : KVStore GoString}

/-- The receiver that a record is exported as. -/
def splitEntry (split : GoString → Except Error (GoString × GoString)) (e : GoString × GoString) :
    Option RefundReceiver :=
  match split e.1 with
  | .ok (contract, tokenID) => some ⟨contract, tokenID, e.2⟩
  | .error _ => none

lemma splitEntry_eq_some {e : GoString × GoString} {r : RefundReceiver} : splitEntry split e = some r ↔
    split e.1 = .ok (r.contractAddress, r.tokenId) ∧ r.receiver = e.2 := by
  unfold splitEntry
  cases hsplit : split e.1 with
  | error err => simp
  | ok ct =>
    obtain ⟨c, t⟩ := ct
    obtain ⟨c', t', v⟩ := r
    simp only [Option.some.injEq, RefundReceiver.mk.injEq, Except.ok.injEq, Prod.mk.injEq]
    tauto

lemma exportRefund_foldl (l : List (GoString × GoString)) (s : List RefundReceiver × List GenesisExportIssue) :
    (l.foldl (exportRefundEntry split) s).1 = s.1 ++ l.filterMap (splitEntry split) ∧
    s.2 ⊆ (l.foldl (exportRefundEntry split) s).2 ∧
    ∀ e ∈ l, ∀ err, split e.1 = .error err →
      Reported (l.foldl (exportRefundEntry split) s).2 [.refundKeyOrphan] (.q e.1) := by
  induction l generalizing s with
  | nil => simp
  | cons e l ih =>
    rw [List.foldl_cons]
    obtain ⟨hreceivers, hkept, hissues⟩ := ih (exportRefundEntry split s e)
    cases hsplit : split e.1 with
    | ok r =>
      have hstep : exportRefundEntry split s e = (s.1 ++ [⟨r.1, r.2, e.2⟩], s.2) := by
        rw [exportRefundEntry, hsplit]
      rw [hstep] at hreceivers hkept hissues ⊢
      refine ⟨by simp [hreceivers, splitEntry, hsplit], hkept, fun e' he' err herr => ?_⟩
      rcases List.mem_cons.mp he' with rfl | he'
      · rw [hsplit] at herr
        cases herr
      · exact hissues e' he' err herr
    | error err =>
      have hstep : exportRefundEntry split s e =
          (s.1, s.2 ++ [⟨.refundKeyOrphan, .q e.1, errorText err⟩]) := by
        rw [exportRefundEntry, hsplit]
      have hnone : splitEntry split e = none := by rw [splitEntry, hsplit]
      rw [hstep] at hreceivers hkept hissues ⊢
      refine ⟨by rw [hreceivers, List.filterMap_cons_none hnone], fun i hi => hkept (List.mem_append_left _ hi), ?_⟩
      intro e' he' err' herr'
      rcases List.mem_cons.mp he' with rfl | he'
      · exact ⟨⟨.refundKeyOrphan, .q e'.1, _⟩, hkept (List.mem_append_right _ (List.mem_singleton.mpr rfl)),
          by simp, rfl⟩
      · exact hissues e' he' err' herr'

lemma exportedRefunds_eq : (exportRefundReceiversWithReport split refunds).1 =
    refunds.entries.filterMap (splitEntry split) := by
  rw [exportRefundReceiversWithReport, (exportRefund_foldl _ _).1, List.nil_append]

lemma mem_exportedRefunds {r : RefundReceiver} : r ∈ (exportRefundReceiversWithReport split refunds).1 ↔
    ∃ key, refunds.get? key = some r.receiver ∧ split key = .ok (r.contractAddress, r.tokenId) := by
  rw [exportedRefunds_eq, List.mem_filterMap]
  simp only [splitEntry_eq_some]
  constructor
  · rintro ⟨e, he, hsplit, hr⟩
    exact ⟨e.1, hr ▸ KVStore.mem_entries.mp he, hsplit⟩
  · rintro ⟨key, hget, hsplit⟩
    exact ⟨(key, r.receiver), KVStore.mem_entries.mpr hget, hsplit, rfl⟩

lemma pairwise_exportedRefunds_iff (d : RefundReceiver → GoString) :
    ((exportRefundReceiversWithReport split refunds).1.Pairwise fun r q => ¬ d r = d q) ↔
      ∀ k r k' r', refunds.get? k = some r.receiver → refunds.get? k' = some r'.receiver →
        split k = .ok (r.contractAddress, r.tokenId) → split k' = .ok (r'.contractAddress, r'.tokenId) →
        d r = d r' → k = k' := by
  rw [exportedRefunds_eq, List.pairwise_filterMap]
  constructor
  · intro hpair k r k' r' hk hk' hsplit hsplit' heq
    by_contra hne
    have hsymm : Std.Symm fun e e' : GoString × GoString => ∀ b, splitEntry split e = some b →
        ∀ b', splitEntry split e' = some b' → ¬ d b = d b' :=
      ⟨fun e e' h b hb b' hb' heq => h b' hb' b hb heq.symm⟩
    exact hpair.forall (KVStore.mem_entries.mpr hk) (KVStore.mem_entries.mpr hk') (fun h => hne (Prod.mk.inj h).1)
      r (splitEntry_eq_some.mpr ⟨hsplit, rfl⟩) r' (splitEntry_eq_some.mpr ⟨hsplit', rfl⟩) heq
  · intro hkeys
    have hsorted : refunds.entries.Pairwise fun e e' => e.1 < e'.1 := List.pairwise_map.mp refunds.sorted
    refine (List.Pairwise.and_mem.mp hsorted).imp ?_
    rintro e e' ⟨he, he', hlt⟩ r hr r' hr' heq
    obtain ⟨hsplit, hrec⟩ := splitEntry_eq_some.mp hr
    obtain ⟨hsplit', hrec'⟩ := splitEntry_eq_some.mp hr'
    exact ne_of_lt hlt (hkeys e.1 r e'.1 r' (hrec ▸ KVStore.mem_entries.mp he)
      (hrec' ▸ KVStore.mem_entries.mp he') hsplit hsplit' heq)

lemma refund_accounted {key receiver : GoString} (h : refunds.get? key = some receiver) :
    (∃ contract tokenID, split key = .ok (contract, tokenID) ∧
      ⟨contract, tokenID, receiver⟩ ∈ (exportRefundReceiversWithReport split refunds).1) ∨
    Reported (exportRefundReceiversWithReport split refunds).2 [.refundKeyOrphan] (.q key) := by
  cases hsplit : split key with
  | ok r => exact .inl ⟨r.1, r.2, rfl, mem_exportedRefunds.mpr ⟨key, h, hsplit⟩⟩
  | error err => exact .inr ((exportRefund_foldl _ _).2.2 (key, receiver) (KVStore.mem_entries.mpr h) err hsplit)

end Refunds

end Export

section Validation

variable {rules : RefundRules} {registered : List (GoString × GoString)}

lemma validateUIDPair_eq_ok {root : RootError} {seen seen' : List GoString × List GoString} {p : NFTUIDPair} :
    validateUIDPair root registered seen p = .ok seen' ↔
      ((p.tokenUid ≠ [] ∧ p.nftUid ≠ [] ∧ uidBelongsToRegisteredPair registered p.tokenUid p.nftUid = true) ∧
        ¬ (p.tokenUid ∈ seen.1 ∨ p.nftUid ∈ seen.2)) ∧ seen' = (p.tokenUid :: seen.1, p.nftUid :: seen.2) := by
  unfold validateUIDPair
  simp only [require_bind_eq_ok, Except.ok.injEq, not_or]
  constructor
  · rintro ⟨⟨ht, hn⟩, hseen, hseen', hb, rfl⟩
    exact ⟨⟨⟨ht, hn, hb⟩, hseen, hseen'⟩, rfl⟩
  · rintro ⟨⟨⟨ht, hn, hb⟩, hseen, hseen'⟩, rfl⟩
    exact ⟨⟨ht, hn⟩, hseen, hseen', hb, rfl⟩

lemma validateRefund_eq_ok {seen seen' : List GoString} {r : RefundReceiver} :
    validateRefund rules registered seen r = .ok seen' ↔
      ((r.contractAddress ≠ [] ∧ r.tokenId ≠ [] ∧ r.receiver ≠ [] ∧
          toLower r.contractAddress ∈ registered.map fun tp => toLower tp.1) ∧
        rules.dedupe (toLower r.contractAddress) r.tokenId ∉ seen) ∧
      seen' = rules.dedupe (toLower r.contractAddress) r.tokenId :: seen := by
  unfold validateRefund
  simp only [require_bind_eq_ok, Except.ok.injEq]
  constructor
  · rintro ⟨⟨hc, ht, hr⟩, hreg, hseen, rfl⟩
    exact ⟨⟨⟨hc, ht, hr, hreg⟩, hseen⟩, rfl⟩
  · rintro ⟨⟨⟨hc, ht, hr, hreg⟩, hseen⟩, rfl⟩
    exact ⟨⟨hc, ht, hr⟩, hreg, hseen, rfl⟩

/-- What the validation of the per-token state accepts. -/
theorem validateGenesisPairs_eq_ok {pairs : List NFTUIDPair} {receivers : List RefundReceiver} :
    validateGenesisPairs rules pairs receivers registered = .ok () ↔
      ((∀ p ∈ pairs, p.tokenUid ≠ [] ∧ p.nftUid ≠ [] ∧
          uidBelongsToRegisteredPair registered p.tokenUid p.nftUid = true) ∧
        pairs.Pairwise fun p q => ¬ (p.tokenUid = q.tokenUid ∨ p.nftUid = q.nftUid)) ∧
      (∀ r ∈ receivers, r.contractAddress ≠ [] ∧ r.tokenId ≠ [] ∧ r.receiver ≠ [] ∧
          toLower r.contractAddress ∈ registered.map fun tp => toLower tp.1) ∧
        receivers.Pairwise fun r q => ¬ rules.dedupe (toLower r.contractAddress) r.tokenId =
          rules.dedupe (toLower q.contractAddress) q.tokenId := by
  have huids := @forEach_unseen _ _ _ (validateUIDPair rules.root registered)
    (fun p => p.tokenUid ≠ [] ∧ p.nftUid ≠ [] ∧ uidBelongsToRegisteredPair registered p.tokenUid p.nftUid = true)
    (fun s p => p.tokenUid ∈ s.1 ∨ p.nftUid ∈ s.2)
    (fun p q => p.tokenUid = q.tokenUid ∨ p.nftUid = q.nftUid)
    (fun s p => by simp [validateUIDPair_eq_ok])
    (fun s p t q h => by
      rw [(validateUIDPair_eq_ok.mp h).2]
      simp only [List.mem_cons, eq_comm]
      tauto) ([], []) pairs
  have hrefunds := @forEach_unseen _ _ _ (validateRefund rules registered)
    (fun r => r.contractAddress ≠ [] ∧ r.tokenId ≠ [] ∧ r.receiver ≠ [] ∧
      toLower r.contractAddress ∈ registered.map fun tp => toLower tp.1)
    (fun s r => rules.dedupe (toLower r.contractAddress) r.tokenId ∈ s)
    (fun r q => rules.dedupe (toLower r.contractAddress) r.tokenId =
      rules.dedupe (toLower q.contractAddress) q.tokenId)
    (fun s r => by simp [validateRefund_eq_ok])
    (fun s r t q h => by
      rw [(validateRefund_eq_ok.mp h).2, List.mem_cons, or_comm, eq_comm]) [] receivers
  simp only [List.not_mem_nil, or_self, not_false_eq_true, and_true] at huids hrefunds
  unfold validateGenesisPairs
  simp only [bind_eq_ok, pure_eq_ok, and_true]
  rw [← huids, ← hrefunds]
  constructor
  · rintro ⟨t, ht, u, hu⟩
    exact ⟨⟨t, ht⟩, u, hu⟩
  · rintro ⟨⟨t, ht⟩, u, hu⟩
    exact ⟨t, ht, u, hu⟩

end Validation

end Uptick.Genesis
