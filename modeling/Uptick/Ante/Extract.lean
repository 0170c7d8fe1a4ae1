import Uptick.Ante.Authz

/-!
# The two walks over nested messages

The breadth-first loop of `ExtractMessagesFromTx` keeps an invariant: what it has collected, with what
waits in the queue, is closed under looking into a `MsgExec`. From it the loop returns every message. Its
nesting limit and the one of the commission decorator draw the same line, as long as the messages form
trees: a `MsgExec` that lies at two places in memory would be met a second time and skipped.
-/

namespace Uptick.Ante

open Text Numeral Outcome

variable {Dec : Type}

lemma pipe_notMem_pointer (n : Nat) : (124 : UInt8) ∉ str "0x" ++ text 16 n := by
  intro h
  rcases List.mem_append.mp h with h | h
  · exact absurd h (by decide)
  · obtain ⟨d, hd, heq⟩ := mem_text (by decide) (by decide) h
    revert heq
    interval_cases d <;> decide

/-- The key tells the reference: a pointer text has no bar. -/
lemma ref_eq_of_msgDedupKey {m n : SdkMsg Dec} (h : msgDedupKey m = msgDedupKey n) : m.ref = n.ref := by
  have hbar : str "|" = [124] := by decide
  unfold msgDedupKey at h
  rw [hbar, List.append_assoc, List.append_assoc, List.singleton_append, List.singleton_append] at h
  obtain ⟨htype, hpointer⟩ := append_cons_inj_last (pipe_notMem_pointer _) (pipe_notMem_pointer _) h
  have hvalue := text_injective (by decide) (by decide) (List.append_cancel_left hpointer)
  cases hm : m.ref with
  | mk typeURL pointer =>
    cases hn : n.ref with
    | mk typeURL' pointer' => simp_all

/-- What a message holds directly. -/
def SdkMsg.children : SdkMsg Dec → List (SdkMsg Dec)
  | .exec _ msgs => msgs
  | _ => []

lemma isExec_eq_false {msg : SdkMsg Dec} (h : ∀ ref msgs, msg = .exec ref msgs → False) : msg.isExec = false := by
  cases msg with
  | exec ref msgs => exact absurd rfl (h ref msgs)
  | createValidator ref rate => rfl
  | editValidator ref rate => rfl
  | other ref => rfl

lemma children_of_leaf {msg : SdkMsg Dec} (h : msg.isExec = false) : msg.children = [] := by
  cases msg <;> simp_all [SdkMsg.children, SdkMsg.isExec]

def queueTrees (queue : List (Option (SdkMsg Dec) × Nat)) : List (SdkMsg Dec) := queue.filterMap Prod.fst

@[simp] lemma queueTrees_none (depth : Nat) (queue : List (Option (SdkMsg Dec) × Nat)) :
    queueTrees ((none, depth) :: queue) = queueTrees queue := rfl

@[simp] lemma queueTrees_some (msg : SdkMsg Dec) (depth : Nat) (queue : List (Option (SdkMsg Dec) × Nat)) :
    queueTrees ((some msg, depth) :: queue) = msg :: queueTrees queue := rfl

lemma queueTrees_nestedItems (queue : List (Option (SdkMsg Dec) × Nat)) (msgs : List (SdkMsg Dec)) (depth : Nat) :
    queueTrees (queue ++ nestedItems msgs depth) = queueTrees queue ++ msgs := by
  simp [queueTrees, nestedItems, List.filterMap_append, List.filterMap_map]

lemma subset_nodes_of_closed {msgs : List (SdkMsg Dec)} (hclosed : ∀ m ∈ msgs, ∀ n ∈ m.children, n ∈ msgs)
    (m : SdkMsg Dec) (hm : m ∈ msgs) : ∀ n ∈ m.nodes, n ∈ msgs := by
  induction m using SdkMsg.tree_induction with
  | hleaf m hleaf =>
    rw [nodes_of_leaf hleaf]
    simpa using hm
  | hexec ref inner ih =>
    intro n hn
    rw [SdkMsg.nodes, List.mem_cons] at hn
    rcases hn with rfl | hn
    · exact hm
    · obtain ⟨m, hmi, hnm⟩ := mem_nodesAll.mp hn
      exact ih m hmi (hclosed _ hm m hmi) n hnm

section Loop

variable {queue : List (Option (SdkMsg Dec) × Nat)} {processed : List GoString} {allMsgs : List (SdkMsg Dec)}

/-- The messages of the walk: they hold only each other, and a reference leads to one of them. -/
structure Universe (U : List (SdkMsg Dec)) : Prop where
  closed : ∀ m ∈ U, ∀ n ∈ m.children, n ∈ U
  one : ∀ m ∈ U, ∀ n ∈ U, m.ref = n.ref → m = n

lemma collected_snoc {msg : SdkMsg Dec} (hproc : ∀ k ∈ processed, ∃ m ∈ allMsgs, msgDedupKey m = k) :
    ∀ k ∈ msgDedupKey msg :: processed, ∃ m ∈ allMsgs ++ [msg], msgDedupKey m = k := by
  intro k hk
  rcases List.mem_cons.mp hk with rfl | hk
  · exact ⟨msg, by simp, rfl⟩
  · obtain ⟨m, hm, hkey⟩ := hproc k hk
    exact ⟨m, List.mem_append_left _ hm, hkey⟩

lemma forall_mem_snoc {P : SdkMsg Dec → Prop} {msg : SdkMsg Dec} (hall : ∀ m ∈ allMsgs, P m) (hmsg : P msg) :
    ∀ m ∈ allMsgs ++ [msg], P m := by
  simpa [or_imp, forall_and] using ⟨hall, hmsg⟩

/-- A returned list holds what was collected and what was queued, and of everything new it holds what is
inside. -/
lemma extractLoop_ok {U : List (SdkMsg Dec)} (hU : Universe U) {R : List (SdkMsg Dec)}
    (hqueue : ∀ m ∈ queueTrees queue, m ∈ U) (hall : ∀ m ∈ allMsgs, m ∈ U)
    (hproc : ∀ k ∈ processed, ∃ m ∈ allMsgs, msgDedupKey m = k)
    (h : extractLoop queue processed allMsgs = .ok R) :
    (∀ m ∈ allMsgs, m ∈ R) ∧ (∀ m ∈ queueTrees queue, m ∈ R) ∧
      ∀ m ∈ R, m ∈ allMsgs ∨ ∀ n ∈ m.children, n ∈ R := by
  fun_induction extractLoop queue processed allMsgs with
  | case1 processed allMsgs =>
    obtain rfl := Except.ok.inj h
    exact ⟨fun m hm => hm, by simp [queueTrees], fun m hm => .inl hm⟩
  | case2 processed allMsgs depth queue ih => exact ih hqueue hall hproc h
  | case3 processed allMsgs msg depth queue hseen ih =>
    simp only [queueTrees_some, List.forall_mem_cons] at hqueue ⊢
    obtain ⟨hkept, hwaiting, hnew⟩ := ih hqueue.2 hall hproc h
    -- The key was met before, so the message itself was.
    obtain ⟨m, hm, hkey⟩ := hproc _ hseen
    have hsame := hU.one m (hall m hm) msg hqueue.1 (ref_eq_of_msgDedupKey hkey)
    exact ⟨hkept, ⟨hsame ▸ hkept m hm, hwaiting⟩, hnew⟩
  | case4 processed allMsgs msg depth queue hseen hcount => cases h
  | case5 processed allMsgs depth queue hcount ref msgs hdeep hseen => cases h
  | case6 processed allMsgs depth queue hcount ref msgs hdeep hseen ih =>
    simp only [queueTrees_some, List.forall_mem_cons] at hqueue ⊢
    have hinner : ∀ m ∈ queueTrees (queue ++ nestedItems msgs (depth + 1)), m ∈ U := by
      intro m hm
      rw [queueTrees_nestedItems, List.mem_append] at hm
      exact hm.elim (hqueue.2 m) (hU.closed _ hqueue.1 m)
    obtain ⟨hkept, hwaiting, hnew⟩ := ih hinner (forall_mem_snoc hall hqueue.1) (collected_snoc hproc) h
    simp only [queueTrees_nestedItems, List.forall_mem_append] at hwaiting
    refine ⟨fun m hm => hkept m (by simp [hm]), ⟨hkept _ (by simp), hwaiting.1⟩, fun m hm => ?_⟩
    rcases hnew m hm with hold | hinside
    · rcases List.mem_append.mp hold with hold | hself
      · exact .inl hold
      · -- What is inside the message waits in the queue.
        rw [List.mem_singleton.mp hself]
        exact .inr hwaiting.2
    · exact .inr hinside
  | case7 processed allMsgs msg depth queue hseen hcount hleaf ih =>
    simp only [queueTrees_some, List.forall_mem_cons] at hqueue ⊢
    obtain ⟨hkept, hwaiting, hnew⟩ := ih hqueue.2 (forall_mem_snoc hall hqueue.1) (collected_snoc hproc) h
    refine ⟨fun m hm => hkept m (by simp [hm]), ⟨hkept _ (by simp), hwaiting⟩, fun m hm => ?_⟩
    rcases hnew m hm with hold | hinside
    · rcases List.mem_append.mp hold with hold | hself
      · exact .inl hold
      · rw [List.mem_singleton.mp hself, children_of_leaf (isExec_eq_false hleaf)]
        exact .inr (by simp)
    · exact .inr hinside

lemma extractLoop_ne_nesting
    (hqueue : ∀ msg depth, (some msg, depth) ∈ queue → depth + msg.nesting ≤ maxAuthzNestingDepth) :
    extractLoop queue processed allMsgs ≠ .error nestingDepthExceeded := by
  fun_induction extractLoop queue processed allMsgs with
  | case1 processed allMsgs => simp
  | case2 processed allMsgs depth queue ih => exact ih fun m d hm => hqueue m d (by simp [hm])
  | case3 processed allMsgs msg depth queue hseen ih => exact ih fun m d hm => hqueue m d (by simp [hm])
  | case4 processed allMsgs msg depth queue hseen hcount => simp [nestingDepthExceeded, wrapf]
  | case5 processed allMsgs depth queue hcount ref msgs hdeep hseen =>
    have := hqueue (.exec ref msgs) depth (by simp)
    rw [SdkMsg.nesting] at this
    omega
  | case6 processed allMsgs depth queue hcount ref msgs hdeep hseen ih =>
    apply ih
    intro m d hm
    rcases List.mem_append.mp hm with hm | hm
    · exact hqueue m d (by simp [hm])
    · simp only [nestedItems, List.mem_map, Prod.mk.injEq, Option.some.injEq] at hm
      obtain ⟨n, hn, rfl, rfl⟩ := hm
      have houter := hqueue (.exec ref msgs) depth (by simp)
      rw [SdkMsg.nesting] at houter
      have := nesting_le_nestingAll hn
      omega
  | case7 processed allMsgs msg depth queue hseen hcount hleaf ih =>
    exact ih fun m d hm => hqueue m d (by simp [hm])

def execRefs (msgs : List (SdkMsg Dec)) : List Ref := ((nodesAll msgs).filter SdkMsg.isExec).map SdkMsg.ref

lemma execRefs_append (ms ns : List (SdkMsg Dec)) : execRefs (ms ++ ns) = execRefs ms ++ execRefs ns := by
  simp [execRefs, nodesAll_append]

lemma execRefs_exec (ref : Ref) (msgs ms : List (SdkMsg Dec)) :
    execRefs (.exec ref msgs :: ms) = ref :: (execRefs msgs ++ execRefs ms) := by
  rw [execRefs, nodesAll, SdkMsg.nodes, List.cons_append, List.filter_cons_of_pos rfl, List.map_cons,
    List.filter_append, List.map_append]
  rfl

lemma mem_execRefs {msgs : List (SdkMsg Dec)} {m : SdkMsg Dec} (hm : m ∈ nodesAll msgs) (hexec : m.isExec = true) :
    m.ref ∈ execRefs msgs :=
  List.mem_map_of_mem (List.mem_filter.mpr ⟨hm, hexec⟩)

/-- The messages waiting for the loop: known ones, with each `MsgExec` among them there once and not met
before. -/
structure Waiting (U trees : List (SdkMsg Dec)) (processed : List GoString) : Prop where
  known : ∀ m ∈ nodesAll trees, m ∈ U
  once : (execRefs trees).Nodup
  unmet : ∀ m ∈ nodesAll trees, m.isExec = true → msgDedupKey m ∉ processed

namespace Waiting

variable {U trees : List (SdkMsg Dec)} {msg : SdkMsg Dec}

lemma tail (h : Waiting U (msg :: trees) processed) : Waiting U trees processed := by
  have hknown := h.known
  have hunmet := h.unmet
  simp only [nodesAll, List.forall_mem_append] at hknown hunmet
  have honce := h.once
  rw [← List.singleton_append, execRefs_append] at honce
  exact ⟨hknown.2, honce.of_append_right, hunmet.2⟩

lemma isExec_of_met (h : Waiting U (msg :: trees) processed) (hseen : msgDedupKey msg ∈ processed) :
    msg.isExec = false := by
  cases hexec : msg.isExec with
  | false => rfl
  | true => exact absurd hseen (h.unmet msg (List.mem_append_left _ (mem_nodes_self msg)) hexec)

lemma leaf (hU : Universe U) (h : Waiting U (msg :: trees) processed) (hleaf : msg.isExec = false) :
    Waiting U trees (msgDedupKey msg :: processed) := by
  refine ⟨h.tail.known, h.tail.once, fun m hm hexec hkey => ?_⟩
  rcases List.mem_cons.mp hkey with heq | hkey
  · have hself := h.known msg (List.mem_append_left _ (mem_nodes_self msg))
    have hsame := hU.one m (h.tail.known m hm) msg hself (ref_eq_of_msgDedupKey heq)
    rw [hsame, hleaf] at hexec
    cases hexec
  · exact h.tail.unmet m hm hexec hkey

/-- A `MsgExec` is met: what is inside waits behind the others, and none of them is this one again. -/
lemma exec {ref : Ref} {msgs : List (SdkMsg Dec)} (h : Waiting U (.exec ref msgs :: trees) processed) :
    Waiting U (trees ++ msgs) (msgDedupKey (.exec ref msgs) :: processed) := by
  have hknown := h.known
  have hunmet := h.unmet
  simp only [nodesAll, SdkMsg.nodes, List.cons_append, List.forall_mem_cons, List.forall_mem_append] at hknown hunmet
  have honce := h.once
  rw [execRefs_exec, List.nodup_cons] at honce
  have hperm : (execRefs (trees ++ msgs)).Perm (execRefs msgs ++ execRefs trees) := by
    rw [execRefs_append]
    exact List.perm_append_comm
  refine ⟨?_, hperm.nodup_iff.mpr honce.2, fun m hm hexec hkey => ?_⟩
  · rw [nodesAll_append, List.forall_mem_append]
    exact ⟨hknown.2.2, hknown.2.1⟩
  · rcases List.mem_cons.mp hkey with heq | hkey
    · have href := hperm.mem_iff.mp (mem_execRefs hm hexec)
      rw [ref_eq_of_msgDedupKey heq] at href
      exact honce.1 href
    · rw [nodesAll_append, List.mem_append] at hm
      exact hm.elim (fun hm => hunmet.2.2 m hm hexec hkey) (fun hm => hunmet.2.1 m hm hexec hkey)

end Waiting

/-- Where no `MsgExec` comes up twice, a loop that returns has looked into each of them above its limit. -/
lemma nesting_of_extractLoop_ok {U : List (SdkMsg Dec)} (hU : Universe U) {R : List (SdkMsg Dec)}
    (hwait : Waiting U (queueTrees queue) processed) (h : extractLoop queue processed allMsgs = .ok R) :
    ∀ msg depth, (some msg, depth) ∈ queue → msg.nesting = 0 ∨ depth + msg.nesting ≤ maxAuthzNestingDepth := by
  fun_induction extractLoop queue processed allMsgs with
  | case1 processed allMsgs => simp
  | case2 processed allMsgs depth queue ih =>
    intro m d hm
    exact ih hwait h m d (by simpa using hm)
  | case3 processed allMsgs msg depth queue hseen ih =>
    intro m d hm
    rcases List.mem_cons.mp hm with heq | hm
    · obtain ⟨rfl, rfl⟩ := by simpa using heq
      exact .inl (nesting_of_leaf (hwait.isExec_of_met hseen))
    · exact ih hwait.tail h m d hm
  | case4 processed allMsgs msg depth queue hseen hcount => cases h
  | case5 processed allMsgs depth queue hcount ref msgs hdeep hseen => cases h
  | case6 processed allMsgs depth queue hcount ref msgs hdeep hseen ih =>
    rw [queueTrees_some] at hwait
    have hopened := hwait.exec
    rw [← queueTrees_nestedItems queue msgs (depth + 1)] at hopened
    have hrest := ih hopened h
    intro m d hm
    rcases List.mem_cons.mp hm with heq | hm
    · obtain ⟨rfl, rfl⟩ := by simpa using heq
      have hall : nestingAll msgs ≤ maxAuthzNestingDepth - (d + 1) := by
        apply nestingAll_le_iff.mpr
        intro n hn
        have := hrest n (d + 1) (List.mem_append_right _ (List.mem_map_of_mem hn))
        omega
      right
      rw [SdkMsg.nesting]
      omega
    · exact hrest m d (List.mem_append_left _ hm)
  | case7 processed allMsgs msg depth queue hseen hcount hleaf ih =>
    have hnot : msg.isExec = false := isExec_eq_false hleaf
    intro m d hm
    rcases List.mem_cons.mp hm with heq | hm
    · obtain ⟨rfl, rfl⟩ := by simpa using heq
      exact .inl (nesting_of_leaf hnot)
    · exact ih (hwait.leaf hU hnot) h m d hm

end Loop

lemma children_mem_nodes (tree : SdkMsg Dec) {m n : SdkMsg Dec} (hm : m ∈ tree.nodes) (hn : n ∈ m.children) :
    n ∈ tree.nodes := by
  induction tree using SdkMsg.tree_induction with
  | hleaf tree hleaf =>
    rw [nodes_of_leaf hleaf, List.mem_singleton] at hm
    rw [hm, children_of_leaf hleaf] at hn
    exact absurd hn List.not_mem_nil
  | hexec ref msgs ih =>
    rw [SdkMsg.nodes, List.mem_cons] at hm ⊢
    right
    rcases hm with rfl | hm
    · exact mem_nodesAll.mpr ⟨n, hn, mem_nodes_self n⟩
    · obtain ⟨tree, htree, hm⟩ := mem_nodesAll.mp hm
      exact mem_nodesAll.mpr ⟨tree, htree, ih tree htree hm⟩

variable {txMsgs : List (Option (SdkMsg Dec))}

lemma universe_of_onePerPointer (hone : OnePerPointer txMsgs) : Universe (nodesAll (txTrees txMsgs)) where
  closed := by
    intro m hm n hn
    obtain ⟨tree, htree, hm⟩ := mem_nodesAll.mp hm
    exact mem_nodesAll.mpr ⟨tree, htree, children_mem_nodes tree hm hn⟩
  one := hone

lemma queueTrees_tx (txMsgs : List (Option (SdkMsg Dec))) :
    queueTrees (txMsgs.map fun msg => (msg, 0)) = txTrees txMsgs := by
  simp [queueTrees, txTrees, List.filterMap_map]

/-- The extraction returns every message of the transaction, at any depth. -/
theorem mem_of_extractMessagesFromTx (hone : OnePerPointer txMsgs) {msgs : List (SdkMsg Dec)}
    (h : extractMessagesFromTx txMsgs = .ok msgs) : ∀ m ∈ nodesAll (txTrees txMsgs), m ∈ msgs := by
  have hU := universe_of_onePerPointer hone
  have hqueue : ∀ m ∈ queueTrees (txMsgs.map fun msg => (msg, 0)), m ∈ nodesAll (txTrees txMsgs) := by
    intro m hm
    rw [queueTrees_tx] at hm
    exact mem_nodesAll.mpr ⟨m, hm, mem_nodes_self m⟩
  obtain ⟨-, hroots, hnew⟩ := extractLoop_ok hU hqueue (by simp) (by simp) h
  have hclosed : ∀ m ∈ msgs, ∀ n ∈ m.children, n ∈ msgs := by
    intro m hm
    exact (hnew m hm).resolve_left List.not_mem_nil
  intro n hn
  obtain ⟨m, hm, hnm⟩ := mem_nodesAll.mp hn
  exact subset_nodes_of_closed hclosed m (hroots m (by rwa [queueTrees_tx])) n hnm

theorem exists_error_of_extractMessagesFromTx (hone : OnePerPointer txMsgs) (hunshared : Unshared txMsgs)
    (hdeep : maxAuthzNestingDepth < nestingAll (txTrees txMsgs)) :
    ∃ e, extractMessagesFromTx txMsgs = .error e := by
  cases hrun : extractMessagesFromTx txMsgs with
  | error e => exact ⟨e, rfl⟩
  | ok msgs =>
    have hwait : Waiting (nodesAll (txTrees txMsgs)) (queueTrees (txMsgs.map fun msg => (msg, 0))) [] := by
      rw [queueTrees_tx]
      exact ⟨fun m hm => hm, hunshared, by simp⟩
    have hnest := nesting_of_extractLoop_ok (universe_of_onePerPointer hone) hwait hrun
    have hle : nestingAll (txTrees txMsgs) ≤ maxAuthzNestingDepth := by
      apply nestingAll_le_iff.mpr
      intro m hm
      have hmem : (some m, 0) ∈ txMsgs.map fun msg => (msg, 0) :=
        List.mem_map_of_mem (by simpa [txTrees] using hm)
      have := hnest m 0 hmem
      omega
    omega

theorem extractMessagesFromTx_ne_nesting (hle : nestingAll (txTrees txMsgs) ≤ maxAuthzNestingDepth) :
    extractMessagesFromTx txMsgs ≠ .error nestingDepthExceeded := by
  apply extractLoop_ne_nesting
  intro m d hm
  simp only [List.mem_map, Prod.mk.injEq] at hm
  obtain ⟨msg, hmsg, rfl, rfl⟩ := hm
  have := nesting_le_nestingAll (show m ∈ txTrees txMsgs by simpa [txTrees] using hmsg)
  omega

/-- The two decorators on one transaction. The commission decorator lets no low commission pass, at any
depth. The extraction returns every message that is not nil. Both refuse trees that nest below the limit,
and neither reports a nesting error for trees within it. -/
theorem authz_walks_agree (M : Math) (txMsgs : List (Option (SdkMsg M.LegacyDec)))
    (hone : OnePerPointer txMsgs) :
    (commissionAnteHandle M txMsgs = .ok () → ∀ m ∈ nodesAll (txTrees txMsgs), MeetsMinimum M m) ∧
    (∀ msgs, extractMessagesFromTx txMsgs = .ok msgs → ∀ m ∈ nodesAll (txTrees txMsgs), m ∈ msgs) ∧
    (maxAuthzNestingDepth < nestingAll (txTrees txMsgs) →
      (∃ e, commissionAnteHandle M txMsgs = .error e) ∧
        (Unshared txMsgs → ∃ e, extractMessagesFromTx txMsgs = .error e)) ∧
    (nestingAll (txTrees txMsgs) ≤ maxAuthzNestingDepth →
      commissionAnteHandle M txMsgs ≠ .error validationDepthExceeded ∧
        extractMessagesFromTx txMsgs ≠ .error nestingDepthExceeded) := by
  have hlimit : maxAuthzValidationDepth = maxAuthzNestingDepth := rfl
  refine ⟨fun h => (commissionAnteHandle_eq_ok.mp h).1, fun msgs h => mem_of_extractMessagesFromTx hone h,
    fun hdeep => ⟨?_, fun hunshared => exists_error_of_extractMessagesFromTx hone hunshared hdeep⟩,
    fun hle => ⟨fun h => ?_, extractMessagesFromTx_ne_nesting hle⟩⟩
  · cases hrun : commissionAnteHandle M txMsgs with
    | error e => exact ⟨e, rfl⟩
    | ok u =>
      have := (commissionAnteHandle_eq_ok.mp hrun).2
      omega
  · have := nesting_of_commissionAnteHandle_error h
    omega

/-- Decimals as integers with eighteen places. -/
def sampleMath : Math where
  LegacyDec := Option Int
  legacyNewDecWithPrec := fun i prec => some (i * 10 ^ (18 - prec))
  lt := fun d e => match d, e with
    | some m, some n => .ok (m < n)
    | _, _ => .error nilDereference
  string := fun _ => []
  value := Option.map fun n => (n : ℚ) / 10 ^ 18
  value_legacyNewDecWithPrec := by
    intro i prec hprec
    have hpow : (10 : ℚ) ^ 18 = 10 ^ (18 - prec) * 10 ^ prec := by rw [← pow_add, Nat.sub_add_cancel hprec]
    rw [Option.map_some, Int.cast_mul, Int.cast_pow, Int.cast_ofNat, hpow, mul_comm, mul_div_mul_left]
    exact pow_ne_zero _ (by norm_num)
  lt_of_values := by
    intro d e x y hd he
    obtain ⟨m, rfl, rfl⟩ := Option.map_eq_some_iff.mp hd
    obtain ⟨n, rfl, rfl⟩ := Option.map_eq_some_iff.mp he
    have hiff : (m : ℚ) / 10 ^ 18 < (n : ℚ) / 10 ^ 18 ↔ m < n := by
      rw [div_lt_div_iff_of_pos_right (by norm_num), Int.cast_lt]
    simp [hiff]
  lt_of_empty := by
    intro d e hd
    rw [Option.map_eq_none_iff.mp hd]

/-- A grantee creates a validator with 5% inside a `MsgExec`, between a nil message and an edit without a
commission. -/
def grantedTx : List (Option (SdkMsg sampleMath.LegacyDec)) :=
  [none,
    some (.exec ⟨str "/cosmos.authz.v1beta1.MsgExec", 16⟩
      [.createValidator ⟨str "/cosmos.staking.v1beta1.MsgCreateValidator", 32⟩ (minCommission sampleMath)]),
    some (.editValidator ⟨str "/cosmos.staking.v1beta1.MsgEditValidator", 48⟩ none)]

theorem authz_walks_agree_granted :
    (∀ m ∈ nodesAll (txTrees grantedTx), MeetsMinimum sampleMath m) ∧
    (∀ msgs, extractMessagesFromTx grantedTx = .ok msgs → ∀ m ∈ nodesAll (txTrees grantedTx), m ∈ msgs) ∧
    extractMessagesFromTx grantedTx ≠ .error nestingDepthExceeded := by
  have hone : OnePerPointer grantedTx := by
    simp [OnePerPointer, grantedTx, txTrees, nodesAll, SdkMsg.nodes, SdkMsg.ref]
  obtain ⟨hrates, hmem, -, hwithin⟩ := authz_walks_agree sampleMath grantedTx hone
  exact ⟨hrates rfl, hmem, (hwithin (by decide)).2⟩

end Uptick.Ante
