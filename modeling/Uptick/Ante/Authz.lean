import Mathlib.Algebra.Order.Field.Rat
import Mathlib.Tactic.NormNum
import Uptick.Extern
import Uptick.Lib.Numeral

/-!
# Messages inside authz.MsgExec

Two decorators look behind `authz.MsgExec`. `ValidatorCommissionDecorator` (`app/ante/comission.go`)
recurses into it and checks the commission of every validator message; `ExtractMessagesFromTx`
(`app/ante/message_security.go`) walks the transaction breadth first with a set of the messages it has
met and returns them all. Each has a nesting limit of its own. Nested messages unpack.
-/

namespace Uptick.Ante

open Text Numeral Outcome

def nilDereference : Error := external "invalid memory address or nil pointer dereference"

/-- `cosmossdk.io/math` as far as the decorators call it. A panic is an error. -/
structure Math where
  LegacyDec : Type
  legacyNewDecWithPrec : Int → Nat → LegacyDec
  lt : LegacyDec → LegacyDec → Except Error Bool
  string : LegacyDec → GoString
  /-- The number that a decimal stands for. The empty value stands for none, and comparing it panics. -/
  value : LegacyDec → Option ℚ
  value_legacyNewDecWithPrec : ∀ (i : Int) {prec : Nat}, prec ≤ 18 →
    value (legacyNewDecWithPrec i prec) = some ((i : ℚ) / 10 ^ prec)
  lt_of_values : ∀ {d e x y}, value d = some x → value e = some y → lt d e = .ok (decide (x < y))
  lt_of_empty : ∀ {d} (e), value d = none → lt d e = .error nilDereference

/-- What `%s|%p` prints of a message: its type URL and where it lies in memory. -/
structure Ref where
  typeURL : GoString
  pointer : Nat
  deriving DecidableEq, Repr

/-- `sdk.Msg` with the fields the decorators read. -/
inductive SdkMsg (Dec : Type)
  | createValidator (ref : Ref) (rate : Dec)
  | editValidator (ref : Ref) (commissionRate : Option Dec)
  | exec (ref : Ref) (msgs : List (SdkMsg Dec))
  | other (ref : Ref)

variable {Dec : Type}

def SdkMsg.ref : SdkMsg Dec → Ref
  | .createValidator ref _ => ref
  | .editValidator ref _ => ref
  | .exec ref _ => ref
  | .other ref => ref

def maxAuthzValidationDepth : Nat := 5

section Commission

variable (M : Math)

def minCommission : M.LegacyDec := M.legacyNewDecWithPrec 5 2

def checkCommission (rate : M.LegacyDec) : Except Error Unit := do
  let low ← M.lt rate (minCommission M)
  require (low = false) (wrapf .invalidRequest "validator commission %s cannot be lower than minimum of %s"
    [.s (M.string rate), .s (M.string (minCommission M))])

def validateMsg : SdkMsg M.LegacyDec → Except Error Unit
  | .createValidator _ rate => checkCommission M rate
  | .editValidator _ (some rate) => checkCommission M rate
  | _ => .ok ()

def validationDepthExceeded : Error :=
  wrapf .invalidRequest "authz nesting depth exceeds maximum %d" [.d maxAuthzValidationDepth]

mutual

/-- The loop of `validateAuthzDepth` over the messages of a `MsgExec`. -/
def validateAuthzMsgs (depth : Nat) : List (SdkMsg M.LegacyDec) → Except Error Unit
  | [] => .ok ()
  | innerMsg :: rest => do
    validateMsg M innerMsg
    validateNested depth innerMsg
    validateAuthzMsgs depth rest

/-- The call of `validateAuthzDepth` for an inner message that is a `MsgExec`. -/
def validateNested (depth : Nat) : SdkMsg M.LegacyDec → Except Error Unit
  | .exec _ msgs =>
    if maxAuthzValidationDepth ≤ depth + 1 then .error validationDepthExceeded
    else validateAuthzMsgs (depth + 1) msgs
  | _ => .ok ()

end

def validateAuthzDepth (execMsgs : List (SdkMsg M.LegacyDec)) (depth : Nat) : Except Error Unit :=
  if maxAuthzValidationDepth ≤ depth then .error validationDepthExceeded
  else validateAuthzMsgs M depth execMsgs

def validateAuthz (execMsgs : List (SdkMsg M.LegacyDec)) : Except Error Unit := validateAuthzDepth M execMsgs 0

/-- One round of the decorator. A message may be nil. -/
def validateTxMsg : Option (SdkMsg M.LegacyDec) → Except Error Unit
  | some (.exec _ msgs) => validateAuthz M msgs
  | some msg => validateMsg M msg
  | none => .ok ()

/-- `ValidatorCommissionDecorator.AnteHandle` up to the call of the next handler. -/
def commissionAnteHandle (txMsgs : List (Option (SdkMsg M.LegacyDec))) : Except Error Unit :=
  forEach (fun _ msg => validateTxMsg M msg) () txMsgs

end Commission

def maxAuthzNestingDepth : Nat := 5

def maxExtractedMessages : Nat := 32

def msgDedupKey (msg : SdkMsg Dec) : GoString :=
  msg.ref.typeURL ++ str "|" ++ (str "0x" ++ text 16 msg.ref.pointer)

def nestingDepthExceeded : Error :=
  wrapf .invalidRequest "authz nesting depth exceeds maximum %d" [.d maxAuthzNestingDepth]

mutual

/-- The number of messages in a tree. -/
def SdkMsg.size : SdkMsg Dec → Nat
  | .exec _ msgs => 1 + sizeAll msgs
  | _ => 1

def sizeAll : List (SdkMsg Dec) → Nat
  | [] => 0
  | m :: ms => m.size + sizeAll ms

end

/-- The messages in the trees of a queue, a nil message counted as one. -/
def queueSize : List (Option (SdkMsg Dec) × Nat) → Nat
  | [] => 0
  | (none, _) :: queue => 1 + queueSize queue
  | (some msg, _) :: queue => msg.size + queueSize queue

lemma queueSize_append (queue queue' : List (Option (SdkMsg Dec) × Nat)) :
    queueSize (queue ++ queue') = queueSize queue + queueSize queue' := by
  fun_induction queueSize queue with
  | case1 => simp
  | case2 depth queue ih => simp only [List.cons_append, queueSize, ih, Nat.add_assoc]
  | case3 msg depth queue ih => simp only [List.cons_append, queueSize, ih, Nat.add_assoc]

def nestedItems (msgs : List (SdkMsg Dec)) (depth : Nat) : List (Option (SdkMsg Dec) × Nat) :=
  msgs.map fun nested => (some nested, depth)

lemma queueSize_nestedItems (msgs : List (SdkMsg Dec)) (depth : Nat) :
    queueSize (nestedItems msgs depth) = sizeAll msgs := by
  induction msgs with
  | nil => rfl
  | cons m ms ih =>
    rw [nestedItems, List.map_cons, queueSize, sizeAll, ← ih]
    rfl

lemma queueSize_lt_cons (item : Option (SdkMsg Dec) × Nat) (queue : List (Option (SdkMsg Dec) × Nat)) :
    queueSize queue < queueSize (item :: queue) := by
  obtain ⟨_ | msg, depth⟩ := item
  · simp [queueSize]
  · cases msg <;> simp [queueSize, SdkMsg.size]

/-- The loop of `ExtractMessagesFromTx`: the queue with the depth of each message, the keys met so far,
and the messages collected. -/
def extractLoop (queue : List (Option (SdkMsg Dec) × Nat)) (processed : List GoString) (allMsgs : List (SdkMsg Dec)) :
    Except Error (List (SdkMsg Dec)) :=
  match queue with
  | [] => .ok allMsgs
  | (none, _) :: queue => extractLoop queue processed allMsgs
  | (some msg, depth) :: queue =>
    if msgDedupKey msg ∈ processed then extractLoop queue processed allMsgs
    else if maxExtractedMessages ≤ allMsgs.length then
      .error (wrapf .invalidRequest "message count exceeds maximum %d" [.d maxExtractedMessages])
    else
      match msg with
      | .exec _ msgs =>
        if maxAuthzNestingDepth ≤ depth then .error nestingDepthExceeded
        else extractLoop (queue ++ nestedItems msgs (depth + 1)) (msgDedupKey msg :: processed) (allMsgs ++ [msg])
      | _ => extractLoop queue (msgDedupKey msg :: processed) (allMsgs ++ [msg])
termination_by queueSize queue
decreasing_by
  · exact queueSize_lt_cons _ _
  · exact queueSize_lt_cons _ _
  · simp only [queueSize, queueSize_append, queueSize_nestedItems, SdkMsg.size]
    omega
  · exact queueSize_lt_cons _ _

def extractMessagesFromTx (txMsgs : List (Option (SdkMsg Dec))) : Except Error (List (SdkMsg Dec)) :=
  extractLoop (txMsgs.map fun msg => (msg, 0)) [] []

mutual

/-- A message and all messages inside it. -/
def SdkMsg.nodes : SdkMsg Dec → List (SdkMsg Dec)
  | .exec ref msgs => .exec ref msgs :: nodesAll msgs
  | msg => [msg]

def nodesAll : List (SdkMsg Dec) → List (SdkMsg Dec)
  | [] => []
  | m :: ms => m.nodes ++ nodesAll ms

end

mutual

/-- How many `MsgExec` stand inside each other at most, the message itself included. -/
def SdkMsg.nesting : SdkMsg Dec → Nat
  | .exec _ msgs => 1 + nestingAll msgs
  | _ => 0

def nestingAll : List (SdkMsg Dec) → Nat
  | [] => 0
  | m :: ms => max m.nesting (nestingAll ms)

end

def SdkMsg.isExec : SdkMsg Dec → Bool
  | .exec _ _ => true
  | _ => false

def txTrees (txMsgs : List (Option (SdkMsg Dec))) : List (SdkMsg Dec) := txMsgs.filterMap id

def AtLeastFivePercent (M : Math) (rate : M.LegacyDec) : Prop := ∃ x, M.value rate = some x ∧ 5 / 100 ≤ x

/-- The message sets no commission, or one of at least 5%. -/
def MeetsMinimum (M : Math) : SdkMsg M.LegacyDec → Prop
  | .createValidator _ rate => AtLeastFivePercent M rate
  | .editValidator _ (some rate) => AtLeastFivePercent M rate
  | _ => True

/-- A pointer of one type leads to one message. -/
def OnePerPointer (txMsgs : List (Option (SdkMsg Dec))) : Prop :=
  ∀ m ∈ nodesAll (txTrees txMsgs), ∀ n ∈ nodesAll (txTrees txMsgs), m.ref = n.ref → m = n

/-- The messages form trees: no two places hold the same `MsgExec` in memory. -/
def Unshared (txMsgs : List (Option (SdkMsg Dec))) : Prop :=
  (((nodesAll (txTrees txMsgs)).filter SdkMsg.isExec).map SdkMsg.ref).Nodup

/-- Induction over a message tree: leaves, and a `MsgExec` from what it holds. -/
theorem SdkMsg.tree_induction {P : SdkMsg Dec → Prop} (hleaf : ∀ msg, msg.isExec = false → P msg)
    (hexec : ∀ ref msgs, (∀ m ∈ msgs, P m) → P (.exec ref msgs)) (msg : SdkMsg Dec) : P msg := by
  refine @SdkMsg.rec Dec P (fun msgs => ∀ m ∈ msgs, P m) ?_ ?_ ?_ ?_ ?_ ?_ msg
  · exact fun ref rate => hleaf _ rfl
  · exact fun ref rate => hleaf _ rfl
  · exact hexec
  · exact fun ref => hleaf _ rfl
  · simp
  · intro m ms hm hms n hn
    rcases List.mem_cons.mp hn with rfl | hn
    · exact hm
    · exact hms n hn

lemma nodes_of_leaf {msg : SdkMsg Dec} (h : msg.isExec = false) : msg.nodes = [msg] := by
  cases msg <;> simp_all [SdkMsg.nodes, SdkMsg.isExec]

lemma nesting_of_leaf {msg : SdkMsg Dec} (h : msg.isExec = false) : msg.nesting = 0 := by
  cases msg <;> simp_all [SdkMsg.nesting, SdkMsg.isExec]

lemma nodesAll_append (ms ns : List (SdkMsg Dec)) : nodesAll (ms ++ ns) = nodesAll ms ++ nodesAll ns := by
  induction ms with
  | nil => simp [nodesAll]
  | cons m ms ih => simp [nodesAll, ih]

lemma mem_nodesAll {msgs : List (SdkMsg Dec)} {n : SdkMsg Dec} : n ∈ nodesAll msgs ↔ ∃ m ∈ msgs, n ∈ m.nodes := by
  induction msgs with
  | nil => simp [nodesAll]
  | cons m ms ih => simp [nodesAll, ih]

lemma mem_nodes_self (msg : SdkMsg Dec) : msg ∈ msg.nodes := by
  cases msg <;> simp [SdkMsg.nodes]

lemma nestingAll_le_iff {msgs : List (SdkMsg Dec)} {k : Nat} : nestingAll msgs ≤ k ↔ ∀ m ∈ msgs, m.nesting ≤ k := by
  induction msgs with
  | nil => simp [nestingAll]
  | cons m ms ih => simp [nestingAll, ih]

lemma nesting_le_nestingAll {msgs : List (SdkMsg Dec)} {m : SdkMsg Dec} (h : m ∈ msgs) : m.nesting ≤ nestingAll msgs :=
  nestingAll_le_iff.mp le_rfl m h

section Commission

variable {M : Math}

lemma value_minCommission : M.value (minCommission M) = some (5 / 100) := by
  rw [minCommission, M.value_legacyNewDecWithPrec 5 (by decide)]
  norm_num

lemma checkCommission_eq_ok {rate : M.LegacyDec} :
    checkCommission M rate = .ok () ↔ AtLeastFivePercent M rate := by
  unfold checkCommission AtLeastFivePercent
  rw [bind_eq_ok]
  cases hrate : M.value rate with
  | none => simp [M.lt_of_empty _ hrate]
  | some x => simp [M.lt_of_values hrate value_minCommission, require_eq_ok]

lemma validateMsg_eq_ok {msg : SdkMsg M.LegacyDec} : validateMsg M msg = .ok () ↔ MeetsMinimum M msg := by
  unfold validateMsg MeetsMinimum
  split
  · exact checkCommission_eq_ok
  · exact checkCommission_eq_ok
  · simp

lemma validateAuthzMsgs_eq_ok {depth : Nat} {msgs : List (SdkMsg M.LegacyDec)} :
    validateAuthzMsgs M depth msgs = .ok () ↔
      ∀ m ∈ msgs, MeetsMinimum M m ∧ validateNested M depth m = .ok () := by
  induction msgs with
  | nil => simp [validateAuthzMsgs]
  | cons m ms ih =>
    rw [validateAuthzMsgs, check_bind_eq_ok, check_bind_eq_ok, validateMsg_eq_ok, ih]
    simp [and_assoc]

lemma exists_of_validateAuthzMsgs_error {depth : Nat} {msgs : List (SdkMsg M.LegacyDec)} {e : Error}
    (h : validateAuthzMsgs M depth msgs = .error e) :
    ∃ m ∈ msgs, validateMsg M m = .error e ∨ validateNested M depth m = .error e := by
  induction msgs with
  | nil => simp [validateAuthzMsgs] at h
  | cons m ms ih =>
    rw [validateAuthzMsgs] at h
    rcases bind_eq_error.mp h with hm | ⟨u, -, h⟩
    · exact ⟨m, List.mem_cons_self, .inl hm⟩
    · rcases bind_eq_error.mp h with hm | ⟨u, -, h⟩
      · exact ⟨m, List.mem_cons_self, .inr hm⟩
      · obtain ⟨n, hn, hstop⟩ := ih h
        exact ⟨n, List.mem_cons_of_mem _ hn, hstop⟩

/-- An inner message passes when its tree sets no low commission and does not nest too deep. -/
def PassesAt (M : Math) (depth : Nat) (msg : SdkMsg M.LegacyDec) : Prop :=
  MeetsMinimum M msg ∧ validateNested M depth msg = .ok () ↔
    (∀ n ∈ msg.nodes, MeetsMinimum M n) ∧ depth + 1 + msg.nesting ≤ maxAuthzValidationDepth

lemma validateAuthzMsgs_of_passesAt {depth : Nat} {msgs : List (SdkMsg M.LegacyDec)}
    (hdepth : depth < maxAuthzValidationDepth) (hmsgs : ∀ m ∈ msgs, PassesAt M depth m) :
    validateAuthzMsgs M depth msgs = .ok () ↔
      (∀ n ∈ nodesAll msgs, MeetsMinimum M n) ∧ depth + 1 + nestingAll msgs ≤ maxAuthzValidationDepth := by
  rw [validateAuthzMsgs_eq_ok]
  constructor
  · intro h
    have hinner := fun m hm => (hmsgs m hm).mp (h m hm)
    constructor
    · intro n hn
      obtain ⟨m, hm, hnm⟩ := mem_nodesAll.mp hn
      exact (hinner m hm).1 n hnm
    · have hall : nestingAll msgs ≤ maxAuthzValidationDepth - (depth + 1) := by
        apply nestingAll_le_iff.mpr
        intro m hm
        have := (hinner m hm).2
        omega
      omega
  · rintro ⟨hnodes, hnest⟩ m hm
    apply (hmsgs m hm).mpr
    constructor
    · intro n hn
      exact hnodes n (mem_nodesAll.mpr ⟨m, hm, hn⟩)
    · have := nesting_le_nestingAll hm
      omega

lemma passesAt (msg : SdkMsg M.LegacyDec) {depth : Nat} (hdepth : depth < maxAuthzValidationDepth) :
    PassesAt M depth msg := by
  induction msg using SdkMsg.tree_induction generalizing depth with
  | hleaf msg hleaf =>
    have hnested : validateNested M depth msg = .ok () := by
      cases msg <;> simp_all [validateNested, SdkMsg.isExec]
    have hnest : depth + 1 + msg.nesting ≤ maxAuthzValidationDepth := by
      rw [nesting_of_leaf hleaf]
      omega
    simp [PassesAt, hnested, hnest, nodes_of_leaf hleaf]
  | hexec ref msgs ih =>
    unfold PassesAt
    simp only [validateNested, SdkMsg.nodes, SdkMsg.nesting, List.mem_cons, forall_eq_or_imp,
      MeetsMinimum, true_and]
    split
    · next hdeep =>
      simp only [reduceCtorEq, false_iff, not_and]
      omega
    · next hdeep =>
      have hlt : depth + 1 < maxAuthzValidationDepth := by omega
      rw [validateAuthzMsgs_of_passesAt hlt fun m hm => ih m hm hlt]
      refine and_congr_right fun _ => ?_
      omega

lemma validateTxMsg_eq_ok {msg : SdkMsg M.LegacyDec} : validateTxMsg M (some msg) = .ok () ↔
    (∀ n ∈ msg.nodes, MeetsMinimum M n) ∧ msg.nesting ≤ maxAuthzValidationDepth := by
  cases msg with
  | exec ref msgs =>
    have hzero : 0 < maxAuthzValidationDepth := by decide
    rw [validateTxMsg, validateAuthz, validateAuthzDepth, if_neg (by omega),
      validateAuthzMsgs_of_passesAt hzero fun m _ => passesAt m hzero]
    simp only [SdkMsg.nodes, SdkMsg.nesting, List.mem_cons, forall_eq_or_imp, MeetsMinimum, true_and, Nat.zero_add]
  | createValidator ref rate => simp [validateTxMsg, validateMsg_eq_ok, SdkMsg.nodes, SdkMsg.nesting]
  | editValidator ref rate => simp [validateTxMsg, validateMsg_eq_ok, SdkMsg.nodes, SdkMsg.nesting]
  | other ref => simp [validateTxMsg, validateMsg_eq_ok, SdkMsg.nodes, SdkMsg.nesting]

/-- The decorator accepts exactly the transactions whose messages, at any depth, set no low commission and
whose nesting is within the limit. -/
theorem commissionAnteHandle_eq_ok {txMsgs : List (Option (SdkMsg M.LegacyDec))} :
    commissionAnteHandle M txMsgs = .ok () ↔
      (∀ n ∈ nodesAll (txTrees txMsgs), MeetsMinimum M n) ∧
        nestingAll (txTrees txMsgs) ≤ maxAuthzValidationDepth := by
  rw [commissionAnteHandle, forEach_check_eq_ok, nestingAll_le_iff]
  constructor
  · intro h
    have hmsg : ∀ m ∈ txTrees txMsgs, validateTxMsg M (some m) = .ok () := by
      intro m hm
      exact h _ (by simpa [txTrees] using hm)
    constructor
    · intro n hn
      obtain ⟨m, hm, hnm⟩ := mem_nodesAll.mp hn
      exact (validateTxMsg_eq_ok.mp (hmsg m hm)).1 n hnm
    · intro m hm
      exact (validateTxMsg_eq_ok.mp (hmsg m hm)).2
  · rintro ⟨hnodes, hnest⟩ msg hmsg
    cases msg with
    | none => rfl
    | some m =>
      have hm : m ∈ txTrees txMsgs := by simpa [txTrees] using hmsg
      exact validateTxMsg_eq_ok.mpr ⟨fun n hn => hnodes n (mem_nodesAll.mpr ⟨m, hm, hn⟩), hnest m hm⟩

lemma validateMsg_ne (msg : SdkMsg M.LegacyDec) : validateMsg M msg ≠ .error validationDepthExceeded := by
  have hcheck : ∀ rate, checkCommission M rate ≠ .error validationDepthExceeded := by
    intro rate h
    unfold checkCommission at h
    rcases bind_eq_error.mp h with hlt | ⟨low, -, hlow⟩
    · cases hrate : M.value rate with
      | none => simp [M.lt_of_empty _ hrate, nilDereference, external, validationDepthExceeded, wrapf] at hlt
      | some x =>
        rw [M.lt_of_values hrate value_minCommission] at hlt
        cases hlt
    · cases low <;> simp [require, validationDepthExceeded, wrapf] at hlow
  unfold validateMsg
  split
  · exact hcheck _
  · exact hcheck _
  · simp

/-- A nesting error of an inner message means that its tree reaches below the limit. -/
lemma nesting_of_validateNested_error (msg : SdkMsg M.LegacyDec) {depth : Nat}
    (h : validateNested M depth msg = .error validationDepthExceeded) :
    maxAuthzValidationDepth < depth + 1 + msg.nesting := by
  induction msg using SdkMsg.tree_induction generalizing depth with
  | hleaf msg hleaf => cases msg <;> simp_all [validateNested, SdkMsg.isExec]
  | hexec ref msgs ih =>
    rw [SdkMsg.nesting]
    rw [validateNested] at h
    split at h
    · next hdeep => omega
    · next hdeep =>
      obtain ⟨m, hm, hstop⟩ := exists_of_validateAuthzMsgs_error h
      have := ih m hm (hstop.resolve_left (validateMsg_ne m))
      have := nesting_le_nestingAll hm
      omega

theorem nesting_of_commissionAnteHandle_error {txMsgs : List (Option (SdkMsg M.LegacyDec))}
    (h : commissionAnteHandle M txMsgs = .error validationDepthExceeded) :
    maxAuthzValidationDepth < nestingAll (txTrees txMsgs) := by
  obtain ⟨-, msg, hmsg, hstop⟩ := exists_of_forEach_eq_error h
  cases msg with
  | none => simp [validateTxMsg] at hstop
  | some m =>
    have hm : m ∈ txTrees txMsgs := by simpa [txTrees] using hmsg
    have hle := nesting_le_nestingAll hm
    cases m with
    | exec ref msgs =>
      rw [validateTxMsg, validateAuthz, validateAuthzDepth, if_neg (by decide)] at hstop
      obtain ⟨n, hn, hinner⟩ := exists_of_validateAuthzMsgs_error hstop
      have hdeep := nesting_of_validateNested_error n (hinner.resolve_left (validateMsg_ne n))
      have := nesting_le_nestingAll hn
      rw [SdkMsg.nesting] at hle
      omega
    | createValidator ref rate =>
      rw [validateTxMsg] at hstop
      · exact absurd hstop (validateMsg_ne _)
      · simp
    | editValidator ref rate =>
      rw [validateTxMsg] at hstop
      · exact absurd hstop (validateMsg_ne _)
      · simp
    | other ref =>
      rw [validateTxMsg] at hstop
      · exact absurd hstop (validateMsg_ne _)
      · simp

end Commission

end Uptick.Ante
