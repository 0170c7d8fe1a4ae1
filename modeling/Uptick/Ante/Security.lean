import Uptick.Ante.Extract

/-!
# The message security decorator

`MessageSecurityDecorator` (`app/ante/message_security.go`) flattens a transaction and checks every message: the size
of what is sent to wasm contracts and the gas limit of Ethereum transactions. It is the first decorator of the chain,
the commission decorator is the second (`cosmosAnteDecorators` of `app/ante/handler_options.go`).
-/

namespace Uptick.Ante

open Text Outcome

variable {Dec : Type}

/-- The messages that the decorator knows, with what it reads of them: the answer of `ValidateBasic`, the payload, and
the gas limit of the Ethereum transaction, if there is one. -/
inductive Body
  | executeContract (validateBasic : Except Error Unit) (msg : GoString)
  | instantiateContract (validateBasic : Except Error Unit) (msg : GoString)
  | instantiateContract2 (validateBasic : Except Error Unit) (msg : GoString)
  | storeCode (validateBasic : Except Error Unit)
  | ethereumTx (gas : Option Nat)
  | unknown

def evmMsgTypeURL : GoString := str "/cosmos.evm.vm.v1.MsgEthereumTx"

/-- The check of a wasm message with a payload. The two texts are what the message is called in errors. -/
def validateWasmPayload (invalid tooLarge : String) (validateBasic : Except Error Unit) (msg : GoString) :
    Except Error Unit := do
  mapError (·.wrapf invalid []) validateBasic
  require (msg.length ≤ 1024 * 1024) (wrapf .invalidRequest tooLarge [.d msg.length])

def validateWasmExecuteContract : Except Error Unit → GoString → Except Error Unit :=
  validateWasmPayload "invalid wasm execute contract message" "wasm execute contract message too large: %d bytes"

def validateWasmInstantiateContract : Except Error Unit → GoString → Except Error Unit :=
  validateWasmPayload "invalid wasm instantiate contract message"
    "wasm instantiate contract message too large: %d bytes"

def validateWasmInstantiateContract2 : Except Error Unit → GoString → Except Error Unit :=
  validateWasmPayload "invalid wasm instantiate contract2 message"
    "wasm instantiate contract2 message too large: %d bytes"

section Decorator

variable (maxTxGasWanted : Nat) (memory : Ref → Body)

def validateEvmGasLimit : Option Nat → Except Error Unit
  | none => .error (wrapf .invalidRequest "invalid ethereum transaction" [])
  | some gasLimit =>
    if 0 < maxTxGasWanted ∧ maxTxGasWanted < gasLimit then
      .error (wrapf (.external (str "out of gas")) "gas limit %d exceeds maximum allowed %d"
        [.d gasLimit, .d maxTxGasWanted])
    else if gasLimit = 0 then .error (wrapf .invalidRequest "gas limit cannot be zero" [])
    else .ok ()

def checkEvmMessage (ref : Ref) (body : Body) : Except Error Unit :=
  if ref.typeURL = evmMsgTypeURL then
    match body with
    | .ethereumTx gas => validateEvmGasLimit maxTxGasWanted gas
    | _ => .ok ()
  else .ok ()

/-- `validateMessage`. The messages of staking and authz are none that it knows. -/
def validateMessage : SdkMsg Dec → Except Error Unit
  | .other ref =>
    match memory ref with
    | .executeContract validateBasic msg => validateWasmExecuteContract validateBasic msg
    | .instantiateContract validateBasic msg => validateWasmInstantiateContract validateBasic msg
    | .instantiateContract2 validateBasic msg => validateWasmInstantiateContract2 validateBasic msg
    | .storeCode validateBasic => mapError (·.wrapf "invalid wasm store code message" []) validateBasic
    | body => checkEvmMessage maxTxGasWanted ref body
  | msg => checkEvmMessage maxTxGasWanted msg.ref .unknown

/-- `MessageSecurityDecorator.AnteHandle` up to the call of the next handler. -/
def securityAnteHandle (txMsgs : List (Option (SdkMsg Dec))) : Except Error Unit := do
  let msgs ← extractMessagesFromTx txMsgs
  forEach (fun _ msg => validateMessage maxTxGasWanted memory msg) () msgs

/-- What a message of a transaction has to be. -/
def Passes : SdkMsg Dec → Prop
  | .other ref =>
    match memory ref with
    | .executeContract validateBasic msg => validateBasic = .ok () ∧ msg.length ≤ 1024 * 1024
    | .instantiateContract validateBasic msg => validateBasic = .ok () ∧ msg.length ≤ 1024 * 1024
    | .instantiateContract2 validateBasic msg => validateBasic = .ok () ∧ msg.length ≤ 1024 * 1024
    | .storeCode validateBasic => validateBasic = .ok ()
    | .ethereumTx gas => ref.typeURL = evmMsgTypeURL →
        ∃ gasLimit, gas = some gasLimit ∧ 0 < gasLimit ∧ (0 < maxTxGasWanted → gasLimit ≤ maxTxGasWanted)
    | .unknown => True
  | _ => True

end Decorator

section Checks

variable {maxTxGasWanted : Nat} {memory : Ref → Body}

lemma validateWasmPayload_eq_ok {invalid tooLarge : String} {validateBasic : Except Error Unit} {msg : GoString} :
    validateWasmPayload invalid tooLarge validateBasic msg = .ok () ↔
      validateBasic = .ok () ∧ msg.length ≤ 1024 * 1024 := by
  rw [validateWasmPayload, check_bind_eq_ok, mapError_eq_ok, require_eq_ok]

lemma validateEvmGasLimit_eq_ok {gas : Option Nat} : validateEvmGasLimit maxTxGasWanted gas = .ok () ↔
    ∃ gasLimit, gas = some gasLimit ∧ 0 < gasLimit ∧ (0 < maxTxGasWanted → gasLimit ≤ maxTxGasWanted) := by
  cases gas with
  | none => simp [validateEvmGasLimit]
  | some gasLimit =>
    simp only [validateEvmGasLimit, Option.some.injEq, exists_eq_left']
    split_ifs with hmax hzero
    · simp only [false_iff]
      omega
    · simp [hzero]
    · simp only [true_iff]
      omega

lemma validateMessage_eq_ok {msg : SdkMsg Dec} :
    validateMessage maxTxGasWanted memory msg = .ok () ↔ Passes maxTxGasWanted memory msg := by
  cases msg with
  | other ref =>
    rw [validateMessage, Passes]
    cases memory ref with
    | executeContract validateBasic msg => exact validateWasmPayload_eq_ok
    | instantiateContract validateBasic msg => exact validateWasmPayload_eq_ok
    | instantiateContract2 validateBasic msg => exact validateWasmPayload_eq_ok
    | storeCode validateBasic => exact mapError_eq_ok
    | ethereumTx gas =>
      by_cases htype : ref.typeURL = evmMsgTypeURL
      · simp [checkEvmMessage, htype, validateEvmGasLimit_eq_ok]
      · simp [checkEvmMessage, htype]
    | unknown => simp [checkEvmMessage]
  | _ => simp [validateMessage, checkEvmMessage, Passes]

end Checks

section Loop

variable {queue : List (Option (SdkMsg Dec) × Nat)} {processed : List GoString} {allMsgs : List (SdkMsg Dec)}

/-- How many messages a list has, a message that is there twice counted once. -/
def distinct (msgs : List (SdkMsg Dec)) : Nat := (msgs.map SdkMsg.ref).toFinset.card

lemma distinct_mono {ms ns : List (SdkMsg Dec)} (h : ∀ m ∈ ms, m ∈ ns) : distinct ms ≤ distinct ns := by
  apply Finset.card_le_card
  intro ref href
  rw [List.mem_toFinset, List.mem_map] at href ⊢
  obtain ⟨m, hm, rfl⟩ := href
  exact ⟨m, h m hm, rfl⟩

/-- The messages collected: known ones, each once, with their keys met. -/
structure Collected (U allMsgs : List (SdkMsg Dec)) (processed : List GoString) : Prop where
  known : ∀ m ∈ allMsgs, m ∈ U
  once : (allMsgs.map SdkMsg.ref).Nodup
  met : ∀ m ∈ allMsgs, msgDedupKey m ∈ processed

lemma Collected.snoc {U : List (SdkMsg Dec)} {msg : SdkMsg Dec} (h : Collected U allMsgs processed) (hmsg : msg ∈ U)
    (hnew : msgDedupKey msg ∉ processed) : Collected U (allMsgs ++ [msg]) (msgDedupKey msg :: processed) where
  known := forall_mem_snoc h.known hmsg
  once := by
    rw [List.map_append, List.nodup_append]
    refine ⟨h.once, by simp, fun ref hm ref' hm' => ?_⟩
    obtain ⟨m, hmem, rfl⟩ := List.mem_map.mp hm
    simp only [List.map_cons, List.map_nil, List.mem_singleton] at hm'
    rintro rfl
    have hkey : msgDedupKey m = msgDedupKey msg := by rw [msgDedupKey, msgDedupKey, hm']
    exact hnew (hkey ▸ h.met m hmem)
  met := forall_mem_snoc (fun m hm => List.mem_cons_of_mem _ (h.met m hm)) List.mem_cons_self

lemma Collected.length_le {U : List (SdkMsg Dec)} (h : Collected U allMsgs processed) :
    allMsgs.length ≤ distinct U := by
  rw [← List.length_map SdkMsg.ref, ← List.toFinset_card_of_nodup h.once]
  exact distinct_mono h.known

/-- How the loop ends: with a list within the limit, at its nesting check, or because there are too many messages. -/
lemma extractLoop_outcome {U : List (SdkMsg Dec)} (hU : Universe U) (hqueue : ∀ m ∈ queueTrees queue, m ∈ U)
    (hall : Collected U allMsgs processed) (hlen : allMsgs.length ≤ maxExtractedMessages) :
    (∃ R, extractLoop queue processed allMsgs = .ok R ∧ R.length ≤ maxExtractedMessages ∧ ∀ m ∈ R, m ∈ U) ∨
      extractLoop queue processed allMsgs = .error nestingDepthExceeded ∨
      (∃ e, extractLoop queue processed allMsgs = .error e) ∧ maxExtractedMessages < distinct U := by
  fun_induction extractLoop queue processed allMsgs with
  | case1 processed allMsgs => exact .inl ⟨allMsgs, rfl, hlen, hall.known⟩
  | case2 processed allMsgs depth queue ih => exact ih hqueue hall hlen
  | case3 processed allMsgs msg depth queue hseen ih =>
    rw [queueTrees_some, List.forall_mem_cons] at hqueue
    exact ih hqueue.2 hall hlen
  | case4 processed allMsgs msg depth queue hseen hcount =>
    rw [queueTrees_some, List.forall_mem_cons] at hqueue
    have := (hall.snoc hqueue.1 hseen).length_le
    rw [List.length_append, List.length_singleton] at this
    exact .inr (.inr ⟨⟨_, rfl⟩, by omega⟩)
  | case5 processed allMsgs depth queue hcount ref msgs hdeep hseen => exact .inr (.inl rfl)
  | case6 processed allMsgs depth queue hcount ref msgs hdeep hseen ih =>
    rw [queueTrees_some, List.forall_mem_cons] at hqueue
    refine ih ?_ (hall.snoc hqueue.1 hseen) (by simp; omega)
    rw [queueTrees_nestedItems, List.forall_mem_append]
    exact ⟨hqueue.2, hU.closed _ hqueue.1⟩
  | case7 processed allMsgs msg depth queue hseen hcount hleaf ih =>
    rw [queueTrees_some, List.forall_mem_cons] at hqueue
    exact ih hqueue.2 (hall.snoc hqueue.1 hseen) (by simp; omega)

end Loop

section Transaction

variable {maxTxGasWanted : Nat} {memory : Ref → Body} {M : Math}
  {txMsgs : List (Option (SdkMsg M.LegacyDec))}

/-- The extraction returns exactly the messages of the transaction, or they are too many or nested too deep. -/
lemma extractMessagesFromTx_cases (hone : OnePerPointer txMsgs) (hunshared : Unshared txMsgs) :
    (∃ R, extractMessagesFromTx txMsgs = .ok R ∧ (∀ m, m ∈ R ↔ m ∈ nodesAll (txTrees txMsgs)) ∧
      distinct (nodesAll (txTrees txMsgs)) ≤ maxExtractedMessages ∧
        nestingAll (txTrees txMsgs) ≤ maxAuthzNestingDepth) ∨
    (∃ e, extractMessagesFromTx txMsgs = .error e) ∧
      ¬ (distinct (nodesAll (txTrees txMsgs)) ≤ maxExtractedMessages ∧
        nestingAll (txTrees txMsgs) ≤ maxAuthzNestingDepth) := by
  have hqueue : ∀ m ∈ queueTrees (txMsgs.map fun m => (m, 0)), m ∈ nodesAll (txTrees txMsgs) := by
    intro m hm
    rw [queueTrees_tx] at hm
    exact mem_nodesAll.mpr ⟨m, hm, mem_nodes_self m⟩
  have hnone : Collected (nodesAll (txTrees txMsgs)) [] [] := ⟨by simp, by simp, by simp⟩
  rcases extractLoop_outcome (universe_of_onePerPointer hone) hqueue hnone (Nat.zero_le _) with
    ⟨R, hR, hlen, hknown⟩ | herr | ⟨herr, hmany⟩
  · have hall := mem_of_extractMessagesFromTx hone hR
    refine .inl ⟨R, hR, fun m => ⟨hknown m, hall m⟩, ?_, ?_⟩
    · calc distinct (nodesAll (txTrees txMsgs)) ≤ distinct R := distinct_mono hall
        _ ≤ (R.map SdkMsg.ref).length := List.toFinset_card_le _
        _ ≤ maxExtractedMessages := by rwa [List.length_map]
    · by_contra hdeep
      obtain ⟨e, herr⟩ := exists_error_of_extractMessagesFromTx hone hunshared (by omega)
      cases hR.symm.trans herr
  · exact .inr ⟨⟨_, herr⟩, fun h => extractMessagesFromTx_ne_nesting h.2 herr⟩
  · exact .inr ⟨herr, fun h => by omega⟩

/-- The first two decorators accept a transaction of message trees exactly when it has at most 32 messages, nests
`MsgExec` at most five deep, and every message at every depth passes the checks of both. -/
theorem decorators_accept_iff (hone : OnePerPointer txMsgs) (hunshared : Unshared txMsgs) :
    securityAnteHandle maxTxGasWanted memory txMsgs = .ok () ∧ commissionAnteHandle M txMsgs = .ok () ↔
      distinct (nodesAll (txTrees txMsgs)) ≤ maxExtractedMessages ∧
        nestingAll (txTrees txMsgs) ≤ maxAuthzNestingDepth ∧
        ∀ m ∈ nodesAll (txTrees txMsgs), Passes maxTxGasWanted memory m ∧ MeetsMinimum M m := by
  have hlimit : maxAuthzValidationDepth = maxAuthzNestingDepth := rfl
  rw [commissionAnteHandle_eq_ok, hlimit, securityAnteHandle]
  rcases extractMessagesFromTx_cases hone hunshared with ⟨R, hR, hmem, hcount, hnest⟩ | ⟨⟨e, herr⟩, hnot⟩
  · rw [hR, ok_bind, forEach_check_eq_ok]
    simp only [validateMessage_eq_ok, hmem]
    constructor
    · rintro ⟨hpasses, hrates, -⟩
      exact ⟨hcount, hnest, fun m hm => ⟨hpasses m hm, hrates m hm⟩⟩
    · rintro ⟨-, -, hall⟩
      exact ⟨fun m hm => (hall m hm).1, fun m hm => (hall m hm).2, hnest⟩
  · rw [herr]
    constructor
    · rintro ⟨h, -⟩
      cases h
    · rintro ⟨hcount, hnest, -⟩
      exact absurd ⟨hcount, hnest⟩ hnot

end Transaction

/-- An Ethereum transaction beside the messages of a grantee. -/
def mixedTx : List (Option (SdkMsg sampleMath.LegacyDec)) := some (.other ⟨evmMsgTypeURL, 64⟩) :: grantedTx

theorem decorators_accept_iff_mixed :
    securityAnteHandle 30000000 (fun _ => .ethereumTx (some 21000)) mixedTx = .ok () ∧
      commissionAnteHandle sampleMath mixedTx = .ok () := by
  have hone : OnePerPointer mixedTx := by
    simp [OnePerPointer, mixedTx, grantedTx, txTrees, nodesAll, SdkMsg.nodes, SdkMsg.ref]
  have hunshared : Unshared mixedTx := by
    unfold Unshared
    decide
  refine (decorators_accept_iff hone hunshared).mpr ⟨by decide, by decide, ?_⟩
  simp [mixedTx, grantedTx, txTrees, nodesAll, SdkMsg.nodes, Passes, MeetsMinimum, AtLeastFivePercent,
    value_minCommission]

end Uptick.Ante
