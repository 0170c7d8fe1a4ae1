import Uptick.Evm.Contract
import Uptick.Lib.Reentry

/-!
# The contract ERC721Uptick

`contracts/ERC721Uptick.sol`. The contract keeps the metadata of each token next to the ERC721 state of
OpenZeppelin, writes it before a mint and clears it behind a burn. A safe mint and a safe transfer call
the receiver's `onERC721Received`, which may call the contract again. OpenZeppelin is not part of this
repository: its contracts are a parameter, with what their documentation says of them as a hypothesis.
-/

namespace Uptick.ERC721Uptick

open Text Outcome Reentry Evm

/-- The reason a call reverts with. -/
abbrev Revert := String

/-- The state of the base contracts inside a larger state. -/
structure Inside (State S : Type) where
  base : S → State
  withBase : S → State → S

/-- What the contract is built on: the hash of the EVM and the base contracts `ERC721`, `ERC721Enumerable`,
`ERC721Burnable`, `ERC721Pausable` and `AccessControlEnumerable`. The functions of the public interface take
the caller first; those that start with an underscore are internal and check no caller. Three functions leave
the base contracts, to call the receiver or an override, and work on the whole state of the call. -/
structure OpenZeppelin where
  State : Type
  keccak256 : GoString → GoString
  constructed : GoString → GoString → State
  _exists : State → Nat → Bool
  hasRole : State → GoString → Address → Bool
  paused : State → Bool
  _mint : State → Address → Nat → Except Revert State
  _burn : State → Nat → Except Revert State
  _grantRole : State → GoString → Address → State
  _pause : State → Address → Except Revert State
  _unpause : State → Address → Except Revert State
  transferFrom : State → Address → Address → Address → Nat → Except Revert State
  approve : State → Address → Address → Nat → Except Revert State
  setApprovalForAll : State → Address → Address → Bool → Except Revert State
  grantRole : State → Address → GoString → Address → Except Revert State
  revokeRole : State → Address → GoString → Address → Except Revert State
  renounceRole : State → Address → GoString → Address → Except Revert State
  _safeMint : {S : Type} → Inside State S → (S → Except Revert S) → S → Address → Nat → Except Revert S
  safeTransferFrom : {S : Type} → Inside State S → (S → Except Revert S) → S → Address → Address → Address → Nat →
    Except Revert S
  burn : {S : Type} → Inside State S → (S → Nat → Except Revert S) → S → Address → Nat → Except Revert S

/-- The documented effects on which tokens exist: a mint makes a token that did not exist, a burn destroys
one, and nothing else does either. The safe functions call a receiver that is a contract behind the mint or the
transfer, and `burn` destroys the token with `_burn`. -/
structure OpenZeppelin.Documented (Z : OpenZeppelin) : Prop where
  constructed : ∀ name symbol id, Z._exists (Z.constructed name symbol) id = false
  _mint : ∀ {s t dst id}, Z._mint s dst id = .ok t →
    Z._exists s id = false ∧ ∀ k, Z._exists t k = if k = id then true else Z._exists s k
  _burn : ∀ {s t id}, Z._burn s id = .ok t → ∀ k, Z._exists t k = if k = id then false else Z._exists s k
  _grantRole : ∀ s role account, Z._exists (Z._grantRole s role account) = Z._exists s
  _pause : ∀ {s t caller}, Z._pause s caller = .ok t → Z._exists t = Z._exists s
  _unpause : ∀ {s t caller}, Z._unpause s caller = .ok t → Z._exists t = Z._exists s
  transferFrom : ∀ {s t caller src dst id}, Z.transferFrom s caller src dst id = .ok t → Z._exists t = Z._exists s
  approve : ∀ {s t caller dst id}, Z.approve s caller dst id = .ok t → Z._exists t = Z._exists s
  setApprovalForAll : ∀ {s t caller operator approved}, Z.setApprovalForAll s caller operator approved = .ok t →
    Z._exists t = Z._exists s
  grantRole : ∀ {s t caller role account}, Z.grantRole s caller role account = .ok t → Z._exists t = Z._exists s
  revokeRole : ∀ {s t caller role account}, Z.revokeRole s caller role account = .ok t → Z._exists t = Z._exists s
  renounceRole : ∀ {s t caller role account}, Z.renounceRole s caller role account = .ok t →
    Z._exists t = Z._exists s
  _safeMint : ∀ {S : Type} {part : Inside Z.State S} {received s t dst id},
    Z._safeMint part received s dst id = .ok t → ∃ base, Z._mint (part.base s) dst id = .ok base ∧
      (t = part.withBase s base ∨ received (part.withBase s base) = .ok t)
  safeTransferFrom : ∀ {S : Type} {part : Inside Z.State S} {received s t caller src dst id},
    Z.safeTransferFrom part received s caller src dst id = .ok t →
      ∃ base, Z.transferFrom (part.base s) caller src dst id = .ok base ∧
        (t = part.withBase s base ∨ received (part.withBase s base) = .ok t)
  burn : ∀ {S : Type} {part : Inside Z.State S} {_burn s t caller id},
    Z.burn part _burn s caller id = .ok t → _burn s id = .ok t

/-- The external functions that change the state. -/
inductive Call
  | mint (dst : Address) (id : Nat) (uri : GoString)
  | mintEnhance (dst : Address) (id : Nat) (info : NFTEnhance)
  | mintBatch (dst : Address) (ids : List Nat)
  | mintEnhanceBatch (dst : Address) (ids : List Nat) (info : NFTEnhance)
  | burn (id : Nat)
  | burnEnhance (id : Nat)
  | pause
  | unpause
  | transferFrom (src dst : Address) (id : Nat)
  | safeTransferFrom (src dst : Address) (id : Nat)
  | approve (dst : Address) (id : Nat)
  | setApprovalForAll (operator : Address) (approved : Bool)
  | grantRole (role : GoString) (account : Address)
  | revokeRole (role : GoString) (account : Address)
  | renounceRole (role : GoString) (account : Address)

/-- No metadata, as a mapping holds it for an id that was never written or was deleted. -/
def noInfo : NFTEnhance := ⟨[], [], [], []⟩

def maxBatchSize : Nat := 100

section Storage

variable (Z : OpenZeppelin)

/-- The storage: the base contracts and `_idEnhanceInfoMap`. -/
structure Contract where
  base : Z.State
  idEnhanceInfoMap : Nat → NFTEnhance

/-- A call in progress: the contract, and what the receivers will do that the rest of the call hands a token
to, in order. A receiver without code has nothing to do. -/
structure Running where
  contract : Contract Z
  hooks : List (Contract Z → Except Revert (Contract Z))

def minterRole : GoString := Z.keccak256 (str "MINTER_ROLE")

def pauserRole : GoString := Z.keccak256 (str "PAUSER_ROLE")

def defaultAdminRole : GoString := List.replicate 32 0

def deployed (args : CtorArgs) (sender : Address) : Contract Z :=
  let base := Z.constructed args.name args.symbol
  let base := Z._grantRole base defaultAdminRole sender
  let base := Z._grantRole base (minterRole Z) sender
  let base := Z._grantRole base (pauserRole Z) sender
  ⟨base, fun _ => noInfo⟩

end Storage

variable {Z : OpenZeppelin}

def Contract.withBase (c : Contract Z) (base : Z.State) : Contract Z := ⟨base, c.idEnhanceInfoMap⟩

def Contract.setInfo (c : Contract Z) (id : Nat) (info : NFTEnhance) : Contract Z :=
  ⟨c.base, Function.update c.idEnhanceInfoMap id info⟩

def Running.part : Inside Z.State (Running Z) where
  base := fun s => s.contract.base
  withBase := fun s base => ⟨s.contract.withBase base, s.hooks⟩

/-- The call of the next receiver. -/
def onERC721Received (s : Running Z) : Except Revert (Running Z) :=
  match s.hooks with
  | [] => .ok s
  | hook :: hooks => do
    let contract ← hook s.contract
    pure ⟨contract, hooks⟩

def _safeMint (s : Running Z) (dst : Address) (id : Nat) : Except Revert (Running Z) :=
  Z._safeMint Running.part onERC721Received s dst id

/-- The checks at the head of every minting function. -/
def checkMinter (c : Contract Z) (sender : Address) : Except Revert Unit := do
  require (Z.hasRole c.base (minterRole Z) sender = true)
    "ERC721PresetMinterPauserAutoId: must have minter role to mint"
  require (Z.paused c.base = false) "ERC721Pausable: token transfer while paused"

def checkURI (uri : GoString) : Except Revert Unit := require (uri.length ≤ 256) "ERC721Uptick: uri too long"

def mint (s : Running Z) (sender dst : Address) (id : Nat) (uri : GoString) : Except Revert (Running Z) := do
  checkMinter s.contract sender
  checkURI uri
  -- the metadata is written before the receiver is called
  let info := { s.contract.idEnhanceInfoMap id with uri := uri }
  _safeMint ⟨s.contract.setInfo id info, s.hooks⟩ dst id

def mintEnhance (s : Running Z) (sender dst : Address) (id : Nat) (info : NFTEnhance) :
    Except Revert (Running Z) := do
  checkMinter s.contract sender
  checkURI info.uri
  _safeMint ⟨s.contract.setInfo id info, s.hooks⟩ dst id

def checkBatchSize (ids : List Nat) : Except Revert Unit := do
  require (ids.length ≤ maxBatchSize) "ERC721Uptick: batch too large"
  require (0 < ids.length) "ERC721Uptick: batch cannot be empty"

/-- The loop of the batch mints; `prepare` is what is done to the contract before each mint. -/
def mintLoop (prepare : Contract Z → Nat → Contract Z) (dst : Address) :
    Running Z → List Nat → Except Revert (Running Z)
  | s, [] => .ok s
  | s, id :: rest => do
    require (id ∉ rest) "ERC721Uptick: duplicate token id in batch"
    let s ← _safeMint ⟨prepare s.contract id, s.hooks⟩ dst id
    mintLoop prepare dst s rest

def mintBatch (s : Running Z) (sender dst : Address) (ids : List Nat) : Except Revert (Running Z) := do
  checkMinter s.contract sender
  checkBatchSize ids
  mintLoop (fun c _ => c) dst s ids

/-- The URI of a batch has no bound. -/
def mintEnhanceBatch (s : Running Z) (sender dst : Address) (ids : List Nat) (info : NFTEnhance) :
    Except Revert (Running Z) := do
  checkMinter s.contract sender
  checkBatchSize ids
  mintLoop (fun c id => c.setInfo id info) dst s ids

/-- The override: what the project keeps of a token goes with the token. -/
def _burn (s : Running Z) (id : Nat) : Except Revert (Running Z) := do
  let base ← Z._burn s.contract.base id
  pure ⟨(s.contract.withBase base).setInfo id noInfo, s.hooks⟩

/-- `ERC721Burnable.burn`, which calls the override. -/
def burn (s : Running Z) (sender : Address) (id : Nat) : Except Revert (Running Z) :=
  Z.burn Running.part _burn s sender id

def burnEnhance (s : Running Z) (sender : Address) (id : Nat) : Except Revert (Running Z) := burn s sender id

/-- A call that touches the base contracts only. -/
def onBase (s : Running Z) (f : Z.State → Except Revert Z.State) : Except Revert (Running Z) := do
  let base ← f s.contract.base
  pure ⟨s.contract.withBase base, s.hooks⟩

def pause (s : Running Z) (sender : Address) : Except Revert (Running Z) := do
  require (Z.hasRole s.contract.base (pauserRole Z) sender = true)
    "ERC721PresetMinterPauserAutoId: must have pauser role to pause"
  onBase s fun base => Z._pause base sender

def unpause (s : Running Z) (sender : Address) : Except Revert (Running Z) := do
  require (Z.hasRole s.contract.base (pauserRole Z) sender = true)
    "ERC721PresetMinterPauserAutoId: must have pauser role to unpause"
  onBase s fun base => Z._unpause base sender

def safeTransferFrom (s : Running Z) (sender src dst : Address) (id : Nat) : Except Revert (Running Z) :=
  Z.safeTransferFrom Running.part onERC721Received s sender src dst id

def Call.run (s : Running Z) (sender : Address) : Call → Except Revert (Running Z)
  | .mint dst id uri => ERC721Uptick.mint s sender dst id uri
  | .mintEnhance dst id info => ERC721Uptick.mintEnhance s sender dst id info
  | .mintBatch dst ids => ERC721Uptick.mintBatch s sender dst ids
  | .mintEnhanceBatch dst ids info => ERC721Uptick.mintEnhanceBatch s sender dst ids info
  | .burn id => ERC721Uptick.burn s sender id
  | .burnEnhance id => ERC721Uptick.burnEnhance s sender id
  | .pause => ERC721Uptick.pause s sender
  | .unpause => ERC721Uptick.unpause s sender
  | .transferFrom src dst id => onBase s fun base => Z.transferFrom base sender src dst id
  | .safeTransferFrom src dst id => ERC721Uptick.safeTransferFrom s sender src dst id
  | .approve dst id => onBase s fun base => Z.approve base sender dst id
  | .setApprovalForAll operator approved => onBase s fun base => Z.setApprovalForAll base sender operator approved
  | .grantRole role account => onBase s fun base => Z.grantRole base sender role account
  | .revokeRole role account => onBase s fun base => Z.revokeRole base sender role account
  | .renounceRole role account => onBase s fun base => Z.renounceRole base sender role account

/-- One call from outside, or from a receiver: the sender, the function, and the receivers it will call. -/
def execute (fn : Address × Call) (hooks : List (Contract Z → Except Revert (Contract Z)))
    (c : Contract Z) : Except Revert (Contract Z) := do
  let s ← fn.2.run ⟨c, hooks⟩ fn.1
  pure s.contract

def runCalls (c : Contract Z) (actions : List (Action (Address × Call))) : Contract Z :=
  runAll execute "ERC721: transfer to non ERC721Receiver implementer" c actions

/-! ### A ledger of tokens -/

/-- Owners, roles and the pause flag; only owners may move or burn a token. -/
structure Ledger where
  owner : Nat → Option Address
  roles : List (GoString × Address)
  paused : Bool

/-- The change is made when the condition holds. -/
def ledgerStep (p : Prop) [Decidable p] (t : Ledger) : Except Revert Ledger :=
  if p then .ok t else .error "reverted"

lemma ledgerStep_eq_ok {p : Prop} [Decidable p] {s t : Ledger} : ledgerStep p s = .ok t ↔ p ∧ s = t := by
  unfold ledgerStep
  split <;> simp_all

def mintIn (s : Ledger) (dst : Address) (id : Nat) : Except Revert Ledger :=
  ledgerStep (s.paused = false ∧ s.owner id = none) { s with owner := Function.update s.owner id (some dst) }

def moveIn (s : Ledger) (sender src dst : Address) (id : Nat) : Except Revert Ledger :=
  ledgerStep (s.paused = false ∧ s.owner id = some src ∧ sender = src)
    { s with owner := Function.update s.owner id (some dst) }

def ledger : OpenZeppelin where
  State := Ledger
  keccak256 := fun s => s
  constructed := fun _ _ => ⟨fun _ => none, [], false⟩
  _exists := fun s id => (s.owner id).isSome
  hasRole := fun s role account => decide ((role, account) ∈ s.roles)
  paused := fun s => s.paused
  _mint := mintIn
  _burn := fun s id => ledgerStep (s.paused = false ∧ s.owner id ≠ none)
    { s with owner := Function.update s.owner id none }
  _grantRole := fun s role account => { s with roles := (role, account) :: s.roles }
  _pause := fun s _ => ledgerStep (s.paused = false) { s with paused := true }
  _unpause := fun s _ => ledgerStep (s.paused = true) { s with paused := false }
  transferFrom := moveIn
  approve := fun s sender _ id => ledgerStep (s.owner id = some sender) s
  setApprovalForAll := fun s _ _ _ => .ok s
  grantRole := fun s sender role account => ledgerStep ((defaultAdminRole, sender) ∈ s.roles)
    { s with roles := (role, account) :: s.roles }
  revokeRole := fun s sender role account => ledgerStep ((defaultAdminRole, sender) ∈ s.roles)
    { s with roles := s.roles.erase (role, account) }
  renounceRole := fun s sender role account => ledgerStep (sender = account)
    { s with roles := s.roles.erase (role, account) }
  _safeMint := fun part received s dst id => do
    let base ← mintIn (part.base s) dst id
    received (part.withBase s base)
  safeTransferFrom := fun part received s sender src dst id => do
    let base ← moveIn (part.base s) sender src dst id
    received (part.withBase s base)
  burn := fun part _burn s sender id => do
    let _ ← ledgerStep ((part.base s).owner id = some sender) (part.base s)
    _burn s id

lemma ledger_documented : ledger.Documented where
  constructed := fun _ _ _ => rfl
  _mint := by
    intro s t dst id h
    obtain ⟨⟨-, hfree⟩, rfl⟩ := ledgerStep_eq_ok.mp h
    refine ⟨by simp [ledger, hfree], fun k => ?_⟩
    by_cases hk : k = id <;> simp [ledger, hk]
  _burn := by
    intro s t id h k
    obtain ⟨-, rfl⟩ := ledgerStep_eq_ok.mp h
    by_cases hk : k = id <;> simp [ledger, hk]
  _grantRole := fun _ _ _ => rfl
  _pause := by
    intro s t sender h
    obtain ⟨-, rfl⟩ := ledgerStep_eq_ok.mp h
    rfl
  _unpause := by
    intro s t sender h
    obtain ⟨-, rfl⟩ := ledgerStep_eq_ok.mp h
    rfl
  transferFrom := by
    intro s t sender src dst id h
    obtain ⟨⟨-, howner, -⟩, rfl⟩ := ledgerStep_eq_ok.mp h
    funext k
    by_cases hk : k = id <;> simp [ledger, hk, howner]
  approve := by
    intro s t sender dst id h
    obtain ⟨-, rfl⟩ := ledgerStep_eq_ok.mp h
    rfl
  setApprovalForAll := by
    intro s t sender operator approved h
    rw [← Except.ok.inj h]
  grantRole := by
    intro s t sender role account h
    obtain ⟨-, rfl⟩ := ledgerStep_eq_ok.mp h
    rfl
  revokeRole := by
    intro s t sender role account h
    obtain ⟨-, rfl⟩ := ledgerStep_eq_ok.mp h
    rfl
  renounceRole := by
    intro s t sender role account h
    obtain ⟨-, rfl⟩ := ledgerStep_eq_ok.mp h
    rfl
  _safeMint := by
    intro S part received s t dst id h
    obtain ⟨base, hmint, h⟩ := bind_eq_ok.mp h
    exact ⟨base, hmint, .inr h⟩
  safeTransferFrom := by
    intro S part received s t caller src dst id h
    obtain ⟨base, hmove, h⟩ := bind_eq_ok.mp h
    exact ⟨base, hmove, .inr h⟩
  burn := by
    intro S part _burn s t caller id h
    obtain ⟨-, -, h⟩ := bind_eq_ok.mp h
    exact h

def sampleMinter : Address := bytesToAddress [1]

def sampleReceiver : Address := bytesToAddress [2]

def sampleArgs : CtorArgs := ⟨str "Cats", str "CAT", [], [], [], false, [], false, []⟩

/-- A batch of two for a receiver that burns the first token when it gets it, and then tries to mint. -/
def burningReceiver : List (Action (Address × Call)) :=
  [.call (sampleMinter, .mintEnhanceBatch sampleReceiver [5, 6] ⟨str "Tom", str "ipfs://tom", [], []⟩)
    [.mk [.call (sampleReceiver, .burn 5) [], .call (sampleReceiver, .mint sampleReceiver 7 (str "ipfs://x")) []] true]]

def MetadataHasToken (c : Contract Z) : Prop := ∀ id, c.idEnhanceInfoMap id ≠ noInfo → Z._exists c.base id = true

/-- A call in progress at a point where the receivers may look at the contract. -/
structure Consistent (s : Running Z) : Prop where
  contract : MetadataHasToken s.contract
  hooks : ∀ hook ∈ s.hooks, Keeps MetadataHasToken hook

section Proofs

variable {s t : Running Z} {c : Contract Z} {sender dst : Address} {id : Nat}

lemma Consistent.onERC721Received (hs : Consistent s) (h : onERC721Received s = .ok t) : Consistent t := by
  unfold ERC721Uptick.onERC721Received at h
  cases hhooks : s.hooks with
  | nil =>
    rw [hhooks] at h
    rwa [← Except.ok.inj h]
  | cons hook hooks =>
    rw [hhooks] at h
    obtain ⟨c, hc, h⟩ := bind_eq_ok.mp h
    obtain rfl := Except.ok.inj h
    have hkeep := hs.hooks
    rw [hhooks, List.forall_mem_cons] at hkeep
    exact ⟨hkeep.1 s.contract c hs.contract hc, hkeep.2⟩

/-- Only this id may have metadata without a token. -/
def ExceptFor (id : Nat) (c : Contract Z) : Prop :=
  ∀ k, k ≠ id → c.idEnhanceInfoMap k ≠ noInfo → Z._exists c.base k = true

lemma MetadataHasToken.exceptFor_setInfo (hc : MetadataHasToken c) (info : NFTEnhance) :
    ExceptFor id (c.setInfo id info) := by
  intro k hk hinfo
  exact hc k (by simpa [Contract.setInfo, hk] using hinfo)

/-- A safe mint makes the contract consistent when only the minted id may have metadata without a token:
the mint gives it one before the receiver is called. -/
lemma consistent_of_safeMint (hZ : Z.Documented) (hc : ExceptFor id c)
    {hooks : List (Contract Z → Except Revert (Contract Z))} (hhooks : ∀ hook ∈ hooks, Keeps MetadataHasToken hook)
    (h : _safeMint ⟨c, hooks⟩ dst id = .ok t) : Consistent t := by
  obtain ⟨base, hmint, h⟩ := hZ._safeMint h
  have hminted : Consistent (Running.part.withBase ⟨c, hooks⟩ base) := by
    refine ⟨fun k hk => ?_, hhooks⟩
    show Z._exists base k = true
    rw [(hZ._mint hmint).2 k]
    split
    · rfl
    · next hne => exact hc k hne hk
  rcases h with rfl | h
  · exact hminted
  · exact hminted.onERC721Received h

lemma Consistent.mintLoop (hZ : Z.Documented) {prepare : Contract Z → Nat → Contract Z}
    (hprepare : ∀ c id, MetadataHasToken c → ExceptFor id (prepare c id))
    {ids : List Nat} (hs : Consistent s) (h : mintLoop prepare dst s ids = .ok t) : Consistent t := by
  induction ids generalizing s with
  | nil => rwa [← Except.ok.inj h]
  | cons id rest ih =>
    obtain ⟨-, h⟩ := require_bind_eq_ok.mp h
    obtain ⟨u, hmint, h⟩ := bind_eq_ok.mp h
    exact ih (consistent_of_safeMint hZ (hprepare s.contract id hs.contract) hs.hooks hmint) h

/-- What does not change which tokens exist keeps a contract consistent. -/
lemma Consistent.withBase (hs : Consistent s) {base : Z.State} (hbase : Z._exists base = Z._exists s.contract.base) :
    Consistent (Running.part.withBase s base) := by
  refine ⟨fun k hk => ?_, hs.hooks⟩
  show Z._exists base k = true
  rw [hbase]
  exact hs.contract k hk

lemma Consistent.onBase (hs : Consistent s) {f : Z.State → Except Revert Z.State}
    (hf : ∀ {base}, f s.contract.base = .ok base → Z._exists base = Z._exists s.contract.base)
    (h : onBase s f = .ok t) : Consistent t := by
  obtain ⟨base, hbase, h⟩ := bind_eq_ok.mp h
  obtain rfl := Except.ok.inj h
  exact hs.withBase (hf hbase)

lemma Consistent.burn (hZ : Z.Documented) (hs : Consistent s) (h : burn s sender id = .ok t) : Consistent t := by
  obtain ⟨base, hburn, h⟩ := bind_eq_ok.mp (hZ.burn h)
  obtain rfl := Except.ok.inj h
  refine ⟨fun k hk => ?_, hs.hooks⟩
  show Z._exists base k = true
  have hne : k ≠ id := by
    rintro rfl
    exact hk (by simp [Contract.setInfo])
  rw [hZ._burn hburn, if_neg hne]
  exact hs.contract k (by simpa [Contract.setInfo, Contract.withBase, hne] using hk)

/-- The step: every function of the contract keeps metadata with tokens, whatever the receivers do, as long
as what they do keeps it too. -/
lemma Consistent.run (hZ : Z.Documented) (hs : Consistent s) {fn : Call} (h : fn.run s sender = .ok t) :
    Consistent t := by
  cases fn with
  | mint dst id uri =>
    obtain ⟨-, h⟩ := check_bind_eq_ok.mp h
    obtain ⟨-, h⟩ := check_bind_eq_ok.mp h
    exact consistent_of_safeMint hZ (hs.contract.exceptFor_setInfo _) hs.hooks h
  | mintEnhance dst id info =>
    obtain ⟨-, h⟩ := check_bind_eq_ok.mp h
    obtain ⟨-, h⟩ := check_bind_eq_ok.mp h
    exact consistent_of_safeMint hZ (hs.contract.exceptFor_setInfo info) hs.hooks h
  | mintBatch dst ids =>
    obtain ⟨-, h⟩ := check_bind_eq_ok.mp h
    obtain ⟨-, h⟩ := check_bind_eq_ok.mp h
    exact hs.mintLoop hZ (fun c id hc k _ hk => hc k hk) h
  | mintEnhanceBatch dst ids info =>
    obtain ⟨-, h⟩ := check_bind_eq_ok.mp h
    obtain ⟨-, h⟩ := check_bind_eq_ok.mp h
    exact hs.mintLoop hZ (fun c id hc => hc.exceptFor_setInfo info) h
  | burn id => exact hs.burn hZ h
  | burnEnhance id => exact hs.burn hZ h
  | pause =>
    obtain ⟨-, h⟩ := require_bind_eq_ok.mp h
    exact hs.onBase hZ._pause h
  | unpause =>
    obtain ⟨-, h⟩ := require_bind_eq_ok.mp h
    exact hs.onBase hZ._unpause h
  | transferFrom src dst id =>
    rw [Call.run] at h
    exact hs.onBase hZ.transferFrom h
  | safeTransferFrom src dst id =>
    obtain ⟨base, hmove, h⟩ := hZ.safeTransferFrom h
    have hmoved : Consistent (Running.part.withBase s base) := hs.withBase (hZ.transferFrom hmove)
    rcases h with rfl | h
    · exact hmoved
    · exact hmoved.onERC721Received h
  | approve dst id =>
    rw [Call.run] at h
    exact hs.onBase hZ.approve h
  | setApprovalForAll operator approved =>
    rw [Call.run] at h
    exact hs.onBase hZ.setApprovalForAll h
  | grantRole role account =>
    rw [Call.run] at h
    exact hs.onBase hZ.grantRole h
  | revokeRole role account =>
    rw [Call.run] at h
    exact hs.onBase hZ.revokeRole h
  | renounceRole role account =>
    rw [Call.run] at h
    exact hs.onBase hZ.renounceRole h

/-- The run: call trees of any shape keep metadata with tokens. -/
theorem MetadataHasToken.runCalls (hZ : Z.Documented) (hc : MetadataHasToken c)
    (actions : List (Action (Address × Call))) : MetadataHasToken (runCalls c actions) := by
  apply runAll_invariant _ actions hc
  intro fn hooks c c' hhooks hc h
  obtain ⟨s, hrun, h⟩ := bind_eq_ok.mp h
  obtain rfl := Except.ok.inj h
  have hstart : Consistent (Z := Z) ⟨c, hooks⟩ := ⟨hc, hhooks⟩
  exact (hstart.run hZ hrun).contract

end Proofs

/-- After every sequence of call trees on a deployed contract, with any senders, every token id with a URI,
a name, a URI hash or data exists as a token. -/
theorem token_of_metadata (Z : OpenZeppelin) (hZ : Z.Documented) (args : CtorArgs) (deployer : Address)
    (actions : List (Action (Address × Call))) (id : Nat) :
    let c := runCalls (deployed Z args deployer) actions
    let info := c.idEnhanceInfoMap id
    (info.uri ≠ [] ∨ info.name ≠ [] ∨ info.uriHash ≠ [] ∨ info.data ≠ []) → Z._exists c.base id = true := by
  intro c info hinfo
  have hstart : MetadataHasToken (deployed Z args deployer) := fun k hk => absurd rfl hk
  apply hstart.runCalls hZ actions id
  intro hnone
  have hempty : info = noInfo := hnone
  rw [hempty] at hinfo
  simp [noInfo] at hinfo

/-- Token 6 is the only one left, and it has its metadata. -/
theorem token_of_metadata_burning :
    ledger._exists (runCalls (deployed ledger sampleArgs sampleMinter) burningReceiver).base 6 = true ∧
      [5, 7].map (runCalls (deployed ledger sampleArgs sampleMinter) burningReceiver).idEnhanceInfoMap =
        [noInfo, noInfo] :=
  ⟨token_of_metadata ledger ledger_documented sampleArgs sampleMinter burningReceiver 6 (by decide +kernel),
    by decide +kernel⟩

end Uptick.ERC721Uptick
