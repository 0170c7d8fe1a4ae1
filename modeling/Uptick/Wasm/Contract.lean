import Uptick.Extern

/-!
# CW721 contracts

What x/cw721 asks of the wasm module and of the CW721 contracts it hosts, as a parameter. A conforming
contract is one whose messages do what the CW721 specification says; it keeps every owner under the
spelling it was given.
-/

namespace Uptick.Wasm

open Text

/-- `ContractInfoData` -/
structure CW721Data where
  name : GoString
  symbol : GoString
  deriving DecidableEq, Repr

/-- The part of the answer to `all_nft_info` that the keeper reads. -/
structure AllNftInfo where
  owner : GoString
  tokenUri : GoString
  deriving DecidableEq, Repr

/-- The arguments of `InstantiateWasmContract`. -/
structure InstantiateArgs where
  codeId : Nat
  label : GoString
  name : GoString
  symbol : GoString
  minter : GoString
  deriving DecidableEq, Repr

/-- The calls of the wasm keeper. Contracts and senders are accounts; `instantiate` and `transferNft` take
the sender first, and minting is always called by the module account. `approved` says whether an account
may move a token it does not own. -/
structure WasmCalls where
  State : Type
  contractInfo : State → AccAddress → Except Error CW721Data
  allNftInfo : State → AccAddress → GoString → Except Error AllNftInfo
  approved : State → AccAddress → GoString → AccAddress → Prop
  instantiate : State → AccAddress → InstantiateArgs → Except Error (AccAddress × State)
  mint : State → AccAddress → GoString → GoString → GoString → Except Error State
  transferNft : State → AccAddress → AccAddress → GoString → GoString → Except Error State

namespace WasmCalls

variable (W : WasmCalls)

def owner (st : W.State) (contract : AccAddress) (tokenID : GoString) : Option GoString :=
  (W.allNftInfo st contract tokenID).toOption.map (·.owner)

structure Moved (st st' : W.State) (contract : AccAddress) (tokenID : GoString) (o : GoString) : Prop where
  owner_self : W.owner st' contract tokenID = some o
  owner_other : ∀ c t, (c, t) ≠ (contract, tokenID) → W.owner st' c t = W.owner st c t

lemma owner_of_allNftInfo {st : W.State} {c : AccAddress} {t : GoString} {info : AllNftInfo}
    (h : W.allNftInfo st c t = .ok info) : W.owner st c t = some info.owner := by
  simp [owner, h, Except.toOption]

end WasmCalls

/-- The wasm module with conforming contracts. -/
structure WasmKeeper (X : Extern) extends WasmCalls where
  /-- A new contract is a new account without tokens. -/
  instantiate_ok : ∀ {st sender args c st'}, instantiate st sender args = .ok (c, st') →
    c ≠ [] ∧ c.length ≤ 255 ∧ (∀ t, toWasmCalls.owner st c t = none) ∧
      ∀ c' t, toWasmCalls.owner st' c' t = toWasmCalls.owner st c' t
  mint_ok : ∀ {st c t o uri st'}, mint st c t o uri = .ok st' →
    toWasmCalls.owner st c t = none ∧ toWasmCalls.Moved st st' c t o
  /-- A transfer is for the owner, and for accounts it approved. -/
  transferNft_ok : ∀ {st sender c t recipient st'}, transferNft st sender c t recipient = .ok st' →
    (toWasmCalls.owner st c t = some (X.accString sender) ∨
      (toWasmCalls.owner st c t).isSome ∧ approved st c t sender) ∧
      toWasmCalls.Moved st st' c t recipient

end Uptick.Wasm
