import Uptick.Collection.Types
import Uptick.Erc721.Types

/-!
# Messages of x/erc721

The three messages and their stateless checks, in the order of `types/msg.go`.
-/

namespace Uptick.Erc721

open Text Evm Outcome

structure MsgConvertNFT where
  classId : GoString
  cosmosTokenIds : List GoString
  evmReceiver : GoString
  cosmosSender : GoString
  evmContractAddress : GoString
  evmTokenIds : List GoString

structure MsgConvertERC721 where
  evmContractAddress : GoString
  evmTokenIds : List GoString
  cosmosReceiver : GoString
  cosmosSender : GoString
  classId : GoString
  cosmosTokenIds : List GoString

structure MsgTransferERC721 where
  evmContractAddress : GoString
  evmTokenIds : List GoString
  sourcePort : GoString
  sourceChannel : GoString
  classId : GoString
  cosmosTokenIds : List GoString
  cosmosSender : GoString
  cosmosReceiver : GoString
  timeoutRevisionNumber : Nat
  timeoutRevisionHeight : Nat
  timeoutTimestamp : Nat
  memo : GoString

def validateBech32 (X : Extern) (address : GoString) (text : String) : Except Error Unit := do
  let _ ← mapError (·.wrapf text []) (X.decodeAcc address)
  pure ()

def validateContract (address : GoString) : Except Error Unit :=
  require (isHexAddress address = true)
    (wrapf .invalidAddress "invalid contract hex address '%s'" [.s address])

/-- A contract address that may be left out. -/
def validateOptionalContract (address : GoString) : Except Error Unit :=
  if address ≠ [] then validateContract address else .ok ()

def validateClassId (classId : GoString) : Except Error Unit :=
  require (isBlank classId = false) (wrapf .invalidRequest "class id cannot be empty" [])

def validateEvmTokenIds (ids : List GoString) : Except Error Unit :=
  forEach (fun _ id => validateEVMTokenID id) () ids

def validateCosmosTokenIds (ids : List GoString) : Except Error Unit :=
  forEach (fun _ id => do
    require (id ≠ []) (wrapf .invalidRequest "cosmos token id cannot be empty" [])
    mapError (·.wrapf "invalid cosmos token id '%s'" [.s id]) (Collection.validateTokenID id)) () ids

def lengthMismatch (evmTokenIds cosmosTokenIds : List GoString) : Error :=
  wrapf .invalidRequest "evm token ids length %d does not match cosmos token ids length %d"
    [.d evmTokenIds.length, .d cosmosTokenIds.length]

def MsgConvertNFT.validateBasic (X : Extern) (msg : MsgConvertNFT) : Except Error Unit := do
  validateBech32 X msg.cosmosSender "invalid sender address"
  require (isHexAddress msg.evmReceiver = true)
    (wrapf .invalidAddress "invalid receiver hex address %s" [.s msg.evmReceiver])
  validateOptionalContract msg.evmContractAddress
  validateClassId msg.classId
  require (msg.cosmosTokenIds ≠ []) (wrapf .invalidRequest "cosmos token ids cannot be empty" [])
  validateCosmosTokenIds msg.cosmosTokenIds
  validateEvmTokenIds msg.evmTokenIds
  require (msg.evmTokenIds = [] ∨ msg.evmTokenIds.length = msg.cosmosTokenIds.length)
    (lengthMismatch msg.evmTokenIds msg.cosmosTokenIds)

def MsgConvertERC721.validateBasic (X : Extern) (msg : MsgConvertERC721) : Except Error Unit := do
  validateContract msg.evmContractAddress
  validateClassId msg.classId
  validateBech32 X msg.cosmosReceiver "invalid reciver address"
  validateBech32 X msg.cosmosSender "invalid sender address"
  require (msg.evmTokenIds ≠ []) (wrapf .invalidRequest "evm token ids cannot be empty" [])
  validateEvmTokenIds msg.evmTokenIds
  validateCosmosTokenIds msg.cosmosTokenIds
  require (msg.cosmosTokenIds = [] ∨ msg.evmTokenIds.length = msg.cosmosTokenIds.length)
    (lengthMismatch msg.evmTokenIds msg.cosmosTokenIds)

/-- The lengths of the two id lists are not compared here. -/
def MsgTransferERC721.validateBasic (X : Extern) (msg : MsgTransferERC721) : Except Error Unit := do
  validateContract msg.evmContractAddress
  validateClassId msg.classId
  validateBech32 X msg.cosmosSender "invalid sender address"
  validateBech32 X msg.cosmosReceiver "invalid receiver address"
  require (msg.evmTokenIds ≠ []) (wrapf .invalidRequest "evm token ids cannot be empty" [])
  validateEvmTokenIds msg.evmTokenIds
  validateCosmosTokenIds msg.cosmosTokenIds
  require (isBlank msg.sourcePort = false) (wrapf .invalidRequest "source port cannot be empty" [])
  require (isBlank msg.sourceChannel = false) (wrapf .invalidRequest "source channel cannot be empty" [])
  require (¬ ((msg.timeoutRevisionNumber = 0 ∧ msg.timeoutRevisionHeight = 0) ∧ msg.timeoutTimestamp = 0))
    (wrapf .invalidRequest "timeout height and timeout timestamp cannot both be zero" [])

lemma validateEvmTokenIds_eq_ok {ids : List GoString} :
    validateEvmTokenIds ids = .ok () ↔ ∀ id ∈ ids, validateEVMTokenID id = .ok () :=
  forEach_check_eq_ok

lemma validateCosmosTokenIds_eq_ok {ids : List GoString} :
    validateCosmosTokenIds ids = .ok () ↔ ∀ id ∈ ids, Collection.validateTokenID id = .ok () := by
  unfold validateCosmosTokenIds
  rw [forEach_check_eq_ok]
  refine forall₂_congr fun id _ => ?_
  rw [require_bind_eq_ok, mapError_eq_ok]
  refine ⟨fun h => h.2, fun h => ⟨?_, h⟩⟩
  rintro rfl
  have hlen := (Collection.validateTokenID_eq_ok.mp h).1.1
  simp at hlen

lemma validateBech32_eq_ok {X : Extern} {address : GoString} {text : String} :
    validateBech32 X address text = .ok () ↔ ∃ acc, X.decodeAcc address = .ok acc := by
  unfold validateBech32
  rw [bind_eq_ok]
  simp

/-- What a conversion message from the EVM side is known to carry. -/
structure MsgConvertERC721.Valid (X : Extern) (msg : MsgConvertERC721) : Prop where
  contract : isHexAddress msg.evmContractAddress = true
  classId : isBlank msg.classId = false
  receiver : ∃ acc, X.decodeAcc msg.cosmosReceiver = .ok acc
  sender : ∃ acc, X.decodeAcc msg.cosmosSender = .ok acc
  nonempty : msg.evmTokenIds ≠ []
  evmTokenIds : ∀ id ∈ msg.evmTokenIds, validateEVMTokenID id = .ok ()
  cosmosTokenIds : ∀ id ∈ msg.cosmosTokenIds, Collection.validateTokenID id = .ok ()
  lengths : msg.cosmosTokenIds = [] ∨ msg.evmTokenIds.length = msg.cosmosTokenIds.length

lemma MsgConvertERC721.validateBasic_eq_ok {X : Extern} {msg : MsgConvertERC721} :
    msg.validateBasic X = .ok () ↔ msg.Valid X := by
  unfold MsgConvertERC721.validateBasic validateContract validateClassId
  simp only [check_bind_eq_ok, validateBech32_eq_ok, require_eq_ok, validateEvmTokenIds_eq_ok,
    validateCosmosTokenIds_eq_ok]
  constructor
  · rintro ⟨h1, h2, h3, h4, h5, h6, h7, h8⟩
    exact ⟨h1, h2, h3, h4, h5, h6, h7, h8⟩
  · rintro ⟨h1, h2, h3, h4, h5, h6, h7, h8⟩
    exact ⟨h1, h2, h3, h4, h5, h6, h7, h8⟩

end Uptick.Erc721
