import Uptick.Extern

/-!
# Identifiers and metadata of x/collection

The validation rules of `types/validation.go` and the rules by which an edit changes a metadata field.
-/

namespace Uptick.Collection

open Text Evm Outcome

def doNotModify : GoString := str "[do-not-modify]"

def removeField : GoString := str "[remove]"

def minDenomLen : Nat := 3

def maxDenomLen : Nat := 128

def maxTokenURILen : Nat := 256

def maxDenomSchemaLen : Nat := 8192

def maxDenomDataLen : Nat := 65536

def isLower (b : UInt8) : Bool := 97 ≤ b && b ≤ 122

def isUpper (b : UInt8) : Bool := 65 ≤ b && b ≤ 90

def isDigit (b : UInt8) : Bool := 48 ≤ b && b ≤ 57

def isAlphanumeric (b : UInt8) : Bool := isLower b || isUpper b || isDigit b

/-- `[a-z][a-zA-Z0-9/]{2,127}` as a whole text. -/
def regexpID : GoString → Bool
  | [] => false
  | b :: rest => isLower b && (2 ≤ rest.length && rest.length ≤ 127) && rest.all fun c => isAlphanumeric c || c == 47

/-- `[a-zA-Z0-9-]+` as a whole text. -/
def regexpUptickSuffix (s : GoString) : Bool := !s.isEmpty && s.all fun c => isAlphanumeric c || c == 45

def isIBCDenom (denomID : GoString) : Bool := hasPrefix denomID (str "ibc/")

def validateKeywords (denomID : GoString) : Except Error Unit :=
  require (hasPrefix denomID (str "ibc") = false) (wrapf .invalidDenom
    "invalid denomID: %s, can not begin with keyword: (%s)" [.s denomID, .s (str "ibc")])

def validateIBCClassID (denomID : GoString) : Except Error Unit := do
  let suffix := trimPrefix denomID (str "ibc/")
  require (suffix ≠ []) (wrapf .invalidDenom "invalid ICS-721 class id (%s)" [.s denomID])
  require (denomID.length ≤ maxDenomLen)
    (wrapf .invalidDenom "denomID length exceeds %d (%s)" [.d maxDenomLen, .s denomID])
  require (suffix.all (fun r => isAlphanumeric r || r == 47 || r == 46 || r == 95 || r == 45) = true)
    (wrapf .invalidDenom "invalid ICS-721 class id (%s)" [.s denomID])

def validateDenomID (denomID : GoString) : Except Error Unit := do
  require (0 ∉ denomID) (wrapf .invalidDenom "denomID contains NUL" [])
  require (comma ∉ denomID) (wrapf .invalidDenom "denomID cannot contain comma (%s)" [.s denomID])
  if hasPrefix denomID (str "uptick-") then
    let suffix := trimPrefix denomID (str "uptick-")
    require (suffix ≠ [] ∧ 47 ∉ suffix)
      (wrapf .invalidDenom "invalid uptick-prefixed denomID (%s)" [.s denomID])
    require (denomID.length ≤ maxDenomLen)
      (wrapf .invalidDenom "denomID length exceeds %d (%s)" [.d maxDenomLen, .s denomID])
    require (regexpUptickSuffix suffix = true) (wrapf .invalidDenom
      "uptick-prefixed denomID(%s) may only contain alphanumerics and hyphens after the prefix" [.s denomID])
    validateKeywords denomID
  else if isIBCDenom denomID then validateIBCClassID denomID
  else
    require (regexpID denomID = true) (wrapf .invalidDenom
      "denomID can only accept characters that match the regular expression: (%s),but got (%s)"
      [.s (str "[a-z][a-zA-Z0-9/]\x7b2,127\x7d"), .s denomID])
    validateKeywords denomID

def validateDenomMetadataBounds (schema data : GoString) : Except Error Unit := do
  require (schema.length ≤ maxDenomSchemaLen)
    (wrapf .invalidDenom "schema too long: %d > %d" [.d schema.length, .d maxDenomSchemaLen])
  require (data.length ≤ maxDenomDataLen)
    (wrapf .invalidDenom "data too long: %d > %d" [.d data.length, .d maxDenomDataLen])

def validateTokenID (tokenID : GoString) : Except Error Unit := do
  require (minDenomLen ≤ tokenID.length ∧ tokenID.length ≤ maxDenomLen) (wrapf .invalidTokenID
    "the length of nft id(%s) only accepts value [%d, %d]" [.s tokenID, .d minDenomLen, .d maxDenomLen])
  require (0 ∉ tokenID ∧ 47 ∉ tokenID)
    (wrapf .invalidTokenID "nft id(%s) contains illegal characters" [.s tokenID])

def validateTokenURI (X : Extern) (tokenURI : GoString) : Except Error Unit := do
  require (tokenURI.length ≤ maxTokenURILen)
    (wrapf .invalidRequest "token URI too long; max %d" [.d maxTokenURILen])
  require (10 ∉ tokenURI ∧ 13 ∉ tokenURI ∧ 9 ∉ tokenURI)
    (wrapf .invalidRequest "token URI contains control characters" [])
  match X.urlScheme tokenURI with
  | none => .error (wrapf .invalidRequest "invalid token URI" [])
  | some scheme =>
    require (scheme ∈ [[], str "http", str "https", str "ipfs"])
      (wrapf .invalidRequest "token URI must use http(s) or ipfs scheme" [])

/-- `(0x)?[0-9a-fA-F]{40}` as a whole text. -/
def isHexAddressShape (s : GoString) : Bool :=
  let digits := if hasPrefix s (str "0x") then s.drop 2 else s
  digits.length == 40 && digits.all Hex.isHexDigit

def validateIssueDenomID (X : Extern) (denomID : GoString) : Except Error Unit := do
  require (hasPrefix denomID (str "uptick-") = false) (wrapf .invalidDenom
    "denomID prefix \"uptick-\" is reserved for module-derived NFT classes and cannot be issued via MsgIssueDenom (%s)"
    [.s denomID])
  require (hasPrefix denomID (str "ibc/") = false) (wrapf .invalidDenom
    "denomID prefix \"ibc/\" is reserved for ICS-721 voucher classes and cannot be issued via MsgIssueDenom (%s)"
    [.s denomID])
  require ((X.accAddressFromBech32 denomID).toBool = false)
    (wrapf .invalidDenom "denomID cannot be a bech32 account address (%s)" [.s denomID])
  require (isHexAddressShape denomID = false) (wrapf .invalidDenom
    "denomID cannot be a hex address shape reserved for ERC721 contract keys (%s)" [.s denomID])
  validateDenomID denomID

def modified (target : GoString) : Bool := target ≠ doNotModify && target ≠ []

def modify (origin target : GoString) : GoString :=
  if target = doNotModify ∨ target = [] then origin
  else if target = removeField then []
  else target

/-- A class id that may be saved is a valid second part of an NFT key. -/
lemma comma_notMem_of_validateDenomID {denomID : GoString} (h : validateDenomID denomID = .ok ()) :
    comma ∉ denomID := by
  unfold validateDenomID at h
  obtain ⟨-, h⟩ := require_bind_eq_ok.mp h
  exact (require_bind_eq_ok.mp h).1

lemma validateTokenID_eq_ok {tokenID : GoString} : validateTokenID tokenID = .ok () ↔
    (3 ≤ tokenID.length ∧ tokenID.length ≤ 128) ∧ 0 ∉ tokenID ∧ 47 ∉ tokenID := by
  unfold validateTokenID
  rw [require_bind_eq_ok, require_eq_ok]
  rfl

lemma validateDenomMetadataBounds_eq_ok {schema data : GoString} : validateDenomMetadataBounds schema data = .ok () ↔
    schema.length ≤ maxDenomSchemaLen ∧ data.length ≤ maxDenomDataLen := by
  rw [validateDenomMetadataBounds, require_bind_eq_ok, require_eq_ok]

end Uptick.Collection
