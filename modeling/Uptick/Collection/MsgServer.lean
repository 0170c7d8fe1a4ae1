import Uptick.Collection.Keeper

/-!
# The messages of x/collection

Each message with its stateless check (`types/msgs.go`) and its handler (`keeper/msg_server.go`). The
events a handler emits are left out: nothing reads them.
-/

namespace Uptick.Collection

open Text Outcome

variable (X : Extern) (nk : NftKeeper)

structure MsgIssueDenom where
  id : GoString
  sender : GoString
  fields : DenomFields

structure MsgTransferNFT where
  id : GoString
  denomId : GoString
  fields : TokenFields
  sender : GoString
  recipient : GoString

structure MsgEditNFT where
  id : GoString
  denomId : GoString
  fields : TokenFields
  sender : GoString

structure MsgMintNFT where
  id : GoString
  denomId : GoString
  fields : TokenFields
  sender : GoString
  recipient : GoString

structure MsgBurnNFT where
  id : GoString
  denomId : GoString
  sender : GoString

structure MsgTransferDenom where
  id : GoString
  sender : GoString
  recipient : GoString

/-- The check of an address field, whose error names the field. -/
def validateAddress (address : GoString) (format : String) : Except Error Unit :=
  match X.accAddressFromBech32 address with
  | .ok _ => .ok ()
  | .error text => .error (wrapf .invalidAddress format [.s text])

def validateJSON (text : GoString) (field : String) : Except Error Unit :=
  require (text.length = 0 ∨ X.jsonValid text = true) (wrapf .jsonUnmarshal field [])

/-- The check of the data of a transfer or an edit: the word for clearing it is let through. -/
def validateEditData (data : GoString) : Except Error Unit :=
  require (data.length = 0 ∨ modified data = false ∨ data = removeField ∨ X.jsonValid data = true)
    (wrapf .jsonUnmarshal "invalid data, must be a JSON string or empty" [])

def validateIBCTokenID (tokenID : GoString) : Except Error Unit := do
  require (tokenID ≠ [] ∧ tokenID.length ≤ maxDenomLen) (wrapf .invalidTokenID
    "the length of nft id(%s) only accepts value [1, %d]" [.s tokenID, .d maxDenomLen])
  require (0 ∉ tokenID ∧ 47 ∉ tokenID)
    (wrapf .invalidTokenID "nft id(%s) contains illegal characters" [.s tokenID])

def validateTokenIDForDenom (denomID tokenID : GoString) : Except Error Unit :=
  if isIBCDenom denomID then validateIBCTokenID tokenID else validateTokenID tokenID

def MsgIssueDenom.validateBasic (msg : MsgIssueDenom) : Except Error Unit := do
  validateIssueDenomID X msg.id
  require (msg.fields.name.length ≠ 0) (wrapf .invalidDenom "denom name cannot be empty" [])
  require (msg.fields.symbol.length ≠ 0) (wrapf .invalidDenom "denom symbol cannot be empty" [])
  validateAddress X msg.sender "invalid sender address (%s)"
  require (msg.fields.schema.length ≤ maxDenomSchemaLen)
    (wrapf .invalidRequest "denom schema too long; max %d" [.d maxDenomSchemaLen])
  validateJSON X msg.fields.schema "invalid schema, must be a JSON string or empty"
  validateJSON X msg.fields.data "invalid data, must be a JSON string or empty"
  require (msg.fields.data.length ≤ maxDenomDataLen)
    (wrapf .invalidRequest "denom data too long; max %d" [.d maxDenomDataLen])
  validateKeywords msg.id

def MsgTransferNFT.validateBasic (msg : MsgTransferNFT) : Except Error Unit := do
  validateDenomID msg.denomId
  validateTokenURI X msg.fields.uri
  validateAddress X msg.sender "invalid sender address (%s)"
  validateAddress X msg.recipient "invalid recipient address (%s)"
  validateEditData X msg.fields.data
  validateTokenIDForDenom msg.denomId msg.id

def MsgEditNFT.validateBasic (msg : MsgEditNFT) : Except Error Unit := do
  validateAddress X msg.sender "invalid sender address (%s)"
  require (msg.fields.name = [] ∨ isBlank msg.fields.name = false)
    (wrapf .invalidRequest "nft name cannot be blank" [])
  validateDenomID msg.denomId
  validateTokenURI X msg.fields.uri
  validateEditData X msg.fields.data
  validateTokenIDForDenom msg.denomId msg.id

def MsgMintNFT.validateBasic (msg : MsgMintNFT) : Except Error Unit := do
  validateAddress X msg.sender "invalid sender address (%s)"
  validateAddress X msg.recipient "invalid receipt address (%s)"
  require (isIBCDenom msg.denomId = false)
    (wrapf .invalidDenom "cannot mint into an ICS-721 voucher class" [])
  validateDenomID msg.denomId
  validateTokenURI X msg.fields.uri
  validateJSON X msg.fields.data "invalid data, must be a JSON string or empty"
  validateTokenID msg.id

def MsgBurnNFT.validateBasic (msg : MsgBurnNFT) : Except Error Unit := do
  validateAddress X msg.sender "invalid sender address (%s)"
  validateDenomID msg.denomId
  validateTokenIDForDenom msg.denomId msg.id

def MsgTransferDenom.validateBasic (msg : MsgTransferDenom) : Except Error Unit := do
  validateAddress X msg.sender "invalid sender address (%s)"
  validateAddress X msg.recipient "invalid recipient address (%s)"
  require (isIBCDenom msg.id = false)
    (wrapf .invalidDenom "cannot transfer an ICS-721 voucher class" [])
  validateDenomID msg.id

def issueDenom (L : NftLedger) (msg : MsgIssueDenom) : Except Error NftLedger := do
  let sender ← X.decodeAcc msg.sender
  validateIssueDenomID X msg.id
  saveDenom X nk L msg.id msg.fields sender

def mintNFT (L : NftLedger) (msg : MsgMintNFT) : Except Error NftLedger := do
  let recipient ← X.decodeAcc msg.recipient
  let sender ← X.decodeAcc msg.sender
  let denom ← getDenomInfo L msg.denomId
  require (¬(denom.mintRestricted = true ∧ denom.creator ≠ X.accString sender))
    (wrapf .unauthorized "%s is not allowed to mint NFT of denom %s"
      [.s (X.accString sender), .s msg.denomId])
  saveNFT nk L msg.denomId msg.id msg.fields recipient

def editNFT (L : NftLedger) (msg : MsgEditNFT) : Except Error NftLedger := do
  let sender ← X.decodeAcc msg.sender
  updateNFT X nk L msg.denomId msg.id msg.fields sender

def transferNFT (L : NftLedger) (msg : MsgTransferNFT) : Except Error NftLedger := do
  let sender ← X.decodeAcc msg.sender
  let recipient ← X.decodeAcc msg.recipient
  transferOwnership X nk L msg.denomId msg.id msg.fields sender recipient

def burnNFT (converted : GoString → GoString → Bool) (L : NftLedger) (msg : MsgBurnNFT) :
    Except Error NftLedger := do
  let sender ← X.decodeAcc msg.sender
  removeNFT X nk converted L msg.denomId msg.id sender

def transferDenom (L : NftLedger) (msg : MsgTransferDenom) : Except Error NftLedger := do
  let sender ← X.decodeAcc msg.sender
  let recipient ← X.decodeAcc msg.recipient
  transferDenomOwner X nk L msg.id sender recipient

variable {X nk} {L L' : NftLedger}

/-- A mint succeeds for a new id in a class that lets the sender mint. -/
lemma mintNFT_eq_ok {msg : MsgMintNFT} : mintNFT X nk L msg = .ok L' ↔ ∃ recipient sender denom,
    X.decodeAcc msg.recipient = .ok recipient ∧ X.decodeAcc msg.sender = .ok sender ∧
      getDenomInfo L msg.denomId = .ok denom ∧
      ¬(denom.mintRestricted = true ∧ denom.creator ≠ X.accString sender) ∧
      msg.denomId ≠ [] ∧ msg.id ≠ [] ∧ recipient ≠ [] ∧ L.held msg.denomId msg.id = none ∧
      L' = L.put msg.denomId msg.id (some ⟨⟨msg.fields.uri, msg.fields.uriHash,
        .value ⟨msg.fields.name, msg.fields.data⟩⟩, recipient⟩) := by
  unfold mintNFT
  simp only [bind_eq_ok, require_eq_ok, saveNFT_eq_ok]
  constructor
  · rintro ⟨r, hr, s, hs, d, hd, -, hm, h₁, h₂, h₃, -, h₄, h₅⟩
    exact ⟨r, s, d, hr, hs, hd, hm, h₁, h₂, h₃, h₄, h₅⟩
  · rintro ⟨r, s, d, hr, hs, hd, hm, h₁, h₂, h₃, h₄, h₅⟩
    exact ⟨r, hr, s, hs, d, hd, (), hm, h₁, h₂, h₃, hasClass_of_getDenomInfo hd, h₄, h₅⟩

lemma transferNFT_eq_ok {msg : MsgTransferNFT} : transferNFT X nk L msg = .ok L' ↔ ∃ sender recipient,
    X.decodeAcc msg.sender = .ok sender ∧ X.decodeAcc msg.recipient = .ok recipient ∧
      transferOwnership X nk L msg.denomId msg.id msg.fields sender recipient = .ok L' := by
  unfold transferNFT
  simp only [bind_eq_ok]
  constructor
  · rintro ⟨s, hs, r, hr, h⟩
    exact ⟨s, r, hs, hr, h⟩
  · rintro ⟨s, r, hs, hr, h⟩
    exact ⟨s, hs, r, hr, h⟩

lemma burnNFT_eq_ok {converted : GoString → GoString → Bool} {msg : MsgBurnNFT} :
    burnNFT X nk converted L msg = .ok L' ↔ ∃ sender, X.decodeAcc msg.sender = .ok sender ∧
      L.hasNFT msg.denomId msg.id = true ∧ sender = L.getOwner msg.denomId msg.id ∧
      converted msg.denomId msg.id = false ∧ L.hasClass msg.denomId = true ∧
      L' = L.put msg.denomId msg.id none := by
  unfold burnNFT
  simp only [bind_eq_ok, removeNFT_eq_ok]

lemma editNFT_eq_ok {msg : MsgEditNFT} (h : editNFT X nk L msg = .ok L') : ∃ sender token token',
    X.decodeAcc msg.sender = .ok sender ∧ L.held msg.denomId msg.id = some ⟨token, sender⟩ ∧
      L' = L.put msg.denomId msg.id (some ⟨token', sender⟩) := by
  unfold editNFT at h
  obtain ⟨sender, hs, h⟩ := bind_eq_ok.mp h
  obtain ⟨token, token', hheld, rfl⟩ := updateNFT_eq_ok h
  exact ⟨sender, token, token', hs, hheld, rfl⟩

end Uptick.Collection
