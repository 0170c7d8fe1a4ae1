import Uptick.Collection.MsgServer
import Uptick.Lib.Base64
import Uptick.Lib.Json.Interface

/-!
# Classes and tokens in ICS-721 packets

`types/builder.go`: the metadata text of a class or a token that a packet carries, and the class or token that is
built from such a text. The fields of the module share one JSON object with the data of the user.
-/

namespace Uptick.Collection

open Text Outcome Decimal

/-- `map[string]interface{}`, by ascending key. -/
abbrev Members := List (GoString × Json Double)

def keyMediaFieldValue : GoString := str "value"

def tokenKeyName : GoString := str "irismod:name"

def tokenKeyURIhash : GoString := str "irismod:uri_hash"

def classKeyName : GoString := str "irismod:name"

def classKeySymbol : GoString := str "irismod:symbol"

def classKeyDescription : GoString := str "irismod:description"

def classKeyURIhash : GoString := str "irismod:uri_hash"

def classKeyMintRestricted : GoString := str "irismod:mint_restricted"

def classKeyUpdateRestricted : GoString := str "irismod:update_restricted"

def classKeyCreator : GoString := str "irismod:creator"

def classKeySchema : GoString := str "irismod:schema"

/-- `MediaField{Value: v}`; the empty `mime` is left out. -/
def mediaField (v : Json Double) : Json Double := .obj [(keyMediaFieldValue, v)]

/-- The value in the media field under a key, if it is one. -/
def mediaValue (dataMap : Members) (key : GoString) : Option (Json Double) :=
  match KVStore.lookup dataMap key with
  | some (.obj vMap) => KVStore.lookup vMap keyMediaFieldValue
  | _ => none

/-- A text field: its key is deleted when the value is a string, and the default stands otherwise. -/
def takeString (dataMap : Members) (key default : GoString) : GoString × Members :=
  match mediaValue dataMap key with
  | some (.str vStr) => (vStr, KVStore.erase dataMap key)
  | _ => (default, dataMap)

def takeBool (dataMap : Members) (key : GoString) (default : Bool) : Bool × Members :=
  match mediaValue dataMap key with
  | some (.bool vBool) => (vBool, KVStore.erase dataMap key)
  | _ => (default, dataMap)

/-- The map that stored data is decoded into, and whether it was decoded without error. -/
def readData (data : GoString) : Members × Bool :=
  if data.length = 0 then ([], true)
  else ((Json.unmarshalMap data).1.getD [], (Json.unmarshalMap data).2)

/-- The text of what is left of a map. -/
def writeData (dataMap : Members) : GoString := if dataMap = [] then [] else Json.marshal (.obj dataMap)

def illegalBase64 : Error := external "illegal base64 data"

def maxTokenDataLen : Nat := 65536

def validateTokenMetadataBounds (data : GoString) : Except Error Unit :=
  require (data.length ≤ maxTokenDataLen)
    (wrapf .invalidNFT "data too long: %d > %d" [.d data.length, .d maxTokenDataLen])

namespace TokenBuilder

def buildMetadata (classID : GoString) (token : NFT) : Except Error GoString := do
  let metadata ← unmarshal NFTMetadata.zero token.data
  let (kvals, ok) := readData metadata.data
  if ok = false ∧ isIBCDenom classID = true then .ok (Base64.encodeToString metadata.data)
  else
    let kvals := KVStore.insert kvals tokenKeyName (mediaField (.str metadata.name))
    let kvals := KVStore.insert kvals tokenKeyURIhash (mediaField (.str token.uriHash))
    .ok (Base64.encodeToString (Json.marshal (.obj kvals)))

/-- The token from a text that is not a JSON object: the text is its data. -/
def buildRaw (tokenURI rawData : GoString) : Except Error NFT := do
  validateTokenMetadataBounds rawData
  .ok ⟨tokenURI, [], .value ⟨[], rawData⟩⟩

def buildFromMap (tokenURI : GoString) (dataMap : Members) : Except Error NFT := do
  let (name, dataMap) := takeString dataMap tokenKeyName []
  let (uriHash, dataMap) := takeString dataMap tokenKeyURIhash []
  validateTokenMetadataBounds (writeData dataMap)
  .ok ⟨tokenURI, uriHash, .value ⟨name, writeData dataMap⟩⟩

def build (tokenURI tokenData : GoString) : Except Error NFT :=
  match Base64.decodeString tokenData with
  | none => .error illegalBase64
  | some tokenDataBz =>
    match Json.unmarshalMap tokenDataBz with
    | (_, false) => buildRaw tokenURI tokenDataBz
    | (dataMap, true) => buildFromMap tokenURI (dataMap.getD [])

end TokenBuilder

/-- `GetModuleAddress("collection")` -/
def accModuleAddress : AccAddress :=
  [250, 116, 150, 228, 174, 132, 3, 6, 223, 65, 189, 101, 136, 0, 57, 46, 36, 219, 138, 196]

/-- `sdk.AccAddressFromHexUnsafe`: the length of the address is not checked. -/
def accAddressFromHexUnsafe (address : GoString) : Except Error AccAddress := do
  require (address.length ≠ 0) (external "decoding address from hex string failed: empty address")
  require (address.length % 2 = 0 ∧ address.all Hex.isHexDigit = true) (external "encoding/hex: invalid text")
  .ok (Hex.decode address)

namespace ClassBuilder

variable (X : Extern)

def buildMetadata (classID : GoString) (cl : Class) : Except Error GoString := do
  let metadata ← unmarshal DenomMetadata.zero cl.data
  let (kvals, ok) := readData metadata.data
  if ok = false ∧ isIBCDenom classID = true then .ok (Base64.encodeToString metadata.data)
  else do
    let creatorBech32 := if metadata.creator = [] then X.accString accModuleAddress else metadata.creator
    let creator ← X.decodeAcc creatorBech32
    let kvals := KVStore.insert kvals classKeyName (mediaField (.str cl.name))
    let kvals := KVStore.insert kvals classKeySymbol (mediaField (.str cl.symbol))
    let kvals := KVStore.insert kvals classKeyDescription (mediaField (.str cl.description))
    let kvals := KVStore.insert kvals classKeyURIhash (mediaField (.str cl.uriHash))
    let kvals := KVStore.insert kvals classKeyMintRestricted (mediaField (.bool metadata.mintRestricted))
    let kvals := KVStore.insert kvals classKeyUpdateRestricted (mediaField (.bool metadata.updateRestricted))
    let kvals := KVStore.insert kvals classKeyCreator (mediaField (.str (Hex.encode creator)))
    let kvals := KVStore.insert kvals classKeySchema (mediaField (.str metadata.schema))
    .ok (Base64.encodeToString (Json.marshal (.obj kvals)))

/-- The class from a text that is not a JSON object: the text is its data. -/
def buildRaw (classURI rawData : GoString) : Except Error Class := do
  validateDenomMetadataBounds [] rawData
  .ok ⟨[], [], [], classURI, [], .value ⟨X.accString accModuleAddress, [], true, true, rawData⟩⟩

/-- The creator, the module account where the packet names none. -/
def takeCreator (dataMap : Members) : Except Error (GoString × Members) :=
  match mediaValue dataMap classKeyCreator with
  | some (.str vStr) => do
    let creatorAcc ← accAddressFromHexUnsafe vStr
    .ok (X.accString creatorAcc, KVStore.erase dataMap classKeyCreator)
  | _ => .ok (X.accString accModuleAddress, dataMap)

def buildFromMap (classURI : GoString) (dataMap : Members) : Except Error Class := do
  let (name, dataMap) := takeString dataMap classKeyName []
  let (symbol, dataMap) := takeString dataMap classKeySymbol []
  let (description, dataMap) := takeString dataMap classKeyDescription []
  let (uriHash, dataMap) := takeString dataMap classKeyURIhash []
  let (mintRestricted, dataMap) := takeBool dataMap classKeyMintRestricted true
  let (updateRestricted, dataMap) := takeBool dataMap classKeyUpdateRestricted true
  let (creator, dataMap) ← takeCreator X dataMap
  let (schema, dataMap) := takeString dataMap classKeySchema []
  validateDenomMetadataBounds schema (writeData dataMap)
  .ok ⟨name, symbol, description, classURI, uriHash,
    .value ⟨creator, schema, mintRestricted, updateRestricted, writeData dataMap⟩⟩

def build (classURI classData : GoString) : Except Error Class :=
  match Base64.decodeString classData with
  | none => .error illegalBase64
  | some classDataBz =>
    match Json.unmarshalMap classDataBz with
    | (_, false) => buildRaw X classURI classDataBz
    | (dataMap, true) => buildFromMap X classURI (dataMap.getD [])

end ClassBuilder

end Uptick.Collection
