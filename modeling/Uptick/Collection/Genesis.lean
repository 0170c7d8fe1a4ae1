import Uptick.Collection.MsgServer
import Uptick.Collection.NftStore
import Uptick.Lib.Utf8

/-!
# Genesis of x/collection

`types/genesis.go`, `keeper/genesis.go` and the export walk of `keeper/collection.go`, over the byte store of x/nft. A
panic is an error here: a node that panics in `InitGenesis` does not start.
-/

namespace Uptick.Collection

open Text Outcome

/-- `types.Collection` -/
structure DenomCollection where
  denom : Denom
  nfts : List BaseNFT
  deriving DecidableEq

structure GenesisState where
  collections : List DenomCollection
  deriving DecidableEq

section

variable (X : Extern)

/-- `nft.GetOwner()`, which panics on an owner that does not decode. -/
def BaseNFT.getOwner (nft : BaseNFT) : Except Error AccAddress := X.decodeAcc nft.owner

/-- One token of `ValidateGenesis`, with the ids seen before it. -/
def validateGenesisNFT (denomID : GoString) (seenTokenIDs : List GoString) (nft : BaseNFT) :
    Except Error (List GoString) := do
  let owner ← nft.getOwner X
  require (owner ≠ []) (wrapf .invalidAddress "missing owner" [])
  validateTokenIDForDenom denomID nft.id
  require (nft.id ∉ seenTokenIDs)
    (wrapf .invalidRequest "duplicate token id %s in denom %s" [.s nft.id, .s denomID])
  validateTokenURI X nft.uri
  .ok (nft.id :: seenTokenIDs)

def validateGenesisCreator (creator : GoString) : Except Error Unit :=
  if creator = [] then .ok ()
  else
    match X.accAddressFromBech32 creator with
    | .ok _ => .ok ()
    | .error text => .error (wrapf .invalidAddress "invalid collection creator %q: %s" [.q creator, .s text])

/-- One collection of `ValidateGenesis`, with the ids seen before it. -/
def validateGenesisCollection (seenDenomIDs : List GoString) (c : DenomCollection) : Except Error (List GoString) := do
  require (c.denom.id ≠ []) (wrapf .invalidRequest "collection denom id is empty" [])
  validateDenomID c.denom.id
  require (c.denom.id ∉ seenDenomIDs) (wrapf .invalidRequest "duplicate denom id %s" [.s c.denom.id])
  validateGenesisCreator X c.denom.creator
  validateDenomMetadataBounds c.denom.schema c.denom.data
  let _ ← forEach (validateGenesisNFT X c.denom.id) [] c.nfts
  .ok (c.denom.id :: seenDenomIDs)

def validateGenesis (data : GenesisState) : Except Error Unit :=
  (forEach (validateGenesisCollection X) [] data.collections).map fun _ => ()

end

section

variable (X : Extern) (K : NftStore.Keeper)

/-- `SaveDenom` over the store. -/
def NftStore.saveDenom (B : ByteStore) (id : GoString) (f : DenomFields) (creator : AccAddress) :
    Except Error ByteStore := do
  validateDenomID id
  validateDenomMetadataBounds f.schema f.data
  let metadata : DenomMetadata :=
    ⟨X.accString creator, f.schema, f.mintRestricted, f.updateRestricted, f.data⟩
  K.saveClass B id ⟨f.name, f.symbol, f.description, f.uri, f.uriHash, .value metadata⟩

/-- `SaveNFT` over the store. -/
def NftStore.saveNFT (B : ByteStore) (denomID tokenID : GoString) (f : TokenFields) (receiver : AccAddress) :
    Except Error ByteStore := do
  require (denomID ≠ []) (wrapf .invalidRequest "denom ID cannot be empty" [])
  require (tokenID ≠ []) (wrapf .invalidRequest "token ID cannot be empty" [])
  require (receiver ≠ []) (wrapf .invalidAddress "receiver cannot be empty" [])
  K.mint B denomID tokenID ⟨f.uri, f.uriHash, .value ⟨f.name, f.data⟩⟩ receiver

def BaseNFT.fields (nft : BaseNFT) : TokenFields := ⟨nft.name, nft.uri, nft.uriHash, nft.data⟩

def saveCollection (B : ByteStore) (collection : DenomCollection) : Except Error ByteStore :=
  forEach (fun B nft => do
    let owner ← nft.getOwner X
    NftStore.saveNFT K B collection.denom.id nft.id nft.fields owner) B collection.nfts

/-- The creator of an imported class: none for an empty spelling. -/
def genesisCreator (creator : GoString) : Except Error AccAddress :=
  if creator = [] then .ok [] else X.decodeAcc creator

def Denom.fields (d : Denom) : DenomFields :=
  ⟨d.name, d.schema, d.symbol, d.mintRestricted, d.updateRestricted, d.description, d.uri, d.uriHash, d.data⟩

def initGenesisCollection (B : ByteStore) (c : DenomCollection) : Except Error ByteStore := do
  let creator ← genesisCreator X c.denom.creator
  let B ← NftStore.saveDenom X K B c.denom.id c.denom.fields creator
  saveCollection X K B c

def initGenesis (B : ByteStore) (data : GenesisState) : Except Error ByteStore := do
  validateGenesis X data
  forEach (initGenesisCollection X K) B data.collections

end

/-- The kinds that an export reports. `ExportIssueNFTListFailed` is not among them: `GetNFTs` returns no error. -/
inductive ExportIssueKind
  | classMetadata
  | classMetadataMissing
  | supplyMismatch
  | classMetadataTooLarge
  deriving DecidableEq, Repr

structure ExportIssue where
  classID : GoString
  kind : ExportIssueKind
  detail : String × List Arg
  deriving DecidableEq, Repr

/-- The cut of `clampToValidUTF8Bound`, walked back to the start of a rune. -/
def runeBoundary (s : GoString) : Nat → Nat
  | 0 => 0
  | cut + 1 =>
    match s.drop (cut + 1) with
    | [] => cut + 1
    | b :: _ => if Utf8.runeStart b then cut + 1 else runeBoundary s cut

def clampToValidUTF8Bound (s : GoString) (max : Nat) : GoString × Bool :=
  if s.length ≤ max ∧ Utf8.validString s = true then (s, false)
  else
    let out := s.take (runeBoundary s (min max s.length))
    (if Utf8.validString out then out else Utf8.toValidUTF8 out, true)

def clampDenomMetadataBounds (schema data : GoString) : GoString × GoString × Bool :=
  let clampedSchema := clampToValidUTF8Bound schema maxDenomSchemaLen
  let clampedData := clampToValidUTF8Bound data maxDenomDataLen
  (clampedSchema.1, clampedData.1, clampedSchema.2 || clampedData.2)

def classMetadataIssue (class_ : GoString × Class) : Option ExportIssue :=
  match class_.2.data with
  | .absent => some ⟨class_.1, .classMetadataMissing,
      ("class has no metadata blob on chain; the exported genesis will carry empty creator/schema/data " ++
        "and unset restrictions for it", [])⟩
  | .unreadable err => some ⟨class_.1, .classMetadata, ("%s", [.s err])⟩
  | .value _ => none

/-- The denom as it is exported, with the issue when its schema or its data had to be cut. -/
def classMetadataBoundsIssue (denom : Denom) : Denom × Option ExportIssue :=
  let (clampedSchema, clampedData, changed) := clampDenomMetadataBounds denom.schema denom.data
  if changed = false then (denom, none)
  else
    ({ denom with schema := clampedSchema, data := clampedData },
      some ⟨denom.id, .classMetadataTooLarge,
        ("denom metadata exceeds the genesis bounds and was truncated to keep the export importable: " ++
          "schema %d -> %d bytes, data %d -> %d bytes",
          [.d denom.schema.length, .d clampedSchema.length, .d denom.data.length, .d clampedData.length])⟩)

def supplyIssue (B : ByteStore) (classID : GoString) (held : Nat) : Option ExportIssue :=
  let stored := NftStore.getTotalSupply B classID
  if stored = held then none
  else some ⟨classID, .supplyMismatch,
    ("class holds %d nft(s) but its stored total supply counter is %d", [.d held, .d stored])⟩

def denomFromClass (class_ : GoString × Class) : Denom :=
  let (id, cl) := class_
  ⟨id, cl.name, [], [], cl.symbol, false, false, cl.description, cl.uri, cl.uriHash, []⟩

section

variable (X : Extern) (R : NftStore.Records)

/-- `GetDenomInfo` over the store. -/
def NftStore.getDenomInfo (B : ByteStore) (denomID : GoString) : Except Error Denom := do
  match ← NftStore.getClass R B denomID with
  | none => .error (wrapf .invalidDenom "denom ID %s not exists" [.s denomID])
  | some (id, cl) => do
    let m ← unmarshal DenomMetadata.zero cl.data
    .ok ⟨id, cl.name, m.schema, m.creator, cl.symbol, m.mintRestricted, m.updateRestricted,
      cl.description, cl.uri, cl.uriHash, m.data⟩

def getNFTs (B : ByteStore) (denom : GoString) : Except Error (List BaseNFT) := do
  let tokens ← NftStore.getNFTsOfClass R B denom
  .ok (tokens.map fun (_, id, token) =>
    let m := shownMetadata token.data
    ⟨id, m.name, token.uri, m.data, X.accString (NftStore.getOwner B denom id), token.uriHash⟩)

/-- One class of the export walk. -/
def exportCollection (B : ByteStore) (class_ : GoString × Class) :
    Except Error (DenomCollection × List ExportIssue) := do
  let nfts ← getNFTs X R B class_.1
  let denom := match NftStore.getDenomInfo R B class_.1 with
    | .ok denom => denom
    | .error _ => denomFromClass class_
  let clamped := classMetadataBoundsIssue denom
  .ok (⟨clamped.1, nfts⟩, (classMetadataIssue class_).toList ++ clamped.2.toList ++
    (supplyIssue B class_.1 nfts.length).toList)

def getCollectionsWithReport (B : ByteStore) : Except Error (List DenomCollection × List ExportIssue) := do
  let classes ← NftStore.getClasses R B
  let exported ← classes.mapM (exportCollection X R B)
  .ok (exported.map Prod.fst, (exported.map Prod.snd).flatten)

def exportGenesis (B : ByteStore) : Except Error GenesisState := do
  let (collections, _) ← getCollectionsWithReport X R B
  .ok ⟨collections⟩

end

end Uptick.Collection
