import Uptick.Collection.Genesis

/-!
# The migration of x/collection from version 1 to 2

`migrations/v2`: the legacy records of irismod/nft are read from their keys and written as records of x/nft into the
same store, each legacy key being deleted after its record was written; and the scan that looks for records on which
this would fail. An iterator ranges over what the store held when it was opened.
-/

namespace Uptick.Collection.Migration

open Text Outcome NftStore

/-- The delimiter of the legacy keys, a slash. -/
def delimiter : GoString := [47]

def keyDenom (id : GoString) : GoString := 0x04 :: (delimiter ++ id)

def keyDenomName (name : GoString) : GoString := 0x05 :: (delimiter ++ name)

def keyNFT (denomID tokenID : GoString) : GoString :=
  0x01 :: (delimiter ++ (if denomID = [] then [] else denomID ++ delimiter) ++
    if denomID = [] ∨ tokenID = [] then [] else tokenID)

def keyCollection (denomID : GoString) : GoString := 0x03 :: (delimiter ++ denomID)

def keyOwner (X : Extern) (address : AccAddress) (denomID tokenID : GoString) : GoString :=
  0x02 :: (delimiter ++ (if address = [] then [] else X.accString address ++ delimiter) ++
    (if address = [] ∨ denomID = [] then [] else denomID ++ delimiter) ++
    if address = [] ∨ denomID = [] ∨ tokenID = [] then [] else tokenID)

/-- The protobuf decoding of the legacy records. -/
structure LegacyCodec where
  unmarshalDenom : GoString → Except Error Denom
  unmarshalBaseNFT : GoString → Except Error BaseNFT

section

variable (R : Records)

/-- `Delete`, which panics on a key that the store does not take. -/
def delete (B : ByteStore) (k : GoString) : Except Error ByteStore := do
  require (validKey R k = true) (external "invalid store key")
  .ok (B.delete k)

def maxUint64 : Nat := 2 ^ 64 - 1

def incrTotalSupply (B : ByteStore) (classID : GoString) : Except Error ByteStore := do
  let current := getTotalSupply B classID
  require (current ≠ maxUint64) (⟨.external [], [("total supply overflow for class %s", [.s classID])]⟩)
  updateTotalSupply R B classID (current + 1)

/-- `saveNFT` of the migration: the token is not looked up first. -/
def saveNFT (B : ByteStore) (denomID tokenID : GoString) (f : TokenFields) (receiver : AccAddress) :
    Except Error ByteStore := do
  let B ← setNFT R B denomID tokenID ⟨f.uri, f.uriHash, .value ⟨f.name, f.data⟩⟩
  let B ← setOwner R B denomID tokenID receiver
  incrTotalSupply R B denomID

end

variable (X : Extern) (K : Keeper) (cdc : LegacyCodec)

/-- One round of `migrateToken`. -/
def migrateNFT (denomID : GoString) (B : ByteStore) (entry : GoString × GoString) : Except Error ByteStore := do
  let baseNFT ← cdc.unmarshalBaseNFT entry.2
  let owner ← X.decodeAcc baseNFT.owner
  let B ← saveNFT K.toRecords B denomID baseNFT.id baseNFT.fields owner
  let B ← delete K.toRecords B (keyNFT denomID baseNFT.id)
  delete K.toRecords B (keyOwner X owner denomID baseNFT.id)

def migrateToken (B : ByteStore) (denomID : GoString) : Except Error ByteStore :=
  forEach (migrateNFT X K cdc denomID) B (B.withPrefix (keyNFT denomID []))

/-- One round of `Migrate`. -/
def migrateDenom (B : ByteStore) (entry : GoString × GoString) : Except Error ByteStore := do
  let denom ← cdc.unmarshalDenom entry.2
  let creator ← X.decodeAcc denom.creator
  let B ← NftStore.saveDenom X K B denom.id denom.fields creator
  let B ← delete K.toRecords B (keyDenom denom.id)
  let B ← delete K.toRecords B (keyDenomName denom.name)
  let B ← delete K.toRecords B (keyCollection denom.id)
  migrateToken X K cdc B denom.id

def migrate (B : ByteStore) : Except Error ByteStore :=
  forEach (migrateDenom X K cdc) B (B.withPrefix (keyDenom []))

inductive ProblemKind
  | denom
  | nft
  deriving DecidableEq, Repr

/-- A legacy record that the migration would fail on. -/
structure Problem where
  kind : ProblemKind
  storeKey : GoString
  denomID : GoString
  tokenID : GoString
  reason : String × List Arg
  deriving DecidableEq, Repr

def legacyDenomIDFromKey (key : GoString) : GoString := key.drop (keyDenom []).length

/-- The two parts of an NFT key, cut at the first delimiter behind its head. -/
def legacyNFTKeyParts (key : GoString) : GoString × GoString :=
  let rest := key.drop (keyNFT [] []).length
  (rest.takeWhile (· ≠ 47), (rest.dropWhile (· ≠ 47)).drop 1)

def precheckDenom (entry : GoString × GoString) : List Problem :=
  match cdc.unmarshalDenom entry.2 with
  | .error err => [⟨.denom, entry.1, legacyDenomIDFromKey entry.1, [], ("unmarshal Denom: %v", [.e err.root])⟩]
  | .ok denom =>
    match X.accAddressFromBech32 denom.creator with
    | .error text => [⟨.denom, entry.1, denom.id, [], ("creator bech32 %q: %v", [.q denom.creator, .s text])⟩]
    | .ok _ => []

def precheckNFT (entry : GoString × GoString) : List Problem :=
  let (denomID, tokenID) := legacyNFTKeyParts entry.1
  match cdc.unmarshalBaseNFT entry.2 with
  | .error err => [⟨.nft, entry.1, denomID, tokenID, ("unmarshal BaseNFT: %v", [.e err.root])⟩]
  | .ok baseNFT =>
    match X.accAddressFromBech32 baseNFT.owner with
    | .error text => [⟨.nft, entry.1, denomID, tokenID, ("owner bech32 %q: %v", [.q baseNFT.owner, .s text])⟩]
    | .ok _ => []

def precheckLegacyStore (B : ByteStore) : List Problem :=
  (B.withPrefix (keyDenom [])).flatMap (precheckDenom X cdc) ++
    (B.withPrefix (keyNFT [] [])).flatMap (precheckNFT X cdc)

end Uptick.Collection.Migration
