import Uptick.Chain

/-!
# Resolving and registering pairs of x/cw721

`keeper/nft_data.go`, `keeper/register.go` and the deployment of `keeper/wasm.go`. They have the shape
of x/erc721; where they do something else, a comment says so.
-/

namespace Uptick.Cw721

open Text Outcome

def maxCW721BatchSize : Nat := 100

inductive NftType
  | nftId | classId | tokenId | contractAddress
  deriving DecidableEq, Repr

def createNftDataByType (nftOrg : GoString) : NftType → GoString
  | .nftId => createNFTIDFromTokenID nftOrg
  | .classId => createClassIDFromContractAddress nftOrg
  | .tokenId => createTokenIDFromNFTID nftOrg
  | .contractAddress => createContractAddressFromClassID nftOrg

def getNftDataErrorByType (nftSaved nftOrg : GoString) : NftType → Error
  | .nftId => wrapf .cw721NftIdNotCorrect "nft id is not correct expect %s - get %s" [.s nftSaved, .s nftOrg]
  | .classId => wrapf .cw721ClassIdNotCorrect "class id is not correct expect %s - get %s" [.s nftSaved, .s nftOrg]
  | .tokenId => wrapf .cw721TokenIdNotCorrect "token id is not correct expect %s - get %s" [.s nftSaved, .s nftOrg]
  | .contractAddress => wrapf .cw721ContractAddressNotCorrect
      "contract address is not correct expect %s - get %s" [.s nftSaved, .s nftOrg]

/-- All kinds of identifier are compared as texts here. -/
def getNftData (nftOrg nftPairOrg nftSaved : GoString) (nftType : NftType) : Except Error GoString :=
  if nftOrg = [] ∧ nftSaved = [] then .ok (createNftDataByType nftPairOrg nftType)
  else if nftOrg = [] then .ok nftSaved
  else if nftSaved = [] ∨ nftSaved = nftOrg then .ok nftOrg
  else .error (getNftDataErrorByType nftSaved nftOrg nftType)

def getNftDatasFrom (nftType : NftType) :
    GoString → List GoString → List GoString → List GoString → Except Error (List GoString)
  | _, _, _, [] => .ok []
  | nftSaved, nftOrgs, nftSaveds, nftPairOrg :: nftPairOrgs => do
    let nftSaved := nftSaveds.headD nftSaved
    let ret ← getNftData (nftOrgs.headD []) nftPairOrg nftSaved nftType
    let rets ← getNftDatasFrom nftType nftSaved nftOrgs.tail nftSaveds.tail nftPairOrgs
    .ok (ret :: rets)

def getNftDatas (nftOrgs nftPairOrgs nftSaveds : List GoString) (nftType : NftType) :
    Except Error (List GoString) :=
  getNftDatasFrom nftType [] (if nftPairOrgs.length = nftOrgs.length then nftOrgs else []) nftSaveds nftPairOrgs

def getClassIDAndNFTIDOf (st : Store) (msg : MsgConvertCW721) (tokenId nftOrg : GoString) :
    Except Error (GoString × GoString) := do
  let uTokenId := createTokenUID msg.contractAddress tokenId
  let savedPair := getNFTUIDPairByTokenUID st uTokenId
  let (savedNftId, savedClassId) := getNFTFromUID savedPair
  require (savedPair = [] ∨ savedNftId ≠ [] ∧ savedClassId ≠ [])
    (wrapf .invalidRequest "invalid CW721 NFT UID pair for token %s" [.s uTokenId])
  let nftId ← getNftData nftOrg tokenId savedNftId .nftId
  let classId ← getNftData msg.classId msg.contractAddress savedClassId .classId
  .ok (classId, nftId)

def getClassIDAndNFTIDFrom (st : Store) (msg : MsgConvertCW721) :
    GoString → List GoString → List GoString → Except Error (GoString × List GoString)
  | classId, [], _ => .ok (classId, [])
  | _, tokenId :: tokenIds, nftOrgs => do
    let (classId, nftId) ← getClassIDAndNFTIDOf st msg tokenId (nftOrgs.headD [])
    let (classId, nftIds) ← getClassIDAndNFTIDFrom st msg classId tokenIds nftOrgs.tail
    .ok (classId, nftId :: nftIds)

def getClassIDAndNFTID (st : Store) (msg : MsgConvertCW721) : Except Error (GoString × List GoString) :=
  getClassIDAndNFTIDFrom st msg [] msg.tokenIds msg.nftIds

/-- The saved token ids of a batch. An NFT without a binding is given the token id and the contract of the
one before it, since the source does not reset them. -/
def savedTokens (st : Store) (classId : GoString) :
    List GoString → GoString × GoString → GoString → Except Error (List GoString × GoString)
  | [], _, savedContractAddress => .ok ([], savedContractAddress)
  | nftId :: nftIds, previous, savedContractAddress => do
    let uNftID := createNFTUID classId nftId
    let savedPair := getTokenUIDPairByNFTUID st uNftID
    let current := if savedPair = [] then previous else getNFTFromUID savedPair
    require (savedPair = [] ∨ current.1 ≠ [] ∧ current.2 ≠ [])
      (wrapf .invalidRequest "invalid CW721 token UID pair for nft %s" [.s uNftID])
    let (rest, last) ← savedTokens st classId nftIds current
      (if current.2 ≠ [] then current.2 else savedContractAddress)
    .ok (current.1 :: rest, last)

variable {C : Chain}

/-- `strconv.ParseUint(s, 10, 64)` -/
def parseUint (s : GoString) : Option Nat :=
  match Numeral.parseNat 10 s with
  | some n => if n < 2 ^ 64 then some n else none
  | none => none

/-- The first of the keys under which a usable code id is stored. -/
def getWasmCodeIDFrom (st : Store) : List GoString → Except Error Nat
  | [] => .error ⟨.cw721CodeNotFound, []⟩
  | key :: keys =>
    let bz := st.wasmCode.get key
    if bz = [] then getWasmCodeIDFrom st keys
    else
      match parseUint bz with
      | none => .error (wrapf .cw721CodeNotFound "invalid wasm code id: %s" [.s bz])
      | some 0 => getWasmCodeIDFrom st keys
      | some codeID => .ok codeID

def getWasmCodeID (X : Extern) (st : Store) : Except Error Nat :=
  getWasmCodeIDFrom st [X.accString accModuleAddress, str "cw721"]

def deployCW721Contract (w : World C) (classId : GoString) : Except Error (World C × GoString) := do
  let codeID ← getWasmCodeID C.toExtern w.cw721
  match Collection.getDenomInfo w.nft classId with
  | .error err => .error (wrapf .cw721ClassNotExist "nft class is invalid %s: %s" [.s classId, .e err.root])
  | .ok class_ =>
    let name := if class_.name = [] then class_.id else class_.name
    let symbol := if class_.symbol = [] then class_.id else class_.symbol
    let (contract, wasm) ← C.wasm.instantiate w.wasm accModuleAddress
      ⟨codeID, class_.id, name, symbol, C.accString accModuleAddress⟩
    .ok ({ w with wasm := wasm }, C.accString contract)

def checkForward (st : Store) (pair : TokenPair) (classId : GoString) (tokenIDnftID : GoString × GoString) :
    Except Error Unit :=
  let forward := getNFTPairByContractTokenID st pair.cw721Address tokenIDnftID.1
  let expectedNFTUID := createNFTUID classId tokenIDnftID.2
  require (tokenIDnftID.1 = [] ∨ forward = [] ∨ forward = expectedNFTUID) (wrapf .cw721MappingConflict
    "cw721 token %s is already bound to nft %s, not %s"
    [.s tokenIDnftID.1, .s forward, .s expectedNFTUID])

/-- An unregistered class may not name a contract of its own; x/erc721 ignores the name instead. -/
def getContractAddressAndTokenIds (w : World C) (msg : MsgConvertNFT) :
    Except Error (World C × GoString × List GoString) :=
  match getPairByClass w.cw721 msg.classId with
  | .error _ => do
    let tokenIds ← getNftDatas msg.tokenIds msg.nftIds [] .tokenId
    require (isBlank msg.contractAddress = true) (wrapf .cw721ContractAddressNotCorrect
      "unregistered class %s cannot bind to a caller-supplied contract" [.s msg.classId])
    let (w, contractAddress) ← deployCW721Contract w msg.classId
    .ok (w, contractAddress, tokenIds)
  | .ok pair => do
    let (savedTokenIds, savedContractAddress) ← savedTokens w.cw721 msg.classId msg.nftIds ([], []) []
    let tokenIds ← getNftDatas msg.tokenIds msg.nftIds savedTokenIds .tokenId
    let contractAddress ← getNftData msg.contractAddress msg.classId savedContractAddress .contractAddress
    let contractAddress := if contractAddress = [] then pair.cw721Address else contractAddress
    require (contractAddress = [] ∨ equalFold contractAddress pair.cw721Address = true)
      (wrapf .cw721ContractAddressNotCorrect "contract address is not correct, expect %s got %s"
        [.s pair.cw721Address, .s contractAddress])
    forEach (fun _ ids => checkForward w.cw721 pair msg.classId ids) () (tokenIds.zip msg.nftIds)
    .ok (w, pair.cw721Address, tokenIds)

def putPair (X : Extern) (st : Store) (contractAddress classId : GoString) : Store :=
  let pair : TokenPair := ⟨contractAddress, classId⟩
  let st := setTokenPair X st pair
  let st := setClassMap st pair.classId (pair.getID X)
  setCW721Map X st pair.cw721Address (pair.getID X)

def registerNFT (X : Extern) (st : Store) (msg : MsgConvertNFT) : Except Error Store := do
  require (Collection.isIBCDenom msg.classId = false) (wrapf .invalidRequest
    "ibc voucher class %s is settled natively and cannot be bound to a cw721 contract (R1-C)"
    [.s msg.classId])
  let contractAddress ← normalizeCW721Address X msg.contractAddress
  require (isClassRegistered st msg.classId = false)
    (wrapf .cw721TokenPairAlreadyExists "class ID already registered: %s" [.s msg.classId])
  require (isCW721Registered X st contractAddress = false) (wrapf .cw721TokenPairAlreadyExists
    "token CW721 contract already registered: %s" [.s contractAddress])
  require (isBlank msg.classId = false)
    (wrapf .cw721InternalTokenPair "class ID must not be empty: %s" [.s msg.classId])
  .ok (putPair X st contractAddress msg.classId)

/-- `QueryWasmState` and `ExecuteContract` name a contract by its address. -/
def contractAccount (X : Extern) (contractAddress : GoString) : Except Error AccAddress :=
  X.decodeAcc contractAddress

/-- The class gets no restriction: the flags of `ClassEnhance` are left at their zero values. -/
def createNFTClass (w : World C) (contractAddress classId : GoString) : Except Error (World C) := do
  let contract ← contractAccount C.toExtern contractAddress
  let info ← C.wasm.contractInfo w.wasm contract
  require (isClassRegistered w.cw721 classId = false)
    (wrapf .cw721TokenPairAlreadyExists "nft class already registered: %s" [.s classId])
  require ((Collection.getDenomInfo w.nft classId).toBool = false) (wrapf .cw721InternalTokenPair
    "native NFT class %s already exists but is not registered as a cw721 pair" [.s classId])
  let nft ← Collection.saveDenom C.toExtern C.nk w.nft classId
    ⟨info.name, [], info.symbol, false, false, [], [], [], []⟩ accModuleAddress
  .ok { w with nft := nft }

/-- `RegisterCW721`, with the class id that it leaves in the message. -/
def registerCW721 (w : World C) (msg : MsgConvertCW721) : Except Error (World C × GoString) := do
  let contractAddress ← normalizeCW721Address C.toExtern msg.contractAddress
  require (isCW721Registered C.toExtern w.cw721 contractAddress = false)
    (wrapf .cw721TokenPairAlreadyExists "token CW721 contract already registered: %s" [.s contractAddress])
  let derivedClassID := createClassIDFromContractAddress contractAddress
  let trimmedClassID := trimSpace msg.classId
  require (trimmedClassID = [] ∨ trimmedClassID = derivedClassID) (wrapf .cw721TokenPairNotFound
    "class ID %s does not match CW721 contract derived class ID %s" [.s trimmedClassID, .s derivedClassID])
  let classId := if trimmedClassID = [] then derivedClassID else msg.classId
  let w ← mapError (·.wrapf "failed to create wrapped coin denom metadata for CW721" [])
    (createNFTClass w contractAddress classId)
  .ok ({ w with cw721 := putPair C.toExtern w.cw721 contractAddress classId }, classId)

end Uptick.Cw721
