import Uptick.Chain
import Uptick.Erc721.Msg

/-!
# Resolving the ids of a conversion

`keeper/nft_data.go`, `keeper/register.go` and `DeployERC721Contract` of `keeper/evm.go`: the class and
NFT ids of a batch of ERC721 tokens, the contract and token ids of a batch of NFTs, and the
registration of a pair on first use.
-/

namespace Uptick.Erc721

open Text Evm Outcome

/-- The kinds of identifier that `getNftData` resolves, in the order of the source's numbers. -/
inductive NftType
  | nftId | classId | tokenId | contractAddress
  deriving DecidableEq, Repr

section Ids

variable (X : Extern)

def createNftDataByType (nftOrg : GoString) : NftType → GoString
  | .nftId => createNFTIDFromTokenID nftOrg
  | .classId => createClassIDFromContractAddress nftOrg
  | .tokenId => createTokenIDFromNFTID X nftOrg
  | .contractAddress => createContractAddressFromClassID nftOrg

def nftDataAgrees (nftSaved nftOrg : GoString) : NftType → Bool
  | .tokenId => equalEVMTokenID nftSaved nftOrg
  | .contractAddress => equalContractAddress nftSaved nftOrg
  | _ => nftSaved == nftOrg

def getNftDataErrorByType (nftSaved nftOrg : GoString) : NftType → Error
  | .nftId => wrapf .nftIdNotCorrect "nft id is not correct expect %s - get %s" [.s nftSaved, .s nftOrg]
  | .classId => wrapf .classIdNotCorrect "class id is not correct expect %s - get %s" [.s nftSaved, .s nftOrg]
  | .tokenId => wrapf .tokenIdNotCorrect "token id is not correct expect %s - get %s" [.s nftSaved, .s nftOrg]
  | .contractAddress => wrapf .contractAddressNotCorrect
      "contract address is not correct expect %s - get %s" [.s nftSaved, .s nftOrg]

/-- The caller's value, the saved one, or a derived one; a caller that contradicts is refused. -/
def getNftData (nftOrg nftPairOrg nftSaved : GoString) (nftType : NftType) : Except Error GoString :=
  if nftOrg = [] ∧ nftSaved = [] then .ok (createNftDataByType X nftPairOrg nftType)
  else if nftOrg = [] then .ok nftSaved
  else if nftSaved = [] ∨ nftDataAgrees nftSaved nftOrg nftType = true then .ok nftOrg
  else .error (getNftDataErrorByType nftSaved nftOrg nftType)

/-- The loop of `getNftDatas`. A saved value is carried on when the list of saved values runs out. -/
def getNftDatasFrom (nftType : NftType) :
    GoString → List GoString → List GoString → List GoString → Except Error (List GoString)
  | _, _, _, [] => .ok []
  | nftSaved, nftOrgs, nftSaveds, nftPairOrg :: nftPairOrgs => do
    let nftSaved := nftSaveds.headD nftSaved
    let ret ← getNftData X (nftOrgs.headD []) nftPairOrg nftSaved nftType
    let rets ← getNftDatasFrom nftType nftSaved nftOrgs.tail nftSaveds.tail nftPairOrgs
    .ok (ret :: rets)

def getNftDatas (nftOrgs nftPairOrgs nftSaveds : List GoString) (nftType : NftType) :
    Except Error (List GoString) :=
  getNftDatasFrom X nftType [] (if nftPairOrgs.length = nftOrgs.length then nftOrgs else []) nftSaveds nftPairOrgs

/-- One round of `GetClassIDAndNFTID`: the class and the NFT of one token. -/
def getClassIDAndNFTIDOf (st : Store) (msg : MsgConvertERC721) (tokenId nftOrg : GoString) :
    Except Error (GoString × GoString) := do
  let savedPair := (resolveNFTUIDPair X st msg.evmContractAddress tokenId).1
  let (savedNftId, savedClassId) := getNFTFromUID savedPair
  require (savedPair = [] ∨ savedNftId ≠ [] ∧ savedClassId ≠ []) (wrapf .invalidRequest
    "invalid ERC721 NFT UID pair for token %s" [.s (createTokenUID msg.evmContractAddress tokenId)])
  let nftId ← getNftData X nftOrg tokenId savedNftId .nftId
  let classId ← getNftData X msg.classId msg.evmContractAddress savedClassId .classId
  .ok (classId, nftId)

/-- The class of the last token and the NFT of each. -/
def getClassIDAndNFTIDFrom (st : Store) (msg : MsgConvertERC721) :
    GoString → List GoString → List GoString → Except Error (GoString × List GoString)
  | classId, [], _ => .ok (classId, [])
  | _, tokenId :: tokenIds, nftOrgs => do
    let (classId, nftId) ← getClassIDAndNFTIDOf X st msg tokenId (nftOrgs.headD [])
    let (classId, nftIds) ← getClassIDAndNFTIDFrom st msg classId tokenIds nftOrgs.tail
    .ok (classId, nftId :: nftIds)

def getClassIDAndNFTID (st : Store) (msg : MsgConvertERC721) : Except Error (GoString × List GoString) :=
  getClassIDAndNFTIDFrom X st msg [] msg.evmTokenIds msg.cosmosTokenIds

end Ids

variable {C : Chain}

def deployERC721Contract (w : World C) (classId : GoString) : Except Error (World C × Address) :=
  match Collection.getDenomInfo w.nft classId with
  | .error err => .error (wrapf .abiPack "nft class is invalid %s: %s" [.s classId, .e err.root])
  | .ok class_ => do
    let args : CtorArgs := ⟨class_.name, class_.symbol, class_.uri, class_.data, class_.description,
      class_.mintRestricted, class_.schema, class_.updateRestricted, class_.uriHash⟩
    let nonce ← C.evm.sequence w.evm moduleAddress
    let contractAddr := C.createAddress moduleAddress nonce
    let evm ← mapError (·.wrapf "failed to deploy contract for %s" [.s class_.id])
      (C.evm.deploy w.evm moduleAddress args)
    .ok ({ w with evm := evm }, contractAddr)

/-- `QueryNFTEnhance`: a contract without the enhanced query is asked for the URI alone. -/
def queryNFTEnhance (w : World C) (contract : Address) (tokenID : Nat) : Except Error NFTEnhance :=
  match C.evm.getNFTEnhanceInfo w.evm contract tokenID with
  | .ok enhance => .ok enhance
  | .error _ => do
    let uri ← C.evm.tokenURI w.evm contract tokenID
    .ok ⟨[], uri, [], []⟩

/-- The token ids and the contract that the index has for a batch of NFTs; the last contract found wins. -/
def savedTokens (st : Store) (classId : GoString) : List GoString → GoString → List GoString × GoString
  | [], savedContractAddress => ([], savedContractAddress)
  | nftId :: nftIds, savedContractAddress =>
    let (savedTokenId, contract) :=
      getNFTFromUID (getTokenUIDPairByNFTUID st (createNFTUID classId nftId))
    let (rest, last) := savedTokens st classId nftIds (if contract ≠ [] then contract else savedContractAddress)
    (savedTokenId :: rest, last)

/-- A token that is bound already must be bound to the NFT that is converted. -/
def checkForward (st : Store) (pair : TokenPair) (classId : GoString) (tokenIDnftID : GoString × GoString) :
    Except Error Unit :=
  let forward := getNFTPairByContractTokenID C.toExtern st pair.erc721Address tokenIDnftID.1
  let expectedNFTUID := createNFTUID classId tokenIDnftID.2
  require (tokenIDnftID.1 = [] ∨ forward = [] ∨ forward = expectedNFTUID) (wrapf .nftMappingConflict
    "erc721 token %s is already bound to nft %s, not %s"
    [.s tokenIDnftID.1, .s forward, .s expectedNFTUID])

def getContractAddressAndTokenIds (w : World C) (msg : MsgConvertNFT) :
    Except Error (World C × GoString × List GoString) :=
  match getPairByClass w.erc721 msg.classId with
  | .error _ => do
    let evmTokenIds ← getNftDatas C.toExtern msg.evmTokenIds msg.cosmosTokenIds [] .tokenId
    let (w, contract) ← deployERC721Contract w msg.classId
    require (contract ≠ zeroAddress) (wrapf .internalTokenPair "deployed erc721 contract address is empty" [])
    .ok (w, contract.hex C.keccak256, evmTokenIds)
  | .ok pair => do
    let (savedTokenIds, savedContractAddress) := savedTokens w.erc721 msg.classId msg.cosmosTokenIds []
    let evmTokenIds ← getNftDatas C.toExtern msg.evmTokenIds msg.cosmosTokenIds savedTokenIds .tokenId
    let evmContractAddress ←
      getNftData C.toExtern msg.evmContractAddress msg.classId savedContractAddress .contractAddress
    let evmContractAddress := if evmContractAddress = [] then pair.erc721Address else evmContractAddress
    require (evmContractAddress = [] ∨ equalContractAddress evmContractAddress pair.erc721Address = true)
      (wrapf .contractAddressNotCorrect "contract address is not correct, expect %s got %s"
        [.s pair.erc721Address, .s evmContractAddress])
    forEach (fun _ ids => checkForward (C := C) w.erc721 pair msg.classId ids) ()
      (evmTokenIds.zip msg.cosmosTokenIds)
    .ok (w, pair.erc721Address, evmTokenIds)

/-- Stores a pair and both its map entries. -/
def putPair (X : Extern) (st : Store) (contract : Address) (classId : GoString) : Store :=
  let pair := newTokenPair X contract classId
  let st := setTokenPair X st pair
  let st := setClassMap st pair.classId (pair.getID X)
  setERC721Map X st contract (pair.getID X)

def registerNFT (X : Extern) (st : Store) (msg : MsgConvertNFT) : Except Error Store := do
  require (Collection.isIBCDenom msg.classId = false) (wrapf .invalidRequest
    "ibc voucher class %s is settled natively and cannot be bound to an erc721 contract (R1-C)"
    [.s msg.classId])
  require (isClassRegistered st msg.classId = false)
    (wrapf .tokenPairAlreadyExists "class ID already registered: %s" [.s msg.classId])
  let contract := hexToAddress msg.evmContractAddress
  require (isERC721Registered X st contract = false) (wrapf .tokenPairAlreadyExists
    "contract %s already bound to a registered pair" [.s (contract.hex X.keccak256)])
  .ok (putPair X st contract msg.classId)

/-- The metadata of a class made from a contract: empty when the contract does not answer, refused when
its restriction flags cannot be read. -/
def classEnhanceOf (w : World C) (contract : Address) : Except Error ClassEnhance :=
  match C.evm.getClassEnhanceInfo w.evm contract with
  | .ok enhance => .ok enhance
  | .error err =>
    if err.root = .classEnhanceRestrictions then .error err
    else .ok ⟨[], [], false, [], false, [], []⟩

def createNFTClass (w : World C) (contract : Address) (classId : GoString) : Except Error (World C) := do
  let name ← C.evm.name w.evm contract
  let symbol ← C.evm.symbol w.evm contract
  require (isClassRegistered w.erc721 classId = false)
    (wrapf .tokenPairAlreadyExists "nft class already registered: %s" [.s classId])
  require ((Collection.getDenomInfo w.nft classId).toBool = false) (wrapf .internalTokenPair
    "native NFT class %s already exists but is not registered as an erc721 pair" [.s classId])
  let enhance ← classEnhanceOf w contract
  let fields : Collection.DenomFields := ⟨name, enhance.schema, symbol, enhance.mintRestricted,
    enhance.updateRestricted, enhance.description, enhance.uri, enhance.uriHash, enhance.data⟩
  let nft ← Collection.saveDenom C.toExtern C.nk w.nft classId fields accModuleAddress
  .ok { w with nft := nft }

/-- `RegisterERC721`, with the class id that it leaves in the message. -/
def registerERC721 (w : World C) (msg : MsgConvertERC721) : Except Error (World C × GoString) := do
  let contract := hexToAddress msg.evmContractAddress
  require (isERC721Registered C.toExtern w.erc721 contract = false) (wrapf .tokenPairAlreadyExists
    "token ERC721 contract already registered: %s" [.s (contract.hex C.keccak256)])
  let derivedClassID := createClassIDFromContractAddress msg.evmContractAddress
  require (isBlank msg.classId = true ∨ msg.classId = derivedClassID) (wrapf .tokenPairNotFound
    "class ID %s does not match ERC721 contract derived class ID %s" [.s msg.classId, .s derivedClassID])
  let w ← mapError (·.wrapf "failed to create wrapped coin denom metadata for ERC721" [])
    (createNFTClass w contract derivedClassID)
  .ok ({ w with erc721 := putPair C.toExtern w.erc721 contract derivedClassID }, derivedClassID)

end Uptick.Erc721
