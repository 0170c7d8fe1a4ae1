import Uptick.Erc721.Resolve

/-!
# The message server of x/erc721

`ConvertNFT`, `ConvertERC721` and `TransferERC721` of `keeper/msg_server.go`. A handler that fails
returns its error and leaves no trace, as the SDK discards the writes of a failed message.
-/

namespace Uptick.Erc721

open Text Evm Outcome

def maxERC721BatchSize : Nat := 100

/-- `types.MsgConvertERC721Response` -/
structure MsgConvertERC721Response where
  evmContractAddress : GoString
  evmTokenIds : List GoString
  cosmosReceiver : GoString
  evmSender : GoString
  classId : GoString
  cosmosTokenIds : List GoString
  deriving DecidableEq, Repr

/-- The length checks at the head of both conversions. -/
def checkBatch (evmTokenIds cosmosTokenIds : List GoString) : Except Error Unit := do
  require (evmTokenIds.length ≠ 0 ∧ evmTokenIds.length = cosmosTokenIds.length)
    (wrapf .invalidRequest "evm token ids and cosmos token ids length mismatch" [])
  require (evmTokenIds.length ≤ maxERC721BatchSize) (wrapf .invalidRequest
    "ERC721 batch size %d exceeds maximum %d" [.d evmTokenIds.length, .d maxERC721BatchSize])

/-- The class ids that a lost contract can be replaced for: not those named after a contract. -/
def pairContractRedeployable (classID : GoString) : Bool := !hasPrefix classID (defaultPrefix ++ str "-")

variable {C : Chain}

/-- The call of `SetNFTPairs` for one token and NFT of a batch. -/
def bindPair (contractAddress classId : GoString) (st : Store) (ids : GoString × GoString) :
    Except Error Store :=
  match setNFTPairs C.toExtern st contractAddress ids.1 classId ids.2 with
  | (.ok (), st) => .ok st
  | (.error err, _) => .error err

def bindPairs (st : Store) (contractAddress classId : GoString) (ids : List (GoString × GoString)) :
    Except Error Store :=
  forEach (bindPair (C := C) contractAddress classId) st ids

/-- `mintEnhance`, or `mint` when the contract refuses it. -/
def mintERC721 (evm : C.evm.State) (contract receiver : Address) (tokenID : Nat) (info : Collection.BaseNFT) :
    Except Error C.evm.State :=
  match C.evm.mintEnhance evm contract receiver tokenID ⟨info.name, info.uri, info.data, info.uriHash⟩ with
  | .ok evm => .ok evm
  | .error _ => C.evm.mint evm contract receiver tokenID info.uri

/-- Hands the ERC721 token of an NFT to the receiver: a token without a binding is minted, a bound one
is released from the module account. -/
def releaseERC721 (w : World C) (contract receiver : Address) (contractAddress classId : GoString)
    (tokenId nftId : GoString) (bigTokenId : Nat) (info : Collection.BaseNFT) :
    Except Error C.evm.State := do
  let nftPair := getNFTPairByContractTokenID C.toExtern w.erc721 contractAddress tokenId
  if nftPair = [] then mintERC721 w.evm contract receiver bigTokenId info
  else do
    let expectedNFTUID := createNFTUID classId nftId
    require (nftPair = expectedNFTUID) (wrapf .nftMappingConflict
      "erc721 token %s is already bound to nft %s, not %s" [.s tokenId, .s nftPair, .s expectedNFTUID])
    let owner ← mapError (·.wrapf "failed to query erc721 token owner" [])
      (C.evm.ownerOf w.evm (hexToAddress contractAddress) bigTokenId)
    require (owner = moduleAddress) (wrapf .unauthorized "%s is not the owner of erc721 token %s"
      [.s (moduleAddress.hex C.keccak256), .s tokenId])
    C.evm.safeTransferFrom w.evm moduleAddress contract moduleAddress receiver bigTokenId

/-- One round of `convertCosmos2Evm`: the NFT goes to the module account, its token to the receiver. -/
def cosmos2EvmRound (contract receiver : Address) (contractAddress : GoString) (msg : MsgConvertNFT)
    (w : World C) (ids : GoString × GoString) : Except Error (World C) := do
  let bigTokenId ← parseEVMTokenID ids.1
  let info ← Collection.getNFT C.toExtern w.nft msg.classId ids.2
  let nft ← Collection.transferNFT C.toExtern C.nk w.nft ⟨ids.2, msg.classId,
    ⟨info.name, info.uri, info.uriHash, info.data⟩, msg.cosmosSender, C.accString accModuleAddress⟩
  let w := { w with nft := nft }
  let evm ← releaseERC721 w contract receiver contractAddress msg.classId ids.1 ids.2 bigTokenId info
  .ok { w with evm := evm }

def convertCosmos2Evm (w : World C) (pair : TokenPair) (msg : MsgConvertNFT) (receiver : Address) :
    Except Error (World C) := do
  checkBatch msg.evmTokenIds msg.cosmosTokenIds
  let contract := pair.getERC721Contract
  let contractAddress := canonicalContractAddress (contract.hex C.keccak256)
  let ids := msg.evmTokenIds.zip msg.cosmosTokenIds
  let w ← forEach (cosmos2EvmRound contract receiver contractAddress msg) w ids
  let erc721 ← bindPairs (C := C) w.erc721 contractAddress msg.classId ids
  .ok { w with erc721 := erc721 }

/-- The part of `ConvertNFT` that replaces a pair whose contract has lost its code. -/
def redeployPair (w : World C) (pair : TokenPair) (msg : MsgConvertNFT) :
    Except Error (World C × TokenPair × MsgConvertNFT) := do
  require (pairContractRedeployable msg.classId = true)
    (wrapf .internalTokenPair "erc721 contract %s is self-destructed" [.s pair.erc721Address])
  let w := { w with erc721 := purgeTokenPair C.toExtern w.erc721 pair }
  let (w, contractAddress, tokenIds) ← mapError (·.wrapf
    "failed to re-deploy erc721 contract for class %s after purging self-destructed pair" [.s msg.classId])
    (getContractAddressAndTokenIds w msg)
  let msg := { msg with evmContractAddress := canonicalContractAddress contractAddress, evmTokenIds := tokenIds }
  let erc721 ← mapError (·.wrapf "failed to re-register erc721 token pair for class %s" [.s msg.classId])
    (registerNFT C.toExtern w.erc721 msg)
  let pair ← getPairByClass erc721 msg.classId
  .ok ({ w with erc721 := erc721 }, pair, msg)

/-- Registers the pair of a class on its first conversion. -/
def ensureRegisteredNFT (w : World C) (msg : MsgConvertNFT) : Except Error (World C) :=
  if getERC721Map C.toExtern w.erc721 (hexToAddress msg.evmContractAddress) = [] then do
    let erc721 ← registerNFT C.toExtern w.erc721 msg
    .ok { w with erc721 := erc721 }
  else .ok w

/-- The pair that a conversion goes through: the registered one while its contract has code. -/
def livePair (w : World C) (pair : TokenPair) (msg : MsgConvertNFT) :
    Except Error (World C × TokenPair × MsgConvertNFT) :=
  if C.evm.hasCode w.evm (hexToAddress pair.erc721Address) then .ok (w, pair, msg)
  else redeployPair w pair msg

def convertNFT (w : World C) (msg : MsgConvertNFT) : Except Error (World C) := do
  require (w.erc721.enableErc721 = true) ⟨.erc721Disabled, []⟩
  let msg := { msg with evmContractAddress := canonicalContractAddress msg.evmContractAddress }
  require (msg.cosmosTokenIds.length ≤ maxERC721BatchSize) (wrapf .invalidRequest
    "ERC721 batch size %d exceeds maximum %d" [.d msg.cosmosTokenIds.length, .d maxERC721BatchSize])
  let (w, contractAddress, tokenIds) ← getContractAddressAndTokenIds w msg
  let msg := { msg with evmContractAddress := canonicalContractAddress contractAddress, evmTokenIds := tokenIds }
  let receiver := hexToAddress msg.evmReceiver
  let w ← ensureRegisteredNFT w msg
  let pair ← getPairByClass w.erc721 msg.classId
  require (msg.classId = pair.classId) (wrapf .classIdNotCorrect
    "class id is not correct, expect %s got %s" [.s pair.classId, .s msg.classId])
  let (w, pair, msg) ← livePair w pair msg
  convertCosmos2Evm w pair msg receiver

/-- `validateNoMappingConflict` for one token: a bound token must be bound to the NFT asked for, and
that NFT to this token id. -/
def checkNoMappingConflict (st : Store) (msg : MsgConvertERC721) (ids : GoString × GoString) :
    Except Error Unit := do
  let bound := getNFTPairByContractTokenID C.toExtern st msg.evmContractAddress ids.1
  let expectedNFTUID := createNFTUID msg.classId ids.2
  if bound = [] then .ok ()
  else do
    require (bound = expectedNFTUID) (wrapf .nftMappingConflict
      "erc721 token %s is already bound to nft %s, not %s" [.s ids.1, .s bound, .s expectedNFTUID])
    let reverseBound := getTokenUIDPairByNFTUID st expectedNFTUID
    let boundEvmTokenId := (getNFTFromUID reverseBound).1
    -- the two token ids are compared as texts here
    require (reverseBound = [] ∨ boundEvmTokenId = ids.1) (wrapf .nftMappingConflict
      "nft %s is already bound to erc721 token %s, not %s"
      [.s expectedNFTUID, .s boundEvmTokenId, .s ids.1])

def validateNoMappingConflict (st : Store) (msg : MsgConvertERC721) : Except Error Unit :=
  forEach (fun _ ids => checkNoMappingConflict (C := C) st msg ids) () (msg.evmTokenIds.zip msg.cosmosTokenIds)

/-- Takes the ERC721 token from its owner: burned for a voucher class, escrowed otherwise. -/
def takeERC721 (w : World C) (pair : TokenPair) (sender : Address) (tokenId : GoString) (bigTokenId : Nat) :
    Except Error C.evm.State := do
  let contract := pair.getERC721Contract
  let owner ← mapError (·.wrapf "failed to query ERC721 token owner" []) (C.evm.ownerOf w.evm contract bigTokenId)
  require (owner = sender) (wrapf .unauthorized "%s is not the owner of erc721 token %s"
    [.s (sender.hex C.keccak256), .s tokenId])
  if Collection.isIBCDenom pair.classId then
    mapError (fun err => wrapf .evmCall "failed to burn erc721 token %s: %v" [.s tokenId, .e err.root])
      (C.evm.burn w.evm sender contract bigTokenId)
  else
    mapError (fun err => wrapf .evmCall "failed to safeTransferFrom erc721 token %s: %v" [.s tokenId, .e err.root])
      (C.evm.safeTransferFrom w.evm sender contract sender moduleAddress bigTokenId)

/-- Hands the native NFT to the receiver: minted when the token has no binding, released from the
module account otherwise. -/
def releaseNFT (w : World C) (msg : MsgConvertERC721) (tokenId nftId : GoString) (info : NFTEnhance) :
    Except Error Collection.NftLedger := do
  let fields : Collection.TokenFields := ⟨info.name, info.uri, info.uriHash, info.data⟩
  if getNFTPairByContractTokenID C.toExtern w.erc721 msg.evmContractAddress tokenId = [] then
    mapError (·.wrapf "failed to mint nft" [])
      (Collection.mintNFT C.toExtern C.nk w.nft ⟨nftId, msg.classId, fields,
        C.accString accModuleAddress, msg.cosmosReceiver⟩)
  else do
    let ownerAddr := w.nft.getOwner msg.classId nftId
    require (ownerAddr = accModuleAddress) (wrapf .unauthorized
      "nft %s of class %s is not escrowed by the module account (current owner %s)"
      [.s nftId, .s msg.classId, .s (C.accString ownerAddr)])
    mapError (·.wrapf "failed to transfer nft" [])
      (Collection.transferNFT C.toExtern C.nk w.nft ⟨nftId, msg.classId, fields,
        C.accString accModuleAddress, msg.cosmosReceiver⟩)

/-- One round of `convertEvm2Cosmos`. The metadata is read before the token moves. -/
def evm2CosmosRound (pair : TokenPair) (msg : MsgConvertERC721) (sender : Address) (w : World C)
    (ids : GoString × GoString) : Except Error (World C) := do
  let bigTokenId ← parseEVMTokenID ids.1
  let info ← mapError (·.wrapf "failed to query NFT enhance" [])
    (queryNFTEnhance w pair.getERC721Contract bigTokenId)
  let evm ← takeERC721 w pair sender ids.1 bigTokenId
  let w := { w with evm := evm }
  let nft ← releaseNFT w msg ids.1 ids.2 info
  .ok { w with nft := nft }

/-- The index after the loop of `convertEvm2Cosmos`: a voucher class is unbound, any other bound. -/
def settleIndex (st : Store) (pair : TokenPair) (msg : MsgConvertERC721) : Except Error Store :=
  let ids := msg.evmTokenIds.zip msg.cosmosTokenIds
  if Collection.isIBCDenom pair.classId then
    .ok (ids.foldl (fun st ids =>
      deleteVoucherBindingKeys C.toExtern st msg.evmContractAddress ids.1 msg.classId ids.2) st)
  else bindPairs (C := C) st msg.evmContractAddress msg.classId ids

def convertEvm2Cosmos (w : World C) (pair : TokenPair) (msg : MsgConvertERC721) (sender : Address) :
    Except Error (World C) := do
  checkBatch msg.evmTokenIds msg.cosmosTokenIds
  validateNoMappingConflict (C := C) w.erc721 msg
  let w ← forEach (evm2CosmosRound pair msg sender) w (msg.evmTokenIds.zip msg.cosmosTokenIds)
  let erc721 ← settleIndex (C := C) w.erc721 pair msg
  .ok { w with erc721 := erc721 }

/-- Registers the pair of a contract on its first conversion; the class id may be filled in. -/
def ensureRegisteredERC721 (w : World C) (msg : MsgConvertERC721) : Except Error (World C × GoString) :=
  if getERC721Map C.toExtern w.erc721 (hexToAddress msg.evmContractAddress) = [] then
    mapError (·.wrapf "failed to RegisterERC721" []) (registerERC721 w msg)
  else .ok (w, msg.classId)

/-- `sdk.AccAddressFromBech32(msg.CosmosSender)` with the error of the message server. -/
def decodeSender (X : Extern) (address : GoString) : Except Error AccAddress :=
  match X.accAddressFromBech32 address with
  | .ok acc => .ok acc
  | .error text => .error (wrapf .invalidAddress "invalid cosmos sender: %s" [.s text])

def convertERC721 (w : World C) (msg : MsgConvertERC721) :
    Except Error (World C × MsgConvertERC721Response) := do
  require (w.erc721.enableErc721 = true) ⟨.erc721Disabled, []⟩
  let msg := { msg with evmContractAddress := canonicalContractAddress msg.evmContractAddress }
  let (classId, nftIds) ← getClassIDAndNFTID C.toExtern w.erc721 msg
  let msg := { msg with classId := classId, cosmosTokenIds := nftIds }
  checkBatch msg.evmTokenIds msg.cosmosTokenIds
  let senderAcc ← decodeSender C.toExtern msg.cosmosSender
  let sender := evmAddress senderAcc
  let (w, classId) ← ensureRegisteredERC721 w msg
  let pair ← mapError (·.wrapf "failed to GetPair" [])
    (getPairByEVM C.toExtern w.erc721 msg.evmContractAddress)
  require (C.evm.hasCode w.evm (hexToAddress pair.erc721Address) = true)
    (wrapf .internalTokenPair "erc721 contract %s is self-destructed" [.s pair.erc721Address])
  require (classId = [] ∨ classId = pair.classId) (wrapf .classIdNotCorrect
    "class id is not correct, expect %s got %s" [.s pair.classId, .s classId])
  let msg := { msg with classId := pair.classId }
  let w ← mapError (·.wrapf "failed to convert EVM to cosmos" []) (convertEvm2Cosmos w pair msg sender)
  .ok (w, ⟨msg.evmContractAddress, msg.evmTokenIds, msg.cosmosReceiver, sender.hex C.keccak256,
    msg.classId, msg.cosmosTokenIds⟩)

end Uptick.Erc721
