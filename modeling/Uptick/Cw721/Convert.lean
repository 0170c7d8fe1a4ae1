import Uptick.Cw721.Resolve

/-!
# The message server of x/cw721

`ConvertNFT`, `ConvertCW721`, `TransferCW721` and `RefundPacketToken` of `keeper/msg_server.go`. Events
are left out.
-/

namespace Uptick.Cw721

open Text Outcome

/-- `types.MsgConvertCW721Response` -/
structure MsgConvertCW721Response where
  contractAddress : GoString
  tokenIds : List GoString
  receiver : GoString
  sender : GoString
  classId : GoString
  nftIds : List GoString
  deriving DecidableEq, Repr

def checkBatch (tokenIds nftIds : List GoString) : Except Error Unit := do
  require (tokenIds.length ≠ 0 ∧ tokenIds.length = nftIds.length)
    (wrapf .invalidRequest "CW721 token ids and NFT ids length mismatch" [])
  require (tokenIds.length ≤ maxCW721BatchSize) (wrapf .invalidRequest
    "CW721 batch size %d exceeds maximum %d" [.d tokenIds.length, .d maxCW721BatchSize])

variable {C : Chain}

def bindPairs (st : Store) (contractAddress classId : GoString) (ids : List (GoString × GoString)) :
    Except Error Store :=
  forEach (fun st ids => setNFTPairs st contractAddress ids.1 classId ids.2) st ids

def queryCW721AllNftInfo (w : World C) (contractAddress tokenId : GoString) : Except Error Wasm.AllNftInfo := do
  let contract ← contractAccount C.toExtern contractAddress
  C.wasm.allNftInfo w.wasm contract tokenId

def mintCw721 (w : World C) (contractAddress tokenId owner tokenUri : GoString) : Except Error C.wasm.State := do
  let contract ← contractAccount C.toExtern contractAddress
  C.wasm.mint w.wasm contract tokenId owner tokenUri

def transferCw721 (w : World C) (contractAddress tokenId recipient sender : GoString) :
    Except Error C.wasm.State := do
  let sender ← C.decodeAcc sender
  let contract ← contractAccount C.toExtern contractAddress
  C.wasm.transferNft w.wasm sender contract tokenId recipient

/-- Hands the CW721 token of an NFT to the receiver. Unlike x/erc721, nothing checks that the module
account holds the token before it is moved. -/
def releaseCW721 (w : World C) (msg : MsgConvertNFT) (tokenId nftId uri : GoString) : Except Error C.wasm.State := do
  let nftPair := getNFTPairByContractTokenID w.cw721 msg.contractAddress tokenId
  if nftPair = [] then mintCw721 w msg.contractAddress tokenId msg.receiver uri
  else do
    let expectedNFTUID := createNFTUID msg.classId nftId
    require (nftPair = expectedNFTUID) (wrapf .cw721MappingConflict
      "cw721 token %s is already bound to nft %s, not %s" [.s tokenId, .s nftPair, .s expectedNFTUID])
    transferCw721 w msg.contractAddress tokenId msg.receiver (C.accString accModuleAddress)

def cosmos2WasmRound (msg : MsgConvertNFT) (w : World C) (ids : GoString × GoString) : Except Error (World C) := do
  let info ← Collection.getNFT C.toExtern w.nft msg.classId ids.2
  let nft ← Collection.transferNFT C.toExtern C.nk w.nft ⟨ids.2, msg.classId,
    ⟨info.name, info.uri, info.uriHash, info.data⟩, msg.sender, C.accString accModuleAddress⟩
  let w := { w with nft := nft }
  let wasm ← releaseCW721 w msg ids.1 ids.2 info.uri
  .ok { w with wasm := wasm }

def convertCosmos2Wasm (w : World C) (msg : MsgConvertNFT) : Except Error (World C) := do
  checkBatch msg.tokenIds msg.nftIds
  let ids := msg.tokenIds.zip msg.nftIds
  let w ← forEach (cosmos2WasmRound msg) w ids
  let cw721 ← bindPairs w.cw721 msg.contractAddress msg.classId ids
  .ok { w with cw721 := cw721 }

/-- The registration looks for the class; x/erc721 looks for the contract. -/
def ensureRegisteredNFT (w : World C) (msg : MsgConvertNFT) : Except Error (World C) :=
  if getClassMap w.cw721 msg.classId = [] then do
    let cw721 ← registerNFT C.toExtern w.cw721 msg
    .ok { w with cw721 := cw721 }
  else .ok w

def convertNFT (w : World C) (msg : MsgConvertNFT) : Except Error (World C) := do
  require (w.cw721.enableCw721 = true) ⟨.cw721Disabled, []⟩
  require (msg.nftIds.length ≤ maxCW721BatchSize) (wrapf .invalidRequest
    "nft batch size %d exceeds maximum %d" [.d msg.nftIds.length, .d maxCW721BatchSize])
  let (w, contractAddress, tokenIds) ← getContractAddressAndTokenIds w msg
  let msg := { msg with contractAddress := contractAddress, tokenIds := tokenIds }
  let w ← ensureRegisteredNFT w msg
  let pair ← getPairByClass w.cw721 msg.classId
  require (msg.classId = pair.classId) (wrapf .cw721ClassIdNotCorrect
    "class id is not correct, expect %s got %s" [.s pair.classId, .s msg.classId])
  convertCosmos2Wasm w { msg with contractAddress := pair.cw721Address }

/-- Takes the CW721 token from its owner, who must be the sender. -/
def takeCW721 (w : World C) (msg : MsgConvertCW721) (tokenId : GoString) (info : Wasm.AllNftInfo) :
    Except Error C.wasm.State := do
  require (isBlank info.owner = false ∧ info.owner = msg.sender) (wrapf .unauthorized
    "%s is not the owner of cw721 token %s" ([.s msg.sender] ++ msg.tokenIds.map .s))
  transferCw721 w msg.contractAddress tokenId (C.accString accModuleAddress) msg.sender

/-- Hands the native NFT to the receiver with the metadata it has; a new one gets the contract's URI. -/
def releaseNFT (w : World C) (msg : MsgConvertCW721) (tokenId nftId tokenUri : GoString) :
    Except Error Collection.NftLedger := do
  if getNFTPairByContractTokenID w.cw721 msg.contractAddress tokenId = [] then
    Collection.mintNFT C.toExtern C.nk w.nft ⟨nftId, msg.classId, ⟨[], tokenUri, [], []⟩,
      C.accString accModuleAddress, msg.receiver⟩
  else
    match Collection.getNFT C.toExtern w.nft msg.classId nftId with
    | .error _ => .error (wrapf .conflict "fail to get nftInfo classId=%s nftId=%s" [.s msg.classId, .s nftId])
    | .ok info =>
      Collection.transferNFT C.toExtern C.nk w.nft ⟨nftId, msg.classId,
        ⟨info.name, info.uri, info.uriHash, info.data⟩, C.accString accModuleAddress, msg.receiver⟩

def wasm2CosmosRound (msg : MsgConvertCW721) (w : World C) (ids : GoString × GoString) : Except Error (World C) := do
  let info ← queryCW721AllNftInfo w msg.contractAddress ids.1
  let wasm ← takeCW721 w msg ids.1 info
  let w := { w with wasm := wasm }
  let nft ← releaseNFT w msg ids.1 ids.2 info.tokenUri
  .ok { w with nft := nft }

def convertWasm2Cosmos (w : World C) (msg : MsgConvertCW721) : Except Error (World C) := do
  let ids := msg.tokenIds.zip msg.nftIds
  let w ← forEach (wasm2CosmosRound msg) w ids
  let cw721 ← bindPairs w.cw721 msg.contractAddress msg.classId ids
  .ok { w with cw721 := cw721 }

def ensureRegisteredCW721 (w : World C) (msg : MsgConvertCW721) : Except Error (World C × GoString) :=
  if getCW721Map C.toExtern w.cw721 msg.contractAddress = [] then registerCW721 w msg
  else .ok (w, msg.classId)

def convertCW721 (w : World C) (msg : MsgConvertCW721) : Except Error (World C × MsgConvertCW721Response) := do
  require (w.cw721.enableCw721 = true) ⟨.cw721Disabled, []⟩
  let contractAddress ← normalizeCW721Address C.toExtern msg.contractAddress
  let msg := { msg with contractAddress := contractAddress }
  let (classId, nftIds) ← getClassIDAndNFTID w.cw721 msg
  let msg := { msg with classId := classId, nftIds := nftIds }
  checkBatch msg.tokenIds msg.nftIds
  let (w, classId) ← ensureRegisteredCW721 w msg
  let pair ← getPairByCW721 C.toExtern w.cw721 msg.contractAddress
  require (classId = [] ∨ classId = pair.classId) (wrapf .cw721ClassIdNotCorrect
    "class id is not correct, expect %s got %s" [.s pair.classId, .s classId])
  let msg := { msg with classId := pair.classId }
  let w ← mapError (·.wrapf "failed to ConvertCW721" []) (convertWasm2Cosmos w msg)
  .ok (w, ⟨msg.contractAddress, msg.tokenIds, msg.receiver, msg.sender, msg.classId, msg.nftIds⟩)

/-- The refund receiver is recorded under the contract and the token ids of the message. -/
def transferCW721 (w : World C) (msg : MsgTransferCW721) : Except Error (World C × Ibc.Packet) := do
  let cw721Addr ← normalizeCW721Address C.toExtern msg.cwContractAddress
  let convertMsg : MsgConvertCW721 := ⟨cw721Addr, msg.cwTokenIds, C.accString accModuleAddress,
    msg.cwSender, msg.classId, msg.cosmosTokenIds⟩
  let (w, resMsg) ← mapError (·.wrapf "failed to ConvertCW721" []) (convertCW721 w convertMsg)
  let ibcMsg : Ibc.MsgTransfer := ⟨msg.sourcePort, msg.sourceChannel, resMsg.classId, resMsg.nftIds,
    C.accString accModuleAddress, msg.cosmosReceiver, msg.timeoutRevisionNumber,
    msg.timeoutRevisionHeight, msg.timeoutTimestamp, msg.memo ++ transferCW721Memo⟩
  let (nft, packet) ← mapError (fun err => err.wrapf "failed to ibc Transfer %v" [.e err.root])
    (C.ics.transfer w.isConvertedNFT w.nft ibcMsg)
  let cw721 := msg.cwTokenIds.foldl
    (fun st cwTokenId => setCwAddressByContractTokenId st cw721Addr cwTokenId msg.cwSender) w.cw721
  .ok ({ w with nft := nft, cw721 := cw721 }, packet)

/-- Whether an owner that a contract spells out is the module account, in any letter case. -/
def moduleOwnsCW721 (X : Extern) (owner : GoString) : Bool :=
  equalFold owner (X.accString accModuleAddress) ||
    match X.accAddressFromBech32 owner with
    | .ok acc => acc == accModuleAddress
    | .error _ => false

def returnCW721 (w : World C) (cwContractAddress cwTokenId : GoString) : Option (World C) :=
  let cwReceiver := getCwAddressByContractTokenId w.cw721 cwContractAddress cwTokenId
  if cwReceiver = [] then none
  else
    match transferCw721 w cwContractAddress cwTokenId cwReceiver (C.accString accModuleAddress) with
    | .ok wasm => some { w with wasm := wasm }
    | .error _ => none

/-- Unlike x/erc721, the mappings go even when the native NFT is gone. -/
def burnRefunded (w : World C) (classID tokenId : GoString) : World C :=
  if w.nft.hasNFT classID tokenId = false ∨
      moduleOwnsCW721 C.toExtern (C.accString (w.nft.getOwner classID tokenId)) = false then w
  else
    match Collection.burnNFT C.toExtern C.nk w.isConvertedNFT w.nft
        ⟨tokenId, classID, C.accString accModuleAddress⟩ with
    | .ok nft => { w with nft := nft }
    | .error _ => w

def clearRefund (st : Store) (classID tokenId cwTokenId cwContractAddress : GoString) : Store :=
  let st := deleteCwAddressByContractTokenId st cwContractAddress cwTokenId
  let st := deleteNFTPairByTokenID st cwContractAddress cwTokenId
  deleteNFTPairByNFTID st classID tokenId

def refundToken (classID : GoString) (w : World C) (tokenId : GoString) : World C :=
  let pairUID := getTokenUIDPairByNFTUID w.cw721 (createNFTUID classID tokenId)
  let (cwTokenId, cwContractAddress) := getNFTFromUID pairUID
  if pairUID = [] ∨ cwTokenId = [] ∨ cwContractAddress = [] then w
  else
    match queryCW721AllNftInfo w cwContractAddress cwTokenId with
    | .error _ => w
    | .ok info =>
      let returned :=
        if moduleOwnsCW721 C.toExtern (trimSpace info.owner) then returnCW721 w cwContractAddress cwTokenId
        else some w
      match returned with
      | none => w
      | some w =>
        let w := { w with cw721 := clearRefund w.cw721 classID tokenId cwTokenId cwContractAddress }
        burnRefunded w classID tokenId

def refundPacketToken (w : World C) (classID : GoString) (tokenIds : List GoString) : World C :=
  tokenIds.foldl (refundToken classID) w

end Uptick.Cw721
