import Uptick.Collection.Types
import Uptick.Erc721.Types
import Uptick.Lib.KVStore

/-!
# Messages, identifiers and store of x/cw721

`types/msg.go`, `types/utils.go` and the accessors of `keeper/token_pairs.go` and `keeper/pair.go`.
Where the module repeats a function of x/erc721 word for word, its name stands for that function.
-/

namespace Uptick.Cw721

open Text Outcome

def transferCW721Memo : GoString := str ":IBCTransferFromCW721"

/-- `authtypes.NewModuleAddress("cw721")` -/
def accModuleAddress : AccAddress :=
  [9, 183, 50, 137, 62, 61, 103, 56, 203, 115, 250, 245, 223, 179, 48, 62, 189, 99, 200, 189]

abbrev defaultPrefix : GoString := Erc721.defaultPrefix

abbrev createClassIDFromContractAddress : GoString → GoString := Erc721.createClassIDFromContractAddress

abbrev createContractAddressFromClassID : GoString → GoString := Erc721.createContractAddressFromClassID

abbrev createNFTIDFromTokenID : GoString → GoString := Erc721.createNFTIDFromTokenID

abbrev createTokenUID : GoString → GoString → GoString := Erc721.createTokenUID

abbrev createNFTUID : GoString → GoString → GoString := Erc721.createNFTUID

abbrev getNFTFromUID : GoString → GoString × GoString := Erc721.getNFTFromUID

/-- Here x/erc721 hashes the id. -/
def createTokenIDFromNFTID (nftID : GoString) : GoString :=
  if hasPrefix nftID (defaultPrefix ++ str "-") then trimPrefix nftID (defaultPrefix ++ str "-")
  else if hasPrefix nftID defaultPrefix then trimPrefix nftID defaultPrefix
  else nftID

structure MsgConvertNFT where
  classId : GoString
  nftIds : List GoString
  receiver : GoString
  sender : GoString
  contractAddress : GoString
  tokenIds : List GoString

structure MsgConvertCW721 where
  contractAddress : GoString
  tokenIds : List GoString
  receiver : GoString
  sender : GoString
  classId : GoString
  nftIds : List GoString

structure MsgTransferCW721 where
  cwContractAddress : GoString
  cwTokenIds : List GoString
  sourcePort : GoString
  sourceChannel : GoString
  classId : GoString
  cosmosTokenIds : List GoString
  cwSender : GoString
  cosmosReceiver : GoString
  timeoutRevisionNumber : Nat
  timeoutRevisionHeight : Nat
  timeoutTimestamp : Nat
  memo : GoString

section Validate

variable (X : Extern)

def validateBech32 (address : GoString) (text : String) : Except Error Unit := do
  let _ ← mapError (·.wrapf text []) (X.decodeAcc address)
  pure ()

def validateContract (address : GoString) (format : String) : Except Error Unit :=
  match X.accAddressFromBech32 address with
  | .ok _ => .ok ()
  | .error _ => .error (wrapf .invalidAddress format [.s address])

/-- A contract address that may be left out. -/
def validateOptionalContract (address : GoString) : Except Error Unit :=
  if isBlank address then .ok () else validateContract X address "invalid contract address %s"

def validateNonBlank (text : GoString) (message : String) : Except Error Unit :=
  require (isBlank text = false) (wrapf .invalidRequest message [])

def validateNftIds (ids : List GoString) (empty format : String) : Except Error Unit :=
  forEach (fun _ id => do
    require (id ≠ []) (wrapf .invalidRequest empty [])
    mapError (·.wrapf format [.s id]) (Collection.validateTokenID id)) () ids

def validateTokenIds (ids : List GoString) (empty : String) : Except Error Unit :=
  forEach (fun _ id => require (id ≠ []) (wrapf .invalidRequest empty [])) () ids

def MsgConvertNFT.validateBasic (msg : MsgConvertNFT) : Except Error Unit := do
  validateBech32 X msg.sender "invalid sender address"
  validateBech32 X msg.receiver "invalid receiver address"
  validateOptionalContract X msg.contractAddress
  validateNonBlank msg.classId "class id cannot be empty"
  require (msg.nftIds.length ≠ 0) (wrapf .invalidRequest "nft ids cannot be empty" [])
  validateNftIds msg.nftIds "nft id cannot be empty" "invalid nft id '%s'"
  validateTokenIds msg.tokenIds "token id cannot be empty"

def MsgConvertCW721.validateBasic (msg : MsgConvertCW721) : Except Error Unit := do
  validateBech32 X msg.sender "invalid sender address"
  validateBech32 X msg.receiver "invalid reciver address"
  validateContract X msg.contractAddress "invalid contract address %s"
  validateNonBlank msg.classId "class id cannot be empty"
  require (msg.tokenIds.length ≠ 0) (wrapf .invalidRequest "token ids cannot be empty" [])
  validateTokenIds msg.tokenIds "token id cannot be empty"
  validateNftIds msg.nftIds "nft id cannot be empty" "invalid nft id '%s'"

def MsgTransferCW721.validateBasic (msg : MsgTransferCW721) : Except Error Unit := do
  validateBech32 X msg.cwSender "invalid sender address"
  validateBech32 X msg.cosmosReceiver "invalid receiver address"
  validateContract X msg.cwContractAddress "invalid cw721 contract address %s"
  validateNonBlank msg.classId "class id cannot be empty"
  require (msg.cwTokenIds.length ≠ 0) (wrapf .invalidRequest "cw721 token ids cannot be empty" [])
  validateTokenIds msg.cwTokenIds "cw721 token id cannot be empty"
  validateNonBlank msg.sourcePort "source port cannot be empty"
  validateNonBlank msg.sourceChannel "source channel cannot be empty"
  validateNftIds msg.cosmosTokenIds "cosmos token id cannot be empty" "invalid cosmos token id '%s'"
  require (¬(msg.timeoutRevisionNumber = 0 ∧ msg.timeoutRevisionHeight = 0 ∧ msg.timeoutTimestamp = 0))
    (wrapf .invalidRequest "timeout height and timeout timestamp cannot both be zero" [])

end Validate

structure TokenPair where
  cw721Address : GoString
  classId : GoString
  deriving DecidableEq, Repr

/-- One store for each key prefix, and the enable parameter. -/
structure Store where
  tokenPair : KVStore TokenPair
  tokenPairByCW721 : KVStore GoString
  tokenPairByClass : KVStore GoString
  byNFTUID : KVStore GoString
  byTokenUID : KVStore GoString
  wasmCode : KVStore GoString
  cwAddress : KVStore GoString
  enableCw721 : Bool

def Store.empty : Store := ⟨.empty, .empty, .empty, .empty, .empty, .empty, .empty, true⟩

section Pairs

variable (X : Extern)

def normalizeCW721Address (addr : GoString) : Except Error GoString :=
  match X.accAddressFromBech32 addr with
  | .ok a => .ok (X.accString a)
  | .error _ => .error (wrapf .cw721InternalTokenPair "invalid CW721 contract address: %s" [.s addr])

/-- The key of a contract: its own spelling when it is an address, the text itself otherwise. -/
def canonicalCW721Key (addr : GoString) : GoString :=
  match X.accAddressFromBech32 addr with
  | .ok a => X.accString a
  | .error _ => addr

def TokenPair.getID (tp : TokenPair) : GoString := X.tmhash (tp.cw721Address ++ str "|" ++ tp.classId)

def getTokenPair (st : Store) (id : GoString) : Option TokenPair :=
  if id = [] then none else st.tokenPair.get? id

def setTokenPair (st : Store) (pair : TokenPair) : Store :=
  { st with tokenPair := st.tokenPair.set (pair.getID X) pair }

def setCW721Map (st : Store) (cw721 id : GoString) : Store :=
  { st with tokenPairByCW721 := st.tokenPairByCW721.set (canonicalCW721Key X cw721) id }

def getCW721Map (st : Store) (cw721 : GoString) : GoString :=
  st.tokenPairByCW721.get (canonicalCW721Key X cw721)

def getClassMap (st : Store) (classID : GoString) : GoString := st.tokenPairByClass.get classID

def setClassMap (st : Store) (classID id : GoString) : Store :=
  { st with tokenPairByClass := st.tokenPairByClass.set classID id }

def isCW721Registered (st : Store) (cw721 : GoString) : Bool :=
  st.tokenPairByCW721.has (canonicalCW721Key X cw721)

def isClassRegistered (st : Store) (classID : GoString) : Bool := st.tokenPairByClass.has classID

def pairFromID (st : Store) (id token : GoString) : Except Error TokenPair :=
  if id = [] then .error (wrapf .cw721TokenPairNotFound "token '%s' not registered by id" [.s token])
  else
    match getTokenPair st id with
    | some pair => .ok pair
    | none => .error (wrapf .cw721TokenPairNotFound "token '%s' not registered" [.s token])

def getPairByClass (st : Store) (classID : GoString) : Except Error TokenPair :=
  pairFromID st (getClassMap st classID) classID

def getPairByCW721 (st : Store) (contract : GoString) : Except Error TokenPair :=
  pairFromID st (getCW721Map X st contract) contract

end Pairs

def getNFTUIDPairByTokenUID (st : Store) (tokenUID : GoString) : GoString := st.byTokenUID.get tokenUID

def getTokenUIDPairByNFTUID (st : Store) (nftUID : GoString) : GoString := st.byNFTUID.get nftUID

def getNFTPairByContractTokenID (st : Store) (contractAddress tokenID : GoString) : GoString :=
  getNFTUIDPairByTokenUID st (createTokenUID contractAddress tokenID)

def getNFTPairByClassNFTID (st : Store) (classID nftID : GoString) : GoString :=
  getTokenUIDPairByNFTUID st (createNFTUID classID nftID)

def setNFTPairByContractTokenID (st : Store) (contractAddress tokenID classID nftID : GoString) : Store :=
  { st with byTokenUID :=
      st.byTokenUID.set (createTokenUID contractAddress tokenID) (createNFTUID classID nftID) }

def setNFTPairByClassNFTID (st : Store) (classID nftID contractAddress tokenID : GoString) : Store :=
  { st with byNFTUID :=
      st.byNFTUID.set (createNFTUID classID nftID) (createTokenUID contractAddress tokenID) }

def deleteNFTPairByTokenID (st : Store) (contractAddress tokenID : GoString) : Store :=
  { st with byTokenUID := st.byTokenUID.delete (createTokenUID contractAddress tokenID) }

def deleteNFTPairByNFTID (st : Store) (classID nftID : GoString) : Store :=
  { st with byNFTUID := st.byNFTUID.delete (createNFTUID classID nftID) }

/-- Binds a token and an NFT in both directions. Only the spelling of the caller is looked at. -/
def setNFTPairs (st : Store) (contractAddress tokenID classID nftID : GoString) : Except Error Store := do
  let tokenUID := createTokenUID contractAddress tokenID
  let nftUID := createNFTUID classID nftID
  let forward := getNFTUIDPairByTokenUID st tokenUID
  let reverse := getTokenUIDPairByNFTUID st nftUID
  require (forward = [] ∨ forward = nftUID) (wrapf .cw721MappingConflict
    "cw721 token %s on %s is already bound to nft %s (attempted %s)"
    [.s tokenID, .s contractAddress, .s forward, .s nftUID])
  require (reverse = [] ∨ reverse = tokenUID) (wrapf .cw721MappingConflict
    "nft %s of class %s is already bound to token %s (attempted %s)"
    [.s nftID, .s classID, .s reverse, .s tokenUID])
  let st := if forward = [] then setNFTPairByContractTokenID st contractAddress tokenID classID nftID else st
  .ok (if reverse = [] then setNFTPairByClassNFTID st classID nftID contractAddress tokenID else st)

def setCwAddressByContractTokenId (st : Store) (cwContractAddress cwTokenId cwReceiver : GoString) : Store :=
  { st with cwAddress := st.cwAddress.set (cwContractAddress ++ cwTokenId) cwReceiver }

def getCwAddressByContractTokenId (st : Store) (cwContractAddress cwTokenId : GoString) : GoString :=
  st.cwAddress.get (cwContractAddress ++ cwTokenId)

def deleteCwAddressByContractTokenId (st : Store) (cwContractAddress cwTokenId : GoString) : Store :=
  { st with cwAddress := st.cwAddress.delete (cwContractAddress ++ cwTokenId) }

end Uptick.Cw721
