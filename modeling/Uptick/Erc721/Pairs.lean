import Uptick.Erc721.Spelling
import Uptick.Lib.KVStore

/-!
# The store of x/erc721

The accessors of `keeper/token_pairs.go` and `keeper/pair.go`: registered pairs with their two maps,
the pair index in both directions, and the receivers recorded for IBC refunds. Each key prefix of the
module's store is one field.
-/

namespace Uptick.Erc721

open Text Numeral Evm Outcome

structure TokenPair where
  erc721Address : GoString
  classId : GoString
  deriving DecidableEq, Repr

/-- The state of the module: one store for each key prefix, and the enable parameter. -/
structure Store where
  tokenPair : KVStore TokenPair
  tokenPairByERC721 : KVStore GoString
  tokenPairByClass : KVStore GoString
  byNFTUID : KVStore GoString
  byTokenUID : KVStore GoString
  evmAddress : KVStore GoString
  enableErc721 : Bool

def Store.empty : Store := ⟨.empty, .empty, .empty, .empty, .empty, .empty, true⟩

section Pairs

variable (X : Extern)

def newTokenPair (erc721Address : Address) (classID : GoString) : TokenPair :=
  ⟨toLower (erc721Address.hex X.keccak256), classID⟩

def TokenPair.getID (tp : TokenPair) : GoString := X.tmhash (tp.erc721Address ++ str "|" ++ tp.classId)

def TokenPair.getERC721Contract (tp : TokenPair) : Address := hexToAddress tp.erc721Address

def getTokenPair (st : Store) (id : GoString) : Option TokenPair :=
  if id = [] then none else st.tokenPair.get? id

def setTokenPair (st : Store) (pair : TokenPair) : Store :=
  { st with tokenPair := st.tokenPair.set (pair.getID X) pair }

def deleteTokenPair (st : Store) (pair : TokenPair) : Store :=
  { st with tokenPair := st.tokenPair.delete (pair.getID X) }

/-- Older versions keyed this map by the raw address bytes. -/
def getERC721Map (st : Store) (erc721 : Address) : GoString :=
  let val := st.tokenPairByERC721.get (toLower (erc721.hex X.keccak256))
  if val = [] then st.tokenPairByERC721.get erc721.bytes else val

def getClassMap (st : Store) (classID : GoString) : GoString := st.tokenPairByClass.get classID

def setERC721Map (st : Store) (erc721 : Address) (id : GoString) : Store :=
  { st with tokenPairByERC721 := st.tokenPairByERC721.set (toLower (erc721.hex X.keccak256)) id }

def deleteERC721Map (st : Store) (erc721 : Address) : Store :=
  { st with tokenPairByERC721 := st.tokenPairByERC721.delete (toLower (erc721.hex X.keccak256)) }

def setClassMap (st : Store) (classID id : GoString) : Store :=
  { st with tokenPairByClass := st.tokenPairByClass.set classID id }

def deleteClassMap (st : Store) (classID : GoString) : Store :=
  { st with tokenPairByClass := st.tokenPairByClass.delete classID }

def isERC721Registered (st : Store) (erc721 : Address) : Bool :=
  st.tokenPairByERC721.has (toLower (erc721.hex X.keccak256)) || st.tokenPairByERC721.has erc721.bytes

def isClassRegistered (st : Store) (classID : GoString) : Bool := st.tokenPairByClass.has classID

/-- The pair behind an id read from one of the two maps; `token` is what the error names. -/
def pairById (st : Store) (id token : GoString) : Except Error TokenPair :=
  if id = [] then .error (wrapf .tokenPairNotFound "token '%s' not registered by id" [.s token])
  else
    match getTokenPair st id with
    | some pair => .ok pair
    | none => .error (wrapf .tokenPairNotFound "token '%s' not registered" [.s token])

def getPairByClass (st : Store) (classID : GoString) : Except Error TokenPair :=
  pairById st (getClassMap st classID) classID

def getPairByEVM (st : Store) (contract : GoString) : Except Error TokenPair :=
  pairById st (getERC721Map X st (hexToAddress contract)) contract

end Pairs

def getNFTUIDPairByTokenUID (st : Store) (tokenUID : GoString) : GoString := st.byTokenUID.get tokenUID

def setNFTUIDPairByTokenUID (st : Store) (tokenUID nftUID : GoString) : Store :=
  { st with byTokenUID := st.byTokenUID.set tokenUID nftUID }

def deleteNFTUIDPairByTokenUID (st : Store) (tokenUID : GoString) : Store :=
  { st with byTokenUID := st.byTokenUID.delete tokenUID }

def getTokenUIDPairByNFTUID (st : Store) (nftUID : GoString) : GoString := st.byNFTUID.get nftUID

def setNFTUIDPairByNFTUID (st : Store) (nftUID tokenUID : GoString) : Store :=
  { st with byNFTUID := st.byNFTUID.set nftUID tokenUID }

def deleteNFTUIDPairByNFTUID (st : Store) (nftUID : GoString) : Store :=
  { st with byNFTUID := st.byNFTUID.delete nftUID }

def setNFTPairByContractTokenID (st : Store) (contractAddress tokenID classID nftID : GoString) : Store :=
  setNFTUIDPairByTokenUID st (createTokenUID contractAddress tokenID) (createNFTUID classID nftID)

def setNFTPairByClassNFTID (st : Store) (classID nftID contractAddress tokenID : GoString) : Store :=
  setNFTUIDPairByNFTUID st (createNFTUID classID nftID) (createTokenUID contractAddress tokenID)

def deleteNFTPairByNFTID (st : Store) (classID nftID : GoString) : Store :=
  deleteNFTUIDPairByNFTUID st (createNFTUID classID nftID)

section Index

variable (X : Extern)

/-- The spellings probed for a token: each token id variant with each contract variant, with the
token id variant it is built from. -/
def keyVariants (contractAddress tokenID : GoString) : List (GoString × GoString) :=
  (evmTokenIDKeyVariants tokenID).flatMap fun tokenVariant =>
    (contractAddressKeyVariants X contractAddress).map fun contractVariant =>
      (tokenVariant, createTokenUID contractVariant tokenVariant)

/-- The first spelling with a stored NFT: the NFT's key and the token id spelling. -/
def resolveNFTUIDPair (st : Store) (contractAddress tokenID : GoString) : GoString × GoString :=
  match (keyVariants X contractAddress tokenID).find? fun k => getNFTUIDPairByTokenUID st k.2 ≠ [] with
  | some (tokenVariant, tokenUID) => (getNFTUIDPairByTokenUID st tokenUID, tokenVariant)
  | none => ([], [])

def getNFTPairByContractTokenID (st : Store) (contractAddress tokenID : GoString) : GoString :=
  (resolveNFTUIDPair X st contractAddress tokenID).1

def deleteNFTPairByTokenID (st : Store) (contractAddress tokenID : GoString) : Store :=
  (keyVariants X contractAddress tokenID).foldl (fun st k => deleteNFTUIDPairByTokenUID st k.2) st

/-- What the probing loop of `setNFTPairs` carries. -/
structure Probe where
  boundNFT : Option GoString
  staleKeys : List GoString
  foundForms : Nat

def probeVariant (st : Store) (tokenUID canonicalTokenID contractAddress : GoString) (p : Probe)
    (variantUID : GoString) : Except Error Probe :=
  let stored := getNFTUIDPairByTokenUID st variantUID
  if stored = [] then .ok p
  else do
    let boundNFT := p.boundNFT.getD stored
    require (stored = boundNFT) (wrapf .nftMappingConflict
      "erc721 token %s on %s is stored under %d spellings bound to conflicting nfts (%s vs %s)"
      [.s canonicalTokenID, .s contractAddress, .d (p.foundForms + 1), .s boundNFT, .s stored])
    pure ⟨some boundNFT, if variantUID ≠ tokenUID then p.staleKeys ++ [variantUID] else p.staleKeys,
      p.foundForms + 1⟩

/-- The checks of `SetNFTPairs`: the canonical contract and token id, and the keys to drop. -/
def checkNFTPairs (st : Store) (contractAddress tokenID classID nftID : GoString) :
    Except Error (GoString × GoString × List GoString) := do
  let (canonicalTokenID, isLegacyTokenID) ← canonicalEVMTokenID tokenID
  let canonicalContract := canonicalContractAddress contractAddress
  let tokenUID := createTokenUID canonicalContract canonicalTokenID
  let nftUID := createNFTUID classID nftID
  let variantUIDs := (keyVariants X contractAddress canonicalTokenID).map Prod.snd
  let probe ← forEach (probeVariant st tokenUID canonicalTokenID contractAddress) ⟨none, [], 0⟩ variantUIDs
  let boundNFT := probe.boundNFT.getD []
  require (boundNFT = [] ∨ boundNFT = nftUID) (wrapf .nftMappingConflict
    "erc721 token %s on %s is already bound to nft %s (attempted %s)"
    [.s canonicalTokenID, .s canonicalContract, .s boundNFT, .s nftUID])
  require (¬ (probe.foundForms = 0 ∧ isLegacyTokenID = true)) (wrapf .invalidRequest
    "legacy hex ERC721 token id %q cannot create a new binding; use the base-10 token id" [.q tokenID])
  let reverse := getTokenUIDPairByNFTUID st nftUID
  let (boundTokenID, boundContract) := getNFTFromUID reverse
  require (reverse = [] ∨ reverse = tokenUID ∨ (equalEVMTokenID boundTokenID canonicalTokenID = true ∧
      equalContractAddress boundContract canonicalContract = true)) (wrapf .nftMappingConflict
    "nft %s of class %s is already bound to token %s (attempted %s)"
    [.s nftID, .s classID, .s reverse, .s tokenUID])
  pure (canonicalContract, canonicalTokenID, probe.staleKeys)

/-- `SetNFTPairs`: the error, if any, and the store that the call leaves behind. -/
def setNFTPairs (st : Store) (contractAddress tokenID classID nftID : GoString) :
    Except Error Unit × Store :=
  match checkNFTPairs X st contractAddress tokenID classID nftID with
  | .error e => (.error e, st)
  | .ok (canonicalContract, canonicalTokenID, staleKeys) =>
    let st := setNFTPairByContractTokenID st canonicalContract canonicalTokenID classID nftID
    let st := setNFTPairByClassNFTID st classID nftID canonicalContract canonicalTokenID
    (.ok (), staleKeys.foldl deleteNFTUIDPairByTokenUID st)

end Index

def setEvmAddressByContractTokenId (st : Store) (evmContractAddress evmTokenId evmAddress : GoString) : Store :=
  { st with evmAddress := st.evmAddress.set (toLower evmContractAddress ++ evmTokenId) evmAddress }

def getEvmAddressByContractTokenId (st : Store) (evmContractAddress evmTokenId : GoString) : GoString :=
  st.evmAddress.get (toLower evmContractAddress ++ evmTokenId)

def deleteEvmAddressByContractTokenId (st : Store) (evmContractAddress evmTokenId : GoString) : Store :=
  { st with evmAddress := st.evmAddress.delete (toLower evmContractAddress ++ evmTokenId) }

/-- The native ids first; empty ids are left out, and a repeated id writes the same record again. -/
def setEvmRefundReceiver (st : Store) (evmContractAddress : GoString)
    (cosmosTokenIds evmTokenIds : List GoString) (evmAddress : GoString) : Store :=
  ((cosmosTokenIds ++ evmTokenIds).filter (· ≠ [])).foldl
    (fun st id => setEvmAddressByContractTokenId st (toLower evmContractAddress) id evmAddress) st

def getEvmRefundReceiver (st : Store) (evmContractAddress cosmosTokenId evmTokenId : GoString) : GoString :=
  let contract := toLower evmContractAddress
  let addr := getEvmAddressByContractTokenId st contract cosmosTokenId
  if addr ≠ [] then addr
  else if evmTokenId = [] ∨ evmTokenId = cosmosTokenId then []
  else getEvmAddressByContractTokenId st contract evmTokenId

section Voucher

variable (X : Extern)

def deleteVoucherBindingKeys (st : Store) (contract tokenID classID nftID : GoString) : Store :=
  let st := deleteNFTPairByTokenID X st contract tokenID
  let st := deleteNFTPairByNFTID st classID nftID
  let st := deleteEvmAddressByContractTokenId st contract tokenID
  deleteEvmAddressByContractTokenId st contract nftID

end Voucher

section Purge

variable (X : Extern)

/-- One round of the scan of the forward entries in `DeletePairPerTokenState`. -/
def deleteScannedTokenUID (st : Store) (tokenUID : GoString) : Store :=
  let nftUID := getNFTUIDPairByTokenUID st tokenUID
  let st := deleteNFTUIDPairByTokenUID st tokenUID
  if nftUID ≠ [] then deleteNFTUIDPairByNFTUID st nftUID else st

/-- One round of the scan of the reverse entries. -/
def deleteScannedNFTUID (st : Store) (nftUID : GoString) : Store :=
  let tokenUID := getTokenUIDPairByNFTUID st nftUID
  let st := deleteNFTUIDPairByNFTUID st nftUID
  if tokenUID ≠ [] then deleteNFTUIDPairByTokenUID st tokenUID else st

/-- Both index directions and the refund records of one pair, as `DeletePairPerTokenState` scans them. -/
def deletePairPerTokenState (st : Store) (pair : TokenPair) : Store :=
  let tokenUIDs := st.byTokenUID.keys.filter fun tokenUID =>
    equalFold (getNFTFromUID tokenUID).2 pair.erc721Address
  let st := tokenUIDs.foldl deleteScannedTokenUID st
  let nftUIDs := st.byNFTUID.keys.filter fun nftUID => (getNFTFromUID nftUID).2 == pair.classId
  let st := nftUIDs.foldl deleteScannedNFTUID st
  let contract := toLower pair.erc721Address
  let refundKeys := st.evmAddress.keys.filter fun key => hasPrefix (toLower key) contract
  { st with evmAddress := st.evmAddress.deleteAll refundKeys }

def purgeTokenPair (st : Store) (pair : TokenPair) : Store :=
  let st := deletePairPerTokenState st pair
  let st := deleteTokenPair X st pair
  let st := deleteERC721Map X st pair.getERC721Contract
  deleteClassMap st pair.classId

end Purge

end Uptick.Erc721
