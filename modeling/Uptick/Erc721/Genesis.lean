import Uptick.Erc721.Pairs
import Uptick.Genesis

/-!
# Genesis of x/erc721

`genesis.go`, `types/genesis.go` and `keeper/genesis_export.go`. `sdk.ValidateDenom` belongs to the SDK
and is a parameter. Stored pairs always decode here, so that the export has no issue about them.
-/

namespace Uptick.Erc721

open Text Evm Outcome Genesis

structure GenesisState where
  enableErc721 : Bool
  tokenPairs : List TokenPair
  nftUidPairs : List NFTUIDPair
  refundReceivers : List RefundReceiver
  deriving DecidableEq, Repr

def getTokenPairs (st : Store) : List TokenPair := st.tokenPair.entries.map Prod.snd

/-- A pair as the per-token checks see it. -/
def TokenPair.registration (tp : TokenPair) : GoString × GoString := (tp.erc721Address, tp.classId)

/-- The longest candidate that the text continues. -/
def matchContract (haystack : GoString) (candidates : List GoString) : GoString :=
  candidates.foldl (fun best c =>
    if c.length = 0 ∨ c.length ≤ best.length then best
    else if hasPrefix haystack c = true ∧ c.length < haystack.length then c
    else best) []

/-- The contract and the token id of a refund key; a second attempt compares without letter case. -/
def splitContractTokenKey (contracts : List GoString) (key : GoString) : Except Error (GoString × GoString) :=
  let best := matchContract key contracts
  if best ≠ [] then .ok (best, key.drop best.length)
  else
    let best := matchContract (toLower key) (contracts.map toLower)
    if best ≠ [] then .ok (best, key.drop best.length)
    else .error (wrapf .internalTokenPair
      "refund record key %q does not belong to any registered ERC721 contract (orphaned refund state)" [.q key])

/-- The exported state, and the issues that the export logs. -/
def exportGenesis (st : Store) : GenesisState × List GenesisExportIssue :=
  let tokenPairs := getTokenPairs st
  let (nftUIDPairs, uidIssues) :=
    exportNFTUIDPairsWithReport st.byTokenUID st.byNFTUID (tokenPairs.map TokenPair.registration)
  let (refundReceivers, refundIssues) :=
    exportRefundReceiversWithReport (splitContractTokenKey (tokenPairs.map TokenPair.erc721Address)) st.evmAddress
  (⟨st.enableErc721, tokenPairs, nftUIDPairs, refundReceivers⟩, uidIssues ++ refundIssues)

def refundRules : RefundRules where
  root := .internalTokenPair
  incomplete := "incomplete refund receiver entry (contract %q, token %q, address %q)"
  unregistered := "refund receiver references unregistered ERC721 contract %q"
  dedupe := fun contract tokenID => contract ++ tokenID

def validateGenesisPairs (pairs : List NFTUIDPair) (receivers : List RefundReceiver) (tokenPairs : List TokenPair) :
    Except Error Unit :=
  Genesis.validateGenesisPairs refundRules pairs receivers (tokenPairs.map TokenPair.registration)

/-- `ValidateAddress` of `types/evm_compat.go`. -/
def validateAddress (addr : GoString) : Except Error Unit :=
  require (isHexAddress addr = true) (wrapf (.external []) "invalid hex address: %s" [.s addr])

section Denom

variable (validateDenom : GoString → Except Error Unit)

def TokenPair.validate (tp : TokenPair) : Except Error Unit := do
  validateDenom tp.classId
  validateAddress tp.erc721Address

/-- One pair; the state holds the contracts in lower case and the classes seen so far. -/
def validateTokenPair (seen : List GoString × List GoString) (b : TokenPair) :
    Except Error (List GoString × List GoString) := do
  require (toLower b.erc721Address ∉ seen.1)
    (wrapf (.external []) "token ERC721 contract duplicated on genesis '%s'" [.s b.erc721Address])
  require (b.classId ∉ seen.2) (wrapf (.external []) "nft class duplicated on genesis: '%s'" [.s b.classId])
  b.validate validateDenom
  .ok (toLower b.erc721Address :: seen.1, b.classId :: seen.2)

/-- The parameters are never refused. -/
def GenesisState.validate (gs : GenesisState) : Except Error Unit := do
  let _ ← forEach (validateTokenPair validateDenom) ([], []) gs.tokenPairs
  validateGenesisPairs gs.nftUidPairs gs.refundReceivers gs.tokenPairs

end Denom

def setGenesisTokenPair (X : Extern) (st : Store) (pair : TokenPair) : Store :=
  let id := pair.getID X
  let st := setTokenPair X st pair
  let st := setClassMap st pair.classId id
  setERC721Map X st pair.getERC721Contract id

def setGenesisNFTUIDPair (st : Store) (pair : NFTUIDPair) : Store :=
  let st := setNFTUIDPairByTokenUID st pair.tokenUid pair.nftUid
  setNFTUIDPairByNFTUID st pair.nftUid pair.tokenUid

def setGenesisRefundReceiver (st : Store) (r : RefundReceiver) : Store :=
  setEvmAddressByContractTokenId st r.contractAddress r.tokenId r.receiver

def importPerTokenState (st : Store) (data : GenesisState) : Except Error Store := do
  validateGenesisPairs data.nftUidPairs data.refundReceivers data.tokenPairs
  let st := data.nftUidPairs.foldl setGenesisNFTUIDPair st
  .ok (data.refundReceivers.foldl setGenesisRefundReceiver st)

/-- An error is the panic that stops the import. -/
def initGenesis (X : Extern) (st : Store) (data : GenesisState) : Except Error Store :=
  let st := { st with enableErc721 := data.enableErc721 }
  importPerTokenState (data.tokenPairs.foldl (setGenesisTokenPair X) st) data

section Import

variable {X : Extern}

lemma foldl_setGenesisTokenPair (l : List TokenPair) (st : Store) :
    l.foldl (setGenesisTokenPair X) st =
      { st with
        tokenPair := st.tokenPair.setAll (l.map fun p => (p.getID X, p))
        tokenPairByClass := st.tokenPairByClass.setAll (l.map fun p => (p.classId, p.getID X))
        tokenPairByERC721 := st.tokenPairByERC721.setAll
          (l.map fun p => (p.getERC721Contract.lowerHex, p.getID X)) } := by
  induction l generalizing st with
  | nil => rfl
  | cons p l ih =>
    rw [List.foldl_cons, ih]
    simp only [setGenesisTokenPair, setTokenPair, setClassMap, setERC721Map, toLower_hex, List.map_cons]
    rfl

lemma foldl_setGenesisNFTUIDPair (l : List NFTUIDPair) (st : Store) :
    l.foldl setGenesisNFTUIDPair st =
      { st with
        byTokenUID := st.byTokenUID.setAll (l.map fun p => (p.tokenUid, p.nftUid))
        byNFTUID := st.byNFTUID.setAll (l.map fun p => (p.nftUid, p.tokenUid)) } := by
  induction l generalizing st with
  | nil => rfl
  | cons p l ih =>
    rw [List.foldl_cons, ih]
    rfl

lemma foldl_setGenesisRefundReceiver (l : List RefundReceiver) (st : Store) :
    l.foldl setGenesisRefundReceiver st =
      { st with
        evmAddress := st.evmAddress.setAll
          (l.map fun r => (toLower r.contractAddress ++ r.tokenId, r.receiver)) } := by
  induction l generalizing st with
  | nil => rfl
  | cons r l ih =>
    rw [List.foldl_cons, ih]
    rfl

/-- The store that an import into the empty store gives. -/
def imported (X : Extern) (data : GenesisState) : Store where
  tokenPair := KVStore.empty.setAll (data.tokenPairs.map fun p => (p.getID X, p))
  tokenPairByERC721 := KVStore.empty.setAll
    (data.tokenPairs.map fun p => (p.getERC721Contract.lowerHex, p.getID X))
  tokenPairByClass := KVStore.empty.setAll (data.tokenPairs.map fun p => (p.classId, p.getID X))
  byNFTUID := KVStore.empty.setAll (data.nftUidPairs.map fun p => (p.nftUid, p.tokenUid))
  byTokenUID := KVStore.empty.setAll (data.nftUidPairs.map fun p => (p.tokenUid, p.nftUid))
  evmAddress := KVStore.empty.setAll
    (data.refundReceivers.map fun r => (toLower r.contractAddress ++ r.tokenId, r.receiver))
  enableErc721 := data.enableErc721

theorem initGenesis_eq_ok {data : GenesisState} {st : Store} : initGenesis X .empty data = .ok st ↔
    validateGenesisPairs data.nftUidPairs data.refundReceivers data.tokenPairs = .ok () ∧ st = imported X data := by
  unfold initGenesis importPerTokenState
  rw [check_bind_eq_ok]
  dsimp only
  rw [foldl_setGenesisTokenPair, foldl_setGenesisNFTUIDPair, foldl_setGenesisRefundReceiver, Except.ok.injEq]
  exact and_congr_right fun _ => eq_comm

end Import

end Uptick.Erc721
