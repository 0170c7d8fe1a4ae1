import Uptick.Chain
import Uptick.Erc721.Genesis

/-!
# Settlement of voucher pairs

`keeper/voucher_settlement.go`: the migration that clears the pairs of ICS-721 voucher classes. Besides the
counters that the function returns, a run records the bindings it handled and the pairs it removed, which the
function writes to its log.
-/

namespace Uptick.Erc721

open Text Evm Outcome

structure VoucherBinding where
  classID : GoString
  nftID : GoString
  tokenID : GoString
  contract : GoString
  deriving DecidableEq, Repr

inductive SettleOutcome
  | settled
  | staleCleared
  | kept
  deriving DecidableEq, Repr

/-- A reverse entry as a binding, unless a part of it cannot be read. -/
def readBinding (e : GoString × GoString) : Option VoucherBinding :=
  let (nftID, classID) := getNFTFromUID e.1
  let (tokenID, contract) := getNFTFromUID e.2
  if nftID = [] ∨ classID = [] ∨ tokenID = [] ∨ contract = [] then none
  else some ⟨classID, nftID, tokenID, contract⟩

/-- What `bindingsByClass` holds for a class. -/
def bindingsByClass (st : Store) (classID : GoString) : List VoucherBinding :=
  (st.byNFTUID.entries.filterMap readBinding).filter (·.classID = classID)

variable {C : Chain}

def deleteBinding (w : World C) (b : VoucherBinding) : World C :=
  { w with erc721 := deleteVoucherBindingKeys C.toExtern w.erc721 b.contract b.tokenID b.classID b.nftID }

/-- The writes of a cache context are committed or dropped. -/
def commit (w : World C) : Except Error (World C) → World C × SettleOutcome
  | .ok w' => (w', .settled)
  | .error _ => (w, .kept)

def settleWrapped (w : World C) (b : VoucherBinding) (contract : Address) (bigTokenID : Nat) (ercOwner : Address) :
    World C × SettleOutcome :=
  commit w do
    let evm ← C.evm.burn w.evm ercOwner contract bigTokenID
    let nft ← Collection.getNFT C.toExtern w.nft b.classID b.nftID
    let ledger ← Collection.transferNFT C.toExtern C.nk w.nft ⟨b.nftID, b.classID,
      ⟨nft.name, nft.uri, nft.uriHash, nft.data⟩, C.accString accModuleAddress, C.accString ercOwner.bytes⟩
    .ok (deleteBinding { w with evm := evm, nft := ledger } b)

def settleOrphan (w : World C) (b : VoucherBinding) (contract : Address) (bigTokenID : Nat) :
    World C × SettleOutcome :=
  commit w do
    let evm ← C.evm.burn w.evm moduleAddress contract bigTokenID
    .ok (deleteBinding { w with evm := evm } b)

/-- The four cases of the owner of the ERC721 token and the owner of the NFT. -/
def settleOwned (w : World C) (b : VoucherBinding) (contract : Address) (bigTokenID : Nat) (ercOwner : Address) :
    World C × SettleOutcome :=
  let nativeOwner := w.nft.getOwner b.classID b.nftID
  let nativeIsModule := nativeOwner ≠ [] ∧ nativeOwner = accModuleAddress
  let nativeIsNone := nativeOwner = []
  let ercIsNone := ercOwner = zeroAddress
  let ercIsModule := ercOwner ≠ zeroAddress ∧ ercOwner = moduleAddress
  let ercIsUser := ¬ ercIsNone ∧ ¬ ercIsModule
  if ercIsUser ∧ C.evm.hasCode w.evm ercOwner = true then (w, .kept)
  else if ercIsUser ∧ nativeIsModule then settleWrapped w b contract bigTokenID ercOwner
  else if ercIsModule ∧ nativeIsNone then settleOrphan w b contract bigTokenID
  else if nativeIsNone ∧ (ercIsUser ∨ ercIsNone) then (deleteBinding w b, .staleCleared)
  else (w, .kept)

/-- The pair that the function also takes is passed on and never read. -/
def settleVoucherBinding (w : World C) (b : VoucherBinding) : World C × SettleOutcome :=
  match parseEVMTokenID b.tokenID with
  | .error _ => (w, .kept)
  | .ok bigTokenID =>
    if isHexAddress b.contract = false then (w, .kept)
    else
      match C.evm.ownerOf w.evm (hexToAddress b.contract) bigTokenID with
      | .error _ => (w, .kept)
      | .ok ercOwner => settleOwned w b (hexToAddress b.contract) bigTokenID ercOwner

structure Settlement (C : Chain) where
  world : World C
  settled : Nat
  staleCleared : Nat
  kept : Nat
  pairsDeleted : Nat
  handled : List (VoucherBinding × SettleOutcome)
  purged : List TokenPair

def Settlement.start (w : World C) : Settlement C := ⟨w, 0, 0, 0, 0, [], []⟩

/-- One binding; the number counts the cleared bindings of the pair. -/
def settleRound (x : Settlement C × Nat) (b : VoucherBinding) : Settlement C × Nat :=
  let (s, cleared) := x
  let (w, outcome) := settleVoucherBinding s.world b
  let s := { s with world := w, handled := s.handled ++ [(b, outcome)] }
  match outcome with
  | .settled => ({ s with settled := s.settled + 1 }, cleared + 1)
  | .staleCleared => ({ s with staleCleared := s.staleCleared + 1 }, cleared + 1)
  | .kept => ({ s with kept := s.kept + 1 }, cleared)

def Settlement.purge (s : Settlement C) (pair : TokenPair) : Settlement C :=
  { s with
    world := { s.world with erc721 := purgeTokenPair C.toExtern s.world.erc721 pair }
    pairsDeleted := s.pairsDeleted + 1
    purged := s.purged ++ [pair] }

def settlePair (bindings : GoString → List VoucherBinding) (s : Settlement C) (pair : TokenPair) : Settlement C :=
  if Collection.isIBCDenom pair.classId = false then s
  else if (bindings pair.classId).length = 0 then s.purge pair
  else
    let (s, cleared) := (bindings pair.classId).foldl settleRound (s, 0)
    if cleared = (bindings pair.classId).length then s.purge pair else s

def settleIBCVoucherPairs (w : World C) : Settlement C :=
  (getTokenPairs w.erc721).foldl (settlePair (bindingsByClass w.erc721)) (.start w)

end Uptick.Erc721
