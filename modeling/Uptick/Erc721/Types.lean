import Uptick.Extern

/-!
# Identifiers of x/erc721

The identifier functions of `types/utils.go`: derived ids, the two-part keys of the pair index, and
the spellings of a token id and of a contract address under which a key may have been written.
-/

namespace Uptick.Erc721

open Text Numeral Evm Outcome

def defaultPrefix : GoString := str "uptick"

def transferERC721Memo : GoString := str ":IBCTransferFromERC721"

/-- `authtypes.NewModuleAddress("erc721")`: the first twenty bytes of the SHA-256 digest of the name. -/
def accModuleAddress : AccAddress :=
  [170, 95, 174, 207, 154, 204, 158, 168, 149, 136, 104, 71, 250, 69, 88, 220, 65, 86, 43, 183]

def moduleAddress : Address := evmAddress accModuleAddress

def removeAddress0x (address : GoString) : GoString :=
  if hasPrefix address (str "0x") then address.drop 2 else address

def createClassIDFromContractAddress (address : GoString) : GoString :=
  defaultPrefix ++ str "-" ++ removeAddress0x address

def createContractAddressFromClassID (classID : GoString) : GoString :=
  removeFirst (defaultPrefix ++ str "-") classID

def createNFTIDFromTokenID (id : GoString) : GoString := defaultPrefix ++ removeAddress0x id

/-- `new(big.Int).SetBytes`. -/
def setBytes (bs : GoString) : Nat := bs.foldl (fun acc b => acc * 256 + b.toNat) 0

def createTokenIDFromNFTID (X : Extern) (nftID : GoString) : GoString :=
  text 10 (setBytes (X.sha256 (removeFirst (defaultPrefix ++ str "-") nftID)))

def createTokenUID (contractAddress tokenID : GoString) : GoString := tokenID ++ comma :: contractAddress

def createNFTUID (classID nftID : GoString) : GoString := nftID ++ comma :: classID

/-- A two-part key is cut at its last comma; a part that would be empty makes both empty. -/
def getNFTFromUID (uid : GoString) : GoString × GoString :=
  match lastIndexByte comma uid with
  | none => ([], [])
  | some idx => if idx = 0 ∨ idx + 1 = uid.length then ([], []) else (uid.take idx, uid.drop (idx + 1))

/-- The value of a token id text and whether it used the `0x` spelling. -/
def parseEVMTokenIDValue (tokenID : GoString) (allowLegacy : Bool) : Except Error (Nat × Bool) :=
  let legacy := allowLegacy && (hasPrefix tokenID (str "0x") || hasPrefix tokenID (str "0X"))
  let digits := if legacy then tokenID.drop 2 else tokenID
  let base := if legacy then 16 else 10
  match setString base digits with
  | some n =>
    if n < 0 ∨ 2 ^ 256 ≤ n then .error (wrapf .invalidRequest "invalid ERC721 token id %q" [.q tokenID])
    else .ok (n.toNat, legacy)
  | none => .error (wrapf .invalidRequest "invalid ERC721 token id %q" [.q tokenID])

def validateEVMTokenID (tokenID : GoString) : Except Error Unit := do
  let _ ← parseEVMTokenIDValue tokenID false
  pure ()

def parseEVMTokenID (tokenID : GoString) : Except Error Nat := do
  let (n, _) ← parseEVMTokenIDValue tokenID true
  pure n

def canonicalEVMTokenID (tokenID : GoString) : Except Error (GoString × Bool) := do
  let (n, legacy) ← parseEVMTokenIDValue tokenID true
  pure (text 10 n, legacy)

/-- The `0x` spelling of a base-10 token id, with an even number of digits; zero has none. -/
def legacyEVMTokenID (tokenID : GoString) : Option GoString :=
  match setString 10 tokenID with
  | some n =>
    if n ≤ 0 ∨ 2 ^ 256 ≤ n then none
    else
      let hexDigits := text 16 n.toNat
      let hexDigits := if hexDigits.length % 2 = 1 then str "0" ++ hexDigits else hexDigits
      some (str "0x" ++ hexDigits)
  | none => none

def evmTokenIDKeyVariants (tokenID : GoString) : List GoString :=
  match canonicalEVMTokenID tokenID with
  | .error _ => [tokenID]
  | .ok (canonical, _) =>
    match legacyEVMTokenID canonical with
    | some legacy => if legacy ≠ canonical then [canonical, legacy] else [canonical]
    | none => [canonical]

def equalEVMTokenID (a b : GoString) : Bool :=
  a == b ||
    match parseEVMTokenIDValue a true, parseEVMTokenIDValue b true with
    | .ok (na, _), .ok (nb, _) => na == nb
    | _, _ => false

def canonicalContractAddress (address : GoString) : GoString :=
  if isHexAddress address then toLower address else address

def checksumContractAddress (X : Extern) (address : GoString) : Option GoString :=
  if isHexAddress address then some ((hexToAddress address).hex X.keccak256) else none

def contractAddressKeyVariants (X : Extern) (address : GoString) : List GoString :=
  let canonical := canonicalContractAddress address
  match checksumContractAddress X address with
  | some checksummed => if checksummed ≠ canonical then [canonical, checksummed] else [canonical]
  | none => [canonical]

def equalContractAddress (a b : GoString) : Bool :=
  if !isHexAddress a || !isHexAddress b then a == b else hexToAddress a == hexToAddress b

end Uptick.Erc721
