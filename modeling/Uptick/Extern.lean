import Uptick.Evm.Address
import Uptick.Lib.Outcome

/-!
# What the modules take from outside

Errors as `sdkerrors.Wrap` builds them, account addresses, and the functions of other packages that
the modules call: hashes, the bech32 spelling of an account and the address of a new contract.
-/

namespace Uptick

open Text Evm

/-- The registered error at the bottom of an error value. -/
inductive RootError
  -- x/erc721
  | erc721Disabled | internalTokenPair | tokenPairNotFound | tokenPairAlreadyExists | abiPack | evmCall
  | nftIdNotCorrect | classIdNotCorrect | contractAddressNotCorrect | tokenIdNotCorrect
  | nftMappingConflict | classEnhanceRestrictions
  -- x/collection
  | invalidDenom | invalidTokenID | invalidNFT | unknownNFT | collectionUnauthorized | nftBoundToContract
  -- x/cw721
  | cw721Disabled | cw721MappingConflict | cw721InternalTokenPair | cw721TokenPairNotFound
  | cw721TokenPairAlreadyExists | cw721NftIdNotCorrect | cw721ClassIdNotCorrect
  | cw721ContractAddressNotCorrect | cw721TokenIdNotCorrect | cw721CodeNotFound | cw721ClassNotExist
  -- the SDK
  | invalidRequest | invalidAddress | unauthorized | unknownRequest | jsonUnmarshal | conflict
  | invalidType | tooManySignatures | noSignatures | invalidSigner | invalidPubKey | wrongSequence
  | notSupported | unknownExtensionOptions | invalidChainID
  -- any error of a called package, by its text
  | external (text : GoString)
  deriving DecidableEq, Repr

/-- An argument of a format: `%s`, `%q` or `%d`, or an error printed by its root. -/
inductive Arg
  | s (v : GoString)
  | q (v : GoString)
  | d (n : Nat)
  | e (root : RootError)
  deriving DecidableEq, Repr

/-- An error: the registered error and the messages wrapped around it, innermost first. -/
structure Error where
  root : RootError
  wraps : List (String × List Arg)
  deriving DecidableEq, Repr

def wrapf (root : RootError) (format : String) (args : List Arg) : Error := ⟨root, [(format, args)]⟩

/-- `sdkerrors.Wrapf` around an error that is already wrapped. -/
def Error.wrapf (e : Error) (format : String) (args : List Arg) : Error :=
  ⟨e.root, e.wraps ++ [(format, args)]⟩

def external (text : String) : Error := ⟨.external (str text), []⟩

/-- `sdk.AccAddress`: the bytes of an account. -/
abbrev AccAddress := List UInt8

/-- The functions of other packages. `sha256` is the digest of the standard library, `tmhash` the one
of the consensus engine, `createAddress` the address of a contract from its creator and the creator's
sequence, and `urlScheme` the scheme of a parsed URL, `none` when it does not parse. An account that is
read has at least one byte and at most 255, and the spelling `accString` gives such an account is read
back. -/
structure Extern where
  keccak256 : GoString → GoString
  sha256 : GoString → GoString
  tmhash : GoString → GoString
  accAddressFromBech32 : GoString → Except GoString AccAddress
  accString : AccAddress → GoString
  createAddress : Address → Nat → Address
  urlScheme : GoString → Option GoString
  jsonValid : GoString → Bool
  accAddressFromBech32_ok : ∀ {s acc}, accAddressFromBech32 s = .ok acc → acc ≠ [] ∧ acc.length ≤ 255
  accAddressFromBech32_accString : ∀ acc : AccAddress, acc ≠ [] → acc.length ≤ 255 →
    accAddressFromBech32 (accString acc) = .ok acc

/-- `sdk.AccAddressFromBech32` with its error as an error value. -/
def Extern.decodeAcc (X : Extern) (s : GoString) : Except Error AccAddress :=
  match X.accAddressFromBech32 s with
  | .ok acc => .ok acc
  | .error text => .error ⟨.external text, []⟩

lemma Extern.decodeAcc_accString (X : Extern) {acc : AccAddress} (hne : acc ≠ []) (hlen : acc.length ≤ 255) :
    X.decodeAcc (X.accString acc) = .ok acc := by
  rw [Extern.decodeAcc, X.accAddressFromBech32_accString acc hne hlen]

lemma Extern.decodeAcc_ok (X : Extern) {s : GoString} {acc : AccAddress} (h : X.decodeAcc s = .ok acc) :
    acc ≠ [] ∧ acc.length ≤ 255 := by
  unfold Extern.decodeAcc at h
  cases hs : X.accAddressFromBech32 s with
  | error e => simp [hs] at h
  | ok acc' =>
    simp only [hs, Except.ok.injEq] at h
    exact h ▸ X.accAddressFromBech32_ok hs

lemma Extern.decodeAcc_accString_of_ok (X : Extern) {s : GoString} {acc : AccAddress}
    (h : X.decodeAcc s = .ok acc) : X.decodeAcc (X.accString acc) = .ok acc :=
  X.decodeAcc_accString (X.decodeAcc_ok h).1 (X.decodeAcc_ok h).2

/-- `common.BytesToAddress(acc.Bytes())`: the EVM account of a chain account. -/
def evmAddress (acc : AccAddress) : Address := bytesToAddress acc

end Uptick
