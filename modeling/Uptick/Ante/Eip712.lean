import Uptick.Extern
import Uptick.Lib.BigEndian

/-!
# EIP-712 signatures of transactions

`app/ante/eip712.go`: a wallet signs the typed data of a transaction and puts the signature into an
extension option. The decorator builds the sign bytes from the transaction and the signer's account,
wraps them with the fee payer of the option, and accepts when the signature recovers the signer's key.
-/

namespace Uptick.Ante

open Text Outcome

/-- `sdk.Coin` -/
structure Coin where
  denom : GoString
  amount : Nat
  deriving DecidableEq, Repr

/-- `legacytx.StdFee`. The decorator fills in the amount and the gas only. -/
structure StdFee where
  amount : List Coin
  gas : UInt64
  payer : GoString := []
  granter : GoString := []
  deriving DecidableEq, Repr

/-- The arguments of `legacytx.StdSignBytes`. -/
structure StdSignDoc (Msg : Type) where
  chainID : GoString
  accountNumber : UInt64
  sequence : UInt64
  timeoutHeight : UInt64
  fee : StdFee
  msgs : List Msg
  memo : GoString
  deriving DecidableEq

/-- `cryptotypes.PubKey`: `Equals` compares the type and the bytes. -/
structure PubKey where
  type : GoString
  bytes : GoString
  deriving DecidableEq, Repr

/-- `eip712.ExtensionOptionsWeb3Tx`, or an option of another type. -/
inductive ExtensionOption
  | web3Tx (typedDataChainID : UInt64) (feePayer feePayerSig : GoString)
  | other
  deriving DecidableEq, Repr

inductive SignMode
  | legacyAminoJSON | other
  deriving DecidableEq, Repr

/-- `signing.SignatureData` -/
inductive SignatureData
  | single (signMode : SignMode) (signature : GoString)
  | multi
  deriving DecidableEq, Repr

/-- `signing.SignatureV2` -/
structure SignatureV2 where
  pubKey : Option PubKey
  data : SignatureData
  sequence : UInt64

/-- A transaction through the methods the decorator and the chain call on it. The account that pays the
fees is one of the signers. -/
structure Tx (Msg : Type) where
  /-- The interfaces of the SDK the transaction implements. -/
  sigVerifiableTx : Bool
  signingTx : Bool
  hasExtensionOptionsTx : Bool
  getSignaturesV2 : Except Error (List SignatureV2)
  getSigners : Except Error (List AccAddress)
  getMsgs : List Msg
  getMemo : GoString
  getTimeoutHeight : UInt64
  getFee : List Coin
  getGas : UInt64
  feePayer : AccAddress
  feeGranter : AccAddress
  getExtensionOptions : List ExtensionOption
  feePayer_mem : ∀ signers, getSigners = .ok signers → feePayer ∈ signers

/-- `sdk.AccountI` -/
structure Account where
  pubKey : Option PubKey
  accountNumber : UInt64
  sequence : UInt64

/-- `sdk.Context`, with the accounts the keeper finds in it. -/
structure Ctx where
  isReCheckTx : Bool
  blockHeight : Int
  chainID : GoString
  getSignerAcc : AccAddress → Except Error Account

/-- `authsigning.SignerData` -/
structure SignerData where
  chainID : GoString
  accountNumber : UInt64
  sequence : UInt64

/-- What the decorator takes from other packages. -/
structure Wallet where
  Msg : Type
  SignBytes : Type
  TypedData : Type
  Hash : Type
  Point : Type
  accAddressFromBech32 : GoString → Except Error AccAddress
  /-- `sdk.AccAddress(pubKey.Address().Bytes())` -/
  address : PubKey → AccAddress
  stdSignBytes : StdSignDoc Msg → SignBytes
  legacyWrapTxToTypedData : UInt64 → Msg → SignBytes → AccAddress → Except Error TypedData
  typedDataAndHash : TypedData → Except Error Hash
  validateSignatureValues : UInt8 → Nat → Nat → Bool → Bool
  recoverPubkey : Hash → GoString → Except Error GoString
  unmarshalPubkey : GoString → Except Error Point
  compressPubkey : Point → GoString
  verifySignature : GoString → Hash → GoString → Bool

/-- What `strconv.ParseUint(s, 10, 64)` returns. -/
def parseUint (s : GoString) : Except Error UInt64 :=
  match Numeral.parseNat 10 s with
  | none => .error ⟨.external (str "strconv.ParseUint: parsing \"" ++ s ++ str "\": invalid syntax"), []⟩
  | some n =>
    if n < 2 ^ 64 then .ok (UInt64.ofNat n)
    else .error ⟨.external (str "strconv.ParseUint: parsing \"" ++ s ++ str "\": value out of range"), []⟩

/-- The digits between the last `_` and the first `-` behind it, or the whole text. -/
def parseEIP155ChainID (chainID : GoString) : Except Error UInt64 :=
  match lastIndexByte 95 chainID with
  | some underscore =>
    let rest := chainID.drop (underscore + 1)
    if 45 ∈ rest then parseUint (rest.takeWhile (· ≠ 45)) else parseUint chainID
  | none => parseUint chainID

variable (W : Wallet)

/-- The recovery identifier is the last byte; a wallet may add 27 to it. -/
def normalizeRecovery (sig : GoString) : GoString :=
  let v := sig.getD 64 0
  if v = 27 ∨ v = 28 then sig.take 64 ++ [v - 27] else sig

def signDoc (signerData : SignerData) (tx : Tx W.Msg) : StdSignDoc W.Msg where
  chainID := signerData.chainID
  accountNumber := signerData.accountNumber
  sequence := signerData.sequence
  timeoutHeight := tx.getTimeoutHeight
  fee := { amount := tx.getFee, gas := tx.getGas }
  msgs := tx.getMsgs
  memo := tx.getMemo

/-- The one extension option, when it is of the EIP-712 type. -/
def web3TxOption (tx : Tx W.Msg) : Except Error (UInt64 × GoString × GoString) := do
  require (tx.hasExtensionOptionsTx = true)
    (wrapf .unknownExtensionOptions "tx doesn't contain any extensions" [])
  match tx.getExtensionOptions with
  | [.web3Tx typedDataChainID feePayer feePayerSig] => .ok (typedDataChainID, feePayer, feePayerSig)
  | [.other] => .error (wrapf .unknownExtensionOptions "unknown extension option" [])
  | _ => .error (wrapf .unknownExtensionOptions "tx doesn't contain expected amount of extension options" [])

/-- The signature of the cosmos transaction is empty and of the amino mode. -/
def checkSignatureData : SignatureData → Except Error Unit
  | .multi => .error (wrapf .notSupported "unexpected SignatureData %T" [.s (str "*signing.MultiSignatureData")])
  | .single signMode signature => do
    require (signMode = .legacyAminoJSON)
      (wrapf .notSupported "unexpected SignatureData %T: wrong SignMode" [.s (str "*signing.SingleSignatureData")])
    require (signature.length = 0) (wrapf .tooManySignatures
      "invalid signature value; EIP712 must have the cosmos transaction signature empty" [])

/-- The key a signature of a hash recovers. -/
def recoverKey (sigHash : W.Hash) (feePayerSig : GoString) : Except Error PubKey := do
  let feePayerPubkey ← mapError (·.wrapf "failed to recover delegated fee payer from sig" [])
    (W.recoverPubkey sigHash feePayerSig)
  let ecPubKey ← mapError (·.wrapf "failed to unmarshal recovered fee payer pubkey" [])
    (W.unmarshalPubkey feePayerPubkey)
  .ok ⟨str "eth_secp256k1", W.compressPubkey ecPubKey⟩

def verifyEip712Signature (pubKey : PubKey) (signerData : SignerData) (sigData : SignatureData)
    (tx : Tx W.Msg) : Except Error Unit := do
  checkSignatureData sigData
  match tx.getMsgs with
  | [] => .error (wrapf .noSignatures "tx doesn't contain any msgs to verify signature" [])
  | msg :: _ =>
    let txBytes := W.stdSignBytes (signDoc W signerData tx)
    let signerChainID ← mapError (·.wrapf "failed to parse chain-id: %s" [.s signerData.chainID])
      (parseEIP155ChainID signerData.chainID)
    let (typedDataChainID, payer, sig) ← web3TxOption W tx
    require (typedDataChainID = signerChainID) (wrapf .invalidChainID "invalid chain-id" [])
    require (payer.length ≠ 0)
      (wrapf .unknownExtensionOptions "no feePayer on ExtensionOptionsWeb3Tx" [])
    let feePayer ← mapError (·.wrapf "failed to parse feePayer from ExtensionOptionsWeb3Tx" [])
      (W.accAddressFromBech32 payer)
    let typedData ← mapError (·.wrapf "failed to create EIP-712 typed data from tx" [])
      (W.legacyWrapTxToTypedData typedDataChainID msg txBytes feePayer)
    let sigHash ← W.typedDataAndHash typedData
    require (sig.length = 65) (wrapf .invalidSigner
      "signature length doesn't match typical [R||S||V] signature 65 bytes" [])
    let feePayerSig := normalizeRecovery sig
    let r := BigEndian.decode (feePayerSig.take 32)
    let s := BigEndian.decode ((feePayerSig.drop 32).take 32)
    require (W.validateSignatureValues (feePayerSig.getD 64 0) r s true = true)
      (wrapf .invalidSigner "invalid signature values (high-s or out-of-range)" [])
    let pk ← recoverKey W sigHash feePayerSig
    require (pubKey = pk) (wrapf .invalidPubKey "feePayer pubkey %s is different from transaction pubkey %s"
      [.s pubKey.bytes, .s pk.bytes])
    require (W.address pk = feePayer)
      (wrapf .invalidSigner "failed to verify delegated fee payer %s signature" [.s (W.address pk)])
    require (W.verifySignature pubKey.bytes sigHash (feePayerSig.take (feePayerSig.length - 1)) = true)
      (wrapf .invalidSigner "unable to verify signer signature of EIP712 typed data" [])

/-- The one signature of the transaction and the one signer. -/
def soleSigner (tx : Tx W.Msg) : Except Error (SignatureV2 × AccAddress) := do
  require (tx.sigVerifiableTx = true)
    (wrapf .invalidType "tx %T doesn't implement authsigning.SigVerifiableTx" [])
  require (tx.signingTx = true) (wrapf .invalidType "tx %T doesn't implement the authsigning.Tx interface" [])
  let sigs ← tx.getSignaturesV2
  let signerAddrs ← tx.getSigners
  match sigs with
  | [sig] =>
    match signerAddrs with
    | [signer] => .ok (sig, signer)
    | _ => .error (wrapf .invalidSigner "invalid number of signers; expected: %d, got %d"
        [.d signerAddrs.length, .d 1])
  | _ => .error (wrapf .tooManySignatures
      "invalid number of signers (%d); EIP712 signatures allows just one signature" [.d sigs.length])

/-- The keys the transaction declares belong to the signer. -/
def checkDeclaredKey (pubKey : Option PubKey) (sig : SignatureV2) (signer : AccAddress) : Except Error Unit :=
  match sig.pubKey with
  | none => .ok ()
  | some declared => do
    require (W.address declared = signer) (wrapf .invalidSigner
      "tx signer pubkey %s does not match declared signer %s" [.s (W.address declared), .s signer])
    match pubKey with
    | none => .ok ()
    | some pk => require (pk = declared) (wrapf .invalidPubKey
        "on-chain pubkey %s does not match tx-declared pubkey %s" [.s pk.bytes, .s declared.bytes])

/-- The decorator in front of `next`. -/
def anteHandle (next : Ctx → Tx W.Msg → Bool → Except Error Ctx) (ctx : Ctx) (tx : Tx W.Msg) (simulate : Bool) :
    Except Error Ctx :=
  if ctx.isReCheckTx then next ctx tx simulate
  else do
    let (sig, signer) ← soleSigner W tx
    let acc ← ctx.getSignerAcc signer
    require (simulate = true ∨ acc.pubKey ≠ none) (wrapf .invalidPubKey "pubkey on account is not set" [])
    checkDeclaredKey W acc.pubKey sig signer
    require (sig.sequence = acc.sequence) (wrapf .wrongSequence
      "account sequence mismatch, expected %d, got %d" [.d acc.sequence.toNat, .d sig.sequence.toNat])
    let accNum := if ctx.blockHeight = 0 then 0 else acc.accountNumber
    let signerData : SignerData := ⟨ctx.chainID, accNum, acc.sequence⟩
    if simulate then next ctx tx simulate
    else
      match acc.pubKey with
      | none => .error (wrapf .invalidPubKey "pubkey on account is not set" [])
      | some pubKey =>
        match verifyEip712Signature W pubKey signerData sig.data tx with
        | .error e => .error (wrapf .unauthorized
            "signature verification failed; please verify account number (%d) and chain-id (%s): %w"
            [.d accNum.toNat, .s ctx.chainID, .e e.root])
        | .ok _ => next ctx tx simulate

/-! ### What a verified signature binds -/

variable {W}

/-- The encodings and the hash are injective, and a signature recovers a key from one hash only. -/
structure Wallet.Binds (W : Wallet) : Prop where
  stdSignBytes_inj : ∀ {d d'}, W.stdSignBytes d = W.stdSignBytes d' → d = d'
  legacyWrapTxToTypedData_inj : ∀ {c m b p c' m' b' p' t}, W.legacyWrapTxToTypedData c m b p = .ok t →
    W.legacyWrapTxToTypedData c' m' b' p' = .ok t → b = b'
  typedDataAndHash_inj : ∀ {t t' h}, W.typedDataAndHash t = .ok h → W.typedDataAndHash t' = .ok h → t = t'
  recoverPubkey_inj : ∀ {h h' sig k}, W.recoverPubkey h sig = .ok k → W.recoverPubkey h' sig = .ok k → h = h'
  unmarshalPubkey_inj : ∀ {k k' p}, W.unmarshalPubkey k = .ok p → W.unmarshalPubkey k' = .ok p → k = k'
  compressPubkey_inj : ∀ {p p'}, W.compressPubkey p = W.compressPubkey p' → p = p'

/-- The signature `sig` of a document recovers a key. -/
def Signs (doc : StdSignDoc W.Msg) (sig : GoString) (pubKey : PubKey) : Prop :=
  ∃ c m p t h, W.legacyWrapTxToTypedData c m (W.stdSignBytes doc) p = .ok t ∧ W.typedDataAndHash t = .ok h ∧
    recoverKey W h (normalizeRecovery sig) = .ok pubKey

lemma recoverKey_inj (hW : W.Binds) {h h' : W.Hash} {sig : GoString} {pk : PubKey}
    (hk : recoverKey W h sig = .ok pk) (hk' : recoverKey W h' sig = .ok pk) : h = h' := by
  obtain ⟨raw, hraw, hk⟩ := bind_eq_ok.mp hk
  obtain ⟨point, hpoint, hk⟩ := bind_eq_ok.mp hk
  obtain ⟨raw', hraw', hk'⟩ := bind_eq_ok.mp hk'
  obtain ⟨point', hpoint', hk'⟩ := bind_eq_ok.mp hk'
  have hbytes : W.compressPubkey point = W.compressPubkey point' := by
    have heq := (Except.ok.inj hk).trans (Except.ok.inj hk').symm
    exact congrArg PubKey.bytes heq
  have hsame := hW.compressPubkey_inj hbytes
  rw [← hsame] at hpoint'
  have hraws := hW.unmarshalPubkey_inj (mapError_eq_ok.mp hpoint) (mapError_eq_ok.mp hpoint')
  rw [← hraws] at hraw'
  exact hW.recoverPubkey_inj (mapError_eq_ok.mp hraw) (mapError_eq_ok.mp hraw')

lemma Signs.unique (hW : W.Binds) {doc doc' : StdSignDoc W.Msg} {sig : GoString} {pk : PubKey}
    (h : Signs doc sig pk) (h' : Signs doc' sig pk) : doc = doc' := by
  obtain ⟨c, m, p, t, hash, hwrap, hhash, hkey⟩ := h
  obtain ⟨c', m', p', t', hash', hwrap', hhash', hkey'⟩ := h'
  rw [← recoverKey_inj hW hkey hkey'] at hhash'
  rw [← hW.typedDataAndHash_inj hhash hhash'] at hwrap'
  exact hW.stdSignBytes_inj (hW.legacyWrapTxToTypedData_inj hwrap hwrap')

lemma web3TxOption_eq_ok {tx : Tx W.Msg} {c : UInt64} {payer sig : GoString}
    (h : web3TxOption W tx = .ok (c, payer, sig)) : tx.getExtensionOptions = [.web3Tx c payer sig] := by
  obtain ⟨-, h⟩ := require_bind_eq_ok.mp h
  split at h
  · next hopts =>
    cases h
    exact hopts
  · cases h
  · cases h

lemma signs_of_verifyEip712Signature {pubKey : PubKey} {signerData : SignerData} {data : SignatureData}
    {tx : Tx W.Msg} (h : verifyEip712Signature W pubKey signerData data tx = .ok ()) :
    ∃ c payer sig, tx.getExtensionOptions = [.web3Tx c payer sig] ∧ Signs (signDoc W signerData tx) sig pubKey := by
  obtain ⟨-, -, h⟩ := bind_eq_ok.mp h
  split at h
  · cases h
  · next msg _ _ =>
    obtain ⟨_, -, h⟩ := bind_eq_ok.mp h
    obtain ⟨⟨c, payer, sig⟩, hopt, h⟩ := bind_eq_ok.mp h
    obtain ⟨-, h⟩ := require_bind_eq_ok.mp h
    obtain ⟨-, h⟩ := require_bind_eq_ok.mp h
    obtain ⟨feePayer, -, h⟩ := bind_eq_ok.mp h
    obtain ⟨typedData, hwrap, h⟩ := bind_eq_ok.mp h
    obtain ⟨sigHash, hhash, h⟩ := bind_eq_ok.mp h
    obtain ⟨-, h⟩ := require_bind_eq_ok.mp h
    obtain ⟨-, h⟩ := require_bind_eq_ok.mp h
    obtain ⟨pk, hrecover, h⟩ := bind_eq_ok.mp h
    obtain ⟨rfl, -⟩ := require_bind_eq_ok.mp h
    exact ⟨c, payer, sig, web3TxOption_eq_ok hopt, c, msg, feePayer, typedData, sigHash,
      mapError_eq_ok.mp hwrap, hhash, hrecover⟩

/-- The decorator has checked the transaction and passed it on: it is signed by one account, `signer`, whose
record is `acc`, and carries the signature `sig`. -/
structure Accepts (ctx : Ctx) (tx : Tx W.Msg) (signer : AccAddress) (acc : Account) (sig : GoString) : Prop where
  notReCheck : ctx.isReCheckTx = false
  passes : anteHandle W (fun ctx _ _ => .ok ctx) ctx tx false = .ok ctx
  signers : tx.getSigners = .ok [signer]
  account : ctx.getSignerAcc signer = .ok acc
  signature : ∃ c payer, tx.getExtensionOptions = [.web3Tx c payer sig]

/-- What a transaction does and costs. -/
structure SameContents {Msg : Type} (tx tx' : Tx Msg) : Prop where
  msgs : tx.getMsgs = tx'.getMsgs
  memo : tx.getMemo = tx'.getMemo
  timeoutHeight : tx.getTimeoutHeight = tx'.getTimeoutHeight
  fee : tx.getFee = tx'.getFee
  gas : tx.getGas = tx'.getGas
  feePayer : tx.feePayer = tx'.feePayer
  feeGranter : tx.feeGranter = tx'.feeGranter

lemma Accepts.signs {ctx : Ctx} {tx : Tx W.Msg} {signer : AccAddress} {acc : Account} {sig : GoString}
    (h : Accepts ctx tx signer acc sig) :
    ∃ signerData pubKey, acc.pubKey = some pubKey ∧ Signs (signDoc W signerData tx) sig pubKey := by
  have hpass := h.passes
  rw [anteHandle, h.notReCheck, if_neg Bool.false_ne_true] at hpass
  obtain ⟨⟨sigV2, signer'⟩, hsole, hpass⟩ := bind_eq_ok.mp hpass
  obtain ⟨acc', hacc, hpass⟩ := bind_eq_ok.mp hpass
  have hsigner : signer' = signer := by
    obtain ⟨-, hsole⟩ := require_bind_eq_ok.mp hsole
    obtain ⟨-, hsole⟩ := require_bind_eq_ok.mp hsole
    obtain ⟨sigs, -, hsole⟩ := bind_eq_ok.mp hsole
    obtain ⟨signers, hsigners, hsole⟩ := bind_eq_ok.mp hsole
    rw [h.signers] at hsigners
    cases hsigners
    split at hsole
    · cases hsole
      rfl
    · cases hsole
  have haccount : acc' = acc := by
    rw [hsigner, h.account] at hacc
    exact (Except.ok.inj hacc).symm
  rw [haccount] at hpass
  obtain ⟨-, hpass⟩ := require_bind_eq_ok.mp hpass
  obtain ⟨-, -, hpass⟩ := bind_eq_ok.mp hpass
  obtain ⟨-, hpass⟩ := require_bind_eq_ok.mp hpass
  rw [if_neg Bool.false_ne_true] at hpass
  cases hkey : acc.pubKey with
  | none =>
    rw [hkey] at hpass
    cases hpass
  | some pubKey =>
    rw [hkey] at hpass
    dsimp only at hpass
    split at hpass
    · cases hpass
    · next hverify =>
      obtain ⟨c, payer, sig', hopts, hsigns⟩ := signs_of_verifyEip712Signature hverify
      obtain ⟨c₀, payer₀, hopts₀⟩ := h.signature
      have hsig : sig' = sig := by
        rw [hopts₀] at hopts
        cases hopts
        rfl
      exact ⟨_, pubKey, rfl, hsig ▸ hsigns⟩

lemma Accepts.feePayer_eq {ctx : Ctx} {tx : Tx W.Msg} {signer : AccAddress} {acc : Account} {sig : GoString}
    (h : Accepts ctx tx signer acc sig) : tx.feePayer = signer :=
  List.mem_singleton.mp (tx.feePayer_mem [signer] h.signers)

/-- Two transactions accepted with one signature for one account carry the same contents exactly when they
name the same fee granter, which nothing binds. -/
theorem same_contents_iff_same_feeGranter (hW : W.Binds) {ctx ctx' : Ctx} {tx tx' : Tx W.Msg} {signer : AccAddress}
    {acc : Account} {sig : GoString} (h : Accepts ctx tx signer acc sig) (h' : Accepts ctx' tx' signer acc sig) :
    SameContents tx tx' ↔ tx.feeGranter = tx'.feeGranter := by
  constructor
  · exact SameContents.feeGranter
  · intro hgranter
    obtain ⟨signerData, pubKey, hkey, hsigns⟩ := h.signs
    obtain ⟨signerData', pubKey', hkey', hsigns'⟩ := h'.signs
    rw [Option.some.inj (hkey.symm.trans hkey')] at hsigns
    have hdoc : signDoc W signerData tx = signDoc W signerData' tx' := hsigns.unique hW hsigns'
    have hfee : (⟨tx.getFee, tx.getGas, [], []⟩ : StdFee) = ⟨tx'.getFee, tx'.getGas, [], []⟩ :=
      congrArg StdSignDoc.fee hdoc
    exact
      { msgs := congrArg StdSignDoc.msgs hdoc
        memo := congrArg StdSignDoc.memo hdoc
        timeoutHeight := congrArg StdSignDoc.timeoutHeight hdoc
        fee := congrArg StdFee.amount hfee
        gas := congrArg StdFee.gas hfee
        feePayer := h.feePayer_eq.trans h'.feePayer_eq.symm
        feeGranter := hgranter }

namespace Sample

def account : Account := ⟨some ⟨str "eth_secp256k1", [2, 9]⟩, 3, 4⟩

/-- A transaction of one message with a fee granter, which may declare the key of its signer. -/
def tx (declared : Option PubKey) (granter : AccAddress) : Tx Unit where
  sigVerifiableTx := true
  signingTx := true
  hasExtensionOptionsTx := true
  getSignaturesV2 := .ok [⟨declared, .single .legacyAminoJSON [], 4⟩]
  getSigners := .ok [[7]]
  getMsgs := [()]
  getMemo := str "hi"
  getTimeoutHeight := 0
  getFee := [⟨str "auptick", 500⟩]
  getGas := 200000
  feePayer := [7]
  feeGranter := granter
  getExtensionOptions := [.web3Tx 1170 (str "uptick1alice") (List.replicate 65 1)]
  feePayer_mem := by
    intro signers h
    cases h
    exact List.mem_singleton.mpr rfl

def ctx : Ctx := ⟨false, 12, str "uptick_1170-1", fun _ => .ok account⟩

/-- What the wallet of the account signed. -/
def doc : StdSignDoc Unit where
  chainID := str "uptick_1170-1"
  accountNumber := 3
  sequence := 4
  timeoutHeight := 0
  fee := { amount := [⟨str "auptick", 500⟩], gas := 200000 }
  msgs := [()]
  memo := str "hi"

/-- Typed data and hashes as the documents they are made from. Only the hash of `doc` has a signature. -/
def wallet : Wallet where
  Msg := Unit
  SignBytes := StdSignDoc Unit
  TypedData := StdSignDoc Unit
  Hash := StdSignDoc Unit
  Point := GoString
  accAddressFromBech32 _ := .ok [7]
  address _ := [7]
  stdSignBytes d := d
  legacyWrapTxToTypedData _ _ d _ := .ok d
  typedDataAndHash d := .ok d
  validateSignatureValues _ _ _ _ := true
  recoverPubkey d _ := if d = doc then .ok [2, 9] else .error (external "recovery failed")
  unmarshalPubkey k := .ok k
  compressPubkey p := p
  verifySignature _ _ _ := true

lemma wallet_binds : wallet.Binds where
  stdSignBytes_inj := id
  legacyWrapTxToTypedData_inj h h' := Except.ok.inj (h.trans h'.symm)
  typedDataAndHash_inj h h' := Except.ok.inj (h.trans h'.symm)
  recoverPubkey_inj := by
    intro d d' sig k h h'
    simp only [wallet] at h h'
    split at h
    · split at h'
      · next hd hd' => exact hd.trans hd'.symm
      · cases h'
    · cases h
  unmarshalPubkey_inj h h' := Except.ok.inj (h.trans h'.symm)
  compressPubkey_inj := id

lemma accepts {declared : Option PubKey} (hdeclared : declared = none ∨ declared = account.pubKey)
    (granter : AccAddress) : Accepts (W := wallet) ctx (tx declared granter) [7] account (List.replicate 65 1) where
  notReCheck := rfl
  passes := by
    rcases hdeclared with rfl | rfl
    · rfl
    · rfl
  signers := rfl
  account := rfl
  signature := ⟨1170, str "uptick1alice", rfl⟩

end Sample

/-- One signature on a transaction that declares its key and on one that does not. -/
theorem same_contents_declared_key : Sample.tx none [8] ≠ Sample.tx Sample.account.pubKey [8] ∧
    SameContents (Sample.tx none [8]) (Sample.tx Sample.account.pubKey [8]) := by
  refine ⟨fun heq => ?_, ?_⟩
  · cases congrArg Tx.getSignaturesV2 heq
  · exact (same_contents_iff_same_feeGranter Sample.wallet_binds (Sample.accepts (.inl rfl) [8])
      (Sample.accepts (.inr rfl) [8])).mpr rfl

/-- A relayer may put another granter into a signed transaction. -/
theorem feeGranter_not_bound :
    Accepts (W := Sample.wallet) Sample.ctx (Sample.tx none [8]) [7] Sample.account (List.replicate 65 1) ∧
      Accepts (W := Sample.wallet) Sample.ctx (Sample.tx none [9]) [7] Sample.account (List.replicate 65 1) ∧
        ¬ SameContents (Sample.tx none [8]) (Sample.tx none [9]) := by
  refine ⟨Sample.accepts (.inl rfl) [8], Sample.accepts (.inl rfl) [9], ?_⟩
  intro hsame
  cases hsame.feeGranter

end Uptick.Ante
