import Uptick.Erc721.Resolve
import Uptick.Sample

/-!
# A concrete chain

One ledger, one EVM, one wasm module and one nft-transfer module that keep the hypotheses of the
parameters, to run the handlers on. Contracts are plain ERC721 and CW721 contracts; the ones that the
module accounts deploy are theirs to mint on.
-/

namespace Uptick.Sample

open Text Evm Outcome Collection

def failed {α : Type} (text : String) : Except Error α := .error (external text)

/-- A change of the ledger that is allowed under a condition. -/
def when (p : Prop) [Decidable p] (L : NftLedger) : Except Error NftLedger :=
  if p then .ok L else failed "not allowed"

lemma when_eq_ok {p : Prop} [Decidable p] {L L' : NftLedger} : when p L = .ok L' ↔ p ∧ L' = L := by
  unfold when
  split
  · next h => simp [h, eq_comm]
  · next h => simp [h, failed]

/-- A change of the record of a token that exists. -/
def change (L : NftLedger) (c n : GoString) (f : Held → Held) : Except Error NftLedger :=
  match L.held c n with
  | some h => when (L.hasClass c = true) (L.put c n (some (f h)))
  | none => failed "no such token"

lemma change_eq_ok {L L' : NftLedger} {c n : GoString} {f : Held → Held} : change L c n f = .ok L' ↔
    L.hasClass c = true ∧ ∃ h, L.held c n = some h ∧ L' = L.put c n (some (f h)) := by
  unfold change
  cases hh : L.held c n with
  | none => simp [failed]
  | some h => simp [when_eq_ok]

def nk : NftKeeper where
  mint := fun L c n t r => when (L.hasClass c = true ∧ L.held c n = none) (L.put c n (some ⟨t, r⟩))
  burn := fun L c n => when (L.hasClass c = true ∧ L.hasNFT c n = true) (L.put c n none)
  update := fun L c n t => change L c n fun h => ⟨t, h.owner⟩
  transfer := fun L c n r => change L c n fun h => ⟨h.nft, r⟩
  saveClass := fun L c cl => when (L.getClass c = none) (L.putClass c cl)
  updateClass := fun L c cl => when (L.hasClass c = true) (L.putClass c cl)
  mint_eq_ok := by simp [when_eq_ok, and_assoc]
  burn_eq_ok := by simp [when_eq_ok, and_assoc]
  update_eq_ok := change_eq_ok
  transfer_eq_ok := change_eq_ok
  saveClass_eq_ok := when_eq_ok
  updateClass_eq_ok := when_eq_ok

/-- A contract that the module account deployed from `ERC721Uptick`, or an ERC721 contract of somebody
else, on which the module account may not mint. -/
inductive Code
  | uptick (args : CtorArgs)
  | other
  deriving DecidableEq

structure EvmState where
  nonce : Nat
  code : Address → Option Code
  owner : Address → Nat → Option Address
  info : Address → Nat → NFTEnhance

namespace EvmState

def empty : EvmState := ⟨0, fun _ => none, fun _ _ => none, fun _ _ => ⟨[], [], [], []⟩⟩

def hasCode (st : EvmState) (c : Address) : Bool := (st.code c).isSome

def ownerOf (st : EvmState) (c : Address) (v : Nat) : Except Error Address :=
  if st.hasCode c then
    match st.owner c v with
    | some o => .ok o
    | none => failed "invalid token ID"
  else failed "no code"

def put (st : EvmState) (c : Address) (v : Nat) (o : Option Address) (info : NFTEnhance) : EvmState :=
  { st with
    owner := fun c' v' => if c' = c ∧ v' = v then o else st.owner c' v'
    info := fun c' v' => if c' = c ∧ v' = v then info else st.info c' v' }

/-- An account without code takes tokens; the contracts here have no hook. -/
def accepts (st : EvmState) (dst : Address) : Bool := !st.hasCode dst && decide (dst ≠ zeroAddress)

def answers {α : Type} (st : EvmState) (c : Address) (a : α) : Except Error α :=
  if st.hasCode c then .ok a else failed "no code"

/-- A state change that is allowed under a condition. -/
def act (p : Prop) [Decidable p] (st : EvmState) : Except Error EvmState :=
  if p then .ok st else failed "execution reverted"

lemma act_eq_ok {p : Prop} [Decidable p] {st st' : EvmState} : act p st = .ok st' ↔ p ∧ st' = st := by
  unfold act
  split
  · next h => simp [h, eq_comm]
  · next h => simp [h, failed]

def isUptick (st : EvmState) (c : Address) : Bool :=
  match st.code c with
  | some (.uptick _) => true
  | _ => false

/-- Minting is for the module account on its own contracts. -/
def mintAs (st : EvmState) (c dst : Address) (v : Nat) (info : NFTEnhance) : Except Error EvmState :=
  act (st.isUptick c = true ∧ st.owner c v = none ∧ st.accepts dst = true ∧ info.uri.length ≤ 256)
    (st.put c v (some dst) info)

def deploy (st : EvmState) (creator : Address) (args : CtorArgs) : Except Error EvmState :=
  let c := createAddress creator st.nonce
  act (st.hasCode c = false)
    { st with
      nonce := st.nonce + 1
      code := fun c' => if c' = c then some (.uptick args) else st.code c'
      owner := fun c' v => if c' = c then none else st.owner c' v }

def classInfo (st : EvmState) (c : Address) : Except Error ClassEnhance :=
  match st.code c with
  | some (.uptick args) => .ok ⟨args.data, args.description, args.mintRestricted, args.schema,
      args.updateRestricted, args.baseTokenURI, args.uriHash⟩
  | _ => failed "execution reverted"

end EvmState

open EvmState in
abbrev evmCalls : EvmCalls where
  State := EvmState
  sequence := fun st _ => .ok st.nonce
  hasCode := EvmState.hasCode
  name := fun st c => st.answers c (str "Cats")
  symbol := fun st c => st.answers c (str "CAT")
  getClassEnhanceInfo := classInfo
  getNFTEnhanceInfo := fun st c v => if st.isUptick c then .ok (st.info c v) else failed "execution reverted"
  tokenURI := fun st c v => do
    let _ ← st.ownerOf c v
    .ok (st.info c v).uri
  ownerOf := EvmState.ownerOf
  acceptsERC721 := accepts
  deploy := deploy
  mintEnhance := mintAs
  mint := fun st c dst v uri => st.mintAs c dst v { st.info c v with uri := uri }
  safeTransferFrom := fun st caller c src dst v =>
    act (caller = src ∧ st.hasCode c = true ∧ st.owner c v = some src ∧ st.accepts dst = true)
      (st.put c v (some dst) (st.info c v))
  burn := fun st caller c v =>
    act (st.hasCode c = true ∧ st.owner c v = some caller) (st.put c v none ⟨[], [], [], []⟩)

lemma evm_owner (st : EvmState) (c : Address) (v : Nat) :
    evmCalls.owner st c v = if st.hasCode c then st.owner c v else none := by
  unfold EvmCalls.owner
  simp only [EvmState.ownerOf]
  split
  · cases st.owner c v <;> rfl
  · rfl

lemma evm_moved (st : EvmState) {c : Address} (hc : st.hasCode c = true) (v : Nat) (o : Option Address)
    (info : NFTEnhance) : evmCalls.Moved st (st.put c v o info) c v o where
  owner_self := by
    rw [evm_owner, if_pos (show (st.put c v o info).hasCode c = true from hc)]
    simp [EvmState.put]
  owner_other := by
    intro c' v' hne
    have hne' : ¬(c' = c ∧ v' = v) := fun h => hne (by rw [h.1, h.2])
    have howner : (st.put c v o info).owner c' v' = st.owner c' v' := by simp [EvmState.put, hne']
    rw [evm_owner, evm_owner, howner]
    rfl
  code := rfl

lemma hasCode_of_isUptick {st : EvmState} {c : Address} (h : st.isUptick c = true) : st.hasCode c = true := by
  unfold EvmState.isUptick at h
  unfold EvmState.hasCode
  cases hc : st.code c with
  | none => simp [hc] at h
  | some k => rfl

lemma evm_mintAs {st st' : EvmState} {c dst : Address} {v : Nat} {info : NFTEnhance}
    (h : st.mintAs c dst v info = .ok st') :
    evmCalls.owner st c v = none ∧ evmCalls.Moved st st' c v (some dst) := by
  obtain ⟨⟨huptick, howner, -, -⟩, rfl⟩ := EvmState.act_eq_ok.mp h
  have hcode := hasCode_of_isUptick huptick
  exact ⟨by rw [evm_owner, if_pos hcode, howner], evm_moved st hcode v _ _⟩

abbrev evm : EvmKeeper X where
  toEvmCalls := evmCalls
  owner_of_no_code := by
    intro st c v h
    rw [evm_owner st, if_neg (by simp [show st.hasCode c = false from h])]
  name_of_no_code := by
    intro st c n h
    simp [EvmState.answers, show st.hasCode c = false from h, failed]
  deploy_ok := by
    intro st creator args st' h
    obtain ⟨hcode, rfl⟩ := EvmState.act_eq_ok.mp h
    refine ⟨st.nonce, rfl, hcode, fun c => ?_, fun c v => ?_⟩
    · by_cases hc : c = createAddress creator st.nonce
      · simp [EvmState.hasCode, hc, X]
      · simp [EvmState.hasCode, hc, X]
    · rw [evm_owner, evm_owner st]
      by_cases hc : c = createAddress creator st.nonce
      · subst hc
        simp [hcode]
      · simp only [EvmState.hasCode, hc, if_false]
        rfl
  mintEnhance_ok := evm_mintAs
  mint_ok := evm_mintAs
  safeTransferFrom_ok := by
    intro st caller c src dst v st' h
    obtain ⟨⟨-, hcode, howner, hacc⟩, rfl⟩ := EvmState.act_eq_ok.mp h
    exact ⟨by rw [evm_owner, if_pos hcode, howner], hacc, evm_moved st hcode v _ _⟩
  burn_ok := by
    intro st caller c v st' h
    obtain ⟨⟨hcode, -⟩, rfl⟩ := EvmState.act_eq_ok.mp h
    exact evm_moved st hcode v _ _

lemma evm_live : evm.Live where
  safeTransferFrom := by
    intro st c src dst v howner hacc
    rw [evm_owner st] at howner
    split at howner
    · next hcode => exact ⟨_, EvmState.act_eq_ok.mpr ⟨⟨rfl, hcode, howner, hacc⟩, rfl⟩⟩
    · cases howner
  burn := by
    intro st c src v howner
    rw [evm_owner st] at howner
    split at howner
    · next hcode => exact ⟨_, EvmState.act_eq_ok.mpr ⟨⟨hcode, howner⟩, rfl⟩⟩
    · cases howner

structure WasmState where
  next : UInt8
  isContract : AccAddress → Bool
  owner : AccAddress → GoString → Option GoString
  uri : AccAddress → GoString → GoString
  approvals : AccAddress → GoString → List AccAddress

namespace WasmState

def empty : WasmState := ⟨0, fun _ => false, fun _ _ => none, fun _ _ => [], fun _ _ => []⟩

def put (st : WasmState) (c : AccAddress) (t o uri : GoString) : WasmState :=
  { st with
    owner := fun c' t' => if c' = c ∧ t' = t then some o else st.owner c' t'
    uri := fun c' t' => if c' = c ∧ t' = t then uri else st.uri c' t'
    approvals := fun c' t' => if c' = c ∧ t' = t then [] else st.approvals c' t' }

def act (p : Prop) [Decidable p] (st : WasmState) : Except Error WasmState :=
  if p then .ok st else failed "execute wasm contract failed"

lemma act_eq_ok {p : Prop} [Decidable p] {st st' : WasmState} : act p st = .ok st' ↔ p ∧ st' = st := by
  unfold act
  split
  · next h => simp [h, eq_comm]
  · next h => simp [h, failed]

def allNftInfo (st : WasmState) (c : AccAddress) (t : GoString) : Except Error Wasm.AllNftInfo :=
  if st.isContract c then
    match st.owner c t with
    | some o => .ok ⟨o, st.uri c t⟩
    | none => failed "cw721 token not found"
  else failed "no such contract"

/-- The account of the next contract: thirty-two equal bytes. -/
def fresh (st : WasmState) : AccAddress := List.replicate 32 st.next

def instantiate (st : WasmState) : Except Error (AccAddress × WasmState) :=
  let c := st.fresh
  if st.isContract c = false then
    .ok (c, { st with
      next := st.next + 1
      isContract := fun c' => decide (c' = c) || st.isContract c'
      owner := fun c' t => if c' = c then none else st.owner c' t })
  else failed "instantiate wasm contract failed"

end WasmState

abbrev wasmCalls : Wasm.WasmCalls where
  State := WasmState
  contractInfo := fun st c =>
    if st.isContract c = true ∧ c.length = 32 then .ok ⟨str "Cats", str "CAT"⟩ else failed "no such contract"
  allNftInfo := WasmState.allNftInfo
  approved := fun st c t acc => acc ∈ st.approvals c t
  instantiate := fun st _ _ => st.instantiate
  mint := fun st c t o uri => WasmState.act (st.isContract c = true ∧ st.owner c t = none) (st.put c t o uri)
  transferNft := fun st sender c t recipient =>
    WasmState.act (st.isContract c = true ∧ (st.owner c t = some (X.accString sender) ∨
      (st.owner c t).isSome = true ∧ sender ∈ st.approvals c t)) (st.put c t recipient (st.uri c t))

lemma wasm_owner (st : WasmState) (c : AccAddress) (t : GoString) :
    wasmCalls.owner st c t = if st.isContract c then st.owner c t else none := by
  unfold Wasm.WasmCalls.owner
  simp only [WasmState.allNftInfo]
  split
  · cases st.owner c t <;> rfl
  · rfl

lemma wasm_moved (st : WasmState) {c : AccAddress} (hc : st.isContract c = true) (t o uri : GoString) :
    wasmCalls.Moved st (st.put c t o uri) c t o where
  owner_self := by
    rw [wasm_owner, if_pos (show (st.put c t o uri).isContract c = true from hc)]
    simp [WasmState.put]
  owner_other := by
    intro c' t' hne
    have hne' : ¬(c' = c ∧ t' = t) := fun h => hne (by rw [h.1, h.2])
    have howner : (st.put c t o uri).owner c' t' = st.owner c' t' := by simp [WasmState.put, hne']
    rw [wasm_owner, wasm_owner, howner]
    rfl

abbrev wasm : Wasm.WasmKeeper X where
  toWasmCalls := wasmCalls
  instantiate_ok := by
    intro st sender args c st' h
    simp only [WasmState.instantiate] at h
    split at h
    · next hc =>
      simp only [Except.ok.injEq, Prod.mk.injEq] at h
      obtain ⟨rfl, rfl⟩ := h
      refine ⟨by simp [WasmState.fresh], by simp [WasmState.fresh], fun t => ?_, fun c' t => ?_⟩
      · rw [wasm_owner st, hc]
        rfl
      · rw [wasm_owner, wasm_owner st]
        by_cases hc' : c' = st.fresh
        · subst hc'
          simp [hc]
        · simp only [hc', if_false, decide_false, Bool.false_or]
    · simp [failed] at h
  mint_ok := by
    intro st c t o uri st' h
    obtain ⟨⟨hc, ho⟩, rfl⟩ := WasmState.act_eq_ok.mp h
    exact ⟨by rw [wasm_owner, if_pos hc, ho], wasm_moved st hc t o uri⟩
  transferNft_ok := by
    intro st sender c t recipient st' h
    obtain ⟨⟨hc, ho⟩, rfl⟩ := WasmState.act_eq_ok.mp h
    refine ⟨?_, wasm_moved st hc t recipient _⟩
    rw [wasm_owner, if_pos hc]
    exact ho

/-! ### nft-transfer -/

def port : GoString := str "nft-transfer"

def channel : GoString := str "channel-0"

/-- The escrow account of the channel; any other starts with a zero byte. -/
def escrow (p c : GoString) : AccAddress :=
  if p = port ∧ c = channel then
    [157, 218, 2, 227, 232, 180, 133, 225, 42, 4, 67, 216, 84, 234, 234, 15, 126, 1, 178, 4]
  else 0 :: (p ++ c ++ List.replicate 19 0).take 19

def classPrefix (p c : GoString) : GoString := p ++ 47 :: c ++ [47]

def voucherClasses : List (GoString × GoString) :=
  [(str "nft-transfer/channel-0/kitty",
    str "ibc/B82BFD358EE99BA488C59B9B2F0C5958182835EA2FF212CCB0C15B5B79F483D8")]

/-- A path without a channel is the name of a class. -/
def ibcClassID (path : GoString) : GoString :=
  if 47 ∉ path then path else (voucherClasses.lookup path).getD (str "ibc/" ++ path)

/-- The path that a voucher class came by. -/
def tracePath (classID : GoString) : GoString :=
  ((voucherClasses.find? fun e => e.2 == classID).map Prod.fst).getD (classID.drop 4)

def pathOf (classID : GoString) : GoString := if isIBCDenom classID then tracePath classID else classID

/-- A voucher that goes back where it came from is burned; everything else is escrowed. -/
def sendToken (converted : GoString → GoString → Bool) (m : Ibc.MsgTransfer) (sender : AccAddress) (L : NftLedger)
    (n : GoString) : Except Error NftLedger :=
  if (L.held m.classId n).map (·.owner) = some sender then
    if hasPrefix (pathOf m.classId) (classPrefix m.sourcePort m.sourceChannel) then
      Internft.burn nk converted L m.classId n
    else Internft.transfer nk L m.classId n [] (escrow m.sourcePort m.sourceChannel)
  else failed "not the owner"

def transfer (converted : GoString → GoString → Bool) (L : NftLedger) (m : Ibc.MsgTransfer) :
    Except Error (NftLedger × Ibc.Packet) := do
  let sender ← X.decodeAcc m.sender
  let path := pathOf m.classId
  require ((isIBCDenom m.classId = false → hasPrefix path (classPrefix m.sourcePort m.sourceChannel) = false) ∧
      (isIBCDenom m.classId = true → ibcClassID path = m.classId ∧ 47 ∈ path ∧ L.hasClass path = false))
    (external "not allowed")
  let L ← forEach (sendToken converted m sender) L m.tokenIds
  .ok (L, ⟨m.sourcePort, m.sourceChannel, path, m.tokenIds, m.sender, m.receiver, m.memo⟩)

def voucherOf (L : NftLedger) (id : GoString) : GoString := if L.hasClass id then id else ibcClassID id

def refundToken (K : GoString) (escrow sender : AccAddress) (L : NftLedger) (n : GoString) : Except Error NftLedger :=
  if L.getOwner K n = escrow then Internft.transfer nk L K n [] sender else Internft.mint nk L K n [] [] sender

def refund (L : NftLedger) (p : Ibc.Packet) (sender : AccAddress) : Except Error NftLedger :=
  forEach (refundToken (voucherOf L p.classId) (escrow p.sourcePort p.sourceChannel) sender) L p.tokenIds

lemma transfer_calls {converted : GoString → GoString → Bool} {L L' : NftLedger} {m : Ibc.MsgTransfer}
    {p : Ibc.Packet} (h : transfer converted L m = .ok (L', p)) :
    Ibc.SentAs classPrefix ibcClassID L m p ∧ ∃ sender, X.decodeAcc m.sender = .ok sender ∧
      Chained (Ibc.SendToken nk converted (escrow m.sourcePort m.sourceChannel) sender m.classId) L m.tokenIds L' := by
  obtain ⟨sender, hs, h⟩ := bind_eq_ok.mp h
  obtain ⟨⟨hplain, hvoucher⟩, h⟩ := require_bind_eq_ok.mp h
  obtain ⟨L₁, hloop, h⟩ := bind_eq_ok.mp h
  obtain ⟨rfl, rfl⟩ := Prod.mk.inj (Except.ok.inj h)
  refine ⟨⟨rfl, ?_⟩, sender, hs, chained_of_forEach (fun L n L' hround => ?_) hloop⟩
  · cases hi : isIBCDenom m.classId with
    | true => exact .inr ⟨rfl, hvoucher hi⟩
    | false =>
      have hpath : pathOf m.classId = m.classId := by simp [pathOf, hi]
      rw [hpath] at hplain
      exact .inl ⟨rfl, hpath, hplain hi⟩
  · unfold sendToken at hround
    split at hround
    · next howner =>
      obtain ⟨⟨t, _⟩, hheld, rfl⟩ := Option.map_eq_some_iff.mp howner
      split at hround
      · exact .burn hheld hround
      · exact .escrow hheld hround
    · simp [failed] at hround

def ics : Ibc.Ics721 X nk where
  escrow := escrow
  classPrefix := classPrefix
  removeClassPrefix := fun p c path =>
    if hasPrefix path (classPrefix p c) then .ok (path.drop (classPrefix p c).length) else failed "no prefix"
  ibcClassID := ibcClassID
  getVoucherClassID := fun L id => .ok (voucherOf L id)
  transfer := transfer
  refund := refund
  escrow_length := by
    intro p c
    unfold escrow
    split
    · rfl
    · simp only [List.length_cons, List.length_take, List.length_append, List.length_replicate]
      omega
  removeClassPrefix_ok := by
    intro p c path base h
    split at h
    · next hp =>
      cases h
      obtain ⟨rest, rfl⟩ := hasPrefix_iff.mp hp
      simp
    · simp [failed] at h
  removeClassPrefix_of := by
    intro p c path h
    exact ⟨_, by rw [if_pos h]⟩
  getVoucherClassID_eq := fun L id => rfl
  transfer_calls := transfer_calls
  refund_calls := by
    intro L p sender L' K h hK
    obtain rfl := Except.ok.inj hK
    refine chained_of_forEach (fun L n L' hround => ?_) h
    unfold refundToken at hround
    split at hround
    · next howner => exact .release howner hround
    · exact .mint hround

lemma escrow_ne_of_head {acc : AccAddress} (h0 : acc.head? ≠ some 0) (hne : acc ≠ escrow port channel)
    (p c : GoString) : escrow p c ≠ acc := by
  intro h
  by_cases hpc : p = port ∧ c = channel
  · rw [hpc.1, hpc.2] at h
    exact hne h.symm
  · rw [escrow, if_neg hpc] at h
    exact h0 (by rw [← h]; rfl)

abbrev chain : Chain where
  toExtern := X
  nk := nk
  evm := evm
  wasm := wasm
  ics := ics
  escrow_ne_erc721 := escrow_ne_of_head (by decide) (by decide +kernel)
  escrow_ne_cw721 := escrow_ne_of_head (by decide) (by decide +kernel)

/-- The class of the contract's tokens, as `RegisterERC721` creates it. -/
def wrappedClass : GoString := str "uptick-4444444444444444444444444444444444444444"

def wrappedPair : Erc721.TokenPair := ⟨contract, wrappedClass⟩

def registeredStore : Erc721.Store := Erc721.putPair X .empty (hexToAddress contract) wrappedClass

def wrappedLedger : NftLedger :=
  NftLedger.empty.putClass wrappedClass
    ⟨str "Cats", str "CAT", [], [], [], .value ⟨X.accString Erc721.accModuleAddress, [], false, false, []⟩⟩

/-- The EVM with a user's contract, on which each listed token has the listed owner. -/
def evmWith (tokens : List (Nat × Address)) : EvmState where
  nonce := 0
  code := fun c => if c = hexToAddress contract then some .other else none
  owner := fun c v => if c = hexToAddress contract then tokens.lookup v else none
  info := fun _ _ => ⟨[], str "ipfs://cat", [], []⟩

/-- The class `kitty` of a user. -/
def kittyLedger : NftLedger :=
  NftLedger.empty.putClass (str "kitty")
    ⟨str "Kitties", str "KIT", [], [], [], .value ⟨X.accString alice, [], false, false, []⟩⟩

/-- The wasm module with one contract, on which the token `7` has the given owner, who lets the listed
accounts move it. -/
def wasmWith (owner : AccAddress) (approvals : List AccAddress) : WasmState where
  next := 0
  isContract := fun c => decide (c = cwContract)
  owner := fun c t => if c = cwContract ∧ t = str "7" then some (X.accString owner) else none
  uri := fun _ _ => []
  approvals := fun c t => if c = cwContract ∧ t = str "7" then approvals else []

end Uptick.Sample
