import Uptick.Circulation

/-!
# What a holder keeps

An account that signs nothing keeps what it holds on the three ledgers, whatever others sign and whatever packets,
refunds and migrations do. The module accounts and the escrow accounts of the channels hold tokens for others and are
no holders in this sense.
-/

namespace Uptick

open Text Evm Outcome Collection

variable {C : Chain} {D : Set GoString} {M : AccAddress} {w w' : World C} {s s' : System C}
  {op : Op C}

/-- An account that holds no tokens for others. The refund of CW721 tokens compares the texts of addresses, not the
addresses. -/
structure Holder (C : Chain) (M : AccAddress) : Prop where
  spelled : C.decodeAcc (C.accString M) = .ok M
  erc721 : evmAddress M ≠ Erc721.moduleAddress
  cw721 : Cw721.accModuleAddress ≠ M
  text : Cw721.moduleOwnsCW721 C.toExtern (trimSpace (C.accString M)) = false
  escrow : ∀ port channel, C.ics.escrow port channel ≠ M

/-- The account owns the asset, under its name on the ledger of the asset. -/
def World.Holds (w : World C) (M : AccAddress) : Asset → Prop
  | .native K n => Erc721.nftOwner w (K, n) = some M
  | .erc721 c v => Erc721.ercOwner w (c, v) = some (evmAddress M)
  | .cw721 c t => Cw721.cwOwner w (c, t) = some (C.accString M)

/-- The account holds what it held. -/
def Leaves (M : AccAddress) (w w' : World C) : Prop := ∀ A, w.Holds M A → w'.Holds M A

/-- The account did not sign the step, and what others do with the contracts takes nothing from it. -/
structure Bystander (M : AccAddress) (s : System C) (op : Op C) (s' : System C) : Prop where
  signer : ∀ text acc, op.signer = some text → C.decodeAcc text = .ok acc → evmAddress acc ≠ evmAddress M
  contracts : (∃ st, op = .evm st) ∨ (∃ st, op = .wasm st) → Leaves M s.world s'.world

namespace Leaves

lemma trans {w'' : World C} (h : Leaves M w w') (h' : Leaves M w' w'') : Leaves M w w'' := fun A hA => h' A (h A hA)

lemma of_owners (hnft : ∀ x, Erc721.nftOwner w x = some M → Erc721.nftOwner w' x = some M)
    (herc : ∀ u, Erc721.ercOwner w u = some (evmAddress M) → Erc721.ercOwner w' u = some (evmAddress M))
    (hcw : ∀ u, Cw721.cwOwner w u = some (C.accString M) → Cw721.cwOwner w' u = some (C.accString M)) :
    Leaves M w w' := by
  intro A hA
  cases A with
  | native K n => exact hnft (K, n) hA
  | erc721 c v => exact herc (c, v) hA
  | cw721 c t => exact hcw (c, t) hA

lemma of_evm (hnft : ∀ x, Erc721.nftOwner w x = some M → Erc721.nftOwner w' x = some M)
    (hcw : ∀ u, Cw721.cwOwner w u = some (C.accString M) → Cw721.cwOwner w' u = some (C.accString M))
    (hevm : w'.evm = w.evm) : Leaves M w w' := by
  refine of_owners hnft (fun u hu => ?_) hcw
  rw [Erc721.ercOwner, hevm]
  exact hu

lemma native (hkeeps : Keeps M w.nft w'.nft) (hevm : w'.evm = w.evm) (hwasm : w'.wasm = w.wasm) : Leaves M w w' := by
  refine of_evm (fun x => hkeeps.nftOwner x) (fun u hu => ?_) hevm
  rw [Cw721.cwOwner, hwasm]
  exact hu

end Leaves

namespace Holder

variable (hM : Holder C M)

include hM

lemma accErc721 : Erc721.accModuleAddress ≠ M := by
  rintro rfl
  exact hM.erc721 rfl

lemma accString_ne : C.accString Cw721.accModuleAddress ≠ C.accString M := by
  intro heq
  have hdecode := hM.spelled
  rw [← heq, Cw721.decodeAcc_module, Except.ok.injEq] at hdecode
  exact hM.cw721 hdecode

end Holder

lemma Erc721.Unharmed.leaves {E : Prop} (h : Erc721.Unharmed M E w w') (hE : E) : Leaves M w w' := by
  refine .of_owners (fun x => h.nft.nftOwner x) (h.erc hE) fun u hu => ?_
  rw [Cw721.cwOwner, h.wasm]
  exact hu

namespace Cw721

/-- A bound token is handed out for an NFT that its sender gives up, so it was at the module account. -/
lemma convertNFT_leaves (hcommas : NoCommas C.toExtern) {msg : MsgConvertNFT}
    (valid : msg.validateBasic C.toExtern = .ok ()) (hM : Holder C M)
    (hsigner : ∀ acc, C.decodeAcc msg.sender = .ok acc → acc ≠ M ∧ acc ≠ accModuleAddress)
    (h : convertNFT w msg = .ok w') (hinv : Custody w) : Leaves M w w' := by
  obtain ⟨sender, hs⟩ := validateBech32_ok (check_bind_eq_ok.mp valid).1
  have hids := msg.nftIds_ne_nil valid
  have hK : comma ∉ msg.classId := hinv.bound.plain _ (convertNFT_hasClass hids h)
  obtain ⟨ids, contract, hevm, hrounds, -⟩ := convertNFT_exchange hids hs h
  obtain ⟨hsender, hmodule⟩ := hsigner sender hs
  refine .of_evm (fun x hx => ?_) (fun u hu => ?_) hevm
  · exact hrounds.given_of_ne hx hsender
  · refine hrounds.received_of_not hu fun x hmem hbound _ => ?_
    have hx : x.1 = msg.classId := by
      obtain ⟨y, -, heq⟩ := List.mem_map.mp hmem
      rw [← (Prod.mk.inj heq).1]
    have hheld := hinv.locked.locked (ForwardBinds.binds hinv.store hcommas hbound (hx ▸ hK)) (by
      rw [(hrounds.custody_of_mem hmem).1]
      exact fun heq => hmodule (Option.some.inj heq))
    exact hM.accString_ne (Option.some.inj (hheld.symm.trans hu))

lemma convertCW721_leaves {msg : MsgConvertCW721} (hmsg : msg.Valid C.toExtern) (hM : Holder C M)
    (hsigner : ∀ acc, C.decodeAcc msg.sender = .ok acc → acc ≠ M) {res : MsgConvertCW721Response}
    (h : convertCW721 w msg = .ok (w', res)) : Leaves M w w' := by
  obtain ⟨recipient, hr⟩ := hmsg.receiver
  obtain ⟨contract, ids, -, -, hevm, hrounds⟩ := convertCW721_exchange hmsg hr h
  refine .of_evm (fun x hx => ?_) (fun u hu => ?_) hevm
  · exact hrounds.received_of_not hx fun _ _ _ => hM.cw721.symm
  · refine hrounds.given_of_ne hu ?_
    intro heq
    have hsender : msg.sender = C.accString M := heq
    exact hsigner M (hsender ▸ hM.spelled) rfl

lemma transferCW721_leaves {msg : MsgTransferCW721} (valid : msg.validateBasic C.toExtern = .ok ()) (hM : Holder C M)
    (hsigner : ∀ acc, C.decodeAcc msg.cwSender = .ok acc → acc ≠ M) {p : Ibc.Packet}
    (h : transferCW721 w msg = .ok (w', p)) : Leaves M w w' := by
  obtain ⟨w₁, c, res, L, steps⟩ := transferCW721_steps h
  have hconverted : Leaves M w w₁ :=
    convertCW721_leaves (msg.valid_convertMsg valid c) hM hsigner steps.converted
  obtain ⟨-, acc, hacc, hsent⟩ := C.ics.transfer_ok steps.sent
  obtain rfl : acc = accModuleAddress := Except.ok.inj (hacc.symm.trans (decodeAcc_module _))
  rw [steps.world]
  exact hconverted.trans (.native (.sent hsent hM.cw721) rfl rfl)

lemma Refunds.leaves {K n : GoString} (h : Refunds K w n w') (hM : Holder C M) : Leaves M w w' := by
  obtain ⟨hkeeps, -, hevm⟩ := h.keeps hM.cw721
  refine .of_evm (fun x => hkeeps.nftOwner x) (fun u hu => ?_) hevm
  cases h with
  | skipped => exact hu
  | @returned t c o contract wasm found held receiver sent =>
    obtain ⟨-, hmoved⟩ := C.wasm.transferNft_ok sent
    rw [cwOwner, (burnRefunded_frame _ K n).2.2.1]
    by_cases heq : u = (contract, t)
    · rw [heq] at hu
      obtain rfl := Option.some.inj (hu.symm.trans found.owner)
      rw [hM.text] at held
      cases held
    · exact (hmoved.owner_other u.1 u.2 heq).trans hu
  | dropped =>
    rw [cwOwner, (burnRefunded_frame _ K n).2.2.1]
    exact hu

end Cw721

lemma ConvertMsg.leaves (hcommas : Cw721.NoCommas C.toExtern) {msg : ConvertMsg}
    (valid : msg.validateBasic C.toExtern = .ok ()) (h : msg.handle w = .ok w') (hM : Holder C M)
    (hsigner : ∀ acc, C.decodeAcc msg.signer = .ok acc →
      evmAddress acc ≠ evmAddress M ∧ acc ≠ Cw721.accModuleAddress)
    (hreg : Erc721.RegistryConsistent C.toExtern w.erc721) (hinv : Cw721.Custody w) : Leaves M w w' := by
  have hacc : ∀ acc, C.decodeAcc msg.signer = .ok acc → acc ≠ M := by
    rintro acc hacc rfl
    exact (hsigner acc hacc).1 rfl
  cases msg with
  | convertNFT msg => exact (Erc721.convertNFT_unharmed valid hacc h).leaves hM.erc721
  | convertERC721 msg =>
    obtain ⟨⟨w₁, res⟩, hrun, rfl⟩ := map_eq_ok.mp h
    have hmsg := Erc721.MsgConvertERC721.validateBasic_eq_ok.mp valid
    obtain ⟨sender, hs⟩ := hmsg.sender
    obtain ⟨recipient, hr⟩ := hmsg.receiver
    exact (Erc721.convertERC721_unharmed hmsg.classId hmsg.nonempty hs hr hreg hM.accErc721 hrun).leaves
      (hsigner sender hs).1
  | convertNFTToCW721 msg =>
    exact Cw721.convertNFT_leaves hcommas valid hM (fun acc hs => ⟨hacc acc hs, (hsigner acc hs).2⟩) h hinv
  | convertCW721 msg =>
    obtain ⟨⟨w₁, res⟩, hrun, rfl⟩ := map_eq_ok.mp h
    exact Cw721.convertCW721_leaves (Cw721.MsgConvertCW721.valid_of_validateBasic valid) hM hacc hrun

/-- A packet that comes back brings NFTs out of escrow and tokens out of the custody of the modules. -/
lemma onTimeoutPacket_leaves {p : Ibc.Packet} (h : Ibc.onTimeoutPacket w p = .ok w') (hM : Holder C M) :
    Leaves M w w' := by
  refine Ibc.onTimeoutPacket_invariant h (fun acc L hL => ?_)
    (fun _ _ _ _ hu hr => hu.trans ((hr.unharmed hM.accErc721).1.leaves hM.erc721))
    fun _ _ _ _ _ _ hu hr => hu.trans (hr.leaves hM)
  exact .native (.returned (C.ics.refund_ok hL (C.ics.getVoucherClassID_eq _ _)) (hM.escrow _ _)) rfl rfl

theorem Bridged.leaves (hinj : Set.InjOn C.tmhash D) (hcommas : Cw721.NoCommas C.toExtern) (hinv : Bridged D s)
    (hM : Holder C M) (hstep : Step s op s') (hok : Guarded D s op s') (hby : Bystander M s op s') :
    Leaves M s.world s'.world := by
  have hsigner : ∀ text acc, op.signer = some text → C.decodeAcc text = .ok acc → acc ≠ M := by
    rintro text acc htext hacc rfl
    exact hby.signer text acc htext hacc rfl
  have hreg := hinv.erc721.custody.registry.consistent hinj
  cases hstep with
  | collection valid h => exact .native (CollectionMsg.keeps h fun acc => hsigner _ acc rfl) rfl rfl
  | convert valid h =>
    exact ConvertMsg.leaves hcommas valid h hM
      (fun acc hacc => ⟨hby.signer _ acc rfl hacc, (hok.signer _ acc rfl hacc).2⟩) hreg hinv.cw721
  | transferERC721 valid h =>
    exact (Erc721.transferERC721_unharmed valid hreg hM.accErc721 h).leaves fun acc => hby.signer _ acc rfl
  | transferCW721 valid h => exact Cw721.transferCW721_leaves valid hM (fun acc => hsigner _ acc rfl) h
  | transfer h =>
    obtain ⟨-, acc, hacc, hsent⟩ := C.ics.transfer_ok h
    exact .native (.sent hsent (hsigner _ acc rfl hacc)) rfl rfl
  | receive h => exact .native (.received h (hM.escrow _ _)) rfl rfl
  | deliver => exact fun _ => id
  | refund hf h => exact onTimeoutPacket_leaves h hM
  | settle =>
    -- no voucher class has a pair in a reachable state
    rw [Erc721.settleIBCVoucherPairs_eq hinv.erc721.custody.registry]
    exact fun _ => id
  | prune o => exact .native (.refl _) rfl rfl
  | purge h => exact .native (.refl _) rfl rfl
  | evm st => exact hby.contracts (.inl ⟨st, rfl⟩)
  | wasm st => exact hby.contracts (.inr ⟨st, rfl⟩)

/-- From every state that a guarded run reaches: as long as an account signs nothing, it keeps every NFT, every ERC721
token and every CW721 token it holds. -/
theorem bystander_keeps {s₀ : System C} (hinj : Set.InjOn C.tmhash D) (hcommas : Cw721.NoCommas C.toExtern)
    (hfresh : s₀.Fresh) (h₀ : Run (Guarded D) s₀ s) (hM : Holder C M)
    (h : Run (fun s op s' => Guarded D s op s' ∧ Bystander M s op s') s s') {A : Asset} (hA : s.world.Holds M A) :
    s'.world.Holds M A := by
  have hinv := Bridged.run hinj hcommas hfresh h₀
  have hend := h.invariant (I := fun u => Bridged D u ∧ Leaves M s.world u.world)
    (fun u op u' hu hstep hok => ⟨hu.1.step hinj hcommas hstep hok.1,
      hu.2.trans (hu.1.leaves hinj hcommas hM hstep hok.1 hok.2)⟩) ⟨hinv, fun _ => id⟩
  exact hend.2 A hA

/-- One user wraps an NFT for another. -/
def wrapForBob : List (Op Sample.chain) :=
  firstConversion.take 2 ++ [.convert (.convertNFT ⟨str "kitty", [str "cat1"],
    str "0x2222222222222222222222222222222222222222", Sample.accString Sample.alice, [], []⟩)]

/-- The same user mints the next one, wraps it on the contract that has the token of the other, and takes it back. -/
def wrapAnother : List (Op Sample.chain) :=
  [.collection (.mintNFT ⟨str "cat2", str "kitty", ⟨[], [], [], []⟩, Sample.accString Sample.alice,
      Sample.accString Sample.alice⟩),
    .convert (.convertNFT ⟨str "kitty", [str "cat2"], str "0x1111111111111111111111111111111111111111",
      Sample.accString Sample.alice, str "0xa92ca1f63c993f2dd1ec18209579e3b263fdb09c", []⟩),
    .convert (.convertERC721 ⟨str "0xa92ca1f63c993f2dd1ec18209579e3b263fdb09c", [str "1667331122"],
      Sample.accString Sample.alice, Sample.accString Sample.alice, str "kitty", [str "cat2"]⟩)]

lemma holder_bob : Holder Sample.chain Sample.bob where
  spelled := by decide +kernel
  erc721 := by decide +kernel
  cw721 := by decide +kernel
  text := by decide +kernel
  escrow := Sample.escrow_ne_of_head (by decide) (by decide +kernel)

theorem bystander_keeps_bob : ∃ s₀ s s' : System Sample.chain, s₀.Fresh ∧ Run (Guarded Set.univ) s₀ s ∧
    Run (fun s op s' => Guarded Set.univ s op s' ∧ Bystander Sample.bob s op s') s s' ∧
    s'.world.Holds Sample.bob (.erc721 Sample.deployed firstToken) := by
  let s₀ : System Sample.chain := ⟨⟨.empty, .empty, .empty, .empty, .empty⟩, []⟩
  have hfresh : s₀.Fresh := ⟨⟨true, rfl⟩, ⟨_, _, rfl⟩, rfl, rfl⟩
  obtain ⟨s, hrun⟩ := exists_eq_ok (x := s₀.execAll wrapForBob) (by decide +kernel)
  have h₀ : Run (Guarded Set.univ) s₀ s := System.run_of_execAll (guarded_of_alice
    (by simp [wrapForBob, firstConversion, Op.signer, ConvertMsg.signer, CollectionMsg.signer])) hrun
  have hstate : (s₀.execAll wrapForBob).toOption.any (fun s =>
      decide (Erc721.ercOwner s.world (Sample.deployed, firstToken) = some (evmAddress Sample.bob)) &&
        (s.execAll wrapAnother).toBool) = true := by decide +kernel
  rw [hrun] at hstate
  obtain ⟨hholds, hnext⟩ := Bool.and_eq_true_iff.mp hstate
  have howner : Erc721.ercOwner s.world (Sample.deployed, firstToken) = some (evmAddress Sample.bob) :=
    of_decide_eq_true hholds
  obtain ⟨s', hrun'⟩ := exists_eq_ok hnext
  have hsigned : ∀ op ∈ wrapAnother, op.signer = some (Sample.accString Sample.alice) := by
    simp [wrapAnother, Op.signer, ConvertMsg.signer, CollectionMsg.signer]
  have h : Run (fun s op s' => Guarded Set.univ s op s' ∧ Bystander Sample.bob s op s') s s' := by
    refine System.run_of_execAll (fun op hop u u' => ⟨guarded_of_alice hsigned op hop u u', ?_, ?_⟩) hrun'
    · intro text acc htext hacc
      rw [hsigned op hop, Option.some.injEq] at htext
      subst htext
      obtain rfl : acc = Sample.alice := Except.ok.inj (hacc.symm.trans (by decide +kernel))
      decide +kernel
    · rintro (⟨st, rfl⟩ | ⟨st, rfl⟩)
      · cases hsigned _ hop
      · cases hsigned _ hop
  refine ⟨s₀, s, s', hfresh, h₀, h, ?_⟩
  exact bystander_keeps Sample.tmhash_injective.injOn Cw721.noCommas_sample hfresh h₀ holder_bob h
    (A := .erc721 Sample.deployed firstToken) howner

end Uptick
