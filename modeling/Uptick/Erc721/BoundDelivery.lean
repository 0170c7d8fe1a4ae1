import Uptick.Erc721.HandlerSpec
import Uptick.SampleChain

/-!
# Converting a bound token back

A token of the index whose ERC721 half is with its holder and whose native half is with the module
account: what `ConvertERC721` finds in the index for it, and when the holder gets the native half.
-/

namespace Uptick.Erc721

open Text Evm Outcome Collection

section Index

variable {X : Extern} {st : Store} {c t y : GoString} {v : Nat} {legacy : Bool}

/-- In a well-formed index every probed key of a bound token is empty or holds its NFT. -/
lemma agree_of_binds (hw : WellFormed X st) (hc : isHexAddress c = true) (hx : has0xPrefix c = true)
    (hp : parseEVMTokenIDValue t true = .ok (v, legacy)) (hb : Binds X st v (hexToAddress c) y) :
    Agree st (variantUIDs X c t) y := by
  intro uid huid
  have hs : SpellsToken X uid v (hexToAddress c) := (mem_variantUIDs_iff_spells hc hx hp).mp huid
  cases hget : st.byTokenUID.get? uid with
  | none => exact .inl (KVStore.get_eq_nil hget)
  | some z =>
    obtain ⟨uid', hs', hget'⟩ := hb
    have huid' : uid = uid' := hw.unique uid uid' z y v _ hget hget' hs hs'
    rw [huid']
    exact .inr (KVStore.get_of_get? hget')

lemma present_of_binds (hc : isHexAddress c = true) (hx : has0xPrefix c = true)
    (hp : parseEVMTokenIDValue t true = .ok (v, legacy)) (hb : Binds X st v (hexToAddress c) y) (hy : y ≠ []) :
    present st (variantUIDs X c t) ≠ [] := by
  obtain ⟨uid, hs, hget⟩ := hb
  have hmem : uid ∈ present st (variantUIDs X c t) := by
    refine List.mem_filter.mpr ⟨(mem_variantUIDs_iff_spells hc hx hp).mpr hs, ?_⟩
    simp [KVStore.get_of_get? hget, hy]
  exact List.ne_nil_of_mem hmem

lemma getNFTPairByContractTokenID_of_binds (hw : WellFormed X st) (hc : isHexAddress c = true)
    (hx : has0xPrefix c = true) (hp : parseEVMTokenIDValue t true = .ok (v, legacy))
    (hb : Binds X st v (hexToAddress c) y) (hy : y ≠ []) : getNFTPairByContractTokenID X st c t = y := by
  have hne : (resolveNFTUIDPair X st c t).1 ≠ [] := by
    intro hnil
    obtain ⟨uid, hs, hget⟩ := hb
    have hmem := (mem_variantUIDs_iff_spells (X := X) hc hx hp).mpr hs
    have h0 := resolveNFTUIDPair_eq_nil_iff.mp hnil uid hmem
    exact hy ((KVStore.get_of_get? hget).symm.trans h0)
  obtain ⟨uid, hmem, hget, -⟩ := @exists_of_resolveNFTUIDPair X st c t _ _ rfl hne
  rcases agree_of_binds hw hc hx hp hb uid hmem with h0 | h0
  · exact absurd (hget.symm.trans h0) hne
  · exact hget.symm.trans h0

/-- A bound token may be bound again to the same NFT. -/
lemma accepts_of_binds (hw : WellFormed X st) (hc : isHexAddress c = true) (hx : has0xPrefix c = true)
    (hp : parseEVMTokenIDValue t true = .ok (v, legacy)) {K n : GoString}
    (hb : Binds X st v (hexToAddress c) (createNFTUID K n)) : Accepts X st c t K n v legacy := by
  refine ⟨hp, agree_of_binds hw hc hx hp hb, fun _ => present_of_binds hc hx hp hb (createNFTUID_ne_nil K n), ?_⟩
  obtain ⟨uid, hs, hget⟩ := hb
  have hrev : st.byNFTUID.get (createNFTUID K n) = uid := KVStore.get_of_get? ((hw.exact _ _).mp hget)
  have hv : v < 2 ^ 256 := (parseEVMTokenIDValue_eq_ok.mp hp).2.1
  obtain ⟨t₀, ht₀, c₀, hc₀, rfl⟩ := (spellsToken_iff hv).mp hs
  have hc₀hex : isHexAddress c₀ = true := isHexAddress_of_mem_addressSpellings hc₀
  have hcut : getNFTFromUID (createTokenUID c₀ t₀) = (t₀, c₀) := by
    refine getNFTFromUID_createTokenUID (ne_nil_of_mem_tokenSpellings ht₀) ?_ (comma_notMem_of_isHexAddress hc₀hex)
    rintro rfl
    exact absurd hc₀hex (by decide)
  obtain ⟨l, hl⟩ := parse_of_mem_tokenSpellings hv ht₀
  rw [hrev, hcut]
  refine .inr (.inr ⟨(equalEVMTokenID_of_parse hl (parse_text hv true)).mpr rfl, ?_⟩)
  rw [canonicalContractAddress_of_0x hc hx, equalContractAddress_of_hex hc₀hex (by simp)]
  rw [hexToAddress_of_mem_addressSpellings hc₀]
  simp

end Index

variable {C : Chain}

/-- A message for one token, by the holder of its ERC721 half, whose native half is with the module
account: `v` is bound to the NFT `n` of the pair's class under some spelling, the contract answers with the
metadata of the native half, and the class of the NFT can be read. -/
structure Unwraps (w : World C) (msg : MsgConvertERC721) (pair : TokenPair) (t n : GoString) (v : Nat)
    (sender recipient : AccAddress) (token : NFT) : Prop where
  index : WellFormed C.toExtern w.erc721
  pair_eq : getPairByEVM C.toExtern w.erc721 msg.evmContractAddress = .ok pair
  contract : pair.getERC721Contract = hexToAddress msg.evmContractAddress
  nonVoucher : isIBCDenom pair.classId = false
  valid : msg.validateBasic C.toExtern = .ok ()
  class_eq : msg.classId = pair.classId
  prefix_0x : has0xPrefix msg.evmContractAddress = true
  tokenIds : msg.evmTokenIds = [t]
  nftIds : msg.cosmosTokenIds = []
  sender_eq : C.decodeAcc msg.cosmosSender = .ok sender
  recipient_eq : C.decodeAcc msg.cosmosReceiver = .ok recipient
  parse : parseEVMTokenID t = .ok v
  bound : ∃ y, Binds C.toExtern w.erc721 v (hexToAddress msg.evmContractAddress) y ∧
    getNFTFromUID y = (n, pair.classId)
  erc721Held : C.evm.owner w.evm (hexToAddress msg.evmContractAddress) v = some (evmAddress sender)
  nftHeld : w.nft.held pair.classId n = some ⟨token, accModuleAddress⟩
  readable : ∃ denom, getDenomInfo w.nft pair.classId = .ok denom
  metadata : queryNFTEnhance w (hexToAddress msg.evmContractAddress) v =
    .ok ⟨(shownMetadata token.data).name, token.uri, (shownMetadata token.data).data, token.uriHash⟩

namespace Unwraps

variable {w : World C} {msg : MsgConvertERC721} {pair : TokenPair} {t n : GoString} {v : Nat}
  {sender recipient : AccAddress} {token : NFT}

lemma msg_valid (h : Unwraps w msg pair t n v sender recipient token) : msg.Valid C.toExtern :=
  MsgConvertERC721.validateBasic_eq_ok.mp h.valid

lemma classId_ne_nil (h : Unwraps w msg pair t n v sender recipient token) : pair.classId ≠ [] :=
  h.class_eq ▸ h.msg_valid.classId_ne_nil

lemma parse_value (h : Unwraps w msg pair t n v sender recipient token) :
    parseEVMTokenIDValue t true = .ok (v, false) := by
  have hval : validateEVMTokenID t = .ok () := h.msg_valid.evmTokenIds t (by simp [h.tokenIds])
  obtain ⟨v', hv'⟩ := validateEVMTokenID_eq_ok.mp hval
  have htrue := parse_true_of_parse_false hv'
  have hparse := h.parse
  rw [parseEVMTokenID, htrue] at hparse
  cases hparse
  exact htrue

lemma canonical (h : Unwraps w msg pair t n v sender recipient token) :
    canonicalContractAddress msg.evmContractAddress = (hexToAddress msg.evmContractAddress).lowerHex :=
  canonicalContractAddress_of_0x h.msg_valid.contract h.prefix_0x

lemma nft_named (h : Unwraps w msg pair t n v sender recipient token) :
    Binds C.toExtern w.erc721 v (hexToAddress msg.evmContractAddress) (createNFTUID pair.classId n) ∧
      comma ∉ pair.classId ∧ n ≠ [] := by
  obtain ⟨y, hb, hcut⟩ := h.bound
  obtain ⟨rfl, hcomma, hn⟩ := eq_of_getNFTFromUID hcut h.classId_ne_nil
  exact ⟨hb, hcomma, hn⟩

lemma forward (h : Unwraps w msg pair t n v sender recipient token) :
    getNFTPairByContractTokenID C.toExtern w.erc721 (canonicalContractAddress msg.evmContractAddress) t =
      createNFTUID pair.classId n := by
  rw [h.canonical]
  apply getNFTPairByContractTokenID_of_binds h.index (isHexAddress_lowerHex _) (has0xPrefix_append_0x _)
    h.parse_value _ (createNFTUID_ne_nil _ _)
  rw [hexToAddress_lowerHex]
  exact h.nft_named.1

lemma registered (h : Unwraps w msg pair t n v sender recipient token) (ns : List GoString) :
    ensureRegisteredERC721 w (msg.resolved msg.classId ns) = .ok (w, msg.classId) := by
  unfold ensureRegisteredERC721
  rw [if_neg ?_]
  · rfl
  · intro hnil
    have hpair := h.pair_eq
    simp only [MsgConvertERC721.resolved, h.canonical, hexToAddress_lowerHex] at hnil
    rw [getPairByEVM, pairById, if_pos hnil] at hpair
    cases hpair

lemma reverse_ne_nil (h : Unwraps w msg pair t n v sender recipient token) :
    getTokenUIDPairByNFTUID w.erc721 (createNFTUID pair.classId n) ≠ [] := by
  obtain ⟨uid, hs, hget⟩ := h.nft_named.1
  have hrev : w.erc721.byNFTUID.get (createNFTUID pair.classId n) = uid :=
    KVStore.get_of_get? ((h.index.exact _ _).mp hget)
  obtain ⟨t', c', rfl, -⟩ := hs
  rw [getTokenUIDPairByNFTUID, hrev]
  exact createTokenUID_ne_nil c' t'

/-- The resolver hands exactly the bound NFT to the loop. -/
lemma named_iff (h : Unwraps w msg pair t n v sender recipient token) {ns : List GoString} :
    NamesAll (getNFTPairByContractTokenID C.toExtern w.erc721
      (canonicalContractAddress msg.evmContractAddress)) msg.classId msg.evmTokenIds msg.cosmosTokenIds ns ↔
      ns = [n] := by
  obtain ⟨-, hcomma, hn⟩ := h.nft_named
  rw [h.tokenIds, h.nftIds, h.class_eq]
  constructor
  · intro hall
    cases hall with
    | cons hnames hrest =>
      cases hrest
      rcases hnames.bound_eq with h0 | ⟨heq, -, -⟩
      · exact absurd (h.forward.symm.trans h0) (createNFTUID_ne_nil _ _)
      · rw [(uid_inj hcomma hcomma (h.forward.symm.trans heq)).1]
  · rintro rfl
    refine .cons ⟨.inr ⟨h.forward, hcomma, hn⟩, fun h0 => absurd rfl h0, fun _ h0 => ?_⟩ (.nil _)
    exact absurd (h.forward.symm.trans h0) (createNFTUID_ne_nil _ _)

/-- The check before the loop asks that the stored token id be the one of the message, letter by letter. -/
lemma validate_iff (h : Unwraps w msg pair t n v sender recipient token) :
    validateNoMappingConflict (C := C) w.erc721 (msg.resolved msg.classId [n]) = .ok () ↔
      (getNFTFromUID (getTokenUIDPairByNFTUID w.erc721 (createNFTUID pair.classId n))).1 = t := by
  rw [validateNoMappingConflict_eq_ok]
  simp only [MsgConvertERC721.resolved, h.tokenIds, List.zip_cons_cons, List.zip_nil_right,
    List.mem_singleton, forall_eq, checkNoMappingConflict_eq_ok]
  rw [h.class_eq, h.forward]
  simp [h.reverse_ne_nil]

lemma convertEvm2Cosmos_ok (h : Unwraps w msg pair t n v sender recipient token) (hlive : C.evm.Live)
    (hmodule : C.evm.acceptsERC721 w.evm moduleAddress = true)
    (hcheck : validateNoMappingConflict (C := C) w.erc721 (msg.resolved msg.classId [n]) = .ok ()) :
    ∃ w', convertEvm2Cosmos w pair (msg.resolved msg.classId [n]) (evmAddress sender) = .ok w' ∧
      w'.nft = w.nft.put pair.classId n (some ⟨token, recipient⟩) := by
  obtain ⟨evm', hevm⟩ := hlive.safeTransferFrom h.erc721Held hmodule
  obtain ⟨denom, hdenom⟩ := h.readable
  set m := msg.resolved msg.classId [n] with hm
  set L' := w.nft.put pair.classId n (some ⟨token, recipient⟩) with hL'
  have hround : evm2CosmosRound pair m (evmAddress sender) w (t, n) = .ok { w with evm := evm', nft := L' } := by
    rw [evm2CosmosRound_eq_ok]
    refine ⟨v, _, evm', L', h.parse, by rw [h.contract]; exact h.metadata, ?_, ?_, rfl⟩
    · rw [takeERC721_eq_ok, h.contract]
      exact ⟨h.erc721Held, .inr ⟨h.nonVoucher, hevm⟩⟩
    · rw [releaseNFT_eq_ok]
      refine ⟨recipient, denom, h.recipient_eq, by rw [hm]; exact h.class_eq ▸ hdenom,
        .inr ⟨?_, token, (false, token), ?_, ?_, ?_, ?_⟩⟩
      · intro h0
        exact absurd (h.forward.symm.trans h0) (createNFTUID_ne_nil _ _)
      · exact h.class_eq ▸ h.nftHeld
      · exact movedToken_shown token
      · simp
      · rw [hL', ← h.class_eq]
        rfl
  have hids : m.evmTokenIds.zip m.cosmosTokenIds = [(t, n)] := by simp [hm, MsgConvertERC721.resolved, h.tokenIds]
  have haccepts : Accepts C.toExtern w.erc721 m.evmContractAddress t m.classId n v false := by
    have hb := h.nft_named.1
    have hc : m.evmContractAddress = (hexToAddress msg.evmContractAddress).lowerHex := h.canonical
    rw [hc]
    apply accepts_of_binds h.index (isHexAddress_lowerHex _) (has0xPrefix_append_0x _) h.parse_value
    rw [hexToAddress_lowerHex]
    exact h.class_eq ▸ hb
  refine ⟨{ w with
    evm := evm', nft := L', erc721 := rebind C.toExtern w.erc721 m.evmContractAddress t m.classId n v }, ?_, rfl⟩
  rw [convertEvm2Cosmos_eq_ok]
  refine ⟨{ w with evm := evm', nft := L' }, _, ?_, hcheck, ?_, ?_, rfl⟩
  · rw [checkBatch_eq_ok]
    simp [hm, MsgConvertERC721.resolved, h.tokenIds, maxERC721BatchSize]
  · rw [hids, forEach_cons_eq_ok]
    exact ⟨_, hround, rfl⟩
  · rw [settleIndex, if_neg (by simp [h.nonVoucher]), hids, bindPairs, forEach_cons_eq_ok]
    exact ⟨_, bindPair_eq_ok.mpr ⟨v, false, haccepts, rfl⟩, rfl⟩

end Unwraps

/-- The holder of the ERC721 half gets exactly the bound native NFT when the module is enabled and the
index holds the token id under the very text of the message; under any other spelling of the same number
the message fails. -/
theorem convertERC721_delivers_iff (w : World C) (msg : MsgConvertERC721) (pair : TokenPair) (t n : GoString)
    (v : Nat) (sender recipient : AccAddress) (token : NFT)
    (h : Unwraps w msg pair t n v sender recipient token) (hlive : C.evm.Live)
    (hmodule : C.evm.acceptsERC721 w.evm moduleAddress = true) :
    (∃ w' res, convertERC721 w msg = .ok (w', res) ∧
        w'.nft = w.nft.put pair.classId n (some ⟨token, recipient⟩)) ↔
      w.erc721.enableErc721 = true ∧
        (getNFTFromUID (getTokenUIDPairByNFTUID w.erc721 (createNFTUID pair.classId n))).1 = t := by
  rw [← h.validate_iff]
  constructor
  · rintro ⟨w', res, hok, -⟩
    obtain ⟨ns, s, w₁, pair', steps, -⟩ := (convertERC721_eq_ok h.msg_valid.classId h.msg_valid.nonempty).mp hok
    obtain rfl := h.named_iff.mp steps.named
    have hreg := steps.registered
    rw [h.registered, Except.ok.injEq, Prod.mk.injEq] at hreg
    obtain ⟨rfl, -⟩ := hreg
    obtain ⟨_, _, -, hcheck, -⟩ := convertEvm2Cosmos_eq_ok.mp steps.converted
    exact ⟨steps.enabled, hcheck⟩
  · rintro ⟨hen, hcheck⟩
    obtain ⟨w', hconv, hnft⟩ := h.convertEvm2Cosmos_ok hlive hmodule hcheck
    refine ⟨w', _, (convertERC721_eq_ok h.msg_valid.classId h.msg_valid.nonempty).mpr
      ⟨[n], sender, w, pair, ?_, rfl⟩, hnft⟩
    refine ⟨hen, h.named_iff.mpr rfl, h.sender_eq, h.registered [n], ?_, h.class_eq.symm, ?_, hconv⟩
    · rw [getPairByEVM_eq_ok, h.canonical, hexToAddress_lowerHex]
      exact getPairByEVM_eq_ok.mp h.pair_eq
    · rw [h.contract]
      exact C.evm.hasCode_of_owner h.erc721Held

/-- Token 5 of the contract is bound to the NFT `uptick5`, stored under the given text; the ERC721 half is
with one user, the native half with the module account. -/
def boundWorld (spelling : GoString) : World Sample.chain where
  erc721 :=
    { Sample.registeredStore with
      byTokenUID := KVStore.empty.set (createTokenUID Sample.contract spelling)
        (createNFTUID Sample.wrappedClass (str "uptick5"))
      byNFTUID := KVStore.empty.set (createNFTUID Sample.wrappedClass (str "uptick5"))
        (createTokenUID Sample.contract spelling) }
  cw721 := .empty
  nft := Sample.wrappedLedger.put Sample.wrappedClass (str "uptick5")
    (some ⟨⟨str "ipfs://cat", [], .value ⟨[], []⟩⟩, accModuleAddress⟩)
  evm := Sample.evmWith [(5, evmAddress Sample.alice)]
  wasm := .empty

/-- The user asks for the native half, for another user. -/
def unwrapMsg : MsgConvertERC721 :=
  ⟨Sample.contract, [str "5"], Sample.accString Sample.bob, Sample.accString Sample.alice,
    Sample.wrappedClass, []⟩

lemma unwraps_boundWorld {spelling : GoString} (hspell : spelling = str "5" ∨ spelling = str "0x05") :
    Unwraps (boundWorld spelling) unwrapMsg Sample.wrappedPair (str "5") (str "uptick5") 5 Sample.alice
      Sample.bob ⟨str "ipfs://cat", [], .value ⟨[], []⟩⟩ := by
  have hs : SpellsToken Sample.X (createTokenUID Sample.contract spelling) 5 (hexToAddress Sample.contract) :=
    ⟨spelling, Sample.contract, rfl, hspell.imp_right (fun h => by rw [h]; decide +kernel),
      Or.inl (by decide +kernel)⟩
  have hget : (boundWorld spelling).erc721.byTokenUID.get? (createTokenUID Sample.contract spelling) =
      some (createNFTUID Sample.wrappedClass (str "uptick5")) := by
    simp [boundWorld, KVStore.get?_set]
  rcases hspell with rfl | rfl <;> exact
    { index := wellFormed_single hs rfl rfl (by decide +kernel)
      pair_eq := by decide +kernel
      contract := by decide +kernel
      nonVoucher := by decide +kernel
      valid := by decide +kernel
      class_eq := rfl
      prefix_0x := by decide +kernel
      tokenIds := rfl
      nftIds := rfl
      sender_eq := by decide +kernel
      recipient_eq := by decide +kernel
      parse := by decide +kernel
      bound := ⟨_, ⟨_, hs, hget⟩, by decide +kernel⟩
      erc721Held := by decide +kernel
      nftHeld := by decide +kernel
      readable := ⟨_, rfl⟩
      metadata := by decide +kernel }

/-- A token stored under its base-10 text is delivered. -/
theorem convertERC721_delivers_base10 :
    ∃ w' res, convertERC721 (boundWorld (str "5")) unwrapMsg = .ok (w', res) ∧
      w'.nft.getOwner Sample.wrappedClass (str "uptick5") = Sample.bob := by
  obtain ⟨w', res, hok, hnft⟩ := (convertERC721_delivers_iff (boundWorld (str "5")) unwrapMsg Sample.wrappedPair
    (str "5") (str "uptick5") 5 Sample.alice Sample.bob _ (unwraps_boundWorld (.inl rfl)) Sample.evm_live
    (by decide +kernel)).mpr ⟨rfl, by decide +kernel⟩
  refine ⟨w', res, hok, ?_⟩
  rw [hnft]
  decide +kernel

/-- A token stored under the `0x` text of an older version is not delivered, although the two halves are in
place and the message names the token by its base-10 text. -/
theorem convertERC721_refuses_legacy_spelling :
    Unwraps (boundWorld (str "0x05")) unwrapMsg Sample.wrappedPair (str "5") (str "uptick5") 5 Sample.alice
        Sample.bob ⟨str "ipfs://cat", [], .value ⟨[], []⟩⟩ ∧
      Sample.chain.evm.Live ∧ (boundWorld (str "0x05")).erc721.enableErc721 = true ∧
      (convertERC721 (boundWorld (str "0x05")) unwrapMsg).toOption.isNone = true :=
  ⟨unwraps_boundWorld (.inr rfl), Sample.evm_live, rfl, by decide +kernel⟩

end Uptick.Erc721
