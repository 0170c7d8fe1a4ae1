import Uptick.Cw721.ConvertSpec
import Uptick.Erc721.Prepare

/-!
# What a successful message of x/cw721 did

The handlers as preparations that move no token, followed by the loop and the index writes.
-/

namespace Uptick.Cw721

open Text Outcome Collection

variable {C : Chain} {w w' : World C}

/-- No token moved and the index is the same; the classes and the contracts may be more. -/
structure Prepares (w w' : World C) : Prop where
  byTokenUID : w'.cw721.byTokenUID = w.cw721.byTokenUID
  byNFTUID : w'.cw721.byNFTUID = w.cw721.byNFTUID
  cwAddress : w'.cw721.cwAddress = w.cw721.cwAddress
  held : w'.nft.held = w.nft.held
  getClass : ∀ K cl, w.nft.getClass K = some cl → w'.nft.getClass K = some cl
  owner : ∀ c t, C.wasm.owner w'.wasm c t = C.wasm.owner w.wasm c t
  erc721 : w'.erc721 = w.erc721
  evm : w'.evm = w.evm

namespace Prepares

lemma of_store {st : Store} (hf : st.byTokenUID = w.cw721.byTokenUID) (hr : st.byNFTUID = w.cw721.byNFTUID)
    (ha : st.cwAddress = w.cw721.cwAddress) : Prepares w { w with cw721 := st } :=
  ⟨hf, hr, ha, rfl, fun _ _ h => h, fun _ _ => rfl, rfl, rfl⟩

lemma refl (w : World C) : Prepares w w := of_store rfl rfl rfl

lemma trans {w'' : World C} (h : Prepares w w') (h' : Prepares w' w'') : Prepares w w'' where
  byTokenUID := h'.byTokenUID.trans h.byTokenUID
  byNFTUID := h'.byNFTUID.trans h.byNFTUID
  cwAddress := h'.cwAddress.trans h.cwAddress
  held := h'.held.trans h.held
  getClass := fun K cl hK => h'.getClass K cl (h.getClass K cl hK)
  owner := fun c t => (h'.owner c t).trans (h.owner c t)
  erc721 := h'.erc721.trans h.erc721
  evm := h'.evm.trans h.evm

lemma forward (h : Prepares w w') (c t : GoString) :
    getNFTPairByContractTokenID w'.cw721 c t = getNFTPairByContractTokenID w.cw721 c t := by
  unfold getNFTPairByContractTokenID getNFTUIDPairByTokenUID
  rw [h.byTokenUID]

end Prepares

lemma deployCW721Contract_prepares {K c : GoString} (h : deployCW721Contract w K = .ok (w', c)) :
    Prepares w w' ∧ w'.cw721 = w.cw721 ∧ ∃ contract, c = C.accString contract ∧
      C.decodeAcc c = .ok contract := by
  unfold deployCW721Contract at h
  obtain ⟨codeID, -, h⟩ := bind_eq_ok.mp h
  split at h
  · cases h
  · obtain ⟨⟨contract, wasm'⟩, hinst, h⟩ := bind_eq_ok.mp h
    cases h
    obtain ⟨hne, hlen, -, howner⟩ := C.wasm.instantiate_ok hinst
    exact ⟨⟨rfl, rfl, rfl, rfl, fun _ _ h => h, howner, rfl, rfl⟩, rfl, contract, rfl,
      C.toExtern.decodeAcc_accString hne hlen⟩

lemma pairFromID_eq_ok {st : Store} {id token : GoString} {pair : TokenPair} :
    pairFromID st id token = .ok pair ↔ id ≠ [] ∧ st.tokenPair.get? id = some pair := by
  unfold pairFromID getTokenPair
  by_cases hid : id = []
  · simp [hid]
  · simp only [hid, if_false, ne_eq, not_false_eq_true, true_and]
    cases st.tokenPair.get? id <;> simp

lemma getPairByClass_putPair {X : Extern} {st : Store} {c K : GoString} (hK : K ≠ []) {pair : TokenPair}
    (h : getPairByClass (putPair X st c K) K = .ok pair) : pair = ⟨c, K⟩ := by
  obtain ⟨hid, hget⟩ := pairFromID_eq_ok.mp h
  have hmap : getClassMap (putPair X st c K) K = TokenPair.getID X ⟨c, K⟩ := by
    apply KVStore.get_of_get?
    simp [putPair, setTokenPair, setClassMap, setCW721Map, KVStore.get?_set _ hK]
  rw [hmap] at hid hget
  simp only [putPair, setTokenPair, setClassMap, setCW721Map, KVStore.get?_set _ hid, if_true,
    Option.some.injEq] at hget
  exact hget.symm

lemma registerNFT_ok {X : Extern} {st st' : Store} {msg : MsgConvertNFT} (h : registerNFT X st msg = .ok st') :
    isIBCDenom msg.classId = false ∧ isBlank msg.classId = false ∧ ∃ c,
      normalizeCW721Address X msg.contractAddress = .ok c ∧ st' = putPair X st c msg.classId ∧
      isClassRegistered st msg.classId = false ∧ isCW721Registered X st c = false := by
  unfold registerNFT at h
  obtain ⟨hibc, h⟩ := require_bind_eq_ok.mp h
  obtain ⟨c, hc, h⟩ := bind_eq_ok.mp h
  obtain ⟨hclass, h⟩ := require_bind_eq_ok.mp h
  obtain ⟨hcontract, h⟩ := require_bind_eq_ok.mp h
  obtain ⟨hblank, h⟩ := require_bind_eq_ok.mp h
  cases h
  exact ⟨hibc, hblank, c, hc, rfl, hclass, hcontract⟩

lemma normalizeCW721Address_eq_ok {X : Extern} {c c' : GoString} :
    normalizeCW721Address X c = .ok c' ↔ ∃ acc, X.decodeAcc c = .ok acc ∧ c' = X.accString acc := by
  unfold normalizeCW721Address Extern.decodeAcc
  cases X.accAddressFromBech32 c <;> simp [eq_comm]

/-- The contract of a batch: the one of the registered pair, or a new one. -/
lemma getContractAddressAndTokenIds_cases {msg : MsgConvertNFT} {c : GoString} {ids : List GoString}
    (h : getContractAddressAndTokenIds w msg = .ok (w', c, ids)) :
    (∃ pair, getPairByClass w.cw721 msg.classId = .ok pair ∧ c = pair.cw721Address ∧ w' = w) ∨
      (∃ e, getPairByClass w.cw721 msg.classId = .error e) ∧ Prepares w w' ∧ w'.cw721 = w.cw721 ∧
        ∃ contract, c = C.accString contract ∧ C.decodeAcc c = .ok contract := by
  unfold getContractAddressAndTokenIds at h
  split at h
  · next e he =>
    obtain ⟨_, -, h⟩ := bind_eq_ok.mp h
    obtain ⟨-, h⟩ := require_bind_eq_ok.mp h
    obtain ⟨⟨w₁, c₁⟩, hdeploy, h⟩ := bind_eq_ok.mp h
    cases h
    exact .inr ⟨⟨e, he⟩, deployCW721Contract_prepares hdeploy⟩
  · next pair hpair =>
    obtain ⟨_, -, h⟩ := bind_eq_ok.mp h
    obtain ⟨_, -, h⟩ := bind_eq_ok.mp h
    obtain ⟨_, -, h⟩ := bind_eq_ok.mp h
    obtain ⟨-, h⟩ := require_bind_eq_ok.mp h
    obtain ⟨-, h⟩ := check_bind_eq_ok.mp h
    cases h
    exact .inl ⟨pair, hpair, rfl, rfl⟩

lemma getNftData_eq_ok {org t saved r : GoString} {nftType : NftType} :
    getNftData org t saved nftType = .ok r ↔ Erc721.Picks org saved (createNftDataByType t nftType) r := by
  unfold getNftData Erc721.Picks
  by_cases ho : org = []
  · by_cases hs : saved = []
    · simp [ho, hs, eq_comm]
    · simp [ho, hs, eq_comm]
  · simp only [ho, false_and, if_false, ne_eq, not_false_eq_true, true_and, false_or]
    split
    · next hs =>
      simp only [hs, Except.ok.injEq, true_and]
      exact eq_comm
    · next hs => simp [hs]

/-- The token id that the reverse index has for an NFT, or an empty text. -/
def savedTokenID (st : Store) (K n : GoString) : GoString :=
  (getNFTFromUID (getTokenUIDPairByNFTUID st (createNFTUID K n))).1

lemma savedTokens_ok {st : Store} {K : GoString} {ns saved : List GoString} {previous : GoString × GoString}
    {c last : GoString} (h : savedTokens st K ns previous c = .ok (saved, last)) :
    saved.length = ns.length ∧ ∀ n ∈ ns, savedTokenID st K n ≠ [] → (savedTokenID st K n, n) ∈ saved.zip ns := by
  induction ns generalizing saved previous c last with
  | nil =>
    simp only [savedTokens, Except.ok.injEq, Prod.mk.injEq] at h
    obtain ⟨rfl, -⟩ := h
    simp
  | cons n ns ih =>
    obtain ⟨-, h⟩ := require_bind_eq_ok.mp h
    obtain ⟨⟨rest, last'⟩, hrest, h⟩ := bind_eq_ok.mp h
    simp only [Except.ok.injEq, Prod.mk.injEq] at h
    obtain ⟨rfl, -⟩ := h
    obtain ⟨hlen, hmem⟩ := ih hrest
    refine ⟨by simp [hlen], fun m hm hsaved => ?_⟩
    rcases List.mem_cons.mp hm with rfl | hm
    · have hne : getTokenUIDPairByNFTUID st (createNFTUID K m) ≠ [] := by
        intro h0
        refine hsaved ?_
        rw [savedTokenID, h0]
        decide
      rw [if_neg hne]
      exact List.mem_cons_self
    · exact List.mem_cons_of_mem _ (hmem m hm hsaved)

/-- A saved value is the value: an id of the message can only agree with it. -/
lemma getNftDatasFrom_of_saved {nftType : NftType} {orgs saved ns rets : List GoString} {saved₀ : GoString}
    (hlen : saved.length = ns.length) (h : getNftDatasFrom nftType saved₀ orgs saved ns = .ok rets)
    {x : GoString × GoString} (hx : x ∈ saved.zip ns) (hne : x.1 ≠ []) : x ∈ rets.zip ns := by
  induction ns generalizing orgs saved rets saved₀ with
  | nil => simp at hx
  | cons n ns ih =>
    cases saved with
    | nil => cases hlen
    | cons s saved =>
      obtain ⟨r, hr, h⟩ := bind_eq_ok.mp h
      obtain ⟨rs, hrs, h⟩ := bind_eq_ok.mp h
      cases h
      rcases List.mem_cons.mp hx with rfl | hx
      · rw [((Erc721.picks_of_saved hne).mp (getNftData_eq_ok.mp hr)).1]
        exact List.mem_cons_self
      · exact List.mem_cons_of_mem _ (ih (Nat.succ.inj hlen) hrs hx)

/-- For a registered class the resolver pairs every NFT with the token that the reverse index has for it. -/
lemma getContractAddressAndTokenIds_saved {msg : MsgConvertNFT} {c : GoString} {ids : List GoString}
    {pair : TokenPair} (hpair : getPairByClass w.cw721 msg.classId = .ok pair)
    (h : getContractAddressAndTokenIds w msg = .ok (w', c, ids)) {n : GoString} (hn : n ∈ msg.nftIds)
    (hsaved : savedTokenID w.cw721 msg.classId n ≠ []) :
    (savedTokenID w.cw721 msg.classId n, n) ∈ ids.zip msg.nftIds := by
  unfold getContractAddressAndTokenIds at h
  rw [hpair] at h
  obtain ⟨⟨saved, last⟩, htokens, h⟩ := bind_eq_ok.mp h
  obtain ⟨ids', hids, h⟩ := bind_eq_ok.mp h
  obtain ⟨_, -, h⟩ := bind_eq_ok.mp h
  obtain ⟨-, h⟩ := require_bind_eq_ok.mp h
  obtain ⟨-, h⟩ := check_bind_eq_ok.mp h
  cases h
  obtain ⟨hlen, hmem⟩ := savedTokens_ok htokens
  exact getNftDatasFrom_of_saved hlen hids (hmem n hn hsaved) hsaved

/-- Registration on the way out, for a class without a pair and the contract that was just deployed. -/
lemma ensureRegisteredNFT_deployed {msg : MsgConvertNFT} {contract : AccAddress} {pair : TokenPair}
    (hc : msg.contractAddress = C.accString contract) (hdec : C.decodeAcc msg.contractAddress = .ok contract)
    (hnone : ∃ e, getPairByClass w.cw721 msg.classId = .error e) (h : ensureRegisteredNFT w msg = .ok w')
    (hpair : getPairByClass w'.cw721 msg.classId = .ok pair) :
    Prepares w w' ∧ pair = ⟨msg.contractAddress, msg.classId⟩ := by
  unfold ensureRegisteredNFT at h
  split at h
  · obtain ⟨st, hst, h⟩ := bind_eq_ok.mp h
    cases h
    obtain ⟨-, hblank, c, hnorm, rfl, -, -⟩ := registerNFT_ok hst
    obtain ⟨acc, hacc, rfl⟩ := normalizeCW721Address_eq_ok.mp hnorm
    obtain rfl : acc = contract := Except.ok.inj (hacc.symm.trans hdec)
    have hK : msg.classId ≠ [] := by
      intro h0
      rw [h0] at hblank
      cases hblank
    refine ⟨.of_store rfl rfl rfl, ?_⟩
    rw [hc]
    exact getPairByClass_putPair hK hpair
  · cases h
    obtain ⟨e, he⟩ := hnone
    rw [he] at hpair
    cases hpair

/-- The steps of a successful `ConvertNFT`: the resolver's contract and token ids go into the loop. -/
structure ConvertNFTSteps (w : World C) (msg : MsgConvertNFT) (w' w₁ : World C) (c : GoString)
    (ids : List GoString) : Prop where
  resolved : ∃ w₀, getContractAddressAndTokenIds w msg = .ok (w₀, c, ids)
  prepares : Prepares w w₁
  pair_eq : getPairByClass w₁.cw721 msg.classId = .ok ⟨c, msg.classId⟩
  converted : convertCosmos2Wasm w₁ { msg with contractAddress := c, tokenIds := ids } = .ok w'

lemma nft_of_getContractAddressAndTokenIds {msg : MsgConvertNFT} {c : GoString} {ids : List GoString}
    (h : getContractAddressAndTokenIds w msg = .ok (w', c, ids)) : w'.nft = w.nft := by
  unfold getContractAddressAndTokenIds at h
  split at h
  · obtain ⟨_, -, h⟩ := bind_eq_ok.mp h
    obtain ⟨-, h⟩ := require_bind_eq_ok.mp h
    obtain ⟨⟨w₁, contract⟩, hdeploy, h⟩ := bind_eq_ok.mp h
    cases h
    unfold deployCW721Contract at hdeploy
    obtain ⟨codeID, -, hdeploy⟩ := bind_eq_ok.mp hdeploy
    split at hdeploy
    · cases hdeploy
    · obtain ⟨⟨contract, wasm'⟩, -, hdeploy⟩ := bind_eq_ok.mp hdeploy
      cases hdeploy
      rfl
  · obtain ⟨_, -, h⟩ := bind_eq_ok.mp h
    obtain ⟨_, -, h⟩ := bind_eq_ok.mp h
    obtain ⟨_, -, h⟩ := bind_eq_ok.mp h
    obtain ⟨-, h⟩ := require_bind_eq_ok.mp h
    obtain ⟨-, h⟩ := check_bind_eq_ok.mp h
    cases h
    rfl

lemma nft_of_ensureRegisteredNFT {msg : MsgConvertNFT} (h : ensureRegisteredNFT w msg = .ok w') :
    w'.nft = w.nft := by
  unfold ensureRegisteredNFT at h
  split at h
  · obtain ⟨st, -, h⟩ := bind_eq_ok.mp h
    cases h
    rfl
  · cases h
    rfl

theorem convertNFT_steps_nft {msg : MsgConvertNFT} (h : convertNFT w msg = .ok w') :
    ∃ w₁ c ids, ConvertNFTSteps w msg w' w₁ c ids ∧ w₁.nft = w.nft := by
  unfold convertNFT at h
  obtain ⟨-, h⟩ := require_bind_eq_ok.mp h
  obtain ⟨-, h⟩ := require_bind_eq_ok.mp h
  obtain ⟨⟨w₀, c, ids⟩, hids, h⟩ := bind_eq_ok.mp h
  obtain ⟨w₁, hreg, h⟩ := bind_eq_ok.mp h
  obtain ⟨pair, hpair, h⟩ := bind_eq_ok.mp h
  obtain ⟨hclass, h⟩ := require_bind_eq_ok.mp h
  have hsteps : Prepares w w₁ ∧ pair.cw721Address = c := by
    rcases getContractAddressAndTokenIds_cases hids with ⟨pair₀, hpair₀, rfl, rfl⟩ |
      ⟨hnone, hprep, hst, contract, hc, hdec⟩
    · -- the class has a pair, so nothing is registered
      have hmap : getClassMap w₀.cw721 msg.classId ≠ [] := (pairFromID_eq_ok.mp hpair₀).1
      rw [ensureRegisteredNFT, if_neg hmap] at hreg
      cases hreg
      obtain rfl : pair = pair₀ := Except.ok.inj (hpair.symm.trans hpair₀)
      exact ⟨Prepares.refl _, rfl⟩
    · rw [← hst] at hnone
      obtain ⟨hprep', rfl⟩ := @ensureRegisteredNFT_deployed C w₀ w₁
        { msg with contractAddress := c, tokenIds := ids } contract pair hc hdec hnone hreg hpair
      exact ⟨hprep.trans hprep', rfl⟩
  obtain ⟨hprep, rfl⟩ := hsteps
  have heq : (⟨pair.cw721Address, msg.classId⟩ : TokenPair) = pair := by rw [hclass]
  have hnft : w₁.nft = w.nft := by
    rw [nft_of_ensureRegisteredNFT hreg, nft_of_getContractAddressAndTokenIds hids]
  exact ⟨w₁, pair.cw721Address, ids, ⟨⟨_, hids⟩, hprep, by rw [heq]; exact hpair, h⟩, hnft⟩

theorem convertNFT_steps {msg : MsgConvertNFT} (h : convertNFT w msg = .ok w') :
    ∃ w₁ c ids, ConvertNFTSteps w msg w' w₁ c ids := by
  obtain ⟨w₁, c, ids, steps, -⟩ := convertNFT_steps_nft h
  exact ⟨w₁, c, ids, steps⟩

lemma convertCosmos2Wasm_ok {msg : MsgConvertNFT} (h : convertCosmos2Wasm w msg = .ok w') : ∃ w₁ st,
    msg.tokenIds.length = msg.nftIds.length ∧
    forEach (cosmos2WasmRound msg) w (msg.tokenIds.zip msg.nftIds) = .ok w₁ ∧
    bindPairs w₁.cw721 msg.contractAddress msg.classId (msg.tokenIds.zip msg.nftIds) = .ok st ∧
    w' = { w₁ with cw721 := st } := by
  unfold convertCosmos2Wasm at h
  obtain ⟨hbatch, h⟩ := check_bind_eq_ok.mp h
  obtain ⟨⟨-, hlen⟩, -⟩ := require_bind_eq_ok.mp hbatch
  obtain ⟨w₁, hloop, h⟩ := bind_eq_ok.mp h
  obtain ⟨st, hst, h⟩ := bind_eq_ok.mp h
  cases h
  exact ⟨w₁, st, hlen, hloop, hst, rfl⟩

/-- What a conversion message from the contract side is known to carry. -/
structure MsgConvertCW721.Valid (X : Extern) (msg : MsgConvertCW721) : Prop where
  sender : ∃ acc, X.decodeAcc msg.sender = .ok acc
  receiver : ∃ acc, X.decodeAcc msg.receiver = .ok acc
  classId : isBlank msg.classId = false
  nonempty : msg.tokenIds ≠ []

lemma validateBech32_ok {X : Extern} {address : GoString} {text : String}
    (h : validateBech32 X address text = .ok ()) : ∃ acc, X.decodeAcc address = .ok acc := by
  obtain ⟨acc, hacc, -⟩ := bind_eq_ok.mp h
  exact ⟨acc, mapError_eq_ok.mp hacc⟩

lemma MsgConvertNFT.nftIds_ne_nil {X : Extern} {msg : MsgConvertNFT} (h : msg.validateBasic X = .ok ()) :
    msg.nftIds ≠ [] := by
  unfold MsgConvertNFT.validateBasic at h
  obtain ⟨-, h⟩ := check_bind_eq_ok.mp h
  obtain ⟨-, h⟩ := check_bind_eq_ok.mp h
  obtain ⟨-, h⟩ := check_bind_eq_ok.mp h
  obtain ⟨-, h⟩ := check_bind_eq_ok.mp h
  obtain ⟨hne, -⟩ := require_bind_eq_ok.mp h
  simpa using hne

lemma MsgConvertCW721.valid_of_validateBasic {X : Extern} {msg : MsgConvertCW721}
    (h : msg.validateBasic X = .ok ()) : msg.Valid X := by
  unfold MsgConvertCW721.validateBasic at h
  obtain ⟨hs, h⟩ := check_bind_eq_ok.mp h
  obtain ⟨hr, h⟩ := check_bind_eq_ok.mp h
  obtain ⟨-, h⟩ := check_bind_eq_ok.mp h
  obtain ⟨hclass, h⟩ := check_bind_eq_ok.mp h
  obtain ⟨hne, -⟩ := require_bind_eq_ok.mp h
  exact ⟨validateBech32_ok hs, validateBech32_ok hr, require_eq_ok.mp hclass, by simpa using hne⟩

lemma getClassIDAndNFTIDOf_eq_ok {st : Store} {msg : MsgConvertCW721} {t org K n : GoString}
    (hK : msg.classId ≠ []) : getClassIDAndNFTIDOf st msg t org = .ok (K, n) ↔ K = msg.classId ∧
      Erc721.Names (getNFTPairByContractTokenID st msg.contractAddress t) msg.classId t org n := by
  obtain ⟨n₀, K₀, hcut⟩ : ∃ n₀ K₀,
      getNFTFromUID (getNFTPairByContractTokenID st msg.contractAddress t) = (n₀, K₀) := ⟨_, _, rfl⟩
  have hcut' : getNFTFromUID (getNFTUIDPairByTokenUID st (createTokenUID msg.contractAddress t)) = (n₀, K₀) := hcut
  rw [← Erc721.picks_iff_names hcut hK]
  unfold getClassIDAndNFTIDOf
  simp only [hcut']
  rw [require_bind_eq_ok]
  simp only [bind_eq_ok, getNftData_eq_ok, createNftDataByType, Except.ok.injEq, Prod.mk.injEq]
  refine and_congr_right fun _ => ⟨?_, ?_⟩
  · rintro ⟨r, hr, k, hk, rfl, rfl⟩
    exact ⟨hr, hk⟩
  · rintro ⟨hr, hk⟩
    exact ⟨n, hr, K, hk, rfl, rfl⟩

lemma getClassIDAndNFTIDFrom_ok {st : Store} {msg : MsgConvertCW721} (hK : msg.classId ≠ [])
    {ts orgs ns : List GoString} {K₀ K : GoString}
    (h : getClassIDAndNFTIDFrom st msg K₀ ts orgs = .ok (K, ns)) :
    K = (if ts = [] then K₀ else msg.classId) ∧
      Erc721.NamesAll (getNFTPairByContractTokenID st msg.contractAddress) msg.classId ts orgs ns := by
  induction ts generalizing orgs ns K₀ K with
  | nil =>
    simp only [getClassIDAndNFTIDFrom, Except.ok.injEq, Prod.mk.injEq] at h
    obtain ⟨rfl, rfl⟩ := h
    exact ⟨rfl, .nil orgs⟩
  | cons t ts ih =>
    obtain ⟨⟨K₁, n⟩, hn, h⟩ := bind_eq_ok.mp h
    obtain ⟨⟨K₂, ns'⟩, hns, h⟩ := bind_eq_ok.mp h
    obtain ⟨rfl, hnames⟩ := (getClassIDAndNFTIDOf_eq_ok hK).mp hn
    obtain ⟨rfl, hrest⟩ := ih hns
    simp only [ite_self, Except.ok.injEq, Prod.mk.injEq] at h
    obtain ⟨rfl, rfl⟩ := h
    exact ⟨rfl, .cons hnames hrest⟩

/-- What a successful `RegisterCW721` has found free, and what it writes: a class and its pair. -/
structure RegisteredCW721 (w : World C) (msg : MsgConvertCW721) (w' : World C) (K c : GoString) : Prop where
  contract_eq : normalizeCW721Address C.toExtern msg.contractAddress = .ok c
  derived : trimSpace msg.classId = [] ∨ trimSpace msg.classId = createClassIDFromContractAddress c
  class_eq : K = if trimSpace msg.classId = [] then createClassIDFromContractAddress c else msg.classId
  contract_free : isCW721Registered C.toExtern w.cw721 c = false
  class_free : isClassRegistered w.cw721 K = false
  hosted : ∃ contract info, C.decodeAcc c = .ok contract ∧ C.wasm.contractInfo w.wasm contract = .ok info
  saved : ∃ fields nft, Collection.saveDenom C.toExtern C.nk w.nft K fields accModuleAddress = .ok nft ∧
    w' = { w with nft := nft, cw721 := putPair C.toExtern w.cw721 c K }

lemma registerCW721_ok {msg : MsgConvertCW721} {K : GoString} (h : registerCW721 w msg = .ok (w', K)) :
    ∃ c, RegisteredCW721 w msg w' K c := by
  unfold registerCW721 at h
  obtain ⟨c, hc, h⟩ := bind_eq_ok.mp h
  obtain ⟨hcontract, h⟩ := require_bind_eq_ok.mp h
  obtain ⟨hderived, h⟩ := require_bind_eq_ok.mp h
  obtain ⟨w₁, hclass, h⟩ := bind_eq_ok.mp h
  cases h
  have hclass := mapError_eq_ok.mp hclass
  unfold createNFTClass at hclass
  obtain ⟨contract, hdec, hclass⟩ := bind_eq_ok.mp hclass
  obtain ⟨info, hinfo, hclass⟩ := bind_eq_ok.mp hclass
  obtain ⟨hfree, hclass⟩ := require_bind_eq_ok.mp hclass
  obtain ⟨-, hclass⟩ := require_bind_eq_ok.mp hclass
  obtain ⟨nft, hnft, hclass⟩ := bind_eq_ok.mp hclass
  cases hclass
  exact ⟨c, hc, hderived, rfl, hcontract, hfree, ⟨contract, info, hdec, hinfo⟩, _, nft, hnft, rfl⟩

lemma ensureRegisteredCW721_cases {msg : MsgConvertCW721} {K : GoString}
    (h : ensureRegisteredCW721 w msg = .ok (w', K)) :
    (w' = w ∧ K = msg.classId) ∨ ∃ c, RegisteredCW721 w msg w' K c := by
  unfold ensureRegisteredCW721 at h
  split at h
  · exact .inr (registerCW721_ok h)
  · cases h
    exact .inl ⟨rfl, rfl⟩

lemma RegisteredCW721.class_of_given {msg : MsgConvertCW721} {K c : GoString} (hb : isBlank msg.classId = false)
    (h : RegisteredCW721 w msg w' K c) : K = msg.classId :=
  h.class_eq.trans (if_neg (trimSpace_ne_nil hb))

lemma RegisteredCW721.prepares {msg : MsgConvertCW721} {K c : GoString} (h : RegisteredCW721 w msg w' K c) :
    Prepares w w' := by
  obtain ⟨fields, nft, hnft, rfl⟩ := h.saved
  obtain ⟨hnone, rfl⟩ := Erc721.saveDenom_eq_ok hnft
  exact ⟨rfl, rfl, rfl, rfl, Erc721.getClass_putClass_of_some hnone, fun _ _ => rfl, rfl, rfl⟩

lemma ensureRegisteredCW721_prepares {msg : MsgConvertCW721} {K : GoString} (hb : isBlank msg.classId = false)
    (h : ensureRegisteredCW721 w msg = .ok (w', K)) : Prepares w w' ∧ K = msg.classId := by
  obtain ⟨rfl, hK⟩ | ⟨c, reg⟩ := ensureRegisteredCW721_cases h
  · exact ⟨Prepares.refl _, hK⟩
  · exact ⟨reg.prepares, reg.class_of_given hb⟩

/-- The steps of a successful `ConvertCW721` for a message with a class id. -/
structure ConvertCW721Steps (w : World C) (msg : MsgConvertCW721) (w' w₁ : World C) (c : GoString)
    (ns : List GoString) (pair : TokenPair) : Prop where
  contract_eq : normalizeCW721Address C.toExtern msg.contractAddress = .ok c
  named : Erc721.NamesAll (getNFTPairByContractTokenID w.cw721 c) msg.classId msg.tokenIds msg.nftIds ns
  registered : ensureRegisteredCW721 w { msg with contractAddress := c, nftIds := ns } = .ok (w₁, msg.classId)
  pair_eq : getPairByCW721 C.toExtern w₁.cw721 c = .ok pair
  class_eq : pair.classId = msg.classId
  converted : convertWasm2Cosmos w₁ { msg with contractAddress := c, nftIds := ns } = .ok w'

lemma ConvertCW721Steps.prepares {msg : MsgConvertCW721} {w₁ : World C} {c : GoString} {ns : List GoString}
    {pair : TokenPair} (h : ConvertCW721Steps w msg w' w₁ c ns pair) (hb : isBlank msg.classId = false) :
    Prepares w w₁ :=
  (@ensureRegisteredCW721_prepares C w w₁ { msg with contractAddress := c, nftIds := ns } _ hb h.registered).1

theorem convertCW721_steps {msg : MsgConvertCW721} (hmsg : msg.Valid C.toExtern)
    {res : MsgConvertCW721Response} (h : convertCW721 w msg = .ok (w', res)) :
    ∃ w₁ c ns pair, ConvertCW721Steps w msg w' w₁ c ns pair ∧
      res = ⟨c, msg.tokenIds, msg.receiver, msg.sender, msg.classId, ns⟩ := by
  have hK : msg.classId ≠ [] := by
    intro h0
    have := hmsg.classId
    rw [h0] at this
    cases this
  unfold convertCW721 at h
  obtain ⟨-, h⟩ := require_bind_eq_ok.mp h
  obtain ⟨c, hc, h⟩ := bind_eq_ok.mp h
  obtain ⟨⟨K, ns⟩, hids, h⟩ := bind_eq_ok.mp h
  obtain ⟨hKeq, hnames⟩ := @getClassIDAndNFTIDFrom_ok w.cw721 { msg with contractAddress := c } hK _ _ _ _ _ hids
  rw [if_neg hmsg.nonempty] at hKeq
  obtain rfl : K = msg.classId := hKeq
  obtain ⟨-, h⟩ := check_bind_eq_ok.mp h
  obtain ⟨⟨w₁, K'⟩, hreg, h⟩ := bind_eq_ok.mp h
  obtain ⟨-, rfl⟩ := @ensureRegisteredCW721_prepares C w w₁ { msg with contractAddress := c, nftIds := ns } K'
    hmsg.classId hreg
  obtain ⟨pair, hpair, h⟩ := bind_eq_ok.mp h
  obtain ⟨hclass, h⟩ := require_bind_eq_ok.mp h
  have hclass' : pair.classId = msg.classId := (hclass.resolve_left hK).symm
  obtain ⟨w₂, hconv, h⟩ := bind_eq_ok.mp h
  simp only [hclass'] at hconv h
  cases h
  exact ⟨w₁, c, ns, pair, ⟨hc, hnames, hreg, hpair, hclass', mapError_eq_ok.mp hconv⟩, rfl⟩

lemma convertWasm2Cosmos_ok {msg : MsgConvertCW721} (h : convertWasm2Cosmos w msg = .ok w') : ∃ w₁ st,
    forEach (wasm2CosmosRound msg) w (msg.tokenIds.zip msg.nftIds) = .ok w₁ ∧
    bindPairs w₁.cw721 msg.contractAddress msg.classId (msg.tokenIds.zip msg.nftIds) = .ok st ∧
    w' = { w₁ with cw721 := st } := by
  unfold convertWasm2Cosmos at h
  obtain ⟨w₁, hloop, h⟩ := bind_eq_ok.mp h
  obtain ⟨st, hst, h⟩ := bind_eq_ok.mp h
  cases h
  exact ⟨w₁, st, hloop, hst, rfl⟩

end Uptick.Cw721
