import Uptick.Erc721.ConvertSpec
import Uptick.Erc721.IndexInvariant
import Uptick.Erc721.Naming

/-!
# What a successful message did

The message handlers of x/erc721 as the sequence of steps that a success went through, and the ids that
the resolvers hand to the loops.
-/

namespace Uptick.Erc721

open Text Evm Outcome Collection

section Ids

variable {X : Extern} {st : Store}

lemma getNftData_eq_ok {nftOrg nftPairOrg nftSaved r : GoString} {nftType : NftType} :
    getNftData X nftOrg nftPairOrg nftSaved nftType = .ok r ↔
      (nftOrg = [] ∧ nftSaved = [] ∧ r = createNftDataByType X nftPairOrg nftType) ∨
      (nftOrg = [] ∧ nftSaved ≠ [] ∧ r = nftSaved) ∨
      (nftOrg ≠ [] ∧ (nftSaved = [] ∨ nftDataAgrees nftSaved nftOrg nftType = true) ∧ r = nftOrg) := by
  unfold getNftData
  by_cases ho : nftOrg = []
  · by_cases hs : nftSaved = []
    · simp only [ho, hs, and_self, if_true, Except.ok.injEq, ne_eq, not_true_eq_false, false_and, and_false,
        or_false, true_and]
      exact eq_comm
    · simp only [ho, hs, and_false, if_false, if_true, Except.ok.injEq, ne_eq, not_true_eq_false, false_and,
        or_false, true_and, not_false_eq_true, false_or]
      exact eq_comm
  · simp only [ho, false_and, if_false, ne_eq, not_false_eq_true, true_and, false_or]
    split
    · next h =>
      simp only [h, Except.ok.injEq, true_and]
      exact eq_comm
    · next h => simp [h]

lemma pairById_eq_ok {id token : GoString} {pair : TokenPair} :
    pairById st id token = .ok pair ↔ id ≠ [] ∧ st.tokenPair.get? id = some pair := by
  unfold pairById getTokenPair
  by_cases hid : id = []
  · simp [hid]
  · simp only [hid, if_false, ne_eq, not_false_eq_true, true_and]
    cases st.tokenPair.get? id <;> simp

lemma getPairByEVM_eq_ok {contract : GoString} {pair : TokenPair} :
    getPairByEVM X st contract = .ok pair ↔ getERC721Map X st (hexToAddress contract) ≠ [] ∧
      st.tokenPair.get? (getERC721Map X st (hexToAddress contract)) = some pair :=
  pairById_eq_ok

lemma checkBatch_eq_ok {ts ns : List GoString} : checkBatch ts ns = .ok () ↔
    ts.length ≠ 0 ∧ ts.length = ns.length ∧ ts.length ≤ maxERC721BatchSize := by
  unfold checkBatch
  rw [require_bind_eq_ok, require_eq_ok, and_assoc]

lemma getNftData_nftId {org t saved r : GoString} : getNftData X org t saved .nftId = .ok r ↔
    Picks org saved (createNFTIDFromTokenID t) r := by
  rw [getNftData_eq_ok]
  simp only [createNftDataByType, nftDataAgrees, beq_iff_eq, Picks]

lemma getNftData_classId {org c saved r : GoString} : getNftData X org c saved .classId = .ok r ↔
    Picks org saved (createClassIDFromContractAddress c) r := by
  rw [getNftData_eq_ok]
  simp only [createNftDataByType, nftDataAgrees, beq_iff_eq, Picks]

/-- With a class id in the message a token resolves to that class. -/
lemma getClassIDAndNFTIDOf_eq_ok {msg : MsgConvertERC721} {t org K n : GoString} (hK : msg.classId ≠ []) :
    getClassIDAndNFTIDOf X st msg t org = .ok (K, n) ↔ K = msg.classId ∧
      Names (getNFTPairByContractTokenID X st msg.evmContractAddress t) msg.classId t org n := by
  obtain ⟨n₀, K₀, hcut⟩ : ∃ n₀ K₀,
      getNFTFromUID (getNFTPairByContractTokenID X st msg.evmContractAddress t) = (n₀, K₀) := ⟨_, _, rfl⟩
  have hcut' : getNFTFromUID (resolveNFTUIDPair X st msg.evmContractAddress t).1 = (n₀, K₀) := hcut
  rw [← picks_iff_names hcut hK]
  unfold getClassIDAndNFTIDOf
  simp only [hcut']
  rw [require_bind_eq_ok]
  simp only [bind_eq_ok, getNftData_nftId, getNftData_classId, Except.ok.injEq, Prod.mk.injEq]
  refine and_congr_right fun _ => ⟨?_, ?_⟩
  · rintro ⟨r, hr, k, hk, rfl, rfl⟩
    exact ⟨hr, hk⟩
  · rintro ⟨hr, hk⟩
    exact ⟨n, hr, K, hk, rfl, rfl⟩

lemma getClassIDAndNFTIDFrom_eq_ok {msg : MsgConvertERC721} (hK : msg.classId ≠ [])
    {ts orgs ns : List GoString} {K₀ K : GoString} :
    getClassIDAndNFTIDFrom X st msg K₀ ts orgs = .ok (K, ns) ↔
      K = (if ts = [] then K₀ else msg.classId) ∧
        NamesAll (getNFTPairByContractTokenID X st msg.evmContractAddress) msg.classId ts orgs ns := by
  induction ts generalizing orgs ns K₀ K with
  | nil =>
    simp only [getClassIDAndNFTIDFrom, Except.ok.injEq, Prod.mk.injEq, if_true]
    constructor
    · rintro ⟨rfl, rfl⟩
      exact ⟨rfl, .nil orgs⟩
    · rintro ⟨rfl, h⟩
      cases h
      exact ⟨rfl, rfl⟩
  | cons t ts ih =>
    simp only [getClassIDAndNFTIDFrom, bind_eq_ok, Prod.exists, getClassIDAndNFTIDOf_eq_ok hK, ih,
      reduceCtorEq, if_false]
    constructor
    · rintro ⟨K₁, n, ⟨rfl, hn⟩, K₂, ns', ⟨rfl, hns⟩, h⟩
      simp only [ite_self, Except.ok.injEq, Prod.mk.injEq] at h
      obtain ⟨rfl, rfl⟩ := h
      exact ⟨rfl, .cons hn hns⟩
    · rintro ⟨rfl, h⟩
      cases h with
      | cons hn hns => exact ⟨_, _, ⟨rfl, hn⟩, _, _, ⟨rfl, hns⟩, by simp⟩

lemma getClassIDAndNFTID_eq_ok {msg : MsgConvertERC721} (hK : msg.classId ≠ []) (hne : msg.evmTokenIds ≠ [])
    {K : GoString} {ns : List GoString} : getClassIDAndNFTID X st msg = .ok (K, ns) ↔
      K = msg.classId ∧
        NamesAll (getNFTPairByContractTokenID X st msg.evmContractAddress) msg.classId
          msg.evmTokenIds msg.cosmosTokenIds ns := by
  rw [getClassIDAndNFTID, getClassIDAndNFTIDFrom_eq_ok hK, if_neg hne]

end Ids

variable {C : Chain} {w w' : World C}

lemma checkNoMappingConflict_eq_ok {st : Store} {msg : MsgConvertERC721} {ids : GoString × GoString} :
    checkNoMappingConflict (C := C) st msg ids = .ok () ↔
      getNFTPairByContractTokenID C.toExtern st msg.evmContractAddress ids.1 = [] ∨
      getNFTPairByContractTokenID C.toExtern st msg.evmContractAddress ids.1 = createNFTUID msg.classId ids.2 ∧
        (getTokenUIDPairByNFTUID st (createNFTUID msg.classId ids.2) = [] ∨
          (getNFTFromUID (getTokenUIDPairByNFTUID st (createNFTUID msg.classId ids.2))).1 = ids.1) := by
  unfold checkNoMappingConflict
  dsimp only
  split
  · next h => simp [h]
  · next h =>
    rw [require_bind_eq_ok, require_eq_ok]
    simp [h]

lemma validateNoMappingConflict_eq_ok {st : Store} {msg : MsgConvertERC721} :
    validateNoMappingConflict (C := C) st msg = .ok () ↔
      ∀ ids ∈ msg.evmTokenIds.zip msg.cosmosTokenIds, checkNoMappingConflict (C := C) st msg ids = .ok () :=
  forEach_check_eq_ok

lemma bindPair_eq_ok {c K : GoString} {st st' : Store} {ids : GoString × GoString} :
    bindPair (C := C) c K st ids = .ok st' ↔ ∃ v legacy,
      Accepts C.toExtern st c ids.1 K ids.2 v legacy ∧ st' = rebind C.toExtern st c ids.1 K ids.2 v := by
  rw [← setNFTPairs_eq_ok]
  unfold bindPair
  split
  · next h => simp [h]
  · next h => simp [h]

lemma convertEvm2Cosmos_eq_ok {pair : TokenPair} {msg : MsgConvertERC721} {sender : Address} :
    convertEvm2Cosmos w pair msg sender = .ok w' ↔ ∃ w₁ st,
      checkBatch msg.evmTokenIds msg.cosmosTokenIds = .ok () ∧
      validateNoMappingConflict (C := C) w.erc721 msg = .ok () ∧
      forEach (evm2CosmosRound pair msg sender) w (msg.evmTokenIds.zip msg.cosmosTokenIds) = .ok w₁ ∧
      settleIndex (C := C) w₁.erc721 pair msg = .ok st ∧ w' = { w₁ with erc721 := st } := by
  unfold convertEvm2Cosmos
  rw [check_bind_eq_ok, check_bind_eq_ok]
  simp only [bind_eq_ok, Except.ok.injEq]
  constructor
  · rintro ⟨h₁, h₂, w₁, h₃, st, h₄, rfl⟩
    exact ⟨w₁, st, h₁, h₂, h₃, h₄, rfl⟩
  · rintro ⟨w₁, st, h₁, h₂, h₃, h₄, rfl⟩
    exact ⟨h₁, h₂, w₁, h₃, st, h₄, rfl⟩

lemma decodeSender_eq_ok {X : Extern} {s : GoString} {acc : AccAddress} :
    decodeSender X s = .ok acc ↔ X.decodeAcc s = .ok acc := by
  unfold decodeSender Extern.decodeAcc
  cases X.accAddressFromBech32 s <;> simp

/-- The message after the resolver: its contract in canonical spelling, with a class and NFT ids. -/
def MsgConvertERC721.resolved (msg : MsgConvertERC721) (K : GoString) (ns : List GoString) : MsgConvertERC721 :=
  { msg with
    evmContractAddress := canonicalContractAddress msg.evmContractAddress
    classId := K
    cosmosTokenIds := ns }

/-- The steps of a successful `ConvertERC721` for a message with a class id. -/
structure ConvertERC721Steps (w : World C) (msg : MsgConvertERC721) (w' : World C) (ns : List GoString)
    (sender : AccAddress) (w₁ : World C) (pair : TokenPair) : Prop where
  enabled : w.erc721.enableErc721 = true
  named : NamesAll (getNFTPairByContractTokenID C.toExtern w.erc721
      (canonicalContractAddress msg.evmContractAddress)) msg.classId msg.evmTokenIds msg.cosmosTokenIds ns
  sender_eq : C.decodeAcc msg.cosmosSender = .ok sender
  registered : ensureRegisteredERC721 w (msg.resolved msg.classId ns) = .ok (w₁, msg.classId)
  pair_eq : getPairByEVM C.toExtern w₁.erc721 (canonicalContractAddress msg.evmContractAddress) = .ok pair
  class_eq : pair.classId = msg.classId
  code : C.evm.hasCode w₁.evm pair.getERC721Contract = true
  converted : convertEvm2Cosmos w₁ pair (msg.resolved msg.classId ns) (evmAddress sender) = .ok w'

lemma isBlank_nil : isBlank [] = true := by decide

lemma ne_nil_of_isBlank {s : GoString} (h : isBlank s = false) : s ≠ [] := by
  rintro rfl
  rw [isBlank_nil] at h
  cases h

lemma MsgConvertERC721.Valid.classId_ne_nil {X : Extern} {msg : MsgConvertERC721} (h : msg.Valid X) :
    msg.classId ≠ [] :=
  ne_nil_of_isBlank h.classId

/-- What a successful `RegisterERC721` has found free, and what it writes: the derived class and its pair. -/
structure RegisteredERC721 (w : World C) (msg : MsgConvertERC721) (w' : World C) (K : GoString) : Prop where
  derived : K = createClassIDFromContractAddress msg.evmContractAddress
  named : isBlank msg.classId = true ∨ msg.classId = K
  contract_free : isERC721Registered C.toExtern w.erc721 (hexToAddress msg.evmContractAddress) = false
  class_free : isClassRegistered w.erc721 K = false
  saved : ∃ fields nft, Collection.saveDenom C.toExtern C.nk w.nft K fields accModuleAddress = .ok nft ∧
    w' = { w with nft := nft, erc721 := putPair C.toExtern w.erc721 (hexToAddress msg.evmContractAddress) K }

lemma registerERC721_ok {msg : MsgConvertERC721} {w₁ : World C} {K : GoString}
    (h : registerERC721 w msg = .ok (w₁, K)) : RegisteredERC721 w msg w₁ K := by
  unfold registerERC721 at h
  obtain ⟨hcontract, h⟩ := require_bind_eq_ok.mp h
  obtain ⟨hnamed, h⟩ := require_bind_eq_ok.mp h
  obtain ⟨w₂, hclass, h⟩ := bind_eq_ok.mp h
  cases h
  have hclass := mapError_eq_ok.mp hclass
  unfold createNFTClass at hclass
  obtain ⟨name, -, hclass⟩ := bind_eq_ok.mp hclass
  obtain ⟨symbol, -, hclass⟩ := bind_eq_ok.mp hclass
  obtain ⟨hfree, hclass⟩ := require_bind_eq_ok.mp hclass
  obtain ⟨-, hclass⟩ := require_bind_eq_ok.mp hclass
  obtain ⟨enhance, -, hclass⟩ := bind_eq_ok.mp hclass
  obtain ⟨nft, hnft, hclass⟩ := bind_eq_ok.mp hclass
  cases hclass
  exact ⟨rfl, hnamed, hcontract, hfree, _, nft, hnft, rfl⟩

lemma ensureRegisteredERC721_cases {msg : MsgConvertERC721} {w₁ : World C} {K : GoString}
    (h : ensureRegisteredERC721 w msg = .ok (w₁, K)) :
    (w₁ = w ∧ K = msg.classId) ∨ RegisteredERC721 w msg w₁ K := by
  unfold ensureRegisteredERC721 at h
  split at h
  · exact .inr (registerERC721_ok (mapError_eq_ok.mp h))
  · cases h
    exact .inl ⟨rfl, rfl⟩

lemma ensureRegisteredERC721_class {msg : MsgConvertERC721} {w₁ : World C} {K : GoString}
    (hb : isBlank msg.classId = false) (h : ensureRegisteredERC721 w msg = .ok (w₁, K)) : K = msg.classId := by
  obtain ⟨-, rfl⟩ | reg := ensureRegisteredERC721_cases h
  · rfl
  · exact (reg.named.resolve_left (by simp [hb])).symm

def convertERC721Response (X : Extern) (msg : MsgConvertERC721) (ns : List GoString) (sender : AccAddress) :
    MsgConvertERC721Response :=
  ⟨canonicalContractAddress msg.evmContractAddress, msg.evmTokenIds, msg.cosmosReceiver,
    (evmAddress sender).hex X.keccak256, msg.classId, ns⟩

theorem convertERC721_eq_ok {msg : MsgConvertERC721} (hb : isBlank msg.classId = false)
    (hne : msg.evmTokenIds ≠ []) {res : MsgConvertERC721Response} : convertERC721 w msg = .ok (w', res) ↔
      ∃ ns sender w₁ pair, ConvertERC721Steps w msg w' ns sender w₁ pair ∧
        res = convertERC721Response C.toExtern msg ns sender := by
  have hK : msg.classId ≠ [] := ne_nil_of_isBlank hb
  have hresolve : ∀ K ns, getClassIDAndNFTID C.toExtern w.erc721
      { msg with evmContractAddress := canonicalContractAddress msg.evmContractAddress } = .ok (K, ns) ↔
        K = msg.classId ∧ NamesAll (getNFTPairByContractTokenID C.toExtern w.erc721
          (canonicalContractAddress msg.evmContractAddress)) msg.classId msg.evmTokenIds msg.cosmosTokenIds ns := by
    intro K ns
    apply getClassIDAndNFTID_eq_ok
    · exact hK
    · exact hne
  unfold convertERC721
  rw [require_bind_eq_ok, bind_eq_ok]
  constructor
  · rintro ⟨hen, ⟨K, ns⟩, hids, h⟩
    obtain ⟨rfl, hnames⟩ := (hresolve K ns).mp hids
    obtain ⟨-, h⟩ := check_bind_eq_ok.mp h
    obtain ⟨sender, hs, h⟩ := bind_eq_ok.mp h
    obtain ⟨⟨w₁, K'⟩, hreg, h⟩ := bind_eq_ok.mp h
    obtain rfl : K' = (msg.resolved msg.classId ns).classId :=
      ensureRegisteredERC721_class hb hreg
    obtain ⟨pair, hpair, h⟩ := bind_eq_ok.mp h
    obtain ⟨hcode, h⟩ := require_bind_eq_ok.mp h
    obtain ⟨hcls, h⟩ := require_bind_eq_ok.mp h
    have hcls' : pair.classId = msg.classId := (hcls.resolve_left hK).symm
    obtain ⟨w₂, hconv, h⟩ := bind_eq_ok.mp h
    simp only [Except.ok.injEq, Prod.mk.injEq] at h
    obtain ⟨rfl, rfl⟩ := h
    rw [mapError_eq_ok] at hpair hconv
    rw [hcls'] at hconv
    refine ⟨ns, sender, w₁, pair, ⟨hen, hnames, decodeSender_eq_ok.mp hs, hreg, hpair, hcls', hcode, hconv⟩, ?_⟩
    simp only [convertERC721Response, hcls']
  · rintro ⟨ns, sender, w₁, pair, h, rfl⟩
    have hbatch : checkBatch msg.evmTokenIds ns = .ok () := by
      obtain ⟨_, _, hb, -⟩ := convertEvm2Cosmos_eq_ok.mp h.converted
      exact hb
    refine ⟨h.enabled, (msg.classId, ns), (hresolve _ _).mpr ⟨rfl, h.named⟩, ?_⟩
    refine check_bind_eq_ok.mpr ⟨hbatch, bind_eq_ok.mpr ⟨sender, decodeSender_eq_ok.mpr h.sender_eq, ?_⟩⟩
    refine bind_eq_ok.mpr ⟨(w₁, msg.classId), h.registered, ?_⟩
    refine bind_eq_ok.mpr ⟨pair, mapError_eq_ok.mpr h.pair_eq, ?_⟩
    refine require_bind_eq_ok.mpr ⟨h.code, require_bind_eq_ok.mpr ⟨.inr h.class_eq.symm, ?_⟩⟩
    refine bind_eq_ok.mpr ⟨w', mapError_eq_ok.mpr ?_, ?_⟩
    · rw [h.class_eq]
      exact h.converted
    · simp only [convertERC721Response, h.class_eq]

end Uptick.Erc721
