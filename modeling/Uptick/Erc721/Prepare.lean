import Uptick.Erc721.HandlerSpec

/-!
# What happens before the loop

Registering a pair, deploying a contract and purging a pair whose contract is gone move no token. The pair
index can only lose entries on the way, always in both directions.
-/

namespace Uptick.Erc721

open Text Evm Outcome Collection

/-- Every forward entry has its reverse entry. -/
def HalfExact (st : Store) : Prop :=
  ∀ uid y, st.byTokenUID.get? uid = some y → st.byNFTUID.get? y = some uid

/-- The index and the refund records only lose entries, and no forward entry loses its reverse entry. -/
structure StoreShrinks (st st' : Store) : Prop where
  forward : ∀ uid y, st'.byTokenUID.get? uid = some y → st.byTokenUID.get? uid = some y
  reverse : ∀ y uid, st'.byNFTUID.get? y = some uid → st.byNFTUID.get? y = some uid
  records : ∀ k a, st'.evmAddress.get? k = some a → st.evmAddress.get? k = some a
  halfExact : HalfExact st → HalfExact st'

namespace StoreShrinks

variable {st st' st'' : Store}

lemma of_eq (hf : st'.byTokenUID = st.byTokenUID) (hr : st'.byNFTUID = st.byNFTUID)
    (he : st'.evmAddress = st.evmAddress) : StoreShrinks st st' where
  forward := by
    rw [hf]
    exact fun _ _ h => h
  reverse := by
    rw [hr]
    exact fun _ _ h => h
  records := by
    rw [he]
    exact fun _ _ h => h
  halfExact := by
    unfold HalfExact
    rw [hf, hr]
    exact fun h => h

lemma refl (st : Store) : StoreShrinks st st := of_eq rfl rfl rfl

lemma trans (h : StoreShrinks st st') (h' : StoreShrinks st' st'') : StoreShrinks st st'' where
  forward := fun uid y hy => h.forward uid y (h'.forward uid y hy)
  reverse := fun y uid hy => h.reverse y uid (h'.reverse y uid hy)
  records := fun k a ha => h.records k a (h'.records k a ha)
  halfExact := fun hh => h'.halfExact (h.halfExact hh)

lemma foldl {α : Type} {f : Store → α → Store} (hf : ∀ st x, StoreShrinks st (f st x)) (xs : List α)
    (st : Store) : StoreShrinks st (xs.foldl f st) := by
  induction xs generalizing st with
  | nil => exact refl st
  | cons x xs ih => exact (hf st x).trans (ih (f st x))

end StoreShrinks

/-- Dropping a forward entry together with the reverse entry of its NFT. -/
lemma shrinks_deleteScannedTokenUID (st : Store) (uid : GoString) :
    StoreShrinks st (deleteScannedTokenUID st uid) := by
  have hfwd : ∀ uid' y, (st.byTokenUID.delete uid).get? uid' = some y →
      uid' ≠ uid ∧ st.byTokenUID.get? uid' = some y := by
    intro uid' y h
    rw [KVStore.get?_delete] at h
    split at h
    · cases h
    · next hne => exact ⟨hne, h⟩
  unfold deleteScannedTokenUID
  dsimp only
  split
  · next hne =>
    refine ⟨fun uid' y h => (hfwd uid' y h).2, fun y uid' h => ?_, fun _ _ h => h, fun hh uid' y h => ?_⟩
    · simp only [deleteNFTUIDPairByNFTUID, deleteNFTUIDPairByTokenUID, KVStore.get?_delete] at h
      split at h
      · cases h
      · exact h
    · obtain ⟨huid, hy⟩ := hfwd uid' y h
      simp only [deleteNFTUIDPairByNFTUID, deleteNFTUIDPairByTokenUID, KVStore.get?_delete]
      rw [if_neg ?_]
      · exact hh uid' y hy
      · -- the deleted reverse entry names the deleted key, so it is not this one
        rintro rfl
        have hrev := hh uid' _ hy
        have hself := hh uid _ (KVStore.get?_of_get rfl hne)
        exact huid (Option.some.inj (hrev.symm.trans hself))
  · refine ⟨fun uid' y h => (hfwd uid' y h).2, fun _ _ h => h, fun _ _ h => h, fun hh uid' y h => ?_⟩
    exact hh uid' y (hfwd uid' y h).2

/-- Dropping a reverse entry together with the forward entry of its token. -/
lemma shrinks_deleteScannedNFTUID (st : Store) (nftUID : GoString) :
    StoreShrinks st (deleteScannedNFTUID st nftUID) := by
  have hrev : ∀ y uid, (st.byNFTUID.delete nftUID).get? y = some uid →
      y ≠ nftUID ∧ st.byNFTUID.get? y = some uid := by
    intro y uid h
    rw [KVStore.get?_delete] at h
    split at h
    · cases h
    · next hne => exact ⟨hne, h⟩
  -- a forward entry of the deleted NFT sits under the token that is deleted with it
  have hhalf : HalfExact st → ∀ uid y, st.byTokenUID.get? uid = some y →
      uid ≠ getTokenUIDPairByNFTUID st nftUID → y ≠ nftUID := by
    rintro hh uid y hy hne rfl
    exact hne (KVStore.get_of_get? (hh uid y hy)).symm
  unfold deleteScannedNFTUID
  dsimp only
  split
  · refine ⟨fun uid y h => ?_, fun y uid h => (hrev y uid h).2, fun _ _ h => h, fun hh uid y h => ?_⟩
    · simp only [deleteNFTUIDPairByNFTUID, deleteNFTUIDPairByTokenUID, KVStore.get?_delete] at h
      split at h
      · cases h
      · exact h
    · simp only [deleteNFTUIDPairByNFTUID, deleteNFTUIDPairByTokenUID, KVStore.get?_delete] at h
      split at h
      · cases h
      · next hne =>
        simp only [deleteNFTUIDPairByNFTUID, deleteNFTUIDPairByTokenUID, KVStore.get?_delete]
        rw [if_neg (hhalf hh uid y h hne)]
        exact hh uid y h
  · next hnil =>
    refine ⟨fun _ _ h => h, fun y uid h => (hrev y uid h).2, fun _ _ h => h, fun hh uid y h => ?_⟩
    have hne : uid ≠ getTokenUIDPairByNFTUID st nftUID := by
      rintro rfl
      rw [not_not.mp hnil] at h
      simp [deleteNFTUIDPairByNFTUID] at h
    simp only [deleteNFTUIDPairByNFTUID, KVStore.get?_delete]
    rw [if_neg (hhalf hh uid y h hne)]
    exact hh uid y h

lemma shrinks_deleteRecords (st : Store) (ks : List GoString) :
    StoreShrinks st { st with evmAddress := st.evmAddress.deleteAll ks } := by
  refine ⟨fun _ _ h => h, fun _ _ h => h, fun k a h => ?_, fun h => h⟩
  simp only [KVStore.get?_deleteAll] at h
  split at h
  · cases h
  · exact h

lemma shrinks_deletePairPerTokenState (st : Store) (pair : TokenPair) :
    StoreShrinks st (deletePairPerTokenState st pair) :=
  ((StoreShrinks.foldl shrinks_deleteScannedTokenUID _ st).trans
    (StoreShrinks.foldl shrinks_deleteScannedNFTUID _ _)).trans (shrinks_deleteRecords _ _)

lemma shrinks_purgeTokenPair (X : Extern) (st : Store) (pair : TokenPair) :
    StoreShrinks st (purgeTokenPair X st pair) :=
  (shrinks_deletePairPerTokenState st pair).trans (StoreShrinks.of_eq rfl rfl rfl)

variable {C : Chain} {w w' : World C}

/-- No token moved: the classes and the contracts may be more, the index may be smaller. -/
structure Prepares (w w' : World C) : Prop where
  store : StoreShrinks w.erc721 w'.erc721
  held : w'.nft.held = w.nft.held
  getClass : ∀ K cl, w.nft.getClass K = some cl → w'.nft.getClass K = some cl
  owner : ∀ c v, C.evm.owner w'.evm c v = C.evm.owner w.evm c v
  code : ∀ c, C.evm.hasCode w.evm c = true → C.evm.hasCode w'.evm c = true
  cw721 : w'.cw721 = w.cw721
  wasm : w'.wasm = w.wasm

namespace Prepares

lemma of_store {st : Store} (h : StoreShrinks w.erc721 st) : Prepares w { w with erc721 := st } :=
  ⟨h, rfl, fun _ _ h => h, fun _ _ => rfl, fun _ h => h, rfl, rfl⟩

lemma refl (w : World C) : Prepares w w := of_store (StoreShrinks.refl _)

lemma trans {w'' : World C} (h : Prepares w w') (h' : Prepares w' w'') : Prepares w w'' where
  store := h.store.trans h'.store
  held := h'.held.trans h.held
  getClass := fun K cl hK => h'.getClass K cl (h.getClass K cl hK)
  owner := fun c v => (h'.owner c v).trans (h.owner c v)
  code := fun c hc => h'.code c (h.code c hc)
  cw721 := h'.cw721.trans h.cw721
  wasm := h'.wasm.trans h.wasm

end Prepares

lemma saveDenom_eq_ok {X : Extern} {nk : NftKeeper} {L L' : NftLedger} {K : GoString} {f : DenomFields}
    {creator : AccAddress} (h : saveDenom X nk L K f creator = .ok L') :
    L.getClass K = none ∧ L' = L.putClass K ⟨f.name, f.symbol, f.description, f.uri, f.uriHash,
      .value ⟨X.accString creator, f.schema, f.mintRestricted, f.updateRestricted, f.data⟩⟩ := by
  unfold saveDenom at h
  obtain ⟨-, h⟩ := check_bind_eq_ok.mp h
  obtain ⟨-, h⟩ := check_bind_eq_ok.mp h
  exact nk.saveClass_eq_ok.mp h

lemma getClass_putClass_of_some {L : NftLedger} {K : GoString} {cl : Collection.Class} (hnone : L.getClass K = none)
    (K' : GoString) (cl' : Collection.Class) (h : L.getClass K' = some cl') :
    (L.putClass K cl).getClass K' = some cl' := by
  unfold NftLedger.putClass
  dsimp only
  rw [if_neg, h]
  rintro rfl
  rw [hnone] at h
  cases h

lemma shrinks_putPair (X : Extern) (st : Store) (contract : Address) (K : GoString) :
    StoreShrinks st (putPair X st contract K) :=
  StoreShrinks.of_eq rfl rfl rfl

lemma RegisteredERC721.prepares {msg : MsgConvertERC721} {K : GoString} (h : RegisteredERC721 w msg w' K) :
    Prepares w w' := by
  obtain ⟨fields, nft, hnft, rfl⟩ := h.saved
  obtain ⟨hnone, rfl⟩ := saveDenom_eq_ok hnft
  exact ⟨shrinks_putPair _ _ _ _, rfl, getClass_putClass_of_some hnone, fun _ _ => rfl, fun _ h => h, rfl, rfl⟩

lemma ensureRegisteredERC721_prepares {msg : MsgConvertERC721} {K : GoString}
    (h : ensureRegisteredERC721 w msg = .ok (w', K)) : Prepares w w' := by
  obtain ⟨rfl, -⟩ | reg := ensureRegisteredERC721_cases h
  · exact Prepares.refl _
  · exact reg.prepares

lemma deployERC721Contract_prepares {K : GoString} {contract : Address}
    (h : deployERC721Contract w K = .ok (w', contract)) : Prepares w w' := by
  unfold deployERC721Contract at h
  split at h
  · cases h
  · obtain ⟨nonce, -, h⟩ := bind_eq_ok.mp h
    obtain ⟨evm', hdeploy, h⟩ := bind_eq_ok.mp h
    cases h
    obtain ⟨_, -, -, hcode, howner⟩ := C.evm.deploy_ok (mapError_eq_ok.mp hdeploy)
    exact ⟨StoreShrinks.refl _, rfl, fun _ _ h => h, howner, fun c hc => by rw [hcode, hc, Bool.or_true], rfl, rfl⟩

lemma getContractAddressAndTokenIds_prepares {msg : MsgConvertNFT} {c : GoString} {ids : List GoString}
    (h : getContractAddressAndTokenIds w msg = .ok (w', c, ids)) : Prepares w w' := by
  unfold getContractAddressAndTokenIds at h
  split at h
  · obtain ⟨_, -, h⟩ := bind_eq_ok.mp h
    obtain ⟨⟨w₁, contract⟩, hdeploy, h⟩ := bind_eq_ok.mp h
    obtain ⟨-, h⟩ := require_bind_eq_ok.mp h
    cases h
    exact deployERC721Contract_prepares hdeploy
  · obtain ⟨_, -, h⟩ := bind_eq_ok.mp h
    obtain ⟨_, -, h⟩ := bind_eq_ok.mp h
    obtain ⟨-, h⟩ := require_bind_eq_ok.mp h
    obtain ⟨-, h⟩ := check_bind_eq_ok.mp h
    cases h
    exact Prepares.refl w

lemma registerNFT_eq_ok {X : Extern} {st st' : Store} {msg : MsgConvertNFT} :
    registerNFT X st msg = .ok st' ↔ isIBCDenom msg.classId = false ∧
      isClassRegistered st msg.classId = false ∧
      isERC721Registered X st (hexToAddress msg.evmContractAddress) = false ∧
      st' = putPair X st (hexToAddress msg.evmContractAddress) msg.classId := by
  unfold registerNFT
  rw [require_bind_eq_ok, require_bind_eq_ok, require_bind_eq_ok, Except.ok.injEq]
  exact and_congr_right fun _ => and_congr_right fun _ => and_congr_right fun _ => eq_comm

lemma ensureRegisteredNFT_prepares {msg : MsgConvertNFT} (h : ensureRegisteredNFT w msg = .ok w') :
    Prepares w w' := by
  unfold ensureRegisteredNFT at h
  split at h
  · obtain ⟨st, hst, h⟩ := bind_eq_ok.mp h
    cases h
    obtain ⟨-, -, -, rfl⟩ := registerNFT_eq_ok.mp hst
    exact .of_store (shrinks_putPair _ _ _ _)
  · cases h
    exact Prepares.refl w

lemma redeployPair_prepares {pair pair' : TokenPair} {msg msg' : MsgConvertNFT}
    (h : redeployPair w pair msg = .ok (w', pair', msg')) :
    Prepares w w' ∧ getPairByClass w'.erc721 msg.classId = .ok pair' ∧ ∃ c ids,
      msg' = { msg with evmContractAddress := c, evmTokenIds := ids } := by
  unfold redeployPair at h
  obtain ⟨-, h⟩ := require_bind_eq_ok.mp h
  obtain ⟨⟨w₁, c, ids⟩, hids, h⟩ := bind_eq_ok.mp h
  obtain ⟨st, hst, h⟩ := bind_eq_ok.mp h
  obtain ⟨pair₁, hpair, h⟩ := bind_eq_ok.mp h
  cases h
  have hpurge : Prepares w { w with erc721 := purgeTokenPair C.toExtern w.erc721 pair } :=
    .of_store (shrinks_purgeTokenPair _ _ _)
  have hdeploy := getContractAddressAndTokenIds_prepares (mapError_eq_ok.mp hids)
  obtain ⟨-, -, -, rfl⟩ := registerNFT_eq_ok.mp (mapError_eq_ok.mp hst)
  exact ⟨(hpurge.trans hdeploy).trans (.of_store (shrinks_putPair _ _ _ _)), hpair, _, _, rfl⟩

lemma livePair_prepares {pair pair' : TokenPair} {msg msg' : MsgConvertNFT}
    (hpair : getPairByClass w.erc721 msg.classId = .ok pair) (h : livePair w pair msg = .ok (w', pair', msg')) :
    Prepares w w' ∧ getPairByClass w'.erc721 msg.classId = .ok pair' ∧ ∃ c ids,
      msg' = { msg with evmContractAddress := c, evmTokenIds := ids } := by
  unfold livePair at h
  split at h
  · cases h
    exact ⟨Prepares.refl w, hpair, _, _, rfl⟩
  · exact redeployPair_prepares h

lemma convertCosmos2Evm_eq_ok {pair : TokenPair} {msg : MsgConvertNFT} {receiver : Address} :
    convertCosmos2Evm w pair msg receiver = .ok w' ↔ ∃ w₁ st,
      checkBatch msg.evmTokenIds msg.cosmosTokenIds = .ok () ∧
      forEach (cosmos2EvmRound pair.getERC721Contract receiver pair.getERC721Contract.lowerHex msg) w
        (msg.evmTokenIds.zip msg.cosmosTokenIds) = .ok w₁ ∧
      bindPairs (C := C) w₁.erc721 pair.getERC721Contract.lowerHex msg.classId
        (msg.evmTokenIds.zip msg.cosmosTokenIds) = .ok st ∧ w' = { w₁ with erc721 := st } := by
  have hcanon : canonicalContractAddress (pair.getERC721Contract.hex C.keccak256) =
      pair.getERC721Contract.lowerHex := by
    rw [canonicalContractAddress_of_0x (by simp) (has0xPrefix_hex _ _), hexToAddress_hex]
  unfold convertCosmos2Evm
  rw [check_bind_eq_ok]
  simp only [hcanon, bind_eq_ok, Except.ok.injEq]
  constructor
  · rintro ⟨h₁, w₁, h₂, st, h₃, rfl⟩
    exact ⟨w₁, st, h₁, h₂, h₃, rfl⟩
  · rintro ⟨w₁, st, h₁, h₂, h₃, rfl⟩
    exact ⟨h₁, w₁, h₂, st, h₃, rfl⟩

/-- The steps of a successful `ConvertNFT`: preparations, then the loop with some contract text and token
ids in the message. -/
structure ConvertNFTSteps (w : World C) (msg : MsgConvertNFT) (w' w₁ : World C) (pair : TokenPair)
    (c : GoString) (ids : List GoString) : Prop where
  enabled : w.erc721.enableErc721 = true
  prepares : Prepares w w₁
  pair_eq : getPairByClass w₁.erc721 msg.classId = .ok pair
  converted : convertCosmos2Evm w₁ pair { msg with evmContractAddress := c, evmTokenIds := ids }
    (hexToAddress msg.evmReceiver) = .ok w'

lemma nft_of_deployERC721Contract {K : GoString} {contract : Address}
    (h : deployERC721Contract w K = .ok (w', contract)) : w'.nft = w.nft := by
  unfold deployERC721Contract at h
  split at h
  · cases h
  · obtain ⟨nonce, -, h⟩ := bind_eq_ok.mp h
    obtain ⟨evm', -, h⟩ := bind_eq_ok.mp h
    cases h
    rfl

lemma nft_of_getContractAddressAndTokenIds {msg : MsgConvertNFT} {c : GoString} {ids : List GoString}
    (h : getContractAddressAndTokenIds w msg = .ok (w', c, ids)) : w'.nft = w.nft := by
  unfold getContractAddressAndTokenIds at h
  split at h
  · obtain ⟨_, -, h⟩ := bind_eq_ok.mp h
    obtain ⟨⟨w₁, contract⟩, hdeploy, h⟩ := bind_eq_ok.mp h
    obtain ⟨-, h⟩ := require_bind_eq_ok.mp h
    cases h
    exact nft_of_deployERC721Contract hdeploy
  · obtain ⟨_, -, h⟩ := bind_eq_ok.mp h
    obtain ⟨_, -, h⟩ := bind_eq_ok.mp h
    obtain ⟨-, h⟩ := require_bind_eq_ok.mp h
    obtain ⟨-, h⟩ := check_bind_eq_ok.mp h
    cases h
    rfl

lemma nft_of_ensureRegisteredNFT {msg : MsgConvertNFT} (h : ensureRegisteredNFT w msg = .ok w') :
    w'.nft = w.nft := by
  unfold ensureRegisteredNFT at h
  split at h
  · obtain ⟨st, -, h⟩ := bind_eq_ok.mp h
    cases h
    rfl
  · cases h
    rfl

lemma nft_of_livePair {pair pair' : TokenPair} {msg msg' : MsgConvertNFT}
    (h : livePair w pair msg = .ok (w', pair', msg')) : w'.nft = w.nft := by
  unfold livePair at h
  split at h
  · cases h
    rfl
  · unfold redeployPair at h
    obtain ⟨-, h⟩ := require_bind_eq_ok.mp h
    obtain ⟨⟨w₁, c, ids⟩, hids, h⟩ := bind_eq_ok.mp h
    obtain ⟨st, -, h⟩ := bind_eq_ok.mp h
    obtain ⟨pair₁, -, h⟩ := bind_eq_ok.mp h
    cases h
    have hnft : w₁.nft = { w with erc721 := purgeTokenPair C.toExtern w.erc721 pair }.nft :=
      nft_of_getContractAddressAndTokenIds (mapError_eq_ok.mp hids)
    exact hnft

theorem convertNFT_steps_nft {msg : MsgConvertNFT} (h : convertNFT w msg = .ok w') :
    ∃ w₁ pair c ids, ConvertNFTSteps w msg w' w₁ pair c ids ∧ w₁.nft = w.nft := by
  unfold convertNFT at h
  obtain ⟨hen, h⟩ := require_bind_eq_ok.mp h
  obtain ⟨-, h⟩ := require_bind_eq_ok.mp h
  obtain ⟨⟨w₁, c, ids⟩, hids, h⟩ := bind_eq_ok.mp h
  obtain ⟨w₂, hreg, h⟩ := bind_eq_ok.mp h
  obtain ⟨pair, hpair, h⟩ := bind_eq_ok.mp h
  obtain ⟨-, h⟩ := require_bind_eq_ok.mp h
  obtain ⟨⟨w₃, pair', msg'⟩, hlive, h⟩ := bind_eq_ok.mp h
  have h₁ : Prepares w w₁ := getContractAddressAndTokenIds_prepares hids
  have h₂ : Prepares w₁ w₂ := ensureRegisteredNFT_prepares hreg
  have hnft : w₃.nft = w.nft := by
    rw [nft_of_livePair hlive, nft_of_ensureRegisteredNFT hreg, nft_of_getContractAddressAndTokenIds hids]
  obtain ⟨h₃, hpair', c', ids', rfl⟩ := livePair_prepares hpair hlive
  exact ⟨w₃, pair', c', ids', ⟨hen, (h₁.trans h₂).trans h₃, hpair', h⟩, hnft⟩

theorem convertNFT_steps {msg : MsgConvertNFT} (h : convertNFT w msg = .ok w') :
    ∃ w₁ pair c ids, ConvertNFTSteps w msg w' w₁ pair c ids := by
  obtain ⟨w₁, pair, c, ids, steps, -⟩ := convertNFT_steps_nft h
  exact ⟨w₁, pair, c, ids, steps⟩

end Uptick.Erc721
