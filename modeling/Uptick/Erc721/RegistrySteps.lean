import Uptick.Erc721.Batch

/-!
# What a conversion does to the registry

Most conversions leave the registered pairs alone. The others store one pair, after removing the pair of a
contract that has lost its code.
-/

namespace Uptick.Erc721

open Text Evm Outcome Collection

variable {C : Chain} {w w' w₁ : World C}

/-- A pair is stored whose contract and class are free. -/
structure Registers (X : Extern) (st : Store) (a : Address) (K : GoString) (st' : Store) : Prop where
  contract : isERC721Registered X st a = false
  class_ : isClassRegistered st K = false
  nonVoucher : isIBCDenom K = false
  store : st' = putPair X st a K

lemma Registers.registryInv {X : Extern} {D : Set GoString} {st st' : Store} {a : Address} {K : GoString}
    (h : Registers X st a K st') (hreg : RegistryInv X D st) (hK : comma ∉ K) (hne : K ≠ [])
    (hD : PairsIn D st') : RegistryInv X D st' := by
  obtain rfl := h.store
  exact hreg.putPair h.contract h.class_ hK h.nonVoucher hne hD

lemma registers_of_registerNFT {X : Extern} {st st' : Store} {msg : MsgConvertNFT}
    (h : registerNFT X st msg = .ok st') :
    Registers X st (hexToAddress msg.evmContractAddress) msg.classId st' := by
  obtain ⟨hibc, hclass, hcontract, rfl⟩ := registerNFT_eq_ok.mp h
  exact ⟨hcontract, hclass, hibc, rfl⟩

lemma isClassRegistered_of_pair {st : Store} {K : GoString} {pair : TokenPair}
    (h : getPairByClass st K = .ok pair) : isClassRegistered st K = true := by
  obtain ⟨hid, -⟩ := pairById_eq_ok.mp h
  unfold getClassMap at hid
  unfold isClassRegistered KVStore.has
  rw [KVStore.get?_of_get rfl hid]
  rfl

lemma getPairByClass_putPair {X : Extern} {st : Store} {a : Address} {K : GoString} (hK : K ≠ [])
    {pair : TokenPair} (h : getPairByClass (putPair X st a K) K = .ok pair) : pair = newTokenPair X a K := by
  obtain ⟨hid, hget⟩ := pairById_eq_ok.mp h
  have hmap : getClassMap (putPair X st a K) K = (newTokenPair X a K).getID X := by
    apply KVStore.get_of_get?
    simp only [putPair, setERC721Map, setClassMap, setTokenPair, newTokenPair]
    rw [KVStore.get?_set _ hK, if_pos rfl]
  rw [hmap] at hid hget
  simp only [putPair, setERC721Map, setClassMap, setTokenPair, KVStore.get?_set _ hid, if_true,
    Option.some.injEq] at hget
  exact hget.symm

lemma getContractAddressAndTokenIds_cases {msg : MsgConvertNFT} {c : GoString} {ids : List GoString}
    (h : getContractAddressAndTokenIds w msg = .ok (w₁, c, ids)) :
    (∃ pair, getPairByClass w.erc721 msg.classId = .ok pair ∧ c = pair.erc721Address ∧ w₁ = w) ∨
      (∃ e, getPairByClass w.erc721 msg.classId = .error e) ∧ w₁.erc721 = w.erc721 ∧
        w.nft.hasClass msg.classId = true ∧ ∃ a : Address, c = a.hex C.keccak256 ∧ C.evm.hasCode w₁.evm a = true := by
  unfold getContractAddressAndTokenIds at h
  split at h
  · next e he =>
    obtain ⟨_, -, h⟩ := bind_eq_ok.mp h
    obtain ⟨⟨w₂, a⟩, hdeploy, h⟩ := bind_eq_ok.mp h
    obtain ⟨-, h⟩ := require_bind_eq_ok.mp h
    cases h
    unfold deployERC721Contract at hdeploy
    split at hdeploy
    · cases hdeploy
    · next class_ hclass =>
      obtain ⟨nonce, hnonce, hdeploy⟩ := bind_eq_ok.mp hdeploy
      obtain ⟨evm', hevm, hdeploy⟩ := bind_eq_ok.mp hdeploy
      cases hdeploy
      obtain ⟨nonce', hnonce', -, hcode, -⟩ := C.evm.deploy_ok (mapError_eq_ok.mp hevm)
      obtain rfl : nonce = nonce' := Except.ok.inj (hnonce.symm.trans hnonce')
      exact .inr ⟨⟨e, he⟩, rfl, hasClass_of_getDenomInfo hclass, _, rfl, by simp [hcode]⟩
  · next pair hpair =>
    obtain ⟨_, -, h⟩ := bind_eq_ok.mp h
    obtain ⟨_, -, h⟩ := bind_eq_ok.mp h
    obtain ⟨-, h⟩ := require_bind_eq_ok.mp h
    obtain ⟨-, h⟩ := check_bind_eq_ok.mp h
    cases h
    exact .inl ⟨pair, hpair, rfl, rfl⟩

/-- What `ConvertNFT` does to the registry. -/
inductive Reregisters (X : Extern) (L : NftLedger) (st : Store) (K : GoString) (st' : Store) : Prop
  | same (h : SameRegistry st st')
  | first (a : Address) (st₁ : Store) (hclass : L.hasClass K = true) (h : Registers X st a K st₁)
      (hs : SameRegistry st₁ st')
  | again (id : GoString) (pair : TokenPair) (a : Address) (st₁ : Store) (hpair : st.tokenPair.get? id = some pair)
      (hclass : pair.classId = K) (h : Registers X (purgeTokenPair X st pair) a K st₁) (hs : SameRegistry st₁ st')

lemma sameRegistry_convertCosmos2Evm {pair : TokenPair} {msg : MsgConvertNFT} {receiver : Address}
    (h : convertCosmos2Evm w pair msg receiver = .ok w') : SameRegistry w.erc721 w'.erc721 := by
  obtain ⟨w₁, st, -, hloop, hbind, rfl⟩ := convertCosmos2Evm_eq_ok.mp h
  have hst : w₁.erc721 = w.erc721 := by
    refine @forEach_invariant _ _ _ _ (fun s : World C => s.erc721 = w.erc721) _ (fun s x s' _ hs hstep => ?_) _ _
      rfl hloop
    obtain ⟨_, _, _, _, _, _, -, -, -, -, -, -, rfl⟩ := cosmos2EvmRound_eq_ok.mp hstep
    exact hs
  rw [hst] at hbind
  exact sameRegistry_bindPairs hbind

lemma redeployPair_registers {pair pair' : TokenPair} {msg msg' : MsgConvertNFT}
    (h : redeployPair w pair msg = .ok (w', pair', msg')) :
    ∃ a, Registers C.toExtern (purgeTokenPair C.toExtern w.erc721 pair) a msg.classId w'.erc721 := by
  unfold redeployPair at h
  obtain ⟨-, h⟩ := require_bind_eq_ok.mp h
  obtain ⟨⟨w₁, c, ids⟩, hids, h⟩ := bind_eq_ok.mp h
  obtain ⟨st, hst, h⟩ := bind_eq_ok.mp h
  obtain ⟨pair₁, -, h⟩ := bind_eq_ok.mp h
  cases h
  have hsame : w₁.erc721 = purgeTokenPair C.toExtern w.erc721 pair := by
    rcases @getContractAddressAndTokenIds_cases C { w with erc721 := purgeTokenPair C.toExtern w.erc721 pair } w₁
      msg c ids (mapError_eq_ok.mp hids) with ⟨_, -, -, rfl⟩ | ⟨-, heq, -⟩
    · rfl
    · exact heq
  rw [hsame] at hst
  exact ⟨_, @registers_of_registerNFT C.toExtern _ st
    { msg with evmContractAddress := canonicalContractAddress c, evmTokenIds := ids } (mapError_eq_ok.mp hst)⟩

theorem convertNFT_reregisters {msg : MsgConvertNFT} (hK : msg.classId ≠ []) (h : convertNFT w msg = .ok w') :
    Reregisters C.toExtern w.nft w.erc721 msg.classId w'.erc721 := by
  unfold convertNFT at h
  obtain ⟨-, h⟩ := require_bind_eq_ok.mp h
  obtain ⟨-, h⟩ := require_bind_eq_ok.mp h
  obtain ⟨⟨w₁, c, ids⟩, hids, h⟩ := bind_eq_ok.mp h
  obtain ⟨w₂, hreg, h⟩ := bind_eq_ok.mp h
  obtain ⟨pair, hpair, h⟩ := bind_eq_ok.mp h
  obtain ⟨hclass, h⟩ := require_bind_eq_ok.mp h
  obtain ⟨⟨w₃, pair', msg'⟩, hlive, h⟩ := bind_eq_ok.mp h
  have hsame : SameRegistry w₃.erc721 w'.erc721 := sameRegistry_convertCosmos2Evm h
  rcases getContractAddressAndTokenIds_cases hids with ⟨pair₀, hpair₀, rfl, rfl⟩ | ⟨⟨e, he⟩, hst, hL, a, rfl, hcode⟩
  · -- the class has a pair: nothing is registered, unless the contract has lost its code
    have hw₂ : w₂ = w₁ := by
      unfold ensureRegisteredNFT at hreg
      split at hreg
      · obtain ⟨st, hst, -⟩ := bind_eq_ok.mp hreg
        have hfree := (registers_of_registerNFT hst).class_
        rw [show isClassRegistered w₁.erc721 msg.classId = true from isClassRegistered_of_pair hpair₀] at hfree
        cases hfree
      · cases hreg
        rfl
    subst hw₂
    unfold livePair at hlive
    split at hlive
    · cases hlive
      exact .same hsame
    · obtain ⟨a, hregisters⟩ := redeployPair_registers hlive
      exact .again _ pair a _ (pairById_eq_ok.mp hpair).2 hclass.symm hregisters hsame
  · -- the class is new to the module, and the contract was deployed for it
    unfold ensureRegisteredNFT at hreg
    split at hreg
    · obtain ⟨st, hput, hreg⟩ := bind_eq_ok.mp hreg
      cases hreg
      have hregisters := registers_of_registerNFT hput
      have haddr : hexToAddress (canonicalContractAddress (a.hex C.keccak256)) = a := by
        rw [(hexToAddress_canonical (isHexAddress_hex _ a)).1, hexToAddress_hex]
      rw [hst] at hregisters
      dsimp only at hregisters hpair
      rw [haddr] at hregisters
      obtain rfl := hregisters.store
      have hnew := getPairByClass_putPair hK hpair
      unfold livePair at hlive
      rw [if_pos ?_] at hlive
      · cases hlive
        exact .first a _ hL hregisters hsame
      · show C.evm.hasCode w₁.evm (pair.getERC721Contract) = true
        rw [hnew, getERC721Contract_newTokenPair]
        exact hcode
    · cases hreg
      rw [hst] at hpair
      dsimp only at hpair
      rw [he] at hpair
      cases hpair

theorem convertNFT_registryInv {D : Set GoString} {msg : MsgConvertNFT} (hK : msg.classId ≠ [])
    (hreg : RegistryInv C.toExtern D w.erc721) (hplain : ∀ K, w.nft.hasClass K = true → comma ∉ K)
    (hD : PairsIn D w'.erc721) (h : convertNFT w msg = .ok w') : RegistryInv C.toExtern D w'.erc721 := by
  have hpairs : ∀ {st}, SameRegistry st w'.erc721 → PairsIn D st := by
    intro st hs id pair hget
    rw [← hs.tokenPair] at hget
    exact hD id pair hget
  cases convertNFT_reregisters hK h with
  | same hs => exact hreg.congr hs
  | first a st₁ hclass hput hs =>
    exact (hput.registryInv hreg (hplain _ hclass) hK (hpairs hs)).congr hs
  | again id pair a st₁ hpair hclass hput hs =>
    have hcomma : comma ∉ msg.classId := hclass ▸ (hreg.pair id pair hpair).2.2.2.1
    exact (hput.registryInv (hreg.purge hpair) hcomma hK (hpairs hs)).congr hs

lemma comma_notMem_of_validateDenomID {K : GoString} (h : validateDenomID K = .ok ()) : comma ∉ K := by
  unfold validateDenomID at h
  obtain ⟨-, h⟩ := require_bind_eq_ok.mp h
  exact (require_bind_eq_ok.mp h).1

lemma isIBCDenom_derived (c : GoString) : isIBCDenom (createClassIDFromContractAddress c) = false := by
  have hcons : createClassIDFromContractAddress c = 117 :: (createClassIDFromContractAddress c).tail := rfl
  rw [hcons]
  rfl

lemma RegisteredERC721.comma_notMem {msg : MsgConvertERC721} {K : GoString} (h : RegisteredERC721 w msg w' K) :
    comma ∉ K := by
  obtain ⟨fields, nft, hnft, -⟩ := h.saved
  exact comma_notMem_of_validateDenomID (check_bind_eq_ok.mp hnft).1

lemma ensureRegisteredERC721_registryInv {D : Set GoString} {msg : MsgConvertERC721} {K : GoString}
    (hreg : RegistryInv C.toExtern D w.erc721) (hD : PairsIn D w₁.erc721)
    (h : ensureRegisteredERC721 w msg = .ok (w₁, K)) : RegistryInv C.toExtern D w₁.erc721 := by
  obtain ⟨rfl, -⟩ | reg := ensureRegisteredERC721_cases h
  · exact hreg
  · obtain rfl := reg.derived
    obtain ⟨fields, nft, -, rfl⟩ := reg.saved
    exact hreg.putPair reg.contract_free reg.class_free reg.comma_notMem (isIBCDenom_derived _)
      (List.cons_ne_nil _ _) hD

theorem convertERC721_registryInv {D : Set GoString} {msg : MsgConvertERC721} (hb : isBlank msg.classId = false)
    (hne : msg.evmTokenIds ≠ []) (hreg : RegistryInv C.toExtern D w.erc721)
    (hD : PairsIn D w'.erc721) {res : MsgConvertERC721Response}
    (h : convertERC721 w msg = .ok (w', res)) : RegistryInv C.toExtern D w'.erc721 := by
  obtain ⟨ns, s, w₁, pair, steps, -⟩ := (convertERC721_eq_ok hb hne).mp h
  obtain ⟨w₂, st, -, -, hloop, hsettle, rfl⟩ := convertEvm2Cosmos_eq_ok.mp steps.converted
  have hst : w₂.erc721 = w₁.erc721 := by
    refine @forEach_invariant _ _ _ _ (fun s : World C => s.erc721 = w₁.erc721) _
      (fun s x s' _ hs hstep => ?_) _ _ rfl hloop
    obtain ⟨_, _, _, _, -, -, -, -, rfl⟩ := evm2CosmosRound_eq_ok.mp hstep
    exact hs
  rw [hst] at hsettle
  have hsame := sameRegistry_settleIndex hsettle
  have hD₁ : PairsIn D w₁.erc721 := by
    intro id pair hget
    rw [← hsame.tokenPair] at hget
    exact hD id pair hget
  exact (ensureRegisteredERC721_registryInv hreg hD₁ steps.registered).congr hsame

end Uptick.Erc721
