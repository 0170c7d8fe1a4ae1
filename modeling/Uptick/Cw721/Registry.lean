import Uptick.BoundExists

/-!
# What the store of x/cw721 keeps

Every pair is found under its contract and under its class, the two directions of the index are inverse to each
other, and a refund record is kept under a contract and a token id. Unlike x/erc721, one spelling of a contract is
all there is.
-/

namespace Uptick.Cw721

open Text Outcome Collection

variable {C : Chain} {w w' : World C}

section Store

variable {X : Extern} {P : AccAddress → Prop} {st st' : Store}

/-- The text is the spelling of an account with the property. -/
def Spells (X : Extern) (P : AccAddress → Prop) (c : GoString) : Prop :=
  ∃ acc, X.decodeAcc c = .ok acc ∧ c = X.accString acc ∧ P acc

lemma Spells.key_eq {c : GoString} (h : Spells X P c) : canonicalCW721Key X c = c := by
  obtain ⟨acc, hacc, hc, -⟩ := h
  unfold Extern.decodeAcc at hacc
  unfold canonicalCW721Key
  cases hread : X.accAddressFromBech32 c with
  | error e => simp [hread] at hacc
  | ok a =>
    simp only [hread, Except.ok.injEq] at hacc
    rw [hacc]
    exact hc.symm

/-- A pair that the store has, with its two entries. -/
structure Registered (X : Extern) (P : AccAddress → Prop) (st : Store) (id : GoString) (p : TokenPair) : Prop where
  id_eq : id = p.getID X
  spells : Spells X P p.cw721Address
  nonVoucher : isIBCDenom p.classId = false
  byContract : p.cw721Address ≠ [] → st.tokenPairByCW721.get? p.cw721Address = some id
  byClass : st.tokenPairByClass.get? p.classId = some id

structure StoreInv (X : Extern) (P : AccAddress → Prop) (st : Store) : Prop where
  pair : ∀ id p, st.tokenPair.get? id = some p → Registered X P st id p
  contract : ∀ c id, st.tokenPairByCW721.get? c = some id → Spells X P c
  linked : KVStore.Inverse st.byTokenUID st.byNFTUID
  token : ∀ uid y, st.byTokenUID.get? uid = some y → ∃ c t, Spells X P c ∧ uid = createTokenUID c t
  record : ∀ k a, st.cwAddress.get? k = some a →
    (∃ acc, X.decodeAcc a = .ok acc) ∧ ∃ c t, Spells X P c ∧ t ≠ [] ∧ k = c ++ t

namespace StoreInv

lemma of_empty (hp : st.tokenPair = .empty) (hc : st.tokenPairByCW721 = .empty) (hf : st.byTokenUID = .empty)
    (hr : st.byNFTUID = .empty) (ha : st.cwAddress = .empty) : StoreInv X P st := by
  refine ⟨fun id p hget => ?_, fun c id hget => ?_, fun k v => ?_, fun uid y hget => ?_, fun k a hget => ?_⟩
  · rw [hp] at hget
    cases hget
  · rw [hc] at hget
    cases hget
  · rw [hf, hr]
    simp
  · rw [hf] at hget
    cases hget
  · rw [ha] at hget
    cases hget

lemma of_pairs (h : StoreInv X P st) (hp : st'.tokenPair = st.tokenPair)
    (hc : st'.tokenPairByCW721 = st.tokenPairByCW721) (hk : st'.tokenPairByClass = st.tokenPairByClass)
    (hlinked : KVStore.Inverse st'.byTokenUID st'.byNFTUID)
    (htoken : ∀ uid y, st'.byTokenUID.get? uid = some y → ∃ c t, Spells X P c ∧ uid = createTokenUID c t)
    (hrecord : ∀ k a, st'.cwAddress.get? k = some a →
      (∃ acc, X.decodeAcc a = .ok acc) ∧ ∃ c t, Spells X P c ∧ t ≠ [] ∧ k = c ++ t) :
    StoreInv X P st' := by
  refine ⟨fun id p hget => ?_, fun c id hget => ?_, hlinked, htoken, hrecord⟩
  · rw [hp] at hget
    obtain ⟨hid, hs, hv, hbc, hbk⟩ := h.pair id p hget
    exact ⟨hid, hs, hv, by rw [hc]; exact hbc, hk ▸ hbk⟩
  · rw [hc] at hget
    exact h.contract c id hget

lemma spells_of_getCW721Map (h : StoreInv X P st) {c : GoString}
    (hc : ∃ acc, X.decodeAcc c = .ok acc ∧ c = X.accString acc)
    (hget : getCW721Map X st c ≠ []) : Spells X P c := by
  obtain ⟨acc, hacc, hspell⟩ := hc
  have hkey : canonicalCW721Key X c = c := Spells.key_eq (P := fun _ => True) ⟨acc, hacc, hspell, trivial⟩
  rw [getCW721Map, hkey] at hget
  exact h.contract c _ (KVStore.get?_of_get rfl hget)

lemma putPair (h : StoreInv X P st) {c K : GoString} (hc : Spells X P c) (hK : K ≠ [])
    (hibc : isIBCDenom K = false) (hfree : isCW721Registered X st c = false) (hfree' : isClassRegistered st K = false) :
    StoreInv X P (putPair X st c K) := by
  have hkey := hc.key_eq
  have hcontract : st.tokenPairByCW721.get? c = none := by
    rw [isCW721Registered, hkey] at hfree
    simpa [KVStore.has] using hfree
  have hclass : st.tokenPairByClass.get? K = none := by simpa [isClassRegistered, KVStore.has] using hfree'
  refine ⟨fun id p hget => ?_, fun c' id hget => ?_, h.linked, h.token, h.record⟩
  · simp only [Cw721.putPair, setTokenPair, setClassMap, setCW721Map] at hget
    rcases KVStore.get?_set_eq_some hget with ⟨rfl, rfl⟩ | ⟨-, hold⟩
    · refine ⟨rfl, hc, hibc, fun hne => ?_, ?_⟩
      · simp [Cw721.putPair, setTokenPair, setClassMap, setCW721Map, hkey, KVStore.get?_set _ hne]
      · simp [Cw721.putPair, setTokenPair, setClassMap, setCW721Map, KVStore.get?_set _ hK]
    · obtain ⟨hid, hs, hv, hbc, hbk⟩ := h.pair id p hold
      have hc' : p.cw721Address ≠ [] → p.cw721Address ≠ c := by
        intro hne heq
        have hbc := hbc hne
        rw [heq, hcontract] at hbc
        cases hbc
      have hk' : p.classId ≠ K := by
        intro heq
        rw [heq, hclass] at hbk
        cases hbk
      refine ⟨hid, hs, hv, fun hne => ?_, ?_⟩
      · simp only [Cw721.putPair, setTokenPair, setClassMap, setCW721Map, hkey]
        rw [KVStore.get?_set_of_ne _ _ (hc' hne)]
        exact hbc hne
      · simp only [Cw721.putPair, setTokenPair, setClassMap, setCW721Map]
        rw [KVStore.get?_set_of_ne _ _ hk']
        exact hbk
  · simp only [Cw721.putPair, setTokenPair, setClassMap, setCW721Map, hkey] at hget
    rcases KVStore.get?_set_eq_some hget with ⟨rfl, -⟩ | ⟨-, hold⟩
    · exact hc
    · exact h.contract c' id hold

lemma setNFTPairs (h : StoreInv X P st) {c t K n : GoString} (hspell : Spells X P c)
    (hset : setNFTPairs st c t K n = .ok st') :
    StoreInv X P st' := by
  unfold Cw721.setNFTPairs at hset
  dsimp only at hset
  obtain ⟨hf, hset⟩ := require_bind_eq_ok.mp hset
  obtain ⟨hr, hset⟩ := require_bind_eq_ok.mp hset
  have hc : createTokenUID c t ≠ [] := Erc721.createTokenUID_ne_nil c t
  have hn : createNFTUID K n ≠ [] := createNFTUID_ne_nil K n
  by_cases hfnil : getNFTUIDPairByTokenUID st (createTokenUID c t) = []
  · have hfnone := h.linked.get?_eq_none hfnil
    have hrnil : getTokenUIDPairByNFTUID st (createNFTUID K n) = [] := by
      refine hr.resolve_right fun heq => ?_
      have hstored := (h.linked _ _).mpr (KVStore.get?_of_get heq hc)
      rw [hfnone] at hstored
      cases hstored
    rw [if_pos hfnil, if_pos hrnil, Except.ok.injEq] at hset
    subst hset
    refine h.of_pairs rfl rfl rfl (h.linked.set hc hn hfnone (h.linked.symm.get?_eq_none hrnil)) (fun uid y hget => ?_)
      h.record
    rcases KVStore.get?_set_eq_some hget with ⟨rfl, -⟩ | ⟨-, hold⟩
    · exact ⟨c, t, hspell, rfl⟩
    · exact h.token uid y hold
  · have hrne : getTokenUIDPairByNFTUID st (createNFTUID K n) ≠ [] := by
      intro hrnil
      have hrnone := h.linked.symm.get?_eq_none hrnil
      have hforward := hf.resolve_left hfnil
      have hstored := (h.linked _ _).mp (KVStore.get?_of_get hforward (hforward ▸ hfnil))
      rw [hrnone] at hstored
      cases hstored
    rw [if_neg hfnil, if_neg hrne, Except.ok.injEq] at hset
    exact hset ▸ h

lemma bindPairs (h : StoreInv X P st) {c K : GoString} (hspell : Spells X P c) {ids : List (GoString × GoString)}
    (hbind : bindPairs st c K ids = .ok st') : StoreInv X P st' :=
  forEach_invariant (fun _ _ _ _ hs hstep => hs.setNFTPairs hspell hstep) h hbind

end StoreInv

end Store

/-- The contracts that the wasm module makes or knows have the property. -/
structure Hosts (C : Chain) (P : AccAddress → Prop) : Prop where
  instantiate : ∀ {st sender args c st'}, C.wasm.instantiate st sender args = .ok (c, st') → P c
  contractInfo : ∀ {st c info}, C.wasm.contractInfo st c = .ok info → P c

variable {P : AccAddress → Prop}

lemma deployCW721Contract_spells (hosts : Hosts C P) {K c : GoString} (h : deployCW721Contract w K = .ok (w', c)) :
    Spells C.toExtern P c := by
  unfold deployCW721Contract at h
  obtain ⟨codeID, -, h⟩ := bind_eq_ok.mp h
  split at h
  · cases h
  · obtain ⟨⟨contract, wasm'⟩, hinst, h⟩ := bind_eq_ok.mp h
    cases h
    obtain ⟨hne, hlen, -, -⟩ := C.wasm.instantiate_ok hinst
    exact ⟨contract, C.toExtern.decodeAcc_accString hne hlen, rfl, hosts.instantiate hinst⟩

lemma getContractAddressAndTokenIds_spells (hosts : Hosts C P) {msg : MsgConvertNFT} {c : GoString}
    {ids : List GoString} (h : getContractAddressAndTokenIds w msg = .ok (w', c, ids)) {e : Error}
    (hnone : getPairByClass w.cw721 msg.classId = .error e) : Spells C.toExtern P c := by
  unfold getContractAddressAndTokenIds at h
  rw [hnone] at h
  obtain ⟨_, -, h⟩ := bind_eq_ok.mp h
  obtain ⟨-, h⟩ := require_bind_eq_ok.mp h
  obtain ⟨⟨w₁, c₁⟩, hdeploy, h⟩ := bind_eq_ok.mp h
  cases h
  exact deployCW721Contract_spells hosts hdeploy

lemma ensureRegisteredNFT_storeInv {msg : MsgConvertNFT} (hc : Spells C.toExtern P msg.contractAddress)
    (hinv : StoreInv C.toExtern P w.cw721) (h : ensureRegisteredNFT w msg = .ok w') :
    StoreInv C.toExtern P w'.cw721 := by
  unfold ensureRegisteredNFT at h
  split at h
  · obtain ⟨st, hst, h⟩ := bind_eq_ok.mp h
    cases h
    obtain ⟨hibc, hblank, c, hnorm, rfl, hfree, hfree'⟩ := registerNFT_ok hst
    obtain ⟨acc, hacc, rfl⟩ := normalizeCW721Address_eq_ok.mp hnorm
    obtain ⟨acc', hacc', hspell, hP⟩ := hc
    obtain rfl : acc' = acc := Except.ok.inj (hacc'.symm.trans hacc)
    rw [hspell] at hacc
    exact hinv.putPair ⟨acc', hacc, rfl, hP⟩ (Erc721.ne_nil_of_isBlank hblank) hibc hfree' hfree
  · cases h
    exact hinv

theorem convertNFT_storeInv (hosts : Hosts C P) {msg : MsgConvertNFT} (hinv : StoreInv C.toExtern P w.cw721)
    (h : convertNFT w msg = .ok w') : StoreInv C.toExtern P w'.cw721 := by
  unfold convertNFT at h
  obtain ⟨-, h⟩ := require_bind_eq_ok.mp h
  obtain ⟨-, h⟩ := require_bind_eq_ok.mp h
  obtain ⟨⟨w₀, c, ids⟩, hids, h⟩ := bind_eq_ok.mp h
  obtain ⟨w₁, hreg, h⟩ := bind_eq_ok.mp h
  obtain ⟨pair, hpair, h⟩ := bind_eq_ok.mp h
  obtain ⟨-, h⟩ := require_bind_eq_ok.mp h
  have hinv₁ : StoreInv C.toExtern P w₁.cw721 := by
    rcases getContractAddressAndTokenIds_cases hids with ⟨pair₀, hpair₀, -, rfl⟩ | ⟨⟨e, he⟩, -, hst, -⟩
    · -- the class has a pair, so nothing is registered
      have hmap : getClassMap w₀.cw721 msg.classId ≠ [] := (pairFromID_eq_ok.mp hpair₀).1
      rw [ensureRegisteredNFT, if_neg hmap] at hreg
      cases hreg
      exact hinv
    · rw [← hst] at hinv
      exact @ensureRegisteredNFT_storeInv C w₀ w₁ P { msg with contractAddress := c, tokenIds := ids }
        (getContractAddressAndTokenIds_spells hosts hids he) hinv hreg
  obtain ⟨w₂, st, -, hloop, hbind, rfl⟩ := convertCosmos2Wasm_ok h
  have hfills := cosmos2Wasm_fills hloop
  rw [hfills.cw721] at hbind
  exact hinv₁.bindPairs (hinv₁.pair _ pair (pairFromID_eq_ok.mp hpair).2).spells hbind

/-- A voucher class is not what is left of a class id without the white space around it. -/
lemma isIBCDenom_of_trimSpace {K c : GoString} (h : trimSpace K = createClassIDFromContractAddress c) :
    isIBCDenom K = false := by
  by_contra hibc
  rw [Bool.not_eq_false, isIBCDenom, hasPrefix_iff] at hibc
  obtain ⟨rest, rfl⟩ := hibc
  have hleft : trimLeft (str "ibc/" ++ rest) = 105 :: (str "bc/" ++ rest) := by
    show trimLeft (105 :: (str "bc/" ++ rest)) = _
    simp [trimLeft]
  have hcons : createClassIDFromContractAddress c = 117 :: (createClassIDFromContractAddress c).tail := rfl
  rw [trimSpace, hleft, trimRight, hcons] at h
  split at h <;> cases h

lemma ensureRegisteredCW721_storeInv (hosts : Hosts C P) {msg : MsgConvertCW721} {K : GoString}
    (hb : isBlank msg.classId = false) (hinv : StoreInv C.toExtern P w.cw721)
    (h : ensureRegisteredCW721 w msg = .ok (w', K)) : StoreInv C.toExtern P w'.cw721 := by
  obtain ⟨rfl, -⟩ | ⟨c, reg⟩ := ensureRegisteredCW721_cases h
  · exact hinv
  · obtain ⟨acc, hacc, rfl⟩ := normalizeCW721Address_eq_ok.mp reg.contract_eq
    obtain ⟨contract, info, hdec, hinfo⟩ := reg.hosted
    obtain rfl : contract = acc :=
      Except.ok.inj (hdec.symm.trans (C.toExtern.decodeAcc_accString_of_ok hacc))
    obtain rfl := reg.class_of_given hb
    obtain ⟨fields, nft, -, rfl⟩ := reg.saved
    exact hinv.putPair ⟨contract, hdec, rfl, hosts.contractInfo hinfo⟩ (Erc721.ne_nil_of_isBlank hb)
      (isIBCDenom_of_trimSpace (reg.derived.resolve_left (trimSpace_ne_nil hb))) reg.contract_free reg.class_free

theorem convertCW721_storeInv (hosts : Hosts C P) {msg : MsgConvertCW721} (hmsg : msg.Valid C.toExtern)
    {res : MsgConvertCW721Response} (hinv : StoreInv C.toExtern P w.cw721) (h : convertCW721 w msg = .ok (w', res)) :
    StoreInv C.toExtern P w'.cw721 ∧ isIBCDenom msg.classId = false ∧ Spells C.toExtern P res.contractAddress := by
  obtain ⟨w₁, c, ns, pair, steps, rfl⟩ := convertCW721_steps hmsg h
  have hinv₁ : StoreInv C.toExtern P w₁.cw721 := @ensureRegisteredCW721_storeInv C w w₁ P hosts
    { msg with contractAddress := c, nftIds := ns } _ hmsg.classId hinv steps.registered
  obtain ⟨hid, hget⟩ := pairFromID_eq_ok.mp steps.pair_eq
  obtain ⟨acc, hacc, hspell⟩ := normalizeCW721Address_eq_ok.mp steps.contract_eq
  have hc : Spells C.toExtern P c := by
    refine hinv₁.spells_of_getCW721Map ⟨acc, ?_, hspell⟩ hid
    rw [hspell]
    exact C.toExtern.decodeAcc_accString_of_ok hacc
  obtain ⟨w₂, st, hloop, hbind, rfl⟩ := convertWasm2Cosmos_ok steps.converted
  have hfills := wasm2Cosmos_fills hloop
  rw [hfills.cw721] at hbind
  exact ⟨hinv₁.bindPairs hc hbind, steps.class_eq ▸ (hinv₁.pair _ pair hget).nonVoucher, hc⟩

lemma convertCW721_hasClass {msg : MsgConvertCW721} (hmsg : msg.Valid C.toExtern) {res : MsgConvertCW721Response}
    (h : convertCW721 w msg = .ok (w', res)) : w'.nft.hasClass msg.classId = true := by
  obtain ⟨w₁, c, ns, pair, steps, -⟩ := convertCW721_steps hmsg h
  obtain ⟨w₂, st, hloop, -, rfl⟩ := convertWasm2Cosmos_ok steps.converted
  have hfills := wasm2Cosmos_fills hloop
  obtain ⟨t, ts, hts⟩ := List.exists_cons_of_ne_nil hmsg.nonempty
  have hlen := steps.named.length_eq
  obtain ⟨n, ns', rfl⟩ : ∃ n ns', ns = n :: ns' := by
    cases ns with
    | nil =>
      rw [hts] at hlen
      cases hlen
    | cons n ns' => exact ⟨n, ns', rfl⟩
  have hclass := (hfills.filled n (by simp [hts])).2
  rw [NftLedger.hasClass, hfills.getClass]
  exact hclass

lemma StoreInv.recordRefunds {X : Extern} {st : Store} (h : StoreInv X P st) {c sender : GoString}
    (hc : Spells X P c) (hsender : ∃ acc, X.decodeAcc sender = .ok acc) {ts : List GoString} (hts : ∀ t ∈ ts, t ≠ []) :
    StoreInv X P (recordRefunds st c ts sender) := by
  apply List.foldlRecOn ts _ h
  intro st' h' t ht
  refine h'.of_pairs rfl rfl rfl h'.linked h'.token fun k a hget => ?_
  rcases KVStore.get?_set_eq_some hget with ⟨rfl, rfl⟩ | ⟨-, hold⟩
  · exact ⟨hsender, c, t, hc, hts t ht, rfl⟩
  · exact h'.record k a hold

lemma RefundFound.reverse {K n t c o : GoString} {contract : AccAddress} (found : RefundFound w K n t c contract o) :
    w.cw721.byNFTUID.get? (createNFTUID K n) = some (createTokenUID c t) := by
  obtain ⟨huid, -, -⟩ := Erc721.eq_of_getNFTFromUID found.bound found.contract_ne
  exact KVStore.get?_of_get huid (Erc721.createTokenUID_ne_nil c t)

lemma Refunds.storeInv {K n : GoString} (h : Refunds K w n w') (hinv : StoreInv C.toExtern P w.cw721) :
    StoreInv C.toExtern P w'.cw721 := by
  have hclear : ∀ {t c o : GoString} {contract : AccAddress}, RefundFound w K n t c contract o →
      ∀ wasm, StoreInv C.toExtern P (burnRefunded (cleared w wasm K n t c) K n).cw721 := by
    intro t c o contract found wasm
    have hburn : (burnRefunded (cleared w wasm K n t c) K n).cw721 = clearRefund w.cw721 K n t c := by
      rw [burnRefunded_eq]
      split <;> rfl
    rw [hburn]
    refine hinv.of_pairs rfl rfl rfl ?_ (fun uid y hget => ?_) fun k a hget => ?_
    · exact hinv.linked.delete ((hinv.linked _ _).mpr found.reverse)
    · exact hinv.token uid y (KVStore.get?_delete_eq_some hget).2
    · exact hinv.record k a (KVStore.get?_delete_eq_some hget).2
  cases h with
  | skipped => exact hinv
  | returned found _ _ _ => exact hclear found _
  | dropped found _ => exact hclear found _

lemma MsgTransferCW721.token_ids_ne_nil {X : Extern} {msg : MsgTransferCW721} (h : msg.validateBasic X = .ok ()) :
    ∀ t ∈ msg.cwTokenIds, t ≠ [] := by
  unfold MsgTransferCW721.validateBasic at h
  obtain ⟨-, h⟩ := check_bind_eq_ok.mp h
  obtain ⟨-, h⟩ := check_bind_eq_ok.mp h
  obtain ⟨-, h⟩ := check_bind_eq_ok.mp h
  obtain ⟨-, h⟩ := check_bind_eq_ok.mp h
  obtain ⟨-, h⟩ := require_bind_eq_ok.mp h
  obtain ⟨hids, -⟩ := check_bind_eq_ok.mp h
  exact fun t ht => require_eq_ok.mp (forEach_check_eq_ok.mp hids t ht)

theorem transferCW721_storeInv (hosts : Hosts C P) {msg : MsgTransferCW721} {p : Ibc.Packet}
    (valid : msg.validateBasic C.toExtern = .ok ()) (hinv : StoreInv C.toExtern P w.cw721)
    (h : transferCW721 w msg = .ok (w', p)) :
    StoreInv C.toExtern P w'.cw721 ∧ w'.nft.hasClass p.classId = true ∧ isIBCDenom p.classId = false ∧
      hasPrefix p.classId (C.ics.classPrefix p.sourcePort p.sourceChannel) = false := by
  obtain ⟨w₁, c, res, L, steps⟩ := transferCW721_steps h
  have hmsg := msg.valid_convertMsg valid c
  obtain ⟨hinv₁, hibc, hspells⟩ := convertCW721_storeInv hosts hmsg hinv steps.converted
  obtain ⟨w₂, c', ns, pair, csteps, rfl⟩ := convertCW721_steps hmsg steps.converted
  obtain ⟨acc, hacc, hc⟩ := normalizeCW721Address_eq_ok.mp csteps.contract_eq
  obtain rfl : c' = c := by
    obtain ⟨acc', hacc', rfl⟩ := normalizeCW721Address_eq_ok.mp steps.contract
    rw [hc, show acc = acc' from Except.ok.inj (hacc.symm.trans (C.toExtern.decodeAcc_accString_of_ok hacc'))]
  obtain ⟨⟨hp, hway⟩, _, -, hsent⟩ := C.ics.transfer_ok steps.sent
  have hhas : w₁.nft.hasClass msg.classId = true := convertCW721_hasClass hmsg steps.converted
  have hstore : StoreInv C.toExtern P w'.cw721 := by
    rw [steps.world]
    exact hinv₁.recordRefunds hspells hmsg.sender (msg.token_ids_ne_nil valid)
  have hclass : w'.nft.hasClass msg.classId = true := by
    rw [steps.world]
    exact (hsent.hasClass _).trans hhas
  rcases hway with ⟨-, hpclass, hpre⟩ | ⟨hvoucher, -⟩
  · have hK : p.classId = msg.classId := hpclass
    refine ⟨hstore, ?_, ?_, ?_⟩
    · rw [hK]
      exact hclass
    · rw [hK]
      exact hibc
    · rw [hp, hpclass]
      exact hpre
  · have hfalse : isIBCDenom msg.classId = true := hvoucher
    rw [show isIBCDenom msg.classId = false from hibc] at hfalse
    cases hfalse

end Uptick.Cw721
