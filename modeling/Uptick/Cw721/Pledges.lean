import Uptick.Cw721.RefundForgets
import Uptick.Cw721.StoreRun

/-!
# The tokens of a packet in flight

A transfer of x/cw721 leaves each NFT of its packet in escrow, the bound CW721 token at the module account, and a record
that names the signer. Nothing but the return of that packet touches the three: whoever else would move the token must
hold it or the NFT, and no other transfer writes the record.
-/

namespace Uptick.Cw721

open Text Outcome Collection

variable {C : Chain} {w w' : World C} {P : AccAddress → Prop} {e : AccAddress} {sender K n : GoString}
  {contract : AccAddress} {t : GoString}

/-- The NFT is with an account, its token with the module account, and the record of the token names the sender. -/
structure Pledged (w : World C) (e : AccAddress) (sender K n : GoString) (contract : AccAddress) (t : GoString) :
    Prop where
  held : ∃ token, w.nft.held K n = some ⟨token, e⟩
  spelled : C.decodeAcc (C.accString contract) = .ok contract
  bound : w.cw721.byNFTUID.get? (createNFTUID K n) = some (createTokenUID (C.accString contract) t)
  owner : C.wasm.owner w.wasm contract t = some (C.accString accModuleAddress)
  record : w.cw721.cwAddress.get? (C.accString contract ++ t) = some sender

def NoCommas (X : Extern) : Prop := ∀ s acc, X.decodeAcc s = .ok acc → comma ∉ s

lemma Pledged.frame (h : Pledged w e sender K n contract t) (hheld : Keeps e w.nft w'.nft)
    (hbound : ∀ y uid, w.cw721.byNFTUID.get? y = some uid → uid ≠ [] → w'.cw721.byNFTUID.get? y = some uid)
    (howner : C.wasm.owner w'.wasm contract t = some (C.accString accModuleAddress))
    (hrecord : w'.cw721.cwAddress.get? (C.accString contract ++ t) = some sender) :
    Pledged w' e sender K n contract t where
  held := by
    obtain ⟨token, htoken⟩ := h.held
    exact hheld K n token htoken
  spelled := h.spelled
  bound := hbound _ _ h.bound (Erc721.createTokenUID_ne_nil _ _)
  owner := howner
  record := hrecord

lemma StoreInv.spelled_of_uid {X : Extern} {st : Store} (h : StoreInv X P st) (hcommas : NoCommas X)
    {uid y c t : GoString} {contract : AccAddress} (hget : st.byTokenUID.get? uid = some y)
    (hc : X.decodeAcc c = .ok contract) (huid : uid = createTokenUID c t) : c = X.accString contract ∧ P contract := by
  obtain ⟨c', t', ⟨acc, hacc, hspell, hP⟩, huid'⟩ := h.token uid y hget
  obtain ⟨-, rfl⟩ := Erc721.uid_inj (hcommas c contract hc) (hcommas c' acc hacc) (huid.symm.trans huid')
  obtain rfl : acc = contract := Except.ok.inj (hacc.symm.trans hc)
  exact ⟨hspell, hP⟩

lemma Pledged.forward (h : Pledged w e sender K n contract t) (hstore : StoreInv C.toExtern P w.cw721) :
    w.cw721.byTokenUID.get? (createTokenUID (C.accString contract) t) = some (createNFTUID K n) :=
  (hstore.linked _ _).mpr h.bound

lemma Pledged.hosted (h : Pledged w e sender K n contract t) (hstore : StoreInv C.toExtern P w.cw721)
    (hcommas : NoCommas C.toExtern) : P contract :=
  (hstore.spelled_of_uid hcommas (h.forward hstore) h.spelled rfl).2

/-- The keys of two records are equal for one token only, when the addresses are of one length. -/
lemma record_key_inj {X : Extern} {ℓ : Nat} (hlength : ∀ acc, P acc → (X.accString acc).length = ℓ) {a b : AccAddress}
    {t u : GoString} (ha : P a) (hb : P b) (hreada : X.decodeAcc (X.accString a) = .ok a)
    (hreadb : X.decodeAcc (X.accString b) = .ok b) (h : X.accString a ++ t = X.accString b ++ u) : a = b ∧ t = u := by
  obtain ⟨hspell, htail⟩ := List.append_inj h ((hlength a ha).trans (hlength b hb).symm)
  rw [hspell, hreadb, Except.ok.injEq] at hreada
  exact ⟨hreada.symm, htail⟩

lemma setNFTPairs_keeps {st st' : Store} {c t K n : GoString} (h : setNFTPairs st c t K n = .ok st') :
    (∀ y uid, st.byNFTUID.get? y = some uid → uid ≠ [] → st'.byNFTUID.get? y = some uid) ∧
      st'.byNFTUID.get? (createNFTUID K n) = some (createTokenUID c t) ∧ st'.cwAddress = st.cwAddress := by
  unfold setNFTPairs at h
  dsimp only at h
  obtain ⟨-, h⟩ := require_bind_eq_ok.mp h
  obtain ⟨hr, h⟩ := require_bind_eq_ok.mp h
  have hn : createNFTUID K n ≠ [] := createNFTUID_ne_nil K n
  by_cases hnil : getTokenUIDPairByNFTUID st (createNFTUID K n) = []
  · rw [if_pos hnil, Except.ok.injEq] at h
    have hst : st'.byNFTUID = st.byNFTUID.set (createNFTUID K n) (createTokenUID c t) ∧
        st'.cwAddress = st.cwAddress := by
      rw [← h]
      split <;> exact ⟨rfl, rfl⟩
    refine ⟨fun y uid hget hne => ?_, ?_, hst.2⟩
    · have hy : y ≠ createNFTUID K n := by
        rintro rfl
        exact hne ((KVStore.get_of_get? hget).symm.trans hnil)
      rw [hst.1, KVStore.get?_set_of_ne _ _ hy]
      exact hget
    · rw [hst.1, KVStore.get?_set _ hn, if_pos rfl]
  · rw [if_neg hnil, Except.ok.injEq] at h
    have hst : st'.byNFTUID = st.byNFTUID ∧ st'.cwAddress = st.cwAddress := by
      rw [← h]
      split <;> exact ⟨rfl, rfl⟩
    refine ⟨fun y uid hget _ => hst.1 ▸ hget, ?_, hst.2⟩
    rw [hst.1]
    exact KVStore.get?_of_get (hr.resolve_left hnil) (hr.resolve_left hnil ▸ hnil)

lemma bindPairs_keeps {st st' : Store} {c K : GoString} {ids : List (GoString × GoString)}
    (h : bindPairs st c K ids = .ok st') :
    (∀ y uid, st.byNFTUID.get? y = some uid → uid ≠ [] → st'.byNFTUID.get? y = some uid) ∧
      (∀ x ∈ ids, st'.byNFTUID.get? (createNFTUID K x.2) = some (createTokenUID c x.1)) ∧
      st'.cwAddress = st.cwAddress := by
  induction ids generalizing st with
  | nil =>
    cases h
    exact ⟨fun _ _ hget _ => hget, by simp, rfl⟩
  | cons x ids ih =>
    obtain ⟨st₁, hfirst, hrest⟩ := forEach_cons_eq_ok.mp h
    obtain ⟨hkeep₁, hnew, hrecord₁⟩ := setNFTPairs_keeps hfirst
    obtain ⟨hkeep, hall, hrecord⟩ := ih hrest
    refine ⟨fun y uid hget hne => hkeep y uid (hkeep₁ y uid hget hne) hne, fun z hz => ?_, hrecord.trans hrecord₁⟩
    rcases List.mem_cons.mp hz with rfl | hz
    · exact hkeep _ _ hnew (Erc721.createTokenUID_ne_nil _ _)
    · exact hall z hz

lemma convertNFT_hasClass {msg : MsgConvertNFT} (hne : msg.nftIds ≠ []) (h : Cw721.convertNFT w msg = .ok w') :
    w.nft.hasClass msg.classId = true := by
  obtain ⟨w₁, c, ids, steps, hnft⟩ := convertNFT_steps_nft h
  obtain ⟨w₂, st, hlen, hloop, -, -⟩ := convertCosmos2Wasm_ok steps.converted
  have hzip : ids.zip msg.nftIds ≠ [] := by
    intro hnil
    have hlength : (ids.zip msg.nftIds).length = msg.nftIds.length := by
      rw [List.length_zip, show ids.length = msg.nftIds.length from hlen, min_self]
    rw [hnil] at hlength
    exact hne (List.length_eq_zero_iff.mp hlength.symm)
  obtain ⟨x, hx⟩ := List.exists_mem_of_ne_nil _ hzip
  have hfills := cosmos2Wasm_fills hloop
  rw [← hnft]
  exact (hfills.filled x.2 (List.mem_map_of_mem hx)).2

lemma Pledged.convertNFT (h : Pledged w e sender K n contract t) (hstore : StoreInv C.toExtern P w.cw721)
    (hcommas : NoCommas C.toExtern) (hplain : ∀ K, w.nft.hasClass K = true → comma ∉ K) (hK : comma ∉ K)
    {msg : MsgConvertNFT} (valid : msg.validateBasic C.toExtern = .ok ())
    (hsigner : ∀ acc, C.decodeAcc msg.sender = .ok acc → acc ≠ e) (hrun : Cw721.convertNFT w msg = .ok w') :
    Pledged w' e sender K n contract t := by
  obtain ⟨hbech, -⟩ := check_bind_eq_ok.mp valid
  obtain ⟨signer, hs⟩ := validateBech32_ok hbech
  obtain ⟨ids, contract', -, hrounds, -⟩ := convertNFT_exchange (msg.nftIds_ne_nil valid) hs hrun
  obtain ⟨w₁, c, ids', steps, hnft⟩ := convertNFT_steps_nft hrun
  obtain ⟨w₂, st, -, hloop, hbind, rfl⟩ := convertCosmos2Wasm_ok steps.converted
  have hfills := cosmos2Wasm_fills hloop
  obtain ⟨hkeep, -, hrecord⟩ := bindPairs_keeps hbind
  rw [hfills.cw721] at hkeep hrecord
  refine h.frame (convertNFT_keeps valid hsigner hrun).1 (fun y uid hget hne => ?_) ?_ ?_
  · rw [← steps.prepares.byNFTUID] at hget
    exact hkeep y uid hget hne
  · rcases hrounds.received (contract, t) with hsame | hnone | ⟨x, o, hmem, ⟨text, htext, hdecode⟩, -, -⟩
    · exact hsame.trans h.owner
    · have howner : cwOwner w (contract, t) = some (C.accString accModuleAddress) := h.owner
      rw [howner] at hnone
      cases hnone
    · -- the NFT that was given for the token is the one in escrow
      obtain ⟨ids'', hids, hx⟩ := List.mem_map.mp hmem
      obtain ⟨rfl, -⟩ := Prod.mk.inj hx
      obtain ⟨rfl, -⟩ := hstore.spelled_of_uid hcommas htext hdecode rfl
      have huid : createNFTUID msg.classId ids''.2 = createNFTUID K n :=
        Option.some.inj (htext.symm.trans (h.forward hstore))
      have hclass : comma ∉ msg.classId := hplain _ (convertNFT_hasClass (msg.nftIds_ne_nil valid) hrun)
      obtain ⟨hn, hclassId⟩ := Erc721.uid_inj hclass hK huid
      obtain ⟨token, htoken⟩ := h.held
      have hgiven := (hrounds.custody_of_mem hmem).1
      rw [hclassId, hn, Erc721.nftOwner, htoken] at hgiven
      exact absurd (Option.some.inj hgiven).symm (hsigner signer hs)
  · rw [← h.record, ← steps.prepares.cwAddress, ← hrecord]

lemma Pledged.convertCW721 (h : Pledged w e sender K n contract t) (he : accModuleAddress ≠ e)
    {msg : MsgConvertCW721} (hmsg : msg.Valid C.toExtern) {res : MsgConvertCW721Response}
    (hrun : Cw721.convertCW721 w msg = .ok (w', res)) : Pledged w' e sender K n contract t := by
  obtain ⟨recipient, hr⟩ := hmsg.receiver
  obtain ⟨contract', ids, -, -, -, hrounds⟩ := convertCW721_exchange hmsg hr hrun
  obtain ⟨w₁, c, ns, pair, steps, -⟩ := convertCW721_steps hmsg hrun
  obtain ⟨w₂, st, hloop, hbind, rfl⟩ := convertWasm2Cosmos_ok steps.converted
  have hprep := steps.prepares hmsg.classId
  have hfills := wasm2Cosmos_fills hloop
  obtain ⟨hkeep, -, hrecord⟩ := bindPairs_keeps hbind
  rw [hfills.cw721] at hkeep hrecord
  refine h.frame (convertCW721_keeps hmsg he hrun).1 (fun y uid hget hne => ?_) ?_ ?_
  · rw [← hprep.byNFTUID] at hget
    exact hkeep y uid hget hne
  · rcases hrounds.given (contract, t) with hsame | ⟨-, hcustody, -⟩
    · exact hsame.trans h.owner
    · exact hcustody
  · rw [← h.record, ← hprep.cwAddress, ← hrecord]

lemma get?_recordRefunds {st : Store} {c sender k : GoString} {ts : List GoString} (hts : ∀ t ∈ ts, t ≠ []) :
    (recordRefunds st c ts sender).cwAddress.get? k =
      if ∃ t ∈ ts, k = c ++ t then some sender else st.cwAddress.get? k := by
  induction ts generalizing st with
  | nil => simp [recordRefunds]
  | cons t ts ih =>
    have hne : c ++ t ≠ [] := by
      intro hnil
      exact hts t List.mem_cons_self (List.append_eq_nil_iff.mp hnil).2
    rw [recordRefunds, List.foldl_cons]
    have hrest := @ih (setCwAddressByContractTokenId st c t sender) fun t' ht' => hts t' (List.mem_cons_of_mem _ ht')
    rw [recordRefunds] at hrest
    rw [hrest, setCwAddressByContractTokenId, KVStore.get?_set _ hne]
    by_cases hk : k = c ++ t
    · simp [hk]
    · simp [hk]

lemma convertCW721_takes {msg : MsgConvertCW721} (hmsg : msg.Valid C.toExtern) {res : MsgConvertCW721Response}
    (hrun : Cw721.convertCW721 w msg = .ok (w', res)) :
    ∃ contract, C.decodeAcc msg.contractAddress = .ok contract ∧ res.contractAddress = C.accString contract ∧
      (∀ t ∈ msg.tokenIds, C.wasm.owner w.wasm contract t = some msg.sender) ∧
      ∀ n ∈ res.nftIds, ∃ t ∈ msg.tokenIds,
        w'.cw721.byNFTUID.get? (createNFTUID msg.classId n) = some (createTokenUID (C.accString contract) t) ∧
        C.wasm.owner w'.wasm contract t = some (C.accString accModuleAddress) := by
  obtain ⟨recipient, hrecipient⟩ := hmsg.receiver
  obtain ⟨w₁, c, ns, pair, steps, rfl⟩ := convertCW721_steps hmsg hrun
  obtain ⟨contract, hacc, rfl⟩ := normalizeCW721Address_eq_ok.mp steps.contract_eq
  obtain ⟨w₂, st, hloop, hbind, rfl⟩ := convertWasm2Cosmos_ok steps.converted
  have hprep := steps.prepares hmsg.classId
  obtain ⟨-, hrounds⟩ := @wasm2Cosmos_rounds C w₁ w₂
    { msg with contractAddress := C.accString contract, nftIds := ns } contract recipient
    (C.toExtern.decodeAcc_accString_of_ok hacc) hrecipient _
    (fun x hx => by
      obtain ⟨org, hname, -⟩ := steps.named.names hx
      rw [hprep.forward]
      exact hname.bound_eq.imp_right fun h => h.1) hloop
  rw [cwOwner_of_prepares hprep] at hrounds
  obtain ⟨-, hbound, -⟩ := bindPairs_keeps hbind
  have hlen : msg.tokenIds.length = ns.length := steps.named.length_eq
  have hcustody : ∀ x ∈ msg.tokenIds.zip ns, C.wasm.owner w.wasm contract x.1 = some msg.sender ∧
      C.wasm.owner w₂.wasm contract x.1 = some (C.accString accModuleAddress) :=
    fun x hx => hrounds.custody_of_mem (List.mem_map_of_mem hx)
  refine ⟨contract, hacc, rfl, fun t ht => ?_, fun n hn => ?_⟩
  · have hmem : t ∈ (msg.tokenIds.zip ns).map Prod.fst := by
      rw [List.map_fst_zip hlen.le]
      exact ht
    obtain ⟨x, hx, rfl⟩ := List.mem_map.mp hmem
    exact (hcustody x hx).1
  · have hmem : n ∈ (msg.tokenIds.zip ns).map Prod.snd := by
      rw [List.map_snd_zip hlen.ge]
      exact hn
    obtain ⟨x, hx, rfl⟩ := List.mem_map.mp hmem
    exact ⟨x.1, (List.of_mem_zip hx).1, hbound x hx, (hcustody x hx).2⟩

theorem transferCW721_pledges {msg : MsgTransferCW721} {p : Ibc.Packet} (valid : msg.validateBasic C.toExtern = .ok ())
    (hrun : transferCW721 w msg = .ok (w', p)) (hclass : p.classId = msg.classId) :
    ∃ contract, C.decodeAcc msg.cwContractAddress = .ok contract ∧ ∀ n ∈ p.tokenIds, ∃ t ∈ msg.cwTokenIds,
      Pledged w' (C.ics.escrow p.sourcePort p.sourceChannel) msg.cwSender p.classId n contract t := by
  obtain ⟨w₁, c, res, L, steps⟩ := transferCW721_steps hrun
  have hmsg := msg.valid_convertMsg valid c
  obtain ⟨acc, hacc, rfl⟩ := normalizeCW721Address_eq_ok.mp steps.contract
  obtain ⟨contract, hcontract, -, -, htokens⟩ := convertCW721_takes hmsg steps.converted
  obtain rfl : contract = acc :=
    Except.ok.inj (hcontract.symm.trans (C.toExtern.decodeAcc_accString_of_ok hacc))
  obtain ⟨⟨hp, -⟩, signer, -, hsent⟩ := C.ics.transfer_ok steps.sent
  have hids : p.tokenIds = res.nftIds := by
    rw [hp]
    rfl
  have hK : res.classId = msg.classId := by
    obtain ⟨_, _, _, _, -, rfl⟩ := convertCW721_steps hmsg steps.converted
    rfl
  refine ⟨contract, hacc, fun n hn => ?_⟩
  rw [hids] at hn
  obtain ⟨t, ht, hbound, howner⟩ := htokens n hn
  refine ⟨t, ht, ?_⟩
  rw [hclass, steps.world]
  have hconverted : w₁.isConvertedNFT msg.classId n = true := by
    have hget : getNFTPairByClassNFTID w₁.cw721 msg.classId n = createTokenUID (C.accString contract) t :=
      KVStore.get_of_get? hbound
    simp [World.isConvertedNFT, hget, Erc721.createTokenUID_ne_nil]
  have hescrow : C.ics.escrow (msg.ibcMsg C.toExtern res).sourcePort (msg.ibcMsg C.toExtern res).sourceChannel =
      C.ics.escrow p.sourcePort p.sourceChannel := by rw [hp]
  refine ⟨?_, hcontract, ?_, howner, ?_⟩
  · obtain ⟨token, -, hafter | ⟨hfree, -⟩⟩ := hsent.token n hn
    · rw [hescrow] at hafter
      exact ⟨token, hK ▸ hafter⟩
    · have hfalse : w₁.isConvertedNFT res.classId n = false := hfree
      rw [hK, hconverted] at hfalse
      cases hfalse
  · rw [recordRefunds_eq]
    exact hbound
  · dsimp only
    rw [get?_recordRefunds (msg.token_ids_ne_nil valid), if_pos ⟨t, ht, rfl⟩]

/-- The tokens that are pledged are apart from those of another transfer. -/
theorem Pledged.transferCW721 (h : Pledged w e sender K n contract t) (hstore : StoreInv C.toExtern P w.cw721)
    (hcommas : NoCommas C.toExtern) {ℓ : Nat} (hlength : ∀ acc, P acc → (C.accString acc).length = ℓ)
    (hosts : Hosts C P) (he : accModuleAddress ≠ e) {msg : MsgTransferCW721} {p : Ibc.Packet}
    (valid : msg.validateBasic C.toExtern = .ok ())
    (hsigner : ∀ acc, C.decodeAcc msg.cwSender = .ok acc → acc ≠ accModuleAddress)
    (hrun : Cw721.transferCW721 w msg = .ok (w', p)) (hclass : p.classId = msg.classId) :
    Pledged w' e sender K n contract t ∧ (K = p.classId → n ∉ p.tokenIds) := by
  obtain ⟨w₁, c, res, L, steps⟩ := transferCW721_steps hrun
  have hmsg := msg.valid_convertMsg valid c
  have hconv := h.convertCW721 he hmsg steps.converted
  obtain ⟨token, htoken⟩ := hconv.held
  obtain ⟨⟨hp, -⟩, signer, hs, hsent⟩ := C.ics.transfer_ok steps.sent
  obtain rfl : accModuleAddress = signer := Except.ok.inj ((decodeAcc_module C.toExtern).symm.trans hs)
  have hK : res.classId = msg.classId := by
    obtain ⟨_, _, _, _, -, rfl⟩ := convertCW721_steps hmsg steps.converted
    rfl
  constructor
  · rw [steps.world]
    refine hconv.frame (.sent hsent he) (fun y uid hget _ => ?_) hconv.owner ?_
    · rw [recordRefunds_eq]
      exact hget
    · dsimp only
      rw [get?_recordRefunds (msg.token_ids_ne_nil valid), if_neg, hconv.record]
      rintro ⟨t', ht', hkey⟩
      -- the two addresses are of one length, so the token would be one of the message, and the signer's
      obtain ⟨contract', hcontract', hres, htake, -⟩ := convertCW721_takes hmsg steps.converted
      obtain ⟨-, -, hspells⟩ := convertCW721_storeInv hosts hmsg hstore steps.converted
      obtain ⟨acc, hacc, rfl⟩ := normalizeCW721Address_eq_ok.mp steps.contract
      have hread := C.toExtern.decodeAcc_accString_of_ok hacc
      obtain rfl : contract' = acc := Except.ok.inj (hcontract'.symm.trans hread)
      obtain ⟨acc', hacc', -, hP⟩ := hspells
      obtain rfl : contract' = acc' := by
        rw [hres, hread] at hacc'
        exact Except.ok.inj hacc'
      obtain ⟨rfl, rfl⟩ := record_key_inj hlength (h.hosted hstore hcommas) hP h.spelled hread hkey
      have hcwSender : C.accString accModuleAddress = msg.cwSender :=
        Option.some.inj (h.owner.symm.trans (htake t ht'))
      exact hsigner accModuleAddress (hcwSender ▸ decodeAcc_module C.toExtern) rfl
  · rintro rfl hmem
    obtain ⟨_, hheld, -⟩ := hsent.token n (by rw [hp] at hmem; exact hmem)
    have hheld' : w₁.nft.held res.classId n = some ⟨_, accModuleAddress⟩ := hheld
    rw [hK, ← hclass, htoken, Option.some.injEq, Held.mk.injEq] at hheld'
    exact he hheld'.2.symm

lemma Pledged.refunds (h : Pledged w e sender K n contract t) (hstore : StoreInv C.toExtern P w.cw721)
    (hcommas : NoCommas C.toExtern) {ℓ : Nat} (hlength : ∀ acc, P acc → (C.accString acc).length = ℓ)
    (hK : comma ∉ K) {K' m : GoString} (hK' : comma ∉ K') (hne : (K, n) ≠ (K', m)) (hr : Refunds K' w m w') :
    Pledged w' e sender K n contract t := by
  have hkey : createNFTUID K n ≠ createNFTUID K' m := by
    intro heq
    obtain ⟨hn, hKK⟩ := Erc721.uid_inj hK hK' heq
    exact hne (Prod.ext hKK hn)
  have hclear : ∀ {t' c o : GoString} {contract' : AccAddress} {wasm : C.wasm.State},
      RefundFound w K' m t' c contract' o →
      (((contract, t) ≠ (contract', t')) → C.wasm.owner wasm contract t = C.wasm.owner w.wasm contract t) →
      Pledged (burnRefunded (cleared w wasm K' m t' c) K' m) e sender K n contract t := by
    intro t' c o contract' wasm found hwasm
    have hforward := (hstore.linked _ _).mpr found.reverse
    obtain ⟨rfl, hP⟩ := hstore.spelled_of_uid hcommas hforward found.contract_eq rfl
    have hother : (contract, t) ≠ (contract', t') := by
      intro heq
      obtain ⟨rfl, rfl⟩ := Prod.mk.inj heq
      exact hkey (Option.some.inj ((h.forward hstore).symm.trans hforward))
    obtain ⟨-, hst, hwasm', -, hnft⟩ := burnRefunded_frame (cleared w wasm K' m t' (C.accString contract')) K' m
    obtain ⟨token, htoken⟩ := h.held
    refine ⟨⟨token, ?_⟩, h.spelled, ?_, ?_, ?_⟩
    · rcases hnft with hsame | hput
      · rw [hsame]
        exact htoken
      · rw [hput, NftLedger.held_put_of_ne _ _ hne]
        exact htoken
    · rw [hst]
      show (w.cw721.byNFTUID.delete (createNFTUID K' m)).get? (createNFTUID K n) = _
      rw [KVStore.get?_delete, if_neg hkey]
      exact h.bound
    · rw [hwasm']
      exact (hwasm hother).trans h.owner
    · rw [hst]
      show (w.cw721.cwAddress.delete (C.accString contract' ++ t')).get? (C.accString contract ++ t) = _
      rw [KVStore.get?_delete, if_neg]
      · exact h.record
      · intro heq
        obtain ⟨hc, ht⟩ := record_key_inj hlength (h.hosted hstore hcommas) hP h.spelled found.contract_eq heq
        exact hother (Prod.ext hc ht)
  cases hr with
  | skipped => exact h
  | returned found _ _ sent =>
    exact hclear found fun hother => (C.wasm.transferNft_ok sent).2.owner_other contract t hother
  | dropped found _ => exact hclear found fun _ => rfl

end Uptick.Cw721
