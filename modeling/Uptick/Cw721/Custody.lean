import Uptick.Cw721.Pledges

/-!
# Custody in x/cw721

Of a bound NFT and its CW721 token at most one is away from the module account. The index of the module is an exact
inverse of itself, so a token is bound to one NFT only. What the conversions and the refunds do to this invariant.
-/

namespace Uptick.Cw721

open Text Outcome Collection Escrow Exchange

variable {C : Chain} {P : AccAddress → Prop} {w w' : World C}

/-- The reverse index binds the NFT to the token, whose contract it spells as the module does. -/
structure Binds (X : Extern) (st : Store) (x : GoString × GoString) (u : AccAddress × GoString) : Prop where
  plain : comma ∉ x.1
  spelled : X.decodeAcc (X.accString u.1) = .ok u.1
  reverse : st.byNFTUID.get? (createNFTUID x.1 x.2) = some (createTokenUID (X.accString u.1) u.2)

structure Custody (w : World C) : Prop where
  bound : BoundInv w
  store : StoreInv C.toExtern (fun _ => True) w.cw721
  locked : Locked (Binds C.toExtern w.cw721) accModuleAddress (C.accString accModuleAddress) (Erc721.nftOwner w)
    (cwOwner w)

section Index

variable {X : Extern} {st st' : Store} {x : GoString × GoString} {u : AccAddress × GoString}

lemma Binds.forward (h : Binds X st x u) (hst : StoreInv X P st) :
    st.byTokenUID.get? (createTokenUID (X.accString u.1) u.2) = some (createNFTUID x.1 x.2) :=
  (hst.linked _ _).mpr h.reverse

lemma Binds.unique (hst : StoreInv X P st) {x' : GoString × GoString} (h : Binds X st x u) (h' : Binds X st x' u) :
    x = x' := by
  have heq : createNFTUID x.1 x.2 = createNFTUID x'.1 x'.2 :=
    Option.some.inj ((h.forward hst).symm.trans (h'.forward hst))
  obtain ⟨hn, hK⟩ := Erc721.uid_inj h.plain h'.plain heq
  exact Prod.ext hK hn

lemma Binds.token_unique (hcommas : NoCommas X) {u' : AccAddress × GoString} (h : Binds X st x u)
    (h' : Binds X st x u') : u = u' := by
  have heq : createTokenUID (X.accString u.1) u.2 = createTokenUID (X.accString u'.1) u'.2 :=
    Option.some.inj (h.reverse.symm.trans h'.reverse)
  obtain ⟨ht, hc⟩ := Erc721.uid_inj (hcommas _ _ h.spelled) (hcommas _ _ h'.spelled) heq
  have hcontract := h.spelled
  rw [hc, h'.spelled, Except.ok.injEq] at hcontract
  exact Prod.ext hcontract.symm ht

lemma ForwardBinds.binds (hst : StoreInv X P st) (hcommas : NoCommas X) (h : ForwardBinds X st u.1 u.2 x.1 x.2)
    (hK : comma ∉ x.1) : Binds X st x u := by
  obtain ⟨c, hget, hc⟩ := h
  obtain ⟨rfl, -⟩ := hst.spelled_of_uid hcommas hget hc rfl
  exact ⟨hK, hc, (hst.linked _ _).mp hget⟩

/-- What is bound after the writes of a batch: the tokens of the batch, and what was bound before to other NFTs. -/
lemma Binds.of_bindPairs (hcommas : NoCommas X) {contract : AccAddress} {K : GoString} (hK : comma ∉ K)
    (hc : X.decodeAcc (X.accString contract) = .ok contract) {ids : List (GoString × GoString)}
    (hbind : bindPairs st (X.accString contract) K ids = .ok st') (h : Binds X st' x u) :
    (∃ y ∈ ids, x = (K, y.2) ∧ u = (contract, y.1)) ∨ Binds X st x u ∧ ¬ (x.1 = K ∧ x.2 ∈ ids.map Prod.snd) := by
  by_cases hmem : x.1 = K ∧ x.2 ∈ ids.map Prod.snd
  · obtain ⟨hxK, hx⟩ := hmem
    obtain ⟨y, hy, hyx⟩ := List.mem_map.mp hx
    have hx' : x = (K, y.2) := Prod.ext hxK hyx.symm
    have hnew : Binds X st' x (contract, y.1) := by
      refine ⟨h.plain, hc, ?_⟩
      rw [hx']
      exact (bindPairs_keeps hbind).2.1 y hy
    exact .inl ⟨y, hy, hx', h.token_unique hcommas hnew⟩
  · refine .inr ⟨⟨h.plain, h.spelled, ?_⟩, hmem⟩
    rcases reverse_of_bindPairs hbind _ _ h.reverse with hold | ⟨-, n, hn, heq⟩
    · exact hold
    · obtain ⟨hxn, hxK⟩ := Erc721.uid_inj h.plain hK heq
      exact absurd ⟨hxK, hxn ▸ hn⟩ hmem

end Index

lemma nftOwner_ne_none (h : BoundInv w) {x : GoString × GoString} {u : AccAddress × GoString}
    (hb : Binds C.toExtern w.cw721 x u) : Erc721.nftOwner w x ≠ none := by
  have hentry := h.cw721 _ _ hb.reverse
  have hnft := hentry.names
  rw [NamesNFT, hentry.cut hb.plain, NftLedger.hasNFT] at hnft
  rw [Erc721.nftOwner, ne_eq, Option.map_eq_none_iff, ← ne_eq, Option.ne_none_iff_isSome]
  exact hnft

namespace Custody

theorem moves (h : Custody w) (hbound : BoundInv w') (hstore : StoreInv C.toExtern (fun _ => True) w'.cw721)
    (hsub : ∀ x u, Binds C.toExtern w'.cw721 x u → Binds C.toExtern w.cw721 x u)
    (hn : Keeps accModuleAddress w.nft w'.nft)
    (hc : ∀ u, cwOwner w u = some (C.accString accModuleAddress) →
      cwOwner w' u = some (C.accString accModuleAddress)) : Custody w' where
  bound := hbound
  store := hstore
  locked := by
    refine ((h.locked.mono hsub).move_first fun x u hb _ => ⟨?_, hn.nftOwner x⟩).move_second hc
    exact nftOwner_ne_none hbound hb

lemma native (h : Custody w) (hbound : BoundInv w') (hst : w'.cw721 = w.cw721) (hwasm : w'.wasm = w.wasm)
    (hkeeps : Keeps accModuleAddress w.nft w'.nft) : Custody w' := by
  refine h.moves hbound (hst ▸ h.store) (fun x u hb => hst ▸ hb) hkeeps fun u howner => ?_
  rw [cwOwner, hwasm]
  exact howner

end Custody

lemma hosts_any : Hosts C fun _ => True := ⟨fun _ => trivial, fun _ => trivial⟩

structure OutBatch (w w' : World C) (sender : AccAddress) (receiver K : GoString) (contract : AccAddress)
    (ids : List (GoString × GoString)) : Prop where
  spelled : C.decodeAcc (C.accString contract) = .ok contract
  rounds : Rounds (outTerms C.toExtern w.cw721 sender receiver)
    (ids.map fun x => ((K, x.2), (contract, x.1))) (Erc721.nftOwner w) (cwOwner w) (Erc721.nftOwner w') (cwOwner w')
  bound : ∃ st, st.byNFTUID = w.cw721.byNFTUID ∧ bindPairs st (C.accString contract) K ids = .ok w'.cw721

lemma bindPairs_tokenPair {st st' : Store} {c K : GoString} {ids : List (GoString × GoString)}
    (h : bindPairs st c K ids = .ok st') : st'.tokenPair = st.tokenPair := by
  have hstep : ∀ s x s', x ∈ ids → s.tokenPair = st.tokenPair → setNFTPairs s c x.1 K x.2 = .ok s' →
      s'.tokenPair = st.tokenPair := by
    intro s x s' _ hs hset
    unfold setNFTPairs at hset
    dsimp only at hset
    obtain ⟨-, hset⟩ := require_bind_eq_ok.mp hset
    obtain ⟨-, hset⟩ := require_bind_eq_ok.mp hset
    rw [← Except.ok.inj hset, ← hs]
    split <;> split <;> rfl
  exact forEach_invariant hstep rfl h

theorem convertNFT_batch (hosts : Hosts C P) (hinv : StoreInv C.toExtern P w.cw721) {msg : MsgConvertNFT}
    {sender : AccAddress} (hsender : C.decodeAcc msg.sender = .ok sender) (h : convertNFT w msg = .ok w') :
    ∃ contract, ∃ ids : List GoString,
      OutBatch w w' sender msg.receiver msg.classId contract (ids.zip msg.nftIds) := by
  have hinv' := convertNFT_storeInv hosts hinv h
  obtain ⟨w₁, c, ids, steps⟩ := convertNFT_steps h
  obtain ⟨w₂, st, -, hloop, hbind, rfl⟩ := convertCosmos2Wasm_ok steps.converted
  have hfills := cosmos2Wasm_fills hloop
  -- the conversion leaves the pair of the class alone, so it spells the contract as the module does
  obtain ⟨contract, hcontract, rfl, -⟩ : Spells C.toExtern P c := by
    have hget := (pairFromID_eq_ok.mp steps.pair_eq).2
    rw [← hfills.cw721, ← bindPairs_tokenPair hbind] at hget
    exact (hinv'.pair _ _ hget).spells
  obtain ⟨-, hrounds⟩ := @cosmos2Wasm_rounds C w₁ w₂
    { msg with contractAddress := C.accString contract, tokenIds := ids } sender contract hsender hcontract _ hloop
  rw [nftOwner_of_prepares steps.prepares, cwOwner_of_prepares steps.prepares,
    outTerms_of_prepares steps.prepares] at hrounds
  rw [hfills.cw721] at hbind
  exact ⟨contract, ids, hcontract, hrounds, w₁.cw721, steps.prepares.byNFTUID, hbind⟩

lemma Binds.of_byNFTUID_eq {X : Extern} {st st' : Store} (h : st'.byNFTUID = st.byNFTUID) {x : GoString × GoString}
    {u : AccAddress × GoString} (hb : Binds X st' x u) : Binds X st x u :=
  ⟨hb.plain, hb.spelled, h ▸ hb.reverse⟩

theorem convertNFT_custody (hcommas : NoCommas C.toExtern) {msg : MsgConvertNFT}
    (valid : msg.validateBasic C.toExtern = .ok ())
    (hsigner : ∀ acc, C.decodeAcc msg.sender = .ok acc → acc ≠ accModuleAddress) (h : convertNFT w msg = .ok w')
    (hinv : Custody w) : Custody w' := by
  obtain ⟨hbech, -⟩ := check_bind_eq_ok.mp valid
  obtain ⟨sender, hs⟩ := validateBech32_ok hbech
  have hK : comma ∉ msg.classId := hinv.bound.plain _ (convertNFT_hasClass (msg.nftIds_ne_nil valid) h)
  refine ⟨convertNFT_boundInv valid h hinv.bound, convertNFT_storeInv hosts_any hinv.store h, ?_⟩
  obtain ⟨contract, ids, hspelled, hrounds, st, hst, hbind⟩ := convertNFT_batch hosts_any hinv.store hs h
  refine hinv.locked.exchange_first hrounds (hsigner sender hs) (fun _ ho => ho) (fun x u hmem hb => ?_)
    fun x u hb => ?_
  · have hx : x.1 = msg.classId := by
      obtain ⟨y, -, heq⟩ := List.mem_map.mp hmem
      rw [← (Prod.mk.inj heq).1]
    exact ForwardBinds.binds hinv.store hcommas hb (hx ▸ hK)
  · rcases hb.of_bindPairs hcommas hK hspelled hbind with ⟨y, hy, rfl, rfl⟩ | ⟨hold, -⟩
    · exact .inl (List.mem_map_of_mem hy)
    · exact .inr (hold.of_byNFTUID_eq hst)

structure InBatch (w w' : World C) (sender : GoString) (recipient : AccAddress) (K : GoString) (contract : AccAddress)
    (ids : List (GoString × GoString)) : Prop where
  spelled : C.decodeAcc (C.accString contract) = .ok contract
  rounds : Rounds (inTerms C.toExtern w.cw721 sender recipient)
    (ids.map fun x => ((contract, x.1), (K, x.2))) (cwOwner w) (Erc721.nftOwner w) (cwOwner w') (Erc721.nftOwner w')
  bound : ∃ st, st.byNFTUID = w.cw721.byNFTUID ∧ bindPairs st (C.accString contract) K ids = .ok w'.cw721

theorem convertCW721_batch {msg : MsgConvertCW721} (hmsg : msg.Valid C.toExtern) {recipient : AccAddress}
    (hrecipient : C.decodeAcc msg.receiver = .ok recipient) {res : MsgConvertCW721Response}
    (h : convertCW721 w msg = .ok (w', res)) :
    ∃ contract ns, InBatch w w' msg.sender recipient msg.classId contract (msg.tokenIds.zip ns) ∧
      (msg.tokenIds.zip ns).map Prod.snd = ns ∧
      res = ⟨C.accString contract, msg.tokenIds, msg.receiver, msg.sender, msg.classId, ns⟩ := by
  obtain ⟨w₁, c, ns, pair, steps, hres⟩ := convertCW721_steps hmsg h
  obtain ⟨contract, hacc, rfl⟩ := normalizeCW721Address_eq_ok.mp steps.contract_eq
  have hspelled := C.toExtern.decodeAcc_accString_of_ok hacc
  obtain ⟨w₂, st, hloop, hbind, rfl⟩ := convertWasm2Cosmos_ok steps.converted
  have hprep := steps.prepares hmsg.classId
  obtain ⟨hframe, hrounds⟩ := @wasm2Cosmos_rounds C w₁ w₂
    { msg with contractAddress := C.accString contract, nftIds := ns } contract recipient hspelled hrecipient _
    (fun x hx => by
      obtain ⟨org, hname, -⟩ := steps.named.names hx
      rw [hprep.forward]
      exact hname.bound_eq.imp_right fun h => h.1) hloop
  rw [nftOwner_of_prepares hprep, cwOwner_of_prepares hprep, inTerms_of_prepares hprep] at hrounds
  rw [hframe.cw721] at hbind
  exact ⟨contract, ns, ⟨hspelled, hrounds, w₁.cw721, hprep.byNFTUID, hbind⟩,
    List.map_snd_zip steps.named.length_eq.ge, hres⟩

theorem InBatch.locked (hcommas : NoCommas C.toExtern) {sender K : GoString} {recipient contract : AccAddress}
    {ids : List (GoString × GoString)} (batch : InBatch w w' sender recipient K contract ids) (hK : comma ∉ K)
    (hsender : sender ≠ C.accString accModuleAddress) (hinv : Custody w) {f : GoString × GoString → Option AccAddress}
    (hin : ∀ x ∈ ids, f (K, x.2) ≠ none)
    (hout : ∀ x, ¬ (x.1 = K ∧ x.2 ∈ ids.map Prod.snd) → f x = Erc721.nftOwner w' x) :
    Locked (Binds C.toExtern w'.cw721) accModuleAddress (C.accString accModuleAddress) f (cwOwner w') := by
  obtain ⟨st, hst, hbind⟩ := batch.bound
  have hmem : ∀ {t x}, (t, x) ∈ (ids.map fun x => ((contract, x.1), (K, x.2))) → x.1 = K ∧ x.2 ∈ ids.map Prod.snd := by
    intro t x hx
    obtain ⟨y, hy, heq⟩ := List.mem_map.mp hx
    rw [← (Prod.mk.inj heq).2]
    exact ⟨rfl, List.mem_map.mpr ⟨y, hy, rfl⟩⟩
  refine hinv.locked.exchange_second batch.rounds hsender (fun _ ho => ho) (fun x u hb => ?_) (fun u x hx => ?_)
    fun x hx => ?_
  · rcases hb.of_bindPairs hcommas hK batch.spelled hbind with ⟨y, hy, rfl, rfl⟩ | ⟨hold, hother⟩
    · exact .inl (List.mem_map.mpr ⟨y, hy, rfl⟩)
    · exact .inr ⟨hold.of_byNFTUID_eq hst, fun u hu => hother (hmem hu)⟩
  · obtain ⟨y, hy, heq⟩ := List.mem_map.mp hx
    rw [← (Prod.mk.inj heq).2]
    exact hin y hy
  · have hother : ¬ (x.1 = K ∧ x.2 ∈ ids.map Prod.snd) := by
      rintro ⟨hxK, hxn⟩
      obtain ⟨y, hy, hyx⟩ := List.mem_map.mp hxn
      refine hx (contract, y.1) (List.mem_map.mpr ⟨y, hy, ?_⟩)
      rw [hyx, ← hxK]
    rw [hout x hother]
    exact batch.rounds.received_of_notMem hx

theorem convertCW721_custody (hcommas : NoCommas C.toExtern) {msg : MsgConvertCW721}
    (hmsg : msg.Valid C.toExtern)
    (hsigner : ∀ acc, C.decodeAcc msg.sender = .ok acc → acc ≠ accModuleAddress) {res : MsgConvertCW721Response}
    (h : convertCW721 w msg = .ok (w', res)) (hinv : Custody w) : Custody w' := by
  obtain ⟨sender, hs⟩ := hmsg.sender
  obtain ⟨recipient, hr⟩ := hmsg.receiver
  obtain ⟨contract, ns, batch, -⟩ := convertCW721_batch hmsg hr h
  have hbound := convertCW721_boundInv hmsg h hinv.bound
  have hK := hbound.plain _ (convertCW721_hasClass hmsg h)
  refine ⟨hbound, (convertCW721_storeInv hosts_any hmsg hinv.store h).1, ?_⟩
  refine batch.locked hcommas hK (Ibc.accString_ne hs (decodeAcc_module _) (hsigner sender hs)) hinv
    (fun x hx => ?_) fun _ _ => rfl
  have hreceived := batch.rounds.receiver_of_mem (List.mem_map.mpr ⟨x, hx, rfl⟩)
  rw [hreceived]
  exact nofun

theorem transferCW721_custody (hcommas : NoCommas C.toExtern) {msg : MsgTransferCW721}
    (valid : msg.validateBasic C.toExtern = .ok ())
    (hsigner : ∀ acc, C.decodeAcc msg.cwSender = .ok acc → acc ≠ accModuleAddress) {p : Ibc.Packet}
    (h : transferCW721 w msg = .ok (w', p)) (hinv : Custody w) : Custody w' := by
  have hbound := transferCW721_boundInv valid h hinv.bound
  have hstore := (transferCW721_storeInv hosts_any valid hinv.store h).1
  obtain ⟨w₁, c, res, L, steps⟩ := transferCW721_steps h
  have hmsg := msg.valid_convertMsg valid c
  obtain ⟨sender, hs⟩ := hmsg.sender
  obtain ⟨recipient, hr⟩ := hmsg.receiver
  obtain ⟨contract, ns, batch, hns, rfl⟩ := convertCW721_batch hmsg hr steps.converted
  obtain ⟨-, acc, -, hsent⟩ := C.ics.transfer_ok steps.sent
  have hbound₁ := convertCW721_boundInv hmsg steps.converted hinv.bound
  have hK := hbound₁.plain _ (convertCW721_hasClass hmsg steps.converted)
  have hsender := Ibc.accString_ne hs (decodeAcc_module _) (hsigner sender hs)
  refine ⟨hbound, hstore, ?_⟩
  rw [steps.world]
  -- the records are no bindings, and the NFTs of the batch are bound, so they go into escrow
  refine (batch.locked hcommas hK hsender hinv (fun x hx => ?_) fun x hx => ?_).mono
    fun _ _ => Binds.of_byNFTUID_eq (by rw [recordRefunds_eq])
  · obtain ⟨st, -, hbind⟩ := batch.bound
    have hget : getNFTPairByClassNFTID w₁.cw721 msg.classId x.2 = createTokenUID (C.accString contract) x.1 :=
      KVStore.get_of_get? ((bindPairs_keeps hbind).2.1 x hx)
    have hconverted : w₁.isConvertedNFT msg.classId x.2 = true := by
      simp [World.isConvertedNFT, hget, Erc721.createTokenUID_ne_nil]
    obtain ⟨_, -, hafter | ⟨hfree, -⟩⟩ := hsent.token x.2 (List.of_mem_zip hx).2
    · have hheld : L.held msg.classId x.2 = some ⟨_, _⟩ := hafter
      show (L.held msg.classId x.2).map (·.owner) ≠ none
      rw [hheld]
      exact nofun
    · have hfree : w₁.isConvertedNFT msg.classId x.2 = false := hfree
      rw [hconverted] at hfree
      cases hfree
  · rw [hns] at hx
    unfold Erc721.nftOwner
    dsimp only
    rw [hsent.held_other x.1 x.2 hx]

lemma RefundFound.binds {K n t c o : GoString} {contract : AccAddress} (found : RefundFound w K n t c contract o)
    (hcommas : NoCommas C.toExtern) (hK : comma ∉ K) (hst : StoreInv C.toExtern P w.cw721) :
    Binds C.toExtern w.cw721 (K, n) (contract, t) :=
  ForwardBinds.binds hst hcommas ⟨c, (hst.linked _ _).mpr found.reverse, found.contract_eq⟩ hK

theorem Refunds.custody (hcommas : NoCommas C.toExtern) {K n : GoString} (hK : comma ∉ K) (h : Refunds K w n w')
    (hinv : Custody w) : Custody w' := by
  have hbound := h.boundInv hinv.bound
  have hstore := h.storeInv hinv.store
  have hrelease : ∀ {t c o : GoString} {contract : AccAddress} {wasm : C.wasm.State},
      RefundFound w K n t c contract o →
      (∀ u, u ≠ (contract, t) → C.wasm.owner wasm u.1 u.2 = cwOwner w u) →
      w' = burnRefunded (cleared w wasm K n t c) K n → Custody w' := by
    intro t c o contract wasm found hother hw'
    have hb := found.binds hcommas hK hinv.store
    obtain ⟨-, hst, hwasm, -, hnft⟩ := burnRefunded_frame (cleared w wasm K n t c) K n
    rw [← hw'] at hst hwasm hnft
    refine ⟨hbound, hstore, hinv.locked.release hb (fun x u hb' hx hne => ?_) (fun x u hx => ?_) (fun x hne => ?_)
      fun u hne => ?_⟩
    · exact absurd (hx.unique hinv.store hb') hne
    · have hreverse := hx.reverse
      rw [hst] at hreverse
      obtain ⟨hkey, hold⟩ := KVStore.get?_delete_eq_some hreverse
      refine ⟨?_, hx.plain, hx.spelled, hold⟩
      rintro rfl
      exact hkey rfl
    · rcases hnft with hsame | hput
      · rw [Erc721.nftOwner, hsame]
        rfl
      · rw [Erc721.nftOwner, hput, NftLedger.held_put_of_ne _ _ hne]
        rfl
    · rw [cwOwner, hwasm]
      exact hother u hne
  cases h with
  | skipped => exact hinv
  | returned found _ _ sent =>
    exact hrelease found (fun u hne => (C.wasm.transferNft_ok sent).2.owner_other u.1 u.2 hne) rfl
  | dropped found _ => exact hrelease found (fun _ _ => rfl) rfl

end Uptick.Cw721

namespace Uptick.Erc721

open Text Evm Outcome Collection

variable {C : Chain} {w w' : World C} {M : AccAddress}

/-- The account keeps its NFTs, and under a condition its ERC721 tokens; the wasm contracts did nothing. -/
structure Unharmed (M : AccAddress) (E : Prop) (w w' : World C) : Prop where
  nft : Keeps M w.nft w'.nft
  erc : E → ∀ u, ercOwner w u = some (evmAddress M) → ercOwner w' u = some (evmAddress M)
  wasm : w'.wasm = w.wasm

lemma convertNFT_unharmed {msg : MsgConvertNFT} (valid : msg.validateBasic C.toExtern = .ok ())
    (hsigner : ∀ acc, C.decodeAcc msg.cosmosSender = .ok acc → acc ≠ M) (h : convertNFT w msg = .ok w') :
    Unharmed M (evmAddress M ≠ moduleAddress) w w' := by
  obtain ⟨hbech, -⟩ := check_bind_eq_ok.mp valid
  obtain ⟨sender, hs⟩ := validateBech32_eq_ok.mp hbech
  obtain ⟨_, _, _, batch, -⟩ := convertNFT_batch hs h
  exact ⟨.of_nftOwner fun x hx => batch.rounds.given_of_ne hx (hsigner sender hs),
    fun hM u hu => batch.rounds.received_of_not hu fun _ _ _ => hM, batch.wasm⟩

lemma convertERC721_unharmed {msg : MsgConvertERC721} (hb : isBlank msg.classId = false) (hne : msg.evmTokenIds ≠ [])
    {sender recipient : AccAddress} (hs : C.decodeAcc msg.cosmosSender = .ok sender)
    (hr : C.decodeAcc msg.cosmosReceiver = .ok recipient) (hreg : RegistryConsistent C.toExtern w.erc721)
    (hM : accModuleAddress ≠ M) {res : MsgConvertERC721Response} (h : convertERC721 w msg = .ok (w', res)) :
    Unharmed M (evmAddress sender ≠ evmAddress M) w w' := by
  obtain ⟨_, _, _, batch, -, -⟩ := convertERC721_batch hb hne hs hr hreg h
  exact ⟨.of_nftOwner fun x hx => batch.rounds.received_of_not hx fun _ _ _ => hM.symm,
    fun hsigner u hu => batch.rounds.given_of_ne hu hsigner, batch.wasm⟩

lemma transferERC721_unharmed {msg : MsgTransferERC721} {p : Ibc.Packet} (valid : msg.validateBasic C.toExtern = .ok ())
    (hreg : RegistryConsistent C.toExtern w.erc721) (hM : accModuleAddress ≠ M)
    (h : transferERC721 w msg = .ok (w', p)) :
    Unharmed M (∀ acc, C.decodeAcc msg.cosmosSender = .ok acc → evmAddress acc ≠ evmAddress M) w w' := by
  obtain ⟨w₁, res, L, sender, steps⟩ := transferERC721_steps h
  obtain ⟨hb, hne⟩ := msg.classId_and_nonempty valid
  have hconverted := @convertERC721_unharmed C w w₁ M (msg.convertMsg C.toExtern) hb hne sender accModuleAddress
    steps.sender_eq (decodeAcc_module _) hreg hM res steps.converted
  obtain ⟨-, acc, hacc, hsent⟩ := C.ics.transfer_ok steps.sent
  obtain rfl : acc = accModuleAddress := Except.ok.inj (hacc.symm.trans (decodeAcc_module _))
  rw [steps.world]
  exact ⟨hconverted.nft.trans (.sent hsent hM), fun hsigner => hconverted.erc (hsigner sender steps.sender_eq),
    hconverted.wasm⟩

lemma Refunds.unharmed {K n : GoString} (h : Refunds K w n w') (hM : accModuleAddress ≠ M) :
    Unharmed M (evmAddress M ≠ moduleAddress) w w' ∧ w'.cw721 = w.cw721 := by
  have hburn : ∀ evm t c, (evmAddress M ≠ moduleAddress → ∀ u, ercOwner w u = some (evmAddress M) →
        C.evm.owner evm u.1 u.2 = some (evmAddress M)) →
      Unharmed M (evmAddress M ≠ moduleAddress) w (burnRefunded (cleared w evm K n t c) K n) ∧
        (burnRefunded (cleared w evm K n t c) K n).cw721 = w.cw721 := by
    intro evm t c herc
    rw [burnRefunded_eq]
    split
    · next hgood =>
      refine ⟨⟨.put (fun token hheld => ?_) none, herc, rfl⟩, rfl⟩
      have howner : w.nft.getOwner K n = accModuleAddress := hgood.1
      rw [NftLedger.getOwner_of_held hheld] at howner
      exact hM howner.symm
    · exact ⟨⟨.refl _, herc, rfl⟩, rfl⟩
  cases h with
  | skipped => exact ⟨⟨.refl _, fun _ _ => id, rfl⟩, rfl⟩
  | @returned t c v evm found receiver sent =>
    obtain ⟨howner, -, hmoved⟩ := C.evm.safeTransferFrom_ok sent
    refine hburn _ _ _ fun hne u hu => ?_
    by_cases heq : u = (hexToAddress c, v)
    · rw [heq] at hu
      exact absurd (Option.some.inj (hu.symm.trans howner)) hne
    · exact (hmoved.owner_other u.1 u.2 heq).trans hu
  | dropped => exact hburn _ _ _ fun _ _ => id

end Uptick.Erc721
