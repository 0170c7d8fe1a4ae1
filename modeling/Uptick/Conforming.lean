import Uptick.Authority
import Uptick.Erc721.RefundCustody
import Uptick.Flights

/-!
# Conforming runs

The steps of a run are conforming when its signers hold keys, which the module accounts do not, and when what happens
on the EVM leaves the tokens of the module account alone. In a conforming run that starts without conversions, a bound
NFT and its ERC721 token are never both away from the module account.
-/

namespace Uptick

open Text Numeral Evm Outcome Collection

variable {C : Chain} {w w' : World C}

def Keeps (M : AccAddress) (L L' : NftLedger) : Prop :=
  ∀ K n t, L.held K n = some ⟨t, M⟩ → ∃ t', L'.held K n = some ⟨t', M⟩

namespace Keeps

variable {M : AccAddress} {L L' : NftLedger}

lemma nftOwner (h : Keeps M w.nft w'.nft) (x : GoString × GoString) (hx : Erc721.nftOwner w x = some M) :
    Erc721.nftOwner w' x = some M := by
  rw [Erc721.nftOwner, Option.map_eq_some_iff] at hx
  obtain ⟨⟨t, o⟩, hheld, ho⟩ := hx
  obtain rfl : o = M := ho
  obtain ⟨t', hheld'⟩ := h x.1 x.2 t hheld
  rw [Erc721.nftOwner, hheld']
  rfl

lemma of_nftOwner (h : ∀ x, Erc721.nftOwner w x = some M → Erc721.nftOwner w' x = some M) :
    Keeps M w.nft w'.nft := by
  intro K n t hheld
  have howner := h (K, n) (by simp [Erc721.nftOwner, hheld])
  rw [Erc721.nftOwner, Option.map_eq_some_iff] at howner
  obtain ⟨⟨t', o⟩, hheld', ho⟩ := howner
  obtain rfl : o = M := ho
  exact ⟨t', hheld'⟩

lemma refl (L : NftLedger) : Keeps M L L := fun _ _ t h => ⟨t, h⟩

lemma trans {L'' : NftLedger} (h : Keeps M L L') (h' : Keeps M L' L'') : Keeps M L L'' := by
  intro K n t hheld
  obtain ⟨t', hheld'⟩ := h K n t hheld
  exact h' K n t' hheld'

lemma put {K n : GoString} (hother : ∀ t, L.held K n ≠ some ⟨t, M⟩) (h : Option Held) : Keeps M L (L.put K n h) := by
  intro K' n' t hheld
  by_cases heq : (K', n') = (K, n)
  · cases heq
    exact absurd hheld (hother t)
  · rw [NftLedger.held_put_of_ne _ _ heq]
    exact ⟨t, hheld⟩

lemma touches {K : GoString} {ns : List GoString} (h : Ibc.Touches L L' K ns)
    (hother : ∀ n ∈ ns, ∀ t, L.held K n ≠ some ⟨t, M⟩) : Keeps M L L' := by
  intro K' n t hheld
  by_cases hmem : K' = K ∧ n ∈ ns
  · obtain ⟨rfl, hmem⟩ := hmem
    exact absurd hheld (hother n hmem t)
  · rw [h.held_other K' n hmem]
    exact ⟨t, hheld⟩

lemma sent {converted : GoString → GoString → Bool} {escrow sender : AccAddress} {K : GoString} {ns : List GoString}
    (h : Ibc.Sent converted escrow sender L L' K ns) (hne : sender ≠ M) : Keeps M L L' := by
  apply touches h.toTouches
  intro n hn t hheld
  obtain ⟨_, hsender, -⟩ := h.token n hn
  rw [hheld, Option.some.injEq, Held.mk.injEq] at hsender
  exact hne hsender.2.symm

lemma returned {escrow sender : AccAddress} {K : GoString} {ns : List GoString}
    (h : Ibc.Returned escrow sender L L' K ns) (hne : escrow ≠ M) : Keeps M L L' := by
  apply touches h.toTouches
  intro n hn t hheld
  rcases (h.token n hn).1 with hnone | howner
  · rw [hnone] at hheld
    cases hheld
  · rw [NftLedger.getOwner_of_held hheld] at howner
    exact hne howner.symm

lemma received {escrow : AccAddress} {a : Ibc.Arrival} (h : Ibc.Received escrow L L' a) (hne : escrow ≠ M) :
    Keeps M L L' := by
  intro K n t hheld
  by_cases hmem : K = a.classID ∧ n ∈ a.tokenIDs
  · obtain ⟨rfl, hmem⟩ := hmem
    obtain ⟨-, -, ⟨hnone, -⟩ | ⟨_, hescrow⟩⟩ := h.token n hmem
    · rw [hnone] at hheld
      cases hheld
    · rw [hheld, Option.some.injEq, Held.mk.injEq] at hescrow
      exact absurd hescrow.2.symm hne
  · rw [h.held_other K n hmem]
    exact ⟨t, hheld⟩

end Keeps

lemma CollectionMsg.keeps {msg : CollectionMsg} {L : NftLedger} {M : AccAddress} (h : msg.handle w = .ok L)
    (hsigner : ∀ acc, C.decodeAcc msg.signer = .ok acc → acc ≠ M) : Keeps M w.nft L := by
  have hmine : ∀ {K n : GoString} {sender : AccAddress} {token : NFT}, C.decodeAcc msg.signer = .ok sender →
      w.nft.held K n = some ⟨token, sender⟩ → ∀ t, w.nft.held K n ≠ some ⟨t, M⟩ := by
    intro K n sender token hs hheld t hM
    rw [hheld, Option.some.injEq, Held.mk.injEq] at hM
    exact hsigner sender hs hM.2
  cases msg with
  | issueDenom msg =>
    obtain ⟨sender, -, h⟩ := bind_eq_ok.mp h
    obtain ⟨-, h⟩ := check_bind_eq_ok.mp h
    obtain ⟨-, rfl⟩ := Erc721.saveDenom_eq_ok h
    exact fun _ _ t hheld => ⟨t, hheld⟩
  | mintNFT msg =>
    obtain ⟨_, _, _, -, -, -, -, -, -, -, hnone, rfl⟩ := mintNFT_eq_ok.mp h
    exact .put (fun t => by rw [hnone]; exact nofun) _
  | editNFT msg =>
    obtain ⟨_, _, _, hs, hheld, rfl⟩ := editNFT_eq_ok h
    exact .put (hmine hs hheld) _
  | transferNFT msg =>
    obtain ⟨_, _, hs, -, h⟩ := transferNFT_eq_ok.mp h
    obtain ⟨_, _, _, hheld, -, -, -, rfl⟩ := transferOwnership_eq_ok.mp h
    exact .put (hmine hs hheld) _
  | burnNFT msg =>
    obtain ⟨sender, hs, hnft, howner, -, -, rfl⟩ := burnNFT_eq_ok.mp h
    refine .put (fun t hheld => ?_) _
    rw [NftLedger.getOwner_of_held hheld] at howner
    exact hsigner sender hs howner
  | transferDenom msg =>
    obtain ⟨_, -, h⟩ := bind_eq_ok.mp h
    obtain ⟨_, -, h⟩ := bind_eq_ok.mp h
    obtain ⟨_, -, h⟩ := bind_eq_ok.mp h
    obtain ⟨_, -, h⟩ := bind_eq_ok.mp h
    obtain ⟨-, h⟩ := require_bind_eq_ok.mp h
    obtain ⟨-, rfl⟩ := C.nk.updateClass_eq_ok.mp h
    exact fun _ _ t hheld => ⟨t, hheld⟩

lemma erc721_ne_cw721 : Cw721.accModuleAddress ≠ Erc721.accModuleAddress := by decide

namespace Cw721

lemma convertNFT_keeps {msg : MsgConvertNFT} (valid : msg.validateBasic C.toExtern = .ok ()) {M : AccAddress}
    (hsigner : ∀ acc, C.decodeAcc msg.sender = .ok acc → acc ≠ M) (h : convertNFT w msg = .ok w') :
    Keeps M w.nft w'.nft ∧ w'.erc721 = w.erc721 ∧ w'.evm = w.evm := by
  obtain ⟨hbech, -⟩ := check_bind_eq_ok.mp valid
  obtain ⟨sender, hs⟩ := validateBech32_ok hbech
  obtain ⟨ids, contract, hevm, hrounds, -⟩ := convertNFT_exchange (msg.nftIds_ne_nil valid) hs h
  obtain ⟨w₁, c, ids', steps⟩ := convertNFT_steps h
  obtain ⟨w₂, st, -, hloop, -, rfl⟩ := convertCosmos2Wasm_ok steps.converted
  have hfills := cosmos2Wasm_fills hloop
  refine ⟨.of_nftOwner fun x hx => ?_, hfills.erc721.trans steps.prepares.erc721, hevm⟩
  rcases hrounds.given x with hsame | ⟨hgiven, -⟩
  · rw [hsame]
    exact hx
  · rw [hx] at hgiven
    exact absurd (Option.some.inj hgiven).symm (hsigner sender hs)

lemma convertCW721_keeps {msg : MsgConvertCW721} (hmsg : msg.Valid C.toExtern) {M : AccAddress}
    (hM : accModuleAddress ≠ M) {res : MsgConvertCW721Response} (h : convertCW721 w msg = .ok (w', res)) :
    Keeps M w.nft w'.nft ∧ w'.erc721 = w.erc721 ∧ w'.evm = w.evm := by
  obtain ⟨recipient, hr⟩ := hmsg.receiver
  obtain ⟨contract, ids, -, -, hevm, hrounds⟩ := convertCW721_exchange hmsg hr h
  obtain ⟨w₁, c, ns, pair, steps, -⟩ := convertCW721_steps hmsg h
  obtain ⟨w₂, st, hloop, -, rfl⟩ := convertWasm2Cosmos_ok steps.converted
  have hprep := steps.prepares hmsg.classId
  have hfills := wasm2Cosmos_fills hloop
  refine ⟨.of_nftOwner fun x hx => ?_, hfills.erc721.trans hprep.erc721, hevm⟩
  rcases hrounds.received x with hsame | hnone | ⟨_, o, -, -, ho, hrel⟩
  · rw [hsame]
    exact hx
  · rw [hnone] at hx
    cases hx
  · rw [hx] at ho
    have hcw : o = accModuleAddress := hrel
    exact absurd (hcw.symm.trans (Option.some.inj ho).symm) hM

lemma Refunds.keeps {K n : GoString} {M : AccAddress} (h : Refunds K w n w') (hM : accModuleAddress ≠ M) :
    Keeps M w.nft w'.nft ∧ w'.erc721 = w.erc721 ∧ w'.evm = w.evm := by
  have hburn : ∀ wasm t c, Keeps M w.nft (burnRefunded (cleared w wasm K n t c) K n).nft ∧
      (burnRefunded (cleared w wasm K n t c) K n).erc721 = w.erc721 ∧
      (burnRefunded (cleared w wasm K n t c) K n).evm = w.evm := by
    intro wasm t c
    rw [burnRefunded_eq]
    split
    · next hgood =>
      refine ⟨.put (fun token hheld => ?_) none, rfl, rfl⟩
      have howner : w.nft.getOwner K n = accModuleAddress := hgood.1
      rw [NftLedger.getOwner_of_held hheld] at howner
      exact hM howner.symm
    · exact ⟨.refl _, rfl, rfl⟩
  cases h with
  | skipped => exact ⟨.refl _, rfl, rfl⟩
  | returned => exact hburn _ _ _
  | dropped => exact hburn _ _ _

end Cw721

namespace Erc721

lemma prune_shrinks (X : Extern) (o : GoMap.MapOrder) (st : Store) :
    StoreShrinks st (pruneDuplicateUIDIndexEntries X o st).1 := by
  rw [prune_store]
  refine ⟨fun uid y hget => ?_, fun _ _ => id, fun _ _ => id, fun hexact uid y hget => ?_⟩
  · exact (KVStore.get?_deleteAll_eq_some.mp hget).2
  · exact hexact uid y (KVStore.get?_deleteAll_eq_some.mp hget).2

lemma settleIBCVoucherPairs_eq {D : Set GoString} (h : RegistryInv C.toExtern D w.erc721) :
    (settleIBCVoucherPairs w).world = w := by
  have hpair : ∀ pair ∈ getTokenPairs w.erc721, isIBCDenom pair.classId ≠ true := by
    intro pair hmem
    obtain ⟨⟨id, _⟩, hentry, rfl⟩ := List.mem_map.mp hmem
    simp [(h.pair id _ (KVStore.mem_entries.mp hentry)).2.2.2.2]
  exact @settle_invariant C (fun s => s.world = w) w (fun _ _ pair hmem hibc => absurd hibc (hpair pair hmem))
    (fun _ _ pair hmem hibc => absurd hibc (hpair pair hmem)) rfl

lemma onTimeoutPacket_custody {D : Set GoString} {p : Ibc.Packet} (h : Ibc.onTimeoutPacket w p = .ok w')
    (hp : Ibc.outboundConvertKind C.toExtern p = .erc721 → Ibc.OfClass w p) (hinv : Custody D w) : Custody D w' := by
  have hescrow := C.escrow_ne_erc721 p.sourcePort p.sourceChannel
  have hback : ∀ acc L, C.ics.refund w.nft p acc = .ok L → Custody D { w with nft := L } := by
    intro acc L hL
    have hret := C.ics.refund_ok hL (C.ics.getVoucherClassID_eq _ _)
    refine hinv.moves (hinv.bound.ledger hret.spares) (.refl _) hinv.registry (fun x _ _ => ?_) fun _ => id
    exact @Keeps.nftOwner C w { w with nft := L } _ (Keeps.returned hret hescrow) x
  unfold Ibc.onTimeoutPacket at h
  split at h
  · next hkind =>
    have hclass := hp hkind
    obtain ⟨K, hK, h⟩ := bind_eq_ok.mp h
    obtain ⟨L, hL, h⟩ := bind_eq_ok.mp h
    cases h
    rw [hclass.refundClass, Except.ok.injEq] at hK
    subst hK
    exact refundPacketToken_custody (hinv.bound.plain _ hclass.hasClass) hescrow
      (C.ics.refund_ok hL hclass.voucherClass) hinv
  · obtain ⟨K, -, h⟩ := bind_eq_ok.mp h
    obtain ⟨L, hL, h⟩ := bind_eq_ok.mp h
    cases h
    refine Cw721.refundPacketToken_invariant (fun u n u' _ hu hr => ?_) (hback _ _ hL)
    obtain ⟨hkeeps, hst, hevm⟩ := hr.keeps erc721_ne_cw721
    refine hu.moves (hr.boundInv hu.bound) (hst ▸ .refl _) (hst ▸ hu.registry) (fun x _ _ => hkeeps.nftOwner x)
      fun u howner => ?_
    rw [ercOwner, hevm]
    exact howner
  · obtain ⟨acc, -, h⟩ := bind_eq_ok.mp h
    obtain ⟨L, hL, h⟩ := bind_eq_ok.mp h
    cases h
    exact hback _ _ hL

end Erc721

/-- What is assumed of a step. The set has the texts of all pairs that are ever stored in x/erc721. -/
structure Conforming (D : Set GoString) (s : System C) (op : Op C) (s' : System C) : Prop where
  signer : ∀ text acc, op.signer = some text → C.decodeAcc text = .ok acc →
    evmAddress acc ≠ Erc721.moduleAddress ∧ acc ≠ Cw721.accModuleAddress
  evm : ∀ st, op = .evm st → ∀ c v, C.evm.owner s.world.evm c v = some Erc721.moduleAddress →
    C.evm.owner st c v = some Erc721.moduleAddress
  pairs : Erc721.PairsIn D s'.world.erc721

lemma Conforming.ne_module {D : Set GoString} {s s' : System C} {op : Op C} (h : Conforming D s op s')
    {text : GoString} (hop : op.signer = some text) {acc : AccAddress} (hacc : C.decodeAcc text = .ok acc) :
    acc ≠ Erc721.accModuleAddress := by
  rintro rfl
  exact (h.signer text _ hop hacc).1 rfl

namespace Erc721

variable {D : Set GoString} {s s' : System C} {op : Op C}

structure Safe (D : Set GoString) (s : System C) : Prop where
  custody : Custody D s.world
  flights : ConvertFlights .erc721 s

lemma Custody.native (h : Custody D w) (hbound : BoundInv w') (hst : w'.erc721 = w.erc721) (hevm : w'.evm = w.evm)
    (hkeeps : Keeps accModuleAddress w.nft w'.nft) : Custody D w' := by
  refine h.moves hbound (hst ▸ .refl _) (hst ▸ h.registry) (fun x _ _ => hkeeps.nftOwner x) fun u howner => ?_
  rw [ercOwner, hevm]
  exact howner

lemma ConvertMsg.custody (hinj : Set.InjOn C.tmhash D) {msg : ConvertMsg}
    (valid : msg.validateBasic C.toExtern = .ok ()) (h : msg.handle w = .ok w')
    (hsigner : ∀ acc, C.decodeAcc msg.signer = .ok acc → evmAddress acc ≠ moduleAddress)
    (hD : PairsIn D w'.erc721) (hinv : Custody D w) : Custody D w' := by
  have hne : ∀ acc, C.decodeAcc msg.signer = .ok acc → acc ≠ accModuleAddress := by
    rintro acc hacc rfl
    exact hsigner _ hacc rfl
  have hbound := ConvertMsg.boundInv valid h hinv.bound
  cases msg with
  | convertNFT msg =>
    obtain ⟨hbech, -⟩ := check_bind_eq_ok.mp valid
    obtain ⟨sender, hs⟩ := validateBech32_eq_ok.mp hbech
    exact convertNFT_custody hinj valid hs (hne sender hs) hD h hinv
  | convertERC721 msg =>
    obtain ⟨⟨w₁, res⟩, hrun, rfl⟩ := map_eq_ok.mp h
    have hmsg := MsgConvertERC721.validateBasic_eq_ok.mp valid
    obtain ⟨sender, hs⟩ := hmsg.sender
    exact convertERC721_custody hinj hmsg hs (hsigner sender hs) hD hrun hinv
  | convertNFTToCW721 msg =>
    obtain ⟨hkeeps, hst, hevm⟩ := Cw721.convertNFT_keeps valid hne h
    exact hinv.native hbound hst hevm hkeeps
  | convertCW721 msg =>
    obtain ⟨⟨w₁, res⟩, hrun, rfl⟩ := map_eq_ok.mp h
    obtain ⟨hkeeps, hst, hevm⟩ := Cw721.convertCW721_keeps (Cw721.MsgConvertCW721.valid_of_validateBasic valid)
      erc721_ne_cw721 hrun
    exact hinv.native hbound hst hevm hkeeps

theorem Safe.step (hinj : Set.InjOn C.tmhash D) (hinv : Safe D s) (hstep : Step s op s')
    (hok : Conforming D s op s') : Safe D s' := by
  have hbound := hstep.boundInv hinv.custody.bound
  have hold : ∀ {fl : List Flight}, (∀ f ∈ fl, f ∈ s.flights) → s'.flights = fl → ConvertFlights .erc721 s' :=
    fun hsub hfl => hinv.flights.step hstep fun f hf hnew => absurd (hsub f (hfl ▸ hf)) hnew
  have hcust := hinv.custody
  cases hstep with
  | collection valid h =>
    exact ⟨hcust.native hbound rfl rfl (CollectionMsg.keeps h fun acc hacc => hok.ne_module rfl hacc),
      hold (fun _ => id) rfl⟩
  | convert valid h =>
    exact ⟨ConvertMsg.custody hinj valid h (fun acc hacc => (hok.signer _ acc rfl hacc).1) hok.pairs hcust,
      hold (fun _ => id) rfl⟩
  | @transferERC721 _ _ fl msg p valid h =>
    obtain ⟨_, _, _, sender, steps⟩ := transferERC721_steps h
    obtain ⟨hcust', hclass, hibc, hpre⟩ := transferERC721_custody hinj valid steps.sender_eq
      (hok.signer _ sender rfl steps.sender_eq).1 hok.pairs h hcust
    refine ⟨hcust', hinv.flights.step (.transferERC721 valid h) fun f hf hnew _ => ?_⟩
    obtain rfl : f = ⟨p, msg.cosmosSender⟩ := (List.mem_cons.mp hf).resolve_right hnew
    exact ⟨hclass, hibc, hpre⟩
  | @transferCW721 _ _ fl msg p valid h =>
    obtain ⟨w₁, c, res, L, steps⟩ := Cw721.transferCW721_steps h
    obtain ⟨⟨hp, -⟩, acc, hacc, hsent⟩ := C.ics.transfer_ok steps.sent
    obtain rfl : acc = Cw721.accModuleAddress := Except.ok.inj (hacc.symm.trans (Cw721.decodeAcc_module _))
    obtain ⟨hkeeps, hst, hevm⟩ := Cw721.convertCW721_keeps (msg.valid_convertMsg valid c) erc721_ne_cw721
      steps.converted
    refine ⟨?_, hinv.flights.step (.transferCW721 valid h) fun f hf hnew hkind => ?_⟩
    · rw [steps.world] at hbound ⊢
      exact hcust.native hbound hst hevm (hkeeps.trans (.sent hsent erc721_ne_cw721))
    · obtain rfl : f = ⟨p, msg.cwSender⟩ := (List.mem_cons.mp hf).resolve_right hnew
      exact absurd hkind (Ibc.kind_of_cw721 (by rw [hp]; rfl))
  | @transfer _ fl msg L p h =>
    obtain ⟨⟨hp, -⟩, acc, hacc, hsent⟩ := C.ics.transfer_ok h
    have hne := hok.ne_module rfl hacc
    refine ⟨hcust.native hbound rfl rfl (.sent hsent hne), hinv.flights.step (.transfer h) fun f hf hnew hkind => ?_⟩
    obtain rfl : f = ⟨p, msg.sender⟩ := (List.mem_cons.mp hf).resolve_right hnew
    have hnone : Ibc.outboundConvertKind C.toExtern p = .none :=
      Ibc.kind_of_signer (by rw [hp]; exact hacc) hne (hok.signer _ acc rfl hacc).2
    rw [hnone] at hkind
    cases hkind
  | receive h =>
    exact ⟨hcust.native hbound rfl rfl (Keeps.received h (C.escrow_ne_erc721 _ _)), hold (fun _ => id) rfl⟩
  | deliver h => exact ⟨hcust, hold (fun _ => List.mem_of_mem_erase) rfl⟩
  | refund hf h =>
    exact ⟨onTimeoutPacket_custody h (hinv.flights _ hf) hcust, hold (fun _ => List.mem_of_mem_erase) rfl⟩
  | settle =>
    refine ⟨?_, hold (fun _ => id) rfl⟩
    dsimp only
    rw [settleIBCVoucherPairs_eq hcust.registry]
    exact hcust
  | prune o =>
    refine ⟨hcust.moves hbound (prune_shrinks _ _ _) ?_ (fun _ _ _ => id) fun _ => id, hold (fun _ => id) rfl⟩
    refine hcust.registry.congr ?_
    dsimp only
    rw [prune_store]
    exact ⟨rfl, rfl, rfl⟩
  | purge h =>
    obtain ⟨⟨id, pair⟩, hentry, rfl⟩ := List.mem_map.mp h
    exact ⟨hcust.moves hbound (shrinks_purgeTokenPair _ _ _) (hcust.registry.purge (KVStore.mem_entries.mp hentry))
      (fun _ _ _ h => h) fun _ h => h, hold (fun _ h => h) rfl⟩
  | evm st =>
    exact ⟨hcust.moves hbound (.refl _) hcust.registry (fun _ _ _ => id) fun u => hok.evm st rfl u.1 u.2,
      hold (fun _ => id) rfl⟩
  | wasm st => exact ⟨hcust.native hbound rfl rfl (.refl _), hold (fun _ => id) rfl⟩

structure Unused (s : System C) : Prop where
  erc721 : ∃ b, s.world.erc721 = { Store.empty with enableErc721 := b }
  bound : BoundInv s.world
  flights : ∀ f ∈ s.flights, Ibc.outboundConvertKind C.toExtern f.packet ≠ .erc721

lemma Unused.safe (h : Unused s) : Safe D s := by
  obtain ⟨_, hst⟩ := h.erc721
  refine ⟨⟨h.bound, ?_, ?_, ?_⟩, fun f hf hkind => absurd hkind (h.flights f hf)⟩
  · rw [hst]
    exact .of_empty rfl rfl rfl
  · rw [hst]
    exact .of_empty rfl rfl
  · refine .of_unbound ?_
    rintro x u ⟨-, -, c, -, hget⟩
    rw [hst] at hget
    cases hget

/-- Of the NFT and the token that an entry names, one is with the module account, or the token is burned. -/
def HalfInCustody (w : World C) (y uid : GoString) : Prop :=
  ∃ v, parseEVMTokenID (getNFTFromUID uid).1 = .ok v ∧
    (C.evm.owner w.evm (hexToAddress (getNFTFromUID uid).2) v = some moduleAddress ∨
      C.evm.owner w.evm (hexToAddress (getNFTFromUID uid).2) v = none ∨
      w.nft.getOwner (getNFTFromUID y).2 (getNFTFromUID y).1 = accModuleAddress)

lemma Custody.halfInCustody (h : Custody D w) {y uid : GoString}
    (hentry : w.erc721.byNFTUID.get? y = some uid ∨ w.erc721.byTokenUID.get? uid = some y) : HalfInCustody w y uid := by
  have hget : w.erc721.byNFTUID.get? y = some uid := hentry.elim id (h.index.halfExact uid y)
  obtain ⟨x, u, rfl, -, hbinds⟩ := h.index.reverse y uid hget
  have hcut := (h.bound.erc721 _ _ hget).cut hbinds.1
  obtain ⟨-, hv, c, hc, hget'⟩ := id hbinds
  rw [hget, Option.some.injEq] at hget'
  have hcut' := getNFTFromUID_createTokenUID (text_ne_nil 10 u.2) (ne_nil_of_isHexAddress hc.isHexAddress)
    (comma_notMem_of_isHexAddress hc.isHexAddress)
  rw [HalfInCustody, hcut, hget', hcut', hc.hexToAddress_eq]
  refine ⟨u.2, parseEVMTokenID_of_parse (parse_text hv true), ?_⟩
  by_cases hM : nftOwner w x = some accModuleAddress
  · obtain ⟨held, hheld, howner⟩ := Option.map_eq_some_iff.mp hM
    rw [NftLedger.getOwner_of_held hheld]
    exact .inr (.inr howner)
  · exact .inl (h.locked.locked hbinds hM)

/-- In every conforming run that starts with an empty x/erc721, every entry of the index has one of its halves in
custody. -/
theorem index_halfInCustody (hinj : Set.InjOn C.tmhash D) (hstart : Unused s) (h : Run (Conforming D) s s')
    {y uid : GoString} (hentry : s'.world.erc721.byNFTUID.get? y = some uid ∨
      s'.world.erc721.byTokenUID.get? uid = some y) : HalfInCustody s'.world y uid :=
  (h.invariant (fun _ _ _ hs hstep hok => Safe.step hinj hs hstep hok) hstart.safe).custody.halfInCustody hentry

end Erc721

lemma System.Fresh.unused {s : System C} (h : s.Fresh) : Erc721.Unused s :=
  ⟨h.erc721, h.boundInv, by simp [h.flights]⟩

lemma conforming_of_alice {ops : List (Op Sample.chain)}
    (hsigner : ∀ op ∈ ops, op.signer = some (Sample.accString Sample.alice)) (op : Op Sample.chain) (hop : op ∈ ops)
    (s s' : System Sample.chain) : Conforming Set.univ s op s' := by
  refine ⟨fun text acc htext hacc => ?_, fun st hst => ?_, fun _ _ _ => Set.mem_univ _⟩
  · rw [hsigner op hop, Option.some.injEq] at htext
    subst htext
    obtain rfl : acc = Sample.alice := by
      have hdecode : Sample.chain.decodeAcc (Sample.accString Sample.alice) = .ok Sample.alice :=
        @Extern.decodeAcc_accString Sample.X Sample.alice (by decide) (by decide)
      exact Except.ok.inj (hacc.symm.trans hdecode)
    decide +kernel
  · have hnone := hsigner op hop
    rw [hst] at hnone
    cases hnone

lemma conforming_firstConversion (op : Op Sample.chain) (hop : op ∈ firstConversion) (s s' : System Sample.chain) :
    Conforming Set.univ s op s' :=
  conforming_of_alice (by simp [firstConversion, Op.signer, ConvertMsg.signer, CollectionMsg.signer]) op hop s s'

theorem index_halfInCustody_first : ∃ s s' : System Sample.chain, ∃ y uid, Erc721.Unused s ∧
    Run (Conforming Set.univ) s s' ∧ s'.world.erc721.byNFTUID.get? y = some uid ∧
    Erc721.HalfInCustody s'.world y uid := by
  let s : System Sample.chain := ⟨⟨.empty, .empty, .empty, .empty, .empty⟩, []⟩
  have hfresh : s.Fresh := ⟨⟨true, rfl⟩, ⟨_, _, rfl⟩, rfl, rfl⟩
  obtain ⟨s', hrun⟩ := exists_eq_ok (x := s.execAll firstConversion) (by decide +kernel)
  have h : Run (Conforming Set.univ) s s' := System.run_of_execAll conforming_firstConversion hrun
  have hbound : (s.execAll firstConversion).toOption.any (fun s' =>
      s'.world.erc721.byNFTUID.has (Erc721.createNFTUID (str "kitty") (str "cat1"))) = true := by decide +kernel
  rw [hrun] at hbound
  obtain ⟨uid, hget⟩ := Option.isSome_iff_exists.mp hbound
  exact ⟨s, s', _, uid, hfresh.unused, h, hget,
    Erc721.index_halfInCustody (Sample.tmhash_injective.injOn) hfresh.unused h (.inl hget)⟩

end Uptick
