import Uptick.Cw721.Pledges
import Uptick.RefundForgets

/-!
# Who gets a token back from x/cw721

In a run of conversions and transfers of x/cw721, a packet that comes back returns each of its CW721 tokens to the
signer of the transfer that put it into the packet. The contracts have addresses of one length, so that a record
belongs to one token.
-/

namespace Uptick

/-- The messages of x/cw721 and the packets they send, and what happens around them: the messages of x/collection,
batches of other chains, and what everybody else does with contracts. -/
def Op.OfCw721 {C : Chain} : Op C → Prop
  | .convert (.convertNFTToCW721 _) | .convert (.convertCW721 _) | .transferCW721 _ | .deliver _ | .refund _ => True
  | .collection _ | .receive _ | .evm _ | .wasm _ => True
  | _ => False

end Uptick

namespace Uptick.Cw721

open Text Outcome Collection

variable {C : Chain} {w w' : World C} {P : AccAddress → Prop} {e : AccAddress} {sender K n : GoString} {ℓ : Nat}

lemma Refunds.reverse_none {m : GoString} (hr : Refunds K w m w') {y : GoString}
    (hnone : w.cw721.byNFTUID.get? y = none) : w'.cw721.byNFTUID.get? y = none := by
  have hclear : ∀ wasm t c, (burnRefunded (cleared w wasm K m t c) K m).cw721.byNFTUID.get? y = none := by
    intro wasm t c
    rw [(burnRefunded_frame _ K m).2.1]
    show (w.cw721.byNFTUID.delete (createNFTUID K m)).get? y = none
    rw [KVStore.get?_delete, hnone, ite_self]
  cases hr with
  | skipped => exact hnone
  | returned => exact hclear _ _ _
  | dropped => exact hclear _ _ _

lemma Refunds.skipped_or_cleared {m : GoString} (hr : Refunds K w m w') :
    w' = w ∨ w'.cw721.byNFTUID.get? (createNFTUID K m) = none := by
  have hclear : ∀ wasm t c,
      (burnRefunded (cleared w wasm K m t c) K m).cw721.byNFTUID.get? (createNFTUID K m) = none := by
    intro wasm t c
    rw [(burnRefunded_frame _ K m).2.1]
    show (w.cw721.byNFTUID.delete (createNFTUID K m)).get? (createNFTUID K m) = none
    rw [KVStore.get?_delete, if_pos rfl]
  cases hr with
  | skipped => exact .inl rfl
  | returned => exact .inr (hclear _ _ _)
  | dropped => exact .inr (hclear _ _ _)

/-- The token of a pledged NFT goes to the sender; no other token moves. -/
lemma Refunds.owner_of_pledged {m : GoString} (hr : Refunds K w m w') (hcommas : NoCommas C.toExtern)
    {Q : AccAddress → GoString → Prop}
    (hm : w.cw721.byNFTUID.get? (createNFTUID K m) = none ∨
      ∃ contract t, Q contract t ∧ Pledged w e sender K m contract t) (contract : AccAddress) (t : GoString) :
    C.wasm.owner w'.wasm contract t = C.wasm.owner w.wasm contract t ∨
      C.wasm.owner w'.wasm contract t = some sender ∧ Q contract t := by
  cases hr with
  | skipped => exact .inl rfl
  | dropped =>
    rw [(burnRefunded_frame _ K m).2.2.1]
    exact .inl rfl
  | @returned t' c o contract' wasm found _ _ sent =>
    rw [(burnRefunded_frame _ K m).2.2.1]
    obtain ⟨-, hmoved⟩ := C.wasm.transferNft_ok sent
    by_cases heq : (contract, t) = (contract', t')
    · obtain ⟨rfl, rfl⟩ := Prod.mk.inj heq
      rcases hm with hnone | ⟨contract₀, t₀, hQ, hpledged⟩
      · rw [found.reverse] at hnone
        cases hnone
      · have huid := Option.some.inj (found.reverse.symm.trans hpledged.bound)
        obtain ⟨rfl, rfl⟩ := Erc721.uid_inj (hcommas _ _ found.contract_eq) (hcommas _ _ hpledged.spelled) huid
        obtain rfl : contract₀ = contract :=
          Except.ok.inj (hpledged.spelled.symm.trans found.contract_eq)
        have hreceiver : getCwAddressByContractTokenId w.cw721 (C.accString contract₀) t = sender :=
          KVStore.get_of_get? hpledged.record
        refine .inr ⟨?_, hQ⟩
        rw [← hreceiver]
        exact hmoved.owner_self
    · exact .inl (hmoved.owner_other contract t heq)

/-- What the rounds have done: every NFT of the packet is still pledged or has no entry any more, and a token has
the owner it had or is the sender's. -/
structure Returning (P : AccAddress → Prop) (Q : AccAddress → GoString → Prop) (e : AccAddress) (sender K : GoString)
    (ns : List GoString) (w₀ w : World C) : Prop where
  store : StoreInv C.toExtern P w.cw721
  tokens : ∀ n ∈ ns, w.cw721.byNFTUID.get? (createNFTUID K n) = none ∨
    ∃ contract t, Q contract t ∧ Pledged w e sender K n contract t
  owner : ∀ contract t, C.wasm.owner w.wasm contract t = C.wasm.owner w₀.wasm contract t ∨
    C.wasm.owner w.wasm contract t = some sender ∧ Q contract t

lemma Returning.step {Q : AccAddress → GoString → Prop} {ns : List GoString} {w₀ : World C} {m : GoString}
    (h : Returning P Q e sender K ns w₀ w) (hcommas : NoCommas C.toExtern)
    (hlength : ∀ acc, P acc → (C.accString acc).length = ℓ) (hK : comma ∉ K) (hm : m ∈ ns) (hr : Refunds K w m w') :
    Returning P Q e sender K ns w₀ w' := by
  refine ⟨hr.storeInv h.store, fun n hn => ?_, fun contract t => ?_⟩
  · rcases h.tokens n hn with hnone | ⟨contract, t, hQ, hpledged⟩
    · exact .inl (hr.reverse_none hnone)
    · by_cases hnm : n = m
      · subst hnm
        rcases hr.skipped_or_cleared with rfl | hnone
        · exact .inr ⟨contract, t, hQ, hpledged⟩
        · exact .inl hnone
      · have hne : (K, n) ≠ (K, m) := fun heq => hnm (Prod.mk.inj heq).2
        exact .inr ⟨contract, t, hQ, hpledged.refunds h.store hcommas hlength hK hK hne hr⟩
  · rcases hr.owner_of_pledged hcommas (h.tokens m hm) contract t with hsame | hback
    · rw [hsame]
      exact h.owner contract t
    · exact .inr hback

/-- A refund of pledged NFTs hands tokens to the sender only. -/
theorem refundPacketToken_returning {Q : AccAddress → GoString → Prop} {ns : List GoString}
    (hcommas : NoCommas C.toExtern) (hlength : ∀ acc, P acc → (C.accString acc).length = ℓ) (hK : comma ∉ K)
    (hstore : StoreInv C.toExtern P w.cw721)
    (hns : ∀ n ∈ ns, ∃ contract t, Q contract t ∧ Pledged w e sender K n contract t) :
    Returning P Q e sender K ns w (refundPacketToken w K ns) :=
  refundPacketToken_invariant (I := Returning P Q e sender K ns w)
    (fun _ _ _ hm h hr => h.step hcommas hlength hK hm hr)
    ⟨hstore, fun n hn => .inr (hns n hn), fun _ _ => .inl rfl⟩

lemma Pledged.refundPacketToken {contract : AccAddress} {t : GoString} (h : Pledged w e sender K n contract t)
    (hstore : StoreInv C.toExtern P w.cw721) (hcommas : NoCommas C.toExtern)
    (hlength : ∀ acc, P acc → (C.accString acc).length = ℓ) (hK : comma ∉ K) {K' : GoString} {ns : List GoString}
    (hK' : comma ∉ K') (hne : ∀ m ∈ ns, (K, n) ≠ (K', m)) :
    Pledged (Cw721.refundPacketToken w K' ns) e sender K n contract t :=
  (refundPacketToken_invariant (I := fun u => StoreInv C.toExtern P u.cw721 ∧ Pledged u e sender K n contract t)
    (fun _ m _ hm hu hr => ⟨hr.storeInv hu.1, hu.2.refunds hu.1 hcommas hlength hK hK' (hne m hm) hr⟩) ⟨hstore, h⟩).2

section Runs

variable {s₀ s s' : System C} {op : Op C}

/-- What is assumed of a step. The signers hold keys, which the module account and the escrow accounts do not; what
others do with contracts leaves the tokens of the module account alone; and an NFT in escrow leaves it with its own
packet. -/
structure Orderly (s : System C) (op : Op C) (s' : System C) : Prop where
  kind : op.OfCw721
  signer : ∀ text acc, op.signer = some text → C.decodeAcc text = .ok acc →
    acc ≠ accModuleAddress ∧ ∀ port channel, acc ≠ C.ics.escrow port channel
  wasm : ∀ st, op = .wasm st → ∀ contract t,
    C.wasm.owner s.world.wasm contract t = some (C.accString accModuleAddress) →
    C.wasm.owner st contract t = some (C.accString accModuleAddress)
  arrival : ∀ a, op = .receive a → ∀ f ∈ s.flights, f.packet.classId = a.classID →
    ∀ n ∈ f.packet.tokenIds, n ∉ a.tokenIDs

/-- The transfer put the token into the packet, and the packet has been in flight since. -/
def PutInto (s₀ s : System C) (f : Flight) (msg : MsgTransferCW721) (contract : AccAddress) (t : GoString) : Prop :=
  ∃ u u', Run Orderly s₀ u ∧ Step u (.transferCW721 msg) u' ∧ Orderly u (.transferCW721 msg) u' ∧
    u'.flights = f :: u.flights ∧
    Run (fun v op v' => Orderly v op v' ∧ op ≠ .deliver f ∧ op ≠ .refund f) u' s ∧
    C.decodeAcc msg.cwContractAddress = .ok contract ∧ t ∈ msg.cwTokenIds

variable {f g : Flight} {msg : MsgTransferCW721} {contract : AccAddress} {t : GoString}

lemma PutInto.sender_eq (h : PutInto s₀ s f msg contract t) : f.sender = msg.cwSender := by
  obtain ⟨u, u', -, hstep, -, hflights, -⟩ := h
  cases hstep
  rw [List.cons.injEq] at hflights
  rw [← hflights.1]

lemma PutInto.step (h : PutInto s₀ s f msg contract t) (hstep : Step s op s') (hok : Orderly s op s')
    (hdeliver : op ≠ .deliver f) (hrefund : op ≠ .refund f) : PutInto s₀ s' f msg contract t := by
  obtain ⟨u, u', hbefore, hsend, hsendOk, hflights, hafter, hcontract⟩ := h
  exact ⟨u, u', hbefore, hsend, hsendOk, hflights, hafter.tail ⟨op, hstep, hok, hdeliver, hrefund⟩, hcontract⟩

/-- The account that a packet leaves its NFTs with. -/
def escrowOf (C : Chain) (p : Ibc.Packet) : AccAddress := C.ics.escrow p.sourcePort p.sourceChannel

def Apart (f g : Flight) : Prop :=
  f.packet.classId = g.packet.classId → ∀ n ∈ f.packet.tokenIds, n ∉ g.packet.tokenIds

lemma Apart.symm (h : Apart f g) : Apart g f := fun hclass n hg hf => h hclass.symm n hf hg

lemma Apart.ne (h : Apart f g) {m : GoString} (hm : m ∈ f.packet.tokenIds) (hn : n ∈ g.packet.tokenIds) :
    (g.packet.classId, n) ≠ (f.packet.classId, m) := by
  intro heq
  obtain ⟨hclass, rfl⟩ := Prod.mk.inj heq
  exact h hclass.symm n hm hn

/-- The invariant of a run: every NFT of a packet in flight is pledged to the signer of the transfer. -/
structure InFlight (P : AccAddress → Prop) (s₀ s : System C) : Prop where
  run : Run Orderly s₀ s
  store : StoreInv C.toExtern P s.world.cw721
  bound : BoundInv s.world
  kind : ∀ f ∈ s.flights, Ibc.outboundConvertKind C.toExtern f.packet = .cw721
  ofClass : ∀ f ∈ s.flights, Ibc.OfClass s.world f.packet
  tokens : ∀ f ∈ s.flights, ∀ n ∈ f.packet.tokenIds, ∃ msg contract t, PutInto s₀ s f msg contract t ∧
    Pledged s.world (escrowOf C f.packet) f.sender f.packet.classId n contract t
  apart : s.flights.Pairwise Apart

namespace InFlight

lemma plain (h : InFlight P s₀ s) (hf : f ∈ s.flights) : comma ∉ f.packet.classId :=
  h.bound.plain _ (h.ofClass f hf).hasClass

lemma apart_erase (h : InFlight P s₀ s) (hf : f ∈ s.flights) (hg : g ∈ s.flights.erase f) : Apart f g := by
  have hperm : s.flights.Perm (f :: s.flights.erase f) := List.perm_cons_erase hf
  have hpairwise := (hperm.pairwise_iff Apart.symm).mp h.apart
  exact (List.pairwise_cons.mp hpairwise).1 g hg

lemma stays (h : InFlight P s₀ s) (hstep : Step s op s') (hf : f ∈ s'.flights) (hn : n ∈ f.packet.tokenIds) :
    op ≠ .deliver f ∧ op ≠ .refund f := by
  constructor
  · rintro rfl
    cases hstep with
    | deliver hmem => exact h.apart_erase hmem hf rfl n hn hn
  · rintro rfl
    cases hstep with
    | refund hmem => exact h.apart_erase hmem hf rfl n hn hn

lemma keep (h : InFlight P s₀ s) (hosts : Hosts C P) (hstep : Step s op s') (hok : Orderly s op s')
    (hsub : s'.flights.Sublist s.flights)
    (hpledged : ∀ f ∈ s'.flights, ∀ n ∈ f.packet.tokenIds, ∀ contract t,
      Pledged s.world (escrowOf C f.packet) f.sender f.packet.classId n contract t →
      Pledged s'.world (escrowOf C f.packet) f.sender f.packet.classId n contract t) : InFlight P s₀ s' where
  run := h.run.tail ⟨op, hstep, hok⟩
  store := h.store.step hosts hstep
  bound := hstep.boundInv h.bound
  kind := fun f hf => h.kind f (hsub.subset hf)
  ofClass := fun f hf => by
    obtain ⟨hclass, hibc, hpre⟩ := h.ofClass f (hsub.subset hf)
    exact ⟨hstep.hasClass _ hclass, hibc, hpre⟩
  tokens := fun f hf n hn => by
    obtain ⟨msg, contract, t, hput, hold⟩ := h.tokens f (hsub.subset hf) n hn
    obtain ⟨hdeliver, hrefund⟩ := h.stays hstep hf hn
    exact ⟨msg, contract, t, hput.step hstep hok hdeliver hrefund, hpledged f hf n hn contract t hold⟩
  apart := h.apart.sublist hsub

lemma callback (h : InFlight P s₀ s) (hf : f ∈ s.flights) (hcall : Ibc.onTimeoutPacket s.world f.packet = .ok w') :
    ∃ L, Ibc.Returned (escrowOf C f.packet) accModuleAddress s.world.nft L f.packet.classId f.packet.tokenIds ∧
      w' = Cw721.refundPacketToken { s.world with nft := L } f.packet.classId f.packet.tokenIds := by
  have hclass := h.ofClass f hf
  unfold Ibc.onTimeoutPacket at hcall
  rw [h.kind f hf] at hcall
  obtain ⟨K, hK, hcall⟩ := bind_eq_ok.mp hcall
  obtain ⟨L, hL, hcall⟩ := bind_eq_ok.mp hcall
  obtain rfl : f.packet.classId = K := Except.ok.inj (hclass.refundClass.symm.trans hK)
  exact ⟨L, C.ics.refund_ok hL hclass.voucherClass, (Except.ok.inj hcall).symm⟩

end InFlight

lemma transferCW721_packet (hosts : Hosts C P) {p : Ibc.Packet} (valid : msg.validateBasic C.toExtern = .ok ())
    (hstore : StoreInv C.toExtern P w.cw721) (hrun : transferCW721 w msg = .ok (w', p)) :
    p.classId = msg.classId ∧ Ibc.outboundConvertKind C.toExtern p = .cw721 := by
  obtain ⟨w₁, c, res, L, steps⟩ := transferCW721_steps hrun
  have hmsg := msg.valid_convertMsg valid c
  obtain ⟨-, hibc, -⟩ := convertCW721_storeInv hosts hmsg hstore steps.converted
  obtain ⟨_, _, _, _, -, rfl⟩ := convertCW721_steps hmsg steps.converted
  obtain ⟨⟨hp, hway⟩, -⟩ := C.ics.transfer_ok steps.sent
  constructor
  · rcases hway with ⟨-, hclass, -⟩ | ⟨hvoucher, -⟩
    · exact hclass
    · exact absurd (hibc.symm.trans hvoucher) Bool.false_ne_true
  · have hsender : p.sender = C.accString accModuleAddress := by
      rw [hp]
      rfl
    have hmemo : hasSuffix p.memo transferCW721Memo = true := by
      rw [hp]
      exact List.isSuffixOf_iff_suffix.mpr ⟨msg.memo, rfl⟩
    have herc := Ibc.kind_of_cw721 hsender
    unfold Ibc.outboundConvertKind at herc ⊢
    split
    · next herc' =>
      rw [if_pos herc'] at herc
      exact absurd rfl herc
    · rw [if_pos ⟨hsender, hmemo⟩]

lemma InFlight.transfer (h : InFlight P s₀ s) (hcommas : NoCommas C.toExtern)
    (hlength : ∀ acc, P acc → (C.accString acc).length = ℓ) (hosts : Hosts C P)
    (hstep : Step s (.transferCW721 msg) s') (hok : Orderly s (.transferCW721 msg) s') : InFlight P s₀ s' := by
  have hrun := h.run.tail ⟨_, hstep, hok⟩
  have hstore := h.store.step hosts hstep
  have hbound := hstep.boundInv h.bound
  have hhas := hstep.hasClass
  have hput : ∀ f ∈ s.flights, ∀ msg' contract t, PutInto s₀ s f msg' contract t → PutInto s₀ s' f msg' contract t :=
    fun f _ msg' contract t hf => hf.step hstep hok nofun nofun
  have hsigner : ∀ acc, C.decodeAcc msg.cwSender = .ok acc → acc ≠ accModuleAddress :=
    fun acc hacc => (hok.signer _ acc rfl hacc).1
  have hself := hstep
  cases hstep with
  | @transferCW721 w w' fl _ p valid hcall =>
    obtain ⟨hclass, hkind⟩ := transferCW721_packet hosts valid h.store hcall
    obtain ⟨contract, hcontract, hpledges⟩ := transferCW721_pledges valid hcall hclass
    obtain ⟨-, hhasNew, hibc, hpre⟩ := transferCW721_storeInv hosts valid h.store hcall
    have hother : ∀ f ∈ fl, ∀ n ∈ f.packet.tokenIds, ∀ contract t,
        Pledged w (escrowOf C f.packet) f.sender f.packet.classId n contract t →
        Pledged w' (escrowOf C f.packet) f.sender f.packet.classId n contract t ∧
          (f.packet.classId = p.classId → n ∉ p.tokenIds) :=
      fun f _ n _ contract t hold => hold.transferCW721 h.store hcommas hlength hosts (C.escrow_ne_cw721 _ _).symm valid
        hsigner hcall hclass
    refine ⟨hrun, hstore, hbound, fun f hf => ?_, fun f hf => ?_, fun f hf n hn => ?_, ?_⟩
    · rcases List.mem_cons.mp hf with rfl | hf
      · exact hkind
      · exact h.kind f hf
    · rcases List.mem_cons.mp hf with rfl | hf
      · exact ⟨hhasNew, hibc, hpre⟩
      · obtain ⟨hclass, hibc, hpre⟩ := h.ofClass f hf
        exact ⟨hhas _ hclass, hibc, hpre⟩
    · rcases List.mem_cons.mp hf with rfl | hf
      · obtain ⟨t, ht, hnew⟩ := hpledges n hn
        exact ⟨msg, contract, t, ⟨_, _, h.run, hself, hok, rfl, .refl, hcontract, ht⟩, hnew⟩
      · obtain ⟨msg', contract, t, hput', hold⟩ := h.tokens f hf n hn
        exact ⟨msg', contract, t, hput f hf msg' contract t hput', (hother f hf n hn contract t hold).1⟩
    · refine List.pairwise_cons.mpr ⟨fun f hf => Apart.symm fun hclass n hn => ?_, h.apart⟩
      obtain ⟨msg', contract, t, -, hold⟩ := h.tokens f hf n hn
      exact (hother f hf n hn contract t hold).2 hclass

theorem InFlight.step (h : InFlight P s₀ s) (hcommas : NoCommas C.toExtern)
    (hlength : ∀ acc, P acc → (C.accString acc).length = ℓ) (hosts : Hosts C P) (hstep : Step s op s')
    (hok : Orderly s op s') : InFlight P s₀ s' := by
  have hescrow : ∀ f : Flight, ∀ text acc, op.signer = some text → C.decodeAcc text = .ok acc →
      acc ≠ escrowOf C f.packet := fun f text acc htext hacc => (hok.signer text acc htext hacc).2 _ _
  have hself := hstep
  cases hstep with
  | collection valid hcall =>
    refine h.keep hosts hself hok (.refl _) fun f _ n _ contract t hold => ?_
    have hkeeps := CollectionMsg.keeps hcall fun acc hacc => hescrow f _ acc rfl hacc
    exact hold.frame hkeeps (fun _ _ hget _ => hget) hold.owner hold.record
  | @convert w w' fl msg valid hcall =>
    refine h.keep hosts hself hok (.refl _) fun f hf n _ contract t hold => ?_
    cases msg with
    | convertNFT msg => exact hok.kind.elim
    | convertERC721 msg => exact hok.kind.elim
    | convertNFTToCW721 msg =>
      exact hold.convertNFT h.store hcommas h.bound.plain (h.plain hf) valid (fun acc hacc => hescrow f _ acc rfl hacc)
        hcall
    | convertCW721 msg =>
      obtain ⟨⟨w₁, res⟩, hrun, rfl⟩ := map_eq_ok.mp hcall
      exact hold.convertCW721 (C.escrow_ne_cw721 _ _).symm (MsgConvertCW721.valid_of_validateBasic valid) hrun
  | transferCW721 => exact h.transfer hcommas hlength hosts hself hok
  | receive hcall =>
    refine h.keep hosts hself hok (.refl _) fun f hf n hn contract t hold => ?_
    obtain ⟨token, htoken⟩ := hold.held
    refine ⟨⟨token, ?_⟩, hold.spelled, hold.bound, hold.owner, hold.record⟩
    have hother := hcall.held_other f.packet.classId n fun hmem => hok.arrival _ rfl f hf hmem.1 n hn hmem.2
    exact hother.trans htoken
  | deliver => exact h.keep hosts hself hok List.erase_sublist fun _ _ _ _ _ _ => id
  | @refund w w' fl f hf hcall =>
    obtain ⟨L, hback, rfl⟩ := h.callback hf hcall
    refine h.keep hosts hself hok List.erase_sublist fun g hg n hn contract t hold => ?_
    have hapart := h.apart_erase hf hg
    obtain ⟨token, htoken⟩ := hold.held
    have hreturned : Pledged { w with nft := L } (escrowOf C g.packet) g.sender g.packet.classId n contract t := by
      refine ⟨⟨token, ?_⟩, hold.spelled, hold.bound, hold.owner, hold.record⟩
      have hother := hback.held_other g.packet.classId n fun hmem => hapart.ne hmem.2 hn (by rw [hmem.1])
      exact hother.trans htoken
    exact hreturned.refundPacketToken h.store hcommas hlength (h.plain (List.mem_of_mem_erase hg)) (h.plain hf)
      fun m hm => hapart.ne hm hn
  | evm => exact h.keep hosts hself hok (.refl _) fun _ _ _ _ _ _ hold =>
      ⟨hold.held, hold.spelled, hold.bound, hold.owner, hold.record⟩
  | wasm st => exact h.keep hosts hself hok (.refl _) fun _ _ _ _ contract t hold =>
      ⟨hold.held, hold.spelled, hold.bound, hok.wasm st rfl contract t hold.owner, hold.record⟩
  | transferERC721 | transfer | settle | prune | purge => exact hok.kind.elim

lemma InFlight.of_fresh (h : s₀.Fresh) : InFlight P s₀ s₀ := by
  obtain ⟨hstore, -⟩ : Safe P s₀ := .of_fresh h
  refine ⟨.refl, hstore, h.boundInv, ?_, ?_, ?_, ?_⟩
  all_goals
    rw [h.flights]
    simp

/-- In every run from empty stores, with contracts whose addresses are of one length, the two indexes are inverse to
each other, and a token that a refund hands back goes to the signer of the transfer that put it into the packet. -/
theorem refund_to_sender (hcommas : NoCommas C.toExtern) (hosts : Hosts C fun acc => (C.accString acc).length = ℓ)
    (hfresh : s₀.Fresh) (hrun : Run Orderly s₀ s) :
    KVStore.Inverse s.world.cw721.byTokenUID s.world.cw721.byNFTUID ∧
      ∀ f s', Step s (.refund f) s' → ∀ contract t,
        C.wasm.owner s'.world.wasm contract t ≠ C.wasm.owner s.world.wasm contract t →
        ∃ msg, PutInto s₀ s f msg contract t ∧ C.wasm.owner s'.world.wasm contract t = some msg.cwSender := by
  have hinv : InFlight (fun acc => (C.accString acc).length = ℓ) s₀ s :=
    hrun.invariant (fun _ _ _ h hstep hok => h.step hcommas (fun _ => id) hosts hstep hok) (.of_fresh hfresh)
  refine ⟨hinv.store.linked, fun f s' hstep contract t hmoved => ?_⟩
  cases hstep with
  | @refund w w' fl _ hf hcall =>
    obtain ⟨L, hback, rfl⟩ := hinv.callback hf hcall
    have hpledged : ∀ n ∈ f.packet.tokenIds, ∃ contract t, (∃ msg, PutInto s₀ ⟨w, fl⟩ f msg contract t) ∧
        Pledged { w with nft := L } accModuleAddress f.sender f.packet.classId n contract t := by
      intro n hn
      obtain ⟨msg, contract, t, hput, hold⟩ := hinv.tokens f hf n hn
      obtain ⟨-, hheld⟩ := hback.token n hn
      exact ⟨contract, t, ⟨msg, hput⟩, hheld, hold.spelled, hold.bound, hold.owner, hold.record⟩
    have hreturning := @refundPacketToken_returning C { w with nft := L } _ accModuleAddress f.sender f.packet.classId ℓ
      (fun contract t => ∃ msg, PutInto s₀ ⟨w, fl⟩ f msg contract t) f.packet.tokenIds hcommas (fun _ => id)
      (hinv.plain hf) hinv.store hpledged
    rcases hreturning.owner contract t with hsame | ⟨hsender, msg, hput⟩
    · exact absurd hsame hmoved
    · exact ⟨msg, hput, hput.sender_eq ▸ hsender⟩

end Runs

lemma noCommas_sample : NoCommas Sample.X := by
  intro s acc h
  unfold Extern.decodeAcc at h
  split at h
  · next hread => exact Sample.comma_notMem_of_read hread
  · cases h

/-- Accounts of thirty-two bytes are spelled in one length. -/
lemma length_accString_sample {acc : AccAddress} (h : acc.length = 32) : (Sample.accString acc).length = 65 := by
  unfold Sample.accString
  cases hlookup : Sample.accounts.lookup acc with
  | some text =>
    have hall : ∀ e ∈ Sample.accounts, e.1.length = 32 → e.2.length = 65 := by decide +kernel
    exact hall _ (Sample.mem_of_lookup hlookup) h
  | none =>
    show (Hex.encode acc).length + 1 = 65
    rw [Hex.length_encode, h]

lemma hosts_sample : Hosts Sample.chain fun acc => (Sample.X.accString acc).length = 65 where
  instantiate := by
    intro st sender args c st' h
    simp only [Sample.WasmState.instantiate] at h
    split at h
    · obtain ⟨rfl, -⟩ := Prod.mk.inj (Except.ok.inj h)
      exact length_accString_sample (List.length_replicate ..)
    · cases h
  contractInfo := by
    intro st c info h
    simp only at h
    split at h
    · next hc => exact length_accString_sample hc.2
    · cases h

lemma orderly_of_alice {ops : List (Op Sample.chain)} (hkind : ∀ op ∈ ops, op.OfCw721)
    (hsigner : ∀ op ∈ ops, op.signer = some (Sample.accString Sample.alice)) (op : Op Sample.chain) (hop : op ∈ ops)
    (s s' : System Sample.chain) : Orderly s op s' := by
  have hmessage : op.signer ≠ none := by simp [hsigner op hop]
  refine ⟨hkind op hop, fun text acc htext hacc => ?_, ?_, ?_⟩
  · rw [hsigner op hop, Option.some.injEq] at htext
    subst htext
    obtain rfl : acc = Sample.alice := by
      have hdecode : Sample.chain.decodeAcc (Sample.accString Sample.alice) = .ok Sample.alice :=
        @Extern.decodeAcc_accString Sample.X Sample.alice (by decide) (by decide)
      exact Except.ok.inj (hacc.symm.trans hdecode)
    exact ⟨by decide +kernel, fun port channel => (Sample.escrow_ne_of_head (by decide) (by decide +kernel) _ _).symm⟩
  · rintro st rfl
    exact absurd rfl hmessage
  · rintro a rfl
    exact absurd rfl hmessage

/-- A user wraps an NFT as a CW721 token and sends it away. -/
def wrappedAndSent : List (Op Sample.chain) :=
  firstConversion.take 2 ++
    [.convert (.convertNFTToCW721 ⟨str "kitty", [str "cat1"], Sample.accString Sample.alice,
        Sample.accString Sample.alice, [], []⟩),
      .transferCW721 ⟨Sample.accString (List.replicate 32 0), [str "cat1"], Sample.port, Sample.channel, str "kitty",
        [str "cat1"], Sample.accString Sample.alice, Sample.accString Sample.bob, 0, 0, 1, []⟩]

theorem refund_to_alice : ∃ s₀ s s' : System Sample.chain, ∃ contract t, s₀.Fresh ∧ Run Orderly s₀ s ∧
    Step s (.refund wrappedFlight) s' ∧ KVStore.Inverse s.world.cw721.byTokenUID s.world.cw721.byNFTUID ∧
    ∃ msg, PutInto s₀ s wrappedFlight msg contract t ∧
      Sample.chain.wasm.owner s'.world.wasm contract t = some msg.cwSender := by
  obtain ⟨s, hrun⟩ := exists_eq_ok (x := withCode.execAll wrappedAndSent) (by decide +kernel)
  have horderly : Run Orderly withCode s := System.run_of_execAll (orderly_of_alice
    (by simp [wrappedAndSent, firstConversion, Op.OfCw721])
    (by simp [wrappedAndSent, firstConversion, Op.signer, ConvertMsg.signer, CollectionMsg.signer])) hrun
  have hmoved : (withCode.execAll wrappedAndSent).toOption.any (fun s => (s.exec (.refund wrappedFlight)).toOption.any
      fun s' => decide (Sample.chain.wasm.owner s'.world.wasm (List.replicate 32 0) (str "cat1") ≠
        Sample.chain.wasm.owner s.world.wasm (List.replicate 32 0) (str "cat1"))) = true := by decide +kernel
  rw [hrun] at hmoved
  cases hcall : s.exec (.refund wrappedFlight) with
  | error e =>
    simp only [Except.toOption, Option.any, hcall] at hmoved
    cases hmoved
  | ok s' =>
    simp only [Except.toOption, Option.any, hcall] at hmoved
    have hstep := System.step_of_exec hcall
    obtain ⟨hinverse, hback⟩ := refund_to_sender noCommas_sample hosts_sample withCode_fresh horderly
    exact ⟨withCode, s, s', List.replicate 32 0, str "cat1", withCode_fresh, horderly, hstep, hinverse,
      hback wrappedFlight s' hstep _ _ (of_decide_eq_true hmoved)⟩

end Uptick.Cw721
