import Uptick.Ibc.Middleware
import Uptick.RefundForgets
import Uptick.Writes

/-!
# One refund for each packet

Whatever the other chain answers, the NFTs of a packet come back once, by the keeper of x/evmibc for a convert packet
and by nft-transfer for any other, and `RefundPacketToken` is told the class they came back to. The last needs that no
class of this chain is named like the path of a voucher, which holds in every run.
-/

namespace Uptick

open Text Outcome Collection

variable {C : Chain}

/-- Every class has a name that a denom may have, or the name of a voucher class. -/
def NamedClasses (L : NftLedger) : Prop :=
  ∀ K, L.hasClass K = true → validateDenomID K = .ok () ∨ isIBCDenom K = true

namespace NamedClasses

variable {L L' : NftLedger}

lemma congr (h : NamedClasses L) (hclass : L'.getClass = L.getClass) : NamedClasses L' := by
  intro K hK
  rw [NftLedger.hasClass, hclass] at hK
  exact h K hK

lemma putClass (h : NamedClasses L) {K : GoString} (hK : L.hasClass K = true ∨ validateDenomID K = .ok ())
    (cl : Collection.Class) : NamedClasses (L.putClass K cl) := by
  intro K' hK'
  by_cases heq : K' = K
  · subst heq
    rcases hK with hold | hvalid
    · exact h K' hold
    · exact .inl hvalid
  · simp only [NftLedger.hasClass, NftLedger.putClass, if_neg heq] at hK'
    exact h K' hK'

lemma saveDenom (h : NamedClasses L) {id : GoString} {f : DenomFields} {creator : AccAddress}
    (hsave : saveDenom C.toExtern C.nk L id f creator = .ok L') : NamedClasses L' := by
  obtain ⟨hid, -⟩ := check_bind_eq_ok.mp hsave
  obtain ⟨-, rfl⟩ := Erc721.saveDenom_eq_ok hsave
  exact h.putClass (.inr hid) _

lemma message {w : World C} {msg : CollectionMsg} (h : NamedClasses w.nft) (hrun : msg.handle w = .ok L') :
    NamedClasses L' := by
  cases msg with
  | issueDenom msg =>
    obtain ⟨sender, -, hrun⟩ := bind_eq_ok.mp hrun
    obtain ⟨-, hrun⟩ := check_bind_eq_ok.mp hrun
    exact h.saveDenom hrun
  | mintNFT msg =>
    obtain ⟨_, _, _, -, -, -, -, -, -, -, -, rfl⟩ := mintNFT_eq_ok.mp hrun
    exact h.congr rfl
  | editNFT msg =>
    obtain ⟨_, _, _, -, -, rfl⟩ := editNFT_eq_ok hrun
    exact h.congr rfl
  | transferNFT msg =>
    obtain ⟨_, _, -, -, hrun⟩ := transferNFT_eq_ok.mp hrun
    obtain ⟨_, _, _, -, -, -, -, rfl⟩ := transferOwnership_eq_ok.mp hrun
    exact h.congr rfl
  | burnNFT msg =>
    obtain ⟨_, -, -, -, -, -, rfl⟩ := burnNFT_eq_ok.mp hrun
    exact h.congr rfl
  | transferDenom msg =>
    obtain ⟨_, -, hrun⟩ := bind_eq_ok.mp hrun
    obtain ⟨_, -, hrun⟩ := bind_eq_ok.mp hrun
    obtain ⟨_, -, hrun⟩ := bind_eq_ok.mp hrun
    obtain ⟨_, -, hrun⟩ := bind_eq_ok.mp hrun
    obtain ⟨-, hrun⟩ := require_bind_eq_ok.mp hrun
    obtain ⟨hclass, rfl⟩ := C.nk.updateClass_eq_ok.mp hrun
    exact h.putClass (.inl hclass) _

lemma write {R : GoString → GoString → TokenFields → Prop} (h : NamedClasses L) (hwrite : Write (C := C) R L L') :
    NamedClasses L' := by
  cases hwrite with
  | message _ hrun => exact h.message hrun
  | saveDenom _ hrun => exact h.saveDenom hrun
  | mint _ hrun =>
    obtain ⟨_, _, _, -, -, -, -, -, -, -, -, rfl⟩ := mintNFT_eq_ok.mp hrun
    exact h.congr rfl
  | merge _ hrun =>
    obtain ⟨_, _, -, -, hrun⟩ := transferNFT_eq_ok.mp hrun
    obtain ⟨_, _, _, -, -, -, -, rfl⟩ := transferOwnership_eq_ok.mp hrun
    exact h.congr rfl
  | give => exact h.congr rfl
  | burn => exact h.congr rfl
  | sent hrun =>
    obtain ⟨-, _, -, hsent⟩ := C.ics.transfer_ok hrun
    exact h.congr hsent.getClass
  | returned _ hrun => exact h.congr (C.ics.refund_ok hrun (C.ics.getVoucherClassID_eq _ _)).getClass

lemma received (h : NamedClasses L) {escrow : AccAddress} {a : Ibc.Arrival} (hrec : Ibc.Received escrow L L' a) :
    NamedClasses L' := by
  intro K hK
  by_cases heq : K = a.classID
  · subst heq
    by_cases hsame : L'.getClass a.classID = L.getClass a.classID
    · rw [NftLedger.hasClass, hsame] at hK
      exact h _ hK
    · exact .inr (hrec.getClass hsame).1
  · rw [NftLedger.hasClass, hrec.getClass_other K heq] at hK
    exact h K hK

theorem step {s s' : System C} {op : Op C} (h : NamedClasses s.world.nft) (hstep : Step s op s') :
    NamedClasses s'.world.nft := by
  rcases hstep.writes with hwrites | ⟨a, -, hrec⟩
  · exact hwrites.invariant (fun _ _ hL hwrite => hL.write hwrite) h
  · exact h.received hrec

end NamedClasses

namespace Ibc

/-- The names of nft-transfer as they are documented: the prefix of a channel, and a class without a path. -/
structure ClassTraces {X : Extern} {nk : NftKeeper} (ics : Ics721 X nk) : Prop where
  classPrefix_eq : ∀ port channel, ics.classPrefix port channel = port ++ 47 :: channel ++ [47]
  ibcClassID_bare : ∀ id, 47 ∉ id → ics.ibcClassID id = id

/-- The packets that the router hands to the middleware: they left on the port of nft-transfer or on the one it had
before, over a channel as the channel keeper names them. -/
structure RawPacket.Routed (packet : RawPacket) : Prop where
  port : packet.sourcePort = str "nonfungibletokentransfer" ∨ packet.sourcePort = str "nft-transfer"
  channel : hasPrefix packet.sourceChannel (str "channel-") = true

lemma hyphen_notMem_of_regexpID {id : GoString} (h : regexpID id = true) : 45 ∉ id := by
  cases id with
  | nil => cases h
  | cons b rest =>
    simp only [regexpID, Bool.and_eq_true, List.all_eq_true] at h
    intro hmem
    rcases List.mem_cons.mp hmem with rfl | hmem
    · exact absurd h.1.1 (by decide)
    · exact absurd (h.2 45 hmem) (by decide)

lemma prefixed_of_hyphen {id : GoString} (h : validateDenomID id = .ok ()) (hmem : 45 ∈ id) :
    hasPrefix id (str "uptick-") = true ∨ isIBCDenom id = true := by
  unfold validateDenomID at h
  obtain ⟨-, h⟩ := require_bind_eq_ok.mp h
  obtain ⟨-, h⟩ := require_bind_eq_ok.mp h
  split at h
  · next hp => exact .inl hp
  · split at h
    · next hp => exact .inr hp
    · obtain ⟨hre, -⟩ := require_bind_eq_ok.mp h
      exact absurd hmem (hyphen_notMem_of_regexpID hre)

lemma not_hasClass_of_routed (htraces : ClassTraces C.ics) {L : NftLedger} (hnames : NamedClasses L)
    {packet : RawPacket} (hrouted : packet.Routed) {id : GoString}
    (hp : hasPrefix id (C.ics.classPrefix packet.sourcePort packet.sourceChannel) = true) : L.hasClass id = false := by
  rw [htraces.classPrefix_eq] at hp
  obtain ⟨base, rfl⟩ := hasPrefix_iff.mp hp
  obtain ⟨digits, hchannel⟩ := hasPrefix_iff.mp hrouted.channel
  apply Bool.eq_false_iff.mpr
  intro hclass
  -- both ports start with an `n`, so the path starts like none of the names with a hyphen
  have hhead : ∃ rest, packet.sourcePort = 110 :: rest := by
    rcases hrouted.port with hport | hport
    · exact ⟨_, hport⟩
    · exact ⟨_, hport⟩
  obtain ⟨rest, hport⟩ := hhead
  rw [hport] at hclass
  have hvoucher : isIBCDenom (110 :: rest ++ 47 :: packet.sourceChannel ++ [47] ++ base) = false := rfl
  have huptick : hasPrefix (110 :: rest ++ 47 :: packet.sourceChannel ++ [47] ++ base) (str "uptick-") = false := rfl
  have hhyphen : (45 : UInt8) ∈ 110 :: rest ++ 47 :: packet.sourceChannel ++ [47] ++ base := by
    have hmem : (45 : UInt8) ∈ str "channel-" := by decide
    simp [hchannel, hmem]
  rcases hnames _ hclass with hvalid | hibc
  · rcases prefixed_of_hyphen hvalid hhyphen with h | h
    · rw [huptick] at h
      cases h
    · rw [hvoucher] at h
      cases h
  · rw [hvoucher] at hibc
    cases hibc

/-- The keeper of x/evmibc and nft-transfer agree on the class of a packet that comes back. -/
theorem getRefundClassId_eq (htraces : ClassTraces C.ics) {w : World C} (hnames : NamedClasses w.nft)
    {packet : RawPacket} (hrouted : packet.Routed) (data : PacketData) :
    getRefundClassId w (packet.decoded data) = C.ics.getVoucherClassID w.nft data.classId := by
  have hclass : (packet.decoded data).classId = data.classId := rfl
  unfold getRefundClassId
  rw [hclass, C.ics.getVoucherClassID_eq]
  by_cases hbare : 47 ∉ data.classId
  · rw [if_pos hbare, htraces.ibcClassID_bare _ hbare, ite_self]
  · rw [if_neg hbare]
    split
    · next hp =>
      obtain ⟨base, hbase⟩ := C.ics.removeClassPrefix_of hp
      rw [hbase, ok_bind, not_hasClass_of_routed htraces hnames hrouted hp, voucherClassID,
        ← C.ics.removeClassPrefix_ok hbase]
      rfl
    · rfl

/-- A packet that came back: its NFTs went to one account, in one class. A convert packet's went to the account of the
module, by the keeper of x/evmibc, and the module refunds the tokens of that class; any other packet's went to the
packet's sender, by nft-transfer. -/
inductive RefundedOnce (ctx : Context C) (packet : Packet) : Context C → Prop
  | converted {kind : ConvertKind} {K : GoString} {L : NftLedger} (hkind : outboundConvertKind C.toExtern packet = kind)
      (hne : kind ≠ .none)
      (native : Returned (C.ics.escrow packet.sourcePort packet.sourceChannel) kind.moduleAccount ctx.world.nft L K
        packet.tokenIds) :
      RefundedOnce ctx packet ⟨kind.refundPacketToken { ctx.world with nft := L } K packet.tokenIds,
        ctx.marks ++ [.nativeRefund .evmibc kind.moduleAccount, .refundPacketToken kind K]⟩
  | plain {sender : AccAddress} {K : GoString} {L : NftLedger} (hkind : outboundConvertKind C.toExtern packet = .none)
      (hsender : C.decodeAcc packet.sender = .ok sender)
      (native : Returned (C.ics.escrow packet.sourcePort packet.sourceChannel) sender ctx.world.nft L K
        packet.tokenIds) :
      RefundedOnce ctx packet ⟨{ ctx.world with nft := L }, ctx.marks ++ [.nativeRefund .nftTransfer sender]⟩

/-- A callback either did what is asked, or failed and left the context as it was. -/
inductive Settles (ctx : Context C) (Post : Context C → Prop) : Answer C → Prop
  | done {ctx' : Context C} (post : Post ctx') : Settles ctx Post (ctx', .ok ())
  | failed (err : Error) : Settles ctx Post (ctx, .error err)

lemma Settles.of_toBool {ctx : Context C} {Post : Context C → Prop} {answer : Answer C} (h : Settles ctx Post answer)
    (hok : answer.2.toBool = true) : ∃ ctx', answer = (ctx', .ok ()) ∧ Post ctx' := by
  cases h with
  | done post => exact ⟨_, rfl, post⟩
  | failed err => cases hok

/-- The cache context turns a callback that does what is asked when it succeeds into one that settles. -/
lemma settles_cached {callback : Context C → Answer C} {ctx : Context C} {Post : Context C → Prop}
    (h : ∀ ctx', callback ctx = (ctx', .ok ()) → Post ctx') : Settles ctx Post (cached callback ctx) := by
  unfold cached
  generalize hrun : callback ctx = answer at h
  obtain ⟨ctx', res⟩ := answer
  cases res with
  | error err => exact .failed err
  | ok u => exact .done (h ctx' rfl)

lemma of_cached_eq_ok {callback : Context C → Answer C} {ctx ctx' : Context C}
    (h : cached callback ctx = (ctx', .ok ())) : callback ctx = (ctx', .ok ()) := by
  unfold cached at h
  generalize callback ctx = answer at h ⊢
  obtain ⟨ctx₁, res⟩ := answer
  cases res with
  | error err => cases h
  | ok u => exact h

lemma refundNative_eq_ok {residue : NftLedger → Packet → AccAddress → NftLedger} {by_ : Refunder} {packet : Packet}
    {sender : GoString} {ctx ctx' : Context C} :
    refundNative residue by_ packet sender ctx = (ctx', .ok ()) ↔ NativeRefund by_ packet sender ctx ctx' := by
  unfold refundNative NativeRefund
  cases hacc : C.decodeAcc sender with
  | error err => simp
  | ok acc =>
    cases hrefund : C.ics.refund ctx.world.nft packet acc with
    | error err => simp [hrefund]
    | ok L => simp [hrefund, eq_comm]

lemma decodeAcc_moduleAccount (X : Extern) {kind : ConvertKind} (hne : kind ≠ .none) :
    X.decodeAcc (X.accString kind.moduleAccount) = .ok kind.moduleAccount := by
  cases kind with
  | none => exact absurd rfl hne
  | erc721 => exact Erc721.decodeAcc_module X
  | cw721 => exact Cw721.decodeAcc_module X

variable {residue : NftLedger → Packet → AccAddress → NftLedger} {codec : Codec} {app : IBCModule C codec}
  {packet : RawPacket} {data : PacketData} {ctx ctx' : Context C}

lemma refundConvert_ok (htraces : ClassTraces C.ics) (hnames : NamedClasses ctx.world.nft) (hrouted : packet.Routed)
    {kind : ConvertKind} (hkind : outboundConvertKind C.toExtern (packet.decoded data) = kind) (hne : kind ≠ .none)
    (h : refundConvert residue kind (packet.decoded data) ctx = (ctx', .ok ())) :
    RefundedOnce ctx (packet.decoded data) ctx' := by
  unfold refundConvert at h
  have hagree := getRefundClassId_eq htraces hnames hrouted data
  cases hK : getRefundClassId ctx.world (packet.decoded data) with
  | error err => simp [hK] at h
  | ok K =>
    simp only [hK] at h
    generalize hnative : refundNative residue .evmibc (packet.decoded data)
      (C.accString kind.moduleAccount) ctx = answer at h
    obtain ⟨ctx₁, res⟩ := answer
    cases res with
    | error err => simp at h
    | ok u =>
      obtain ⟨acc, L, hacc, hrefund, rfl⟩ := refundNative_eq_ok.mp hnative
      obtain rfl : acc = kind.moduleAccount :=
        Except.ok.inj (hacc.symm.trans (decodeAcc_moduleAccount C.toExtern hne))
      have hvoucher : C.ics.getVoucherClassID ctx.world.nft (packet.decoded data).classId = .ok K :=
        hagree.symm.trans hK
      simp only [Prod.mk.injEq, and_true, List.append_assoc, List.cons_append, List.nil_append] at h
      rw [← h]
      exact .converted hkind hne (C.ics.refund_ok hrefund hvoucher)

lemma keeper_onTimeoutPacket_ok (htraces : ClassTraces C.ics) (hnames : NamedClasses ctx.world.nft)
    (hrouted : packet.Routed) (hconvert : isOutboundConvertPacket C.toExtern (packet.decoded data) = true)
    (h : Keeper.onTimeoutPacket residue (packet.decoded data) ctx = (ctx', .ok ())) :
    RefundedOnce ctx (packet.decoded data) ctx' := by
  unfold Keeper.onTimeoutPacket at h
  split at h
  · next hkind => exact refundConvert_ok htraces hnames hrouted hkind (by decide) h
  · next hkind => exact refundConvert_ok htraces hnames hrouted hkind (by decide) h
  · next hkind => simp [isOutboundConvertPacket, hkind] at hconvert

lemma keeper_onAcknowledgementPacket_error (packet : Packet) (ctx : Context C) :
    Keeper.onAcknowledgementPacket residue packet .error ctx = Keeper.onTimeoutPacket residue packet ctx := rfl

/-- Without a convert packet or an error the keeper does nothing. -/
lemma keeper_onAcknowledgementPacket_idle {packet : Packet} {ack : Response}
    (h : ¬(ack = .error ∧ isOutboundConvertPacket C.toExtern packet = true)) (ctx : Context C) :
    Keeper.onAcknowledgementPacket residue packet ack ctx = (ctx, .ok ()) := by
  cases ack with
  | result => rfl
  | absent => rfl
  | error =>
    have hkind : outboundConvertKind C.toExtern packet = .none := by
      simpa [isOutboundConvertPacket] using h
    rw [keeper_onAcknowledgementPacket_error, Keeper.onTimeoutPacket, hkind]

lemma NativeRefund.refundedOnce (hconvert : isOutboundConvertPacket C.toExtern (packet.decoded data) = false)
    (h : NativeRefund .nftTransfer (packet.decoded data) data.sender ctx ctx') :
    RefundedOnce ctx (packet.decoded data) ctx' := by
  obtain ⟨acc, L, hacc, hrefund, rfl⟩ := h
  have hkind : outboundConvertKind C.toExtern (packet.decoded data) = .none := by
    simpa [isOutboundConvertPacket] using hconvert
  exact .plain hkind hacc (C.ics.refund_ok hrefund (C.ics.getVoucherClassID_eq _ _))

lemma settles_onTimeoutPacket (htraces : ClassTraces C.ics) (hnames : NamedClasses ctx.world.nft)
    (hrouted : packet.Routed) :
    Settles ctx (fun ctx' => ∃ data, codec.unmarshalPacketData packet.data = .ok data ∧
      RefundedOnce ctx (packet.decoded data) ctx') (cached (Middleware.onTimeoutPacket residue app packet) ctx) := by
  apply settles_cached
  intro ctx' h
  unfold Middleware.onTimeoutPacket at h
  cases hdata : codec.unmarshalPacketData packet.data with
  | error text => simp [hdata] at h
  | ok data =>
    refine ⟨data, rfl, ?_⟩
    simp only [hdata] at h
    split at h
    · next hconvert => exact keeper_onTimeoutPacket_ok htraces hnames hrouted hconvert (of_cached_eq_ok h)
    · next hconvert =>
      obtain ⟨data', hdata', hrefund⟩ := app.onTimeoutPacket_eq_ok.mp h
      obtain rfl := Except.ok.inj (hdata.symm.trans hdata')
      exact hrefund.refundedOnce (by simpa using hconvert)

lemma settles_onAcknowledgementPacket (htraces : ClassTraces C.ics) (hnames : NamedClasses ctx.world.nft)
    (hrouted : packet.Routed) (acknowledgement : GoString) :
    Settles ctx (fun ctx' => ∃ ack data, codec.unmarshalAcknowledgement acknowledgement = .ok ack ∧
        codec.unmarshalPacketData packet.data = .ok data ∧
        (ack = .error ∧ RefundedOnce ctx (packet.decoded data) ctx' ∨ ack ≠ .error ∧ ctx' = ctx))
      (cached (Middleware.onAcknowledgementPacket residue app packet acknowledgement) ctx) := by
  apply settles_cached
  intro ctx' h
  unfold Middleware.onAcknowledgementPacket at h
  cases hack : codec.unmarshalAcknowledgement acknowledgement with
  | error text => simp [hack] at h
  | ok ack =>
    cases hdata : codec.unmarshalPacketData packet.data with
    | error text => simp [hack, hdata] at h
    | ok data =>
      refine ⟨ack, data, rfl, rfl, ?_⟩
      simp only [hack, hdata] at h
      split at h
      · next hconvert =>
        obtain ⟨rfl, hconvert⟩ := hconvert
        have hrun := (keeper_onAcknowledgementPacket_error _ _).symm.trans (of_cached_eq_ok h)
        exact .inl ⟨rfl, keeper_onTimeoutPacket_ok htraces hnames hrouted hconvert hrun⟩
      · next hidle =>
        rw [keeper_onAcknowledgementPacket_idle hidle] at h
        obtain ⟨ack', data', hack', hdata', hanswer⟩ := app.onAcknowledgementPacket_eq_ok.mp h
        obtain rfl := Except.ok.inj (hack.symm.trans hack')
        obtain rfl := Except.ok.inj (hdata.symm.trans hdata')
        split at hanswer
        · next herror => exact .inl ⟨herror, hanswer.refundedOnce (by simpa [herror] using hidle)⟩
        · next herror => exact .inr ⟨herror, hanswer⟩

lemma onAcknowledgementPacket_idle (hdata : codec.unmarshalPacketData packet.data = .ok data)
    {acknowledgement : GoString} {ack : Response} (hack : codec.unmarshalAcknowledgement acknowledgement = .ok ack)
    (herror : ack ≠ .error) :
    Middleware.onAcknowledgementPacket residue app packet acknowledgement ctx = (ctx, .ok ()) := by
  simp only [Middleware.onAcknowledgementPacket, hack, hdata, herror, false_and, if_false,
    keeper_onAcknowledgementPacket_idle fun h => herror h.1]
  exact app.onAcknowledgementPacket_eq_ok.mpr ⟨ack, data, hack, hdata, by simp [herror]⟩

lemma cached_cached (callback : Context C → Answer C) (ctx : Context C) :
    cached (cached callback) ctx = cached callback ctx := by
  unfold cached
  generalize callback ctx = answer
  obtain ⟨ctx', res⟩ := answer
  cases res with
  | error err => rfl
  | ok u => rfl

lemma cached_congr {f g : Context C → Answer C} {ctx : Context C} (h : f ctx = g ctx) :
    cached f ctx = cached g ctx := by
  rw [cached, cached, h]

lemma cached_onTimeoutPacket (hdata : codec.unmarshalPacketData packet.data = .ok data)
    (hconvert : isOutboundConvertPacket C.toExtern (packet.decoded data) = true) :
    cached (Middleware.onTimeoutPacket residue app packet) ctx =
      Middleware.onTimeoutPacket residue app packet ctx := by
  have hrun : Middleware.onTimeoutPacket residue app packet ctx =
      cached (Keeper.onTimeoutPacket residue (packet.decoded data)) ctx := by
    simp only [Middleware.onTimeoutPacket, hdata, hconvert, if_true]
  rw [cached_congr hrun, cached_cached, hrun]

lemma cached_onAcknowledgementPacket (hdata : codec.unmarshalPacketData packet.data = .ok data)
    (hconvert : isOutboundConvertPacket C.toExtern (packet.decoded data) = true) (acknowledgement : GoString) :
    cached (Middleware.onAcknowledgementPacket residue app packet acknowledgement) ctx =
      Middleware.onAcknowledgementPacket residue app packet acknowledgement ctx := by
  cases hack : codec.unmarshalAcknowledgement acknowledgement with
  | error text => simp only [cached, Middleware.onAcknowledgementPacket, hack]
  | ok ack =>
    by_cases herror : ack = .error
    · subst herror
      have hrun : Middleware.onAcknowledgementPacket residue app packet acknowledgement ctx =
          cached (Keeper.onTimeoutPacket residue (packet.decoded data)) ctx := by
        simp only [Middleware.onAcknowledgementPacket, hack, hdata, hconvert, and_self, if_true]
        rfl
      rw [cached_congr hrun, cached_cached, hrun]
    · have hrun : Middleware.onAcknowledgementPacket residue app packet acknowledgement ctx = (ctx, .ok ()) :=
        onAcknowledgementPacket_idle hdata hack herror
      rw [cached, hrun]

/-! ### The middleware and the step of the system -/

/-- The state that a callback leaves, when it succeeds. -/
def Answer.world? (answer : Answer C) : Option (World C) := answer.2.toOption.map fun _ => answer.1.world

lemma world?_cached (callback : Context C → Answer C) (ctx : Context C) :
    (cached callback ctx).world? = (callback ctx).world? := by
  unfold cached
  generalize callback ctx = answer
  obtain ⟨ctx', res⟩ := answer
  cases res with
  | error err => rfl
  | ok u => rfl

lemma world?_eq_some {answer : Answer C} {w' : World C} :
    answer.world? = some w' ↔ ∃ marks, answer = (⟨w', marks⟩, .ok ()) := by
  obtain ⟨⟨w, marks⟩, res⟩ := answer
  cases res with
  | error err => simp [Answer.world?, Except.toOption]
  | ok u => simp [Answer.world?, Except.toOption]

lemma refundPlain_eq_ok {p : Packet} {w' : World C} :
    (∃ marks, NativeRefund .nftTransfer p p.sender ctx ⟨w', marks⟩) ↔ refundPlain ctx.world p = .ok w' := by
  unfold refundPlain NativeRefund
  simp only [bind_eq_ok]
  constructor
  · rintro ⟨marks, acc, nft, hacc, hnft, hctx⟩
    exact ⟨acc, hacc, nft, hnft, by rw [(Context.mk.inj hctx).1]⟩
  · rintro ⟨acc, hacc, nft, hnft, h⟩
    cases h
    exact ⟨_, acc, nft, hacc, hnft, rfl⟩

lemma world?_app_onTimeoutPacket (hdata : codec.unmarshalPacketData packet.data = .ok data) :
    (app.onTimeoutPacket packet ctx).world? = (refundPlain ctx.world (packet.decoded data)).toOption := by
  ext w'
  rw [world?_eq_some, toOption_eq_some, ← refundPlain_eq_ok]
  apply exists_congr
  intro marks
  rw [app.onTimeoutPacket_eq_ok]
  constructor
  · rintro ⟨data', hdata', h⟩
    obtain rfl := Except.ok.inj (hdata.symm.trans hdata')
    exact h
  · exact fun h => ⟨data, hdata, h⟩

lemma world?_app_onAcknowledgementPacket {acknowledgement : GoString}
    (hack : codec.unmarshalAcknowledgement acknowledgement = .ok .error) :
    (app.onAcknowledgementPacket packet acknowledgement ctx).world? = (app.onTimeoutPacket packet ctx).world? := by
  ext w'
  rw [world?_eq_some, world?_eq_some]
  apply exists_congr
  intro marks
  rw [app.onAcknowledgementPacket_eq_ok, app.onTimeoutPacket_eq_ok]
  constructor
  · rintro ⟨ack, data', hack', hdata', h⟩
    obtain rfl := Except.ok.inj (hack.symm.trans hack')
    exact ⟨data', hdata', by simpa using h⟩
  · rintro ⟨data', hdata', h⟩
    exact ⟨.error, data', hack, hdata', by simpa using h⟩

lemma world?_refundConvert {kind : ConvertKind} (hne : kind ≠ .none) (p : Packet) (ctx : Context C) :
    (refundConvert residue kind p ctx).world? =
      (refundConverted ctx.world p kind.moduleAccount kind.refundPacketToken).toOption := by
  unfold refundConvert refundConverted refundNative
  cases getRefundClassId ctx.world p with
  | error err => rfl
  | ok K =>
    rw [ok_bind, decodeAcc_moduleAccount C.toExtern hne]
    dsimp only
    cases C.ics.refund ctx.world.nft p kind.moduleAccount with
    | error err => rfl
    | ok L => rfl

theorem world?_onTimeoutPacket (hdata : codec.unmarshalPacketData packet.data = .ok data) :
    (Middleware.onTimeoutPacket residue app packet ctx).world? =
      (Ibc.onTimeoutPacket ctx.world (packet.decoded data)).toOption := by
  have hconverted (hkind : outboundConvertKind C.toExtern (packet.decoded data) ≠ .none) :
      Middleware.onTimeoutPacket residue app packet ctx =
        cached (Keeper.onTimeoutPacket residue (packet.decoded data)) ctx := by
    simp [Middleware.onTimeoutPacket, isOutboundConvertPacket, hdata, hkind]
  cases hkind : outboundConvertKind C.toExtern (packet.decoded data) with
  | none =>
    have hrun : Middleware.onTimeoutPacket residue app packet ctx = app.onTimeoutPacket packet ctx := by
      simp [Middleware.onTimeoutPacket, isOutboundConvertPacket, hdata, hkind]
    rw [hrun, world?_app_onTimeoutPacket hdata, Ibc.onTimeoutPacket, hkind]
  | erc721 =>
    rw [hconverted (by simp [hkind]), world?_cached, Keeper.onTimeoutPacket, Ibc.onTimeoutPacket, hkind]
    exact world?_refundConvert (by decide) _ _
  | cw721 =>
    rw [hconverted (by simp [hkind]), world?_cached, Keeper.onTimeoutPacket, Ibc.onTimeoutPacket, hkind]
    exact world?_refundConvert (by decide) _ _

/-- An error acknowledgement does to the state what a timeout does, any other does nothing. -/
theorem world?_onAcknowledgementPacket (hdata : codec.unmarshalPacketData packet.data = .ok data)
    {acknowledgement : GoString} {ack : Response} (hack : codec.unmarshalAcknowledgement acknowledgement = .ok ack) :
    (Middleware.onAcknowledgementPacket residue app packet acknowledgement ctx).world? =
      if ack = .error then (Ibc.onTimeoutPacket ctx.world (packet.decoded data)).toOption else some ctx.world := by
  split
  · next herror =>
    subst herror
    have htimeout : (Middleware.onTimeoutPacket residue app packet ctx).world? = _ := world?_onTimeoutPacket hdata
    rw [← htimeout]
    simp only [Middleware.onAcknowledgementPacket, Middleware.onTimeoutPacket, hack, hdata]
    by_cases hconvert : isOutboundConvertPacket C.toExtern (packet.decoded data) = true
    · simp only [hconvert, and_self, if_true]
      rfl
    · rw [if_neg (by simp [hconvert]), if_neg hconvert, keeper_onAcknowledgementPacket_idle fun h => hconvert h.2]
      exact world?_app_onAcknowledgementPacket hack
  · next herror =>
    rw [onAcknowledgementPacket_idle hdata hack herror]
    rfl

/-- For a packet in flight the callbacks of the middleware are steps of the system: a timeout and an error
acknowledgement refund it, any other acknowledgement delivers it. A callback that fails is no step. -/
theorem middleware_steps (residue : NftLedger → Packet → AccAddress → NftLedger) {codec : Codec}
    (app : IBCModule C codec) {packet : RawPacket} {data : PacketData}
    (hdata : codec.unmarshalPacketData packet.data = .ok data) {s : System C} {f : Flight} (hf : f ∈ s.flights)
    (hpacket : f.packet = packet.decoded data) (marks : List Mark) (w' : World C) :
    ((Middleware.onTimeoutPacket residue app packet ⟨s.world, marks⟩).world? = some w' ↔
      Step s (.refund f) ⟨w', s.flights.erase f⟩) ∧
    ∀ acknowledgement ack, codec.unmarshalAcknowledgement acknowledgement = .ok ack →
      ((Middleware.onAcknowledgementPacket residue app packet acknowledgement ⟨s.world, marks⟩).world? = some w' ↔
        Step s (if ack = .error then .refund f else .deliver f) ⟨w', s.flights.erase f⟩) := by
  obtain ⟨w, fl⟩ := s
  have htimeout : (Ibc.onTimeoutPacket w (packet.decoded data)).toOption = some w' ↔
      Step ⟨w, fl⟩ (.refund f) ⟨w', fl.erase f⟩ := by
    rw [toOption_eq_some, ← hpacket]
    constructor
    · exact fun h => .refund hf h
    · intro h
      cases h with
      | refund _ h => exact h
  refine ⟨by rw [world?_onTimeoutPacket hdata, htimeout], fun acknowledgement ack hack => ?_⟩
  rw [world?_onAcknowledgementPacket hdata hack]
  split
  · exact htimeout
  · constructor
    · intro h
      cases h
      exact .deliver hf
    · intro h
      cases h with
      | deliver _ => rfl

/-- Every timeout and every acknowledgement of a packet, in every state that a run reaches. The message that relays it
either fails and changes nothing, or refunds the packet once; an acknowledgement that is no error refunds nothing. A
packet that can be read is refunded exactly when the refund of the step `Ibc.onTimeoutPacket` goes through, and an
acknowledgement that is no error always succeeds. For a convert packet the callback itself changes nothing when it
fails. -/
theorem middleware_refunds_once (htraces : ClassTraces C.ics) {s s' : System C} (hstart : NamedClasses s.world.nft)
    (hrun : Run (fun _ _ _ => True) s s') (residue : NftLedger → Packet → AccAddress → NftLedger) {codec : Codec}
    (app : IBCModule C codec) (packet : RawPacket) (hrouted : packet.Routed) (marks : List Mark) :
    Settles ⟨s'.world, marks⟩ (fun ctx' => ∃ data, codec.unmarshalPacketData packet.data = .ok data ∧
        RefundedOnce ⟨s'.world, marks⟩ (packet.decoded data) ctx')
      (cached (Middleware.onTimeoutPacket residue app packet) ⟨s'.world, marks⟩) ∧
    (∀ acknowledgement, Settles ⟨s'.world, marks⟩
      (fun ctx' => ∃ ack data, codec.unmarshalAcknowledgement acknowledgement = .ok ack ∧
        codec.unmarshalPacketData packet.data = .ok data ∧
        (ack = .error ∧ RefundedOnce ⟨s'.world, marks⟩ (packet.decoded data) ctx' ∨
          ack ≠ .error ∧ ctx' = ⟨s'.world, marks⟩))
      (cached (Middleware.onAcknowledgementPacket residue app packet acknowledgement) ⟨s'.world, marks⟩)) ∧
    ∀ data, codec.unmarshalPacketData packet.data = .ok data →
      ((Middleware.onTimeoutPacket residue app packet ⟨s'.world, marks⟩).world? =
          (Ibc.onTimeoutPacket s'.world (packet.decoded data)).toOption ∧
        ∀ acknowledgement ack, codec.unmarshalAcknowledgement acknowledgement = .ok ack →
          (Middleware.onAcknowledgementPacket residue app packet acknowledgement ⟨s'.world, marks⟩).world? =
            if ack = .error then (Ibc.onTimeoutPacket s'.world (packet.decoded data)).toOption
            else some s'.world) ∧
      (isOutboundConvertPacket C.toExtern (packet.decoded data) = true →
        cached (Middleware.onTimeoutPacket residue app packet) (⟨s'.world, marks⟩ : Context C) =
          Middleware.onTimeoutPacket residue app packet ⟨s'.world, marks⟩ ∧
        ∀ acknowledgement, cached (Middleware.onAcknowledgementPacket residue app packet acknowledgement)
            (⟨s'.world, marks⟩ : Context C) =
          Middleware.onAcknowledgementPacket residue app packet acknowledgement ⟨s'.world, marks⟩) := by
  have hnames : NamedClasses s'.world.nft :=
    hrun.invariant (I := fun s => NamedClasses s.world.nft) (fun _ _ _ hinv hstep _ => hinv.step hstep) hstart
  refine ⟨settles_onTimeoutPacket htraces hnames hrouted, settles_onAcknowledgementPacket htraces hnames hrouted,
    fun data hdata => ⟨⟨world?_onTimeoutPacket hdata, fun _ _ => world?_onAcknowledgementPacket hdata⟩, ?_⟩⟩
  intro hconvert
  exact ⟨cached_onTimeoutPacket hdata hconvert, cached_onAcknowledgementPacket hdata hconvert⟩

/-- A codec that reads one packet; the empty acknowledgement is a success. -/
def readsOne (data : PacketData) : Codec := ⟨fun a => .ok (if a = [] then .result else .error), fun _ => .ok data⟩

def packetData (p : Packet) : PacketData := ⟨p.classId, p.tokenIds, p.sender, p.receiver, p.memo⟩

/-- An IBC module that refunds as the keeper does. -/
def plainModule (C : Chain) (data : PacketData) : IBCModule C (readsOne data) where
  onTimeoutPacket := fun packet => refundNative (fun L _ _ => L) .nftTransfer (packet.decoded data) data.sender
  onAcknowledgementPacket := fun packet a ctx =>
    if a = [] then (ctx, .ok ()) else refundNative (fun L _ _ => L) .nftTransfer (packet.decoded data) data.sender ctx
  onTimeoutPacket_eq_ok := by simp [refundNative_eq_ok, readsOne]
  onAcknowledgementPacket_eq_ok := by
    intro packet a ctx ctx'
    by_cases ha : a = []
    · simp [readsOne, ha, eq_comm]
    · simp [readsOne, ha, refundNative_eq_ok]

lemma classTraces_sample : ClassTraces Sample.chain.ics where
  classPrefix_eq := fun _ _ => rfl
  ibcClassID_bare := by
    intro id hbare
    change Sample.ibcClassID id = id
    rw [Sample.ibcClassID, if_pos hbare]

/-- The packet of a wrapped NFT that was sent away as an ERC721 token. -/
def wrappedPacket : RawPacket := ⟨Sample.port, Sample.channel, []⟩

def wrappedModule : IBCModule Sample.chain (readsOne (packetData onceFlight.packet)) := plainModule _ _

/-- What the keeper and the module are told when that NFT comes back. -/
def wrappedMarks : List Mark :=
  [.nativeRefund .evmibc Erc721.accModuleAddress, .refundPacketToken .erc721 (str "kitty")]

/-- The packet times out or is refused: the keeper gives the NFT back to the module account and the module is told its
class. It is accepted: nothing happens. -/
theorem middleware_refunds_once_wrapped : ∃ s s' : System Sample.chain,
    NamedClasses s.world.nft ∧ Run (fun _ _ _ => True) s s' ∧
    (∃ ctx', cached (Middleware.onTimeoutPacket (fun L _ _ => L) wrappedModule wrappedPacket) ⟨s'.world, []⟩ =
        (ctx', .ok ()) ∧
      RefundedOnce ⟨s'.world, []⟩ onceFlight.packet ctx' ∧ ctx'.marks = wrappedMarks) ∧
    (∃ ctx', cached (Middleware.onAcknowledgementPacket (fun L _ _ => L) wrappedModule wrappedPacket (str "refused"))
        ⟨s'.world, []⟩ = (ctx', .ok ()) ∧
      RefundedOnce ⟨s'.world, []⟩ onceFlight.packet ctx' ∧ ctx'.marks = wrappedMarks) ∧
    (Middleware.onAcknowledgementPacket (fun L _ _ => L) wrappedModule wrappedPacket []
      ⟨s'.world, []⟩).world? = some s'.world := by
  obtain ⟨s', hrun⟩ := exists_eq_ok (x := withCode.execAll wrappedOnce) (by decide +kernel)
  have h : Run (fun _ _ _ => True) withCode s' := System.run_of_execAll (fun _ _ _ _ => trivial) hrun
  have hnames : NamedClasses withCode.world.nft := by
    intro K hK
    cases hK
  have hrouted : wrappedPacket.Routed := ⟨.inr rfl, by decide⟩
  have hmarks : (withCode.execAll wrappedOnce).toOption.any (fun s' =>
      let ctx : Context Sample.chain := ⟨s'.world, []⟩
      let timeout := cached (Middleware.onTimeoutPacket (fun L _ _ => L) wrappedModule wrappedPacket) ctx
      let refused := cached (Middleware.onAcknowledgementPacket (fun L _ _ => L) wrappedModule wrappedPacket
        (str "refused")) ctx
      (timeout.2.toBool && decide (timeout.1.marks = wrappedMarks)) &&
        (refused.2.toBool && decide (refused.1.marks = wrappedMarks))) = true := by decide +kernel
  rw [hrun] at hmarks
  obtain ⟨htimeout, hrefused⟩ := (Bool.and_eq_true _ _).mp hmarks
  obtain ⟨hsettles, hsettles', hdone⟩ := middleware_refunds_once classTraces_sample hnames h (fun L _ _ => L)
    wrappedModule wrappedPacket hrouted []
  refine ⟨withCode, s', hnames, h, ?_, ?_, ((hdone _ rfl).1.2 [] .result rfl).trans (if_neg (by decide))⟩
  · obtain ⟨hok, hmarks⟩ := (Bool.and_eq_true _ _).mp htimeout
    obtain ⟨ctx', heq, data, hdata, hpost⟩ := hsettles.of_toBool hok
    cases hdata
    rw [heq] at hmarks
    exact ⟨ctx', heq, hpost, of_decide_eq_true hmarks⟩
  · obtain ⟨hok, hmarks⟩ := (Bool.and_eq_true _ _).mp hrefused
    obtain ⟨ctx', heq, ack, data, hack, hdata, ⟨-, hpost⟩ | ⟨herror, -⟩⟩ := (hsettles' _).of_toBool hok
    · cases hdata
      rw [heq] at hmarks
      exact ⟨ctx', heq, hpost, of_decide_eq_true hmarks⟩
    · exact absurd (Except.ok.inj hack).symm herror

theorem middleware_steps_wrapped : ∃ (s : System Sample.chain) (w' : World Sample.chain),
    Step s (.refund onceFlight) ⟨w', s.flights.erase onceFlight⟩ := by
  obtain ⟨s, hrun⟩ := exists_eq_ok (x := withCode.execAll wrappedOnce) (by decide +kernel)
  have hstate : (withCode.execAll wrappedOnce).toOption.any (fun s => decide (onceFlight ∈ s.flights) &&
      (Middleware.onTimeoutPacket (fun L _ _ => L) wrappedModule wrappedPacket ⟨s.world, []⟩).world?.isSome) =
        true := by decide +kernel
  rw [hrun] at hstate
  obtain ⟨hf, hok⟩ := Bool.and_eq_true_iff.mp hstate
  obtain ⟨w', hw⟩ := Option.isSome_iff_exists.mp hok
  exact ⟨s, w', (@middleware_steps _ _ _ wrappedModule wrappedPacket _ rfl s _ (of_decide_eq_true hf) rfl [] w').1.mp
    hw⟩

end Ibc

end Uptick
