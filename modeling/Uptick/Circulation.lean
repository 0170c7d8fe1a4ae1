import Uptick.Cw721.Custody
import Uptick.Cw721.RefundReceiver
import Uptick.Lib.Hub

/-!
# One circulating asset

A native NFT, the ERC721 token and the CW721 token that are bound to it stand for one thing. The two modules share the
ledger of the native NFTs, each with a module account of its own. In every run from empty stores at most one of the
assets that stand for one thing is owned by somebody else than the module accounts.
-/

namespace Uptick

open Text Evm Outcome Collection

variable {C : Chain} {D : Set GoString} {w w' : World C} {s s' : System C} {op : Op C}

/-- What is assumed of a step: it is conforming, and what others do with wasm contracts leaves the tokens of the module
account alone. -/
structure Guarded (D : Set GoString) (s : System C) (op : Op C) (s' : System C) : Prop extends
    Conforming D s op s' where
  wasm : ∀ st, op = .wasm st → ∀ c t, C.wasm.owner s.world.wasm c t = some (C.accString Cw721.accModuleAddress) →
    C.wasm.owner st c t = some (C.accString Cw721.accModuleAddress)

/-- What the native refund and the refund of each token keep, a callback keeps. -/
lemma Ibc.onTimeoutPacket_invariant {I : World C → Prop} {p : Packet} (h : onTimeoutPacket w p = .ok w')
    (hback : ∀ acc L, C.ics.refund w.nft p acc = .ok L → I { w with nft := L })
    (herc : ∀ K n u u', I u → Erc721.Refunds K u n u' → I u')
    (hcw : ∀ K, outboundConvertKind C.toExtern p = .cw721 → getRefundClassId w p = .ok K →
      ∀ n u u', I u → Cw721.Refunds K u n u' → I u') : I w' := by
  unfold onTimeoutPacket at h
  split at h
  · obtain ⟨K, -, h⟩ := bind_eq_ok.mp h
    obtain ⟨L, hL, h⟩ := bind_eq_ok.mp h
    cases h
    exact Erc721.refundPacketToken_invariant (fun u n u' _ => herc K n u u') (hback _ _ hL)
  · next hkind =>
    obtain ⟨K, hK, h⟩ := bind_eq_ok.mp h
    obtain ⟨L, hL, h⟩ := bind_eq_ok.mp h
    cases h
    exact Cw721.refundPacketToken_invariant (fun u n u' _ => hcw K hkind hK n u u') (hback _ _ hL)
  · obtain ⟨acc, -, h⟩ := bind_eq_ok.mp h
    obtain ⟨L, hL, h⟩ := bind_eq_ok.mp h
    cases h
    exact hback _ _ hL

namespace Cw721

lemma onTimeoutPacket_custody (hcommas : NoCommas C.toExtern) {p : Ibc.Packet} (h : Ibc.onTimeoutPacket w p = .ok w')
    (hp : Ibc.outboundConvertKind C.toExtern p = .cw721 → Ibc.OfClass w p) (hinv : Custody w) : Custody w' := by
  refine Ibc.onTimeoutPacket_invariant h (fun acc L hL => ?_) (fun K n u u' hu hr => ?_)
    fun K hkind hK n u u' hu hr => ?_
  · have hret := C.ics.refund_ok hL (C.ics.getVoucherClassID_eq _ _)
    exact hinv.native (hinv.bound.ledger hret.spares) rfl rfl (.returned hret (C.escrow_ne_cw721 _ _))
  · obtain ⟨hunharmed, hst⟩ := hr.unharmed erc721_ne_cw721.symm
    exact hu.native (hr.boundInv hu.bound) hst hunharmed.wasm hunharmed.nft
  · have hclass := hp hkind
    rw [hclass.refundClass, Except.ok.injEq] at hK
    subst hK
    exact hr.custody hcommas (hinv.bound.plain _ hclass.hasClass) hu

lemma ConvertMsg.cw721_custody (hcommas : NoCommas C.toExtern) {msg : ConvertMsg}
    (valid : msg.validateBasic C.toExtern = .ok ()) (h : msg.handle w = .ok w')
    (hsigner : ∀ acc, C.decodeAcc msg.signer = .ok acc → acc ≠ accModuleAddress)
    (hreg : Erc721.RegistryConsistent C.toExtern w.erc721) (hinv : Custody w) : Custody w' := by
  have hbound := ConvertMsg.boundInv valid h hinv.bound
  cases msg with
  | convertNFT msg =>
    have hunharmed := Erc721.convertNFT_unharmed valid hsigner h
    exact hinv.native hbound (Erc721.convertNFT_cw721 h) hunharmed.wasm hunharmed.nft
  | convertERC721 msg =>
    obtain ⟨⟨w₁, res⟩, hrun, rfl⟩ := map_eq_ok.mp h
    have hmsg := Erc721.MsgConvertERC721.validateBasic_eq_ok.mp valid
    obtain ⟨sender, hs⟩ := hmsg.sender
    obtain ⟨recipient, hr⟩ := hmsg.receiver
    have hunharmed :=
      Erc721.convertERC721_unharmed hmsg.classId hmsg.nonempty hs hr hreg erc721_ne_cw721.symm hrun
    exact hinv.native hbound (Erc721.convertERC721_cw721 hmsg.classId hmsg.nonempty hrun) hunharmed.wasm hunharmed.nft
  | convertNFTToCW721 msg => exact convertNFT_custody hcommas valid hsigner h hinv
  | convertCW721 msg =>
    obtain ⟨⟨w₁, res⟩, hrun, rfl⟩ := map_eq_ok.mp h
    exact convertCW721_custody hcommas (MsgConvertCW721.valid_of_validateBasic valid) hsigner hrun hinv

theorem Custody.step (hinj : Set.InjOn C.tmhash D) (hcommas : NoCommas C.toExtern)
    (hinv : Custody s.world) (hregistry : Erc721.RegistryInv C.toExtern D s.world.erc721)
    (hflights : ConvertFlights .cw721 s) (hstep : Step s op s') (hok : Guarded D s op s') : Custody s'.world := by
  have hbound := hstep.boundInv hinv.bound
  have hreg := hregistry.consistent hinj
  cases hstep with
  | collection valid h =>
    exact hinv.native hbound rfl rfl (CollectionMsg.keeps h fun acc hacc => (hok.signer _ acc rfl hacc).2)
  | convert valid h =>
    exact ConvertMsg.cw721_custody hcommas valid h (fun acc hacc => (hok.signer _ acc rfl hacc).2) hreg hinv
  | transferERC721 valid h =>
    have hunharmed := Erc721.transferERC721_unharmed valid hreg erc721_ne_cw721.symm h
    exact hinv.native hbound (Erc721.transferERC721_cw721 valid h) hunharmed.wasm hunharmed.nft
  | transferCW721 valid h =>
    exact transferCW721_custody hcommas valid (fun acc hacc => (hok.signer _ acc rfl hacc).2) h hinv
  | transfer h =>
    obtain ⟨-, acc, hacc, hsent⟩ := C.ics.transfer_ok h
    exact hinv.native hbound rfl rfl (.sent hsent (hok.signer _ acc rfl hacc).2)
  | receive h => exact hinv.native hbound rfl rfl (.received h (C.escrow_ne_cw721 _ _))
  | deliver => exact hinv
  | refund hf h => exact onTimeoutPacket_custody hcommas h (hflights _ hf) hinv
  | settle =>
    rw [Erc721.settleIBCVoucherPairs_eq hregistry]
    exact hinv
  | prune o => exact hinv.native hbound rfl rfl (.refl _)
  | purge h => exact hinv.native hbound rfl rfl (.refl _)
  | evm st => exact hinv.native hbound rfl rfl (.refl _)
  | wasm st =>
    exact hinv.moves hbound hinv.store (fun _ _ => id) (.refl _) fun u => hok.wasm st rfl u.1 u.2

lemma Custody.of_fresh (h : s.Fresh) : Custody s.world := by
  refine ⟨h.boundInv, (Safe.of_fresh h).store, .of_unbound ?_⟩
  intro x u hb
  obtain ⟨_, _, hst⟩ := h.cw721
  have hreverse := hb.reverse
  rw [hst] at hreverse
  cases hreverse

end Cw721

structure Bridged (D : Set GoString) (s : System C) : Prop where
  erc721 : Erc721.Safe D s
  cw721 : Cw721.Custody s.world
  flights : ConvertFlights .cw721 s

theorem Bridged.step (hinj : Set.InjOn C.tmhash D) (hcommas : Cw721.NoCommas C.toExtern)
    (hinv : Bridged D s) (hstep : Step s op s') (hok : Guarded D s op s') : Bridged D s' where
  erc721 := hinv.erc721.step hinj hstep hok.toConforming
  cw721 := hinv.cw721.step hinj hcommas hinv.erc721.custody.registry hinv.flights hstep hok
  flights := (Cw721.Safe.step Cw721.hosts_any ⟨hinv.cw721.store, hinv.flights⟩ hstep hok.toConforming).flights

theorem Bridged.run (hinj : Set.InjOn C.tmhash D) (hcommas : Cw721.NoCommas C.toExtern)
    (hfresh : s.Fresh) (h : Run (Guarded D) s s') : Bridged D s' :=
  h.invariant (fun _ _ _ hs hstep hok => hs.step hinj hcommas hstep hok)
    ⟨hfresh.unused.safe, .of_fresh hfresh, (@Cw721.Safe.of_fresh C (fun _ => True) s hfresh).flights⟩

namespace World

/-- The index of a module binds a native NFT to a token. -/
inductive Bound (w : World C) : Asset → Asset → Prop
  | erc721 {K n : GoString} {c : Address} {v : Nat} (h : Erc721.ReverseBinds w.erc721 (K, n) (c, v)) :
      Bound w (.native K n) (.erc721 c v)
  | cw721 {K n : GoString} {c : AccAddress} {t : GoString} (h : Cw721.Binds C.toExtern w.cw721 (K, n) (c, t)) :
      Bound w (.native K n) (.cw721 c t)

/-- The two assets are bound, directly or through others. -/
def SameThing (w : World C) : Asset → Asset → Prop := Relation.EqvGen w.Bound

/-- Somebody else than the module accounts owns the asset. -/
def Circulates (w : World C) (A : Asset) : Prop :=
  ∃ o, w.owner A = some o ∧ ¬ o.Is C.toExtern Erc721.accModuleAddress ∧ ¬ o.Is C.toExtern Cw721.accModuleAddress

end World

def Asset.item : Asset → Hub.Item (GoString × GoString) (Address × Nat) (AccAddress × GoString)
  | .native K n => .hub (K, n)
  | .erc721 c v => .left (c, v)
  | .cw721 c t => .right (c, t)

lemma Asset.item_injective : Function.Injective Asset.item := by
  intro A B h
  cases A <;> cases B <;> simp_all [Asset.item]

lemma World.SameThing.kin {A B : Asset} (h : w.SameThing A B) :
    Hub.Kin (Erc721.ReverseBinds w.erc721) (Cw721.Binds C.toExtern w.cw721) A.item B.item := by
  induction h with
  | rel A B hb =>
    cases hb with
    | erc721 hb => exact .rel _ _ (.left hb)
    | cw721 hb => exact .rel _ _ (.right hb)
  | refl A => exact .refl _
  | symm A B _ ih => exact .symm _ _ ih
  | trans A B D _ _ ih ih' => exact .trans _ _ _ ih ih'

lemma World.Circulates.item {A : Asset} (h : w.Circulates A) :
    Hub.Circulates Erc721.accModuleAddress Cw721.accModuleAddress Erc721.moduleAddress
      (C.accString Cw721.accModuleAddress) (Erc721.nftOwner w) (Erc721.ercOwner w) (Cw721.cwOwner w) A.item := by
  obtain ⟨o, ho, herc, hcw⟩ := h
  cases A with
  | native K n =>
    obtain ⟨acc, hacc, rfl⟩ := Option.map_eq_some_iff.mp ho
    exact ⟨acc, hacc, herc, hcw⟩
  | erc721 c v =>
    obtain ⟨a, ha, rfl⟩ := Option.map_eq_some_iff.mp ho
    exact ⟨a, ha, herc⟩
  | cw721 c t =>
    obtain ⟨text, htext, rfl⟩ := Option.map_eq_some_iff.mp ho
    refine ⟨text, htext, ?_⟩
    rintro rfl
    exact hcw (Cw721.decodeAcc_module _)

lemma Bridged.functional (hcommas : Cw721.NoCommas C.toExtern) (h : Bridged D s) :
    Hub.Functional (Erc721.ReverseBinds s.world.erc721) (Cw721.Binds C.toExtern s.world.cw721) where
  left_unique := fun hb hb' => hb.unique hb'
  right_unique := fun hb hb' => hb.token_unique hcommas hb'
  right_inj := fun hb hb' => hb.unique h.cw721.store hb'

/-- Of the assets that stand for one thing at most one circulates. -/
lemma Bridged.circulates_unique (hcommas : Cw721.NoCommas C.toExtern) (h : Bridged D s) {A B : Asset}
    (hsame : s.world.SameThing A B) (hA : s.world.Circulates A) (hB : s.world.Circulates B) : A = B :=
  Asset.item_injective (Hub.eq_of_kin (h.functional hcommas) erc721_ne_cw721.symm h.erc721.custody.locked
    h.cw721.locked hA.item hB.item hsame.kin)

/-- In every guarded run that starts with empty stores, when somebody else than the module accounts owns one of the
assets that stand for one thing, nobody owns another but the module accounts. -/
theorem one_circulates (hinj : Set.InjOn C.tmhash D) (hcommas : Cw721.NoCommas C.toExtern) (hfresh : s.Fresh)
    (h : Run (Guarded D) s s') {A B : Asset} (hA : s'.world.Circulates A) (hsame : s'.world.SameThing A B)
    (hne : A ≠ B) : ¬ s'.world.Circulates B := by
  intro hB
  exact hne ((Bridged.run hinj hcommas hfresh h).circulates_unique hcommas hsame hA hB)

lemma guarded_of_alice {ops : List (Op Sample.chain)}
    (hsigner : ∀ op ∈ ops, op.signer = some (Sample.accString Sample.alice)) (op : Op Sample.chain) (hop : op ∈ ops)
    (s s' : System Sample.chain) : Guarded Set.univ s op s' := by
  refine ⟨conforming_of_alice hsigner op hop s s', fun st hst => ?_⟩
  have hnone := hsigner op hop
  rw [hst] at hnone
  cases hnone

theorem one_circulates_first : ∃ s s' : System Sample.chain, s.Fresh ∧ Run (Guarded Set.univ) s s' ∧
    s'.world.Circulates (.erc721 Sample.deployed firstToken) ∧
    ¬ s'.world.Circulates (.native (str "kitty") (str "cat1")) := by
  let s : System Sample.chain := ⟨⟨.empty, .empty, .empty, .empty, .empty⟩, []⟩
  have hfresh : s.Fresh := ⟨⟨true, rfl⟩, ⟨_, _, rfl⟩, rfl, rfl⟩
  obtain ⟨s', hrun⟩ := exists_eq_ok (x := s.execAll firstConversion) (by decide +kernel)
  have h : Run (Guarded Set.univ) s s' := System.run_of_execAll (guarded_of_alice
    (by simp [firstConversion, Op.signer, ConvertMsg.signer, CollectionMsg.signer])) hrun
  have hstate : (s.execAll firstConversion).toOption.any (fun s' => decide (
      s'.world.erc721.byNFTUID.get? (Erc721.createNFTUID (str "kitty") (str "cat1")) =
        some (Erc721.createTokenUID Sample.deployed.lowerHex (Numeral.text 10 firstToken)) ∧
      s'.world.owner (.erc721 Sample.deployed firstToken) =
        some (.evm (hexToAddress (str "0x1111111111111111111111111111111111111111"))))) = true := by decide +kernel
  rw [hrun] at hstate
  obtain ⟨hget, howner⟩ := of_decide_eq_true hstate
  have hcirculates : s'.world.Circulates (.erc721 Sample.deployed firstToken) :=
    ⟨_, howner, by decide +kernel, by decide +kernel⟩
  have hbinds : Erc721.ReverseBinds s'.world.erc721 (str "kitty", str "cat1") (Sample.deployed, firstToken) :=
    ⟨by decide, by decide +kernel, _, .inl rfl, hget⟩
  refine ⟨s, s', hfresh, h, hcirculates, ?_⟩
  exact one_circulates Sample.tmhash_injective.injOn Cw721.noCommas_sample hfresh h hcirculates
    (.symm _ _ (.rel _ _ (.erc721 hbinds))) (by simp)

end Uptick
