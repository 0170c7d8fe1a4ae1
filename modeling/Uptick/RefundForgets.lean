import Uptick.Cw721.RefundForgets
import Uptick.Cw721.StoreRun
import Uptick.Erc721.RefundForgets

/-!
# Refunds and the native NFT

A refund that hands a contract token back deletes the binding of its own module. The native NFT goes with it when the
other module has no binding for it, and stays otherwise.
-/

namespace Uptick

open Text Evm Outcome Collection
open Erc721 (createNFTUID)

variable {C : Chain} {w w' : World C} {p : Ibc.Packet} {K n : GoString}

lemma Ibc.OfClass.returned {acc : AccAddress} {L : NftLedger} (h : OfClass w p)
    (hclass : getRefundClassId w p = .ok K) (hL : C.ics.refund w.nft p acc = .ok L)
    (hn : n ∈ p.tokenIds) : L.hasClass K = true ∧ L.getOwner K n = acc := by
  obtain rfl : p.classId = K := Except.ok.inj (h.refundClass.symm.trans hclass)
  have hback := C.ics.refund_ok hL h.voucherClass
  obtain ⟨-, token, hheld⟩ := hback.token n hn
  exact ⟨(hback.hasClass _).trans h.hasClass, NftLedger.getOwner_of_held hheld⟩

namespace Erc721

variable {c : Address} {v : Nat} {D : Set GoString}

lemma HandsBack.callback (h : HandsBack w p K n c v) (hrun : Ibc.onTimeoutPacket w p = .ok w') :
    ∃ L before after, C.ics.refund w.nft p accModuleAddress = .ok L ∧ p.tokenIds = before ++ n :: after ∧
      C.evm.owner (refundToken K (refundPacketToken { w with nft := L } K before) n).evm c v ≠
        C.evm.owner (refundPacketToken { w with nft := L } K before).evm c v ∧
      w' = refundPacketToken { w with nft := L } K (before ++ n :: after) := by
  obtain ⟨L, before, after, hL, hids, hmoved⟩ := h.round
  refine ⟨L, before, after, hL, hids, hmoved, ?_⟩
  unfold Ibc.onTimeoutPacket at hrun
  rw [h.kind] at hrun
  obtain ⟨K', hK', hrun⟩ := bind_eq_ok.mp hrun
  obtain ⟨L', hL', hrun⟩ := bind_eq_ok.mp hrun
  obtain rfl : K' = K := Except.ok.inj (hK'.symm.trans h.classId)
  obtain rfl : L' = L := Except.ok.inj (hL'.symm.trans hL)
  rw [← hids]
  exact (Except.ok.inj hrun).symm

/-- What has to hold before the callback: x/cw721 has no entry, and the records are those that the round deletes. -/
theorem HandsBack.forgotten (h : HandsBack w p K n c v) (hrun : Ibc.onTimeoutPacket w p = .ok w')
    (hclass : Ibc.OfClass w p) (hinv : Custody D w) (hfree : w.cw721.byNFTUID.get? (createNFTUID K n) = none)
    (hrecords : ∀ k, RecordKey n c v k → w.erc721.evmAddress.get? k ≠ none → Deletes w.erc721 K n k) :
    Forgotten w' K n c v := by
  obtain ⟨L, before, after, hL, hids, hmoved, rfl⟩ := h.callback hrun
  obtain ⟨hhas, howner⟩ := hclass.returned h.classId hL (n := n) (by rw [hids]; simp)
  have hK : comma ∉ K := by
    obtain rfl : p.classId = K := Except.ok.inj (hclass.refundClass.symm.trans h.classId)
    exact hinv.bound.plain _ hclass.hasClass
  exact @refundPacketToken_forgotten C { w with nft := L } K n c v before after hK hinv.index hhas howner hmoved hfree
    hrecords

lemma HandsBack.deleted (h : HandsBack w p K n c v) (hrun : Ibc.onTimeoutPacket w p = .ok w')
    (hclass : Ibc.OfClass w p) (hinv : Custody D w) {k : GoString} (hk : w.erc721.evmAddress.get? k ≠ none)
    (hgone : w'.erc721.evmAddress.get? k = none) : ∃ m ∈ p.tokenIds, Deletes w.erc721 K m k := by
  obtain ⟨L, before, after, -, hids, -, rfl⟩ := h.callback hrun
  obtain rfl : p.classId = K := Except.ok.inj (hclass.refundClass.symm.trans h.classId)
  have hloop := @Refunding.loop C { w with nft := L } p.classId p.tokenIds (hinv.bound.plain _ hclass.hasClass)
    hinv.index p.tokenIds fun _ => id
  rw [← hids] at hgone
  exact hloop.deleted k hk hgone

end Erc721

namespace Cw721

variable {contract : AccAddress} {t : GoString} {P : AccAddress → Prop}

lemma HandsBack.callback (h : HandsBack w p K n contract t) (hrun : Ibc.onTimeoutPacket w p = .ok w') :
    ∃ L before after, C.ics.refund w.nft p accModuleAddress = .ok L ∧ p.tokenIds = before ++ n :: after ∧
      C.wasm.owner (refundToken K (refundPacketToken { w with nft := L } K before) n).wasm contract t ≠
        C.wasm.owner (refundPacketToken { w with nft := L } K before).wasm contract t ∧
      w' = refundPacketToken { w with nft := L } K (before ++ n :: after) := by
  obtain ⟨L, before, after, hL, hids, hmoved⟩ := h.round
  refine ⟨L, before, after, hL, hids, hmoved, ?_⟩
  unfold Ibc.onTimeoutPacket at hrun
  rw [h.kind] at hrun
  obtain ⟨K', hK', hrun⟩ := bind_eq_ok.mp hrun
  obtain ⟨L', hL', hrun⟩ := bind_eq_ok.mp hrun
  obtain rfl : K' = K := Except.ok.inj (hK'.symm.trans h.classId)
  obtain rfl : L' = L := Except.ok.inj (hL'.symm.trans hL)
  rw [← hids]
  exact (Except.ok.inj hrun).symm

/-- Here the only condition is that x/erc721 has no entry. -/
theorem HandsBack.forgotten (h : HandsBack w p K n contract t) (hrun : Ibc.onTimeoutPacket w p = .ok w')
    (hclass : Ibc.OfClass w p) (hbound : BoundInv w) (hstore : StoreInv C.toExtern P w.cw721)
    (hplain : ∀ acc, comma ∉ C.accString acc) (hfree : w.erc721.byNFTUID.get? (createNFTUID K n) = none) :
    Forgotten w' K n contract t := by
  obtain ⟨L, before, after, hL, hids, hmoved, rfl⟩ := h.callback hrun
  obtain ⟨hhas, howner⟩ := hclass.returned h.classId hL (n := n) (by rw [hids]; simp)
  have hK : comma ∉ K := by
    obtain rfl : p.classId = K := Except.ok.inj (hclass.refundClass.symm.trans h.classId)
    exact hbound.plain _ hclass.hasClass
  exact @refundPacketToken_forgotten C { w with nft := L } K n t contract P before after hstore hK hplain hhas howner
    hmoved hfree

end Cw721

lemma onTimeoutPacket_cw721 (h : Ibc.onTimeoutPacket w p = .ok w')
    (hkind : Ibc.outboundConvertKind C.toExtern p = .erc721) : w'.cw721 = w.cw721 := by
  unfold Ibc.onTimeoutPacket at h
  rw [hkind] at h
  obtain ⟨K, -, h⟩ := bind_eq_ok.mp h
  obtain ⟨L, -, h⟩ := bind_eq_ok.mp h
  cases h
  refine Erc721.refundPacketToken_invariant (I := fun u => u.cw721 = w.cw721) (fun u n u' _ hu hr => ?_) rfl
  cases hr with
  | skipped => exact hu
  | returned => rwa [(Erc721.burnRefunded_frame _ K n).2.1]
  | dropped => rwa [(Erc721.burnRefunded_frame _ K n).2.1]

lemma onTimeoutPacket_erc721 (h : Ibc.onTimeoutPacket w p = .ok w')
    (hkind : Ibc.outboundConvertKind C.toExtern p = .cw721) : w'.erc721 = w.erc721 := by
  unfold Ibc.onTimeoutPacket at h
  rw [hkind] at h
  obtain ⟨K, -, h⟩ := bind_eq_ok.mp h
  obtain ⟨L, -, h⟩ := bind_eq_ok.mp h
  cases h
  refine Cw721.refundPacketToken_invariant (I := fun u => u.erc721 = w.erc721) (fun u n u' _ hu hr => ?_) rfl
  exact (hr.keeps erc721_ne_cw721).2.1.trans hu

lemma BoundInv.unbound_of_burned (h : BoundInv w) (hK : comma ∉ K) (hburned : w.nft.hasNFT K n = false) :
    w.erc721.byNFTUID.get? (createNFTUID K n) = none ∧ w.cw721.byNFTUID.get? (createNFTUID K n) = none := by
  have hentry : ∀ uid, ¬Entry w.nft (createNFTUID K n) uid := by
    intro uid hentry
    have hnames := hentry.names
    rw [NamesNFT, hentry.cut hK, hburned] at hnames
    cases hnames
  exact ⟨Option.eq_none_iff_forall_ne_some.mpr fun uid hget => hentry uid (h.erc721 _ _ hget),
    Option.eq_none_iff_forall_ne_some.mpr fun uid hget => hentry uid (h.cw721 _ _ hget)⟩

/-- The condition on the state before the callback of x/erc721: x/cw721 has no entry for the NFT, and its refund records
are under keys of the rounds of the given NFTs. -/
def Erc721.Clean (w : World C) (K n : GoString) (c : Address) (v : Nat) (ns : List GoString) : Prop :=
  w.cw721.byNFTUID.get? (createNFTUID K n) = none ∧
    ∀ k, Erc721.RecordKey n c v k → w.erc721.evmAddress.get? k ≠ none → ∃ m ∈ ns, Erc721.Deletes w.erc721 K m k

/-- In every conforming run from empty stores, a refund that hands a token back forgets the NFT when the other
module has no entry for it. In x/erc721 every refund record of the NFT must also be one that the refund deletes: the
condition with the NFT alone is enough, the condition with the NFTs of the packet is needed. -/
theorem refund_forgets {D : Set GoString} (hinj : Set.InjOn C.tmhash D) (hplain : ∀ acc, comma ∉ C.accString acc)
    {s s₁ s₂ : System C} (hfresh : s.Fresh) (hrun : Run (Conforming D) s s₁) {f : Flight}
    (hstep : Step s₁ (.refund f) s₂) (K n : GoString) :
    (∀ c v, Erc721.HandsBack s₁.world f.packet K n c v →
      (Erc721.Clean s₁.world K n c v [n] → Erc721.Forgotten s₂.world K n c v) ∧
      (Erc721.Forgotten s₂.world K n c v → Erc721.Clean s₁.world K n c v f.packet.tokenIds)) ∧
    (∀ contract t, Cw721.HandsBack s₁.world f.packet K n contract t →
      (Cw721.Forgotten s₂.world K n contract t ↔ s₁.world.erc721.byNFTUID.get? (createNFTUID K n) = none)) := by
  have hsafe : Erc721.Safe D s₁ :=
    hrun.invariant (fun _ _ _ hs hstep hok => hs.step hinj hstep hok) hfresh.unused.safe
  have hcw : Cw721.Safe (fun _ => True) s₁ :=
    hrun.invariant (fun _ _ _ hs hstep hok => hs.step ⟨fun _ => trivial, fun _ => trivial⟩ hstep hok) (.of_fresh hfresh)
  have hbound := hstep.boundInv hsafe.custody.bound
  have hplainK : ∀ {K}, Ibc.OfClass s₁.world f.packet → Ibc.getRefundClassId s₁.world f.packet = .ok K → comma ∉ K := by
    intro K hclass hK
    obtain rfl : f.packet.classId = K := Except.ok.inj (hclass.refundClass.symm.trans hK)
    exact hsafe.custody.bound.plain _ hclass.hasClass
  cases hstep with
  | refund hf hcall =>
    refine ⟨fun c v hback => ?_, fun contract t hback => ?_⟩
    · have hclass := hsafe.flights f hf hback.kind
      refine ⟨fun hclean => ?_, fun hforgot => ⟨?_, fun k hkey hk => ?_⟩⟩
      · refine hback.forgotten hcall hclass hsafe.custody hclean.1 fun k hkey hk => ?_
        obtain ⟨m, hm, hdel⟩ := hclean.2 k hkey hk
        exact List.mem_singleton.mp hm ▸ hdel
      · rw [← onTimeoutPacket_cw721 hcall hback.kind]
        exact (hbound.unbound_of_burned (hplainK hclass hback.classId) hforgot.burned).2
      · exact hback.deleted hcall hclass hsafe.custody hk (hforgot.records k hkey)
    · have hclass := hcw.flights f hf hback.kind
      refine ⟨fun hforgot => ?_, hback.forgotten hcall hclass hsafe.custody.bound hcw.store hplain⟩
      rw [← onTimeoutPacket_erc721 hcall hback.kind]
      exact (hbound.unbound_of_burned (hplainK hclass hback.classId) hforgot.burned).1

lemma Cw721.HandsBack.of_first {contract : AccAddress} {t : GoString} {rest : List GoString}
    (kind : Ibc.outboundConvertKind C.toExtern p = .cw721) (classId : Ibc.getRefundClassId w p = .ok K)
    (hids : p.tokenIds = n :: rest)
    (hmoved : ((C.ics.refund w.nft p Cw721.accModuleAddress).toOption.any fun L =>
      decide (C.wasm.owner (Cw721.refundToken K { w with nft := L } n).wasm contract t ≠
        C.wasm.owner w.wasm contract t)) = true) : Cw721.HandsBack w p K n contract t := by
  cases hL : C.ics.refund w.nft p Cw721.accModuleAddress with
  | error e =>
    rw [hL] at hmoved
    cases hmoved
  | ok L =>
    rw [hL] at hmoved
    exact ⟨kind, classId, L, [], rest, hL, hids, of_decide_eq_true hmoved⟩

/-- The id of the token that the first conversion mints. -/
def firstToken : Nat := 0x081706ccee3f19f01752ba7b60dec0f901a746fe4e3f8c00b70ee6671669c802

/-- One user wraps an NFT as an ERC721 token, takes it back, wraps it as a CW721 token and sends it away. -/
def wrappedTwice : List (Op Sample.chain) :=
  firstConversion ++
    [.convert (.convertERC721 ⟨str "0xa92ca1f63c993f2dd1ec18209579e3b263fdb09c",
        [Numeral.text 10 firstToken],
        Sample.accString Sample.alice, Sample.accString Sample.alice, str "kitty", [str "cat1"]⟩),
      .convert (.convertNFTToCW721 ⟨str "kitty", [str "cat1"], Sample.accString Sample.alice,
        Sample.accString Sample.alice, [], []⟩),
      .transferCW721 ⟨Sample.accString (List.replicate 32 0), [str "cat1"], Sample.port, Sample.channel, str "kitty",
        [str "cat1"], Sample.accString Sample.alice, Sample.accString Sample.bob, 0, 0, 1, []⟩]

def wrappedFlight : Flight :=
  ⟨⟨Sample.port, Sample.channel, str "kitty", [str "cat1"], Sample.accString Cw721.accModuleAddress,
    Sample.accString Sample.bob, Cw721.transferCW721Memo⟩, Sample.accString Sample.alice⟩

/-- Before the first message, with a wasm code to deploy contracts from. -/
def withCode : System Sample.chain :=
  ⟨⟨.empty, { Cw721.Store.empty with
      wasmCode := KVStore.empty.set (Sample.accString Cw721.accModuleAddress) (str "1") }, .empty, .empty, .empty⟩, []⟩

lemma withCode_fresh : withCode.Fresh := ⟨⟨true, rfl⟩, ⟨_, _, rfl⟩, rfl, rfl⟩

/-- The binding of x/erc721 outlives the way back, so that the refund of x/cw721 does not burn the NFT. -/
theorem refund_keeps_nft : ∃ s s₁ s₂ : System Sample.chain, ∃ f contract t, s.Fresh ∧ Run (Conforming Set.univ) s s₁ ∧
    Step s₁ (.refund f) s₂ ∧ Cw721.HandsBack s₁.world f.packet (str "kitty") (str "cat1") contract t ∧
    ¬Cw721.Forgotten s₂.world (str "kitty") (str "cat1") contract t := by
  obtain ⟨s₁, hrun⟩ := exists_eq_ok (x := withCode.execAll wrappedTwice) (by decide +kernel)
  have h : Run (Conforming Set.univ) withCode s₁ :=
    System.run_of_execAll (conforming_of_alice (by
      simp [wrappedTwice, firstConversion, Op.signer, ConvertMsg.signer, CollectionMsg.signer])) hrun
  have hmoved : (withCode.execAll wrappedTwice).toOption.any (fun s₁ =>
      (Sample.chain.ics.refund s₁.world.nft wrappedFlight.packet Cw721.accModuleAddress).toOption.any fun L =>
        decide (Sample.chain.wasm.owner (Cw721.refundToken (str "kitty") { s₁.world with nft := L } (str "cat1")).wasm
          (List.replicate 32 0) (str "cat1") ≠ Sample.chain.wasm.owner s₁.world.wasm (List.replicate 32 0)
            (str "cat1"))) = true := by decide +kernel
  have hkept : (withCode.execAll wrappedTwice).toOption.any (fun s₁ => (s₁.exec (.refund wrappedFlight)).toOption.any
      fun s₂ => s₂.world.nft.hasNFT (str "kitty") (str "cat1")) = true := by decide +kernel
  rw [hrun] at hmoved hkept
  cases hcall : s₁.exec (.refund wrappedFlight) with
  | error e =>
    simp only [Except.toOption, Option.any, hcall] at hkept
    cases hkept
  | ok s₂ =>
    simp only [Except.toOption, Option.any, hcall] at hkept
    refine ⟨withCode, s₁, s₂, wrappedFlight, List.replicate 32 0, str "cat1", withCode_fresh, h,
      System.step_of_exec hcall, .of_first (by decide +kernel) rfl rfl hmoved, fun hforgot => ?_⟩
    rw [hforgot.burned] at hkept
    cases hkept

lemma Erc721.HandsBack.of_first {c : Address} {v : Nat} {rest : List GoString}
    (kind : Ibc.outboundConvertKind C.toExtern p = .erc721) (classId : Ibc.getRefundClassId w p = .ok K)
    (hids : p.tokenIds = n :: rest)
    (hmoved : ((C.ics.refund w.nft p Erc721.accModuleAddress).toOption.any fun L =>
      decide (C.evm.owner (Erc721.refundToken K { w with nft := L } n).evm c v ≠ C.evm.owner w.evm c v)) = true) :
    Erc721.HandsBack w p K n c v := by
  cases hL : C.ics.refund w.nft p Erc721.accModuleAddress with
  | error e =>
    rw [hL] at hmoved
    cases hmoved
  | ok L =>
    rw [hL] at hmoved
    exact ⟨kind, classId, L, [], rest, hL, hids, of_decide_eq_true hmoved⟩

/-- The first conversion, and the token is sent away. -/
def wrappedOnce : List (Op Sample.chain) :=
  firstConversion ++
    [.transferERC721 ⟨str "0xa92ca1f63c993f2dd1ec18209579e3b263fdb09c", [Numeral.text 10 firstToken], Sample.port,
      Sample.channel, str "kitty", [str "cat1"], Sample.accString Sample.alice,
      Sample.accString Sample.bob, 0, 0, 1, []⟩]

def onceFlight : Flight :=
  ⟨⟨Sample.port, Sample.channel, str "kitty", [str "cat1"], Sample.accString Erc721.accModuleAddress,
    Sample.accString Sample.bob, Erc721.transferERC721Memo⟩, Sample.accString Sample.alice⟩

lemma Erc721.clean_of_keys {c : Address} {v : Nat} {text t : GoString}
    (hfree : w.cw721.byNFTUID.get? (createNFTUID K n) = none)
    (hcut : Erc721.getNFTFromUID (Erc721.getTokenUIDPairByNFTUID w.erc721 (createNFTUID K n)) = (t, text))
    (htext : text ≠ []) (hkeys : ∀ k ∈ w.erc721.evmAddress.keys, k = toLower text ++ n ∨ k = toLower text ++ t) :
    Erc721.Clean w K n c v [n] := by
  refine ⟨hfree, fun k _ hk => ⟨n, List.mem_singleton_self n, t, text, hcut, htext, hkeys k ?_⟩⟩
  obtain ⟨a, ha⟩ := Option.ne_none_iff_exists'.mp hk
  exact KVStore.mem_keys.mpr ⟨a, ha⟩

theorem refund_forgets_first : ∃ s s₁ s₂ : System Sample.chain, ∃ f c v, s.Fresh ∧ Run (Conforming Set.univ) s s₁ ∧
    Step s₁ (.refund f) s₂ ∧ Erc721.HandsBack s₁.world f.packet (str "kitty") (str "cat1") c v ∧
    Erc721.Forgotten s₂.world (str "kitty") (str "cat1") c v := by
  obtain ⟨s₁, hrun⟩ := exists_eq_ok (x := withCode.execAll wrappedOnce) (by decide +kernel)
  have h : Run (Conforming Set.univ) withCode s₁ := System.run_of_execAll (conforming_of_alice (by
      simp [wrappedOnce, firstConversion, Op.signer, ConvertMsg.signer, CollectionMsg.signer])) hrun
  have hmoved : (withCode.execAll wrappedOnce).toOption.any (fun s₁ =>
      (Sample.chain.ics.refund s₁.world.nft onceFlight.packet Erc721.accModuleAddress).toOption.any fun L =>
        decide (Sample.chain.evm.owner (Erc721.refundToken (str "kitty") { s₁.world with nft := L } (str "cat1")).evm
          Sample.deployed firstToken ≠ Sample.chain.evm.owner s₁.world.evm Sample.deployed firstToken)) = true := by
    decide +kernel
  have hclean : (withCode.execAll wrappedOnce).toOption.any (fun s₁ =>
      decide (s₁.world.cw721.byNFTUID.get? (createNFTUID (str "kitty") (str "cat1")) = none ∧
        Erc721.getNFTFromUID (Erc721.getTokenUIDPairByNFTUID s₁.world.erc721
          (createNFTUID (str "kitty") (str "cat1"))) =
          (Numeral.text 10 firstToken, str "0xa92ca1f63c993f2dd1ec18209579e3b263fdb09c") ∧
        ∀ k ∈ s₁.world.erc721.evmAddress.keys,
          k = toLower (str "0xa92ca1f63c993f2dd1ec18209579e3b263fdb09c") ++ str "cat1" ∨
          k = toLower (str "0xa92ca1f63c993f2dd1ec18209579e3b263fdb09c") ++ Numeral.text 10 firstToken)) = true := by
    decide +kernel
  have hcalled : (withCode.execAll wrappedOnce).toOption.any (fun s₁ =>
      (s₁.exec (.refund onceFlight)).toOption.isSome) = true := by decide +kernel
  rw [hrun] at hmoved hclean hcalled
  obtain ⟨hfree, hcut, hkeys⟩ := of_decide_eq_true hclean
  cases hcall : s₁.exec (.refund onceFlight) with
  | error e =>
    simp only [Except.toOption, Option.any, hcall] at hcalled
    cases hcalled
  | ok s₂ =>
    have hstep := System.step_of_exec hcall
    have hback : Erc721.HandsBack s₁.world onceFlight.packet (str "kitty") (str "cat1") Sample.deployed firstToken :=
      .of_first (by decide +kernel) rfl rfl hmoved
    exact ⟨withCode, s₁, s₂, onceFlight, Sample.deployed, firstToken, withCode_fresh, h, hstep, hback,
      ((refund_forgets Sample.tmhash_injective.injOn (fun acc => (Sample.accString_plain acc).1) withCode_fresh h hstep
        _ _).1 _ _ hback).1 (Erc721.clean_of_keys hfree hcut (by decide) hkeys)⟩

end Uptick
