import Uptick.Collection.GenesisExport
import Uptick.SampleStore
import Uptick.UpdateRestricted

/-!
# Restarting from an export

A chain that exports its collections must be able to start from them. The messages of x/collection check every id
and URI that they write; a conversion writes the URI that a contract reports and x/internft the ids, URIs and
creators of packets, and neither looks at them.
-/

namespace Uptick

open Text Outcome Collection NftStore

/-- What the write puts on the ledger may stand in a genesis. -/
def LedgerOp.Importable (X : Extern) : LedgerOp → Prop
  | .mint msg => validateTokenIDForDenom msg.denomId msg.id = .ok () ∧ validateTokenURI X msg.fields.uri = .ok ()
  | .merge msg => modified msg.fields.uri = true → msg.fields.uri ≠ removeField →
      validateTokenURI X msg.fields.uri = .ok ()
  | .call (.createOrUpdateClass classID classURI classData) => validateDenomID classID = .ok () ∧
      ∀ cl m, Internft.packetClass X classURI classData = .ok cl → cl.data = .value m →
        validateGenesisCreator X m.creator = .ok ()
  | .call (.mint classID tokenID tokenURI _ _) =>
      validateTokenIDForDenom classID tokenID = .ok () ∧ validateTokenURI X tokenURI = .ok ()
  | _ => True

namespace Collection

variable {X : Extern} {L : NftLedger} {c n : GoString}

lemma Grounded.putClass (h : Grounded L) (cl : Class) : Grounded (L.putClass c cl) := by
  intro c' n' held hheld
  have hold := h c' n' held hheld
  unfold NftLedger.hasClass NftLedger.putClass at *
  dsimp only
  split
  · rfl
  · exact hold

lemma Grounded.put (h : Grounded L) {held : Option Held} (hclass : held ≠ none → L.hasClass c = true) :
    Grounded (L.put c n held) := by
  intro c' n' held' hheld
  by_cases heq : (c', n') = (c, n)
  · obtain ⟨rfl, rfl⟩ := Prod.mk.inj heq
    rw [NftLedger.held_put_self] at hheld
    exact hclass (hheld ▸ Option.some_ne_none _)
  · rw [NftLedger.held_put_of_ne _ _ heq] at hheld
    exact h c' n' held' hheld

lemma Importable.putClass_iff (h : Importable X L) {cl : Class} :
    Importable X (L.putClass c cl) ↔ ImportableClass X c cl := by
  constructor
  · intro h'
    exact h'.classes c cl (if_pos rfl)
  · intro hcl
    refine ⟨fun c' cl' hget => ?_, h.tokens⟩
    by_cases heq : c' = c
    · subst heq
      obtain rfl : cl = cl' := Option.some.inj ((if_pos rfl).symm.trans hget)
      exact hcl
    · exact h.classes c' cl' ((if_neg heq).symm.trans hget)

lemma Importable.put_iff (h : Importable X L) {held : Held} :
    Importable X (L.put c n (some held)) ↔ ImportableToken X c n held := by
  constructor
  · intro h'
    exact h'.tokens c n held (NftLedger.held_put_self _ _ _ _)
  · intro htoken
    refine ⟨h.classes, fun c' n' held' hheld => ?_⟩
    by_cases heq : (c', n') = (c, n)
    · obtain ⟨rfl, rfl⟩ := Prod.mk.inj heq
      rw [NftLedger.held_put_self, Option.some.injEq] at hheld
      exact hheld ▸ htoken
    · rw [NftLedger.held_put_of_ne _ _ heq] at hheld
      exact h.tokens c' n' held' hheld

lemma Importable.put_none (h : Importable X L) : Importable X (L.put c n none) := by
  refine ⟨h.classes, fun c' n' held' hheld => ?_⟩
  by_cases heq : (c', n') = (c, n)
  · obtain ⟨rfl, rfl⟩ := Prod.mk.inj heq
    rw [NftLedger.held_put_self] at hheld
    cases hheld
  · rw [NftLedger.held_put_of_ne _ _ heq] at hheld
    exact h.tokens c' n' held' hheld

lemma exists_decodeAcc {acc : AccAddress} (h : Spellable acc) : ∃ acc', X.decodeAcc (X.accString acc) = .ok acc' :=
  ⟨acc, X.decodeAcc_accString h.1 h.2⟩

lemma validateGenesisCreator_accString {acc : AccAddress} (h : Spellable acc) :
    validateGenesisCreator X (X.accString acc) = .ok () :=
  validateGenesisCreator_eq_ok.mpr (.inr (exists_decodeAcc h))

lemma ImportableToken.give {t : NFT} {o dst : AccAddress} (h : ImportableToken X c n ⟨t, o⟩) (hdst : Spellable dst) :
    ImportableToken X c n ⟨t, dst⟩ :=
  ⟨exists_decodeAcc hdst, h.id, h.uri⟩

lemma TokenBuilder.build_uri {uri data : GoString} {token : NFT} (h : TokenBuilder.build uri data = .ok token) :
    token.uri = uri := by
  unfold TokenBuilder.build at h
  split at h
  · cases h
  · split at h
    · obtain ⟨-, -, h⟩ := bind_eq_ok.mp h
      cases h
      rfl
    · obtain ⟨-, -, h⟩ := bind_eq_ok.mp h
      cases h
      rfl

lemma validateTokenURI_nil (hurl : X.urlScheme [] = some []) : validateTokenURI X [] = .ok () := by
  rw [validateTokenURI, require_of (by decide), ok_bind, require_of (by decide), ok_bind, hurl]
  exact require_of List.mem_cons_self

lemma validateTokenURI_modify (hurl : X.urlScheme [] = some []) {origin target : GoString}
    (horigin : validateTokenURI X origin = .ok ()) : validateTokenURI X (modify origin target) = .ok () ↔
      (modified target = true → target ≠ removeField → validateTokenURI X target = .ok ()) := by
  unfold modify modified
  by_cases hkeep : target = doNotModify ∨ target = []
  · rw [if_pos hkeep]
    refine iff_of_true horigin fun hmodified => ?_
    rcases hkeep with rfl | rfl <;> simp at hmodified
  · rw [if_neg hkeep]
    rw [not_or] at hkeep
    by_cases hremove : target = removeField
    · rw [if_pos hremove]
      exact iff_of_true (validateTokenURI_nil hurl) fun _ hne => absurd hremove hne
    · rw [if_neg hremove]
      simp [hkeep.1, hkeep.2, hremove]

lemma Edited.validateTokenURI (hurl : X.urlScheme [] = some []) {f : TokenFields} {token token' : NFT}
    (h : Edited f token token') (htoken : Collection.validateTokenURI X token.uri = .ok ())
    (hf : Collection.validateTokenURI X f.uri = .ok ()) : Collection.validateTokenURI X token'.uri = .ok () := by
  obtain rfl | ⟨_, _, -, rfl⟩ := h
  · exact htoken
  · exact (validateTokenURI_modify hurl htoken).mpr fun _ _ => hf

lemma validateTokenURI_movedToken (hurl : X.urlScheme [] = some []) {f : TokenFields} {token : NFT} {m : Bool × NFT}
    (h : movedToken token f = .ok m) (htoken : validateTokenURI X token.uri = .ok ()) :
    validateTokenURI X m.2.uri = .ok () ↔
      (modified f.uri = true → f.uri ≠ removeField → validateTokenURI X f.uri = .ok ()) := by
  unfold movedToken at h
  obtain ⟨changed, -, h⟩ := bind_eq_ok.mp h
  split at h
  · obtain ⟨data, -, h⟩ := bind_eq_ok.mp h
    cases h
    exact validateTokenURI_modify hurl htoken
  · next hsame =>
    cases h
    refine iff_of_true htoken fun hmodified _ => ?_
    have huri : f.uri = token.uri := by
      by_contra hne
      simp [tokenChanged, hmodified, hne] at hsame
    rwa [huri]

end Collection

variable {C : Chain} {L L' : NftLedger}

lemma importable_saveDenom {id : GoString} {f : DenomFields} {creator : AccAddress} (hground : Grounded L)
    (h : Importable C.toExtern L) (hcreator : Spellable creator)
    (hrun : saveDenom C.toExtern C.nk L id f creator = .ok L') : Grounded L' ∧ Importable C.toExtern L' := by
  have hid := (check_bind_eq_ok.mp hrun).1
  obtain ⟨-, rfl⟩ := Erc721.saveDenom_eq_ok hrun
  refine ⟨hground.putClass _, h.putClass_iff.mpr ⟨hid, ?_⟩⟩
  rintro m hm
  cases hm
  exact validateGenesisCreator_accString hcreator

lemma importable_transferNFT (hurl : C.urlScheme [] = some []) {msg : MsgTransferNFT} (hground : Grounded L)
    (h : Importable C.toExtern L) (hrun : transferNFT C.toExtern C.nk L msg = .ok L') :
    Grounded L' ∧ (Importable C.toExtern L' ↔ (LedgerOp.merge msg).Importable C.toExtern) := by
  obtain ⟨sender, recipient, -, hrecipient, hrun⟩ := transferNFT_eq_ok.mp hrun
  obtain ⟨token, denom, m, hheld, -, hmoved, -, rfl⟩ := transferOwnership_eq_ok.mp hrun
  have htoken := h.tokens _ _ _ hheld
  refine ⟨hground.put fun _ => hground _ _ _ hheld, h.put_iff.trans ?_⟩
  rw [LedgerOp.Importable, ← validateTokenURI_movedToken hurl hmoved htoken.uri]
  constructor
  · intro hmovedToken
    exact hmovedToken.uri
  · intro huri
    exact ⟨exists_decodeAcc (C.decodeAcc_ok hrecipient), htoken.id, huri⟩

lemma importable_mintNFT {msg : MsgMintNFT} (hground : Grounded L) (h : Importable C.toExtern L)
    (hrun : mintNFT C.toExtern C.nk L msg = .ok L') :
    Grounded L' ∧ (Importable C.toExtern L' ↔ (LedgerOp.mint msg).Importable C.toExtern) := by
  obtain ⟨recipient, _, denom, hrecipient, -, hdenom, -, -, -, -, -, rfl⟩ := mintNFT_eq_ok.mp hrun
  refine ⟨hground.put fun _ => hasClass_of_getDenomInfo hdenom, h.put_iff.trans ?_⟩
  constructor
  · intro htoken
    exact ⟨htoken.id, htoken.uri⟩
  · rintro ⟨hid, huri⟩
    exact ⟨exists_decodeAcc (C.decodeAcc_ok hrecipient), hid, huri⟩

lemma importable_message (hurl : C.urlScheme [] = some []) {w : World C} {msg : CollectionMsg}
    (hground : Grounded w.nft) (h : Importable C.toExtern w.nft) (valid : msg.validateBasic C.toExtern = .ok ())
    (hrun : msg.handle w = .ok L') : Grounded L' ∧ Importable C.toExtern L' := by
  cases msg with
  | issueDenom msg =>
    obtain ⟨sender, hsender, hrun⟩ := bind_eq_ok.mp hrun
    obtain ⟨-, hrun⟩ := check_bind_eq_ok.mp hrun
    exact importable_saveDenom hground h (C.decodeAcc_ok hsender) hrun
  | mintNFT msg =>
    obtain ⟨hground', hiff⟩ := importable_mintNFT hground h hrun
    obtain ⟨-, valid⟩ := check_bind_eq_ok.mp valid
    obtain ⟨-, valid⟩ := check_bind_eq_ok.mp valid
    obtain ⟨hlocal, valid⟩ := require_bind_eq_ok.mp valid
    obtain ⟨-, valid⟩ := check_bind_eq_ok.mp valid
    obtain ⟨huri, valid⟩ := check_bind_eq_ok.mp valid
    obtain ⟨-, hid⟩ := check_bind_eq_ok.mp valid
    refine ⟨hground', hiff.mpr ⟨?_, huri⟩⟩
    rw [validateTokenIDForDenom, hlocal]
    exact hid
  | editNFT msg =>
    obtain ⟨sender, hsender, hrun⟩ := bind_eq_ok.mp hrun
    obtain ⟨token, token', denom, hheld, -, -, hedit, rfl⟩ := updateNFT_spec hrun
    obtain ⟨-, valid⟩ := check_bind_eq_ok.mp valid
    obtain ⟨-, valid⟩ := require_bind_eq_ok.mp valid
    obtain ⟨-, valid⟩ := check_bind_eq_ok.mp valid
    obtain ⟨huri, -⟩ := check_bind_eq_ok.mp valid
    have htoken := h.tokens _ _ _ hheld
    refine ⟨hground.put fun _ => hground _ _ _ hheld, h.put_iff.mpr ⟨htoken.owner, htoken.id, ?_⟩⟩
    exact hedit.validateTokenURI hurl htoken.uri huri
  | transferNFT msg =>
    obtain ⟨hground', hiff⟩ := importable_transferNFT hurl hground h hrun
    obtain ⟨-, valid⟩ := check_bind_eq_ok.mp valid
    obtain ⟨huri, -⟩ := check_bind_eq_ok.mp valid
    exact ⟨hground', hiff.mpr fun _ _ => huri⟩
  | burnNFT msg =>
    obtain ⟨_, -, -, -, -, -, rfl⟩ := burnNFT_eq_ok.mp hrun
    exact ⟨hground.put (absurd rfl), h.put_none⟩
  | transferDenom msg =>
    obtain ⟨_, -, hrun⟩ := bind_eq_ok.mp hrun
    obtain ⟨recipient, hrecipient, hrun⟩ := bind_eq_ok.mp hrun
    obtain ⟨denom, hdenom, hrun⟩ := bind_eq_ok.mp hrun
    obtain ⟨_, -, hrun⟩ := bind_eq_ok.mp hrun
    obtain ⟨-, hrun⟩ := require_bind_eq_ok.mp hrun
    obtain ⟨-, rfl⟩ := C.nk.updateClass_eq_ok.mp hrun
    obtain ⟨cl, hcl⟩ := Option.isSome_iff_exists.mp (hasClass_of_getDenomInfo hdenom)
    refine ⟨hground.putClass _, h.putClass_iff.mpr ⟨(h.classes _ _ hcl).id, ?_⟩⟩
    rintro m hm
    cases hm
    exact validateGenesisCreator_accString (C.decodeAcc_ok hrecipient)

lemma importable_call {k : Internft.Call} {converted : GoString → GoString → Bool} (hground : Grounded L)
    (h : Importable C.toExtern L) (account : k.Receives) (hrun : k.run C.toExtern C.nk converted L = .ok L') :
    Grounded L' ∧ (Importable C.toExtern L' ↔ (LedgerOp.call k).Importable C.toExtern) := by
  cases k with
  | createOrUpdateClass c uri data =>
    obtain ⟨cl, hcl, rfl⟩ := Internft.createOrUpdateClass_ok hrun
    refine ⟨hground.putClass cl, h.putClass_iff.trans ?_⟩
    constructor
    · intro hclass
      refine ⟨hclass.id, fun cl' m hcl' hm => ?_⟩
      obtain rfl : cl = cl' := Except.ok.inj (hcl.symm.trans hcl')
      exact hclass.creator m hm
    · rintro ⟨hid, hcreator⟩
      exact ⟨hid, fun m hm => hcreator cl m hcl hm⟩
  | mint c n uri data receiver =>
    obtain ⟨token, htoken, hclass, -, rfl⟩ := Internft.mint_ok hrun
    have huri := TokenBuilder.build_uri htoken
    refine ⟨hground.put fun _ => hclass, h.put_iff.trans ?_⟩
    constructor
    · intro himportable
      exact ⟨himportable.id, huri ▸ himportable.uri⟩
    · rintro ⟨hid, hvalid⟩
      exact ⟨exists_decodeAcc account, hid, huri.symm ▸ hvalid⟩
  | transfer c n data receiver =>
    obtain ⟨token, owner, token', hheld, hdata, rfl⟩ := Internft.transfer_ok hrun
    have htoken := h.tokens _ _ _ hheld
    have huri : token'.uri = token.uri := by
      obtain ⟨-, rfl⟩ | ⟨-, hbuild⟩ := hdata
      · rfl
      · exact TokenBuilder.build_uri hbuild
    refine ⟨hground.put fun _ => hground _ _ _ hheld, iff_of_true (h.put_iff.mpr ?_) trivial⟩
    exact ⟨exists_decodeAcc account, htoken.id, huri.symm ▸ htoken.uri⟩
  | burn c n =>
    rcases Internft.burn_ok hrun with ⟨-, rfl⟩ | ⟨-, rfl⟩
    · exact ⟨hground, iff_of_true h trivial⟩
    · exact ⟨hground.put (absurd rfl), iff_of_true h.put_none trivial⟩

theorem LedgerStep.importable_iff (hurl : C.urlScheme [] = some []) {op : LedgerOp} (hground : Grounded L)
    (h : Importable C.toExtern L) (hstep : LedgerStep C L op L') :
    Grounded L' ∧ (Importable C.toExtern L' ↔ op.Importable C.toExtern) := by
  cases hstep with
  | message valid hrun =>
    obtain ⟨hground', h'⟩ := importable_message hurl hground h valid hrun
    exact ⟨hground', iff_of_true h' trivial⟩
  | saveDenom account hrun =>
    obtain ⟨hground', h'⟩ := importable_saveDenom hground h account hrun
    exact ⟨hground', iff_of_true h' trivial⟩
  | mint hrun => exact importable_mintNFT hground h hrun
  | merge hrun => exact importable_transferNFT hurl hground h hrun
  | give held account =>
    refine ⟨hground.put fun _ => hground _ _ _ held, iff_of_true (h.put_iff.mpr ?_) trivial⟩
    exact (h.tokens _ _ _ held).give account
  | burn => exact ⟨hground.put (absurd rfl), iff_of_true h.put_none trivial⟩
  | call account hrun => exact importable_call hground h account hrun

/-- A run of writes that may all stand in a genesis. -/
theorem LedgerRun.importable (hurl : C.urlScheme [] = some [])
    (hrun : LedgerRun C (fun _ op _ => op.Importable C.toExtern) .empty L) :
    Grounded L ∧ Importable C.toExtern L := by
  refine hrun.invariant (I := fun L => Grounded L ∧ Importable C.toExtern L) ?_ ⟨?_, ?_⟩
  · rintro L op L' ⟨hground, himportable⟩ hstep hop
    obtain ⟨hground', hiff⟩ := hstep.importable_iff hurl hground himportable
    exact ⟨hground', hiff.mpr hop⟩
  · intro c n held hheld
    cases hheld
  · constructor
    · intro c cl hcl
      cases hcl
    · intro c n held hheld
      cases hheld

/-- The chain can restart from its export as long as all that was written may stand in a genesis, and it cannot
after the first write that may not. -/
theorem export_restarts (C : Chain) (hurl : C.urlScheme [] = some []) (R : Records) :
    (∀ L, LedgerRun C (fun _ op _ => op.Importable C.toExtern) .empty L →
      ∀ B supply, Represents R B L supply → Restarts C.toExtern R B) ∧
    ∀ L op L', LedgerRun C (fun _ op _ => op.Importable C.toExtern) .empty L → LedgerStep C L op L' →
      ∀ B supply, Represents R B L' supply → (Restarts C.toExtern R B ↔ op.Importable C.toExtern) := by
  constructor
  · intro L hrun B supply hB
    obtain ⟨hground, himportable⟩ := hrun.importable hurl
    exact (restarts_iff_importable hB hground).mpr himportable
  · intro L op L' hrun hstep B supply hB
    obtain ⟨hground, himportable⟩ := hrun.importable hurl
    obtain ⟨hground', hiff⟩ := hstep.importable_iff hurl hground himportable
    exact (restarts_iff_importable hB hground').trans hiff

lemma exists_represents_token (R : Records) {c n : GoString} {cl : Collection.Class} {t : NFT} {o : AccAddress}
    (hc : 0 ∉ c) (ho : o.length ≤ 255) :
    ∃ B supply, Represents R B ((NftLedger.empty.putClass c cl).put c n (some ⟨t, o⟩)) supply :=
  ⟨_, _, ((represents_empty R).putClass c cl).putToken rfl hc ho (by decide)⟩

theorem export_restarts_frozen_cat : ∃ L B supply,
    LedgerRun Sample.chain (fun _ op _ => op.Importable Sample.X) .empty L ∧
      L.hasNFT (str "kitty") (str "cat1") = true ∧
    Represents Sample.records B L supply ∧ Restarts Sample.X Sample.records B := by
  obtain ⟨L, hexec⟩ := exists_eq_ok (x := LedgerOp.execAll emptyWorld frozenCat) (by decide +kernel)
  have hmessages : ∀ op ∈ frozenCat, op.Importable Sample.X := by simp [frozenCat, LedgerOp.Importable]
  have hrun : LedgerRun Sample.chain (fun _ op _ => op.Importable Sample.X) .empty L :=
    ledgerRun_of_execAll (w := emptyWorld) (fun op hop _ _ => hmessages op hop) hexec
  obtain ⟨L₁, hissue, hrest⟩ := bind_eq_ok.mp hexec
  obtain ⟨L₂, hmint, hdone⟩ := bind_eq_ok.mp hrest
  obtain rfl : L₂ = L := Except.ok.inj hdone
  obtain ⟨-, hissue⟩ := check_bind_eq_ok.mp hissue
  obtain ⟨_, -, hissue⟩ := bind_eq_ok.mp hissue
  obtain ⟨-, hissue⟩ := check_bind_eq_ok.mp hissue
  obtain ⟨-, rfl⟩ := Erc721.saveDenom_eq_ok hissue
  obtain ⟨-, hmint⟩ := check_bind_eq_ok.mp hmint
  obtain ⟨recipient, _, _, hrecipient, -, -, -, -, -, -, -, rfl⟩ := mintNFT_eq_ok.mp hmint
  have hzero : 0 ∉ str "kitty" := by decide
  obtain ⟨B, supply, hB⟩ := exists_represents_token Sample.records hzero (Sample.X.decodeAcc_ok hrecipient).2
  exact ⟨_, B, supply, hrun, rfl, hB, (export_restarts Sample.chain rfl Sample.records).1 _ hrun B supply hB⟩

/-- A packet brings a voucher class without class data. -/
def voucherClass : LedgerOp := .call (.createOrUpdateClass (str "ibc/AB12") [] [])

/-- The packet brings a token whose URI is a line feed. -/
def lineFeedToken : LedgerOp := .call (.mint (str "ibc/AB12") (str "cat1") (str "\n") [] Sample.alice)

theorem export_stops_line_feed : ∃ L L' B supply,
    LedgerRun Sample.chain (fun _ op _ => op.Importable Sample.X) .empty L ∧
    LedgerStep Sample.chain L lineFeedToken L' ∧ Represents Sample.records B L' supply ∧
    ¬Restarts Sample.X Sample.records B := by
  obtain ⟨L', hexec⟩ := exists_eq_ok (x := LedgerOp.execAll emptyWorld [voucherClass, lineFeedToken])
    (by decide +kernel)
  obtain ⟨L, hclass, hrest⟩ := bind_eq_ok.mp hexec
  obtain ⟨L₂, hmint, hdone⟩ := bind_eq_ok.mp hrest
  obtain rfl : L₂ = L' := Except.ok.inj hdone
  have hallowed : voucherClass.Importable Sample.X := by
    refine ⟨by decide +kernel, fun cl m hcl hm => ?_⟩
    cases hcl
    cases hm
    have haccount : Spellable Collection.accModuleAddress := by decide
    exact validateGenesisCreator_accString haccount
  have hrun : LedgerRun Sample.chain (fun _ op _ => op.Importable Sample.X) .empty L :=
    .single ⟨voucherClass, ledgerStep_of_exec hclass, hallowed⟩
  have hstep : LedgerStep Sample.chain L lineFeedToken L₂ := ledgerStep_of_exec hmint
  obtain ⟨hground, himportable⟩ := hrun.importable rfl
  obtain ⟨hground', hiff⟩ := hstep.importable_iff rfl hground himportable
  obtain ⟨-, hclass⟩ := require_bind_eq_ok.mp hclass
  obtain ⟨cl, -, rfl⟩ := Internft.createOrUpdateClass_ok hclass
  obtain ⟨-, hmint⟩ := require_bind_eq_ok.mp hmint
  obtain ⟨token, -, -, -, rfl⟩ := Internft.mint_ok hmint
  have hzero : 0 ∉ str "ibc/AB12" := by decide
  have haccount : Sample.alice.length ≤ 255 := by decide
  obtain ⟨B, supply, hB⟩ := exists_represents_token Sample.records hzero haccount
  refine ⟨_, _, B, supply, hrun, hstep, hB, fun hrestarts => ?_⟩
  have huri := (hiff.mp ((restarts_iff_importable hB hground').mp hrestarts)).2
  exact absurd huri (by decide +kernel)

end Uptick
