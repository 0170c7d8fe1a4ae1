import Uptick.LedgerRun
import Uptick.SampleChain

/-!
# Tokens that nobody may update

A class can forbid updates of its tokens. x/collection checks this in its edits and its transfers; x/internft replaces
the record of a token by what a packet says without the check.
-/

namespace Uptick

open Text Outcome Collection

/-- The class lets nobody update its tokens. -/
def UpdateRestricted (L : NftLedger) (c : GoString) : Prop :=
  ∃ denom, getDenomInfo L c = .ok denom ∧ denom.updateRestricted = true

lemma updateRestricted_iff {L : NftLedger} {c : GoString} : UpdateRestricted L c ↔
    ∃ cl m, L.getClass c = some cl ∧ cl.data = .value m ∧ m.updateRestricted = true := by
  unfold UpdateRestricted getDenomInfo
  cases hclass : L.getClass c with
  | none => simp
  | some cl =>
    cases hdata : cl.data with
    | absent => simp [hdata, unmarshal, DenomMetadata.zero, ok_bind]
    | unreadable err => simp [hdata, unmarshal, error_bind]
    | value m => simp [hdata, unmarshal, ok_bind]

lemma UpdateRestricted.congr {L L' : NftLedger} {c : GoString} (h : UpdateRestricted L c)
    (hclass : L'.getClass c = L.getClass c) : UpdateRestricted L' c := by
  rw [updateRestricted_iff] at h ⊢
  rwa [hclass]

/-- The two records show the same. -/
structure SameContent (t t' : NFT) : Prop where
  uri : t'.uri = t.uri
  uriHash : t'.uriHash = t.uriHash
  name : (shownMetadata t'.data).name = (shownMetadata t.data).name
  data : (shownMetadata t'.data).data = (shownMetadata t.data).data

lemma SameContent.refl (t : NFT) : SameContent t t := ⟨rfl, rfl, rfl, rfl⟩

lemma SameContent.trans {t t' t'' : NFT} (h : SameContent t t') (h' : SameContent t' t'') : SameContent t t'' :=
  ⟨h'.uri.trans h.uri, h'.uriHash.trans h.uriHash, h'.name.trans h.name, h'.data.trans h.data⟩

/-- The tokens that nobody may update show the same as before, where they are still there. -/
def ContentKept (L L' : NftLedger) : Prop :=
  ∀ c n t o t' o', UpdateRestricted L c → L.held c n = some ⟨t, o⟩ → L'.held c n = some ⟨t', o'⟩ → SameContent t t'

/-- The token data of a packet is empty, or it describes the token as it is. -/
def LedgerOp.KeepsContent (L : NftLedger) : LedgerOp → Prop
  | .call (.transfer c n tokenData _) => UpdateRestricted L c → tokenData ≠ [] → ∀ t t', L.getNFT c n = some t →
      TokenBuilder.build t.uri tokenData = .ok t' → SameContent t t'
  | _ => True

/-- The class data of a packet does not lift the restriction. -/
def LedgerOp.KeepsFlag (X : Extern) (L : NftLedger) : LedgerOp → Prop
  | .call (.createOrUpdateClass c classURI classData) => UpdateRestricted L c →
      ∀ cl, Internft.packetClass X classURI classData = .ok cl → ∃ m, cl.data = .value m ∧ m.updateRestricted = true
  | _ => True

namespace ContentKept

variable {L L' : NftLedger} {c n : GoString}

lemma of_held (h : L'.held = L.held) : ContentKept L L' := by
  intro c n t o t' o' _ hheld hheld'
  rw [h, hheld, Option.some.injEq, Held.mk.injEq] at hheld'
  rw [← hheld'.1]
  exact .refl t

lemma put {h : Option Held} (hput : ∀ t o t' o', UpdateRestricted L c → L.held c n = some ⟨t, o⟩ →
    h = some ⟨t', o'⟩ → SameContent t t') : ContentKept L (L.put c n h) := by
  intro c' n' t o t' o' hrestricted hheld hheld'
  by_cases heq : (c', n') = (c, n)
  · obtain ⟨rfl, rfl⟩ := Prod.mk.inj heq
    rw [NftLedger.held_put_self] at hheld'
    exact hput t o t' o' hrestricted hheld hheld'
  · rw [NftLedger.held_put_of_ne _ _ heq, hheld, Option.some.injEq, Held.mk.injEq] at hheld'
    rw [← hheld'.1]
    exact .refl t

lemma put_none : ContentKept L (L.put c n none) := put (by simp)

lemma put_new {h : Option Held} (hnone : L.held c n = none) : ContentKept L (L.put c n h) := by
  apply put
  intro t o t' o' _ hheld
  rw [hnone] at hheld
  cases hheld

lemma put_same {t : NFT} {o o' : AccAddress} (hheld : L.held c n = some ⟨t, o⟩) :
    ContentKept L (L.put c n (some ⟨t, o'⟩)) := by
  apply put
  intro t₁ o₁ t₂ o₂ _ h₁ h₂
  rw [hheld, Option.some.injEq, Held.mk.injEq] at h₁
  rw [Option.some.injEq, Held.mk.injEq] at h₂
  rw [← h₁.1, ← h₂.1]
  exact .refl t

end ContentKept

variable {C : Chain} {L L' : NftLedger}

lemma transferNFT_contentKept {msg : MsgTransferNFT} (h : transferNFT C.toExtern C.nk L msg = .ok L') :
    ContentKept L L' := by
  obtain ⟨sender, recipient, -, -, h⟩ := transferNFT_eq_ok.mp h
  obtain ⟨token, denom, m, hheld, hdenom, hmoved, hfree, rfl⟩ := transferOwnership_eq_ok.mp h
  apply ContentKept.put
  intro t o t' o' hrestricted ht ht'
  obtain ⟨denom', hdenom', hflag⟩ := hrestricted
  obtain rfl : denom = denom' := Except.ok.inj (hdenom.symm.trans hdenom')
  rw [hheld, Option.some.injEq, Held.mk.injEq] at ht
  rw [Option.some.injEq, Held.mk.injEq] at ht'
  have hsame : m.2 = token := by
    unfold movedToken at hmoved
    obtain ⟨changed, -, hmoved⟩ := bind_eq_ok.mp hmoved
    split at hmoved
    · obtain ⟨data, -, hmoved⟩ := bind_eq_ok.mp hmoved
      cases hmoved
      exact absurd ⟨hflag, rfl⟩ hfree
    · cases hmoved
      rfl
  rw [← ht'.1, ← ht.1, hsame]
  exact .refl token

lemma CollectionMsg.contentKept {w : World C} {msg : CollectionMsg} (h : msg.handle w = .ok L') :
    ContentKept w.nft L' := by
  cases msg with
  | issueDenom msg =>
    obtain ⟨_, -, h⟩ := bind_eq_ok.mp h
    obtain ⟨-, h⟩ := check_bind_eq_ok.mp h
    obtain ⟨-, rfl⟩ := Erc721.saveDenom_eq_ok h
    exact .of_held rfl
  | mintNFT msg =>
    obtain ⟨_, _, _, -, -, -, -, -, -, -, hnone, rfl⟩ := mintNFT_eq_ok.mp h
    exact .put_new hnone
  | editNFT msg =>
    obtain ⟨sender, -, h⟩ := bind_eq_ok.mp h
    obtain ⟨token, token', denom, -, hdenom, hfree, -, rfl⟩ := updateNFT_spec h
    apply ContentKept.put
    rintro t o t' o' ⟨denom', hdenom', hflag⟩ - -
    obtain rfl : denom = denom' := Except.ok.inj (hdenom.symm.trans hdenom')
    exact absurd (hfree.symm.trans hflag) Bool.false_ne_true
  | transferNFT msg => exact transferNFT_contentKept h
  | burnNFT msg =>
    obtain ⟨_, -, -, -, -, -, rfl⟩ := burnNFT_eq_ok.mp h
    exact .put_none
  | transferDenom msg =>
    obtain ⟨_, -, h⟩ := bind_eq_ok.mp h
    obtain ⟨_, -, h⟩ := bind_eq_ok.mp h
    obtain ⟨_, -, h⟩ := bind_eq_ok.mp h
    obtain ⟨_, -, h⟩ := bind_eq_ok.mp h
    obtain ⟨-, h⟩ := require_bind_eq_ok.mp h
    obtain ⟨-, rfl⟩ := C.nk.updateClass_eq_ok.mp h
    exact .of_held rfl

/-- What a write has to respect is all that can go wrong. -/
theorem LedgerStep.contentKept_iff {op : LedgerOp} (h : LedgerStep C L op L') :
    ContentKept L L' ↔ op.KeepsContent L := by
  cases h with
  | message valid h => exact iff_of_true (CollectionMsg.contentKept h) trivial
  | saveDenom account h =>
    obtain ⟨-, rfl⟩ := Erc721.saveDenom_eq_ok h
    exact iff_of_true (.of_held rfl) trivial
  | mint h =>
    obtain ⟨_, _, _, -, -, -, -, -, -, -, hnone, rfl⟩ := mintNFT_eq_ok.mp h
    exact iff_of_true (.put_new hnone) trivial
  | merge h => exact iff_of_true (transferNFT_contentKept h) trivial
  | give held account => exact iff_of_true (.put_same held) trivial
  | burn => exact iff_of_true .put_none trivial
  | @call _ _ call converted account h =>
    cases call with
    | createOrUpdateClass c uri data =>
      obtain ⟨cl, -, rfl⟩ := Internft.createOrUpdateClass_ok h
      exact iff_of_true (.of_held rfl) trivial
    | mint c n uri data receiver =>
      obtain ⟨token, -, -, hnone, rfl⟩ := Internft.mint_ok h
      exact iff_of_true (.put_new hnone) trivial
    | burn c n =>
      rcases Internft.burn_ok h with ⟨-, rfl⟩ | ⟨-, rfl⟩
      · exact iff_of_true (.of_held rfl) trivial
      · exact iff_of_true .put_none trivial
    | transfer c n data receiver =>
      obtain ⟨token, owner, token', hheld, hdata, rfl⟩ := Internft.transfer_ok h
      have hget : L.getNFT c n = some token := by
        rw [NftLedger.getNFT, hheld]
        rfl
      constructor
      · intro hkept hrestricted hne t t' ht ht'
        obtain rfl := Option.some.inj (hget.symm.trans ht)
        obtain ⟨hnil, -⟩ | ⟨-, hbuild⟩ := hdata
        · exact absurd hnil hne
        · obtain rfl := Except.ok.inj (hbuild.symm.trans ht')
          exact hkept c n _ owner _ receiver hrestricted hheld (NftLedger.held_put_self _ _ _ _)
      · intro hkeeps
        obtain ⟨-, rfl⟩ | ⟨hne, hbuild⟩ := hdata
        · exact .put_same hheld
        · apply ContentKept.put
          intro t o t' o' hrestricted ht ht'
          rw [hheld, Option.some.injEq, Held.mk.injEq] at ht
          rw [Option.some.injEq, Held.mk.injEq] at ht'
          rw [← ht.1, ← ht'.1]
          exact hkeeps hrestricted hne token token' hget hbuild

lemma UpdateRestricted.putClass {c c' : GoString} {cl : Collection.Class} (h : UpdateRestricted L c)
    (hcl : c = c' → ∃ m, cl.data = .value m ∧ m.updateRestricted = true) : UpdateRestricted (L.putClass c' cl) c := by
  by_cases heq : c = c'
  · obtain ⟨m, hm, hflag⟩ := hcl heq
    exact updateRestricted_iff.mpr ⟨cl, m, if_pos heq, hm, hflag⟩
  · exact h.congr (if_neg heq)

lemma UpdateRestricted.saveDenom {c id : GoString} {f : DenomFields} {creator : AccAddress} (h : UpdateRestricted L c)
    (hrun : Collection.saveDenom C.toExtern C.nk L id f creator = .ok L') : UpdateRestricted L' c := by
  obtain ⟨hnone, rfl⟩ := Erc721.saveDenom_eq_ok hrun
  apply h.putClass
  rintro rfl
  obtain ⟨cl, m, hclass, -⟩ := updateRestricted_iff.mp h
  rw [hnone] at hclass
  cases hclass

lemma UpdateRestricted.message {w : World C} {msg : CollectionMsg} {c : GoString} (h : UpdateRestricted w.nft c)
    (hrun : msg.handle w = .ok L') : UpdateRestricted L' c := by
  cases msg with
  | issueDenom msg =>
    obtain ⟨_, -, hrun⟩ := bind_eq_ok.mp hrun
    obtain ⟨-, hrun⟩ := check_bind_eq_ok.mp hrun
    exact h.saveDenom hrun
  | mintNFT msg =>
    obtain ⟨_, _, _, -, -, -, -, -, -, -, -, rfl⟩ := mintNFT_eq_ok.mp hrun
    exact h.congr rfl
  | editNFT msg =>
    obtain ⟨_, _, _, -, -, rfl⟩ := editNFT_eq_ok hrun
    exact h.congr rfl
  | transferNFT msg =>
    obtain ⟨_, _, -, -, hrun⟩ := transferNFT_eq_ok.mp hrun
    obtain ⟨_, _, _, -, -, -, -, rfl⟩ := transferOwnership_eq_ok.mp hrun
    exact h.congr rfl
  | burnNFT msg =>
    obtain ⟨_, -, -, -, -, -, rfl⟩ := burnNFT_eq_ok.mp hrun
    exact h.congr rfl
  | transferDenom msg =>
    obtain ⟨_, -, hrun⟩ := bind_eq_ok.mp hrun
    obtain ⟨_, -, hrun⟩ := bind_eq_ok.mp hrun
    obtain ⟨denom, hdenom, hrun⟩ := bind_eq_ok.mp hrun
    obtain ⟨_, -, hrun⟩ := bind_eq_ok.mp hrun
    obtain ⟨-, hrun⟩ := require_bind_eq_ok.mp hrun
    obtain ⟨-, rfl⟩ := C.nk.updateClass_eq_ok.mp hrun
    apply h.putClass
    rintro rfl
    obtain ⟨denom', hdenom', hflag⟩ := h
    obtain rfl : denom = denom' := Except.ok.inj (hdenom.symm.trans hdenom')
    exact ⟨_, rfl, hflag⟩

theorem UpdateRestricted.step {op : LedgerOp} {c : GoString} (h : UpdateRestricted L c) (hstep : LedgerStep C L op L')
    (hflag : op.KeepsFlag C.toExtern L) : UpdateRestricted L' c := by
  cases hstep with
  | message valid hrun => exact h.message hrun
  | saveDenom account hrun => exact h.saveDenom hrun
  | mint hrun =>
    obtain ⟨_, _, _, -, -, -, -, -, -, -, -, rfl⟩ := mintNFT_eq_ok.mp hrun
    exact h.congr rfl
  | merge hrun =>
    obtain ⟨_, _, -, -, hrun⟩ := transferNFT_eq_ok.mp hrun
    obtain ⟨_, _, _, -, -, -, -, rfl⟩ := transferOwnership_eq_ok.mp hrun
    exact h.congr rfl
  | give | burn => exact h.congr rfl
  | @call _ _ call converted account hrun =>
    cases call with
    | createOrUpdateClass c' uri data =>
      obtain ⟨cl, hcl, rfl⟩ := Internft.createOrUpdateClass_ok hrun
      apply h.putClass
      rintro rfl
      exact hflag h cl hcl
    | mint c' n uri data receiver =>
      obtain ⟨token, -, -, -, rfl⟩ := Internft.mint_ok hrun
      exact h.congr rfl
    | transfer c' n data receiver =>
      obtain ⟨_, _, _, -, -, rfl⟩ := Internft.transfer_ok hrun
      exact h.congr rfl
    | burn c' n =>
      rcases Internft.burn_ok hrun with ⟨-, rfl⟩ | ⟨-, rfl⟩
      · exact h
      · exact h.congr rfl

/-- The writes in which a token stays there, no packet describes a token that nobody may update otherwise than it
is, and no packet lifts a restriction. -/
def Respectful (X : Extern) (c n : GoString) (L : NftLedger) (op : LedgerOp) (L' : NftLedger) : Prop :=
  op.KeepsContent L ∧ op.KeepsFlag X L ∧ L'.hasNFT c n = true

/-- A single write keeps the tokens that nobody may update exactly when no packet describes one otherwise. In every run
of such writes that lift no restriction, a token of such a class shows the same from its mint to its burn. -/
theorem restricted_content_kept (C : Chain) :
    (∀ L op L', LedgerStep C L op L' → (ContentKept L L' ↔ op.KeepsContent L)) ∧
    ∀ L₀ L c n t o, UpdateRestricted L₀ c → L₀.held c n = some ⟨t, o⟩ →
      LedgerRun C (Respectful C.toExtern c n) L₀ L → ∃ t' o', L.held c n = some ⟨t', o'⟩ ∧ SameContent t t' := by
  refine ⟨fun L op L' h => h.contentKept_iff, fun L₀ L c n t o hrestricted hheld hrun => ?_⟩
  have hinv : UpdateRestricted L c ∧ ∃ t' o', L.held c n = some ⟨t', o'⟩ ∧ SameContent t t' := by
    refine LedgerRun.invariant
      (I := fun L => UpdateRestricted L c ∧ ∃ t' o', L.held c n = some ⟨t', o'⟩ ∧ SameContent t t') ?_ hrun
      ⟨hrestricted, t, o, hheld, .refl t⟩
    rintro L op L' ⟨hflag, t', o', hheld', hsame⟩ hstep ⟨hcontent, hkeeps, hthere⟩
    obtain ⟨⟨t'', o''⟩, hheld''⟩ := Option.isSome_iff_exists.mp hthere
    have hkept := hstep.contentKept_iff.mpr hcontent c n t' o' t'' o'' hflag hheld' hheld''
    exact ⟨hflag.step hstep hkeeps, t'', o'', hheld'', hsame.trans hkept⟩
  exact hinv.2

/-- A user issues a class that forbids updates, and mints a token. -/
def frozenCat : List LedgerOp :=
  [.message (.issueDenom ⟨str "kitty", Sample.accString Sample.alice,
      ⟨str "Kitties", [], str "KIT", false, true, [], [], [], []⟩⟩),
    .message (.mintNFT ⟨str "cat1", str "kitty", ⟨str "Tom", [], [], []⟩, Sample.accString Sample.alice,
      Sample.accString Sample.alice⟩)]

def emptyWorld : World Sample.chain := ⟨.empty, .empty, .empty, .empty, .empty⟩

def handedOn : LedgerOp :=
  .message (.transferNFT ⟨str "cat1", str "kitty", ⟨[], [], [], []⟩, Sample.accString Sample.alice,
    Sample.accString Sample.bob⟩)

/-- The ledger says that nobody may update the tokens of the class. -/
def restrictedClass (L : NftLedger) (c : GoString) : Bool :=
  (getDenomInfo L c).toOption.any (·.updateRestricted)

lemma updateRestricted_of_restrictedClass {L : NftLedger} {c : GoString} (h : restrictedClass L c = true) :
    UpdateRestricted L c := by
  unfold restrictedClass at h
  cases hdenom : getDenomInfo L c with
  | error e =>
    rw [hdenom] at h
    cases h
  | ok denom =>
    rw [hdenom] at h
    exact ⟨denom, hdenom, h⟩

theorem frozen_cat_kept : ∃ L₀ L : NftLedger, ∃ t o t' o', LedgerRun Sample.chain (fun _ _ _ => True) .empty L₀ ∧
    UpdateRestricted L₀ (str "kitty") ∧ L₀.held (str "kitty") (str "cat1") = some ⟨t, o⟩ ∧
    L.held (str "kitty") (str "cat1") = some ⟨t', o'⟩ ∧ o' ≠ o ∧ SameContent t t' := by
  obtain ⟨L₀, hrun₀⟩ := exists_eq_ok (x := LedgerOp.execAll emptyWorld frozenCat) (by decide +kernel)
  have hfacts : (LedgerOp.execAll emptyWorld frozenCat).toOption.any (fun L₀ =>
      restrictedClass L₀ (str "kitty") && decide (L₀.getOwner (str "kitty") (str "cat1") = Sample.alice) &&
        (LedgerOp.execAll { emptyWorld with nft := L₀ } [handedOn]).toOption.any fun L =>
          decide (L.getOwner (str "kitty") (str "cat1") = Sample.bob)) = true := by decide +kernel
  rw [hrun₀, Except.toOption, Option.any, Bool.and_eq_true, Bool.and_eq_true] at hfacts
  obtain ⟨⟨hflag, howner⟩, hmoved⟩ := hfacts
  have hrestricted := updateRestricted_of_restrictedClass hflag
  obtain ⟨t, hheld⟩ := NftLedger.exists_held_of_getOwner (by decide) (of_decide_eq_true howner)
  cases hrun : LedgerOp.execAll { emptyWorld with nft := L₀ } [handedOn] with
  | error e =>
    rw [hrun] at hmoved
    cases hmoved
  | ok L =>
    rw [hrun, Except.toOption, Option.any] at hmoved
    obtain ⟨t₁, hheld₁⟩ := NftLedger.exists_held_of_getOwner (by decide) (of_decide_eq_true hmoved)
    obtain ⟨L₁, hstep, hdone⟩ := bind_eq_ok.mp hrun
    obtain rfl : L₁ = L := Except.ok.inj hdone
    have hthere : L₁.hasNFT (str "kitty") (str "cat1") = true := by
      rw [NftLedger.hasNFT, hheld₁]
      rfl
    have hrespects : LedgerRun Sample.chain (Respectful Sample.X (str "kitty") (str "cat1")) L₀ L₁ :=
      .single ⟨handedOn, ledgerStep_of_exec hstep, trivial, trivial, hthere⟩
    obtain ⟨t', o', hheld', hsame⟩ := (restricted_content_kept Sample.chain).2 L₀ L₁ _ _ t Sample.alice hrestricted
      hheld hrespects
    rw [hheld₁, Option.some.injEq, Held.mk.injEq] at hheld'
    obtain ⟨rfl, rfl⟩ := hheld'
    exact ⟨L₀, L₁, t, Sample.alice, t₁, Sample.bob, ledgerRun_of_execAll (fun _ _ _ _ => trivial) hrun₀, hrestricted,
      hheld, hheld₁, by decide, hsame⟩

/-- The token comes back with data that gives it the name `Fox`. -/
def renamedCat : LedgerOp :=
  .call (.transfer (str "kitty") (str "cat1") (str "eyJpcmlzbW9kOm5hbWUiOnsidmFsdWUiOiJGb3gifX0=") Sample.alice)

theorem frozen_cat_renamed : ∃ L₀ L : NftLedger, ∃ t o t' o', LedgerRun Sample.chain (fun _ _ _ => True) .empty L₀ ∧
    LedgerStep Sample.chain L₀ renamedCat L ∧ UpdateRestricted L₀ (str "kitty") ∧
    L₀.held (str "kitty") (str "cat1") = some ⟨t, o⟩ ∧ L.held (str "kitty") (str "cat1") = some ⟨t', o'⟩ ∧
    ¬SameContent t t' := by
  let sent : List LedgerOp :=
    frozenCat ++ [.call (.transfer (str "kitty") (str "cat1") [] (Sample.escrow Sample.port Sample.channel))]
  obtain ⟨L₀, hrun₀⟩ := exists_eq_ok (x := LedgerOp.execAll emptyWorld sent) (by decide +kernel)
  have hfacts : (LedgerOp.execAll emptyWorld sent).toOption.any (fun L₀ =>
      restrictedClass L₀ (str "kitty") && (L₀.getNFT (str "kitty") (str "cat1")).any
        (fun t => decide ((shownMetadata t.data).name = str "Tom")) &&
        (renamedCat.exec { emptyWorld with nft := L₀ }).toOption.any fun L =>
          (L.getNFT (str "kitty") (str "cat1")).any fun t =>
            decide ((shownMetadata t.data).name = str "Fox")) = true := by
    decide +kernel
  rw [hrun₀, Except.toOption, Option.any, Bool.and_eq_true, Bool.and_eq_true] at hfacts
  obtain ⟨⟨hflag, hbefore⟩, hafter⟩ := hfacts
  cases hrun : renamedCat.exec { emptyWorld with nft := L₀ } with
  | error e =>
    rw [hrun] at hafter
    cases hafter
  | ok L =>
    rw [hrun, Except.toOption, Option.any] at hafter
    cases hheld : L₀.held (str "kitty") (str "cat1") with
    | none =>
      rw [NftLedger.getNFT, hheld] at hbefore
      cases hbefore
    | some held =>
      cases hheld' : L.held (str "kitty") (str "cat1") with
      | none =>
        rw [NftLedger.getNFT, hheld'] at hafter
        cases hafter
      | some held' =>
        rw [NftLedger.getNFT, hheld] at hbefore
        rw [NftLedger.getNFT, hheld'] at hafter
        refine ⟨L₀, L, held.nft, held.owner, held'.nft, held'.owner,
          ledgerRun_of_execAll (fun _ _ _ _ => trivial) hrun₀, ledgerStep_of_exec hrun,
          updateRestricted_of_restrictedClass hflag, hheld, hheld', fun hsame => ?_⟩
        have hname := hsame.name
        rw [of_decide_eq_true hbefore, of_decide_eq_true hafter] at hname
        exact absurd hname (by decide)

end Uptick
