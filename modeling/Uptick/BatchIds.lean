import Mathlib.Data.List.GetD
import Uptick.Cw721.Resolve
import Uptick.Erc721.Resolve
import Uptick.Sample

/-!
# Batches of ids

`getNftDatas` of both conversion modules resolves a batch of ids one after another. The variable that holds the saved id
is declared outside the loop, so where the saved ids run out, the last of them is used for every id that is left.
-/

namespace Uptick

open Text Outcome

section

variable (f : GoString → GoString → GoString → Except Error GoString)

/-- The loop of both modules, over the function that resolves one id. -/
def resolveFrom : GoString → List GoString → List GoString → List GoString → Except Error (List GoString)
  | _, _, _, [] => .ok []
  | nftSaved, nftOrgs, nftSaveds, nftPairOrg :: nftPairOrgs => do
    let ret ← f (nftOrgs.headD []) nftPairOrg (nftSaveds.headD nftSaved)
    let rets ← resolveFrom (nftSaveds.headD nftSaved) nftOrgs.tail nftSaveds.tail nftPairOrgs
    .ok (ret :: rets)

/-- The saved id of a round: the last one where there is none of its own. -/
def carriedSaved (nftSaved : GoString) (nftSaveds : List GoString) (i : Nat) : GoString :=
  nftSaveds.getD i (nftSaveds.getLastD nftSaved)

/-- The original id of a round: none where the slices differ in length. -/
def orgAt (nftOrgs nftPairOrgs : List GoString) (i : Nat) : GoString :=
  if nftPairOrgs.length = nftOrgs.length then nftOrgs.getD i [] else []

/-- Each id of the batch is resolved on its own. -/
structure ElementByElement (nftOrgs nftPairOrgs nftSaveds : List GoString) (result : Except Error (List GoString)) :
    Prop where
  fails : (∃ e, result = .error e) ↔ ∃ i, i < nftPairOrgs.length ∧
    ∃ e, f (orgAt nftOrgs nftPairOrgs i) (nftPairOrgs.getD i []) (nftSaveds.getD i []) = .error e
  returns : ∀ rets, result = .ok rets → rets.length = nftPairOrgs.length ∧ ∀ i, i < nftPairOrgs.length →
    f (orgAt nftOrgs nftPairOrgs i) (nftPairOrgs.getD i []) (nftSaveds.getD i []) = .ok (rets.getD i [])

/-- An id whose saved id contradicts the caller is refused. -/
def Contradicted (agrees : GoString → GoString → Bool) (nftOrg nftSaved : GoString) : Prop :=
  nftOrg ≠ [] ∧ nftSaved ≠ [] ∧ agrees nftSaved nftOrg = false

/-- A saved id that makes no difference: there is none, it is the id that is derived without it, or it agrees with
the id that the caller names. -/
def Redundant (derived : GoString → GoString) (agrees : GoString → GoString → Bool)
    (nftOrg nftPairOrg nftSaved : GoString) : Prop :=
  nftSaved = [] ∨ nftOrg = [] ∧ nftSaved = derived nftPairOrg ∨ nftOrg ≠ [] ∧ agrees nftSaved nftOrg = true

/-- An id is contradicted by a saved id of its own, or the last saved id makes no difference for the ids that have
none. -/
def CarriesNothing (derived : GoString → GoString) (agrees : GoString → GoString → Bool)
    (nftOrgs nftPairOrgs nftSaveds : List GoString) : Prop :=
  (∃ i, i < nftSaveds.length ∧ i < nftPairOrgs.length ∧
    Contradicted agrees (orgAt nftOrgs nftPairOrgs i) (nftSaveds.getD i [])) ∨
  ∀ i, nftSaveds.length ≤ i → i < nftPairOrgs.length →
    Redundant derived agrees (orgAt nftOrgs nftPairOrgs i) (nftPairOrgs.getD i []) (nftSaveds.getLastD [])

/-- How both modules resolve one id: the id that the caller names, unless a saved one contradicts it; else the saved
one; else one that is derived. -/
structure Resolves (derived : GoString → GoString) (agrees : GoString → GoString → Bool) : Prop where
  derives : ∀ pair, f [] pair [] = .ok (derived pair)
  saves : ∀ pair saved, saved ≠ [] → f [] pair saved = .ok saved
  names : ∀ org pair saved, org ≠ [] → saved = [] ∨ agrees saved org = true → f org pair saved = .ok org
  refuses : ∀ org pair saved, Contradicted agrees org saved → ∃ e, f org pair saved = .error e

end

variable {f : GoString → GoString → GoString → Except Error GoString} {derived : GoString → GoString}
  {agrees : GoString → GoString → Bool}

lemma Resolves.exists_eq_ok (hf : Resolves f derived agrees) {org pair saved : GoString}
    (h : ¬Contradicted agrees org saved) : ∃ r, f org pair saved = .ok r := by
  by_cases horg : org = []
  · subst horg
    by_cases hsaved : saved = []
    · subst hsaved
      exact ⟨_, hf.derives pair⟩
    · exact ⟨_, hf.saves pair saved hsaved⟩
  · have hsaved : saved = [] ∨ agrees saved org = true := by
      by_contra hcon
      rw [not_or, Bool.not_eq_true] at hcon
      exact h ⟨horg, hcon⟩
    exact ⟨_, hf.names org pair saved horg hsaved⟩

lemma Resolves.eq_error_iff (hf : Resolves f derived agrees) {org pair saved : GoString} :
    (∃ e, f org pair saved = .error e) ↔ Contradicted agrees org saved := by
  constructor
  · rintro ⟨e, he⟩
    by_contra hcon
    obtain ⟨r, hr⟩ : ∃ r, f org pair saved = .ok r := hf.exists_eq_ok hcon
    rw [he] at hr
    cases hr
  · exact hf.refuses org pair saved

/-- The saved ids that make no difference are those with the result that there is without one. -/
lemma Resolves.eq_iff_redundant (hf : Resolves f derived agrees) {org pair saved : GoString} :
    f org pair saved = f org pair [] ↔ Redundant derived agrees org pair saved := by
  by_cases hsaved : saved = []
  · simp [hsaved, Redundant]
  by_cases horg : org = []
  · subst horg
    rw [hf.derives, hf.saves pair saved hsaved, Except.ok.injEq]
    simp [Redundant, hsaved]
  · rw [hf.names org pair [] horg (.inl rfl)]
    cases hagrees : agrees saved org with
    | true => simp [hf.names org pair saved horg (.inr hagrees), Redundant, horg, hagrees]
    | false =>
      obtain ⟨e, he⟩ := hf.refuses org pair saved ⟨horg, hsaved, hagrees⟩
      simp [he, Redundant, hsaved, horg, hagrees]

lemma carriedSaved_zero (nftSaved : GoString) (nftSaveds : List GoString) :
    carriedSaved nftSaved nftSaveds 0 = nftSaveds.headD nftSaved := by
  cases nftSaveds <;> rfl

lemma carriedSaved_succ (nftSaved : GoString) (nftSaveds : List GoString) (i : Nat) :
    carriedSaved nftSaved nftSaveds (i + 1) = carriedSaved (nftSaveds.headD nftSaved) nftSaveds.tail i := by
  cases nftSaveds with
  | nil => rfl
  | cons s nftSaveds =>
    rw [carriedSaved, List.getLastD_cons, List.getD_cons_succ]
    rfl

lemma carriedSaved_of_lt {nftSaved : GoString} {nftSaveds : List GoString} {i : Nat} (h : i < nftSaveds.length) :
    carriedSaved nftSaved nftSaveds i = nftSaveds.getD i [] := by
  rw [carriedSaved, List.getD_eq_getElem _ _ h, List.getD_eq_getElem _ _ h]

lemma carriedSaved_of_le {nftSaved : GoString} {nftSaveds : List GoString} {i : Nat} (h : nftSaveds.length ≤ i) :
    carriedSaved nftSaved nftSaveds i = nftSaveds.getLastD nftSaved :=
  List.getD_eq_default _ _ h

/-- The loop succeeds when every round does. The induction generalises the id that is carried. -/
lemma resolveFrom_eq_ok {nftSaved : GoString} {nftOrgs nftSaveds nftPairOrgs rets : List GoString} :
    resolveFrom f nftSaved nftOrgs nftSaveds nftPairOrgs = .ok rets ↔ rets.length = nftPairOrgs.length ∧
      ∀ i, i < nftPairOrgs.length →
        f (nftOrgs.getD i []) (nftPairOrgs.getD i []) (carriedSaved nftSaved nftSaveds i) = .ok (rets.getD i []) := by
  induction nftPairOrgs generalizing nftSaved nftOrgs nftSaveds rets with
  | nil =>
    rw [resolveFrom, Except.ok.injEq]
    simp [eq_comm]
  | cons p nftPairOrgs ih =>
    have horg : ∀ i, nftOrgs.tail.getD i [] = nftOrgs.getD (i + 1) [] := by
      intro i
      cases nftOrgs <;> simp
    have hhead : nftOrgs.headD [] = nftOrgs.getD 0 [] := by
      cases nftOrgs <;> rfl
    rw [resolveFrom, bind_eq_ok]
    constructor
    · rintro ⟨ret, hret, h⟩
      obtain ⟨rest, hrest, h⟩ := bind_eq_ok.mp h
      cases h
      obtain ⟨hlen, hall⟩ := ih.mp hrest
      refine ⟨by simp [hlen], fun i hi => ?_⟩
      cases i with
      | zero =>
        rw [carriedSaved_zero, ← hhead]
        exact hret
      | succ i =>
        have hround := hall i (Nat.lt_of_succ_lt_succ hi)
        rw [horg] at hround
        rw [carriedSaved_succ]
        exact hround
    · rintro ⟨hlen, hall⟩
      cases rets with
      | nil => cases hlen
      | cons ret rest =>
        have hfirst := hall 0 (Nat.zero_lt_succ _)
        rw [carriedSaved_zero, ← hhead] at hfirst
        refine ⟨ret, hfirst, bind_eq_ok.mpr ⟨rest, ih.mpr ⟨Nat.succ.inj hlen, fun i hi => ?_⟩, rfl⟩⟩
        have hround := hall (i + 1) (Nat.succ_lt_succ hi)
        rw [carriedSaved_succ] at hround
        rw [horg]
        exact hround

lemma resolveFrom_eq_error {nftSaved : GoString} {nftOrgs nftSaveds nftPairOrgs : List GoString} :
    (∃ e, resolveFrom f nftSaved nftOrgs nftSaveds nftPairOrgs = .error e) ↔ ∃ i, i < nftPairOrgs.length ∧
      ∃ e, f (nftOrgs.getD i []) (nftPairOrgs.getD i []) (carriedSaved nftSaved nftSaveds i) = .error e := by
  constructor
  · rintro ⟨e, he⟩
    by_contra hnone
    have hok : ∀ i, i < nftPairOrgs.length → ∃ r,
        f (nftOrgs.getD i []) (nftPairOrgs.getD i []) (carriedSaved nftSaved nftSaveds i) = .ok r := by
      intro i hi
      cases hround : f (nftOrgs.getD i []) (nftPairOrgs.getD i []) (carriedSaved nftSaved nftSaveds i) with
      | ok r => exact ⟨r, rfl⟩
      | error e' => exact absurd ⟨i, hi, e', hround⟩ hnone
    choose! r hr using hok
    have hlen : ((List.range nftPairOrgs.length).map r).length = nftPairOrgs.length := by simp
    have hget : ∀ i, i < nftPairOrgs.length → ((List.range nftPairOrgs.length).map r).getD i [] = r i := by
      intro i hi
      rw [List.getD_eq_getElem _ _ (hlen.symm ▸ hi), List.getElem_map, List.getElem_range]
    have hrun : resolveFrom f nftSaved nftOrgs nftSaveds nftPairOrgs = .ok ((List.range nftPairOrgs.length).map r) :=
      resolveFrom_eq_ok.mpr ⟨hlen, fun i hi => (hget i hi).symm ▸ hr i hi⟩
    rw [he] at hrun
    cases hrun
  · rintro ⟨i, hi, e, hround⟩
    cases hrun : resolveFrom f nftSaved nftOrgs nftSaveds nftPairOrgs with
    | error e' => exact ⟨e', rfl⟩
    | ok rets =>
      have hok := (resolveFrom_eq_ok.mp hrun).2 i hi
      rw [hround] at hok
      cases hok

lemma getD_orgs (nftOrgs nftPairOrgs : List GoString) (i : Nat) :
    (if nftPairOrgs.length = nftOrgs.length then nftOrgs else []).getD i [] = orgAt nftOrgs nftPairOrgs i := by
  unfold orgAt
  split <;> rfl

/-- Where the last saved id makes no difference, a round with the carried id is a round with the id of its own. -/
lemma Resolves.round_eq (hf : Resolves f derived agrees) {nftOrgs nftPairOrgs nftSaveds : List GoString} {i : Nat}
    (hsame : nftSaveds.length ≤ i → Redundant derived agrees (orgAt nftOrgs nftPairOrgs i) (nftPairOrgs.getD i [])
      (nftSaveds.getLastD [])) :
    f (orgAt nftOrgs nftPairOrgs i) (nftPairOrgs.getD i []) (carriedSaved [] nftSaveds i) =
      f (orgAt nftOrgs nftPairOrgs i) (nftPairOrgs.getD i []) (nftSaveds.getD i []) := by
  by_cases hlt : i < nftSaveds.length
  · rw [carriedSaved_of_lt hlt]
  · have hle := Nat.le_of_not_lt hlt
    rw [carriedSaved_of_le hle, List.getD_eq_default _ _ hle]
    exact hf.eq_iff_redundant.mpr (hsame hle)

theorem elementByElement_iff (hf : Resolves f derived agrees) {nftOrgs nftPairOrgs nftSaveds : List GoString} :
    ElementByElement f nftOrgs nftPairOrgs nftSaveds (resolveFrom f []
      (if nftPairOrgs.length = nftOrgs.length then nftOrgs else []) nftSaveds nftPairOrgs) ↔
        CarriesNothing derived agrees nftOrgs nftPairOrgs nftSaveds := by
  have herror := @resolveFrom_eq_error f [] (if nftPairOrgs.length = nftOrgs.length then nftOrgs else []) nftSaveds
    nftPairOrgs
  have hok := fun rets => @resolveFrom_eq_ok f [] (if nftPairOrgs.length = nftOrgs.length then nftOrgs else [])
    nftSaveds nftPairOrgs rets
  simp only [getD_orgs] at herror hok
  constructor
  · intro h
    by_cases hown : ∃ i, i < nftSaveds.length ∧ i < nftPairOrgs.length ∧
        Contradicted agrees (orgAt nftOrgs nftPairOrgs i) (nftSaveds.getD i [])
    · exact .inl hown
    · refine .inr fun i hle hi => hf.eq_iff_redundant.mp ?_
      cases hrun : resolveFrom f [] (if nftPairOrgs.length = nftOrgs.length then nftOrgs else []) nftSaveds
          nftPairOrgs with
      | error e =>
        -- no id without a saved one is refused on its own
        obtain ⟨j, hj, hround⟩ := h.fails.mp ⟨e, hrun⟩
        have hcon := hf.eq_error_iff.mp hround
        by_cases hlt : j < nftSaveds.length
        · exact absurd ⟨j, hlt, hj, hcon⟩ hown
        · rw [List.getD_eq_default _ _ (Nat.le_of_not_lt hlt)] at hcon
          exact absurd rfl hcon.2.1
      | ok rets =>
        have hloop := ((hok rets).mp hrun).2 i hi
        have hone := (h.returns rets hrun).2 i hi
        rw [carriedSaved_of_le hle] at hloop
        rw [List.getD_eq_default _ _ hle] at hone
        rw [hloop, hone]
  · rintro (⟨i, hlt, hi, hcon⟩ | hsame)
    · obtain ⟨e, hround⟩ := hf.refuses _ (nftPairOrgs.getD i []) _ hcon
      have hfails : ∃ e, resolveFrom f [] (if nftPairOrgs.length = nftOrgs.length then nftOrgs else []) nftSaveds
          nftPairOrgs = .error e := herror.mpr ⟨i, hi, e, by rw [carriedSaved_of_lt hlt]; exact hround⟩
      refine ⟨iff_of_true hfails ⟨i, hi, e, hround⟩, fun rets hrets => ?_⟩
      obtain ⟨e', he'⟩ := hfails
      rw [he'] at hrets
      cases hrets
    · have hround : ∀ i, i < nftPairOrgs.length →
          f (orgAt nftOrgs nftPairOrgs i) (nftPairOrgs.getD i []) (carriedSaved [] nftSaveds i) =
            f (orgAt nftOrgs nftPairOrgs i) (nftPairOrgs.getD i []) (nftSaveds.getD i []) :=
        fun i hi => hf.round_eq fun hle => hsame i hle hi
      constructor
      · rw [herror]
        constructor
        · rintro ⟨i, hi, e, he⟩
          exact ⟨i, hi, e, hround i hi ▸ he⟩
        · rintro ⟨i, hi, e, he⟩
          exact ⟨i, hi, e, (hround i hi).trans he⟩
      · intro rets hrets
        obtain ⟨hlen, hall⟩ := (hok rets).mp hrets
        exact ⟨hlen, fun i hi => hround i hi ▸ hall i hi⟩

/-- In x/erc721 token ids are compared as numbers and contracts as addresses, the other two kinds as texts. -/
lemma Erc721.resolves_getNftData (X : Extern) (nftType : Erc721.NftType) :
    Resolves (fun org pair saved => Erc721.getNftData X org pair saved nftType)
      (fun pair => Erc721.createNftDataByType X pair nftType)
      (fun saved org => Erc721.nftDataAgrees saved org nftType) := by
  refine ⟨fun pair => rfl, fun pair saved hsaved => ?_, fun org pair saved horg h => ?_, fun org pair saved h => ?_⟩
  · simp [Erc721.getNftData, hsaved]
  · simp [Erc721.getNftData, horg, h]
  · obtain ⟨horg, hsaved, hagrees⟩ := h
    dsimp only at hagrees
    exact ⟨Erc721.getNftDataErrorByType saved org nftType, by simp [Erc721.getNftData, horg, hsaved, hagrees]⟩

lemma Cw721.resolves_getNftData (nftType : Cw721.NftType) :
    Resolves (fun org pair saved => Cw721.getNftData org pair saved nftType)
      (fun pair => Cw721.createNftDataByType pair nftType) (fun saved org => saved == org) := by
  refine ⟨fun pair => rfl, fun pair saved hsaved => ?_, fun org pair saved horg h => ?_, fun org pair saved h => ?_⟩
  · simp [Cw721.getNftData, hsaved]
  · rw [beq_iff_eq] at h
    simp [Cw721.getNftData, horg, h]
  · obtain ⟨horg, hsaved, hagrees⟩ := h
    rw [beq_eq_false_iff_ne] at hagrees
    exact ⟨Cw721.getNftDataErrorByType saved org nftType, by simp [Cw721.getNftData, horg, hsaved, hagrees]⟩

lemma Erc721.getNftDatasFrom_eq (X : Extern) (nftType : Erc721.NftType) (nftSaved : GoString)
    (nftOrgs nftSaveds nftPairOrgs : List GoString) :
    Erc721.getNftDatasFrom X nftType nftSaved nftOrgs nftSaveds nftPairOrgs =
      resolveFrom (fun org pair saved => Erc721.getNftData X org pair saved nftType) nftSaved nftOrgs nftSaveds
        nftPairOrgs := by
  induction nftPairOrgs generalizing nftSaved nftOrgs nftSaveds with
  | nil => rfl
  | cons p nftPairOrgs ih => rw [Erc721.getNftDatasFrom, resolveFrom, ih]

lemma Cw721.getNftDatasFrom_eq (nftType : Cw721.NftType) (nftSaved : GoString)
    (nftOrgs nftSaveds nftPairOrgs : List GoString) :
    Cw721.getNftDatasFrom nftType nftSaved nftOrgs nftSaveds nftPairOrgs =
      resolveFrom (fun org pair saved => Cw721.getNftData org pair saved nftType) nftSaved nftOrgs nftSaveds
        nftPairOrgs := by
  induction nftPairOrgs generalizing nftSaved nftOrgs nftSaveds with
  | nil => rfl
  | cons p nftPairOrgs ih => rw [Cw721.getNftDatasFrom, resolveFrom, ih]

/-- In both modules a batch is resolved element by element exactly when no saved id is carried to ids that have none,
or a carried one makes no difference. -/
theorem getNftDatas_elementByElement_iff (X : Extern) (nftOrgs nftPairOrgs nftSaveds : List GoString) :
    (∀ nftType, ElementByElement (fun org pair saved => Erc721.getNftData X org pair saved nftType) nftOrgs nftPairOrgs
      nftSaveds (Erc721.getNftDatas X nftOrgs nftPairOrgs nftSaveds nftType) ↔
        CarriesNothing (fun pair => Erc721.createNftDataByType X pair nftType)
          (fun saved org => Erc721.nftDataAgrees saved org nftType) nftOrgs nftPairOrgs nftSaveds) ∧
    ∀ nftType, ElementByElement (fun org pair saved => Cw721.getNftData org pair saved nftType) nftOrgs nftPairOrgs
      nftSaveds (Cw721.getNftDatas nftOrgs nftPairOrgs nftSaveds nftType) ↔
        CarriesNothing (fun pair => Cw721.createNftDataByType pair nftType) (fun saved org => saved == org)
          nftOrgs nftPairOrgs nftSaveds := by
  constructor
  · intro nftType
    rw [Erc721.getNftDatas, Erc721.getNftDatasFrom_eq]
    exact elementByElement_iff (Erc721.resolves_getNftData X nftType)
  · intro nftType
    rw [Cw721.getNftDatas, Cw721.getNftDatasFrom_eq]
    exact elementByElement_iff (Cw721.resolves_getNftData nftType)

/-- Two tokens, of which the first has a saved NFT: the second one is given the NFT of the first. -/
theorem getNftDatas_carried :
    ¬ElementByElement (fun org pair saved => Erc721.getNftData Sample.X org pair saved .nftId) [] [str "1", str "2"]
      [str "cat1"] (Erc721.getNftDatas Sample.X [] [str "1", str "2"] [str "cat1"] .nftId) ∧
    ¬ElementByElement (fun org pair saved => Cw721.getNftData org pair saved .nftId) [] [str "1", str "2"]
      [str "cat1"] (Cw721.getNftDatas [] [str "1", str "2"] [str "cat1"] .nftId) := by
  have herc : Erc721.getNftDatas Sample.X [] [str "1", str "2"] [str "cat1"] .nftId =
      .ok [str "cat1", str "cat1"] := rfl
  have hcw : Cw721.getNftDatas [] [str "1", str "2"] [str "cat1"] .nftId = .ok [str "cat1", str "cat1"] := rfl
  constructor
  · intro h
    have hsecond := (h.returns _ herc).2 1 (by decide)
    exact absurd (Except.ok.inj hsecond) (by decide +kernel)
  · intro h
    have hsecond := (h.returns _ hcw).2 1 (by decide)
    exact absurd (Except.ok.inj hsecond) (by decide +kernel)

end Uptick
