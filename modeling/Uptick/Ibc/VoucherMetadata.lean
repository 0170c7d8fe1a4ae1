import Mathlib.Data.List.ReduceOption
import Uptick.Extern

/-!
# Metadata of IBC vouchers

`ibc/voucher_metadata.go`: the bank metadata of a voucher is rewritten so that the unit named by the last
segment of `Display` carries the decimals of the source denomination. x/bank and the derivation of
decimals from a denomination are other packages; they enter with the rules they document.
-/

namespace Uptick.Ibc

open Text

structure DenomUnit where
  denom : GoString
  exponent : UInt32
  aliases : List GoString
  deriving DecidableEq, Repr

/-- `banktypes.Metadata`. A unit may be missing, as a repeated message field may carry nil. -/
structure Metadata where
  description : GoString
  denomUnits : List (Option DenomUnit)
  base : GoString
  display : GoString
  name : GoString
  symbol : GoString
  uri : GoString
  uriHash : GoString
  deriving DecidableEq, Repr

def Metadata.units (m : Metadata) : List DenomUnit := m.denomUnits.reduceOption

/-- The aliases of a unit are distinct and none is blank. -/
def DenomUnit.AliasesValid (u : DenomUnit) : Prop := u.aliases.Nodup ∧ ∀ a ∈ u.aliases, isBlank a = false

/-- What `Metadata.Validate` checks besides the aliases: names, denominations, the base unit first with
exponent zero, ascending exponents, distinct units, and a unit for `Display`. -/
def Metadata.UnitsValid (validateDenom : GoString → Bool) (m : Metadata) : Prop :=
  isBlank m.name = false ∧ isBlank m.symbol = false ∧ validateDenom m.base = true ∧
    validateDenom m.display = true ∧ none ∉ m.denomUnits ∧
    m.units.head?.map (fun u => (u.denom, u.exponent)) = some (m.base, 0) ∧
    m.units.Pairwise (fun u v => u.exponent < v.exponent) ∧ (m.units.map (·.denom)).Nodup ∧
    m.display ∈ m.units.map (·.denom) ∧ ∀ u ∈ m.units, validateDenom u.denom = true

instance (u : DenomUnit) : Decidable u.AliasesValid := inferInstanceAs (Decidable (_ ∧ _))

instance (validateDenom : GoString → Bool) (m : Metadata) : Decidable (m.UnitsValid validateDenom) :=
  inferInstanceAs (Decidable (_ ∧ _ ∧ _ ∧ _ ∧ _ ∧ _ ∧ _ ∧ _ ∧ _ ∧ _))

/-- The bank keeper and the rules of its metadata. A record is stored under its base denomination. -/
structure BankKeeper where
  State : Type
  getDenomMetaData : State → GoString → Option Metadata
  setDenomMetaData : State → Metadata → State
  validateDenom : GoString → Bool
  validate : Metadata → Except GoString Unit
  get_set : ∀ s m, getDenomMetaData (setDenomMetaData s m) m.base = some m
  base_of_get : ∀ {s denom m}, getDenomMetaData s denom = some m → m.base = denom
  validate_ok : ∀ m, validate m = .ok () ↔ m.UnitsValid validateDenom ∧ ∀ u ∈ m.units, u.AliasesValid

def voucherPrefix : GoString := str "ibc/"

/-- A message and the values it prints. -/
abbrev Reason := String × List Arg

/-- The segment of a path behind its last slash. -/
def lastSegment (display : GoString) : GoString :=
  match lastIndexByte 47 display with
  | some i => display.drop (i + 1)
  | none => display

def hasNilDenomUnit (units : List (Option DenomUnit)) : Bool := units.any (·.isNone)

def nonZeroUnitExponent (units : List (Option DenomUnit)) (denom : GoString) : Option UInt32 :=
  match units with
  | [] => none
  | none :: units => nonZeroUnitExponent units denom
  | some unit :: units =>
    if unit.denom = denom ∧ 0 < unit.exponent then some unit.exponent else nonZeroUnitExponent units denom

def denomUnitDenom (u : Option DenomUnit) : GoString := (u.map (·.denom)).getD []

def denomUnitExponent (u : Option DenomUnit) : UInt32 := (u.map (·.exponent)).getD 0

/-- Equal in order, denominations and exponents. The aliases are not compared. -/
def sameDenomUnits : List (Option DenomUnit) → List (Option DenomUnit) → Bool
  | [], [] => true
  | a :: as, b :: bs =>
    if a.isNone ≠ b.isNone then false
    else if denomUnitDenom a ≠ denomUnitDenom b ∨ denomUnitExponent a ≠ denomUnitExponent b then false
    else sameDenomUnits as bs
  | _, _ => false

def lastUnitExponent (units : List (Option DenomUnit)) : UInt32 :=
  match units.getLast? with
  | none => 0
  | some u => denomUnitExponent u

section Normalize

variable (B : BankKeeper) (deriveDecimalsFromDenom : GoString → Except GoString UInt8)

/-- The decimals that the record has for the source denomination, or the derived ones. -/
def sourceDecimals (units : List (Option DenomUnit)) (sourceDenom : GoString) : Except Reason UInt32 :=
  match nonZeroUnitExponent units sourceDenom with
  | some decimals => .ok decimals
  | none =>
    match deriveDecimalsFromDenom sourceDenom with
    | .ok derived => .ok derived.toUInt32
    | .error err => .error ("cannot derive decimals for source denom %q: %v", [.q sourceDenom, .s err])

def Metadata.rewritten (m : Metadata) (sourceDenom : GoString) (decimals : UInt32) : Metadata :=
  { m with display := sourceDenom
           denomUnits := [some ⟨m.base, 0, []⟩, some ⟨sourceDenom, decimals, []⟩] }

def normalizeVoucherMetadata (metadata : Metadata) : Except Reason Metadata :=
  if hasNilDenomUnit metadata.denomUnits then .error ("metadata carries a nil denom unit", [])
  else if metadata.display = metadata.base then
    .error ("display is the voucher hash, source denom unknown", [])
  else
    let sourceDenom := lastSegment metadata.display
    if sourceDenom = [] ∨ sourceDenom = metadata.base then .error ("display carries no usable source denom", [])
    else do
      let decimals ← sourceDecimals deriveDecimalsFromDenom metadata.denomUnits sourceDenom
      let updated := metadata.rewritten sourceDenom decimals
      match B.validate updated with
      | .ok () => .ok updated
      | .error err => .error ("repaired metadata is invalid: %v", [.s err])

inductive NormalizationOutcome
  | noMetadata | alreadyNormalized | applied | skipped
  deriving DecidableEq, Repr

structure NormalizationResult where
  outcome : NormalizationOutcome
  reason : Reason
  decimals : UInt32
  deriving DecidableEq, Repr

def normalizeVoucherDecimals (s : B.State) (denom : GoString) : NormalizationResult × B.State :=
  if hasPrefix denom voucherPrefix = false then (⟨.skipped, ("denom %q is not an ibc voucher", [.q denom]), 0⟩, s)
  else
    match B.getDenomMetaData s denom with
    | none => (⟨.noMetadata, ("", []), 0⟩, s)
    | some metadata =>
      match normalizeVoucherMetadata B deriveDecimalsFromDenom metadata with
      | .error reason => (⟨.skipped, reason, 0⟩, s)
      | .ok updated =>
        let decimals := lastUnitExponent updated.denomUnits
        if updated.display = metadata.display ∧ sameDenomUnits updated.denomUnits metadata.denomUnits = true then
          (⟨.alreadyNormalized, ("", []), decimals⟩, s)
        else (⟨.applied, ("", []), decimals⟩, B.setDenomMetaData s updated)

end Normalize

/-! ### The rewritten shape -/

lemma slash_notMem_lastSegment (display : GoString) : 47 ∉ lastSegment display := by
  unfold lastSegment
  cases h : lastIndexByte 47 display with
  | none => exact lastIndexByte_eq_none_iff.mp h
  | some i => exact (eq_of_lastIndexByte h).2

lemma lastSegment_of_plain {display : GoString} (h : 47 ∉ display) : lastSegment display = display := by
  rw [lastSegment, lastIndexByte_eq_none_iff.mpr h]

/-- Two units: the base with exponent zero and the source denomination behind it. -/
def pairOfUnits (base source : GoString) (decimals : UInt32) (baseAliases sourceAliases : List GoString) :
    List (Option DenomUnit) :=
  [some ⟨base, 0, baseAliases⟩, some ⟨source, decimals, sourceAliases⟩]

lemma unitsValid_pair {validateDenom : GoString → Bool} {m : Metadata} {e : UInt32} {as bs : List GoString}
    (h : m.denomUnits = pairOfUnits m.base m.display e as bs) :
    m.UnitsValid validateDenom ↔ isBlank m.name = false ∧ isBlank m.symbol = false ∧
      validateDenom m.base = true ∧ validateDenom m.display = true ∧ 0 < e ∧ m.base ≠ m.display := by
  have hunits : m.units = [⟨m.base, 0, as⟩, ⟨m.display, e, bs⟩] := by
    rw [Metadata.units, h]
    rfl
  unfold Metadata.UnitsValid
  rw [hunits, h]
  simp only [pairOfUnits, List.mem_cons, reduceCtorEq, List.not_mem_nil, or_self, not_false_eq_true, true_and,
    List.head?_cons, Option.map_some, List.pairwise_cons, List.map_cons, List.map_nil, List.nodup_cons]
  constructor
  · rintro ⟨hn, hs, hb, hd, hpair, hnodup, -⟩
    exact ⟨hn, hs, hb, hd, by simpa using hpair, by simpa using hnodup⟩
  · rintro ⟨hn, hs, hb, hd, he, hne⟩
    exact ⟨hn, hs, hb, hd, by simpa using he, by simpa using hne, by simp, by simp [hb, hd]⟩

/-- The record has the shape that the rewriting gives, up to the aliases of its units. -/
structure InShape (validateDenom : GoString → Bool) (m : Metadata) : Prop where
  valid : m.UnitsValid validateDenom
  plain : 47 ∉ m.display
  display_ne_nil : m.display ≠ []
  display_ne_base : m.display ≠ m.base
  units : ∃ e as bs, m.denomUnits = pairOfUnits m.base m.display e as bs

/-- What two units are compared by. -/
def unitKey (u : Option DenomUnit) : Option (GoString × UInt32) := u.map fun u => (u.denom, u.exponent)

lemma unitKey_eq_iff {a b : Option DenomUnit} : unitKey a = unitKey b ↔
    a.isNone = b.isNone ∧ denomUnitDenom a = denomUnitDenom b ∧ denomUnitExponent a = denomUnitExponent b := by
  cases a <;> cases b <;> simp [unitKey, denomUnitDenom, denomUnitExponent]

lemma sameDenomUnits_iff {as bs : List (Option DenomUnit)} :
    sameDenomUnits as bs = true ↔ as.map unitKey = bs.map unitKey := by
  induction as generalizing bs with
  | nil => cases bs <;> simp [sameDenomUnits]
  | cons a as ih =>
    cases bs with
    | nil => simp [sameDenomUnits]
    | cons b bs =>
      rw [List.map_cons, List.map_cons, List.cons.injEq, unitKey_eq_iff, ← ih, sameDenomUnits]
      by_cases hnil : a.isNone = b.isNone
      · by_cases hd : denomUnitDenom a = denomUnitDenom b
        · by_cases he : denomUnitExponent a = denomUnitExponent b <;> simp [hnil, hd, he]
        · simp [hnil, hd]
      · simp [hnil]

lemma unitKey_eq_some {u : Option DenomUnit} {d : GoString} {e : UInt32} :
    unitKey u = some (d, e) ↔ ∃ as, u = some ⟨d, e, as⟩ := by
  constructor
  · intro h
    cases u with
    | none => cases h
    | some u =>
      obtain ⟨rfl, rfl⟩ := Prod.mk.inj (Option.some.inj h)
      exact ⟨u.aliases, rfl⟩
  · rintro ⟨as, rfl⟩
    rfl

lemma sameDenomUnits_pair {base source : GoString} {e : UInt32} {us : List (Option DenomUnit)} :
    sameDenomUnits (pairOfUnits base source e [] []) us = true ↔ ∃ as bs, us = pairOfUnits base source e as bs := by
  rw [sameDenomUnits_iff]
  constructor
  · intro h
    obtain ⟨u, us', rfl, hu, hrest⟩ := List.map_eq_cons_iff.mp h.symm
    obtain ⟨v, us'', rfl, hv, hnil⟩ := List.map_eq_cons_iff.mp hrest
    obtain rfl := List.map_eq_nil_iff.mp hnil
    obtain ⟨as, rfl⟩ := unitKey_eq_some.mp hu
    obtain ⟨bs, rfl⟩ := unitKey_eq_some.mp hv
    exact ⟨as, bs, rfl⟩
  · rintro ⟨as, bs, rfl⟩
    rfl

section Outcome

variable {B : BankKeeper} {derive : GoString → Except GoString UInt8} {m m' : Metadata}

lemma hasNilDenomUnit_eq_false {us : List (Option DenomUnit)} : hasNilDenomUnit us = false ↔ none ∉ us := by
  simp only [hasNilDenomUnit, List.any_eq_false, Option.isNone_iff_eq_none]
  constructor
  · intro h hmem
    exact h none hmem rfl
  · intro h u hu hnone
    exact h (hnone ▸ hu)

/-- A record is rewritten when it has a usable source denomination with decimals and the result passes
the rules of x/bank. -/
lemma normalizeVoucherMetadata_eq_ok : normalizeVoucherMetadata B derive m = .ok m' ↔
    none ∉ m.denomUnits ∧ m.display ≠ m.base ∧ lastSegment m.display ≠ [] ∧ lastSegment m.display ≠ m.base ∧
      ∃ decimals, sourceDecimals derive m.denomUnits (lastSegment m.display) = .ok decimals ∧
        m' = m.rewritten (lastSegment m.display) decimals ∧ m'.UnitsValid B.validateDenom := by
  have hvalid : ∀ decimals, B.validate (m.rewritten (lastSegment m.display) decimals) = .ok () ↔
      (m.rewritten (lastSegment m.display) decimals).UnitsValid B.validateDenom := by
    intro decimals
    rw [B.validate_ok]
    have haliases : ∀ u ∈ (m.rewritten (lastSegment m.display) decimals).units, u.AliasesValid := by
      simp [Metadata.rewritten, Metadata.units, DenomUnit.AliasesValid]
    exact and_iff_left haliases
  unfold normalizeVoucherMetadata
  by_cases hnil : none ∈ m.denomUnits
  · have : hasNilDenomUnit m.denomUnits = true := by
      by_contra h
      exact hasNilDenomUnit_eq_false.mp (Bool.eq_false_of_not_eq_true h) hnil
    simp [this, hnil]
  · rw [if_neg (by simp [hasNilDenomUnit_eq_false.mpr hnil])]
    by_cases hbase : m.display = m.base
    · simp [hbase]
    · rw [if_neg hbase]
      dsimp only
      by_cases hsource : lastSegment m.display = [] ∨ lastSegment m.display = m.base
      · rw [if_pos hsource]
        rcases hsource with h | h <;> simp [h]
      · rw [if_neg hsource]
        rw [not_or] at hsource
        simp only [hnil, not_false_eq_true, hbase, ne_eq, hsource, true_and, Outcome.bind_eq_ok]
        apply exists_congr
        intro decimals
        apply and_congr_right
        intro _
        cases hv : B.validate (m.rewritten (lastSegment m.display) decimals) with
        | ok u =>
          have hunits := (hvalid decimals).mp hv
          constructor
          · intro h
            obtain rfl := Except.ok.inj h
            exact ⟨rfl, hunits⟩
          · rintro ⟨rfl, -⟩
            rfl
        | error e =>
          constructor
          · intro h
            cases h
          · rintro ⟨rfl, hunits⟩
            rw [(hvalid decimals).mpr hunits] at hv
            cases hv

lemma denomUnits_rewritten (m : Metadata) (source : GoString) (decimals : UInt32) :
    (m.rewritten source decimals).denomUnits = pairOfUnits m.base source decimals [] [] := rfl

lemma inShape_of_normalize (h : normalizeVoucherMetadata B derive m = .ok m') : InShape B.validateDenom m' := by
  obtain ⟨-, -, hne, hbase, decimals, -, rfl, hvalid⟩ := normalizeVoucherMetadata_eq_ok.mp h
  exact ⟨hvalid, slash_notMem_lastSegment m.display, hne, hbase, decimals, [], [], rfl⟩

lemma nonZeroUnitExponent_pair {base source : GoString} {e : UInt32} {as bs : List GoString}
    (hne : source ≠ base) (he : 0 < e) : nonZeroUnitExponent (pairOfUnits base source e as bs) source = some e := by
  simp [pairOfUnits, nonZeroUnitExponent, hne.symm, he]

lemma normalize_of_inShape {e : UInt32} {as bs : List GoString} (h : InShape B.validateDenom m)
    (hunits : m.denomUnits = pairOfUnits m.base m.display e as bs) :
    normalizeVoucherMetadata B derive m = .ok (m.rewritten m.display e) := by
  have hvalid := (unitsValid_pair hunits).mp h.valid
  have hsegment : lastSegment m.display = m.display := lastSegment_of_plain h.plain
  rw [normalizeVoucherMetadata_eq_ok, hsegment]
  refine ⟨?_, h.display_ne_base, h.display_ne_nil, h.display_ne_base, e, ?_, rfl, ?_⟩
  · rw [hunits]
    simp [pairOfUnits]
  · rw [sourceDecimals, hunits, nonZeroUnitExponent_pair h.display_ne_base hvalid.2.2.2.2.1]
  · exact (unitsValid_pair rfl).mpr hvalid

variable {s : B.State} {denom : GoString}

variable (derive) in
lemma normalizeVoucherDecimals_cases (hvoucher : hasPrefix denom voucherPrefix = true)
    (hget : B.getDenomMetaData s denom = some m) :
    (∃ reason, normalizeVoucherDecimals B derive s denom = (⟨.skipped, reason, 0⟩, s)) ∨
      (InShape B.validateDenom m ∧ normalizeVoucherDecimals B derive s denom =
        (⟨.alreadyNormalized, ("", []), lastUnitExponent m.denomUnits⟩, s)) ∨
      ¬ InShape B.validateDenom m ∧ ∃ m', normalizeVoucherMetadata B derive m = .ok m' ∧
        normalizeVoucherDecimals B derive s denom =
          (⟨.applied, ("", []), lastUnitExponent m'.denomUnits⟩, B.setDenomMetaData s m') := by
  have hcall : normalizeVoucherDecimals B derive s denom =
      match normalizeVoucherMetadata B derive m with
      | .error reason => (⟨.skipped, reason, 0⟩, s)
      | .ok updated =>
        if updated.display = m.display ∧ sameDenomUnits updated.denomUnits m.denomUnits = true then
          (⟨.alreadyNormalized, ("", []), lastUnitExponent updated.denomUnits⟩, s)
        else (⟨.applied, ("", []), lastUnitExponent updated.denomUnits⟩, B.setDenomMetaData s updated) := by
    unfold normalizeVoucherDecimals
    rw [if_neg (by simp [hvoucher]), hget]
  rw [hcall]
  cases hnorm : normalizeVoucherMetadata B derive m with
  | error reason => exact Or.inl ⟨reason, rfl⟩
  | ok updated =>
    right
    dsimp only
    by_cases hsame : updated.display = m.display ∧ sameDenomUnits updated.denomUnits m.denomUnits = true
    · left
      rw [if_pos hsame]
      have hshape := inShape_of_normalize hnorm
      obtain ⟨-, -, -, -, decimals, -, rfl, -⟩ := normalizeVoucherMetadata_eq_ok.mp hnorm
      have hdisplay : lastSegment m.display = m.display := hsame.1
      obtain ⟨as, bs, hunits⟩ := sameDenomUnits_pair.mp hsame.2
      rw [hdisplay] at hunits hshape
      refine ⟨⟨?_, hshape.plain, hshape.display_ne_nil, hshape.display_ne_base, decimals, as, bs, hunits⟩, ?_⟩
      · have hplain := denomUnits_rewritten m m.display decimals
        exact (unitsValid_pair hunits).mpr ((unitsValid_pair hplain).mp hshape.valid)
      · rw [hunits]
        rfl
    · right
      rw [if_neg hsame]
      refine ⟨fun hshape => hsame ?_, updated, rfl, rfl⟩
      obtain ⟨e, as, bs, hunits⟩ := hshape.units
      rw [normalize_of_inShape hshape hunits] at hnorm
      obtain rfl := Except.ok.inj hnorm
      exact ⟨rfl, sameDenomUnits_pair.mpr ⟨as, bs, hunits⟩⟩

variable (derive) in
lemma alreadyNormalized_of_inShape (hvoucher : hasPrefix denom voucherPrefix = true)
    (hget : B.getDenomMetaData s denom = some m) (hshape : InShape B.validateDenom m) :
    normalizeVoucherDecimals B derive s denom =
      (⟨.alreadyNormalized, ("", []), lastUnitExponent m.denomUnits⟩, s) := by
  obtain ⟨e, as, bs, hunits⟩ := hshape.units
  unfold normalizeVoucherDecimals
  rw [if_neg (by simp [hvoucher]), hget]
  dsimp only
  rw [normalize_of_inShape hshape hunits]
  dsimp only
  rw [if_pos ⟨rfl, sameDenomUnits_pair.mpr ⟨as, bs, hunits⟩⟩, hunits]
  rfl

def Metadata.exponentOf (m : Metadata) (name : GoString) : Option UInt32 :=
  (m.units.find? fun u => u.denom = name).map (·.exponent)

lemma exponentOf_of_inShape (h : InShape B.validateDenom m) :
    m.exponentOf (lastSegment m.display) = some (lastUnitExponent m.denomUnits) := by
  obtain ⟨e, as, bs, hunits⟩ := h.units
  rw [lastSegment_of_plain h.plain, Metadata.exponentOf, Metadata.units, hunits]
  have hne : m.base ≠ m.display := h.display_ne_base.symm
  simp [pairOfUnits, hne, lastUnitExponent, denomUnitExponent]

/-- What a call is for. A record that it rewrites or finds in order passes the rules of x/bank, and the
last segment of `Display` names the unit with the reported decimals; no field but `Display` and the
units changes; another call finds it in order and writes nothing; and a skipped record stays. -/
structure Normalizes (B : BankKeeper) (derive : GoString → Except GoString UInt8) (s : B.State) (denom : GoString)
    (m : Metadata) : Prop where
  stored : (normalizeVoucherDecimals B derive s denom).1.outcome ∈
      [NormalizationOutcome.applied, .alreadyNormalized] →
    ∃ m', B.getDenomMetaData (normalizeVoucherDecimals B derive s denom).2 denom = some m' ∧
      B.validate m' = .ok () ∧
      m'.exponentOf (lastSegment m'.display) = some (normalizeVoucherDecimals B derive s denom).1.decimals ∧
      m' = { m with display := m'.display, denomUnits := m'.denomUnits }
  again : (normalizeVoucherDecimals B derive s denom).1.outcome ∈
      [NormalizationOutcome.applied, .alreadyNormalized] →
    (normalizeVoucherDecimals B derive (normalizeVoucherDecimals B derive s denom).2 denom).1.outcome =
      .alreadyNormalized ∧
    (normalizeVoucherDecimals B derive (normalizeVoucherDecimals B derive s denom).2 denom).2 =
      (normalizeVoucherDecimals B derive s denom).2
  skipped : (normalizeVoucherDecimals B derive s denom).1.outcome = .skipped →
    (normalizeVoucherDecimals B derive s denom).2 = s

/-- A call does what it is for exactly when the record, if it has the shape already, has valid aliases. -/
theorem normalizes_iff_aliases_valid (B : BankKeeper) (derive : GoString → Except GoString UInt8) (s : B.State)
    (denom : GoString) (m : Metadata) (hvoucher : hasPrefix denom voucherPrefix = true)
    (hget : B.getDenomMetaData s denom = some m) :
    Normalizes B derive s denom m ↔ (InShape B.validateDenom m → ∀ u ∈ m.units, u.AliasesValid) := by
  constructor
  · intro h hshape
    have hcall : normalizeVoucherDecimals B derive s denom = _ :=
      alreadyNormalized_of_inShape derive hvoucher hget hshape
    obtain ⟨m', hget', hvalid, -⟩ := h.stored (by rw [hcall]; simp)
    rw [hcall] at hget'
    obtain rfl := Option.some.inj (hget.symm.trans hget')
    exact ((B.validate_ok m).mp hvalid).2
  · intro haliases
    rcases normalizeVoucherDecimals_cases derive hvoucher hget with
      ⟨reason, hcall⟩ | ⟨hshape, hcall⟩ | ⟨-, m', hnorm, hcall⟩
    · constructor <;> rw [hcall]
      · intro h
        simp at h
      · intro h
        simp at h
      · intro _
        rfl
    · constructor <;> rw [hcall]
      · intro _
        exact ⟨m, hget, (B.validate_ok m).mpr ⟨hshape.valid, haliases hshape⟩, exponentOf_of_inShape hshape, rfl⟩
      · intro _
        dsimp only
        rw [hcall]
        exact ⟨rfl, rfl⟩
      · intro _
        rfl
    · have hshape := inShape_of_normalize hnorm
      obtain ⟨-, -, -, -, decimals, -, hm', hvalid⟩ := normalizeVoucherMetadata_eq_ok.mp hnorm
      have hbase : m'.base = denom :=
        calc m'.base = m.base := by rw [hm']; rfl
          _ = denom := B.base_of_get hget
      have hstored : B.getDenomMetaData (B.setDenomMetaData s m') denom = some m' := by
        rw [← hbase]
        exact B.get_set s m'
      constructor <;> rw [hcall]
      · intro _
        refine ⟨m', hstored, (B.validate_ok m').mpr ⟨hvalid, ?_⟩, exponentOf_of_inShape hshape, ?_⟩
        · rw [hm']
          simp [Metadata.rewritten, Metadata.units, DenomUnit.AliasesValid]
        · rw [hm']
          rfl
      · intro _
        have hagain := alreadyNormalized_of_inShape derive hvoucher hstored hshape
        dsimp only
        rw [hagain]
        exact ⟨rfl, rfl⟩
      · intro h
        cases h

end Outcome

/-- A bank that keeps its records in a list, newest first, and takes every nonempty denomination. -/
def listBank : BankKeeper where
  State := List Metadata
  getDenomMetaData := fun s denom => s.find? fun m => m.base = denom
  setDenomMetaData := fun s m => m :: s
  validateDenom := fun denom => denom ≠ []
  validate := fun m =>
    if m.UnitsValid (fun denom => denom ≠ []) ∧ ∀ u ∈ m.units, u.AliasesValid then .ok () else .error (str "invalid")
  get_set := fun s m => by simp
  base_of_get := fun h => by simpa using List.find?_some h
  validate_ok := fun m => by split <;> simp_all

def attoDecimals (denom : GoString) : Except GoString UInt8 :=
  if denom.head? = some 97 then .ok 18 else .error (str "unknown unit")

/-- The metadata of a voucher with the given display and units. -/
def voucherRecord (display : GoString) (units : List DenomUnit) : Metadata :=
  ⟨[], units.map some, str "ibc/3D02", display, str "UOC", str "UOC", [], []⟩

/-- The record that ibc-go writes for a voucher is rewritten as it should be. -/
theorem normalizes_sample :
    Normalizes listBank attoDecimals [voucherRecord (str "transfer/channel-1/auoc") [⟨str "auoc", 0, []⟩]]
      (str "ibc/3D02") (voucherRecord (str "transfer/channel-1/auoc") [⟨str "auoc", 0, []⟩]) := by
  refine (normalizes_iff_aliases_valid listBank attoDecimals _ _ _ (by decide +kernel) (by decide +kernel)).mpr ?_
  intro hshape
  exact absurd hshape.plain (by decide +kernel)

def aliasedRecord : Metadata :=
  voucherRecord (str "auoc") [⟨str "ibc/3D02", 0, []⟩, ⟨str "auoc", 18, [str "uoc", str "uoc"]⟩]

/-- A record in shape whose unit has an alias twice is reported in order, and x/bank refuses it. -/
theorem not_normalizes_duplicate_alias :
    (normalizeVoucherDecimals listBank attoDecimals [aliasedRecord] (str "ibc/3D02")).1 =
      ⟨.alreadyNormalized, ("", []), 18⟩ ∧
    ¬ Normalizes listBank attoDecimals [aliasedRecord] (str "ibc/3D02") aliasedRecord := by
  refine ⟨by decide +kernel, fun h => ?_⟩
  obtain ⟨m', hget, hvalid, -⟩ := h.stored (by decide +kernel)
  have hstored : listBank.getDenomMetaData
      (normalizeVoucherDecimals listBank attoDecimals [aliasedRecord] (str "ibc/3D02")).2 (str "ibc/3D02") =
      some aliasedRecord := by decide +kernel
  have hrefused : listBank.validate aliasedRecord = .error (str "invalid") := by decide +kernel
  obtain rfl := Option.some.inj (hstored.symm.trans hget)
  rw [hrefused] at hvalid
  cases hvalid

end Uptick.Ibc
