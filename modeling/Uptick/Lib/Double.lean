import Mathlib.Data.Nat.Log
import Mathlib.Algebra.Order.Field.Rat
import Uptick.Lib.Numeral

/-!
# Decimal literals and doubles

A decimal literal with its exact value, the double that `strconv.ParseFloat` reads it as, and the literal that
`encoding/json` prints for a double. Printing takes the fewest digits that are read back as the same double.
-/

namespace Decimal

open Text Numeral

/-- The exponent of the smallest positive double, `2 ^ -1074`. -/
@[irreducible]
def unitExponent : Nat := 1074

/-- The place of the last of the 53 bits that a double of that size keeps, in units. -/
def lastPlace (n : Nat) : Nat := 2 ^ (n.log2 + 1 - 53)

/-- A finite double: its sign, and its size in units of the smallest positive double. -/
@[ext]
structure Double where
  neg : Bool
  units : Nat
  fits : lastPlace units ∣ units
  finite : units < 2 ^ (1024 + unitExponent)
  deriving DecidableEq

/-- `num / den` rounded to a natural number, to the even one from the middle between two. -/
def roundHalfEven (num den : Nat) : Nat :=
  if 2 * (num % den) < den then num / den
  else if den < 2 * (num % den) then num / den + 1
  else num / den + num / den % 2

/-- `num / den` rounded to the last place of its size. -/
def roundToPlace (num den : Nat) : Nat :=
  roundHalfEven num (den * lastPlace (num / den)) * lastPlace (num / den)

lemma roundHalfEven_mul (n : Nat) {den : Nat} (hden : 0 < den) : roundHalfEven (n * den) den = n := by
  unfold roundHalfEven
  rw [Nat.mul_mod_left, Nat.mul_div_cancel _ hden, if_pos (by omega)]

lemma roundHalfEven_le {num den k : Nat} (hden : 0 < den) (h : num < k * den) : roundHalfEven num den ≤ k := by
  have hdiv : num / den < k := (Nat.div_lt_iff_lt_mul hden).mpr h
  unfold roundHalfEven
  split
  · omega
  · split <;> omega

lemma lastPlace_pos (n : Nat) : 0 < lastPlace n := Nat.two_pow_pos _

lemma lastPlace_dvd_mul {k j : Nat} (hk : k ≤ 2 ^ 53) : lastPlace (k * 2 ^ j) ∣ k * 2 ^ j := by
  rcases hk.lt_or_eq with hlt | rfl
  · by_cases hzero : k = 0
    · simp [hzero]
    have hlog : (k * 2 ^ j).log2 < 53 + j := by
      apply (Nat.log2_lt (by positivity)).mpr
      rw [pow_add]
      exact Nat.mul_lt_mul_of_pos_right hlt (Nat.two_pow_pos _)
    exact Dvd.dvd.mul_left (Nat.pow_dvd_pow 2 (by omega)) k
  · have hlog : (2 ^ 53 * 2 ^ j).log2 = 53 + j := by
      rw [← pow_add]
      exact Nat.log2_two_pow
    unfold lastPlace
    rw [hlog, ← pow_add]
    exact Nat.pow_dvd_pow 2 (by omega)

lemma lastPlace_dvd_roundToPlace (num den : Nat) (hden : 0 < den) :
    lastPlace (roundToPlace num den) ∣ roundToPlace num den := by
  apply lastPlace_dvd_mul
  apply roundHalfEven_le (Nat.mul_pos hden (lastPlace_pos _))
  have hsize : num / den < 2 ^ 53 * lastPlace (num / den) := by
    unfold lastPlace
    rw [← pow_add]
    exact lt_of_lt_of_le Nat.lt_log2_self (Nat.pow_le_pow_right (by omega) (by omega))
  have hnum := (Nat.div_lt_iff_lt_mul hden).mp hsize
  rwa [mul_comm den, ← mul_assoc]

lemma roundToPlace_mul {n den : Nat} (hden : 0 < den) (hfits : lastPlace n ∣ n) : roundToPlace (n * den) den = n := by
  unfold roundToPlace
  rw [Nat.mul_div_cancel _ hden]
  have hquot : n * den = n / lastPlace n * (den * lastPlace n) := by
    calc n * den = n / lastPlace n * lastPlace n * den := by rw [Nat.div_mul_cancel hfits]
      _ = n / lastPlace n * (den * lastPlace n) := by ring
  rw [hquot, roundHalfEven_mul _ (Nat.mul_pos hden (lastPlace_pos n)), Nat.div_mul_cancel hfits]

/-- The double closest to `num / den`, none where it is not finite. -/
def Double.ofRatio (neg : Bool) (num den : Nat) (hden : 0 < den) : Option Double :=
  if h : roundToPlace (num * 2 ^ unitExponent) den < 2 ^ (1024 + unitExponent) then
    some ⟨neg, _, lastPlace_dvd_roundToPlace _ den hden, h⟩
  else none

def isDigit (b : UInt8) : Bool := 48 ≤ b && b ≤ 57

def digitsVal (s : GoString) : Nat := s.foldl (fun acc b => acc * 10 + (b.toNat - 48)) 0

/-- A number as it is written: a part without digits is not there. -/
@[ext]
structure Literal where
  neg : Bool
  int : GoString
  frac : GoString
  expSign : Option UInt8
  exp : GoString
  deriving DecidableEq, Repr

namespace Literal

def text (l : Literal) : GoString :=
  (if l.neg then [45] else []) ++ l.int ++ (if l.frac = [] then [] else 46 :: l.frac) ++
    (if l.exp = [] then [] else 101 :: l.expSign.toList ++ l.exp)

/-- The grammar of JSON numbers. -/
structure WellFormed (l : Literal) : Prop where
  int_ne_nil : l.int ≠ []
  int : l.int.all isDigit = true
  noLeadingZero : l.int.head? = some 48 → l.int = [48]
  frac : l.frac.all isDigit = true
  exp : l.exp.all isDigit = true
  expSign : l.expSign = none ∨ l.exp ≠ [] ∧ (l.expSign = some 43 ∨ l.expSign = some 45)

instance (l : Literal) : Decidable l.WellFormed :=
  decidable_of_iff (l.int ≠ [] ∧ l.int.all isDigit = true ∧ (l.int.head? = some 48 → l.int = [48]) ∧
      l.frac.all isDigit = true ∧ l.exp.all isDigit = true ∧
      (l.expSign = none ∨ l.exp ≠ [] ∧ (l.expSign = some 43 ∨ l.expSign = some 45)))
    ⟨fun ⟨h₁, h₂, h₃, h₄, h₅, h₆⟩ => ⟨h₁, h₂, h₃, h₄, h₅, h₆⟩,
      fun ⟨h₁, h₂, h₃, h₄, h₅, h₆⟩ => ⟨h₁, h₂, h₃, h₄, h₅, h₆⟩⟩

/-- The digits as one number, without the point. -/
def mantissa (l : Literal) : Nat := digitsVal (l.int ++ l.frac)

def signed (l : Literal) (exponent : Nat) : Int := if l.expSign = some 45 then -exponent else exponent

/-- The number that is written. -/
def value (l : Literal) : ℚ :=
  (if l.neg then -1 else 1) * l.mantissa * 10 ^ (l.signed (digitsVal l.exp) - l.frac.length)

def readExponent (s : GoString) : Nat := s.foldl (fun e b => if e < 10000 then e * 10 + (b.toNat - 48) else e) 0

/-- `strconv.ParseFloat`: the closest double, none where that is out of range. -/
def parseFloat (l : Literal) : Option Double :=
  match l.signed (readExponent l.exp) - l.frac.length with
  | .ofNat e => Double.ofRatio l.neg (l.mantissa * 10 ^ e) 1 Nat.one_pos
  | .negSucc e => Double.ofRatio l.neg l.mantissa (10 ^ (e + 1)) (Nat.pow_pos (by decide))

end Literal

namespace Double

/-- The size as a number of units of `10 ^ -1074`. -/
def decimals (f : Double) : Nat := f.units * 5 ^ unitExponent

/-- All decimals of a double, as they are. -/
def exactLiteral (f : Double) : Literal := ⟨f.neg, Numeral.text 10 f.decimals, [], some 45, str "1074"⟩

/-- `0.digits * 10 ^ point` with a point (the format `f` of `strconv`). -/
def plainLiteral (neg : Bool) (digits : GoString) (point : Int) : Literal :=
  if point ≤ 0 then ⟨neg, [48], List.replicate (-point).toNat 48 ++ digits, none, []⟩
  else ⟨neg, digits.take point.toNat ++ List.replicate (point.toNat - digits.length) 48,
    digits.drop point.toNat, none, []⟩

/-- `0.digits * 10 ^ point` with an exponent (the format `e`, without the zero that pads the exponent). -/
def exponentLiteral (neg : Bool) (digits : GoString) (point : Int) : Literal :=
  ⟨neg, digits.take 1, digits.drop 1, some (if point - 1 < 0 then 45 else 43), Numeral.text 10 (point - 1).natAbs⟩

/-- The format `encoding/json` chooses: an exponent below `1e-6` and from `1e21` on. -/
def layout (f : Double) (digits : GoString) (point : Int) : Literal :=
  if f.units < roundToPlace (2 ^ unitExponent) (10 ^ 6) ∨ 10 ^ 21 * 2 ^ unitExponent ≤ f.units then
    exponentLiteral f.neg digits point
  else plainLiteral f.neg digits point

def trimZeros (s : GoString) : GoString := (s.reverse.dropWhile (· == 48)).reverse

/-- The two numbers of `n` digits around a double, the closer one first. -/
def candidates (f : Double) (n : Nat) : List Literal :=
  let length := (Numeral.text 10 f.decimals).length
  let place := 10 ^ (length - n)
  let near := roundHalfEven f.decimals place
  let far := if near = f.decimals / place then near + 1 else f.decimals / place
  [near, far].map fun d =>
    let digits := Numeral.text 10 d
    f.layout (trimZeros digits) (digits.length + (length - n : Nat) - unitExponent)

def ReadBack (f : Double) (l : Literal) : Prop := l.WellFormed ∧ l.parseFloat = some f

instance (f : Double) (l : Literal) : Decidable (f.ReadBack l) := inferInstanceAs (Decidable (_ ∧ _))

/-- The number with the fewest digits that is read as this double. -/
def shortest (f : Double) : Option Literal :=
  (List.range 17).findSome? fun n => (f.candidates (n + 1)).find? fun l => f.ReadBack l

/-- The literal `encoding/json` prints for a double. Seventeen digits tell all doubles apart, so that a shortest
number is found; the exact decimals stand in for it, since they are read back without that argument. -/
def literal (f : Double) : Literal :=
  if f.units = 0 then ⟨f.neg, [48], [], none, []⟩ else f.shortest.getD f.exactLiteral

end Double

lemma isDigit_digitByte {d : Nat} (hd : d < 10) : isDigit (digitByte d) = true := by
  have hall : ∀ d < 10, isDigit (digitByte d) = true := by decide
  exact hall d hd

lemma all_isDigit_text (n : Nat) : (Numeral.text 10 n).all isDigit = true := by
  rw [List.all_eq_true]
  intro b hb
  obtain ⟨d, hd, rfl⟩ := mem_text (by decide) (by decide) hb
  exact isDigit_digitByte hd

lemma head?_text_ne_zero {n : Nat} (hn : n ≠ 0) : (Numeral.text 10 n).head? ≠ some 48 := by
  have hne : Nat.digits 10 n ≠ [] := Nat.digits_ne_nil_iff_ne_zero.mpr hn
  have hlast : (Nat.digits 10 n).getLast hne ≠ 0 := Nat.getLast_digit_ne_zero 10 hn
  have hlt : (Nat.digits 10 n).getLast hne < 10 := Nat.digits_lt_base (by decide) (List.getLast_mem hne)
  have hall : ∀ d < 10, d ≠ 0 → digitByte d ≠ 48 := by decide
  rw [Numeral.text, if_neg hn, List.head?_reverse, List.getLast?_map, List.getLast?_eq_some_getLast hne]
  intro h
  exact hall _ hlt hlast (Option.some.inj h)

lemma digitsVal_of_readDigits {s : GoString} {acc n : Nat} (h : readDigits 10 acc s = some n) :
    s.foldl (fun acc b => acc * 10 + (b.toNat - 48)) acc = n := by
  induction s generalizing acc with
  | nil => exact Option.some.inj h
  | cons b s ih =>
    have hbyte : ∀ b : UInt8, ∀ d, digitVal b = some d → d < 10 → b.toNat - 48 = d := by
      apply forall_byte
      decide +kernel
    rw [readDigits, readDigit] at h
    cases hd : digitVal b with
    | none => simp [hd] at h
    | some d =>
      by_cases hlt : d < 10
      · simp only [hd, if_pos hlt, Option.bind_some] at h
        rw [List.foldl_cons, hbyte b d hd hlt]
        exact ih h
      · simp [hd, if_neg hlt] at h

lemma digitsVal_text (n : Nat) : digitsVal (Numeral.text 10 n) = n := by
  have hread : parseNat 10 (Numeral.text 10 n) = some n := parseNat_text (by decide) (by decide) n
  rw [parseNat, if_neg (text_ne_nil 10 n)] at hread
  exact digitsVal_of_readDigits hread

namespace Double

lemma ofRatio_eq_some (f : Double) {num den : Nat} (hden : 0 < den) (h : num * 2 ^ unitExponent = f.units * den) :
    ofRatio f.neg num den hden = some f := by
  have hround : roundToPlace (num * 2 ^ unitExponent) den = f.units := by
    rw [h, roundToPlace_mul hden f.fits]
  unfold ofRatio
  rw [dif_pos (by rw [hround]; exact f.finite)]
  rw [Option.some.injEq]
  exact Double.ext rfl hround

lemma readBack_exactLiteral {f : Double} (hf : f.units ≠ 0) : f.ReadBack f.exactLiteral := by
  have hpos : f.decimals ≠ 0 := Nat.mul_ne_zero hf (pow_ne_zero _ (by decide))
  have hdigits : (str "1074").all isDigit = true := by decide
  have hne : str "1074" ≠ [] := by decide
  constructor
  · exact ⟨text_ne_nil 10 _, all_isDigit_text _, fun h => absurd h (head?_text_ne_zero hpos), rfl, hdigits,
      Or.inr ⟨hne, Or.inr rfl⟩⟩
  · have hexp : f.exactLiteral.signed (Literal.readExponent f.exactLiteral.exp) - f.exactLiteral.frac.length =
        .negSucc 1073 := by
      have hread : Literal.readExponent (str "1074") = 1074 := by decide
      simp [exactLiteral, Literal.signed, hread]
    have hmant : f.exactLiteral.mantissa = f.decimals := by
      simp [exactLiteral, Literal.mantissa, digitsVal_text]
    rw [Literal.parseFloat, hexp]
    dsimp only
    apply ofRatio_eq_some
    rw [hmant]
    calc f.decimals * 2 ^ unitExponent = f.units * (5 ^ unitExponent * 2 ^ unitExponent) := by
          rw [decimals, mul_assoc]
      _ = f.units * 10 ^ unitExponent := by rw [← mul_pow, show 5 * 2 = 10 from rfl]
      _ = f.units * 10 ^ (1073 + 1) := by rw [unitExponent]

/-- What is printed for a double is a number, and it is read as this double. -/
theorem readBack_literal (f : Double) : f.ReadBack f.literal := by
  unfold literal
  split
  · rename_i hzero
    constructor
    · exact ⟨List.cons_ne_nil _ _, rfl, fun _ => rfl, rfl, rfl, Or.inl rfl⟩
    · exact ofRatio_eq_some f Nat.one_pos (by simp [Literal.mantissa, digitsVal, hzero])
  · rename_i hf
    cases hshort : f.shortest with
    | none => exact readBack_exactLiteral hf
    | some l =>
      obtain ⟨n, -, hn⟩ := List.exists_of_findSome?_eq_some hshort
      simpa using List.find?_some hn

end Double

end Decimal
