import Uptick.Lib.Text

/-!
# Base64

`base64.StdEncoding` on byte strings: three bytes become four digits, a shorter rest is padded. The decoder skips
line breaks and does not look at the bits of the last digit that no byte takes.
-/

namespace Base64

open Text

def digit (n : Nat) : UInt8 :=
  if n < 26 then UInt8.ofNat (65 + n)
  else if n < 52 then UInt8.ofNat (71 + n)
  else if n < 62 then UInt8.ofNat (n - 4)
  else if n = 62 then 43
  else 47

def digitVal (c : UInt8) : Option Nat :=
  if 65 ≤ c ∧ c ≤ 90 then some (c.toNat - 65)
  else if 97 ≤ c ∧ c ≤ 122 then some (c.toNat - 71)
  else if 48 ≤ c ∧ c ≤ 57 then some (c.toNat + 4)
  else if c = 43 then some 62
  else if c = 47 then some 63
  else none

def padding : UInt8 := 61

/-- `EncodeToString` -/
def encodeToString : GoString → GoString
  | [] => []
  | [a] => [digit (a.toNat / 4), digit (a.toNat % 4 * 16), padding, padding]
  | [a, b] => [digit (a.toNat / 4), digit (a.toNat % 4 * 16 + b.toNat / 16), digit (b.toNat % 16 * 4), padding]
  | a :: b :: c :: rest =>
    digit (a.toNat / 4) :: digit (a.toNat % 4 * 16 + b.toNat / 16) ::
      digit (b.toNat % 16 * 4 + c.toNat / 64) :: digit (c.toNat % 64) :: encodeToString rest

def decodePair (c d : UInt8) : Option GoString := do
  let x ← digitVal c
  let y ← digitVal d
  some [UInt8.ofNat (x * 4 + y / 16)]

def decodeTriple (c d e : UInt8) : Option GoString := do
  let x ← digitVal c
  let y ← digitVal d
  let z ← digitVal e
  some [UInt8.ofNat (x * 4 + y / 16), UInt8.ofNat (y % 16 * 16 + z / 4)]

def decodeQuantum (c d e f : UInt8) : Option GoString := do
  let x ← digitVal c
  let y ← digitVal d
  let z ← digitVal e
  let w ← digitVal f
  some [UInt8.ofNat (x * 4 + y / 16), UInt8.ofNat (y % 16 * 16 + z / 4), UInt8.ofNat (z % 4 * 64 + w)]

/-- The digits in groups of four; only the last group may be padded. -/
def decodeQuanta : GoString → Option GoString
  | [] => some []
  | c :: d :: e :: f :: rest =>
    if rest = [] ∧ f = padding then if e = padding then decodePair c d else decodeTriple c d e
    else (decodeQuantum c d e f).bind fun bytes => (decodeQuanta rest).map (bytes ++ ·)
  | _ => none

def isLineBreak (c : UInt8) : Bool := c == 10 || c == 13

/-- `DecodeString` -/
def decodeString (s : GoString) : Option GoString := decodeQuanta (s.filter fun c => !isLineBreak c)

lemma digitVal_digit {n : Nat} (hn : n < 64) : digitVal (digit n) = some n := by
  have hall : ∀ n < 64, digitVal (digit n) = some n := by decide
  exact hall n hn

lemma digit_ne_padding {n : Nat} (hn : n < 64) : digit n ≠ padding := by
  have hall : ∀ n < 64, digit n ≠ padding := by decide
  exact hall n hn

lemma not_isLineBreak_digit {n : Nat} (hn : n < 64) : isLineBreak (digit n) = false := by
  have hall : ∀ n < 64, isLineBreak (digit n) = false := by decide
  exact hall n hn

lemma ofNat_eq {n : Nat} {a : UInt8} (h : n = a.toNat) : UInt8.ofNat n = a := by
  rw [h, UInt8.ofNat_toNat]

lemma decodePair_digit {x y : Nat} (hx : x < 64) (hy : y < 64) :
    decodePair (digit x) (digit y) = some [UInt8.ofNat (x * 4 + y / 16)] := by
  rw [decodePair, digitVal_digit hx, digitVal_digit hy]
  rfl

lemma decodeTriple_digit {x y z : Nat} (hx : x < 64) (hy : y < 64) (hz : z < 64) :
    decodeTriple (digit x) (digit y) (digit z) =
      some [UInt8.ofNat (x * 4 + y / 16), UInt8.ofNat (y % 16 * 16 + z / 4)] := by
  rw [decodeTriple, digitVal_digit hx, digitVal_digit hy, digitVal_digit hz]
  rfl

lemma decodeQuantum_digit {x y z w : Nat} (hx : x < 64) (hy : y < 64) (hz : z < 64) (hw : w < 64) :
    decodeQuantum (digit x) (digit y) (digit z) (digit w) =
      some [UInt8.ofNat (x * 4 + y / 16), UInt8.ofNat (y % 16 * 16 + z / 4), UInt8.ofNat (z % 4 * 64 + w)] := by
  rw [decodeQuantum, digitVal_digit hx, digitVal_digit hy, digitVal_digit hz, digitVal_digit hw]
  rfl

lemma decodeQuanta_encodeToString (s : GoString) : decodeQuanta (encodeToString s) = some s := by
  fun_induction encodeToString s with
  | case1 => rfl
  | case2 a =>
    have ha := a.toNat_lt
    rw [decodeQuanta, if_pos ⟨rfl, rfl⟩, if_pos rfl,
      decodePair_digit (by omega) (by omega), ofNat_eq (a := a) (by omega)]
  | case3 a b =>
    have ha := a.toNat_lt
    have hb := b.toNat_lt
    rw [decodeQuanta, if_pos ⟨rfl, rfl⟩, if_neg (digit_ne_padding (by omega)),
      decodeTriple_digit (by omega) (by omega) (by omega), ofNat_eq (a := a) (by omega), ofNat_eq (a := b) (by omega)]
  | case4 a b c rest ih =>
    have ha := a.toNat_lt
    have hb := b.toNat_lt
    have hc := c.toNat_lt
    rw [decodeQuanta, if_neg fun h => digit_ne_padding (by omega) h.2,
      decodeQuantum_digit (by omega) (by omega) (by omega) (by omega), ofNat_eq (a := a) (by omega),
      ofNat_eq (a := b) (by omega), ofNat_eq (a := c) (by omega), ih]
    rfl

lemma not_isLineBreak_of_mem_encodeToString {s : GoString} {c : UInt8} (h : c ∈ encodeToString s) :
    isLineBreak c = false := by
  fun_induction encodeToString s with
  | case1 => cases h
  | case2 a =>
    have ha := a.toNat_lt
    simp only [List.mem_cons, List.not_mem_nil, or_false] at h
    rcases h with rfl | rfl | rfl | rfl
    · exact not_isLineBreak_digit (by omega)
    · exact not_isLineBreak_digit (by omega)
    · rfl
    · rfl
  | case3 a b =>
    have ha := a.toNat_lt
    have hb := b.toNat_lt
    simp only [List.mem_cons, List.not_mem_nil, or_false] at h
    rcases h with rfl | rfl | rfl | rfl
    · exact not_isLineBreak_digit (by omega)
    · exact not_isLineBreak_digit (by omega)
    · exact not_isLineBreak_digit (by omega)
    · rfl
  | case4 a b d rest ih =>
    have ha := a.toNat_lt
    have hb := b.toNat_lt
    have hd := d.toNat_lt
    simp only [List.mem_cons] at h
    rcases h with rfl | rfl | rfl | rfl | h
    · exact not_isLineBreak_digit (by omega)
    · exact not_isLineBreak_digit (by omega)
    · exact not_isLineBreak_digit (by omega)
    · exact not_isLineBreak_digit (by omega)
    · exact ih h

theorem decodeString_encodeToString (s : GoString) : decodeString (encodeToString s) = some s := by
  have hfilter : (encodeToString s).filter (fun c => !isLineBreak c) = encodeToString s := by
    apply List.filter_eq_self.mpr
    intro c hc
    simp [not_isLineBreak_of_mem_encodeToString hc]
  rw [decodeString, hfilter, decodeQuanta_encodeToString]

end Base64
