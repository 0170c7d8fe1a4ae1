import Uptick.Lib.Numeral

/-!
# Hexadecimal text

`hex.EncodeToString` and `hex.DecodeString` on byte strings. Decoding inverts encoding, and
re-encoding the bytes of a hexadecimal text gives its lower-case spelling.
-/

namespace Hex

open Text Numeral

def hexVal (b : UInt8) : Option Nat := (digitVal b).filter (· < 16)

def isHexDigit (b : UInt8) : Bool := (hexVal b).isSome

def hexByte (b : UInt8) : GoString := [digitByte (b.toNat / 16), digitByte (b.toNat % 16)]

def encode (bs : List UInt8) : GoString := bs.flatMap hexByte

/-- The bytes decoded before the first fault. -/
def decode : GoString → List UInt8
  | c :: d :: rest =>
    match hexVal c, hexVal d with
    | some h, some l => UInt8.ofNat (16 * h + l) :: decode rest
    | _, _ => []
  | _ => []

lemma hexVal_digitByte {d : Nat} (hd : d < 16) : hexVal (digitByte d) = some d := by
  simp [hexVal, digitVal_digitByte hd, hd]

lemma lt_of_hexVal {b : UInt8} {d : Nat} (h : hexVal b = some d) : d < 16 := by
  simp only [hexVal, Option.filter_eq_some_iff, decide_eq_true_eq] at h
  exact h.2

lemma hexVal_lowerByte (b : UInt8) : hexVal (lowerByte b) = hexVal b :=
  forall_byte (p := fun b => hexVal (lowerByte b) = hexVal b) (by decide +kernel) b

lemma digitByte_of_hexVal {b : UInt8} {d : Nat} (h : hexVal b = some d) : digitByte d = lowerByte b := by
  have hall : ∀ b : UInt8, (hexVal b).map digitByte = if isHexDigit b then some (lowerByte b) else none :=
    forall_byte (by decide +kernel)
  have hb := hall b
  simpa [h, isHexDigit] using hb

lemma digitByte_of_mem {b : UInt8} (h : isHexDigit b = true) :
    ∃ d, d < 16 ∧ hexVal b = some d ∧ digitByte d = lowerByte b := by
  obtain ⟨d, hd⟩ := Option.isSome_iff_exists.mp h
  exact ⟨d, lt_of_hexVal hd, hd, digitByte_of_hexVal hd⟩

lemma isHexDigit_digitByte {d : Nat} (hd : d < 16) : isHexDigit (digitByte d) = true := by
  simp [isHexDigit, hexVal_digitByte hd]

lemma isHexDigit_lowerByte (b : UInt8) : isHexDigit (lowerByte b) = isHexDigit b := by
  simp [isHexDigit, hexVal_lowerByte]

lemma lowerByte_digitByte {d : Nat} (hd : d < 16) : lowerByte (digitByte d) = digitByte d :=
  (digitByte_of_hexVal (hexVal_digitByte hd)).symm

lemma decode_hexByte_append (b : UInt8) (s : GoString) : decode (hexByte b ++ s) = b :: decode s := by
  have hb : b.toNat < 256 := b.toNat_lt
  have hval : 16 * (b.toNat / 16) + b.toNat % 16 = b.toNat := by omega
  simp [hexByte, decode, hexVal_digitByte (show b.toNat / 16 < 16 by omega),
    hexVal_digitByte (show b.toNat % 16 < 16 by omega), hval]

theorem decode_encode (bs : List UInt8) : decode (encode bs) = bs := by
  induction bs with
  | nil => rfl
  | cons b bs ih =>
    have hcons : encode (b :: bs) = hexByte b ++ encode bs := rfl
    rw [hcons, decode_hexByte_append, ih]

theorem encode_injective : Function.Injective encode := by
  intro a b h
  rw [← decode_encode a, h, decode_encode]

@[simp] lemma length_encode (bs : List UInt8) : (encode bs).length = 2 * bs.length := by
  induction bs with
  | nil => rfl
  | cons b bs ih =>
    have hcons : encode (b :: bs) = hexByte b ++ encode bs := rfl
    simp only [hcons, List.length_append, hexByte, List.length_cons, List.length_nil, ih]
    omega

lemma isHexDigit_of_mem_encode {bs : List UInt8} {c : UInt8} (h : c ∈ encode bs) : isHexDigit c = true := by
  obtain ⟨b, -, hc⟩ := List.mem_flatMap.mp h
  have hb : b.toNat < 256 := b.toNat_lt
  simp only [hexByte, List.mem_cons, List.not_mem_nil, or_false] at hc
  rcases hc with rfl | rfl
  · exact isHexDigit_digitByte (by omega)
  · exact isHexDigit_digitByte (by omega)

lemma toLower_encode (bs : List UInt8) : toLower (encode bs) = encode bs := by
  induction bs with
  | nil => rfl
  | cons b bs ih =>
    have hb : b.toNat < 256 := b.toNat_lt
    have hcons : encode (b :: bs) = hexByte b ++ encode bs := rfl
    rw [hcons, toLower_append, ih]
    simp [toLower, hexByte, lowerByte_digitByte (show b.toNat / 16 < 16 by omega),
      lowerByte_digitByte (show b.toNat % 16 < 16 by omega)]

/-- Re-encoding a hexadecimal text of even length lowers it. -/
theorem encode_decode {n : Nat} {s : GoString} (hlen : s.length = 2 * n)
    (hs : ∀ b ∈ s, isHexDigit b = true) : encode (decode s) = toLower s ∧ (decode s).length = n := by
  induction n generalizing s with
  | zero =>
    obtain rfl : s = [] := List.length_eq_zero_iff.mp (by omega)
    exact ⟨rfl, rfl⟩
  | succ n ih =>
    match s, hlen, hs with
    | c :: d :: rest, hlen, hs =>
      obtain ⟨h, hh16, hh, hhb⟩ := digitByte_of_mem (hs c (by simp))
      obtain ⟨l, hl16, hl, hlb⟩ := digitByte_of_mem (hs d (by simp))
      have hrest : rest.length = 2 * n := by
        simp only [List.length_cons] at hlen
        omega
      obtain ⟨henc, hdec⟩ := ih hrest fun b hb => hs b (by simp [hb])
      have hcons : decode (c :: d :: rest) = UInt8.ofNat (16 * h + l) :: decode rest := by
        simp [decode, hh, hl]
      have hnat : (UInt8.ofNat (16 * h + l)).toNat = 16 * h + l := by
        rw [UInt8.toNat_ofNat']
        omega
      have hbyte : hexByte (UInt8.ofNat (16 * h + l)) = [lowerByte c, lowerByte d] := by
        have hdiv : (16 * h + l) / 16 = h := by omega
        have hmod : (16 * h + l) % 16 = l := by omega
        rw [hexByte, hnat, hdiv, hmod, hhb, hlb]
      refine ⟨?_, by simp [hcons, hdec]⟩
      have hflat : encode (decode (c :: d :: rest)) =
          hexByte (UInt8.ofNat (16 * h + l)) ++ encode (decode rest) := by
        rw [hcons]
        rfl
      rw [hflat, hbyte, henc]
      rfl

end Hex
