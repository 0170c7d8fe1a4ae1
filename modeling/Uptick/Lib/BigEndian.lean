import Mathlib.Algebra.Group.Nat.Even
import Uptick.Lib.Text

/-!
# Big-endian integers

`sdk.Uint64ToBigEndian` and `sdk.BigEndianToUint64`, for any width. A missing value reads as zero.
-/

namespace BigEndian

open Text

/-- The last `width` base-256 digits of a number, most significant first. -/
def encode : Nat → Nat → GoString
  | 0, _ => []
  | width + 1, n => encode width (n / 256) ++ [UInt8.ofNat (n % 256)]

def decode (bz : GoString) : Nat := bz.foldl (fun acc b => acc * 256 + b.toNat) 0

@[simp] lemma decode_nil : decode [] = 0 := rfl

lemma decode_append_singleton (bz : GoString) (b : UInt8) : decode (bz ++ [b]) = decode bz * 256 + b.toNat := by
  simp [decode]

theorem decode_encode (width n : Nat) : decode (encode width n) = n % 256 ^ width := by
  induction width generalizing n with
  | zero => simp [encode, Nat.mod_one]
  | succ width ih =>
    have hbyte : (UInt8.ofNat (n % 256)).toNat = n % 256 := by
      simp
    rw [encode, decode_append_singleton, ih, hbyte, Nat.pow_succ', Nat.mod_mul]
    omega

lemma decode_encode_of_lt {width n : Nat} (h : n < 256 ^ width) : decode (encode width n) = n := by
  rw [decode_encode, Nat.mod_eq_of_lt h]

theorem encode_decode (bz : GoString) : encode bz.length (decode bz) = bz := by
  induction bz using List.reverseRecOn with
  | nil => rfl
  | append_singleton bz b ih =>
    have hb : b.toNat < 256 := b.toNat_lt
    have hhigh : (decode bz * 256 + b.toNat) / 256 = decode bz := by omega
    have hlow : (decode bz * 256 + b.toNat) % 256 = b.toNat := by omega
    rw [List.length_append, List.length_singleton, decode_append_singleton, encode, hhigh, hlow, ih,
      UInt8.ofNat_toNat]

lemma decode_lt (bz : GoString) : decode bz < 256 ^ bz.length := by
  induction bz using List.reverseRecOn with
  | nil => decide
  | append_singleton bz b ih =>
    have hb : b.toNat < 256 := b.toNat_lt
    rw [List.length_append, List.length_singleton, decode_append_singleton, Nat.pow_succ]
    omega

theorem decode_inj {bz bz' : GoString} (hlen : bz.length = bz'.length) :
    decode bz = decode bz' ↔ bz = bz' := by
  constructor
  · intro h
    rw [← encode_decode bz, ← encode_decode bz', h, hlen]
  · exact congrArg decode

end BigEndian
