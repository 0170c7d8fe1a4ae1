import Uptick.Lib.Hex

/-!
# Account addresses of the EVM

The address functions of `common` that the modules call, with their texts: an address is read from
40 hexadecimal digits, with or without `0x`, and printed in the mixed-case EIP-55 spelling, whose
capitals depend on a hash of the digits. Every spelling of an address lowers to one text.
-/

namespace Uptick.Evm

open Text Numeral Hex

/-- `common.Address`: twenty bytes. -/
structure Address where
  bytes : List UInt8
  length_bytes : bytes.length = 20
  deriving DecidableEq

def has0xPrefix : GoString → Bool
  | 48 :: 120 :: _ => true
  | 48 :: 88 :: _ => true
  | _ => false

def strip0x (s : GoString) : GoString := if has0xPrefix s then s.drop 2 else s

def isHexAddress (s : GoString) : Bool := (strip0x s).length == 40 && (strip0x s).all isHexDigit

/-- The last twenty bytes, padded with zeros on the left. -/
def bytesToAddress (b : List UInt8) : Address :=
  ⟨(List.replicate 20 0 ++ b).drop b.length, by rw [List.length_drop, List.length_append, List.length_replicate]; omega⟩

def fromHex (s : GoString) : List UInt8 :=
  decode (if (strip0x s).length % 2 = 1 then 48 :: strip0x s else strip0x s)

def hexToAddress (s : GoString) : Address := bytesToAddress (fromHex s)

def hashNibble (hash : GoString) (i : Nat) : Nat :=
  let hashByte := (hash.getD (i / 2) 0).toNat
  if i % 2 = 0 then hashByte / 16 else hashByte % 16

/-- The capitals of the checksummed spelling, from digit `i` on: a letter is raised when its
nibble of the hash is above 7. -/
def checksumFrom (hash : GoString) (i : Nat) : GoString → GoString
  | [] => []
  | d :: ds => (if 57 < d ∧ 7 < hashNibble hash i then d - 32 else d) :: checksumFrom hash (i + 1) ds

def Address.digits (a : Address) : GoString := encode a.bytes

/-- `Address.Hex` and `Address.String`: the EIP-55 spelling. -/
def Address.hex (keccak256 : GoString → GoString) (a : Address) : GoString :=
  str "0x" ++ checksumFrom (keccak256 a.digits) 0 a.digits

def Address.lowerHex (a : Address) : GoString := str "0x" ++ a.digits

def zeroAddress : Address := bytesToAddress []

@[ext] lemma Address.ext {a b : Address} (h : a.bytes = b.bytes) : a = b := by
  cases a
  cases b
  simpa using h

lemma str_0x : str "0x" = [48, 120] := by decide

lemma Address.length_digits (a : Address) : a.digits.length = 40 := by
  simp [Address.digits, a.length_bytes]

lemma Address.digits_injective : Function.Injective Address.digits := by
  intro a b h
  exact Address.ext (encode_injective h)

lemma isHexDigit_of_mem_digits {a : Address} {c : UInt8} (h : c ∈ a.digits) : isHexDigit c = true :=
  isHexDigit_of_mem_encode h

lemma bytesToAddress_bytes (a : Address) : bytesToAddress a.bytes = a := by
  apply Address.ext
  simp [bytesToAddress, a.length_bytes]

lemma has0xPrefix_iff {s : GoString} :
    has0xPrefix s = true ↔ ∃ b t, s = 48 :: b :: t ∧ (b = 120 ∨ b = 88) := by
  constructor
  · intro h
    unfold has0xPrefix at h
    split at h
    · exact ⟨120, _, rfl, Or.inl rfl⟩
    · exact ⟨88, _, rfl, Or.inr rfl⟩
    · cases h
  · rintro ⟨b, t, rfl, rfl | rfl⟩ <;> rfl

lemma has0xPrefix_toLower (s : GoString) : has0xPrefix (toLower s) = has0xPrefix s := by
  have hzero : ∀ b, (lowerByte b = 48 ↔ b = 48) :=
    forall_byte (by decide +kernel)
  have hx : ∀ b, (lowerByte b = 120 ∨ lowerByte b = 88 ↔ b = 120 ∨ b = 88) :=
    forall_byte (by decide +kernel)
  rw [Bool.eq_iff_iff, has0xPrefix_iff, has0xPrefix_iff]
  constructor
  · rintro ⟨b, t, hs, hb⟩
    match s, hs with
    | [_], hs => simp [toLower] at hs
    | c :: d :: rest, hs =>
      simp only [toLower, List.map_cons, List.cons.injEq] at hs
      obtain ⟨hc, hd, -⟩ := hs
      exact ⟨d, rest, by rw [(hzero c).mp hc], (hx d).mp (by rwa [hd])⟩
  · rintro ⟨b, t, rfl, hb⟩
    exact ⟨lowerByte b, toLower t, rfl, (hx b).mpr hb⟩

lemma strip0x_toLower (s : GoString) : strip0x (toLower s) = toLower (strip0x s) := by
  unfold strip0x
  rw [has0xPrefix_toLower]
  split
  · simp [toLower, List.map_drop]
  · rfl

lemma toLower_of_has0xPrefix {s : GoString} (h : has0xPrefix s = true) :
    toLower s = str "0x" ++ toLower (strip0x s) := by
  unfold has0xPrefix at h
  rw [str_0x]
  split at h
  · simp [strip0x, has0xPrefix, toLower]
    decide
  · simp [strip0x, has0xPrefix, toLower]
    decide
  · cases h

lemma has0xPrefix_append_0x (s : GoString) : has0xPrefix (str "0x" ++ s) = true := by
  rw [str_0x]
  rfl

lemma strip0x_append_0x (s : GoString) : strip0x (str "0x" ++ s) = s := by
  rw [strip0x, has0xPrefix_append_0x, str_0x]
  rfl

lemma has0xPrefix_of_digits {s : GoString} (hs : ∀ b ∈ s, isHexDigit b = true) : has0xPrefix s = false := by
  by_contra h
  unfold has0xPrefix at h
  split at h
  · exact absurd (hs 120 (by simp)) (by decide)
  · exact absurd (hs 88 (by simp)) (by decide)
  · exact h rfl

lemma strip0x_of_digits {s : GoString} (hs : ∀ b ∈ s, isHexDigit b = true) : strip0x s = s := by
  simp [strip0x, has0xPrefix_of_digits hs]

lemma isHexAddress_iff {s : GoString} :
    isHexAddress s = true ↔ (strip0x s).length = 40 ∧ ∀ b ∈ strip0x s, isHexDigit b = true := by
  simp [isHexAddress]

lemma isHexAddress_toLower (s : GoString) : isHexAddress (toLower s) = isHexAddress s := by
  rw [isHexAddress, strip0x_toLower, length_toLower]
  simp [isHexAddress, toLower, Function.comp_def, isHexDigit_lowerByte]

/-- The digits of the address a text denotes are the lower-case digits of the text. -/
theorem digits_hexToAddress {s : GoString} (h : isHexAddress s = true) :
    (hexToAddress s).digits = toLower (strip0x s) := by
  obtain ⟨hlen, hdig⟩ := isHexAddress_iff.mp h
  obtain ⟨henc, hdec⟩ := encode_decode (n := 20) (by omega) hdig
  have hfrom : fromHex s = decode (strip0x s) := by
    rw [fromHex, if_neg (by omega)]
  have hbytes : (hexToAddress s).bytes = decode (strip0x s) := by
    simp [hexToAddress, bytesToAddress, hfrom, hdec]
  rw [Address.digits, hbytes, henc]

theorem hexToAddress_eq_iff {s t : GoString} (hs : isHexAddress s = true) (ht : isHexAddress t = true) :
    hexToAddress s = hexToAddress t ↔ toLower (strip0x s) = toLower (strip0x t) := by
  rw [← Address.digits_injective.eq_iff, digits_hexToAddress hs, digits_hexToAddress ht]

lemma toLower_eq_lowerHex {s : GoString} (h : isHexAddress s = true) (hx : has0xPrefix s = true) :
    toLower s = (hexToAddress s).lowerHex := by
  rw [toLower_of_has0xPrefix hx, Address.lowerHex, digits_hexToAddress h]

lemma toLower_eq_digits {s : GoString} (h : isHexAddress s = true) (hx : has0xPrefix s = false) :
    toLower s = (hexToAddress s).digits := by
  rw [digits_hexToAddress h, strip0x, hx]
  rfl

lemma isHexAddress_digits (a : Address) : isHexAddress a.digits = true := by
  rw [isHexAddress_iff, strip0x_of_digits fun b => isHexDigit_of_mem_digits]
  exact ⟨a.length_digits, fun b => isHexDigit_of_mem_digits⟩

lemma hexToAddress_digits (a : Address) : hexToAddress a.digits = a := by
  apply Address.digits_injective
  rw [digits_hexToAddress (isHexAddress_digits a), strip0x_of_digits fun b => isHexDigit_of_mem_digits]
  exact toLower_encode a.bytes

lemma isHexAddress_of_strip0x {s : GoString} {a : Address} (h : toLower (strip0x s) = a.digits) :
    isHexAddress s = true := by
  rw [isHexAddress_iff]
  have hlen := congrArg List.length h
  rw [length_toLower, a.length_digits] at hlen
  refine ⟨hlen, fun b hb => ?_⟩
  have hmem : lowerByte b ∈ a.digits := h ▸ List.mem_map_of_mem hb
  rw [← isHexDigit_lowerByte]
  exact isHexDigit_of_mem_digits hmem

lemma hexToAddress_of_strip0x {s : GoString} {a : Address} (h : toLower (strip0x s) = a.digits) :
    hexToAddress s = a :=
  Address.digits_injective (by rw [digits_hexToAddress (isHexAddress_of_strip0x h), h])

lemma toLower_digits (a : Address) : toLower a.digits = a.digits := toLower_encode a.bytes

lemma toLower_lowerHex (a : Address) : toLower a.lowerHex = a.lowerHex := by
  rw [Address.lowerHex, toLower_append, toLower_digits]
  rfl

lemma strip0x_lowerHex (a : Address) : toLower (strip0x a.lowerHex) = a.digits := by
  rw [Address.lowerHex, strip0x_append_0x, toLower_digits]

@[simp] lemma isHexAddress_lowerHex (a : Address) : isHexAddress a.lowerHex = true :=
  isHexAddress_of_strip0x (strip0x_lowerHex a)

@[simp] lemma hexToAddress_lowerHex (a : Address) : hexToAddress a.lowerHex = a :=
  hexToAddress_of_strip0x (strip0x_lowerHex a)

lemma toLower_checksumFrom {hash s : GoString} (i : Nat) (hs : ∀ b ∈ s, isHexDigit b = true)
    (hl : toLower s = s) : toLower (checksumFrom hash i s) = s := by
  induction s generalizing i with
  | nil => rfl
  | cons d ds ih =>
    simp only [toLower, List.map_cons, List.cons.injEq] at hl
    have hd : isHexDigit d = true := hs d (by simp)
    have hlower : ∀ b, isHexDigit b = true → lowerByte b = b → 57 < b → lowerByte (b - 32) = b :=
      forall_byte (by decide +kernel)
    have htail := ih (i + 1) (fun b hb => hs b (by simp [hb])) hl.2
    simp only [toLower] at htail
    simp only [checksumFrom, toLower, List.map_cons, htail, List.cons.injEq, and_true]
    split
    · rename_i hup
      exact hlower d hd hl.1 hup.1
    · exact hl.1

section Checksum

variable (keccak256 : GoString → GoString)

lemma strip0x_hex (a : Address) : toLower (strip0x (a.hex keccak256)) = a.digits := by
  rw [Address.hex, strip0x_append_0x]
  exact toLower_checksumFrom 0 (fun b => isHexDigit_of_mem_digits) (toLower_digits a)

@[simp] lemma isHexAddress_hex (a : Address) : isHexAddress (a.hex keccak256) = true :=
  isHexAddress_of_strip0x (strip0x_hex keccak256 a)

@[simp] lemma hexToAddress_hex (a : Address) : hexToAddress (a.hex keccak256) = a :=
  hexToAddress_of_strip0x (strip0x_hex keccak256 a)

lemma has0xPrefix_hex (a : Address) : has0xPrefix (a.hex keccak256) = true :=
  has0xPrefix_append_0x _

/-- The checksummed spelling lowers to the canonical one. -/
theorem toLower_hex (a : Address) : toLower (a.hex keccak256) = a.lowerHex := by
  rw [toLower_eq_lowerHex (isHexAddress_hex keccak256 a) (has0xPrefix_hex keccak256 a),
    hexToAddress_hex]

end Checksum

lemma lowerHex_injective : Function.Injective Address.lowerHex := by
  intro a b h
  rw [← hexToAddress_lowerHex a, h, hexToAddress_lowerHex]

lemma notMem_of_isHexAddress {s : GoString} {d : UInt8} (h : isHexAddress s = true) (hd : isHexDigit d = false)
    (hmark : d ≠ 120 ∧ d ≠ 88) : d ∉ s := by
  obtain ⟨-, hdig⟩ := isHexAddress_iff.mp h
  intro hmem
  have hzero : d ≠ 48 := by
    rintro rfl
    cases hd
  have hstrip : d ∈ strip0x s := by
    unfold strip0x
    split
    · rename_i hx
      obtain ⟨b, t, rfl, hb⟩ := has0xPrefix_iff.mp hx
      simp only [List.mem_cons] at hmem
      rcases hmem with hc | hc | hc
      · exact absurd hc hzero
      · rcases hb with rfl | rfl
        · exact absurd hc hmark.1
        · exact absurd hc hmark.2
      · exact hc
    · exact hmem
  rw [hdig d hstrip] at hd
  cases hd

lemma comma_notMem_of_isHexAddress {s : GoString} (h : isHexAddress s = true) : comma ∉ s :=
  notMem_of_isHexAddress h (by decide) (by decide)

lemma ne_nil_of_isHexAddress {s : GoString} (h : isHexAddress s = true) : s ≠ [] := by
  rintro rfl
  exact absurd h (by decide)

end Uptick.Evm
