import Mathlib.Data.List.Basic
import Mathlib.Data.List.Infix

/-!
# Byte strings

Go strings are byte sequences. The functions of the package `strings` that programs use on keys and
identifiers are defined here on lists of bytes, with the laws of splitting a text at its last
separator and of removing a leading pattern.
-/

namespace Text

/-- A Go string. -/
abbrev GoString := List UInt8

instance lawfulBEqGoString : LawfulBEq GoString := inferInstance

/-- The bytes of a string literal. -/
def str (s : String) : GoString := s.toUTF8.data.toList

def comma : UInt8 := 44

def hasPrefix (s pre : GoString) : Bool := pre.isPrefixOf s

def hasSuffix (s suf : GoString) : Bool := suf.isSuffixOf s

def trimPrefix (s pre : GoString) : GoString := if hasPrefix s pre then s.drop pre.length else s

/-- `strings.Replace(s, old, "", 1)`: the first occurrence of `old` is dropped. -/
def removeFirst (old : GoString) : GoString → GoString
  | [] => []
  | c :: cs => if old.isPrefixOf (c :: cs) then (c :: cs).drop old.length else c :: removeFirst old cs

/-- `strings.LastIndex` for a one-byte separator; `none` for Go's `-1`. -/
def lastIndexByte (c : UInt8) : GoString → Option Nat
  | [] => none
  | x :: xs =>
    match lastIndexByte c xs with
    | some i => some (i + 1)
    | none => if x = c then some 0 else none

/-- The lower-case form of an ASCII letter. -/
def lowerByte (b : UInt8) : UInt8 := if 65 ≤ b ∧ b ≤ 90 then b + 32 else b

/-- `strings.ToLower` on ASCII letters. Go also maps the other letters of Unicode and replaces invalid UTF-8; on
hexadecimal and bech32 texts the two are the same. -/
def toLower (s : GoString) : GoString := s.map lowerByte

/-- `strings.EqualFold` on ASCII letters. Go also folds the other letters of Unicode, the Kelvin sign to `k` for one;
on hexadecimal and bech32 texts the two are the same. -/
def equalFold (s t : GoString) : Bool := toLower s == toLower t

/-- `strings.TrimSpace(s) == ""`: every rune is Unicode white space. -/
def isBlank : GoString → Bool
  | [] => true
  | 0xC2 :: b :: rest => (b == 0x85 || b == 0xA0) && isBlank rest
  | 0xE1 :: 0x9A :: 0x80 :: rest => isBlank rest
  | 0xE2 :: 0x80 :: b :: rest =>
    ((0x80 ≤ b && b ≤ 0x8A) || b == 0xA8 || b == 0xA9 || b == 0xAF) && isBlank rest
  | 0xE2 :: 0x81 :: 0x9F :: rest => isBlank rest
  | 0xE3 :: 0x80 :: 0x80 :: rest => isBlank rest
  | b :: rest => ((9 ≤ b && b ≤ 13) || b == 32) && isBlank rest

/-- The text without the white space it starts with. -/
def trimLeft : GoString → GoString
  | 0xC2 :: b :: rest => if b == 0x85 || b == 0xA0 then trimLeft rest else 0xC2 :: b :: rest
  | 0xE1 :: 0x9A :: 0x80 :: rest => trimLeft rest
  | 0xE2 :: 0x80 :: b :: rest =>
    if (0x80 ≤ b && b ≤ 0x8A) || b == 0xA8 || b == 0xA9 || b == 0xAF then trimLeft rest
    else 0xE2 :: 0x80 :: b :: rest
  | 0xE2 :: 0x81 :: 0x9F :: rest => trimLeft rest
  | 0xE3 :: 0x80 :: 0x80 :: rest => trimLeft rest
  | b :: rest => if (9 ≤ b && b ≤ 13) || b == 32 then trimLeft rest else b :: rest
  | [] => []

/-- The text up to the white space it ends with. -/
def trimRight : GoString → GoString
  | [] => []
  | b :: rest => if isBlank (b :: rest) then [] else b :: trimRight rest

def trimSpace (s : GoString) : GoString := trimRight (trimLeft s)

lemma isBlank_trimLeft (s : GoString) : isBlank (trimLeft s) = isBlank s := by
  fun_induction trimLeft s <;> simp_all [isBlank]

lemma trimSpace_ne_nil {s : GoString} (h : isBlank s = false) : trimSpace s ≠ [] := by
  have hleft : isBlank (trimLeft s) = false := (isBlank_trimLeft s).trans h
  unfold trimSpace
  cases hs : trimLeft s with
  | nil =>
    rw [hs] at hleft
    cases hleft
  | cons b rest =>
    rw [hs] at hleft
    simp [trimRight, hleft]

lemma hasPrefix_append (pre s : GoString) : hasPrefix (pre ++ s) pre = true := by
  simp [hasPrefix]

lemma hasPrefix_iff {s pre : GoString} : hasPrefix s pre = true ↔ ∃ t, s = pre ++ t := by
  simp only [hasPrefix, List.isPrefixOf_iff_prefix]
  constructor
  · rintro ⟨t, ht⟩
    exact ⟨t, ht.symm⟩
  · rintro ⟨t, rfl⟩
    exact ⟨t, rfl⟩

lemma hasPrefix_eq_false {s pre : GoString} (hne : pre ≠ []) (h : pre.head? ≠ s.head?) : hasPrefix s pre = false := by
  rw [Bool.eq_false_iff]
  intro hpre
  obtain ⟨t, rfl⟩ := hasPrefix_iff.mp hpre
  rw [List.head?_append_of_ne_nil _ hne] at h
  exact h rfl

lemma lastIndexByte_eq_none_iff {c : UInt8} {s : GoString} : lastIndexByte c s = none ↔ c ∉ s := by
  induction s with
  | nil => simp [lastIndexByte]
  | cons x xs ih =>
    cases hxs : lastIndexByte c xs with
    | none =>
      rw [hxs] at ih
      simp [lastIndexByte, hxs, ih.mp rfl, eq_comm]
    | some i =>
      have hmem : c ∈ xs := by
        by_contra hn
        rw [ih.mpr hn] at hxs
        cases hxs
      simp [lastIndexByte, hxs, hmem]

lemma lastIndexByte_append_cons {c : UInt8} (a : GoString) {b : GoString} (hb : c ∉ b) :
    lastIndexByte c (a ++ c :: b) = some a.length := by
  induction a with
  | nil => simp [lastIndexByte, lastIndexByte_eq_none_iff.mpr hb]
  | cons x xs ih => simp [lastIndexByte, ih]

/-- Two texts cut at their last separator are equal exactly when their parts are. -/
lemma append_cons_inj_last {c : UInt8} {a b a' b' : GoString} (hb : c ∉ b) (hb' : c ∉ b')
    (h : a ++ c :: b = a' ++ c :: b') : a = a' ∧ b = b' := by
  have hlen : a.length = a'.length := by
    have hidx := lastIndexByte_append_cons a hb
    rw [h, lastIndexByte_append_cons a' hb'] at hidx
    exact (Option.some.inj hidx).symm
  obtain ⟨rfl, htail⟩ := List.append_inj h hlen
  exact ⟨rfl, (List.cons.inj htail).2⟩

lemma eq_of_lastIndexByte {c : UInt8} {s : GoString} {i : Nat} (h : lastIndexByte c s = some i) :
    s = s.take i ++ c :: s.drop (i + 1) ∧ c ∉ s.drop (i + 1) := by
  induction s generalizing i with
  | nil => simp [lastIndexByte] at h
  | cons x xs ih =>
    simp only [lastIndexByte] at h
    split at h
    · rename_i j hj
      obtain rfl : j + 1 = i := by simpa using h
      obtain ⟨hs, hc⟩ := ih hj
      refine ⟨?_, by simpa using hc⟩
      simpa using hs
    · rename_i hn
      split at h
      · rename_i hx
        obtain rfl : 0 = i := by simpa using h
        subst hx
        exact ⟨by simp, by simpa using lastIndexByte_eq_none_iff.mp hn⟩
      · cases h

lemma append_cons_inj {α : Type*} {c : α} {a a' b b' : List α} (ha : c ∉ a) (ha' : c ∉ a')
    (h : a ++ c :: b = a' ++ c :: b') : a = a' ∧ b = b' := by
  induction a generalizing a' with
  | nil =>
    cases a' with
    | nil => exact ⟨rfl, (List.cons.inj h).2⟩
    | cons x xs => exact absurd (List.cons.inj h).1 (List.ne_of_not_mem_cons ha')
  | cons x xs ih =>
    cases a' with
    | nil => exact absurd (List.cons.inj h).1.symm (List.ne_of_not_mem_cons ha)
    | cons y ys =>
      obtain ⟨rfl, htail⟩ := List.cons.inj h
      obtain ⟨rfl, hb⟩ := ih (List.not_mem_of_not_mem_cons ha) (List.not_mem_of_not_mem_cons ha') htail
      exact ⟨rfl, hb⟩

lemma removeFirst_of_hasPrefix {old s : GoString} (hne : old ≠ []) :
    removeFirst old (old ++ s) = s := by
  cases old with
  | nil => exact absurd rfl hne
  | cons c cs => simp [removeFirst]

lemma removeFirst_cons_of_not {old : GoString} {c : UInt8} {cs : GoString} (h : ¬ old <+: c :: cs) :
    removeFirst old (c :: cs) = c :: removeFirst old cs := by
  rw [removeFirst, if_neg (by simpa using h)]

lemma removeFirst_of_not_infix {old s : GoString} (h : ¬ old <:+: s) : removeFirst old s = s := by
  induction s with
  | nil => rfl
  | cons c cs ih =>
    have hfront : ¬ old <+: c :: cs := fun hp => h hp.isInfix
    have htail : ¬ old <:+: cs := fun hi => h (hi.trans (List.suffix_cons c cs).isInfix)
    rw [removeFirst_cons_of_not hfront, ih htail]

lemma removeFirst_of_first {old x y : GoString} (hne : old ≠ []) (h : ¬ old <:+: x ++ old.dropLast) :
    removeFirst old (x ++ old ++ y) = x ++ y := by
  induction x with
  | nil => exact removeFirst_of_hasPrefix hne
  | cons c cs ih =>
    have htail : ¬ old <:+: cs ++ old.dropLast := fun hi =>
      h (hi.trans (List.suffix_cons c _).isInfix)
    have hfront : ¬ old <+: c :: (cs ++ old ++ y) := by
      intro hp
      have hpos : 0 < old.length := List.length_pos_iff.mpr hne
      have hstart : (c :: cs) ++ old.dropLast <+: c :: (cs ++ old ++ y) := by
        rw [List.cons_append, List.cons_prefix_cons, List.append_assoc]
        refine ⟨rfl, List.prefix_append_right_inj cs |>.mpr ?_⟩
        exact (List.dropLast_prefix old).trans (List.prefix_append old y)
      have hlen : old.length ≤ ((c :: cs) ++ old.dropLast).length := by
        simp only [List.length_append, List.length_cons, List.length_dropLast]
        omega
      exact h (List.prefix_of_prefix_length_le hp hstart hlen).isInfix
    calc removeFirst old (c :: cs ++ old ++ y)
        = c :: removeFirst old (cs ++ old ++ y) := removeFirst_cons_of_not hfront
      _ = c :: (cs ++ y) := by rw [ih htail]

/-- What is left is the text itself, or the text around the first occurrence. -/
theorem removeFirst_eq_iff {old s t : GoString} (hne : old ≠ []) : removeFirst old s = t ↔
    ¬ old <:+: s ∧ s = t ∨ ∃ x y, s = x ++ old ++ y ∧ t = x ++ y ∧ ¬ old <:+: x ++ old.dropLast := by
  constructor
  · rintro rfl
    induction s with
    | nil => exact Or.inl ⟨by simpa using hne, rfl⟩
    | cons c cs ih =>
      by_cases hfront : old <+: c :: cs
      · obtain ⟨y, hy⟩ := hfront
        refine Or.inr ⟨[], y, by simp [hy], ?_, ?_⟩
        · rw [← hy, removeFirst_of_hasPrefix hne, List.nil_append]
        · intro hi
          have hle := hi.length_le
          have hpos : 0 < old.length := List.length_pos_iff.mpr hne
          rw [List.nil_append, List.length_dropLast] at hle
          omega
      · rw [removeFirst_cons_of_not hfront]
        rcases ih with ⟨hno, heq⟩ | ⟨x, y, hcs, heq, hfirst⟩
        · refine Or.inl ⟨fun hi => ?_, by rw [← heq]⟩
          rcases List.infix_cons_iff.mp hi with hp | hi
          · exact hfront hp
          · exact hno hi
        · refine Or.inr ⟨c :: x, y, by rw [hcs]; rfl, by rw [heq]; rfl, fun hi => ?_⟩
          rcases List.infix_cons_iff.mp hi with hp | hi
          · refine hfront (hp.trans ?_)
            rw [hcs, List.cons_prefix_cons, List.append_assoc]
            refine ⟨rfl, List.prefix_append_right_inj x |>.mpr ?_⟩
            exact (List.dropLast_prefix old).trans (List.prefix_append old y)
          · exact hfirst hi
  · rintro (⟨hno, rfl⟩ | ⟨x, y, rfl, rfl, hfirst⟩)
    · exact removeFirst_of_not_infix hno
    · exact removeFirst_of_first hne hfirst

/-- A property of bytes is checked on the 256 of them. -/
lemma forall_byte {p : UInt8 → Prop} (h : ∀ n < 256, p (UInt8.ofNat n)) (b : UInt8) : p b := by
  have hb := h b.toNat b.toNat_lt
  rwa [UInt8.ofNat_toNat] at hb

lemma lowerByte_lowerByte (b : UInt8) : lowerByte (lowerByte b) = lowerByte b :=
  forall_byte (p := fun b => lowerByte (lowerByte b) = lowerByte b) (by decide +kernel) b

lemma toLower_toLower (s : GoString) : toLower (toLower s) = toLower s := by
  simp [toLower, List.map_map, Function.comp_def, lowerByte_lowerByte]

lemma toLower_append (s t : GoString) : toLower (s ++ t) = toLower s ++ toLower t := by
  simp [toLower]

@[simp] lemma length_toLower (s : GoString) : (toLower s).length = s.length := by
  simp [toLower]

end Text
