import Uptick.Lib.Text

/-!
# UTF-8

The part of Go's `unicode/utf8` that byte strings are checked and cut with: which bytes start a rune, how long the
rune at the head of a text is, and what is left of a text without its invalid bytes.
-/

namespace Utf8

open Text

/-- The bytes after the first byte of a rune: the length of the rune and the range of its second byte. -/
def leading (b : UInt8) : Option (Nat × UInt8 × UInt8) :=
  if b < 0x80 then some (1, 0x80, 0xBF)
  else if b < 0xC2 then none
  else if b ≤ 0xDF then some (2, 0x80, 0xBF)
  else if b = 0xE0 then some (3, 0xA0, 0xBF)
  else if b = 0xED then some (3, 0x80, 0x9F)
  else if b ≤ 0xEF then some (3, 0x80, 0xBF)
  else if b = 0xF0 then some (4, 0x90, 0xBF)
  else if b ≤ 0xF3 then some (4, 0x80, 0xBF)
  else if b = 0xF4 then some (4, 0x80, 0x8F)
  else none

def isTail (b : UInt8) : Bool := 0x80 ≤ b && b ≤ 0xBF

/-- The length of the rune that a text starts with, 0 where there is none. -/
def runeSize : GoString → Nat
  | [] => 0
  | b :: s =>
    match leading b with
    | none => 0
    | some (n, lo, hi) =>
      match s.take (n - 1) with
      | [] => if n = 1 then 1 else 0
      | c :: tail => if tail.length = n - 2 ∧ lo ≤ c ∧ c ≤ hi ∧ tail.all isTail = true then n else 0

/-- `utf8.RuneStart` -/
def runeStart (b : UInt8) : Bool := !isTail b

/-- The runes of a text one after another, at most as many as the first argument. -/
def validFrom : Nat → GoString → Bool
  | 0, s => s.isEmpty
  | fuel + 1, s => s.isEmpty || (runeSize s ≠ 0 && validFrom fuel (s.drop (runeSize s)))

/-- `utf8.ValidString` -/
def validString (s : GoString) : Bool := validFrom s.length s

def dropInvalid : Nat → GoString → GoString
  | 0, _ => []
  | _ + 1, [] => []
  | fuel + 1, b :: s =>
    if runeSize (b :: s) = 0 then dropInvalid fuel s
    else (b :: s).take (runeSize (b :: s)) ++ dropInvalid fuel ((b :: s).drop (runeSize (b :: s)))

/-- `strings.ToValidUTF8(s, "")` -/
def toValidUTF8 (s : GoString) : GoString := dropInvalid s.length s

lemma length_dropInvalid (fuel : Nat) (s : GoString) : (dropInvalid fuel s).length ≤ s.length := by
  induction fuel generalizing s with
  | zero => simp [dropInvalid]
  | succ fuel ih =>
    cases s with
    | nil => simp [dropInvalid]
    | cons b s =>
      unfold dropInvalid
      split
      · have hrest := ih s
        simp only [List.length_cons]
        omega
      · have hrest := ih ((b :: s).drop (runeSize (b :: s)))
        simp only [List.length_append, List.length_take, List.length_drop] at hrest ⊢
        omega

def IsRune (r : GoString) : Prop := r ≠ [] ∧ runeSize r = r.length

inductive Valid : GoString → Prop
  | nil : Valid []
  | cons {r s : GoString} (hr : IsRune r) (hs : Valid s) : Valid (r ++ s)

lemma runeSize_eq {b lo hi : UInt8} {n : Nat} (h : leading b = some (n, lo, hi)) {s t : GoString}
    (hst : s.take (n - 1) = t.take (n - 1)) : runeSize (b :: s) = runeSize (b :: t) := by
  simp only [runeSize, h, hst]

lemma leading_of_runeSize {b : UInt8} {s : GoString} (h : runeSize (b :: s) ≠ 0) :
    ∃ lo hi, leading b = some (runeSize (b :: s), lo, hi) ∧ runeSize (b :: s) ≤ s.length + 1 := by
  unfold runeSize at h ⊢
  cases hb : leading b with
  | none => simp [hb] at h
  | some x =>
    obtain ⟨n, lo, hi⟩ := x
    simp only [hb] at h ⊢
    cases htake : s.take (n - 1) with
    | nil =>
      rw [htake] at h
      dsimp only at h ⊢
      split at h
      · rename_i hn
        subst hn
        exact ⟨lo, hi, by simp, by simp⟩
      · exact absurd rfl h
    | cons c tail =>
      rw [htake] at h
      dsimp only at h ⊢
      split at h
      · rename_i hc
        have hlen := congrArg List.length htake
        rw [List.length_take, List.length_cons, hc.1] at hlen
        rw [if_pos hc]
        exact ⟨lo, hi, rfl, by omega⟩
      · exact absurd rfl h

lemma runeSize_append {r : GoString} (hr : IsRune r) (s : GoString) : runeSize (r ++ s) = r.length := by
  cases r with
  | nil => exact absurd rfl hr.1
  | cons b r =>
    have hsize : runeSize (b :: r) = r.length + 1 := hr.2
    obtain ⟨lo, hi, hlead, -⟩ := leading_of_runeSize (b := b) (s := r) (by omega)
    rw [hsize] at hlead
    rw [List.cons_append, runeSize_eq hlead (t := r) (by simp), hsize, List.length_cons]

lemma isRune_take {s : GoString} (h : runeSize s ≠ 0) : IsRune (s.take (runeSize s)) := by
  cases s with
  | nil => exact absurd rfl h
  | cons b s =>
    obtain ⟨lo, hi, hlead, hle⟩ := leading_of_runeSize h
    obtain ⟨n, hn⟩ := Nat.exists_eq_succ_of_ne_zero h
    rw [hn] at hlead hle
    constructor
    · simp [hn]
    · rw [hn, List.take_succ_cons, runeSize_eq hlead (t := s) (by rw [Nat.succ_sub_one, List.take_take, Nat.min_self]),
        hn, List.length_cons, List.length_take]
      omega

lemma Valid.append {s t : GoString} (hs : Valid s) (ht : Valid t) : Valid (s ++ t) := by
  induction hs with
  | nil => exact ht
  | cons hr _ ih =>
    rw [List.append_assoc]
    exact .cons hr ih

lemma IsRune.valid {r : GoString} (hr : IsRune r) : Valid r := by
  have hvalid := Valid.cons hr .nil
  rwa [List.append_nil] at hvalid

lemma valid_of_validFrom {fuel : Nat} {s : GoString} (h : validFrom fuel s = true) : Valid s := by
  induction fuel generalizing s with
  | zero =>
    rw [validFrom, List.isEmpty_iff] at h
    rw [h]
    exact .nil
  | succ fuel ih =>
    simp only [validFrom, Bool.or_eq_true, List.isEmpty_iff, Bool.and_eq_true, decide_eq_true_eq] at h
    cases h with
    | inl hnil =>
      rw [hnil]
      exact .nil
    | inr hrune =>
      have hvalid := Valid.cons (isRune_take hrune.1) (ih hrune.2)
      rwa [List.take_append_drop] at hvalid

lemma validFrom_of_valid {s : GoString} (h : Valid s) {fuel : Nat} (hfuel : s.length ≤ fuel) :
    validFrom fuel s = true := by
  induction h generalizing fuel with
  | nil => cases fuel <;> rfl
  | @cons r s hr hs ih =>
    have hpos := List.length_pos_iff.mpr hr.1
    rw [List.length_append] at hfuel
    cases fuel with
    | zero => omega
    | succ fuel =>
      have hsize := runeSize_append hr s
      have hrest : validFrom fuel s = true := ih (by omega)
      simp only [validFrom, hsize, List.drop_left, hrest]
      simp [hr.1]

lemma validString_eq_true {s : GoString} : validString s = true ↔ Valid s :=
  ⟨valid_of_validFrom, fun h => validFrom_of_valid h le_rfl⟩

lemma valid_dropInvalid (fuel : Nat) (s : GoString) : Valid (dropInvalid fuel s) := by
  induction fuel generalizing s with
  | zero => exact .nil
  | succ fuel ih =>
    cases s with
    | nil => exact .nil
    | cons b s =>
      unfold dropInvalid
      split
      · exact ih s
      · next hsize => exact .cons (isRune_take hsize) (ih _)

lemma Valid.of_append {p t : GoString} (hp : Valid p) (h : Valid (p ++ t)) : Valid t := by
  induction hp with
  | nil => exact h
  | @cons r p hr _ ih =>
    apply ih
    rw [List.append_assoc] at h
    generalize hs : r ++ (p ++ t) = s at h
    cases h with
    | nil => exact absurd (List.append_eq_nil_iff.mp hs).1 hr.1
    | @cons r' s' hr' hs' =>
      -- both runes are as long as the leading byte says
      have hlen : r.length = r'.length := by
        rw [← runeSize_append hr (p ++ t), hs, runeSize_append hr' s']
      rw [(List.append_inj hs hlen).2]
      exact hs'

lemma runeStart_of_leading {b : UInt8} {x : Nat × UInt8 × UInt8} (h : leading b = some x) : runeStart b = true := by
  have hall : ∀ b : UInt8, ∀ x ∈ leading b, runeStart b = true := by
    apply forall_byte
    decide +kernel
  exact hall b x h

lemma isTail_of_leading {b c lo hi : UInt8} {n : Nat} (h : leading b = some (n, lo, hi)) (hlo : lo ≤ c) (hhi : c ≤ hi) :
    isTail c = true := by
  have hall : ∀ b : UInt8, ∀ x ∈ leading b, 0x80 ≤ x.2.1 ∧ x.2.2 ≤ 0xBF := by
    apply forall_byte
    decide +kernel
  obtain ⟨hl, hh⟩ := hall b _ h
  simp [isTail, UInt8.le_trans hl hlo, UInt8.le_trans hhi hh]

lemma IsRune.bytes {b : UInt8} {r : GoString} (h : IsRune (b :: r)) :
    runeStart b = true ∧ ∀ c ∈ r, runeStart c = false := by
  have hsize : runeSize (b :: r) = r.length + 1 := h.2
  obtain ⟨lo, hi, hlead, -⟩ := leading_of_runeSize (b := b) (s := r) (by omega)
  refine ⟨runeStart_of_leading hlead, ?_⟩
  rw [hsize] at hlead
  cases r with
  | nil => simp
  | cons c tail =>
    have hbytes : tail.length = (c :: tail).length + 1 - 2 ∧ lo ≤ c ∧ c ≤ hi ∧ tail.all isTail = true := by
      by_contra hbad
      have htake : (c :: tail).take ((c :: tail).length + 1 - 1) = c :: tail := List.take_of_length_le (by simp)
      simp only [runeSize, hlead, htake] at hsize
      rw [if_neg hbad] at hsize
      cases hsize
    obtain ⟨-, hlo, hhi, htail⟩ := hbytes
    rw [List.all_eq_true] at htail
    simp only [List.forall_mem_cons, runeStart, Bool.not_eq_false']
    exact ⟨isTail_of_leading hlead hlo hhi, htail⟩

lemma IsRune.not_valid_take {r : GoString} (h : IsRune r) {k : Nat} (hpos : 0 < k) (hlt : k < r.length) :
    ¬Valid (r.take k) := by
  intro hvalid
  generalize hp : r.take k = p at hvalid
  cases hvalid with
  | nil =>
    have hlen := congrArg List.length hp
    rw [List.length_take, List.length_nil] at hlen
    omega
  | @cons r' p' hr' hp' =>
    have hsplit : r = r' ++ (p' ++ r.drop k) := by
      rw [← List.append_assoc, ← hp, List.take_append_drop]
    have hsize : r.length = r'.length := by
      rw [← h.2, hsplit, runeSize_append hr']
    have hlen := congrArg List.length hp
    rw [List.length_take, List.length_append] at hlen
    omega

/-- A valid text can be cut before the bytes that start a rune, and nowhere else. -/
theorem Valid.take_iff {s : GoString} (h : Valid s) {k : Nat} {b : UInt8} {t : GoString} (hk : s.drop k = b :: t) :
    Valid (s.take k) ↔ runeStart b = true := by
  induction h generalizing k with
  | nil => simp at hk
  | @cons r s hr hs ih =>
    by_cases hlt : k < r.length
    · cases r with
      | nil => cases hlt
      | cons b₀ r =>
        obtain ⟨hstart, htail⟩ := hr.bytes
        cases k with
        | zero =>
          obtain rfl : b₀ = b := (List.cons.inj hk).1
          exact iff_of_true .nil hstart
        | succ k =>
          have hlt' : k < r.length := Nat.lt_of_succ_lt_succ hlt
          have hb : b ∈ r := by
            rw [List.cons_append, List.drop_succ_cons, List.drop_append_of_le_length hlt'.le] at hk
            have hmem : b ∈ r.drop k := by
              cases hdrop : r.drop k with
              | nil => exact absurd (List.drop_eq_nil_iff.mp hdrop) (by omega)
              | cons c rest =>
                rw [hdrop] at hk
                rw [(List.cons.inj hk).1]
                exact List.mem_cons_self
            exact List.mem_of_mem_drop hmem
          rw [htail b hb, List.take_append_of_le_length hlt.le]
          exact iff_of_false (hr.not_valid_take (Nat.succ_pos k) hlt) Bool.false_ne_true
    · have hle := Nat.le_of_not_lt hlt
      obtain ⟨j, rfl⟩ := Nat.exists_eq_add_of_le hle
      rw [List.drop_length_add_append] at hk
      rw [List.take_length_add_append, ← ih hk]
      constructor
      · exact fun hv => hr.valid.of_append hv
      · exact fun hv => .cons hr hv
/-- The bytes of `utf8.RuneError`. -/
def replacement : GoString := [0xEF, 0xBF, 0xBD]

/-- `utf8.EncodeRune` -/
def encodeRune (n : Nat) : GoString :=
  if n < 0x80 then [UInt8.ofNat n]
  else if n < 0x800 then [UInt8.ofNat (0xC0 + n / 64), UInt8.ofNat (0x80 + n % 64)]
  else if 0xD800 ≤ n ∧ n < 0xE000 ∨ 0x10FFFF < n then replacement
  else if n < 0x10000 then
    [UInt8.ofNat (0xE0 + n / 4096), UInt8.ofNat (0x80 + n / 64 % 64), UInt8.ofNat (0x80 + n % 64)]
  else
    [UInt8.ofNat (0xF0 + n / 262144), UInt8.ofNat (0x80 + n / 4096 % 64), UInt8.ofNat (0x80 + n / 64 % 64),
      UInt8.ofNat (0x80 + n % 64)]

lemma isTail_ofNat {k : Nat} (hk : k < 64) : isTail (UInt8.ofNat (0x80 + k)) = true := by
  have hall : ∀ k < 64, isTail (UInt8.ofNat (0x80 + k)) = true := by decide
  exact hall k hk

lemma isRune_cons {b c : UInt8} {tail : GoString} {n : Nat} {lo hi : UInt8} (hlead : leading b = some (n, lo, hi))
    (hn : n = tail.length + 2) (hlo : lo ≤ c) (hhi : c ≤ hi) (htail : tail.all isTail = true) :
    IsRune (b :: c :: tail) := by
  refine ⟨List.cons_ne_nil _ _, ?_⟩
  have htake : (c :: tail).take (n - 1) = c :: tail := by
    apply List.take_of_length_le
    rw [List.length_cons]
    omega
  simp only [runeSize, hlead, htake]
  rw [if_pos ⟨by omega, hlo, hhi, htail⟩, hn]
  simp

lemma isRune_encodeRune (n : Nat) : IsRune (encodeRune n) := by
  have hone : ∀ n < 0x80, runeSize [UInt8.ofNat n] = 1 := by decide +kernel
  have htwo : ∀ a < 32, 2 ≤ a → leading (UInt8.ofNat (0xC0 + a)) = some (2, 0x80, 0xBF) := by decide
  have hthree : ∀ a < 16, ∀ b < 64, (a = 0 → 32 ≤ b) → (a = 13 → b < 32) →
      (leading (UInt8.ofNat (0xE0 + a))).any (fun x => x.1 = 3 ∧ x.2.1 ≤ UInt8.ofNat (0x80 + b) ∧
        UInt8.ofNat (0x80 + b) ≤ x.2.2) = true := by decide +kernel
  have hfour : ∀ a < 5, ∀ b < 64, (a = 0 → 16 ≤ b) → (a = 4 → b < 16) →
      (leading (UInt8.ofNat (0xF0 + a))).any (fun x => x.1 = 4 ∧ x.2.1 ≤ UInt8.ofNat (0x80 + b) ∧
        UInt8.ofNat (0x80 + b) ≤ x.2.2) = true := by decide +kernel
  have hrange : ∀ k < 64, 0x80 ≤ UInt8.ofNat (0x80 + k) ∧ UInt8.ofNat (0x80 + k) ≤ 0xBF := by decide
  unfold encodeRune
  split
  · rename_i hn
    exact ⟨List.cons_ne_nil _ _, hone n hn⟩
  · split
    · have hk := hrange (n % 64) (by omega)
      exact isRune_cons (htwo (n / 64) (by omega) (by omega)) rfl hk.1 hk.2 rfl
    · split
      · exact ⟨by decide, by decide⟩
      · split
        · have hlead := hthree (n / 4096) (by omega) (n / 64 % 64) (by omega) (by omega) (by omega)
          obtain ⟨x, hx, hc⟩ := (Option.any_eq_true _ _).mp hlead
          have hc := of_decide_eq_true hc
          refine isRune_cons hx hc.1 hc.2.1 hc.2.2 ?_
          rw [List.all_cons, isTail_ofNat (by omega), List.all_nil, Bool.and_self]
        · have hlead := hfour (n / 262144) (by omega) (n / 4096 % 64) (by omega) (by omega) (by omega)
          obtain ⟨x, hx, hc⟩ := (Option.any_eq_true _ _).mp hlead
          have hc := of_decide_eq_true hc
          refine isRune_cons hx hc.1 hc.2.1 hc.2.2 ?_
          rw [List.all_cons, isTail_ofNat (by omega), List.all_cons, isTail_ofNat (by omega), List.all_nil,
            Bool.and_self, Bool.and_self]

end Utf8
