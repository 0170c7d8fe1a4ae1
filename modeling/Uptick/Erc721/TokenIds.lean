import Uptick.Erc721.Spelling
import Uptick.Lib.BigEndian

/-!
# The values of token ids

A token id text denotes a uint256 in base 10, or in base 16 behind the mark `0x`. Comparing ids,
canonicalising them and listing their key variants all depend on that value alone, and the key that
older versions wrote for an NFT id is the `0x` spelling of the id's bytes read as one number.
-/

namespace Uptick.Erc721

open Text Numeral Hex Evm

/-- The uint256 that a token id text denotes. -/
def DenotesValue (t : GoString) (v : Nat) : Prop :=
  v < 2 ^ 256 ∧
    if has0xPrefix t then setString 16 (t.drop 2) = some (v : Int) else setString 10 t = some (v : Int)

def Parseable (t : GoString) : Prop := ∃ v, DenotesValue t v

/-- The key that older versions wrote for an NFT id: its bytes in hexadecimal. -/
def historicalKey (id : GoString) : GoString := str "0x" ++ encode id

lemma denotesValue_iff_parse {t : GoString} {v : Nat} :
    DenotesValue t v ↔ parseEVMTokenIDValue t true = .ok (v, has0xPrefix t) := by
  rw [parseEVMTokenIDValue_eq_ok, DenotesValue, Bool.true_and]
  cases has0xPrefix t <;> simp

lemma denotesValue_of_parse {t : GoString} {v : Nat} {legacy : Bool}
    (h : parseEVMTokenIDValue t true = .ok (v, legacy)) : DenotesValue t v := by
  have hl : legacy = has0xPrefix t := by simpa using (parseEVMTokenIDValue_eq_ok.mp h).1
  rw [denotesValue_iff_parse, h, hl]

lemma canonicalEVMTokenID_of_denotesValue {t : GoString} {v : Nat} (h : DenotesValue t v) :
    canonicalEVMTokenID t = .ok (text 10 v, has0xPrefix t) :=
  canonicalEVMTokenID_eq_ok.mpr ⟨v, denotesValue_iff_parse.mp h, rfl⟩

lemma denotesValue_text {v : Nat} (hv : v < 2 ^ 256) : DenotesValue (text 10 v) v :=
  denotesValue_of_parse (parse_text hv true)

lemma denotesValue_legacyText {v : Nat} (hv : v < 2 ^ 256) : DenotesValue (legacyText v) v :=
  denotesValue_of_parse (parse_legacyText hv)

lemma canonicalEVMTokenID_idem {t c : GoString} {legacy : Bool} (h : canonicalEVMTokenID t = .ok (c, legacy)) :
    canonicalEVMTokenID c = .ok (c, false) := by
  obtain ⟨v, hp, rfl⟩ := canonicalEVMTokenID_eq_ok.mp h
  have hv : v < 2 ^ 256 := (denotesValue_of_parse hp).1
  have hc := canonicalEVMTokenID_of_denotesValue (denotesValue_text hv)
  rwa [has0xPrefix_text] at hc

lemma canonicalEVMTokenID_legacy {n : Nat} {legacy : GoString} (hlt : n < 2 ^ 256)
    (h : legacyEVMTokenID (text 10 n) = some legacy) : canonicalEVMTokenID legacy = .ok (text 10 n, true) := by
  rw [legacyEVMTokenID_text] at h
  split at h
  · cases h
  · obtain rfl := Option.some.inj h
    have hc := canonicalEVMTokenID_of_denotesValue (denotesValue_legacyText hlt)
    rwa [has0xPrefix_legacyText] at hc

lemma equalEVMTokenID_iff {a b : GoString} {v w : Nat} (ha : DenotesValue a v) (hb : DenotesValue b w) :
    equalEVMTokenID a b = true ↔ v = w :=
  equalEVMTokenID_of_parse (denotesValue_iff_parse.mp ha) (denotesValue_iff_parse.mp hb)

lemma evmTokenIDKeyVariants_of_denotesValue {t : GoString} {v : Nat} (h : DenotesValue t v) :
    evmTokenIDKeyVariants t = tokenSpellings v :=
  evmTokenIDKeyVariants_of_parse (denotesValue_iff_parse.mp h)

/-- A spelling determines its value, so the sets of spellings of two values differ. -/
lemma eq_of_mem_tokenSpellings {v w : Nat} {k : GoString} (hv : v < 2 ^ 256) (hw : w < 2 ^ 256)
    (hkv : k ∈ tokenSpellings v) (hkw : k ∈ tokenSpellings w) : v = w := by
  obtain ⟨l, hpv⟩ := parse_of_mem_tokenSpellings hv hkv
  obtain ⟨m, hpw⟩ := parse_of_mem_tokenSpellings hw hkw
  rw [hpv] at hpw
  exact (Prod.mk.inj (Except.ok.inj hpw)).1

lemma variants_eq_iff {a b : GoString} {v w : Nat} (ha : DenotesValue a v) (hb : DenotesValue b w) :
    (∀ k, k ∈ evmTokenIDKeyVariants a ↔ k ∈ evmTokenIDKeyVariants b) ↔ v = w := by
  rw [evmTokenIDKeyVariants_of_denotesValue ha, evmTokenIDKeyVariants_of_denotesValue hb]
  constructor
  · intro h
    have hmem : text 10 v ∈ tokenSpellings v := by simp [tokenSpellings]
    exact eq_of_mem_tokenSpellings ha.1 hb.1 hmem ((h _).mp hmem)
  · rintro rfl k
    rfl

lemma equivalence_equalEVMTokenID :
    Equivalence fun a b : {t : GoString // Parseable t} => equalEVMTokenID a.1 b.1 = true := by
  constructor
  · rintro ⟨a, v, ha⟩
    exact (equalEVMTokenID_iff ha ha).mpr rfl
  · rintro ⟨a, v, ha⟩ ⟨b, w, hb⟩ h
    exact (equalEVMTokenID_iff hb ha).mpr ((equalEVMTokenID_iff ha hb).mp h).symm
  · rintro ⟨a, v, ha⟩ ⟨b, w, hb⟩ ⟨c, x, hc⟩ hab hbc
    have hvw := (equalEVMTokenID_iff ha hb).mp hab
    have hwx := (equalEVMTokenID_iff hb hc).mp hbc
    exact (equalEVMTokenID_iff ha hc).mpr (hvw.trans hwx)

/-- The digits of a value, with a zero in front where their number is odd. -/
def evenHex (v : Nat) : GoString :=
  if (text 16 v).length % 2 = 1 then str "0" ++ text 16 v else text 16 v

lemma legacyText_eq (v : Nat) : legacyText v = str "0x" ++ evenHex v := rfl

lemma evenHex_mul_add {v : Nat} (hv : 0 < v) (b : UInt8) :
    evenHex (v * 256 + b.toNat) = evenHex v ++ hexByte b := by
  have hb : b.toNat < 256 := b.toNat_lt
  have hsplit : v * 256 + b.toNat = (v * 16 + b.toNat / 16) * 16 + b.toNat % 16 := by omega
  have htext : text 16 (v * 256 + b.toNat) = text 16 v ++ hexByte b := by
    rw [hsplit, text_mul_add (by decide) (by omega) (by omega), text_mul_add (by decide) hv (by omega),
      List.append_assoc]
    rfl
  have hlen : (text 16 (v * 256 + b.toNat)).length % 2 = (text 16 v).length % 2 := by
    rw [htext, List.length_append, hexByte, List.length_cons, List.length_singleton]
    omega
  unfold evenHex
  rw [hlen, htext]
  split
  · rw [List.append_assoc]
  · rfl

lemma evenHex_byte (b : UInt8) (hb : b ≠ 0) : evenHex b.toNat = hexByte b :=
  forall_byte (p := fun b => b ≠ 0 → evenHex b.toNat = hexByte b) (by decide +kernel) b hb

/-- Without a leading NUL the number has a digit pair for every byte. -/
lemma evenHex_setBytes (id : GoString) (hne : id ≠ []) (hhead : id.head? ≠ some 0) :
    0 < setBytes id ∧ evenHex (setBytes id) = encode id := by
  induction id using List.reverseRecOn with
  | nil => exact absurd rfl hne
  | append_singleton bs b ih =>
    have hset : setBytes (bs ++ [b]) = setBytes bs * 256 + b.toNat := BigEndian.decode_append_singleton bs b
    have henc : encode (bs ++ [b]) = encode bs ++ hexByte b := by simp [encode]
    rw [hset, henc]
    cases bs with
    | nil =>
      have hb : b ≠ 0 := by simpa using hhead
      have hpos : b.toNat ≠ 0 := fun h => hb (UInt8.toNat_inj.mp h)
      refine ⟨by omega, ?_⟩
      have hzero : setBytes [] * 256 + b.toNat = b.toNat := by simp [setBytes]
      rw [hzero, evenHex_byte b hb]
      rfl
    | cons c cs =>
      obtain ⟨hpos, heq⟩ := ih (by simp) (by simpa using hhead)
      refine ⟨by omega, ?_⟩
      rw [evenHex_mul_add hpos, heq]

lemma setBytes_lt {id : GoString} (hlen : id.length ≤ 32) : setBytes id < 2 ^ 256 :=
  calc setBytes id < 256 ^ id.length := BigEndian.decode_lt id
    _ ≤ 256 ^ 32 := Nat.pow_le_pow_right (by decide) hlen
    _ = 2 ^ 256 := by decide

lemma historicalKey_eq {id : GoString} (hne : id ≠ []) (hhead : id.head? ≠ some 0) :
    historicalKey id = legacyText (setBytes id) := by
  rw [legacyText_eq, (evenHex_setBytes id hne hhead).2, historicalKey]

lemma historicalKey_mem_variants {id t : GoString} (hne : id ≠ []) (hhead : id.head? ≠ some 0)
    (ht : DenotesValue t (setBytes id)) : historicalKey id ∈ evmTokenIDKeyVariants t := by
  have hpos : setBytes id ≠ 0 := (evenHex_setBytes id hne hhead).1.ne'
  rw [evmTokenIDKeyVariants_of_denotesValue ht, historicalKey_eq hne hhead, tokenSpellings, if_neg hpos]
  simp

/-- Canonicalising is idempotent and inverts the `0x` spelling; on texts that denote a value,
comparing ids is an equivalence that says whether the values are equal, and whether the key variants
are the same; and the historical key of an NFT id is a variant of every spelling of its value. -/
theorem tokenID_spellings_follow_value :
    (∀ t c legacy, canonicalEVMTokenID t = .ok (c, legacy) → canonicalEVMTokenID c = .ok (c, false)) ∧
    (∀ n legacy, 0 < n → n < 2 ^ 256 → legacyEVMTokenID (text 10 n) = some legacy →
      canonicalEVMTokenID legacy = .ok (text 10 n, true)) ∧
    (Equivalence fun a b : {t : GoString // Parseable t} => equalEVMTokenID a.1 b.1 = true) ∧
    (∀ a b v w, DenotesValue a v → DenotesValue b w →
      (equalEVMTokenID a b = true ↔ v = w) ∧
      (equalEVMTokenID a b = true ↔ ∀ k, k ∈ evmTokenIDKeyVariants a ↔ k ∈ evmTokenIDKeyVariants b)) ∧
    (∀ id : GoString, id ≠ [] → id.length ≤ 32 → id.head? ≠ some 0 →
      DenotesValue (historicalKey id) (setBytes id) ∧
      ∀ t, DenotesValue t (setBytes id) → historicalKey id ∈ evmTokenIDKeyVariants t) := by
  refine ⟨fun _ _ _ => canonicalEVMTokenID_idem, fun _ _ _ hlt => canonicalEVMTokenID_legacy hlt,
    equivalence_equalEVMTokenID, fun a b v w ha hb => ?_, fun id hne hlen hhead => ?_⟩
  · have heq := equalEVMTokenID_iff ha hb
    exact ⟨heq, heq.trans (variants_eq_iff ha hb).symm⟩
  · constructor
    · rw [historicalKey_eq hne hhead]
      exact denotesValue_legacyText (setBytes_lt hlen)
    · intro t ht
      exact historicalKey_mem_variants hne hhead ht

/-- The key `0x636174` that was written for the NFT `cat` is a variant of 6513012. -/
theorem historicalKey_cat :
    historicalKey (str "cat") = str "0x636174" ∧
      str "0x636174" ∈ evmTokenIDKeyVariants (str "6513012") := by
  have hden : DenotesValue (str "6513012") (setBytes (str "cat")) :=
    denotesValue_of_parse (by decide +kernel : parseEVMTokenIDValue (str "6513012") true = .ok (_, false))
  have hkey : historicalKey (str "cat") = str "0x636174" := by decide +kernel
  have hmem := (tokenID_spellings_follow_value.2.2.2.2 (str "cat") (by decide) (by decide) (by decide)).2 _ hden
  exact ⟨hkey, hkey ▸ hmem⟩

end Uptick.Erc721
