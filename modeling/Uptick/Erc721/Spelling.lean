import Uptick.Erc721.Types

/-!
# Spellings

What the identifier functions do on a text that denotes a token value or an address: the variants of
a text are exactly the spellings of its value, canonical first, and value equality of two texts is
equality of the values they parse to.
-/

namespace Uptick.Erc721

open Text Numeral Hex Evm Outcome

lemma getNFTFromUID_append {a b : GoString} (ha : a ≠ []) (hb : b ≠ []) (hc : comma ∉ b) :
    getNFTFromUID (a ++ comma :: b) = (a, b) := by
  have hlen : a.length ≠ 0 := by simpa using ha
  have hblen : b.length ≠ 0 := by simpa using hb
  rw [getNFTFromUID, lastIndexByte_append_cons a hc]
  have hlast : ¬ (a.length = 0 ∨ a.length + 1 = (a ++ comma :: b).length) := by
    simp only [List.length_append, List.length_cons]
    omega
  simp only [if_neg hlast]
  simp

lemma getNFTFromUID_createTokenUID {contract tokenID : GoString} (ht : tokenID ≠ []) (hc : contract ≠ [])
    (hcomma : comma ∉ contract) : getNFTFromUID (createTokenUID contract tokenID) = (tokenID, contract) :=
  getNFTFromUID_append ht hc hcomma

lemma getNFTFromUID_createNFTUID {classID nftID : GoString} (hn : nftID ≠ []) (hc : classID ≠ [])
    (hcomma : comma ∉ classID) : getNFTFromUID (createNFTUID classID nftID) = (nftID, classID) :=
  getNFTFromUID_append hn hc hcomma

lemma eq_of_getNFTFromUID {uid a b : GoString} (h : getNFTFromUID uid = (a, b)) (hb : b ≠ []) :
    uid = a ++ comma :: b ∧ comma ∉ b ∧ a ≠ [] := by
  unfold getNFTFromUID at h
  split at h
  · simp only [Prod.mk.injEq] at h
    exact absurd h.2.symm hb
  · rename_i idx hidx
    split at h
    · simp only [Prod.mk.injEq] at h
      exact absurd h.2.symm hb
    · rename_i hends
      obtain ⟨rfl, rfl⟩ := Prod.mk.inj h
      obtain ⟨hcut, hfree⟩ := eq_of_lastIndexByte hidx
      have hlen := congrArg List.length hcut
      simp only [List.length_append, List.length_take, List.length_cons, List.length_drop] at hlen
      refine ⟨hcut, hfree, ?_⟩
      intro hnil
      have hzero := congrArg List.length hnil
      simp only [List.length_take, List.length_nil] at hzero
      omega

@[simp] lemma createTokenUID_ne_nil (contract tokenID : GoString) : createTokenUID contract tokenID ≠ [] := by
  simp [createTokenUID]

@[simp] lemma createNFTUID_ne_nil (classID nftID : GoString) : createNFTUID classID nftID ≠ [] := by
  simp [createNFTUID]

/-- Two keys whose second parts hold no comma are equal exactly when their parts are. -/
lemma uid_inj {a b a' b' : GoString} (hb : comma ∉ b) (hb' : comma ∉ b')
    (h : a ++ comma :: b = a' ++ comma :: b') : a = a' ∧ b = b' :=
  append_cons_inj_last hb hb' h

/-- The `0x` spelling of a value, with an even number of digits. -/
def legacyText (v : Nat) : GoString :=
  str "0x" ++ (if (text 16 v).length % 2 = 1 then str "0" ++ text 16 v else text 16 v)

/-- The texts under which a value may have been written, canonical first. -/
def tokenSpellings (v : Nat) : List GoString := text 10 v :: (if v = 0 then [] else [legacyText v])

lemma hasPrefix_0x (s : GoString) :
    (hasPrefix s (str "0x") || hasPrefix s (str "0X")) = has0xPrefix s := by
  have hX : str "0X" = [48, 88] := by decide
  rw [Bool.eq_iff_iff, Bool.or_eq_true, hasPrefix_iff, hasPrefix_iff, has0xPrefix_iff, str_0x, hX]
  constructor
  · rintro (⟨t, rfl⟩ | ⟨t, rfl⟩)
    · exact ⟨120, t, rfl, Or.inl rfl⟩
    · exact ⟨88, t, rfl, Or.inr rfl⟩
  · rintro ⟨b, t, rfl, rfl | rfl⟩
    · exact Or.inl ⟨t, rfl⟩
    · exact Or.inr ⟨t, rfl⟩

lemma isHexDigit_of_mem_text {n : Nat} {b : UInt8} (h : b ∈ text 10 n) : isHexDigit b = true := by
  obtain ⟨d, hd, rfl⟩ := mem_text (by decide) (by decide) h
  exact isHexDigit_digitByte (by omega)

lemma has0xPrefix_text (n : Nat) : has0xPrefix (text 10 n) = false :=
  has0xPrefix_of_digits fun _ => isHexDigit_of_mem_text

lemma parseEVMTokenIDValue_eq_ok {t : GoString} {allow legacy : Bool} {v : Nat} :
    parseEVMTokenIDValue t allow = .ok (v, legacy) ↔
      legacy = (allow && has0xPrefix t) ∧ v < 2 ^ 256 ∧
        setString (if legacy then 16 else 10) (if legacy then t.drop 2 else t) = some (v : Int) := by
  unfold parseEVMTokenIDValue
  simp only [hasPrefix_0x]
  generalize hl : (allow && has0xPrefix t) = l
  cases hs : setString (if l then 16 else 10) (if l then t.drop 2 else t) with
  | none =>
    constructor
    · intro h
      cases h
    · rintro ⟨rfl, -, hv⟩
      rw [hs] at hv
      cases hv
  | some n =>
    dsimp only
    split
    · rename_i hout
      constructor
      · intro h
        cases h
      · rintro ⟨rfl, hlt, hv⟩
        rw [hs] at hv
        obtain rfl := Option.some.inj hv
        omega
    · rename_i hin
      constructor
      · intro h
        obtain ⟨hn, rfl⟩ := Prod.mk.inj (Except.ok.inj h)
        refine ⟨rfl, by omega, ?_⟩
        rw [hs, ← hn]
        congr 1
        omega
      · rintro ⟨rfl, hlt, hv⟩
        rw [hs] at hv
        obtain rfl := Option.some.inj hv
        simp

lemma parse_text {v : Nat} (hv : v < 2 ^ 256) (allow : Bool) :
    parseEVMTokenIDValue (text 10 v) allow = .ok (v, false) := by
  rw [parseEVMTokenIDValue_eq_ok]
  refine ⟨by simp [has0xPrefix_text], hv, ?_⟩
  exact setString_text (by decide) (by decide) v

lemma readDigits_leadingZero (s : GoString) : readDigits 16 0 (48 :: s) = readDigits 16 0 s := by
  rfl

lemma setString_evenHex (v : Nat) :
    setString 16 (if (text 16 v).length % 2 = 1 then str "0" ++ text 16 v else text 16 v) = some (v : Int) := by
  have h0 : str "0" = [48] := by decide
  split
  · rw [h0, List.singleton_append, setString_of_digit (by decide), parseNat, if_neg (by simp),
      readDigits_leadingZero]
    have hparse := parseNat_text (show 1 < 16 by decide) (by decide) v
    rw [parseNat, if_neg (text_ne_nil 16 v)] at hparse
    rw [hparse]
    rfl
  · exact setString_text (by decide) (by decide) v

lemma has0xPrefix_legacyText (v : Nat) : has0xPrefix (legacyText v) = true := has0xPrefix_append_0x _

lemma parse_legacyText {v : Nat} (hv : v < 2 ^ 256) :
    parseEVMTokenIDValue (legacyText v) true = .ok (v, true) := by
  rw [parseEVMTokenIDValue_eq_ok]
  refine ⟨by simp [has0xPrefix_legacyText], hv, ?_⟩
  have hdrop : (legacyText v).drop 2 =
      (if (text 16 v).length % 2 = 1 then str "0" ++ text 16 v else text 16 v) := by
    rw [legacyText, str_0x]
    rfl
  simp only [if_true, hdrop]
  exact setString_evenHex v

lemma legacyEVMTokenID_text (v : Nat) :
    legacyEVMTokenID (text 10 v) = if v = 0 ∨ 2 ^ 256 ≤ v then none else some (legacyText v) := by
  unfold legacyEVMTokenID
  rw [setString_text (by decide) (by decide)]
  dsimp only
  by_cases hv : v = 0 ∨ 2 ^ 256 ≤ v
  · rw [if_pos (by omega), if_pos hv]
  · rw [if_neg (by omega), if_neg hv]
    rfl

lemma legacyText_ne_text (v w : Nat) : legacyText v ≠ text 10 w := by
  intro h
  have hx := has0xPrefix_legacyText v
  rw [h, has0xPrefix_text] at hx
  cases hx

lemma canonicalEVMTokenID_eq_ok {t c : GoString} {legacy : Bool} :
    canonicalEVMTokenID t = .ok (c, legacy) ↔
      ∃ v, parseEVMTokenIDValue t true = .ok (v, legacy) ∧ c = text 10 v := by
  unfold canonicalEVMTokenID
  constructor
  · intro h
    obtain ⟨⟨v, l⟩, hp, hc⟩ := bind_eq_ok.mp h
    obtain ⟨rfl, rfl⟩ := Prod.mk.inj (Except.ok.inj hc)
    exact ⟨v, hp, rfl⟩
  · rintro ⟨v, hp, rfl⟩
    rw [hp]
    rfl

/-- The variants of a text that denotes a value are the spellings of the value. -/
theorem evmTokenIDKeyVariants_of_parse {t : GoString} {v : Nat} {legacy : Bool}
    (h : parseEVMTokenIDValue t true = .ok (v, legacy)) : evmTokenIDKeyVariants t = tokenSpellings v := by
  have hv : v < 2 ^ 256 := (parseEVMTokenIDValue_eq_ok.mp h).2.1
  have hc : canonicalEVMTokenID t = .ok (text 10 v, legacy) :=
    canonicalEVMTokenID_eq_ok.mpr ⟨v, h, rfl⟩
  rw [evmTokenIDKeyVariants, hc]
  dsimp only
  rw [legacyEVMTokenID_text, tokenSpellings]
  by_cases h0 : v = 0
  · simp [h0]
  · rw [if_neg (by omega), if_neg h0]
    simp [legacyText_ne_text]

lemma parse_of_mem_tokenSpellings {v : Nat} {t : GoString} (hv : v < 2 ^ 256) (ht : t ∈ tokenSpellings v) :
    ∃ legacy, parseEVMTokenIDValue t true = .ok (v, legacy) := by
  unfold tokenSpellings at ht
  by_cases h0 : v = 0
  · simp only [h0, if_true, List.mem_singleton] at ht
    subst ht
    exact ⟨false, h0 ▸ parse_text (h0 ▸ hv) true⟩
  · simp only [h0, if_false, List.mem_cons, List.not_mem_nil, or_false] at ht
    rcases ht with rfl | rfl
    · exact ⟨false, parse_text hv true⟩
    · exact ⟨true, parse_legacyText hv⟩

lemma ne_nil_of_mem_tokenSpellings {v : Nat} {t : GoString} (ht : t ∈ tokenSpellings v) : t ≠ [] := by
  rintro rfl
  unfold tokenSpellings at ht
  rcases List.mem_cons.mp ht with h | h
  · exact text_ne_nil 10 v h.symm
  · split at h
    · simp at h
    · simp [legacyText, str_0x] at h

/-- A message-level token id denotes a value without the `0x` spelling. -/
lemma validateEVMTokenID_eq_ok {t : GoString} :
    validateEVMTokenID t = .ok () ↔ ∃ v, parseEVMTokenIDValue t false = .ok (v, false) := by
  unfold validateEVMTokenID
  constructor
  · intro h
    obtain ⟨⟨v, l⟩, hp, -⟩ := bind_eq_ok.mp h
    obtain ⟨rfl, -⟩ := parseEVMTokenIDValue_eq_ok.mp hp
    exact ⟨v, hp⟩
  · rintro ⟨v, hp⟩
    rw [hp]
    rfl

lemma parse_true_of_parse_false {t : GoString} {v : Nat} {legacy : Bool}
    (h : parseEVMTokenIDValue t false = .ok (v, legacy)) : parseEVMTokenIDValue t true = .ok (v, false) := by
  obtain ⟨hl, hv, hs⟩ := parseEVMTokenIDValue_eq_ok.mp h
  simp only [Bool.false_and] at hl
  subst hl
  rw [parseEVMTokenIDValue_eq_ok]
  refine ⟨?_, hv, hs⟩
  -- The mark `0x` is no base-10 text.
  by_contra hx
  have hx : has0xPrefix t = true := by simpa using hx
  obtain ⟨b, rest, rfl, hb⟩ := has0xPrefix_iff.mp hx
  rcases hb with rfl | rfl <;> simp [setString, parseNat, readDigits, readDigit, digitVal] at hs

lemma equalEVMTokenID_of_parse {a b : GoString} {v w : Nat} {l m : Bool}
    (ha : parseEVMTokenIDValue a true = .ok (v, l)) (hb : parseEVMTokenIDValue b true = .ok (w, m)) :
    equalEVMTokenID a b = true ↔ v = w := by
  unfold equalEVMTokenID
  rw [ha, hb]
  simp only [Bool.or_eq_true, beq_iff_eq]
  constructor
  · rintro (rfl | h)
    · rw [ha] at hb
      exact (Prod.mk.inj (Except.ok.inj hb)).1
    · exact h
  · exact Or.inr

lemma headD_evmTokenIDKeyVariants (t : GoString) :
    (∃ v legacy, parseEVMTokenIDValue t true = .ok (v, legacy) ∧ (evmTokenIDKeyVariants t).headD [] = text 10 v) ∨
      (∃ e, canonicalEVMTokenID t = .error e) ∧ (evmTokenIDKeyVariants t).headD [] = t := by
  cases h : canonicalEVMTokenID t with
  | error e =>
    refine .inr ⟨⟨e, rfl⟩, ?_⟩
    rw [evmTokenIDKeyVariants, h]
    rfl
  | ok p =>
    obtain ⟨v, hp, -⟩ := canonicalEVMTokenID_eq_ok.mp h
    refine .inl ⟨v, p.2, hp, ?_⟩
    rw [evmTokenIDKeyVariants_of_parse hp]
    rfl

lemma equalEVMTokenID_of_headD {a b : GoString}
    (h : (evmTokenIDKeyVariants a).headD [] = (evmTokenIDKeyVariants b).headD []) : equalEVMTokenID a b = true := by
  -- A canonical text denotes its value, so it is not a text that denotes none.
  have hcanon : ∀ {t : GoString} {v : Nat} {legacy : Bool} {e : Error},
      parseEVMTokenIDValue t true = .ok (v, legacy) → canonicalEVMTokenID (text 10 v) ≠ .error e := by
    intro t v legacy e hp
    have hv : v < 2 ^ 256 := (parseEVMTokenIDValue_eq_ok.mp hp).2.1
    rw [canonicalEVMTokenID_eq_ok.mpr ⟨v, parse_text hv true, rfl⟩]
    intro h
    cases h
  rcases headD_evmTokenIDKeyVariants a with ⟨v, l, hp, ha⟩ | ⟨⟨e, he⟩, ha⟩ <;>
    rcases headD_evmTokenIDKeyVariants b with ⟨w, l', hp', hb⟩ | ⟨⟨e', he'⟩, hb⟩ <;> rw [ha, hb] at h
  · exact (equalEVMTokenID_of_parse hp hp').mpr (text_injective (by decide) (by decide) h)
  · exact absurd (h ▸ he') (hcanon hp)
  · exact absurd (h ▸ he) (hcanon hp')
  · simp [equalEVMTokenID, h]

section Addresses

variable (X : Extern)

/-- The texts with `0x` under which an address may have been written, canonical first. -/
def addressSpellings (a : Address) : List GoString :=
  a.lowerHex :: (if a.hex X.keccak256 = a.lowerHex then [] else [a.hex X.keccak256])

variable {X}

lemma mem_addressSpellings {a : Address} {c : GoString} :
    c ∈ addressSpellings X a ↔ c = a.lowerHex ∨ c = a.hex X.keccak256 := by
  unfold addressSpellings
  split
  · rename_i h
    simp [h]
  · simp

lemma canonicalContractAddress_of_0x {s : GoString} (h : isHexAddress s = true) (hx : has0xPrefix s = true) :
    canonicalContractAddress s = (hexToAddress s).lowerHex := by
  rw [canonicalContractAddress, if_pos h, toLower_eq_lowerHex h hx]

lemma canonicalContractAddress_of_plain {s : GoString} (h : isHexAddress s = true)
    (hx : has0xPrefix s = false) : canonicalContractAddress s = (hexToAddress s).digits := by
  rw [canonicalContractAddress, if_pos h, toLower_eq_digits h hx]

/-- The variants of an address text with `0x` are the spellings of the address. -/
theorem contractAddressKeyVariants_of_0x {s : GoString} (h : isHexAddress s = true)
    (hx : has0xPrefix s = true) : contractAddressKeyVariants X s = addressSpellings X (hexToAddress s) := by
  have hsum : checksumContractAddress X s = some ((hexToAddress s).hex X.keccak256) := by
    rw [checksumContractAddress, if_pos h]
  rw [contractAddressKeyVariants, hsum, canonicalContractAddress_of_0x h hx, addressSpellings]
  dsimp only
  by_cases heq : (hexToAddress s).hex X.keccak256 = (hexToAddress s).lowerHex
  · rw [if_neg (by simpa using heq), if_pos heq]
  · rw [if_pos heq, if_neg heq]

lemma hex_ne_digits (a : Address) : a.hex X.keccak256 ≠ a.digits := by
  intro h
  have hx := has0xPrefix_hex X.keccak256 a
  rw [h, has0xPrefix_of_digits fun _ => isHexDigit_of_mem_digits] at hx
  cases hx

/-- Without `0x` the lower-case variant has none either. -/
theorem contractAddressKeyVariants_of_plain {s : GoString} (h : isHexAddress s = true)
    (hx : has0xPrefix s = false) :
    contractAddressKeyVariants X s = [(hexToAddress s).digits, (hexToAddress s).hex X.keccak256] := by
  have hsum : checksumContractAddress X s = some ((hexToAddress s).hex X.keccak256) := by
    rw [checksumContractAddress, if_pos h]
  rw [contractAddressKeyVariants, hsum, canonicalContractAddress_of_plain h hx]
  dsimp only
  rw [if_pos (hex_ne_digits _)]

lemma isHexAddress_of_mem_addressSpellings {a : Address} {c : GoString} (h : c ∈ addressSpellings X a) :
    isHexAddress c = true := by
  rcases mem_addressSpellings.mp h with rfl | rfl <;> simp

lemma isHexAddress_of_mem_variants {s c : GoString} (h : isHexAddress s = true)
    (hc : c ∈ contractAddressKeyVariants X s) : isHexAddress c = true := by
  cases hx : has0xPrefix s with
  | true =>
    rw [contractAddressKeyVariants_of_0x h hx] at hc
    exact isHexAddress_of_mem_addressSpellings hc
  | false =>
    rw [contractAddressKeyVariants_of_plain h hx] at hc
    rcases List.mem_cons.mp hc with rfl | hc
    · exact isHexAddress_digits _
    · rw [List.mem_singleton.mp hc]
      exact isHexAddress_hex _ _

lemma hex_mem_contractAddressKeyVariants {s : GoString} {a : Address} (h : isHexAddress s = true)
    (ha : hexToAddress s = a) : a.hex X.keccak256 ∈ contractAddressKeyVariants X s := by
  subst ha
  cases hx : has0xPrefix s with
  | true =>
    rw [contractAddressKeyVariants_of_0x h hx]
    exact mem_addressSpellings.mpr (.inr rfl)
  | false =>
    rw [contractAddressKeyVariants_of_plain h hx]
    exact List.mem_cons_of_mem _ (List.mem_singleton.mpr rfl)

lemma hexToAddress_of_mem_addressSpellings {a : Address} {c : GoString} (h : c ∈ addressSpellings X a) :
    hexToAddress c = a := by
  rcases mem_addressSpellings.mp h with rfl | rfl <;> simp

lemma hexToAddress_of_mem_variants {c c' : GoString} (hc : isHexAddress c = true)
    (hc' : c' ∈ contractAddressKeyVariants X c) : hexToAddress c' = hexToAddress c := by
  cases hx : has0xPrefix c with
  | true =>
    rw [contractAddressKeyVariants_of_0x hc hx] at hc'
    exact hexToAddress_of_mem_addressSpellings hc'
  | false =>
    rw [contractAddressKeyVariants_of_plain hc hx] at hc'
    rcases List.mem_cons.mp hc' with rfl | hc'
    · exact hexToAddress_digits _
    · rw [List.mem_singleton.mp hc', hexToAddress_hex]

lemma comma_notMem_contractVariants {s c : GoString} (h : isHexAddress s = true)
    (hc : c ∈ contractAddressKeyVariants X s) : comma ∉ c :=
  comma_notMem_of_isHexAddress (isHexAddress_of_mem_variants h hc)

lemma equalContractAddress_of_hex {a b : GoString} (ha : isHexAddress a = true) (hb : isHexAddress b = true) :
    equalContractAddress a b = true ↔ hexToAddress a = hexToAddress b := by
  simp [equalContractAddress, ha, hb]

lemma hexToAddress_of_equalFold {c c' : GoString} (hc : isHexAddress c = true) (h : equalFold c c' = true) :
    isHexAddress c' = true ∧ hexToAddress c' = hexToAddress c := by
  have hlower : toLower c = toLower c' := beq_iff_eq.mp h
  have hhex : isHexAddress c' = true := by
    rw [← isHexAddress_toLower, ← hlower, isHexAddress_toLower]
    exact hc
  refine ⟨hhex, (hexToAddress_eq_iff hhex hc).mpr ?_⟩
  rw [← strip0x_toLower, ← strip0x_toLower, hlower]

lemma equalContractAddress_of_canonical {a b : GoString}
    (h : canonicalContractAddress a = canonicalContractAddress b) : equalContractAddress a b = true := by
  cases ha : isHexAddress a with
  | false =>
    cases hb : isHexAddress b with
    | false => simpa [equalContractAddress, canonicalContractAddress, ha, hb] using h
    | true =>
      have hlower : a = toLower b := by simpa [canonicalContractAddress, ha, hb] using h
      rw [hlower, isHexAddress_toLower, hb] at ha
      cases ha
  | true =>
    cases hb : isHexAddress b with
    | false =>
      have hlower : toLower a = b := by simpa [canonicalContractAddress, ha, hb] using h
      rw [← hlower, isHexAddress_toLower, ha] at hb
      cases hb
    | true =>
      have hlower : toLower a = toLower b := by simpa [canonicalContractAddress, ha, hb] using h
      rw [equalContractAddress_of_hex ha hb]
      exact (hexToAddress_of_equalFold ha (beq_iff_eq.mpr hlower)).2.symm

end Addresses

end Uptick.Erc721
