import Uptick.Lib.Json.Text

/-!
# Reading back a printed value

The text that is printed for a value is JSON, and it is read as this value.
-/

namespace Json

open Text Utf8 Decimal

/-- How one rune is printed. -/
def quotePiece (r : GoString) : GoString :=
  match r.head? with
  | none => []
  | some b => if b < 0x80 then quoteByte b else quoteRune r

lemma runeSize_of_ascii {b : UInt8} (hb : b < 0x80) (s : GoString) : runeSize (b :: s) = 1 := by
  have hall : ∀ b : UInt8, b < 0x80 → leading b = some (1, 0x80, 0xBF) := by
    apply forall_byte
    decide +kernel
  simp [runeSize, hall b hb]

lemma eq_singleton_of_ascii {b : UInt8} {s : GoString} (hr : IsRune (b :: s)) (hb : b < 0x80) : s = [] := by
  have hsize := hr.2
  rw [runeSize_of_ascii hb, List.length_cons] at hsize
  exact List.length_eq_zero_iff.mp (by omega)

lemma unquotePiece_quoteByte {b : UInt8} (hb : b < 0x80) (t : GoString) :
    unquotePiece (quoteByte b ++ t) = some ([b], t) := by
  unfold quoteByte
  split
  · rename_i hsafe
    have hall : ∀ b : UInt8, htmlSafe b = true → b ≠ 92 ∧ ¬b < 0x20 := by
      apply forall_byte
      decide +kernel
    obtain ⟨hne, hlt⟩ := hall b hsafe
    simp [unquotePiece, hne, hlt, runeSize_of_ascii hb]
  · split
    · rename_i h
      rcases h with rfl | rfl <;> rfl
    · split_ifs with h₁ h₂ h₃ h₄ h₅
      · rw [h₁]
        rfl
      · rw [h₂]
        rfl
      · rw [h₃]
        rfl
      · rw [h₄]
        rfl
      · rw [h₅]
        rfl
      -- any other byte is printed by its number
      · have hnumber : ∀ b : UInt8, hex4 48 48 (Numeral.digitByte (b.toNat / 16)) (Numeral.digitByte (b.toNat % 16)) =
            some b.toNat := by
          apply forall_byte
          decide +kernel
        have hsurrogate : isSurrogate b.toNat = false := by
          have hlt := b.toNat_lt
          simp only [isSurrogate, Bool.and_eq_false_iff, decide_eq_false_iff_not]
          omega
        have hencode : encodeRune b.toNat = [b] := by
          have hlt : b.toNat < 0x80 := UInt8.lt_iff_toNat_lt.mp hb
          rw [encodeRune, if_pos hlt, UInt8.ofNat_toNat]
        show unescape (117 :: 48 :: 48 :: Numeral.digitByte (b.toNat / 16) :: Numeral.digitByte (b.toNat % 16) :: t) = _
        rw [unescape, hnumber, Option.map_some, unescapeRune, hsurrogate, hencode]
        rfl

lemma unquotePiece_rune {b : UInt8} {r : GoString} (hr : IsRune (b :: r)) (hb : ¬b < 0x80) (t : GoString) :
    unquotePiece (b :: r ++ t) = some (b :: r, t) := by
  have hne : b ≠ 92 := by
    rintro rfl
    exact hb (by decide)
  have hlt : ¬b < 0x20 := by
    intro h
    exact hb (lt_trans h (by decide))
  have hsize : runeSize (b :: (r ++ t)) = (b :: r).length := runeSize_append hr t
  simp [unquotePiece, hne, hlt, hsize]

lemma unquotePiece_quoteRune {b : UInt8} {r : GoString} (hr : IsRune (b :: r)) (hb : ¬b < 0x80) (t : GoString) :
    unquotePiece (quoteRune (b :: r) ++ t) = some (b :: r, t) := by
  unfold quoteRune
  split_ifs with h₁ h₂
  · rw [h₁]
    have hencode : unescapeRune 0x2028 t = ([0xE2, 0x80, 0xA8], t) := by
      simp only [unescapeRune]
      rw [if_neg (by decide), show encodeRune 0x2028 = [0xE2, 0x80, 0xA8] by decide]
    have hhex : hex4 50 48 50 56 = some 0x2028 := by decide
    show unescape (117 :: 50 :: 48 :: 50 :: 56 :: t) = _
    rw [unescape, hhex, Option.map_some, hencode]
  · rw [h₂]
    have hencode : unescapeRune 0x2029 t = ([0xE2, 0x80, 0xA9], t) := by
      simp only [unescapeRune]
      rw [if_neg (by decide), show encodeRune 0x2029 = [0xE2, 0x80, 0xA9] by decide]
    have hhex : hex4 50 48 50 57 = some 0x2029 := by decide
    show unescape (117 :: 50 :: 48 :: 50 :: 57 :: t) = _
    rw [unescape, hhex, Option.map_some, hencode]
  · exact unquotePiece_rune hr hb t

lemma unquotePiece_quotePiece {r : GoString} (hr : IsRune r) (t : GoString) :
    unquotePiece (quotePiece r ++ t) = some (r, t) := by
  cases r with
  | nil => exact absurd rfl hr.1
  | cons b r =>
    unfold quotePiece
    dsimp only [List.head?_cons]
    split
    · rename_i hb
      rw [eq_singleton_of_ascii hr hb]
      exact unquotePiece_quoteByte hb t
    · rename_i hb
      exact unquotePiece_quoteRune hr hb t

lemma head?_quotePiece {r : GoString} (hr : IsRune r) : ∃ b t, quotePiece r = b :: t ∧ b ≠ 34 := by
  cases r with
  | nil => exact absurd rfl hr.1
  | cons b r =>
    unfold quotePiece
    dsimp only [List.head?_cons]
    split
    · rename_i hb
      have hall : ∀ b : UInt8, (quoteByte b).head?.any (· ≠ 34) = true := by
        apply forall_byte
        decide +kernel
      obtain ⟨c, hc, hne⟩ := (Option.any_eq_true _ _).mp (hall b)
      exact ⟨c, (quoteByte b).tail, (List.cons_head?_tail hc).symm, of_decide_eq_true hne⟩
    · rename_i hb
      unfold quoteRune
      split_ifs
      · exact ⟨92, _, rfl, by decide⟩
      · exact ⟨92, _, rfl, by decide⟩
      · refine ⟨b, r, rfl, ?_⟩
        rintro rfl
        exact hb (by decide)

lemma quoteFrom_append {r : GoString} (hr : IsRune r) (s : GoString) {fuel : Nat} :
    quoteFrom (fuel + 1) (r ++ s) = quotePiece r ++ quoteFrom fuel s := by
  cases r with
  | nil => exact absurd rfl hr.1
  | cons b r =>
    rw [List.cons_append, quoteFrom, quotePiece]
    dsimp only [List.head?_cons]
    split
    · rename_i hb
      rw [eq_singleton_of_ascii hr hb, List.nil_append]
    · have hsize : runeSize (b :: (r ++ s)) = (b :: r).length := runeSize_append hr s
      rw [hsize, if_neg (by simp)]
      simp

lemma unquote_quoteFrom {s : GoString} (hs : Valid s) (rest : GoString) {fuel steps : Nat} (hfuel : s.length ≤ fuel)
    (hsteps : (quoteFrom fuel s).length < steps) :
    unquote steps (quoteFrom fuel s ++ 34 :: rest) = some (s, rest) := by
  induction hs generalizing fuel steps with
  | nil =>
    have hnil : quoteFrom fuel [] = [] := by cases fuel <;> rfl
    rw [hnil] at hsteps ⊢
    cases steps with
    | zero => cases hsteps
    | succ steps => rfl
  | @cons r s hr _ ih =>
    have hpos := List.length_pos_iff.mpr hr.1
    rw [List.length_append] at hfuel
    cases fuel with
    | zero => omega
    | succ fuel =>
      rw [quoteFrom_append hr] at hsteps ⊢
      obtain ⟨b, t, hpiece, hne⟩ := head?_quotePiece hr
      rw [List.length_append, hpiece, List.length_cons] at hsteps
      cases steps with
      | zero => omega
      | succ steps =>
        rw [unquote, List.append_assoc, if_neg (by simpa [hpiece] using hne), unquotePiece_quotePiece hr,
          Option.bind_some]
        dsimp only
        have hrest : unquote steps (quoteFrom fuel s ++ 34 :: rest) = some (s, rest) := ih (by omega) (by omega)
        rw [hrest]
        rfl

lemma unquote_quote {s : GoString} (hs : Valid s) (rest : GoString) (steps : Nat)
    (hsteps : (quote s).length ≤ steps + 1) :
    unquote steps ((quote s).tail ++ rest) = some (s, rest) := by
  have htail : (quote s).tail ++ rest = quoteFrom s.length s ++ 34 :: rest := by simp [quote]
  rw [htail]
  apply unquote_quoteFrom hs rest le_rfl
  simp only [quote, List.length_append, List.length_cons, List.length_nil] at hsteps
  omega

/-- The text behind a value ends it: nothing that could continue a number follows. -/
def Delimited (s : GoString) : Prop := ∀ b ∈ s.head?, isDigit b = false ∧ b ≠ 46 ∧ b ≠ 101 ∧ b ≠ 69

lemma isDigit_ne {b : UInt8} (h : isDigit b = true) : b ≠ 45 ∧ b ≠ 46 ∧ b ≠ 101 ∧ b ≠ 69 ∧ b ≠ 43 := by
  have hall : ∀ b : UInt8, isDigit b = true → b ≠ 45 ∧ b ≠ 46 ∧ b ≠ 101 ∧ b ≠ 69 ∧ b ≠ 43 := by
    apply forall_byte
    decide +kernel
  exact hall b h

lemma head?_digits {ds : GoString} (hne : ds ≠ []) (hds : ds.all isDigit = true) (t : GoString) :
    ∃ b, (ds ++ t).head? = some b ∧ isDigit b = true := by
  cases ds with
  | nil => exact absurd rfl hne
  | cons b ds => exact ⟨b, rfl, List.all_eq_true.mp hds b List.mem_cons_self⟩

lemma scanDigits_append {ds t : GoString} (hne : ds ≠ []) (hds : ds.all isDigit = true)
    (ht : ∀ b ∈ t.head?, isDigit b = false) : scanDigits (ds ++ t) = some (ds, t) := by
  have htake : t.takeWhile isDigit = [] := by
    cases t with
    | nil => rfl
    | cons b t => simp [ht b rfl]
  have hdrop : t.dropWhile isDigit = t := by
    cases t with
    | nil => rfl
    | cons b t => simp [ht b rfl]
  have hall := List.all_eq_true.mp hds
  rw [scanDigits, List.takeWhile_append_of_pos hall, List.dropWhile_append_of_pos hall, htake, hdrop, List.append_nil,
    if_neg hne]

lemma scanSign_append (neg : Bool) {t : GoString} (ht : t.head? ≠ some 45) :
    scanSign ((if neg then [45] else []) ++ t) = (neg, t) := by
  cases neg with
  | false => simp [scanSign, ht]
  | true => simp [scanSign]

lemma scanInt_append {l : Literal} (hl : l.WellFormed) {t : GoString} (ht : ∀ b ∈ t.head?, isDigit b = false) :
    scanInt (l.int ++ t) = some (l.int, t) := by
  by_cases hzero : l.int.head? = some 48
  · rw [hl.noLeadingZero hzero]
    rfl
  · have hhead : (l.int ++ t).head? = l.int.head? := List.head?_append_of_ne_nil _ hl.int_ne_nil
    rw [scanInt, hhead, if_neg hzero, scanDigits_append hl.int_ne_nil hl.int ht]

lemma scanFrac_append {frac t : GoString} (hfrac : frac.all isDigit = true)
    (ht : ∀ b ∈ t.head?, isDigit b = false ∧ b ≠ 46) :
    scanFrac ((if frac = [] then [] else 46 :: frac) ++ t) = some (frac, t) := by
  by_cases hnil : frac = []
  · have hhead : t.head? ≠ some 46 := by
      intro h
      exact (ht 46 h).2 rfl
    simp [hnil, scanFrac, hhead]
  · rw [if_neg hnil, scanFrac]
    exact scanDigits_append hnil hfrac fun b hb => (ht b hb).1

lemma scanExpSign_append {l : Literal} (hl : l.WellFormed) (hne : l.exp ≠ []) (t : GoString) :
    scanExpSign (l.expSign.toList ++ (l.exp ++ t)) = (l.expSign, l.exp ++ t) := by
  rcases hl.expSign with hnone | ⟨-, hplus | hminus⟩
  · obtain ⟨b, hb, hdigit⟩ := head?_digits hne hl.exp t
    have hbs := isDigit_ne hdigit
    simp [hnone, scanExpSign, hb, hbs.1, hbs.2.2.2.2]
  · simp [hplus, scanExpSign]
  · simp [hminus, scanExpSign]

lemma scanExp_append {l : Literal} (hl : l.WellFormed) {t : GoString} (ht : Delimited t) :
    scanExp ((if l.exp = [] then [] else 101 :: l.expSign.toList ++ l.exp) ++ t) = some ((l.expSign, l.exp), t) := by
  by_cases hnil : l.exp = []
  · have hsign : l.expSign = none := by
      rcases hl.expSign with hnone | ⟨hne, -⟩
      · exact hnone
      · exact absurd hnil hne
    have hhead : ¬(t.head? = some 101 ∨ t.head? = some 69) := by
      rintro (h | h)
      · exact (ht _ h).2.2.1 rfl
      · exact (ht _ h).2.2.2 rfl
    rw [if_pos hnil, List.nil_append, scanExp, if_neg hhead, hsign, hnil]
  · rw [if_neg hnil, List.cons_append, List.cons_append, List.append_assoc, scanExp, List.head?_cons,
      if_pos (Or.inl rfl),
      List.tail_cons, scanExpSign_append hl hnil]
    dsimp only
    rw [scanDigits_append hnil hl.exp fun b hb => (ht b hb).1]
    rfl

lemma head?_expText {l : Literal} {t : GoString} (ht : Delimited t) :
    ∀ b ∈ ((if l.exp = [] then [] else 101 :: l.expSign.toList ++ l.exp) ++ t).head?, isDigit b = false ∧ b ≠ 46 := by
  intro b hb
  split at hb
  · exact ⟨(ht b hb).1, (ht b hb).2.1⟩
  · obtain rfl : 101 = b := Option.some.inj hb
    decide

lemma scanNumber_text {l : Literal} (hl : l.WellFormed) {t : GoString} (ht : Delimited t) :
    scanNumber (l.text ++ t) = some (l, t) := by
  have hexp := scanExp_append hl ht
  have hfrac := scanFrac_append hl.frac (head?_expText (l := l) ht)
  have hint := scanInt_append hl (t := (if l.frac = [] then [] else 46 :: l.frac) ++
      ((if l.exp = [] then [] else 101 :: l.expSign.toList ++ l.exp) ++ t)) (by
    intro b hb
    split at hb
    · exact (head?_expText ht b hb).1
    · obtain rfl : 46 = b := Option.some.inj hb
      decide)
  have hsign := scanSign_append l.neg (t := l.int ++ ((if l.frac = [] then [] else 46 :: l.frac) ++
      ((if l.exp = [] then [] else 101 :: l.expSign.toList ++ l.exp) ++ t))) (by
    obtain ⟨b, hb, hdigit⟩ := head?_digits hl.int_ne_nil hl.int ((if l.frac = [] then [] else 46 :: l.frac) ++
      ((if l.exp = [] then [] else 101 :: l.expSign.toList ++ l.exp) ++ t))
    rw [hb]
    intro h
    exact (isDigit_ne hdigit).1 (Option.some.inj h))
  rw [scanNumber, Literal.text, List.append_assoc, List.append_assoc, List.append_assoc, hsign]
  dsimp only
  rw [hint, Option.bind_eq_bind, Option.bind_some]
  dsimp only
  rw [hfrac, Option.bind_eq_bind, Option.bind_some]
  dsimp only
  rw [hexp]
  rfl

/-! ### Values -/

lemma insert_of_forall_lt {N : Type} {ms : List (GoString × Json N)} {k : GoString} (v : Json N)
    (h : ∀ k' ∈ ms.map Prod.fst, k' < k) : KVStore.insert ms k v = ms ++ [(k, v)] := by
  induction ms with
  | nil => rfl
  | cons m ms ih =>
    obtain ⟨k', v'⟩ := m
    have hlt : k' < k := h k' List.mem_cons_self
    rw [KVStore.insert, if_neg (not_lt_of_gt hlt), if_neg hlt.ne, ih fun k' hk' => h k' (List.mem_cons_of_mem _ hk'),
      List.cons_append]

lemma foldl_insert_sorted {N : Type} (ms acc : List (GoString × Json N))
    (h : ((acc ++ ms).map Prod.fst).Pairwise (· < ·)) :
    ms.foldl (fun acc m => KVStore.insert acc m.1 m.2) acc = acc ++ ms := by
  induction ms generalizing acc with
  | nil => simp
  | cons m ms ih =>
    have hlt : ∀ k' ∈ acc.map Prod.fst, k' < m.1 := by
      intro k' hk'
      rw [List.map_append, List.pairwise_append] at h
      exact h.2.2 k' hk' m.1 List.mem_cons_self
    rw [List.foldl_cons, insert_of_forall_lt _ hlt, ih _ (by simpa using h)]
    simp

lemma ofMembers_sorted {N : Type} {ms : List (GoString × Json N)} (h : (ms.map Prod.fst).Pairwise (· < ·)) :
    ofMembers ms = .obj ms := by
  rw [ofMembers, foldl_insert_sorted ms [] (by simpa using h), List.nil_append]

lemma skipSpace_cons {b : UInt8} (hb : isSpace b = false) (s : GoString) : skipSpace (b :: s) = b :: s := by
  simp [skipSpace, hb]

lemma expect_cons {b : UInt8} (hb : isSpace b = false) (s : GoString) : expect b (b :: s) = some s := by
  rw [expect, skipSpace_cons hb, List.head?_cons, if_pos rfl, List.tail_cons]

lemma expect_cons_of_ne {b c : UInt8} (hb : isSpace b = false) (hne : b ≠ c) (s : GoString) :
    expect c (b :: s) = none := by
  rw [expect, skipSpace_cons hb, List.head?_cons, if_neg fun h => hne (Option.some.inj h)]

lemma parseValue_scalar {b : UInt8} (hb : isSpace b = false) (harr : b ≠ 91) (hobj : b ≠ 123) (fuel depth : Nat)
    (s : GoString) : parseValue (fuel + 1) depth (b :: s) = parseScalar (b :: s) := by
  rw [parseValue, expect_cons_of_ne hb harr, expect_cons_of_ne hb hobj]
  dsimp only
  rw [skipSpace_cons hb]

lemma head?_numberText {l : Literal} (hl : l.WellFormed) : ∃ b t, l.text = b :: t ∧ (b = 45 ∨ isDigit b = true) := by
  cases hneg : l.neg with
  | true => exact ⟨45, l.text.tail, by simp [Literal.text, hneg], Or.inl rfl⟩
  | false =>
    obtain ⟨b, t, hint⟩ := List.exists_cons_of_ne_nil hl.int_ne_nil
    exact ⟨b, l.text.tail, by simp [Literal.text, hneg, hint], Or.inr (List.all_eq_true.mp hl.int b (by simp [hint]))⟩

lemma head?_text {d : Nat} {v : Json Literal} (h : v.Fits Literal.WellFormed d) :
    ∃ b t, v.text = b :: t ∧ isSpace b = false ∧ b ≠ 93 := by
  cases h with
  | null => exact ⟨110, _, rfl, by decide, by decide⟩
  | bool _ b =>
    cases b with
    | false => exact ⟨102, _, rfl, by decide, by decide⟩
    | true => exact ⟨116, _, rfl, by decide, by decide⟩
  | @num _ l hl =>
    have hall : ∀ b : UInt8, b = 45 ∨ isDigit b = true → isSpace b = false ∧ b ≠ 93 := by
      apply forall_byte
      decide +kernel
    obtain ⟨b, t, htext, hb⟩ := head?_numberText hl
    exact ⟨b, t, htext, (hall b hb).1, (hall b hb).2⟩
  | str _ _ => exact ⟨34, _, rfl, by decide, by decide⟩
  | @arr _ xs _ =>
    cases xs with
    | nil => exact ⟨91, _, rfl, by decide, by decide⟩
    | cons x xs => exact ⟨91, _, rfl, by decide, by decide⟩
  | @obj _ ms _ _ _ =>
    cases ms with
    | nil => exact ⟨123, _, rfl, by decide, by decide⟩
    | cons m ms => exact ⟨123, _, rfl, by decide, by decide⟩

lemma parseScalar_number {l : Literal} (hl : l.WellFormed) {rest : GoString} (hrest : Delimited rest) :
    ∃ b t, l.text ++ rest = b :: t ∧ isSpace b = false ∧ b ≠ 91 ∧ b ≠ 123 ∧
      parseScalar (l.text ++ rest) = some (.num l, rest) := by
  obtain ⟨b, t', htext', hb⟩ := head?_numberText hl
  obtain ⟨t, htext⟩ : ∃ t, l.text ++ rest = b :: t := ⟨t' ++ rest, by rw [htext', List.cons_append]⟩
  have hall : ∀ b : UInt8, b = 45 ∨ isDigit b = true →
      isSpace b = false ∧ b ≠ 91 ∧ b ≠ 123 ∧ b ≠ 110 ∧ b ≠ 116 ∧ b ≠ 102 ∧ b ≠ 34 := by
    apply forall_byte
    decide +kernel
  obtain ⟨hspace, harr, hobj, hn, ht, hf, hq⟩ := hall b hb
  refine ⟨b, t, htext, hspace, harr, hobj, ?_⟩
  have hword : ∀ c w, b ≠ c → hasPrefix (b :: t) (c :: w) = false := by
    intro c w hne
    apply hasPrefix_eq_false (List.cons_ne_nil _ _)
    intro h
    exact hne (Option.some.inj h).symm
  rw [parseScalar, scanNumber_text hl hrest, htext]
  have hnull : hasPrefix (b :: t) (Text.str "null") = false := hword 110 _ hn
  have htrue : hasPrefix (b :: t) (Text.str "true") = false := hword 116 _ ht
  have hfalse : hasPrefix (b :: t) (Text.str "false") = false := hword 102 _ hf
  simp [hnull, htrue, hfalse, hq]

lemma delimited_cons {b : UInt8} (hb : b = 44 ∨ b = 93 ∨ b = 125) (s : GoString) : Delimited (b :: s) := by
  intro c hc
  obtain rfl : b = c := Option.some.inj hc
  rcases hb with rfl | rfl | rfl <;> decide

lemma delimited_textElements (xs : List (Json Literal)) (rest : GoString) : Delimited (textElements xs ++ rest) := by
  cases xs with
  | nil => exact delimited_cons (Or.inr (Or.inl rfl)) _
  | cons x xs => exact delimited_cons (Or.inl rfl) _

lemma delimited_textMembers (ms : List (GoString × Json Literal)) (rest : GoString) :
    Delimited (textMembers ms ++ rest) := by
  cases ms with
  | nil => exact delimited_cons (Or.inr (Or.inr rfl)) _
  | cons m ms => exact delimited_cons (Or.inl rfl) _

/-- A value that is read back whatever ends it. -/
def ReadBack (depth : Nat) (v : Json Literal) : Prop := ∀ fuel rest, Delimited rest → v.text.length ≤ fuel →
  parseValue fuel depth (v.text ++ rest) = some (v, rest)

lemma parseElements_text {d : Nat} {x : Json Literal} {xs : List (Json Literal)} (hx : x.ReadBack d)
    (hxs : ∀ x ∈ xs, x.ReadBack d) (rest : GoString) (fuel : Nat)
    (hfuel : (x.text ++ textElements xs).length ≤ fuel) :
    parseElements fuel d (x.text ++ textElements xs ++ rest) = some (x :: xs, rest) := by
  induction xs generalizing x fuel with
  | nil =>
    rw [textElements, List.length_append, List.length_singleton] at hfuel
    cases fuel with
    | zero => omega
    | succ fuel =>
      rw [parseElements, List.append_assoc, hx fuel _ (delimited_textElements [] rest) (by omega), Option.bind_eq_bind,
        Option.bind_some, textElements, List.singleton_append]
      dsimp only
      rw [expect_cons_of_ne (by decide) (by decide), expect_cons (by decide)]
      rfl
  | cons y ys ih =>
    rw [textElements, List.length_append, List.cons_append, List.length_cons] at hfuel
    cases fuel with
    | zero => omega
    | succ fuel =>
      have htail := ih (hxs y List.mem_cons_self) (fun z hz => hxs z (List.mem_cons_of_mem _ hz)) fuel (by omega)
      rw [parseElements, List.append_assoc, hx fuel _ (delimited_textElements (y :: ys) rest) (by omega), textElements,
        List.cons_append, List.cons_append, Option.bind_eq_bind, Option.bind_some]
      dsimp only
      rw [expect_cons (by decide)]
      dsimp only
      rw [htail]
      rfl

lemma quote_eq_cons (s : GoString) : quote s = 34 :: (quote s).tail := rfl

lemma parseMembers_member {d : Nat} {k : GoString} {v : Json Literal} (hkey : Valid k)
    (hv : v.ReadBack d) {t : GoString}
    (ht : Delimited t) {fuel : Nat} (hfuel : v.text.length ≤ fuel) :
    parseMembers (fuel + 1) d (quote k ++ 58 :: (v.text ++ t)) =
      match expect 44 t with
      | some s => (parseMembers fuel d s).map fun (ms, s) => ((k, v) :: ms, s)
      | none => (expect 125 t).map fun s => ([(k, v)], s) := by
  have hunquote := unquote_quote hkey (58 :: (v.text ++ t))
    (((quote k).tail ++ 58 :: (v.text ++ t)).length + 1) (by
      rw [List.length_append, List.length_tail]
      omega)
  rw [quote_eq_cons, List.cons_append, parseMembers, expect_cons (by decide), Option.bind_eq_bind, Option.bind_some,
    hunquote, Option.bind_eq_bind, Option.bind_some]
  dsimp only
  rw [expect_cons (by decide), Option.bind_eq_bind, Option.bind_some, hv fuel _ ht hfuel]
  rfl

lemma parseMembers_text {d : Nat} {k : GoString} {v : Json Literal} {ms : List (GoString × Json Literal)}
    (hkey : Valid k) (hkeys : ∀ m ∈ ms, Valid m.1) (hv : v.ReadBack d) (hms : ∀ m ∈ ms, m.2.ReadBack d)
    (rest : GoString) (fuel : Nat) (hfuel : (quote k ++ 58 :: v.text ++ textMembers ms).length ≤ fuel) :
    parseMembers fuel d (quote k ++ 58 :: v.text ++ textMembers ms ++ rest) = some ((k, v) :: ms, rest) := by
  induction ms generalizing k v fuel with
  | nil =>
    rw [textMembers, List.length_append, List.length_append, List.length_cons, List.length_singleton] at hfuel
    cases fuel with
    | zero => omega
    | succ fuel =>
      rw [List.append_assoc, List.append_assoc, List.cons_append,
        parseMembers_member hkey hv (delimited_textMembers [] rest) (by omega), textMembers, List.singleton_append,
        expect_cons_of_ne (by decide) (by decide), expect_cons (by decide)]
      rfl
  | cons m ms ih =>
    obtain ⟨k', v'⟩ := m
    rw [textMembers, List.length_append, List.length_append, List.length_cons, List.cons_append, List.cons_append,
      List.length_cons] at hfuel
    cases fuel with
    | zero => omega
    | succ fuel =>
      have htail := ih (k := k') (v := v') (hkeys _ List.mem_cons_self)
        (fun m hm => hkeys m (List.mem_cons_of_mem _ hm))
        (hms _ List.mem_cons_self) (fun m hm => hms m (List.mem_cons_of_mem _ hm)) fuel (by omega)
      rw [List.append_assoc, List.append_assoc, List.cons_append,
        parseMembers_member hkey hv (delimited_textMembers _ rest) (by omega), textMembers, List.cons_append,
        List.cons_append, List.cons_append, expect_cons (by decide)]
      dsimp only
      rw [htail]
      rfl

theorem readBack_of_fits {d : Nat} {v : Json Literal} (h : v.Fits Literal.WellFormed d) : v.ReadBack d := by
  induction h with
  | null d =>
    intro fuel rest _ hfuel
    cases fuel with
    | zero => cases hfuel
    | succ fuel => rfl
  | bool d b =>
    intro fuel rest _ hfuel
    cases b <;> cases fuel with
    | zero => cases hfuel
    | succ fuel => rfl
  | @num d l hl =>
    intro fuel rest hrest hfuel
    obtain ⟨b, t, htext, hspace, harr, hobj, hscalar⟩ := parseScalar_number hl hrest
    cases fuel with
    | zero =>
      obtain ⟨b, t, htext, -⟩ := head?_numberText hl
      rw [text, htext] at hfuel
      cases hfuel
    | succ fuel =>
      rw [text, htext, parseValue_scalar hspace harr hobj, ← htext, hscalar]
  | @str d s hs =>
    intro fuel rest _ hfuel
    cases fuel with
    | zero => cases hfuel
    | succ fuel =>
      rw [text, quote_eq_cons, List.cons_append, parseValue_scalar (by decide) (by decide) (by decide)]
      have hunquote := unquote_quote hs rest (34 :: ((quote s).tail ++ rest)).length (by
        rw [List.length_cons, List.length_append, List.length_tail]
        omega)
      have hscalar : parseScalar (34 :: ((quote s).tail ++ rest)) =
          (unquote (34 :: ((quote s).tail ++ rest)).length ((quote s).tail ++ rest)).map
            fun r => (.str r.1, r.2) := rfl
      rw [hscalar, hunquote]
      rfl
  | @arr d xs hxs ih =>
    intro fuel rest _ hfuel
    cases xs with
    | nil =>
      cases fuel with
      | zero => cases hfuel
      | succ fuel => rfl
    | cons x xs =>
      rw [text] at hfuel ⊢
      rw [List.cons_append, List.length_cons] at hfuel
      cases fuel with
      | zero => cases hfuel
      | succ fuel =>
        have helements := parseElements_text (ih x List.mem_cons_self)
          (fun y hy => ih y (List.mem_cons_of_mem _ hy)) rest
          fuel (by omega)
        obtain ⟨b, t, htext, hspace, hclose⟩ := head?_text (hxs x List.mem_cons_self)
        have hopen : expect 93 (x.text ++ textElements xs ++ rest) = none := by
          rw [htext]
          exact expect_cons_of_ne hspace hclose _
        rw [List.cons_append, List.cons_append, parseValue, expect_cons (by decide)]
        dsimp only
        rw [if_neg (Nat.succ_ne_zero d), hopen, Nat.add_sub_cancel, helements]
        rfl
  | @obj d ms hsorted hkeys _ ih =>
    intro fuel rest _ hfuel
    cases ms with
    | nil =>
      cases fuel with
      | zero => cases hfuel
      | succ fuel => rfl
    | cons m ms =>
      obtain ⟨k, v⟩ := m
      rw [text] at hfuel ⊢
      rw [List.cons_append, List.cons_append, List.length_cons] at hfuel
      cases fuel with
      | zero => cases hfuel
      | succ fuel =>
        have hmembers := parseMembers_text (k := k) (v := v) (hkeys _ List.mem_cons_self)
          (fun m hm => hkeys m (List.mem_cons_of_mem _ hm)) (ih _ List.mem_cons_self)
          (fun m hm => ih m (List.mem_cons_of_mem _ hm)) rest fuel (by omega)
        have hopen : expect 125 (quote k ++ 58 :: v.text ++ textMembers ms ++ rest) = none := by
          rw [quote_eq_cons]
          exact expect_cons_of_ne (by decide) (by decide) _
        rw [List.cons_append, List.cons_append, List.cons_append, parseValue, expect_cons_of_ne (by decide) (by decide),
          expect_cons (by decide)]
        dsimp only
        rw [if_neg (Nat.succ_ne_zero d), hopen, Nat.add_sub_cancel]
        dsimp only
        rw [hmembers, Option.map_some]
        dsimp only
        rw [ofMembers_sorted hsorted]

theorem parse_text {v : Json Literal} (h : v.Fits Literal.WellFormed maxNestingDepth) : parse v.text = some v := by
  have hread := readBack_of_fits h (v.text.length + 1) [] (fun b hb => nomatch hb) (by omega)
  rw [List.append_nil] at hread
  rw [parse, hread]
  rfl

end Json
