import Uptick.Lib.Json.Text

/-!
# What a decoded value looks like

Whatever a text holds, the value read from it fits: its strings and keys are UTF-8, its members are in order, its
numbers are written by the grammar, and it does not nest deeper than a text may.
-/

namespace Json

open Text Utf8 Decimal

lemma valid_of_ascii {b : UInt8} (hb : b < 0x80) : Valid [b] := by
  have hall : ∀ b : UInt8, b < 0x80 → runeSize [b] = 1 := by
    apply forall_byte
    decide +kernel
  exact IsRune.valid ⟨List.cons_ne_nil _ _, hall b hb⟩

lemma valid_replacement : Valid replacement := IsRune.valid ⟨by decide, by decide⟩

lemma valid_unescapeRune (n : Nat) (s : GoString) : Valid (unescapeRune n s).1 := by
  unfold unescapeRune
  split
  · split
    · split
      · dsimp only
        exact (isRune_encodeRune _).valid
      · exact valid_replacement
    · exact valid_replacement
  · exact (isRune_encodeRune n).valid

lemma valid_unescape {s t rest : GoString} (h : unescape s = some (t, rest)) : Valid t := by
  unfold unescape at h
  split at h
  case h_9 =>
    obtain ⟨n, -, hn⟩ := Option.map_eq_some_iff.mp h
    have hvalid : Valid (t, rest).1 := hn ▸ valid_unescapeRune n _
    exact hvalid
  case h_10 => cases h
  all_goals
    obtain ⟨rfl, -⟩ := Prod.ext_iff.mp (Option.some.inj h)
    exact valid_of_ascii (by decide)

lemma valid_unquotePiece {s t rest : GoString} (h : unquotePiece s = some (t, rest)) : Valid t := by
  cases s with
  | nil => cases h
  | cons b s =>
    rw [unquotePiece] at h
    split_ifs at h with hescape _ hsize
    · exact valid_unescape h
    · obtain ⟨rfl, -⟩ := Prod.ext_iff.mp (Option.some.inj h)
      exact valid_replacement
    · obtain ⟨rfl, -⟩ := Prod.ext_iff.mp (Option.some.inj h)
      exact (isRune_take hsize).valid

lemma valid_unquote {fuel : Nat} {s t rest : GoString} (h : unquote fuel s = some (t, rest)) : Valid t := by
  induction fuel generalizing s t rest with
  | zero => cases h
  | succ fuel ih =>
    unfold unquote at h
    split at h
    · obtain ⟨rfl, -⟩ := Prod.ext_iff.mp (Option.some.inj h)
      exact .nil
    · obtain ⟨⟨bytes, rest'⟩, hpiece, h⟩ := Option.bind_eq_some_iff.mp h
      obtain ⟨⟨t', rest''⟩, hrest, h⟩ := Option.map_eq_some_iff.mp h
      obtain ⟨rfl, -⟩ := Prod.ext_iff.mp h
      exact (valid_unquotePiece hpiece).append (ih hrest)

lemma scanDigits_eq_some {s ds rest : GoString} (h : scanDigits s = some (ds, rest)) :
    ds ≠ [] ∧ ds.all isDigit = true ∧ ds.head? = s.head? := by
  unfold scanDigits at h
  split at h
  · cases h
  · rename_i hne
    obtain ⟨rfl, -⟩ := Prod.ext_iff.mp (Option.some.inj h)
    refine ⟨hne, List.all_takeWhile, ?_⟩
    cases s with
    | nil => rfl
    | cons b s =>
      dsimp only at hne ⊢
      rw [List.takeWhile_cons] at hne ⊢
      split at hne
      · rename_i hb
        simp [hb]
      · exact absurd rfl hne

lemma wellFormed_of_scanNumber {s rest : GoString} {l : Literal} (h : scanNumber s = some (l, rest)) :
    l.WellFormed := by
  unfold scanNumber at h
  dsimp only at h
  obtain ⟨⟨int, s₁⟩, hint, h⟩ := Option.bind_eq_some_iff.mp h
  obtain ⟨⟨frac, s₂⟩, hfrac, h⟩ := Option.bind_eq_some_iff.mp h
  obtain ⟨⟨⟨sign, exp⟩, s₃⟩, hexp, h⟩ := Option.bind_eq_some_iff.mp h
  obtain ⟨rfl, -⟩ := Prod.ext_iff.mp (Option.some.inj h)
  have hints : int ≠ [] ∧ int.all isDigit = true ∧ (int.head? = some 48 → int = [48]) := by
    unfold scanInt at hint
    split at hint
    · obtain ⟨rfl, -⟩ := Prod.ext_iff.mp (Option.some.inj hint)
      exact ⟨List.cons_ne_nil _ _, rfl, fun _ => rfl⟩
    · rename_i hzero
      have hdigits := scanDigits_eq_some hint
      exact ⟨hdigits.1, hdigits.2.1, fun hhead => absurd (hdigits.2.2.symm.trans hhead) hzero⟩
  have hfracs : frac.all isDigit = true := by
    unfold scanFrac at hfrac
    split at hfrac
    · exact (scanDigits_eq_some hfrac).2.1
    · obtain ⟨rfl, -⟩ := Prod.ext_iff.mp (Option.some.inj hfrac)
      rfl
  have hexps : exp.all isDigit = true ∧ (sign = none ∨ exp ≠ [] ∧ (sign = some 43 ∨ sign = some 45)) := by
    unfold scanExp at hexp
    split at hexp
    · dsimp only at hexp
      obtain ⟨⟨ds, s₄⟩, hdigits, hexp⟩ := Option.map_eq_some_iff.mp hexp
      obtain ⟨hsign, -⟩ := Prod.ext_iff.mp hexp
      obtain ⟨rfl, rfl⟩ := Prod.ext_iff.mp hsign
      have hds := scanDigits_eq_some hdigits
      refine ⟨hds.2.1, ?_⟩
      dsimp only [scanExpSign]
      split
      · rename_i hhead
        exact Or.inr ⟨hds.1, hhead⟩
      · exact Or.inl rfl
    · obtain ⟨hsign, -⟩ := Prod.ext_iff.mp (Option.some.inj hexp)
      obtain ⟨rfl, rfl⟩ := Prod.ext_iff.mp hsign
      exact ⟨rfl, Or.inl rfl⟩
  exact ⟨hints.1, hints.2.1, hints.2.2, hfracs, hexps.1, hexps.2⟩

lemma fits_parseScalar {s rest : GoString} {v : Json Literal} (h : parseScalar s = some (v, rest)) (d : Nat) :
    v.Fits Literal.WellFormed d := by
  unfold parseScalar at h
  split_ifs at h
  · obtain ⟨rfl, -⟩ := Prod.ext_iff.mp (Option.some.inj h)
    exact .null d
  · obtain ⟨rfl, -⟩ := Prod.ext_iff.mp (Option.some.inj h)
    exact .bool d _
  · obtain ⟨rfl, -⟩ := Prod.ext_iff.mp (Option.some.inj h)
    exact .bool d _
  · obtain ⟨⟨t, s'⟩, hunquote, h⟩ := Option.map_eq_some_iff.mp h
    obtain ⟨rfl, -⟩ := Prod.ext_iff.mp h
    exact .str d (valid_unquote hunquote)
  · obtain ⟨⟨l, s'⟩, hscan, h⟩ := Option.map_eq_some_iff.mp h
    obtain ⟨rfl, -⟩ := Prod.ext_iff.mp h
    exact .num d (wellFormed_of_scanNumber hscan)

/-- Whatever holds of all members and of a new one holds of all members afterwards. -/
lemma forall_mem_insert {N : Type} {P : GoString × Json N → Prop} {ms : List (GoString × Json N)} {k : GoString}
    {v : Json N} (hms : ∀ m ∈ ms, P m) (hm : P (k, v)) : ∀ m ∈ KVStore.insert ms k v, P m := by
  induction ms with
  | nil => simpa [KVStore.insert] using hm
  | cons m ms ih =>
    obtain ⟨k', v'⟩ := m
    have htail := ih fun m hm => hms m (List.mem_cons_of_mem _ hm)
    unfold KVStore.insert
    split_ifs
    · exact List.forall_mem_cons.mpr ⟨hm, hms⟩
    · exact List.forall_mem_cons.mpr ⟨hm, fun m hm => hms m (List.mem_cons_of_mem _ hm)⟩
    · exact List.forall_mem_cons.mpr ⟨hms _ List.mem_cons_self, htail⟩

lemma fits_ofMembers {P : Literal → Prop} {d : Nat} {ms : List (GoString × Json Literal)}
    (h : ∀ m ∈ ms, Valid m.1 ∧ m.2.Fits P d) : (ofMembers ms).Fits P (d + 1) := by
  have hfold : ∀ (ms acc : List (GoString × Json Literal)), (∀ m ∈ ms, Valid m.1 ∧ m.2.Fits P d) →
      (acc.map Prod.fst).Pairwise (· < ·) → (∀ m ∈ acc, Valid m.1 ∧ m.2.Fits P d) →
      ((ms.foldl (fun acc m => KVStore.insert acc m.1 m.2) acc).map Prod.fst).Pairwise (· < ·) ∧
        ∀ m ∈ ms.foldl (fun acc m => KVStore.insert acc m.1 m.2) acc, Valid m.1 ∧ m.2.Fits P d := by
    intro ms
    induction ms with
    | nil => exact fun acc _ hsorted hacc => ⟨hsorted, hacc⟩
    | cons m ms ih =>
      intro acc hms hsorted hacc
      exact ih _ (fun m hm => hms m (List.mem_cons_of_mem _ hm)) (KVStore.sorted_insert _ _ hsorted)
        (forall_mem_insert hacc (hms m List.mem_cons_self))
  have hall := hfold ms [] h .nil (fun _ hm => absurd hm List.not_mem_nil)
  exact .obj hall.1 (fun m hm => (hall.2 m hm).1) fun m hm => (hall.2 m hm).2

/-- What each of the three parsers returns, by induction on the steps. -/
lemma fits_parse (fuel : Nat) : ∀ (d : Nat) (s rest : GoString),
    (∀ v, parseValue fuel d s = some (v, rest) → v.Fits Literal.WellFormed d) ∧
    (∀ xs, parseElements fuel d s = some (xs, rest) → ∀ x ∈ xs, x.Fits Literal.WellFormed d) ∧
    (∀ ms, parseMembers fuel d s = some (ms, rest) → ∀ m ∈ ms, Valid m.1 ∧ m.2.Fits Literal.WellFormed d) := by
  induction fuel with
  | zero =>
    intro d s rest
    refine ⟨fun v h => ?_, fun xs h => ?_, fun ms h => ?_⟩ <;> cases h
  | succ fuel ih =>
    intro d s rest
    refine ⟨fun v h => ?_, fun xs h => ?_, fun ms h => ?_⟩
    · unfold parseValue at h
      split at h
      · cases d with
        | zero => cases h
        | succ d =>
          rw [if_neg (Nat.succ_ne_zero d)] at h
          split at h
          · obtain ⟨rfl, -⟩ := Prod.ext_iff.mp (Option.some.inj h)
            exact .arr fun _ hx => absurd hx List.not_mem_nil
          · obtain ⟨⟨xs, s'⟩, helements, h⟩ := Option.map_eq_some_iff.mp h
            obtain ⟨rfl, -⟩ := Prod.ext_iff.mp h
            exact .arr ((ih d _ _).2.1 xs helements)
      · cases d with
        | zero => cases h
        | succ d =>
          rw [if_neg (Nat.succ_ne_zero d)] at h
          split at h
          · obtain ⟨rfl, -⟩ := Prod.ext_iff.mp (Option.some.inj h)
            exact .obj .nil (fun _ hm => absurd hm List.not_mem_nil) fun _ hm => absurd hm List.not_mem_nil
          · obtain ⟨⟨ms, s'⟩, hmembers, h⟩ := Option.map_eq_some_iff.mp h
            obtain ⟨rfl, -⟩ := Prod.ext_iff.mp h
            exact fits_ofMembers ((ih d _ _).2.2 ms hmembers)
      · exact fits_parseScalar h d
    · unfold parseElements at h
      obtain ⟨⟨x, s'⟩, hx, h⟩ := Option.bind_eq_some_iff.mp h
      dsimp only at h
      have hfirst := (ih d _ _).1 x hx
      split at h
      · obtain ⟨⟨ys, s''⟩, hys, h⟩ := Option.map_eq_some_iff.mp h
        obtain ⟨rfl, -⟩ := Prod.ext_iff.mp h
        exact List.forall_mem_cons.mpr ⟨hfirst, (ih d _ _).2.1 ys hys⟩
      · obtain ⟨s'', -, h⟩ := Option.map_eq_some_iff.mp h
        obtain ⟨rfl, -⟩ := Prod.ext_iff.mp h
        exact List.forall_mem_singleton.mpr hfirst
    · unfold parseMembers at h
      obtain ⟨s₁, -, h⟩ := Option.bind_eq_some_iff.mp h
      obtain ⟨⟨k, s₂⟩, hk, h⟩ := Option.bind_eq_some_iff.mp h
      dsimp only at h
      obtain ⟨s₃, -, h⟩ := Option.bind_eq_some_iff.mp h
      obtain ⟨⟨v, s₄⟩, hv, h⟩ := Option.bind_eq_some_iff.mp h
      dsimp only at h
      have hfirst := And.intro (valid_unquote hk) ((ih d _ _).1 v hv)
      split at h
      · obtain ⟨⟨ms', s₅⟩, hms, h⟩ := Option.map_eq_some_iff.mp h
        obtain ⟨rfl, -⟩ := Prod.ext_iff.mp h
        exact List.forall_mem_cons.mpr ⟨hfirst, (ih d _ _).2.2 ms' hms⟩
      · obtain ⟨s₅, -, h⟩ := Option.map_eq_some_iff.mp h
        obtain ⟨rfl, -⟩ := Prod.ext_iff.mp h
        exact List.forall_mem_singleton.mpr hfirst

theorem fits_of_parse {s : GoString} {v : Json Literal} (h : parse s = some v) :
    v.Fits Literal.WellFormed maxNestingDepth := by
  unfold parse at h
  split at h
  · rename_i w rest hvalue
    split at h
    · rw [← Option.some.inj h]
      exact (fits_parse _ _ _ _).1 w hvalue
    · cases h
  · cases h

end Json
