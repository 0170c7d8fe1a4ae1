import Uptick.Lib.Json.Decoded
import Uptick.Lib.Json.RoundTrip

/-!
# Values as the program holds them

`json.Unmarshal` into an `interface{}` keeps a number as the double closest to it, and `json.Marshal` prints that
double. `Json.value` is the value of a text itself, with its numbers as they are written.
-/

namespace Json

open Text Decimal

variable {N : Type}

mutual

/-- Every number passes a test. -/
def all (p : N → Bool) : Json N → Bool
  | .num n => p n
  | .arr xs => allElements p xs
  | .obj ms => allMembers p ms
  | _ => true

def allElements (p : N → Bool) : List (Json N) → Bool
  | [] => true
  | x :: xs => x.all p && allElements p xs

def allMembers (p : N → Bool) : List (GoString × Json N) → Bool
  | [] => true
  | (_, v) :: ms => v.all p && allMembers p ms

end

lemma allElements_eq_true {p : N → Bool} {xs : List (Json N)} :
    allElements p xs = true ↔ ∀ x ∈ xs, x.all p = true := by
  induction xs with
  | nil => simp [allElements]
  | cons x xs ih => simp [allElements, ih]

lemma allMembers_eq_true {p : N → Bool} {ms : List (GoString × Json N)} :
    allMembers p ms = true ↔ ∀ m ∈ ms, m.2.all p = true := by
  induction ms with
  | nil => simp [allMembers]
  | cons m ms ih =>
    obtain ⟨k, v⟩ := m
    rw [allMembers, Bool.and_eq_true, ih, List.forall_mem_cons]

lemma all_eq_true {p : N → Bool} {v : Json N} : v.all p = true ↔ v.All fun n => p n = true := by
  constructor
  · intro h
    induction v with
    | null => exact .null
    | bool b => exact .bool b
    | num n => exact .num h
    | str s => exact .str s
    | arr xs ih => exact .arr fun x hx => ih x hx (allElements_eq_true.mp h x hx)
    | obj ms ih => exact .obj fun m hm => ih m hm (allMembers_eq_true.mp h m hm)
  · intro h
    induction h with
    | null => rfl
    | bool b => rfl
    | num h => exact h
    | str s => rfl
    | arr _ ih => exact allElements_eq_true.mpr ih
    | obj _ ih => exact allMembers_eq_true.mpr ih

/-- The number an `interface{}` holds; it stays nil where the literal is out of range. -/
def ofLiteral (l : Literal) : Json Double :=
  match l.parseFloat with
  | some d => .num d
  | none => .null

/-- The value an `interface{}` holds after decoding. -/
def decoded (v : Json Literal) : Json Double := v.bind ofLiteral

/-- `json.Marshal` -/
def marshal (v : Json Double) : GoString := (v.map Double.literal).text

/-- `json.Unmarshal(data, &m)` for an empty `map[string]interface{}`: what the map holds afterwards, nothing where it
is nil, and whether there is no error. A number that is out of range is an error that does not stop the decoder. -/
def unmarshalMap (data : GoString) : Option (List (GoString × Json Double)) × Bool :=
  match parse data with
  | some .null => (none, true)
  | some (.obj ms) => (some (bindMembers ofLiteral ms), (Json.obj ms).all fun l => l.parseFloat.isSome)
  | _ => (some [], false)

/-- The value of a text with its numbers as they are written. -/
def value (s : GoString) : Option (Json ℚ) := (parse s).map (map Literal.value)

lemma ofLiteral_literal (d : Double) : ofLiteral d.literal = .num d := by
  rw [ofLiteral, d.readBack_literal.2]

lemma decoded_map_literal (v : Json Double) : decoded (v.map Double.literal) = v := by
  have hnum : (fun d : Double => bind ofLiteral (.num d.literal)) = Json.num := by
    funext d
    exact ofLiteral_literal d
  rw [decoded, map, bind_bind, hnum, bind_num_self]

lemma fits_ofLiteral (l : Literal) (d : Nat) : (ofLiteral l).Fits (fun _ => True) d := by
  unfold ofLiteral
  split
  · exact .num d trivial
  · exact .null d

lemma fits_decoded {P : Literal → Prop} {d : Nat} {v : Json Literal} (h : v.Fits P d) :
    (decoded v).Fits (fun _ => True) d :=
  h.bind fun l d _ => fits_ofLiteral l d

theorem parse_marshal {v : Json Double} (h : v.Fits (fun _ => True) maxNestingDepth) :
    parse (marshal v) = some (v.map Double.literal) :=
  parse_text (h.bind fun d n _ => .num n d.readBack_literal.1)

/-- A printed object is decoded without error to the same members. -/
theorem unmarshalMap_marshal {ms : List (GoString × Json Double)}
    (h : (Json.obj ms).Fits (fun _ => True) maxNestingDepth) : unmarshalMap (marshal (.obj ms)) = (some ms, true) := by
  have hparse := parse_marshal h
  have hmembers : bindMembers ofLiteral (ms.map fun m => (m.1, m.2.bind fun d => .num d.literal)) = ms := by
    have hdecoded := decoded_map_literal (.obj ms)
    rw [map, bind_obj, decoded, bind, obj.injEq] at hdecoded
    exact hdecoded
  have hrange : ((Json.obj ms).map Double.literal).all (fun l => l.parseFloat.isSome) = true := by
    apply all_eq_true.mpr
    apply all_map
    intro d
    rw [d.readBack_literal.2]
    rfl
  rw [map, bind_obj] at hparse hrange
  rw [unmarshalMap, hparse]
  dsimp only
  rw [hmembers, hrange]

/-- The number is kept by a double: what is printed for the double closest to it is the same number. -/
def Exact (l : Literal) : Prop := ∃ d, l.parseFloat = some d ∧ d.literal.value = l.value

lemma bind_ofLiteral_eq {l : Literal} :
    ((ofLiteral l).bind fun d => .num d.literal.value) = .num l.value ↔ Exact l := by
  unfold ofLiteral Exact
  split
  · rename_i d hd
    simp [hd]
  · rename_i hd
    simp [hd]

/-- The value of a text after decoding and encoding is the same exactly when its numbers are kept. -/
theorem value_marshal_decoded {s : GoString} {v : Json Literal} (h : parse s = some v) :
    value (marshal (decoded v)) = value s ↔ v.All Exact := by
  rw [value, value, parse_marshal (fits_decoded (fits_of_parse h)), h, Option.map_some, Option.map_some,
    Option.some.injEq, decoded, map, map, map, bind_bind, bind_bind, bind_eq_bind]
  exact All.iff fun l => bind_ofLiteral_eq

end Json
