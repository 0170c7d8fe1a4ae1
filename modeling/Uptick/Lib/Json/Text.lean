import Uptick.Lib.Double
import Uptick.Lib.Hex
import Uptick.Lib.Json.Value

/-!
# JSON texts

The scanner, the decoder and the encoder of `encoding/json` on byte strings. A number is kept as the literal that
stands in the text; of two members with the same key the later one counts; a text may nest 10000 deep.
-/

namespace Json

open Text Utf8 Decimal

/-- `getu4`: four hexadecimal digits. -/
def hex4 (a b c d : UInt8) : Option Nat := do
  let x ← Hex.hexVal a
  let y ← Hex.hexVal b
  let z ← Hex.hexVal c
  let w ← Hex.hexVal d
  some (((x * 16 + y) * 16 + z) * 16 + w)

def isSurrogate (n : Nat) : Bool := 0xD800 ≤ n && n < 0xE000

/-- The second half of a surrogate pair, if it follows. -/
def lowSurrogate : GoString → Option (Nat × GoString)
  | 92 :: 117 :: a :: b :: c :: d :: rest =>
    match hex4 a b c d with
    | some n => if 0xDC00 ≤ n ∧ n < 0xE000 then some (n, rest) else none
    | none => none
  | _ => none

/-- The rune that a `\u` escape stands for; half a surrogate pair stands for the replacement rune. -/
def unescapeRune (n : Nat) (rest : GoString) : GoString × GoString :=
  if isSurrogate n then
    if n < 0xDC00 then
      match lowSurrogate rest with
      | some (low, rest') => (encodeRune ((n - 0xD800) * 0x400 + (low - 0xDC00) + 0x10000), rest')
      | none => (replacement, rest)
    else (replacement, rest)
  else (encodeRune n, rest)

/-- The text that an escape stands for, after the backslash. -/
def unescape : GoString → Option (GoString × GoString)
  | 34 :: rest => some ([34], rest)
  | 92 :: rest => some ([92], rest)
  | 47 :: rest => some ([47], rest)
  | 98 :: rest => some ([8], rest)
  | 102 :: rest => some ([12], rest)
  | 110 :: rest => some ([10], rest)
  | 114 :: rest => some ([13], rest)
  | 116 :: rest => some ([9], rest)
  | 117 :: a :: b :: c :: d :: rest => (hex4 a b c d).map fun n => unescapeRune n rest
  | _ => none

/-- One piece of a string: an escape, a rune, or a byte that is none and reads as the replacement rune. -/
def unquotePiece : GoString → Option (GoString × GoString)
  | [] => none
  | b :: s =>
    if b = 92 then unescape s
    else if b < 0x20 then none
    else if runeSize (b :: s) = 0 then some (replacement, s)
    else some ((b :: s).take (runeSize (b :: s)), (b :: s).drop (runeSize (b :: s)))

/-- A string after its opening quote, and what follows the closing one. -/
def unquote : Nat → GoString → Option (GoString × GoString)
  | 0, _ => none
  | fuel + 1, s =>
    if s.head? = some 34 then some ([], s.tail)
    else (unquotePiece s).bind fun (bytes, rest) => (unquote fuel rest).map fun (t, rest') => (bytes ++ t, rest')

/-- `htmlSafeSet` -/
def htmlSafe (b : UInt8) : Bool := 0x20 ≤ b && b < 0x80 && b != 34 && b != 92 && b != 60 && b != 62 && b != 38

def quoteByte (b : UInt8) : GoString :=
  if htmlSafe b then [b]
  else if b = 92 ∨ b = 34 then [92, b]
  else if b = 8 then [92, 98]
  else if b = 12 then [92, 102]
  else if b = 10 then [92, 110]
  else if b = 13 then [92, 114]
  else if b = 9 then [92, 116]
  else [92, 117, 48, 48] ++ Hex.hexByte b

/-- A rune as it is printed: the two line separators of Unicode are escaped. -/
def quoteRune (r : GoString) : GoString :=
  if r = [0xE2, 0x80, 0xA8] then Text.str "\\u2028"
  else if r = [0xE2, 0x80, 0xA9] then Text.str "\\u2029"
  else r

/-- `appendString` between the quotes, with HTML characters escaped. -/
def quoteFrom : Nat → GoString → GoString
  | 0, _ => []
  | _ + 1, [] => []
  | fuel + 1, b :: s =>
    if b < 0x80 then quoteByte b ++ quoteFrom fuel s
    else if runeSize (b :: s) = 0 then Text.str "\\ufffd" ++ quoteFrom fuel s
    else quoteRune ((b :: s).take (runeSize (b :: s))) ++ quoteFrom fuel ((b :: s).drop (runeSize (b :: s)))

def quote (s : GoString) : GoString := 34 :: quoteFrom s.length s ++ [34]

def scanSign (s : GoString) : Bool × GoString := if s.head? = some 45 then (true, s.tail) else (false, s)

/-- At least one digit. -/
def scanDigits (s : GoString) : Option (GoString × GoString) :=
  if s.takeWhile isDigit = [] then none else some (s.takeWhile isDigit, s.dropWhile isDigit)

/-- The part before the point: a zero stands alone. -/
def scanInt (s : GoString) : Option (GoString × GoString) :=
  if s.head? = some 48 then some ([48], s.tail) else scanDigits s

def scanFrac (s : GoString) : Option (GoString × GoString) :=
  if s.head? = some 46 then scanDigits s.tail else some ([], s)

def scanExpSign (s : GoString) : Option UInt8 × GoString :=
  if s.head? = some 43 ∨ s.head? = some 45 then (s.head?, s.tail) else (none, s)

def scanExp (s : GoString) : Option ((Option UInt8 × GoString) × GoString) :=
  if s.head? = some 101 ∨ s.head? = some 69 then
    let (sign, s) := scanExpSign s.tail
    (scanDigits s).map fun (exp, s) => ((sign, exp), s)
  else some ((none, []), s)

/-- A number at the head of a text. -/
def scanNumber (s : GoString) : Option (Literal × GoString) := do
  let (neg, s) := scanSign s
  let (int, s) ← scanInt s
  let (frac, s) ← scanFrac s
  let ((sign, exp), s) ← scanExp s
  some (⟨neg, int, frac, sign, exp⟩, s)

def isSpace (b : UInt8) : Bool := b == 32 || b == 9 || b == 13 || b == 10

def skipSpace (s : GoString) : GoString := s.dropWhile isSpace

/-- Members from the text in the order they stand there. -/
def ofMembers {N : Type} (ms : List (GoString × Json N)) : Json N :=
  .obj (ms.foldl (fun acc m => KVStore.insert acc m.1 m.2) [])

/-- A value that is neither an array nor an object. -/
def parseScalar (s : GoString) : Option (Json Literal × GoString) :=
  if hasPrefix s (Text.str "null") then some (.null, s.drop 4)
  else if hasPrefix s (Text.str "true") then some (.bool true, s.drop 4)
  else if hasPrefix s (Text.str "false") then some (.bool false, s.drop 5)
  else if s.head? = some 34 then (unquote s.length s.tail).map fun (t, rest) => (.str t, rest)
  else (scanNumber s).map fun (l, rest) => (.num l, rest)

/-- What is left behind a byte that has to come next, after any space. -/
def expect (b : UInt8) (s : GoString) : Option GoString :=
  if (skipSpace s).head? = some b then some (skipSpace s).tail else none

mutual

/-- A value at the head of a text. The first argument bounds the steps, the second one the nesting. -/
def parseValue : Nat → Nat → GoString → Option (Json Literal × GoString)
  | 0, _, _ => none
  | fuel + 1, depth, s =>
    match expect 91 s, expect 123 s with
    | some s, _ =>
      if depth = 0 then none
      else match expect 93 s with
        | some rest => some (.arr [], rest)
        | none => (parseElements fuel (depth - 1) s).map fun (xs, rest) => (.arr xs, rest)
    | none, some s =>
      if depth = 0 then none
      else match expect 125 s with
        | some rest => some (.obj [], rest)
        | none => (parseMembers fuel (depth - 1) s).map fun (ms, rest) => (ofMembers ms, rest)
    | none, none => parseScalar (skipSpace s)

/-- The elements of an array that is not empty, up to the closing bracket. -/
def parseElements : Nat → Nat → GoString → Option (List (Json Literal) × GoString)
  | 0, _, _ => none
  | fuel + 1, depth, s => do
    let (x, s) ← parseValue fuel depth s
    match expect 44 s with
    | some s => (parseElements fuel depth s).map fun (xs, s) => (x :: xs, s)
    | none => (expect 93 s).map fun s => ([x], s)

/-- The members of an object that is not empty, up to the closing brace. -/
def parseMembers : Nat → Nat → GoString → Option (List (GoString × Json Literal) × GoString)
  | 0, _, _ => none
  | fuel + 1, depth, s => do
    let s ← expect 34 s
    let (k, s) ← unquote (s.length + 1) s
    let s ← expect 58 s
    let (v, s) ← parseValue fuel depth s
    match expect 44 s with
    | some s => (parseMembers fuel depth s).map fun (ms, s) => ((k, v) :: ms, s)
    | none => (expect 125 s).map fun s => ([(k, v)], s)

end

/-- `maxNestingDepth` -/
def maxNestingDepth : Nat := 10000

/-- The value of a text, none where the text is not JSON. -/
def parse (s : GoString) : Option (Json Literal) :=
  match parseValue (s.length + 1) maxNestingDepth s with
  | some (v, rest) => if skipSpace rest = [] then some v else none
  | none => none

/-- `json.Valid` -/
def valid (s : GoString) : Bool := (parse s).isSome

mutual

/-- The text of a value, without any space. -/
def text : Json Literal → GoString
  | .null => Text.str "null"
  | .bool true => Text.str "true"
  | .bool false => Text.str "false"
  | .num l => l.text
  | .str s => quote s
  | .arr [] => [91, 93]
  | .arr (x :: xs) => 91 :: x.text ++ textElements xs
  | .obj [] => [123, 125]
  | .obj ((k, v) :: ms) => 123 :: quote k ++ 58 :: v.text ++ textMembers ms

/-- The elements after the first one, with the closing bracket. -/
def textElements : List (Json Literal) → GoString
  | [] => [93]
  | x :: xs => 44 :: x.text ++ textElements xs

/-- The members after the first one, with the closing brace. -/
def textMembers : List (GoString × Json Literal) → GoString
  | [] => [125]
  | (k, v) :: ms => 44 :: quote k ++ 58 :: v.text ++ textMembers ms

end

end Json
