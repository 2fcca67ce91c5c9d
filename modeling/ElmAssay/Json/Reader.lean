import ElmAssay.Json.Value
import ElmAssay.Number.Reading
import ElmAssay.Text.Utf8

/-!
# Reading JSON

The reader takes one value and the white space around it (`read`). Beyond the standard it knows the names of the
numbers without digits, and of equal keys it keeps the first place and the last value. A text it refuses is located
by the character at which it stops (`ReadError`), a whole number may have at most `digitLimit` digits, and arrays and
objects stand inside of each other at most `depthLimit` deep.

The functions return the rest of the text, and a refusal carries the rest at which it happened (`Stop`), from which
the place is counted in the end.
-/

namespace ElmAssay.Json

open Text

/-- What a reader meets where it cannot go on. -/
inductive Fault
  | expectedValue
  | expectedName
  | expectedColon
  | expectedComma
  | extraData
  | unterminatedString
  | controlCharacter
  | badEscape
  | badCode
  | byteOrderMark
  deriving DecidableEq, Repr

/-- The wording of a fault. -/
def Fault.message : Fault → String
  | .expectedValue => "Expecting value"
  | .expectedName => "Expecting property name enclosed in double quotes"
  | .expectedColon => "Expecting ':' delimiter"
  | .expectedComma => "Expecting ',' delimiter"
  | .extraData => "Extra data"
  | .unterminatedString => "Unterminated string starting at"
  | .controlCharacter => "Invalid control character at"
  | .badEscape => "Invalid \\escape"
  | .badCode => "Invalid \\uXXXX escape"
  | .byteOrderMark => "Unexpected UTF-8 BOM (decode using utf-8-sig)"

/-- A fault and its place: the line and the column from one, the position from zero. -/
structure SyntaxError where
  fault : Fault
  line : Nat
  column : Nat
  position : Nat
  deriving DecidableEq, Repr

/-- The wording of a fault with its place. -/
def SyntaxError.message (e : SyntaxError) : String :=
  s!"{e.fault.message}: line {e.line} column {e.column} (char {e.position})"

/-- Why a text is refused. -/
inductive ReadError
  | malformed (e : SyntaxError)
  /-- A whole number has so many digits that it is not read. -/
  | tooManyDigits (count : Nat)
  /-- An array or an object stands inside of too many others. -/
  | tooDeep (isArray : Bool)
  deriving DecidableEq, Repr

/-- The greatest count of digits of a whole number that is read. -/
def digitLimit : Nat := 4300

/-- The greatest count of arrays and objects inside of each other that is read. -/
def depthLimit : Nat := 985

/-- The wording of a refusal. -/
def ReadError.message : ReadError → String
  | .malformed e => e.message
  | .tooManyDigits count =>
    s!"Exceeds the limit ({digitLimit} digits) for integer string conversion: value has {count} digits; " ++
      "use sys.set_int_max_str_digits() to increase the limit"
  | .tooDeep isArray =>
    let kind := if isArray then "array" else "object"
    s!"maximum recursion depth exceeded while decoding a JSON {kind} from a unicode string"

/-- A refusal with the text that was left. -/
inductive Stop
  | fault (f : Fault) (left : List Char)
  | tooManyDigits (count : Nat)
  | tooDeep (isArray : Bool)

/-- What is read from the front of a text, and the rest. -/
abbrev Reading (α : Type) := Except Stop (α × List Char)

/-- White space between tokens. -/
def isSpace (c : Char) : Bool := c == ' ' || c == '\t' || c == '\n' || c == '\r'

/-- The text from its next token on. -/
def skip (s : List Char) : List Char := s.dropWhile isSpace

/-! ## Strings -/

/-- The value of a hexadecimal digit. -/
def hexValue (c : Char) : Option Nat :=
  if '0' ≤ c ∧ c ≤ '9' then some (c.toNat - 48)
  else if 'a' ≤ c ∧ c ≤ 'f' then some (c.toNat - 87)
  else if 'A' ≤ c ∧ c ≤ 'F' then some (c.toNat - 55)
  else none

/-- The value of four hexadecimal digits. -/
def hexValue4 (a b c d : Char) : Option Nat := do
  return (((← hexValue a) * 16 + (← hexValue b)) * 16 + (← hexValue c)) * 16 + (← hexValue d)

/-- The character of an escape of one letter. -/
def escaped (c : Char) : Option Char :=
  if c = '"' ∨ c = '\\' ∨ c = '/' then some c
  else if c = 'b' then some '\x08'
  else if c = 'f' then some '\x0c'
  else if c = 'n' then some '\n'
  else if c = 'r' then some '\r'
  else if c = 't' then some '\t'
  else none

/-- Whether a code is the first half of a pair. -/
def isHighHalf (n : Nat) : Bool := 0xD800 ≤ n && n < 0xDC00

/-- Whether a code is the second half of a pair. -/
def isLowHalf (n : Nat) : Bool := 0xDC00 ≤ n && n < 0xE000

/-- The character of a code; a half of a pair on its own is no character and is replaced. -/
def codeChar (n : Nat) : Char := if isHighHalf n || isLowHalf n then Utf8.replacement else Char.ofNat n

/-- The character of a pair of halves. -/
def pairChar (high low : Nat) : Char := Char.ofNat (0x10000 + (high - 0xD800) * 0x400 + (low - 0xDC00))

/-- Characters in front of what is read. -/
def prepend (cs : List Char) (r : Reading (List Char)) : Reading (List Char) :=
  r.map fun p => (cs ++ p.1, p.2)

/-- The character of a first half of a pair whose second half did not follow. -/
def loneHalf (high : Option Nat) : List Char := if high.isSome then [Utf8.replacement] else []

/-- The characters of a string up to its closing quote, after a first half of a pair that may be open; `opening` is
the text from the opening quote on. -/
def readChars (opening : List Char) : Option Nat → List Char → Reading (List Char)
  | _, [] => .error (.fault .unterminatedString opening)
  | high, '"' :: s => .ok (loneHalf high, s)
  | _, ['\\'] => .error (.fault .unterminatedString opening)
  | high, '\\' :: 'u' :: a :: b :: c :: d :: r =>
    match hexValue4 a b c d, r.isEmpty with
    | some n, false =>
      if isHighHalf n then prepend (loneHalf high) (readChars opening (some n) r)
      else
        match high with
        | some h =>
          if isLowHalf n then prepend [pairChar h n] (readChars opening none r)
          else prepend [Utf8.replacement, codeChar n] (readChars opening none r)
        | none => prepend [codeChar n] (readChars opening none r)
    | _, _ => .error (.fault .badCode ('u' :: a :: b :: c :: d :: r))
  | high, '\\' :: c :: r =>
    match escaped c with
    | some x => prepend (loneHalf high ++ [x]) (readChars opening none r)
    | none =>
      if c = 'u' then .error (.fault .badCode (c :: r)) else .error (.fault .badEscape ('\\' :: c :: r))
  | high, c :: s =>
    if c.toNat < 0x20 then .error (.fault .controlCharacter (c :: s))
    else prepend (loneHalf high ++ [c]) (readChars opening none s)

/-! ## Numbers and names -/

/-- The digits before the point: one zero, or digits that start with another one. -/
def takeWhole : List Char → List Char × List Char
  | '0' :: s => (['0'], s)
  | s => Number.spanDigits s

/-- A point and the digits after it; a point without digits is not taken. -/
def takeFraction : List Char → Option (List Char) × List Char
  | '.' :: s =>
    let (ds, r) := Number.spanDigits s
    if ds.isEmpty then (none, '.' :: s) else (some ds, r)
  | s => (none, s)

/-- An exponent; a mark without digits is not taken. -/
def takeExponent : List Char → Option Int × List Char
  | c :: s =>
    if c = 'e' ∨ c = 'E' then
      let (negative, t) := Number.takeSign s
      let (ds, r) := Number.spanDigits t
      if ds.isEmpty then (none, c :: s)
      else
        let n : Int := Number.digitsValue ds
        (some (if negative then -n else n), r)
    else (none, c :: s)
  | [] => (none, [])

/-- A number: a floating point number if it has a fraction or an exponent. -/
def readNumber (s : List Char) : Reading Json :=
  let (negative, body) :=
    match s with
    | '-' :: body => (true, body)
    | body => (false, body)
  let (whole, r) := takeWhole body
  if whole.isEmpty then .error (.fault .expectedValue s)
  else
    match takeFraction r with
    | (fraction, r) =>
      match takeExponent r with
      | (exponent, r) =>
        if fraction.isSome || exponent.isSome then
          .ok (.real (Number.realOf negative whole (fraction.getD []) (exponent.getD 0)), r)
        else if digitLimit < whole.length then .error (.tooManyDigits whole.length)
        else
          let n : Int := Number.digitsValue whole
          .ok (.int (if negative then -n else n), r)

/-- The names of values. -/
def names : List (List Char × Json) :=
  [("null".toList, .null), ("true".toList, .bool true), ("false".toList, .bool false),
   ("NaN".toList, .real .notANumber), ("Infinity".toList, .real (.infinite false)),
   ("-Infinity".toList, .real (.infinite true))]

/-- A value that is a name or a number. -/
def readScalar (s : List Char) : Reading Json :=
  match names.find? fun p => p.1.isPrefixOf s with
  | some (name, v) => .ok (v, s.drop name.length)
  | none => readNumber s

/-! ## Values -/

mutual

/-- A value at the front of a text that starts with a token. The fuel bounds the depth and the count of items, and
`room` is the count of arrays and objects that may still stand inside of each other. -/
def readValue : Nat → Nat → List Char → Reading Json
  | 0, _, s => .error (.fault .expectedValue s)
  | fuel + 1, room, s =>
    match s with
    | '"' :: r => (readChars s none r).map fun p => (.str (String.ofList p.1), p.2)
    | '[' :: r =>
      if room = 0 then .error (.tooDeep true)
      else
        match skip r with
        | ']' :: r => .ok (.arr [], r)
        | r => (readItems fuel (room - 1) r).map fun p => (.arr p.1, p.2)
    | '{' :: r =>
      if room = 0 then .error (.tooDeep false)
      else
        match skip r with
        | '}' :: r => .ok (.obj [], r)
        | r => (readFields fuel (room - 1) r).map fun p => (.obj (Fields.ofPairs p.1), p.2)
    | s => readScalar s

/-- The items of an array up to its closing bracket. -/
def readItems : Nat → Nat → List Char → Except Stop (List Json × List Char)
  | 0, _, s => .error (.fault .expectedValue s)
  | fuel + 1, room, s => do
    let (v, r) ← readValue fuel room s
    match skip r with
    | ']' :: r => return ([v], r)
    | ',' :: r =>
      let (vs, r) ← readItems fuel room (skip r)
      return (v :: vs, r)
    | r => throw (.fault .expectedComma r)

/-- The fields of an object up to its closing brace. -/
def readFields : Nat → Nat → List Char → Except Stop (List (String × Json) × List Char)
  | 0, _, s => .error (.fault .expectedValue s)
  | fuel + 1, room, s =>
    match s with
    | '"' :: r => do
      let (k, r) ← readChars s none r
      match skip r with
      | ':' :: r =>
        let (v, r) ← readValue fuel room (skip r)
        match skip r with
        | '}' :: r => return ([(String.ofList k, v)], r)
        | ',' :: r =>
          let (fs, r) ← readFields fuel room (skip r)
          return ((String.ofList k, v) :: fs, r)
        | r => throw (.fault .expectedComma r)
      | r => throw (.fault .expectedColon r)
    | s => .error (.fault .expectedName s)

end

/-- The place of a fault in a text of which `left` is the rest. -/
def locate (text : List Char) (f : Fault) (left : List Char) : SyntaxError :=
  let before := text.take (text.length - left.length)
  let column := (before.reverse.takeWhile (· != '\n')).length
  ⟨f, before.count '\n' + 1, column + 1, before.length⟩

/-- A refusal with its place in the text. -/
def Stop.located (text : List Char) : Stop → ReadError
  | .fault f left => .malformed (locate text f left)
  | .tooManyDigits count => .tooManyDigits count
  | .tooDeep isArray => .tooDeep isArray

/-- The value of a whole text, before the place of a refusal is counted. -/
def readAll (text : List Char) : Except Stop Json :=
  if text.head? = some (Char.ofNat 0xFEFF) then .error (.fault .byteOrderMark text)
  else do
    let (v, r) ← readValue (2 * text.length + 2) depthLimit (skip text)
    match skip r with
    | [] => return v
    | r => throw (.fault .extraData r)

/-- The value that a text is. -/
def read (text : String) : Except ReadError Json :=
  (readAll text.toList).mapError (Stop.located text.toList)

end ElmAssay.Json
