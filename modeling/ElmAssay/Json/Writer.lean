import ElmAssay.Json.Value
import ElmAssay.Text.Quoted

/-!
# Writing JSON

A value is written in one of two styles that differ in the white space alone: all on one line (`Style.compact`), or
with every item and field on a line of its own, set in by four spaces a level (`Style.wide`). Strings escape the
quote, the backslash and the controls, and nothing else.
-/

namespace ElmAssay.Json

open Text

/-- The white space of a style: what stands before an item at a level, and what stands between a key and its
value. -/
structure Style where
  lineBreak : Nat → List Char
  colon : List Char

/-- No white space at all. -/
def Style.compact : Style := ⟨fun _ => [], [':']⟩

/-- A line for every item and field, set in by four spaces a level. -/
def Style.wide : Style := ⟨fun level => '\n' :: List.replicate (4 * level) ' ', [':', ' ']⟩

/-- The layout of floating point numbers: the standard one but for the numbers without digits. -/
def realLayout : Number.Layout :=
  ⟨Number.standard.least, Number.standard.greatest, Number.standard.mark, Number.standard.exponentDigits, "Infinity",
   "NaN"⟩

/-- A character inside a string. -/
def escapeChar (c : Char) : List Char :=
  if c = '"' ∨ c = '\\' then ['\\', c]
  else if c = '\n' then ['\\', 'n']
  else if c = '\r' then ['\\', 'r']
  else if c = '\t' then ['\\', 't']
  else if c = '\x08' then ['\\', 'b']
  else if c = '\x0c' then ['\\', 'f']
  else if c.toNat < 0x20 then '\\' :: 'u' :: hex 4 c.toNat
  else [c]

/-- A string between its quotes. -/
def writeString (s : List Char) : List Char := '"' :: s.flatMap escapeChar ++ ['"']

mutual

/-- The text of a value at a level. -/
def write (st : Style) (level : Nat) : Json → List Char
  | .null => ['n', 'u', 'l', 'l']
  | .bool true => ['t', 'r', 'u', 'e']
  | .bool false => ['f', 'a', 'l', 's', 'e']
  | .int n => Number.wholeText n
  | .real x => realLayout.render x
  | .str s => writeString s.toList
  | .arr items =>
    if items.isEmpty then ['[', ']'] else '[' :: writeItems st (level + 1) items ++ st.lineBreak level ++ [']']
  | .obj fields =>
    if fields.isEmpty then ['{', '}'] else '{' :: writeFields st (level + 1) fields ++ st.lineBreak level ++ ['}']

/-- The items of an array, each after a line break, with commas between them. -/
def writeItems (st : Style) (level : Nat) : List Json → List Char
  | [] => []
  | v :: vs => st.lineBreak level ++ write st level v ++ (if vs.isEmpty then [] else [',']) ++ writeItems st level vs

/-- The fields of an object, each after a line break, with commas between them. -/
def writeFields (st : Style) (level : Nat) : List (String × Json) → List Char
  | [] => []
  | (k, v) :: fs =>
    st.lineBreak level ++ writeString k.toList ++ st.colon ++ write st level v ++
      (if fs.isEmpty then [] else [',']) ++ writeFields st level fs

end

/-- The text of a value on one line. -/
def compactText (v : Json) : String := String.ofList (write .compact 0 v)

/-- The text of a value over several lines. -/
def wideText (v : Json) : String := String.ofList (write .wide 0 v)

end ElmAssay.Json
