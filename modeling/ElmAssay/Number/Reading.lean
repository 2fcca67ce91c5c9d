import ElmAssay.Number.Decimal
import ElmAssay.Text.Classes

/-!
# Reading numbers

A decimal numeral is read to the nearest floating point number (`realOf`). A setting that holds a number may have
white space around it, digits of any script, single low lines between digits, or the words for infinity and no number
in any case (`readReal`).
-/

/-!
## Decimal digits

The decimal digits of Unicode 14 come in runs of ten consecutive code points, from zero to nine; `digitValue` gives
the value of a digit of any of them.
-/

namespace ElmAssay.Text

/-- The zeros of the runs of decimal digits. -/
def digitZeros : List Nat :=
  0x30 ::
  [0x660, 0x6F0, 0x7C0, 0x966, 0x9E6, 0xA66, 0xAE6, 0xB66, 0xBE6, 0xC66, 0xCE6, 0xD66, 0xDE6, 0xE50, 0xED0, 0xF20,
   0x1040, 0x1090, 0x17E0, 0x1810, 0x1946, 0x19D0, 0x1A80, 0x1A90, 0x1B50, 0x1BB0, 0x1C40, 0x1C50, 0xA620, 0xA8D0,
   0xA900, 0xA9D0, 0xA9F0, 0xAA50, 0xABF0, 0xFF10, 0x104A0, 0x10D30, 0x11066, 0x110F0, 0x11136, 0x111D0, 0x112F0,
   0x11450, 0x114D0, 0x11650, 0x116C0, 0x11730, 0x118E0, 0x11950, 0x11C50, 0x11D50, 0x11DA0, 0x16A60, 0x16AC0,
   0x16B50, 0x1D7CE, 0x1D7D8, 0x1D7E2, 0x1D7EC, 0x1D7F6, 0x1E140, 0x1E2F0, 0x1E950, 0x1FBF0]

/-- The value of a decimal digit. -/
def digitValue (c : Char) : Option Nat :=
  (digitZeros.find? fun z => z ≤ c.toNat && c.toNat < z + 10).map (c.toNat - ·)

end ElmAssay.Text

/-! ## Numerals -/

namespace ElmAssay.Number

open Text

/-- The value of a run of ASCII digits. -/
def digitsValue (ds : List Char) : Nat := ds.foldl (fun n d => n * 10 + (d.toNat - 48)) 0

/-- The number with the given sign, digits before and after the point, and exponent. -/
def realOf (negative : Bool) (whole fraction : List Char) (exponent : Int) : Binary64 :=
  .ofDecimal negative (digitsValue (whole ++ fraction)) (exponent - fraction.length)

/-- The ASCII digits a text starts with, and the rest. -/
def spanDigits (s : List Char) : List Char × List Char := s.span isAsciiDigit

/-- A sign at the front of a text: whether it is a minus, and the rest. -/
def takeSign : List Char → Bool × List Char
  | '-' :: s => (true, s)
  | '+' :: s => (false, s)
  | s => (false, s)

/-- The exponent that a text is, where nothing is the exponent zero. -/
def readExponent : List Char → Option Int
  | [] => some 0
  | c :: s =>
    if c = 'e' ∨ c = 'E' then
      let (negative, ds) := takeSign s
      if ds.isEmpty ∨ ¬ ds.all isAsciiDigit then none
      else some (if negative then -(digitsValue ds : Int) else digitsValue ds)
    else none

/-- A number without a sign: digits with at most one point among them, and perhaps an exponent. -/
def readUnsigned (negative : Bool) (s : List Char) : Option Binary64 :=
  let (whole, rest) := spanDigits s
  let (fraction, rest) :=
    match rest with
    | '.' :: rest => spanDigits rest
    | rest => ([], rest)
  if whole.isEmpty && fraction.isEmpty then none
  else (readExponent rest).map (realOf negative whole fraction)

/-- A number or one of the words, perhaps with a sign. -/
def readSigned (s : List Char) : Option Binary64 :=
  let (negative, body) := takeSign s
  let word := body.map Char.toLower
  if word = "inf".toList ∨ word = "infinity".toList then some (.infinite negative)
  else if word = "nan".toList then some .notANumber
  else readUnsigned negative body

/-- A text without its low lines, provided each of them stands between two digits. `before` is the character in
front. -/
def dropLowLines : Option Char → List Char → Option (List Char)
  | _, [] => some []
  | before, '_' :: s =>
    if before.any isAsciiDigit && s.head?.any isAsciiDigit then dropLowLines (some '_') s else none
  | _, c :: s => (dropLowLines (some c) s).map (c :: ·)

/-- White space above the first 127 code points becomes a space, a digit its ASCII digit, and any other such
character the question mark, which no numeral holds. -/
def toAscii (c : Char) : Char :=
  if c.toNat < 127 then c
  else if isBlank c then ' '
  else
    match digitValue c with
    | some d => Char.ofNat (48 + d)
    | none => '?'

/-- The number that a setting's text is. -/
def readReal (s : List Char) : Option Binary64 :=
  (dropLowLines none (trim isNarrowBlank (s.map toAscii))).bind readSigned

/-- The whole number that a text is, if it is nothing but digits, perhaps after a minus. -/
def readWhole (s : List Char) : Option Int :=
  match s with
  | '-' :: ds => if ds.isEmpty ∨ ¬ ds.all isAsciiDigit then none else some (-(digitsValue ds : Int))
  | ds => if ds.isEmpty ∨ ¬ ds.all isAsciiDigit then none else some (digitsValue ds)

end ElmAssay.Number

/-!
## Time limits

A count of seconds is a whole number or a floating point number, and is shown in the form it was given in
(`Seconds.text`). A limit of zero means none (`Seconds.limit`).
-/

namespace ElmAssay

/-- A count of seconds. -/
inductive Seconds
  | whole (n : Int)
  | real (x : Binary64)
  deriving DecidableEq, Repr

namespace Seconds

open Number

/-- The text of a count of seconds. -/
def text : Seconds → String
  | whole n => String.ofList (wholeText n)
  | real x => String.ofList (realText x)

/-- The count that a text is: digits alone are a whole number, all else is a floating point number. -/
def ofText (s : String) : Option Seconds :=
  match readWhole s.toList with
  | some n => some (whole n)
  | none => (readReal s.toList).map real

/-- Whether a count is below zero. -/
def isBelowZero : Seconds → Bool
  | whole n => n < 0
  | real x => x.isBelowZero

/-- Whether a count is zero. -/
def isZero : Seconds → Bool
  | whole n => n == 0
  | real x => x.isZero

/-- Whether a count is no number. -/
def isNotANumber : Seconds → Bool
  | real .notANumber => true
  | _ => false

/-- The limit that a count means: zero is no limit. -/
def limit (s : Seconds) : Option Seconds := if s.isZero then none else some s

/-- The whole microseconds in a count that is not below zero; an infinity and what is no number have none. -/
def micros? : Seconds → Option Nat
  | whole n => some (n.toNat * 1000000)
  | real .notANumber => none
  | real (.infinite _) => none
  | real (.finite _ m q) => some (m * 1000000 * 2 ^ q.toNat / 2 ^ (-q).toNat)

end Seconds
end ElmAssay
