import ElmAssay.Machine.Octets
import ElmAssay.Number.Reading

/-!
# Numerals and sizes

Programs read whole numbers at the front of a text, in a given base or in the one that the numeral itself shows
(`Numeral.read`). They count in 64 bits: what is too large is cut to the ends (`Numeral.clamp`) or wraps around
(`Numeral.wrap`).

A size is a count with a letter behind it that multiplies it, such as `4K` or `2MB` (`Size.read`). Each program allows
letters of its own.
-/

namespace ElmAssay.Machine

/-! ## Numerals -/

namespace Numeral

open Text

/-- The white space in front of a numeral. -/
def isSpace (c : Char) : Bool := c == ' ' || (9 ≤ c.toNat && c.toNat ≤ 13)

/-- The value of a digit or letter as a digit. -/
def digitOf (c : Char) : Option Nat :=
  if isAsciiDigit c then some (c.toNat - 48)
  else if 'a' ≤ c ∧ c ≤ 'z' then some (c.toNat - 87)
  else if 'A' ≤ c ∧ c ≤ 'Z' then some (c.toNat - 55)
  else none

/-- Whether a character is a digit in a base. -/
def isDigitIn (base : Nat) (c : Char) : Bool := (digitOf c).any (· < base)

/-- The value of digits in a base. -/
def valueIn (base : Nat) (ds : List Char) : Nat := ds.foldl (fun n d => n * base + (digitOf d).getD 0) 0

/-- The digits of a number in a base up to sixteen. -/
def digitsIn (base n : Nat) : List Char := Nat.toDigits base n

/-- A numeral at the front of a text: its value, what follows it, and whether there was one. -/
structure Reading where
  value : Int
  rest : List Char
  found : Bool

/-- The base that a numeral without a sign shows, and its digits with what follows them. -/
def shownBase : List Char → Nat × List Char
  | '0' :: x :: d :: s =>
    if (x = 'x' ∨ x = 'X') ∧ isDigitIn 16 d then (16, d :: s) else (8, '0' :: x :: d :: s)
  | '0' :: s => (8, '0' :: s)
  | s => (10, s)

/-- Reads a numeral after white space and a sign; without a base it shows its own. -/
def read (base : Option Nat) (s : List Char) : Reading :=
  let (negative, body) := Number.takeSign (s.dropWhile isSpace)
  let (base, body) := base.elim (shownBase body) (·, body)
  let ds := body.takeWhile (isDigitIn base)
  if ds.isEmpty then ⟨0, s, false⟩
  else
    let n : Int := valueIn base ds
    ⟨if negative then -n else n, body.drop ds.length, true⟩

/-- The least number of 64 bits. -/
def least : Int := -(2 ^ 63)

/-- The greatest number of 64 bits. -/
def greatest : Int := 2 ^ 63 - 1

/-- Whether a number has 64 bits. -/
def fits (n : Int) : Bool := least ≤ n && n ≤ greatest

/-- A number cut to 64 bits. -/
def clamp (n : Int) : Int := max least (min greatest n)

/-- A number that wraps around in 64 bits. -/
def wrap (n : Int) : Int := n.bmod (2 ^ 64)

/-- A whole number with white space around it and nothing else. -/
def whole? (s : List Char) : Option Int :=
  let r := read (some 10) s
  if r.found && r.rest.all isSpace && fits r.value then some r.value else none

/-- A natural number that is written by digits alone. -/
def plain? (s : Octets) : Option Nat :=
  let cs := s.toList
  if !cs.isEmpty && cs.all isAsciiDigit then some (Number.digitsValue cs) else none

/-- The text of a number. -/
def text (n : Nat) : Octets := String.ofList (Number.natDigits n)

/-- The text of a number that may be below zero. -/
def signedText (n : Int) : Octets := String.ofList (Number.wholeText n)

/-- A text with characters in front, up to a width. -/
def padLeft (fill : Char) (width : Nat) (s : Octets) : Octets :=
  String.ofList (List.replicate (width - s.length) fill) ++ s

/-- A text with characters behind it, up to a width. -/
def padRight (fill : Char) (width : Nat) (s : Octets) : Octets :=
  s ++ String.ofList (List.replicate (width - s.length) fill)

end Numeral

/-! ## Sizes -/

namespace Size

open Text

/-- What can be wrong with the text of a size. -/
inductive Defect
  | malformed
  | tooLarge
  | outOfRange
  deriving DecidableEq, Repr

/-- The letters that multiply by powers, in order. -/
def powerLetters : List Char := ['K', 'M', 'G', 'T', 'P', 'E', 'Z', 'Y', 'R', 'Q']

/-- The power that a letter stands for. -/
def power? (c : Char) : Option Nat :=
  let upper := if ['k', 'm', 'g', 't'].contains c then c.toUpper else c
  let i := powerLetters.idxOf upper
  if i < powerLetters.length then some (i + 1) else none

/-- The factor that letters behind a count stand for, if they are among those that are allowed. A zero among these lets a
power of a thousand be meant. -/
def factor? (allowed : String) (letters : List Char) : Option Nat :=
  let allowed := allowed.toList
  match letters with
  | [] => some 1
  | c :: rest =>
    if !allowed.contains c then none
    else
      match c, rest with
      | 'b', [] => some 512
      | 'B', [] => some 1024
      | 'c', [] => some 1
      | 'w', [] => some 2
      | c, rest =>
        (power? c).bind fun n =>
          if rest.isEmpty then some (1024 ^ n)
          else if !allowed.contains '0' then none
          else if rest = ['i', 'B'] then some (1024 ^ n)
          else if rest = ['B'] ∨ rest = ['D'] then some (1000 ^ n)
          else none

/-- One more than the greatest size. -/
def limit : Nat := 2 ^ 64

/-- The size that a text writes. Without digits the letters stand for one of what they multiply. -/
def read (allowed : String) (text : List Char) : Except Defect Nat :=
  let s := text.dropWhile Numeral.isSpace
  let s :=
    match s with
    | '+' :: c :: rest => if isAsciiDigit c then c :: rest else s
    | _ => s
  let (ds, letters) := Number.spanDigits s
  let isBare := ds.isEmpty && (letters.isEmpty || s.length != text.length)
  match factor? allowed letters with
  | some factor =>
    if isBare then .error .malformed
    else
      let n := (if ds.isEmpty then 1 else Number.digitsValue ds) * factor
      if n < limit then .ok n else .error .tooLarge
  | none => .error .malformed

/-- The size that a text writes, however large, as far as there is one. -/
def read? (allowed : String) (text : List Char) : Option Nat := (read allowed text).toOption

/-- What a message says behind a text that is no size. -/
def Defect.ending : Defect → Octets
  | .malformed => ""
  | .tooLarge => ": Value too large for defined data type"
  | .outOfRange => ": Numerical result out of range"

/-- The size that a text writes if it is not outside of limits. -/
def readWithin (allowed : String) (least greatest : Nat) (text : List Char) : Except Defect Nat :=
  match read allowed text with
  | .error d => .error d
  | .ok n =>
    if least ≤ n && n ≤ greatest then .ok n else .error (if 2 ^ 30 ≤ n then .tooLarge else .outOfRange)

/-- The factor that the front of a text writes, with the rest, and with what is wrong with the whole if that rest is not
empty. A single letter for bytes may follow it. -/
def readFactor (allowed : String) (text : List Char) : Except Defect Nat × List Char :=
  let s := text.takeWhile (· != 'x')
  let rest := text.drop s.length
  match read allowed s with
  | .error .malformed =>
    if s.getLast? = some 'B' && s.dropLast.getLast? != some 'B' && s.length != 1 then (read allowed s.dropLast, rest)
    else (.error .malformed, rest)
  | r => (r, rest)

/-- The product that a text writes, and how often a zero begins it in a way that looks like another notation. The fuel
bounds the factors. -/
def readProduct (allowed : String) : Nat → List Char → Except Defect Nat × Nat
  | 0, _ => (.error .malformed, 0)
  | fuel + 1, text =>
    let (first, rest) := readFactor allowed text
    match rest with
    | [] => (first.bind fun n => if n < limit / 2 then .ok n else .error .tooLarge, 0)
    | _ :: behind =>
      let (second, count) := readProduct allowed fuel behind
      let count := if text.take 2 = ['0', 'x'] then count + 1 else count
      match first, second with
      | .error .malformed, _ => (.error .malformed, 0)
      | _, .error .malformed => (.error .malformed, count)
      | .ok 0, _ => (.ok 0, count)
      | _, .ok 0 => (.ok 0, count)
      | .ok a, .ok b => if a * b < limit / 2 then (.ok (a * b), count) else (.error .tooLarge, count)
      | _, _ => (.error .tooLarge, count)

/-- The whole number that a text writes, which may be below zero. -/
def readWhole (text : List Char) : Except Defect Int :=
  let r := Numeral.read (some 10) text
  if !r.found || !r.rest.isEmpty then .error .malformed
  else if Numeral.fits r.value then .ok r.value
  else .error .tooLarge

end Size

end ElmAssay.Machine
