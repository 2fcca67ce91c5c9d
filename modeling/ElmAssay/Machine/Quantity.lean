import ElmAssay.Machine.Numeral

/-!
# Quantities

Numbers with a fraction as programs print them: a quotient that was rounded to so many binary places
(`Quantity.ofDecimal`), read from the front of a text (`Quantity.read`), and laid out with a fixed count of places
(`fixed`), with an exponent (`scientific`), or in the shorter of the two forms (`general`). Ties go to the even digit.
-/

namespace ElmAssay.Machine

open Text

/-- A number with a fraction. -/
inductive Quantity
  | finite (negative : Bool) (num den : Nat)
  | infinite (negative : Bool)
  | notANumber (negative : Bool)
  deriving DecidableEq, Repr

namespace Quantity

/-- A positive quotient rounded to a number of binary places. -/
def rounded (bits num den : Nat) : Nat × Nat :=
  if num = 0 ∨ den = 0 then (0, 1)
  else
    let guess : Int := (num.log2 : Int) - den.log2 - bits
    let exponent := if Binary64.scaledDiv num den guess < 2 ^ bits then guess else guess + 1
    let m := Binary64.scaledDiv num den exponent
    if 0 ≤ exponent then (m * 2 ^ exponent.toNat, 1) else (m, 2 ^ (-exponent).toNat)

/-- The quantity nearest to a quotient. -/
def ofRatio (bits : Nat) (negative : Bool) (num den : Nat) : Quantity :=
  let (num, den) := rounded bits num den
  .finite negative num den

/-- The quantity nearest to `digits * 10 ^ exponent`. Exponents far outside are infinity and zero. -/
def ofDecimal (bits : Nat) (negative : Bool) (digits : Nat) (exponent : Int) : Quantity :=
  if digits = 0 then .finite negative 0 1
  else if 5000 < exponent then .infinite negative
  else if exponent < -6000 then .finite negative 0 1
  else if 0 ≤ exponent then ofRatio bits negative (digits * 10 ^ exponent.toNat) 1
  else ofRatio bits negative digits (10 ^ (-exponent).toNat)

/-- A quantity where all from a power of two on are infinity. -/
def limited (exponent : Nat) : Quantity → Quantity
  | finite negative num den => if den * 2 ^ exponent ≤ num then infinite negative else finite negative num den
  | q => q

/-- The quantity of a whole number. -/
def ofInt (n : Int) : Quantity := .finite (n < 0) n.natAbs 1

/-- An exponent at the front of a text after a mark, with what follows it. -/
def readExponent (marks : List Char) (s : List Char) : Int × List Char :=
  match s with
  | c :: r =>
    if marks.contains c then
      let (negative, body) := Number.takeSign r
      let (ds, rest) := Number.spanDigits body
      if ds.isEmpty then (0, s)
      else (if negative then -(Number.digitsValue ds : Int) else Number.digitsValue ds, rest)
    else (0, s)
  | [] => (0, [])

/-- A number without a sign at the front of a text. -/
def readUnsigned (bits : Nat) (negative : Bool) (s : List Char) : Option (Quantity × List Char) :=
  let lower := s.map Char.toLower
  if "infinity".toList.isPrefixOf lower then some (.infinite negative, s.drop 8)
  else if "inf".toList.isPrefixOf lower then some (.infinite negative, s.drop 3)
  else if "nan".toList.isPrefixOf lower then some (.notANumber negative, s.drop 3)
  else
    match s with
    | '0' :: x :: r =>
      let (whole, rest) := r.span (Numeral.isDigitIn 16)
      if (x = 'x' ∨ x = 'X') ∧ !whole.isEmpty then
        let (fraction, rest) :=
          match rest with
          | '.' :: t => t.span (Numeral.isDigitIn 16)
          | t => ([], t)
        let (exponent, rest) := readExponent ['p', 'P'] rest
        let exponent := exponent - 4 * fraction.length
        let m := Numeral.valueIn 16 (whole ++ fraction)
        if 0 ≤ exponent then some (ofRatio bits negative (m * 2 ^ (min exponent.toNat 20000)) 1, rest)
        else some (ofRatio bits negative m (2 ^ (min (-exponent).toNat 20000)), rest)
      else decimal s
    | s => decimal s
where
  /-- A decimal number without a sign at the front of a text. -/
  decimal (s : List Char) : Option (Quantity × List Char) :=
    let (whole, rest) := Number.spanDigits s
    let (fraction, after) :=
      match rest with
      | '.' :: t => Number.spanDigits t
      | t => ([], t)
    if whole.isEmpty && fraction.isEmpty then none
    else
      let (exponent, after) := readExponent ['e', 'E'] after
      some (ofDecimal bits negative (Number.digitsValue (whole ++ fraction)) (exponent - fraction.length), after)

/-- A number at the front of a text, after white space and a sign, with what follows it. -/
def read (bits : Nat) (s : List Char) : Option (Quantity × List Char) :=
  let (negative, body) := Number.takeSign (s.dropWhile Numeral.isSpace)
  readUnsigned bits negative body

/-! ## Layouts of what is finite and not below zero -/

/-- A number with so many digits after the point. -/
def fixed (alternate : Bool) (places num den : Nat) : List Char :=
  let ds := Number.padded (places + 1) (Binary64.roundDiv (num * 10 ^ places) den)
  let whole := ds.take (ds.length - places)
  if places = 0 then (if alternate then whole ++ ['.'] else whole) else whole ++ '.' :: ds.drop (ds.length - places)

/-- The greatest power of ten that is not above a positive number. -/
def leadingExponent (num den : Nat) : Int :=
  let digits (n : Nat) : Int := (Number.natDigits n).length
  if den ≤ num then digits (num / den) - 1
  else
    let guess := digits den - digits num
    if den ≤ num * 10 ^ guess.toNat then (if den ≤ num * 10 ^ (guess - 1).toNat then 1 - guess else -guess) else -guess - 1

/-- A positive number as so many digits and the exponent of the first of them. -/
def significant (count num den : Nat) : Nat × Int :=
  if num = 0 then (0, 0)
  else
    let exponent := leadingExponent num den
    let shift := exponent - (count - 1 : Nat)
    let d := if 0 ≤ shift then Binary64.roundDiv num (den * 10 ^ shift.toNat)
      else Binary64.roundDiv (num * 10 ^ (-shift).toNat) den
    if d = 10 ^ count then (10 ^ (count - 1), exponent + 1) else (d, exponent)

/-- Digits with a point after the first, and an exponent of at least two digits. -/
def withExponent (alternate : Bool) (ds : List Char) (exponent : Int) : List Char :=
  let fraction := ds.drop 1
  ds.take 1 ++ (if fraction.isEmpty then (if alternate then ['.'] else []) else '.' :: fraction) ++ 'e' ::
    (if exponent < 0 then '-' else '+') :: Number.padded 2 exponent.natAbs

/-- A number with one digit before the point, so many after it, and an exponent. -/
def scientific (alternate : Bool) (places num den : Nat) : List Char :=
  let (d, exponent) := significant (places + 1) num den
  withExponent alternate (Number.padded (places + 1) d) exponent

/-- A number with at most so many digits, by place value unless its exponent is far from zero. -/
def general (alternate : Bool) (precision num den : Nat) : List Char :=
  let count := max precision 1
  let (d, exponent) := significant count num den
  let bare (s : List Char) : List Char :=
    if alternate || !s.contains '.' then s else dropTrailing (· == '.') (dropTrailing (· == '0') s)
  if -4 ≤ exponent ∧ exponent < count then bare (fixed alternate ((count - 1 : Nat) - exponent).toNat num den)
  else
    let ds := Number.padded count d
    withExponent alternate (if alternate then ds else ds.take 1 ++ dropTrailing (· == '0') (ds.drop 1)) exponent

/-- The exponent of the greatest power of two that is not above a positive quotient. -/
def binaryExponent (num den : Nat) : Int :=
  let guess : Int := (num.log2 : Int) - den.log2
  let isAbove := if 0 ≤ guess then den * 2 ^ guess.toNat ≤ num else den ≤ num * 2 ^ (-guess).toNat
  if isAbove then guess else guess - 1

/-- How a number is held: the bits in front of its point, the digits to the base 16 behind it, and the least exponent. -/
structure Holding where
  front : Nat
  places : Nat
  least : Int

/-- The usual holding of a number in eight bytes. -/
def Holding.eightBytes : Holding := ⟨1, 13, -1022⟩

/-- The holding of a number in ten bytes. -/
def Holding.tenBytes : Holding := ⟨4, 15, -16385⟩

/-- A number to the base 16 with an exponent of two, with all the digits that it needs if their count is not given. -/
def hexadecimal (alternate : Bool) (h : Holding) (places : Option Nat) (num den : Nat) : List Char :=
  let exponent := if num = 0 then 0 else max h.least (binaryExponent num den - (h.front - 1 : Nat))
  let count := places.getD h.places
  let scale := 4 * count - exponent
  let d := if 0 ≤ scale then Binary64.roundDiv (num * 2 ^ scale.toNat) den
    else Binary64.roundDiv num (den * 2 ^ (-scale).toNat)
  let lead := d / 16 ^ count
  let (lead, exponent) := if lead = 16 then (1, exponent + 4) else (lead, exponent)
  let tail := Numeral.digitsIn 16 (d % 16 ^ count)
  let tail := List.replicate (count - tail.length) '0' ++ tail
  let tail := if places.isNone then dropTrailing (· == '0') tail else if count = 0 then [] else tail
  Numeral.digitsIn 16 lead ++ (if tail.isEmpty then (if alternate then ['.'] else []) else '.' :: tail) ++ 'p' ::
    (if exponent < 0 then '-' else '+') :: Number.natDigits exponent.natAbs

end Quantity
end ElmAssay.Machine
