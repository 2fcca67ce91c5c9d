import ElmAssay.Machine.Quantity

/-!
# Directives of formats

A format holds directives that each lay out one value (`Directive`): flags, a width, a precision and a letter for the
kind of value. A width or a precision may be left to a value of its own (`Extent.given`).
-/

namespace ElmAssay.Machine

open Text

/-- A width or a precision as a format writes it. -/
inductive Extent
  | absent
  | fixed (n : Nat)
  /-- The next value says it. -/
  | given
  deriving DecidableEq, Repr

/-- A directive of a format. -/
structure Directive where
  left : Bool
  plus : Bool
  space : Bool
  alternate : Bool
  zero : Bool
  width : Extent
  precision : Extent
  deriving DecidableEq, Repr

namespace Directive

/-- The directive without anything but its letter. -/
def plain : Directive := ⟨false, false, false, false, false, .absent, .absent⟩

/-- A character that is a flag. -/
def isFlag (c : Char) : Bool := ['-', '+', ' ', '#', '0'].contains c

/-- A width or a precision at the front of a text, with what follows it. -/
def readExtent : List Char → Extent × List Char
  | '*' :: s => (.given, s)
  | s =>
    let (ds, rest) := Number.spanDigits s
    if ds.isEmpty then (.absent, s) else (.fixed (Number.digitsValue ds), rest)

/-- The directive after a percent sign, up to its letter. -/
def read (s : List Char) : Directive × List Char :=
  let flags := s.takeWhile isFlag
  let (width, rest) := readExtent (s.drop flags.length)
  let (precision, rest) :=
    match rest with
    | '.' :: t =>
      match readExtent t with
      | (.absent, t) => (.fixed 0, t)
      | r => r
    | t => (.absent, t)
  (⟨flags.contains '-', flags.contains '+', flags.contains ' ', flags.contains '#', flags.contains '0', width,
      precision⟩, rest)

/-- The directive with the width that was given for it; one below zero stands for the flag too. -/
def withWidth (d : Directive) (n : Int) : Directive :=
  { d with width := .fixed n.natAbs, left := d.left || n < 0 }

/-- The directive with the precision that was given for it; one below zero is none. -/
def withPrecision (d : Directive) (n : Int) : Directive :=
  { d with precision := if n < 0 then .absent else .fixed n.toNat }

/-- The width of a directive. -/
def columns (d : Directive) : Nat :=
  match d.width with
  | .fixed n => n
  | _ => 0

/-- The precision of a directive, if it has one. -/
def places? (d : Directive) : Option Nat :=
  match d.precision with
  | .fixed n => some n
  | _ => none

/-- A text filled up to the width. -/
def fill (d : Directive) (s : Octets) : Octets :=
  if d.left then Numeral.padRight ' ' d.columns s else Numeral.padLeft ' ' d.columns s

/-- Digits after a sign, filled up to the width, with zeros between them if the directive asks for them. -/
def fillNumber (d : Directive) (zeros : Bool) (sign : Octets) (digits : Octets) : Octets :=
  if zeros && d.zero && !d.left then sign ++ Numeral.padLeft '0' (d.columns - sign.length) digits
  else d.fill (sign ++ digits)

/-- The sign of a number. -/
def signOf (d : Directive) (negative : Bool) : Octets :=
  if negative then "-" else if d.plus then "+" else if d.space then " " else ""

/-- Lays out a text, cut to the precision. -/
def text (d : Directive) (s : Octets) : Octets :=
  d.fill (d.places?.elim s fun n => String.ofList (s.toList.take n))

/-- Lays out a whole number in the base of a letter. -/
def integer (d : Directive) (letter : Char) (n : Int) : Octets :=
  let signed := letter == 'd' || letter == 'i'
  let m : Nat := if signed then n.natAbs else (n % (2 ^ 64)).toNat
  let base := if letter = 'o' then 8 else if letter = 'x' ∨ letter = 'X' then 16 else 10
  let digits := if d.places? = some 0 ∧ m = 0 then [] else Numeral.digitsIn base m
  let digits := List.replicate ((d.places?.getD 0) - digits.length) '0' ++ digits
  let digits := if letter = 'o' ∧ d.alternate ∧ digits.head? ≠ some '0' then '0' :: digits else digits
  let digits := if letter = 'X' then digits.map Char.toUpper else digits
  let sign :=
    if signed then d.signOf (n < 0)
    else if d.alternate ∧ m ≠ 0 ∧ base = 16 then "0" ++ letter.toString
    else ""
  d.fillNumber d.places?.isNone sign (String.ofList digits)

/-- Lays out a number with a fraction, which is held in some way, in the form of a letter. -/
def real (d : Directive) (h : Quantity.Holding) (letter : Char) (q : Quantity) : Octets :=
  let lower := letter.toLower
  let cased (s : List Char) : Octets := String.ofList (if letter.isUpper then s.map Char.toUpper else s)
  match q with
  | .infinite negative => d.fillNumber false (d.signOf negative) (cased "inf".toList)
  | .notANumber negative => d.fillNumber false (d.signOf negative) (cased "nan".toList)
  | .finite negative num den =>
    let places := d.places?.getD 6
    if lower = 'a' then
      d.fillNumber true (d.signOf negative ++ cased "0x".toList) (cased (Quantity.hexadecimal d.alternate h d.places? num den))
    else
      let digits :=
        if lower = 'e' then Quantity.scientific d.alternate places num den
        else if lower = 'g' then Quantity.general d.alternate places num den
        else Quantity.fixed d.alternate places num den
      d.fillNumber true (d.signOf negative) (cased digits)

end Directive
end ElmAssay.Machine
