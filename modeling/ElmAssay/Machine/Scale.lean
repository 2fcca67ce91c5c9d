import ElmAssay.Machine.Quantity

/-!
# Numbers with letters for powers

A number may be written with a letter for a power of a thousand, or of 1024 (`Scale`). It is read from such a text
(`Scale.read`) and laid out as one (`Scale.show`). Numbers are quotients that are rounded to 64 binary places after each
operation (`Real`).
-/

namespace ElmAssay.Machine

open Text

/-- A number as a quotient. -/
structure Real where
  num : Int
  den : Nat
  deriving DecidableEq, Repr

namespace Real

/-- A whole number. -/
def ofInt (n : Int) : Real := ⟨n, 1⟩

/-- A quotient rounded to 64 binary places. -/
def near (num : Int) (den : Nat) : Real :=
  let (n, d) := Quantity.rounded 64 num.natAbs den
  ⟨if num < 0 then -n else n, d⟩

/-- The sum of two numbers. -/
def add (a b : Real) : Real := near (a.num * b.den + b.num * a.den) (a.den * b.den)

/-- A number so many times. -/
def times (a : Real) (n : Nat) : Real := near (a.num * n) a.den

/-- A part of a number. -/
def dividedBy (a : Real) (n : Nat) : Real := near a.num (a.den * n)

/-- Whether a number is at least so far from zero. -/
def isAtLeast (a : Real) (n : Nat) : Bool := n * a.den ≤ a.num.natAbs

/-- The number for output. -/
def quantity (a : Real) : Quantity := .finite (a.num < 0) a.num.natAbs a.den

end Real

/-- How a number becomes a whole one. -/
inductive Rounding
  | up
  | down
  | fromZero
  | towardsZero
  | nearest
  deriving DecidableEq, Repr

/-- The whole number that a number becomes. -/
def Rounding.apply (r : Rounding) (a : Real) : Real :=
  let floor := a.num.fdiv a.den
  let ceiling := -((-a.num).fdiv a.den)
  let isNegative := a.num < 0
  .ofInt <|
    match r with
    | .up => ceiling
    | .down => floor
    | .fromZero => if isNegative then floor else ceiling
    | .towardsZero => if isNegative then ceiling else floor
    | .nearest =>
      let half := a.add ⟨if isNegative then -1 else 1, 2⟩
      half.num.tdiv half.den

/-- What letters behind a number stand for. -/
inductive Scale
  | nothing
  /-- Powers of a thousand, or of 1024 if another letter follows. -/
  | either
  | thousands
  | binary
  /-- Powers of 1024, where another letter has to follow. -/
  | marked
  deriving DecidableEq, Repr

namespace Scale

/-- The number whose powers letters stand for. -/
def base : Scale → Nat
  | .binary => 1024
  | .marked => 1024
  | _ => 1000

/-- The letters in the order of their powers. -/
def letters : List Char := ['K', 'M', 'G', 'T', 'P', 'E', 'Z', 'Y']

/-- The letter of a power. -/
def letter (power : Nat) : Octets :=
  if power = 0 then "" else (letters[power - 1]?).elim "(error)" (·.toString)

/-- The count of digits that are kept without a loss. -/
def exactDigits : Nat := 18

/-- The greatest count of digits. -/
def mostDigits : Nat := 27

/-- Why a text is no number. -/
inductive Defect
  | tooLarge
  | malformed
  | unwanted
  | unknownLetter
  | noMark
  | remainder (rest : Octets)
  deriving DecidableEq, Repr

/-- A number that was read: its value, the count of digits behind its point, and whether digits were lost. -/
structure Found where
  value : Real
  places : Nat
  hasLoss : Bool

/-- Digits at the front of a text with what follows them, as a number; whether some of them are lost. -/
def readDigits (s : List Char) : Except Defect (Nat × Nat × Bool × List Char) :=
  let (ds, rest) := Number.spanDigits s
  let count := (ds.dropWhile (· == '0')).length
  if mostDigits < count then .error .tooLarge
  else if ds.isEmpty && rest.head? != some '.' then .error .malformed
  else .ok (Number.digitsValue ds, ds.length, exactDigits < count, rest)

/-- A number without a letter at the front of a text. -/
def readPlain (s : List Char) : Except Defect (Found × List Char) := do
  let isNegative := s.head? == some '-'
  let (whole, _, wholeLoss, rest) ← readDigits (if isNegative then s.drop 1 else s)
  let sign : Int := if isNegative then -1 else 1
  let value := Real.near (sign * whole) 1
  match rest with
  | '.' :: t =>
    let (fraction, places, loss, rest) ← readDigits t
    let part := (Real.near (sign * fraction) 1).dividedBy (10 ^ places)
    return (⟨value.add part, places, wholeLoss || loss⟩, rest)
  | t => return (⟨value, 0, wholeLoss⟩, t)

/-- The number that a text writes. -/
def read (k : Scale) (text : Octets) : Except Defect Found := do
  let (found, rest) ← readPlain text.toList
  let (power, base, places, rest) ←
    match rest.dropWhile (fun c => c == ' ' || c == '\t') with
    | [] => if rest.isEmpty then .ok (0, k.base, found.places, []) else .error .unknownLetter
    | c :: behind =>
      let i := letters.idxOf c
      if letters.length ≤ i then .error .unknownLetter
      else if k = .nothing then .error .unwanted
      else
        match k, behind with
        | .either, 'i' :: behind => .ok (i + 1, 1024, 0, behind)
        | _, behind => .ok (i + 1, k.base, 0, behind)
  let rest ←
    match k, rest with
    | .marked, 'i' :: rest => .ok rest
    | .marked, _ => .error .noMark
    | _, rest => .ok rest
  if rest.isEmpty then return ⟨found.value.times (base ^ power), places, found.hasLoss⟩
  else .error (.remainder (String.ofList rest))

/-- How often a number can be divided by a base before it is below it, and what is left. The fuel bounds the divisions. -/
def normalized (base : Nat) : Nat → Real → Nat → Real × Nat
  | 0, a, power => (a, power)
  | fuel + 1, a, power => if a.isAtLeast base then normalized base fuel (a.dividedBy base) (power + 1) else (a, power)

/-- A number and its power as they are shown: rounded, the power, and the count of places. -/
def laidOut (k : Scale) (r : Rounding) (places : Option Nat) (a : Real) : Real × Nat × Nat :=
  let (a, power) := normalized k.base 200 a 0
  let shift := places.elim (if a.isAtLeast 10 then 0 else 1) (min (power * 3))
  let a := (r.apply (a.times (10 ^ shift))).dividedBy (10 ^ shift)
  let (a, power) := if a.isAtLeast k.base then (a.dividedBy k.base, power + 1) else (a, power)
  let hasPoint := a.num != 0 && !a.isAtLeast 10 && 0 < power
  (a, power, places.getD (if hasPoint then 1 else 0))

/-- The text of a number, of which so many places are shown if letters are used and that was asked for, and so many
otherwise. It is filled with zeros up to a width. -/
def shown (k : Scale) (r : Rounding) (wanted : Option Nat) (places width : Nat) (a : Real) : Octets :=
  let lay (a : Real) (places : Nat) : Octets :=
    let digits := String.ofList (Quantity.fixed false places a.num.natAbs a.den)
    let sign := if a.num < 0 then "-" else ""
    sign ++ Numeral.padLeft '0' (width - sign.length) digits
  if k = .nothing then lay ((r.apply (a.times (10 ^ places))).dividedBy (10 ^ places)) places
  else
    let (a, power, places) := k.laidOut r wanted a
    lay a places ++ letter power ++ if k = .marked && 0 < power then "i" else ""

end Scale
end ElmAssay.Machine
