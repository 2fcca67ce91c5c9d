import ElmAssay.Number.Binary64

/-!
# The text of numbers

A floating point number is written with its shortest digits: by place value while its first digit stands between the
limits of a layout, else with an exponent (`Layout.render`). `standard` is the layout of every number this program
writes. Whole numbers are written in full (`wholeText`).
-/

/-!
## Shortest decimal digits

The decimal form of a floating point number has the fewest digits that read back as that number, and of the
decimals with so few digits it is the nearest one (`digits`). The decimals that read back are those in an interval
around the number, whose ends belong to it if its last bit is even (`Interval`). On the grid of decimals with a given
count of digits it is enough to look at the two neighbours of the number.
-/

namespace ElmAssay.Binary64

/-- Decimals as multiples of a common unit `2 ^ scale / den`: the number and the ends of what rounds to it. -/
structure Interval where
  low : Nat
  value : Nat
  high : Nat
  den : Nat
  closed : Bool
  deriving DecidableEq, Repr

/-- What rounds to `m * 2 ^ q`, in quarters of the last place. Below a power of two the places are half as wide. -/
def interval (m : Nat) (q : Int) : Interval :=
  let low := if m = 2 ^ 52 ∧ minExponent < q then 4 * m - 1 else 4 * m - 2
  let up := 2 ^ (q - 2).toNat
  ⟨low * up, 4 * m * up, (4 * m + 2) * up, 2 ^ (2 - q).toNat, m % 2 = 0⟩

/-- Whether the decimal `d * 10 ^ k` lies in the interval. -/
def Interval.holds (i : Interval) (d : Nat) (k : Int) : Bool :=
  let left := d * 10 ^ k.toNat * i.den
  let unit := 10 ^ (-k).toNat
  if i.closed then i.low * unit ≤ left && left ≤ i.high * unit else i.low * unit < left && left < i.high * unit

/-- The distance of the decimal `d * 10 ^ k` from the number, in units that depend on `k` alone. -/
def Interval.distance (i : Interval) (d : Nat) (k : Int) : Nat :=
  let left := d * 10 ^ k.toNat * i.den
  let middle := i.value * 10 ^ (-k).toNat
  (left - middle) + (middle - left)

/-- The greatest multiple of `10 ^ k` that is not above the number, as a count of `10 ^ k`. -/
def Interval.floorAt (i : Interval) (k : Int) : Nat :=
  i.value * 10 ^ (-k).toNat / (i.den * 10 ^ k.toNat)

/-- The nearer of the two neighbours on the grid of multiples of `10 ^ k` that lie in the interval; of two equally
near ones the even one. -/
def Interval.onGrid? (i : Interval) (k : Int) : Option Nat :=
  let d := i.floorAt k
  match i.holds d k && d != 0, i.holds (d + 1) k with
  | true, true =>
    let below := i.distance d k
    let above := i.distance (d + 1) k
    some (if below < above ∨ (below = above ∧ d % 2 = 0) then d else d + 1)
  | true, false => some d
  | false, true => some (d + 1)
  | false, false => none

/-- The exponent of the first decimal digit of the number, sought upwards from `k`. -/
def Interval.leading (i : Interval) : Nat → Int → Int
  | 0, k => k
  | fuel + 1, k => if i.floorAt (k + 1) = 0 then k else i.leading fuel (k + 1)

/-- The first grid with a decimal in the interval, from coarse to fine; the exact value ends the search. -/
def Interval.search (i : Interval) : Nat → Int → Nat × Int
  | 0, k => (i.floorAt k, k)
  | fuel + 1, k =>
    match i.onGrid? k with
    | some d => (d, k)
    | none => i.search fuel (k - 1)

/-- A decimal without its trailing zeros. -/
def dropZeros : Nat → Nat → Int → Nat × Int
  | 0, d, k => (d, k)
  | fuel + 1, d, k => if d % 10 = 0 ∧ d ≠ 0 then dropZeros fuel (d / 10) (k + 1) else (d, k)

/-- The shortest decimal `d * 10 ^ k` for the positive number `m * 2 ^ q`. -/
def digits (m : Nat) (q : Int) : Nat × Int :=
  let i := interval m q
  let (d, k) := i.search 17 (i.leading 640 (-324))
  dropZeros 20 d k

end ElmAssay.Binary64

/-! ## Layouts -/

namespace ElmAssay.Number

/-- How a decimal is laid out: the least and greatest exponent of the first digit that is written by place value,
the mark before an exponent, the least count of its digits, and the texts of the numbers without digits. -/
structure Layout where
  least : Int
  greatest : Int
  mark : String
  exponentDigits : Nat
  infinity : String
  notANumber : String

/-- Place value from `10 ^ (-4)` to below `10 ^ 16`; else an exponent with a sign and at least two digits. -/
def standard : Layout := ⟨-4, 15, "e", 2, "inf", "nan"⟩

/-- The decimal digits of a natural number. -/
def natDigits (n : Nat) : List Char := Nat.toDigits 10 n

/-- The digits of a number with zeros in front up to a least count. -/
def padded (width n : Nat) : List Char :=
  let ds := natDigits n
  List.replicate (width - ds.length) '0' ++ ds

/-- The text of a whole number. -/
def wholeText (n : Int) : List Char :=
  if n < 0 then '-' :: natDigits n.natAbs else natDigits n.natAbs

/-- The decimal `0.d₁d₂… * 10 ^ point` by place value, with a digit on either side of the point. -/
def byPlace (ds : List Char) (point : Int) : List Char :=
  if point ≤ 0 then '0' :: '.' :: List.replicate (-point).toNat '0' ++ ds
  else if point < ds.length then ds.take point.toNat ++ '.' :: ds.drop point.toNat
  else ds ++ List.replicate (point.toNat - ds.length) '0' ++ ['.', '0']

/-- A decimal with an exponent, one digit before the point. -/
def Layout.byExponent (l : Layout) (ds : List Char) (exponent : Int) : List Char :=
  let fraction := if ds.length ≤ 1 then [] else '.' :: ds.drop 1
  ds.take 1 ++ fraction ++ l.mark.toList ++ (if exponent < 0 then '-' else '+') ::
    padded l.exponentDigits exponent.natAbs

/-- The text of a floating point number. -/
def Layout.render (l : Layout) : Binary64 → List Char
  | .notANumber => l.notANumber.toList
  | .infinite negative => (if negative then ['-'] else []) ++ l.infinity.toList
  | .finite negative m q =>
    let sign := if negative then ['-'] else []
    if m = 0 then sign ++ ['0', '.', '0']
    else
      let (d, k) := Binary64.digits m q
      let ds := natDigits d
      let exponent : Int := k + ds.length - 1
      if l.least ≤ exponent ∧ exponent ≤ l.greatest then sign ++ byPlace ds (exponent + 1)
      else sign ++ l.byExponent ds exponent

/-- The text of a floating point number in the standard layout. -/
def realText (x : Binary64) : List Char := standard.render x

end ElmAssay.Number
