import ElmAssay.Machine.Directive
import ElmAssay.Machine.Rules
import ElmAssay.Number.Reading

/-!
# The values of rules

Variables hold numbers and texts (`Value`). A text that came in from outside counts as a number where it looks like one
(`Value.entry`), and each value is a number, a text and a truth at the same time (`Value.real`, `Value.textBy`,
`Value.isTrue`). Two values are compared as numbers unless one of them can only be a text (`Value.order`).
-/

namespace ElmAssay.Machine.Rules

open Text

/-! ## Numbers -/

/-- A number of the 64-bit binary format for calculation. -/
def ofBinary : Binary64 → Float
  | .notANumber => 0.0 / 0.0
  | .infinite negative => if negative then -1.0 / 0.0 else 1.0 / 0.0
  | .finite negative m q =>
    let x := (Float.ofNat m).scaleB q
    if negative then -x else x

/-- A number for output. A calculation without a result has a sign. -/
def quantityOf (x : Float) : Quantity :=
  let bits := x.toBits.toNat
  let isNegative := bits / 2 ^ 63 == 1
  let exponent := bits / 2 ^ 52 % 2 ^ 11
  let m := bits % 2 ^ 52
  if exponent = 2047 then (if m = 0 then .infinite isNegative else .notANumber true)
  else
    let m := if exponent = 0 then m else m + 2 ^ 52
    let q : Int := (max exponent 1 : Nat) - 1075
    if 0 ≤ q then .finite isNegative (m * 2 ^ q.toNat) 1 else .finite isNegative m (2 ^ (-q).toNat)

/-- A number without its fraction, if it is finite. -/
def whole? (x : Float) : Option Int :=
  match quantityOf x with
  | .finite isNegative num den => some (if isNegative then -((num / den : Nat) : Int) else (num / den : Nat))
  | _ => none

/-- A number without its fraction and within limits. -/
def wholeWithin (least greatest : Int) (x : Float) : Int :=
  match quantityOf x with
  | .finite isNegative num den =>
    max least (min greatest (if isNegative then -((num / den : Nat) : Int) else (num / den : Nat)))
  | .infinite isNegative => if isNegative then least else greatest
  | .notANumber _ => least

/-- Whether a number has no fraction. -/
def isWhole (x : Float) : Bool :=
  match quantityOf x with
  | .finite _ num den => num % den == 0
  | _ => false

/-- The remainder of a division that goes towards zero. -/
def remainder (a b : Float) : Float :=
  match quantityOf a, quantityOf b with
  | .finite isNegative num den, .finite _ num' den' =>
    if num' = 0 then 0.0 / 0.0
    else
      let rest := (num * den') % (num' * den)
      ofBinary (.ofRatio isNegative rest (den * den'))
  | .finite .., .infinite _ => a
  | _, _ => 0.0 / 0.0

/-- A number that digits write. -/
def decimal (isNegative : Bool) (whole fraction : List Char) (exponent : Int) : Float :=
  if fraction.isEmpty && exponent = 0 && whole.length ≤ 15 then
    let x := Float.ofNat (Number.digitsValue whole)
    if isNegative then -x else x
  else ofBinary (Number.realOf isNegative whole fraction exponent)

/-- A decimal number at the front of a text with what follows it, if there is one. -/
def readDecimal? (isNegative : Bool) (s : List Char) : Option (Float × List Char) :=
  let (whole, rest) := Number.spanDigits s
  let (fraction, rest) :=
    match rest with
    | '.' :: t => Number.spanDigits t
    | t => ([], t)
  if whole.isEmpty && fraction.isEmpty then none
  else
    let (exponent, rest) := Quantity.readExponent ['e', 'E'] rest
    some (decimal isNegative whole fraction exponent, rest)

/-- A number at the front of a text with what follows it, which may be written in a word or with hexadecimal digits. -/
def readReal? (s : List Char) : Option (Float × List Char) :=
  let (isNegative, body) := Number.takeSign s
  if body.head?.any fun c => isAsciiDigit c || c == '.' then
    match body with
    | '0' :: 'x' :: _ => special isNegative body
    | '0' :: 'X' :: _ => special isNegative body
    | body => readDecimal? isNegative body
  else if body.head?.any fun c => ['i', 'I', 'n', 'N'].contains c then special isNegative body
  else none
where
  /-- A number that is not decimal. -/
  special (isNegative : Bool) (s : List Char) : Option (Float × List Char) :=
    (Quantity.readUnsigned 53 isNegative s).map fun (q, rest) =>
      match q with
      | .finite isNegative num den => (ofBinary (.ofRatio isNegative num den), rest)
      | .infinite isNegative => (ofBinary (.infinite isNegative), rest)
      | .notANumber isNegative => (if isNegative then -(0.0 / 0.0) else 0.0 / 0.0, rest)

/-- The number that the front of a text writes, or zero. -/
def realOf (s : Octets) : Float :=
  ((readReal? (s.toList.dropWhile Numeral.isSpace)).map Prod.fst).getD 0

/-- The number that a text writes as a whole, apart from blanks around it. It has to end in a digit or a point. -/
def realOnly? (s : Octets) : Option Float :=
  let cs := dropTrailing Numeral.isSpace (s.toList.dropWhile Numeral.isSpace)
  if cs.getLast?.any (fun c => isAsciiDigit c || c == '.') &&
      cs.head?.any (fun c => isAsciiDigit c || c == '.' || c == '+' || c == '-') then
    match readReal? cs with
    | some (x, []) => some x
    | _ => none
  else none

/-- A number laid out by a format with a single directive. -/
def laidOut (format : Octets) (x : Float) : Octets :=
  let cs := format.toList
  let front := cs.takeWhile (· != '%')
  match Directive.read (cs.drop (front.length + 1)) with
  | (d, letter :: rest) => String.ofList front ++ d.real .eightBytes letter (quantityOf x) ++ String.ofList rest
  | (_, []) => format

/-- A number as a text: its digits if it has no fraction and is not too large, and what a format makes of it
otherwise. -/
def textOf (format : Octets) (x : Float) : Octets :=
  match quantityOf x with
  | .finite isNegative num den =>
    if num % den = 0 && num / den ≤ 2 ^ 64 && (!isNegative || num / den ≤ 2 ^ 63) then
      let n := min (num / den) (2 ^ 64 - 1)
      if isNegative && n != 0 then Numeral.signedText (-(n : Int)) else Numeral.text n
    else laidOut format x
  | _ => laidOut format x

/-! ## Values -/

/-- A value. -/
inductive Value
  | unset
  | number (x : Float)
  | text (s : Octets)
  /-- A text from outside. -/
  | entry (s : Octets)
  deriving Inhabited, Repr

namespace Value

/-- A value as a number. -/
def real : Value → Float
  | unset => 0
  | number x => x
  | text s => realOf s
  | entry s => realOf s

/-- A value as a text, where a format lays out numbers. -/
def textBy (format : Octets) : Value → Octets
  | unset => ""
  | number x => textOf format x
  | text s => s
  | entry s => s

/-- Whether a value counts as true. -/
def isTrue : Value → Bool
  | unset => false
  | number x => x != 0
  | text s => !s.isEmpty
  | entry s =>
    match realOnly? s with
    | some x => x != 0
    | none => !s.isEmpty

/-- The truth of a condition. -/
def ofBool (b : Bool) : Value := .number (if b then 1 else 0)

/-- A value as the number that it may be compared as. Only a text has none. -/
def comparable? : Value → Option Float
  | unset => some 0
  | number x => some x
  | text _ => none
  | entry s => realOnly? s

/-- The order of two numbers, where one that is none is like all others. -/
def orderOf (a b : Float) : Ordering := if a < b then .lt else if b < a then .gt else .eq

/-- The order of two values. -/
def order (format : Octets) (a b : Value) : Ordering :=
  match a.comparable?, b.comparable? with
  | some x, some y => orderOf x y
  | _, _ => compare (a.textBy format) (b.textBy format)

end Value
end ElmAssay.Machine.Rules

/-!
## Values laid out by formats

A format is laid out with values for its directives (`Layout.lay`). It is an error if there are too few of them, or if a
directive has a letter that means nothing.
-/

namespace ElmAssay.Machine.Rules.Layout

/-- Why a format cannot be laid out. -/
inductive Defect
  | tooFew
  /-- The directive with this number means nothing. -/
  | improper (n : Nat)
  deriving DecidableEq, Repr

/-- The wording of a defect of a format in a call of a function. -/
def Defect.message (function format : Octets) : Defect → Octets
  | tooFew => s!"not enough arguments passed to {function}(\"{format}\")"
  | improper n => s!"improper conversion(number {n}) in {function}(\"{format}\")"

/-- The number that a directive for whole numbers shows. -/
def wholeFor (x : Float) : Int :=
  match quantityOf x with
  | .notANumber _ => -(2 ^ 63)
  | _ => wholeWithin (-(2 ^ 63 - 1)) (2 ^ 64 - 1) x

/-- A value laid out by a directive with a letter; `none` if the letter means nothing. -/
def one? (format : Octets) (d : Directive) (letter : Char) (v : Value) : Option Octets :=
  if letter = 'c' then
    let code (x : Float) : Char := Char.ofNat ((wholeWithin (-(2 ^ 31)) (2 ^ 31) x) % 256).toNat
    let first (s : Octets) : Char := s.toList.head?.getD '\x00'
    let c :=
      match v with
      | .number x => code x
      | .entry s =>
        match realOnly? s with
        | some x => code x
        | none => first s
      | v => first (v.textBy format)
    some (d.fill c.toString)
  else if letter = 's' then some (d.text (v.textBy format))
  else if ['d', 'i', 'o', 'x', 'X', 'u'].contains letter then some (d.integer letter (wholeFor v.real))
  else if ['e', 'f', 'g', 'E', 'G'].contains letter then some (d.real .eightBytes letter (quantityOf v.real))
  else none

/-- A directive with the width and the precision that values give it, and the values that are left, if there are enough. -/
def sized (d : Directive) (values : List Value) : Option (Directive × List Value) := do
  let limited (v : Value) : Int := wholeWithin (-(2 ^ 31)) (2 ^ 31 - 1) v.real
  let (d, values) ←
    match d.width, values with
    | .given, v :: values => some (d.withWidth (limited v), values)
    | .given, [] => none
    | _, values => some (d, values)
  match d.precision, values with
  | .given, v :: values => some (d.withPrecision (limited v), values)
  | .given, [] => none
  | _, values => some (d, values)

/-- A format laid out with values, behind what is done, latest first, and why it ends early if it does. `count` is the count
of directives so far. The fuel bounds the characters. -/
def layFrom (format : Octets) : Nat → Nat → List Octets → List Char → List Value → List Octets × Option Defect
  | 0, _, done, _, _ => (done, none)
  | _, _, done, [], _ => (done, none)
  | fuel + 1, count, done, '%' :: '%' :: rest, values => layFrom format fuel count ("%" :: done) rest values
  | fuel + 1, count, done, '%' :: rest, values =>
    let (d, rest) := Directive.read rest
    match sized d values with
    | none => (done, some .tooFew)
    | some (d, values) =>
      let size := rest.takeWhile fun c => c == 'l' || c == 'h'
      match values, rest.drop (min 1 size.length) with
      | [], _ => (done, some .tooFew)
      | _, [] => (done, some (.improper (count + 1)))
      | v :: values, letter :: rest =>
        match one? format d letter v with
        | some s => layFrom format fuel (count + 1) (s :: done) rest values
        | none => (done, some (.improper (count + 1)))
  | fuel + 1, count, done, s, values =>
    let front := s.takeWhile (· != '%')
    layFrom format fuel count (String.ofList front :: done) (s.drop front.length) values

/-- A format laid out with values, where another one lays out numbers as texts, up to its end or to a defect. -/
def lay (numbers format : Octets) (values : List Value) : Octets × Option Defect :=
  let (done, defect) := layFrom numbers (2 * format.length + 2) 0 [] format.toList values
  (String.join done.reverse, defect)

end ElmAssay.Machine.Rules.Layout
