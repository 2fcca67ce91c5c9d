import ElmAssay.Machine.Octets
import ElmAssay.Number.Reading

/-!
# The order of versions

Names with numbers in them are ordered by the values of these (`Version.order`): "v9" comes before "v10". Hidden names come
first, and endings such as ".tar" count only if all before them is the same.
-/

namespace ElmAssay.Machine.Version

open Text

/-- The rank of a character, of the end, or of a digit. -/
def rank (c : Option Char) : Int :=
  match c with
  | none => -1
  | some c => if c = '~' then -2 else if isAsciiDigit c then 0 else if c.isAlpha then c.toNat else c.toNat + 256

/-- The order of two texts, text part by text part and number by number. The fuel bounds their length. -/
def orderOfParts : Nat → List Char → List Char → Ordering
  | 0, _, _ => .eq
  | fuel + 1, a, b =>
    let isText (s : List Char) : Bool := s.head?.any (!isAsciiDigit ·)
    if isText a || isText b then (compare (rank a.head?) (rank b.head?)).then (orderOfParts fuel (a.drop 1) (b.drop 1))
    else if a.isEmpty && b.isEmpty then .eq
    else
      let (m, s) := Number.spanDigits a
      let (n, t) := Number.spanDigits b
      (compare (Number.digitsValue m) (Number.digitsValue n)).then (orderOfParts fuel s t)

/-- The text behind an ending, which is a dot, a letter, and letters and digits. -/
def skipEnding : List Char → List Char
  | '.' :: c :: s => if c.isAlpha || c == '~' then s.dropWhile (fun c => c.isAlphanum || c == '~') else '.' :: c :: s
  | s => s

/-- Whether a text is a row of endings. The fuel bounds their count. -/
def isEndings : Nat → List Char → Bool
  | _, [] => true
  | 0, _ => false
  | fuel + 1, s =>
    let rest := skipEnding s
    rest.length < s.length && isEndings fuel rest

/-- A text without the endings at its end. -/
def withoutEndings : List Char → List Char
  | [] => []
  | c :: s => if isEndings s.length s then [c] else c :: withoutEndings s

/-- A rank that puts the names of directories themselves first, and then hidden names. -/
def front (s : List Char) : Nat :=
  match s with
  | [] => 0
  | ['.'] => 1
  | ['.', '.'] => 2
  | '.' :: _ => 3
  | _ => 4

/-- The order of two names. -/
def order (a b : Octets) : Ordering :=
  let x := a.toList
  let y := b.toList
  let fuel := x.length + y.length + 2
  ((compare (front x) (front y)).then (orderOfParts fuel (withoutEndings x) (withoutEndings y))).then
    (orderOfParts fuel x y)

/-! ## Numbers of versions -/

/-- What stands before a place in the number of a version: a text, a number, the zeros at the front of one, or what
follows such zeros. -/
inductive Place
  | text
  | number
  | zeros
  | fraction
  deriving DecidableEq, Repr

/-- The place behind a character. -/
def Place.next (p : Place) (c : Char) : Place :=
  if !isAsciiDigit c then .text
  else
    match p with
    | .text => if c = '0' then .zeros else .number
    | .zeros => if c = '0' then .zeros else .fraction
    | p => p

/-- The order of two numbers of versions that differ from a place on. -/
def orderAt (p : Place) (a b : List Char) : Ordering :=
  let x := (Number.spanDigits a).1
  let y := (Number.spanDigits b).1
  let plain := compare (a.head?.elim 0 (·.toNat)) (b.head?.elim 0 (·.toNat))
  let isFraction := a.head? = some '0' || b.head? = some '0'
  match p with
  | .fraction => plain
  | .zeros =>
    if x.isEmpty = y.isEmpty then plain else compare (y.length.min 1) (x.length.min 1)
  | .number => (compare x.length y.length).then plain
  | .text => if isFraction then plain else if x.isEmpty || y.isEmpty then plain else (compare x.length y.length).then plain

/-- The order of two numbers of versions: numbers in them go by their values, and those with zeros at the front are
fractions. -/
def orderOfNumbers (p : Place) : List Char → List Char → Ordering
  | a :: s, b :: t => if a = b then orderOfNumbers (p.next a) s t else orderAt p (a :: s) (b :: t)
  | [], [] => .eq
  | s, t => orderAt p s t

end ElmAssay.Machine.Version
