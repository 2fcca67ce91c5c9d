import ElmAssay.Machine.Regex

/-!
# Wildcards

The patterns that shells compare words with: a star stands for any text, a question mark for any character, brackets
for one of a class. What was quoted stands for itself. A pattern agrees with a whole text (`Wildcard.agrees`), and
with the front or the back of one in the two ways that cutting a value asks for (`cutFront`, `cutBack`).
-/

namespace ElmAssay.Machine

/-- A part of a wildcard pattern. -/
inductive Wildcard.Part
  | char (c : Char)
  | one
  | many
  | set (s : CharSet)
  deriving DecidableEq, Repr

/-- A wildcard pattern. -/
abbrev Wildcard := List Wildcard.Part

namespace Wildcard

/-- The pattern that characters make, each of which may be quoted. Any of the marks turns a class into its complement. The
fuel bounds their count. -/
def readFrom (marks : List Char) : Nat → List (Char × Bool) → Wildcard
  | 0, _ => []
  | _, [] => []
  | fuel + 1, (c, quoted) :: s =>
    if quoted then .char c :: readFrom marks fuel s
    else if c = '*' then .many :: readFrom marks fuel s
    else if c = '?' then .one :: readFrom marks fuel s
    else if c = '[' then
      match CharSet.read marks (s.map Prod.fst) with
      | some (set, rest) => .set set :: readFrom marks fuel (s.drop (s.length - rest.length))
      | none => .char c :: readFrom marks fuel s
    else .char c :: readFrom marks fuel s

/-- The pattern that characters make, each of which may be quoted. -/
def read (s : List (Char × Bool)) : Wildcard := readFrom ['!'] (s.length + 1) s

/-- The pattern of a text in which a backslash quotes the character behind it. -/
def ofText (s : List Char) : Wildcard := readFrom ['!', '^'] (s.length + 1) (marked s)
where
  /-- The characters of a text, with those behind a backslash quoted. -/
  marked : List Char → List (Char × Bool)
    | '\\' :: c :: s => (c, true) :: marked s
    | c :: s => (c, false) :: marked s
    | [] => []

/-- Whether a pattern stands for more than one text. -/
def isOpen (w : Wildcard) : Bool :=
  w.any fun p =>
    match p with
    | .char _ => false
    | _ => true

/-- The text that a pattern without open parts stands for. -/
def plainText (w : Wildcard) : List Char :=
  w.filterMap fun p =>
    match p with
    | .char c => some c
    | _ => none

/-- Whether a part other than a star agrees with a character. -/
def Part.has (c : Char) : Part → Bool
  | .char d => c == d
  | .one => true
  | .many => false
  | .set s => s.has c

/-- Whether a pattern agrees with a whole text. -/
def agrees : Wildcard → List Char → Bool
  | [], s => s.isEmpty
  | .many :: ps, [] => agrees ps []
  | .many :: ps, c :: s => agrees ps (c :: s) || agrees (.many :: ps) s
  | _ :: _, [] => false
  | p :: ps, c :: s => p.has c && agrees ps s
termination_by ps s => ps.length + s.length

/-- A text without the shortest or longest front that a pattern agrees with. -/
def cutFront (w : Wildcard) (longest : Bool) (s : List Char) : List Char :=
  let ns := List.range (s.length + 1)
  match (if longest then ns.reverse else ns).find? fun n => w.agrees (s.take n) with
  | some n => s.drop n
  | none => s

/-- A text without the shortest or longest back that a pattern agrees with. -/
def cutBack (w : Wildcard) (longest : Bool) (s : List Char) : List Char :=
  let ns := List.range (s.length + 1)
  match (if longest then ns else ns.reverse).find? fun n => w.agrees (s.drop n) with
  | some n => s.take n
  | none => s

end Wildcard
end ElmAssay.Machine
