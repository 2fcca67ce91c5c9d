import ElmAssay.Machine.Numeral
import ElmAssay.Machine.Octets
import ElmAssay.Text.Classes

/-!
# Columns

How many columns of a line a character takes (`Columns.ofChar`): marks that are put over others take none, and the signs of
some scripts take two.
-/

namespace ElmAssay.Machine.Columns

open Text

/-- The characters that take two columns. -/
def wide : List (Nat × Nat) :=
  [(0x1100, 0x115f), (0x231a, 0x231b), (0x2329, 0x232a), (0x23e9, 0x23ec), (0x2e80, 0x303e), (0x3041, 0x33ff),
   (0x3400, 0x4dbf), (0x4e00, 0xa4cf), (0xa960, 0xa97f), (0xac00, 0xd7a3), (0xf900, 0xfaff), (0xfe30, 0xfe6f),
   (0xff00, 0xff60), (0xffe0, 0xffe6), (0x1f300, 0x1f64f), (0x1f680, 0x1f6ff), (0x1f900, 0x1f9ff), (0x20000, 0x3fffd)]

/-- The characters that take no column. -/
def thin : List (Nat × Nat) :=
  [(0x0300, 0x036f), (0x0483, 0x0489), (0x0591, 0x05bd), (0x064b, 0x065f), (0x200b, 0x200f), (0x20d0, 0x20ff),
   (0xfe00, 0xfe0f), (0xfe20, 0xfe2f)]

/-- The columns that a character takes. -/
def ofChar (c : Char) : Nat :=
  let has (ranges : List (Nat × Nat)) : Bool := ranges.any fun r => r.1 ≤ c.toNat && c.toNat ≤ r.2
  if c.toNat < 32 || (127 ≤ c.toNat && c.toNat < 160) || Octets.strayBase ≤ c.toNat then 0
  else if c.toNat < 256 then 1
  else if has thin then 0
  else if has wide then 2
  else 1

end ElmAssay.Machine.Columns

/-!
## Tab stops

The columns at which tabs end (`TabStops`): a list of them, and behind the last one either no more or one for each so many
columns. Lines are written with spaces instead of tabs (`expandLine`), or with tabs instead of spaces (`unexpandLine`).
-/

namespace ElmAssay.Machine

/-- How tab stops go on behind those that are listed. -/
inductive TabRest
  | nothing
  /-- At the multiples of a count. -/
  | multiples (n : Nat)
  /-- At each so many columns behind the last one that is listed. -/
  | steps (n : Nat)
  deriving DecidableEq, Repr

/-- Tab stops. -/
structure TabStops where
  listed : List Nat
  rest : TabRest
  deriving DecidableEq, Repr

namespace TabStops

/-- The usual tab stops. -/
def usual : TabStops := ⟨[], .multiples 8⟩

/-- The first stop behind a column, where only stops from a place of the list on are looked at, and their place; `none` if
there is none. -/
def next? (t : TabStops) (index column : Nat) : Option Nat × Nat :=
  let passed := ((t.listed.drop index).takeWhile (· ≤ column)).length
  match t.listed[index + passed]? with
  | some stop => (some stop, index + passed)
  | none =>
    match t.rest with
    | .nothing => (none, index + passed)
    | .multiples n => (some (column + (n - column % n)), index + passed)
    | .steps n =>
      let last := t.listed.getLast?.getD 0
      (some (column + (n - (column - last) % n)), index + passed)

/-- The tab stops that options list, where the rest was given too or not. A single one stands for its multiples. -/
def ofParts (listed : List Nat) (rest : Option TabRest) : TabStops :=
  match listed, rest with
  | [], none => usual
  | [], some (.steps n) => ⟨[], .multiples n⟩
  | [], some rest => ⟨[], rest⟩
  | [n], none => ⟨[], .multiples n⟩
  | listed, rest => ⟨listed, rest.getD .nothing⟩

/-- A blank in a line. -/
def isBlank (c : Char) : Bool := c == ' ' || c == '\t'

/-- The place in a line: its column, the place in the list of stops, and whether blanks are still changed. -/
structure Place where
  column : Nat
  index : Nat
  isActive : Bool

/-- The place one column back. -/
def Place.back (p : Place) : Place := { p with column := p.column - 1, index := p.index - 1 }

/-- A line with spaces instead of tabs. Only those in front of the line are changed unless `whole`. -/
def expandFrom (t : TabStops) (whole : Bool) : Place → List Char → List Char
  | _, [] => []
  | p, c :: cs =>
    if !p.isActive then c :: cs
    else if c = '\t' then
      let (stop, index) := t.next? p.index p.column
      let stop := stop.getD (p.column + 1)
      List.replicate (max 1 (stop - p.column)) ' ' ++ expandFrom t whole { p with column := stop, index := index } cs
    else if c = '\x08' then '\x08' :: expandFrom t whole { p.back with isActive := whole } cs
    else c :: expandFrom t whole { p with column := p.column + 1, isActive := whole || c == ' ' } cs

/-- A line with spaces instead of tabs. -/
def expandLine (t : TabStops) (whole : Bool) (line : List Char) : List Char := expandFrom t whole ⟨0, 0, true⟩ line

/-- The blanks that were not written yet, whether the first one ends just at a stop, and whether the last character was a
blank. -/
structure Pending where
  blanks : List Char
  isSingle : Bool
  isBehindBlank : Bool

/-- The pending blanks as they are written in the end. -/
def Pending.shown (q : Pending) : List Char :=
  match q.blanks with
  | _ :: b :: bs => if q.isSingle then '\t' :: b :: bs else q.blanks
  | bs => bs

/-- A line with tabs instead of spaces. -/
def unexpandFrom (t : TabStops) (whole : Bool) : Place → Pending → List Char → List Char
  | _, q, [] => q.shown
  | p, q, c :: cs =>
    if !p.isActive then c :: cs
    else
      let write (p : Place) (q : Pending) (c : Char) (isBlank : Bool) : List Char :=
        q.shown ++ c :: unexpandFrom t whole { p with isActive := p.isActive && (whole || isBlank) } ⟨[], false, isBlank⟩ cs
      if isBlank c then
        let (stop, index) := t.next? p.index p.column
        let p := { p with index := index }
        match stop with
        | none => write { p with isActive := false } q c true
        | some stop =>
          let kept (q : Pending) : Pending :=
            { q with blanks := if q.isSingle then ['\t'] else [] }
          if c = '\t' then
            let q := if q.blanks.isEmpty then q else { q with blanks := '\t' :: q.blanks.drop 1 }
            let q := { q with blanks := if q.isSingle then q.blanks.take 1 else [] }
            write { p with column := stop } q c true
          else
            let p := { p with column := p.column + 1 }
            if q.isBehindBlank && p.column = stop then write p (kept q) '\t' true
            else
              unexpandFrom t whole p ⟨q.blanks ++ [c], q.isSingle || p.column == stop, true⟩ cs
      else if c = '\x08' then write p.back q c false
      else write { p with column := p.column + 1 } q c false

/-- A line with tabs instead of spaces. -/
def unexpandLine (t : TabStops) (whole : Bool) (line : List Char) : List Char :=
  unexpandFrom t whole ⟨0, 0, true⟩ ⟨[], false, true⟩ line

end TabStops
end ElmAssay.Machine
