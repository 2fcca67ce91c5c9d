import ElmAssay.Machine.Difference
import ElmAssay.Machine.Numeral
import ElmAssay.Machine.Regex

/-!
# Hunks

Two rows of lines are compared by what counts of each line (`Sense.key`). The changes between them are gathered in hunks
(`Hunk`), which may leave out changes of lines that do not matter (`Idling`).
-/

namespace ElmAssay.Machine.Difference

/-- A line of a file. The last one may have no end. -/
structure Line where
  text : Octets
  isOpen : Bool
  deriving DecidableEq, Repr

/-- The lines of a text that is given in parts. The last part may have no line end. -/
def Line.ofParts (parts : List Octets) (isOpen : Bool) : List Line :=
  if isOpen then parts.dropLast.map (⟨·, false⟩) ++ (parts.getLast?.toList).map (⟨·, true⟩) else parts.map (⟨·, false⟩)

/-- Both rows of lines. -/
structure Sides where
  left : List Line
  right : List Line

/-! ## What counts of a line -/

/-- Which blanks of a line count. -/
inductive Spacing
  /-- All of them, though tabs may count as spaces, and blanks at the end as none. -/
  | all (expandsTabs trimsEnds : Bool)
  | runs
  | nothing
  deriving DecidableEq, Repr

/-- Whether blanks at the end of a line count. -/
def Spacing.countsEnds : Spacing → Bool
  | .all _ trims => !trims
  | _ => false

/-- What counts of a line. -/
structure Sense where
  spacing : Spacing
  ignoresCase : Bool
  tabSize : Nat
  /-- Whether a last line without an end counts as one with an end. -/
  completesLines : Bool

/-- A text with spaces instead of tabs, from a column on. -/
def withoutTabs (tabSize : Nat) : Nat → List Char → List Char
  | _, [] => []
  | column, '\t' :: cs =>
    let n := tabSize - column % tabSize
    List.replicate n ' ' ++ withoutTabs tabSize (column + n) cs
  | column, c :: cs =>
    c :: withoutTabs tabSize (if c = '\r' then 0 else if c = '\x08' then column - 1 else column + 1) cs

/-- A text with one space for each run of blanks. -/
def withRuns : Bool → List Char → List Char
  | _, [] => []
  | inRun, c :: cs =>
    if Numeral.isSpace c then (if inRun then [] else [' ']) ++ withRuns true cs else c :: withRuns false cs

/-- What counts of a line. Lines with the same key are the same. -/
def Sense.key (s : Sense) (l : Line) : Octets × Bool :=
  let cs := l.text.toList
  let cs :=
    match s.spacing with
    | .all expands trims =>
      let cs := if trims then Text.dropTrailing Numeral.isSpace cs else cs
      if expands then withoutTabs s.tabSize 0 cs else cs
    | .runs => withRuns false (Text.dropTrailing Numeral.isSpace cs)
    | .nothing => cs.filter (!Numeral.isSpace ·)
  (String.ofList (if s.ignoresCase then cs.map Char.toLower else cs),
    l.isOpen && s.spacing.countsEnds && !s.completesLines)

/-- Which lines do not matter: blank ones, and those in which one of some expressions matches. -/
structure Idling where
  blankLines : Bool
  expressions : List Regex
  /-- Whether a line of blanks counts as a blank one. -/
  skipsBlanks : Bool

/-- Whether there can be changes that do not matter. -/
def Idling.isActive (i : Idling) : Bool := i.blankLines || !i.expressions.isEmpty

/-- How expressions match in lines. -/
def plainManner : Regex.Manner := ⟨false, false⟩

/-- Whether a line does not matter. -/
def Idling.has (i : Idling) (l : Line) : Bool :=
  (i.blankLines && (if i.skipsBlanks then l.text.toList.all Numeral.isSpace else l.text.isEmpty)) ||
    i.expressions.any fun r => r.occursIn plainManner (Octets.widen l.text)

/-! ## Hunks -/

/-- So many lines from a place on. -/
def slice (ls : List Line) (first count : Nat) : List Line := (ls.drop first).take count

/-- Changes with the part of each side that they lie in, from a place on and so many lines long, and whether they take
lines away and add some. -/
structure Hunk where
  changes : List Change
  left : Nat
  leftCount : Nat
  right : Nat
  rightCount : Nat
  removes : Bool
  adds : Bool

/-- Whether some changes do not matter. -/
def isIdle (i : Idling) (s : Sides) (cs : List Change) : Bool :=
  i.isActive && cs.all fun c => (slice s.left c.left c.removed ++ slice s.right c.right c.added).all i.has

/-- The hunk of some changes without other lines around them; `none` if they do not matter. -/
def hunk? (i : Idling) (s : Sides) (cs : List Change) : Option Hunk := do
  let first ← cs.head?
  let last ← cs.getLast?
  if isIdle i s cs then none
  else
    return ⟨cs, first.left, last.left + last.removed - first.left, first.right, last.right + last.added - first.right,
      cs.any (·.removed != 0), cs.any (·.added != 0)⟩

/-- A hunk with so many lines around it, as far as there are some. -/
def Hunk.widened (h : Hunk) (around : Nat) (s : Sides) : Hunk :=
  let left := h.left - around
  let right := h.right - around
  { h with
    left := left, leftCount := min s.left.length (h.left + h.leftCount + around) - left
    right := right, rightCount := min s.right.length (h.right + h.rightCount + around) - right }

/-- Changes in groups, each with whether it does not matter. A group goes on while the lines up to the next change are few,
and fewer still if that one does not matter. -/
def groups (around : Nat) : List (Change × Bool) → List (List Change)
  | [] => []
  | c :: cs =>
    match groups around cs, cs with
    | g :: gs, next :: _ =>
      let bound := if next.2 then around else 2 * around + 1
      if next.1.left - (c.1.left + c.1.removed) < bound then (c.1 :: g) :: gs else [c.1] :: g :: gs
    | gs, _ => [c.1] :: gs

/-- The hunks of changes with so many lines around each. -/
def hunksAround (around : Nat) (i : Idling) (s : Sides) (cs : List Change) : List Hunk :=
  let gs := groups around (cs.map fun c => (c, isIdle i s [c]))
  (gs.filterMap (hunk? i s)).map (·.widened around s)

/-- A hunk for each change. -/
def hunks (i : Idling) (s : Sides) (cs : List Change) : List Hunk := cs.filterMap fun c => hunk? i s [c]

/-! ## Places in words -/

/-- A range of lines by its first and last one, with a mark between them. An empty range is told by the line before it. -/
def range (mark : Char) (first count : Nat) : Octets :=
  if count ≤ 1 then Numeral.text (first + count)
  else Numeral.text (first + 1) ++ mark.toString ++ Numeral.text (first + count)

/-- A range of lines by its first one and their count. -/
def countedRange (first count : Nat) : Octets :=
  if count = 0 then Numeral.text first ++ ",0"
  else if count = 1 then Numeral.text (first + 1)
  else Numeral.text (first + 1) ++ "," ++ Numeral.text count

/-- The letter of what a hunk does. -/
def Hunk.letter (h : Hunk) : Octets := if !h.removes then "a" else if !h.adds then "d" else "c"

end ElmAssay.Machine.Difference
