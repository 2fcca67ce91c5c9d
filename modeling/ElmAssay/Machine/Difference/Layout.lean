import ElmAssay.Machine.Columns
import ElmAssay.Machine.Difference.Hunk

/-!
# Layouts of differences

How the hunks of two texts are written: change by change, with the lines around them in one row or in two, or as commands
that make the right side from the left one. Each layout is a function from a hunk to its text.

The texts may also be written whole, in two columns with a mark between them that tells how the lines of a row differ
(`Halves.rowsFrom`). Each line is cut to the width of its column (`Halves.cut`).
-/

namespace ElmAssay.Machine.Difference

/-- How lines are written. -/
structure Style where
  /-- Whether a tab stands between the mark of a line and its text. -/
  hasTab : Bool
  expandsTabs : Bool
  tabSize : Nat
  /-- Whether an empty line has no blank behind its mark. -/
  trimsEmpty : Bool
  hasColors : Bool
  /-- Expressions for the lines that begin a section; its name stands at each hunk. -/
  sections : List Regex

/-! ## Lines -/

/-- A text with spaces instead of tabs, from a column on. What marks the line stands again behind a return. -/
def spreadTabs (tabSize : Nat) (mark : List Char) : Nat → List Char → List Char
  | _, [] => []
  | column, '\t' :: cs =>
    let n := tabSize - column % tabSize
    List.replicate n ' ' ++ spreadTabs tabSize mark (column + n) cs
  | _, '\r' :: cs => '\r' :: (if cs.isEmpty then [] else mark) ++ spreadTabs tabSize mark 0 cs
  | column, '\x08' :: cs =>
    if column = 0 then spreadTabs tabSize mark 0 cs else '\x08' :: spreadTabs tabSize mark (column - 1) cs
  | column, c :: cs =>
    c :: spreadTabs tabSize mark (if 32 ≤ c.toNat && c.toNat < 127 then column + 1 else column) cs

/-- The text of a line. -/
def Style.textOf (s : Style) (mark text : Octets) : Octets :=
  if s.expandsTabs then String.ofList (spreadTabs s.tabSize mark.toList 0 text.toList) else text

/-- A text in the color that a code stands for. -/
def Style.painted (s : Style) (code : Octets) (text : Octets) : Octets :=
  if s.hasColors then s!"\x1b[{code}m{text}\x1b[0m" else text

/-- The color of lines that are taken away. -/
def removedColor : Octets := "31"

/-- The color of lines that are added. -/
def addedColor : Octets := "32"

/-- The color of places. -/
def placeColor : Octets := "36"

/-- The color of names. -/
def nameColor : Octets := "1"

/-- What stands at the end of a line that has no end. -/
def openEnd : Octets := "\n\\ No newline at end of file\n"

/-- A row of lines, each with its mark, in a color. -/
def Style.row (s : Style) (code : Octets) (lines : List (Octets × Line)) : Octets :=
  String.join (lines.map fun l => s.painted code (l.1 ++ l.2.text) ++ if l.2.isOpen then openEnd else "\n")

/-- A line behind a mark that a blank follows. -/
def Style.marked (s : Style) (mark : Octets) (l : Line) : Octets × Line :=
  let full := mark ++ if s.hasTab then "\t" else " "
  let shown := if s.trimsEmpty && l.text.isEmpty then (if mark = " " then "" else mark) else full
  (shown, { l with text := s.textOf full l.text })

/-- A line behind a mark of one column. -/
def Style.signed (s : Style) (mark : Octets) (l : Line) : Octets × Line :=
  let isTrimmed := s.trimsEmpty && l.text.isEmpty
  let full :=
    if mark = " " then (if isTrimmed then "" else if s.hasTab then "\t" else " ")
    else mark ++ if s.hasTab && !isTrimmed then "\t" else ""
  (full, { l with text := s.textOf "" l.text })

/-- A row of lines without a color. -/
def plainRow (lines : List (Octets × Line)) : Octets :=
  String.join (lines.map fun l => l.1 ++ l.2.text ++ if l.2.isOpen then openEnd else "\n")

/-- A row of lines without marks. -/
def Style.bare (s : Style) (ls : List Line) : Octets :=
  String.join (ls.map fun l => s.textOf "" l.text ++ if l.isOpen then "" else "\n")

/-! ## Sections -/

/-- The last line before a place that begins a section. -/
def section? (s : Style) (ls : List Line) (place : Nat) : Option Line :=
  ((ls.take place).reverse.find? fun l => s.sections.any fun r => r.occursIn plainManner (Octets.widen l.text))

/-- The name of the section that a place is in, behind a space. -/
def sectionName (s : Style) (ls : List Line) (place : Nat) : Octets :=
  if s.sections.isEmpty then ""
  else
    match section? s ls place with
    | none => ""
    | some l =>
      let cs := (l.text.toList.dropWhile Numeral.isSpace).take 40
      " " ++ String.ofList (Text.dropTrailing Numeral.isSpace cs)

/-! ## Hunks -/

/-- A change without other lines around it. -/
def plainHunk (st : Style) (s : Sides) (h : Hunk) : Octets :=
  let removed := (slice s.left h.left h.leftCount).map (st.marked "<")
  let added := (slice s.right h.right h.rightCount).map (st.marked ">")
  st.painted placeColor (range ',' h.left h.leftCount ++ h.letter ++ range ',' h.right h.rightCount) ++ "\n" ++
    (if h.removes then st.row removedColor removed else "") ++ (if h.removes && h.adds then "---\n" else "") ++
    if h.adds then st.row addedColor added else ""

/-- The lines of a hunk in one row, from a place on the left on up to another one. -/
def unifiedLines (st : Style) (s : Sides) (stop : Nat) : Nat → List Change → Octets
  | place, [] => plainRow ((slice s.left place (stop - place)).map (st.signed " "))
  | place, c :: cs =>
    plainRow ((slice s.left place (c.left - place)).map (st.signed " ")) ++
      st.row removedColor ((slice s.left c.left c.removed).map (st.signed "-")) ++
      st.row addedColor ((slice s.right c.right c.added).map (st.signed "+")) ++
      unifiedLines st s stop (c.left + c.removed) cs

/-- A hunk in one row. -/
def unifiedHunk (st : Style) (s : Sides) (h : Hunk) : Octets :=
  let places := "@@ -" ++ countedRange h.left h.leftCount ++ " +" ++ countedRange h.right h.rightCount ++ " @@"
  st.painted placeColor places ++ sectionName st s.left h.left ++ "\n" ++
    unifiedLines st s (h.left + h.leftCount) h.left h.changes

/-- The lines of one side of a hunk. A change is given by where it is on this side, its length, and whether the other side
has a part in it. -/
def sideLines (st : Style) (code mark : Octets) (ls : List Line) (first count : Nat) (changes : List (Nat × Nat × Bool)) :
    Octets :=
  st.row code <| ((slice ls first count).zipIdx first).map fun (l, n) =>
    match changes.find? fun c => c.1 ≤ n && n < c.1 + c.2.1 with
    | some (_, _, isShared) => st.marked (if isShared then "!" else mark) l
    | none => st.marked " " l

/-- A hunk with one side after the other. -/
def contextHunk (st : Style) (s : Sides) (h : Hunk) : Octets :=
  let place (mark : Octets) (first count : Nat) (behind : Octets) : Octets :=
    st.painted placeColor (mark ++ " " ++ range ',' first count ++ " " ++ behind) ++ "\n"
  "***************" ++ sectionName st s.left h.left ++ "\n" ++ place "***" h.left h.leftCount "****" ++
    (if h.removes then
      sideLines st removedColor "-" s.left h.left h.leftCount (h.changes.map fun c => (c.left, c.removed, c.added != 0))
      else "") ++
    place "---" h.right h.rightCount "----" ++
    if h.adds then
      sideLines st addedColor "+" s.right h.right h.rightCount (h.changes.map fun c => (c.right, c.added, c.removed != 0))
      else ""

/-! ## Commands -/

/-- Lines as the text of a command that a line with a dot ends. A line that is a dot is made from two. -/
def commandText (st : Style) : Bool → List Line → Octets
  | isOpen, [] => if isOpen then ".\n" else ""
  | isOpen, l :: ls =>
    (if isOpen then "" else "a\n") ++
      if l.text = "." then "..\n.\ns/.//\n" ++ commandText st false ls
      else st.textOf "" l.text ++ "\n" ++ commandText st true ls

/-- A hunk as a command, for those that are given from the end of the file on. -/
def backwardCommand (st : Style) (s : Sides) (h : Hunk) : Octets :=
  range ',' h.left h.leftCount ++ h.letter ++ "\n" ++
    if h.adds then commandText st true (slice s.right h.right h.rightCount) else ""

/-- A hunk as a command with its letter in front. -/
def forwardCommand (st : Style) (s : Sides) (h : Hunk) : Octets :=
  h.letter ++ range ' ' h.left h.leftCount ++ "\n" ++
    if h.adds then
      String.join ((slice s.right h.right h.rightCount).map fun l => st.textOf "" l.text ++ "\n") ++ ".\n"
    else ""

/-- A hunk as commands that tell how many lines they are about. -/
def countedCommand (st : Style) (s : Sides) (h : Hunk) : Octets :=
  let line (letter : Octets) (place count : Nat) : Octets :=
    letter ++ Numeral.text place ++ " " ++ Numeral.text count ++ "\n"
  (if h.removes then line "d" (h.left + 1) h.leftCount else "") ++
    if h.adds then
      line "a" (h.left + h.leftCount) h.rightCount ++ st.bare (slice s.right h.right h.rightCount)
    else ""

/-! ## Sides beside each other -/

/-- How wide the columns are: where the second one starts, and how much of a line is shown. -/
structure Halves where
  width : Nat
  second : Nat
  expandsTabs : Bool
  tabSize : Nat
  hasColors : Bool
  /-- Whether rows of the same lines are left out. -/
  hidesSame : Bool
  /-- Whether only the left one of two lines that are the same is shown. -/
  showsLeftOnly : Bool
  /-- Whether the counts of lines stand in front of each run. -/
  hasCounts : Bool

namespace Halves

/-- The columns of a page so wide. The width of a line comes first, then the space between the columns; tabs in the second
column keep their stops. -/
def ofWidth (page tab : Nat) : Nat × Nat :=
  let stop := tab + 3
  let middle := page / 2 + stop / 2 + (if page % 2 = 1 && stop % 2 = 1 then 1 else 0)
  let second := middle - middle % tab
  if second ≤ 3 || page ≤ second then (0, page) else (min (second - 3) (page - second), second)

/-- The blanks from a column to another one. -/
def blanks (h : Halves) (start stop : Nat) : Octets :=
  let spaces (n : Nat) : Octets := String.ofList (List.replicate n ' ')
  if h.expandsTabs then spaces (stop - start)
  else
    let tabs := stop / h.tabSize - start / h.tabSize
    if tabs = 0 then spaces (stop - start)
    else String.ofList (List.replicate tabs '\t') ++ spaces (stop % h.tabSize)

/-- A line that is cut: the column that its text came to, the column that was written, and what was written. -/
structure Cut where
  read : Nat
  written : Nat
  text : List Octets

/-- What was written with one more text. -/
def Cut.note (c : Cut) (written : Nat) (s : Octets) : Cut := { c with written := written, text := s :: c.text }

/-- Takes a character of a line that starts at a column. -/
def step (h : Halves) (indent : Nat) (c : Cut) (char : Char) : Cut :=
  let blanksUpTo (n : Nat) : Octets := String.ofList (List.replicate n ' ')
  if char = '\t' then
    let stop := c.read + (h.tabSize - c.read % h.tabSize)
    let moved := { c with read := stop }
    if c.read != c.written then moved
    else if h.expandsTabs then
      let stop := min stop h.width
      moved.note (max c.written stop) (blanksUpTo (stop - c.written))
    else if stop < h.width then moved.note stop "\t"
    else moved
  else if char = '\r' then { c.note 0 ("\r" ++ h.blanks 0 indent) with read := 0 }
  else if char = '\x08' then
    if c.read = 0 then c
    else
      let c := { c with read := c.read - 1 }
      if c.read < h.width then
        if c.written ≤ c.read then c.note c.read (blanksUpTo (c.read - c.written)) else c.note c.read "\x08"
      else c
  else
    let byte := Octets.narrow [char]
    let isPlain := char = '\x00' || (32 ≤ char.toNat && char.toNat < 127) || Octets.strayBase ≤ char.toNat
    if isPlain then
      let c := { c with read := c.read + 1 }
      if c.read ≤ h.width then c.note c.read byte else c
    else
      let c := { c with read := c.read + Columns.ofChar char }
      if c.read ≤ h.width then c.note c.read byte else c

/-- A line cut to its column, which starts at another one, and the column up to which it goes. -/
def cut (h : Halves) (indent : Nat) (l : Line) : Octets × Nat :=
  let c := (Octets.widen l.text).foldl (h.step indent) ⟨0, 0, []⟩
  (String.join c.text.reverse, c.written)

/-- A row with lines on one side or on both, and a mark between them. -/
def row (h : Halves) (left : Option Line) (mark : Char) (right : Option Line) : Octets :=
  let (front, column) := left.elim ("", 0) (h.cut 0)
  let mark :=
    match left, right with
    | some l, some r => if mark = '|' && l.isOpen != r.isOpen then (if r.isOpen then '/' else '\\') else mark
    | _, _ => mark
  let (middle, column) :=
    if mark = ' ' then ("", column)
    else
      let place := (h.width + h.second - 1) / 2
      (h.blanks column place ++ mark.toString, place + 1)
  let back :=
    match right with
    | some r =>
      if r.text.isEmpty && !r.isOpen then ""
      else h.blanks column h.second ++ (h.cut h.second r).1
    | none => ""
  let color := if mark = '<' then some removedColor else if mark = '>' then some addedColor else none
  let lineEnd := if left.any (!·.isOpen) || right.any (!·.isOpen) then "\n" else ""
  let text := front ++ middle ++ back ++ lineEnd
  match color with
  | some code => if h.hasColors then s!"\x1b[{code}m{text}\x1b[0m" else text
  | none => text

/-- The counts of lines in front of a run. -/
def counts (h : Halves) (letter : Octets) (left right : Nat) : Octets :=
  if h.hasCounts then letter ++ Numeral.text left ++ "," ++ Numeral.text right ++ "\n" else ""

/-- The rows of lines that are the same. -/
def sameRows (h : Halves) (left right : List Line) : Octets :=
  if h.hidesSame || (left.isEmpty && right.isEmpty) then ""
  else
    let both := if h.showsLeftOnly then [] else left.zip right
    let n := both.length
    h.counts "i" left.length right.length ++
      String.join (both.map fun (l, r) => h.row (some l) ' ' (some r)) ++
      (if h.showsLeftOnly then "" else String.join ((right.drop n).map fun r => h.row none ')' (some r))) ++
      String.join ((left.drop n).map fun l => h.row (some l) '(' none)

/-- The rows of a hunk. -/
def hunkRows (h : Halves) (s : Sides) (k : Hunk) : Octets :=
  let left := slice s.left k.left k.leftCount
  let right := slice s.right k.right k.rightCount
  let both := left.zip right
  let n := both.length
  h.counts "c" left.length right.length ++
    String.join (both.map fun (l, r) => h.row (some l) '|' (some r)) ++
    String.join ((right.drop n).map fun r => h.row none '>' (some r)) ++
    String.join ((left.drop n).map fun l => h.row (some l) '<' none)

/-- Both sides in rows, from two places on. -/
def rowsFrom (h : Halves) (s : Sides) : Nat → Nat → List Hunk → Octets
  | i, j, [] => h.sameRows (s.left.drop i) (s.right.drop j)
  | i, j, k :: ks =>
    h.sameRows (slice s.left i (k.left - i)) (slice s.right j (k.right - j)) ++ h.hunkRows s k ++
      rowsFrom h s (k.left + k.leftCount) (k.right + k.rightCount) ks

end Halves

end ElmAssay.Machine.Difference
