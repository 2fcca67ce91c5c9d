import ElmAssay.Machine.Calendar
import ElmAssay.Machine.Difference.Layout
import ElmAssay.Machine.Difference.Merging
import ElmAssay.Machine.Regex.Reader
import ElmAssay.Machine.Utility.Removal
import ElmAssay.Machine.Wildcard

/-!
# The program that shows differences

Shows how one file is made from another, line by line (`diff`), with directories compared file by file. How it does so is
its `Manner`, which options build up one by one (`Draft`).
-/

namespace ElmAssay.Machine.Utility

open Work Machine.Difference

namespace Comparison

/-! ## How files are compared -/

/-- The layouts of differences. -/
inductive Layout
  | plain
  | unified
  | context
  | backward
  | forward
  | counted
  | merged
  | halves
  deriving DecidableEq, Repr

/-- Whether an end is added to a last line that has none. -/
def Layout.completesLines (l : Layout) : Bool := l == .backward || l == .forward

/-- How files are compared. -/
structure Manner where
  layout : Layout
  isBrief : Bool
  around : Nat
  /-- How many of the same lines at both ends are looked at once more. -/
  horizon : Nat
  sense : Sense
  idling : Idling
  style : Style
  halves : Halves
  merging : Merging
  isMinimal : Bool
  isText : Bool
  stripsReturns : Bool
  tellsOfSame : Bool
  isRecursive : Bool
  /-- Whether a file that is missing on the left or on the right counts as empty. -/
  lacksLeft : Bool
  lacksRight : Bool
  follows : Bool
  ignoresNameCase : Bool
  labels : List Octets
  excluded : List Wildcard
  startingName : Option Octets
  /-- The options as they were given. -/
  given : Octets

/-- Whether nothing is written if nothing differs. -/
def Manner.isSilentOnSame (m : Manner) : Bool :=
  match m.layout with
  | .merged => m.merging.same.isEmpty || (m.merging.same = "%=" && m.merging.sameLine.isEmpty)
  | .halves => m.halves.hidesSame
  | _ => true

/-! ## Texts -/

/-- The lines of a text. -/
def linesIn (stripsReturns : Bool) (s : Octets) : List Line :=
  let strip (t : Octets) : Octets := if stripsReturns && t.endsWith "\r" then String.ofList t.toList.dropLast else t
  Line.ofParts ((linesOf s).map strip) (!s.isEmpty && !endsWithLine s)

/-- The letter that stands for a character in a name between quotes. -/
def nameEscape? (c : Char) : Option Octets :=
  match [('\x07', "a"), ('\x08', "b"), ('\t', "t"), ('\n', "n"), ('\x0b', "v"), ('\x0c', "f"), ('\r', "r"), ('"', "\""),
      ('\\', "\\")].lookup c with
  | some letter => some ("\\" ++ letter)
  | none =>
    if c.toNat < 32 then some ("\\" ++ Numeral.padLeft '0' 3 (String.ofList (Numeral.digitsIn 8 c.toNat))) else none

/-- A name as titles show it: between quotes if it has blanks or other special characters. -/
def titleName (name : Octets) : Octets :=
  let cs := name.toList
  if cs.any fun c => c = ' ' || (nameEscape? c).isSome then
    "\"" ++ String.join (cs.map fun c => (nameEscape? c).getD c.toString) ++ "\""
  else name

/-- The titles of both sides, which are given by their names and times. -/
def Manner.titles (m : Manner) (leftMark rightMark : Octets) (left right : Octets × Int) : Octets :=
  let format := if m.layout = .context then "%a %b %e %T %Y" else "%Y-%m-%d %H:%M:%S.%N %z"
  let title (mark : Octets) (label : Option Octets) (file : Octets × Int) : Octets :=
    m.style.painted nameColor
      (mark ++ " " ++ label.getD (titleName file.1 ++ "\t" ++ (Moment.ofNanos file.2).format format)) ++ "\n"
  title leftMark m.labels[0]? left ++ title rightMark m.labels[1]? right

/-- What stands in front of all that is told of two files. -/
def Manner.front (m : Manner) (isInner : Bool) (left right : Octets × Int) : Octets :=
  let shown (n : Nat) (file : Octets × Int) : Octets := titleName (m.labels[n]?.getD file.1)
  let command := if isInner then "diff" ++ m.given ++ " " ++ shown 0 left ++ " " ++ shown 1 right ++ "\n" else ""
  command ++
    match m.layout with
    | .unified => m.titles "---" "+++" left right
    | .context => m.titles "***" "---" left right
    | _ => ""

/-- The text that shows some changes, in parts; none if nothing is shown. -/
def Manner.parts (m : Manner) (s : Sides) (cs : List Change) : List Octets :=
  let each (show' : Style → Sides → Hunk → Octets) (hs : List Hunk) : List Octets := hs.map (show' m.style s)
  let plain := hunks m.idling s cs
  match m.layout with
  | .plain => each plainHunk plain
  | .unified => each unifiedHunk (hunksAround m.around m.idling s cs)
  | .context => each contextHunk (hunksAround m.around m.idling s cs)
  | .backward => each backwardCommand plain.reverse
  | .forward => each forwardCommand plain
  | .counted => each countedCommand plain
  | .merged => m.merging.textFrom m.style s 0 0 plain
  | .halves => [m.halves.rowsFrom s 0 0 plain]

/-- Whether a text does not look like lines at its front. -/
def isBinary (s : Octets) : Bool := (s.toList.take 4096).contains '\x00'

/-- The name by which a side is told of. -/
def Manner.shownName (m : Manner) (n : Nat) (name : Octets) : Octets := m.labels[n]?.getD name

/-- Tells that two files differ. -/
def tellDifference (m : Manner) (kind : Octets) (left right : Octets) : Work Unit :=
  let l := m.shownName 0 left
  let r := m.shownName 1 right
  put (kind ++ " " ++ l ++ " and " ++ r ++ " differ\n")

/-- Compares two texts, and hands on a status. -/
def compareTexts (m : Manner) (isInner : Bool) (left right : Octets × Int) (leftText rightText : Octets) :
    Work Nat := do
  if !m.isText && (isBinary leftText || isBinary rightText) then
    if leftText = rightText then return 0
    tellDifference m (if m.isBrief then "Files" else "Binary files") left.1 right.1
    return 1
  let s : Sides := ⟨linesIn m.stripsReturns leftText, linesIn m.stripsReturns rightText⟩
  let cs := changes m.sense.key m.isMinimal m.horizon s.left s.right
  let differs := cs.any fun c => !isIdle m.idling s [c]
  let status := if differs then 1 else 0
  if m.isBrief then
    if differs then tellDifference m "Files" left.1 right.1
  else if differs || !m.isSilentOnSame then
    let parts := m.parts s cs
    if !parts.isEmpty then put (m.front isInner left right ++ String.join parts)
  if !m.layout.completesLines then return status
  let opened := [(0, left.1, leftText), (1, right.1, rightText)].filter fun f => !f.2.2.isEmpty && !endsWithLine f.2.2
  for (n, name, _) in opened do
    let shown := m.shownName n name
    warn s!"{shown}: No newline at end of file\n"
  return if opened.isEmpty then status else 2

/-! ## Files -/

/-- What stands on a side of a comparison: nothing that counts, something that is read from the input or from a file, or
something that cannot be looked at. -/
inductive Standing
  | missing
  | input (i : Info)
  | file (i : Info)
  | refused (r : Refusal)

/-- What is known of a side. -/
def Standing.info? : Standing → Option Info
  | .input i => some i
  | .file i => some i
  | _ => none

/-- Two directories that are compared, with the numbers of those around them on each side. -/
structure Around where
  left : Octets
  right : Octets
  leftSerials : List Nat
  rightSerials : List Nat

/-- Looks at a side. -/
def lookAtSide (m : Manner) (name : Octets) : Work Standing := do
  if name = "-" then
    match ← ask (.infoOf 0) with
    | .ok i => return .input { i with changed := (← ask .now) * 1000 }
    | .error r => return .refused r
  else
    match ← ask (.info name m.follows) with
    | .ok i => return .file i
    | .error r => return .refused r

/-- A side that counts as missing where the options say so: an empty file without any rights, or one that is not there
while the other one is. -/
def Standing.orMissing (s other : Standing) (mayLack isTop : Bool) : Standing :=
  if !mayLack then s
  else
    match s with
    | .file i => if i.isFile && i.rights = 0 && i.size = 0 then .missing else s
    | .refused r => if isTop && r = .noEntry && other.info?.isSome then .missing else s
    | s => s

/-- The text of a side; `none` after a message. -/
def readSide (name : Octets) (s : Standing) : Work (Option Octets) := do
  match s with
  | .missing => return some ""
  | _ =>
    match ← readOperand name with
    | .ok text => return some text
    | .error r =>
      warn s!"{name}: {r.wording}"
      return none

/-- Whether two sides are the same file. -/
def areSame (a b : Standing) : Bool :=
  match a, b with
  | .file i, .file j => i.serial == j.serial
  | .input _, .input _ => true
  | _, _ => false

/-- The order of names in directories. -/
def Manner.nameKey (m : Manner) (name : Octets) : Octets := if m.ignoresNameCase then name.toLower else name

/-- The names in a directory that are compared; `none` after a message. -/
def namesIn (m : Manner) (isTop : Bool) (path : Octets) (s : Standing) : Work (Option (List Octets)) := do
  match s with
  | .file _ =>
    match ← ask (.list path) with
    | .error r =>
      warn s!"{path}: {r.wording}"
      return none
    | .ok names =>
      let kept := names.filter fun n => !m.excluded.any (·.agrees n.toList)
      let sorted := kept.mergeSort fun a b => m.nameKey a ≤ m.nameKey b
      return some (if isTop then sorted.dropWhile fun n => m.startingName.any (m.nameKey n < m.nameKey ·) else sorted)
  | _ => return some []

/-- Pairs of the names in two directories, in order. -/
def pairs (m : Manner) : List Octets → List Octets → List (Option Octets × Option Octets)
  | [], bs => bs.map fun b => (none, some b)
  | as, [] => as.map fun a => (some a, none)
  | a :: as, b :: bs =>
    match compare (m.nameKey a) (m.nameKey b) with
    | .lt => (some a, none) :: pairs m as (b :: bs)
    | .gt => (none, some b) :: pairs m (a :: as) bs
    | .eq => (some a, some b) :: pairs m as bs
termination_by as bs => as.length + bs.length

/-- Compares two directories, given what compares the things in them. -/
def compareDirectories (m : Manner) (inner : Around → Option Octets → Option Octets → Work Nat) (around : Option Around)
    (left right : Octets) (l r : Standing) : Work Nat := do
  let serial (s : Standing) : Option Nat := s.info?.map (·.serial)
  let a : Around := around.getD ⟨"", "", [], []⟩
  let loops (s : Standing) (serials : List Nat) : Bool := (serial s).all serials.contains
  if loops l a.leftSerials && loops r a.rightSerials then
    let name := if (serial l).isNone then right else left
    warn s!"{name}: recursive directory loop"
    return 2
  let leftNames ← namesIn m around.isNone left l
  let rightNames ← namesIn m around.isNone right r
  match leftNames, rightNames with
  | some leftNames, some rightNames =>
    let own : Around := ⟨left, right, (serial l).toList ++ a.leftSerials, (serial r).toList ++ a.rightSerials⟩
    (pairs m leftNames rightNames).foldlM (fun status (p, q) => do return max status (← inner own p q)) 0
  | _, _ => return 2

/-- Tells of two things of different kinds. -/
def tellOfKinds (m : Manner) (left right : Octets) (l r : Info) : Work Nat := do
  put ("File " ++ m.shownName 0 left ++ " is a " ++ kindName l ++ " while file " ++ m.shownName 1 right ++ " is a " ++
    kindName r ++ "\n")
  return 1

/-- Tells of a thing that stands on one side only. -/
def tellOfOnly (directory name : Octets) : Work Nat := do
  put s!"Only in {directory}: {name}\n"
  return 1

/-- Compares two links. -/
def compareLinks (m : Manner) (left right : Octets) (l r : Info) : Work Nat := do
  if !(l.isLink && r.isLink) then tellOfKinds m left right l r
  else
    match ← ask (.linkText left), ← ask (.linkText right) with
    | .ok a, .ok b =>
      if a = b then return 0
      put s!"Symbolic links {left} and {right} differ\n"
      return 1
    | _, _ => return 2

/-- Compares what stands on both sides, given what compares directories. -/
def compareSides (m : Manner) (directories : Work Nat) (around : Option Around) (left right : Octets) (name : Octets)
    (l r : Standing) : Work Nat := do
  let i? := l.info?
  let j? := r.info?
  match i?.or j?, j?.or i? with
  | some i, some j =>
    let isTop := around.isNone
    let isPlain (i : Info) : Bool := i.isFile || i.isLink
    if areSame l r && m.isSilentOnSame then return 0
    else if i.isDirectory && j.isDirectory then
      if m.layout = .merged then Work.fail 2 "-D option not supported with directories"
      else if !isTop && !m.isRecursive then
        put s!"Common subdirectories: {left} and {right}\n"
        return 0
      else directories
    else if i.isDirectory || j.isDirectory || (!isTop && !(isPlain i && isPlain j)) then
      match around, i?.isNone || j?.isNone with
      | some a, true => tellOfOnly (if i?.isNone then a.right else a.left) name
      | _, _ => tellOfKinds m left right i j
    else if i.isLink || j.isLink then compareLinks m left right i j
    else
      match ← readSide left l with
      | none => return 2
      | some leftText =>
        match ← (if areSame l r then pure (some leftText) else readSide right r) with
        | none => return 2
        | some rightText =>
          let changed (s : Standing) : Int := s.info?.elim 0 (·.changed)
          compareTexts m (!isTop) (left, changed l) (right, changed r) leftText rightText
  | _, _ => return 0

/-- The path of a name in a directory, or of one that differs from it only in case if that does not matter. -/
def placeIn (m : Manner) (directory name : Octets) : Work Octets := do
  if !m.ignoresNameCase then return joinPath directory name
  else
    match ← ask (.list directory) with
    | .error _ => return joinPath directory name
    | .ok names =>
      let found := (names.find? (· == name)).or (names.find? fun n => m.nameKey n = m.nameKey name)
      return joinPath directory (found.getD name)

/-- Compares what stands under two names, in two directories if there are such around it. The fuel bounds how deep. -/
def compareNames (m : Manner) : Nat → Option Around → Option Octets → Option Octets → Work Nat
  | 0, _, _, _ => return 0
  | fuel + 1, around, leftName, rightName => do
    let name := (leftName.or rightName).getD ""
    if (leftName.isNone && !m.lacksLeft) || (rightName.isNone && !m.lacksRight) then
      match around with
      | some a => tellOfOnly (if leftName.isNone then a.right else a.left) name
      | none => return 0
    else
      let place (directory : Option Octets) (own other : Option Octets) : Octets :=
        let n := (own.or other).getD ""
        directory.elim n (joinPath · n)
      let left := place (around.map (·.left)) leftName rightName
      let right := place (around.map (·.right)) rightName leftName
      let l ← if leftName.isNone then pure Standing.missing else lookAtSide m left
      let r ← if rightName.isNone then pure Standing.missing else if left = right then pure l else lookAtSide m right
      let isTop := around.isNone
      let l' := l.orMissing r m.lacksLeft isTop
      let r' := r.orMissing l m.lacksRight isTop
      let refusals := [(left, l'), (right, r')].filterMap fun p =>
        match p.2 with
        | .refused r => some (p.1, r)
        | _ => none
      for (path, refusal) in refusals do warn s!"{path}: {refusal.wording}"
      if !refusals.isEmpty then return 2
      let isDirectory (s : Standing) : Bool := s.info?.any (·.isDirectory)
      let (left, right, l, r) ←
        if isTop && l'.info?.isSome && r'.info?.isSome && isDirectory l' != isDirectory r' then
          let own := if isDirectory l' then right else left
          if own = "-" then Work.fail 2 "cannot compare '-' to a directory"
          else if isDirectory l' then
            let inner ← placeIn m left (lastName right)
            pure (inner, right, ← lookAtSide m inner, r')
          else
            let inner ← placeIn m right (lastName left)
            pure (left, inner, l', ← lookAtSide m inner)
        else pure (left, right, l', r')
      let directories := compareDirectories m (fun a p q => compareNames m fuel (some a) p q) around left right l r
      match l, r with
      | .refused e, _ =>
        warn s!"{left}: {e.wording}"
        return 2
      | _, .refused e =>
        warn s!"{right}: {e.wording}"
        return 2
      | .missing, .missing => return 0
      | l, r =>
        let status ← compareSides m directories around left right name l r
        if status = 0 && m.tellsOfSame && !isDirectory l then
          let a := m.shownName 0 left
          let b := m.shownName 1 right
          put s!"Files {a} and {b} are identical\n"
        return status

/-! ## Options -/

/-- Ends a comparison because of what it was called with. -/
def refuseCall {α : Type} (message : Octets) : Work α := do
  warn message
  let name := (← get).name
  Work.fail 2 s!"Try '{name} --help' for more information."

/-- Reads the arguments of a comparison. -/
def readCall (switches : List Switch) (arguments : List Octets) : Work Arguments :=
  Arguments.readFrom ⟨switches, false, refuseCall⟩ (arguments.length + 1) ⟨[], []⟩ arguments

/-- The options of a comparison. -/
def switches : List Switch :=
  [.flag 'q' "brief", .flag 's' "report-identical-files", .flag 'r' "recursive", .flag 'N' "new-file",
   .flag 'P' "unidirectional-new-file", .flag 'i' "ignore-case", .flag 'w' "ignore-all-space",
   .flag 'b' "ignore-space-change", .flag 'Z' "ignore-trailing-space", .flag 'E' "ignore-tab-expansion",
   .flag 'B' "ignore-blank-lines", .valued 'I' "ignore-matching-lines", .flag 'a' "text", .flag 'd' "minimal",
   .flag 'u' "", .valued 'U' "", .named 'U' "unified" .attached, .flag 'c' "", .valued 'C' "",
   .named 'C' "context" .attached, .flag 'e' "ed", .flag 'f' "forward-ed", .flag 'n' "rcs", .flag 'y' "side-by-side",
   .valued 'D' "ifdef", .valued 'W' "width", .valued 'L' "label", .valued 'x' "exclude", .valued 'X' "exclude-from",
   .valued 'S' "starting-file", .flag 'p' "show-c-function", .valued 'F' "show-function-line", .flag 't' "expand-tabs",
   .flag 'T' "initial-tab", .flag 'l' "paginate", .flag 'h' "", .flag 'H' "speed-large-files",
   .named '!' "normal" .nothing, .named '"' "strip-trailing-cr" .nothing, .named '#' "color" .attached,
   .named '$' "no-dereference" .nothing, .named '%' "left-column" .nothing,
   .named '&' "suppress-common-lines" .nothing, .named '(' "suppress-blank-empty" .nothing, .named ')' "tabsize" .value,
   .named '*' "from-file" .value, .named '+' "to-file" .value, .named ',' "horizon-lines" .value,
   .named '.' "ignore-file-name-case" .nothing, .named '/' "no-ignore-file-name-case" .nothing,
   .named ':' "line-format" .value, .named ';' "unchanged-line-format" .value, .named '<' "old-line-format" .value,
   .named '=' "new-line-format" .value, .named '>' "unchanged-group-format" .value,
   .named '?' "old-group-format" .value, .named '@' "new-group-format" .value, .named '[' "changed-group-format" .value,
   .named ']' "binary" .nothing, .named '^' "inhibit-hunk-merge" .nothing, .named '_' "sdiff-merge-assist" .nothing,
   .named '|' "palette" .value] ++ "0123456789".toList.map fun c => .flag c ""

/-- What options have said so far. -/
structure Draft where
  layout : Option Layout
  around : Nat
  isAroundGiven : Bool
  /-- The count of lines that digits spell, and whether the last option was a digit. -/
  digits : Option Nat
  isSpelling : Bool
  width : Nat
  tabSize : Nat
  horizon : Nat
  /-- The formats of runs and lines, by the keys of their options. -/
  formats : List (Char × Octets)
  sections : List Regex
  idle : List Regex
  labels : List Octets
  excluded : List Wildcard
  startingName : Option Octets
  leftFile : Option Octets
  rightFile : Option Octets
  hasColors : Bool

namespace Draft

/-- Nothing said yet. -/
def empty : Draft := ⟨none, 0, false, none, false, 0, 0, 0, [], [], [], [], [], none, none, none, false⟩

/-- A layout is chosen. -/
def laidOut (d : Draft) (l : Layout) : Work Draft :=
  if d.layout.any (· != l) then refuseCall "conflicting output style options"
  else return { d with layout := some l }

/-- A count that an option gives. -/
def countOf (what : Octets) (isPositive : Bool) (text : Octets) : Work Nat := do
  match Numeral.plain? text with
  | some n => if isPositive && n = 0 then refuseCall s!"invalid {what} '{text}'" else return n
  | none => if text.isEmpty && !isPositive then return 0 else refuseCall s!"invalid {what} '{text}'"

/-- A value that an option gives once. -/
def once (option : Octets) (old : Option Octets) (new : Octets) : Work (Option Octets) := do
  if old.any (· != new) then
    warn s!"conflicting {option} option value '{new}'"
    let name := (← get).name
    Work.fail 2 s!"Try '{name} --help' for more information."
  else return some new

/-- A format is given. -/
def formatted (d : Draft) (option : Octets) (key : Char) (value : Octets) : Work Draft := do
  let _ ← once option (d.formats.lookup key) value
  return { d with formats := (key, value) :: d.formats }

/-- The expression that a text is. -/
def expressionOf (text : Octets) : Work Regex := do
  match Regex.read ⟨false, false⟩ (Octets.widen text) with
  | .ok r => return r
  | .error e =>
    let message := e.message
    Work.fail 2 s!"{text}: {message}"

/-- The formats that the option for a name gives, by the keys of their own options. -/
def formatsOf (name : Octets) : List (Char × Octets) :=
  let m := Merging.ofName name
  [('>', m.same), ('?', m.old), ('@', m.new), ('[', m.changed)]

/-- The options that give formats. -/
def formatOptions : List (Char × Octets) :=
  [(';', "--unchanged-line-format"), ('<', "--old-line-format"), ('=', "--new-line-format"),
   ('>', "--unchanged-group-format"), ('?', "--old-group-format"), ('@', "--new-group-format"),
   ('[', "--changed-group-format")]

/-- Takes an option. -/
def take (d : Draft) (option : Char × Option Octets) : Work Draft := do
  let (key, value) := option
  let text := value.getD ""
  let wasSpelling := d.isSpelling
  let d := { d with isSpelling := Text.isAsciiDigit key }
  if Text.isAsciiDigit key then
    let n := key.toNat - 48
    return { d with digits := some (if wasSpelling then (d.digits.getD 0) * 10 + n else n) }
  else if key = 'U' || key = 'C' then
    let n ← if value.isSome then countOf "context length" false text else pure 3
    let d ← d.laidOut (if key = 'U' then .unified else .context)
    return { d with around := max d.around n, isAroundGiven := true }
  else if key = 'u' || key = 'c' then
    let d ← d.laidOut (if key = 'u' then .unified else .context)
    return { d with around := max d.around 3 }
  else if key = 'D' then
    let d ← d.laidOut .merged
    (formatsOf text).foldlM (fun d f => d.formatted "-D" f.1 f.2) d
  else if key = 'e' then d.laidOut .backward
  else if key = 'f' then d.laidOut .forward
  else if key = 'n' then d.laidOut .counted
  else if key = 'y' || key = '_' then d.laidOut .halves
  else if key = '!' then d.laidOut .plain
  else if key = ':' then
    let d ← d.laidOut .merged
    [';', '<', '='].foldlM (fun d k => d.formatted "--line-format" k text) d
  else if let some name := formatOptions.lookup key then
    let d ← d.laidOut .merged
    d.formatted name key text
  else if key = 'F' then return { d with sections := (← expressionOf text) :: d.sections }
  else if key = 'p' then return { d with sections := (← expressionOf "^[[:alpha:]$_]") :: d.sections }
  else if key = 'I' then return { d with idle := (← expressionOf text) :: d.idle }
  else if key = 'L' then
    if d.labels.length = 2 then Work.fail 2 "too many file label options"
    else return { d with labels := d.labels ++ [text] }
  else if key = 'S' then return { d with startingName := ← once "-S" d.startingName text }
  else if key = '*' then return { d with leftFile := ← once "--from-file" d.leftFile text }
  else if key = '+' then return { d with rightFile := ← once "--to-file" d.rightFile text }
  else if key = 'x' then return { d with excluded := Wildcard.ofText text.toList :: d.excluded }
  else if key = 'X' then
    match ← readOperand text with
    | .ok data =>
      let more := (linesOf data).filter (!·.isEmpty) |>.map fun s => Wildcard.ofText s.toList
      return { d with excluded := more ++ d.excluded }
    | .error r => Work.fail 2 s!"{text}: {r.wording}"
  else if key = 'W' then
    let n ← countOf "width" true text
    if d.width != n && d.width != 0 then Work.fail 2 "conflicting width options" else return { d with width := n }
  else if key = ')' then
    let n ← countOf "tabsize" true text
    if d.tabSize != n && d.tabSize != 0 then Work.fail 2 "conflicting tabsize options" else return { d with tabSize := n }
  else if key = ',' then
    let n ← countOf "horizon length" false text
    return { d with horizon := max d.horizon n }
  else if key = '#' then
    if ["always", "never", "auto"].contains (value.getD "auto") then return { d with hasColors := value = some "always" }
    else refuseCall s!"invalid color '{text}'"
  else return d

end Draft

/-- Which blanks count. -/
def spacingOf (options : Arguments) : Spacing :=
  if options.has 'w' then .nothing
  else if options.has 'b' then .runs
  else .all (options.has 'E') (options.has 'Z')

/-- The arguments without the operands, each behind a space. -/
def withoutOperands : List Octets → List Octets → Octets
  | [], _ => ""
  | a :: rest, operands =>
    if operands.head? = some a then withoutOperands rest (operands.drop 1)
    else " " ++ Shown.plain a ++ withoutOperands rest operands

/-- How files are compared by some options. -/
def mannerOf (arguments : List Octets) (options : Arguments) (d : Draft) : Manner :=
  let layout := d.layout.getD (if options.has 'p' then .context else .plain)
  let around := if d.layout.isNone && options.has 'p' && d.digits.isNone then 3 else d.around
  let around :=
    match d.digits with
    | some n => if around < n || !d.isAroundGiven then n else around
    | none => around
  let tabSize := if d.tabSize = 0 then 8 else d.tabSize
  let expandsTabs := options.has 't'
  let (width, second) := Halves.ofWidth (if d.width = 0 then 130 else d.width) (if expandsTabs then 1 else tabSize)
  let format (key : Char) : Option Octets := d.formats.lookup key
  let changed := format '['
  let old := ((format '?').or changed).getD "%<"
  let new := ((format '@').or changed).getD "%>"
  let spacing := spacingOf options
  { layout := layout, isBrief := options.has 'q', around := around, horizon := max d.horizon around
    sense := ⟨spacing, options.has 'i', tabSize, layout.completesLines⟩
    idling := ⟨options.has 'B', d.idle, !spacing.countsEnds⟩
    style := ⟨options.has 'T', expandsTabs, tabSize, options.has '(', d.hasColors, d.sections⟩
    halves := ⟨width, second, expandsTabs, tabSize, d.hasColors, options.has '&', options.has '%', options.has '_'⟩
    merging :=
      { same := (format '>').getD "%=", old := old, new := new, changed := changed.getD (old ++ new)
        sameLine := (format ';').getD "%l\n", oldLine := (format '<').getD "%l\n", newLine := (format '=').getD "%l\n" }
    isMinimal := options.has 'd', isText := options.has 'a', stripsReturns := options.has '"'
    tellsOfSame := options.has 's', isRecursive := options.has 'r', lacksLeft := options.has 'N' || options.has 'P'
    lacksRight := options.has 'N', follows := !options.has '$'
    ignoresNameCase := options.last? ['.', '/'] = some '.', labels := d.labels, excluded := d.excluded
    startingName := d.startingName, given := withoutOperands arguments options.operands }

end Comparison

/-- Shows how files differ. -/
def diff : Utility := fun _ call => complete call.name do
  let options ← Comparison.readCall Comparison.switches call.arguments
  let d ← options.options.foldlM Comparison.Draft.take Comparison.Draft.empty
  let m := Comparison.mannerOf call.arguments options d
  let compare (left right : Octets) : Work Unit := do
    raiseStatus (← Comparison.compareNames m 1000 none (some left) (some right))
  let last := (call.arguments.getLast?).getD call.name
  match d.leftFile, d.rightFile with
  | some _, some _ => Work.fail 2 "--from-file and --to-file both specified"
  | some left, none => options.operands.forM (compare left ·)
  | none, some right => options.operands.forM (compare · right)
  | none, none =>
    match options.operands with
    | [left, right] => compare left right
    | _ :: _ :: extra :: _ => Comparison.refuseCall s!"extra operand '{extra}'"
    | _ => Comparison.refuseCall s!"missing operand after '{last}'"

end ElmAssay.Machine.Utility
