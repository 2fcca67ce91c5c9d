import ElmAssay.Machine.Regex
import ElmAssay.Machine.Regex.Reader
import ElmAssay.Machine.Regex.Rich
import ElmAssay.Machine.Utility.Paths
import ElmAssay.Machine.Utility.Reading
import ElmAssay.Machine.Wildcard

/-!
# The program that searches files

The program that shows the lines of files in which a pattern occurs (`grep`): which files it searches (`Reach`), and how
its options are read.

What is looked for in the lines of a file is a `Query`; what is shown of a line that was found, and of the lines around
it, is its `Display`. A file is walked block by block and line by line (`Walk`, `searchOpen`).
-/

namespace ElmAssay.Machine.Utility

open Text Work

/-! ## What is looked for -/

/-- What a line has to hold to be found: a match of one of some expressions, or none. The matches may be the first ones
that are come upon instead of the longest ones. -/
structure Query where
  expressions : List Regex
  manner : Regex.Manner
  takesFirst : Bool
  isInverted : Bool

namespace Query

/-- The better one of two matches: the one that starts first, or else the longer one. -/
def better (a b : Regex.Found) : Regex.Found :=
  if a.start < b.start || (a.start == b.start && b.stop ≤ a.stop) then a else b

/-- The first of the matches from a place on. -/
def find? (q : Query) (t : Array Char) (start : Nat) : Option Regex.Found :=
  let found := q.expressions.filterMap fun r =>
    if q.takesFirst then r.findFirst? q.manner t start else r.find? q.manner t start
  found.foldl (fun best f => some (best.elim f (better · f))) none

/-- Whether a line is found. -/
def finds (q : Query) (line : List Char) : Bool := (q.find? line.toArray 0).isSome != q.isInverted

/-- The matches in a line that are not empty: from where up to where. The fuel bounds their count. -/
def parts (q : Query) (t : Array Char) : Nat → Nat → List (Nat × Nat)
  | 0, _ => []
  | fuel + 1, start =>
    match q.find? t start with
    | none => []
    | some f =>
      if f.stop ≤ f.start then if f.start < t.size then q.parts t fuel (f.start + 1) else []
      else (f.start, f.stop) :: q.parts t fuel f.stop

end Query

/-! ## What is shown -/

/-- What is told of the files instead of lines. -/
inductive Telling
  | lines
  | counts
  /-- The names of the files in which something was found, or of the others. -/
  | names (found : Bool)
  | nothing
  deriving DecidableEq, Repr

/-- What becomes of a file that is no text. -/
inductive BinaryManner
  /-- Only that something was found in it is told. -/
  | told
  /-- It counts as a text. -/
  | shown
  /-- Nothing is found in it. -/
  | skipped
  deriving DecidableEq, Repr

/-- What is shown. -/
structure Display where
  telling : Telling
  hasNumbers : Bool
  hasOffsets : Bool
  showsParts : Bool
  hasColors : Bool
  /-- Whether lines begin at a stop of tabs. -/
  isAligned : Bool
  /-- The count of lines in front of a line that was found, and behind it, if lines around it are shown at all. -/
  around : Option (Nat × Nat)
  /-- What stands between lines that do not follow each other. -/
  apart : Option Octets
  limit : Option Nat
  binary : BinaryManner
  lineEnd : Char
  nameEnd : Option Char
  deriving DecidableEq, Repr

/-- A line with its number and the place where it starts. -/
structure PlacedLine where
  text : Octets
  number : Nat
  offset : Nat
  deriving DecidableEq, Repr

/-- The state of a walk through a file: the count of lines that were found, the last lines that were not shown, latest
first, how many lines behind one that was found are still shown, the number of the last line that was shown, whether
parts of the file were held back because they are no text, and whether anything was shown at all. -/
structure Walk where
  found : Nat
  waiting : List PlacedLine
  after : Nat
  last : Nat
  isHeldBack : Bool
  hasShown : Bool

namespace Display

/-- A text in the color that a code stands for. -/
def painted (d : Display) (code : String) (s : Octets) : Octets :=
  if d.hasColors then s!"\x1b[{code}m\x1b[K{s}\x1b[m\x1b[K" else s

/-- A name as it stands in front of what is told of a file. -/
def nameField (d : Display) (name : Octets) (mark : Char) : Octets :=
  d.painted "35" name ++
    match d.nameEnd with
    | some c => String.singleton c
    | none => d.painted "36" (String.singleton mark)

/-- What stands in front of a text in a line. -/
def heading (d : Display) (name : Option Octets) (mark : Char) (number offset : Nat) (isEmpty : Bool) : Octets :=
  let field (shown : Bool) (n : Nat) : Octets :=
    if shown then
      d.painted "32" (Numeral.padLeft ' ' (if d.isAligned then 2 else 0) (Numeral.text n)) ++
        d.painted "36" (String.singleton mark)
    else ""
  let tab := if d.isAligned && !isEmpty && (name.isSome || d.hasNumbers || d.hasOffsets) then "\t" else ""
  name.elim "" (d.nameField · mark) ++ field d.hasNumbers number ++ field d.hasOffsets offset ++ tab

/-- Whether a text is none in the encoding of characters. -/
def isGarbled (s : List Char) : Bool := s.any fun c => Octets.strayBase ≤ c.toNat

/-- The text between two places of a line. -/
def between (t : Array Char) (start stop : Nat) : Octets := Octets.narrow (t.extract start stop).toList

/-- A line in which the matches have a color. -/
def withColors (d : Display) (q : Query) (t : Array Char) : Octets :=
  let step (acc : Nat × Octets) (part : Nat × Nat) : Nat × Octets :=
    (part.2, acc.2 ++ between t acc.1 part.1 ++ d.painted "01;31" (between t part.1 part.2))
  let (stop, text) := (q.parts t (t.size + 1) 0).foldl step (0, "")
  text ++ between t stop t.size

/-- Shows a line. Lines that do not follow each other are parted by a mark. -/
def showLine (d : Display) (q : Query) (name : Option Octets) (isFound : Bool) (l : PlacedLine) (w : Walk) :
    Work Walk := do
  let isApart := w.last + 1 != l.number || w.last = 0
  if d.around.isSome && w.hasShown && isApart then
    match d.apart with
    | some mark => put (d.painted "36" mark ++ "\n")
    | none => pure ()
  let wide := Octets.widen l.text
  let mark := if isFound then ':' else '-'
  let shown := { w with last := l.number, hasShown := true }
  if isGarbled wide && d.binary != .shown then return { shown with isHeldBack := true }
  let isMatch := isFound != q.isInverted
  if !d.showsParts then
    let text := if d.hasColors && isMatch then d.withColors q wide.toArray else l.text
    put (d.heading name mark l.number l.offset l.text.isEmpty ++ text ++ d.lineEnd.toString)
  else if isMatch then
    let t := wide.toArray
    for (start, stop) in q.parts t (wide.length + 1) 0 do
      let offset := l.offset + (between t 0 start).length
      put (d.heading name mark l.number offset false ++ d.painted "01;31" (between t start stop) ++ d.lineEnd.toString)
  return shown

/-- Takes a line of a file. -/
def step (d : Display) (q : Query) (name : Option Octets) (w : Walk) (l : PlacedLine) : Work Walk := do
  let (before, after) := d.around.getD (0, 0)
  if q.finds (Octets.widen l.text) then
    let w := { w with found := w.found + 1 }
    if d.telling != .lines then return w
    let w ← w.waiting.reverse.foldlM (fun w l => d.showLine q name false l w) w
    let w ← d.showLine q name true l w
    return { w with waiting := [], after := after }
  else if d.telling != .lines then return w
  else if 0 < w.after then
    let w ← d.showLine q name false l w
    return { w with after := w.after - 1 }
  else return { w with waiting := (l :: w.waiting).take before }

/-- Takes lines until enough were found; the answer has the lines that are left. -/
def takeLines (d : Display) (q : Query) (name : Option Octets) (isEnough : Walk → Bool) :
    List PlacedLine → Walk → Work (Walk × List PlacedLine)
  | [], w => return (w, [])
  | l :: rest, w => do
    if isEnough w then return (w, l :: rest)
    takeLines d q name isEnough rest (← d.step q name w l)

/-- Shows the lines behind the last one that was looked for, whatever they hold. -/
def showRest (d : Display) (q : Query) (name : Option Octets) : List PlacedLine → Walk → Work Walk
  | [], w => return w
  | l :: rest, w => do
    if w.after = 0 then return w
    let w ← d.showLine q name false l w
    showRest d q name rest { w with after := w.after - 1 }

end Display

/-! ## Files -/

/-- The lines of a text with their numbers and places, from the number and the place of the first one on, and those of
the line behind. -/
def placedLines (lineEnd : Char) (number offset : Nat) (s : Octets) : List PlacedLine × Nat × Nat :=
  let place (acc : List PlacedLine × Nat × Nat) (part : Octets) : List PlacedLine × Nat × Nat :=
    let (done, number, offset) := acc
    (⟨part, number, offset⟩ :: done, number + 1, offset + part.length + 1)
  let (done, next) := (partsBy lineEnd s).foldl place ([], number, offset)
  (done.reverse, next)

/-- What a search holds between files: whether something was found, and whether a line was shown. -/
structure Findings where
  hasFound : Bool
  hasShown : Bool

/-- A file in which a search is going on: the walk through it, the line that was not read to its end, the number and the
place of the next line, and whether the file is no text. -/
structure Passage where
  walk : Walk
  started : Octets
  number : Nat
  offset : Nat
  isBinary : Bool

/-- The text of a block behind a line that was started, up to the end of its last whole line, and the line that it
starts. -/
def wholeLines (lineEnd : Char) (started data : Octets) : Octets × Octets :=
  let cs := (started ++ data).toList
  let open' := cs.reverse.takeWhile (· != lineEnd)
  (String.ofList (cs.take (cs.length - open'.length)), String.ofList open'.reverse)

/-- Searches an open file. -/
def searchOpen (q : Query) (d : Display) (name : Octets) (isNamed : Bool) (file : Nat) (f : Findings) :
    Work (Except Refusal Findings) := do
  let title := if isNamed then some name else none
  let tellsOne := d.telling != .lines && d.telling != .counts
  /- Takes a text of whole lines. The answer says whether enough was found. -/
  let take (p : Passage) (text : Octets) : Work (Passage × Bool) := do
    let isBinary := p.isBinary || (d.binary != .shown && d.lineEnd != '\x00' && text.toList.contains '\x00')
    if isBinary && d.binary = .skipped then return ({ p with isBinary := true, walk := { p.walk with found := 0 } }, true)
    let isSilent := isBinary && d.telling = .lines
    let own := if isSilent then { d with telling := .nothing } else d
    let needsOne := tellsOne || isSilent
    let limit := if needsOne then some 1 else d.limit
    let isEnough (w : Walk) : Bool := limit.any (· ≤ w.found)
    let (lines, number, offset) := placedLines d.lineEnd p.number p.offset text
    let (w, rest) ← own.takeLines q title isEnough lines p.walk
    if isEnough w && !needsOne && isEnough p.walk = false then
      match rest with
      | next :: _ => Work.lift (Routine.goBack file (text.length + p.started.length - (next.offset - p.offset)))
      | [] => Work.lift (Routine.goBack file p.started.length)
    let w ← if d.telling = .lines && isEnough w then own.showRest q title rest w else pure w
    let isDone := isEnough w && (needsOne || w.after = 0 || d.telling != .lines)
    return ({ p with walk := w, number := number, offset := offset, isBinary := isBinary }, isDone)
  let start : Passage := ⟨⟨0, [], 0, 0, false, f.hasShown⟩, "", 1, 0, false⟩
  let result ← forBlocks file Routine.blockSize (fun p data => do
    let (text, started) := wholeLines d.lineEnd p.started data
    let (p, isDone) ← take { p with started := started } text
    return ({ p with started := if isDone then "" else p.started }, isDone)) readLimit start
  match result with
  | .error r => return .error r
  | .ok p =>
    let p ← if p.started.isEmpty then pure p else Prod.fst <$> take { p with started := "" } p.started
    let w := p.walk
    match d.telling with
    | .counts => putLine (title.elim "" (d.nameField · ':') ++ Numeral.text w.found)
    | .names found =>
      if (0 < w.found) = found then
        put (d.painted "35" name ++ String.singleton (d.nameEnd.getD '\n'))
    | .lines =>
      if w.isHeldBack || (p.isBinary && 0 < w.found) then
        warn s!"{name}: binary file matches"
    | .nothing => if 0 < w.found then quit 0
    return .ok ⟨f.hasFound || 0 < w.found, w.hasShown⟩

/-! ## Which files are searched -/

/-- The name by which a file is told of. -/
def shownName (label path : Octets) : Octets := if path = "-" then label else path

/-- Which files are searched. -/
structure Reach where
  isRecursive : Bool
  /-- Whether links are followed on the way. -/
  follows : Bool
  skipsDirectories : Bool
  /-- The patterns of the names of files that are searched, and of those that are not. -/
  included : List Wildcard
  excluded : List Wildcard
  excludedDirectories : List Wildcard
  isSilent : Bool
  /-- Whether names are shown, if that was said. -/
  isNamed : Option Bool
  label : Octets

namespace Reach

/-- Whether a file is searched that has a name. -/
def has (r : Reach) (name : Octets) : Bool :=
  let cs := name.toList
  (r.included.isEmpty || r.included.any (·.agrees cs)) && !r.excluded.any (·.agrees cs)

/-- Tells of a file that cannot be read. -/
def complainOf (r : Reach) (path : Octets) (refusal : Refusal) : Work Unit := do
  if !r.isSilent then warn s!"{path}: {refusal.wording}"
  raiseStatus 2

/-- Whether an open file is the one that the output goes to. -/
def isOutput (file : Nat) : Work Bool := do
  match ← ask (.infoOf file), ← ask (.infoOf 1) with
  | .ok i, .ok o => return i.isFile && o.isFile && i.serial = o.serial
  | _, _ => return false

/-- Searches a file. -/
def searchFile (r : Reach) (q : Query) (d : Display) (isNamed : Bool) (path : Octets) (f : Findings) :
    Work Findings := do
  let opened ← if path = "-" then pure (.ok 0) else ask (.openFile path .reading)
  match opened with
  | .error refusal =>
    r.complainOf path refusal
    return f
  | .ok file =>
    let name := shownName r.label path
    let isHarmless := d.telling = .nothing || d.limit = some 1 ||
      match d.telling with
      | .names _ => true
      | _ => false
    let loops ← if isHarmless then pure false else isOutput file
    if loops then
      if !r.isSilent then warn s!"{name}: input file is also the output"
      raiseStatus 2
      closeInput file
      return f
    let result ← searchOpen q d name isNamed file f
    closeInput file
    match result with
    | .ok f => return f
    | .error refusal =>
      r.complainOf path refusal
      return f

/-- Searches the files in a directory and below it. The fuel bounds the depth. -/
def searchDirectory (r : Reach) (q : Query) (d : Display) : Nat → Octets → Findings → Work Findings
  | 0, _, f => return f
  | fuel + 1, path, f => do
    match ← ask (.list (if path.isEmpty then "." else path)) with
    | .error refusal =>
      r.complainOf path refusal
      return f
    | .ok names =>
      let mut f := f
      for name in names do
        let inner := if path.isEmpty then name else joinPath path name
        let isSkipped ←
          match ← lookAtName inner with
          | .ok i => pure (if i.isLink then !r.follows else i.kind = .device || i.kind = .pipe)
          | .error _ => pure false
        if isSkipped then pure ()
        else if ← isDirectoryAt inner then
          if !r.excludedDirectories.any (·.agrees name.toList) then f ← searchDirectory r q d fuel inner f
        else if r.has name then f ← r.searchFile q d (r.isNamed.getD true) inner f
      return f

/-- Searches what an operand names. -/
def searchOperand (r : Reach) (q : Query) (d : Display) (isNamed : Bool) (path : Octets) (f : Findings) :
    Work Findings := do
  let isDirectory ← if path = "-" then pure false else isDirectoryAt path
  if isDirectory && r.skipsDirectories then return f
  else if isDirectory && r.isRecursive then
    if r.excludedDirectories.any (·.agrees (Ground.withoutSlashes path).toList) then return f
    else r.searchDirectory q d 1000 path f
  else if path != "-" && !isDirectory && !r.has (lastName path) then return f
  else r.searchFile q d isNamed path f

end Reach

/-! ## The program -/

/-- The options of a search. -/
def searchSwitches : List Switch :=
  [.flag 'E' "extended-regexp", .flag 'F' "fixed-strings", .flag 'G' "basic-regexp", .flag 'P' "perl-regexp",
   .valued 'e' "regexp", .valued 'f' "file", .flag 'i' "ignore-case", .flag 'y' "", .named 'J' "no-ignore-case" .nothing,
   .flag 'v' "invert-match", .flag 'w' "word-regexp", .flag 'x' "line-regexp", .flag 'c' "count",
   .flag 'l' "files-with-matches", .flag 'L' "files-without-match", .flag 'q' "quiet", .named 'q' "silent" .nothing,
   .flag 's' "no-messages", .flag 'n' "line-number", .flag 'b' "byte-offset", .flag 'H' "with-filename",
   .flag 'h' "no-filename", .flag 'o' "only-matching", .valued 'm' "max-count", .valued 'A' "after-context",
   .valued 'B' "before-context", .valued 'C' "context", .flag 'r' "recursive", .flag 'R' "dereference-recursive",
   .named '+' "include" .value, .named '-' "exclude" .value, .named '/' "exclude-dir" .value, .flag 'z' "null-data",
   .flag 'Z' "null", .flag 'a' "text", .flag 'U' "binary", .flag 'u' "", .flag 'I' "",
   .named '=' "color" .attached, .named '=' "colour" .attached, .named '"' "label" .value,
   .named '<' "line-buffered" .nothing, .named '_' "binary-files" .value, .valued 'd' "directories",
   .valued 'D' "devices", .flag 'T' "initial-tab", .valued 'X' "", .named '(' "group-separator" .value,
   .named ')' "no-group-separator" .nothing, .named '*' "exclude-from" .value] ++
    "0123456789".toList.map fun c => .flag c ""

/-- The usual form of a call, and the end of the program for want of one. -/
def searchUsageWith {α : Type} (status : Nat) : Work α := do
  flush
  let name := (← get).name
  say s!"Usage: {name} [OPTION]... PATTERNS [FILE]...\nTry '{name} --help' for more information.\n"
  quit status

/-- The usual form of a call, and the end of the program for want of one. -/
def searchUsage {α : Type} : Work α := searchUsageWith 2

/-- The count of lines around a line that was found. -/
def readAround (text : Octets) : Work Nat := do
  match Numeral.plain? text with
  | some n => return n
  | none => Work.fail 2 s!"{text}: invalid context length argument"

/-- The lines around a line that was found: one option tells of both sides, and one of each. -/
def readContext (options : Arguments) : Work (Option (Nat × Nat)) := do
  let digits := options.options.filterMap fun o => if isAsciiDigit o.1 then some o.1 else none
  let whole ←
    match options.value? 'C' with
    | some text => some <$> readAround text
    | none => pure none
  let isCounted := (options.options.filter fun o => o.1 == 'C' || isAsciiDigit o.1).getLast?.any (·.1 != 'C')
  let whole := if isCounted then some (Number.digitsValue digits) else whole
  let before ← (options.value? 'B').mapM readAround
  let after ← (options.value? 'A').mapM readAround
  if whole.isNone && before.isNone && after.isNone then return none
  return some ((before.or whole).getD 0, (after.or whole).getD 0)

/-- The texts of the patterns, one a line, and the operands that are left. -/
def readPatterns (options : Arguments) : Work (List Octets × List Octets) := do
  if !options.has 'e' && !options.has 'f' then
    match options.operands with
    | [] => searchUsage
    | first :: rest => return (first.splitOn "\n", rest)
  let mut patterns := (options.values 'e').flatMap fun s => s.splitOn "\n"
  for path in options.values 'f' do
    match ← readOperand path with
    | .ok data => patterns := patterns ++ linesOf data
    | .error r => Work.fail 2 s!"{path}: {r.wording}"
  return (patterns, options.operands)

/-- A way to write patterns. -/
inductive Writing
  | plain
  | regex (d : Regex.Dialect)
  | rich
  deriving DecidableEq, Repr

/-- The ways to write patterns by the names of those who match them. -/
def writingNamed? (name : Octets) : Option Writing :=
  match name with
  | "grep" => some (.regex ⟨false, false⟩)
  | "egrep" => some (.regex ⟨true, false⟩)
  | "fgrep" => some .plain
  | "perl" => some .rich
  | _ => none

/-- How the patterns are written. -/
def readWriting (options : Arguments) (usual : Writing) : Work Writing := do
  let step (chosen : Option Writing) (option : Char × Option Octets) : Work (Option Writing) := do
    let found ←
      match option with
      | ('E', _) => pure (some (Writing.regex ⟨true, false⟩))
      | ('F', _) => pure (some .plain)
      | ('G', _) => pure (some (.regex ⟨false, false⟩))
      | ('P', _) => pure (some .rich)
      | ('X', some name) =>
        match writingNamed? name with
        | some w => pure (some w)
        | none => Work.fail 2 s!"invalid matcher {name}"
      | _ => pure none
    match chosen, found with
    | some a, some b => if a = b then return chosen else Work.fail 2 "conflicting matchers specified"
    | chosen, found => return found.or chosen
  return (← options.options.foldlM step none).getD usual

/-- The expression of a pattern, which may have to match whole words or whole lines. -/
def readExpression (options : Arguments) (m : Regex.Manner) (w : Writing) (pattern : Octets) : Work Regex := do
  let wide := Octets.widen pattern
  let r ←
    match w with
    | .plain => pure (Regex.literal wide)
    | .rich =>
      match Regex.readRich m wide with
      | .ok r => pure r
      | .error e => Work.fail 2 e.message
    | .regex dialect =>
      for mark in Regex.strayMarks dialect wide do warn s!"warning: {mark} at start of expression"
      match Regex.read dialect wide with
      | .ok r => pure r
      | .error e => Work.fail 2 e.message
  let between (first last : Anchor) (r : Regex) : Regex := .both (.anchor first) (.both r (.anchor last))
  let r := if options.has 'w' then between .noWordBefore .noWordAfter r else r
  return if options.has 'x' then between .lineStart .lineEnd r else r

/-- What is told of the files. -/
def readTelling (options : Arguments) : Telling :=
  if options.has 'q' then .nothing
  else
    match options.last? ['l', 'L'] with
    | some key => .names (key == 'l')
    | none => if options.has 'c' then .counts else .lines

/-- What becomes of files that are no text. -/
def readBinary (options : Arguments) : Work BinaryManner := do
  match options.last? ['a', 'I', '_'] with
  | none => return .told
  | some 'a' => return .shown
  | some 'I' => return .skipped
  | some _ =>
    match (options.value? '_').getD "" with
    | "binary" => return .told
    | "text" => return .shown
    | "without-match" => return .skipped
    | _ => Work.fail 2 "unknown binary-files type"

/-- Whether what is found gets a color. -/
def readColors (options : Arguments) : Work Bool := do
  match (options.value? '=').getD "auto" with
  | "always" => return true
  | "yes" => return true
  | "force" => return true
  | word => if ["never", "no", "none", "auto", "tty", "if-tty"].contains word then return false else searchUsage

/-- What becomes of directories: whether they are walked through, and whether they are passed over. -/
def readDirectories (options : Arguments) : Work (Bool × Bool) := do
  match options.last? ['r', 'R', 'd'] with
  | some 'd' =>
    let word := (options.value? 'd').getD ""
    match Arguments.chosen? [(["read"], (false, false)), (["recurse"], (true, false)), (["skip"], (false, true))] word with
    | .ok found => return found
    | .error isAmbiguous =>
      let kind := if isAmbiguous then "ambiguous" else "invalid"
      let shown := Shown.marked word
      let option := Shown.marked "--directories"
      warn s!"{kind} argument {shown} for {option}"
      say "Valid arguments are:\n"
      for known in ["read", "recurse", "skip"] do
        let row := Shown.marked known
        say s!"  - {row}\n"
      searchUsageWith 1
  | some _ => return (true, false)
  | none => return (false, false)

/-- The count of lines after which a search ends. -/
def readLimit? (options : Arguments) : Work (Option Nat) := do
  match options.value? 'm' with
  | none => return none
  | some text =>
    match Numeral.whole? text.toList with
    | some n => return if n < 0 then none else some n.toNat
    | none => Work.fail 2 "invalid max count"

/-- Shows the lines of files in which a pattern occurs, where the patterns are written in some usual way. -/
def grepIn (usual : Writing) : Utility := fun _ call => complete call.name do
  let onDefect (message : Octets) : Work Arguments := do
    warn message
    searchUsage
  let options ← Arguments.readFrom ⟨searchSwitches, false, onDefect⟩ (call.arguments.length + 1) ⟨[], []⟩ call.arguments
  if options.has 'u' then warn "warning: --unix-byte-offsets (-u) is obsolete"
  let around ← readContext options
  let limit ← readLimit? options
  let writing ← readWriting options usual
  let hasColors ← readColors options
  let binary ← readBinary options
  let (isRecursive, skipsDirectories) ← readDirectories options
  if !(["read", "skip"].contains ((options.value? 'D').getD "read")) then Work.fail 2 "unknown devices method"
  let (patterns, operands) ← readPatterns options
  let ignoresCase := (options.last? ['i', 'y', 'J']).any (· != 'J')
  let lineEnd := if options.has 'z' then '\x00' else '\n'
  let m : Regex.Manner := ⟨ignoresCase, false⟩
  if writing = .rich && 1 < patterns.length then Work.fail 2 "the -P option only supports a single pattern"
  let expressions ← patterns.mapM (readExpression options m writing)
  let q : Query := ⟨expressions, m, writing = .rich, options.has 'v'⟩
  let d : Display :=
    { telling := readTelling options, hasNumbers := options.has 'n', hasOffsets := options.has 'b'
      showsParts := options.has 'o', around := if options.has 'o' then around.map fun _ => (0, 0) else around
      apart := if options.last? ['(', ')'] = some ')' then none else some ((options.value? '(').getD "--")
      hasColors := hasColors, isAligned := options.has 'T', limit := limit, binary := binary, lineEnd := lineEnd
      nameEnd := if options.has 'Z' then some '\x00' else none }
  let wildcards (key : Char) : List Wildcard := (options.values key).map fun s => Wildcard.ofText s.toList
  let listed ← (options.values '*').mapM fun path => do
    match ← readOperand path with
    | .ok data => pure ((linesOf data).map fun s => Wildcard.ofText s.toList)
    | .error r => Work.fail 2 s!"{path}: {r.wording}"
  let isNamed := (options.last? ['H', 'h']).map (· == 'H')
  let reach : Reach :=
    { isRecursive := isRecursive, follows := options.has 'R', skipsDirectories := skipsDirectories
      included := wildcards '+', excluded := wildcards '-' ++ listed.flatten
      excludedDirectories := wildcards '/', isSilent := options.has 's', isNamed := isNamed
      label := (options.value? '"').getD "(standard input)" }
  let isVain := options.has 'v' && patterns = [""] && !options.has 'w' && !options.has 'x'
  if limit = some 0 || isVain then quit 1
  let start : Findings := ⟨false, false⟩
  let f ←
    if operands.isEmpty && isRecursive then reach.searchDirectory q d 1000 "" start
    else
      (Work.orInput operands).foldlM
        (fun f path => reach.searchOperand q d (isNamed.getD (1 < operands.length)) path f) start
  if !f.hasFound then raiseStatus 1

/-- Shows the lines of files in which a pattern occurs. -/
def grep : Utility := grepIn (.regex ⟨false, false⟩)

/-- Shows the lines of files in which a pattern of the extended dialect occurs. -/
def egrep : Utility := fun ev call =>
  grepIn (.regex ⟨true, false⟩) ev { call with name := "grep" }

/-- Shows the lines of files in which a text occurs. -/
def fgrep : Utility := fun ev call =>
  grepIn .plain ev { call with name := "grep" }

/-- Shows the lines in which a pattern occurs, of files and of all that is below directories. -/
def rgrep : Utility := fun ev call =>
  grep ev { call with name := "grep", arguments := "-r" :: call.arguments }

end ElmAssay.Machine.Utility
