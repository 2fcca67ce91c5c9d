import ElmAssay.Machine.Edit.Reader
import ElmAssay.Machine.Utility.Paths

/-!
# Editing

The program that edits the lines that stream through it (`sed`). It takes one line after the other into its pattern space,
runs the commands of its script for it, and writes what comes of it (`Editor`). A line may stay without an end if it is
the last one (`Space`).
-/

namespace ElmAssay.Machine.Utility

open Text Work Edit

/-- What an editor holds of a line: its characters, and whether a line end belongs behind them. -/
structure Space where
  text : List Char
  isWhole : Bool
  deriving DecidableEq, Repr

/-- The space that nothing was put into. -/
def Space.blank : Space := ⟨[], true⟩

/-- The ranges that are open in front of the first line. -/
def startRanges (commands : List Command) : List (Nat × Option Nat) :=
  commands.zipIdx.filterMap fun (c, i) =>
    match c.selection with
    | .fromTop _ => some (i, none)
    | _ => none

/-- What is written at the end of the turn of a line. -/
inductive Queued
  | text (s : Octets)
  | file (path : Octets)
  | line (path : Octets)
  deriving DecidableEq, Repr

/-- The input of an editor: the paths that were not opened yet, the file that is open, its path, what was read of it and
not taken yet, and whether it was read to its end. -/
structure Stream where
  paths : List Octets
  file : Option Nat
  path : Octets
  held : List Char
  isDone : Bool
  deriving DecidableEq, Repr

/-- How an editor works. -/
structure EditManner where
  commands : Array Command
  isSilent : Bool
  /-- Whether each file stands for itself. -/
  isSeparate : Bool
  /-- The ending of the name of a copy, if files are edited in place. -/
  inPlace : Option Octets
  lineEnd : Char
  /-- How long the lines are that show everything. -/
  listWidth : Nat

/-- The state of an editor. -/
structure Editor where
  pattern : Space
  hold : Space
  queue : List Queued
  lineNumber : Nat
  hasReplaced : Bool
  /-- The commands that are in a range, by their places, with the line that ends it if that is known. -/
  ranges : List (Nat × Option Nat)
  lastSearch : Option Regex
  stream : Stream
  /-- The files that are written to, with the numbers under which they are open. -/
  sinks : List (Octets × Nat)
  /-- The lines that are left of the files that are read line by line. -/
  sources : List (Octets × List Octets)
  /-- What is written in place of the file that is edited, latest first. -/
  edited : Option (List Octets)
  /-- Whether the last line that was written has no end. -/
  lacksEnd : Bool

/-- A step of an editor. -/
abbrev Editing (α : Type) := StateT Editor Work α

namespace Editing

/-- Asks the system for something. -/
def ask (r : Request) : Editing r.Answer := monadLift (Work.ask r : Work r.Answer)

/-- A step of a utility as a step of an editor. -/
def lift {α : Type} (w : Work α) : Editing α := monadLift w

/-- Tells of something, in front of all that was not written yet. -/
def tell (message : Octets) : Editing Unit := lift do
  let name := (← get).name
  say s!"{name}: {message}\n"

/-- Tells of something and ends the editor. -/
def fail {α : Type} (status : Nat) (message : Octets) : Editing α := do
  tell message
  lift (quit status)

/-! ## Output -/

/-- Writes a text as it is. -/
def writeRaw (s : Octets) : Editing Unit := do
  match (← get).edited with
  | some done => modify fun e => { e with edited := some (s :: done) }
  | none => lift (put s)

/-- Writes the line end that is missing, if one is. -/
def endLine (m : EditManner) : Editing Unit := do
  if (← get).lacksEnd then
    writeRaw m.lineEnd.toString
    modify fun e => { e with lacksEnd := false }

/-- Writes a text behind the end of the last line. -/
def writeText (m : EditManner) (s : Octets) : Editing Unit := do
  endLine m
  writeRaw s

/-- Writes a line, with an end if it has one. -/
def writeLine (m : EditManner) (s : Space) : Editing Unit := do
  endLine m
  writeRaw (Octets.narrow s.text ++ if s.isWhole then m.lineEnd.toString else "")
  modify fun e => { e with lacksEnd := !s.isWhole }

/-- Writes a line to a file. -/
def writeTo (m : EditManner) (path : Octets) (s : Space) : Editing Unit := do
  let line := Octets.narrow s.text ++ if s.isWhole then m.lineEnd.toString else ""
  if path = "/dev/stdout" then
    if (← get).edited.isSome then lift (put line) else writeLine m s
  else if path = "/dev/stderr" then lift (say line)
  else
    match (← get).sinks.lookup path with
    | some file =>
      let _ ← ask (.write file line)
    | none => return

/-- The next line of a file that is read line by line. -/
def sourceLine? (path : Octets) : Editing (Option Octets) := do
  let lines ←
    match (← get).sources.lookup path with
    | some lines => pure lines
    | none => pure (linesOf (((← lift (Work.lift (Routine.readFile path))).toOption).getD ""))
  modify fun e => { e with sources := (path, lines.drop 1) :: e.sources.filter (·.1 != path) }
  return lines.head?

/-- Writes what was kept for the end of the turn. -/
def writeQueue (m : EditManner) : Editing Unit := do
  let queue := (← get).queue.reverse
  modify fun e => { e with queue := [] }
  for item in queue do
    match item with
    | .text s => writeText m s
    | .file path =>
      match ← lift (readOperand (if path = "/dev/stdin" then "-" else path)) with
      | .ok data => if !data.isEmpty then writeText m data
      | .error _ => pure ()
    | .line path =>
      match ← sourceLine? path with
      | some line => writeLine m ⟨Octets.widen line, true⟩
      | none => pure ()

/-! ## Input -/

/-- Changes what is held of the input. -/
def setStream (change : Stream → Stream) : Editing Unit := modify fun e => { e with stream := change e.stream }

/-- Opens the next file; whether there was a path at all. -/
def openNext (m : EditManner) : Editing Bool := do
  match (← get).stream.paths with
  | [] => return false
  | path :: paths =>
    setStream fun s => { s with paths := paths }
    let isInput := path == "-" && m.inPlace.isNone
    if m.inPlace.isSome && (← lift (isDirectoryAt path)) then
      fail 4 s!"couldn't edit {path}: not a regular file"
    match ← if isInput then pure (.ok 0) else ask (.openFile path .reading) with
    | .ok file =>
      setStream fun s => { s with file := some file, path := path, held := [], isDone := false }
      if m.isSeparate then
        modify fun e =>
          { e with lineNumber := 0, hold := Space.blank, ranges := startRanges m.commands.toList, sources := [] }
      if m.inPlace.isSome then modify fun e => { e with edited := some [], lacksEnd := false }
    | .error r =>
      tell s!"can't read {path}: {r.wording}"
      lift (raiseStatus 2)
    return true

/-- The path of the copy of a file that is edited. -/
def copyPath (ending path : Octets) : Octets :=
  if ending.toList.contains '*' then
    let name := (lastName path).intercalate (ending.splitOn "*")
    if ending.toList.contains '/' then name else joinPath (parentPath path) name
  else path ++ ending

/-- Puts what was edited in the place of the file. -/
def finishFile (m : EditManner) : Editing Unit := do
  let e ← get
  match e.edited, m.inPlace with
  | some done, some ending =>
    let path := e.stream.path
    let rights := (← ask (.info path true)).toOption.elim fileRights Info.rights
    if !ending.isEmpty then
      let _ ← ask (.rename path (copyPath ending path))
    else
      let _ ← ask (.removeFile path)
    let _ ← lift (Work.lift (Routine.writeFile path .writing (String.join done.reverse)))
    let _ ← ask (.setRights path rights)
    modify fun e => { e with edited := none, lacksEnd := false }
  | _, _ => return

/-- Closes the file that is open. -/
def closeFile (m : EditManner) : Editing Unit := do
  match (← get).stream.file with
  | none => return
  | some file =>
    finishFile m
    if file != 0 then
      let _ ← ask (.close file)
    setStream fun s => { s with file := none }

/-- Reads on in the open file, if nothing is held of it. -/
def fill : Editing Unit := do
  let s := (← get).stream
  match s.file with
  | none => return
  | some file =>
    if s.held.isEmpty && !s.isDone then
      match ← ask (.read file Routine.blockSize) with
      | .ok data => setStream fun s => { s with held := data.toList, isDone := data.isEmpty }
      | .error r => fail 4 s!"read error on {s.path}: {r.wording}"

/-- Takes the rest of the line from the open file, behind its front; whether it has an end. The fuel bounds the blocks. -/
def takeRest (m : EditManner) : Nat → List Char → Editing (List Char × Bool)
  | 0, front => return (front, false)
  | fuel + 1, front => do
    fill
    let held := (← get).stream.held
    if held.isEmpty then return (front, false)
    let part := held.takeWhile (· != m.lineEnd)
    let rest := held.drop part.length
    setStream fun s => { s with held := rest.drop 1 }
    if rest.isEmpty then takeRest m fuel (front ++ part) else return (front ++ part, true)

/-- How many steps of reading there may be. -/
def readingLimit : Nat := 1000000000

/-- Takes the next line from the files; `none` at the end of all. The fuel bounds the files. -/
def takeLine? (m : EditManner) : Nat → Editing (Option Space)
  | 0 => return none
  | fuel + 1 => do
    if (← get).stream.file.isNone then
      if ← openNext m then takeLine? m fuel else return none
    else
      fill
      if (← get).stream.held.isEmpty then
        closeFile m
        takeLine? m fuel
      else
        let (line, isWhole) ← takeRest m readingLimit []
        let hasMore := !m.isSeparate && !(← get).stream.paths.isEmpty
        modify fun e => { e with lineNumber := e.lineNumber + 1 }
        return some ⟨Octets.widen (String.ofList line), isWhole || hasMore⟩

/-- How many files there may be. -/
def filesLimit : Editing Nat := do return 2 * (← get).stream.paths.length + 3

/-- Whether no line follows in any file. The fuel bounds the files. -/
def isAtEnd (m : EditManner) : Nat → Editing Bool
  | 0 => return true
  | fuel + 1 => do
    fill
    let s := (← get).stream
    if s.file.isSome && !s.held.isEmpty then return false
    else if m.isSeparate then return true
    else
      closeFile m
      if ← openNext m then isAtEnd m fuel else return true

/-- Whether the line is the last one. -/
def isLast (m : EditManner) : Editing Bool := do isAtEnd m (← filesLimit)

/-! ## Selecting -/

/-- The expression that is looked for, which is the one that was used last from now on. -/
def expression (s : Sought) : Editing Regex := do
  match s.expression.or (← get).lastSearch with
  | some r =>
    modify fun e => { e with lastSearch := some r }
    return r
  | none => fail 1 "-e expression #1, char 0: no previous regular expression"

/-- Whether something is found in the line. -/
def finds (s : Sought) : Editing Bool := do
  let r ← expression s
  return r.occursIn s.manner (← get).pattern.text

/-- Whether the line is at an address. -/
def isAt (m : EditManner) (a : Address) : Editing Bool := do
  let n := (← get).lineNumber
  match a with
  | .line k => return n == k
  | .every first step => return first ≤ n && (n - first) % step == 0
  | .last => isLast m
  | .found s => finds s

/-- Whether a range ends with the line, where `stop` is the line that ends it if that is known. -/
def endsRange (m : EditManner) (b : Bound) (stop : Option Nat) : Editing Bool := do
  match stop, b with
  | some k, _ => return k ≤ (← get).lineNumber
  | none, .last => isLast m
  | none, .found s => finds s
  | none, _ => return true

/-- The line that ends a range that starts with a line, if it is known. -/
def stopOf (b : Bound) (n : Nat) : Option Nat :=
  match b with
  | .line k => some k
  | .after k => some (n + k)
  | .multiple k => some ((n / k + 1) * k)
  | .last => none
  | .found _ => none

/-- Forgets the range of a command, or notes it. -/
def noteRange (i : Nat) (range : Option (Option Nat)) : Editing Unit :=
  modify fun e => { e with ranges := (range.map (i, ·)).toList ++ e.ranges.filter (·.1 != i) }

/-- Whether the line is in the range of a command, in which the line before was. -/
def staysIn (m : EditManner) (i : Nat) (b : Bound) (stop : Option Nat) : Editing Bool := do
  if ← endsRange m b stop then noteRange i none
  return true

/-- Whether the line starts the range of a command. -/
def startsRange (m : EditManner) (i : Nat) (a : Address) (b : Bound) : Editing Bool := do
  if !(← isAt m a) then return false
  let n := (← get).lineNumber
  let stop := stopOf b n
  if stop.any (· ≤ n) then return true
  if b == .last && (← isLast m) then return true
  noteRange i (some stop)
  return true

/-- Whether a command is for the line. -/
def selects (m : EditManner) (i : Nat) (s : Selection) : Editing Bool := do
  let open? := (← get).ranges.lookup i
  match s with
  | .all => return true
  | .one a => isAt m a
  | .fromTop found =>
    match open? with
    | some stop => staysIn m i (.found found) stop
    | none => return false
  | .range a b =>
    match open? with
    | none => startsRange m i a b
    | some stop =>
      if stop.any (· < (← get).lineNumber) then
        noteRange i none
        startsRange m i a b
      else staysIn m i b stop

/-! ## Commands -/

/-- What comes after a command. -/
inductive Flow
  | goesOn (i : Nat)
  /-- The turn of the line ends. -/
  | ends
  /-- The turn ends without the line being written. -/
  | drops
  /-- The commands start again with what is left of the line. -/
  | restarts
  | quits (status : Nat)
  | quitsAtOnce (status : Nat)

/-- Changes what is held of the line. -/
def setPattern (change : Space → Space) : Editing Unit := modify fun e => { e with pattern := change e.pattern }

/-- A line behind another one. -/
def joined (m : EditManner) (a b : Space) : Space := ⟨a.text ++ m.lineEnd :: b.text, b.isWhole⟩

/-- The first line in the space. -/
def firstLine (m : EditManner) (s : Space) : Space :=
  ⟨s.text.takeWhile (· != m.lineEnd), s.isWhole || s.text.contains m.lineEnd⟩

/-- Makes replacements in the line. -/
def substitute (m : EditManner) (s : Substitution) : Editing Unit := do
  let r ← expression s.sought
  let (text, any) := s.apply r (← get).pattern.text
  if any then
    setPattern fun p => { p with text := text }
    modify fun e => { e with hasReplaced := true }
    if s.prints then writeLine m (← get).pattern
    match s.file with
    | some path => writeTo m path (← get).pattern
    | none => return

/-- Does what a command does at a place; `isOpen` says whether the range of the command goes on. -/
def perform (m : EditManner) (i : Nat) (isOpen : Bool) (a : Action) : Editing Flow := do
  let onward : Flow := .goesOn (i + 1)
  match a with
  | .opens => return onward
  | .closes => return onward
  | .label _ => return onward
  | .jump condition name =>
    let target : Flow :=
      if name.isEmpty then .ends else ((labelPlace? m.commands.toList name).map .goesOn).getD .ends
    let replaced := (← get).hasReplaced
    ask .pass
    match condition with
    | .always => return target
    | .afterReplacement =>
      modify fun e => { e with hasReplaced := false }
      return if replaced then target else onward
    | .withoutReplacement =>
      modify fun e => { e with hasReplaced := false }
      return if replaced then onward else target
  | .append text =>
    if !text.isEmpty then modify fun e => { e with queue := .text text :: e.queue }
    return onward
  | .insert text =>
    writeText m text
    return onward
  | .change text =>
    if !isOpen then writeText m text
    return .drops
  | .substitute s =>
    substitute m s
    return onward
  | .transliterate table =>
    setPattern fun p => { p with text := p.text.map fun c => (table.lookup c).getD c }
    return onward
  | .delete => return .drops
  | .deleteFirst =>
    let p := (← get).pattern
    if p.text.contains m.lineEnd then
      setPattern fun p => { p with text := (p.text.dropWhile (· != m.lineEnd)).drop 1 }
      return .restarts
    return .drops
  | .print =>
    writeLine m (← get).pattern
    return onward
  | .printFirst =>
    writeLine m (firstLine m (← get).pattern)
    return onward
  | .list width =>
    let n := width.getD m.listWidth
    writeText m (shownLine (if n = 0 then none else some (n - 1)) (Octets.narrow (← get).pattern.text))
    return onward
  | .number =>
    writeText m (Numeral.text (← get).lineNumber ++ "\n")
    return onward
  | .fileName =>
    writeText m ((← get).stream.path ++ "\n")
    return onward
  | .next =>
    if ← isLast m then return .ends
    if !m.isSilent then writeLine m (← get).pattern
    writeQueue m
    match ← takeLine? m (← filesLimit) with
    | some s =>
      modify fun e => { e with pattern := s }
      return onward
    | none => return .drops
  | .nextJoined =>
    if ← isLast m then return .ends
    writeQueue m
    match ← takeLine? m (← filesLimit) with
    | some s =>
      setPattern fun p => joined m p s
      return onward
    | none => return .ends
  | .hold =>
    modify fun e => { e with hold := e.pattern }
    return onward
  | .holdJoined =>
    modify fun e => { e with hold := joined m e.hold e.pattern }
    return onward
  | .get =>
    modify fun e => { e with pattern := e.hold }
    return onward
  | .getJoined =>
    modify fun e => { e with pattern := joined m e.pattern e.hold }
    return onward
  | .exchange =>
    modify fun e => { e with pattern := e.hold, hold := e.pattern }
    return onward
  | .empty =>
    setPattern fun p => { p with text := [] }
    return onward
  | .quit status => return .quits status
  | .quitAtOnce status => return .quitsAtOnce status
  | .readFile path =>
    modify fun e => { e with queue := .file path :: e.queue }
    return onward
  | .readLine path =>
    modify fun e => { e with queue := .line path :: e.queue }
    return onward
  | .writeFile path =>
    writeTo m path (← get).pattern
    return onward
  | .writeFirst path =>
    writeTo m path (firstLine m (← get).pattern)
    return onward

/-- Runs the commands from a place on. The fuel bounds their count. -/
def runFrom (m : EditManner) : Nat → Nat → Editing Flow
  | 0, _ => return .ends
  | fuel + 1, i => do
    match m.commands[i]? with
    | none => return .ends
    | some c =>
      if (← selects m i c.selection) = c.isNegated then
        let skipped := if c.action == .opens then blockLength 0 (m.commands.toList.drop (i + 1)) else 0
        runFrom m fuel (i + 1 + skipped)
      else
        let isOpen := ((← get).ranges.lookup i).isSome && !c.isNegated
        match ← perform m i isOpen c.action with
        | .goesOn j => runFrom m fuel j
        | flow => return flow

/-- How many commands may run. -/
def commandLimit : Nat := 1000000000000

/-- Ends the editor with a status. What was not taken of the input is given back. -/
def stop (m : EditManner) (status : Nat) : Editing Unit := do
  let s := (← get).stream
  match s.file with
  | some file => Work.lift (Routine.goBack file s.held.length)
  | none => pure ()
  finishFile m
  lift (raiseStatus status)

/-- Runs the commands for one line after the other; `isFresh` says whether a line is to be taken first. The fuel bounds the
lines. -/
def runLines (m : EditManner) : Nat → Bool → Editing Unit
  | 0, _ => return
  | fuel + 1, isFresh => do
    let isThere ←
      if !isFresh then pure true
      else
        match ← takeLine? m (← filesLimit) with
        | some s =>
          modify fun e => { e with pattern := s, hasReplaced := false }
          pure true
        | none => pure false
    if !isThere then return
    let finish : Editing Unit := do
      if !m.isSilent then writeLine m (← get).pattern
      writeQueue m
    match ← runFrom m commandLimit 0 with
    | .quitsAtOnce status => stop m status
    | .quits status =>
      finish
      stop m status
    | .restarts =>
      ask .pass
      writeQueue m
      runLines m fuel false
    | .drops =>
      writeQueue m
      runLines m fuel true
    | _ =>
      finish
      runLines m fuel true

end Editing

/-! ## The program -/

/-- The paths of the files that commands write to. -/
def sinkPaths (commands : List Command) : List Octets :=
  commands.filterMap fun c =>
    match c.action with
    | .writeFile path => some path
    | .writeFirst path => some path
    | .substitute s => s.file
    | _ => none

/-- Opens the files that commands write to. -/
def openSinks (paths : List Octets) : Work (List (Octets × Nat)) := do
  let mut sinks : List (Octets × Nat) := []
  for path in paths do
    if path != "/dev/stdout" && path != "/dev/stderr" && (sinks.lookup path).isNone then
      match ← ask (.openFile path .writing) with
      | .ok file => sinks := sinks ++ [(path, file)]
      | .error r => Work.fail 4 s!"couldn't open file {path}: {r.wording}"
  return sinks

/-- The scripts that options give. -/
def readChapters (options : Arguments) : Work (List Chapter) := do
  let mut chapters : List Chapter := []
  for (key, value) in options.options do
    let value := value.getD ""
    if key = 'e' then chapters := chapters ++ [⟨none, value⟩]
    if key = 'f' then
      match ← readOperand value with
      | .ok data => chapters := chapters ++ [⟨some value, data⟩]
      | .error r => Work.fail 4 s!"couldn't open file {value}: {r.wording}"
  return chapters

/-- Edits the lines of files. -/
def sed : Utility := fun _ call => complete call.name do
  let usage : Work Arguments := do
    say s!"Usage: {call.name} [OPTION]... \x7bscript-only-if-no-other-script\x7d [input-file]...\n\n"
    quit 1
  let onDefect (message : Octets) : Work Arguments := do
    warn message
    usage
  let options ← Arguments.readFrom
    ⟨[.flag 'n' "quiet", .named 'n' "silent" .nothing, .valued 'e' "expression", .valued 'f' "file",
      .flag 'E' "regexp-extended", .flag 'r' "", .named 'i' "in-place" .attached, ⟨'i', true, "", .attached⟩,
      .flag 's' "separate", .flag 'z' "null-data", .flag 'u' "unbuffered", .valued 'l' "line-length",
      .named '1' "posix" .nothing, .named '2' "sandbox" .nothing, .named '3' "follow-symlinks" .nothing,
      .flag 'b' "binary"], false, onDefect⟩ (call.arguments.length + 1) ⟨[], []⟩ call.arguments
  let given ← readChapters options
  let (chapters, paths) ←
    match given, options.operands with
    | [], [] =>
      let _ ← usage
      pure ([], [])
    | [], script :: paths => pure ([⟨none, script⟩], paths)
    | chapters, paths => pure (chapters, paths)
  match Edit.read ⟨options.has 'E' || options.has 'r'⟩ chapters with
  | .error e =>
    say s!"{call.name}: {e.message}\n"
    quit (if e.isPlaced then 1 else 4)
  | .ok script =>
    let isInPlace := options.has 'i'
    let m : EditManner :=
      { commands := script.commands.toArray, isSilent := script.isSilent || options.has 'n'
        isSeparate := options.has 's' || isInPlace
        inPlace := if isInPlace then some ((options.value? 'i').getD "") else none
        lineEnd := if options.has 'z' then '\x00' else '\n'
        listWidth := ((options.value? 'l').bind Numeral.plain?).getD 70 }
    let sinks ← openSinks (sinkPaths script.commands)
    let start : Editor :=
      { pattern := .blank, hold := .blank, queue := [], lineNumber := 0, hasReplaced := false
        ranges := startRanges script.commands, lastSearch := none
        stream := ⟨orInput paths, none, "-", [], false⟩, sinks := sinks, sources := [], edited := none
        lacksEnd := false }
    let _ ← (Editing.runLines m Editing.readingLimit true).run start

end ElmAssay.Machine.Utility
