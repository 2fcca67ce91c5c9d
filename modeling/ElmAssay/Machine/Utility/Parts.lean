import ElmAssay.Machine.Quantity
import ElmAssay.Machine.Utility.Reading

/-!
# Parts of files

Programs that write the front of files (`head`) or their end (`tail`). The second one may go on with what is written to
the files later (`follow`).
-/

namespace ElmAssay.Machine.Utility

open Text Work

/-- How much of a file is meant. -/
inductive Amount
  | lines (n : Nat)
  | bytes (n : Nat)
  deriving DecidableEq, Repr

/-- The letters that may stand behind a count. -/
def countLetters : String := "bkKmMGTPEZY0"

/-- A count of lines or bytes that an option has to have. -/
def amountOf (ofLines : Bool) (text : Octets) : Work Amount := do
  if ofLines then return .lines (← Arguments.countWithin "invalid number of lines" countLetters 0 (2 ^ 64) text)
  else return .bytes (← Arguments.countWithin "invalid number of bytes" countLetters 0 (2 ^ 64) text)

/-- How the parts of files are chosen: the amount, whether it is left out or where the part starts, whether titles stand
before the parts, and the mark at the ends of lines. -/
structure Choice where
  amount : Amount
  isAway : Bool
  titles : Option Bool
  mark : Char

namespace Choice

/-- The choice where nothing was said. -/
def usual : Choice := ⟨.lines 10, false, none, '\n'⟩

end Choice

/-- The title of a part. -/
def titleOf (isFirst : Bool) (path : Octets) : Octets :=
  (if isFirst then "" else "\n") ++ "==> " ++ (if path = "-" then "standard input" else path) ++ " <==\n"

/-- Works on a file that is open under a number, and tells of what goes wrong. -/
def onPart (path : Octets) (work : Work (Except Refusal Unit)) : Work Unit := do
  match ← work with
  | .ok _ => return
  | .error r =>
    let name := Shown.quoted path
    complain s!"error reading {name}: {r.wording}"

/-- The message about a file that cannot be opened. -/
def unopened (path wording : Octets) : Octets :=
  let name := Shown.quoted path
  s!"cannot open {name} for reading: {wording}"

/-- The length of so many lines at the front of a text, and how many lines are missing. -/
def linesLength (mark : Char) : Nat → List Char → Nat × Nat
  | 0, _ => (0, 0)
  | n, [] => (0, n)
  | n + 1, c :: cs =>
    let (length, missing) := linesLength mark (if c = mark then n else n + 1) cs
    (length + 1, missing)

/-! ## Fronts -/

/-- How much is read at once of a file of which a part is wanted. -/
def partBlock : Nat := 8192

/-- Writes the front of an open file and goes back to its end where that is possible. -/
def writeFront (choice : Choice) (file : Nat) : Work (Except Refusal Unit) := do
  let step (left : Nat) (data : Octets) : Work (Nat × Bool) := do
    let (length, missing) :=
      match choice.amount with
      | .lines _ => linesLength choice.mark left data.toList
      | .bytes _ => (min left data.length, left - data.length)
    put (String.ofList (data.toList.take length))
    if missing = 0 then
      Work.lift (Routine.goBack file (data.length - length))
      return (0, true)
    else return (missing, false)
  let n :=
    match choice.amount with
    | .lines n => n
    | .bytes n => n
  if n = 0 then return .ok ()
  return (← forBlocks file partBlock step readLimit n).map fun _ => ()

/-- The length of a text without so much at its end. -/
def lengthWithout (choice : Choice) (s : Octets) : Nat :=
  match choice.amount with
  | .bytes n => s.length - n
  | .lines n =>
    let cs := s.toList
    if n = 0 then cs.length
    else (linesLength choice.mark ((partsBy choice.mark s).length - n) cs).1

/-- Writes an open file without so much at its end, and goes back to where that starts. -/
def writeWithout (choice : Choice) (file : Nat) : Work (Except Refusal Unit) := do
  match ← lift (Routine.readAll file) with
  | .error r => return .error r
  | .ok data =>
    let length := lengthWithout choice data
    put (String.ofList (data.toList.take length))
    Work.lift (Routine.goBack file (data.length - length))
    return .ok ()

/-- The options for fronts. -/
def frontSwitches : List Switch :=
  [.valued 'n' "lines", .valued 'c' "bytes", .flag 'q' "quiet", .flag 'q' "silent", .flag 'v' "verbose",
   .flag 'z' "zero-terminated"] ++ "0123456789".toList.map fun c => .flag c ""

/-- The choice after an option. -/
def Choice.withOption (c : Choice) (option : Char × Option Octets) : Work Choice := do
  let value := option.2.getD ""
  match option.1 with
  | 'q' => return { c with titles := some false }
  | 'v' => return { c with titles := some true }
  | 'z' => return { c with mark := '\x00' }
  | key =>
    if key = 'n' || key = 'c' then
      let isAway := value.startsWith "-"
      let amount ← amountOf (key = 'n') (if isAway then String.ofList (value.toList.drop 1) else value)
      return { c with amount := amount, isAway := isAway }
    else
      failUsage 1 s!"invalid trailing option -- {key}"

/-- The choice that an argument gives which is a count itself, with letters behind it. -/
def Choice.ofCount (digits letters : List Char) : Work Choice := do
  let mut choice := Choice.usual
  let mut ofLines := true
  let mut unit : List Char := []
  for c in letters do
    if c = 'c' then
      ofLines := false
      unit := []
    else if c = 'b' || c = 'k' || c = 'm' then
      ofLines := false
      unit := [c]
    else if c = 'l' then ofLines := true
    else choice ← choice.withOption (c, none)
  let amount ← amountOf ofLines (String.ofList (digits ++ unit))
  return { choice with amount := amount }

/-- Writes the fronts of files. -/
def head : Utility := fun _ call => complete call.name do
  let (start, arguments) ←
    match call.arguments with
    | a :: rest =>
      match a.toList with
      | '-' :: c :: cs =>
        if isAsciiDigit c then
          let (ds, letters) := Number.spanDigits (c :: cs)
          pure (← Choice.ofCount ds letters, rest)
        else pure (Choice.usual, a :: rest)
      | _ => pure (Choice.usual, a :: rest)
    | [] => pure (Choice.usual, [])
  let options ← Arguments.read frontSwitches 1 arguments
  let choice ← options.options.foldlM Choice.withOption start
  let paths := orInput options.operands
  let hasTitles := choice.titles.getD (1 < paths.length)
  let mut isFirst := true
  for path in paths do
    match ← openInput? path unopened with
    | none => pure ()
    | some file =>
      if hasTitles then put (titleOf isFirst path)
      isFirst := false
      onPart path (if choice.isAway then writeWithout choice file else writeFront choice file)
      closeInput file

/-! ## Ends -/

/-- The text from some place on: so much at its end, or all from a place at its front. -/
def backOf (choice : Choice) (s : Octets) : Octets :=
  let cs := s.toList
  match choice.amount with
  | .bytes n => String.ofList (if choice.isAway then cs.drop (n - 1) else cs.drop (cs.length - n))
  | .lines n =>
    if choice.isAway then String.ofList (cs.drop (linesLength choice.mark (n - 1) cs).1)
    else
      let count := (partsBy choice.mark s).length
      String.ofList (cs.drop (linesLength choice.mark (count - n) cs).1)

/-- How files are followed: by their names or as they were opened, whether what is not there is waited for, and the
process without which nothing will come. -/
structure Pursuit where
  isWanted : Bool
  byName : Bool
  retries : Bool
  writer : Option Nat

/-- The choice of ends that an argument gives which is a count itself, and whether the files are followed; `none` if it is
not meant so. -/
def countedEnd? (argument : Octets) : Option (Bool × Octets × Bool × Bool) :=
  match argument.toList with
  | [] => none
  | sign :: cs =>
    let isBare := cs.isEmpty || cs = ['c']
    if sign != '+' && (sign != '-' || isBare) then none
    else
      let (ds, letters) := Number.spanDigits cs
      let (ofLines, factor, letters) :=
        match letters with
        | 'b' :: rest => (false, 512, rest)
        | 'c' :: rest => (false, 1, rest)
        | 'l' :: rest => (true, 1, rest)
        | rest => (true, 1, rest)
      let (isFollowed, letters) :=
        match letters with
        | 'f' :: rest => (true, rest)
        | rest => (false, rest)
      let count := if ds.isEmpty then Numeral.text (10 * factor) else String.ofList ds ++ if factor = 512 then "b" else ""
      if letters.isEmpty then some (ofLines, count, sign = '+', isFollowed) else none

/-- The counted end with which the arguments begin, if they are few enough, and the arguments behind. -/
def takeCountedEnd? (arguments : List Octets) : Option ((Bool × Octets × Bool × Bool) × List Octets) :=
  let isOption (a : Octets) : Bool := a.startsWith "-" && 1 < a.length
  let isFew : List Octets → Bool
    | [] => true
    | [a] => !isOption a || a = "--"
    | ["--", _] => true
    | _ => false
  match arguments with
  | a :: rest => if isFew rest then (countedEnd? a).map fun c => (c, rest) else none
  | [] => none

/-- The options for ends. -/
def endSwitches : List Switch :=
  [.valued 'n' "lines", .valued 'c' "bytes", .flag 'q' "quiet", .flag 'q' "silent", .flag 'v' "verbose",
   .flag 'z' "zero-terminated", .named 'f' "follow" .attached, .flag 'f' "", .valued 's' "sleep-interval", .flag 'F' "",
   .named 'R' "retry" .nothing, .named 'P' "pid" .value, .named 'U' "max-unchanged-stats" .value,
   .named 'D' "-disable-inotify" .nothing] ++ "0123456789".toList.map fun c => .flag c ""

/-- The choice and the manner of following after an option. -/
def Choice.withEndOption (state : Choice × Pursuit) (option : Char × Option Octets) : Work (Choice × Pursuit) := do
  let (c, f) := state
  let value := option.2.getD ""
  match option.1 with
  | 'n' =>
    return ({ c with
      amount := ← amountOf true (if value.startsWith "-" then String.ofList (value.toList.drop 1) else value)
      isAway := c.isAway || value.startsWith "+" }, f)
  | 'c' =>
    return ({ c with
      amount := ← amountOf false (if value.startsWith "-" then String.ofList (value.toList.drop 1) else value)
      isAway := c.isAway || value.startsWith "+" }, f)
  | 'f' =>
    match option.2 with
    | none => return (c, { f with isWanted := true, byName := false })
    | some word =>
      let byName ← Arguments.choose "--follow" [(["descriptor"], false), (["name"], true)] word
      return (c, { f with isWanted := true, byName := byName })
  | 'F' => return (c, { f with isWanted := true, byName := true, retries := true })
  | 'R' => return (c, { f with retries := true })
  | 'P' =>
    let process ← Arguments.countWithin "invalid PID" "" 0 (2 ^ 31) value
    return (c, { f with writer := some process })
  | 'U' =>
    let _ ← Arguments.countWithin "invalid maximum number of unchanged stats between opens" "" 0 (2 ^ 64) value
    return (c, f)
  | 's' =>
    match Quantity.read 64 value.toList with
    | some (.finite false _ _, []) => return (c, f)
    | some (.infinite false, []) => return (c, f)
    | _ =>
      let shown := Shown.marked value
      Work.fail 1 s!"invalid number of seconds: {shown}"
  | 'D' => return (c, f)
  | key =>
    if isAsciiDigit key then Work.fail 1 s!"option used in invalid context -- {key}"
    else return (← c.withOption option, f)

/-- A file that is followed: its path, its number if it is open, and how much of it was written. -/
structure Followed where
  path : Octets
  file : Option Nat
  place : Nat

/-- The time between two looks at files that are followed, in microseconds. -/
def lookInterval : Nat := 20000

/-- A followed file after a look at what stands at its name. -/
def Followed.renewed (f : Followed) (retries : Bool) : Work (Option Followed) := do
  let name := Shown.quoted f.path
  match ← ask (.openFile f.path .reading) with
  | .error r =>
    match f.file with
    | none => return some f
    | some file =>
      let _ ← ask (.close file)
      if retries then
        warn s!"{name} has become inaccessible: {r.wording}"
        return some { f with file := none }
      else
        warn (aboutFile f.path r.wording)
        return none
  | .ok new =>
    match f.file with
    | none =>
      warn s!"{name} has appeared;  following new file"
      return some ⟨f.path, some new, 0⟩
    | some file =>
      let old ← ask (.infoOf file)
      let now ← ask (.infoOf new)
      if old.toOption.map (·.serial) = now.toOption.map (·.serial) then
        let _ ← ask (.close new)
        return some f
      else
        warn s!"{name} has been replaced;  following new file"
        let _ ← ask (.close file)
        return some ⟨f.path, some new, 0⟩

/-- A followed file after what was added to it is written, and whether something was. -/
def Followed.written (f : Followed) (title : Octets) : Work (Followed × Bool) := do
  match f.file with
  | none => return (f, false)
  | some file =>
    let size := ((← ask (.infoOf file)).toOption.map (·.size)).getD f.place
    let mut place := f.place
    if size < place then
      warn s!"{f.path}: file truncated"
      Work.lift (Routine.goBack file place)
      place := 0
    match ← lift (Routine.readAll file) with
    | .error _ => return (f, false)
    | .ok data =>
      if data.isEmpty then return ({ f with place := place }, false)
      emit (title ++ data)
      return ({ f with place := place + data.length }, true)

/-- Goes on with what is added to files. `last` is the path that was written last. The fuel bounds the looks. -/
def follow (f : Pursuit) (hasTitles : Bool) : Nat → Octets → List Followed → Work Unit
  | 0, _, _ => return
  | fuel + 1, last, files => do
    if files.isEmpty then Work.fail 1 "no files remaining"
    let isOver ←
      match f.writer with
      | none => pure false
      | some writer => pure ((← ask (.kill writer 0)).toOption.isNone)
    let mut last := last
    let mut kept : List Followed := []
    for file in files do
      match ← if f.byName then file.renewed f.retries else pure (some file) with
      | none => pure ()
      | some file =>
        let (file, hasWritten) ← file.written (if hasTitles && last != file.path then titleOf false file.path else "")
        if hasWritten then last := file.path
        kept := kept ++ [file]
    if isOver then return
    if !(← ask (.isHeard 1)) then
      let self ← ask .identity
      let _ ← ask (.kill self Signal.pipe)
    ask (.sleep lookInterval)
    follow f hasTitles fuel last kept

/-- Writes the ends of files. -/
def tail : Utility := fun _ call => complete call.name do
  let start : Pursuit := ⟨false, false, false, none⟩
  let (start, arguments) ←
    match takeCountedEnd? call.arguments with
    | none => pure ((Choice.usual, start), call.arguments)
    | some ((ofLines, count, isAway, isFollowed), rest) =>
      pure (({ Choice.usual with amount := ← amountOf ofLines count, isAway := isAway },
        { start with isWanted := isFollowed }), rest)
  let options ← Arguments.read endSwitches 1 arguments
  let (choice, following) ← options.options.foldlM Choice.withEndOption start
  let paths := orInput options.operands
  if following.retries && !following.isWanted then
    warn "warning: --retry ignored; --retry is useful only when following"
  else if following.retries && !following.byName then warn "warning: --retry only effective for the initial open"
  if following.writer.isSome && !following.isWanted then
    warn "warning: PID ignored; --pid=PID is useful only when following"
  if following.byName && paths.contains "-" then Work.fail 1 "cannot follow '-' by name"
  let isNothing := choice.amount = .lines 0 || choice.amount = .bytes 0
  if isNothing && !choice.isAway && !following.isWanted then return
  let hasTitles := choice.titles.getD (1 < paths.length)
  let mut isFirst := true
  let mut followed : List Followed := []
  for path in paths do
    match ← openInput? path unopened with
    | none => if following.retries then followed := followed ++ [⟨path, none, 0⟩]
    | some file =>
      if hasTitles then put (titleOf isFirst path)
      isFirst := false
      onPart path do
        match ← lift (Routine.readAll file) with
        | .ok data =>
          put (backOf choice data)
          return .ok ()
        | .error r => return .error r
      if following.isWanted then
        match ← ask (.infoOf file) with
        | .error _ => pure ()
        | .ok i =>
          if i.isFile then followed := followed ++ [⟨path, some file, i.size⟩]
          else if i.isDirectory then
            warn s!"{path}: cannot follow end of this type of file; giving up on this name"
      else closeInput file
  if following.isWanted then
    flush
    let isPiped := paths = ["-"] && followed.isEmpty
    if !isPiped then follow following hasTitles readLimit ((paths.getLast?).getD "") followed

end ElmAssay.Machine.Utility
