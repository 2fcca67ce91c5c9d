import ElmAssay.Machine.Quantity
import ElmAssay.Machine.Utility.Basic

/-!
# Utilities that run others

Programs that start another one: in a changed environment (`env`), for a bounded time (`timeout`), out of the reach of a
signal (`nohup`), or once for each handful of the words of the input (`xargs`). They look for it in the directories of
the search path (`execute`). Beside them stand those that only wait (`sleep`) or tell what would be found (`which`,
`printenv`).

Some of them wrap the program that they start: with a word on how it holds its output back (`stdbuf`), or out of the reach
of who started it (`setsid`). Another program sees to it that what was written stays (`sync`).
-/

namespace ElmAssay.Machine.Utility

open Text Work

/-! ## Finding and starting -/

/-- Where programs are looked for if the environment does not say. -/
def usualSearch : Octets := "/bin:/usr/bin"

/-- The paths at which a program may be. -/
def pathsOf (call : Invocation) : List Octets :=
  if call.name.toList.contains '/' then [call.name]
  else
    (Text.cut ':' ((call.environment.lookup "PATH").getD usualSearch).toList).map fun d =>
      if d.isEmpty then call.name else String.ofList d ++ "/" ++ call.name

/-- Becomes the first of some programs that can start. The answer says why none could: a refusal for want of a right
counts more than that of the last one. -/
def startAny (ev : Evaluator) (call : Invocation) : List Octets → Bool → Refusal → Routine Refusal
  | [], isDenied, last => return if isDenied then .denied else last
  | path :: rest, isDenied, _ => do
    let shell := "/bin/sh"
    let r ←
      match ← ev (.start path call) with
      | .notExecutableFormat => ev (.start shell { call with name := shell, arguments := path :: call.arguments })
      | r => pure r
    match r with
    | .denied => startAny ev call rest true r
    | .noEntry => startAny ev call rest isDenied r
    | .notDirectory => startAny ev call rest isDenied r
    | r => return r

/-- Becomes a program; the answer says why that could not be. -/
def execute (ev : Evaluator) (call : Invocation) : Routine Refusal :=
  if call.name.isEmpty then return .noEntry else startAny ev call (pathsOf call) false .noEntry

/-- The status of a utility whose program could not start. -/
def unstartedStatus (r : Refusal) : Nat := if r = .noEntry then 127 else 126

/-- Becomes a program, or tells why that could not be. -/
def executeOr (ev : Evaluator) (front : Octets) (call : Invocation) : Work Unit := do
  flush
  let r ← lift (execute ev call)
  let shown := Shown.marked call.name
  Work.fail (unstartedStatus r) s!"{front}{shown}: {r.wording}"

/-! ## Environments -/

/-- An environment in which a variable has a value. -/
def withBinding (environment : List (Octets × Octets)) (name value : Octets) : List (Octets × Octets) :=
  if (environment.lookup name).isSome then environment.map fun v => if v.1 = name then (name, value) else v
  else environment ++ [(name, value)]

/-- An argument that gives a variable a value. -/
def bindingOf? (s : Octets) : Option (Octets × Octets) :=
  let cs := s.toList
  let name := cs.takeWhile (· != '=')
  if name.length < cs.length then some (String.ofList name, String.ofList (cs.drop (name.length + 1))) else none

/-- Why a text is not cut into words. -/
inductive SplitDefect
  | badEscape (c : Char)
  | openQuote
  | badVariable (rest : Octets)
  | earlyEnd

/-- The wording of a defect. -/
def SplitDefect.message : SplitDefect → Octets
  | badEscape c =>
    let escape := String.ofList ['\\', c]
    s!"invalid sequence '{escape}' in -S"
  | openQuote => "no terminating quote in -S string"
  | badVariable rest => "only $\x7bVARNAME\x7d expansion is supported, error at: " ++ rest
  | earlyEnd => "invalid backslash at end of string in -S"

/-- A word that grows, if one was started, and the words before it, latest first. -/
structure Words where
  current : Option (List Char)
  done : List Octets

namespace Words

/-- The words with more characters at the end of the last one. -/
def add (w : Words) (cs : List Char) : Words := { w with current := some (w.current.getD [] ++ cs) }

/-- The words after the end of one. -/
def close (w : Words) : Words :=
  match w.current with
  | some cs => ⟨none, String.ofList cs :: w.done⟩
  | none => w

/-- The words in order. -/
def all (w : Words) : List Octets := w.close.done.reverse

end Words

/-- The words that a text is cut into, where a backslash, quotes and variables have a meaning. `quote` is the quote that
is open. The fuel bounds the characters. -/
def splitWords (environment : List (Octets × Octets)) :
    Nat → Option Char → Words → List Char → Except SplitDefect (List Octets)
  | 0, _, w, _ => .ok w.all
  | _, none, w, [] => .ok w.all
  | _, some _, _, [] => .error .openQuote
  | fuel + 1, quote, w, c :: cs =>
    let go (w : Words) (rest : List Char) := splitWords environment fuel quote w rest
    if c = '\'' ∨ c = '"' then
      match quote with
      | none => splitWords environment fuel (some c) (w.add []) cs
      | some q => if q = c then splitWords environment fuel none w cs else go (w.add [c]) cs
    else if quote = none ∧ Numeral.isSpace c then go w.close cs
    else if quote = none ∧ c = '#' ∧ w.current.isNone then .ok w.all
    else if quote != some '\'' && c == '$' then
      let inner := (cs.drop 1).takeWhile (· != '\x7d')
      match cs, cs.drop (inner.length + 1) with
      | '\x7b' :: _, '\x7d' :: rest => go (w.add ((environment.lookup (String.ofList inner)).getD "").toList) rest
      | _, _ => .error (.badVariable (String.ofList (c :: cs)))
    else if c = '\\' then
      match cs with
      | [] => .error .earlyEnd
      | e :: rest =>
        if quote = some '\'' then go (w.add (if e = '\\' ∨ e = '\'' then [e] else [c, e])) rest
        else
          match e with
          | 'c' => if quote.isSome then .error (.badEscape e) else .ok w.all
          | '_' => if quote.isSome then go (w.add [' ']) rest else go w.close rest
          | 'n' => go (w.add ['\n']) rest
          | 't' => go (w.add ['\t']) rest
          | 'r' => go (w.add ['\r']) rest
          | 'f' => go (w.add ['\x0c']) rest
          | 'v' => go (w.add ['\x0b']) rest
          | e => if ['"', '#', '$', '\'', '\\'].contains e then go (w.add [e]) rest else .error (.badEscape e)
    else go (w.add [c]) cs

/-- The arguments of a change of the environment, in which an option to cut a text into words is replaced by the words.
The fuel bounds the arguments. -/
def expandSplit (environment : List (Octets × Octets)) : Nat → List Octets → Except SplitDefect (List Octets)
  | 0, arguments => .ok arguments
  | _, [] => .ok []
  | fuel + 1, a :: rest =>
    let split (text : List Char) (rest : List Octets) : Except SplitDefect (List Octets) :=
      match splitWords environment (text.length + 1) none ⟨none, []⟩ text with
      | .error e => .error e
      | .ok words => expandSplit environment fuel (words ++ rest)
    let kept (front rest : List Octets) : Except SplitDefect (List Octets) :=
      (expandSplit environment fuel rest).map (front ++ ·)
    match a.toList, rest with
    | '-' :: 'S' :: [], next :: rest => split next.toList rest
    | '-' :: 'S' :: cs, rest => split cs rest
    | '-' :: 'v' :: 'S' :: [], next :: rest => split next.toList rest
    | '-' :: 'i' :: 'S' :: [], next :: rest => (split next.toList rest).map ("-i" :: ·)
    | ['-', 'u'], next :: rest => kept [a, next] rest
    | ['-', 'C'], next :: rest => kept [a, next] rest
    | cs, rest =>
      let long := "--split-string=".toList
      if long.isPrefixOf cs then split (cs.drop long.length) rest
      else if cs.head? = some '-' ∧ cs != ['-', '-'] then kept [a] rest
      else .ok (a :: rest)

/-- Takes the arguments in front that give variables a value. -/
def takeBindings : List (Octets × Octets) → List Octets → List (Octets × Octets) × List Octets
  | environment, [] => (environment, [])
  | environment, a :: rest =>
    match bindingOf? a with
    | some (name, value) => takeBindings (withBinding environment name value) rest
    | none => (environment, a :: rest)

/-- The lines of an environment. -/
def environmentText (lineEnd : Octets) (environment : List (Octets × Octets)) : Octets :=
  String.join (environment.map fun v => v.1 ++ "=" ++ v.2 ++ lineEnd)

/-- Whether blanks stand among the options that an argument gives. -/
def hasBlankOption (arguments : List Octets) : Bool :=
  arguments.head?.any fun a =>
    match a.toList with
    | '-' :: c :: cs => c != '-' && (c :: cs).any fun c => c == ' ' || c == '\t'
    | _ => false

/-- Runs a program in a changed environment, or writes the environment. -/
def env : Utility := fun ev call => complete call.name do
  let hint := "use -[v]S to pass options in shebang lines"
  let arguments ←
    match expandSplit call.environment 1000 call.arguments with
    | .ok arguments => pure arguments
    | .error e => Work.fail 125 e.message
  let onDefect (message : Octets) : Work Arguments := do
    if hasBlankOption arguments then
      warn message
      failUsage 125 hint
    else failUsage 125 message
  let options ← Arguments.readFrom
    ⟨[.flag 'i' "ignore-environment", .flag '0' "null", .valued 'u' "unset", .valued 'C' "chdir", .flag 'v' "debug"], true,
      onDefect⟩ (arguments.length + 1) ⟨[], []⟩ arguments
  let isBare := options.operands.head? == some "-"
  let mut environment := if options.has 'i' || isBare then [] else call.environment
  for name in options.values 'u' do
    if name.isEmpty || name.toList.contains '=' then
      let shown := Shown.marked name
      Work.fail 125 s!"cannot unset {shown}: Invalid argument"
    environment := environment.filter fun v => v.1 != name
  let (environment', operands) := takeBindings environment (if isBare then options.operands.drop 1 else options.operands)
  match operands with
  | [] => put (environmentText (if options.has '0' then "\x00" else "\n") environment')
  | name :: rest =>
    if options.has '0' then failUsage 125 "cannot specify --null (-0) with command"
    match options.value? 'C' with
    | none => pure ()
    | some directory =>
      match ← ask (.enter directory) with
      | .ok _ => pure ()
      | .error r =>
        let shown := Shown.quoted directory
        Work.fail 125 s!"cannot change directory to {shown}: {r.wording}"
    let r ← lift (execute ev ⟨name, rest, environment'⟩)
    let shown := Shown.marked name
    warn s!"{shown}: {r.wording}"
    if r = .noEntry && name.toList.contains ' ' then warn hint
    quit (unstartedStatus r)

/-- Writes the values of variables, or the environment. -/
def printenv : Utility := fun _ call => complete call.name do
  let options ← Arguments.readInOrder [.flag '0' "null"] 2 call.arguments
  let lineEnd := if options.has '0' then "\x00" else "\n"
  if options.operands.isEmpty then put (environmentText lineEnd call.environment)
  for name in options.operands do
    match call.environment.lookup name with
    | some value => put (value ++ lineEnd)
    | none => raiseStatus 1

/-- Tells where programs are found. -/
def which : Utility := fun _ call => complete call.name do
  let onDefect (message : Octets) : Work Arguments := do
    let letter := message.toList.drop (message.length - 2) |>.take 1
    say ("Illegal option -" ++ String.ofList letter ++ "\nUsage: " ++ call.name ++ " [-as] args\n")
    quit 2
  let options ← Arguments.readFrom ⟨[.flag 'a' "", .flag 's' ""], true, onDefect⟩ (call.arguments.length + 1) ⟨[], []⟩
    call.arguments
  if options.operands.isEmpty then raiseStatus 1
  for name in options.operands do
    let mut found : List Octets := []
    for path in pathsOf { call with name := name } do
      match ← ask (.info path true) with
      | .ok i => if i.isFile && i.isRunnable then found := found ++ [path]
      | .error _ => pure ()
    if found.isEmpty then raiseStatus 1
    if !options.has 's' then
      for path in if options.has 'a' then found else found.take 1 do putLine path

/-! ## Time -/

/-- A time in microseconds; without one it never ends. -/
abbrev Interval := Option Nat

/-- A time as an argument gives it: seconds, or what a letter behind the number says. -/
def interval? (s : Octets) : Option Interval :=
  match Quantity.read 64 s.toList with
  | none => none
  | some (q, rest) =>
    let unit : Option Nat :=
      match rest with
      | [] => some 1
      | ['s'] => some 1
      | ['m'] => some 60
      | ['h'] => some 3600
      | ['d'] => some 86400
      | _ => none
    match unit, q with
    | some unit, .finite negative num den =>
      if negative && num != 0 then none else some (some (num * unit * 1000000 / max 1 den))
    | some _, .infinite false => some none
    | _, _ => none

/-- Sleeps for a time. -/
def sleepFor (i : Interval) : Routine Unit :=
  match i with
  | some micros => Routine.ask (.sleep micros)
  | none => Routine.ask .hang

/-- Waits for a time. -/
def sleep : Utility := fun _ call => complete call.name do
  let options ← Arguments.read [] 1 call.arguments
  if options.operands.isEmpty then failUsage 1 "missing operand"
  let bad := options.operands.filter fun s => (interval? s).isNone
  for s in bad.take (bad.length - 1) do
    let shown := Shown.marked s
    warn s!"invalid time interval {shown}"
  match bad.getLast? with
  | some s =>
    let shown := Shown.marked s
    failUsage 1 s!"invalid time interval {shown}"
  | none =>
    let all := options.operands.filterMap interval?
    lift (sleepFor (all.foldl (fun a b => a.bind fun a => b.map (a + ·)) (some 0)))

/-- The signal that an argument names, with or without the usual front of its name, or by its number. -/
def signalOf? (s : Octets) : Option Nat :=
  let name := String.ofList (s.toList.map Char.toUpper)
  let bare := if name.startsWith "SIG" then String.ofList (name.toList.drop 3) else name
  (Signal.named? bare).or ((Numeral.plain? s).filter (· ≤ Signal.greatest))

/-- Splits off a process that only sleeps. -/
def startTimer (i : Interval) : Work Nat :=
  lift <| Routine.fork do
    for file in [0, 1, 2] do Routine.close file
    sleepFor i
    return 0

/-- Waits for the end of a process for at most a time; `none` says that the time is over. -/
def awaitWithin (child : Nat) (limit : Interval) : Work (Option End) := do
  let timer ← startTimer limit
  match ← ask (.wait none .endless) with
  | .ended id e =>
    if id = child then
      let _ ← ask (.kill timer Signal.kill)
      return some e
    else return none
  | _ => return some (.exited 0)

/-- Runs a program for a bounded time. -/
def timeout : Utility := fun ev call => complete call.name do
  let options ← Arguments.readInOrder
    [.valued 's' "signal", .valued 'k' "kill-after", .named 'p' "preserve-status" .nothing, .named 'f' "foreground" .nothing,
     .flag 'v' "verbose"] 125 call.arguments
  let intervalOf (s : Octets) : Work Interval := do
    match interval? s with
    | some i => return if i = some 0 then none else i
    | none =>
      let shown := Shown.marked s
      failUsage 125 s!"invalid time interval {shown}"
  let patience ← (options.value? 'k').mapM intervalOf
  let signal ←
    match options.value? 's' with
    | none => pure Signal.terminate
    | some s =>
      match signalOf? s with
      | some n => pure n
      | none =>
        let shown := Shown.marked s
        failUsage 125 s!"{shown}: invalid signal"
  match options.operands with
  | limit :: name :: rest =>
    let limit ← intervalOf limit
    flush
    let child ← lift <| Routine.fork do
      let r ← execute ev ⟨name, rest, call.environment⟩
      let shown := Shown.marked name
      Routine.protest s!"{call.name}: failed to run command {shown}: {r.wording}\n"
      return unstartedStatus r
    let result ← awaitWithin child limit
    let send (signal : Nat) : Work Unit := do
      if options.has 'v' then
        let sent := (Signal.name? signal).getD ""
        let shown := Shown.marked name
        warn s!"sending signal {sent} to command {shown}"
      let _ ← ask (.kill child signal)
    match result with
    | some (.exited status) => quit status
    | some (.killed signal) =>
      let self ← ask .identity
      let _ ← ask (.kill self signal)
      quit (128 + signal)
    | none =>
      send signal
      let late ← awaitWithin child (patience.getD none)
      let e ←
        match late with
        | some e => pure e
        | none =>
          send Signal.kill
          lift (Routine.await child)
      match e with
      | .killed 9 =>
        let self ← ask .identity
        let _ ← ask (.kill self Signal.kill)
        quit 137
      | .killed n => quit (if options.has 'p' then 128 + n else 124)
      | .exited n => quit (if options.has 'p' then n else 124)
  | _ =>
    flush
    say s!"Try '{call.name} --help' for more information.\n"
    quit 125

/-- Runs a program that a hangup does not reach. -/
def nohup : Utility := fun ev call => complete call.name do
  let options ← Arguments.readInOrder [] 125 call.arguments
  match options.operands with
  | [] => failUsage 125 "missing operand"
  | name :: rest =>
    let hangup := 1
    ask (.handle hangup .ignored)
    let r ← lift (execute ev ⟨name, rest, call.environment⟩)
    let shown := Shown.quoted name
    Work.fail (unstartedStatus r) s!"failed to run command {shown}: {r.wording}"

/-- Arguments in which an option that is a number became the value of a letter, up to the first operand. -/
def withNumbersNamed (letter : Char) : List Octets → List Octets
  | [] => []
  | a :: rest =>
    match a.toList with
    | '-' :: c :: cs =>
      let digits := if c = '-' || c = '+' then cs else c :: cs
      if digits.head?.any Text.isAsciiDigit then
        ("-" ++ letter.toString ++ String.ofList (c :: cs)) :: withNumbersNamed letter rest
      else if c = letter && cs.isEmpty then
        match rest with
        | value :: rest => a :: value :: withNumbersNamed letter rest
        | [] => [a]
      else if a = "--" then a :: rest
      else a :: withNumbersNamed letter rest
    | _ => a :: rest

/-- Runs a program that gives way to others by more or less, or tells by how much it does so itself. -/
def nice : Utility := fun ev call => complete call.name do
  let options ← Arguments.readInOrder [.valued 'n' "adjustment"] 125 (withNumbersNamed 'n' call.arguments)
  let adjustment ←
    match options.value? 'n' with
    | none => pure 10
    | some text =>
      match Size.readWhole text.toList with
      | .ok n => pure (max (-39) (min 39 n))
      | .error .malformed =>
        let shown := Shown.marked text
        Work.fail 125 s!"invalid adjustment {shown}"
      | .error _ => pure (if text.startsWith "-" then -39 else 39)
  match options.operands with
  | [] =>
    if options.has 'n' then failUsage 125 "a command must be given with an adjustment"
    else putLine (Numeral.signedText (← ask (.giveWay 0)))
  | name :: rest =>
    let _ ← ask (.giveWay adjustment)
    executeOr ev "" ⟨name, rest, call.environment⟩

/-! ## Programs for the words of the input -/

/-- What is wrong with the input: a quote that is not closed. -/
def openQuoteMessage (quote : Char) : Octets :=
  let kind := if quote = '"' then "double" else "single"
  s!"unmatched {kind} quote; by default quotes are special to xargs unless you use the -0 option"

/-- The lines of words of a text, and the quote that is open at its end. Blanks at the end of a line join it to the next
one. `line` and `word` are what was read of the line and of the word, latest first. The fuel bounds the characters. -/
def readWordLines (partsAtBlanks : Bool) :
    Nat → List Octets → Option (List Char) → List Char → List (List Octets) × Option Char
  | 0, _, _, _ => ([], none)
  | fuel + 1, line, word, s =>
    let isBlank (c : Char) : Bool := c == ' ' || c == '\t'
    let ended : List Octets := (word.map fun w => String.ofList w.reverse).toList ++ line
    let only (line : List Octets) : List (List Octets) := if line.isEmpty then [] else [line.reverse]
    match s with
    | [] => (only ended, none)
    | c :: cs =>
      if word.isNone && Numeral.isSpace c then readWordLines partsAtBlanks fuel line none cs
      else if c = '\n' then
        let (lines, defect) := readWordLines partsAtBlanks fuel [] none cs
        (only ended ++ lines, defect)
      else if partsAtBlanks && isBlank c then readWordLines partsAtBlanks fuel ended none cs
      else if c = '\'' ∨ c = '"' then
        let inner := cs.takeWhile fun d => d != c && d != '\n'
        let rest := cs.drop inner.length
        if rest.head? = some c then
          readWordLines partsAtBlanks fuel line (some (inner.reverse ++ word.getD [])) (rest.drop 1)
        else (only line, some c)
      else if c = '\\' then
        readWordLines partsAtBlanks fuel line (some ((cs.take 1) ++ word.getD [])) (cs.drop 1)
      else readWordLines partsAtBlanks fuel line (some (c :: word.getD [])) cs

/-- How the words of the input are handed to a program. -/
structure Handful where
  words : Option Nat
  lines : Option Nat
  replaced : Option Octets

/-- Lists cut into pieces of a length. The fuel bounds their count. -/
def pieces {α : Type} (n : Nat) : Nat → List α → List (List α)
  | 0, _ => []
  | fuel + 1, xs => if xs.isEmpty then [] else xs.take n :: pieces n fuel (xs.drop n)

/-- A text in which every occurrence of another one is replaced. -/
def replaceAll (pattern value : Octets) (s : Octets) : Octets :=
  if pattern.isEmpty then s else value.intercalate (s.splitOn pattern)

/-- The argument lists of the programs to run. -/
def Handful.argumentLists (h : Handful) (fixed : List Octets) (lines : List (List Octets)) : List (List Octets) :=
  match h.replaced with
  | some mark => lines.flatten.map fun item => fixed.map (replaceAll mark item)
  | none =>
    let groups : List (List Octets) :=
      match h.lines with
      | some n => (pieces (max n 1) (lines.length + 1) lines).map List.flatten
      | none => [lines.flatten].filter (!·.isEmpty)
    let groups := groups.flatMap fun g =>
      match h.words with
      | some n => pieces (max n 1) (g.length + 1) g
      | none => [g]
    groups.map (fixed ++ ·)

/-- Runs one program for the words of the input. -/
def runOne (ev : Evaluator) (call : Invocation) (isShown : Bool) (name : Octets) (arguments : List Octets) :
    Work Unit := do
  if isShown then say (" ".intercalate ((name :: arguments).map Shown.plain) ++ "\n")
  let missing := 127
  let child ← lift <| Routine.fork do
    Routine.close 0
    let _ ← Routine.openFile "/dev/null" .reading
    let r ← execute ev ⟨name, arguments, call.environment⟩
    Routine.protest s!"{call.name}: {name}: {r.wording}\n"
    return unstartedStatus r
  match ← lift (Routine.await child) with
  | .killed signal => Work.fail 125 s!"{name}: terminated by signal {signal}"
  | .exited status =>
    if status = 255 then Work.fail 124 s!"{name}: exited with status 255; aborting"
    else if status = missing ∨ status = 126 then quit status
    else if status != 0 then raiseStatus 123

/-- The character that an argument gives as the end of words. -/
def delimiterOf? (s : Octets) : Option Char :=
  match s.toList with
  | [c] => some c
  | ['\\', 'n'] => some '\n'
  | ['\\', 't'] => some '\t'
  | ['\\', '0'] => some '\x00'
  | ['\\', '\\'] => some '\\'
  | ['\\', 'r'] => some '\r'
  | _ => none

/-- The words up to the one that stands for the end. -/
def untilEnd (mark : Option Octets) (lines : List (List Octets)) : List (List Octets) :=
  match mark with
  | none => lines
  | some m =>
    let before := lines.takeWhile fun l => !l.contains m
    before ++ ((lines.drop before.length).head?.map fun l => l.takeWhile (· != m)).toList.filter (!·.isEmpty)

/-- Runs a program for the words of the input. -/
def xargs : Utility := fun ev call => complete call.name do
  let options ← Arguments.readInOrder
    [.flag '0' "null", .valued 'a' "arg-file", .valued 'd' "delimiter", .valued 'E' "", .valued 'I' "",
     .named 'I' "replace" .attached, .valued 'L' "max-lines", .valued 'n' "max-args", .valued 'P' "max-procs",
     .flag 'r' "no-run-if-empty", .valued 's' "max-chars", .flag 't' "verbose", .flag 'x' "exit"] 1 call.arguments
  let number (key : Char) : Work (Option Nat) := do
    match options.value? key with
    | none => return none
    | some text =>
      match Numeral.plain? text with
      | none => failUsage 1 s!"invalid number \"{text}\" for -{key} option"
      | some 0 => if key = 'P' then return none else failUsage 1 s!"value 0 for -{key} option should be >= 1"
      | some n => return some n
  let words ← number 'n'
  let lines ← number 'L'
  let _ ← number 'P'
  let delimiter ←
    match if options.has '0' then some "\\0" else options.value? 'd' with
    | none => pure none
    | some text =>
      match delimiterOf? text with
      | some c => pure (some c)
      | none =>
        Work.fail 1 <| s!"Invalid input delimiter specification {text}: the delimiter must be either a single character or "
          ++ "an escape sequence starting with \\."
  let source ←
    match options.value? 'a' with
    | none => lift (Routine.readAll 0)
    | some path =>
      match ← lift (Routine.readFile path) with
      | .ok data => pure (.ok data)
      | .error r =>
        let shown := Shown.marked path
        Work.fail 1 s!"Cannot open input file {shown}: {r.wording}"
  let text := (source.toOption).getD ""
  let replaced := if options.has 'I' then some ((options.value? 'I').getD "\x7b\x7d") else none
  if replaced.isSome && words.isSome then
    warn <| "warning: options --max-args and --replace/-I/-i are mutually exclusive, " ++
      "ignoring previous --max-args value"
  let (items, defect) :=
    match delimiter with
    | some c =>
      let parts := Text.cut c text.toList
      let parts := if parts.getLast? = some [] then parts.dropLast else parts
      (parts.map fun p => [String.ofList p], none)
    | none => readWordLines replaced.isNone (text.length + 2) [] none text.toList
  let items := untilEnd (options.value? 'E') items
  let name := (options.operands.head?).getD "echo"
  let handful : Handful := ⟨if replaced.isSome then none else words, lines, replaced⟩
  let all := handful.argumentLists (options.operands.drop 1) items
  let all := if all.isEmpty && replaced.isNone && defect.isNone && !options.has 'r' then [options.operands.drop 1] else all
  for arguments in all do runOne ev call (options.has 't') name arguments
  match defect with
  | some quote => Work.fail 1 (openQuoteMessage quote)
  | none => return

/-! ## How output is held back -/

/-- How a stream is held back, as the environment says it. -/
def holding (stream : Char) (text : Octets) : Work Octets := do
  let text := String.ofList (text.toList.dropWhile Numeral.isSpace)
  if stream = 'i' && text.startsWith "L" then failUsage 125 "line buffering stdin is meaningless"
  if text = "L" then return text
  match Size.read "EGkKMPTYZ0" text.toList with
  | .ok n => return Numeral.text n
  | .error d =>
    let shown := Shown.marked text
    Work.fail 125 s!"invalid mode {shown}{d.ending}"

/-- The file that programs load to hold their streams back as the environment says. -/
def holdingLibrary : Octets := "/usr/libexec/coreutils/libstdbuf.so"

/-- Runs a program whose streams are held back in another way. -/
def stdbuf : Utility := fun ev call => complete call.name do
  let o ← Arguments.readInOrder [.valued 'i' "input", .valued 'o' "output", .valued 'e' "error"] 125 call.arguments
  let modes ← o.options.mapM fun (letter, value) => do
    return (letter, ← holding letter (value.getD ""))
  match o.operands with
  | [] => failUsage 125 "missing operand"
  | name :: rest =>
    if modes.isEmpty then failUsage 125 "you must specify a buffering mode option"
    let told := ['i', 'o', 'e'].filterMap fun letter =>
      (modes.reverse.lookup letter).map fun mode => ("_STDBUF_" ++ letter.toUpper.toString, mode)
    let library :=
      match call.environment.lookup "LD_PRELOAD" with
      | some others => others ++ ":" ++ holdingLibrary
      | none => holdingLibrary
    let environment := (told ++ [("LD_PRELOAD", library)]).foldl (fun e v => withBinding e v.1 v.2) call.environment
    executeOr ev "failed to run command " ⟨name, rest, environment⟩

/-! ## Sessions -/

/-- Becomes a program, or tells without quotes why that could not be. -/
def executePlainly (ev : Evaluator) (call : Invocation) : Work Unit := do
  let r ← lift (execute ev call)
  Work.fail (unstartedStatus r) s!"failed to execute {call.name}: {r.wording}"

/-- Runs a program in a session of its own. -/
def setsid : Utility := fun ev call => complete call.name do
  let o ← Arguments.readInOrder [.flag 'c' "ctty", .flag 'f' "fork", .flag 'w' "wait"] 1 call.arguments
  match o.operands with
  | [] => failUsage 1 "no command specified"
  | name :: rest =>
    let inner : Invocation := ⟨name, rest, call.environment⟩
    let body : Work Unit := do
      if o.has 'c' then Work.fail 1 "failed to set the controlling terminal: Inappropriate ioctl for device"
      executePlainly ev inner
    if o.has 'f' then
      let child ← lift (Routine.fork (complete call.name body))
      if o.has 'w' then
        match ← lift (Routine.await child) with
        | .exited n => quit n
        | .killed n => quit (128 + n)
    else body

/-! ## What stays -/

/-- Opens files to see to it that what was written to them stays. -/
def sync : Utility := fun _ call => complete call.name do
  let o ← Arguments.read [.flag 'd' "data", .flag 'f' "file-system"] 1 call.arguments
  if o.has 'd' && o.has 'f' then Work.fail 1 "cannot specify both --data and --file-system"
  if o.has 'd' && o.operands.isEmpty then Work.fail 1 "--data needs at least one argument"
  for path in o.operands do
    match ← ask (.openFile path .reading) with
    | .ok file =>
      let _ ← ask (.close file)
    | .error r =>
      let shown := Shown.quoted path
      complain s!"error opening {shown}: {r.wording}"

end ElmAssay.Machine.Utility
