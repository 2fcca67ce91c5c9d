import ElmAssay.Machine.Shell.Builtin
import ElmAssay.Machine.Shell.Redirection

/-!
# The evaluation of scripts

How a shell runs a script (`runScript`), given an evaluator for the scripts and programs inside of it. A failure that
nobody looks at ends the shell if an option says so (`checkFailure`). What a script splits off runs in a copy of the
shell; the last thing that a copy does it does in place of itself.
-/

namespace ElmAssay.Machine.Shell

/-- Ends the shell for a failure, if an option says so and nobody looks at it. -/
def checkFailure (place : Place) : Shell Unit := do
  let s ← get
  if s.options.stopsOnFailure && !place.isTested && s.status != 0 then throw .leaves

/-- Whether commands are kept for signals or for the end of the shell. -/
def State.hasTraps (s : State) : Bool := s.traps.any fun t => !t.2.isEmpty

/-! ## The words of a command -/

/-- The name in front of a word that assigns a value to it, and the value. -/
def assignmentOf? : Word → Option (Octets × Word)
  | .chars text false :: rest =>
    match nameAndValue text with
    | (name, some value) =>
      if isName name.toList then some (name, if value.isEmpty then rest else .chars value false :: rest) else none
    | _ => none
  | _ => none

/-- The builtin commands whose arguments may be assignments, which are not cut. -/
def declaring : List Octets := ["export", "local", "readonly", "alias"]

/-- What stands behind the command that runs another command, if that is what some fields are: the command, and whether
it is looked for in the directories of the system. Until a name follows there is nothing to run. -/
def behindCommand (isSystem : Bool) : List Octets → Option (Bool × List Octets)
  | [] => none
  | a :: rest =>
    match a.toList with
    | ['-', '-'] => if rest.isEmpty then none else some (isSystem, rest)
    | '-' :: c :: cs => if (c :: cs).all (· == 'p') then behindCommand true rest else none
    | _ => some (isSystem, a :: rest)

/-- A command without the commands in front that run it, and how it is looked for: with the functions or without, in the
directories of the system or not. The fuel bounds their count. -/
def unwrapped : Nat → Bool → Bool → List Octets → Bool × Bool × List Octets
  | fuel + 1, isDirect, isSystem, "command" :: rest =>
    match behindCommand isSystem rest with
    | some (isSystem, fields) => unwrapped fuel false isSystem fields
    | none => (isDirect, isSystem, "command" :: rest)
  | _, isDirect, isSystem, fields => (isDirect, isSystem, fields)

/-- The fields of the words of a command, behind those that it has already. -/
def expandCommand (ev : Evaluator) : List Word → List Octets → Shell (List Octets)
  | [], fields => return fields
  | word :: words, fields => do
    let (_, _, own) := unwrapped fields.length true false fields
    let declares := own.head?.any declaring.contains
    match if declares then assignmentOf? word else none with
    | some (name, value) =>
      let text ← expandText ev true value
      expandCommand ev words (fields ++ [name ++ "=" ++ text])
    | none => expandCommand ev words (fields ++ (← expandFields ev word))

/-- Shows a command before it runs, on a stream of errors that redirections do not reach. -/
def showCommand (ev : Evaluator) (kept : Kept) (shown : List Octets) : Shell Unit := do
  if (← get).options.traces then
    modify fun s => { s with options := { s.options with traces := false } }
    let front ← expandText ev false (Script.readText ((← get).valueOf "PS4"))
    modify fun s => { s with options := { s.options with traces := true } }
    let stream :=
      match kept.lookup 2 with
      | some (some file) => some file
      | some none => none
      | none => some 2
    match stream with
    | some file =>
      let _ ← ask (.write file (front ++ " ".intercalate shown ++ "\n"))
    | none => pure ()

/-! ## Running commands -/

/-- Makes assignments one after the other, where `isLocal` says that they last as long as the command. The answer is
what they hide, and how they are shown. -/
def assignAll (ev : Evaluator) (isLocal isExported : Bool) :
    List (Octets × Word) → List (Octets × Option Variable) → List Octets →
      Shell (List (Octets × Option Variable) × List Octets)
  | [], hidden, shown => return (hidden, shown)
  | (name, word) :: rest, hidden, shown => do
    let value ← expandText ev true word
    let old := (← get).binding? name
    assign name value
    if isLocal || isExported then
      modify fun s => s.withVariable { ((s.binding? name).getD ⟨name, none, false, false⟩) with isExported := true }
    assignAll ev isLocal isExported rest (if isLocal then (name, old) :: hidden else hidden)
      (shown ++ [name ++ "=" ++ value])

/-- Puts back what assignments hid. -/
def unhide (hidden : List (Octets × Option Variable)) : Shell Unit :=
  modify fun s => hidden.foldl (fun s v => s.restored v.1 v.2) s

/-- Runs a function. -/
def callFunction (ev : Evaluator) (place : Place) (body : Script) (arguments : List Octets) : Shell Unit := do
  let outer ← get
  set { outer.withArguments arguments with loops := 0, hidden := [] :: outer.hidden }
  let result ← attempt (ev (.run ⟨place.isTested, false⟩ body))
  unhide ((← get).hidden.head?.getD [])
  modify fun s =>
    { s with
      arguments := outer.arguments, optionPlace := outer.optionPlace, loops := outer.loops, hidden := outer.hidden }
  match result with
  | .error .returns => return
  | result => resume result

/-- Runs a builtin command. Its errors end the shell only if it is a part of it. -/
def callBuiltin (ev : Evaluator) (place : Place) (isSpecial : Bool) (name : Octets) (arguments : List Octets) :
    Shell Unit := do
  let outer := (← get).builtin
  modify fun s => { s with builtin := some name }
  let result ← attempt (runBuiltin ev place name arguments)
  modify fun s => { s with builtin := outer }
  match result with
  | .ok status => setStatus status
  | .error .fails => if isSpecial then throw .fails
  | .error h => throw h

/-- Runs a program and waits for it, or becomes it. -/
def callProgram (ev : Evaluator) (place : Place) (search name : Octets) (arguments : List Octets) : Shell Unit := do
  match ← findProgram search name with
  | .program paths =>
    let s ← get
    let start := startFirst ev ⟨name, arguments, s.environment⟩ paths .noEntry
    if place.isLast && !s.hasTraps then failToStart name (← lift start)
    else
      modify fun s => s.withJob none
      let child ← lift <| Routine.fork do
        let r ← start
        Routine.protest (s.heading ++ name ++ ": " ++ startRefusal r ++ "\n")
        return startStatus r
      setStatus (← await child)
  | .unknown r =>
    warn s!"{name}: {startRefusal r}"
    setStatus 127
  | _ => return

/-- Runs what a command calls. -/
def callFields (ev : Evaluator) (place : Place) (isSpecial : Bool) (fields : List Octets) : Shell Unit := do
  let (isDirect, isSystem, own) := unwrapped fields.length true false fields
  let s ← get
  match own with
  | [] => setStatus s.outputStatus
  | name :: arguments =>
    match if isDirect then s.functions.lookup name else none with
    | some body => callFunction ev place body arguments
    | none =>
      if isBuiltin name then callBuiltin ev place isSpecial name arguments
      else callProgram ev place (if isSystem then systemSearch else s.valueOf "PATH") name arguments

/-- Runs a simple command. -/
def runCommand (ev : Evaluator) (place : Place) (assignments : List (Octets × Word)) (words : List Word)
    (redirects : List Redirect) : Shell Unit := do
  modify fun s => { s with outputStatus := 0 }
  let fields ← expandCommand ev words []
  let openings ← redirects.mapM (expandRedirect ev)
  let name := (fields.head?).getD ""
  let isSpecial := specialBuiltins.contains name
  let isLocal := !fields.isEmpty && !isSpecial
  let becomes := (unwrapped fields.length true false fields).2.2.head? == some "exec"
  let made ← redirected openings fun kept => do
    let (hidden, shown) ← assignAll ev isLocal (becomes && 1 < fields.length) assignments [] []
    let all := shown ++ fields
    if !all.isEmpty then showCommand ev kept all
    let result ← attempt (callFields ev place isSpecial fields)
    unhide hidden
    resume result
    return becomes
  if !made && isSpecial then throw .fails

/-! ## Copies of the shell -/

/-- Makes a number stand for what another one stands for, which is given up. -/
def moveFile (file : Option Nat) (number : Nat) : Shell Unit := do
  match file with
  | some file => takeOver file number
  | none => return

/-- What a copy of the shell in the background does first: it does not mind interrupts, and the first of a pipeline has
nothing to read. -/
def enterBackground (isFirst : Bool) : Shell Unit := do
  for signal in [Signal.interrupt, 3] do
    ask (.handle signal .ignored)
  if isFirst then
    let _ ← ask (.close 0)
    let _ ← ask (.openFile "/dev/null" .reading)

/-- Runs a script as the whole of a copy of the shell, with redirections that stay. -/
def runInside (ev : Evaluator) (isTested : Bool) (openings : List Opening) (body : Script) : Shell Unit := do
  let (made, _) ← redirect [] openings
  if !made then
    setStatus 2
    throw .fails
  ev (.run ⟨isTested, true⟩ body)

/-- Starts the parts of a pipeline. The answer is their numbers. -/
def startParts (ev : Evaluator) (isTested inBackground : Bool) :
    List Script → Option Nat → List Nat → Shell (List Nat)
  | [], _, children => return children.reverse
  | part :: rest, input, children => do
    let between ← if rest.isEmpty then pure none else some <$> ask .pipe
    let child ← split ev do
      if inBackground then enterBackground children.isEmpty
      match between with
      | some (output, _) =>
        let _ ← ask (.close output)
      | none => pure ()
      moveFile input 0
      moveFile (between.map Prod.snd) 1
      ev (.run ⟨isTested, true⟩ part)
    for file in input.toList ++ (between.map Prod.snd).toList do
      let _ ← ask (.close file)
    startParts ev isTested inBackground rest (between.map Prod.fst) (child :: children)

/-- Notes a child in the background. -/
def noteBackground (child : Nat) : Shell Unit :=
  modify fun s => { s.withJob (some ⟨child, none, false⟩) with lastBackground := some child, status := 0 }

/-- Runs a script in a copy of the shell and waits for it. -/
def runNested (ev : Evaluator) (place : Place) (openings : List Opening) (body : Script) : Shell Unit := do
  if place.isLast && !(← get).hasTraps then
    runInside ev place.isTested openings body
    throw .leaves
  else
    modify fun s => s.withJob none
    setStatus (← await (← split ev (runInside ev place.isTested openings body)))

/-! ## Loops and choices -/

/-- How a loop goes on after a part of it. -/
inductive Turn
  | goesOn
  | ends

/-- How a loop goes on after a part of it ended. -/
def turnAfter : Except Halt Unit → Shell Turn
  | .ok _ => return .goesOn
  | .error (.breaks n) => if n ≤ 1 then return .ends else throw (.breaks (n - 1))
  | .error (.continues n) => if n ≤ 1 then return .goesOn else throw (.continues (n - 1))
  | .error h => throw h

/-- Whether a part of a loop came to its end by itself. -/
def isThrough : Except Halt Unit → Bool
  | .ok _ => true
  | .error _ => false

/-- Runs the turns of a loop, and gives the status of the last one. The fuel bounds them. -/
def runTurns (wanted : Bool) (test body : Shell Unit) : Nat → Nat → Shell Nat
  | 0, status => return status
  | fuel + 1, status => do
    let tested ← attempt test
    match ← turnAfter tested with
    | .ends => return status
    | .goesOn =>
      if !isThrough tested then runTurns wanted test body fuel status
      else if ((← get).status == 0) != wanted then return status
      else
        let result ← attempt body
        let status := (← get).status
        match ← turnAfter result with
        | .ends => return status
        | .goesOn => runTurns wanted test body fuel status

/-- Runs a script for each of some values of a variable. -/
def runForEach (name : Octets) (body : Shell Unit) : List Octets → Shell Unit
  | [] => return
  | value :: rest => do
    assign name value
    let result ← attempt body
    match ← turnAfter result with
    | .ends => return
    | .goesOn => runForEach name body rest

/-- Runs a part of a script inside of a loop. -/
def inLoop (body : Shell Unit) : Shell Unit := do
  modify fun s => { s with loops := s.loops + 1 }
  let result ← attempt body
  modify fun s => { s with loops := s.loops - 1 }
  resume result

/-- The script of the first arm with a pattern that agrees with a text. -/
def chosenArm (ev : Evaluator) (subject : Octets) : List (List Word × Script) → Shell (Option Script)
  | [] => return none
  | (patterns, body) :: arms => do
    for pattern in patterns do
      if (← expandPattern ev pattern).agrees subject.toList then return some body
    chosenArm ev subject arms

/-- Notes the line of a command. -/
def setLine (line : Nat) : Shell Unit := modify fun s => { s with line := line }

/-- The count of turns after which a loop is given up. -/
def turnLimit : Nat := 1000000000

/-- Runs a script, but for what is kept for signals. -/
def runParts (ev : Evaluator) (place : Place) : Script → Shell Unit
  | .nothing => return
  | .command line assignments words redirects => do
    setLine line
    runCommand ev place assignments words redirects
    checkFailure place
  | .redirected line body redirects => do
    setLine line
    let openings ← redirects.mapM (expandRedirect ev)
    let made ← redirected openings fun _ => do
      ev (.run ⟨place.isTested, false⟩ body)
      return false
    if !made then checkFailure place
  | .nested line body redirects => do
    setLine line
    let openings ← redirects.mapM (expandRedirect ev)
    runNested ev place openings body
    checkFailure place
  | .background line body redirects => do
    setLine line
    let openings ← redirects.mapM (expandRedirect ev)
    let children ←
      match body, openings with
      | .piped parts, [] => startParts ev false true parts none []
      | body, openings =>
        let child ← split ev do
          enterBackground true
          runInside ev false openings body
        pure [child]
    noteBackground (children.getLast?.getD 0)
  | .piped parts => do
    modify fun s => s.withJob none
    setStatus (← awaitAll (← startParts ev place.isTested false parts none []) 0)
    checkFailure place
  | .both left right => do
    ev (.run ⟨true, false⟩ left)
    if (← get).status = 0 then ev (.run place right)
  | .either left right => do
    ev (.run ⟨true, false⟩ left)
    if (← get).status != 0 then ev (.run place right)
  | .sequence first second => do
    ev (.run ⟨place.isTested, false⟩ first)
    ev (.run place second)
  | .negated body => do
    ev (.run ⟨true, false⟩ body)
    setStatus (if (← get).status = 0 then 1 else 0)
  | .conditional test yes no => do
    ev (.run ⟨true, false⟩ test)
    if (← get).status = 0 then ev (.run place yes)
    else
      match no with
      | some no => ev (.run place no)
      | none => setStatus 0
  | .repeated wanted test body => do
    inLoop do
      let part (isTested : Bool) (script : Script) : Shell Unit := ev (.run ⟨isTested, false⟩ script)
      setStatus (← runTurns wanted (part true test) (part place.isTested body) turnLimit 0)
  | .forEach line name words body => do
    setLine line
    let mut values : List Octets := []
    for word in words do
      values := values ++ (← expandFields ev word)
    if values.isEmpty then setStatus 0
    inLoop (runForEach name (ev (.run ⟨place.isTested, false⟩ body)) values)
  | .choice line subject arms => do
    setLine line
    let text ← expandText ev false subject
    match ← chosenArm ev text arms with
    | some .nothing => setStatus 0
    | some body => ev (.run place body)
    | none => setStatus 0
  | .definition _ name body => do
    modify fun s => { s with functions := (name, body) :: s.functions.filter (fun f => f.1 != name), status := 0 }

/-- How many signals are looked at in one place. -/
def trapLimit : Nat := 64

/-- Runs a script, unless scripts are only read, and what is kept for the signals that come meanwhile. -/
def runScript (ev : Evaluator) (place : Place) (script : Script) : Shell Unit := do
  runTraps ev trapLimit
  if !(← get).options.onlyReads then runParts ev place script
  runTraps ev trapLimit

/-!
## The shell as a program

How a shell starts (`Shell.program`): from its environment it takes its variables, from its arguments its options and the
script, which is a text, a file, or the input.
-/

/-- The variables that every shell has. -/
def ownVariables : List Variable :=
  [⟨"IFS", some " \t\n", false, false⟩, ⟨"PATH", some systemSearch, false, false⟩, ⟨"PS1", some "# ", false, false⟩,
   ⟨"PS2", some "> ", false, false⟩, ⟨"PS4", some "+ ", false, false⟩, ⟨"OPTIND", some "1", false, false⟩]

/-- The state that a shell starts in, without what it learns from its environment. -/
def State.initial (name : Octets) (processId : Nat) : State :=
  { name := name, arguments := [], bindings := ownVariables, functions := [], documents := [], nextDocument := 0,
    options := {}, status := 0, outputStatus := 0, processId := processId, lastBackground := none, jobs := [], line := 0,
    loops := 0, trapStatus := none, traps := [], hidden := [], builtin := none, optionPlace := (1, 0), aliases := [],
    foundPrograms := [], here := "" }

/-- The state with the variables of an environment. Some variables do not come from there. -/
def State.inEnvironment (s : State) (environment : List (Octets × Octets)) : State :=
  environment.foldl (fun s (name, value) =>
    if isName name.toList && name != "IFS" && name != "OPTIND" then s.withVariable ⟨name, some value, true, false⟩ else s) s

/-- Learns the directory that the shell is in. The one that the environment tells counts if it leads there. -/
def learnDirectory : Shell Unit := do
  let here ← ask .whereabouts
  let told := (← get).valueOf "PWD"
  let isTrue ←
    if told.startsWith "/" then
      match ← ask (.resolve told) with
      | .ok path => pure (path == here)
      | .error _ => pure false
    else pure false
  arriveAt (if isTrue then told else here)

/-- Reads the input to its end as a script. -/
def readScript (file : Nat) : Shell Octets := do
  return ((← lift (Routine.readAll file)).toOption).getD ""

/-- Runs the script that comes as the input. -/
def runInput (ev : Evaluator) (arguments : List Octets) : Shell Unit := do
  modify fun s => { s with arguments := arguments, options := { s.options with readsInput := true } }
  runText ev false true (← readScript 0)

/-- Runs the script that the arguments name. -/
def runArguments (ev : Evaluator) (arguments : List Octets) : Shell Unit := do
  let settings ← readSettings true arguments
  let readsInput := (← get).options.readsInput
  let named (rest : List Octets) : Shell Unit :=
    modify fun s => { s with name := rest.head?.getD s.name, arguments := rest.drop 1 }
  match settings.rest with
  | [] => if settings.isCommand then fail "-c requires an argument" else runInput ev []
  | first :: rest =>
    if settings.isCommand then
      named rest
      runText ev false false first
      if readsInput then runInput ev (← get).arguments
    else if readsInput then runInput ev (first :: rest)
    else
      match ← ask (.openFile first .reading) with
      | .error r => fail s!"cannot open {first}: {openRefusal r}"
      | .ok file =>
        let text ← readScript file
        let _ ← ask (.close file)
        named (first :: rest)
        runText ev false true text

/-- The shell as a program. -/
def program (ev : Evaluator) (call : Invocation) : Routine Nat := do
  let processId ← Routine.ask .identity
  let parent ← Routine.ask .parent
  let s := (State.initial call.name processId).inEnvironment call.environment
  let s := s.withVariable ⟨"PPID", some (Numeral.text parent), false, false⟩
  conclude ev (do learnDirectory; runArguments ev call.arguments) s

end ElmAssay.Machine.Shell
