import ElmAssay.Machine.Shell.Condition
import ElmAssay.Machine.Shell.Input
import ElmAssay.Machine.Shell.Jobs
import ElmAssay.Machine.Shell.Printing
import ElmAssay.Machine.Shell.Surroundings
import ElmAssay.Machine.Shell.Variables

/-!
# The builtin commands

What the commands do that are built into a shell, by their names (`runBuiltin`). Those that leave something do so by an
exception; all others give their status.
-/

namespace ElmAssay.Machine.Shell

/-- The count that an argument gives, which is one without it. -/
def countOf (arguments : List Octets) : Shell Nat := do
  match arguments with
  | [] => return 1
  | a :: _ =>
    let n ← numberOf a
    if n = 0 then fail s!"Illegal number: {a}" else return n

/-- Leaves loops, or goes on with their next turn. -/
def leavingLoops (halt : Nat → Halt) (arguments : List Octets) : Shell Nat := do
  let n := min (← countOf arguments) (← get).loops
  setStatus 0
  if n = 0 then return 0 else throw (halt n)

/-- Ends the shell. -/
def exiting (arguments : List Octets) : Shell Nat := do
  match arguments with
  | a :: _ => leave (← numberOf a)
  | [] =>
    let s ← get
    leave (s.trapStatus.getD s.status)

/-- Ends the function or the script that was read in. -/
def returning (arguments : List Octets) : Shell Nat := do
  match arguments with
  | a :: _ => setStatus (← numberOf a)
  | [] => pure ()
  throw .returns

/-- Runs arguments as a script. -/
def evaluating (ev : Evaluator) (place : Place) (arguments : List Octets) : Shell Nat := do
  if arguments.isEmpty then return 0
  runText ev place.isTested false (" ".intercalate arguments)
  return (← get).status

/-- The file of a script that is read in by a name. -/
def scriptFile (name : Octets) : Shell Octets := do
  if isPath name then return name
  match ← lift (fromFirstFile (pathsIn ((← get).valueOf "PATH") name) .noEntry) with
  | .ok (path :: _) => return path
  | _ => fail s!"{name}: not found"

/-- Runs a script from a file in this shell. -/
def sourcing (ev : Evaluator) (arguments : List Octets) : Shell Nat := do
  match arguments with
  | [] => return 0
  | name :: _ =>
    let path ← scriptFile name
    match ← ask (.openFile path .reading) with
    | .error r => fail s!"cannot open {path}: {openRefusal r}"
    | .ok file =>
      let data ← lift (Routine.readAll file)
      let _ ← ask (.close file)
      modify fun s => { s with builtin := some path }
      try runText ev false true ((data.toOption).getD "")
      catch
        | .returns => pure ()
        | h => throw h
      return (← get).status

/-- Stops because a program could not start. -/
def failToStart {α : Type} (name : Octets) (r : Refusal) : Shell α := do
  warn s!"{name}: {startRefusal r}"
  leave (startStatus r)

/-- Becomes a program. -/
def becoming (ev : Evaluator) (search : Octets) (arguments : List Octets) : Shell Nat := do
  let (_, arguments) ← readOptions [] arguments
  match arguments with
  | [] => return 0
  | name :: rest =>
    let s ← get
    let paths := if isPath name then [name] else pathsIn search name
    failToStart name (← lift (startFirst ev ⟨name, rest, s.environment⟩ paths .noEntry))

/-- Tells what names stand for. -/
def explaining : List Octets → Octets → Nat → Shell Nat
  | [], said, status => tell said status
  | name :: names, said, status => do
    let s ← get
    let (words, isKnown) ← describe true (s.valueOf "PATH") name
    explaining names (said ++ words) (if isKnown then status else 127)

/-- The search path that finds the programs of the system. -/
def systemSearch : Octets := "/usr/local/sbin:/usr/local/bin:/usr/sbin:/usr/bin:/sbin:/bin"

/-- Tells what one name stands for. -/
def verifying (arguments : List Octets) : Shell Nat := do
  let (chosen, names) ← readOptions [('p', false), ('v', false), ('V', false)] arguments
  let s ← get
  let search := if chosen.any (·.1 == 'p') then systemSearch else s.valueOf "PATH"
  match chosen.find? (·.1 != 'p'), names with
  | some (letter, _), name :: _ =>
    let (words, isKnown) ← describe (letter == 'V') search name
    tell words (if isKnown then 0 else 127)
  | _, _ => return 0

/-- Tests a condition. -/
def testing (name : Octets) (arguments : List Octets) : Shell Nat := do
  let isClosed := name == "["
  if isClosed && arguments.getLast? != some "]" then fail "missing ]"
  match ← lift (Condition.holds (if isClosed then arguments.dropLast else arguments)) with
  | .ok answer => return if answer then 0 else 1
  | .error message => fail message

/-- Lays out arguments by a format. -/
def formatting (arguments : List Octets) : Shell Nat := do
  let (_, arguments) ← readOptions [] arguments
  match arguments with
  | [] => fail "usage: printf format [arg ...]"
  | format :: given =>
    let (output, warnings, defect) := Format.print format given
    for w in warnings do warn w
    match defect with
    | some message =>
      warn message
      let _ ← tell output 0
      setStatus 2
      throw .fails
    | none => tell output (if warnings.isEmpty then 0 else 1)

/-- Keeps other names for commands, or tells about them. -/
def aliasing : List Octets → Octets → Nat → Shell Nat
  | [], said, status => tell said status
  | a :: rest, said, status => do
    match nameAndValue a with
    | (name, some value) =>
      modify fun s =>
        { s with
          aliases :=
            if (s.aliases.lookup name).isSome then s.aliases.map fun p => if p.1 = name then (name, value) else p
            else s.aliases ++ [(name, value)] }
      aliasing rest said status
    | (name, none) =>
      match (← get).aliases.lookup name with
      | some value => aliasing rest (said ++ name ++ "=" ++ singleQuoted value ++ "\n") status
      | none =>
        lift (Routine.protest s!"alias: {name} not found\n")
        aliasing rest said 1

/-- The count of the groups that other names are listed in. -/
def aliasGroups : Nat := 39

/-- The group that another name is listed in. -/
def aliasGroup (name : Octets) : Nat :=
  let codes := name.toList.map Char.toNat
  codes.foldl (· + ·) (16 * codes.headD 0) % aliasGroups

/-- The other names for commands. -/
def listedAliases (s : State) : Octets :=
  let sorted := s.aliases.mergeSort fun a b => aliasGroup a.1 ≤ aliasGroup b.1
  String.join (sorted.map fun p => p.1 ++ "=" ++ singleQuoted p.2 ++ "\n")

/-- Forgets other names for commands. -/
def unaliasing (arguments : List Octets) : Shell Nat := do
  let (chosen, names) ← readOptions [('a', false)] arguments
  if !chosen.isEmpty then
    modify fun s => { s with aliases := [] }
    return 0
  let mut status := 0
  for name in names do
    if ((← get).aliases.lookup name).isNone then
      lift (Routine.protest s!"unalias: {name} not found\n")
      status := 1
    modify fun s => { s with aliases := s.aliases.filter fun p => p.1 != name }
  return status

/-- Looks for programs beforehand, or forgets where they are. -/
def remembering (arguments : List Octets) : Shell Nat := do
  let (chosen, names) ← readOptions [('r', false), ('v', false)] arguments
  if chosen.any (·.1 == 'r') then
    modify fun s => { s with foundPrograms := [] }
    return 0
  let mut status := 0
  for name in names do
    match ← lookUp true ((← get).valueOf "PATH") name with
    | .unknown r =>
      warn s!"{name}: {startRefusal r}"
      status := 1
    | _ => pure ()
  return status

/-- What the times of the shell and its children are said to be. -/
def noTimes : Octets := "0m0.000000s 0m0.000000s\n0m0.000000s 0m0.000000s\n"

/-- Runs a builtin command. -/
def runBuiltin (ev : Evaluator) (place : Place) (name : Octets) (arguments : List Octets) : Shell Nat := do
  match name with
  | "." => sourcing ev arguments
  | "break" => leavingLoops .breaks arguments
  | "continue" => leavingLoops .continues arguments
  | "eval" => evaluating ev place arguments
  | "exec" => becoming ev ((← get).valueOf "PATH") arguments
  | "exit" => exiting arguments
  | "export" => exporting arguments
  | "local" => localize arguments
  | "readonly" => protecting arguments
  | "return" => returning arguments
  | "set" => setting arguments
  | "shift" => shift arguments
  | "times" => tell noTimes 0
  | "trap" => trapping arguments
  | "unset" => unset arguments
  | "[" => testing name arguments
  | "test" => testing name arguments
  | "alias" => if arguments.isEmpty then tell (listedAliases (← get)) 0 else aliasing arguments "" 0
  | "unalias" => unaliasing arguments
  | "cd" => changingDirectory arguments
  | "chdir" => changingDirectory arguments
  | "command" => verifying arguments
  | "echo" => tell (echoed arguments) 0
  | "false" => return 1
  | "getopts" => nextOption arguments
  | "hash" => remembering arguments
  | "kill" => killing arguments
  | "printf" => formatting arguments
  | "pwd" => tellingDirectory arguments
  | "read" => reading arguments
  | "type" => explaining arguments "" 0
  | "umask" => masking arguments
  | "ulimit" => tell "unlimited\n" 0
  | "wait" => waiting arguments
  | "bg" => fail "No current job"
  | "fg" => fail "No current job"
  | _ => return 0

end ElmAssay.Machine.Shell
