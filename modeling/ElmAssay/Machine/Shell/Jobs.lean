import ElmAssay.Machine.Shell.Lookup
import ElmAssay.Machine.Shell.Settings

/-!
# Children and signals

How a shell waits for its children (`awaitAll`, `waiting`), sends signals (`killing`), and keeps commands for signals
that it gets (`trapping`). Of a child that a signal ended it tells, unless the signal is one that ends programs every
day.
-/

namespace ElmAssay.Machine.Shell

/-- The status of what ended. -/
def statusOfEnd : End → Nat
  | .exited status => status
  | .killed signal => 128 + signal

/-- Tells of a child that a signal ended. -/
def tellOfEnd : End → Shell Unit
  | .exited _ => return
  | .killed signal => do
    if signal != Signal.interrupt && signal != Signal.pipe then lift (Routine.protest (Signal.notice signal ++ "\n"))

/-- Waits for children, and gives the status of the last one. -/
def awaitAll : List Nat → Nat → Shell Nat
  | [], status => return status
  | child :: children, _ => do
    let e ← lift (Routine.await child)
    tellOfEnd e
    awaitAll children (statusOfEnd e)

/-- Waits for one child. -/
def await (child : Nat) : Shell Nat := awaitAll [child] 0

/-- Notes how a child in the background ended. -/
def noteEnd (child : Nat) (e : End) : Shell Unit :=
  modify fun s => s.mapJobs fun j => if j.child = child then { j with ended := some e } else j

/-- Notes that somebody waited for a child in the background. -/
def noteDone (child : Nat) : Shell Unit :=
  modify fun s => s.mapJobs fun j => if j.child = child then { j with isDone := true } else j

/-- Waits for all children. The fuel bounds their count. -/
def waitForAll : Nat → Shell Nat
  | 0 => return 0
  | fuel + 1 => do
    match ← ask (.wait none .untilSignal) with
    | .ended child e =>
      noteEnd child e
      waitForAll fuel
    | .interrupted signal => return 128 + signal
    | _ =>
      modify fun s => s.mapJobs fun j => { j with isDone := true }
      return 0

/-- The child in the background that an argument names. -/
def jobOf (argument : Octets) : Shell (Option Nat) := do
  let jobs := (← get).jobs
  match argument.toList with
  | '%' :: cs =>
    match (Numeral.plain? (String.ofList cs)).bind fun n => if n = 0 then none else (jobs[n - 1]?).join with
    | some j => return some j.child
    | none => fail s!"No such job: {argument}"
  | _ =>
    let n ← numberOf argument
    return ((← get).job? n).map (·.child)

/-- Waits for the children that arguments name, and gives the status of the last one. -/
def waitForEach : List Octets → Nat → Shell Nat
  | [], status => return status
  | a :: rest, _ => do
    match ← jobOf a with
    | none => waitForEach rest 127
    | some child =>
      match ((← get).job? child).bind (·.ended) with
      | some e =>
        noteDone child
        waitForEach rest (statusOfEnd e)
      | none =>
        match ← ask (.wait (some child) .untilSignal) with
        | .ended _ e =>
          tellOfEnd e
          noteEnd child e
          noteDone child
          waitForEach rest (statusOfEnd e)
        | .interrupted signal => return 128 + signal
        | _ => waitForEach rest 127

/-- Waits for children in the background. -/
def waiting (arguments : List Octets) : Shell Nat := do
  let (_, names) ← readOptions [] arguments
  if names.isEmpty then waitForAll 1000000 else waitForEach names 127

/-! ## Signals -/

/-- The signal that a text names, where zero is the end of the shell. -/
def signalOf? (s : Octets) : Option Nat :=
  match Numeral.plain? s with
  | some n => if n ≤ Signal.greatest then some n else none
  | none =>
    let name := s.toUpper
    if name = "EXIT" then some 0 else Signal.named? name

/-- The name of a signal, where zero is the end of the shell. -/
def signalName (signal : Nat) : String := if signal = 0 then "EXIT" else (Signal.name? signal).getD (Numeral.text signal)

/-- How the command that sends signals is used. -/
def killUsage : String :=
  "Usage: kill [-s sigspec | -signum | -sigspec] [pid | job]... or\nkill -l [exitstatus]"

/-- Names signals. -/
def listSignals (arguments : List Octets) : Shell Nat := do
  match arguments with
  | [] => lift (Routine.emit (String.join ("0\n" :: Signal.names.map (· ++ "\n"))))
  | a :: _ =>
    let n ← numberOf a
    let signal := if 128 < n then n - 128 else n
    if signal = 0 ∨ Signal.greatest < signal then fail s!"invalid signal number or exit status: {a}"
    lift (Routine.emit (signalName signal ++ "\n"))
  return 0

/-- Sends a signal to processes. -/
def sendAll (signal : Nat) : List Octets → Nat → Shell Nat
  | [], status => return status
  | a :: rest, status => do
    let target : Int ←
      match a.toList with
      | '%' :: _ =>
        let _ ← jobOf a
        pure (-(2 ^ 31))
      | '-' :: cs => pure (-((← numberOf (String.ofList cs)) : Int))
      | _ => pure ((← numberOf a) : Int)
    match ← ask (.kill target signal) with
    | .ok _ => sendAll signal rest status
    | .error r =>
      warn (r.wording ++ "\n")
      sendAll signal rest 1

/-- Sends or names signals. -/
def killing (arguments : List Octets) : Shell Nat := do
  let direct :=
    match arguments with
    | first :: _ => if first.startsWith "-" then signalOf? (first.drop 1).toString else none
    | [] => none
  match direct with
  | some signal => if arguments.length < 2 then fail killUsage else sendAll signal (arguments.drop 1) 0
  | none =>
    let (chosen, rest) ← readOptions [('l', false), ('s', true)] arguments
    let mut signal := Signal.terminate
    for (letter, name) in chosen do
      if letter = 's' then
        match signalOf? name with
        | some n => signal := n
        | none => fail s!"invalid signal number or name: {name}"
    if chosen.any (·.1 == 'l') then listSignals rest
    else if rest.isEmpty then fail killUsage
    else sendAll signal rest 0

/-- Keeps a command for a signal; `none` takes it away and an empty one makes nothing of the signal. -/
def setTrap (signal : Nat) (action : Option Octets) : Shell Unit := do
  modify fun s => { s with traps := action.toList.map (signal, ·) ++ s.traps.filter fun t => t.1 != signal }
  if signal != 0 then
    let handling : Handling := action.elim .standard fun a => if a.isEmpty then .ignored else .caught
    ask (.handle signal handling)

/-- Keeps a command for signals up to the first name that is none. -/
def setTraps (action : Option Octets) : List Octets → Shell Nat
  | [] => return 0
  | name :: names => do
    match signalOf? name with
    | some signal =>
      setTrap signal action
      setTraps action names
    | none =>
      lift (Routine.protest s!"trap: {name}: bad trap\n")
      return 1

/-- The commands that are kept for signals. -/
def listedTraps (traps : List (Nat × Octets)) : Octets :=
  let sorted := traps.mergeSort fun a b => a.1 ≤ b.1
  String.join (sorted.map fun t => "trap -- " ++ singleQuoted t.2 ++ " " ++ signalName t.1 ++ "\n")

/-- Keeps commands for signals, or lists them. -/
def trapping (arguments : List Octets) : Shell Nat := do
  let (_, arguments) ← readOptions [] arguments
  match arguments with
  | [] =>
    lift (Routine.emit (listedTraps (← get).traps))
    return 0
  | [name] => setTraps none [name]
  | action :: names =>
    if (Numeral.plain? action).isSome then setTraps none (action :: names)
    else setTraps (if action = "-" then none else some action) names

end ElmAssay.Machine.Shell
