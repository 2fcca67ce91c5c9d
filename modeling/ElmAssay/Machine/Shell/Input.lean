import ElmAssay.Machine.Script.Grammar
import ElmAssay.Machine.Shell.State

/-!
# Scripts that a shell reads while it runs

A shell reads a script one complete line at a time and runs each before it reads the next (`runText`). In the same way
it runs the commands that were set for signals (`runTraps`) and for its own end (`conclude`).
-/

namespace ElmAssay.Machine.Shell

/-- The text that was read up to a place, with the rest of the line there. -/
def textRead (before after : Reader) : Octets :=
  let read := before.rest.take (before.rest.length - after.rest.length)
  let isOpen := read.getLast? != some '\n'
  String.ofList (read ++ if isOpen then after.rest.takeWhile (· != '\n') ++ (after.rest.dropWhile (· != '\n')).take 1 else [])

/-- Runs the lines that a reader has left, which may be shown if they come from a file. The answer is whether there were
any commands. The fuel bounds the lines. -/
def runLines (ev : Evaluator) (isTested isFile : Bool) : Nat → Reader → Bool → Shell Bool
  | 0, _, any => return any
  | fuel + 1, r, any => do
    let s ← get
    let reader := { r with documents := [], nextDocument := s.nextDocument, aliases := s.aliases }
    let (result, reader) := (Script.readLine.run).run reader
    if isFile && (← get).options.verbose && !r.rest.isEmpty then lift (Routine.protest (textRead r reader))
    modify fun s =>
      { s with documents := reader.documents ++ s.documents, nextDocument := reader.nextDocument }
    match result with
    | .error message =>
      modify fun s => { s with line := reader.line }
      fail s!"Syntax error: {message}"
    | .ok none => return any
    | .ok (some script) =>
      let isEmpty :=
        match script with
        | .nothing => true
        | _ => false
      if !isEmpty then ev (.run ⟨isTested, false⟩ script)
      runLines ev isTested isFile fuel reader (any || !isEmpty)

/-- Runs a text that starts in the first line. Without commands its status is zero. -/
def runText (ev : Evaluator) (isTested isFile : Bool) (text : Octets) : Shell Unit := do
  let cs := text.toList
  if !(← runLines ev isTested isFile (cs.length + 2) (.start cs 1 0) false) then setStatus 0

/-- Runs what was set for the signals that were caught meanwhile, which does not change the status. The fuel bounds
their count. -/
def runTraps (ev : Evaluator) : Nat → Shell Unit
  | 0 => return
  | fuel + 1 => do
    match ← ask .caught with
    | none => return
    | some signal =>
      let s ← get
      match s.traps.lookup signal with
      | some text =>
        modify fun s => { s with trapStatus := some s.status }
        runText ev false false text
        modify fun t => { t with status := s.status, trapStatus := s.trapStatus }
      | none => return
      runTraps ev fuel

/-- Runs a step to its end, and then what was set for the end of the shell. The result is the status of the shell. -/
def conclude (ev : Evaluator) (body : Shell Unit) (s : State) : Routine Nat := do
  let (_, s) ← (body.run).run s
  match s.traps.lookup 0 with
  | none => return s.status
  | some text =>
    let s := { s with traps := s.traps.filter fun t => t.1 != 0, builtin := none, trapStatus := some s.status }
    let (result, t) ← ((runText ev false false text).run).run s
    return match result with
    | .error .leaves => t.status
    | _ => s.status

/-- Splits off a shell that runs a step, and gives its number. -/
def split (ev : Evaluator) (body : Shell Unit) : Shell Nat := do
  let s ← get
  let inner := { s with traps := s.traps.filter fun t => t.2.isEmpty, jobs := [] }
  lift (Routine.fork (conclude ev body inner))

end ElmAssay.Machine.Shell
