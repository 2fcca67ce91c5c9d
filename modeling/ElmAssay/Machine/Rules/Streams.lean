import ElmAssay.Machine.Rules.State
import ElmAssay.Machine.Utility.Running

/-!
# The streams of rules

Output is held back until there is much of it, or until another process could see what is missing (`Run.flushAll`). Records
are read from files, from the outputs of commands, and from the files that the arguments name one after the other
(`Run.nextRecord?`), among which there may be values for variables.
-/

namespace ElmAssay.Machine.Rules

namespace Run

/-! ## Output -/

/-- The count of bytes that are held back at most. -/
def heldLimit : Nat := 4096

/-- Writes what a drain holds. -/
def flush (d : Drain) : Run Drain := do
  if d.held.isEmpty then return d
  match ← ask (.write d.file (String.join d.held.reverse)) with
  | .ok _ => return { d with held := [], heldSize := 0 }
  | .error r =>
    modify fun s => { s with drains := s.drains.filter fun e => e.file != d.file }
    fail s!"write failure ({r.wording})"

/-- Writes what all drains hold. -/
def flushAll : Run Unit := do
  let drains ← (← get).drains.mapM flush
  modify fun s => { s with drains := drains }

/-- Whether a sink is a command. -/
def isCommand (k : Sink) : Bool := k == .command

/-- Becomes the shell under a name, with a command. -/
def becomeShell (s : State) (name command : Octets) : Routine Nat := do
  let r ← s.evaluator (.start "/bin/sh" ⟨name, ["-c", command], s.call.environment⟩)
  Routine.protest s!"{s.call.name}: cannot exec shell: {r.wording}\n"
  return 2

/-- Starts a command at the other end of a pipe: it reads from it, or writes to it. The answer is its process and the open
end. -/
def startCommand (command : Octets) (reads : Bool) : Run (Nat × Nat) := do
  flushAll
  let s ← get
  let (output, input) ← ask .pipe
  let (theirs, ours) := if reads then (output, input) else (input, output)
  let child ← lift <| Routine.fork do
    let _ ← Routine.ask (.duplicate theirs (if reads then 0 else 1))
    Routine.close output
    Routine.close input
    for d in s.drains do
      if privateFiles ≤ d.file || 2 < d.file then Routine.close d.file
    becomeShell s "/bin/sh" command
  let _ ← ask (.close theirs)
  return (child, ours)

/-- Opens a drain. -/
def openDrain (k : Sink) (path : Octets) : Run Drain := do
  if isCommand k then
    let (child, file) ← startCommand path true
    return ⟨path, some child, file, [], 0⟩
  else if path = "/dev/stderr" then return ⟨path, none, 2, [], 0⟩
  else
    let mode : OpenMode := if k = .fresh then .writing else .appending
    match ← ask (.openFile path mode) with
    | .ok file => return ⟨path, none, file, [], 0⟩
    | .error r => fail s!"cannot open \"{path}\" for output ({r.wording})"

/-- The drain for a sink, which is the first one from then on. -/
def drainFor (k : Sink) (path : Octets) : Run Drain := do
  let path := if path = "-" && !isCommand k then "/dev/stdout" else path
  let isIt (d : Drain) : Bool := d.path == path && d.child.isSome == isCommand k
  match (← get).drains.find? isIt with
  | some d =>
    modify fun s => { s with drains := d :: s.drains.filter fun e => !isIt e }
    return d
  | none =>
    let d ← openDrain k path
    modify fun s => { s with drains := d :: s.drains }
    return d

/-- Puts a text into a drain. -/
def put (d : Drain) (text : Octets) : Run Unit := do
  let d := { d with held := text :: d.held, heldSize := d.heldSize + text.length }
  let d ← if heldLimit ≤ d.heldSize || d.file = 2 then flush d else pure d
  modify fun s => { s with drains := s.drains.map fun e => if e.file = d.file then d else e }

/-- Puts a text into the standard output. -/
def putOut (text : Octets) : Run Unit := do
  match (← get).drains.find? fun d => d.file == 1 with
  | some d => put d text
  | none => pure ()

/-- How a process ended, as a number. -/
def statusOf : End → Nat
  | .exited n => n
  | .killed n => 256 + n

/-- Closes a drain; the answer is how its command ended. -/
def closeDrain (d : Drain) : Run Nat := do
  let d ← flush d
  let _ ← ask (.close d.file)
  match d.child with
  | some child => return statusOf (← lift (Routine.await child))
  | none => return 0

/-- Closes all drains, those that were used last first. -/
def closeAll : Run Unit := do
  let s ← get
  for d in s.drains do
    let _ ← closeDrain d

/-! ## Input -/

/-- The count of bytes that are read at once. -/
def readSize : Nat := 4096

/-- Whether a path stands for the input. -/
def isInput (path : Octets) : Bool := path == "-" || path == "/dev/stdin"

/-- Opens a file to read records from it. -/
def openSource? (path : Octets) : Run (Except Refusal Source) := do
  if isInput path then return .ok ⟨path, none, 0, [], false⟩
  match ← ask (.openFile path .reading) with
  | .ok file => return .ok ⟨path, none, file, [], false⟩
  | .error r => return .error r

/-- The next record of a source. The fuel bounds how often more is read. -/
def recordFrom (k : Separator) : Nat → Source → Run (Option Octets × Source)
  | 0, s => return (none, s)
  | fuel + 1, s => do
    match k.nextRecord s.held s.isEnded with
    | .record text rest => return (some text, { s with held := rest })
    | .unclear =>
      match ← ask (.read s.file readSize) with
      | .ok data => recordFrom k fuel { s with held := s.held ++ data.toList, isEnded := data.isEmpty }
      | .error r => fail s!"read error ({r.wording})"
    | .nothing =>
      if s.isEnded then return (none, { s with held := [] })
      else
        match ← ask (.read s.file readSize) with
        | .ok data => recordFrom k fuel { s with held := s.held ++ data.toList, isEnded := data.isEmpty }
        | .error r => fail s!"read error ({r.wording})"

/-- The separator of records. -/
def recordSeparator : Run Separator := do separatorOf ((← get).usualText .recordSeparator)

/-- The next record of a source that is kept by its path. -/
def nextOf (s : Source) : Run (Option Octets) := do
  let k ← recordSeparator
  let isIt (e : Source) : Bool := e.path == s.path && e.child == s.child
  let (text, after) ← recordFrom k 1000000000 s
  modify fun st =>
    { st with sources := if st.sources.any isIt then st.sources.map fun e => if isIt e then after else e
        else after :: st.sources }
  return text

/-- The next record of a file; an error if it cannot be read. -/
def nextOfFile (path : Octets) : Run (Except Refusal (Option Octets)) := do
  match (← get).sources.find? fun e => e.path == path && e.child.isNone with
  | some s => .ok <$> nextOf s
  | none =>
    match ← openSource? path with
    | .ok s => .ok <$> nextOf s
    | .error r => return .error r

/-- The next record that a command puts out. -/
def nextOfCommand (command : Octets) : Run (Option Octets) := do
  match (← get).sources.find? fun e => e.path == command && e.child.isSome with
  | some s => nextOf s
  | none =>
    let (child, file) ← startCommand command false
    nextOf ⟨command, some child, file, [], false⟩

/-- Closes the streams with a path or a command; the answer is how that ended, or minus one if there is none. -/
def close (path : Octets) : Run Int := do
  let s ← get
  let drains := s.drains.filter fun d => d.path == path
  let sources := s.sources.filter fun d => d.path == path
  modify fun s =>
    { s with drains := s.drains.filter fun d => d.path != path, sources := s.sources.filter fun d => d.path != path }
  let mut result : Int := -1
  for d in drains do
    result := ← closeDrain d
  for d in sources do
    let _ ← ask (.close d.file)
    result ←
      match d.child with
      | some child => do pure (statusOf (← lift (Routine.await child)) : Int)
      | none => pure 0
  return result

/-- Runs a command and waits for it. -/
def system (command : Octets) : Run Nat := do
  flushAll
  let s ← get
  let child ← lift (Routine.fork (becomeShell s "sh" command))
  return statusOf (← lift (Routine.await child))

/-! ## Arguments -/

/-- The name and the value in an argument that gives a variable a value. -/
def bindingOf? (argument : Octets) : Option (Octets × Octets) :=
  match Utility.bindingOf? argument with
  | some (name, value) =>
    let isName := name.toList.head?.any (fun c => c.isAlpha || c == '_') && name.all fun c => c.isAlphanum || c == '_'
    if isName then some (name, value) else none
  | none => none

/-- Gives a variable a value from outside. -/
def bind (name value : Octets) : Run Unit := do
  let s ← get
  let v := Value.entry (String.ofList (unescaped value.toList))
  if name = "NF" then setFieldCount ((whole? v.real).getD 0)
  else
    match s.program.names.findIdx? (·.1 == name) with
    | some n => setVariable (.shared n) v
    | none => pure ()

/-- The next argument to read from, or nothing. The fuel bounds the arguments. -/
def nextArgument : Nat → Run (Option Octets)
  | 0 => return none
  | fuel + 1 => do
    let s ← get
    let i := s.argument
    if (s.usual .argumentCount).real ≤ Float.ofNat i then return none
    set { s with argument := i + 1 }
    let key := Key.number i
    let v ← onTable (.shared Usual.arguments.place) fun a => if (a.has key).1 then a.get key else (.unset, a)
    let text := (← get).textOf v
    if text.isEmpty then nextArgument fuel
    else
      match bindingOf? text with
      | some (name, value) =>
        bind name value
        nextArgument fuel
      | none => return some text

/-- Opens the next file of the arguments, or the input if they name none. The answer is whether there was something to
open. -/
def openNext : Run Bool := do
  if (← get).isOver then return false
  match ← nextArgument 100000 with
  | none =>
    let s ← get
    if s.hasRead then
      set { s with isOver := true, main := none }
      return false
    else
      set ({ s with hasRead := true, main := some ⟨"-", none, 0, [], false⟩ }.withUsual .fileName (.text "-"))
      return true
  | some path =>
    match ← openSource? path with
    | .error r => fail s!"cannot open \"{path}\" ({r.wording})"
    | .ok source =>
      modify fun s =>
        (({ s with hasRead := true, main := some source }).withUsual .fileName (.entry path)).withUsual .fileRecords
          (.number 0)
      return true

/-- Closes the file that records are read from. -/
def closeMain : Run Unit := do
  match (← get).main with
  | some m =>
    if m.file != 0 then
      let _ ← ask (.close m.file)
    modify fun s => { s with main := none }
  | none => pure ()

/-- The next record of the files of the arguments. The fuel bounds the files. -/
def nextMain : Nat → Run (Option Octets)
  | 0 => return none
  | fuel + 1 => do
    match (← get).main with
    | none => if ← openNext then nextMain fuel else return none
    | some m =>
      let (text, after) ← recordFrom (← recordSeparator) 1000000000 m
      match text with
      | some text =>
        modify fun s => { s with main := some after }
        return some text
      | none =>
        closeMain
        nextMain fuel

/-- The next record of the input, which is counted. -/
def nextRecord? : Run (Option Octets) := do
  match ← nextMain 100000 with
  | none => return none
  | some text =>
    modify fun s =>
      let count (u : Usual) : Value := .number ((s.usual u).real + 1)
      (s.withUsual .records (count .records)).withUsual .fileRecords (count .fileRecords)
    return some text

end Run
end ElmAssay.Machine.Rules
