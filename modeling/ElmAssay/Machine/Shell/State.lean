import ElmAssay.Machine.Call
import ElmAssay.Machine.Numeral
import ElmAssay.Machine.Script
import ElmAssay.Machine.Signal

/-!
# The state of a shell

What a shell knows while it runs a script (`Shell.State`), and the steps that change it (`Shell`). A step may leave a
loop, a function or the shell before its end (`Shell.Halt`). What a shell runs it runs by an evaluator (`Evaluator`), to
which scripts and programs that stand inside of others are handed (`Task`).
-/

namespace ElmAssay.Machine

namespace Shell

/-- A variable. One without a value may still be marked. -/
structure Variable where
  name : Octets
  value : Option Octets
  isExported : Bool
  isReadonly : Bool
  deriving DecidableEq, Repr

/-- The options of a shell, by the letters that set them. -/
structure Options where
  /-- Leaves the shell when a command fails. -/
  stopsOnFailure : Bool := false
  /-- Takes a parameter without a value for an error. -/
  needsValues : Bool := false
  /-- Shows commands before they run. -/
  traces : Bool := false
  /-- Does not look for file names that agree with a word. -/
  keepsPatterns : Bool := false
  /-- Only reads commands. -/
  onlyReads : Bool := false
  exportsAll : Bool := false
  protectsFiles : Bool := false
  verbose : Bool := false
  readsInput : Bool := false
  deriving DecidableEq, Repr

/-- A child in the background. -/
structure Job where
  child : Nat
  ended : Option End
  /-- Whether somebody waited for its end. -/
  isDone : Bool
  deriving DecidableEq, Repr

/-- What a shell knows. -/
structure State where
  /-- The name that messages start with, and the parameter zero. -/
  name : Octets
  arguments : List Octets
  bindings : List Variable
  functions : List (Octets × Script)
  documents : Documents
  nextDocument : Nat
  options : Options
  status : Nat
  /-- The status of the last output that was put into a word of the command. -/
  outputStatus : Nat
  processId : Nat
  lastBackground : Option Nat
  /-- The places for children in the background. -/
  jobs : List (Option Job)
  line : Nat
  loops : Nat
  /-- The status from before the command that was set for a signal or for the end and runs now. -/
  trapStatus : Option Nat
  traps : List (Nat × Octets)
  /-- For each function that runs, what its local variables hide. -/
  hidden : List (List (Octets × Option Variable))
  /-- The builtin command that runs. -/
  builtin : Option Octets
  /-- The argument that is looked at next for options, and how many of its letters were looked at. -/
  optionPlace : Nat × Nat
  aliases : List (Octets × Octets)
  /-- The programs that were found by their names. -/
  foundPrograms : List Octets
  /-- The directory that the shell is in, by the path it came on. -/
  here : Octets

/-- Why a shell does not go on with the next command. -/
inductive Halt
  /-- The shell ends with its status. -/
  | leaves
  /-- An error that the shell ends with, unless a command is there to catch it. -/
  | fails
  | breaks (loops : Nat)
  | continues (loops : Nat)
  | returns
  deriving DecidableEq, Repr

end Shell

/-- A step of a shell. -/
abbrev Shell (α : Type) := ExceptT Shell.Halt (StateT Shell.State Routine) α

/-- A program that is called: its name as it was called, its arguments and its environment. -/
structure Invocation where
  name : Octets
  arguments : List Octets
  environment : List (Octets × Octets)
  deriving DecidableEq, Repr

/-- In what place a script runs. -/
structure Place where
  /-- Whether its failure is looked at, so that no option ends the shell for it. -/
  isTested : Bool
  /-- Whether the shell ends with it. -/
  isLast : Bool
  deriving DecidableEq, Repr

/-- What a shell hands to its evaluator. -/
inductive Task
  | run (place : Place) (script : Script)
  /-- The process becomes the program at a path. -/
  | start (path : Octets) (call : Invocation)

/-- What comes of a task. A program that starts takes the place of the process; there is only a result if it could not
start. -/
abbrev Task.Result : Task → Type
  | .run .. => Shell Unit
  | .start .. => Routine Refusal

/-- What runs scripts and programs. -/
abbrev Evaluator := (t : Task) → t.Result

namespace Shell

/-! ## Steps -/

/-- Asks the system for something. -/
def ask (r : Request) : Shell r.Answer := monadLift (Routine.ask r : Routine r.Answer)

/-- A routine as a step. -/
def lift {α : Type} (r : Routine α) : Shell α := monadLift r

/-- Sets the status. -/
def setStatus (status : Nat) : Shell Unit := modify fun s => { s with status := status }

/-- Leaves the shell with a status. -/
def leave {α : Type} (status : Nat) : Shell α := do
  setStatus status
  throw .leaves

/-- What a message starts with. -/
def State.heading (s : State) : Octets :=
  let builtin := s.builtin.elim "" (· ++ ": ")
  s!"{s.name}: {s.line}: {builtin}"

/-- Writes a message. -/
def warn (message : Octets) : Shell Unit := do
  lift (Routine.protest ((← get).heading ++ message ++ "\n"))

/-- Stops with a message. -/
def fail {α : Type} (message : Octets) : Shell α := do
  warn message
  setStatus 2
  throw .fails

/-- What a message says of a refusal where files are opened. -/
def openRefusal (r : Refusal) : String :=
  match r with
  | .noEntry => "No such file"
  | .notDirectory => "No such file"
  | r => r.wording

/-- What a message says of a refusal where files are made. -/
def creationRefusal (r : Refusal) : String :=
  match r with
  | .noEntry => "Directory nonexistent"
  | .notDirectory => "Directory nonexistent"
  | r => r.wording

/-- What a message says of a refusal where programs start. -/
def startRefusal (r : Refusal) : String :=
  match r with
  | .noEntry => "not found"
  | .notDirectory => "not found"
  | r => r.wording

/-- The status of a program that could not start. -/
def startStatus (r : Refusal) : Nat :=
  match r with
  | .noEntry => 127
  | .notDirectory => 127
  | .nameTooLong => 127
  | .tooManyLinks => 127
  | _ => 126

/-! ## Children in the background -/

namespace State

/-- Whether a place is free for a child: it is so too after somebody waited for the one that has it. -/
def isVacant (place : Option Job) : Bool := place.all (·.isDone)

/-- The state with something in the first vacant place, or in a new one. -/
def withJob (s : State) (job : Option Job) : State :=
  match s.jobs.findIdx? isVacant with
  | some n => { s with jobs := s.jobs.set n job }
  | none => { s with jobs := s.jobs ++ [job] }

/-- The child in the background with a number. -/
def job? (s : State) (child : Nat) : Option Job := s.jobs.findSome? fun j => j.filter (·.child == child)

/-- The state in which something is known of children in the background. -/
def mapJobs (s : State) (f : Job → Job) : State := { s with jobs := s.jobs.map (·.map f) }

end State

/-! ## Variables -/

namespace State

/-- A variable by its name. -/
def binding? (s : State) (name : Octets) : Option Variable := s.bindings.find? fun v => v.name == name

/-- The value of a variable. -/
def value? (s : State) (name : Octets) : Option Octets := (s.binding? name).bind (·.value)

/-- The value of a variable, where none is empty. -/
def valueOf (s : State) (name : Octets) : Octets := (s.value? name).getD ""

/-- The state with a variable in place of what has its name. -/
def withVariable (s : State) (v : Variable) : State :=
  if (s.binding? v.name).isSome then
    { s with bindings := s.bindings.map fun u => if u.name = v.name then v else u }
  else { s with bindings := s.bindings ++ [v] }

/-- The state without a variable. -/
def withoutVariable (s : State) (name : Octets) : State :=
  { s with bindings := s.bindings.filter fun v => v.name != name }

/-- The state in which a variable is what it was before. -/
def restored (s : State) (name : Octets) (v : Option Variable) : State := v.elim (s.withoutVariable name) s.withVariable

/-- The state in which a variable has a value. -/
def assigned (s : State) (name value : Octets) : State :=
  let v := (s.binding? name).getD ⟨name, none, false, false⟩
  let s :=
    match name with
    | "OPTIND" => { s with optionPlace := (max 1 ((Numeral.plain? value).getD 1), 0) }
    | "PATH" => { s with foundPrograms := [] }
    | _ => s
  s.withVariable { v with value := some value, isExported := v.isExported || s.options.exportsAll }

/-- The count of rows in which variables are kept. -/
def rows : Nat := 39

/-- The row of a variable. -/
def rowOf (name : Octets) : Nat :=
  name.toList.foldl (fun n c => n + c.toNat) ((name.toList.head?.elim 0 Char.toNat) * 16) % rows

/-- The variables that programs are told of, row by row. -/
def environment (s : State) : List (Octets × Octets) :=
  let exported := s.bindings.filterMap fun v => if v.isExported then v.value.map (v.name, ·) else none
  exported.mergeSort fun a b => rowOf a.1 ≤ rowOf b.1

/-- The characters that words are cut at. -/
def separators (s : State) : List Char := ((s.value? "IFS").getD " \t\n").toList

/-- What stands between arguments that are put together. -/
def joint (s : State) : Octets :=
  match s.value? "IFS" with
  | none => " "
  | some ifs => String.ofList (ifs.toList.take 1)

end State

/-- Gives a variable a value. -/
def assign (name value : Octets) : Shell Unit := do
  let s ← get
  if ((s.binding? name).map (·.isReadonly)).getD false then fail s!"{name}: is read only"
  set (s.assigned name value)

end Shell
end ElmAssay.Machine
