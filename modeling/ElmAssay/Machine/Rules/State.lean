import ElmAssay.Machine.Rules.Associations
import ElmAssay.Machine.Rules.Chance
import ElmAssay.Machine.Rules.Pattern
import ElmAssay.Machine.Rules.Value
import ElmAssay.Machine.Shell.State

/-!
# The state of a program of rules

While a program of rules runs there are its variables, the record with its fields, and the streams that it reads and writes
(`State`). A step may stop what is going on (`Stop`): a loop, a function, the work on a record, or all of it.
-/

namespace ElmAssay.Machine.Rules

/-- What a variable holds: a value, or a table by its number. -/
inductive Slot
  | single (v : Value)
  | table (n : Nat)

instance : Inhabited Slot := ⟨.single .unset⟩

/-- A stream that records are read from: a file or the output of a command, with what was read and not used yet. -/
structure Source where
  path : Octets
  /-- The process of the command. -/
  child : Option Nat
  file : Nat
  held : List Char
  isEnded : Bool

/-- A stream that output goes to: a file or the input of a command, with what was not written yet, latest first. -/
structure Drain where
  path : Octets
  /-- The process of the command. -/
  child : Option Nat
  file : Nat
  held : List Octets
  heldSize : Nat

/-- The state of a program. -/
structure State where
  program : Rules
  evaluator : Evaluator
  call : Invocation
  shared : Array Slot
  own : Array Slot
  tables : Array Associations
  record : Octets
  /-- The fields, if the record was cut already. -/
  fields : Option (Array Value)
  sources : List Source
  /-- The drains, those that were used last in front. -/
  drains : List Drain
  main : Option Source
  /-- The number of the next argument. -/
  argument : Nat
  /-- Whether an argument was read from. -/
  hasRead : Bool
  isOver : Bool
  /-- For each rule whether it is inside of its span. -/
  spans : Array Bool
  chance : Option Chance
  seed : Value
  status : Nat
  /-- Patterns that were read while the program ran. -/
  patterns : List (Octets × Pattern)
  /-- The count of turns of loops. -/
  turns : Nat

/-- What stops a step. -/
inductive Stop
  | leaveLoop
  | nextTurn
  | next
  | nextFile
  | exit
  | returning (v : Value)
  /-- An error, which was told. -/
  | broken

/-- A step of a program. -/
abbrev Run (α : Type) := ExceptT Stop (StateT State Routine) α

/-! ## The variables that every program has -/

/-- The places of the variables that every program has. -/
inductive Usual
  | records
  | fileRecords
  | fieldSeparator
  | fieldJoint
  | recordJoint
  | recordSeparator
  | fileName
  | subscriptJoint
  | matchStart
  | matchLength
  | numberText
  | numberOutput
  | argumentCount
  | arguments
  | environment
  deriving DecidableEq, Repr

/-- The place of a variable. -/
def Usual.place : Usual → Nat
  | records => 0
  | fileRecords => 1
  | fieldSeparator => 2
  | fieldJoint => 3
  | recordJoint => 4
  | recordSeparator => 5
  | fileName => 6
  | subscriptJoint => 7
  | matchStart => 8
  | matchLength => 9
  | numberText => 10
  | numberOutput => 11
  | argumentCount => 12
  | arguments => 13
  | environment => 14

namespace State

/-- The value of a variable that every program has. -/
def usual (s : State) (u : Usual) : Value :=
  match s.shared[u.place]? with
  | some (.single v) => v
  | _ => .unset

/-- The state in which such a variable has a value. -/
def withUsual (s : State) (u : Usual) (v : Value) : State := { s with shared := s.shared.set! u.place (.single v) }

/-- How numbers become texts. -/
def numberFormat (s : State) : Octets := (s.usual .numberText).textBy "%.6g"

/-- The text of a value. -/
def textOf (s : State) (v : Value) : Octets :=
  match v with
  | .number _ => v.textBy s.numberFormat
  | v => v.textBy ""

/-- The text of a variable that every program has. -/
def usualText (s : State) (u : Usual) : Octets := s.textOf (s.usual u)

/-- What a variable holds. -/
def slot (s : State) : Ref → Slot
  | .shared n => (s.shared[n]?).getD default
  | .own n => (s.own[n]?).getD default

/-- The number of the table that a variable holds. -/
def tableOf (s : State) (r : Ref) : Nat :=
  match s.slot r with
  | .table n => n
  | .single _ => 0

/-- The table with a number, and the state in which an empty one is in its place. -/
@[noinline] def takeTable (s : State) (n : Nat) : Associations × State :=
  if h : n < s.tables.size then
    let (a, tables) := s.tables.swapAt n .empty h
    (a, { s with tables := tables })
  else (.empty, s)

/-- The state with one more table, and its number. -/
def withTable (s : State) (a : Associations) : Nat × State := (s.tables.size, { s with tables := s.tables.push a })

/-- The start of a program. -/
def start (program : Rules) (ev : Evaluator) (call : Invocation) : State :=
  let slots := program.names.toList.zipIdx.map fun ((_, isTable), i) => if isTable then Slot.table i else .single .unset
  { program := program, evaluator := ev, call := call, shared := slots.toArray, own := #[]
    tables := Array.replicate slots.length Associations.empty, record := "", fields := none, sources := []
    drains := [⟨"/dev/stdout", none, 1, [], 0⟩], main := none, argument := 1, hasRead := false, isOver := false
    spans := Array.replicate program.rules.length false, chance := none, seed := .unset, status := 0, patterns := []
    turns := 0 }

end State

namespace Run

/-- Asks the system for something. -/
def ask (r : Request) : Run r.Answer := monadLift (Routine.ask r : Routine r.Answer)

/-- A routine as a step. -/
def lift {α : Type} (r : Routine α) : Run α := monadLift r

/-- Writes a message behind the name of the program. -/
def tell (message : Octets) : Run Unit := do
  let name := (← get).call.name
  lift (Routine.protest s!"{name}: {message}\n")

/-- Ends the program after a message. -/
def fail {α : Type} (message : Octets) : Run α := do
  tell message
  modify fun s => { s with status := 2 }
  throw .broken

/-- Ends the program after a message about a record. -/
def failAt {α : Type} (message : Octets) : Run α := do
  let s ← get
  let file := s.usualText .fileName
  let count (u : Usual) : Octets := Rules.textOf "%.6g" (s.usual u).real
  let inFile := count .fileRecords
  let all := count .records
  fail s!"run time error: {message}\n\tFILENAME=\"{file}\" FNR={inFile} NR={all}"

/-- The pattern that a text writes. -/
def patternOf (text : Octets) : Run Pattern := do
  let s ← get
  match s.patterns.lookup text with
  | some p => return p
  | none =>
    match Pattern.read text with
    | .ok p =>
      set { s with patterns := (text, p) :: s.patterns.take 30 }
      return p
    | .error d => failAt s!"regular expression compile failed ({d.message})\n{text}"

/-- The separator that a text stands for. -/
def separatorOf (text : Octets) : Run Separator :=
  if text.length ≤ 1 then
    match Separator.read text with
    | .ok k => return k
    | .error _ => return .blanks
  else .pattern <$> patternOf text

/-! ## The record -/

/-- The fields of the record. -/
def fields : Run (Array Value) := do
  let s ← get
  match s.fields with
  | some fs => return fs
  | none =>
    let k ← separatorOf (s.usualText .fieldSeparator)
    let fs := ((k.cut s.record).map Value.entry).toArray
    modify fun s => { s with fields := some fs }
    return fs

/-- Changes the record. -/
def setRecord (text : Octets) : Run Unit := modify fun s => { s with record := text, fields := none }

/-- Changes the fields of the record, and the record with them. -/
def setFields (fs : Array Value) : Run Unit :=
  modify fun s =>
    { s with fields := some fs, record := (s.usualText .fieldJoint).intercalate (fs.toList.map s.textOf) }

/-- The field with a number. -/
def field (n : Int) : Run Value := do
  if n < 0 then failAt s!"negative field index ${n}"
  else if n = 0 then return .entry (← get).record
  else return ((← fields)[n.toNat - 1]?).getD (.entry "")

/-- Changes the count of the fields. -/
def setFieldCount (n : Int) : Run Unit := do
  if n < 0 then failAt "negative value assigned to NF"
  else
    let fs ← fields
    let n := n.toNat
    setFields (fs.take n ++ Array.replicate (n - fs.size) (.entry ""))

/-- Changes the field with a number. -/
def setField (n : Int) (v : Value) : Run Unit := do
  if n < 0 then failAt s!"negative field index ${n}"
  else if n = 0 then setRecord ((← get).textOf v)
  else
    let fs ← fields
    let i := n.toNat - 1
    let fs := fs ++ Array.replicate (i + 1 - fs.size) (.entry "")
    setFields (fs.set! i v)

/-! ## Variables and tables -/

/-- The value of a variable. -/
def variableOf (r : Ref) : Run Value := do
  match (← get).slot r with
  | .single v => return v
  | .table _ => return .unset

/-- Gives a variable a value. The record is cut before its separator changes. -/
def setVariable (r : Ref) (v : Value) : Run Unit := do
  match r with
  | .own n => modify fun s => { s with own := s.own.set! n (.single v) }
  | .shared n =>
    if n = Usual.fieldSeparator.place then
      let _ ← fields
      let _ ← separatorOf ((← get).textOf v)
    modify fun s => { s with shared := s.shared.set! n (.single v) }

/-- Changes a table, with what comes of that. -/
def onTable {α : Type} (r : Ref) (f : Associations → α × Associations) : Run α := do
  modifyGet fun s =>
    let n := s.tableOf r
    let (a, s) := s.takeTable n
    let (result, a) := f a
    (result, { s with tables := s.tables.set! n a })

/-- The key that a value is. -/
def keyOf (v : Value) : Run Key := do
  match v with
  | .number x =>
    match whole? x with
    | some n => if isWhole x && n.natAbs < 2 ^ 31 then return .number n else return .text ((← get).textOf v)
    | none => return .text ((← get).textOf v)
  | v => return .text ((← get).textOf v)

/-- The key that several values are. -/
def keyOfAll (vs : List Value) : Run Key := do
  match vs with
  | [v] => keyOf v
  | vs =>
    let s ← get
    return .text ((s.usualText .subscriptJoint).intercalate (vs.map s.textOf))

end Run
end ElmAssay.Machine.Rules
