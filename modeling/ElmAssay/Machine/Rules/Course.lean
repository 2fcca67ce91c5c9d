import ElmAssay.Machine.Rules.Evaluation

/-!
# The course of a program of rules

How statements are carried out (`perform`), and the whole course of a program: what it does in front of the records, the rules
for each of them, and what it does behind them (`course`). An end that is asked for in front of the last part leads to that
part; an error leads out of everything.
-/

namespace ElmAssay.Machine.Rules

namespace Run

/-! ## Output -/

/-- Puts a text where a redirection says. -/
def putTo (k : Doing) (text : Octets) : Redirection → Run Unit
  | none => putOut text
  | some (sink, path) => do put (← drainFor sink (← textFor (← k.value path))) text

/-- The text of a value for output. -/
def shownFor (v : Value) : Run Octets := do
  match v with
  | .number _ => return v.textBy ((← get).usualText .numberOutput)
  | v => textFor v

/-- The line that values make. -/
def lineOf (k : Doing) : List Expr → Run Octets
  | [] => do textFor (← field 0)
  | arguments => do
    let texts ← (← arguments.mapM k.value).mapM shownFor
    return ((← get).usualText .fieldJoint).intercalate texts

/-- Writes what a format makes of values. If it ends early, what is in front of that is written as well. -/
def putFormatted (k : Doing) (arguments : List Expr) (r : Redirection) : Run Unit := do
  match ← arguments.mapM k.value with
  | [] => return
  | format :: rest =>
    let format ← textFor format
    let (text, defect) := Layout.lay (← get).numberFormat format rest
    putTo k text r
    if let some d := defect then failAt (d.message "printf" format)

/-! ## Loops -/

/-- The greatest count of turns of a loop. -/
def turnLimit : Nat := 1000000000

/-- A turn of a loop; the answer is whether the loop goes on. -/
def turn (k : Doing) (body : Statement) : Run Bool := do
  tick
  tryCatch (do k.perform body; pure true) fun
    | .leaveLoop => pure false
    | .nextTurn => pure true
    | stop => throw stop

/-- Whether a condition holds, where none always does. -/
def holds (k : Doing) : Option Expr → Run Bool
  | some e => do return (← k.value e).isTrue
  | none => return true

/-- Does something again and again as long as a condition holds. The fuel bounds the turns. -/
def repeatWhile (k : Doing) (condition : Option Expr) (body : Statement) (step : Option Expr) : Nat → Run Unit
  | 0 => return
  | fuel + 1 => do
    if ← holds k condition then
      if ← turn k body then
        if let some e := step then
          let _ ← k.value e
        repeatWhile k condition body step fuel

/-- Does something for each of some keys. -/
def repeatFor (k : Doing) (r : Ref) (body : Statement) : List Octets → Run Unit
  | [] => return
  | key :: keys => do
    setVariable r (.text key)
    if ← turn k body then repeatFor k r body keys

/-! ## Statements -/

/-- Carries out statements one after the other. -/
def performAll (k : Doing) : List Statement → Run Unit
  | [] => return
  | s :: rest => do
    k.perform s
    performAll k rest

/-- The status that an expression asks for. -/
def statusFor (v : Value) : Nat := (limited v.real % 256).toNat

/-- Carries out a statement. -/
def perform (k : Doing) : Statement → Run Unit
  | .block body => performAll k body
  | .evaluate e => do
    let _ ← k.value e
  | .print arguments r => do
    let line ← lineOf k arguments
    putTo k (line ++ (← get).usualText .recordJoint) r
  | .printf arguments r => putFormatted k arguments r
  | .when condition yes no => do
    if (← k.value condition).isTrue then k.perform yes
    else if let some no := no then k.perform no
  | .loop condition body => repeatWhile k (some condition) body none turnLimit
  | .loopAfter body condition => do
    if ← turn k body then repeatWhile k (some condition) body none turnLimit
  | .count start condition step body => do
    if let some e := start then
      let _ ← k.value e
    repeatWhile k condition body step turnLimit
  | .forEach r array body => do
    let keys ← onTable array fun a => a.keys
    repeatFor k r body keys
  | .delete array none => onTable array fun _ => ((), Associations.empty)
  | .delete array (some subscripts) => do
    let key ← keyFor k subscripts
    onTable array fun a => ((), a.erase key)
  | .leaveLoop => throw .leaveLoop
  | .nextTurn => throw .nextTurn
  | .next => throw .next
  | .nextFile => throw .nextFile
  | .exit none => throw .exit
  | .exit (some e) => do
    let v ← k.value e
    modify fun s => { s with status := statusFor v }
    throw .exit
  | .return none => throw (.returning .unset)
  | .return (some e) => do throw (.returning (← k.value e))

/-- How expressions and statements are dealt with that stand inside of each other to a depth. -/
def doing : Nat → Doing
  | 0 => ⟨fun _ => throw .broken, fun _ => throw .broken⟩
  | depth + 1 => ⟨fun e => evaluate (doing depth) e, fun s => perform (doing depth) s⟩

/-- The greatest depth of expressions and statements. -/
def depthLimit : Nat := 1000000000

/-- How expressions and statements are dealt with. -/
def usualDoing : Doing := doing depthLimit

/-! ## The rules -/

/-- Whether the condition of the rule at a place holds for the record. -/
def isMet (k : Doing) (place : Nat) : Condition → Run Bool
  | .always => return true
  | .holding e => do return (← k.value e).isTrue
  | .span first last => do
    let isInside := ((← get).spans[place]?).getD false
    if isInside || (← holds k (if isInside then none else some first)) then
      let isLast := (← k.value last).isTrue
      modify fun s => { s with spans := s.spans.set! place !isLast }
      return true
    else return false

/-- What rules do to the record, from the one at a place on. -/
def applyRules (k : Doing) : Nat → List Rule → Run Unit
  | _, [] => return
  | place, r :: rest => do
    if ← isMet k place r.condition then k.perform (r.action.getD (.print [] none))
    applyRules k (place + 1) rest

/-- What the rules do to all records. The fuel bounds their count. -/
def applyToAll (k : Doing) (rules : List Rule) : Nat → Run Unit
  | 0 => return
  | fuel + 1 => do
    match ← nextRecord? with
    | none => return
    | some text =>
      setRecord text
      tick
      tryCatch (applyRules k 0 rules) fun
        | .next => modify fun s => { s with own := #[] }
        | .nextFile => do
          modify fun s => { s with own := #[] }
          closeMain
        | stop => throw stop
      applyToAll k rules fuel

/-- A part of the program, which may be left early. -/
def upToExit (r : Run Unit) : Run Bool :=
  tryCatch (do r; pure true) fun
    | .exit => do
      modify fun s => { s with own := #[] }
      pure false
    | stop => throw stop

/-- What a program does up to its end. -/
def course (p : Rules) : Run Unit := do
  let k := usualDoing
  let _ ← upToExit do
    performAll k p.before
    if !(p.rules.isEmpty && p.after.isEmpty) then applyToAll k p.rules turnLimit
  let _ ← upToExit (performAll k p.after)

/-- Takes a step without its result. -/
def outcome (r : Run Unit) (s : State) : Routine State := do return (← StateT.run (ExceptT.run r) s).2

/-- Runs a program after a preparation; the answer is its status. -/
def status (p : Rules) (preparation : Run Unit) (start : State) : Routine Nat := do
  let s ← outcome (do preparation; course p) start
  return (← outcome closeAll s).status

end Run
end ElmAssay.Machine.Rules
