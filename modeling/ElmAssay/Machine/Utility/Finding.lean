import ElmAssay.Machine.Question
import ElmAssay.Machine.Quest.Reader
import ElmAssay.Machine.Utility.Removal
import ElmAssay.Machine.Utility.Running

/-!
# Finding files

Walks through directories (`find`) and evaluates an expression at every place: its tests, and its actions, which are to be
done as often as their turn comes. An expression without an action shows where it holds.
-/

namespace ElmAssay.Machine.Utility

open Text Work

namespace Finding

/-- What a search keeps: whether it goes below the present place, whether it is over, and the files for programs that run
for many files at once, latest first. -/
structure Progress where
  isPruned : Bool
  isOver : Bool
  gathered : List (Nat × Octets)

/-- A step of a search. -/
abbrev Step (α : Type) := StateT Progress Work α

/-- A step of the utility as a step of the search. -/
def act {α : Type} (w : Work α) : Step α := monadLift w

/-- Whether a pattern agrees with a text. -/
def agrees (w : Wildcard) (ignoresCase : Bool) (s : Octets) : Bool :=
  w.agrees (if ignoresCase then s.toList.map Char.toLower else s.toList)

/-- Writes to an open file. -/
def writeTo (file : Nat) (text : Octets) : Work Unit := do
  if file = 1 then put text
  else
    let _ ← ask (.write file text)

/-! ## Programs -/

/-- Runs a program and waits for it. The answer is whether it succeeded. -/
def runProgram (ev : Evaluator) (call : Invocation) (directory : Option Octets) : Work Bool := do
  flush
  let name := (← get).name
  let child ← lift <| Routine.fork do
    match directory with
    | some d =>
      let _ ← Routine.ask (.enter d)
    | none => pure ()
    let r ← execute ev call
    let shown := Shown.marked call.name
    Routine.protest s!"{name}: {shown}: {r.wording}\n"
    return 1
  return (← lift (Routine.await child)) == .exited 0

/-- The call of a command with its name in front. -/
def callOf (call : Invocation) (command : List Octets) : Invocation :=
  ⟨command.head?.getD "", command.drop 1, call.environment⟩

/-! ## Evaluation -/

/-- Deletes what stands at a place. -/
def deleteAt (s : Spot) : Work Bool := do
  if s.path = "." then return true
  let removed ← if s.info.isDirectory then ask (.removeDirectory s.path) else ask (.removeFile s.path)
  match removed with
  | .ok _ => return true
  | .error r =>
    let shown := Shown.marked s.path
    complain s!"cannot delete {shown}: {r.wording}"
    return false

/-- Whether nothing is in a file or a directory. -/
def isEmptyAt (s : Spot) : Work Bool := do
  match s.info.kind with
  | .file => return s.info.size == 0
  | .directory =>
    match ← ask (.list s.path) with
    | .ok names => return names.isEmpty
    | .error _ => return false
  | _ => return false

/-- Evaluates at a place. -/
def evaluate (ev : Evaluator) (call : Invocation) (now : Int) (s : Spot) : Quest → Step Bool
  | .always answer => return answer
  | .name w ignoresCase => return agrees w ignoresCase s.name
  | .path w ignoresCase => return agrees w ignoresCase s.path
  | .regex r ignoresCase => do
    let cs := (Octets.widen s.path).toArray
    return (r.matchAt? ⟨ignoresCase, false⟩ cs 0).any (·.1 == cs.size)
  | .linkText w ignoresCase => return s.info.isLink && agrees w ignoresCase s.linkText
  | .kind letters => return letters.contains (Spot.kindLetter s.info.kind)
  | .targetKind letters =>
    return letters.contains (if s.targetLetter = 'N' then 'l' else s.targetLetter)
  | .empty => act (isEmptyAt s)
  | .size a unit => return a.has ((s.info.size + unit - 1) / unit)
  | .links a => return a.has s.info.names
  | .serial a => return a.has s.info.serial
  | .age a unit => return a.hasAge unit (now - s.info.changed)
  | .newer time => return decide (time < s.info.changed)
  | .same serial => return s.info.serial == serial
  | .runnable => return (s.target.getD s.info).isDirectory || (!s.info.isLink || s.target.isSome) &&
      (s.target.getD s.info).isRunnable
  | .rights mark bits directoryBits =>
    let own := s.info.rights
    let bits := if s.info.isDirectory then directoryBits else bits
    return match mark with
    | some '-' => own &&& bits == bits
    | some _ => bits == 0 || own &&& bits != 0
    | none => own == bits
  | .print file lineEnd => do
    act (writeTo file (s.path ++ lineEnd))
    return true
  | .printed file format => do
    act (writeTo file (String.ofList (s.formatted (format.length + 1) format.toList)))
    return true
  | .listed file => do
    act (writeTo file (s.listed now))
    return true
  | .delete => act (deleteAt s)
  | .prune => do
    modify fun p => { p with isPruned := true }
    return true
  | .quit => do
    modify fun p => { p with isOver := true, isPruned := true }
    return true
  | .run command isInside asks => do
    let shown := if isInside then "./" ++ s.name else s.path
    let directory := if isInside then some s.directory else none
    if asks then
      let program := command.head?.getD ""
      act flush
      act (say s!"< {program} ... {s.path} > ? ")
      if !(← act isAgreed) then return false
    act (runProgram ev (callOf call (command.map (replaceAll "\x7b\x7d" shown))) directory)
  | .gather id _ => do
    modify fun p => { p with gathered := (id, s.path) :: p.gathered }
    return true
  | .not q => return !(← evaluate ev call now s q)
  | .both l r => do if ← evaluate ev call now s l then evaluate ev call now s r else return false
  | .either l r => do if ← evaluate ev call now s l then return true else evaluate ev call now s r
  | .sequence l r => do
    let _ ← evaluate ev call now s l
    evaluate ev call now s r

/-! ## The walk -/

/-- The place at a path; a refusal if nothing is there. -/
def spotAt (follows : Bool) (path origin : Octets) (depth : Nat) : Work (Except Refusal Spot) := do
  let named ← lookAtName path
  match named with
  | .error r => return .error r
  | .ok i =>
    if !i.isLink then return .ok ⟨path, origin, depth, i, "", none⟩
    let target := (← look path).toOption
    let text := (← ask (.linkText path)).toOption.getD ""
    match follows, target with
    | true, some j => return .ok ⟨path, origin, depth, j, "", none⟩
    | _, target => return .ok ⟨path, origin, depth, i, text, target⟩

/-- Evaluates at a place and at all places below it. `around` are the directories around it with their paths. The fuel bounds
how deep. -/
def visit (w : Quest.Walk) (evaluate : Spot → Step Bool) : Nat → List (Nat × Octets) → Spot → Step Unit
  | 0, _, _ => return
  | fuel + 1, around, s => do
    if (← get).isOver then return
    modify fun p => { p with isPruned := false }
    let here : Step Unit := do
      if w.least ≤ s.depth then let _ ← evaluate s
    if s.info.isDirectory then
      if let some outer := around.lookup s.info.serial then
        let a := Shown.marked s.path
        let b := Shown.marked outer
        act (complain s!"File system loop detected; {a} is part of the same file system loop as {b}.")
        return
    if !w.isUpward then here
    if s.info.isDirectory && (w.isUpward || !(← get).isPruned) && w.most.all (s.depth < ·) then
      match ← act (ask (.list s.path)) with
      | .error r =>
        let shown := Shown.marked s.path
        act (complain s!"{shown}: {r.wording}")
      | .ok names =>
        for name in names do
          match ← act (spotAt w.follows (joinPath s.path name) s.origin (s.depth + 1)) with
          | .ok inner => visit w evaluate fuel ((s.info.serial, s.path) :: around) inner
          | .error _ => pure ()
    if w.isUpward && !(← get).isOver then here

/-- Evaluates at some paths and below them. -/
def visitAll (w : Quest.Walk) (followsArguments : Bool) (evaluate : Spot → Step Bool) (paths : List Octets) : Step Unit := do
  for path in paths do
    if !(← get).isOver then
      match ← act (spotAt (w.follows || followsArguments) path path 0) with
      | .ok s => visit w evaluate depthLimit [] s
      | .error r =>
        let shown := Shown.marked path
        act (complain s!"{shown}: {r.wording}")

/-- Whether an argument starts an expression. -/
def startsExpression (a : Octets) : Bool :=
  match a.toList with
  | '-' :: _ :: _ => true
  | ['!'] => true
  | ['('] => true
  | _ => false

end Finding

/-- Finds files. -/
def find : Utility := fun ev call => complete call.name do
  let isFront (a : Octets) : Bool := ["-H", "-L", "-P"].contains a || (a.startsWith "-O" && 2 < a.length)
  let front := call.arguments.takeWhile isFront
  let manner := (front.filter fun a => a.length = 2).getLast?
  for a in front do
    if a.startsWith "-O" && !(a.toList.drop 2).all isAsciiDigit then
      Work.fail 1 "Please specify a decimal number immediately after -O"
  let arguments := call.arguments.drop front.length
  let paths := arguments.takeWhile (!Finding.startsExpression ·)
  let words := arguments.drop paths.length
  let now : Int := (← ask .now) * 1000
  let start : Quest.Setting := ⟨⟨0, none, false, manner = some "-L"⟩, "findutils-default", now⟩
  let (setting, tokens) ← Quest.readTokens (words.length + 1) start words []
  let quest ← Quest.read tokens
  let evaluate (s : Spot) := Finding.evaluate ev call now s quest
  let visited := Finding.visitAll setting.walk (manner = some "-H") evaluate (if paths.isEmpty then ["."] else paths)
  let (_, p) ← visited.run ⟨false, false, []⟩
  for (id, command) in quest.gatherers do
    let found := (p.gathered.reverse.filter (·.1 == id)).map Prod.snd
    if !found.isEmpty then
      if !(← Finding.runProgram ev (Finding.callOf call (command ++ found)) none) then raiseStatus 1

end ElmAssay.Machine.Utility
