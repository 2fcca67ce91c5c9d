import ElmAssay.Failure

/-!
# Outcomes

An outcome is what a check says: whether it passed, and if not, what the toolchain said (`Outcome`). A check passed
exactly if its diagnostics are empty and its kind is that of a pass; `Outcome.new` refuses everything else. What a
program left behind is reduced to an outcome by `Outcome.ofProcess`.
-/

namespace ElmAssay

/-- What a check says. -/
structure Outcome where
  passed : Bool
  diagnostics : String
  kind : OutcomeKind
  command : List String
  exitCode : Option Int
  durationMs : Int
  deriving DecidableEq, Repr

/-- What a program left behind. -/
structure ProcessResult where
  command : List String
  exitCode : Option Int
  stdout : String
  stderr : String
  durationMs : Int
  timedOut : Bool
  deriving DecidableEq, Repr

/-- The text a formatter gave; where it did not format, the text is the one it was given. -/
structure FormatResult where
  text : String
  formatted : Bool
  diagnostics : String
  deriving DecidableEq, Repr

/-- Everything that a program wrote: standard output, then standard error. -/
def ProcessResult.output (r : ProcessResult) : String := r.stdout ++ r.stderr

namespace Outcome

/-- The outcome with the given parts, which must go together. -/
def new (passed : Bool) (diagnostics : String) (kind : OutcomeKind) (command : List String) (exitCode : Option Int)
    (durationMs : Int) : Except Failure Outcome :=
  if passed != (diagnostics == "") then .error .diagnosticsMismatch
  else if passed != (kind == .passed) then .error (.kindMismatch passed kind)
  else .ok ⟨passed, diagnostics, kind, command, exitCode, durationMs⟩

/-- A pass. -/
def success (command : List String) (durationMs : Int) : Outcome := ⟨true, "", .passed, command, some 0, durationMs⟩

/-- The text of an exit code in messages. -/
def exitText (exitCode : Option Int) : String :=
  match exitCode with
  | some n => String.ofList (Number.wholeText n)
  | none => "None"

/-- The diagnostics of a check that failed without a word. -/
def silentDiagnostics (command : List String) (exitCode : Option Int) : String :=
  command.headD "oracle" ++ " exited with code " ++ exitText exitCode

/-- A check that did not pass. -/
def failure (diagnostics : String) (command : List String) (exitCode : Option Int) (durationMs : Int)
    (kind : OutcomeKind) : Except Failure Outcome :=
  let diagnostics := if diagnostics == "" then silentDiagnostics command exitCode else diagnostics
  new false diagnostics kind command exitCode durationMs

/-- The notice of a program that ran out of time, which names the program. -/
def timeoutNotice (command : List String) (limit : Option Seconds) : Except Failure String :=
  match command with
  | [] => .error .namelessCommand
  | name :: _ => .ok (name ++ " timed out after " ++ (limit.map Seconds.text).getD "None" ++ "s and was killed")

/-- The outcome of a program: it passed if it ended by itself with exit code zero. -/
def ofProcess (r : ProcessResult) (limit : Option Seconds) : Except Failure Outcome := do
  if r.timedOut then
    let notice ← timeoutNotice r.command limit
    let diagnostics := if r.output == "" then notice else r.output ++ "\n" ++ notice
    failure diagnostics r.command r.exitCode r.durationMs .timeout
  else if r.exitCode = some 0 then .ok (success r.command r.durationMs)
  else failure r.output r.command r.exitCode r.durationMs .failed

end Outcome
end ElmAssay
