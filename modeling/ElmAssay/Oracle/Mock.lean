import ElmAssay.Oracle

/-!
# Mock oracles

A mock oracle reads the unit it is asked about from the disk, as a compiler would, and records what it read
(`Mock.Call`). Its answer is that of its judge if it has one, else the one that its mode gives to every unit. A judge
may go by rules (`Mock.judgeBy`), and a formatter may replace one text by another (`Mock.replacing`).
-/

namespace ElmAssay.Text

/-!
## Search and replacement

Whether a text holds another one (`occurs`), and the text with every occurrence of a pattern replaced (`replaceAll`).
Occurrences are taken from the front and do not overlap; the empty pattern occurs in front of every character and at
the end.
-/

/-- Whether a pattern occurs in a text. -/
def occurs (pattern : List Char) : List Char → Bool
  | [] => pattern.isEmpty
  | c :: s => pattern.isPrefixOf (c :: s) || occurs pattern s

/-- A pattern occurs in a text exactly if it is a part of it. -/
theorem occurs_iff_infix (pattern s : List Char) : occurs pattern s = true ↔ pattern <:+: s := by
  induction s with
  | nil => simp [occurs]
  | cons c s ih => simp [occurs, ih, List.infix_cons_iff]

/-- A text with the occurrences of a pattern that is not empty replaced; so many of the first characters belong to an
occurrence that was replaced. -/
def replaceFrom (pattern new : List Char) : Nat → List Char → List Char
  | _, [] => []
  | skipped + 1, _ :: s => replaceFrom pattern new skipped s
  | 0, c :: s =>
    if pattern.isPrefixOf (c :: s) then new ++ replaceFrom pattern new (pattern.length - 1) s
    else c :: replaceFrom pattern new 0 s

/-- A text with every occurrence of a pattern replaced. -/
def replaceAll (pattern new s : List Char) : List Char :=
  if pattern.isEmpty then new ++ s.flatMap fun c => c :: new else replaceFrom pattern new 0 s

/-- Where a pattern does not occur, nothing is replaced. -/
theorem replaceFrom_of_not_occurs {pattern new s : List Char} (h : occurs pattern s = false) :
    replaceFrom pattern new 0 s = s := by
  induction s with
  | nil => rfl
  | cons c s ih =>
    obtain ⟨h₁, h₂⟩ : pattern.isPrefixOf (c :: s) = false ∧ occurs pattern s = false := by
      simpa [occurs] using h
    simp [replaceFrom, h₁, ih h₂]

end ElmAssay.Text

/-! ## Oracles that answer by rules -/

namespace ElmAssay

/-- What a mock oracle without a judge answers. -/
inductive Mock.Mode
  | pass
  | fail
  | timeout
  deriving DecidableEq, Repr

/-- The mode of a name. -/
def Mock.Mode.ofName (name : String) : Except Failure Mock.Mode :=
  if name = "pass" then .ok .pass
  else if name = "fail" then .ok .fail
  else if name = "timeout" then .ok .timeout
  else .error (.unknownMode name)

/-- What a mock oracle was asked for. -/
inductive Mock.Request
  | compile
  | test
  | format
  deriving DecidableEq, Repr

/-- The name of a request. -/
def Mock.Request.name : Mock.Request → String
  | .compile => "compile"
  | .test => "test"
  | .format => "format"

/-- A request, the file it was about, and the text that was read there. -/
structure Mock.Call where
  request : Mock.Request
  path : Option Path
  text : String
  deriving DecidableEq

/-- A mock oracle. The judge gives the diagnostics of a failure, or nothing for a pass. -/
structure Mock where
  mode : Mock.Mode := .pass
  judge : Option (String → Option String) := none
  formatter : Option (String → String) := none

/-- A rule of a judge: what the text of a unit must hold for the diagnostics. -/
structure Mock.Rule where
  pattern : String
  diagnostics : String
  deriving DecidableEq, Repr

namespace Mock

open Text

/-- The judge that goes by rules: the diagnostics are those of the first rule that the text of a unit meets. -/
def judgeBy (rules : List Rule) (text : String) : Option String :=
  (rules.find? fun r => occurs r.pattern.toList text.toList).map Rule.diagnostics

/-- The formatter that replaces one text by another everywhere. -/
def replacing (pattern new source : String) : String :=
  String.ofList (replaceAll pattern.toList new.toList source.toList)

/-- The calls of a mock oracle, oldest first. -/
abbrev Log := List Call

/-- The answer to a text. -/
def answer (m : Mock) (text : String) (command : List String) : Except Failure Outcome :=
  match m.judge with
  | some judge =>
    match judge text with
    | none => .ok (Outcome.success command 0)
    | some diagnostics => Outcome.failure diagnostics command (some 1) 0 .failed
  | none =>
    match m.mode with
    | .fail => Outcome.failure "mock failure" command (some 1) 0 .failed
    | .timeout => Outcome.failure "mock timeout" command none 0 .timeout
    | .pass => .ok (Outcome.success command 0)

/-- Adds a call to the log. -/
def record (c : Call) : BenchM Log Unit := modify fun b => { b with oracle := b.oracle ++ [c] }

/-- Reads a unit, records the call, and answers. -/
def check (m : Mock) (request : Request) (p directory : Path) : BenchM Log Outcome := do
  let target := directory / p
  let text ← Bench.onDisk (Disk.ask (·.readText target))
  record ⟨request, some target, text⟩
  match m.answer text ["mock", request.name, target.text] with
  | .ok o => return o
  | .error e => throw e

/-- Records the call and formats, unless the mode is to fail or there is no formatter. -/
def formatText (m : Mock) (source : String) : BenchM Log FormatResult := do
  record ⟨.format, none, source⟩
  match m.mode, m.formatter with
  | .fail, _ => return ⟨source, false, "mock formatter skipped"⟩
  | _, none => return ⟨source, false, "mock formatter skipped"⟩
  | _, some formatter => return ⟨formatter source, true, ""⟩

/-- A mock oracle as an oracle. -/
def oracle (m : Mock) : Oracle Log := ⟨m.check .compile, m.check .test, m.formatText⟩

end Mock
end ElmAssay
