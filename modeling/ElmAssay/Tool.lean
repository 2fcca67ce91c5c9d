import ElmAssay.Engine
import ElmAssay.Payload

/-!
# Tools

The tools that are offered to a generator of code (`Tool.all`), and what each of them does. A tool checks its arguments,
makes an engine for the project, runs one flow and reports on it. Engines of tools live for one call.
-/

namespace ElmAssay

/-- A tool as it is offered: its parameters by name, and those of them that must be given. -/
structure Tool where
  name : String
  description : String
  parameters : List String
  required : List String
  deriving DecidableEq, Repr

namespace Tool

/-- The tools, in the order in which they are offered. -/
def all : List Tool :=
  [⟨"compile_check_tool", "Compile a module with all candidate declarations appended and return one verdict.",
    ["candidates", "code", "modulePath", "projectRoot"], ["modulePath", "projectRoot"]⟩,
   ⟨"validate_candidates_tool",
    "Check each candidate declaration on its own, stubbing the others, and report which fail.",
    ["candidates", "modulePath", "projectRoot"], ["candidates", "modulePath", "projectRoot"]⟩,
   ⟨"test_decoder_tool", "Run a decoder against a JSON sample under elm-test and compare with the expected value.",
    ["projectRoot", "sampleJson", "solution", "typeDefinition"], ["projectRoot", "sampleJson", "solution"]⟩,
   ⟨"format_elm_tool", "Format Elm source with elm-format; unformattable code is returned unchanged.", ["code"],
    ["code"]⟩]

/-- Refuses an argument that is not given or blank. -/
def require (field : String) (value : Option String) : Except Failure String :=
  match value with
  | some s => if Config.isBlankText s then .error (.missingField field) else .ok s
  | none => .error (.missingField field)

/-- Runs one flow with an engine of its own. -/
def withEngine {α : Type} (host : Host) (config : Config) (project : String)
    (flow : Engine Mock.Log → EngineM Mock.Log α) : DiskM α := fun d =>
  match OracleChoice.ofConfig config with
  | .error e => (.error e, d)
  | .ok choice =>
    let engine := Engine.new config (Path.parse project) "" (choice.oracle host)
    let (result, s) := flow engine { bench := { disk := d, oracle := [] } }
    (result, s.bench.disk)

/-- Compiles a module with candidates or code. -/
def compileCheck (host : Host) (config : Config) (project modulePath : Option String)
    (candidates : Option (List Json)) (code : Option String) : DiskM OutcomeReport := do
  let project ← Disk.given (require "projectRoot" project)
  let modulePath ← Disk.given (require "modulePath" modulePath)
  if candidates.isNone && code.isNone then throw .nothingToCheck
  withEngine host config project fun e => do
    let material ← Engine.attempt
      (match code with
      | some code => .ok (.text code)
      | none => (Candidate.ofJsons (candidates.getD [])).map .batch)
    return .ofOutcome (← e.compileCheck (.path (Path.parse modulePath)) material)

/-- Compiles a module once for each candidate. -/
def validateCandidates (host : Host) (config : Config) (project modulePath : Option String) (candidates : List Json) :
    DiskM BatchReport := do
  let project ← Disk.given (require "projectRoot" project)
  let modulePath ← Disk.given (require "modulePath" modulePath)
  withEngine host config project fun e => do
    let batch ← Engine.attempt (Candidate.ofJsons candidates)
    return .ofResult (← e.validateBatch (.path (Path.parse modulePath)) batch)

/-- The decoder test of a solution. -/
def decoderTest (s : DecoderSolution) (sampleJson typeDefinition : String) : DecoderTest :=
  { decoderCode := s.elmCode
    sample := .text sampleJson
    expectedValue := s.decodedElmValue
    typeDefinitions := typeDefinition
    extraImports := DecoderTest.timeImports }

/-- Runs a solution of a decoder task as a test that does not depend on the project's manifest. -/
def testDecoder (host : Host) (config : Config) (project : Option String) (sampleJson : String)
    (solution : Option String) (typeDefinition : String) : DiskM OutcomeReport := do
  let project ← Disk.given (require "projectRoot" project)
  let payload ← Disk.given (require "solution" solution)
  let parsed ← Disk.given (DecoderSolution.parse payload)
  withEngine host config project fun e => do
    return .ofOutcome (← e.checkDecoder (decoderTest parsed sampleJson typeDefinition) true)

/-- Formats a source text. -/
def formatElm (host : Host) (config : Config) (code : String) : DiskM FormatReport :=
  withEngine host config "." fun e => do
    return .ofResult (← e.formatSource code)

end Tool
end ElmAssay
