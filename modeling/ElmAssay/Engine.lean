import ElmAssay.DecoderTest
import ElmAssay.Isolation
import ElmAssay.Oracle.Toolchain

/-!
# The engine

The engine checks candidates against a project by an oracle (`Engine`). It has three flows: one unit with all candidates
(`Engine.compileCheck`), one unit for each candidate (`Engine.validateBatch`), and a decoder test
(`Engine.checkDecoder`). Each prepares the workspace, builds the text, writes it and asks the oracle, and says on the way
which phase it is in (`Phase`). A flow that fails leaves the engine idle, one that ends adds its outcomes to the history.
-/

namespace ElmAssay

/-- What the engine is doing, or how its last flow ended. -/
inductive Phase
  | idle
  | provisioning
  | synthesizing
  | invoking
  | passed
  | failed
  deriving DecidableEq, Repr

/-- The name of a phase. -/
def Phase.name : Phase → String
  | idle => "idle"
  | provisioning => "provisioning"
  | synthesizing => "synthesizing"
  | invoking => "invoking"
  | passed => "passed"
  | failed => "failed"

/-- The phase in which a flow ends. -/
def Phase.ofVerdict (passed : Bool) : Phase := if passed then .passed else .failed

/-- The state of an engine: its bench, its phase, the phases it entered so far and the outcomes so far, oldest
first. -/
structure EngineState (σ : Type) where
  bench : Bench σ
  phase : Phase := .idle
  entered : List Phase := []
  history : List Outcome := []

/-- What changes the state of an engine and may fail. -/
abbrev EngineM (σ α : Type) := ExceptT Failure (StateM (EngineState σ)) α

/-- What checks candidates against a project. -/
structure Engine (σ : Type) where
  config : Config
  project : Path
  manifestPath : Path
  oracle : Oracle σ

/-- A module by its text or by its path. -/
inductive ModuleRef
  | source (m : ModuleSource)
  | path (p : Path)

/-- What is added to a module: a text as it is, or candidates. -/
inductive Material
  | text (s : String)
  | batch (cs : List Candidate)

/-- The declarations to add to a module. -/
def Material.render : Material → Except Failure String
  | text s => .ok s
  | batch cs => (Candidate.checkUnique cs).map fun _ => Candidate.renderAll cs

namespace Engine

variable {σ α : Type}

/-! ## Steps -/

/-- What changes a bench, in an engine. -/
def onBench (act : BenchM σ α) : EngineM σ α := fun s =>
  let (result, bench) := act s.bench
  (result, { s with bench := bench })

/-- What changes a disk, in an engine. -/
def onDisk (act : DiskM α) : EngineM σ α := onBench (Bench.onDisk act)

/-- What may fail, in an engine. -/
def attempt (result : Except Failure α) : EngineM σ α :=
  match result with
  | .ok a => return a
  | .error e => throw e

/-- Enters a phase. -/
def enter (p : Phase) : EngineM σ Unit := modify fun s => { s with phase := p, entered := s.entered ++ [p] }

/-- Runs a part of a flow; if it fails, the engine is idle. -/
def orIdle (act : EngineM σ α) : EngineM σ α :=
  tryCatch act fun e => do
    enter .idle
    throw e

/-- Adds outcomes to the history and ends a flow. -/
def finish (outcomes : List Outcome) (passed : Bool) : EngineM σ Unit := do
  modify fun s => { s with history := s.history ++ outcomes }
  enter (.ofVerdict passed)

/-! ## Flows -/

/-- The engine of a project. The manifest is that of the project unless another path is given. -/
def new (config : Config) (project : Path) (manifest : String) (oracle : Oracle σ) : Engine σ :=
  ⟨config, project, if manifest = "" then project.child Workspace.manifestName else Path.parse manifest, oracle⟩

/-- Prepares the workspace and its manifest, the one derived from the project or the standalone one. -/
def provision (e : Engine σ) (standalone : Bool) : EngineM σ Workspace := do
  enter .provisioning
  orIdle do
    let w ← onDisk (Workspace.ensure e.project e.config.workspaceDirectory)
    let _ ← onDisk (if standalone then w.materializeStandalone else w.materialize e.manifestPath)
    return w

/-- The module that is meant; a relative path starts from the project. -/
def readModule (e : Engine σ) : ModuleRef → DiskM ModuleSource
  | .source m => return m
  | .path p => Disk.ask (ModuleSource.read · (e.project / p))

/-- How units are checked in a workspace. -/
def isolation (e : Engine σ) (w : Workspace) : Isolation σ :=
  ⟨e.oracle, w, e.config.privateModule, e.config.strictHeader⟩

/-- Compiles a module with everything that is to be added. -/
def compileCheck (e : Engine σ) (m : ModuleRef) (material : Material) : EngineM σ Outcome := do
  let w ← e.provision false
  let outcome ← orIdle do
    let source ← onDisk (e.readModule m)
    enter .synthesizing
    let more ← attempt material.render
    let unit ← attempt (CompileUnit.splice source more e.config.privateModule e.config.strictHeader)
    enter .invoking
    onBench ((e.isolation w).checkUnit unit)
  finish [outcome] outcome.passed
  return outcome

/-- Compiles a module once for each candidate. -/
def validateBatch (e : Engine σ) (m : ModuleRef) (batch : List Candidate) : EngineM σ BatchResult := do
  let w ← e.provision false
  let result ← orIdle do
    let source ← onDisk (e.readModule m)
    enter .synthesizing
    attempt (Candidate.checkUnique batch)
    enter .invoking
    onBench ((e.isolation w).validateBatch source batch)
  finish (result.verdicts.map Verdict.outcome) result.allPassed
  return result

/-- Runs a decoder test. -/
def checkDecoder (e : Engine σ) (t : DecoderTest) (standalone : Bool) : EngineM σ Outcome := do
  let w ← e.provision standalone
  let outcome ← orIdle do
    enter .synthesizing
    let p ← onDisk (t.build w)
    enter .invoking
    onBench (e.oracle.test p w.root)
  finish [outcome] outcome.passed
  return outcome

/-- Formats a source text. -/
def formatSource (e : Engine σ) (source : String) : EngineM σ FormatResult := onBench (e.oracle.format source)

end Engine
end ElmAssay
