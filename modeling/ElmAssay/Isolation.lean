import ElmAssay.Batch
import ElmAssay.CompileUnit
import ElmAssay.Oracle
import ElmAssay.Workspace

/-!
# Isolated checks

To lay a compile failure at the door of one candidate, a batch is checked once for each of its candidates: in full with
that candidate, and with stubs for all others (`Isolation.validateBatch`). The units are checked one after the other in
the private root of a workspace, and every candidate gets a verdict.
-/

namespace ElmAssay

/-- How units are checked: by which oracle, in which workspace, under which private name, and whether a module must have
a header. -/
structure Isolation (σ : Type) where
  oracle : Oracle σ
  workspace : Workspace
  moduleName : String := CompileUnit.defaultName
  strict : Bool := true

namespace Isolation

variable {σ : Type}

/-- The unit of a batch for the candidate at a position. -/
def buildUnit (s : Isolation σ) (source : ModuleSource) (focus : Nat) (batch : List Candidate) :
    Except Failure CompileUnit :=
  CompileUnit.splice source (Candidate.isolated focus batch) s.moduleName s.strict

/-- The file of a unit. -/
def unitPath (s : Isolation σ) (u : CompileUnit) : Path := s.workspace.privateRoot / u.path

/-- Writes a unit into the private root and compiles it. -/
def checkUnit (s : Isolation σ) (u : CompileUnit) : BenchM σ Outcome := do
  let p := s.unitPath u
  Bench.onDisk (s.workspace.writeBelow p u.text)
  s.oracle.compile p s.workspace.root

/-- The verdicts on the candidates of a batch from a position on. -/
def validateFrom (s : Isolation σ) (source : ModuleSource) (batch : List Candidate) :
    Nat → List Candidate → BenchM σ (List Verdict)
  | _, [] => return []
  | focus, c :: rest => do
    match s.buildUnit source focus batch with
    | .error e => throw e
    | .ok u =>
      let o ← s.checkUnit u
      let verdicts ← s.validateFrom source batch (focus + 1) rest
      return ⟨c.name, o⟩ :: verdicts

/-- The verdicts on a batch, one for each candidate. -/
def validateBatch (s : Isolation σ) (source : ModuleSource) (batch : List Candidate) : BenchM σ BatchResult := do
  match Candidate.checkUnique batch with
  | .error e => throw e
  | .ok () => return ⟨← s.validateFrom source batch 0 batch⟩

end Isolation
end ElmAssay
