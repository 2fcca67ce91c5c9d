import ElmAssay.Outcome

/-!
# Batch results

The verdicts on a batch of candidates, in the order in which the candidates were handed in (`BatchResult`), with the
names of those that failed and the outcome of each name.
-/

namespace ElmAssay

/-- The outcome of one candidate. -/
structure Verdict where
  name : String
  outcome : Outcome
  deriving DecidableEq, Repr

/-- The verdicts on a batch, in order. -/
structure BatchResult where
  verdicts : List Verdict
  deriving DecidableEq, Repr

namespace BatchResult

/-- Puts an outcome at a name: in its place if the name is there, else at the end. -/
def putOutcome : List (String × Outcome) → Verdict → List (String × Outcome)
  | [], v => [(v.name, v.outcome)]
  | (name, o) :: rest, v => if name = v.name then (name, v.outcome) :: rest else (name, o) :: putOutcome rest v

/-- The last outcome of each name, in the order of the names. -/
def outcomes (r : BatchResult) : List (String × Outcome) := r.verdicts.foldl putOutcome []

/-- The names of the candidates that failed, in order. -/
def failed (r : BatchResult) : List String := (r.verdicts.filter fun v => !v.outcome.passed).map Verdict.name

/-- Whether every candidate passed. -/
def allPassed (r : BatchResult) : Bool := r.verdicts.all fun v => v.outcome.passed

/-- Every candidate passed exactly if none failed. -/
theorem allPassed_iff_failed_eq_nil (r : BatchResult) : r.allPassed = true ↔ r.failed = [] := by
  simp [allPassed, failed]

end BatchResult
end ElmAssay
