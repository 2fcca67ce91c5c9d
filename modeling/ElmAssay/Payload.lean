import ElmAssay.Batch
import ElmAssay.Candidate
import ElmAssay.Json.Reader
import ElmAssay.Json.Schema

/-!
# Payloads

What tools are sent: candidates (`Candidate.ofJson`) and solutions of decoder tasks (`DecoderSolution.parse`). What they
send back: reports on outcomes, batches and formatted texts.
-/

namespace ElmAssay

open Json (Checked)

/-! ## What is sent -/

/-- The record of a candidate in a request: name, signature and body. -/
structure CandidateRecord where
  name : String
  signature : String
  body : String
  deriving DecidableEq, Repr

/-- The record of a candidate that a value is. -/
def CandidateRecord.ofJson (v : Json) : Except Failure CandidateRecord :=
  let checked : Checked CandidateRecord :=
    match Json.recordFields "Candidate" v with
    | .error problems => .error problems
    | .ok fields =>
      ((Json.stringField fields "name").both
        ((Json.stringFieldOr fields "signature" "").both (Json.stringFieldOr fields "body" ""))).map
        fun p => ⟨p.1, p.2.1, p.2.2⟩
  checked.mapError (.recordInvalid "Candidate")

/-- The candidate of a record. -/
def CandidateRecord.toCandidate (r : CandidateRecord) : Except Failure Candidate :=
  match Candidate.new r.name r.signature r.body with
  | .ok c => .ok c
  | .error _ => .error (.badRequestedName r.name)

/-- The candidate that a value is. -/
def Candidate.ofJson (v : Json) : Except Failure Candidate :=
  match CandidateRecord.ofJson v with
  | .ok r => r.toCandidate
  | .error e => .error e

/-- The candidates that values are; the first that is none is refused. -/
def Candidate.ofJsons : List Json → Except Failure (List Candidate)
  | [] => .ok []
  | v :: vs =>
    match Candidate.ofJson v with
    | .ok c => (Candidate.ofJsons vs).map (c :: ·)
    | .error e => .error e

/-- The answer to a decoder task: the code, and the value that it should give. -/
structure DecoderSolution where
  elmCode : String
  decodedElmValue : String
  deriving DecidableEq, Repr

/-- The record of a solution that a value is. -/
def DecoderSolution.ofJson (v : Json) : Checked DecoderSolution :=
  match Json.recordFields Failure.solutionRecord v with
  | .error problems => .error problems
  | .ok fields =>
    ((Json.stringField fields "elmCode").both (Json.stringField fields "decodedElmValue")).map fun p => ⟨p.1, p.2⟩

/-- The solution that a text is. -/
def DecoderSolution.parse (payload : String) : Except Failure DecoderSolution :=
  match Json.read payload with
  | .error (.malformed e) => .error (.solutionMalformed e)
  | .error e => .error (.ofReadError e)
  | .ok v => (DecoderSolution.ofJson v).mapError .solutionInvalid

/-! ## What is sent back -/

/-- The report on an outcome. -/
structure OutcomeReport where
  passed : Bool
  diagnostics : String
  kind : String
  exitCode : Option Int
  durationMs : Int
  deriving DecidableEq, Repr

/-- The report on an outcome. -/
def OutcomeReport.ofOutcome (o : Outcome) : OutcomeReport :=
  ⟨o.passed, o.diagnostics, o.kind.name, o.exitCode, o.durationMs⟩

/-- The report on a batch: the names of the candidates that failed, and a named report for each candidate. -/
structure BatchReport where
  allPassed : Bool
  failed : List String
  verdicts : List (String × OutcomeReport)
  deriving DecidableEq, Repr

/-- The report on a batch. -/
def BatchReport.ofResult (r : BatchResult) : BatchReport :=
  ⟨r.allPassed, r.failed, r.verdicts.map fun v => (v.name, .ofOutcome v.outcome)⟩

/-- The report on a formatted text. -/
structure FormatReport where
  code : String
  formatted : Bool
  diagnostics : String
  deriving DecidableEq, Repr

/-- The report on a formatted text. -/
def FormatReport.ofResult (r : FormatResult) : FormatReport := ⟨r.text, r.formatted, r.diagnostics⟩

end ElmAssay
