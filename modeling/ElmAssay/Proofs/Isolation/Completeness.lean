import ElmAssay.Proofs.Isolation.Run

/-!
# A batch has a verdict on each of its candidates

A batch in which no name comes twice is checked to its end: one call and one verdict for each candidate, in order, the
verdict being the answer to the unit of that candidate as it is read from the disk (`Complete`,
`validateBatch_complete`). A batch in which a name comes twice is refused before anything is written.
-/

namespace ElmAssay.Isolation

open Effect Text

variable {m : Mock} {s : Isolation Mock.Log} {source : ModuleSource} {batch : List Candidate}

/-- **What a batch comes to, and the calls that it comes from.** -/
structure Complete (m : Mock) (s : Isolation Mock.Log) (source : ModuleSource) (batch : List Candidate)
    (r : BatchResult) (calls : List Mock.Call) : Prop where
  /-- There is one call for each candidate. -/
  calls_length : calls.length = batch.length
  /-- There is one verdict for each candidate. -/
  verdicts_length : r.verdicts.length = batch.length
  /-- The call for a candidate reads its unit, and its verdict is the answer to that. -/
  attributed : ∀ i c, batch[i]? = some c →
    ∃ u o, CompileUnit.splice source (Candidate.isolated i batch) s.moduleName s.strict = .ok u ∧
      calls[i]? = some ⟨.compile, some s.unitsFile, asRead u.text⟩ ∧
      m.answer (asRead u.text) (Mock.command .compile s.unitsFile) = .ok o ∧ r.verdicts[i]? = some ⟨c.name, o⟩
  /-- Each name has one outcome, that of its verdict. -/
  outcomes : r.outcomes = r.verdicts.map fun v => (v.name, v.outcome)
  outcomes_names : r.outcomes.map Prod.fst = batch.map Candidate.name
  /-- Those that failed are the candidates whose unit is rejected, in order. -/
  failed : r.failed = ((batch.zip calls).filter fun e => m.rejects e.2.text).map fun e => e.1.name
  allPassed : r.allPassed = true ↔ r.failed = []

/-- A run over a whole batch in which no name comes twice is complete. -/
theorem Attributed.complete {verdicts : List Verdict} {calls : List Mock.Call}
    (h : Attributed m s source batch 0 batch verdicts calls) (hnodup : (batch.map Candidate.name).Nodup) :
    Complete m s source batch ⟨verdicts⟩ calls := by
  have houtcomes : BatchResult.outcomes ⟨verdicts⟩ = verdicts.map fun v => (v.name, v.outcome) :=
    BatchResult.outcomes_eq_map (by rw [h.names]; exact hnodup)
  refine ⟨h.length_calls, h.length_verdicts, fun i c hi => ?_, houtcomes, ?_, h.failed,
    BatchResult.allPassed_iff_failed_eq_nil _⟩
  · obtain ⟨u, o, hu, ho, hverdict, hcall⟩ := h.get hi
    rw [Nat.zero_add] at hu
    exact ⟨u, o, hu, hcall, ho, hverdict⟩
  · rw [houtcomes, List.map_map, ← h.names]
    rfl

/-- **A batch is checked to its end**, one candidate after the other, unless a name comes twice in it; then it is
refused, and nothing is written or asked. -/
theorem validateBatch_complete (hm : IsMocked m s) (source : ModuleSource) (batch : List Candidate)
    (b : Bench Mock.Log) :
    ((batch.map Candidate.name).Nodup → (Elm.findHeader source.text).isSome = true ∨ s.strict = false →
      s.CanWriteUnits b.disk →
        ∃ r calls d', s.validateBatch source batch b = (.ok r, ⟨d', b.oracle ++ calls⟩) ∧
          Complete m s source batch r calls) ∧
    (¬(batch.map Candidate.name).Nodup →
      ∃ name, List.Duplicate name (batch.map Candidate.name) ∧
        s.validateBatch source batch b = (.error (.duplicateName name), b)) := by
  constructor
  · intro hnodup hheader hwrite
    have hbuild focus := CompileUnit.splice_eq_ok hheader s.moduleName (Candidate.isolated focus batch)
    obtain ⟨verdicts, calls, d', hattributed, hrun⟩ := validateFrom_run hm hbuild batch 0 b hwrite
    refine ⟨⟨verdicts⟩, calls, d', ?_, hattributed.complete hnodup⟩
    rw [validateBatch, Candidate.checkUnique_eq_ok_iff.2 hnodup]
    exact bind_of_ok hrun
  · intro hdup
    obtain ⟨name, hname, hcheck⟩ := Candidate.duplicate_of_checkUnique hdup
    refine ⟨name, hname, ?_⟩
    rw [validateBatch, hcheck]
    rfl

/-- Two candidates, of which one is rejected. -/
theorem validateBatch_complete_sample :
    let m : Mock := ⟨.pass, some (Mock.judgeBy [⟨"broken", "no"⟩]), none⟩
    let s : Isolation Mock.Log := ⟨m.oracle, sampleWorkspace, CompileUnit.defaultName, true⟩
    let source : ModuleSource := ⟨"module Main exposing (main)\n", none⟩
    let batch : List Candidate := [⟨"one", "Int", "1", rfl⟩, ⟨"two", "Int", "broken", rfl⟩]
    ∃ r calls d', s.validateBatch source batch ⟨sampleDisk, []⟩ = (.ok r, ⟨d', calls⟩) ∧
      Complete m s source batch r calls := by
  intro m s source batch
  exact (validateBatch_complete (m := m) (s := s) ⟨rfl, rfl⟩ source batch ⟨sampleDisk, []⟩).1 (by decide)
    (.inl (by decide +kernel)) (canWriteUnits_sampleDisk m true)

end ElmAssay.Isolation
