import ElmAssay.Batch
import ElmAssay.Payload
import Mathlib.Init

/-!
# Outcomes that go together

The parts of an outcome go together if it passed exactly if its diagnostics are empty, and exactly if its kind is that of a
pass (`Outcome.IsSound`). Every outcome that is made is one of these (`Outcome.isSound_of_new`), and what a program left
behind always makes one: a pass if the program ended well in time, and else a failure with all that the program wrote
(`Outcome.ofProcess_eq_ok`).
-/

namespace ElmAssay

namespace Outcome

variable {passed : Bool} {diagnostics : String} {kind : OutcomeKind} {command : List String} {exitCode : Option Int}
  {durationMs : Int} {o : Outcome}

/-- The parts of an outcome go together. -/
structure IsSound (o : Outcome) : Prop where
  diagnostics : o.passed = true ↔ o.diagnostics = ""
  kind : o.passed = true ↔ o.kind = .passed

theorem isSound_of_new (h : new passed diagnostics kind command exitCode durationMs = .ok o) : o.IsSound := by
  rw [new] at h
  split at h
  · cases h
  · rename_i hdiagnostics
    split at h
    · cases h
    · rename_i hkind
      cases h
      rw [bne_iff_ne, ne_eq, Decidable.not_not] at hdiagnostics hkind
      exact ⟨by rw [hdiagnostics, beq_iff_eq], by rw [hkind, beq_iff_eq]⟩

theorem isSound_success (command : List String) (durationMs : Int) : (success command durationMs).IsSound :=
  ⟨⟨fun _ => rfl, fun _ => rfl⟩, ⟨fun _ => rfl, fun _ => rfl⟩⟩

/-! ## Failures -/

theorem silentDiagnostics_ne (command : List String) (exitCode : Option Int) : silentDiagnostics command exitCode ≠ "" := by
  intro h
  have hlist := congrArg String.toList h
  simp [silentDiagnostics, String.toList_append] at hlist

/-- A failure of a kind that is no pass is an outcome, and no pass. Its diagnostics are those that are given, if there are
any. -/
theorem failure_eq_ok (diagnostics : String) (command : List String) (exitCode : Option Int) (durationMs : Int)
    (h : kind ≠ .passed) :
    ∃ o, failure diagnostics command exitCode durationMs kind = .ok o ∧ o.passed = false ∧ o.kind = kind ∧
      (diagnostics ≠ "" → o.diagnostics = diagnostics) := by
  have hne : (if diagnostics == "" then silentDiagnostics command exitCode else diagnostics) ≠ "" := by
    split
    · exact silentDiagnostics_ne command exitCode
    · rename_i hd
      exact fun he => hd (beq_iff_eq.2 he)
  rw [failure, new, beq_false_of_ne hne, beq_false_of_ne h]
  exact ⟨_, rfl, rfl, rfl, fun hd => by rw [beq_false_of_ne hd]; rfl⟩

theorem isSound_of_failure (h : failure diagnostics command exitCode durationMs kind = .ok o) : o.IsSound :=
  isSound_of_new h

/-! ## Programs -/

/-- The diagnostics of a program that did not pass and wrote something: all that it wrote, and if it ran out of time, the
notice of that on a line of its own. -/
def Reports (r : ProcessResult) (limit : Option Seconds) (o : Outcome) : Prop :=
  (r.timedOut = false → o.diagnostics = r.output) ∧
    (r.timedOut = true → ∃ notice, timeoutNotice r.command limit = .ok notice ∧ o.diagnostics = r.output ++ "\n" ++ notice)

/-- **What a program left behind makes an outcome.** -/
structure Reduces (r : ProcessResult) (limit : Option Seconds) (o : Outcome) : Prop where
  isSound : o.IsSound
  timeout : o.kind = .timeout ↔ r.timedOut = true
  passed : o.kind = .passed ↔ r.timedOut = false ∧ r.exitCode = some 0
  diagnostics : o.passed = false → r.output ≠ "" → Reports r limit o

theorem append_notice_ne {output notice : String} : output ++ "\n" ++ notice ≠ "" := by
  intro h
  have hlist := congrArg String.toList h
  simp [String.toList_append] at hlist

/-- A program that ran out of time makes a failure of that kind. -/
theorem ofProcess_of_timedOut {r : ProcessResult} {limit : Option Seconds} {notice : String} (ht : r.timedOut = true)
    (hnotice : timeoutNotice r.command limit = .ok notice) :
    ofProcess r limit = failure (if r.output == "" then notice else r.output ++ "\n" ++ notice) r.command r.exitCode
      r.durationMs .timeout := by
  rw [ofProcess, if_pos ht, hnotice]
  rfl

/-- A program that was not stopped passes with the exit code zero, and else makes a failure. -/
theorem ofProcess_of_not_timedOut {r : ProcessResult} (limit : Option Seconds) (ht : r.timedOut = false) :
    ofProcess r limit =
      if r.exitCode = some 0 then .ok (success r.command r.durationMs)
      else failure r.output r.command r.exitCode r.durationMs .failed := by
  rw [ofProcess, if_neg (by rw [ht]; exact Bool.false_ne_true)]

theorem ofProcess_eq_ok {r : ProcessResult} (h : r.command ≠ []) (limit : Option Seconds) :
    ∃ o, ofProcess r limit = .ok o ∧ Reduces r limit o := by
  cases ht : r.timedOut with
  | true =>
    obtain ⟨name, rest, hcommand⟩ := List.exists_cons_of_ne_nil h
    have hnotice : ∃ notice, timeoutNotice r.command limit = .ok notice := ⟨_, by rw [hcommand, timeoutNotice]⟩
    obtain ⟨notice, hnotice⟩ := hnotice
    obtain ⟨o, ho, hpassed, hkind, hdiagnostics⟩ := failure_eq_ok
      (if r.output == "" then notice else r.output ++ "\n" ++ notice) r.command r.exitCode r.durationMs
      (by decide : OutcomeKind.timeout ≠ .passed)
    refine ⟨o, (ofProcess_of_timedOut ht hnotice).trans ho, isSound_of_failure ho, ?_, ?_, fun _ houtput => ?_⟩
    · rw [hkind, ht]
      exact ⟨fun _ => rfl, fun _ => rfl⟩
    · rw [hkind, ht]
      exact ⟨nofun, nofun⟩
    · rw [beq_false_of_ne houtput, if_neg Bool.false_ne_true] at hdiagnostics
      refine ⟨fun hf => ?_, fun _ => ⟨notice, hnotice, hdiagnostics append_notice_ne⟩⟩
      cases ht.symm.trans hf
  | false =>
    rw [ofProcess_of_not_timedOut limit ht]
    by_cases hcode : r.exitCode = some 0
    · rw [if_pos hcode]
      refine ⟨_, rfl, isSound_success _ _, ?_, ?_, nofun⟩
      · rw [ht]
        exact ⟨nofun, nofun⟩
      · exact ⟨fun _ => ⟨ht, hcode⟩, fun _ => rfl⟩
    · rw [if_neg hcode]
      obtain ⟨o, ho, hpassed, hkind, hdiagnostics⟩ := failure_eq_ok r.output r.command r.exitCode r.durationMs
        (by decide : OutcomeKind.failed ≠ .passed)
      refine ⟨o, ho, isSound_of_failure ho, ?_, ?_, fun _ houtput => ⟨fun _ => hdiagnostics houtput, fun hf => ?_⟩⟩
      · rw [hkind, ht]
        exact ⟨nofun, nofun⟩
      · rw [hkind]
        exact ⟨nofun, fun hpass => absurd hpass.2 hcode⟩
      · cases ht.symm.trans hf

/-- What is made of a program goes together. -/
theorem isSound_of_ofProcess {r : ProcessResult} {limit : Option Seconds} (h : ofProcess r limit = .ok o) : o.IsSound := by
  cases ht : r.timedOut with
  | true =>
    cases hnotice : timeoutNotice r.command limit with
    | error x =>
      rw [ofProcess, if_pos ht, hnotice] at h
      cases h
    | ok notice =>
      rw [ofProcess_of_timedOut ht hnotice] at h
      exact isSound_of_failure h
  | false =>
    rw [ofProcess_of_not_timedOut limit ht] at h
    split at h
    · cases h
      exact isSound_success _ _
    · exact isSound_of_failure h

end Outcome

/-! ## Batches and reports -/

/-- All verdicts on a batch have outcomes whose parts go together. -/
def BatchResult.IsSound (r : BatchResult) : Prop := ∀ v ∈ r.verdicts, v.outcome.IsSound

/-- The parts of a report go together. -/
structure OutcomeReport.IsSound (r : OutcomeReport) : Prop where
  diagnostics : r.passed = true ↔ r.diagnostics = ""
  kind : r.passed = true ↔ r.kind = OutcomeKind.passed.name

/-- All reports on a batch have parts that go together. -/
def BatchReport.IsSound (r : BatchReport) : Prop := ∀ v ∈ r.verdicts, v.2.IsSound

theorem Outcome.IsSound.report {o : Outcome} (h : o.IsSound) : (OutcomeReport.ofOutcome o).IsSound := by
  refine ⟨h.diagnostics, h.kind.trans ?_⟩
  show o.kind = .passed ↔ o.kind.name = OutcomeKind.passed.name
  cases o.kind <;> decide

theorem BatchResult.IsSound.report {r : BatchResult} (h : r.IsSound) : (BatchReport.ofResult r).IsSound := by
  intro v hv
  obtain ⟨verdict, hverdict, rfl⟩ := List.mem_map.1 hv
  exact (h verdict hverdict).report

end ElmAssay
