import ElmAssay.Oracle.Mock
import ElmAssay.Proofs.Disk.Update
import ElmAssay.Proofs.Outcome

/-!
# What a mock oracle answers

A mock oracle has an answer to every text (`answer_eq_ok`), and it is a pass unless the oracle rejects the text
(`Mock.rejects`). A check reads the file that it is about, as it is at that time, records what it read, and changes
nothing on the disk (`check_run`).
-/

namespace ElmAssay

theorem Bench.onDisk_run {σ α : Type} {act : DiskM α} {b : Bench σ} {r : Except Failure α} {d : Disk}
    (h : act b.disk = (r, d)) : Bench.onDisk act b = (r, { b with disk := d }) := by
  rw [Bench.onDisk, h]

namespace Mock

open Effect

variable (m : Mock)

/-- Whether a mock oracle rejects a text: its judge finds diagnostics, or without a judge its mode is not to pass. -/
def rejects (text : String) : Bool :=
  match m.judge with
  | some judge => (judge text).isSome
  | none => m.mode != .pass

/-- Every text has an answer, which is a pass unless the text is rejected. -/
theorem answer_eq_ok (text : String) (command : List String) :
    ∃ o, m.answer text command = .ok o ∧ o.passed = !m.rejects text := by
  have hfailure (diagnostics : String) (exitCode : Option Int) {kind : OutcomeKind} (h : kind ≠ .passed) :
      ∃ o, Outcome.failure diagnostics command exitCode 0 kind = .ok o ∧ o.passed = false := by
    obtain ⟨o, ho, hpassed, -⟩ := Outcome.failure_eq_ok diagnostics command exitCode 0 h
    exact ⟨o, ho, hpassed⟩
  rw [answer, rejects]
  cases m.judge with
  | some judge =>
    dsimp only
    cases judge text with
    | none => exact ⟨_, rfl, rfl⟩
    | some diagnostics => exact hfailure diagnostics (some 1) (by decide)
  | none =>
    dsimp only
    cases m.mode with
    | pass => exact ⟨_, rfl, rfl⟩
    | fail => exact hfailure _ (some 1) (by decide)
    | timeout => exact hfailure _ none (by decide)

/-- The parts of every answer go together. -/
theorem isSound_of_answer {text : String} {command : List String} {o : Outcome} (h : m.answer text command = .ok o) :
    o.IsSound := by
  rw [answer] at h
  split at h
  · split at h
    · cases h
      exact Outcome.isSound_success command 0
    · exact Outcome.isSound_of_failure h
  · split at h
    · exact Outcome.isSound_of_failure h
    · exact Outcome.isSound_of_failure h
    · cases h
      exact Outcome.isSound_success command 0

/-- The words of a request about a file. -/
def command (request : Request) (target : Path) : List String := ["mock", request.name, target.text]

/-- **A check reads the file, records what it read, and answers.** -/
theorem check_run {request : Request} {p directory : Path} {b : Bench Log} {text : String} {o : Outcome}
    (hread : b.disk.readText (directory / p) = .ok text)
    (hanswer : m.answer text (command request (directory / p)) = .ok o) :
    m.check request p directory b =
      (.ok o, { b with oracle := b.oracle ++ [⟨request, some (directory / p), text⟩] }) := by
  rw [check, bind_of_ok (Bench.onDisk_run (Disk.ask_of_ok hread)), record, bind_of_ok (modify_run _ _)]
  rw [command] at hanswer
  rw [hanswer]
  rfl

/-- What a check answers is the answer to the text of the file. -/
theorem check_eq_ok {request : Request} {p directory : Path} {b b' : Bench Log} {o : Outcome}
    (h : m.check request p directory b = (.ok o, b')) :
    ∃ text, b.disk.readText (directory / p) = .ok text ∧ m.answer text (command request (directory / p)) = .ok o ∧
      b'.disk = b.disk := by
  cases hread : b.disk.readText (directory / p) with
  | error x =>
    rw [check, bind_of_error (Bench.onDisk_run (Disk.ask_of_error hread))] at h
    cases h
  | ok text =>
    obtain ⟨o', ho', -⟩ := m.answer_eq_ok text (command request (directory / p))
    rw [m.check_run hread ho'] at h
    cases h
    exact ⟨text, rfl, ho', rfl⟩

end Mock
end ElmAssay
