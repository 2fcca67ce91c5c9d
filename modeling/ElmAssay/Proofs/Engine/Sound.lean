import ElmAssay.Proofs.Engine.Phases
import ElmAssay.Tool

/-!
# Outcomes of an engine go together

Both kinds of oracle there are to choose from only give outcomes whose parts go together (`OracleChoice.isSound`). An engine
makes no outcome of its own, so with such an oracle all that it returns goes together, and so does all of its history, however
it was used (`Engine.isSound_of_ran`), and all that tools report (`Tool.yields_compileCheck` and its companions).
-/

namespace ElmAssay

open Effect Isolation

variable {σ α : Type}

/-! ## Oracles -/

/-- An oracle that only gives outcomes whose parts go together. -/
structure Oracle.IsSound (o : Oracle σ) : Prop where
  compile : ∀ p directory, Yields Outcome.IsSound (o.compile p directory)
  test : ∀ p directory, Yields Outcome.IsSound (o.test p directory)

theorem Mock.isSound (m : Mock) : m.oracle.IsSound := by
  have hcheck (request : Mock.Request) (p directory : Path) : Yields Outcome.IsSound (m.check request p directory) := by
    refine yields_after fun text => yields_after fun _ => ?_
    split
    · rename_i o ho
      exact yields_pure (m.isSound_of_answer ho)
    · exact yields_throw _
  exact ⟨hcheck .compile, hcheck .test⟩

theorem Toolchain.isSound (t : Toolchain) (host : Host) : (t.oracle host : Oracle σ).IsSound := by
  have hinvoke (program : String) (arguments : List String) (directory : String) :
      Yields Outcome.IsSound (t.invoke host program arguments directory : BenchM σ Outcome) := by
    refine yields_after fun result => ?_
    split
    · rename_i o ho
      exact yields_pure (Outcome.isSound_of_ofProcess ho)
    · exact yields_throw _
  exact ⟨fun _ _ => yields_after fun _ => hinvoke _ _ _, fun _ _ => yields_after fun _ => hinvoke _ _ _⟩

/-- **Every oracle there is to choose from only gives outcomes whose parts go together.** -/
theorem OracleChoice.isSound (choice : OracleChoice) (host : Host) : (choice.oracle host).IsSound := by
  cases choice with
  | mock m => exact m.isSound
  | toolchain t => exact t.isSound host

/-! ## Flows -/

namespace Engine

variable {P : α → Prop} {e : Engine σ}

theorem yields_onBench {act : BenchM σ α} (h : Yields P act) : Yields P (onBench act) := by
  intro st a st' hrun
  rw [onBench_run] at hrun
  have hfst : (act st.bench).1 = .ok a := congrArg Prod.fst hrun
  exact h st.bench a (act st.bench).2 (Prod.ext hfst rfl)

theorem yields_orIdle {act : EngineM σ α} (h : Yields P act) : Yields P (orIdle act) := by
  intro st a st' hrun
  have hfst := congrArg Prod.fst hrun
  rw [orIdle_fst] at hfst
  exact h st a (act st).2 (Prod.ext hfst rfl)

/-- What is finished gives what its work gives. -/
theorem yields_check {standalone : Bool} {act : Workspace → EngineM σ α} (h : ∀ w, Yields P (act w))
    (outcomes : α → List Outcome) (passed : α → Bool) :
    Yields P (do
      let w ← e.provision standalone
      let a ← orIdle (act w)
      finish (outcomes a) (passed a)
      return a) :=
  yields_after fun w => (yields_orIdle (h w)).bind fun _ ha => yields_after fun _ => yields_pure ha

theorem yields_checkUnit (h : e.oracle.IsSound) (w : Workspace) (u : CompileUnit) :
    Yields Outcome.IsSound ((e.isolation w).checkUnit u) := yields_after fun _ => h.compile _ _

theorem yields_validateFrom (h : e.oracle.IsSound) (w : Workspace) (source : ModuleSource) (batch : List Candidate) :
    ∀ (rest : List Candidate) (focus : Nat),
      Yields (fun verdicts => BatchResult.IsSound ⟨verdicts⟩) ((e.isolation w).validateFrom source batch focus rest)
  | [], _ => yields_pure fun v hv => by cases hv
  | c :: rest, focus => by
    rw [Isolation.validateFrom]
    split
    · exact yields_throw _
    · refine (yields_checkUnit h w _).bind fun o ho =>
        (yields_validateFrom h w source batch rest (focus + 1)).bind fun verdicts hverdicts => yields_pure fun v hv => ?_
      rcases List.mem_cons.1 hv with rfl | hv
      · exact ho
      · exact hverdicts v hv

theorem yields_validateUnits (h : e.oracle.IsSound) (w : Workspace) (source : ModuleSource) (batch : List Candidate) :
    Yields BatchResult.IsSound ((e.isolation w).validateBatch source batch) := by
  rw [Isolation.validateBatch]
  split
  · exact yields_throw _
  · exact (yields_validateFrom h w source batch batch 0).bind fun _ hverdicts => yields_pure hverdicts

theorem yields_compileCheck (h : e.oracle.IsSound) (ref : ModuleRef) (material : Material) :
    Yields Outcome.IsSound (e.compileCheck ref material) :=
  yields_check (fun w => yields_after fun _ => yields_after fun _ => yields_after fun _ => yields_after fun _ =>
    yields_after fun _ => yields_onBench (yields_checkUnit h w _)) (fun o => [o]) Outcome.passed

theorem yields_validateBatch (h : e.oracle.IsSound) (ref : ModuleRef) (batch : List Candidate) :
    Yields BatchResult.IsSound (e.validateBatch ref batch) :=
  yields_check (fun w => yields_after fun _ => yields_after fun _ => yields_after fun _ => yields_after fun _ =>
    yields_onBench (yields_validateUnits h w _ _)) (fun r => r.verdicts.map Verdict.outcome) BatchResult.allPassed

theorem yields_checkDecoder (h : e.oracle.IsSound) (t : DecoderTest) (standalone : Bool) :
    Yields Outcome.IsSound (e.checkDecoder t standalone) :=
  yields_check (fun _ => yields_after fun _ => yields_after fun _ => yields_after fun _ => yields_onBench (h.test _ _))
    (fun o => [o]) Outcome.passed

/-! ## Runs -/

/-- An answer in which the parts of all outcomes go together, as they are and as they are reported. -/
def Answer.IsSound : Answer → Prop
  | .workspace _ => True
  | .outcome o => o.IsSound ∧ (OutcomeReport.ofOutcome o).IsSound
  | .batch r => r.IsSound ∧ (BatchReport.ofResult r).IsSound

theorem Answer.IsSound.outcomes {a : Answer} (h : a.IsSound) : ∀ o ∈ a.outcomes, o.IsSound := by
  intro o ho
  cases a with
  | workspace w => cases ho
  | outcome o' =>
    rw [List.mem_singleton.1 ho]
    exact h.1
  | batch r =>
    obtain ⟨v, hv, rfl⟩ := List.mem_map.1 ho
    exact h.1 v hv

theorem isSound_of_map {act : EngineM σ α} (make : α → Answer) (h : Yields P act) (hmake : ∀ a, P a → (make a).IsSound)
    {st : EngineState σ} {answer : Answer} (hanswer : (act st).1.map make = .ok answer) : answer.IsSound := by
  cases hrun : (act st).1 with
  | error x => rw [hrun] at hanswer; cases hanswer
  | ok a =>
    rw [hrun] at hanswer
    cases hanswer
    exact hmake a (h st a _ (Prod.ext hrun rfl))

theorem isSound_of_answer (h : e.oracle.IsSound) {st : EngineState σ} {f : Flow} {a : Answer}
    (hanswer : e.answer st f = .ok a) : a.IsSound := by
  cases f with
  | provision standalone => exact isSound_of_map .workspace (yields_true _) (fun _ _ => trivial) hanswer
  | compileCheck ref material =>
    exact isSound_of_map .outcome (yields_compileCheck h ref material) (fun _ ho => ⟨ho, ho.report⟩) hanswer
  | validateBatch ref batch =>
    exact isSound_of_map .batch (yields_validateBatch h ref batch) (fun _ hr => ⟨hr, hr.report⟩) hanswer
  | checkDecoder t standalone =>
    exact isSound_of_map .outcome (yields_checkDecoder h t standalone) (fun _ ho => ⟨ho, ho.report⟩) hanswer

/-- A state that an engine comes to by flows and formatting, where anything may happen to the bench in between. -/
inductive Ran (e : Engine σ) (first : EngineState σ) : EngineState σ → Prop
  | first : Ran e first first
  | flow {st : EngineState σ} (f : Flow) : Ran e first st → Ran e first (e.after st f)
  | format {st : EngineState σ} (source : String) : Ran e first st → Ran e first (e.formatSource source st).2
  | meanwhile {st : EngineState σ} (b : Bench σ) : Ran e first st → Ran e first { st with bench := b }

/-- A flow adds to the history what it returns. -/
theorem history_after (e : Engine σ) (st : EngineState σ) (f : Flow) :
    (e.after st f).history = st.history ++ returned (e.answer st f) := by
  cases hcheck : f.isCheck with
  | true => exact (course_check e ⟨f, hcheck⟩ st).history
  | false =>
    cases f with
    | provision standalone =>
      show (e.provision standalone st).2.history = st.history ++ returned ((e.provision standalone st).1.map .workspace)
      rw [e.provision_run]
      rcases e.prepare standalone st.bench.disk with ⟨result, d⟩
      cases result <;> exact (List.append_nil _).symm
    | _ => cases hcheck

/-- **All of the history goes together**, if it did at first. -/
theorem isSound_of_ran (h : e.oracle.IsSound) {first st : EngineState σ} (hfirst : ∀ o ∈ first.history, o.IsSound)
    (hran : e.Ran first st) : ∀ o ∈ st.history, o.IsSound := by
  induction hran with
  | first => exact hfirst
  | @flow st f _ ih =>
    rw [history_after]
    intro o ho
    rcases List.mem_append.1 ho with ho | ho
    · exact ih o ho
    · cases hanswer : e.answer st f with
      | error x => rw [hanswer] at ho; cases ho
      | ok a =>
        rw [hanswer] at ho
        exact (isSound_of_answer h hanswer).outcomes o ho
  | format source _ ih => exact ih
  | meanwhile b _ ih => exact ih

end Engine

/-! ## Tools -/

namespace Tool

variable {P : α → Prop} (host : Host) (config : Config)

theorem yields_withEngine (project : String) {flow : Engine Mock.Log → EngineM Mock.Log α}
    (h : ∀ e : Engine Mock.Log, e.oracle.IsSound → Yields P (flow e)) : Yields P (withEngine host config project flow) := by
  intro d a d' hrun
  rw [withEngine] at hrun
  cases hchoice : OracleChoice.ofConfig config with
  | error x => rw [hchoice] at hrun; cases hrun
  | ok choice =>
    rw [hchoice] at hrun
    have hfst : (flow (Engine.new config (Path.parse project) "" (choice.oracle host)) { bench := ⟨d, []⟩ }).1 = .ok a :=
      congrArg Prod.fst hrun
    exact h (Engine.new config (Path.parse project) "" (choice.oracle host)) (choice.isSound host) _ a _ (Prod.ext hfst rfl)

theorem yields_compileCheck (project modulePath : Option String) (candidates : Option (List Json)) (code : Option String) :
    Yields OutcomeReport.IsSound (compileCheck host config project modulePath candidates code) := by
  refine yields_after fun project => yields_after fun _ => ?_
  dsimp only
  by_cases hnothing : (candidates.isNone && code.isNone) = true
  · rw [if_pos hnothing]
    exact (yields_throw (P := fun _ => False) _).bind fun _ hno => hno.elim
  · rw [if_neg hnothing]
    exact yields_withEngine host config project fun _ he => yields_after fun material =>
      (Engine.yields_compileCheck he _ material).bind fun _ ho => yields_pure ho.report

theorem yields_validateCandidates (project modulePath : Option String) (candidates : List Json) :
    Yields BatchReport.IsSound (validateCandidates host config project modulePath candidates) :=
  yields_after fun project => yields_after fun _ => yields_withEngine host config project fun _ he =>
    yields_after fun batch => (Engine.yields_validateBatch he _ batch).bind fun _ hr => yields_pure hr.report

theorem yields_testDecoder (project : Option String) (sampleJson : String) (solution : Option String)
    (typeDefinition : String) :
    Yields OutcomeReport.IsSound (testDecoder host config project sampleJson solution typeDefinition) :=
  yields_after fun project => yields_after fun _ => yields_after fun _ =>
    yields_withEngine host config project fun _ he => (Engine.yields_checkDecoder he _ true).bind fun _ ho =>
      yields_pure ho.report

end Tool

/-! ## All outcomes -/

namespace Engine

/-- **The parts of all outcomes go together.** What a program with a name left behind makes an outcome. With an oracle that
can be chosen, all of the history of an engine goes together, however the engine was used since it was made, and so does what
its flows answer, and its reports. So do the reports of the tools. -/
theorem outcomes_areSound :
    (∀ (r : ProcessResult) (limit : Option Seconds), r.command ≠ [] →
      ∃ o, Outcome.ofProcess r limit = .ok o ∧ Outcome.Reduces r limit o) ∧
      (∀ (choice : OracleChoice) (host : Host) (e : Engine Mock.Log), e.oracle = choice.oracle host →
        ∀ (b : Bench Mock.Log) (st : EngineState Mock.Log), e.Ran (start b) st →
          (∀ o ∈ st.history, o.IsSound ∧ (OutcomeReport.ofOutcome o).IsSound) ∧
            ∀ (f : Flow) (a : Answer), e.answer st f = .ok a → a.IsSound) ∧
      ∀ (host : Host) (config : Config),
        (∀ project modulePath candidates code,
          Yields OutcomeReport.IsSound (Tool.compileCheck host config project modulePath candidates code)) ∧
        (∀ project modulePath candidates,
          Yields BatchReport.IsSound (Tool.validateCandidates host config project modulePath candidates)) ∧
        ∀ project sampleJson solution typeDefinition,
          Yields OutcomeReport.IsSound (Tool.testDecoder host config project sampleJson solution typeDefinition) := by
  refine ⟨fun r limit h => Outcome.ofProcess_eq_ok h limit, fun choice host e horacle b st hran => ?_,
    fun host config => ⟨Tool.yields_compileCheck host config, Tool.yields_validateCandidates host config,
      Tool.yields_testDecoder host config⟩⟩
  have hsound : e.oracle.IsSound := by
    rw [horacle]
    exact choice.isSound host
  refine ⟨fun o ho => ?_, fun f a ha => isSound_of_answer hsound ha⟩
  have ho := isSound_of_ran hsound (fun _ hnone => by cases hnone) hran o ho
  exact ⟨ho, ho.report⟩

/-- A mock oracle that rejects every text without a word. -/
def silentMock : Mock := ⟨.pass, some fun _ => some "", none⟩

/-- A program that was stopped makes an outcome, and a check that is rejected without a word leaves one in the history. -/
theorem outcomes_areSound_sample :
    (∃ o, Outcome.ofProcess ⟨["elm", "make"], none, "Compiling", "", 100, true⟩ none = .ok o ∧
      Outcome.Reduces ⟨["elm", "make"], none, "Compiling", "", 100, true⟩ none o) ∧
      ∃ o, ((sampleEngine silentMock).after (fresh sampleDisk) sampleFlow).history = [o] ∧ o.passed = false ∧ o.IsSound := by
  obtain ⟨hprocess, hengine, -⟩ := outcomes_areSound
  refine ⟨hprocess _ none (by decide), ?_⟩
  have hran : (sampleEngine silentMock).Ran (start ⟨sampleDisk, []⟩)
      ((sampleEngine silentMock).after (fresh sampleDisk) sampleFlow) := .flow sampleFlow .first
  have hhistory : ∃ o, ((sampleEngine silentMock).after (fresh sampleDisk) sampleFlow).history = [o] ∧ o.passed = false := by
    rw [sampleFlow, after, compileCheck, bind_of_ok (provision_fresh (isPrepared_sampleDisk.prepare _))]
    refine ⟨⟨false, "mock exited with code 1", .failed,
      ["mock", "compile", sampleFile.text], some 1, 0⟩, ?_, rfl⟩
    decide +kernel
  obtain ⟨o, ho, hpassed⟩ := hhistory
  refine ⟨o, ho, hpassed, ((hengine (.mock silentMock) ⟨fun _ _ => .error ⟨.noEntry, "elm"⟩⟩ (sampleEngine silentMock) rfl _ _
    hran).1 o ?_).1⟩
  rw [ho]
  exact List.mem_singleton_self o

end Engine
end ElmAssay
