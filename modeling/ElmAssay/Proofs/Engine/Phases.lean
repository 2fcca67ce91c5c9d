import ElmAssay.Proofs.Engine.Flows

/-!
# The phases and the history of an engine

A check enters its phases in order (`working`), as far as it comes. If it fails, it leaves the engine idle and the history as
it was; if it returns, it has entered all of them, the engine has passed or failed by the outcomes, and these are the last
ones of the history (`Course`, `course_check`). To format a text changes none of that. So between requests an engine is never
at work, and its history is what its checks returned, one after the other (`phases_and_history`).
-/

namespace ElmAssay.Engine

open Effect

variable {σ α β : Type}

/-! ## Actions that enter phases -/

/-- An action that enters some phases in order, all of them unless it fails, and leaves the history as it is. -/
def Enters (ps : List Phase) (act : EngineM σ α) : Prop :=
  ∀ st, ∃ qs, (act st).2.entered = st.entered ++ qs ∧ (act st).2.history = st.history ∧ qs <+: ps ∧
    ((act st).1.isOk = true → qs = ps)

theorem enters_enter (p : Phase) : Enters [p] (enter p : EngineM σ Unit) :=
  fun _ => ⟨[p], rfl, rfl, List.prefix_refl _, fun _ => rfl⟩

theorem enters_onBench (act : BenchM σ α) : Enters [] (onBench act) :=
  fun _ => ⟨[], (List.append_nil _).symm, rfl, List.prefix_refl _, fun _ => rfl⟩

theorem enters_attempt (result : Except Failure α) : Enters [] (attempt result : EngineM σ α) := by
  intro st
  rw [attempt_run]
  exact ⟨[], (List.append_nil _).symm, rfl, List.prefix_refl _, fun _ => rfl⟩

/-- Two actions, one after the other, enter what the first and then what the second does. -/
theorem Enters.bind {ps qs : List Phase} {act : EngineM σ α} {next : α → EngineM σ β} (h : Enters ps act)
    (hnext : ∀ a, Enters qs (next a)) : Enters (ps ++ qs) (act >>= next) := by
  intro st
  obtain ⟨rs, hentered, hhistory, hfront, hall⟩ := h st
  rcases hrun : act st with ⟨result, st'⟩
  rw [hrun] at hentered hhistory hall
  cases result with
  | error x =>
    rw [bind_of_error hrun]
    exact ⟨rs, hentered, hhistory, hfront.trans (List.prefix_append _ _), nofun⟩
  | ok a =>
    obtain rfl := hall rfl
    obtain ⟨rs', hentered', hhistory', hfront', hall'⟩ := hnext a st'
    rw [bind_of_ok hrun]
    refine ⟨rs ++ rs', ?_, hhistory'.trans hhistory, (List.prefix_append_right_inj rs).2 hfront', fun hok => ?_⟩
    · rw [hentered', hentered, List.append_assoc]
    · rw [hall' hok]

/-! ## The course of a check -/

/-- The phases of a check before it ends. -/
def working : List Phase := [.provisioning, .synthesizing, .invoking]

/-- The outcomes in an answer. -/
def Answer.outcomes : Answer → List Outcome
  | .workspace _ => []
  | .outcome o => [o]
  | .batch r => r.verdicts.map Verdict.outcome

/-- The outcomes that are returned, none with a failure. -/
def returned : Except Failure Answer → List Outcome
  | .ok a => a.outcomes
  | .error _ => []

/-- How a check goes, by the states before and after it and by what comes of it. -/
structure Course (st st' : EngineState σ) (result : Except Failure Answer) : Prop where
  /-- It fails exactly if it entered some of the phases, and then none but that of an idle engine. -/
  failed : result.isOk = false ↔ ∃ ps, ps ≠ [] ∧ ps <+: working ∧ st'.entered = st.entered ++ ps ++ [.idle]
  /-- It returns exactly if it entered all of the phases, and then one of those in which a check ends. -/
  returned : result.isOk = true ↔ ∃ last, (last = .passed ∨ last = .failed) ∧ st'.entered = st.entered ++ working ++ [last]
  phase : st'.entered.getLast? = some st'.phase
  passed : ∀ a, result = .ok a → (st'.phase = .passed ↔ ∀ o ∈ a.outcomes, o.passed = true)
  history : st'.history = st.history ++ Engine.returned result

/-- The phase in which a check ends tells whether all outcomes are good. -/
theorem ofVerdict_eq_passed_iff {outcomes : List Outcome} :
    Phase.ofVerdict (outcomes.all Outcome.passed) = .passed ↔ ∀ o ∈ outcomes, o.passed = true := by
  rw [← List.all_eq_true]
  cases outcomes.all Outcome.passed <;> decide

theorem ofVerdict_cases (passed : Bool) : Phase.ofVerdict passed = .passed ∨ Phase.ofVerdict passed = .failed := by
  cases passed
  · exact .inr rfl
  · exact .inl rfl

/-- The last phase tells a check that failed from one that returned. -/
theorem last_ne_idle {entered ps : List Phase} {last : Phase} (hlast : last = .passed ∨ last = .failed)
    (h : entered ++ working ++ [last] = entered ++ ps ++ [.idle]) : False := by
  obtain rfl : last = .idle := by
    have hend := congrArg List.getLast? h
    rw [List.getLast?_concat, List.getLast?_concat] at hend
    exact Option.some.inj hend
  rcases hlast with h | h <;> cases h

theorem Course.of_error {st st' : EngineState σ} {x : Failure} (ps : List Phase) (hne : ps ≠ []) (hfront : ps <+: working)
    (hphase : st'.phase = .idle) (hentered : st'.entered = st.entered ++ ps ++ [.idle])
    (hhistory : st'.history = st.history) : Course st st' (.error x) where
  failed := ⟨fun _ => ⟨ps, hne, hfront, hentered⟩, fun _ => rfl⟩
  returned := by
    refine ⟨nofun, ?_⟩
    rintro ⟨last, hlast, hentered'⟩
    exact (last_ne_idle hlast (hentered'.symm.trans hentered)).elim
  phase := by rw [hentered, List.getLast?_concat, hphase]
  passed := nofun
  history := by rw [hhistory, Engine.returned, List.append_nil]

theorem Course.of_ok {st st' : EngineState σ} {a : Answer}
    (hphase : st'.phase = .ofVerdict (a.outcomes.all Outcome.passed))
    (hentered : st'.entered = st.entered ++ working ++ [st'.phase]) (hhistory : st'.history = st.history ++ a.outcomes) :
    Course st st' (.ok a) where
  failed := by
    refine ⟨nofun, ?_⟩
    rintro ⟨ps, -, -, hentered'⟩
    rw [hphase] at hentered
    exact (last_ne_idle (ofVerdict_cases _) (hentered.symm.trans hentered')).elim
  returned := ⟨fun _ => ⟨_, hphase ▸ ofVerdict_cases _, hentered⟩, fun _ => rfl⟩
  phase := by rw [hentered, List.getLast?_concat]
  passed b hb := by
    cases hb
    rw [hphase]
    exact ofVerdict_eq_passed_iff
  history := hhistory

/-- **Preparing, working and finishing is the course of a check**, whatever the work is, as long as it enters the phases
that are left. -/
theorem course_of_enters (e : Engine σ) (standalone : Bool) {act : Workspace → EngineM σ α}
    (hact : ∀ w, Enters [.synthesizing, .invoking] (act w)) (outcomes : α → List Outcome) (passed : α → Bool)
    (hpassed : ∀ a, passed a = (outcomes a).all Outcome.passed) (g : α → Answer)
    (hg : ∀ a, (g a).outcomes = outcomes a) (st : EngineState σ) :
    let run := (do
      let w ← e.provision standalone
      let a ← orIdle (act w)
      finish (outcomes a) (passed a)
      return a : EngineM σ α) st
    Course st run.2 (run.1.map g) := by
  intro run
  have hprovision := e.provision_run standalone st
  rcases hprepare : e.prepare standalone st.bench.disk with ⟨result, d⟩
  rw [hprepare] at hprovision
  cases result with
  | error x =>
    have hrun : run = _ := bind_of_error hprovision
    rw [hrun]
    exact .of_error [.provisioning] (by decide) (by decide) rfl rfl rfl
  | ok w =>
    obtain ⟨ps, hentered, hhistory, hfront, hall⟩ := hact w _
    rcases hwork : act w ⟨⟨d, st.bench.oracle⟩, .provisioning, st.entered ++ [.provisioning], st.history⟩ with ⟨result, st'⟩
    rw [hwork] at hentered hhistory hall
    have hthrough : st'.entered = st.entered ++ ([.provisioning] ++ ps) := by rw [hentered, List.append_assoc]
    cases result with
    | error x =>
      have hrun : run = _ := (bind_of_ok hprovision).trans (bind_of_error (orIdle_of_error hwork))
      rw [hrun]
      refine .of_error ([.provisioning] ++ ps) nofun ?_ rfl ?_ hhistory
      · exact List.prefix_cons_inj _ |>.2 hfront
      · rw [← hthrough]
    | ok a =>
      have hrun : run = _ := (bind_of_ok hprovision).trans (bind_of_ok (orIdle_of_ok hwork))
      rw [hrun]
      refine .of_ok ?_ ?_ ?_
      · show Phase.ofVerdict (passed a) = _
        rw [hg, hpassed]
      · show st'.entered ++ [_] = _
        rw [hthrough, hall rfl]
        rfl
      · show st'.history ++ outcomes a = _
        rw [hhistory, hg]

/-! ## The checks -/

/-- Whether a flow is a check, and not just the preparation of one. -/
def Flow.isCheck : Flow → Bool
  | .provision _ => false
  | _ => true

/-- The flows that are checks. -/
abbrev Check := {f : Flow // f.isCheck = true}

/-- **Every check takes its course**, whatever the disk is and whatever the oracle does. -/
theorem course_check (e : Engine σ) (c : Check) (st : EngineState σ) : Course st (e.after st c.1) (e.answer st c.1) := by
  obtain ⟨f, hf⟩ := c
  have hread {ref : ModuleRef} : Enters [] (onDisk (e.readModule ref) : EngineM σ ModuleSource) := enters_onBench _
  cases f with
  | provision standalone => cases hf
  | compileCheck ref material =>
    show Course st (e.compileCheck ref material st).2 ((e.compileCheck ref material st).1.map .outcome)
    refine course_of_enters e false (fun w => ?_) (fun o => [o]) Outcome.passed (fun o => (Bool.and_true o.passed).symm)
      .outcome (fun _ => rfl) st
    exact hread.bind fun _ => (enters_enter _).bind fun _ => (enters_attempt _).bind fun _ => (enters_attempt _).bind fun _ =>
      (enters_enter _).bind fun _ => enters_onBench _
  | validateBatch ref batch =>
    have hpassed (r : BatchResult) : r.allPassed = (r.verdicts.map Verdict.outcome).all Outcome.passed := by
      rw [List.all_map]
      rfl
    have hact (w : Workspace) : Enters [.synthesizing, .invoking] (do
        let source ← onDisk (e.readModule ref)
        enter .synthesizing
        attempt (Candidate.checkUnique batch)
        enter .invoking
        onBench ((e.isolation w).validateBatch source batch) : EngineM σ BatchResult) :=
      hread.bind fun _ => (enters_enter _).bind fun _ => (enters_attempt _).bind fun _ => (enters_enter _).bind fun _ =>
        enters_onBench _
    exact course_of_enters e false hact (fun r => r.verdicts.map Verdict.outcome) BatchResult.allPassed hpassed .batch
      (fun _ => rfl) st
  | checkDecoder t standalone =>
    show Course st (e.checkDecoder t standalone st).2 ((e.checkDecoder t standalone st).1.map .outcome)
    refine course_of_enters e standalone (fun w => ?_) (fun o => [o]) Outcome.passed
      (fun o => (Bool.and_true o.passed).symm) .outcome (fun _ => rfl) st
    exact (enters_enter _).bind fun _ => (enters_onBench _).bind fun _ => (enters_enter _).bind fun _ => enters_onBench _

/-! ## Runs of requests -/

/-- What an engine is asked for: a check, or to format a text. -/
inductive Request
  | check (c : Check)
  | format (source : String)

/-- The state after a request. -/
def serve (e : Engine σ) (st : EngineState σ) : Request → EngineState σ
  | .check c => e.after st c.1
  | .format source => (e.formatSource source st).2

/-- The outcomes that a request returns. -/
def outcomes (e : Engine σ) (st : EngineState σ) : Request → List Outcome
  | .check c => returned (e.answer st c.1)
  | .format _ => []

/-- The state after some requests. -/
def serveAll (e : Engine σ) (st : EngineState σ) : List Request → EngineState σ
  | [] => st
  | r :: rs => e.serveAll (e.serve st r) rs

/-- The outcomes that some requests return, one after the other. -/
def allOutcomes (e : Engine σ) (st : EngineState σ) : List Request → List Outcome
  | [] => []
  | r :: rs => e.outcomes st r ++ e.allOutcomes (e.serve st r) rs

/-- The phases of an engine that is not at work. -/
def AtRest (p : Phase) : Prop := p = .idle ∨ p = .passed ∨ p = .failed

/-- After a check an engine is not at work. -/
theorem Course.atRest {st st' : EngineState σ} {result : Except Failure Answer} (h : Course st st' result) :
    AtRest st'.phase := by
  have hphase := h.phase
  cases hresult : result.isOk with
  | false =>
    obtain ⟨ps, -, -, hentered⟩ := h.failed.1 hresult
    rw [hentered, List.getLast?_concat] at hphase
    exact .inl (Option.some.inj hphase).symm
  | true =>
    obtain ⟨last, hlast, hentered⟩ := h.returned.1 hresult
    rw [hentered, List.getLast?_concat] at hphase
    rw [← Option.some.inj hphase]
    exact .inr hlast

theorem atRest_serve (e : Engine σ) {st : EngineState σ} (h : AtRest st.phase) (r : Request) :
    AtRest (e.serve st r).phase := by
  cases r with
  | check c => exact (course_check e c st).atRest
  | format source => exact h

theorem history_serve (e : Engine σ) (st : EngineState σ) (r : Request) :
    (e.serve st r).history = st.history ++ e.outcomes st r := by
  cases r with
  | check c => exact (course_check e c st).history
  | format source => exact (List.append_nil _).symm

theorem atRest_serveAll (e : Engine σ) {st : EngineState σ} (h : AtRest st.phase) (rs : List Request) :
    AtRest (e.serveAll st rs).phase := by
  induction rs generalizing st with
  | nil => exact h
  | cons r rs ih => exact ih (atRest_serve e h r)

theorem history_serveAll (e : Engine σ) (st : EngineState σ) (rs : List Request) :
    (e.serveAll st rs).history = st.history ++ e.allOutcomes st rs := by
  induction rs generalizing st with
  | nil => exact (List.append_nil _).symm
  | cons r rs ih => rw [serveAll, ih, history_serve, allOutcomes, List.append_assoc]

/-- The state of an engine that was just made. -/
def start (b : Bench σ) : EngineState σ := ⟨b, .idle, [], []⟩

/-- **The phases and the history of an engine**: each check takes its course, to format a text changes neither, and so after
all requests that are made of a new engine it is not at work, and its history is what the checks among them returned. -/
theorem phases_and_history (e : Engine σ) :
    (∀ (c : Check) (st : EngineState σ), Course st (e.after st c.1) (e.answer st c.1)) ∧
    (∀ source (st : EngineState σ), (e.formatSource source st).2.phase = st.phase ∧
      (e.formatSource source st).2.entered = st.entered ∧ (e.formatSource source st).2.history = st.history) ∧
    ∀ (b : Bench σ) (rs : List Request), AtRest (e.serveAll (start b) rs).phase ∧
      (e.serveAll (start b) rs).history = e.allOutcomes (start b) rs :=
  ⟨course_check e, fun _ _ => ⟨rfl, rfl, rfl⟩, fun b rs => ⟨atRest_serveAll e (.inl rfl) rs, history_serveAll e (start b) rs⟩⟩

end ElmAssay.Engine
