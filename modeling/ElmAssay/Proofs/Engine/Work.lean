import ElmAssay.Proofs.Engine.Flows

/-!
# The work of a flow

Without its phases and its history, a flow prepares the workspace and then works in it (`Engine.work`): it reads the
module, builds a unit or a test and checks it. The flow of an engine answers what this answers and leaves the bench as
this leaves it (`run_eq`), so what is said about benches and answers is proved of `Engine.run`.
-/

namespace ElmAssay.Engine

open Effect

variable {σ α : Type}

/-- What a flow does in the workspace that was prepared for it. -/
def work (e : Engine σ) (w : Workspace) : Flow → BenchM σ Answer
  | .provision _ => return .workspace w
  | .compileCheck ref material => do
    let source ← Bench.onDisk (e.readModule ref)
    let more ← liftM material.render
    let unit ← liftM (CompileUnit.splice source more e.config.privateModule e.config.strictHeader)
    return .outcome (← (e.isolation w).checkUnit unit)
  | .validateBatch ref batch => do
    let source ← Bench.onDisk (e.readModule ref)
    liftM (Candidate.checkUnique batch)
    return .batch (← (e.isolation w).validateBatch source batch)
  | .checkDecoder t _ => do
    let p ← Bench.onDisk (t.build w)
    return .outcome (← e.oracle.test p w.root)

/-- A flow without its phases and its history. -/
def run (e : Engine σ) (f : Flow) : BenchM σ Answer := do
  let w ← Bench.onDisk (e.prepare f.standalone)
  e.work w f

/-! ## Steps without phases -/

section Mirrors

variable {act' : EngineM σ α} {act : BenchM σ α}

theorem runs_onBench (act : BenchM σ α) : Mirrors EngineState.bench (onBench act) act := fun _ => rfl

theorem runs_attempt (result : Except Failure α) :
    Mirrors EngineState.bench (attempt result : EngineM σ α) (liftM result) := by
  intro st
  rw [attempt_run, lift_run]

theorem runs_enter (p : Phase) (h : Mirrors EngineState.bench act' act) :
    Mirrors EngineState.bench (do enter p; act') act := by
  intro st
  rw [bind_of_ok (enter_run p st)]
  exact h { st with phase := p, entered := st.entered ++ [p] }

theorem runs_orIdle (h : Mirrors EngineState.bench act' act) : Mirrors EngineState.bench (orIdle act') act := by
  intro st
  rw [h st]
  rcases hrun : act' st with ⟨result, st'⟩
  cases result with
  | ok a => rw [orIdle_of_ok hrun]
  | error x => rw [orIdle_of_error hrun]

theorem runs_provision (e : Engine σ) (standalone : Bool) :
    Mirrors EngineState.bench (e.provision standalone) (Bench.onDisk (e.prepare standalone)) := by
  intro st
  rw [provision_run, Bench.onDisk]
  rcases e.prepare standalone st.bench.disk with ⟨result, d⟩
  cases result <;> rfl

/-- Preparing, working and finishing leave the bench as preparing and working do. -/
theorem runs_check (e : Engine σ) (standalone : Bool) {part : Workspace → EngineM σ α} {act : Workspace → BenchM σ α}
    (h : ∀ w, Mirrors EngineState.bench (part w) (act w)) (outcomes : α → List Outcome) (passed : α → Bool) :
    Mirrors EngineState.bench
      (do
        let w ← e.provision standalone
        let a ← orIdle (part w)
        finish (outcomes a) (passed a)
        return a)
      (do
        let w ← Bench.onDisk (e.prepare standalone)
        act w) := by
  refine (runs_provision e standalone).bind fun w st => ?_
  rw [runs_orIdle (h w) st, bind_run]
  rcases orIdle (part w) st with ⟨result, st'⟩
  cases result <;> rfl

/-- What comes of an action after which the result is put into an answer. -/
theorem run_of_runs (h : Mirrors EngineState.bench act' act) (g : α → Answer) (st : EngineState σ) :
    (do let a ← act; return g a : BenchM σ Answer) st.bench = ((act' st).1.map g, (act' st).2.bench) := by
  rw [map_run, h st]

end Mirrors

/-- Reading a module leaves the bench as it is. -/
theorem bench_readModule (e : Engine σ) (ref : ModuleRef) (b : Bench σ) :
    Bench.onDisk (e.readModule ref) b = ((e.readModule ref b.disk).1, b) :=
  congrArg (Prod.map id EngineState.bench) (readModule_run e ref ⟨b, .idle, [], []⟩)

/-- A file that is not below the root is not written. -/
theorem writeBelow_of_none {w : Workspace} {p : Path} (text : String) (hbelow : p.below? w.root = none) (b : Bench σ) :
    Bench.onDisk (w.writeBelow p text) b = (.error (.outside p w.root), b) := by
  refine Bench.onDisk_run ?_
  rw [Workspace.writeBelow_eq, hbelow]

/-- What is known of a workspace that was prepared with its manifest. -/
theorem prepare_eq_ok {e : Engine σ} {standalone : Bool} {w : Workspace} {d d' : Disk}
    (h : e.prepare standalone d = (.ok w, d')) :
    ∃ d₁ text changed, Workspace.ensure e.project e.config.workspaceDirectory d = (.ok w, d₁) ∧
      w.manifestText standalone e.manifestPath d₁ = .ok text ∧
      Disk.writeIfChanged w.manifestPath text d₁ = (.ok changed, d') := by
  rw [prepare] at h
  obtain ⟨w', d₁, hensure, h⟩ := bind_eq_ok h
  obtain ⟨changed, d₂, hwrite, h⟩ := bind_eq_ok h
  cases h
  rw [Workspace.materialize_run] at hwrite
  cases htext : w.manifestText standalone e.manifestPath d₁ with
  | error x => rw [htext] at hwrite; cases hwrite
  | ok text =>
    rw [htext] at hwrite
    exact ⟨d₁, text, changed, hensure, htext, hwrite⟩

theorem isAbsolute_of_prepare {e : Engine σ} {standalone : Bool} {w : Workspace} {d d' : Disk}
    (h : e.prepare standalone d = (.ok w, d')) : w.root.isAbsolute = true := by
  obtain ⟨d₁, -, -, hensure, -⟩ := prepare_eq_ok h
  exact Workspace.isAbsolute_of_ensure hensure

/-! ## Flows without phases -/

/-- **A flow answers what it comes to without phases and history, and leaves the bench so.** -/
theorem run_eq (e : Engine σ) (f : Flow) (st : EngineState σ) :
    e.run f st.bench = (e.answer st f, (e.after st f).bench) := by
  cases f with
  | provision standalone => exact run_of_runs (runs_provision e standalone) .workspace st
  | compileCheck ref material =>
    have hrun := run_of_runs (runs_check e false (fun w =>
      (runs_onBench (Bench.onDisk (e.readModule ref))).bind fun source => runs_enter .synthesizing <|
        (runs_attempt material.render).bind fun more =>
        (runs_attempt (CompileUnit.splice source more e.config.privateModule e.config.strictHeader)).bind fun unit =>
        runs_enter .invoking (runs_onBench ((e.isolation w).checkUnit unit)))
      (fun o => [o]) Outcome.passed) .outcome st
    simp only [bind_assoc] at hrun
    exact hrun
  | validateBatch ref batch =>
    have hrun := run_of_runs (runs_check e false (fun w =>
      (runs_onBench (Bench.onDisk (e.readModule ref))).bind fun source => runs_enter .synthesizing <|
        (runs_attempt (Candidate.checkUnique batch)).bind fun _ =>
        runs_enter .invoking (runs_onBench ((e.isolation w).validateBatch source batch)))
      (fun r => r.verdicts.map Verdict.outcome) BatchResult.allPassed) .batch st
    simp only [bind_assoc] at hrun
    exact hrun
  | checkDecoder t standalone =>
    have hrun := run_of_runs (runs_check e standalone (fun w =>
      runs_enter .synthesizing <| (runs_onBench (Bench.onDisk (t.build w))).bind fun p =>
        runs_enter .invoking (runs_onBench (e.oracle.test p w.root)))
      (fun o => [o]) Outcome.passed) .outcome st
    simp only [bind_assoc] at hrun
    exact hrun

end ElmAssay.Engine
