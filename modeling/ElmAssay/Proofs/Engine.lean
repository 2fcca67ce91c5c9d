import ElmAssay.Engine
import ElmAssay.Proofs.Isolation.Run

/-!
# The flows of checks and batches through the engine

What the steps of a flow do (`onBench_run` and its companions), and what the flow of a check and that of a batch come to
(`compileCheck_fst`, `validateBatch_fst`): the failure of the first step that fails, or else the answer about the unit or
the verdicts on the batch in the workspace that was prepared.
-/

namespace ElmAssay.Engine

open Effect

variable {σ α : Type}

theorem onBench_run (act : BenchM σ α) (st : EngineState σ) :
    onBench act st = ((act st.bench).1, { st with bench := (act st.bench).2 }) := rfl

theorem enter_run (p : Phase) (st : EngineState σ) :
    (enter p : EngineM σ Unit) st = (.ok (), { st with phase := p, entered := st.entered ++ [p] }) := rfl

theorem attempt_run (result : Except Failure α) (st : EngineState σ) :
    (attempt result : EngineM σ α) st = (result, st) := by
  cases result <;> rfl

theorem orIdle_of_ok {act : EngineM σ α} {st st' : EngineState σ} {a : α} (h : act st = (.ok a, st')) :
    orIdle act st = (.ok a, st') := by rw [orIdle, tryCatch_run, h]

/-- A part of a flow that fails leaves the engine idle. -/
theorem orIdle_of_error {act : EngineM σ α} {st st' : EngineState σ} {x : Failure} (h : act st = (.error x, st')) :
    orIdle act st = (.error x, { st' with phase := .idle, entered := st'.entered ++ [.idle] }) := by
  rw [orIdle, tryCatch_run, h]
  rfl

/-- The result of a part of a flow is that of its steps. -/
theorem orIdle_fst (act : EngineM σ α) (st : EngineState σ) : (orIdle act st).1 = (act st).1 := by
  rcases h : act st with ⟨result, st'⟩
  cases result with
  | error x => rw [orIdle_of_error h]
  | ok a => rw [orIdle_of_ok h]

/-- Ending a flow does not fail. -/
theorem bind_finish_fst (act : EngineM σ α) (outcomes : α → List Outcome) (passed : α → Bool) (st : EngineState σ) :
    ((do let a ← act; finish (outcomes a) (passed a); return a : EngineM σ α) st).1 = (act st).1 := by
  rw [bind_run]
  rcases act st with ⟨result, st'⟩
  cases result <;> rfl

theorem readModule_run (e : Engine σ) (ref : ModuleRef) (st : EngineState σ) :
    onDisk (e.readModule ref) st = ((e.readModule ref st.bench.disk).1, st) := by
  have hdisk : (e.readModule ref st.bench.disk).2 = st.bench.disk := by
    cases ref with
    | source m => rfl
    | path p =>
      rw [readModule]
      cases h : ModuleSource.read st.bench.disk (e.project / p) with
      | error x => rw [Disk.ask_of_error h]
      | ok source => rw [Disk.ask_of_ok h]
  rcases hread : e.readModule ref st.bench.disk with ⟨result, d⟩
  rw [hread] at hdisk
  obtain rfl : d = st.bench.disk := hdisk
  rw [onDisk, onBench_run, Bench.onDisk_run hread]

/-- The root of a workspace that an engine prepared starts at the top. -/
theorem isAbsolute_of_provision {e : Engine σ} {standalone : Bool} {w : Workspace} {st st' : EngineState σ}
    (h : e.provision standalone st = (.ok w, st')) : w.root.isAbsolute = true := by
  rw [provision, bind_of_ok (enter_run _ _)] at h
  have hact := congrArg Prod.fst h
  rw [orIdle_fst, bind_run, onDisk, onBench_run, Bench.onDisk] at hact
  rcases hensure : Workspace.ensure e.project e.config.workspaceDirectory st.bench.disk with ⟨result, d⟩
  rw [hensure] at hact
  cases result with
  | error x => cases hact
  | ok w' =>
    dsimp only at hact
    rw [bind_run] at hact
    split at hact
    · cases hact
      exact Workspace.isAbsolute_of_ensure hensure
    · cases hact

/-- **What the flow of a check comes to**: it prepares the workspace, reads the module, refuses what cannot be added to it,
and checks the unit. -/
theorem compileCheck_fst (e : Engine σ) (ref : ModuleRef) (material : Material) (st : EngineState σ) :
    (e.compileCheck ref material st).1 =
      match e.provision false st with
      | (.error x, _) => .error x
      | (.ok w, st') =>
        match (e.readModule ref st'.bench.disk).1, material.render with
        | .error x, _ => .error x
        | .ok _, .error x => .error x
        | .ok source, .ok more =>
          match CompileUnit.splice source more e.config.privateModule e.config.strictHeader with
          | .error x => .error x
          | .ok unit => ((e.isolation w).checkUnit unit st'.bench).1 := by
  rw [compileCheck, bind_run]
  rcases e.provision false st with ⟨result, st₁⟩
  cases result with
  | error x => rfl
  | ok w =>
    dsimp only
    rw [bind_finish_fst _ (fun o => [o]) Outcome.passed, orIdle_fst, bind_run, readModule_run]
    cases (e.readModule ref st₁.bench.disk).1 with
    | error x => rfl
    | ok source =>
      dsimp only
      rw [bind_of_ok (enter_run _ _), bind_run, attempt_run]
      cases material.render with
      | error x => rfl
      | ok more =>
        dsimp only
        rw [bind_run, attempt_run]
        cases CompileUnit.splice source more e.config.privateModule e.config.strictHeader with
        | error x => rfl
        | ok unit =>
          dsimp only
          rw [bind_of_ok (enter_run _ _), onBench_run]

/-- **What the flow of a batch comes to**: it prepares the workspace, reads the module, refuses a name that comes
twice, and checks the batch. -/
theorem validateBatch_fst (e : Engine σ) (ref : ModuleRef) (batch : List Candidate) (st : EngineState σ) :
    (e.validateBatch ref batch st).1 =
      match e.provision false st with
      | (.error x, _) => .error x
      | (.ok w, st') =>
        match (e.readModule ref st'.bench.disk).1, Candidate.checkUnique batch with
        | .error x, _ => .error x
        | .ok _, .error x => .error x
        | .ok source, .ok () => ((e.isolation w).validateBatch source batch st'.bench).1 := by
  rw [validateBatch, bind_run]
  rcases e.provision false st with ⟨result, st₁⟩
  cases result with
  | error x => rfl
  | ok w =>
    dsimp only
    rw [bind_finish_fst, orIdle_fst, bind_run, readModule_run]
    cases (e.readModule ref st₁.bench.disk).1 with
    | error x => rfl
    | ok source =>
      dsimp only
      rw [bind_of_ok (enter_run _ _), bind_run, attempt_run]
      cases Candidate.checkUnique batch <;> rfl

/-- Where a batch is not stopped before, it comes to the check of its units. -/
theorem validateBatch_of_ok {e : Engine σ} {ref : ModuleRef} {batch : List Candidate} {st st' : EngineState σ}
    {w : Workspace} {source : ModuleSource} (hprovision : e.provision false st = (.ok w, st'))
    (hread : (e.readModule ref st'.bench.disk).1 = .ok source) (hunique : Candidate.checkUnique batch = .ok ()) :
    (e.validateBatch ref batch st).1 = ((e.isolation w).validateBatch source batch st'.bench).1 := by
  rw [validateBatch_fst, hprovision]
  dsimp only
  rw [hread, hunique]

end ElmAssay.Engine
