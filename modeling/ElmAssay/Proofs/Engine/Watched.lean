import ElmAssay.Proofs.Engine.Flows

/-!
# Watching an oracle

A watched oracle does what it did, and notes the disk at each check (`Oracle.watched`). An engine with a watched oracle
runs like the engine itself (`forget_after`, `answer_watched`), so what was noted are the disks at the checks of that run
(`Engine.checks`).
-/

namespace ElmAssay

open Effect

variable {σ α : Type}

/-! ## Watched oracles -/

namespace Bench

/-- The bench without the notes. -/
def forget (b : Bench (σ × List Disk)) : Bench σ := ⟨b.disk, b.oracle.1⟩

/-- An action that leaves the notes as they are. -/
def aside (act : BenchM σ α) : BenchM (σ × List Disk) α := fun b =>
  let (result, b') := act b.forget
  (result, ⟨b'.disk, (b'.oracle, b.oracle.2)⟩)

/-- An action before which the disk is noted. -/
def noting (act : BenchM σ α) : BenchM (σ × List Disk) α := fun b =>
  aside act ⟨b.disk, (b.oracle.1, b.oracle.2 ++ [b.disk])⟩

theorem mirrors_noting (act : BenchM σ α) : Mirrors forget (noting act) act := fun _ => rfl

theorem mirrors_onDisk (act : DiskM α) : Mirrors (forget (σ := σ)) (onDisk act) (onDisk act) := fun _ => rfl

end Bench

/-- The oracle that notes the disk at each check. -/
def Oracle.watched (o : Oracle σ) : Oracle (σ × List Disk) where
  compile p directory := Bench.noting (o.compile p directory)
  test p directory := Bench.noting (o.test p directory)
  format source := Bench.aside (o.format source)

namespace Engine

/-- The engine with its oracle watched. -/
def watched (e : Engine σ) : Engine (σ × List Disk) := ⟨e.config, e.project, e.manifestPath, e.oracle.watched⟩

/-- The state without the notes. -/
def forget (st : EngineState (σ × List Disk)) : EngineState σ := ⟨st.bench.forget, st.phase, st.entered, st.history⟩

/-- The state with nothing noted. -/
def unnoted (st : EngineState σ) : EngineState (σ × List Disk) :=
  ⟨⟨st.bench.disk, (st.bench.oracle, [])⟩, st.phase, st.entered, st.history⟩

/-- The disks at the checks of a flow, in order. -/
def checks (e : Engine σ) (st : EngineState σ) (f : Flow) : List Disk :=
  (e.watched.after (unnoted st) f).bench.oracle.2

/-! ## Watching changes nothing -/

theorem mirrors_onBench {act' : BenchM (σ × List Disk) α} {act : BenchM σ α} (h : Mirrors Bench.forget act' act) :
    Mirrors forget (onBench act') (onBench act) := by
  intro st
  have hact := h st.bench
  rw [onBench_run, onBench_run]
  show ((act st.bench.forget).1, (⟨(act st.bench.forget).2, st.phase, st.entered, st.history⟩ : EngineState σ)) = _
  rw [hact]
  rfl

theorem mirrors_onDisk (act : DiskM α) : Mirrors (forget (σ := σ)) (onDisk act) (onDisk act) :=
  mirrors_onBench (Bench.mirrors_onDisk act)

theorem mirrors_enter (p : Phase) : Mirrors (forget (σ := σ)) (enter p) (enter p) := fun _ => rfl

theorem mirrors_attempt (result : Except Failure α) : Mirrors (forget (σ := σ)) (attempt result) (attempt result) := by
  intro st
  rw [attempt_run, attempt_run]

theorem mirrors_finish (outcomes : List Outcome) (passed : Bool) :
    Mirrors (forget (σ := σ)) (finish outcomes passed) (finish outcomes passed) := fun _ => rfl

theorem mirrors_orIdle {act' : EngineM (σ × List Disk) α} {act : EngineM σ α} (h : Mirrors forget act' act) :
    Mirrors forget (orIdle act') (orIdle act) := by
  intro st
  have hact := h st
  rcases hrun : act' st with ⟨result, st'⟩
  rw [hrun] at hact
  cases result with
  | ok a => rw [orIdle_of_ok hrun, orIdle_of_ok hact]
  | error x =>
    rw [orIdle_of_error hrun, orIdle_of_error hact]
    rfl

variable (e : Engine σ)

theorem mirrors_provision (standalone : Bool) : Mirrors forget (e.watched.provision standalone) (e.provision standalone) :=
  (mirrors_enter _).bind fun _ =>
    mirrors_orIdle ((mirrors_onDisk _).bind fun _ => (mirrors_onDisk _).bind fun _ => mirrors_pure _)

theorem mirrors_checkUnit (w : Workspace) (u : CompileUnit) :
    Mirrors Bench.forget ((e.watched.isolation w).checkUnit u) ((e.isolation w).checkUnit u) :=
  (Bench.mirrors_onDisk _).bind fun _ => Bench.mirrors_noting _

theorem mirrors_validateFrom (w : Workspace) (source : ModuleSource) (batch : List Candidate) :
    ∀ (rest : List Candidate) (focus : Nat),
      Mirrors Bench.forget ((e.watched.isolation w).validateFrom source batch focus rest)
        ((e.isolation w).validateFrom source batch focus rest)
  | [], _ => mirrors_pure _
  | c :: rest, focus => by
    rw [Isolation.validateFrom, Isolation.validateFrom]
    have hsame : (e.watched.isolation w).buildUnit source focus batch = (e.isolation w).buildUnit source focus batch := rfl
    rw [hsame]
    cases (e.isolation w).buildUnit source focus batch with
    | error x => exact mirrors_throw x
    | ok u =>
      exact (mirrors_checkUnit e w u).bind fun _ =>
        (mirrors_validateFrom w source batch rest (focus + 1)).bind fun _ => mirrors_pure _

theorem mirrors_validateBatch (w : Workspace) (source : ModuleSource) (batch : List Candidate) :
    Mirrors Bench.forget ((e.watched.isolation w).validateBatch source batch)
      ((e.isolation w).validateBatch source batch) := by
  rw [Isolation.validateBatch, Isolation.validateBatch]
  cases Candidate.checkUnique batch with
  | error x => exact mirrors_throw x
  | ok _ => exact (mirrors_validateFrom e w source batch batch 0).bind fun _ => mirrors_pure _

/-- Preparing, working and finishing go the same way if the work does. -/
theorem mirrors_check (standalone : Bool) {act' : Workspace → EngineM (σ × List Disk) α} {act : Workspace → EngineM σ α}
    (h : ∀ w, Mirrors forget (act' w) (act w)) (outcomes : α → List Outcome) (passed : α → Bool) :
    Mirrors forget
      (do
        let w ← e.watched.provision standalone
        let a ← orIdle (act' w)
        finish (outcomes a) (passed a)
        return a)
      (do
        let w ← e.provision standalone
        let a ← orIdle (act w)
        finish (outcomes a) (passed a)
        return a) :=
  (mirrors_provision e standalone).bind fun w => (mirrors_orIdle (h w)).bind fun _ => (mirrors_finish _ _).bind fun _ =>
    mirrors_pure _

theorem mirrors_compileCheck (ref : ModuleRef) (material : Material) :
    Mirrors forget (e.watched.compileCheck ref material) (e.compileCheck ref material) :=
  mirrors_check e false
    (fun w => (mirrors_onDisk _).bind fun _ => (mirrors_enter _).bind fun _ => (mirrors_attempt _).bind fun _ =>
      (mirrors_attempt _).bind fun _ => (mirrors_enter _).bind fun _ => mirrors_onBench (mirrors_checkUnit e w _))
    (fun o => [o]) Outcome.passed

theorem mirrors_batchCheck (ref : ModuleRef) (batch : List Candidate) :
    Mirrors forget (e.watched.validateBatch ref batch) (e.validateBatch ref batch) :=
  mirrors_check e false
    (fun w => (mirrors_onDisk _).bind fun _ => (mirrors_enter _).bind fun _ => (mirrors_attempt _).bind fun _ =>
      (mirrors_enter _).bind fun _ => mirrors_onBench (mirrors_validateBatch e w _ _))
    (fun r => r.verdicts.map Verdict.outcome) BatchResult.allPassed

theorem mirrors_checkDecoder (t : DecoderTest) (standalone : Bool) :
    Mirrors forget (e.watched.checkDecoder t standalone) (e.checkDecoder t standalone) :=
  mirrors_check e standalone
    (fun _ => (mirrors_enter _).bind fun _ => (mirrors_onDisk _).bind fun _ => (mirrors_enter _).bind fun _ =>
      mirrors_onBench (Bench.mirrors_noting _))
    (fun o => [o]) Outcome.passed

/-- **A flow of an engine with a watched oracle is the flow of the engine.** -/
theorem forget_after (st : EngineState (σ × List Disk)) (f : Flow) :
    forget (e.watched.after st f) = e.after (forget st) f := by
  symm
  cases f with
  | provision standalone => exact congrArg Prod.snd (mirrors_provision e standalone st)
  | compileCheck ref material => exact congrArg Prod.snd (mirrors_compileCheck e ref material st)
  | validateBatch ref batch => exact congrArg Prod.snd (mirrors_batchCheck e ref batch st)
  | checkDecoder t standalone => exact congrArg Prod.snd (mirrors_checkDecoder e t standalone st)

/-- **It answers what the flow of the engine does.** -/
theorem answer_watched (st : EngineState (σ × List Disk)) (f : Flow) :
    e.watched.answer st f = e.answer (forget st) f := by
  symm
  cases f with
  | provision standalone => exact congrArg (Except.map _ ·.1) (mirrors_provision e standalone st)
  | compileCheck ref material => exact congrArg (Except.map _ ·.1) (mirrors_compileCheck e ref material st)
  | validateBatch ref batch => exact congrArg (Except.map _ ·.1) (mirrors_batchCheck e ref batch st)
  | checkDecoder t standalone => exact congrArg (Except.map _ ·.1) (mirrors_checkDecoder e t standalone st)

end Engine
end ElmAssay
