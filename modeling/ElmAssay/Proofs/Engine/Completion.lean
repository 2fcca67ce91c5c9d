import ElmAssay.Proofs.Engine.Manifest
import ElmAssay.Proofs.Engine.Work

/-!
# Checks that are given up, and checks that are carried out

What can fail in a check fails before the first question to the oracle: whether a unit can be built and where it goes does
not depend on the candidate that it is for. So with an oracle that answers about every file it can read
(`Oracle.AnswersReadable`) and a file of the module that can be written, a check that fails asked nothing and wrote no
file of a module (`Engine.GivenUp`), and one that returns asked about each unit once (`givenUp_or_carriedOut`).
-/

namespace ElmAssay

open Effect

variable {σ : Type}

/-- An oracle that answers about every file that can be read. One that always answers is such an oracle, and so is a mock
oracle. -/
structure Oracle.AnswersReadable (o : Oracle σ) : Prop where
  compile : ∀ (p directory : Path) (b : Bench σ), p.isAbsolute = true → (b.disk.readText p).isOk = true →
    (o.compile p directory b).1.isOk = true
  test : ∀ (p directory : Path) (b : Bench σ), p.isAbsolute = true → (b.disk.readText p).isOk = true →
    (o.test p directory b).1.isOk = true

theorem Effect.exists_of_isOk {ε α : Type} {result : Except ε α} (h : result.isOk = true) : ∃ a, result = .ok a := by
  cases result with
  | error x => cases h
  | ok a => exact ⟨a, rfl⟩

theorem Mock.answersReadable (m : Mock) : m.oracle.AnswersReadable := by
  have hcheck (request : Mock.Request) (p directory : Path) (b : Bench Mock.Log) (hp : p.isAbsolute = true)
      (hread : (b.disk.readText p).isOk = true) : (m.check request p directory b).1.isOk = true := by
    obtain ⟨text, htext⟩ := exists_of_isOk hread
    obtain ⟨o, ho, -⟩ := m.answer_eq_ok text (Mock.command request p)
    rw [m.check_run (by rw [Path.join_of_isAbsolute _ hp]; exact htext) (by rw [Path.join_of_isAbsolute _ hp]; exact ho)]
    rfl
  exact ⟨hcheck .compile, hcheck .test⟩

namespace Engine

variable {e : Engine σ} {w : Workspace} {b : Bench (σ × List Disk)}

/-! ## One question -/

/-- A question that is answered without a change of the disk notes the disk. -/
theorem noting_run (act : BenchM σ Outcome) (hok : (act b.forget).1.isOk = true)
    (hdisk : (act b.forget).2.disk = b.disk) :
    ∃ o s, Bench.noting act b = (.ok o, ⟨b.disk, (s, b.oracle.2 ++ [b.disk])⟩) := by
  obtain ⟨o, ho⟩ := exists_of_isOk hok
  refine ⟨o, (act b.forget).2.oracle, ?_⟩
  show ((act b.forget).1, (⟨(act b.forget).2.disk, ((act b.forget).2.oracle, b.oracle.2 ++ [b.disk])⟩ : Bench _)) = _
  rw [ho, hdisk]

/-- What is known of the oracle and the workspace of an engine whose checks are carried out. -/
structure IsAnswered (e : Engine σ) (w : Workspace) : Prop where
  answers : e.oracle.AnswersReadable
  keeps : e.oracle.KeepsDisk
  rooted : w.root.isAbsolute = true

/-- **A unit that can be written is written and asked about once.** -/
theorem checkUnit_watched (h : e.IsAnswered w) {u : CompileUnit}
    (hbelow : (((e.isolation w).unitPath u).below? w.root).isSome = true)
    (hwrite : b.disk.CanWrite ((e.isolation w).unitPath u)) :
    ∃ o d s, (e.watched.isolation w).checkUnit u b = (.ok o, ⟨d, (s, b.oracle.2 ++ [d])⟩) ∧
      d.CanWrite ((e.isolation w).unitPath u) := by
  obtain ⟨changed, d, hd, hagain, hread⟩ := hwrite.write u.text
  have habsolute : ((e.isolation w).unitPath u).isAbsolute = true := Path.isAbsolute_join _ h.rooted
  have hreadable : (d.readText ((e.isolation w).unitPath u)).isOk = true := by rw [hread]; rfl
  obtain ⟨o, s, ho⟩ := noting_run (b := ⟨d, b.oracle⟩) (e.oracle.compile ((e.isolation w).unitPath u) w.root)
    (h.answers.compile _ _ _ habsolute hreadable) (h.keeps.compile _ _ _)
  refine ⟨o, d, s, ?_, hagain⟩
  rw [Isolation.checkUnit]
  exact (bind_of_ok (Bench.onDisk_run (Workspace.writeBelow_run hbelow hd))).trans ho

/-- **A run over candidates whose units can be written asks once for each of them.** -/
theorem validateFrom_watched (h : e.IsAnswered w) {source : ModuleSource} {batch : List Candidate}
    (hbuild : ∀ focus, ∃ u, (e.isolation w).buildUnit source focus batch = .ok u ∧
      u.moduleName = e.config.privateModule)
    (hbelow : ((e.isolation w).unitsFile.below? w.root).isSome = true) :
    ∀ (rest : List Candidate) (focus : Nat) (b : Bench (σ × List Disk)), b.disk.CanWrite (e.isolation w).unitsFile →
      ∃ verdicts b', (e.watched.isolation w).validateFrom source batch focus rest b = (.ok verdicts, b') ∧
        b'.oracle.2.length = b.oracle.2.length + rest.length
  | [], focus, b, _ => ⟨[], b, rfl, rfl⟩
  | c :: rest, focus, b, hb => by
    obtain ⟨u, hu, hname⟩ := hbuild focus
    have hfile : (e.isolation w).unitPath u = (e.isolation w).unitsFile := (e.isolation w).unitPath_of_name hname
    obtain ⟨o, d, s, hcheck, hagain⟩ := checkUnit_watched (b := b) h (hfile ▸ hbelow) (hfile ▸ hb)
    obtain ⟨verdicts, b', hrest, hcount⟩ :=
      validateFrom_watched h hbuild hbelow rest (focus + 1) ⟨d, (s, b.oracle.2 ++ [d])⟩ (hfile ▸ hagain)
    have hu' : (e.watched.isolation w).buildUnit source focus batch = .ok u := hu
    refine ⟨⟨c.name, o⟩ :: verdicts, b', ?_, ?_⟩
    · rw [Isolation.validateFrom, hu']
      dsimp only
      rw [bind_of_ok hcheck, bind_of_ok hrest, pure_run]
    · rw [hcount, List.length_append, List.length_singleton, List.length_cons]
      omega

/-! ## All or nothing -/

/-- From a bench, an action that fails changes nothing, and one that returns has asked so many questions. -/
structure AllOrNothing {α : Type} (act : BenchM (σ × List Disk) α) (b : Bench (σ × List Disk)) (n : Nat) : Prop where
  failed : ∀ x b', act b = (.error x, b') → b' = b
  returned : ∀ a b', act b = (.ok a, b') → b'.oracle.2.length = b.oracle.2.length + n

namespace AllOrNothing

variable {α β : Type} {act : BenchM (σ × List Disk) α} {n : Nat}

theorem of_error {x : Failure} (h : act b = (.error x, b)) : AllOrNothing act b n where
  failed _ _ h' := by cases h.symm.trans h'; rfl
  returned _ _ h' := by cases h.symm.trans h'

theorem of_ok {a : α} {b' : Bench (σ × List Disk)} (h : act b = (.ok a, b'))
    (hcount : b'.oracle.2.length = b.oracle.2.length + n) : AllOrNothing act b n where
  failed _ _ h' := by cases h.symm.trans h'
  returned _ _ h' := by cases h.symm.trans h'; exact hcount

/-- What comes after a step that changes nothing. -/
theorem after {next : α → BenchM (σ × List Disk) β} {result : Except Failure α} (h : act b = (result, b))
    (hnext : ∀ a, result = .ok a → AllOrNothing (next a) b n) : AllOrNothing (act >>= next) b n := by
  cases result with
  | error x => exact of_error (bind_of_error h)
  | ok a =>
    have hrun : (act >>= next) b = next a b := bind_of_ok h
    exact ⟨fun x b' h' => (hnext a rfl).failed x b' (hrun ▸ h'), fun c b' h' => (hnext a rfl).returned c b' (hrun ▸ h')⟩

/-- What comes of the result changes nothing. -/
theorem map (h : AllOrNothing act b n) (g : α → β) : AllOrNothing (do let a ← act; return g a) b n := by
  rcases hrun : act b with ⟨result, b'⟩
  cases result with
  | error x =>
    obtain rfl := h.failed x b' hrun
    exact of_error (bind_of_error hrun)
  | ok a => exact of_ok (bind_of_ok hrun) (h.returned a b' hrun)

end AllOrNothing

theorem allOrNothing_checkUnit (h : e.IsAnswered w) (u : CompileUnit)
    (hwrite : (((e.isolation w).unitPath u).below? w.root).isSome = true → b.disk.CanWrite ((e.isolation w).unitPath u)) :
    AllOrNothing ((e.watched.isolation w).checkUnit u) b 1 := by
  cases hbelow : ((e.isolation w).unitPath u).below? w.root with
  | none => exact .of_error (bind_of_error (writeBelow_of_none u.text hbelow b))
  | some q =>
    have hsome : (((e.isolation w).unitPath u).below? w.root).isSome = true := by rw [hbelow]; rfl
    obtain ⟨o, d, s, hrun, -⟩ := checkUnit_watched h hsome (hwrite hsome)
    refine .of_ok hrun ?_
    rw [List.length_append, List.length_singleton]

/-- If the first unit of a batch is written, so is every other. -/
theorem allOrNothing_validateBatch (h : e.IsAnswered w) (source : ModuleSource) (batch : List Candidate)
    (hwrite : ((e.isolation w).unitsFile.below? w.root).isSome = true → b.disk.CanWrite (e.isolation w).unitsFile) :
    AllOrNothing ((e.watched.isolation w).validateBatch source batch) b batch.length := by
  rw [Isolation.validateBatch]
  cases Candidate.checkUnique batch with
  | error x => exact .of_error rfl
  | ok _ =>
    refine AllOrNothing.map ?_ _
    cases batch with
    | nil => exact .of_ok (pure_run _ _) rfl
    | cons c rest =>
      rcases CompileUnit.splice_cases source e.config.privateModule e.config.strictHeader with hok | ⟨-, herr⟩
      · have hbuild (focus : Nat) : ∃ u, (e.isolation w).buildUnit source focus (c :: rest) = .ok u ∧
            u.moduleName = e.config.privateModule := hok _
        cases hbelow : (e.isolation w).unitsFile.below? w.root with
        | none =>
          obtain ⟨u, hu, hname⟩ := hbuild 0
          have hfile : ((e.isolation w).unitPath u).below? w.root = none := by
            rw [(e.isolation w).unitPath_of_name hname]
            exact hbelow
          have hu' : (e.watched.isolation w).buildUnit source 0 (c :: rest) = .ok u := hu
          rw [Isolation.validateFrom, hu']
          exact .of_error (bind_of_error (bind_of_error (writeBelow_of_none u.text hfile b)))
        | some q =>
          have hsome : ((e.isolation w).unitsFile.below? w.root).isSome = true := by rw [hbelow]; rfl
          obtain ⟨verdicts, b', hrun, hcount⟩ := validateFrom_watched h hbuild hsome (c :: rest) 0 b (hwrite hsome)
          exact .of_ok hrun hcount
      · have hbuild (focus : Nat) : (e.watched.isolation w).buildUnit source focus (c :: rest) =
            .error (.noHeader source.path) := herr _
        exact .of_error (Isolation.validateFrom_of_error hbuild 0 c rest b)

theorem allOrNothing_checkDecoder (h : e.IsAnswered w) (t : DecoderTest)
    (hwrite : ∀ p, t.path w = .ok p → (p.below? w.root).isSome = true → b.disk.CanWrite p) :
    AllOrNothing (do let p ← Bench.onDisk (t.build w); e.watched.oracle.test p w.root) b 1 := by
  cases hpath : t.path w with
  | error x =>
    have hbuild : t.build w b.disk = (.error x, b.disk) := by rw [t.build_run, hpath]
    exact .of_error (bind_of_error (Bench.onDisk_run hbuild))
  | ok p =>
    cases hbelow : p.below? w.root with
    | none =>
      have hbuild : t.build w b.disk = (.error (.outside p w.root), b.disk) := by
        rw [t.build_run, hpath]
        dsimp only
        rw [Workspace.writeBelow_eq, hbelow]
      exact .of_error (bind_of_error (Bench.onDisk_run hbuild))
    | some q =>
      have hsome : (p.below? w.root).isSome = true := by rw [hbelow]; rfl
      obtain ⟨changed, d, hd, -, hread⟩ := (hwrite p hpath hsome).write t.source
      have hbuild : t.build w b.disk = (.ok p, d) := by
        rw [t.build_run, hpath]
        dsimp only
        rw [Workspace.writeBelow_run hsome hd]
      have habsolute : p.isAbsolute = true := by
        obtain ⟨q, rfl, -⟩ := DecoderTest.path_eq_ok hpath
        exact Path.isAbsolute_join _ h.rooted
      have hreadable : (d.readText p).isOk = true := by rw [hread]; rfl
      obtain ⟨o, s, ho⟩ := noting_run (b := ⟨d, b.oracle⟩) (e.oracle.test p w.root)
        (h.answers.test _ _ _ habsolute hreadable) (h.keeps.test _ _ _)
      refine .of_ok ((bind_of_ok (Bench.onDisk_run hbuild)).trans ho) ?_
      rw [List.length_append, List.length_singleton]

/-! ## The work of a flow -/

/-- How many questions a flow asks that is carried out. -/
def Flow.questions : Flow → Nat
  | .provision _ => 0
  | .compileCheck _ _ => 1
  | .validateBatch _ batch => batch.length
  | .checkDecoder _ _ => 1

theorem allOrNothing_work (h : e.IsAnswered w) (f : Flow)
    (hwrite : ∀ p, e.target? w f = some p → (p.below? w.root).isSome = true → b.disk.CanWrite p) :
    AllOrNothing (e.watched.work w f) b f.questions := by
  cases f with
  | provision standalone => exact .of_ok (pure_run _ _) rfl
  | compileCheck ref material =>
    refine .after (e.watched.bench_readModule ref b) fun source _ => .after (lift_run _ b) fun more _ =>
      .after (lift_run _ b) fun u hunit => ?_
    have hname : u.moduleName = e.config.privateModule := CompileUnit.moduleName_of_splice hunit
    have hfile : e.target? w (.compileCheck ref material) = some ((e.isolation w).unitPath u) := by
      rw [(e.isolation w).unitPath_of_name hname]
      rfl
    exact (allOrNothing_checkUnit h u fun hbelow => hwrite _ hfile hbelow).map _
  | validateBatch ref batch =>
    refine .after (e.watched.bench_readModule ref b) fun source _ => .after (lift_run _ b) fun _ _ => ?_
    exact (allOrNothing_validateBatch h source batch fun hbelow => hwrite _ rfl hbelow).map _
  | checkDecoder t standalone =>
    have htest := (allOrNothing_checkDecoder (b := b) h t fun p hp hbelow =>
      hwrite p (by rw [target?, hp]; rfl) hbelow).map Answer.outcome
    simp only [bind_assoc] at htest
    exact htest

/-! ## Flows -/

/-- A flow gave up before its first question: nothing was done but to prepare the workspace, and the file of the module that
it is about was not written. -/
structure GivenUp (e : Engine σ) (st : EngineState σ) (f : Flow) : Prop where
  unasked : e.checks st f = []
  bench : (e.after st f).bench = ⟨(e.prepare f.standalone st.bench.disk).2, st.bench.oracle⟩
  unwritten : ∀ w p, e.workspace st.bench.disk = .ok w → e.target? w f = some p →
    (e.after st f).bench.disk.writes.count p = st.bench.disk.writes.count p

/-- Preparing writes no file of a module. -/
theorem count_writes_prepare {standalone : Bool} {f : Flow} {d : Disk} {p : Path} (hw : e.workspace d = .ok w)
    (hp : e.target? w f = some p) : (e.prepare standalone d).2.writes.count p = d.writes.count p := by
  rcases hrun : e.prepare standalone d with ⟨result, d'⟩
  rcases prepare_changes hrun with hgrown | ⟨w', d₁, directory, text, hw', hgrown, -, rfl⟩
  · rw [hgrown.writes]
  · cases hw.symm.trans hw'
    obtain ⟨directory', q, -, -, hq, rfl⟩ := target?_eq_some hp
    obtain ⟨front, name, hends⟩ := hq.join (w.root.child directory')
    have hne : w.manifestPath ≠ w.root.child directory' / q := by
      intro he
      have hname := congrArg Path.name he
      rw [Workspace.name_manifestPath, Path.name, hends, List.getLastD_concat] at hname
      exact Path.append_moduleEnding_ne name hname.symm
    rw [(Disk.written_afterWrite d₁ w.manifestPath directory text).writes, List.count_append, hgrown.writes]
    simp [hne]

/-- **A flow is given up before its first question, or everything is asked once**: with an oracle that answers about what it
can read and changes no file, where the file of the module can be written. -/
theorem givenUp_or_carriedOut (hanswers : e.oracle.AnswersReadable) (hkeeps : e.oracle.KeepsDisk) (st : EngineState σ)
    (f : Flow)
    (hwrite : ∀ w d, e.prepare f.standalone st.bench.disk = (.ok w, d) → ∀ p, e.target? w f = some p →
      (p.below? w.root).isSome = true → d.CanWrite p) :
    ((e.answer st f).isOk = false → e.GivenUp st f) ∧
      ((e.answer st f).isOk = true → (e.checks st f).length = f.questions) := by
  have hanswer : e.watched.answer (unnoted st) f = e.answer st f := answer_watched e (unnoted st) f
  have hafter : (e.watched.after (unnoted st) f).bench.forget = (e.after st f).bench :=
    congrArg EngineState.bench (forget_after e (unnoted st) f)
  have hrun := e.watched.run_eq f (unnoted st)
  rw [hanswer, run, bind_run] at hrun
  have hprepare : Bench.onDisk (e.watched.prepare f.standalone) (unnoted st).bench =
      ((e.prepare f.standalone st.bench.disk).1, ⟨(e.prepare f.standalone st.bench.disk).2, (st.bench.oracle, [])⟩) := rfl
  rw [hprepare] at hrun
  -- what is known once the bench of the watched engine is known to be the one that preparing left
  have hgivenUp (h : (e.watched.after (unnoted st) f).bench =
      ⟨(e.prepare f.standalone st.bench.disk).2, (st.bench.oracle, [])⟩) : e.GivenUp st f := by
    have hbench : (e.after st f).bench = ⟨(e.prepare f.standalone st.bench.disk).2, st.bench.oracle⟩ := by
      rw [← hafter, h]
      rfl
    refine ⟨by rw [checks, h], hbench, fun w p hw hp => ?_⟩
    rw [hbench]
    exact count_writes_prepare hw hp
  rcases hp : e.prepare f.standalone st.bench.disk with ⟨result, d⟩
  rw [hp] at hrun hgivenUp
  cases result with
  | error x =>
    obtain ⟨hx, hbench⟩ := Prod.mk.inj hrun
    refine ⟨fun _ => hgivenUp hbench.symm, fun hok => ?_⟩
    rw [← hx] at hok
    cases hok
  | ok w =>
    have hwork := allOrNothing_work (b := ⟨d, (st.bench.oracle, [])⟩) ⟨hanswers, hkeeps, isAbsolute_of_prepare hp⟩ f
      (hwrite w d hp)
    refine ⟨fun hfailed => ?_, fun hok => ?_⟩
    · cases hresult : e.answer st f with
      | ok a => rw [hresult] at hfailed; cases hfailed
      | error x => exact hgivenUp (hwork.failed x _ (by rw [← hresult]; exact hrun))
    · obtain ⟨a, ha⟩ := exists_of_isOk hok
      have hcount := hwork.returned a _ (by rw [← ha]; exact hrun)
      rw [List.length_nil, Nat.zero_add] at hcount
      exact hcount

/-! ## A batch that is carried out, and a check that is given up -/

open Isolation

/-- A module of the project. -/
def sampleModule : ModuleRef := .source ⟨"module Main exposing (main)\n", none⟩

/-- Two candidates for it. -/
def sampleCandidates : List Candidate := [⟨"one", "Int", "1", by decide⟩, ⟨"two", "Int", "one + 1", by decide⟩]

/-- How the units of the two are checked. -/
def sampleIsolation : Isolation Mock.Log := ⟨Mock.oracle {}, sampleWorkspace, CompileUnit.defaultName, true⟩

/-- A batch of the two. -/
def sampleBatch : Flow := .validateBatch sampleModule sampleCandidates

/-- A check of a module without a header. -/
def headlessFlow : Flow := .compileCheck (.source ⟨"main = 1\n", none⟩) (.text "")

/-- What these flows write in the project can be written. -/
theorem canWrite_sample {f : Flow} (hf : f.standalone = false)
    (htarget : ∀ p, (sampleEngine {}).target? sampleWorkspace f = some p → p = sampleFile) {w : Workspace} {d : Disk}
    (hprepare : (sampleEngine {}).prepare f.standalone sampleDisk = (.ok w, d)) {p : Path}
    (hp : (sampleEngine {}).target? w f = some p) : d.CanWrite p := by
  rw [hf, isPrepared_sampleDisk.prepare {}] at hprepare
  cases hprepare
  rw [htarget p hp]
  exact plainSite_sampleDisk.canWrite

theorem isOk_sampleBatch : ((sampleEngine {}).answer (fresh sampleDisk) sampleBatch).isOk = true := by
  have hbuild (focus : Nat) : ∃ u,
      sampleIsolation.buildUnit ⟨"module Main exposing (main)\n", none⟩ focus sampleCandidates = .ok u ∧
        u.moduleName = sampleIsolation.moduleName :=
    CompileUnit.splice_eq_ok (.inl (by decide +kernel)) _ _
  obtain ⟨verdicts, calls, d', -, hrun⟩ := validateBatch_run (m := {}) ⟨rfl, rfl⟩ hbuild (by decide)
    (b := ⟨sampleDisk, []⟩) (canWriteUnits_sampleDisk {} true)
  rw [sampleBatch, answer, sampleModule, validateBatch_of_ok (provision_fresh (isPrepared_sampleDisk.prepare {})) rfl rfl]
  exact congrArg (fun r => (r.1.map Answer.batch).isOk) hrun

theorem isOk_headlessFlow : ((sampleEngine {}).answer (fresh sampleDisk) headlessFlow).isOk = false := by
  rw [headlessFlow, answer, compileCheck_fst, provision_fresh (isPrepared_sampleDisk.prepare {})]
  decide +kernel

/-- In the project each of two candidates is asked about once, and the module without a header is not asked about. -/
theorem givenUp_or_carriedOut_sample :
    let e := sampleEngine {}
    let st := fresh sampleDisk
    (∀ f ∈ [sampleBatch, headlessFlow], ∀ w d, e.prepare f.standalone sampleDisk = (.ok w, d) →
      ∀ p, e.target? w f = some p → (p.below? w.root).isSome = true → d.CanWrite p) ∧
      ((e.answer st sampleBatch).isOk = true ∧ (e.checks st sampleBatch).length = 2) ∧
      (e.answer st headlessFlow).isOk = false ∧ e.GivenUp st headlessFlow := by
  have hfile : (sampleEngine {}).target? sampleWorkspace sampleBatch = some sampleFile := by decide +kernel
  have hwrite : ∀ f ∈ [sampleBatch, headlessFlow], ∀ w d, (sampleEngine {}).prepare f.standalone sampleDisk = (.ok w, d) →
      ∀ p, (sampleEngine {}).target? w f = some p → (p.below? w.root).isSome = true → d.CanWrite p := by
    intro f hf w d hprepare p hp _
    rcases List.mem_cons.1 hf with rfl | hf
    · exact canWrite_sample rfl (fun p hp => Option.some.inj (hp.symm.trans hfile)) hprepare hp
    · obtain rfl := List.mem_singleton.1 hf
      exact canWrite_sample rfl (fun p hp => Option.some.inj (hp.symm.trans hfile)) hprepare hp
  have hanswers : (sampleEngine {}).oracle.AnswersReadable := Mock.answersReadable {}
  have hkeeps : (sampleEngine {}).oracle.KeepsDisk := Mock.keepsDisk {}
  have hbatch := (givenUp_or_carriedOut hanswers hkeeps (fresh sampleDisk) sampleBatch
    (hwrite _ List.mem_cons_self)).2 isOk_sampleBatch
  have hheadless := (givenUp_or_carriedOut hanswers hkeeps (fresh sampleDisk) headlessFlow
    (hwrite _ (List.mem_cons_of_mem _ List.mem_cons_self))).1 isOk_headlessFlow
  exact ⟨hwrite, ⟨isOk_sampleBatch, hbatch⟩, isOk_headlessFlow, hheadless⟩

end Engine
end ElmAssay
