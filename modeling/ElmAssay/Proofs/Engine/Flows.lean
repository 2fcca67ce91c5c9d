import ElmAssay.Proofs.Engine
import ElmAssay.Proofs.Manifest.InForce

/-!
# What all flows of an engine have in common

Each flow (`Engine.Flow`) prepares the workspace and its manifest first (`Engine.prepare`, `provision_run`). If that fails,
nothing else happens (`after_of_error`); after it, a flow does nothing to the bench but write files of modules into the
workspace and ask the oracle, so it keeps what these keep (`keeps_after`).
-/

namespace ElmAssay.Engine

open Effect

variable {σ α : Type}

/-- What can be asked of an engine that prepares its workspace. -/
inductive Flow
  | provision (standalone : Bool)
  | compileCheck (m : ModuleRef) (material : Material)
  | validateBatch (m : ModuleRef) (batch : List Candidate)
  | checkDecoder (t : DecoderTest) (standalone : Bool)

/-- Whether a flow goes with the manifest that does not depend on the project. -/
def Flow.standalone : Flow → Bool
  | .provision standalone => standalone
  | .compileCheck _ _ => false
  | .validateBatch _ _ => false
  | .checkDecoder _ standalone => standalone

/-- The state after a flow, whether it succeeded or failed. -/
def after (e : Engine σ) (st : EngineState σ) : Flow → EngineState σ
  | .provision standalone => (e.provision standalone st).2
  | .compileCheck m material => (e.compileCheck m material st).2
  | .validateBatch m batch => (e.validateBatch m batch st).2
  | .checkDecoder t standalone => (e.checkDecoder t standalone st).2

/-- What a flow gives. -/
inductive Answer
  | workspace (w : Workspace)
  | outcome (o : Outcome)
  | batch (r : BatchResult)
  deriving DecidableEq

/-- What a flow answers, or why it fails. -/
def answer (e : Engine σ) (st : EngineState σ) : Flow → Except Failure Answer
  | .provision standalone => (e.provision standalone st).1.map .workspace
  | .compileCheck m material => (e.compileCheck m material st).1.map .outcome
  | .validateBatch m batch => (e.validateBatch m batch st).1.map .batch
  | .checkDecoder t standalone => (e.checkDecoder t standalone st).1.map .outcome

/-- The file that a flow reads its module from. -/
def Flow.source? : Flow → Option Path
  | .compileCheck (.path p) _ => some p
  | .validateBatch (.path p) _ => some p
  | _ => none

/-- The file of a module that a flow is to write. -/
def target? (e : Engine σ) (w : Workspace) : Flow → Option Path
  | .provision _ => none
  | .compileCheck _ _ => some ((e.isolation w).unitPath ⟨e.config.privateModule, "", false⟩)
  | .validateBatch _ _ => some ((e.isolation w).unitPath ⟨e.config.privateModule, "", false⟩)
  | .checkDecoder t _ => (t.path w).toOption

/-- The files that flows write are files of modules. -/
theorem target?_eq_some {e : Engine σ} {f : Flow} {w : Workspace} {p : Path} (h : e.target? w f = some p) :
    ∃ directory q, Path.IsProper directory ∧ directory ≠ Workspace.manifestName ∧ q.IsModuleFile ∧
      p = w.root.child directory / q := by
  have hunit : ∃ directory q, Path.IsProper directory ∧ directory ≠ Workspace.manifestName ∧ q.IsModuleFile ∧
      (e.isolation w).unitPath ⟨e.config.privateModule, "", false⟩ = w.root.child directory / q :=
    ⟨Workspace.privateName, _, by decide, by decide, CompileUnit.isModuleFile_path _, rfl⟩
  cases f with
  | provision standalone => cases h
  | compileCheck m material => cases h; exact hunit
  | validateBatch m batch => cases h; exact hunit
  | checkDecoder t standalone =>
    rw [target?] at h
    cases hpath : t.path w with
    | error x => rw [hpath] at h; cases h
    | ok p' =>
      rw [hpath] at h
      cases h
      obtain ⟨q, rfl, hq⟩ := DecoderTest.path_eq_ok hpath
      exact ⟨"tests", q, by decide, by decide, hq, rfl⟩

/-! ## Preparing -/

/-- The workspace of the project of an engine. -/
def workspace (e : Engine σ) (d : Disk) : Except Failure Workspace :=
  (d.resolve e.project).map (Workspace.ofRoot · e.config.workspaceDirectory)

theorem workspace_of_ensure {e : Engine σ} {d d' : Disk} {w : Workspace}
    (h : Workspace.ensure e.project e.config.workspaceDirectory d = (.ok w, d')) : e.workspace d = .ok w := by
  obtain ⟨⟨projectRoot, hresolve, rfl⟩, -⟩ := Workspace.ensure_eq_ok h
  rw [workspace, hresolve]
  rfl

/-- Prepares the workspace and its manifest. -/
def prepare (e : Engine σ) (standalone : Bool) : DiskM Workspace := do
  let w ← Workspace.ensure e.project e.config.workspaceDirectory
  let _ ← (if standalone then w.materializeStandalone else w.materialize e.manifestPath)
  return w

/-- Provisioning is preparing, and entering the phases. -/
theorem provision_run (e : Engine σ) (standalone : Bool) (st : EngineState σ) :
    e.provision standalone st =
      match e.prepare standalone st.bench.disk with
      | (.ok w, d) => (.ok w, ⟨⟨d, st.bench.oracle⟩, .provisioning, st.entered ++ [.provisioning], st.history⟩)
      | (.error x, d) =>
        (.error x, ⟨⟨d, st.bench.oracle⟩, .idle, st.entered ++ [.provisioning] ++ [.idle], st.history⟩) := by
  have hact : (do
      let w ← onDisk (Workspace.ensure e.project e.config.workspaceDirectory)
      let _ ← onDisk (if standalone then w.materializeStandalone else w.materialize e.manifestPath)
      return w : EngineM σ Workspace) = onDisk (e.prepare standalone) := by
    funext s
    rw [bind_run, onDisk, onBench_run, Bench.onDisk, onDisk, onBench_run, Bench.onDisk, prepare, bind_run]
    rcases Workspace.ensure e.project e.config.workspaceDirectory s.bench.disk with ⟨result, d⟩
    cases result with
    | error x => rfl
    | ok w =>
      dsimp only
      rw [bind_run, onDisk, onBench_run, Bench.onDisk, bind_run]
      rcases (if standalone then w.materializeStandalone else w.materialize e.manifestPath) d with ⟨result, d'⟩
      cases result <;> rfl
  rw [provision, hact, bind_of_ok (enter_run _ _)]
  rcases hp : e.prepare standalone st.bench.disk with ⟨result, d⟩
  cases result with
  | ok w =>
    refine orIdle_of_ok ?_
    rw [onDisk, onBench_run, Bench.onDisk, hp]
  | error x =>
    have hfailed : (onDisk (e.prepare standalone) : EngineM σ Workspace)
        ⟨st.bench, .provisioning, st.entered ++ [.provisioning], st.history⟩ =
          (.error x, ⟨⟨d, st.bench.oracle⟩, .provisioning, st.entered ++ [.provisioning], st.history⟩) := by
      rw [onDisk, onBench_run, Bench.onDisk, hp]
    exact orIdle_of_error hfailed

/-- Preparing is making the directories, finding the text of the manifest and writing it. -/
theorem prepare_run (e : Engine σ) (standalone : Bool) (d : Disk) :
    e.prepare standalone d =
      match Workspace.ensure e.project e.config.workspaceDirectory d with
      | (.error x, d₁) => (.error x, d₁)
      | (.ok w, d₁) =>
        match w.manifestText standalone e.manifestPath d₁ with
        | .error x => (.error x, d₁)
        | .ok text =>
          match Disk.writeIfChanged w.manifestPath text d₁ with
          | (.ok _, d₂) => (.ok w, d₂)
          | (.error x, d₂) => (.error x, d₂) := by
  rw [prepare, bind_run]
  rcases Workspace.ensure e.project e.config.workspaceDirectory d with ⟨result, d₁⟩
  cases result with
  | error x => rfl
  | ok w =>
    dsimp only
    rw [bind_run, Workspace.materialize_run]
    cases w.manifestText standalone e.manifestPath d₁ with
    | error x => rfl
    | ok text =>
      dsimp only
      rcases Disk.writeIfChanged w.manifestPath text d₁ with ⟨result, d₂⟩
      cases result <;> rfl

theorem prepare_of_write {e : Engine σ} {standalone changed : Bool} {w : Workspace} {text : String} {d d₁ d' : Disk}
    (hensure : Workspace.ensure e.project e.config.workspaceDirectory d = (.ok w, d₁))
    (htext : w.manifestText standalone e.manifestPath d₁ = .ok text)
    (hwrite : Disk.writeIfChanged w.manifestPath text d₁ = (.ok changed, d')) : e.prepare standalone d = (.ok w, d') := by
  rw [prepare_run, hensure]
  dsimp only
  rw [htext]
  dsimp only
  rw [hwrite]

/-- What preparing does to a disk, also if it fails: it adds directories, and then maybe puts the manifest at its site. -/
theorem prepare_changes {e : Engine σ} {standalone : Bool} {d d' : Disk} {result : Except Failure Workspace}
    (h : e.prepare standalone d = (result, d')) :
    Disk.Grown d d' ∨ ∃ w d₁ directory text, e.workspace d = .ok w ∧ Disk.Grown d d₁ ∧
      d₁.Site w.manifestPath directory ∧ d' = d₁.afterWrite w.manifestPath directory text := by
  have hgrown := Workspace.ensure_grown e.project e.config.workspaceDirectory d
  rw [prepare_run] at h
  rcases hensure : Workspace.ensure e.project e.config.workspaceDirectory d with ⟨ensured, d₁⟩
  rw [hensure] at h hgrown
  cases ensured with
  | error x => cases h; exact .inl hgrown
  | ok w =>
    dsimp only at h hgrown
    cases htext : w.manifestText standalone e.manifestPath d₁ with
    | error x => rw [htext] at h; cases h; exact .inl hgrown
    | ok text =>
      rw [htext] at h
      dsimp only at h
      rcases hwrite : Disk.writeIfChanged w.manifestPath text d₁ with ⟨written, d₂⟩
      rw [hwrite] at h
      obtain rfl : d₂ = d' := by cases written <;> cases h <;> rfl
      rcases Disk.writeIfChanged_changes hwrite with hmore | ⟨d₃, directory, hmore, hsite, rfl⟩
      · exact .inl (hgrown.trans hmore)
      · exact .inr ⟨w, d₃, directory, text, workspace_of_ensure hensure, hgrown.trans hmore, hsite, rfl⟩

/-! ## What a flow keeps -/

section Keeps

variable {J : Bench σ → Prop}

/-- What holds of the bench of an engine. -/
def OnBench (J : Bench σ → Prop) (st : EngineState σ) : Prop := J st.bench

theorem keeps_onBench {act : BenchM σ α} (h : Keeps J act) : Keeps (OnBench J) (onBench act) :=
  fun st hst => h st.bench hst

theorem keeps_enter (p : Phase) : Keeps (OnBench J) (enter p) := fun _ h => h

theorem keeps_attempt (result : Except Failure α) : Keeps (OnBench J) (attempt result) := by
  intro st h
  rw [attempt_run]
  exact h

theorem keeps_orIdle {act : EngineM σ α} (h : Keeps (OnBench J) act) : Keeps (OnBench J) (orIdle act) := by
  intro st hst
  have hact := h st hst
  rcases hrun : act st with ⟨result, st'⟩
  rw [hrun] at hact
  cases result with
  | ok a => rw [orIdle_of_ok hrun]; exact hact
  | error x => rw [orIdle_of_error hrun]; exact hact

theorem keeps_finish (outcomes : List Outcome) (passed : Bool) : Keeps (OnBench J) (finish outcomes passed) :=
  fun _ h => h

/-- Files of modules that are written into a workspace and questions to the oracle keep what holds of a bench. -/
structure Spares (e : Engine σ) (w : Workspace) (J : Bench σ → Prop) : Prop where
  write : ∀ directory (p : Path) text, Path.IsProper directory → p.IsModuleFile →
    Keeps J (Bench.onDisk (w.writeBelow (w.root.child directory / p) text))
  compile : ∀ p, Keeps J (e.oracle.compile p w.root)
  test : ∀ p, Keeps J (e.oracle.test p w.root)

variable {e : Engine σ} {w : Workspace}

theorem Spares.checkUnit (h : e.Spares w J) (u : CompileUnit) : Keeps J ((e.isolation w).checkUnit u) :=
  (h.write _ u.path u.text (by decide) u.isModuleFile_path).bind fun _ => h.compile _

theorem Spares.validateFrom (h : e.Spares w J) (source : ModuleSource) (batch : List Candidate) :
    ∀ (rest : List Candidate) (focus : Nat), Keeps J ((e.isolation w).validateFrom source batch focus rest)
  | [], _ => keeps_pure _
  | c :: rest, focus => by
    rw [Isolation.validateFrom]
    split
    · exact keeps_throw _
    · exact (h.checkUnit _).bind fun _ => (h.validateFrom source batch rest (focus + 1)).bind fun _ => keeps_pure _

theorem Spares.validateBatch (h : e.Spares w J) (source : ModuleSource) (batch : List Candidate) :
    Keeps J ((e.isolation w).validateBatch source batch) := by
  rw [Isolation.validateBatch]
  split
  · exact keeps_throw _
  · exact (h.validateFrom source batch batch 0).bind fun _ => keeps_pure _

theorem Spares.build (h : e.Spares w J) (t : DecoderTest) : Keeps J (Bench.onDisk (t.build w)) := by
  intro b hb
  rw [Bench.onDisk, t.build_run]
  cases hpath : t.path w with
  | error x => exact hb
  | ok p =>
    obtain ⟨q, rfl, hq⟩ := DecoderTest.path_eq_ok hpath
    have hkept := h.write "tests" q t.source (by decide) hq b hb
    rw [Bench.onDisk, show w.root.child "tests" = w.tests from rfl] at hkept
    dsimp only
    rcases hwrite : w.writeBelow (w.tests / q) t.source b.disk with ⟨result, d⟩
    rw [hwrite] at hkept
    cases result <;> exact hkept

theorem Spares.readModule (ref : ModuleRef) : Keeps (OnBench J) (onDisk (e.readModule ref)) := by
  intro st h
  rw [readModule_run]
  exact h

/-- If the workspace cannot be prepared, a flow does nothing else. -/
theorem after_of_error {f : Flow} {st st' : EngineState σ} {x : Failure}
    (h : e.provision f.standalone st = (.error x, st')) : e.after st f = st' := by
  cases f with
  | provision standalone => exact congrArg Prod.snd h
  | compileCheck m material => exact congrArg Prod.snd (bind_of_error h)
  | validateBatch m batch => exact congrArg Prod.snd (bind_of_error h)
  | checkDecoder t standalone => exact congrArg Prod.snd (bind_of_error h)

/-- **After the workspace was prepared, a flow keeps what its writes and its questions keep.** -/
theorem keeps_after {f : Flow} {st st' : EngineState σ} (h : e.provision f.standalone st = (.ok w, st'))
    (hJ : e.Spares w J) (hst : J st'.bench) : J (e.after st f).bench := by
  cases f with
  | provision standalone =>
    have hafter : e.after st (.provision standalone) = st' := congrArg Prod.snd h
    rw [hafter]
    exact hst
  | compileCheck m material =>
    rw [after, compileCheck, bind_of_ok (show e.provision false st = (.ok w, st') from h)]
    refine Keeps.bind (J := OnBench J) (keeps_orIdle ?_) (fun _ => (keeps_finish _ _).bind fun _ => keeps_pure _) st' hst
    exact (Spares.readModule m).bind fun _ => (keeps_enter _).bind fun _ => (keeps_attempt _).bind fun _ =>
      (keeps_attempt _).bind fun _ => (keeps_enter _).bind fun _ => keeps_onBench (hJ.checkUnit _)
  | validateBatch m batch =>
    rw [after, validateBatch, bind_of_ok (show e.provision false st = (.ok w, st') from h)]
    refine Keeps.bind (J := OnBench J) (keeps_orIdle ?_) (fun _ => (keeps_finish _ _).bind fun _ => keeps_pure _) st' hst
    exact (Spares.readModule m).bind fun _ => (keeps_enter _).bind fun _ => (keeps_attempt _).bind fun _ =>
      (keeps_enter _).bind fun _ => keeps_onBench (hJ.validateBatch _ _)
  | checkDecoder t standalone =>
    rw [after, checkDecoder, bind_of_ok (show e.provision standalone st = (.ok w, st') from h)]
    refine Keeps.bind (J := OnBench J) (keeps_orIdle ?_) (fun _ => (keeps_finish _ _).bind fun _ => keeps_pure _) st' hst
    exact (keeps_enter _).bind fun _ => (keeps_onBench (hJ.build t)).bind fun _ => (keeps_enter _).bind fun _ =>
      keeps_onBench (hJ.test _)

end Keeps

/-! ## A project whose workspace is prepared -/

open Isolation

/-- The manifest that is derived for the workspace of the project. -/
def sampleText : String :=
  "\x7b\n    \"type\": \"application\",\n    \"source-directories\": [\n        \"../../src\",\n" ++
    "        \".elm-ai\"\n    ]\n\x7d\n"

/-- An engine of the project. -/
def sampleEngine (m : Mock) : Engine Mock.Log := ⟨{}, sampleWorkspace.projectRoot, sampleManifest, m.oracle⟩

/-- The state of a new engine. -/
def fresh (d : Disk) : EngineState Mock.Log := ⟨⟨d, []⟩, .idle, [], []⟩

/-- A check of the project. -/
def sampleFlow : Flow := .compileCheck (.source ⟨"module Main exposing (main)\n", none⟩) (.text "")

/-- The project and the directories of its workspace are there, and so is the manifest of the project. -/
class IsArranged (d : Disk) : Prop where
  project : d.tree.content? ["project"] = some .directory
  directories : ∀ p ∈ sampleWorkspace.directories, d.isDirectory p = .ok true
  text : sampleWorkspace.manifestText false sampleManifest d = .ok sampleText

/-- The manifest of the workspace is there as well. -/
class IsPrepared (d : Disk) : Prop extends IsArranged d where
  holds : d.holds sampleWorkspace.manifestPath sampleText = .ok true

instance isPrepared_sampleDisk : IsPrepared sampleDisk where
  project := by decide +kernel
  directories := by decide +kernel
  text := by decide +kernel
  holds := by decide +kernel

/-- The text is derived from the bytes of the manifest of the project. -/
theorem manifestText_of_readBytes {d : Disk} (hbytes : d.readBytes sampleManifest = sampleDisk.readBytes sampleManifest)
    (hcurrent : d.current = sampleDisk.current) : sampleWorkspace.manifestText false sampleManifest d = .ok sampleText :=
  (Workspace.manifestText_congr _ hbytes hcurrent.symm _).trans isPrepared_sampleDisk.text

theorem IsArranged.ensure {d : Disk} (h : IsArranged d) :
    Workspace.ensure sampleWorkspace.projectRoot "elm-stuff/elm-ai" d = (.ok sampleWorkspace, d) :=
  Workspace.ensure_of_isDirectory (Disk.resolve_of_directory (by decide) (by decide) h.project) (by rfl) h.directories

theorem IsArranged.prepare {d d' : Disk} (h : IsArranged d) (m : Mock) {changed : Bool}
    (hwrite : Disk.writeIfChanged sampleWorkspace.manifestPath sampleText d = (.ok changed, d')) :
    (sampleEngine m).prepare false d = (.ok sampleWorkspace, d') := prepare_of_write h.ensure h.text hwrite

theorem IsPrepared.prepare {d : Disk} (h : IsPrepared d) (m : Mock) :
    (sampleEngine m).prepare false d = (.ok sampleWorkspace, d) :=
  h.toIsArranged.prepare m (Disk.writeIfChanged_of_holds h.holds)

/-- What a new engine does once it prepared the workspace. -/
theorem provision_fresh {e : Engine Mock.Log} {standalone : Bool} {w : Workspace} {d d' : Disk}
    (h : e.prepare standalone d = (.ok w, d')) :
    e.provision standalone (fresh d) = (.ok w, ⟨⟨d', []⟩, .provisioning, [.provisioning], []⟩) := by
  have hprepare : e.prepare standalone (fresh d).bench.disk = (.ok w, d') := h
  rw [provision_run, hprepare]
  rfl

end ElmAssay.Engine
