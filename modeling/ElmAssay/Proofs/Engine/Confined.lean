import ElmAssay.Proofs.Disk.Puts
import ElmAssay.Proofs.Engine.Completion

/-!
# What flows write

A flow puts files by two paths, that of the manifest of its workspace and that of the file of the module that it is about
(`Engine.Writes`, `keeps_work`). Whatever the names of modules are, both are strictly inside the workspace: a file of a module
that is not is refused before anything is written for it (`idle_work`), also one in the place of the root, unless the root
is a link (`barred_of_prepare`). So everything that a run changes is a file that one of the two paths led to, or a directory
that is new (`confined_writes`).

If the root is a link, the file of a module may take the place of the link, and if a directory in the workspace is one, its
files are elsewhere (`exists_write_elsewhere`).
-/

namespace ElmAssay

open Effect

variable {σ α β : Type}

/-! ## Confined changes -/

/-- What the questions to an oracle may do to a disk. -/
def Oracle.Step (o : Oracle σ) (d d' : Disk) : Prop :=
  ∃ p directory b, b.disk = d ∧ ((o.compile p directory b).2.disk = d' ∨ (o.test p directory b).2.disk = d')

/-- An oracle that touches some locations only. -/
def Oracle.Within (o : Oracle σ) (T : Location → Prop) : Prop :=
  ∀ d d', o.Step d d' → ∀ l, ¬ T l → d'.tree.content? l = d.tree.content? l

/-- From one disk to another, only files were put by paths of some kind, apart from what an oracle did. -/
structure Confined (o : Oracle σ) (K : Path → Prop) (d d' : Disk) : Prop where
  puts : Disk.Puts K o.Step d d'
  /-- What is at a location that the oracle does not touch is what was there, a new directory, or a file that was put. -/
  changed : ∀ T, o.Within T → ∀ l, ¬ T l → d'.tree.content? l = d.tree.content? l ∨
    (d.tree.content? l = none ∧ d'.tree.content? l = some .directory) ∨ Disk.PutAt K o.Step d d' l
  /-- A file with the name of a temporary file was there before. -/
  temporary : ∀ T, o.Within T → ∀ (directory : Location) name bytes, Disk.IsTemporary name → ¬ T (directory ++ [name]) →
    d'.tree.content? (directory ++ [name]) = some (.file bytes) →
    d.tree.content? (directory ++ [name]) = some (.file bytes)

theorem confined_of_puts {o : Oracle σ} {K : Path → Prop} {d d' : Disk} (h : Disk.Puts K o.Step d d')
    (hK : ∀ p, K p → ¬ Disk.IsTemporary p.name) : Confined o K d d' where
  puts := h
  changed _ hT l hl := h.content?_cases fun d₁ d₂ hstep => hT d₁ d₂ hstep l hl
  temporary _ hT _ _ _ hname hl hfile := h.content?_of_isTemporary hK hname (fun d₁ d₂ hstep => hT d₁ d₂ hstep _ hl) hfile

/-! ## Inside a workspace -/

namespace Workspace

/-- A path strictly inside a workspace: what follows the root are names, at least one. -/
def Encloses (w : Workspace) (p : Path) : Prop :=
  ∃ names, names ≠ [] ∧ (∀ name ∈ names, Path.IsProper name) ∧ p = ⟨w.root.anchor, w.root.parts ++ names⟩

theorem encloses_manifestPath (w : Workspace) : w.Encloses w.manifestPath :=
  ⟨[manifestName], List.cons_ne_nil _ _, fun name hname => by rw [List.mem_singleton.1 hname]; decide, rfl⟩

end Workspace

namespace Engine

variable {e : Engine σ} {w : Workspace} {f : Flow} {p : Path} {d d' : Disk} {b : Bench σ}

/-- The file of a module has a name with the ending of modules. -/
theorem name_of_target? (h : e.target? w f = some p) : p.parts ≠ [] ∧ ∃ name, p.name = name ++ Path.moduleEnding := by
  obtain ⟨directory, q, -, -, hq, rfl⟩ := target?_eq_some h
  obtain ⟨front, name, hends⟩ := hq.join (w.root.child directory)
  exact ⟨by rw [hends]; simp, name, by rw [Path.name, hends, List.getLastD_concat]⟩

/-- The file of a module is strictly inside the workspace, or it is not below the root, or in the place of the root. -/
theorem target?_cases (h : e.target? w f = some p) : w.Encloses p ∨ p.below? w.root = none ∨ p = w.root := by
  obtain ⟨directory, q, hdirectory, -, hq, rfl⟩ := target?_eq_some h
  cases hbelow : (w.root.child directory / q).below? w.root with
  | none => exact .inr (.inl rfl)
  | some r =>
    obtain ⟨hp, hproper, -⟩ := Workspace.proper_of_below? hdirectory hq hbelow
    by_cases hr : r.parts = []
    · exact .inr (.inr (by rw [hp, hr, List.append_nil]))
    · exact .inl ⟨r.parts, hr, hproper, hp⟩

/-! ## What a flow does in its workspace -/

section Keeps

variable {J : Bench σ → Prop}

/-- A check of a unit under the private name keeps what its write and its question keep. -/
theorem keeps_checkUnit {u : CompileUnit} (hu : u.moduleName = e.config.privateModule)
    (hwrite : ∀ text, Keeps J (Bench.onDisk (w.writeBelow (e.isolation w).unitsFile text)))
    (hcompile : ∀ p, Keeps J (e.oracle.compile p w.root)) : Keeps J ((e.isolation w).checkUnit u) := by
  have hfile : (e.isolation w).unitPath u = (e.isolation w).unitsFile := (e.isolation w).unitPath_of_name hu
  rw [Isolation.checkUnit, hfile]
  exact (hwrite u.text).bind fun _ => hcompile _

theorem keeps_validateFrom (source : ModuleSource) (batch : List Candidate)
    (hwrite : ∀ text, Keeps J (Bench.onDisk (w.writeBelow (e.isolation w).unitsFile text)))
    (hcompile : ∀ p, Keeps J (e.oracle.compile p w.root)) :
    ∀ (rest : List Candidate) (focus : Nat), Keeps J ((e.isolation w).validateFrom source batch focus rest)
  | [], _ => keeps_pure _
  | c :: rest, focus => by
    rw [Isolation.validateFrom]
    split
    · exact keeps_throw _
    · rename_i u hu
      exact (keeps_checkUnit (CompileUnit.moduleName_of_splice hu) hwrite hcompile).bind fun _ =>
        (keeps_validateFrom source batch hwrite hcompile rest (focus + 1)).bind fun _ => keeps_pure _

/-- **In its workspace, a flow keeps what writes of the file of its module and questions to the oracle keep.** -/
theorem keeps_work (hwrite : ∀ p, e.target? w f = some p → ∀ text, Keeps J (Bench.onDisk (w.writeBelow p text)))
    (hcompile : ∀ p, Keeps J (e.oracle.compile p w.root)) (htest : ∀ p, Keeps J (e.oracle.test p w.root)) :
    Keeps J (e.work w f) := by
  have hread (ref : ModuleRef) : Keeps J (Bench.onDisk (e.readModule ref)) := by
    intro b hb
    rw [bench_readModule]
    exact hb
  cases f with
  | provision standalone => exact keeps_pure _
  | compileCheck ref material =>
    refine (hread ref).bind fun source => keeps_lift_bind fun more _ => keeps_lift_bind fun u hu => ?_
    exact (keeps_checkUnit (CompileUnit.moduleName_of_splice hu) (hwrite _ rfl) hcompile).bind fun _ => keeps_pure _
  | validateBatch ref batch =>
    refine (hread ref).bind fun source => keeps_lift_bind fun _ _ => Keeps.bind ?_ fun _ => keeps_pure _
    rw [Isolation.validateBatch]
    split
    · exact keeps_throw _
    · exact (keeps_validateFrom source batch (hwrite _ rfl) hcompile batch 0).bind fun _ => keeps_pure _
  | checkDecoder t standalone =>
    refine Keeps.bind (fun b hb => ?_) fun p => (htest p).bind fun _ => keeps_pure _
    rw [Bench.onDisk, t.build_run]
    cases hpath : t.path w with
    | error x => exact hb
    | ok p =>
      have hkept := hwrite p (by rw [target?, hpath]; rfl) t.source b hb
      rw [Bench.onDisk] at hkept
      dsimp only
      rcases hrun : w.writeBelow p t.source b.disk with ⟨result, d⟩
      rw [hrun] at hkept
      cases result <;> exact hkept

end Keeps

/-! ## Work that comes to nothing -/

/-- From a bench, an action adds directories at most and asks nothing, and it succeeds only under a condition. -/
structure Idle (act : BenchM σ α) (b : Bench σ) (C : Prop) : Prop where
  grown : Disk.Grown b.disk (act b).2.disk
  oracle : (act b).2.oracle = b.oracle
  succeeds : (act b).1.isOk = true → C

namespace Idle

variable {act : BenchM σ α} {C : Prop}

theorem of_error {x : Failure} (h : act b = (.error x, ⟨d', b.oracle⟩)) (hgrown : Disk.Grown b.disk d') : Idle act b C := by
  refine ⟨?_, ?_, fun hok => ?_⟩ <;> rw [h] at *
  · exact hgrown
  · cases hok

theorem of_ok {a : α} (h : act b = (.ok a, b)) (hC : C) : Idle act b C := by
  refine ⟨?_, ?_, fun _ => hC⟩ <;> rw [h]
  exact .refl _

/-- What comes after a step that changes nothing. -/
theorem after {next : α → BenchM σ β} {result : Except Failure α} (h : act b = (result, b))
    (hnext : ∀ a, result = .ok a → Idle (next a) b C) : Idle (act >>= next) b C := by
  cases result with
  | error x => exact of_error (bind_of_error h) (.refl _)
  | ok a =>
    have hrun : (act >>= next) b = next a b := bind_of_ok h
    obtain ⟨hgrown, horacle, hsucceeds⟩ := hnext a rfl
    exact ⟨hrun ▸ hgrown, hrun ▸ horacle, hrun ▸ hsucceeds⟩

/-- What comes after it adds nothing to an action that does not succeed. -/
theorem bind {next : α → BenchM σ β} (h : Idle act b False) : Idle (act >>= next) b C := by
  rcases hrun : act b with ⟨result, b'⟩
  obtain ⟨hgrown, horacle, hsucceeds⟩ := h
  rw [hrun] at hgrown horacle hsucceeds
  cases result with
  | ok a => exact (hsucceeds rfl).elim
  | error x => exact of_error ((bind_of_error hrun).trans (by rw [← horacle])) hgrown

end Idle

/-- A file cannot be written: any write to it below the workspace fails, and adds directories at most. -/
def Refuses (w : Workspace) (d : Disk) (p : Path) : Prop :=
  ∀ text, ∃ x d', w.writeBelow p text d = (.error x, d') ∧ Disk.Grown d d'

theorem idle_checkUnit {u : CompileUnit} (hu : u.moduleName = e.config.privateModule)
    (h : Refuses w b.disk (e.isolation w).unitsFile) : Idle ((e.isolation w).checkUnit u) b False := by
  have hfile : (e.isolation w).unitPath u = (e.isolation w).unitsFile := (e.isolation w).unitPath_of_name hu
  obtain ⟨x, d', hwrite, hgrown⟩ := h u.text
  rw [Isolation.checkUnit, hfile]
  exact .of_error (bind_of_error (Bench.onDisk_run hwrite)) hgrown

/-- **A flow whose module cannot be written asks nothing**, and it fails unless it has nothing to ask. -/
theorem idle_work (h : ∀ p, e.target? w f = some p → Refuses w b.disk p) :
    Idle (e.work w f) b (f.questions = 0) := by
  cases f with
  | provision standalone => exact .of_ok (pure_run _ _) rfl
  | compileCheck ref material =>
    refine .after (e.bench_readModule ref b) fun source _ => .after (lift_run _ b) fun more _ =>
      .after (lift_run _ b) fun u hu => ?_
    exact (idle_checkUnit (CompileUnit.moduleName_of_splice hu) (h _ rfl)).bind
  | validateBatch ref batch =>
    refine .after (e.bench_readModule ref b) fun source _ => .after (lift_run _ b) fun _ hunique => ?_
    rw [Isolation.validateBatch, hunique]
    cases batch with
    | nil => exact .of_ok rfl rfl
    | cons c rest =>
      refine Idle.bind (Idle.bind ?_)
      rw [Isolation.validateFrom]
      split
      · exact .of_error rfl (.refl _)
      · rename_i u hu
        exact (idle_checkUnit (CompileUnit.moduleName_of_splice hu) (h _ rfl)).bind
  | checkDecoder t standalone =>
    refine Idle.bind ?_
    cases hpath : t.path w with
    | error x =>
      have hbuild : t.build w b.disk = (.error x, b.disk) := by rw [t.build_run, hpath]
      exact .of_error (Bench.onDisk_run hbuild) (.refl _)
    | ok p =>
      obtain ⟨x, d', hwrite, hgrown⟩ := h p (by rw [target?, hpath]; rfl) t.source
      have hbuild : t.build w b.disk = (.error x, d') := by
        rw [t.build_run, hpath]
        dsimp only
        rw [hwrite]
      exact .of_error (Bench.onDisk_run hbuild) hgrown

/-! ## Files that are refused -/

/-- A file that is not below the root is refused. -/
theorem refuses_of_outside (h : p.below? w.root = none) (d : Disk) : Refuses w d p := fun text =>
  ⟨.outside p w.root, d, by rw [Workspace.writeBelow_eq, h], .refl d⟩

/-- A file cannot be written by a barred path. -/
theorem refuses_of_barred (hparts : p.parts ≠ []) (h : d.Barred p) : Refuses w d p := by
  intro text
  rw [Workspace.writeBelow_eq]
  split
  · exact ⟨_, d, rfl, .refl d⟩
  · obtain ⟨x, d', hwrite, hgrown⟩ := h.writeIfChanged hparts text
    rw [hwrite]
    exact ⟨x, d', rfl, hgrown⟩

/-- **The root of a workspace that was prepared is barred for the file of a module**, if it names no link then: it is a
directory, or behind the manifest that took the place of a link. -/
theorem barred_of_prepare {standalone : Bool} (h : e.prepare standalone d = (.ok w, d'))
    (htarget : e.target? w f = some w.root)
    (hlink : ∀ l target, d'.locateName w.root = .ok l → d'.tree.content? l ≠ some (.link target)) : d'.Barred w.root := by
  obtain ⟨hparts, name, hname⟩ := name_of_target? htarget
  obtain ⟨d₁, text, changed, hensure, -, hwrite⟩ := prepare_eq_ok h
  have hroot : d₁.isDirectory w.root = .ok true := (Workspace.ensure_eq_ok hensure).2.2 w.root List.mem_cons_self
  rcases Disk.writeIfChanged_cases hwrite with ⟨-, rfl, -⟩ | ⟨-, d₂, directory, -, hmake, hsite, rfl⟩
  · exact Disk.barred_of_isDirectory hroot hlink
  · rw [Workspace.parent_manifestPath, Disk.makeDirectories_of_isDirectory hroot] at hmake
    cases hmake
    refine Disk.barred_afterWrite hsite hroot hparts ?_ ?_ hlink
    · rw [hname]
      exact Path.isProper_append_moduleEnding name
    · rw [hname, Workspace.name_manifestPath]
      exact Path.append_moduleEnding_ne name

/-! ## All that a flow writes -/

/-- The files that a flow may write: the manifest of its workspace and the file of its module, if it is strictly inside. -/
def Writes (e : Engine σ) (d : Disk) (f : Flow) (p : Path) : Prop :=
  ∃ w, e.workspace d = .ok w ∧ w.Encloses p ∧ (p = w.manifestPath ∨ e.target? w f = some p)

/-- Neither a manifest nor a file of a module has the name of a temporary file. -/
theorem not_isTemporary_name (h : p = w.manifestPath ∨ e.target? w f = some p) : ¬ Disk.IsTemporary p.name := by
  intro htemporary
  have hend := htemporary.getLast?
  rcases h with rfl | h
  · rw [Workspace.name_manifestPath] at hend
    revert hend
    decide
  · obtain ⟨-, name, hname⟩ := name_of_target? h
    rw [hname, String.toList_append, Path.moduleEnding_toList, List.getLast?_append] at hend
    cases hend

/-- In its workspace, a flow puts no file but that of its module. -/
theorem puts_work {K : Path → Prop} (hK : ∀ p, e.target? w f = some p → K p) :
    Disk.Puts K e.oracle.Step b.disk (e.work w f b).2.disk := by
  refine keeps_work (J := fun b' => Disk.Puts K e.oracle.Step b.disk b'.disk) ?_ ?_ ?_ b .refl
  · intro p hp text b' hb'
    rw [Bench.onDisk, Workspace.writeBelow_eq]
    cases p.below? w.root with
    | none => exact hb'
    | some _ =>
      dsimp only
      rcases hwrite : Disk.writeIfChanged p text b'.disk with ⟨result, d'⟩
      cases result <;> exact hb'.writeIfChanged (hK p hp) hwrite
  · exact fun p b' hb' => hb'.other ⟨p, w.root, b', rfl, .inl rfl⟩
  · exact fun p b' hb' => hb'.other ⟨p, w.root, b', rfl, .inr rfl⟩

/-- A flow puts no file but the manifest of its workspace and what it puts in the workspace. -/
theorem puts_after {K : Path → Prop} {st : EngineState σ}
    (hmanifest : ∀ w, e.workspace st.bench.disk = .ok w → K w.manifestPath)
    (hwork : ∀ w d, e.prepare f.standalone st.bench.disk = (.ok w, d) →
      Disk.Puts K e.oracle.Step d (e.work w f ⟨d, st.bench.oracle⟩).2.disk) :
    Disk.Puts K e.oracle.Step st.bench.disk (e.after st f).bench.disk := by
  have hrun := e.run_eq f st
  rw [run, bind_run, Bench.onDisk] at hrun
  rcases hp : e.prepare f.standalone st.bench.disk with ⟨result, d⟩
  rw [hp] at hrun
  have hprepared : Disk.Puts K e.oracle.Step st.bench.disk d := by
    rcases prepare_changes hp with hgrown | ⟨w, d₁, directory, text, hw, hgrown, hsite, rfl⟩
    · exact .grow .refl hgrown
    · exact .put text (.grow .refl hgrown) (hmanifest w hw) hsite
  rw [← (Prod.mk.inj hrun).2]
  cases result with
  | error x => exact hprepared
  | ok w => exact hprepared.trans (hwork w d hp)

/-- What a flow answers after preparing, and how it leaves the bench, is what comes of its work. -/
theorem work_of_prepare {st : EngineState σ} (h : e.prepare f.standalone st.bench.disk = (.ok w, d)) :
    e.work w f ⟨d, st.bench.oracle⟩ = (e.answer st f, (e.after st f).bench) := by
  have hrun := e.run_eq f st
  rw [run, bind_of_ok (Bench.onDisk_run h)] at hrun
  exact hrun

/-- A file of a module that is not strictly inside its workspace is refused, if the root is barred for it. -/
theorem refuses_of_not_encloses (hroot : e.target? w f = some w.root → d.Barred w.root) (hp : e.target? w f = some p)
    (h : ¬ w.Encloses p) : Refuses w d p := by
  rcases target?_cases hp with hencloses | hbelow | rfl
  · exact absurd hencloses h
  · exact refuses_of_outside hbelow d
  · exact refuses_of_barred (name_of_target? hp).1 (hroot hp)

/-- A flow whose module can only be written strictly inside its workspace puts no other file there. -/
theorem puts_work_of_barred {K : Path → Prop} (hK : ∀ p, e.target? w f = some p → w.Encloses p → K p)
    (hroot : e.target? w f = some w.root → b.disk.Barred w.root) :
    Disk.Puts K e.oracle.Step b.disk (e.work w f b).2.disk := by
  by_cases hinside : ∀ p, e.target? w f = some p → w.Encloses p
  · exact puts_work fun p hp => hK p hp (hinside p hp)
  · -- then the module is refused at its first write, and the oracle is never asked
    obtain ⟨p, hp⟩ := not_forall.1 hinside
    obtain ⟨htarget, hencloses⟩ := Classical.not_imp.1 hp
    refine .grow .refl (idle_work fun q hq => ?_).grown
    cases htarget.symm.trans hq
    exact refuses_of_not_encloses hroot htarget hencloses

/-- **What flows write is confined to their workspaces**, whatever the names of modules are and whatever the oracle does, if
the root of the workspace is not itself a link. A flow puts files only by the path of the manifest and that of the file
of its module, both strictly inside, and leaves no temporary file. A file of a module that is not strictly inside is
refused: nothing but directories is added after preparing, and the flow fails unless it has no file to write. The same holds
of the work of a flow in any workspace that is there. -/
theorem confined_writes (e : Engine σ) :
    (∀ (st : EngineState σ) (f : Flow),
      (∀ w d, e.prepare f.standalone st.bench.disk = (.ok w, d) →
        ∀ l target, d.locateName w.root = .ok l → d.tree.content? l ≠ some (.link target)) →
      Confined e.oracle (e.Writes st.bench.disk f) st.bench.disk (e.after st f).bench.disk ∧
        ∀ w d, e.prepare f.standalone st.bench.disk = (.ok w, d) → (∀ p, e.target? w f = some p → ¬ w.Encloses p) →
          Disk.Grown d (e.after st f).bench.disk ∧ (e.after st f).bench.oracle = st.bench.oracle ∧
            ((e.answer st f).isOk = true → f.questions = 0)) ∧
      ∀ (w : Workspace) (f : Flow) (b : Bench σ),
        (∃ l, b.disk.locateName w.root = .ok l ∧ b.disk.tree.content? l = some .directory) →
        Confined e.oracle (fun p => w.Encloses p ∧ e.target? w f = some p) b.disk (e.work w f b).2.disk ∧
          ((∀ p, e.target? w f = some p → ¬ w.Encloses p) → Idle (e.work w f) b (f.questions = 0)) := by
  refine ⟨fun st f hlink => ?_, fun w f b hroot => ⟨?_, fun houtside => ?_⟩⟩
  · have hbarred {w : Workspace} {d : Disk} (hp : e.prepare f.standalone st.bench.disk = (.ok w, d))
        (htarget : e.target? w f = some w.root) : d.Barred w.root := barred_of_prepare hp htarget (hlink w d hp)
    refine ⟨?_, fun w d hp houtside => ?_⟩
    · refine confined_of_puts (puts_after (fun w hw => ⟨w, hw, w.encloses_manifestPath, .inl rfl⟩) fun w d hp => ?_)
        fun p ⟨_, _, _, hp⟩ => not_isTemporary_name hp
      obtain ⟨d₁, -, -, hensure, -⟩ := prepare_eq_ok hp
      exact puts_work_of_barred (b := ⟨d, st.bench.oracle⟩)
        (fun p htarget hencloses => ⟨w, workspace_of_ensure hensure, hencloses, .inr htarget⟩) (hbarred hp)
    · have hidle : Idle (e.work w f) ⟨d, st.bench.oracle⟩ (f.questions = 0) :=
        idle_work fun p htarget => refuses_of_not_encloses (hbarred hp) htarget (houtside p htarget)
      obtain ⟨hgrown, horacle, hsucceeds⟩ := hidle
      rw [work_of_prepare hp] at hgrown horacle hsucceeds
      exact ⟨hgrown, horacle, hsucceeds⟩
  · exact confined_of_puts (puts_work_of_barred (fun p htarget hencloses => ⟨hencloses, htarget⟩) fun _ => .inl hroot)
      fun p ⟨_, htarget⟩ => not_isTemporary_name (.inr htarget)
  · exact idle_work fun p htarget => refuses_of_not_encloses (fun _ => .inl hroot) htarget (houtside p htarget)

/-! ## A project with its workspace, and links in it -/

open Isolation

theorem within_of_keepsDisk {o : Oracle σ} (h : o.KeepsDisk) : o.Within fun _ => False := by
  rintro d d' ⟨p, directory, b, rfl, rfl | rfl⟩ l -
  · rw [h.compile]
  · rw [h.test]

/-- The file of the unit is the one that a check of the project puts. -/
theorem confined_writes_sample :
    let e := sampleEngine {}
    let st := fresh sampleDisk
    (∀ w d, e.prepare false sampleDisk = (.ok w, d) →
      ∀ l target, d.locateName w.root = .ok l → d.tree.content? l ≠ some (.link target)) ∧
      Confined e.oracle (e.Writes sampleDisk sampleFlow) sampleDisk (e.after st sampleFlow).bench.disk ∧
        Disk.PutAt (e.Writes sampleDisk sampleFlow) e.oracle.Step sampleDisk (e.after st sampleFlow).bench.disk
          sampleFile.parts := by
  intro e st
  have hlink : ∀ w d, e.prepare false sampleDisk = (.ok w, d) →
      ∀ l target, d.locateName w.root = .ok l → d.tree.content? l ≠ some (.link target) := by
    intro w d h l target _
    cases (isPrepared_sampleDisk.prepare {}).symm.trans h
    exact Tree.content?_ne_link_of_entries isUnlinked_sampleDisk.entries l target
  have hconfined := ((confined_writes e).1 st sampleFlow hlink).1
  have hnone : sampleDisk.tree.content? sampleFile.parts = none := by decide +kernel
  have hfile : (e.after st sampleFlow).bench.disk.tree.content? sampleFile.parts =
      some (.file (Text.Utf8.encode "module ElmAiCandidate exposing (..)\n".toList)) := by
    rw [sampleFlow, after, compileCheck, bind_of_ok (provision_fresh (isPrepared_sampleDisk.prepare {}))]
    decide +kernel
  refine ⟨hlink, hconfined, ?_⟩
  rcases hconfined.changed _ (within_of_keepsDisk (Mock.keepsDisk {})) sampleFile.parts not_false with
    hsame | ⟨-, hdir⟩ | hput
  · cases (hnone.symm.trans hsame.symm).trans hfile
  · cases hfile.symm.trans hdir
  · exact hput

/-- A workspace that has the name of a file of a module. -/
def elmWorkspace : Workspace := ⟨⟨.top, ["project"]⟩, ⟨.top, ["project", "elm-stuff", "w.elm"]⟩⟩

/-- An engine with that workspace. -/
def elmEngine : Engine Mock.Log :=
  ⟨{ workspaceDirectory := "elm-stuff/w.elm" }, elmWorkspace.projectRoot, sampleManifest, Mock.oracle {}⟩

/-- A test whose file is in the place of the root of that workspace. -/
def rootTest : DecoderTest :=
  { decoderCode := "decoder = 1", sample := .text "1", expectedValue := "1", testModule := "/project/elm-stuff/w" }

/-- The project where that workspace is a link. -/
@[irreducible] def linkedRootDisk : Disk :=
  { sampleDisk with tree := sampleDisk.tree.create elmWorkspace.root.parts (.link "elm-ai") linkRights 0 }

theorem prepare_linkedRootDisk : elmEngine.prepare false linkedRootDisk = (.ok elmWorkspace, linkedRootDisk) := by
  have hproject : linkedRootDisk.tree.content? ["project"] = some .directory := by decide +kernel
  have hdirectories : ∀ p ∈ elmWorkspace.directories, linkedRootDisk.isDirectory p = .ok true := by decide +kernel
  have hback (here : Path) : elmWorkspace.back here = sampleWorkspace.back here := by rfl
  have htext : elmWorkspace.manifestText false elmEngine.manifestPath linkedRootDisk = .ok sampleText := by
    have hsample : sampleWorkspace.manifestText false sampleManifest linkedRootDisk = .ok sampleText :=
      manifestText_of_readBytes (by decide +kernel) (by rw [linkedRootDisk])
    rw [Workspace.manifestText, hback]
    exact hsample
  have hholds : linkedRootDisk.holds elmWorkspace.manifestPath sampleText = .ok true := by decide +kernel
  have hensure : Workspace.ensure elmEngine.project elmEngine.config.workspaceDirectory linkedRootDisk =
      (.ok elmWorkspace, linkedRootDisk) :=
    Workspace.ensure_of_isDirectory (Disk.resolve_of_directory (by decide) (by decide) hproject) (by rfl) hdirectories
  exact prepare_of_write hensure htext (Disk.writeIfChanged_of_holds hholds)

/-- The link is replaced. -/
theorem site_linkedRootDisk : linkedRootDisk.Site elmWorkspace.root ["project", "elm-stuff"] := by
  have hlink : linkedRootDisk.tree.content? ["project", "elm-stuff", "w.elm"] = some (.link "elm-ai") := by decide +kernel
  exact {
    noNull := by decide +kernel
    short := by decide +kernel
    parts := by decide
    proper := by decide +kernel
    parent := by decide +kernel
    isDirectory := by decide +kernel
    vacant := fun h => by cases hlink.symm.trans h
    fits := by decide +kernel }

theorem build_linkedRootDisk : rootTest.build elmWorkspace linkedRootDisk =
    (.ok elmWorkspace.root, linkedRootDisk.afterWrite elmWorkspace.root ["project", "elm-stuff"] rootTest.source) := by
  have hpath : rootTest.path elmWorkspace = .ok elmWorkspace.root := by decide +kernel
  have hbelow : (elmWorkspace.root.below? elmWorkspace.root).isSome = true := by decide +kernel
  have hfile : linkedRootDisk.isFile elmWorkspace.root = .ok false := by decide +kernel
  have hholds : linkedRootDisk.holds elmWorkspace.root rootTest.source = .ok false := by rw [Disk.holds, hfile]
  have hdir : linkedRootDisk.isDirectory elmWorkspace.root.parent = .ok true := by decide +kernel
  have hwrite : Disk.writeIfChanged elmWorkspace.root rootTest.source linkedRootDisk =
      (.ok true, linkedRootDisk.afterWrite elmWorkspace.root ["project", "elm-stuff"] rootTest.source) := by
    rw [Disk.writeIfChanged_of_not_holds hholds, Disk.makeDirectories_of_isDirectory hdir]
    dsimp only
    rw [Disk.writeAtomic_of_site site_linkedRootDisk]
  rw [rootTest.build_run, hpath]
  dsimp only
  rw [Workspace.writeBelow_run hbelow hwrite]

theorem disk_after_linkedRootDisk : (elmEngine.after (fresh linkedRootDisk) (.checkDecoder rootTest false)).bench.disk =
    linkedRootDisk.afterWrite elmWorkspace.root ["project", "elm-stuff"] rootTest.source := by
  have hrun := elmEngine.run_eq (.checkDecoder rootTest false) (fresh linkedRootDisk)
  have hprepare : Bench.onDisk (elmEngine.prepare false) (fresh linkedRootDisk).bench =
      (.ok elmWorkspace, ⟨linkedRootDisk, []⟩) := Bench.onDisk_run prepare_linkedRootDisk
  have hbuild : Bench.onDisk (rootTest.build elmWorkspace) (⟨linkedRootDisk, []⟩ : Bench Mock.Log) = _ :=
    Bench.onDisk_run build_linkedRootDisk
  rw [run, Flow.standalone, bind_of_ok hprepare, work, bind_of_ok hbuild, map_run] at hrun
  rw [← (Prod.mk.inj hrun).2]
  exact (Mock.keepsDisk {}).test _ _ _

/-- The project where the private root of its workspace is a link. -/
@[irreducible] def linkedPrivateDisk : Disk :=
  { sampleDisk with
    tree := ((sampleDisk.tree.prune sampleDirectory).create ["project", "src"] .directory directoryRights 0).create
      sampleDirectory (.link "../../src") linkRights 0 }

instance isPrepared_linkedPrivateDisk : IsPrepared linkedPrivateDisk where
  project := by decide +kernel
  directories := by decide +kernel
  text := manifestText_of_readBytes (by decide +kernel) (by rw [linkedPrivateDisk])
  holds := by decide +kernel

/-- **Behind links files are written elsewhere, and an empty batch is never refused.** Where the root of a workspace is a link,
the file of a test takes the place of the link. Where the private root is one, the file of a unit is outside of the root. A
batch without candidates passes under a private name whose file is not below the root. -/
theorem exists_write_elsewhere :
    (let after := (elmEngine.after (fresh linkedRootDisk) (.checkDecoder rootTest false)).bench.disk;
      elmEngine.prepare false linkedRootDisk = (.ok elmWorkspace, linkedRootDisk) ∧
        ¬ ∀ l bytes, after.tree.content? l = some (.file bytes) → linkedRootDisk.tree.content? l ≠ some (.file bytes) →
          elmWorkspace.root.parts <+: l ∧ l ≠ elmWorkspace.root.parts) ∧
      (let after := ((sampleEngine {}).after (fresh linkedPrivateDisk) sampleFlow).bench.disk;
        (sampleEngine {}).prepare false linkedPrivateDisk = (.ok sampleWorkspace, linkedPrivateDisk) ∧
          ¬ ∀ l bytes, after.tree.content? l = some (.file bytes) → linkedPrivateDisk.tree.content? l ≠ some (.file bytes) →
            sampleWorkspace.root.parts <+: l ∧ l ≠ sampleWorkspace.root.parts) ∧
      (let s : Isolation Mock.Log := ⟨Mock.oracle {}, sampleWorkspace, "/x", true⟩;
        s.unitsFile.below? sampleWorkspace.root = none ∧
          s.validateBatch ⟨"", none⟩ [] ⟨sampleDisk, []⟩ = (.ok ⟨[]⟩, ⟨sampleDisk, []⟩)) := by
  refine ⟨⟨prepare_linkedRootDisk, fun hinside => ?_⟩, ⟨isPrepared_linkedPrivateDisk.prepare {}, fun hinside => ?_⟩,
    by decide +kernel, rfl⟩
  · have hlink : linkedRootDisk.tree.content? elmWorkspace.root.parts = some (.link "elm-ai") := by decide +kernel
    refine (hinside elmWorkspace.root.parts (Text.Utf8.encode rootTest.source.toList) ?_ fun hfile => ?_).2 rfl
    · rw [disk_after_linkedRootDisk]
      exact (Disk.written_afterWrite linkedRootDisk elmWorkspace.root ["project", "elm-stuff"] rootTest.source).placed
    · cases hlink.symm.trans hfile
  · have hnone : linkedPrivateDisk.tree.content? ["project", "src", "ElmAiCandidate.elm"] = none := by decide +kernel
    have hfile : ((sampleEngine {}).after (fresh linkedPrivateDisk) sampleFlow).bench.disk.tree.content?
        ["project", "src", "ElmAiCandidate.elm"] =
          some (.file (Text.Utf8.encode "module ElmAiCandidate exposing (..)\n".toList)) := by
      rw [sampleFlow, after, compileCheck, bind_of_ok (provision_fresh (isPrepared_linkedPrivateDisk.prepare {}))]
      decide +kernel
    have hroot : ¬ sampleWorkspace.root.parts <+: ["project", "src", "ElmAiCandidate.elm"] := by decide
    exact hroot (hinside _ _ hfile fun h => by cases hnone.symm.trans h).1

end Engine
end ElmAssay
