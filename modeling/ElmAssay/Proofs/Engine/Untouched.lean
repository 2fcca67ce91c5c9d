import ElmAssay.Proofs.Engine.Confined
import ElmAssay.Proofs.Engine.Once

/-!
# Files that flows leave as they are

With an oracle that changes nothing on the disk, a file stays as it is through all flows, unless one of them put the manifest
of its workspace or the file of its module in its place (`content?_afterAll`). Where the workspace of an engine holds no link,
these places are known from the start (`Engine.Touches`), and what is read by a path that leads to another one stays the
same (`readBytes_afterAll`). Nothing keeps the manifest of a project from being the one of its workspace: then a flow puts the
manifest of the workspace there (`readText_after`), as it does where the workspace is in the directory of the project
itself (`exists_manifest_overwritten`).
-/

namespace ElmAssay.Engine

open Effect

variable {σ : Type} {e : Engine σ} {w : Workspace} {f : Flow} {d d' d₁ : Disk} {st : EngineState σ} {l root : Location}
  {p q : Path} {bytes : Bytes}

/-! ## What is in a place -/

/-- The files that a flow is to write: the manifest of its workspace and the file of its module. -/
def Aims (e : Engine σ) (d : Disk) (f : Flow) (p : Path) : Prop :=
  ∃ w, e.workspace d = .ok w ∧ (p = w.manifestPath ∨ e.target? w f = some p)

/-- From one state to the next, a flow put one of its files in a place. -/
def Replaces (e : Engine σ) (st : EngineState σ) (f : Flow) (l : Location) : Prop :=
  Disk.PutAt (e.Aims st.bench.disk f) e.oracle.Step st.bench.disk (e.after st f).bench.disk l

/-- A flow leaves a file as it is, or puts one of its own in its place. -/
theorem content?_after (hkeeps : e.oracle.KeepsDisk) (st : EngineState σ) (f : Flow)
    (h : st.bench.disk.tree.content? l = some (.file bytes)) :
    (e.after st f).bench.disk.tree.content? l = some (.file bytes) ∨ e.Replaces st f l := by
  have hputs : Disk.Puts (e.Aims st.bench.disk f) e.oracle.Step st.bench.disk (e.after st f).bench.disk := by
    refine puts_after (fun w hw => ⟨w, hw, .inl rfl⟩) fun w d hp => ?_
    obtain ⟨d₁, -, -, hensure, -⟩ := prepare_eq_ok hp
    exact puts_work (b := ⟨d, st.bench.oracle⟩) fun p hp => ⟨w, workspace_of_ensure hensure, .inr hp⟩
  rcases hputs.content?_cases fun d₁ d₂ hstep => within_of_keepsDisk hkeeps d₁ d₂ hstep l not_false with
    hsame | ⟨hnone, -⟩ | hput
  · exact .inl (hsame.trans h)
  · cases hnone.symm.trans h
  · exact .inr hput

/-- **A file stays as it is through all flows, unless one of them puts a file of its own in its place.** -/
theorem content?_afterAll (hkeeps : e.oracle.KeepsDisk) (st : EngineState σ) (flows : List Flow)
    (h : st.bench.disk.tree.content? l = some (.file bytes)) :
    (e.afterAll st flows).bench.disk.tree.content? l = some (.file bytes) ∨
      ∃ done f, done ++ [f] <+: flows ∧ e.Replaces (e.afterAll st done) f l := by
  induction flows using List.reverseRecOn with
  | nil => exact .inl h
  | append_singleton front f ih =>
    rcases ih with hfile | ⟨done, g, hdone, hreplaces⟩
    · rw [afterAll_snoc]
      exact (content?_after hkeeps (e.afterAll st front) f hfile).imp_right fun h => ⟨front, f, List.prefix_refl _, h⟩
    · exact .inr ⟨done, g, hdone.trans (List.prefix_append _ _), hreplaces⟩

/-! ## Workspaces without links -/

/-- The places at which a flow may put files, where its workspace holds no link: that of the manifest, and that of the file of
its module if it is below the root. -/
def Touches (e : Engine σ) (d : Disk) (f : Flow) (l : Location) : Prop :=
  ∃ w d₁ root names, Workspace.ensure e.project e.config.workspaceDirectory d = (.ok w, d₁) ∧
    d₁.locateName w.root = .ok root ∧ l = root ++ names ∧
    (names = [Workspace.manifestName] ∨ e.target? w f = some ⟨w.root.anchor, w.root.parts ++ names⟩)

/-- The root of a workspace that was prepared names a location. If it has a name, this is the last one of the location. -/
theorem locateName_root (hensure : Workspace.ensure e.project e.config.workspaceDirectory d = (.ok w, d₁)) :
    ∃ root, d₁.locateName w.root = .ok root ∧
      (w.root.parts ≠ [] → Path.IsProper w.root.name → root.getLast? = some w.root.name) := by
  have hdir : d₁.isDirectory w.root = .ok true := (Workspace.ensure_eq_ok hensure).2.2 w.root List.mem_cons_self
  obtain ⟨hnull, k, hk, -⟩ := Disk.isDirectory_eq_true_iff.1 hdir
  have hname : ∃ root, d₁.locateName w.root = .ok root := by
    rcases Disk.locateName_cases (d := d₁) (Disk.short_of_locateFrom hk) with hsame | ⟨k', -, hk', -⟩
    · exact ⟨k, hsame.trans hk⟩
    · exact ⟨k', hk'⟩
  obtain ⟨root, hroot⟩ := hname
  refine ⟨root, hroot, fun hparts hproper => ?_⟩
  obtain ⟨-, around, haround, -⟩ := Disk.isDirectory_eq_true_iff.1 (Disk.isDirectory_parent_of_locateFrom hnull hparts hroot)
  obtain ⟨-, hstep⟩ := Tree.step_eq_ok_iff.1 (Disk.step_of_locateName hparts haround hroot)
  rw [if_neg (by rintro (h | h); exacts [hproper.1 h, hproper.2.1 h]), if_neg hproper.2.2] at hstep
  rw [hstep.2, List.getLast?_concat]

/-- **A flow touches a manifest in a directory exactly if the root of its workspace is that directory.** -/
theorem touches_manifest_iff {k : Location} :
    e.Touches d f (k ++ [Workspace.manifestName]) ↔
      ∃ w d₁, Workspace.ensure e.project e.config.workspaceDirectory d = (.ok w, d₁) ∧ d₁.locateName w.root = .ok k := by
  constructor
  · rintro ⟨w, d₁, root, names, hensure, hroot, hl, rfl | htarget⟩
    · exact ⟨w, d₁, hensure, (List.append_inj_left' hl rfl) ▸ hroot⟩
    · -- the file of a module has another ending, also if it is in the place of the root
      exfalso
      obtain ⟨hparts, name, hname⟩ := name_of_target? htarget
      rcases List.eq_nil_or_concat names with rfl | ⟨front, last, rfl⟩
      · obtain ⟨root', hroot', hends⟩ := locateName_root hensure
        cases hroot.symm.trans hroot'
        rw [List.append_nil] at hl hparts hname
        have hproper : Path.IsProper w.root.name := hname ▸ Path.isProper_append_moduleEnding name
        have hlast := hends hparts hproper
        rw [← hl, List.getLast?_concat] at hlast
        exact Path.append_moduleEnding_ne name (hname.symm.trans (Option.some.inj hlast).symm)
      · rw [List.concat_eq_append, ← List.append_assoc] at hl
        rw [Path.name, List.concat_eq_append, ← List.append_assoc, List.getLastD_concat] at hname
        have hlast : Workspace.manifestName = last := List.singleton_inj.1 (List.append_inj_right' hl rfl)
        exact Path.append_moduleEnding_ne name (hname.symm.trans hlast.symm)
  · rintro ⟨w, d₁, hensure, hroot⟩
    exact ⟨w, d₁, k, [Workspace.manifestName], hensure, hroot, rfl, .inl rfl⟩

/-- The root of a workspace that was prepared names the same location where only ways are added. -/
theorem touches_of_widens (hensure : Workspace.ensure e.project e.config.workspaceDirectory d = (.ok w, d₁))
    (hwidens : Disk.Widens d₁ d') (h : e.Touches d' f l) : e.Touches d f l := by
  obtain ⟨w', d₂, root, names, hensure', hroot, hl, hnames⟩ := h
  rw [Workspace.ensure_again hensure hwidens] at hensure'
  cases hensure'
  obtain ⟨root', hroot', -⟩ := locateName_root hensure
  have hsame : d'.locateName w.root = .ok root' := hwidens.locateFrom hroot'
  cases hroot.symm.trans hsame
  exact ⟨w, d₁, root, names, hensure, hroot', hl, hnames⟩

/-- The workspace is plain, has the ways that it had, and a file is in its place. -/
structure Spared (w : Workspace) (root l : Location) (bytes : Bytes) (earlier d : Disk) : Prop where
  plain : w.IsPlain d root
  widens : Disk.Widens earlier d
  file : d.tree.content? l = some (.file bytes)

/-- A write of another file below the root spares a file. -/
theorem Spared.write (h : Spared w root l bytes d₁ d) {names : List String} (hproper : ∀ name ∈ names, Path.IsProper name)
    (hl : l ≠ root ++ names) {text : String} {result : Except Failure Bool}
    (hwrite : Disk.writeIfChanged ⟨w.root.anchor, w.root.parts ++ names⟩ text d = (result, d')) :
    Spared w root l bytes d₁ d' := by
  obtain ⟨hwidens, hkept⟩ := h.plain.kept (q := ⟨.here, names⟩) rfl hproper hwrite
  exact ⟨h.plain.of_widens hwidens, h.widens.trans hwidens, hkept l bytes hl h.file⟩

/-- In its workspace, a flow spares a file that it does not put. -/
theorem Spared.work (hkeeps : e.oracle.KeepsDisk) {b : Bench σ} (h : Spared w root l bytes d₁ b.disk)
    (hl : ∀ names, e.target? w f = some ⟨w.root.anchor, w.root.parts ++ names⟩ → l ≠ root ++ names) :
    Spared w root l bytes d₁ (e.work w f b).2.disk := by
  refine keeps_work (J := fun b' => Spared w root l bytes d₁ b'.disk) ?_ ?_ ?_ b h
  · intro p hp text b' hb'
    rw [Bench.onDisk, Workspace.writeBelow_eq]
    obtain ⟨directory, q, hdirectory, -, hq, rfl⟩ := target?_eq_some hp
    cases hbelow : (w.root.child directory / q).below? w.root with
    | none => exact hb'
    | some r =>
      obtain ⟨hparts, hproper, -⟩ := Workspace.proper_of_below? hdirectory hq hbelow
      rw [hparts] at hp ⊢
      dsimp only
      rcases hwrite : Disk.writeIfChanged ⟨w.root.anchor, w.root.parts ++ r.parts⟩ text b'.disk with ⟨result, d'⟩
      cases result <;> exact hb'.write hproper (hl r.parts hp) hwrite
  · intro p b' hb'
    rw [hkeeps.compile]
    exact hb'
  · intro p b' hb'
    rw [hkeeps.test]
    exact hb'

/-- A disk on which a path still leads to a file where it was, and on which the workspace holds no link and is where it was. -/
structure Keeping (e : Engine σ) (first : Disk) (q : Path) (l : Location) (bytes : Bytes) (d : Disk) : Prop where
  noNull : q.hasNull = false
  linkFree : e.LinkFree d
  locate : d.locate q = .ok l
  file : d.tree.content? l = some (.file bytes)
  touches : ∀ f k, e.Touches d f k → e.Touches first f k

theorem Keeping.readBytes {first : Disk} (h : e.Keeping first q l bytes d) : d.readBytes q = .ok bytes :=
  Disk.readBytes_eq_ok_iff.2 ⟨h.noNull, l, h.locate, h.file⟩

/-- A flow that touches another place keeps a file. -/
theorem Keeping.after (hkeeps : e.oracle.KeepsDisk) {first : Disk} (h : e.Keeping first q l bytes st.bench.disk)
    (hnot : ¬ e.Touches first f l) : e.Keeping first q l bytes (e.after st f).bench.disk := by
  have hfree := LinkFree.after hkeeps h.linkFree f
  rcases hp : e.prepare f.standalone st.bench.disk with ⟨result, d⟩
  cases result with
  | error x =>
    rw [disk_after_of_error hp] at hfree ⊢
    have hgrown := grown_of_prepare_eq_error hp
    refine ⟨h.noNull, hfree, hgrown.toWidens.locateFrom h.locate, hgrown.content?_of_some h.file, fun g k hk => ?_⟩
    rcases prepare_eq_error hp with hensure | ⟨w, hensure⟩
    · obtain ⟨w', d₂, -, -, hensure', -⟩ := hk
      obtain ⟨x', hx'⟩ := Workspace.ensure_failed hensure
      cases hx'.symm.trans hensure'
    · exact h.touches g k (touches_of_widens hensure (.refl d) hk)
  | ok w =>
    obtain ⟨d₁, text, changed, hensure, -, hwrite⟩ := prepare_eq_ok hp
    have hgrown : Disk.Grown st.bench.disk d₁ := (Workspace.ensure_eq_ok hensure).2.1
    obtain ⟨root, hplain, -⟩ := h.linkFree.isPlain hensure
    have hplace (names : List String)
        (hnames : names = [Workspace.manifestName] ∨ e.target? w f = some ⟨w.root.anchor, w.root.parts ++ names⟩) :
        l ≠ root ++ names := fun hl => hnot (h.touches f l ⟨w, d₁, root, names, hensure, hplain.root, hl, hnames⟩)
    have hensured : Spared w root l bytes d₁ d₁ := ⟨hplain, .refl d₁, hgrown.content?_of_some h.file⟩
    have hproper : ∀ name ∈ [Workspace.manifestName], Path.IsProper name := fun name hname => by
      rw [List.mem_singleton.1 hname]
      exact Workspace.isProper_manifestName
    have hprepared : Spared w root l bytes d₁ d := hensured.write hproper (hplace _ (.inl rfl)) hwrite
    have hwork := hprepared.work (b := ⟨d, st.bench.oracle⟩) hkeeps fun names hnames => hplace names (.inr hnames)
    rw [work_of_prepare hp] at hwork
    exact ⟨h.noNull, hfree, hwork.widens.locateFrom (hgrown.toWidens.locateFrom h.locate), hwork.file,
      fun g k hk => h.touches g k (touches_of_widens hensure hwork.widens hk)⟩

theorem keeping_of_readBytes (hfree : e.LinkFree d) (hread : d.readBytes q = .ok bytes) (hl : d.locate q = .ok l) :
    e.Keeping d q l bytes d := by
  obtain ⟨hnull, k, hk, hfile⟩ := Disk.readBytes_eq_ok_iff.1 hread
  cases hl.symm.trans hk
  exact ⟨hnull, hfree, hl, hfile, fun _ _ h => h⟩

/-- **What is read in a place that no flow touches stays the same through all flows.** -/
theorem readBytes_afterAll (hkeeps : e.oracle.KeepsDisk) (hfree : e.LinkFree st.bench.disk)
    (hread : st.bench.disk.readBytes q = .ok bytes) (hl : st.bench.disk.locate q = .ok l) :
    ∀ flows : List Flow, (∀ f ∈ flows, ¬ e.Touches st.bench.disk f l) →
      (e.afterAll st flows).bench.disk.readBytes q = .ok bytes := by
  intro flows hflows
  suffices e.Keeping st.bench.disk q l bytes (e.afterAll st flows).bench.disk from this.readBytes
  induction flows using List.reverseRecOn with
  | nil => exact keeping_of_readBytes hfree hread hl
  | append_singleton front f ih =>
    rw [afterAll_snoc]
    exact (ih fun g hg => hflows g (List.mem_append_left _ hg)).after hkeeps
      (hflows f (List.mem_append_right _ List.mem_cons_self))

/-- **What is read in the place of the manifest of a workspace is that manifest after a flow**, whatever it was before. -/
theorem readText_after (hkeeps : e.oracle.KeepsDisk) (hfree : e.LinkFree st.bench.disk) (hnull : q.hasNull = false)
    (hp : e.prepare f.standalone st.bench.disk = (.ok w, d))
    (hensure : Workspace.ensure e.project e.config.workspaceDirectory st.bench.disk = (.ok w, d₁))
    (hroot : d₁.locateName w.root = .ok root) (hl : st.bench.disk.locate q = .ok (Workspace.manifestPlace root)) :
    ∃ text, w.manifestText f.standalone e.manifestPath d₁ = .ok text ∧ (e.after st f).bench.disk.readText q = .ok text := by
  obtain ⟨d₁', text, root', changed, hensure', htext, hforce, hwidens, -⟩ := inForce_of_prepare hfree hp
  cases hensure.symm.trans hensure'
  have hgrown : Disk.Grown st.bench.disk d₁ := (Workspace.ensure_eq_ok hensure).2.1
  have hsettled := settled_after hkeeps hp ⟨hforce, hwidens, rfl⟩
  have hroot' : d.locateName w.root = .ok root := hwidens.locateFrom hroot
  cases hroot'.symm.trans hforce.plain.root
  obtain ⟨bytes, hfile, hbytes⟩ := hsettled.inForce.placed
  have hq : (e.after st f).bench.disk.locate q = .ok (Workspace.manifestPlace root) :=
    hsettled.widens.locateFrom (hgrown.toWidens.locateFrom hl)
  refine ⟨text, htext, ?_⟩
  rw [Disk.readText_of_locate hnull hq hfile, hbytes]
  rfl

/-- **Flows leave a project as it is but for the files that they put**, with an oracle that changes nothing on the disk. A file
stays as it is unless a flow puts the manifest of its workspace or the file of its module in its place. Where the workspace
holds no link, what is read in any other place than those is the same after all flows; a manifest is in one of those places
only if the workspace is in the directory of that manifest, and then a flow that prepares the workspace overwrites it. -/
theorem untouched_or_replaced (hkeeps : e.oracle.KeepsDisk) (st : EngineState σ) :
    (∀ flows l bytes, st.bench.disk.tree.content? l = some (.file bytes) →
      (e.afterAll st flows).bench.disk.tree.content? l = some (.file bytes) ∨
        ∃ done f, done ++ [f] <+: flows ∧ e.Replaces (e.afterAll st done) f l) ∧
      (∀ f k, e.Touches st.bench.disk f (k ++ [Workspace.manifestName]) ↔
        ∃ w d₁, Workspace.ensure e.project e.config.workspaceDirectory st.bench.disk = (.ok w, d₁) ∧
          d₁.locateName w.root = .ok k) ∧
      (e.LinkFree st.bench.disk → ∀ q bytes l, st.bench.disk.readBytes q = .ok bytes → st.bench.disk.locate q = .ok l →
        (∀ flows : List Flow, (∀ f ∈ flows, ¬ e.Touches st.bench.disk f l) →
          (e.afterAll st flows).bench.disk.readBytes q = .ok bytes) ∧
          ∀ (f : Flow) w d d₁ root, e.prepare f.standalone st.bench.disk = (.ok w, d) →
            Workspace.ensure e.project e.config.workspaceDirectory st.bench.disk = (.ok w, d₁) →
            d₁.locateName w.root = .ok root → l = Workspace.manifestPlace root →
              ∃ text, w.manifestText f.standalone e.manifestPath d₁ = .ok text ∧
                (e.after st f).bench.disk.readText q = .ok text) := by
  refine ⟨fun flows l bytes h => content?_afterAll hkeeps st flows h, fun f k => touches_manifest_iff,
    fun hfree q bytes l hread hl => ⟨readBytes_afterAll hkeeps hfree hread hl,
      fun f w d d₁ root hp hensure hroot hplace => ?_⟩⟩
  rw [hplace] at hl
  exact readText_after hkeeps hfree (Disk.readBytes_eq_ok_iff.1 hread).1 hp hensure hroot hl

/-! ## A project that is left as it is, and one whose manifest is overwritten -/

open Isolation

/-- The manifest of the project is read as before after a check, since the workspace is elsewhere. -/
theorem untouched_or_replaced_sample :
    let e := sampleEngine {}
    let st := fresh sampleDisk
    e.LinkFree sampleDisk ∧ ¬ e.Touches sampleDisk sampleFlow ["project", "elm.json"] ∧
      ∃ bytes, sampleDisk.readBytes e.manifestPath = .ok bytes ∧
        (e.afterAll st [sampleFlow]).bench.disk.readBytes e.manifestPath = .ok bytes := by
  intro e st
  have hfree : e.LinkFree sampleDisk := isPrepared_sampleDisk.linkFree isUnlinked_sampleDisk {}
  obtain ⟨-, hmanifest, hread⟩ := untouched_or_replaced (e := sampleEngine {}) (Mock.keepsDisk {}) st
  have hnot : ¬ e.Touches sampleDisk sampleFlow ["project", "elm.json"] := by
    intro htouches
    obtain ⟨w, d₁, hensure, hroot⟩ := (hmanifest sampleFlow ["project"]).1 htouches
    cases isPrepared_sampleDisk.ensure.symm.trans hensure
    have hname : sampleDisk.locateName sampleWorkspace.root = .ok ["project", "elm-stuff", "elm-ai"] := by decide +kernel
    cases hname.symm.trans hroot
  obtain ⟨m, hload⟩ := Workspace.load_of_manifestText isPrepared_sampleDisk.text
  obtain ⟨bytes, hbytes⟩ := Manifest.readBytes_of_load hload
  have hplace : sampleDisk.locate e.manifestPath = .ok ["project", "elm.json"] := by decide +kernel
  refine ⟨hfree, hnot, bytes, hbytes, ?_⟩
  exact (hread hfree e.manifestPath bytes _ hbytes hplace).1 [sampleFlow] fun f hf => by
    rw [List.mem_singleton.1 hf]
    exact hnot

/-- A workspace in the directory of its project. -/
def flatWorkspace : Workspace := ⟨sampleWorkspace.projectRoot, sampleWorkspace.projectRoot⟩

/-- An engine with that workspace. -/
def flatEngine : Engine Mock.Log :=
  ⟨{ workspaceDirectory := "." }, flatWorkspace.projectRoot, sampleManifest, Mock.oracle {}⟩

/-- The manifest that is derived for that workspace. -/
def flatText : String :=
  "\x7b\n    \"type\": \"application\",\n    \"source-directories\": [\n        \"src\",\n" ++
    "        \".elm-ai\"\n    ]\n\x7d\n"

/-- The project with the directories of that workspace. -/
@[irreducible] def flatDisk : Disk :=
  { sampleDisk with
    tree := ["src", "tests", ".elm-ai"].foldl
      (fun t name => t.create ["project", name] .directory directoryRights 0) sampleDisk.tree }

theorem ensure_flatDisk : Workspace.ensure flatEngine.project flatEngine.config.workspaceDirectory flatDisk =
    (.ok flatWorkspace, flatDisk) := by
  have hproject : flatDisk.tree.content? ["project"] = some .directory := by decide +kernel
  have hdirectories : ∀ p ∈ flatWorkspace.directories, flatDisk.isDirectory p = .ok true := by decide +kernel
  exact Workspace.ensure_of_isDirectory (Disk.resolve_of_directory (by decide) (by decide) hproject) (by rfl) hdirectories

/-- **The manifest of a project is overwritten where the workspace is in the directory of the project**: the settings are
accepted, the oracle changes nothing, and the flow succeeds. -/
theorem exists_manifest_overwritten :
    let e := flatEngine
    let st := fresh flatDisk
    e.config.accept = .ok e.config ∧ e.oracle.KeepsDisk ∧ e.manifestPath = e.project.child Workspace.manifestName ∧
      (e.answer st (.provision false)).isOk = true ∧
      (e.after st (.provision false)).bench.disk.readText e.manifestPath ≠ flatDisk.readText e.manifestPath := by
  intro e st
  have htext : flatWorkspace.manifestText false e.manifestPath flatDisk = .ok flatText := by decide +kernel
  have hresult : (Disk.writeIfChanged flatWorkspace.manifestPath flatText flatDisk).1 = .ok true := by decide +kernel
  have hread : (Disk.writeIfChanged flatWorkspace.manifestPath flatText flatDisk).2.readText e.manifestPath ≠
      flatDisk.readText e.manifestPath := by decide +kernel
  have hprovision := provision_fresh (prepare_of_write ensure_flatDisk htext (Prod.ext hresult rfl))
  refine ⟨by decide +kernel, Mock.keepsDisk {}, rfl, ?_, ?_⟩
  · show ((e.provision false st).1.map Answer.workspace).isOk = true
    rw [hprovision]
    rfl
  · show (e.provision false st).2.bench.disk.readText e.manifestPath ≠ _
    rw [hprovision]
    exact hread

end ElmAssay.Engine
