import ElmAssay.Proofs.Engine.Watched

/-!
# The right manifest at every check

Where the workspace of an engine holds no link (`Engine.LinkFree`), preparing it puts the manifest of the flow in force
(`inForce_of_prepare`), and what a flow does after that neither takes it out of force nor brings a link in
(`spares_settled`, `LinkFree.after`). So at every check of every flow the manifest of the workspace is the right one,
whatever flows and edits came before (`RightManifest`, `rightManifest_of_reached`).

A link would let two names stand for one file: if the manifest is a link to the file of the units, the unit is what is
read there at the check of the unit (`exists_check_not_rightManifest`).
-/

namespace ElmAssay

open Effect

variable {σ : Type}

/-- An oracle that changes nothing on the disk when it checks. -/
structure Oracle.KeepsDisk (o : Oracle σ) : Prop where
  compile : ∀ p directory b, (o.compile p directory b).2.disk = b.disk
  test : ∀ p directory b, (o.test p directory b).2.disk = b.disk

theorem Oracle.KeepsDisk.watched {o : Oracle σ} (h : o.KeepsDisk) : o.watched.KeepsDisk where
  compile p directory _ := h.compile p directory _
  test p directory _ := h.test p directory _

/-- A mock oracle changes nothing on the disk. -/
theorem Mock.keepsDisk (m : Mock) : m.oracle.KeepsDisk := by
  have hcheck (request : Mock.Request) (p directory : Path) (b : Bench Mock.Log) :
      (m.check request p directory b).2.disk = b.disk := by
    refine Keeps.bind (J := fun s => s.disk = b.disk) (fun s hs => ?_) (fun text => ?_) b rfl
    · rw [Bench.onDisk]
      cases hread : s.disk.readText (directory / p) with
      | error x => rw [Disk.ask_of_error hread]; exact hs
      | ok text => rw [Disk.ask_of_ok hread]; exact hs
    · refine Keeps.bind (fun s hs => hs) fun _ => ?_
      split
      · exact keeps_pure _
      · exact keeps_throw _
  exact ⟨hcheck .compile, hcheck .test⟩

namespace Engine

variable {e : Engine σ} {d d' d₁ : Disk} {w : Workspace} {l : Location} {text : String} {standalone : Bool}

/-! ## Workspaces without links -/

/-- The workspace that an engine prepares holds no link, at its root or below. -/
def LinkFree (e : Engine σ) (d : Disk) : Prop :=
  ∀ w d₁, Workspace.ensure e.project e.config.workspaceDirectory d = (.ok w, d₁) →
    ∀ l, d₁.locateName w.root = .ok l → ∀ k target, l <+: k → d₁.tree.content? k ≠ some (.link target)

theorem LinkFree.isPlain (hfree : e.LinkFree d)
    (h : Workspace.ensure e.project e.config.workspaceDirectory d = (.ok w, d₁)) :
    ∃ l, w.IsPlain d₁ l ∧ d₁.isDirectory w.root = .ok true := by
  obtain ⟨-, -, hdirs⟩ := Workspace.ensure_eq_ok h
  have hroot := hdirs w.root List.mem_cons_self
  obtain ⟨l, hl⟩ := Workspace.isPlain_of_isDirectory hroot (hfree w d₁ h)
  exact ⟨l, hl, hroot⟩

/-- Ways that are added to a workspace that was prepared bring no link in. -/
theorem LinkFree.of_widens (hfree : e.LinkFree d)
    (h : Workspace.ensure e.project e.config.workspaceDirectory d = (.ok w, d₁)) (hwidens : Disk.Widens d₁ d') :
    e.LinkFree d' := by
  intro w' d₂ h' l hl k target hk
  rw [Workspace.ensure_again h hwidens] at h'
  cases h'
  obtain ⟨l₁, hplain, -⟩ := hfree.isPlain h
  have hplain' := hplain.of_widens hwidens
  cases hplain'.root.symm.trans hl
  exact hplain'.noLink k target hk

/-! ## Preparing -/

/-- **Preparing a workspace puts its manifest in force.** -/
theorem inForce_of_prepare (hfree : e.LinkFree d) (h : e.prepare standalone d = (.ok w, d')) :
    ∃ d₁ text l changed, Workspace.ensure e.project e.config.workspaceDirectory d = (.ok w, d₁) ∧
      w.manifestText standalone e.manifestPath d₁ = .ok text ∧ w.InForce text d' l ∧ Disk.Widens d₁ d' ∧
      Disk.writeIfChanged w.manifestPath text d₁ = (.ok changed, d') ∧
      d'.writes = d₁.writes ++ (if changed then [w.manifestPath] else []) := by
  rw [prepare_run] at h
  rcases hensure : Workspace.ensure e.project e.config.workspaceDirectory d with ⟨result, d₁⟩
  rw [hensure] at h
  cases result with
  | error x => cases h
  | ok w' =>
    dsimp only at h
    cases htext : w'.manifestText standalone e.manifestPath d₁ with
    | error x => rw [htext] at h; cases h
    | ok text =>
      rw [htext] at h
      dsimp only at h
      rcases hwrite : Disk.writeIfChanged w'.manifestPath text d₁ with ⟨result, d₂⟩
      rw [hwrite] at h
      cases result with
      | error x => cases h
      | ok changed =>
        cases h
        obtain ⟨l, hplain, hroot⟩ := hfree.isPlain hensure
        obtain ⟨hforce, hwidens, hwrites⟩ :=
          hplain.writeManifest hroot (Workspace.not_mem_manifestText htext) hwrite
        exact ⟨d₁, text, l, changed, rfl, htext, hforce, hwidens, hwrite, hwrites⟩

/-- Where preparing fails, the directories could not be made, or nothing was done but to make them. -/
theorem prepare_eq_error {x : Failure} (h : e.prepare standalone d = (.error x, d')) :
    Workspace.ensure e.project e.config.workspaceDirectory d = (.error x, d') ∨
      ∃ w, Workspace.ensure e.project e.config.workspaceDirectory d = (.ok w, d') := by
  rw [prepare_run] at h
  rcases hensure : Workspace.ensure e.project e.config.workspaceDirectory d with ⟨result, d₁⟩
  rw [hensure] at h
  cases result with
  | error x' => cases h; exact .inl rfl
  | ok w =>
    have hroot := (Workspace.ensure_eq_ok hensure).2.2 w.root List.mem_cons_self
    dsimp only at h
    cases htext : w.manifestText standalone e.manifestPath d₁ with
    | error x' => rw [htext] at h; cases h; exact .inr ⟨w, rfl⟩
    | ok text =>
      rw [htext] at h
      dsimp only at h
      rcases hwrite : Disk.writeIfChanged w.manifestPath text d₁ with ⟨result, d₂⟩
      rw [hwrite] at h
      cases result with
      | ok changed => cases h
      | error x' =>
        cases h
        rw [Workspace.writeManifest_failed hroot hwrite]
        exact .inr ⟨w, rfl⟩

/-! ## After preparing -/

/-- A manifest is in force on a disk that has the ways of an earlier one, and was written so many times. -/
structure Settled (w : Workspace) (text : String) (l : Location) (earlier : Disk) (count : Nat) (d : Disk) : Prop where
  inForce : w.InForce text d l
  widens : Disk.Widens earlier d
  count : d.writes.count w.manifestPath = count

theorem Settled.writeBelow {count : Nat} (h : Settled w text l d₁ count d) {directory : String}
    (hdirectory : Path.IsProper directory) {p : Path} (hp : p.IsModuleFile) (source : String) :
    Settled w text l d₁ count (w.writeBelow (w.root.child directory / p) source d).2 := by
  obtain ⟨hforce, hwidens, hcount⟩ := h.inForce.writeBelow hdirectory hp source
  exact ⟨hforce, h.widens.trans hwidens, hcount.trans h.count⟩

/-- A settled manifest stays settled in what a flow does after preparing. -/
theorem spares_settled (hkeeps : e.oracle.KeepsDisk) (w : Workspace) (text : String) (l : Location) (d₁ : Disk)
    (count : Nat) : e.Spares w fun b => Settled w text l d₁ count b.disk where
  write _ _ source hdirectory hp _ hb := hb.writeBelow hdirectory hp source
  compile p b hb := by
    show Settled w text l d₁ count (e.oracle.compile p w.root b).2.disk
    rw [hkeeps.compile]
    exact hb
  test p b hb := by
    show Settled w text l d₁ count (e.oracle.test p w.root b).2.disk
    rw [hkeeps.test]
    exact hb

/-- A flow that prepared the workspace leaves the manifest settled. -/
theorem settled_after (hkeeps : e.oracle.KeepsDisk) {count : Nat} {f : Flow} {st : EngineState σ}
    (h : e.prepare f.standalone st.bench.disk = (.ok w, d')) (hsettled : Settled w text l d₁ count d') :
    Settled w text l d₁ count (e.after st f).bench.disk := by
  have hprovision := e.provision_run f.standalone st
  rw [h] at hprovision
  exact keeps_after hprovision (spares_settled hkeeps w text l d₁ count) hsettled

/-- A flow that could not prepare the workspace leaves the disk as preparing left it. -/
theorem disk_after_of_error {f : Flow} {st : EngineState σ} {x : Failure}
    (h : e.prepare f.standalone st.bench.disk = (.error x, d')) : (e.after st f).bench.disk = d' := by
  have hprovision := e.provision_run f.standalone st
  rw [h] at hprovision
  rw [after_of_error hprovision]

/-- **No flow brings a link into the workspace.** -/
theorem LinkFree.after (hkeeps : e.oracle.KeepsDisk) {st : EngineState σ} (hfree : e.LinkFree st.bench.disk) (f : Flow) :
    e.LinkFree (e.after st f).bench.disk := by
  rcases hp : e.prepare f.standalone st.bench.disk with ⟨result, d'⟩
  cases result with
  | ok w =>
    obtain ⟨d₁, text, l, changed, hensure, -, hforce, hwidens, -⟩ := inForce_of_prepare hfree hp
    exact hfree.of_widens hensure (settled_after hkeeps hp ⟨hforce, hwidens, rfl⟩).widens
  | error x =>
    rw [disk_after_of_error hp]
    rcases prepare_eq_error hp with hensure | ⟨w, hensure⟩
    · intro w d₁ h
      obtain ⟨x', hx'⟩ := Workspace.ensure_failed hensure
      cases hx'.symm.trans h
    · exact hfree.of_widens hensure (.refl d')

/-! ## The right manifest -/

/-- On a disk, the manifest of the workspace has the text that a flow wants that started on another disk: that of the
manifest derived from the one of the project as it was then, or of the standalone one. -/
def RightManifest (e : Engine σ) (standalone : Bool) (start d : Disk) : Prop :=
  ∃ w d₁ text, Workspace.ensure e.project e.config.workspaceDirectory start = (.ok w, d₁) ∧
    (∀ bytes, start.readBytes e.manifestPath = .ok bytes → d₁.readBytes e.manifestPath = .ok bytes) ∧
    w.manifestText standalone e.manifestPath d₁ = .ok text ∧ d.readText w.manifestPath = .ok text

/-- At every check of a flow the manifest is the right one. -/
theorem rightManifest_of_linkFree (hkeeps : e.oracle.KeepsDisk) {st : EngineState σ} (hfree : e.LinkFree st.bench.disk)
    (f : Flow) : ∀ d ∈ e.checks st f, e.RightManifest f.standalone st.bench.disk d := by
  have hprovision := e.watched.provision_run f.standalone (unnoted st)
  have hprepare : e.watched.prepare f.standalone (unnoted st).bench.disk = e.prepare f.standalone st.bench.disk := rfl
  rw [hprepare] at hprovision
  rcases hp : e.prepare f.standalone st.bench.disk with ⟨result, d'⟩
  rw [hp] at hprovision
  cases result with
  | error x =>
    rw [checks, after_of_error hprovision]
    exact fun d hd => by cases hd
  | ok w =>
    obtain ⟨d₁, text, l, changed, hensure, htext, hforce, hwidens, -⟩ := inForce_of_prepare hfree hp
    have hgrown := Workspace.ensure_grown e.project e.config.workspaceDirectory st.bench.disk
    rw [hensure] at hgrown
    -- the manifest is in force, and was so whenever the disk was noted
    have hspares : e.watched.Spares w fun b => w.InForce text b.disk l ∧
        ∀ d ∈ b.oracle.2, d.readText w.manifestPath = .ok text := by
      have hnoted {b : Bench (σ × List Disk)} (hb : w.InForce text b.disk l ∧
          ∀ d ∈ b.oracle.2, d.readText w.manifestPath = .ok text) :
          ∀ d ∈ b.oracle.2 ++ [b.disk], d.readText w.manifestPath = .ok text := by
        intro d hd
        rcases List.mem_append.1 hd with hd | hd
        · exact hb.2 d hd
        · rw [List.mem_singleton.1 hd]
          exact hb.1.readText
      refine ⟨fun directory p source hdirectory hp b hb => ?_, fun p b hb => ?_, fun p b hb => ?_⟩
      · exact ⟨(hb.1.writeBelow hdirectory hp source).1, hb.2⟩
      · have hdisk := hkeeps.watched.compile p w.root b
        exact ⟨by show w.InForce text (e.oracle.watched.compile p w.root b).2.disk l; rw [hdisk]; exact hb.1, hnoted hb⟩
      · have hdisk := hkeeps.watched.test p w.root b
        exact ⟨by show w.InForce text (e.oracle.watched.test p w.root b).2.disk l; rw [hdisk]; exact hb.1, hnoted hb⟩
    have hall := (keeps_after hprovision hspares ⟨hforce, fun d hd => by cases hd⟩).2
    exact fun d hd => ⟨w, d₁, text, hensure, fun bytes => hgrown.readBytes, htext, hall d hd⟩

/-! ## Runs -/

/-- **A state that flows and edits lead to.** An edit may change everything on the disk, but it brings no link into the
workspace. -/
inductive Reached (e : Engine σ) (start : EngineState σ) : EngineState σ → Prop
  | start : Reached e start start
  | flow {st : EngineState σ} (f : Flow) : Reached e start st → Reached e start (e.after st f)
  | edit {st : EngineState σ} (d : Disk) : Reached e start st → e.LinkFree d →
      Reached e start { st with bench := { st.bench with disk := d } }

theorem Reached.linkFree (hkeeps : e.oracle.KeepsDisk) {start st : EngineState σ} (hfree : e.LinkFree start.bench.disk)
    (h : e.Reached start st) : e.LinkFree st.bench.disk := by
  induction h with
  | start => exact hfree
  | flow f _ ih => exact LinkFree.after hkeeps ih f
  | edit d _ hd _ => exact hd

/-- **At every check of every flow the manifest of the workspace is the right one**, whatever flows and edits came
before, if the workspace holds no link. -/
theorem rightManifest_of_reached (hkeeps : e.oracle.KeepsDisk) {start st : EngineState σ}
    (hfree : e.LinkFree start.bench.disk) (h : e.Reached start st) (f : Flow) :
    ∀ d ∈ e.checks st f, e.RightManifest f.standalone st.bench.disk d :=
  rightManifest_of_linkFree hkeeps (h.linkFree hkeeps hfree) f

/-! ## A project without links, and one with a link -/

open Isolation

/-- No entry of a tree is a link. -/
class IsUnlinked (d : Disk) : Prop where
  entries : (d.tree.entries.all fun e => !(e.2.content matches .link _)) = true

instance isUnlinked_sampleDisk : IsUnlinked sampleDisk where
  entries := by decide +kernel

theorem IsArranged.linkFree (h : IsArranged d) (hunlinked : IsUnlinked d) (m : Mock) : (sampleEngine m).LinkFree d := by
  intro w d₁ hensure l _ k target _
  have hsame : Workspace.ensure (sampleEngine m).project (sampleEngine m).config.workspaceDirectory d =
      (.ok sampleWorkspace, d) := h.ensure
  cases hsame.symm.trans hensure
  exact Tree.content?_ne_link_of_entries hunlinked.entries k target

/-- The project where the manifest of the workspace is a link to the file of the units, which has its text. -/
@[irreducible] def linkedDisk : Disk :=
  { sampleDisk with
    tree := (sampleDisk.tree.create ["project", "elm-stuff", "elm-ai", "elm.json"]
      (.link ".elm-ai/ElmAiCandidate.elm") linkRights 0).create
        (sampleDirectory ++ ["ElmAiCandidate.elm"]) (.file (Text.Utf8.encode sampleText.toList)) fileRights 0 }

instance isPrepared_linkedDisk : IsPrepared linkedDisk where
  project := by decide +kernel
  directories := by decide +kernel
  text := manifestText_of_readBytes (by decide +kernel) (by rw [linkedDisk])
  holds := by decide +kernel

theorem provision_watched {m : Mock} (h : (sampleEngine m).prepare false d = (.ok sampleWorkspace, d')) :
    (sampleEngine m).watched.provision false (unnoted (fresh d)) =
      (.ok sampleWorkspace, ⟨⟨d', ([], [])⟩, .provisioning, [.provisioning], []⟩) := by
  have hprepare : (sampleEngine m).watched.prepare false (unnoted (fresh d)).bench.disk = (.ok sampleWorkspace, d') := h
  rw [provision_run, hprepare]
  rfl

/-- A check has the right manifest, and so have all that follow when the workspace was checked and taken back to what it
was. -/
theorem rightManifest_of_reached_sample :
    let e := sampleEngine {}
    let st := fresh sampleDisk
    (∃ d ∈ e.checks st sampleFlow, e.RightManifest false sampleDisk d) ∧
      ∀ d ∈ e.checks { e.after st sampleFlow with bench := { (e.after st sampleFlow).bench with disk := sampleDisk } }
        sampleFlow, e.RightManifest false sampleDisk d := by
  intro e st
  have hkeeps : e.oracle.KeepsDisk := Mock.keepsDisk {}
  have hfree : e.LinkFree st.bench.disk := isPrepared_sampleDisk.linkFree isUnlinked_sampleDisk {}
  have hchecks : e.checks st sampleFlow ≠ [] := by
    rw [checks, sampleFlow, after, compileCheck, bind_of_ok (provision_watched (isPrepared_sampleDisk.prepare {}))]
    decide +kernel
  obtain ⟨d, hd⟩ := List.exists_mem_of_ne_nil _ hchecks
  exact ⟨⟨d, hd, rightManifest_of_reached hkeeps hfree .start sampleFlow d hd⟩,
    rightManifest_of_reached hkeeps hfree (.edit sampleDisk (.flow sampleFlow .start) hfree) sampleFlow⟩

/-- **Behind a link the manifest may be another text at a check**: the manifest of the project and that of the workspace
are different files, but the latter is the file of the units. -/
theorem exists_check_not_rightManifest :
    let e := sampleEngine {}
    let st := fresh linkedDisk
    e.oracle.KeepsDisk ∧ linkedDisk.locate e.manifestPath ≠ linkedDisk.locate sampleWorkspace.manifestPath ∧
      ∃ d ∈ e.checks st sampleFlow, ¬ e.RightManifest false linkedDisk d := by
  intro e st
  refine ⟨Mock.keepsDisk {}, by decide +kernel, ?_⟩
  have hread : ((e.checks st sampleFlow).any fun d =>
      decide (d.readText sampleWorkspace.manifestPath ≠ .ok sampleText)) = true := by
    rw [checks, sampleFlow, after, compileCheck, bind_of_ok (provision_watched (isPrepared_linkedDisk.prepare {}))]
    decide +kernel
  obtain ⟨d, hd, hother⟩ := List.any_eq_true.1 hread
  refine ⟨d, hd, ?_⟩
  rintro ⟨w, d₁, text, hensure, -, htext, htext'⟩
  cases isPrepared_linkedDisk.ensure.symm.trans hensure
  cases isPrepared_linkedDisk.text.symm.trans htext
  exact of_decide_eq_true hother htext'

end Engine
end ElmAssay
