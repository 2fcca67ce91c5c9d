import ElmAssay.Proofs.Disk.Resolve
import ElmAssay.Proofs.Manifest.Derive
import ElmAssay.Proofs.ModuleFile

/-!
# Workspaces that are prepared again

A workspace that was prepared has its directories (`ensure_eq_ok`), and as long as none of them is taken away it is
prepared again without a change (`ensure_again`); one that could not be prepared still cannot (`ensure_failed`).

A workspace is plain (`Workspace.IsPlain`) if its root is a directory, with no link at it or below it. Then a file that
is written below its root lies there, where its parts lead down from the root, and takes the place of no link and no
directory: the workspace stays plain, every path leads where it led, and the manifest stays as it is
(`IsPlain.writeIfChanged`).
-/

namespace ElmAssay

open Effect

/-! ## Several directories -/

namespace Disk

variable {d d' : Disk} {p : Path}

/-- Makes directories, one after the other. -/
def makeEach : List Path → DiskM Unit
  | [] => return
  | p :: rest => do
    makeDirectories p
    makeEach rest

theorem makeEach_grown (ps : List Path) (d : Disk) : Grown d (makeEach ps d).2 := by
  induction ps generalizing d with
  | nil => exact .refl d
  | cons p rest ih =>
    have hgrown := makeDirectories_grown p d
    rw [makeEach, bind_run]
    rcases hmake : makeDirectories p d with ⟨result, d₁⟩
    rw [hmake] at hgrown
    cases result with
    | error e => exact hgrown
    | ok _ => exact hgrown.trans (ih d₁)

theorem isDirectory_of_makeEach {ps : List Path} (h : makeEach ps d = (.ok (), d')) :
    ∀ p ∈ ps, d'.isDirectory p = .ok true := by
  induction ps generalizing d with
  | nil => exact fun p hp => by cases hp
  | cons q rest ih =>
    rw [makeEach] at h
    obtain ⟨⟨⟩, d₁, hmake, hrest⟩ := bind_eq_ok h
    have hgrown := makeEach_grown rest d₁
    rw [hrest] at hgrown
    intro p hp
    rcases List.mem_cons.1 hp with rfl | hp
    · exact hgrown.toWidens.isDirectory (isDirectory_of_makeDirectories hmake)
    · exact ih hrest p hp

theorem makeEach_of_isDirectory {ps : List Path} (h : ∀ p ∈ ps, d.isDirectory p = .ok true) :
    makeEach ps d = (.ok (), d) := by
  induction ps with
  | nil => rfl
  | cons p rest ih =>
    rw [makeEach, bind_of_ok (makeDirectories_of_isDirectory (h p List.mem_cons_self))]
    exact ih fun q hq => h q (List.mem_cons_of_mem _ hq)

theorem makeEach_failed {ps : List Path} {e : Failure} (h : makeEach ps d = (.error e, d')) :
    ∃ e', makeEach ps d' = (.error e', d') := by
  induction ps generalizing d with
  | nil => cases h
  | cons p rest ih =>
    rw [makeEach, bind_run] at h
    rcases hmake : makeDirectories p d with ⟨result, d₁⟩
    rw [hmake] at h
    cases result with
    | error e' =>
      cases h
      obtain ⟨e₁, he₁⟩ := makeDirectories_failed hmake
      exact ⟨e₁, by rw [makeEach, bind_of_error he₁]⟩
    | ok _ =>
      -- the first directory is there by now, so it is the others that fail again
      have hgrown := makeEach_grown rest d₁
      dsimp only at h
      rw [h] at hgrown
      have hdir := hgrown.toWidens.isDirectory (isDirectory_of_makeDirectories hmake)
      obtain ⟨e₁, he₁⟩ := ih h
      exact ⟨e₁, by rw [makeEach, bind_of_ok (makeDirectories_of_isDirectory hdir), he₁]⟩

end Disk

namespace Workspace

variable {w : Workspace} {d d' d'' : Disk} {project : Path} {directory : String} {l : Location}

/-! ## Preparing -/

/-- The directories of a workspace, in the order in which they are made. -/
def directories (w : Workspace) : List Path := [w.root, w.sources, w.tests, w.privateRoot]

/-- The workspace of a project by its root. -/
def ofRoot (projectRoot : Path) (directory : String) : Workspace :=
  ⟨projectRoot, projectRoot / Path.parse directory⟩

/-- Preparing a workspace is resolving the project and making the directories. -/
theorem ensure_run (project : Path) (directory : String) (d : Disk) :
    ensure project directory d =
      match d.resolve project with
      | .error e => (.error e, d)
      | .ok projectRoot =>
        match Disk.makeEach (ofRoot projectRoot directory).directories d with
        | (.ok _, d') => (.ok (ofRoot projectRoot directory), d')
        | (.error e, d') => (.error e, d') := by
  rw [ensure]
  cases hresolve : d.resolve project with
  | error e => rw [bind_of_error (Disk.ask_of_error hresolve)]
  | ok projectRoot =>
    rw [bind_of_ok (Disk.ask_of_ok hresolve)]
    simp only [directories, Disk.makeEach, bind_run, ofRoot]
    repeat' (first | rfl | split)

theorem ensure_grown (project : Path) (directory : String) (d : Disk) :
    Disk.Grown d (ensure project directory d).2 := by
  rw [ensure_run]
  cases d.resolve project with
  | error e => exact .refl d
  | ok projectRoot =>
    have hgrown := Disk.makeEach_grown (ofRoot projectRoot directory).directories d
    dsimp only
    rcases hmake : Disk.makeEach (ofRoot projectRoot directory).directories d with ⟨result, d'⟩
    rw [hmake] at hgrown
    cases result <;> exact hgrown

/-- A workspace that was prepared is that of the resolved project, and its directories are there. -/
theorem ensure_eq_ok (h : ensure project directory d = (.ok w, d')) :
    (∃ projectRoot, d.resolve project = .ok projectRoot ∧ w = ofRoot projectRoot directory) ∧ Disk.Grown d d' ∧
      ∀ p ∈ w.directories, d'.isDirectory p = .ok true := by
  have hgrown := ensure_grown project directory d
  rw [h] at hgrown
  rw [ensure_run] at h
  cases hresolve : d.resolve project with
  | error e => rw [hresolve] at h; cases h
  | ok projectRoot =>
    rw [hresolve] at h
    dsimp only at h
    rcases hmake : Disk.makeEach (ofRoot projectRoot directory).directories d with ⟨result, d₁⟩
    rw [hmake] at h
    cases result with
    | error e => cases h
    | ok _ =>
      cases h
      exact ⟨⟨projectRoot, rfl, rfl⟩, hgrown, Disk.isDirectory_of_makeEach hmake⟩

/-- A workspace whose directories are there is prepared without a change. -/
theorem ensure_of_isDirectory (hresolve : d.resolve project = .ok w.projectRoot)
    (hroot : ofRoot w.projectRoot directory = w) (hdirs : ∀ p ∈ w.directories, d.isDirectory p = .ok true) :
    ensure project directory d = (.ok w, d) := by
  rw [ensure_run, hresolve]
  dsimp only
  rw [hroot, Disk.makeEach_of_isDirectory hdirs]

/-- **A workspace that was prepared is prepared again without a change**, as long as its directories are there. -/
theorem ensure_again (h : ensure project directory d = (.ok w, d')) (hwidens : Disk.Widens d' d'') :
    ensure project directory d'' = (.ok w, d'') := by
  obtain ⟨⟨projectRoot, hresolve, rfl⟩, hgrown, hdirs⟩ := ensure_eq_ok h
  have hresolve' : d''.resolve project = .ok projectRoot := by
    rw [← hresolve]
    exact ((hgrown.toWidens.trans hwidens).resolve project).symm
  exact ensure_of_isDirectory hresolve' rfl fun p hp => hwidens.isDirectory (hdirs p hp)

/-- **A workspace that could not be prepared cannot be prepared on the next attempt**, which changes nothing. -/
theorem ensure_failed {e : Failure} (h : ensure project directory d = (.error e, d')) :
    ∃ e', ensure project directory d' = (.error e', d') := by
  have hgrown := ensure_grown project directory d
  rw [h] at hgrown
  rw [ensure_run] at h
  rw [ensure_run, ← hgrown.toWidens.resolve project]
  cases hresolve : d.resolve project with
  | error e' => exact ⟨e', rfl⟩
  | ok projectRoot =>
    rw [hresolve] at h
    dsimp only at h
    rcases hmake : Disk.makeEach (ofRoot projectRoot directory).directories d with ⟨result, d₁⟩
    rw [hmake] at h
    cases result with
    | ok _ => cases h
    | error e' =>
      cases h
      obtain ⟨e₁, he₁⟩ := Disk.makeEach_failed hmake
      exact ⟨e₁, by dsimp only; rw [he₁]⟩

/-- Writing below the root is refusing a path that is not, or writing. -/
theorem writeBelow_eq (w : Workspace) (p : Path) (text : String) (d : Disk) :
    w.writeBelow p text d =
      match p.below? w.root with
      | none => (.error (.outside p w.root), d)
      | some _ =>
        match Disk.writeIfChanged p text d with
        | (.ok _, d') => (.ok (), d')
        | (.error x, d') => (.error x, d') := by
  rw [writeBelow]
  cases hbelow : p.below? w.root with
  | none => rfl
  | some q =>
    dsimp only
    rw [bind_run, writeSource, Path.join_below? hbelow, bind_run]
    rcases Disk.writeIfChanged p text d with ⟨result, d'⟩
    cases result <;> rfl

/-! ## Workspaces without links -/

/-- A workspace whose root is a directory at a location, with no link there or below it. -/
structure IsPlain (w : Workspace) (d : Disk) (l : Location) : Prop where
  root : d.locateName w.root = .ok l
  isDirectory : d.tree.content? l = some .directory
  noLink : ∀ k target, l <+: k → d.tree.content? k ≠ some (.link target)

namespace IsPlain

theorem of_widens (h : w.IsPlain d l) (hwidens : Disk.Widens d d') : w.IsPlain d' l where
  root := hwidens.locateFrom h.root
  isDirectory := hwidens.tree.directory h.isDirectory
  noLink k target hk hlink := h.noLink k target hk (hwidens.tree.link_iff.1 hlink)

theorem locate (h : w.IsPlain d l) : d.locate w.root = .ok l := by
  rcases Disk.locateName_cases (Disk.short_of_locateFrom h.root) with hsame | ⟨k, target, hk, hlink⟩
  · rw [← hsame, h.root]
  · cases h.root.symm.trans hk
    cases h.isDirectory.symm.trans hlink

end IsPlain

/-- The root of a workspace that is there names a location; if there is no link at it or below it, the workspace is
plain. -/
theorem isPlain_of_isDirectory (hroot : d.isDirectory w.root = .ok true)
    (hlink : ∀ l, d.locateName w.root = .ok l → ∀ k target, l <+: k → d.tree.content? k ≠ some (.link target)) :
    ∃ l, w.IsPlain d l := by
  obtain ⟨-, l, hl, hc⟩ := Disk.isDirectory_eq_true_iff.1 hroot
  rcases Disk.locateName_cases (Disk.short_of_locateFrom hl) with hsame | ⟨k, target, hk, htarget⟩
  · have hname : d.locateName w.root = .ok l := hsame.trans hl
    exact ⟨l, hname, hc, hlink l hname⟩
  · exact absurd htarget (hlink k hk k target (List.prefix_refl k))

/-- The place of the manifest. -/
def manifestPlace (l : Location) : Location := l ++ [manifestName]

/-! ## Writing below the root -/

namespace IsPlain

variable {p q : Path} {text : String} {directory : Location}

/-- In a plain workspace, the site of a file below the root is where its parts lead down, and no link is there. -/
theorem site (h : w.IsPlain d l) (hp : p = ⟨w.root.anchor, w.root.parts ++ q.parts⟩)
    (hproper : ∀ part ∈ q.parts, Path.IsProper part) (hsite : d.Site p directory) :
    d.PlainSite p directory ∧ directory ++ [p.name] = l ++ q.parts := by
  by_cases hq : q.parts = []
  · -- the root itself is a directory, which is no site
    have hself : p = w.root := by rw [hp, hq, List.append_nil]
    have hname : d.locateName p = .ok (directory ++ [p.name]) :=
      Disk.locateFrom_of_parent hsite.short hsite.parts hsite.parent hsite.step (by simp)
    rw [hself, h.root, Except.ok.injEq] at hname
    have hvacant := hsite.vacant
    rw [hself, ← hname] at hvacant
    exact absurd h.isDirectory hvacant
  · have hshort := Disk.short_of_locateFrom h.locate
    have hroot := h.locate
    have hparent := hsite.parent
    have hstart : d.startOf p.parent = d.startOf w.root := by rw [hp]; rfl
    have hparts : p.parent.parts = w.root.parts ++ q.parts.dropLast := by
      rw [hp, Path.parent, List.dropLast_append_of_ne_nil hq]
    have hname : p.name = q.name := by
      rw [hp, Path.name, Path.name, List.getLastD_eq_getLast?, List.getLastD_eq_getLast?,
        List.getLast?_append_of_ne_nil _ hq]
    rw [Disk.locate, Disk.locateFrom_eq true hshort] at hroot
    rw [Disk.locate, Disk.locateFrom_eq true (Disk.short_of_locateFrom hparent), hstart, hparts] at hparent
    have hdirectory : directory = l ++ q.parts.dropLast :=
      Tree.walk_append_names hroot h.noLink (fun name hn => hproper name (List.dropLast_subset _ hn)) hparent
    have hplace : directory ++ [p.name] = l ++ q.parts := by
      rw [hdirectory, hname, List.append_assoc]
      exact congrArg (l ++ ·) (Path.parts_eq hq).symm
    exact ⟨⟨hsite, fun target => h.noLink _ target (hplace ▸ List.prefix_append _ _)⟩, hplace⟩

/-- **A write below the root of a plain workspace leads no path elsewhere**, and leaves all files as they are but the one that
is written. -/
theorem kept (h : w.IsPlain d l) (hp : p = ⟨w.root.anchor, w.root.parts ++ q.parts⟩)
    (hproper : ∀ part ∈ q.parts, Path.IsProper part) {result : Except Failure Bool}
    (hwrite : Disk.writeIfChanged p text d = (result, d')) :
    Disk.Widens d d' ∧ ∀ k bytes, k ≠ l ++ q.parts → d.tree.content? k = some (.file bytes) →
      d'.tree.content? k = some (.file bytes) := by
  rcases Disk.writeIfChanged_changes hwrite with hgrown | ⟨d₁, directory, hgrown, hsite, rfl⟩
  · exact ⟨hgrown.toWidens, fun k bytes _ hc => hgrown.content?_of_some hc⟩
  · obtain ⟨hplain, hplace⟩ := (h.of_widens hgrown.toWidens).site hp hproper hsite
    refine ⟨hgrown.toWidens.trans (hplain.widens text), fun k bytes hk hc => ?_⟩
    rw [(Disk.written_afterWrite d₁ p directory text).kept k (hplace ▸ hk)]
    exact hgrown.content?_of_some hc

/-- A write of another file below the root leaves the manifest as it is. -/
theorem writeIfChanged (h : w.IsPlain d l) (hp : p = ⟨w.root.anchor, w.root.parts ++ q.parts⟩)
    (hproper : ∀ part ∈ q.parts, Path.IsProper part) (hname : p.name ≠ manifestName)
    {result : Except Failure Bool} (hwrite : Disk.writeIfChanged p text d = (result, d')) :
    Disk.Widens d d' ∧
      (∀ bytes, d.tree.content? (manifestPlace l) = some (.file bytes) →
        d'.tree.content? (manifestPlace l) = some (.file bytes)) ∧
      d'.writes.count w.manifestPath = d.writes.count w.manifestPath := by
  obtain ⟨hwidens, hkept⟩ := h.kept hp hproper hwrite
  refine ⟨hwidens, fun bytes => hkept (manifestPlace l) bytes fun he => ?_, ?_⟩
  · -- the name of the file would be the one of the manifest
    have hparts : q.parts = [manifestName] := (List.append_cancel_left he).symm
    rw [hp, hparts, Path.name, List.getLastD_concat] at hname
    exact hname rfl
  · refine Disk.count_writes_writeIfChanged ?_ hwrite
    rintro rfl
    exact hname (by rw [manifestPath, Path.name, Path.child, List.getLastD_concat])

end IsPlain
end Workspace
end ElmAssay
