import ElmAssay.Isolation
import ElmAssay.Proofs.Batch
import ElmAssay.Proofs.Oracle.Mock
import ElmAssay.Proofs.Path

/-!
# A batch, one unit after the other

All units of a batch go to one file (`Isolation.unitsFile`), one after the other. If that file can be written
(`CanWriteUnits`), one check of a unit leaves a file that can be written again, and the oracle reads the unit of that
very check (`checkUnit_run`). So a run over the candidates gives each of them the answer to its own unit, by one call
(`Attributed`, `validateFrom_run`), whatever was in the file before.

A unit cannot be built where the header is missing and wanted; then no unit of the batch can, and nothing happens
(`validateFrom_of_error`).

The root of a workspace is asked to start at the top here, as it does once the workspace was prepared
(`Workspace.isAbsolute_of_ensure`).
-/

namespace ElmAssay

/-- The root of a workspace that was prepared starts at the top. -/
theorem Workspace.isAbsolute_of_ensure {project : Path} {directory : String} {w : Workspace} {d d' : Disk}
    (h : Workspace.ensure project directory d = (.ok w, d')) : w.root.isAbsolute = true := by
  rw [ensure] at h
  obtain ⟨projectRoot, d₀, hask, h⟩ := Effect.bind_eq_ok h
  obtain ⟨hresolve, -⟩ := Disk.ask_eq_ok hask
  have hroot : projectRoot.isAbsolute = true := by
    rw [Disk.resolve] at hresolve
    split at hresolve
    · cases hresolve
    · split at hresolve
      · cases hresolve
        rfl
      · cases hresolve
  obtain ⟨-, d₁, -, h⟩ := Effect.bind_eq_ok h
  obtain ⟨-, d₂, -, h⟩ := Effect.bind_eq_ok h
  obtain ⟨-, d₃, -, h⟩ := Effect.bind_eq_ok h
  obtain ⟨-, d₄, -, h⟩ := Effect.bind_eq_ok h
  cases h
  exact Path.isAbsolute_join _ hroot

/-- A write below a workspace is a write to the path. -/
theorem Workspace.writeBelow_run {w : Workspace} {p : Path} {text : String} {changed : Bool} {d d' : Disk}
    (hbelow : (p.below? w.root).isSome = true) (h : Disk.writeIfChanged p text d = (.ok changed, d')) :
    w.writeBelow p text d = (.ok (), d') := by
  obtain ⟨q, hq⟩ := Option.isSome_iff_exists.1 hbelow
  have hsource : w.writeSource q text d = (.ok p, d') := by
    rw [writeSource, Path.join_below? hq]
    exact Effect.bind_of_ok h
  rw [writeBelow, hq]
  exact Effect.bind_of_ok hsource

/-! ## Units -/

/-- Units are built with every text, or with none since the header is missing. -/
theorem CompileUnit.splice_cases (source : ModuleSource) (name : String) (strict : Bool) :
    (∀ more, ∃ u, splice source more name strict = .ok u ∧ u.moduleName = name) ∨
      (strict = true ∧ ∀ more, splice source more name strict = .error (.noHeader source.path)) := by
  simp only [splice]
  cases Elm.findHeader source.text with
  | some h => exact .inl fun more => ⟨_, rfl, rfl⟩
  | none =>
    cases strict with
    | false => exact .inl fun more => ⟨_, rfl, rfl⟩
    | true => exact .inr ⟨rfl, fun _ => rfl⟩

theorem CompileUnit.splice_eq_ok {source : ModuleSource} {strict : Bool}
    (h : (Elm.findHeader source.text).isSome = true ∨ strict = false) (name more : String) :
    ∃ u, splice source more name strict = .ok u ∧ u.moduleName = name := by
  rcases splice_cases source name strict with hok | ⟨rfl, herr⟩
  · exact hok more
  · obtain ⟨head, hhead⟩ := Option.isSome_iff_exists.1 (h.resolve_right (by decide))
    have he := herr more
    rw [splice, hhead] at he
    cases he

theorem CompileUnit.moduleName_of_splice {source : ModuleSource} {more name : String} {strict : Bool} {u : CompileUnit}
    (h : splice source more name strict = .ok u) : u.moduleName = name := by
  rcases splice_cases source name strict with hok | ⟨-, herr⟩
  · obtain ⟨u', hu', hname⟩ := hok more
    cases hu'.symm.trans h
    exact hname
  · cases (herr more).symm.trans h

namespace Isolation

open Effect Text

/-- The file that the units of a batch go to. -/
def unitsFile {σ : Type} (s : Isolation σ) : Path := s.unitPath ⟨s.moduleName, "", false⟩

/-- The units of a batch can be written: their file lies below the workspace, and no write to it fails. -/
structure CanWriteUnits {σ : Type} (s : Isolation σ) (d : Disk) : Prop where
  below : (s.unitsFile.below? s.workspace.root).isSome = true
  canWrite : d.CanWrite s.unitsFile

variable {m : Mock} {s : Isolation Mock.Log} {source : ModuleSource} {batch : List Candidate}

/-- Units are checked by a mock oracle, in a workspace whose root starts at the top. -/
structure IsMocked (m : Mock) (s : Isolation Mock.Log) : Prop where
  oracle : s.oracle = m.oracle
  rooted : s.workspace.root.isAbsolute = true

theorem IsMocked.unitsFile_isAbsolute (h : IsMocked m s) : s.unitsFile.isAbsolute = true :=
  Path.isAbsolute_join _ h.rooted

theorem unitPath_of_name {σ : Type} (s : Isolation σ) {u : CompileUnit} (hu : u.moduleName = s.moduleName) :
    s.unitPath u = s.unitsFile := by
  rw [unitsFile, unitPath, unitPath, CompileUnit.path, hu]
  rfl

theorem IsMocked.root_join (h : IsMocked m s) : s.workspace.root / s.unitsFile = s.unitsFile :=
  Path.join_of_isAbsolute _ h.unitsFile_isAbsolute

/-- A unit that was written and is read back is answered to, and the call is recorded. -/
theorem checkUnit_of_write (hm : IsMocked m s) {u : CompileUnit} (hu : u.moduleName = s.moduleName) {b : Bench Mock.Log}
    {changed : Bool} {d' : Disk} {o : Outcome} (hbelow : (s.unitsFile.below? s.workspace.root).isSome = true)
    (hwrite : Disk.writeIfChanged s.unitsFile u.text b.disk = (.ok changed, d'))
    (hread : d'.readText s.unitsFile = .ok (asRead u.text))
    (hanswer : m.answer (asRead u.text) (Mock.command .compile s.unitsFile) = .ok o) :
    s.checkUnit u b = (.ok o, ⟨d', b.oracle ++ [⟨.compile, some s.unitsFile, asRead u.text⟩]⟩) := by
  rw [← hm.root_join] at hread hanswer
  have hcheck := m.check_run (b := ⟨d', b.oracle⟩) hread hanswer
  rw [hm.root_join] at hcheck
  rw [checkUnit, s.unitPath_of_name hu, hm.oracle, bind_of_ok (Bench.onDisk_run (Workspace.writeBelow_run hbelow hwrite))]
  exact hcheck

/-- **A check of a unit reads that unit**, records it, answers to it, and leaves a file that can be written again. -/
theorem checkUnit_run (hm : IsMocked m s) {u : CompileUnit} (hu : u.moduleName = s.moduleName) {b : Bench Mock.Log}
    (hb : s.CanWriteUnits b.disk) :
    ∃ o d', m.answer (asRead u.text) (Mock.command .compile s.unitsFile) = .ok o ∧ s.CanWriteUnits d' ∧
      s.checkUnit u b = (.ok o, ⟨d', b.oracle ++ [⟨.compile, some s.unitsFile, asRead u.text⟩]⟩) := by
  obtain ⟨changed, d', hwrite, hagain, hread⟩ := hb.canWrite.write u.text
  obtain ⟨o, hanswer, -⟩ := m.answer_eq_ok (asRead u.text) (Mock.command .compile s.unitsFile)
  exact ⟨o, d', hanswer, ⟨hb.below, hagain⟩, checkUnit_of_write hm hu hb.below hwrite hread hanswer⟩

/-! ## Runs over the candidates -/

/-- **The verdicts on the candidates from a position on and the calls that they come from**: one for each candidate,
about the unit of that candidate. -/
inductive Attributed (m : Mock) (s : Isolation Mock.Log) (source : ModuleSource) (batch : List Candidate) :
    Nat → List Candidate → List Verdict → List Mock.Call → Prop
  | nil (focus : Nat) : Attributed m s source batch focus [] [] []
  | cons {focus : Nat} {c : Candidate} {rest : List Candidate} {u : CompileUnit} {o : Outcome}
      {verdicts : List Verdict} {calls : List Mock.Call} :
      s.buildUnit source focus batch = .ok u →
      m.answer (asRead u.text) (Mock.command .compile s.unitsFile) = .ok o →
      Attributed m s source batch (focus + 1) rest verdicts calls →
      Attributed m s source batch focus (c :: rest) (⟨c.name, o⟩ :: verdicts)
        (⟨.compile, some s.unitsFile, asRead u.text⟩ :: calls)

/-- **A run over the candidates gives each of them the answer to its own unit**, by one call each. -/
theorem validateFrom_run (hm : IsMocked m s)
    (hbuild : ∀ focus, ∃ u, s.buildUnit source focus batch = .ok u ∧ u.moduleName = s.moduleName) :
    ∀ (rest : List Candidate) (focus : Nat) (b : Bench Mock.Log), s.CanWriteUnits b.disk →
      ∃ verdicts calls d', Attributed m s source batch focus rest verdicts calls ∧
        s.validateFrom source batch focus rest b = (.ok verdicts, ⟨d', b.oracle ++ calls⟩)
  | [], focus, b, _ => ⟨[], [], b.disk, .nil focus, by rw [List.append_nil]; rfl⟩
  | c :: rest, focus, b, hb => by
    obtain ⟨u, hu, hname⟩ := hbuild focus
    obtain ⟨o, d₁, hanswer, hd₁, hcheck⟩ := checkUnit_run hm hname hb
    obtain ⟨verdicts, calls, d', hrest, hrun⟩ := validateFrom_run hm hbuild rest (focus + 1) ⟨d₁, _⟩ hd₁
    refine ⟨_, _, d', .cons hu hanswer hrest, ?_⟩
    rw [validateFrom, hu]
    dsimp only
    rw [bind_of_ok hcheck, bind_of_ok hrun, pure_run, List.append_assoc]
    rfl

/-- A batch whose names are all different is checked by a run over its candidates. -/
theorem validateBatch_run (hm : IsMocked m s)
    (hbuild : ∀ focus, ∃ u, s.buildUnit source focus batch = .ok u ∧ u.moduleName = s.moduleName)
    (hnodup : (batch.map Candidate.name).Nodup) {b : Bench Mock.Log} (hb : s.CanWriteUnits b.disk) :
    ∃ verdicts calls d', Attributed m s source batch 0 batch verdicts calls ∧
      s.validateBatch source batch b = (.ok ⟨verdicts⟩, ⟨d', b.oracle ++ calls⟩) := by
  obtain ⟨verdicts, calls, d', hattributed, hrun⟩ := validateFrom_run hm hbuild batch 0 b hb
  refine ⟨verdicts, calls, d', hattributed, ?_⟩
  rw [validateBatch, Candidate.checkUnique_eq_ok_iff.2 hnodup]
  exact bind_of_ok hrun

/-- If units cannot be built, a run over some candidates fails, and nothing else happens. -/
theorem validateFrom_of_error {σ : Type} {s : Isolation σ} {e : Failure}
    (h : ∀ focus, s.buildUnit source focus batch = .error e) (focus : Nat) (c : Candidate) (rest : List Candidate)
    (b : Bench σ) : s.validateFrom source batch focus (c :: rest) b = (.error e, b) := by
  rw [validateFrom, h focus]
  rfl

namespace Attributed

variable {focus : Nat} {rest : List Candidate} {verdicts : List Verdict} {calls : List Mock.Call}

theorem names (h : Attributed m s source batch focus rest verdicts calls) :
    verdicts.map Verdict.name = rest.map Candidate.name := by
  induction h with
  | nil => rfl
  | cons _ _ _ ih => rw [List.map_cons, List.map_cons, ih]

theorem length_verdicts (h : Attributed m s source batch focus rest verdicts calls) :
    verdicts.length = rest.length := by simpa using congrArg List.length h.names

theorem length_calls (h : Attributed m s source batch focus rest verdicts calls) : calls.length = rest.length := by
  induction h with
  | nil => rfl
  | cons _ _ _ ih => rw [List.length_cons, List.length_cons, ih]

/-- The verdict on a candidate is the answer to the unit of that candidate, and its call read that unit. -/
theorem get (h : Attributed m s source batch focus rest verdicts calls) {i : Nat} {c : Candidate}
    (hi : rest[i]? = some c) :
    ∃ u o, s.buildUnit source (focus + i) batch = .ok u ∧
      m.answer (asRead u.text) (Mock.command .compile s.unitsFile) = .ok o ∧ verdicts[i]? = some ⟨c.name, o⟩ ∧
      calls[i]? = some ⟨.compile, some s.unitsFile, asRead u.text⟩ := by
  induction h generalizing i with
  | nil => cases hi
  | cons hu hanswer _ ih =>
    cases i with
    | zero => cases hi; exact ⟨_, _, hu, hanswer, rfl, rfl⟩
    | succ i =>
      obtain ⟨u, o, hu, ho, hv, hc⟩ := ih (by simpa using hi)
      have hposition (n : Nat) : n + (i + 1) = n + 1 + i := by omega
      exact ⟨u, o, by rw [hposition, hu], ho, by simpa using hv, by simpa using hc⟩

/-- The candidates that failed are, in order, those whose unit the oracle rejects. -/
theorem failed (h : Attributed m s source batch focus rest verdicts calls) :
    BatchResult.failed ⟨verdicts⟩ =
      ((rest.zip calls).filter fun e => m.rejects e.2.text).map fun e => e.1.name := by
  induction h with
  | nil => rfl
  | @cons _ c _ u o _ _ _ hanswer _ ih =>
    obtain ⟨o', ho', hpassed⟩ := m.answer_eq_ok (asRead u.text) (Mock.command .compile s.unitsFile)
    rw [hanswer] at ho'
    cases ho'
    rw [BatchResult.failed] at ih ⊢
    dsimp only at ih ⊢
    rw [List.zip_cons_cons, List.filter_cons, List.filter_cons]
    dsimp only
    rw [hpassed, Bool.not_not]
    split <;> simp [ih]

end Attributed

/-! ## A project whose workspace can be written -/

/-- The workspace of a project. -/
def sampleWorkspace : Workspace := ⟨⟨.top, ["project"]⟩, ⟨.top, ["project", "elm-stuff", "elm-ai"]⟩⟩

/-- The manifest of the project. -/
def sampleManifest : Path := sampleWorkspace.projectRoot.child Workspace.manifestName

/-- A disk with a project: its manifest, and its workspace as it is prepared. -/
@[irreducible] def sampleDisk : Disk :=
  let arrange : DiskM Unit := do
    Disk.makeDirectories sampleWorkspace.sources
    Disk.makeDirectories sampleWorkspace.tests
    Disk.makeDirectories sampleWorkspace.privateRoot
    Disk.writeAtomic sampleManifest "\x7b\"type\":\"application\",\"source-directories\":[\"src\"]\x7d"
    Disk.writeAtomic sampleWorkspace.manifestPath
      ("\x7b\n    \"type\": \"application\",\n    \"source-directories\": [\n        \"../../src\",\n" ++
        "        \".elm-ai\"\n    ]\n\x7d\n")
  (arrange (Disk.new ["project"])).2

/-- The private root of the project. -/
def sampleDirectory : Location := ["project", "elm-stuff", "elm-ai", ".elm-ai"]

/-- The file of the units of the project. -/
def sampleFile : Path := ⟨.top, sampleDirectory ++ ["ElmAiCandidate.elm"]⟩

/-- The private root is there, and the file of the units is not. -/
theorem plainSite_sampleDisk : sampleDisk.PlainSite sampleFile sampleDirectory := by
  have hnone : sampleDisk.tree.content? (sampleDirectory ++ [sampleFile.name]) = none := by decide +kernel
  refine ⟨?_, fun target h => by cases hnone.symm.trans h⟩
  exact {
    noNull := by decide +kernel
    short := by decide +kernel
    parts := by decide
    proper := ⟨by decide +kernel, by decide +kernel, by decide +kernel⟩
    parent := by decide +kernel
    isDirectory := by decide +kernel
    vacant := fun h => by cases hnone.symm.trans h
    fits := by decide +kernel }

/-- The units of the project can be written. -/
theorem canWriteUnits_sampleDisk (m : Mock) (strict : Bool) :
    CanWriteUnits ⟨m.oracle, sampleWorkspace, CompileUnit.defaultName, strict⟩ sampleDisk := by
  have hfile : sampleWorkspace.privateRoot / CompileUnit.path ⟨CompileUnit.defaultName, "", false⟩ = sampleFile := by
    decide +kernel
  have hbelow : (sampleFile.below? sampleWorkspace.root).isSome = true := by decide +kernel
  rw [← hfile] at hbelow
  exact ⟨hbelow, (congrArg sampleDisk.CanWrite hfile).mpr plainSite_sampleDisk.canWrite⟩

end Isolation
end ElmAssay
