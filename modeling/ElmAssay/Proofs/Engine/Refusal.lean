import ElmAssay.Proofs.Engine.Once

/-!
# Projects without a manifest

If the manifest of a project cannot be loaded, that is a failure of the configuration (`Failure.isConfiguration`), except
for what the reader does not know: a path with the null character, a file that is no text, a whole number that is too long
and a value that is too deep (`Manifest.Untold`, `Manifest.load_eq_error`). When a workspace cannot get its manifest,
every file is what it was (`Workspace.Refused`, `refused_of_provision`).
-/

namespace ElmAssay

open Effect

variable {d d' d₁ : Disk} {p : Path} {x : Failure}

/-! ## Loading -/

namespace Manifest

/-- What keeps a manifest from being loaded and is not known to be a failure of the configuration. -/
inductive Untold (d : Disk) (p : Path) : Failure → Prop
  | nullCharacter : p.hasNull = true → Untold d p .nullCharacter
  | undecodable {bytes : Bytes} {e : Text.Utf8.Malformed} : d.readBytes p = .ok bytes →
      Text.Utf8.decode bytes = .error e → Untold d p (.undecodable e)
  | tooManyDigits {text : String} {count : Nat} : d.readText p = .ok text →
      Json.read text = .error (.tooManyDigits count) → Untold d p (.tooManyDigits count)
  | tooDeep {text : String} {isArray : Bool} : d.readText p = .ok text →
      Json.read text = .error (.tooDeep isArray) → Untold d p (.tooDeepToRead isArray)

theorem Untold.isConfiguration (h : Untold d p x) : x.isConfiguration = false := by cases h <;> rfl

theorem readText_eq_error (h : d.readText p = .error x) :
    (∃ e, x = .system e) ∨ Untold d p x := by
  rw [Disk.readText] at h
  cases hbytes : d.readBytes p with
  | error e =>
    rw [hbytes] at h
    cases h
    rw [Disk.readBytes] at hbytes
    split at hbytes
    · rename_i hnull
      cases hbytes
      exact .inr (.nullCharacter hnull)
    · split at hbytes <;> cases hbytes <;> exact .inl ⟨_, rfl⟩
  | ok bytes =>
    rw [hbytes] at h
    dsimp only at h
    rw [Disk.textOf] at h
    cases hdecode : Text.Utf8.decode bytes with
    | ok s => rw [hdecode] at h; cases h
    | error e =>
      rw [hdecode] at h
      cases h
      exact .inr (.undecodable hbytes hdecode)

/-- What is no manifest is refused as a configuration. -/
theorem isConfiguration_of_ofJson {v : Json} {source : String} (h : ofJson v source = .error x) :
    x.isConfiguration = true := by
  cases v with
  | obj fields =>
    rw [ofJson] at h
    split at h <;> cases h
    rfl
  | _ => cases h; rfl

/-- **A manifest that cannot be loaded is a failure of the configuration, unless the reader does not know why.** -/
theorem load_eq_error (h : load d p = .error x) : x.isConfiguration = true ∨ Untold d p x := by
  rw [load] at h
  cases hread : d.readText p with
  | error e =>
    rw [hread] at h
    rcases readText_eq_error hread with ⟨e, rfl⟩ | huntold
    · cases h
      exact .inl rfl
    · have hsame : x = e := by cases huntold <;> (cases h; rfl)
      rw [hsame]
      exact .inr huntold
  | ok text =>
    rw [hread] at h
    dsimp only at h
    cases hjson : Json.read text with
    | error e =>
      rw [hjson] at h
      cases e with
      | malformed e => cases h; exact .inl rfl
      | tooManyDigits count => cases h; exact .inr (.tooManyDigits hread hjson)
      | tooDeep isArray => cases h; exact .inr (.tooDeep hread hjson)
    | ok v =>
      rw [hjson] at h
      exact .inl (isConfiguration_of_ofJson h)

/-- What the reader does not know keeps the manifest from being loaded. -/
theorem Untold.load (h : Untold d p x) : Manifest.load d p = .error x := by
  cases h with
  | nullCharacter hnull => rw [Manifest.load, Disk.readText, Disk.readBytes, if_pos hnull]
  | undecodable hbytes hdecode =>
    rw [Manifest.load, Disk.readText, hbytes]
    dsimp only
    rw [Disk.textOf, hdecode]
    rfl
  | tooManyDigits hread hjson =>
    rw [Manifest.load, hread]
    dsimp only
    rw [hjson]
    rfl
  | tooDeep hread hjson =>
    rw [Manifest.load, hread]
    dsimp only
    rw [hjson]
    rfl

/-! ## Deriving -/

/-- A manifest that is derived can be written if the one that it is derived from can. -/
theorem canonical_derived {m : Manifest} {fields : Fields} (h : m.toFields = .ok fields) (directories : List String) :
    (canonical ⟨m.type, directories, m.derivedOthers⟩).isOk = true := by
  have hlevels : Json.levelsOfFields m.derivedOthers ≤ levelLimit := by
    have hothers := m.levelsOfFields_derivedOthers_le
    rw [toFields] at h
    split at h
    · cases h
    · omega
  rw [canonical, toFields, if_neg (by dsimp only; omega)]
  rfl

end Manifest

namespace Workspace

/-- Why the text of the manifest of a workspace cannot be had from that of the project. -/
theorem manifestText_eq_error {w : Workspace} (h : w.manifestText false p d = .error x) :
    x.isConfiguration = true ∨ Manifest.Untold d p x ∨
      (x = .tooDeepToWrite ∧ ∃ m, Manifest.load d p = .ok m ∧ Manifest.levelLimit < Json.levelsOfFields m.others) := by
  rw [manifestText, if_neg Bool.false_ne_true] at h
  cases hload : Manifest.load d p with
  | error e =>
    rw [hload] at h
    cases h
    exact (Manifest.load_eq_error hload).imp_right .inl
  | ok m =>
    simp only [hload, bind, Except.bind] at h
    rw [m.derive_eq] at h
    cases hfields : m.toFields with
    | error e =>
      rw [hfields] at h
      cases h
      rw [Manifest.toFields] at hfields
      split at hfields
      · rename_i hdeep
        cases hfields
        exact .inr (.inr ⟨rfl, m, rfl, hdeep⟩)
      · cases hfields
    | ok fields =>
      rw [hfields] at h
      have hfailed : Manifest.canonical ⟨m.type,
          Manifest.deriveDirectories m.sourceDirectories (w.back d.currentPath) privateName, m.derivedOthers⟩ =
            .error x := h
      have hok := Manifest.canonical_derived hfields
        (Manifest.deriveDirectories m.sourceDirectories (w.back d.currentPath) privateName)
      rw [hfailed] at hok
      cases hok

/-! ## A workspace without its manifest -/

/-- Why a workspace did not get its manifest from that of the project, and what that did to the disk: it made directories at
most. Where a file could not be written, it is the system that refused, whatever the manifest. -/
structure Refused (w : Workspace) (source : Path) (d d' : Disk) (x : Failure) : Prop where
  kept : Disk.Grown d d'
  cause : x.isConfiguration = true ∨ Manifest.Untold d source x ∨
    (x = .tooDeepToWrite ∧ ∃ m, Manifest.load d source = .ok m ∧ Manifest.levelLimit < Json.levelsOfFields m.others) ∨
    ∃ text, w.manifestText false source d = .ok text ∧ Disk.writeIfChanged w.manifestPath text d = (.error x, d')

theorem refused_of_manifestText {w : Workspace} (h : w.manifestText false p d = .error x) : w.Refused p d d x :=
  ⟨.refl d, by
    rcases manifestText_eq_error h with hconfiguration | huntold | hdeep
    · exact .inl hconfiguration
    · exact .inr (.inl huntold)
    · exact .inr (.inr (.inl hdeep))⟩

theorem refused_of_write {w : Workspace} {text : String} (htext : w.manifestText false p d = .ok text)
    (h : Disk.writeIfChanged w.manifestPath text d = (.error x, d')) : w.Refused p d d' x :=
  ⟨Disk.writeIfChanged_failed h, .inr (.inr (.inr ⟨text, htext, h⟩))⟩

theorem refused_of_materialize {w : Workspace} (h : w.materialize p d = (.error x, d')) : w.Refused p d d' x := by
  have hrun := w.materialize_run false p d
  rw [if_neg Bool.false_ne_true, h] at hrun
  cases htext : w.manifestText false p d with
  | error y =>
    rw [htext] at hrun
    cases hrun
    exact refused_of_manifestText htext
  | ok text =>
    rw [htext] at hrun
    exact refused_of_write htext hrun.symm

end Workspace

namespace Engine

variable {σ : Type}

/-- Where an engine made the directories of a workspace and provisioned it no further, the workspace did not get its
manifest. -/
theorem refused_of_provision {e : Engine σ} {w : Workspace} {st st' : EngineState σ}
    (hensure : Workspace.ensure e.project e.config.workspaceDirectory st.bench.disk = (.ok w, d₁))
    (h : e.provision false st = (.error x, st')) : w.Refused e.manifestPath d₁ st'.bench.disk x := by
  have hrun := e.provision_run false st
  rw [prepare_run, hensure, h] at hrun
  dsimp only at hrun
  cases htext : w.manifestText false e.manifestPath d₁ with
  | error y =>
    rw [htext] at hrun
    cases hrun
    exact Workspace.refused_of_manifestText htext
  | ok text =>
    rw [htext] at hrun
    dsimp only at hrun
    rcases hwrite : Disk.writeIfChanged w.manifestPath text d₁ with ⟨result, d₂⟩
    rw [hwrite] at hrun
    cases result with
    | ok changed => cases hrun
    | error y =>
      cases hrun
      exact Workspace.refused_of_write htext hwrite

/-- **Which manifests are no failure of the configuration though they cannot be loaded**, and what becomes of a workspace that
does not get its manifest: it was the manifest, or the system refused to write the file, and no file was changed. -/
theorem load_and_provision (e : Engine σ) :
    (∀ d p x, Manifest.load d p = .error x → (x.isConfiguration = false ↔ Manifest.Untold d p x)) ∧
      (∀ d p x, Manifest.Untold d p x → Manifest.load d p = .error x) ∧
      (∀ (w : Workspace) d d' p x, w.materialize p d = (.error x, d') → w.Refused p d d' x) ∧
      ∀ w d₁ st st' x, Workspace.ensure e.project e.config.workspaceDirectory st.bench.disk = (.ok w, d₁) →
        e.provision false st = (.error x, st') →
        w.Refused e.manifestPath d₁ st'.bench.disk x ∧ Disk.Grown st.bench.disk st'.bench.disk := by
  refine ⟨fun d p x h => ⟨fun hx => ?_, Manifest.Untold.isConfiguration⟩, fun d p x => Manifest.Untold.load,
    fun w d d' p x => Workspace.refused_of_materialize, fun w d₁ st st' x hensure h => ?_⟩
  · rcases Manifest.load_eq_error h with hconfiguration | huntold
    · cases hconfiguration.symm.trans hx
    · exact huntold
  · have hrefused := refused_of_provision hensure h
    have hgrown := Workspace.ensure_grown e.project e.config.workspaceDirectory st.bench.disk
    rw [hensure] at hgrown
    exact ⟨hrefused, hgrown.trans hrefused.kept⟩

/-! ## A manifest that is no text -/

open Isolation

/-- The project where the manifest is a single byte that is no text. -/
@[irreducible] def unreadableDisk : Disk :=
  { sampleDisk with tree := sampleDisk.tree.create ["project", "elm.json"] (.file [0xFF]) fileRights 0 }

/-- What is wrong with the byte. -/
def unreadableByte : Failure := .undecodable ⟨0xFF, 0, 1, .invalidStart⟩

theorem ensure_unreadableDisk :
    Workspace.ensure sampleWorkspace.projectRoot "elm-stuff/elm-ai" unreadableDisk =
      (.ok sampleWorkspace, unreadableDisk) := by
  have hproject : unreadableDisk.tree.content? ["project"] = some .directory := by decide +kernel
  exact Workspace.ensure_of_isDirectory (Disk.resolve_of_directory (by decide) (by decide) hproject) (by rfl)
    (by decide +kernel)

theorem untold_unreadableDisk : Manifest.Untold unreadableDisk sampleManifest unreadableByte := by
  have hbytes : unreadableDisk.readBytes sampleManifest = .ok [0xFF] := by decide +kernel
  exact .undecodable hbytes (by decide +kernel)

theorem provision_unreadableDisk :
    (sampleEngine {}).provision false (fresh unreadableDisk) =
      (.error unreadableByte, ⟨⟨unreadableDisk, []⟩, .idle, [.provisioning, .idle], []⟩) := by
  have hensure : Workspace.ensure (sampleEngine {}).project (sampleEngine {}).config.workspaceDirectory unreadableDisk =
      (.ok sampleWorkspace, unreadableDisk) := ensure_unreadableDisk
  have htext : sampleWorkspace.manifestText false (sampleEngine {}).manifestPath unreadableDisk = .error unreadableByte := by
    have hload : Manifest.load unreadableDisk (sampleEngine {}).manifestPath = .error unreadableByte :=
      untold_unreadableDisk.load
    rw [Workspace.manifestText, if_neg Bool.false_ne_true, hload]
    rfl
  have hprepare : (sampleEngine {}).prepare false (fresh unreadableDisk).bench.disk =
      (.error unreadableByte, unreadableDisk) := by
    show (sampleEngine {}).prepare false unreadableDisk = _
    rw [prepare_run, hensure]
    dsimp only
    rw [htext]
  rw [provision_run, hprepare]
  rfl

/-- **A manifest that is no text is no failure of the configuration**, be it loaded or provisioned. -/
theorem load_unreadableDisk :
    Manifest.load unreadableDisk sampleManifest = .error unreadableByte ∧
      ((sampleEngine {}).provision false (fresh unreadableDisk)).1 = .error unreadableByte ∧
      unreadableByte.isConfiguration = false :=
  ⟨untold_unreadableDisk.load, by rw [provision_unreadableDisk], rfl⟩

/-- A directory in place of a manifest is a failure of the configuration; a manifest that is no text is not, and the engine
that meets it leaves its workspace as it was. -/
theorem load_and_provision_sample :
    (∃ x, Manifest.load sampleDisk sampleWorkspace.projectRoot = .error x ∧
      ¬ Manifest.Untold sampleDisk sampleWorkspace.projectRoot x) ∧
      sampleWorkspace.Refused sampleManifest unreadableDisk unreadableDisk unreadableByte := by
  obtain ⟨hiff, -, -, hprovision⟩ := load_and_provision (sampleEngine {})
  constructor
  · have hread : sampleDisk.readText sampleWorkspace.projectRoot = .error (.system ⟨.isDirectory, "/project"⟩) := by
      decide +kernel
    have hload : Manifest.load sampleDisk sampleWorkspace.projectRoot =
        .error (.manifestUnreadable sampleWorkspace.projectRoot ⟨.isDirectory, "/project"⟩) := by
      rw [Manifest.load, hread]
    refine ⟨_, hload, fun h => ?_⟩
    cases (hiff _ _ _ hload).2 h
  · exact (hprovision sampleWorkspace unreadableDisk (fresh unreadableDisk) _ unreadableByte ensure_unreadableDisk
      provision_unreadableDisk).1

end Engine
end ElmAssay
