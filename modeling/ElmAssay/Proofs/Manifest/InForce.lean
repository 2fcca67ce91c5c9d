import ElmAssay.Proofs.Json.Writer
import ElmAssay.Proofs.Workspace

/-!
# The manifest that is in force

The text of the manifest of a workspace is the canonical one of the manifest derived from the project, or of the one that
does not depend on it (`Workspace.manifestText`). It has no carriage return, so it is read as it was written. In a plain
workspace writing it fails and changes nothing, or the manifest is in force (`InForce`): it has that text, whether it
was written or had the text before (`IsPlain.writeManifest`). It stays in force when files of modules are written
(`InForce.writeBelow`), and writing the same text once more changes nothing (`InForce.writeIfChanged`).
-/

namespace ElmAssay

open Effect

namespace Manifest

/-- No canonical text has a carriage return. -/
theorem not_mem_canonical {m : Manifest} {text : String} (h : m.canonical = .ok text) : '\r' ∉ text.toList := by
  rw [canonical] at h
  cases hf : m.toFields with
  | error e => rw [hf] at h; cases h
  | ok fields =>
    rw [hf] at h
    cases h
    rw [String.toList_append, List.mem_append]
    rintro (hmem | hmem)
    · exact Json.not_mem_wideText (.obj fields) hmem
    · exact absurd hmem (by decide)

/-- What is loaded depends on the bytes of the file alone. -/
theorem load_congr {d d' : Disk} {p : Path} (h : d.readBytes p = d'.readBytes p) : load d p = load d' p := by
  rw [load, load, Disk.readText, Disk.readText, h]

theorem readBytes_of_load {d : Disk} {p : Path} {m : Manifest} (h : load d p = .ok m) :
    ∃ bytes, d.readBytes p = .ok bytes := by
  cases hb : d.readBytes p with
  | ok bytes => exact ⟨bytes, rfl⟩
  | error e =>
    rw [load, Disk.readText, hb] at h
    cases e <;> cases h

end Manifest

namespace Workspace

variable {w : Workspace} {d d' : Disk} {l : Location} {text : String}

/-! ## The text of the manifest -/

/-- The text that the manifest of a workspace is to have, the one derived from a manifest of the project or the standalone
one. -/
def manifestText (w : Workspace) (standalone : Bool) (source : Path) (d : Disk) : Except Failure String :=
  if standalone then Manifest.standalone.canonical
  else do
    let m ← Manifest.load d source
    let derived ← m.derive (w.back d.currentPath) privateName
    derived.canonical

/-- Writing the manifest is finding its text and writing that. -/
theorem materialize_run (w : Workspace) (standalone : Bool) (source : Path) (d : Disk) :
    (if standalone then w.materializeStandalone else w.materialize source) d =
      match w.manifestText standalone source d with
      | .error e => (.error e, d)
      | .ok text => Disk.writeIfChanged w.manifestPath text d := by
  cases standalone with
  | true =>
    rw [if_pos rfl, materializeStandalone, manifestText, if_pos rfl, bind_run, Disk.given_run]
    cases Manifest.standalone.canonical <;> rfl
  | false =>
    rw [if_neg Bool.false_ne_true, materialize, manifestText, if_neg Bool.false_ne_true]
    cases hload : Manifest.load d source with
    | error e => rw [bind_of_error (Disk.ask_of_error hload)]; rfl
    | ok m =>
      rw [bind_of_ok (Disk.ask_of_ok hload), bind_of_ok (get_run d), bind_run, lift_run]
      simp only [bind, Except.bind]
      cases m.derive (w.back d.currentPath) privateName with
      | error e => rfl
      | ok derived =>
        dsimp only
        cases hcanonical : derived.canonical with
        | error e => exact bind_of_error (Disk.given_run _ d)
        | ok text => exact bind_of_ok (Disk.given_run _ d)

theorem not_mem_manifestText {standalone : Bool} {source : Path} (h : w.manifestText standalone source d = .ok text) :
    '\r' ∉ text.toList := by
  rw [manifestText] at h
  split at h
  · exact Manifest.not_mem_canonical h
  · cases hload : Manifest.load d source with
    | error e => rw [hload] at h; cases h
    | ok m =>
      simp only [hload, bind, Except.bind] at h
      cases hderive : m.derive (w.back d.currentPath) privateName with
      | error e => rw [hderive] at h; cases h
      | ok derived =>
        rw [hderive] at h
        exact Manifest.not_mem_canonical h

/-- The derived text depends on the bytes of the manifest of the project and on the current directory alone. -/
theorem manifestText_congr (w : Workspace) {source : Path} (hbytes : d.readBytes source = d'.readBytes source)
    (hcurrent : d'.current = d.current) (standalone : Bool) :
    w.manifestText standalone source d = w.manifestText standalone source d' := by
  rw [manifestText, manifestText, Manifest.load_congr hbytes, Disk.currentPath, Disk.currentPath, hcurrent]

/-- Where a text is derived, the manifest of the project is loaded. -/
theorem load_of_manifestText {source : Path} (h : w.manifestText false source d = .ok text) :
    ∃ m, Manifest.load d source = .ok m := by
  cases hload : Manifest.load d source with
  | ok m => exact ⟨m, rfl⟩
  | error e =>
    rw [manifestText, hload] at h
    cases h

/-! ## In force -/

/-- The manifest of a plain workspace is a file with a text. -/
structure InForce (w : Workspace) (text : String) (d : Disk) (l : Location) : Prop where
  plain : w.IsPlain d l
  noNull : w.manifestPath.hasNull = false
  short : w.manifestPath.text.utf8ByteSize < Disk.pathLimit
  placed : ∃ bytes, d.tree.content? (manifestPlace l) = some (.file bytes) ∧ Disk.textOf bytes = .ok text

theorem parent_manifestPath (w : Workspace) : w.manifestPath.parent = w.root := by
  rw [manifestPath, Path.child, Path.parent, List.dropLast_concat]

theorem name_manifestPath (w : Workspace) : w.manifestPath.name = manifestName := by
  rw [manifestPath, Path.child, Path.name, List.getLastD_concat]

theorem isProper_manifestName : Path.IsProper manifestName := ⟨by decide, by decide, by decide⟩

/-- Where the manifest of a plain workspace leads somewhere, it leads to its place below the root. -/
theorem IsPlain.eq_manifestPlace (h : w.IsPlain d l) {k : Location} (hk : d.locate w.manifestPath = .ok k) :
    k = manifestPlace l := by
  have hroot := h.locate
  rw [Disk.locate, Disk.locateFrom_eq true (Disk.short_of_locateFrom h.root)] at hroot
  rw [Disk.locate, Disk.locateFrom_eq true (Disk.short_of_locateFrom hk)] at hk
  have hproper : ∀ name ∈ [manifestName], Path.IsProper name :=
    fun name hn => List.mem_singleton.1 hn ▸ isProper_manifestName
  exact Tree.walk_append_names hroot h.noLink hproper hk

namespace InForce

theorem locate (h : w.InForce text d l) : d.locate w.manifestPath = .ok (manifestPlace l) := by
  have hstep : d.tree.step l manifestName = .ok (l ++ [manifestName]) :=
    Tree.step_proper h.plain.isDirectory isProper_manifestName (by decide)
  rw [← name_manifestPath w] at hstep
  have hparent := h.plain.locate
  rw [← parent_manifestPath w] at hparent
  have hl : d.locateFrom true w.manifestPath = .ok (l ++ [w.manifestPath.name]) :=
    Disk.locateFrom_of_parent h.short (by simp [manifestPath, Path.child]) hparent hstep
      fun _ target => h.plain.noLink _ target (List.prefix_append _ _)
  rw [name_manifestPath] at hl
  exact hl

/-- **A manifest that is in force is read with its text.** -/
theorem readText (h : w.InForce text d l) : d.readText w.manifestPath = .ok text := by
  obtain ⟨bytes, hc, htext⟩ := h.placed
  rw [Disk.readText_of_locate h.noNull h.locate hc, htext]
  rfl

theorem holds (h : w.InForce text d l) : d.holds w.manifestPath text = .ok true := by
  obtain ⟨bytes, hc, -⟩ := h.placed
  have hfile : d.isFile w.manifestPath = .ok true := by
    rw [Disk.isFile, Disk.test, h.noNull, Disk.content, h.locate]
    dsimp only
    rw [hc]
    rfl
  rw [Disk.holds, hfile, h.readText]
  simp

/-- **A text that is in force is not written again.** -/
theorem writeIfChanged (h : w.InForce text d l) : Disk.writeIfChanged w.manifestPath text d = (.ok false, d) :=
  Disk.writeIfChanged_of_holds h.holds

end InForce

/-! ## Writing the manifest -/

/-- A manifest that cannot be written changes nothing in a workspace that is there. -/
theorem writeManifest_failed {e : Failure} (hroot : d.isDirectory w.root = .ok true)
    (h : Disk.writeIfChanged w.manifestPath text d = (.error e, d')) : d' = d := by
  rw [Disk.writeIfChanged, bind_run] at h
  cases hheld : d.holds w.manifestPath text with
  | error e' =>
    rw [Disk.ask_of_error hheld] at h
    cases h
    rfl
  | ok held =>
    rw [Disk.ask_of_ok hheld] at h
    cases held with
    | true => cases h
    | false =>
      dsimp only at h
      rw [if_neg Bool.false_ne_true, parent_manifestPath, bind_of_ok (Disk.makeDirectories_of_isDirectory hroot),
        bind_run] at h
      rcases hwrite : Disk.writeAtomic w.manifestPath text d with ⟨written, d₁⟩
      rw [hwrite] at h
      cases written with
      | error e' =>
        cases h
        exact Disk.writeAtomic_failed hwrite
      | ok _ => cases h

/-- **A manifest that is written is in force**, be it that it was changed or that it had the text before. -/
theorem IsPlain.writeManifest (h : w.IsPlain d l) (hroot : d.isDirectory w.root = .ok true)
    (htext : '\r' ∉ text.toList) {changed : Bool}
    (hwrite : Disk.writeIfChanged w.manifestPath text d = (.ok changed, d')) :
    w.InForce text d' l ∧ Disk.Widens d d' ∧
      d'.writes = d.writes ++ (if changed then [w.manifestPath] else []) := by
  obtain ⟨rfl, rfl, hholds⟩ | ⟨rfl, d₁, directory, -, hmake, hsite, rfl⟩ := Disk.writeIfChanged_cases hwrite
  · have hread := Disk.readText_of_holds hholds
    cases hb : d'.readBytes w.manifestPath with
    | error e => rw [Disk.readText, hb] at hread; cases hread
    | ok bytes =>
      obtain ⟨hnull, k, hk, hc⟩ := Disk.readBytes_eq_ok_iff.1 hb
      rw [h.eq_manifestPlace hk] at hc
      rw [Disk.readText, hb] at hread
      dsimp only at hread
      cases hdecoded : Disk.textOf bytes with
      | error x => rw [hdecoded] at hread; cases hread
      | ok s =>
        rw [hdecoded] at hread
        cases hread
        exact ⟨⟨h, hnull, Disk.short_of_locateFrom hk, bytes, hc, hdecoded⟩, .refl d', by simp⟩
  · rw [parent_manifestPath, Disk.makeDirectories_of_isDirectory hroot] at hmake
    cases hmake
    obtain ⟨hplain, hplace⟩ := h.site (p := w.manifestPath) (q := ⟨.here, [manifestName]⟩) rfl
      (fun name hn => List.mem_singleton.1 hn ▸ isProper_manifestName) hsite
    have hwritten := Disk.written_afterWrite d w.manifestPath directory text
    have hplaced := hwritten.placed
    rw [hplace] at hplaced
    have hwidens := hplain.widens text
    refine ⟨⟨h.of_widens hwidens, hsite.noNull, hsite.short, _, hplaced, ?_⟩, hwidens, hwritten.writes⟩
    rw [Disk.textOf_encode, Text.asRead_of_not_mem htext]

/-! ## Writing files of modules -/

/-- **A manifest stays in force when the file of a module is written**, also if that fails; no path is led elsewhere, and
the manifest is not written. -/
theorem InForce.writeBelow (h : w.InForce text d l) {directory : String} (hdirectory : Path.IsProper directory)
    {p : Path} (hp : p.IsModuleFile) (source : String) :
    let d' := (w.writeBelow (w.root.child directory / p) source d).2
    w.InForce text d' l ∧ Disk.Widens d d' ∧ d'.writes.count w.manifestPath = d.writes.count w.manifestPath := by
  rw [Workspace.writeBelow]
  cases hbelow : (w.root.child directory / p).below? w.root with
  | none => exact ⟨h, .refl d, rfl⟩
  | some q =>
    obtain ⟨hparts, hproper, hname⟩ := proper_of_below? hdirectory hp hbelow
    dsimp only
    rw [bind_run, writeSource, Path.join_below? hbelow, bind_run]
    rcases hwrite : Disk.writeIfChanged (w.root.child directory / p) source d with ⟨result, d'⟩
    obtain ⟨hwidens, hkept, hcount⟩ := h.plain.writeIfChanged hparts hproper hname hwrite
    obtain ⟨bytes, hc, htext⟩ := h.placed
    have hforce : w.InForce text d' l :=
      ⟨h.plain.of_widens hwidens, h.noNull, h.short, bytes, hkept bytes hc, htext⟩
    cases result <;> exact ⟨hforce, hwidens, hcount⟩

end Workspace
end ElmAssay
