import ElmAssay.Proofs.Disk.Grow

/-!
# Files that are put by some paths

A disk may come of another one by directories that are added, by files that are put at the sites of some paths, and by what
somebody else does (`Disk.Puts`). Then at every location that nobody else touched is what was there, a new directory, or a
file that was put there by one of the paths (`Puts.content?_cases`). A file with the name of a temporary one is not among
these, if no path has such a name (`Puts.content?_of_isTemporary`).

No file can be put by a path that names a directory, or by one whose way is barred by a file (`Barred.writeIfChanged`).
-/

namespace ElmAssay.Disk

open Effect

variable {d d' d₁ : Disk} {p q : Path} {l directory : Location} {text : String}

/-! ## Runs of writes -/

/-- A disk that comes of another one by steps: directories are added, a file is put at the site of a path of some kind, or
somebody else changes the disk in a way that is allowed. -/
inductive Puts (K : Path → Prop) (R : Disk → Disk → Prop) (d : Disk) : Disk → Prop
  | refl : Puts K R d d
  | grow {d₁ d₂ : Disk} : Puts K R d d₁ → Grown d₁ d₂ → Puts K R d d₂
  | put {d₁ : Disk} {p : Path} {directory : Location} (text : String) : Puts K R d d₁ → K p → d₁.Site p directory →
      Puts K R d (d₁.afterWrite p directory text)
  | other {d₁ d₂ : Disk} : Puts K R d d₁ → R d₁ d₂ → Puts K R d d₂

/-- On the way from one disk to another a file was put at a location, by a path of some kind that led there, and it stayed. -/
def PutAt (K : Path → Prop) (R : Disk → Disk → Prop) (d d' : Disk) (l : Location) : Prop :=
  ∃ p before directory text, K p ∧ Puts K R d before ∧ before.Site p directory ∧ l = directory ++ [p.name] ∧
    Puts K R (before.afterWrite p directory text) d' ∧
    d'.tree.content? l = some (.file (Text.Utf8.encode text.toList))

namespace Puts

variable {K : Path → Prop} {R : Disk → Disk → Prop}

theorem trans {d₂ : Disk} (h : Puts K R d d₁) (h' : Puts K R d₁ d₂) : Puts K R d d₂ := by
  induction h' with
  | refl => exact h
  | grow _ hgrown ih => exact ih.grow hgrown
  | put text _ hK hsite ih => exact ih.put text hK hsite
  | other _ hR ih => exact ih.other hR

/-- A write to a path of the kind is such a step, also if it fails. -/
theorem writeIfChanged {result : Except Failure Bool} (h : Puts K R d d₁) (hp : K p)
    (hwrite : Disk.writeIfChanged p text d₁ = (result, d')) : Puts K R d d' := by
  rcases writeIfChanged_changes hwrite with hgrown | ⟨d₂, directory, hgrown, hsite, rfl⟩
  · exact h.grow hgrown
  · exact (h.grow hgrown).put text hp hsite

/-- **At a location that nobody else touches is what was there, a new directory, or a file that was put there.** -/
theorem content?_cases (h : Puts K R d d')
    (hother : ∀ d₁ d₂, R d₁ d₂ → d₂.tree.content? l = d₁.tree.content? l) :
    d'.tree.content? l = d.tree.content? l ∨
      (d.tree.content? l = none ∧ d'.tree.content? l = some .directory) ∨ PutAt K R d d' l := by
  induction h with
  | refl => exact .inl rfl
  | @grow d₁ d₂ _ hgrown ih =>
    rcases ih with hsame | ⟨hnone, hdir⟩ | ⟨p, before, directory, text, hp, hbefore, hsite, hl, hafter, hfile⟩
    · rw [← hsame]
      exact (hgrown.content l).imp_right .inl
    · exact .inr (.inl ⟨hnone, hgrown.content?_of_some hdir⟩)
    · exact .inr (.inr ⟨p, before, directory, text, hp, hbefore, hsite, hl, hafter.grow hgrown,
        hgrown.content?_of_some hfile⟩)
  | @put d₁ p directory text hrun hp hsite ih =>
    have hwritten := written_afterWrite d₁ p directory text
    by_cases hl : l = directory ++ [p.name]
    · exact .inr (.inr ⟨p, d₁, directory, text, hp, hrun, hsite, hl, .refl, hl ▸ hwritten.placed⟩)
    · rw [hwritten.kept l hl]
      refine ih.imp_right (.imp_right ?_)
      rintro ⟨q, before, directory', text', hq, hbefore, hsite', hl', hafter, hfile⟩
      exact ⟨q, before, directory', text', hq, hbefore, hsite', hl', hafter.put text hp hsite,
        (hwritten.kept l hl).trans hfile⟩
  | @other d₁ d₂ _ hR ih =>
    rw [hother d₁ d₂ hR]
    refine ih.imp_right (.imp_right ?_)
    rintro ⟨p, before, directory, text, hp, hbefore, hsite, hl, hafter, hfile⟩
    exact ⟨p, before, directory, text, hp, hbefore, hsite, hl, hafter.other hR, (hother d₁ d₂ hR).trans hfile⟩

end Puts

/-! ## Temporary files -/

/-- A name that a temporary file can have. -/
def IsTemporary (name : String) : Prop := ∃ base count, name = temporaryName base count

theorem IsTemporary.getLast? {name : String} (h : IsTemporary name) : name.toList.getLast? = some 'p' := by
  obtain ⟨base, count, rfl⟩ := h
  have hend : (".tmp" : String).toList = ['.', 't', 'm'] ++ ['p'] := by decide
  rw [temporaryName, String.toList_append, hend, ← List.append_assoc, List.getLast?_concat]

/-- **No file with the name of a temporary one stays behind**, if none of the paths has such a name. -/
theorem Puts.content?_of_isTemporary {K : Path → Prop} {R : Disk → Disk → Prop} {name : String} {bytes : Bytes}
    (h : Puts K R d d') (hK : ∀ p, K p → ¬ IsTemporary p.name) (hname : IsTemporary name)
    (hother : ∀ d₁ d₂, R d₁ d₂ → d₂.tree.content? (directory ++ [name]) = d₁.tree.content? (directory ++ [name]))
    (hfile : d'.tree.content? (directory ++ [name]) = some (.file bytes)) :
    d.tree.content? (directory ++ [name]) = some (.file bytes) := by
  rcases h.content?_cases hother with hsame | ⟨-, hdir⟩ | ⟨p, -, directory', -, hp, -, -, hl, -⟩
  · rw [← hsame, hfile]
  · cases hfile.symm.trans hdir
  · have hends : name = p.name := List.singleton_inj.1 (List.append_inj_right' hl rfl)
    exact absurd (hends ▸ hname) (hK p hp)

/-! ## Paths at which no file can be put -/

/-- A path by which no file can be put: it names a directory, or there is a file in the way to the directory around it. -/
def Barred (d : Disk) (p : Path) : Prop :=
  (∃ l, d.locateName p = .ok l ∧ d.tree.content? l = some .directory) ∨ d.Obstructed p.parent

theorem locate_of_locateName (hl : d.locateName p = .ok l) (hdir : d.tree.content? l = some .directory) :
    d.locate p = .ok l := by
  rcases locateName_cases (d := d) (short_of_locateFrom hl) with hsame | ⟨k, target, hk, hlink⟩
  · rw [← hsame, hl]
  · cases hl.symm.trans hk
    cases hdir.symm.trans hlink

/-- A directory that is not reached by a link bars its path. -/
theorem barred_of_isDirectory (hdir : d.isDirectory p = .ok true)
    (hlink : ∀ l target, d.locateName p = .ok l → d.tree.content? l ≠ some (.link target)) : d.Barred p := by
  obtain ⟨-, l, hl, hc⟩ := isDirectory_eq_true_iff.1 hdir
  rcases locateName_cases (d := d) (short_of_locateFrom hl) with hsame | ⟨k, target, hk, htarget⟩
  · exact .inl ⟨l, hsame.trans hl, hc⟩
  · exact absurd htarget (hlink k target hk)

theorem Obstructed.short (h : d.Obstructed p) : p.text.utf8ByteSize < pathLimit := by
  rcases h with h | ⟨l, bytes, h, -⟩
  · rw [locate, locateFrom] at h
    split at h
    · cases h
    · rename_i hshort
      exact Nat.not_le.1 hshort
  · exact short_of_locateFrom h

/-- **A write to a barred path fails.** -/
theorem Barred.writeIfChanged (h : d.Barred p) (hparts : p.parts ≠ []) (text : String) :
    ∃ x d', Disk.writeIfChanged p text d = (.error x, d') ∧ Grown d d' := by
  rcases hwrite : Disk.writeIfChanged p text d with ⟨result, d'⟩
  cases result with
  | error x => exact ⟨x, d', rfl, writeIfChanged_failed hwrite⟩
  | ok changed =>
    exfalso
    rcases writeIfChanged_cases hwrite with ⟨-, -, hholds⟩ | ⟨-, d₁, directory, -, hmake, hsite, -⟩
    · -- a file that holds the text would be where the directory is, or behind the file that is in the way
      have hread := readText_of_holds hholds
      cases hb : d.readBytes p with
      | error x => rw [readText, hb] at hread; cases hread
      | ok bytes =>
        obtain ⟨hnull, k, hk, hfile⟩ := readBytes_eq_ok_iff.1 hb
        rcases h with ⟨l, hl, hdir⟩ | hobstructed
        · cases (locate_of_locateName hl hdir).symm.trans hk
          cases hdir.symm.trans hfile
        · cases hobstructed.isDirectory.symm.trans (isDirectory_parent_of_locateFrom hnull hparts hk)
    · rcases h with ⟨l, hl, hdir⟩ | hobstructed
      · have hgrown := makeDirectories_grown p.parent d
        rw [hmake] at hgrown
        have hname : d₁.locateName p = .ok (directory ++ [p.name]) :=
          locateFrom_of_parent hsite.short hsite.parts hsite.parent hsite.step (by simp)
        have hname' : d₁.locateName p = .ok l := hgrown.toWidens.locateFrom hl
        have hplace : directory ++ [p.name] = l := Except.ok.inj (hname.symm.trans hname')
        exact hsite.vacant (hplace ▸ hgrown.content?_of_some hdir)
      · exact hobstructed.makeDirectories_ne hobstructed.short hmake

/-- The name of a path that leads somewhere fits. -/
theorem name_fits_of_locate (hparts : p.parts ≠ []) (hproper : Path.IsProper p.name)
    (hparent : d.locate p.parent = .ok directory) (h : d.locate p = .ok l) : p.name.utf8ByteSize ≤ Tree.nameLimit := by
  cases hs : d.tree.step directory p.name with
  | ok next =>
    obtain ⟨-, hstep⟩ := Tree.step_eq_ok_iff.1 hs
    rw [if_neg (by rintro (h | h); exacts [hproper.1 h, hproper.2.1 h]), if_neg hproper.2.2] at hstep
    exact hstep.1
  | error r =>
    have hwalk := hparent
    rw [locate, locateFrom_eq true (short_of_locateFrom hparent)] at hwalk
    rw [locate, locateFrom_eq true (short_of_locateFrom h), Path.parts_eq hparts,
      Tree.walk_append_part_error (l := startOf d p) hwalk hs] at h
    cases h

/-- A file that is put in a directory under another name than that of the directory leaves the path of the directory barred,
if it names no link then. -/
theorem barred_afterWrite (hsite : d.Site p directory) (hdir : d.isDirectory q = .ok true) (hparts : q.parts ≠ [])
    (hproper : Path.IsProper q.name) (hname : q.name ≠ p.name)
    (hlink : ∀ l target, (d.afterWrite p directory text).locateName q = .ok l →
      (d.afterWrite p directory text).tree.content? l ≠ some (.link target)) :
    (d.afterWrite p directory text).Barred q := by
  obtain ⟨hnull, l, hl, hc⟩ := isDirectory_eq_true_iff.1 hdir
  have hshort := short_of_locateFrom hl
  obtain ⟨-, around, haround, hcaround⟩ :=
    isDirectory_eq_true_iff.1 (isDirectory_parent_of_locateFrom hnull hparts hl)
  have hwritten := written_afterWrite d p directory text
  rcases locate_afterWrite_cases hsite haround text with hsame | hobstructed
  · have hother : around ++ [q.name] ≠ directory ++ [p.name] := fun he =>
      hname (List.singleton_inj.1 (List.append_inj_right' he rfl))
    have haround' : (d.afterWrite p directory text).tree.content? around = some .directory := by
      rw [hwritten.kept around fun he => hsite.vacant (he ▸ hcaround), hcaround]
    have hfits : q.name.utf8ByteSize ≤ Tree.nameLimit := name_fits_of_locate hparts hproper haround hl
    have hstep' := Tree.step_proper haround' hproper hfits
    have hname' : (d.afterWrite p directory text).locateName q = .ok (around ++ [q.name]) :=
      locateFrom_of_parent hshort hparts hsame hstep' (by simp)
    have hplain (target : String) : d.tree.content? (around ++ [q.name]) ≠ some (.link target) := by
      rw [← hwritten.kept _ hother]
      exact hlink _ target hname'
    have hplace : d.locate q = .ok (around ++ [q.name]) :=
      locateFrom_of_parent hshort hparts haround (Tree.step_proper hcaround hproper hfits) fun _ => hplain
    cases hplace.symm.trans hl
    exact .inl ⟨_, hname', (hwritten.kept _ hother).trans hc⟩
  · exact .inr hobstructed

end ElmAssay.Disk
