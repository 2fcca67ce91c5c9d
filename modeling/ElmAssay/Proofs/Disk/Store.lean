import ElmAssay.Proofs.Disk.Clear
import Mathlib.Data.Nat.Digits.Defs

/-!
# Files at free places

Whether a file can be written at a path from the top, where the places on the way are free, depends on the path
(`Path.writeFault`) and on whether a directory is at its place (`Disk.refusal`), if there is room for the temporary file
(`Disk.HasRoom`). What is in the file does not matter: be it that it is found to hold the text, that it is replaced, or
that nothing was there, afterwards the text is what is read there (`writeIfChanged_free`).
-/

namespace ElmAssay

open Path Text

/-! ## Names of temporary files -/

theorem Text.utf8ByteSize_ofList : ∀ {s : List Char}, (∀ c ∈ s, c.utf8Size = 1) →
    (String.ofList s).utf8ByteSize = s.length
  | [], _ => rfl
  | c :: s, h => by
    have hc : (String.singleton c).utf8ByteSize = 1 := by
      rw [String.utf8ByteSize_singleton, h c List.mem_cons_self]
    have hs := utf8ByteSize_ofList fun a ha => h a (List.mem_cons_of_mem c ha)
    rw [show c :: s = [c] ++ s from rfl, String.ofList_append, String.utf8ByteSize_append, hs, List.length_append]
    exact congrArg (· + s.length) hc

namespace Number

theorem length_padded {width n : Nat} (hwidth : 0 < width) (h : n < 10 ^ width) : (padded width n).length = width := by
  have hle : (natDigits n).length ≤ width := Nat.toDigits_length 10 n width hwidth h
  rw [padded, List.length_append, List.length_replicate]
  omega

theorem utf8Size_of_mem_padded {width n : Nat} {c : Char} (h : c ∈ padded width n) : c.utf8Size = 1 := by
  have hdigit : c.isDigit = true := by
    rcases List.mem_append.1 h with hzero | hdigit
    · rw [List.eq_of_mem_replicate hzero]
      decide
    · exact Nat.isDigit_of_mem_toDigits (by decide) (by decide) hdigit
  rw [Char.isDigit, Bool.and_eq_true, decide_eq_true_eq, decide_eq_true_eq] at hdigit
  rw [Char.utf8Size_eq_one_iff]
  exact Nat.le_trans (UInt32.le_iff_toNat_le.1 hdigit.2) (by decide)

end Number

/-- A path that can name a file: one from the top that ends in a name. -/
structure Path.IsFilePath (p : Path) : Prop where
  rooted : p.IsRooted
  proper : IsProper p.name

namespace Path

variable {p : Path}

theorem IsFilePath.parts (h : p.IsFilePath) : p.parts ≠ [] := by
  intro he
  refine h.proper.1 ?_
  rw [name, he]
  rfl

/-- The place of a file is under its name in the place of the directory around it. -/
theorem IsFilePath.place (h : p.IsFilePath) : p.place = p.parent.place ++ [p.name] := by
  rw [place_eq h.parts, turn_of_ne _ h.proper.2.2]

theorem IsFilePath.name_fits (h : p.IsFilePath) (hfault : p.fault = none) : p.name.utf8ByteSize ≤ Tree.nameLimit := by
  refine (fault_eq_none_iff.1 hfault).2.2 _ ?_
  rw [Path.parts_eq h.parts]
  exact List.mem_append_right _ List.mem_cons_self

/-- The place beside a path with the temporary name of a count. -/
def beside (p : Path) (n : Nat) : List String := p.parent.place ++ [Disk.temporaryName p.name n]

/-- Why the system refuses to write a file at a path, as far as the path alone tells. -/
def writeFault (p : Path) : Option Failure :=
  if p.hasNull then some (p.parent.fault.getD .nullCharacter) else p.fault

theorem fault_parent_eq_none (h : p.fault = none) : p.parent.fault = none := by
  obtain ⟨hnull, hshort, hfits⟩ := fault_eq_none_iff.1 h
  exact fault_eq_none_iff.2
    ⟨hasNull_parent hnull, short_parent hshort, fun part hpart => hfits part (List.dropLast_subset _ hpart)⟩

end Path

namespace Disk

open Effect

variable {d d₁ d' : Disk} {p : Path} {text : String} {used : List Location}

/-- How many bytes the name of a temporary file has more than that of the file. -/
def temporaryMargin : Nat := 14

theorem utf8ByteSize_temporaryName_eq (name : String) {n : Nat} (h : n < 10 ^ 8) :
    (temporaryName name n).utf8ByteSize = name.utf8ByteSize + temporaryMargin := by
  have hdigits : (String.ofList (Number.padded 8 n)).utf8ByteSize = 8 := by
    rw [utf8ByteSize_ofList fun _ => Number.utf8Size_of_mem_padded, Number.length_padded (by decide) h]
  have hdot : (".").utf8ByteSize = 1 := by decide
  have hending : (".tmp").utf8ByteSize = 4 := by decide
  simp only [temporaryName, String.utf8ByteSize_append, hdigits, hdot, hending, temporaryMargin]
  omega

/-- Beside a file there is room for a temporary file: its name is not too long, unless that of the file itself is, and one
of the temporary names is not taken, nor put to another use. -/
structure HasRoom (used : List Location) (d : Disk) (p : Path) : Prop where
  fits : p.name.utf8ByteSize ≤ Tree.nameLimit → p.name.utf8ByteSize + temporaryMargin ≤ Tree.nameLimit
  unused : ∃ n < 10 ^ 8, p.beside n ∉ used ∧ d.tree.content? (p.beside n) = none

/-- Room is left as long as nothing but what it is not needed for changes. -/
theorem HasRoom.of_kept (h : HasRoom used d p) (hkept : ∀ k, k ∉ used → d'.tree.content? k = d.tree.content? k) :
    HasRoom used d' p := by
  obtain ⟨n, hn, hunused, hnone⟩ := h.unused
  exact ⟨h.fits, n, hn, hunused, by rw [hkept _ hunused, hnone]⟩

/-- Where there is room, the temporary name fits. -/
theorem HasRoom.freshName_fits (h : HasRoom used d p) (hname : p.name.utf8ByteSize ≤ Tree.nameLimit) :
    (freshName d.tree p.parent.place p.name).utf8ByteSize ≤ Tree.nameLimit := by
  obtain ⟨n, hn, -, hnone⟩ := h.unused
  obtain ⟨m, hm, -, hleast⟩ := freshName_eq d.tree p.parent.place p.name
  have hmn : m ≤ n := Nat.le_of_not_lt fun hlt => hleast n hlt (Tree.content?_eq_none_iff.1 hnone)
  rw [hm, utf8ByteSize_temporaryName_eq p.name (Nat.lt_of_le_of_lt hmn hn)]
  exact h.fits hname

/-! ## Writing -/

/-- Why a file cannot be written at a path over free places: the system refuses the path, or a directory is there, maybe one
that is made for the path itself. -/
def refusal (d : Disk) (p : Path) : Option Failure :=
  p.writeFault.or
    (if (places [] p.parent.parts).contains p.place || d.tree.hasDirectory p.place then some (.system ⟨.isDirectory, ""⟩)
    else none)

theorem refusal_of_fault {x : Failure} (h : p.writeFault = some x) : d.refusal p = some x := by
  rw [refusal, h]
  rfl

theorem refusal_of_directory (h : p.writeFault = none)
    (hdir : p.place ∈ places [] p.parent.parts ∨ d.tree.content? p.place = some .directory) :
    d.refusal p = some (.system ⟨.isDirectory, ""⟩) := by
  have hstands : ((places [] p.parent.parts).contains p.place || d.tree.hasDirectory p.place) = true := by
    rw [Bool.or_eq_true, List.contains_iff_mem]
    exact hdir.imp_right Tree.hasDirectory_iff.2
  rw [refusal, h, Option.none_or, if_pos hstands]

theorem refusal_eq_none (h : p.writeFault = none) (hmem : p.place ∉ places [] p.parent.parts)
    (hdir : d.tree.content? p.place ≠ some .directory) : d.refusal p = none := by
  rw [refusal, h, Option.none_or, if_neg]
  rw [Bool.or_eq_true, List.contains_iff_mem]
  rintro (h | h)
  · exact hmem h
  · exact hdir (Tree.hasDirectory_iff.1 h)

theorem fault_of_refusal_eq_none (h : d.refusal p = none) : p.fault = none := by
  rw [refusal, Option.or_eq_none_iff, writeFault] at h
  obtain ⟨hfault, -⟩ := h
  split at hfault
  · cases hfault
  · exact hfault

/-- A disk where the text of a file is what was written there, the places on the way are directories, and all else is as it
was. -/
structure Stored (p : Path) (text : String) (d d' : Disk) : Prop where
  paved : ∀ k ∈ places [] p.parent.parts, d'.tree.content? k = some .directory
  placed : ∃ bytes, d'.tree.content? p.place = some (.file bytes) ∧ textOf bytes = .ok (asRead text)
  kept : ∀ k, k ∉ places [] p.parts → d'.tree.content? k = d.tree.content? k
  current : d'.current = d.current

theorem Stored.place_not_mem (h : Stored p text d d') : p.place ∉ places [] p.parent.parts := by
  intro hmem
  obtain ⟨bytes, hplaced, -⟩ := h.placed
  cases hplaced.symm.trans (h.paved _ hmem)

/-- **The text of a file that was written is read there.** -/
theorem Stored.readText (h : Stored p text d d') (hp : p.IsFilePath) (hfault : p.fault = none) :
    d'.readText p = .ok (asRead text) := by
  obtain ⟨bytes, hplaced, htext⟩ := h.placed
  have hlink : d'.tree.NoLink p.place := fun target hlink => by cases hplaced.symm.trans hlink
  have hl : d'.locate p = .ok p.place := locateFrom_of_dirs hp.rooted hfault h.paved hlink true
  rw [readText_of_locate (fault_eq_none_iff.1 hfault).1 hl hplaced, htext]
  rfl

/-- A path over free places leads to its place, to nothing, or is refused. -/
theorem locate_free (hp : p.IsFilePath) (hshort : p.text.utf8ByteSize < pathLimit)
    (hfree : ∀ k ∈ places [] p.parent.parts, d.tree.IsFree k) (hlink : d.tree.NoLink p.place) :
    (d.locate p = .ok p.place ∧ (∀ part ∈ p.parts, part.utf8ByteSize ≤ Tree.nameLimit) ∧
        ∀ k ∈ places [] p.parent.parts, d.tree.content? k = some .directory) ∨
      d.locate p = .error .noEntry ∨
      (d.locate p = .error .nameTooLong ∧ ∃ part ∈ p.parts, Tree.nameLimit < part.utf8ByteSize) := by
  rcases locateFrom_free hp.rooted hshort hfree hlink with ⟨h, hfits, hdirs⟩ | ⟨h, -⟩ | ⟨h, hlong⟩
  · exact .inl ⟨h true, hfits, hdirs⟩
  · exact .inr (.inl (h true))
  · exact .inr (.inr ⟨h true, hlong⟩)

theorem holds_of_missing (h : d.locate p = .error .noEntry) : d.holds p text = .ok false := by
  have hfile : d.isFile p = .ok false := by
    rw [isFile, test, content, h]
    split <;> rfl
  rw [holds, hfile]

theorem holds_of_tooLong (hnull : p.hasNull = false) (h : d.locate p = .error .nameTooLong) :
    d.holds p text = .error (.system ⟨.nameTooLong, p.text⟩) := by
  have hfile : d.isFile p = .error (.system ⟨.nameTooLong, p.text⟩) := by
    rw [isFile, test, hnull, content, h]
    rfl
  rw [holds, hfile]

theorem holds_of_null (h : p.hasNull = true) : d.holds p text = .ok false := by
  have hfile : d.isFile p = .ok false := by rw [isFile, test, if_pos h]
  rw [holds, hfile]

/-- Where a path leads somewhere, what is there holds a text or does not. -/
theorem holds_of_locate (h : d.locate p = .ok p.place) : ∃ held, d.holds p text = .ok held := by
  have hfile : ∃ b, d.isFile p = .ok b := by
    rw [isFile, test]
    split
    · exact ⟨false, rfl⟩
    · rw [content, h]
      dsimp only
      cases d.tree.content? p.place with
      | none => exact ⟨false, rfl⟩
      | some c => exact ⟨_, rfl⟩
  obtain ⟨b, hb⟩ := hfile
  rw [holds, hb]
  cases b with
  | false => exact ⟨false, rfl⟩
  | true =>
    dsimp only
    cases d.readText p with
    | error e => exact ⟨false, rfl⟩
    | ok s => exact ⟨_, rfl⟩

/-! ## In directories that were made -/

section Paved

variable {q : Path}

theorem Paved.isDirectory (h : Paved q d d') : d'.tree.content? q.place = some .directory := by
  by_cases hparts : q.parts = []
  · rw [place_of_nil hparts]
    rfl
  · exact h.paved _ (place_mem_places hparts)

/-- A path leads to the directory that was made there. -/
theorem Paved.locate (h : Paved q d d') (hq : q.IsRooted) (hfault : q.fault = none) : d'.locate q = .ok q.place := by
  have hlink : d'.tree.NoLink q.place := fun target hlink => by cases h.isDirectory.symm.trans hlink
  exact locateFrom_of_dirs hq hfault (fun k hk => h.paved k (places_parent_subset q hk)) hlink true

/-- A file is refused in a directory that is there if the name of its temporary file is too long. -/
theorem Paved.writeAtomic_of_longName (h : Paved p.parent d d₁) (hp : p.IsFilePath) (hparent : p.parent.fault = none)
    (hnull : p.hasNull = false)
    (hname : Tree.nameLimit < (freshName d₁.tree p.parent.place p.name).utf8ByteSize) :
    writeAtomic p text d₁ = (.error (.system ⟨.nameTooLong, p.text⟩), d₁) := by
  have hdir : d₁.tree.hasDirectory p.parent.place = true := Tree.hasDirectory_iff.2 h.isDirectory
  have htemp : d₁.temporaryFor p = .error (.system ⟨.nameTooLong, p.text⟩) := by
    rw [temporaryFor, hnull, h.locate hp.rooted.parent hparent]
    simp only [Bool.false_eq_true, if_false, hdir, Bool.not_true, if_pos hname]
  rw [writeAtomic, bind_of_error (ask_of_error htemp)]

theorem Paved.temporaryFor (h : Paved p.parent d d₁) (hp : p.IsFilePath) (hfault : p.fault = none)
    (hroom : HasRoom used d₁ p) : d₁.temporaryFor p = .ok (temporaryPlace d₁ p p.parent.place) := by
  have hnull := (fault_eq_none_iff.1 hfault).1
  have hname := hp.name_fits hfault
  have hdir : d₁.tree.hasDirectory p.parent.place = true := Tree.hasDirectory_iff.2 h.isDirectory
  rw [Disk.temporaryFor, hnull, h.locate hp.rooted.parent (fault_parent_eq_none hfault)]
  simp only [Bool.false_eq_true, if_false, hdir, Bool.not_true, if_neg (Nat.not_lt.2 (hroom.freshName_fits hname))]
  rfl

/-- In a directory that is there, a file is written where no directory is. -/
theorem Paved.site (h : Paved p.parent d d₁) (hp : p.IsFilePath) (hfault : p.fault = none) (hroom : HasRoom used d₁ p)
    (hdir : d₁.tree.content? p.place ≠ some .directory) : d₁.Site p p.parent.place := by
  obtain ⟨hnull, hshort, -⟩ := fault_eq_none_iff.1 hfault
  exact {
    noNull := hnull
    short := hshort
    parts := hp.parts
    proper := hp.proper
    parent := h.locate hp.rooted.parent (fault_parent_eq_none hfault)
    isDirectory := h.isDirectory
    vacant := hp.place ▸ hdir
    fits := hroom.freshName_fits (hp.name_fits hfault) }

/-- A directory is not replaced by a file. -/
theorem Paved.writeAtomic_of_directory (h : Paved p.parent d d₁) (hp : p.IsFilePath) (hfault : p.fault = none)
    (hroom : HasRoom used d₁ p) (hdir : d₁.tree.content? p.place = some .directory) :
    ∃ e d', writeAtomic p text d₁ = (.error e, d') ∧ e.cause = .system ⟨.isDirectory, ""⟩ := by
  have hreplace : (d₁.withTemporary p p.parent.place text).replaceable p = .error .isDirectory := by
    obtain ⟨-, hshort, -⟩ := fault_eq_none_iff.1 hfault
    have hparent := h.locate hp.rooted.parent (fault_parent_eq_none hfault)
    have hname : (d₁.withTemporary p p.parent.place text).locateName p = .ok (p.parent.place ++ [p.name]) :=
      locateFrom_of_parent hshort hp.parts (locate_parent_withTemporary hparent text)
        (Tree.step_proper (isDirectory_withTemporary h.isDirectory text) hp.proper (hp.name_fits hfault)) (by simp)
    have hthere : (d₁.withTemporary p p.parent.place text).tree.hasDirectory (p.parent.place ++ [p.name]) = true := by
      rw [Tree.hasDirectory_iff, content?_withTemporary text temporaryPlace_ne, ← hp.place]
      exact hdir
    rw [replaceable, hname, vacated]
    rw [if_neg (not_or.2 ⟨hp.parts, hp.proper.2.2⟩), if_pos hthere]
  rw [writeAtomic_run (h.temporaryFor hp hfault hroom), hreplace]
  exact ⟨_, _, rfl, rfl⟩

end Paved

/-- A file that a directory was made for is written, unless it is itself a directory. -/
theorem Paved.writeIfChanged (h : Paved p.parent d d₁) (hmake : makeDirectories p.parent d = (.ok (), d₁))
    (hp : p.IsFilePath) (hfault : p.fault = none) (hused : places [] p.parent.parts ⊆ used) (hroom : HasRoom used d p)
    (hholds : d.holds p text = .ok false) : Ends (d.refusal p) (Stored p text d) (Disk.writeIfChanged p text d) := by
  have hroom₁ : HasRoom used d₁ p := hroom.of_kept fun k hk => h.kept k fun hm => hk (hused hm)
  have hwriteFault : p.writeFault = none := by
    rw [writeFault, (fault_eq_none_iff.1 hfault).1]
    exact hfault
  rw [writeIfChanged_of_not_holds hholds, hmake]
  dsimp only
  by_cases hdir : p.place ∈ places [] p.parent.parts ∨ d.tree.content? p.place = some .directory
  · have hdir₁ : d₁.tree.content? p.place = some .directory := by
      by_cases hmem : p.place ∈ places [] p.parent.parts
      · exact h.paved _ hmem
      · rw [h.kept _ hmem]
        exact hdir.resolve_left hmem
    have hstuck : ∃ e d', writeAtomic p text d₁ = (.error e, d') ∧ e.cause = .system ⟨.isDirectory, ""⟩ :=
      h.writeAtomic_of_directory hp hfault hroom₁ hdir₁
    obtain ⟨e, d₂, hwrite, hcause⟩ := hstuck
    exact ends_of_error (refusal_of_directory hwriteFault hdir) (by rw [hwrite]) hcause
  · obtain ⟨hmem, hdir⟩ := not_or.1 hdir
    have hsite := h.site hp hfault hroom₁ (by rw [h.kept _ hmem]; exact hdir)
    have hwritten := written_afterWrite d₁ p p.parent.place text
    have hplaced := hwritten.placed
    rw [← hp.place] at hplaced
    rw [writeAtomic_of_site hsite]
    refine ends_of_ok (refusal_eq_none hwriteFault hmem hdir) rfl ⟨fun k hk => ?_, ⟨_, hplaced, textOf_encode text⟩,
      fun k hk => ?_, hwritten.current.trans h.current⟩
    · rw [hwritten.kept, h.paved k hk]
      rw [← hp.place]
      exact fun he => hmem (he ▸ hk)
    · rw [places_parent hp.parts, List.mem_append, List.mem_singleton] at hk
      obtain ⟨hparent, hplace⟩ := not_or.1 hk
      rw [hwritten.kept k (hp.place ▸ hplace), h.kept k hparent]

/-- A file that is found to hold the text is as if it was written. -/
theorem stored_of_holds (hdirs : ∀ k ∈ places [] p.parent.parts, d.tree.content? k = some .directory)
    (hl : d.locate p = .ok p.place) (h : d.holds p text = .ok true) :
    Stored p text d d ∧ p.place ∉ places [] p.parent.parts ∧ d.tree.content? p.place ≠ some .directory := by
  have hread := readText_of_holds h
  cases hb : d.readBytes p with
  | error e => rw [readText, hb] at hread; cases hread
  | ok bytes =>
    obtain ⟨-, l, hl', hfile⟩ := readBytes_eq_ok_iff.1 hb
    cases hl.symm.trans hl'
    have htext : textOf bytes = .ok text := by
      rw [readText, hb] at hread
      dsimp only at hread
      cases ht : textOf bytes with
      | error x => rw [ht] at hread; cases hread
      | ok s =>
        rw [ht] at hread
        cases hread
        rfl
    refine ⟨⟨hdirs, ⟨bytes, hfile, ?_⟩, fun _ _ => rfl, rfl⟩, fun hmem => ?_, fun hdir => ?_⟩
    · rw [htext, asRead_of_not_mem (not_mem_of_readText hread)]
    · cases hfile.symm.trans (hdirs _ hmem)
    · cases hfile.symm.trans hdir

/-- **Whether a file can be written over free places depends on its path and on whether a directory is in its place**: what
else was there before is all the same. -/
theorem writeIfChanged_free (hp : p.IsFilePath) (hfree : ∀ k ∈ places [] p.parent.parts, d.tree.IsFree k)
    (hlink : d.tree.NoLink p.place) (hused : places [] p.parent.parts ⊆ used) (hroom : HasRoom used d p) (text : String) :
    Ends (d.refusal p) (Stored p text d) (writeIfChanged p text d) := by
  have hmake := makeDirectories_free hp.rooted.parent hfree
  cases hnull : p.hasNull with
  | true =>
    rw [writeIfChanged_of_not_holds (holds_of_null hnull)]
    have hwriteFault : p.writeFault = some (p.parent.fault.getD .nullCharacter) := if_pos hnull
    cases hparent : p.parent.fault with
    | some x =>
      obtain ⟨e, d₁, hrun, hcause⟩ := hmake.error hparent
      rw [hparent] at hwriteFault
      exact ends_of_error (refusal_of_fault hwriteFault) (by rw [hrun]) hcause
    | none =>
      obtain ⟨⟨⟩, d₁, hrun, -⟩ := hmake.ok hparent
      have htemp : d₁.temporaryFor p = .error .nullCharacter := by rw [temporaryFor, if_pos hnull]
      have hwrite : writeAtomic p text d₁ = (.error .nullCharacter, d₁) := by
        rw [writeAtomic, bind_of_error (ask_of_error htemp)]
      rw [hparent] at hwriteFault
      exact ends_of_error (refusal_of_fault hwriteFault) (by rw [hrun]; dsimp only; rw [hwrite]) rfl
  | false =>
    have hwriteFault : p.writeFault = p.fault := by
      rw [writeFault, hnull]
      rfl
    have htooLong (h : d.locate p = .error .nameTooLong)
        (hlong : pathLimit ≤ p.text.utf8ByteSize ∨ ∃ part ∈ p.parts, Tree.nameLimit < part.utf8ByteSize) :
        Ends (d.refusal p) (Stored p text d) (writeIfChanged p text d) := by
      refine ends_of_error (e := .system ⟨.nameTooLong, p.text⟩)
        (refusal_of_fault (hwriteFault.trans (fault_of_long hnull hlong))) ?_ rfl
      rw [writeIfChanged, bind_of_error (ask_of_error (holds_of_tooLong hnull h))]
    by_cases hshort : p.text.utf8ByteSize < pathLimit
    · rcases locate_free hp hshort hfree hlink with ⟨hl, hfits, hdirs⟩ | hmissing | ⟨hl, hlong⟩
      · have hfault : p.fault = none := fault_eq_none_iff.2 ⟨hnull, hshort, hfits⟩
        have hanswer : ∃ held, d.holds p text = .ok held := holds_of_locate hl
        obtain ⟨held, hheld⟩ := hanswer
        cases held with
        | true =>
          obtain ⟨hstored, hmem, hdir⟩ := stored_of_holds hdirs hl hheld
          exact ends_of_ok (refusal_eq_none (hwriteFault.trans hfault) hmem hdir) (writeIfChanged_of_holds hheld) hstored
        | false =>
          obtain ⟨⟨⟩, d₁, hrun, hpaved⟩ := hmake.ok (fault_parent_eq_none hfault)
          exact hpaved.writeIfChanged hrun hp hfault hused hroom hheld
      · have hheld : d.holds p text = .ok false := holds_of_missing hmissing
        cases hparent : p.parent.fault with
        | some x =>
          obtain ⟨e, d₁, hrun, hcause⟩ := hmake.error hparent
          refine ends_of_error (refusal_of_fault (hwriteFault.trans (fault_of_parent hnull hparent))) ?_ hcause
          rw [writeIfChanged_of_not_holds hheld, hrun]
        | none =>
          obtain ⟨⟨⟩, d₁, hrun, hpaved⟩ := hmake.ok hparent
          cases hfault : p.fault with
          | none => exact hpaved.writeIfChanged hrun hp hfault hused hroom hheld
          | some x =>
            -- the directory can be made, so it is the name of the file that is too long
            obtain ⟨hnull', -⟩ | ⟨-, hlong, rfl⟩ := fault_eq_some hfault
            · cases hnull.symm.trans hnull'
            obtain ⟨part, hpart, hlong⟩ := hlong.resolve_left (Nat.not_le.2 hshort)
            have hname : part = p.name := by
              rw [Path.parts_eq hp.parts, List.mem_append, List.mem_singleton] at hpart
              exact hpart.resolve_left fun hm =>
                absurd ((fault_eq_none_iff.1 hparent).2.2 part hm) (Nat.not_le.2 hlong)
            refine ends_of_error (e := .system ⟨.nameTooLong, p.text⟩)
              (refusal_of_fault (hwriteFault.trans hfault)) ?_ rfl
            rw [writeIfChanged_of_not_holds hheld, hrun]
            dsimp only
            rw [hpaved.writeAtomic_of_longName hp hparent hnull
              (Nat.lt_trans (hname ▸ hlong) (utf8ByteSize_freshName _ _ _))]
      · exact htooLong hl (.inr hlong)
    · have hlong := Nat.not_lt.1 hshort
      exact htooLong (locateFrom_of_long hlong true) (.inl hlong)

end Disk
end ElmAssay
