import ElmAssay.Proofs.Disk.Fresh
import ElmAssay.Proofs.Effect
import ElmAssay.Proofs.Text.Utf8

/-!
# Writing a file

A file can be put at a path if the path has a site (`Disk.Site`): the directory around it is there, what the path
names in it is no directory, and the temporary file fits in beside it. An atomic write succeeds exactly at a site
(`writeAtomic_of_site`, `site_of_writeAtomic`), and what it changes is the contents of one location (`Written`): there
they become the bytes of the text, and everywhere else they stay.
-/

namespace ElmAssay

/-- A name that a part of a path can give to an entry: it means neither "here" nor "up". -/
def Path.IsProper (name : String) : Prop := name ≠ "" ∧ name ≠ Path.here ∧ name ≠ Path.up

instance (name : String) : Decidable (Path.IsProper name) := inferInstanceAs (Decidable (_ ∧ _ ∧ _))

theorem Path.parts_eq {p : Path} (h : p.parts ≠ []) : p.parts = p.parent.parts ++ [p.name] := by
  rw [Path.parent, Path.name, List.getLastD_eq_getLast?, List.getLast?_eq_getLast_of_ne_nil h, Option.getD_some]
  exact (List.dropLast_append_getLast h).symm

theorem Tree.step_proper {t : Tree} {directory : Location} {name : String}
    (hd : t.content? directory = some .directory) (hname : Path.IsProper name)
    (hfits : name.utf8ByteSize ≤ Tree.nameLimit) : t.step directory name = .ok (directory ++ [name]) := by
  rw [Tree.step_eq_ok_iff]
  refine ⟨hd, ?_⟩
  rw [if_neg (by rintro (h | h); exacts [hname.1 h, hname.2.1 h]), if_neg hname.2.2]
  exact ⟨hfits, rfl⟩

/-- Below a location without links, names lead down. -/
theorem Tree.walk_append_names {t : Tree} {start l k : Location} {parts : List String}
    (hl : t.walk true start parts = .ok l) (hlink : ∀ m target, l <+: m → t.content? m ≠ some (.link target)) :
    ∀ {names : List String}, (∀ name ∈ names, Path.IsProper name) → t.walk true start (parts ++ names) = .ok k →
      k = l ++ names := by
  intro names
  induction names using List.reverseRecOn generalizing k with
  | nil =>
    intro _ hk
    rw [List.append_nil, hl] at hk
    rw [List.append_nil]
    exact (Except.ok.inj hk).symm
  | append_singleton names name ih =>
    intro hproper hk
    rw [← List.append_assoc] at hk
    obtain ⟨k₀, hk₀⟩ := walkAlong_of_append true name linkLimit start (parts ++ names) hk
    have hfront : k₀ = l ++ names := ih (fun n hn => hproper n (List.mem_append_left _ hn)) hk₀
    have hname := hproper name (List.mem_append_right _ List.mem_cons_self)
    cases hs : t.step k₀ name with
    | error r => rw [walk_append_part_error hk₀ hs] at hk; cases hk
    | ok next =>
      have hnext : next = l ++ (names ++ [name]) := by
        obtain ⟨-, hstep⟩ := step_eq_ok_iff.1 hs
        rw [if_neg (by rintro (h | h); exacts [hname.1 h, hname.2.1 h]), if_neg hname.2.2] at hstep
        rw [hstep.2, hfront, List.append_assoc]
      rw [walk_append_part hk₀ hs fun _ target => hlink next target (hnext ▸ List.prefix_append _ _)] at hk
      rw [← hnext]
      exact (Except.ok.inj hk).symm

namespace Disk

open Effect

variable {α : Type} {d d' : Disk} {p : Path} {directory : Location}

/-! ## Questions -/

theorem ask_of_ok {question : Disk → Except Failure α} {a : α} (h : question d = .ok a) :
    (ask question : DiskM α) d = (.ok a, d) := by
  rw [ask, bind_of_ok (get_run d), h]
  rfl

theorem ask_of_error {question : Disk → Except Failure α} {e : Failure} (h : question d = .error e) :
    (ask question : DiskM α) d = (.error e, d) := by
  rw [ask, bind_of_ok (get_run d), h]
  rfl

theorem ask_eq_ok {question : Disk → Except Failure α} {a : α} (h : (ask question : DiskM α) d = (.ok a, d')) :
    question d = .ok a ∧ d' = d := by
  cases hq : question d with
  | error e => rw [ask_of_error hq] at h; cases h
  | ok b => rw [ask_of_ok hq] at h; cases h; exact ⟨rfl, rfl⟩

theorem given_run (result : Except Failure α) (d : Disk) : (given result : DiskM α) d = (result, d) := by
  cases result with
  | error e => exact ask_of_error rfl
  | ok a => exact ask_of_ok rfl

/-! ## Places -/

/-- Where a path starts. -/
def startOf (d : Disk) (p : Path) : Location := if p.isAbsolute then [] else d.current

theorem locateFrom_eq (follows : Bool) (h : p.text.utf8ByteSize < pathLimit) :
    d.locateFrom follows p = d.tree.walk follows (d.startOf p) p.parts := by
  rw [locateFrom, if_neg (by omega)]
  rfl

theorem short_of_locateFrom {follows : Bool} {l : Location} (h : d.locateFrom follows p = .ok l) :
    p.text.utf8ByteSize < pathLimit := by
  rw [locateFrom] at h
  split at h
  · cases h
  · omega

/-- A path leads to where its name leads from the directory around it, unless there is a link that is followed. -/
theorem locateFrom_of_parent {follows : Bool} {l : Location} (hshort : p.text.utf8ByteSize < pathLimit)
    (hparts : p.parts ≠ []) (hparent : d.locate p.parent = .ok directory) (hs : d.tree.step directory p.name = .ok l)
    (hlink : follows = true → ∀ target, d.tree.content? l ≠ some (.link target)) :
    d.locateFrom follows p = .ok l := by
  have hwalk := hparent
  rw [locate, locateFrom_eq true (short_of_locateFrom hparent)] at hwalk
  rw [locateFrom_eq follows hshort, Path.parts_eq hparts]
  exact Tree.walk_append_part hwalk hs hlink

/-- What a path names is where its name leads from the directory around it. -/
theorem step_of_locateName {l : Location} (hparts : p.parts ≠ []) (hparent : d.locate p.parent = .ok directory)
    (h : d.locateName p = .ok l) : d.tree.step directory p.name = .ok l := by
  have hshort := short_of_locateFrom h
  cases hs : d.tree.step directory p.name with
  | error r =>
    have hwalk := hparent
    rw [locate, locateFrom_eq true (short_of_locateFrom hparent)] at hwalk
    rw [locateName, locateFrom_eq false hshort, Path.parts_eq hparts,
      Tree.walk_append_part_error (l := startOf d p) hwalk hs] at h
    cases h
  | ok next =>
    have hnext : d.locateFrom false p = .ok next := locateFrom_of_parent hshort hparts hparent hs (by simp)
    rw [← hnext]
    exact h

/-- A place at which a file can be put, in a directory. -/
structure Site (d : Disk) (p : Path) (directory : Location) : Prop where
  noNull : p.hasNull = false
  short : p.text.utf8ByteSize < pathLimit
  parts : p.parts ≠ []
  proper : Path.IsProper p.name
  parent : d.locate p.parent = .ok directory
  isDirectory : d.tree.content? directory = some .directory
  vacant : d.tree.content? (directory ++ [p.name]) ≠ some .directory
  fits : (freshName d.tree directory p.name).utf8ByteSize ≤ Tree.nameLimit

theorem Site.name_fits (h : d.Site p directory) : p.name.utf8ByteSize ≤ Tree.nameLimit :=
  Nat.le_of_lt (Nat.lt_of_lt_of_le (utf8ByteSize_freshName d.tree directory p.name) h.fits)

theorem Site.step (h : d.Site p directory) : d.tree.step directory p.name = .ok (directory ++ [p.name]) :=
  Tree.step_proper h.isDirectory h.proper h.name_fits

/-- What writing a text to a path does: the contents of one location become the bytes of the text, and the contents of
every other location stay. -/
structure Written (p : Path) (text : String) (directory : Location) (d d' : Disk) : Prop where
  placed : d'.tree.content? (directory ++ [p.name]) = some (.file (Text.Utf8.encode text.toList))
  kept : ∀ k, k ≠ directory ++ [p.name] → d'.tree.content? k = d.tree.content? k
  current : d'.current = d.current
  writes : d'.writes = d.writes ++ [p]

/-! ## Temporary files -/

/-- The place of the temporary file in a directory. -/
def temporaryPlace (d : Disk) (p : Path) (directory : Location) : Location :=
  directory ++ [freshName d.tree directory p.name]

/-- The disk with the temporary file. -/
def withTemporary (d : Disk) (p : Path) (directory : Location) (text : String) : Disk :=
  { d with
    tree := d.tree.create (temporaryPlace d p directory) (.file (Text.Utf8.encode text.toList)) privateRights d.stamp }

/-- The disk after the temporary file has taken its place. -/
def afterWrite (d : Disk) (p : Path) (directory : Location) (text : String) : Disk :=
  { d with
    tree := ((d.withTemporary p directory text).tree.erase (temporaryPlace d p directory)).create
      (directory ++ [p.name]) (.file (Text.Utf8.encode text.toList)) privateRights d.stamp
    writes := d.writes ++ [p] }

theorem temporaryPlace_ne : directory ++ [p.name] ≠ temporaryPlace d p directory := by
  intro h
  exact freshName_ne d.tree directory p.name (List.singleton_inj.1 (List.append_cancel_left h)).symm

theorem content?_temporaryPlace : d.tree.content? (temporaryPlace d p directory) = none :=
  content?_freshName d.tree directory p.name

theorem temporaryPlace_ne_nil : temporaryPlace d p directory ≠ [] := by simp [temporaryPlace]

/-- The temporary file takes no way away. -/
theorem sameWays_withTemporary (text : String) : Tree.SameWays d.tree (d.withTemporary p directory text).tree := by
  intro k
  by_cases hk : k = temporaryPlace d p directory
  · rw [hk, Tree.way?_eq_none_of_none content?_temporaryPlace]
    exact (Tree.way?_eq_none_of_file (Tree.content?_create_self temporaryPlace_ne_nil)).symm
  · exact Tree.way?_congr (Tree.content?_create_of_ne hk).symm

theorem content?_withTemporary {k : Location} (text : String) (h : k ≠ temporaryPlace d p directory) :
    (d.withTemporary p directory text).tree.content? k = d.tree.content? k := Tree.content?_create_of_ne h

/-- The temporary file goes where the directory around the file is. -/
theorem temporaryFor_of_site (h : d.Site p directory) : d.temporaryFor p = .ok (temporaryPlace d p directory) := by
  rw [temporaryFor, h.noNull, h.parent]
  have hd : d.tree.hasDirectory directory = true := Tree.hasDirectory_iff.2 h.isDirectory
  simp only [Bool.false_eq_true, if_false, hd, Bool.not_true, if_neg (Nat.not_lt.2 h.fits)]
  rfl

/-- A temporary file has a place only beside the file, in a directory, under a name that fits. -/
theorem temporaryFor_eq_ok {temporary : Location} (h : d.temporaryFor p = .ok temporary) :
    p.hasNull = false ∧ ∃ directory, d.locate p.parent = .ok directory ∧
      d.tree.content? directory = some .directory ∧ temporary = temporaryPlace d p directory ∧
      (freshName d.tree directory p.name).utf8ByteSize ≤ Tree.nameLimit := by
  rw [temporaryFor] at h
  split at h
  · cases h
  · rename_i hnull
    refine ⟨by simpa using hnull, ?_⟩
    split at h
    · cases h
    · rename_i directory hparent
      refine ⟨directory, hparent, ?_⟩
      dsimp only at h
      split at h
      · cases h
      · rename_i hd
        split at h
        · cases h
        · rename_i hfits
          cases h
          exact ⟨Tree.hasDirectory_iff.1 (by simpa using hd), rfl, Nat.not_lt.1 hfits⟩

/-! ## Atomic writes -/

theorem locate_parent_withTemporary (h : d.locate p.parent = .ok directory) (text : String) :
    (d.withTemporary p directory text).locate p.parent = .ok directory := by
  have hwalk := h
  rw [locate, locateFrom_eq true (short_of_locateFrom h)] at hwalk ⊢
  exact (Tree.walk_eq_ok_congr (sameWays_withTemporary text) _ _).1 hwalk

theorem isDirectory_withTemporary (h : d.tree.content? directory = some .directory) (text : String) :
    (d.withTemporary p directory text).tree.content? directory = some .directory := by
  have hways : Tree.SameWays d.tree (d.withTemporary p directory text).tree := sameWays_withTemporary text
  exact Tree.way?_eq_directory_iff.1 (hways directory ▸ Tree.way?_eq_directory_iff.2 h)

/-- A path can be replaced where its name leads to no directory. -/
theorem replaceable_eq_ok_iff {l : Location} :
    d.replaceable p = .ok l ↔
      d.locateName p = .ok l ∧ p.parts ≠ [] ∧ p.name ≠ Path.up ∧ d.tree.content? l ≠ some .directory := by
  rw [replaceable, vacated.eq_def]
  cases d.locateName p with
  | error r => simp
  | ok k =>
    dsimp only
    split
    · rename_i hbusy
      simp only [reduceCtorEq, false_iff]
      exact fun h => hbusy.elim h.2.1 h.2.2.1
    · rename_i hbusy
      obtain ⟨hparts, hup⟩ := not_or.1 hbusy
      split
      · rename_i hd
        simp only [reduceCtorEq, Except.ok.injEq, false_iff]
        rintro ⟨rfl, -, -, hvacant⟩
        exact hvacant (Tree.hasDirectory_iff.1 hd)
      · rename_i hd
        rw [Bool.not_eq_true, Tree.hasDirectory_eq_false_iff] at hd
        rw [Except.ok.injEq]
        exact ⟨fun h => ⟨h, hparts, hup, h ▸ hd⟩, And.left⟩

/-- At a site the temporary file can take its place. -/
theorem replaceable_of_site (h : d.Site p directory) (text : String) :
    (d.withTemporary p directory text).replaceable p = .ok (directory ++ [p.name]) := by
  have hname : (d.withTemporary p directory text).locateName p = .ok (directory ++ [p.name]) :=
    locateFrom_of_parent h.short h.parts (locate_parent_withTemporary h.parent text)
      (Tree.step_proper (isDirectory_withTemporary h.isDirectory text) h.proper h.name_fits) (by simp)
  refine replaceable_eq_ok_iff.2 ⟨hname, h.parts, h.proper.2.2, ?_⟩
  rw [content?_withTemporary text temporaryPlace_ne]
  exact h.vacant

/-- Where a temporary file stands in a directory and can take its place, there is a site. -/
theorem site_of_replaceable {l : Location} {text : String} (hnull : p.hasNull = false)
    (hparent : d.locate p.parent = .ok directory) (hdir : d.tree.content? directory = some .directory)
    (hfits : (freshName d.tree directory p.name).utf8ByteSize ≤ Tree.nameLimit)
    (h : (d.withTemporary p directory text).replaceable p = .ok l) :
    d.Site p directory ∧ l = directory ++ [p.name] := by
  obtain ⟨hname, hparts, hup, hvacant⟩ := replaceable_eq_ok_iff.1 h
  have hstep := step_of_locateName hparts (locate_parent_withTemporary hparent text) hname
  obtain ⟨-, hl⟩ := Tree.step_eq_ok_iff.1 hstep
  simp only [if_neg hup] at hl
  -- the step with the name of the file does not stay in the directory, as that is one
  split at hl
  · rw [hl] at hvacant
    exact absurd (isDirectory_withTemporary hdir text) hvacant
  · rename_i hhere
    obtain ⟨hempty, hhere⟩ := not_or.1 hhere
    rw [hl.2, content?_withTemporary text temporaryPlace_ne] at hvacant
    exact ⟨⟨hnull, short_of_locateFrom hname, hparts, ⟨hempty, hhere, hup⟩, hparent, hdir, hvacant, hfits⟩, hl.2⟩

theorem written_afterWrite (d : Disk) (p : Path) (directory : Location) (text : String) :
    Written p text directory d (d.afterWrite p directory text) where
  placed := Tree.content?_create_self (by simp)
  kept k hk := by
    rw [afterWrite, Tree.content?_create_of_ne hk]
    by_cases htemp : k = temporaryPlace d p directory
    · rw [htemp, Tree.content?_erase_self temporaryPlace_ne_nil, content?_temporaryPlace]
    · rw [Tree.content?_erase_of_ne htemp, content?_withTemporary text htemp]
  current := rfl
  writes := rfl

/-- An atomic write from the time on when the temporary file has a place. -/
theorem writeAtomic_run {text : String} (h : d.temporaryFor p = .ok (temporaryPlace d p directory)) :
    writeAtomic p text d =
      match (d.withTemporary p directory text).replaceable p with
      | .ok l => (.ok (), { d with
          tree := ((d.withTemporary p directory text).tree.erase (temporaryPlace d p directory)).create l
            (.file (Text.Utf8.encode text.toList)) privateRights d.stamp
          writes := d.writes ++ [p] })
      | .error r => (.error (.system ⟨r, p.text⟩), { d with
          tree := (d.withTemporary p directory text).tree.erase (temporaryPlace d p directory) }) := by
  rw [writeAtomic, bind_of_ok (ask_of_ok h), bind_of_ok (modify_run _ _), bind_of_ok (get_run _)]
  show (match (d.withTemporary p directory text).replaceable p with
    | .ok l => _
    | .error r => _ : DiskM Unit) _ = _
  cases (d.withTemporary p directory text).replaceable p <;> rfl

/-- **An atomic write succeeds at a site.** -/
theorem writeAtomic_of_site (h : d.Site p directory) (text : String) :
    writeAtomic p text d = (.ok (), d.afterWrite p directory text) := by
  rw [writeAtomic_run (temporaryFor_of_site h), replaceable_of_site h text]
  rfl

/-- **An atomic write succeeds only at a site.** -/
theorem site_of_writeAtomic {text : String} (h : writeAtomic p text d = (.ok (), d')) :
    ∃ directory, d.Site p directory ∧ d' = d.afterWrite p directory text := by
  cases htemp : d.temporaryFor p with
  | error e =>
    rw [writeAtomic, bind_of_error (ask_of_error htemp)] at h
    cases h
  | ok temporary =>
    obtain ⟨hnull, directory, hparent, hdir, hplace, hfits⟩ := temporaryFor_eq_ok htemp
    rw [hplace] at htemp
    rw [writeAtomic_run htemp] at h
    cases hr : (d.withTemporary p directory text).replaceable p with
    | error r => rw [hr] at h; cases h
    | ok l =>
      obtain ⟨hsite, hl⟩ := site_of_replaceable hnull hparent hdir hfits hr
      rw [hr, hl] at h
      cases h
      exact ⟨directory, hsite, rfl⟩

end Disk
end ElmAssay
