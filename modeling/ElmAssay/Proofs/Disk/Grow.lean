import ElmAssay.Proofs.Disk.Update

/-!
# Directories that are added

Making directories adds directories where nothing was, and changes nothing else (`Disk.Grown`,
`makeDirectories_grown`). On a disk that has grown every path leads where it led, and a file has the contents that it
had. So making a directory once more changes nothing: if it was made it is there
(`makeDirectories_of_isDirectory`), and if it could not be made it still cannot (`makeDirectories_failed`). A write adds
directories and then puts the file at a site, or it fails before that and puts nothing (`writeIfChanged_changes`).
-/

namespace ElmAssay

/-! ## The path around a path -/

namespace Path

variable {p : Path}

theorem parent_of_nil (h : p.parts = []) : p.parent = p := by
  obtain ⟨anchor, parts⟩ := p
  cases h
  rfl

theorem hasNull_parent (h : p.hasNull = false) : p.parent.hasNull = false := by
  rw [hasNull, List.any_eq_false] at h ⊢
  exact fun part hpart => h part (List.dropLast_subset p.parts hpart)

theorem joinWith_snoc (sep last : List Char) (pieces : List (List Char)) :
    ∃ more, Text.joinWith sep (pieces ++ [last]) = Text.joinWith sep pieces ++ more := by
  by_cases hpieces : pieces = []
  · exact ⟨last, by rw [hpieces]; rfl⟩
  · refine ⟨sep ++ last, ?_⟩
    rw [Text.joinWith_append (List.cons_ne_nil last []) hpieces, List.append_assoc]
    rfl

theorem utf8ByteSize_ofList_append (s more : List Char) :
    (String.ofList s).utf8ByteSize ≤ (String.ofList (s ++ more)).utf8ByteSize := by
  rw [String.ofList_append, String.utf8ByteSize_append]
  exact Nat.le_add_right _ _

/-- A path without its last part has no longer text, unless that is the one of the path from here without parts. -/
theorem utf8ByteSize_text_parent (p : Path) : p.parent.text.utf8ByteSize ≤ max 1 p.text.utf8ByteSize := by
  obtain ⟨anchor, parts⟩ := p
  rcases List.eq_nil_or_concat parts with rfl | ⟨front, last, rfl⟩
  · exact Nat.le_max_right _ _
  rw [List.concat_eq_append]
  have hparent : parent ⟨anchor, front ++ [last]⟩ = ⟨anchor, front⟩ := by rw [parent, List.dropLast_concat]
  have htext : text ⟨anchor, front ++ [last]⟩ =
      String.ofList (slashes anchor ++ Text.joinWith ['/'] ((front ++ [last]).map String.toList)) := by
    rw [text]
    split
    · rename_i h
      exact absurd h (by simp)
    · rfl
  obtain ⟨more, hmore⟩ := joinWith_snoc ['/'] last.toList (front.map String.toList)
  rw [hparent, htext, List.map_append, List.map_singleton, hmore, ← List.append_assoc]
  rw [text]
  split
  · exact Nat.le_max_left _ _
  · exact Nat.le_trans (utf8ByteSize_ofList_append _ more) (Nat.le_max_right _ _)

theorem short_parent (h : p.text.utf8ByteSize < Disk.pathLimit) : p.parent.text.utf8ByteSize < Disk.pathLimit := by
  have hparent := utf8ByteSize_text_parent p
  have hlimit : 1 < Disk.pathLimit := by decide
  omega

end Path

/-! ## What was put where nothing was -/

theorem Tree.erase_eq_self {t : Tree} {l : Location} (hl : l ≠ []) (h : t.get? l = none) : t.erase l = t := by
  rw [get?, if_neg hl, List.lookup_eq_none_iff] at h
  have hkept : ∀ e ∈ t.entries, (!decide (e.1 = l)) = true := by
    intro e he
    have hne : ¬l = e.1 := by simpa using h e he
    rw [decide_eq_false (Ne.symm hne)]
    rfl
  rw [erase, List.filter_eq_self.2 hkept]

theorem Tree.erase_create {t : Tree} {l : Location} {c : Content} {rights : Nat} {time : Int}
    (h : t.get? l = none) : (t.create l c rights time).erase l = t := by
  have hl : l ≠ [] := by
    rintro rfl
    cases h
  have hself := erase_eq_self hl h
  rw [create, put, hself, erase, List.filter_cons]
  simp only [decide_true, Bool.not_true, Bool.false_eq_true, if_false]
  exact hself

namespace Disk

open Effect

variable {d d' d'' : Disk} {p : Path} {l : Location}

/-! ## Disks that have grown -/

/-- A disk with maybe some directories more, where nothing was. -/
structure Grown (d d' : Disk) : Prop where
  content : ∀ k, d'.tree.content? k = d.tree.content? k ∨
    (d.tree.content? k = none ∧ d'.tree.content? k = some .directory)
  current : d'.current = d.current
  writes : d'.writes = d.writes

namespace Grown

theorem refl (d : Disk) : Grown d d := ⟨fun _ => .inl rfl, rfl, rfl⟩

theorem trans (h : Grown d d') (h' : Grown d' d'') : Grown d d'' := by
  refine ⟨fun k => ?_, h'.current.trans h.current, h'.writes.trans h.writes⟩
  rcases h.content k with hk | ⟨hnone, hk⟩
  · rw [← hk]
    exact h'.content k
  · rcases h'.content k with hk' | ⟨hnone', -⟩
    · exact .inr ⟨hnone, hk'.trans hk⟩
    · cases hk.symm.trans hnone'

theorem widens (h : Grown d d') : Tree.Widens d.tree d'.tree := by
  intro k
  rcases h.content k with hk | ⟨hnone, hk⟩
  · exact .inl (Tree.way?_congr hk)
  · exact .inr ⟨Tree.way?_eq_none_of_none hnone, Tree.way?_eq_directory_iff.2 hk⟩

theorem content?_of_some {c : Content} (h : Grown d d') (hc : d.tree.content? l = some c) :
    d'.tree.content? l = some c := by
  rcases h.content l with hl | ⟨hnone, -⟩
  · rw [hl, hc]
  · cases hc.symm.trans hnone

end Grown

/-! ## Where paths lead when directories are added -/

/-- A disk is seen from the same directory, and has the ways of another and maybe directories more. -/
structure Widens (d d' : Disk) : Prop where
  tree : Tree.Widens d.tree d'.tree
  current : d'.current = d.current

theorem Grown.toWidens (h : Grown d d') : Widens d d' := ⟨h.widens, h.current⟩

namespace Widens

theorem refl (d : Disk) : Widens d d := ⟨.refl _, rfl⟩

theorem trans (h : Widens d d') (h' : Widens d' d'') : Widens d d'' :=
  ⟨h.tree.trans h'.tree, h'.current.trans h.current⟩

theorem locateFrom {follows : Bool} (h : Widens d d') (hl : d.locateFrom follows p = .ok l) :
    d'.locateFrom follows p = .ok l := by
  have hshort := short_of_locateFrom hl
  rw [locateFrom_eq follows hshort] at hl ⊢
  rw [startOf, h.current]
  exact Tree.walk_eq_ok_of_widens h.tree hl

end Widens

/-- A file that is put at a site where no link is leads no path elsewhere. -/
theorem PlainSite.widens {directory : Location} (h : d.PlainSite p directory) (text : String) :
    Widens d (d.afterWrite p directory text) := ⟨(h.sameWays text).widens, rfl⟩

/-! ## Questions about what is there -/

theorem isDirectory_eq_true_iff :
    d.isDirectory p = .ok true ↔
      p.hasNull = false ∧ ∃ l, d.locate p = .ok l ∧ d.tree.content? l = some .directory := by
  rw [isDirectory, test]
  cases p.hasNull with
  | true => simp
  | false =>
    simp only [Bool.false_eq_true, if_false, true_and, content]
    cases d.locate p with
    | error r => cases r <;> simp
    | ok l =>
      dsimp only
      cases hc : d.tree.content? l with
      | none => simp [hc]
      | some c => simp [hc]

theorem Widens.isDirectory (h : Widens d d') (hp : d.isDirectory p = .ok true) : d'.isDirectory p = .ok true := by
  obtain ⟨hnull, l, hl, hc⟩ := isDirectory_eq_true_iff.1 hp
  exact isDirectory_eq_true_iff.2 ⟨hnull, l, h.locateFrom hl, h.tree.directory hc⟩

theorem readBytes_eq_ok_iff {bytes : Bytes} :
    d.readBytes p = .ok bytes ↔
      p.hasNull = false ∧ ∃ l, d.locate p = .ok l ∧ d.tree.content? l = some (.file bytes) := by
  rw [readBytes]
  cases p.hasNull with
  | true => simp
  | false =>
    simp only [Bool.false_eq_true, if_false, true_and, content]
    cases d.locate p with
    | error r => simp
    | ok l =>
      dsimp only
      cases hc : d.tree.content? l with
      | none => simp [hc]
      | some c => cases c <;> simp [hc]

theorem Grown.readBytes {bytes : Bytes} (h : Grown d d') (hp : d.readBytes p = .ok bytes) :
    d'.readBytes p = .ok bytes := by
  obtain ⟨hnull, l, hl, hc⟩ := readBytes_eq_ok_iff.1 hp
  exact readBytes_eq_ok_iff.2 ⟨hnull, l, h.toWidens.locateFrom hl, h.content?_of_some hc⟩

/-! ## One directory -/

/-- A directory is new where nothing is under its name. -/
theorem withDirectory_eq_ok (h : d.withDirectory p = .ok d') :
    ∃ l, d.locateName p = .ok l ∧ p.parts ≠ [] ∧ d.tree.get? l = none ∧
      d' = { d with tree := d.tree.create l .directory directoryRights d.stamp } := by
  rw [withDirectory] at h
  split at h
  · cases h
  · rename_i l hl
    split at h
    · cases h
    · rename_i hfree
      cases h
      refine ⟨l, hl, fun hparts => hfree (.inl hparts), ?_, rfl⟩
      cases hget : d.tree.get? l with
      | none => rfl
      | some e => exact absurd (by rw [hget]; rfl) fun hsome => hfree (.inr (.inr hsome))

theorem grown_of_withDirectory (h : d.withDirectory p = .ok d') : Grown d d' := by
  obtain ⟨l, -, -, hfree, rfl⟩ := withDirectory_eq_ok h
  have hl : l ≠ [] := by
    rintro rfl
    cases hfree
  refine ⟨fun k => ?_, rfl, rfl⟩
  by_cases hk : k = l
  · subst hk
    exact .inr ⟨Tree.content?_eq_none_iff.2 hfree, Tree.content?_create_self hl⟩
  · exact .inl (Tree.content?_create_of_ne hk)

/-- A directory that was made is there. -/
theorem isDirectory_of_withDirectory (hnull : p.hasNull = false) (h : d.withDirectory p = .ok d') :
    d'.isDirectory p = .ok true := by
  have hgrown := grown_of_withDirectory h
  obtain ⟨l, hl, -, hfree, hd'⟩ := withDirectory_eq_ok h
  have hne : l ≠ [] := by
    rintro rfl
    cases hfree
  have hdir : d'.tree.content? l = some .directory := by
    rw [hd']
    exact Tree.content?_create_self hne
  have hname : d'.locateName p = .ok l := hgrown.toWidens.locateFrom hl
  rcases locateName_cases (d := d') (short_of_locateFrom hl) with hsame | ⟨k, target, hk, hlink⟩
  · exact isDirectory_eq_true_iff.2 ⟨hnull, l, hsame ▸ hname, hdir⟩
  · cases hname.symm.trans hk
    cases hdir.symm.trans hlink

/-- What claiming a directory comes to: it is there afterwards, or nothing has changed. -/
theorem claimDirectory_cases (p : Path) (d : Disk) :
    (∃ d', claimDirectory p d = (.ok true, d') ∧ Grown d d' ∧ d'.isDirectory p = .ok true) ∨
      claimDirectory p d = (.ok false, d) ∨ ∃ e, claimDirectory p d = (.error e, d) := by
  rw [claimDirectory_run]
  cases hnull : p.hasNull with
  | true => exact .inr (.inr ⟨_, rfl⟩)
  | false =>
    rw [if_neg Bool.false_ne_true]
    cases hw : d.withDirectory p with
    | ok d' => exact .inl ⟨d', rfl, grown_of_withDirectory hw, isDirectory_of_withDirectory hnull hw⟩
    | error r =>
      cases r
      case noEntry => exact .inr (.inl rfl)
      all_goals
        cases hi : d.isDirectory p with
        | error e => exact .inr (.inr ⟨e, rfl⟩)
        | ok there =>
          cases there with
          | true => exact .inl ⟨d, rfl, .refl d, hi⟩
          | false => exact .inr (.inr ⟨_, rfl⟩)

/-- A directory that is there is claimed as it is. -/
theorem claimDirectory_of_isDirectory (h : d.isDirectory p = .ok true) : claimDirectory p d = (.ok true, d) := by
  obtain ⟨hnull, l, hl, hc⟩ := isDirectory_eq_true_iff.1 h
  rw [claimDirectory_run, hnull, withDirectory_of_content? hl hc, h]
  rfl

/-- A directory that is claimed was made or is there. -/
theorem claimDirectory_eq_true (h : claimDirectory p d = (.ok true, d')) :
    p.hasNull = false ∧ (d.withDirectory p = .ok d' ∨ d.isDirectory p = .ok true) := by
  rw [claimDirectory_run] at h
  split at h
  · cases h
  · rename_i hnull
    refine ⟨by simpa using hnull, ?_⟩
    split at h
    · rename_i hw
      cases h
      exact .inl hw
    · cases h
    · split at h
      · rename_i hi
        exact .inr hi
      · cases h
      · cases h

/-- Where a path leads or where it names something, there is a directory around it. -/
theorem isDirectory_parent_of_locateFrom {follows : Bool} (hnull : p.hasNull = false) (hparts : p.parts ≠ [])
    (hl : d.locateFrom follows p = .ok l) : d.isDirectory p.parent = .ok true := by
  have hshort := short_of_locateFrom hl
  rw [locateFrom_eq follows hshort, Path.parts_eq hparts] at hl
  obtain ⟨directory, hdirectory⟩ := Tree.walkAlong_of_append follows p.name Tree.linkLimit _ _ hl
  have hparent : d.locate p.parent = .ok directory := by
    rw [locate, locateFrom_eq true (Path.short_parent hshort)]
    exact hdirectory
  cases hs : d.tree.step directory p.name with
  | error r =>
    rw [Tree.walk_append_part_error hdirectory hs] at hl
    cases hl
  | ok next =>
    exact isDirectory_eq_true_iff.2 ⟨Path.hasNull_parent hnull, directory, hparent, Tree.content?_of_step hs⟩

/-- A directory can be claimed only in a directory. -/
theorem isDirectory_parent_of_claimDirectory (h : claimDirectory p d = (.ok true, d')) :
    d.isDirectory p.parent = .ok true := by
  obtain ⟨hnull, hw | hi⟩ := claimDirectory_eq_true h
  · obtain ⟨l, hl, hparts, -⟩ := withDirectory_eq_ok hw
    exact isDirectory_parent_of_locateFrom hnull hparts hl
  · by_cases hparts : p.parts = []
    · rw [Path.parent_of_nil hparts]
      exact hi
    · obtain ⟨-, l, hl, -⟩ := isDirectory_eq_true_iff.1 hi
      exact isDirectory_parent_of_locateFrom hnull hparts hl

/-! ## Directories and those around them -/

theorem makeDirectoriesFrom_of_true {d' : Disk} (h : claimDirectory p d = (.ok true, d')) :
    ∀ fuel, makeDirectoriesFrom fuel p d = (.ok (), d')
  | 0 => by rw [makeDirectoriesFrom]; exact bind_of_ok h
  | _ + 1 => by rw [makeDirectoriesFrom]; exact bind_of_ok h

theorem makeDirectoriesFrom_of_error {e : Failure} (h : claimDirectory p d = (.error e, d')) :
    ∀ fuel, makeDirectoriesFrom fuel p d = (.error e, d')
  | 0 => by rw [makeDirectoriesFrom]; exact bind_of_error h
  | _ + 1 => by rw [makeDirectoriesFrom]; exact bind_of_error h

theorem makeDirectoriesFrom_zero (h : claimDirectory p d = (.ok false, d)) :
    makeDirectoriesFrom 0 p d = (.error (.system ⟨.noEntry, p.text⟩), d) := by
  rw [makeDirectoriesFrom, bind_of_ok h]
  rfl

/-- Where the directory around a directory is not there, it is made first. -/
theorem makeDirectoriesFrom_succ (fuel : Nat) (h : claimDirectory p d = (.ok false, d)) :
    makeDirectoriesFrom (fuel + 1) p d =
      match makeDirectoriesFrom fuel p.parent d with
      | (.error e, d₁) => (.error e, d₁)
      | (.ok _, d₁) =>
        match claimDirectory p d₁ with
        | (.ok true, d₂) => (.ok (), d₂)
        | (.ok false, d₂) => (.error (.system ⟨.noEntry, p.text⟩), d₂)
        | (.error e, d₂) => (.error e, d₂) := by
  rw [makeDirectoriesFrom, bind_of_ok h, if_neg Bool.false_ne_true, bind_run]
  rcases makeDirectoriesFrom fuel p.parent d with ⟨result, d₁⟩
  cases result with
  | error e => rfl
  | ok _ =>
    dsimp only
    rw [bind_run]
    rcases claimDirectory p d₁ with ⟨result, d₂⟩
    cases result with
    | error e => rfl
    | ok there => cases there <;> rfl

/-- **Making directories adds directories and nothing else**, and if it succeeds the directory is there. -/
theorem makeDirectoriesFrom_grown (fuel : Nat) (p : Path) (d : Disk) :
    Grown d (makeDirectoriesFrom fuel p d).2 ∧
      ((makeDirectoriesFrom fuel p d).1 = .ok () → (makeDirectoriesFrom fuel p d).2.isDirectory p = .ok true) := by
  induction fuel generalizing p d with
  | zero =>
    rcases claimDirectory_cases p d with ⟨d', h, hgrown, hdir⟩ | h | ⟨e, h⟩
    · rw [makeDirectoriesFrom_of_true h]
      exact ⟨hgrown, fun _ => hdir⟩
    · rw [makeDirectoriesFrom_zero h]
      exact ⟨.refl d, fun hok => by cases hok⟩
    · rw [makeDirectoriesFrom_of_error h]
      exact ⟨.refl d, fun hok => by cases hok⟩
  | succ fuel ih =>
    rcases claimDirectory_cases p d with ⟨d', h, hgrown, hdir⟩ | h | ⟨e, h⟩
    · rw [makeDirectoriesFrom_of_true h]
      exact ⟨hgrown, fun _ => hdir⟩
    · obtain ⟨hparent, -⟩ := ih p.parent d
      rw [makeDirectoriesFrom_succ fuel h]
      rcases hrun : makeDirectoriesFrom fuel p.parent d with ⟨result, d₁⟩
      rw [hrun] at hparent
      cases result with
      | error e => exact ⟨hparent, fun hok => by cases hok⟩
      | ok _ =>
        rcases claimDirectory_cases p d₁ with ⟨d₂, h₁, hgrown, hdir⟩ | h₁ | ⟨e, h₁⟩
        · simp only [h₁]
          exact ⟨hparent.trans hgrown, fun _ => hdir⟩
        · simp only [h₁]
          exact ⟨hparent, fun hok => by cases hok⟩
        · simp only [h₁]
          exact ⟨hparent, fun hok => by cases hok⟩
    · rw [makeDirectoriesFrom_of_error h]
      exact ⟨.refl d, fun hok => by cases hok⟩

theorem makeDirectoriesFrom_of_isDirectory (h : d.isDirectory p = .ok true) (fuel : Nat) :
    makeDirectoriesFrom fuel p d = (.ok (), d) := makeDirectoriesFrom_of_true (claimDirectory_of_isDirectory h) fuel

/-- A directory that could not be made cannot be made after that either, and the second attempt changes nothing. -/
theorem makeDirectoriesFrom_failed (fuel : Nat) (p : Path) (d : Disk) {e : Failure}
    (h : makeDirectoriesFrom fuel p d = (.error e, d')) :
    ∃ e', makeDirectoriesFrom fuel p d' = (.error e', d') := by
  induction fuel generalizing p d d' e with
  | zero =>
    rcases claimDirectory_cases p d with ⟨d₁, hc, -⟩ | hc | ⟨e₁, hc⟩
    · rw [makeDirectoriesFrom_of_true hc] at h
      cases h
    · rw [makeDirectoriesFrom_zero hc] at h
      cases h
      exact ⟨_, makeDirectoriesFrom_zero hc⟩
    · rw [makeDirectoriesFrom_of_error hc] at h
      cases h
      exact ⟨_, makeDirectoriesFrom_of_error hc 0⟩
  | succ fuel ih =>
    rcases claimDirectory_cases p d with ⟨d₁, hc, -⟩ | hc | ⟨e₁, hc⟩
    · rw [makeDirectoriesFrom_of_true hc] at h
      cases h
    · rw [makeDirectoriesFrom_succ fuel hc] at h
      rcases hrun : makeDirectoriesFrom fuel p.parent d with ⟨result, d₁⟩
      rw [hrun] at h
      cases result with
      | error e₁ =>
        cases h
        obtain ⟨e', he'⟩ := ih p.parent d hrun
        -- the directory cannot be claimed now: the one around it would have to be there, and be made again
        rcases claimDirectory_cases p d' with ⟨d₂, hc₁, -⟩ | hc₁ | ⟨e₂, hc₁⟩
        · rw [makeDirectoriesFrom_of_isDirectory (isDirectory_parent_of_claimDirectory hc₁)] at he'
          cases he'
        · exact ⟨e', by rw [makeDirectoriesFrom_succ fuel hc₁, he']⟩
        · exact ⟨e₂, makeDirectoriesFrom_of_error hc₁ _⟩
      | ok _ =>
        have hparent : d₁.isDirectory p.parent = .ok true := by
          have hdir := (makeDirectoriesFrom_grown fuel p.parent d).2
          rw [hrun] at hdir
          exact hdir rfl
        rcases claimDirectory_cases p d₁ with ⟨d₂, hc₁, -⟩ | hc₁ | ⟨e₂, hc₁⟩
        · simp only [hc₁] at h
          cases h
        · simp only [hc₁] at h
          cases h
          refine ⟨.system ⟨.noEntry, p.text⟩, ?_⟩
          rw [makeDirectoriesFrom_succ fuel hc₁, makeDirectoriesFrom_of_isDirectory hparent]
          simp only [hc₁]
        · simp only [hc₁] at h
          cases h
          exact ⟨_, makeDirectoriesFrom_of_error hc₁ _⟩
    · rw [makeDirectoriesFrom_of_error hc] at h
      cases h
      exact ⟨_, makeDirectoriesFrom_of_error hc _⟩

theorem makeDirectories_grown (p : Path) (d : Disk) : Grown d (makeDirectories p d).2 :=
  (makeDirectoriesFrom_grown p.parts.length p d).1

theorem isDirectory_of_makeDirectories (h : makeDirectories p d = (.ok (), d')) : d'.isDirectory p = .ok true := by
  have hdir := (makeDirectoriesFrom_grown p.parts.length p d).2
  rw [makeDirectories] at h
  rw [h] at hdir
  exact hdir rfl

/-- **A directory that is there is made without a change.** -/
theorem makeDirectories_of_isDirectory (h : d.isDirectory p = .ok true) : makeDirectories p d = (.ok (), d) :=
  makeDirectoriesFrom_of_isDirectory h _

/-- **A directory that could not be made cannot be made on the next attempt**, which changes nothing. -/
theorem makeDirectories_failed {e : Failure} (h : makeDirectories p d = (.error e, d')) :
    ∃ e', makeDirectories p d' = (.error e', d') := makeDirectoriesFrom_failed _ p d h

/-! ## Writes that may fail -/

/-- An atomic write that fails leaves the disk as it was. -/
theorem writeAtomic_failed {text : String} {e : Failure} (h : writeAtomic p text d = (.error e, d')) : d' = d := by
  cases htemp : d.temporaryFor p with
  | error e' =>
    rw [writeAtomic, bind_of_error (ask_of_error htemp)] at h
    cases h
    rfl
  | ok temporary =>
    obtain ⟨-, directory, -, -, hplace, -⟩ := temporaryFor_eq_ok htemp
    rw [hplace] at htemp
    rw [writeAtomic_run htemp] at h
    split at h
    · cases h
    · cases h
      rw [withTemporary, Tree.erase_create (Tree.content?_eq_none_iff.1 content?_temporaryPlace)]

/-- A write that fails adds directories at most. -/
theorem writeIfChanged_failed {text : String} {e : Failure} (h : writeIfChanged p text d = (.error e, d')) :
    Grown d d' := by
  rw [writeIfChanged, bind_run] at h
  cases hheld : d.holds p text with
  | error e =>
    rw [ask_of_error hheld] at h
    cases h
    exact .refl d
  | ok held =>
    rw [ask_of_ok hheld] at h
    cases held with
    | true => cases h
    | false =>
      dsimp only at h
      have hgrown := makeDirectories_grown p.parent d
      rw [if_neg Bool.false_ne_true, bind_run] at h
      rcases hmake : makeDirectories p.parent d with ⟨made, d₁⟩
      rw [hmake] at h hgrown
      cases made with
      | error e =>
        cases h
        exact hgrown
      | ok _ =>
        dsimp only at h
        rw [bind_run] at h
        rcases hwrite : writeAtomic p text d₁ with ⟨written, d₂⟩
        rw [hwrite] at h
        cases written with
        | ok _ => cases h
        | error e =>
          cases h
          rw [writeAtomic_failed hwrite]
          exact hgrown

/-- What a write does to a disk, also if it fails: it adds directories, and then maybe puts the file at a site. -/
theorem writeIfChanged_changes {text : String} {result : Except Failure Bool}
    (h : writeIfChanged p text d = (result, d')) :
    Grown d d' ∨ ∃ d₁ directory, Grown d d₁ ∧ d₁.Site p directory ∧ d' = d₁.afterWrite p directory text := by
  cases result with
  | error e => exact .inl (writeIfChanged_failed h)
  | ok changed =>
    obtain ⟨-, rfl, -⟩ | ⟨-, d₁, directory, -, hmake, hsite, rfl⟩ := writeIfChanged_cases h
    · exact .inl (.refl _)
    · have hgrown := makeDirectories_grown p.parent d
      rw [hmake] at hgrown
      exact .inr ⟨d₁, directory, hgrown, hsite, rfl⟩

/-- A write is logged under no other path. -/
theorem count_writes_writeIfChanged {q : Path} {text : String} {result : Except Failure Bool} (hne : p ≠ q)
    (h : writeIfChanged p text d = (result, d')) : d'.writes.count q = d.writes.count q := by
  rcases writeIfChanged_changes h with hgrown | ⟨d₁, directory, hgrown, -, rfl⟩
  · rw [hgrown.writes]
  · rw [(written_afterWrite d₁ p directory text).writes, List.count_append, hgrown.writes]
    simp [hne]

end Disk
end ElmAssay
