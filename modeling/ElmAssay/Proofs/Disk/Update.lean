import ElmAssay.Proofs.Disk.Write
import ElmAssay.Proofs.Text.Lines

/-!
# Files that are written where they change

A text is written to a file unless the file has that text already (`writeIfChanged_cases`). A path can be written
(`Disk.CanWrite`) if no write to it fails, however many texts are written there one after the other. Then what is read
there after a write is the text of that write, be it that the file was written or that it had the text before
(`CanWrite.write`): nothing of an earlier write is left.

A path can be written, for one, if it names a file or nothing in a directory that is there (`PlainSite.canWrite`).
-/

namespace ElmAssay.Disk

open Effect Text

variable {d d' : Disk} {p : Path} {directory : Location} {text : String}

/-! ## Reading -/

/-- The bytes of a text are read as the text with its line ends made line feeds. -/
theorem textOf_encode (text : String) : textOf (Utf8.encode text.toList) = .ok (asRead text) := by
  rw [textOf, Utf8.decode_encode]
  rfl

theorem readText_of_locate {l : Location} {bytes : Bytes} (hnull : p.hasNull = false) (hl : d.locate p = .ok l)
    (hc : d.tree.content? l = some (.file bytes)) : d.readText p = (textOf bytes).mapError .undecodable := by
  have hcontent : d.content p = .ok (.file bytes) := by rw [content, hl]; dsimp only; rw [hc]
  have hbytes : d.readBytes p = .ok bytes := by
    rw [readBytes, hnull, hcontent]
    rfl
  rw [readText, hbytes]

theorem readText_of_holds (h : d.holds p text = .ok true) : d.readText p = .ok text := by
  rw [holds] at h
  split at h
  · split at h
    · rename_i s hs
      rw [Except.ok.injEq, beq_iff_eq] at h
      rw [hs, h]
    · cases h
  · cases h
  · cases h

theorem not_mem_of_readText (h : d.readText p = .ok text) : '\r' ∉ text.toList := by
  rw [readText] at h
  split at h
  · rename_i bytes _
    cases ht : textOf bytes with
    | error e => rw [ht] at h; cases h
    | ok s =>
      rw [ht] at h
      cases h
      rw [textOf] at ht
      cases hd : Utf8.decode bytes with
      | error e => rw [hd] at ht; cases ht
      | ok cs =>
        rw [hd] at ht
        cases ht
        rw [String.toList_ofList]
        exact not_mem_universalNewlines cs
  · cases h

/-! ## What a write does -/

/-- A write that succeeds found the text there and did nothing, or it made the directories around the file and then put
the file at a site. -/
theorem writeIfChanged_cases {changed : Bool} (h : writeIfChanged p text d = (.ok changed, d')) :
    (changed = false ∧ d' = d ∧ d.holds p text = .ok true) ∨
      (changed = true ∧ ∃ d₁ directory, d.holds p text = .ok false ∧ makeDirectories p.parent d = (.ok (), d₁) ∧
        d₁.Site p directory ∧ d' = d₁.afterWrite p directory text) := by
  rw [writeIfChanged] at h
  obtain ⟨held, d₀, hask, h⟩ := bind_eq_ok h
  obtain ⟨hholds, hd₀⟩ := ask_eq_ok hask
  rw [hd₀] at h
  cases held with
  | true => cases h; exact .inl ⟨rfl, rfl, hholds⟩
  | false =>
    rw [if_neg Bool.false_ne_true] at h
    obtain ⟨⟨⟩, d₁, hmake, h⟩ := bind_eq_ok h
    obtain ⟨⟨⟩, d₂, hwrite, h⟩ := bind_eq_ok h
    cases h
    obtain ⟨directory, hsite, hd'⟩ := site_of_writeAtomic hwrite
    exact .inr ⟨rfl, d₁, directory, hholds, hmake, hsite, hd'⟩

/-- A text that a file has is not written. -/
theorem writeIfChanged_of_holds (h : d.holds p text = .ok true) : writeIfChanged p text d = (.ok false, d) := by
  rw [writeIfChanged, bind_of_ok (ask_of_ok h)]
  rfl

/-- A text that a file does not have is written once the directories around it are there. -/
theorem writeIfChanged_of_not_holds (h : d.holds p text = .ok false) :
    writeIfChanged p text d =
      match makeDirectories p.parent d with
      | (.error e, d₁) => (.error e, d₁)
      | (.ok _, d₁) =>
        match writeAtomic p text d₁ with
        | (.error e, d₂) => (.error e, d₂)
        | (.ok _, d₂) => (.ok true, d₂) := by
  rw [writeIfChanged, bind_of_ok (ask_of_ok h), if_neg Bool.false_ne_true, bind_run]
  rcases makeDirectories p.parent d with ⟨result, d₁⟩
  cases result with
  | error e => rfl
  | ok _ =>
    dsimp only
    rw [bind_run]
    rcases writeAtomic p text d₁ with ⟨result, d₂⟩
    cases result <;> rfl

/-! ## Directories that are there, and those that cannot be made -/

/-- A path that names something leads there, or it is a link. -/
theorem locateName_cases {q : Path} (hshort : q.text.utf8ByteSize < pathLimit) :
    d.locateName q = d.locate q ∨ ∃ k target, d.locateName q = .ok k ∧ d.tree.content? k = some (.link target) := by
  rw [locateName, locate, locateFrom_eq false hshort, locateFrom_eq true hshort]
  exact Tree.walkAlong_false Tree.linkLimit _ _

theorem isSome_of_content? {l : Location} {c : Content} (h : d.tree.content? l = some c) :
    (d.tree.get? l).isSome = true := by
  rw [Option.isSome_iff_ne_none]
  intro hn
  rw [Tree.content?_eq_none_iff.2 hn] at h
  cases h

/-- Where something is, no directory is made. -/
theorem withDirectory_of_content? {q : Path} {l : Location} {c : Content} (hl : d.locate q = .ok l)
    (hc : d.tree.content? l = some c) : d.withDirectory q = .error .alreadyThere := by
  rcases locateName_cases (short_of_locateFrom hl) with h | ⟨k, target, h, hk⟩
  · rw [withDirectory, h, hl]
    exact if_pos (.inr (.inr (isSome_of_content? hc)))
  · rw [withDirectory, h]
    exact if_pos (.inr (.inr (isSome_of_content? hk)))

/-- Below a file, no directory is made. -/
theorem withDirectory_of_notDirectory {q : Path} (hshort : q.text.utf8ByteSize < pathLimit)
    (hl : d.locate q = .error .notDirectory) :
    d.withDirectory q = .error .notDirectory ∨ d.withDirectory q = .error .alreadyThere := by
  rcases locateName_cases (d := d) hshort with h | ⟨k, target, h, hk⟩
  · rw [withDirectory, h, hl]
    exact .inl rfl
  · rw [withDirectory, h]
    exact .inr (if_pos (.inr (.inr (isSome_of_content? hk))))

theorem claimDirectory_run (q : Path) (d : Disk) :
    claimDirectory q d =
      if q.hasNull then (.error .nullCharacter, d)
      else
        match d.withDirectory q with
        | .ok d' => (.ok true, d')
        | .error .noEntry => (.ok false, d)
        | .error r =>
          match d.isDirectory q with
          | .ok true => (.ok true, d)
          | .ok false => (.error (.system ⟨r, q.text⟩), d)
          | .error e => (.error e, d) := by
  unfold claimDirectory
  dsimp only
  split
  · rfl
  · rw [bind_of_ok (get_run d)]
    cases hw : d.withDirectory q with
    | ok d' => rfl
    | error r =>
      cases r
      case noEntry => rfl
      all_goals
        cases hi : d.isDirectory q with
        | error e => exact bind_of_error (ask_of_error hi)
        | ok there =>
          refine (bind_of_ok (ask_of_ok hi)).trans ?_
          cases there <;> rfl

/-- A directory that is there is claimed as it is. -/
theorem makeDirectories_of_directory {q : Path} (hnull : q.hasNull = false) (hl : d.locate q = .ok directory)
    (hd : d.tree.content? directory = some .directory) : makeDirectories q d = (.ok (), d) := by
  have hi : d.isDirectory q = .ok true := by
    rw [isDirectory, test, hnull, content, hl]
    dsimp only
    rw [hd]
    rfl
  have hclaim : claimDirectory q d = (.ok true, d) := by
    rw [claimDirectory_run, hnull, withDirectory_of_content? hl hd, hi]
    rfl
  rw [makeDirectories, makeDirectoriesFrom.eq_def]
  exact bind_of_ok hclaim

/-- What a path leads to instead of a directory, so that no directory can be made there: a file, or a way that goes on
behind a file. -/
def Obstructed (d : Disk) (q : Path) : Prop :=
  d.locate q = .error .notDirectory ∨
    ∃ l bytes, d.locate q = .ok l ∧ d.tree.content? l = some (.file bytes)

theorem Obstructed.isDirectory {q : Path} (h : d.Obstructed q) : d.isDirectory q = .ok false := by
  rw [Disk.isDirectory, test]
  split
  · rfl
  · rcases h with hl | ⟨l, bytes, hl, hc⟩
    · rw [content, hl]
    · rw [content, hl]
      dsimp only
      rw [hc]
      rfl

theorem Obstructed.makeDirectories_ne {q : Path} (hshort : q.text.utf8ByteSize < pathLimit) (h : d.Obstructed q) :
    makeDirectories q d ≠ (.ok (), d') := by
  have hw : d.withDirectory q = .error .notDirectory ∨ d.withDirectory q = .error .alreadyThere := by
    rcases h with hl | ⟨l, bytes, hl, hc⟩
    · exact withDirectory_of_notDirectory hshort hl
    · exact .inr (withDirectory_of_content? hl hc)
  have hclaim : ∃ e, claimDirectory q d = (.error e, d) := by
    rw [claimDirectory_run]
    split
    · exact ⟨_, rfl⟩
    · rcases hw with hw | hw <;> rw [hw, h.isDirectory] <;> exact ⟨_, rfl⟩
  obtain ⟨e, he⟩ := hclaim
  rw [makeDirectories, makeDirectoriesFrom.eq_def]
  dsimp only
  rw [bind_of_error he]
  intro hok
  cases hok

/-! ## Paths that can be written -/

/-- Writes texts to a path, one after the other. -/
def writeEach (p : Path) : List String → DiskM Unit
  | [] => return
  | text :: rest => do
    let _ ← writeIfChanged p text
    writeEach p rest

/-- A path can be written: no write to it fails, however many texts are written one after the other. -/
def CanWrite (d : Disk) (p : Path) : Prop := ∀ texts, ∃ d', writeEach p texts d = (.ok (), d')

/-- After a write at a site a path leads where it led, or the file that was put there obstructs the way, as the link that was
there before did not. -/
theorem locate_afterWrite_cases {q : Path} {l : Location} (hsite : d.Site p directory) (hq : d.locate q = .ok l)
    (text : String) :
    (d.afterWrite p directory text).locate q = .ok l ∨ (d.afterWrite p directory text).Obstructed q := by
  have hwritten := written_afterWrite d p directory text
  have hshort := short_of_locateFrom hq
  have hwalk := hq
  rw [locate, locateFrom_eq true hshort] at hwalk
  obtain hsame | hstops := Tree.walkAlong_of_blocked hsite.vacant hwritten.placed
    (fun k hk => Tree.way?_congr (hwritten.kept k hk).symm) Tree.linkLimit _ _ hwalk
  · left
    rw [locate, locateFrom_eq true hshort]
    exact hsame
  · right
    rw [Obstructed, locate, locateFrom_eq true hshort]
    rcases hstops with hrefused | hfile
    · exact .inl hrefused
    · exact .inr ⟨_, _, hfile, hwritten.placed⟩

/-- A path leads to the directory around it also after a write, if it can be written again. -/
theorem locate_parent_afterWrite (hsite : d.Site p directory)
    (hagain : ∃ changed d', writeIfChanged p "\r" (d.afterWrite p directory text) = (.ok changed, d')) :
    (d.afterWrite p directory text).locate p.parent = .ok directory := by
  rcases locate_afterWrite_cases hsite hsite.parent text with hsame | hobstructed
  · exact hsame
  · obtain ⟨changed, d', hw⟩ := hagain
    obtain ⟨-, -, hholds⟩ | ⟨-, d₁, directory', -, hmake, -⟩ := writeIfChanged_cases hw
    · -- no file is read as a carriage return, so the second write is one that changes the file
      exact absurd (show '\r' ∈ ("\r" : String).toList by decide) (not_mem_of_readText (readText_of_holds hholds))
    · exact absurd hmake (hobstructed.makeDirectories_ne (short_of_locateFrom hsite.parent))

/-- After a write at a site, a path whose directory is still there leads to the file that was written. -/
theorem locate_afterWrite (hsite : d.Site p directory)
    (hparent : (d.afterWrite p directory text).locate p.parent = .ok directory) :
    (d.afterWrite p directory text).locate p = .ok (directory ++ [p.name]) := by
  have hwritten := written_afterWrite d p directory text
  have hdir : (d.afterWrite p directory text).tree.content? directory = some .directory := by
    rw [hwritten.kept directory (by simp)]
    exact hsite.isDirectory
  refine locateFrom_of_parent hsite.short hsite.parts hparent
    (Tree.step_proper hdir hsite.proper hsite.name_fits) fun _ target => ?_
  rw [hwritten.placed]
  simp

/-- **A path that can be written holds the text of the last write**, and can be written again. -/
theorem CanWrite.write (h : d.CanWrite p) (text : String) :
    ∃ changed d', writeIfChanged p text d = (.ok changed, d') ∧ d'.CanWrite p ∧ d'.readText p = .ok (asRead text) := by
  obtain ⟨d₀, h₀⟩ := h [text]
  obtain ⟨changed, d', hw, -⟩ := bind_eq_ok h₀
  have hagain : d'.CanWrite p := by
    intro texts
    obtain ⟨d₂, h₂⟩ := h (text :: texts)
    rw [writeEach, bind_of_ok hw] at h₂
    exact ⟨d₂, h₂⟩
  refine ⟨changed, d', hw, hagain, ?_⟩
  obtain ⟨-, rfl, hholds⟩ | ⟨-, d₁, directory, -, -, hsite, rfl⟩ := writeIfChanged_cases hw
  · have hread := readText_of_holds hholds
    rw [hread, asRead_of_not_mem (not_mem_of_readText hread)]
  · obtain ⟨d₂, h₂⟩ := hagain ["\r"]
    obtain ⟨changed', d₃, hw', -⟩ := bind_eq_ok h₂
    have hparent := locate_parent_afterWrite hsite ⟨changed', d₃, hw'⟩
    have hplaced := (written_afterWrite d₁ p directory text).placed
    rw [readText_of_locate hsite.noNull (locate_afterWrite hsite hparent) hplaced, textOf_encode]
    rfl

/-! ## Files in a directory that is there -/

/-- A site at which no link is. -/
def PlainSite (d : Disk) (p : Path) (directory : Location) : Prop :=
  d.Site p directory ∧ ∀ target, d.tree.content? (directory ++ [p.name]) ≠ some (.link target)

theorem PlainSite.sameWays (h : d.PlainSite p directory) (text : String) :
    Tree.SameWays d.tree (d.afterWrite p directory text).tree := by
  have hwritten := written_afterWrite d p directory text
  intro k
  by_cases hk : k = directory ++ [p.name]
  · rw [hk, Tree.way?_eq_none_of_file hwritten.placed]
    cases hc : d.tree.content? (directory ++ [p.name]) with
    | none => exact Tree.way?_eq_none_of_none hc
    | some c =>
      cases c with
      | directory => exact absurd hc h.1.vacant
      | file bytes => exact Tree.way?_eq_none_of_file hc
      | link target => exact absurd hc (h.2 target)
  · exact Tree.way?_congr (hwritten.kept k hk).symm

/-- After a write at a site, a path whose directory is still there has a site at which a file is. -/
theorem plainSite_afterWrite (hsite : d.Site p directory)
    (hparent : (d.afterWrite p directory text).locate p.parent = .ok directory) :
    (d.afterWrite p directory text).PlainSite p directory := by
  have hwritten := written_afterWrite d p directory text
  refine ⟨⟨hsite.noNull, hsite.short, hsite.parts, hsite.proper, hparent, ?_, ?_, ?_⟩, fun target => ?_⟩
  · rw [hwritten.kept directory (by simp)]
    exact hsite.isDirectory
  · rw [hwritten.placed]
    simp
  · rw [freshName_congr hwritten.kept]
    exact hsite.fits
  · rw [hwritten.placed]
    simp

theorem PlainSite.afterWrite (h : d.PlainSite p directory) (text : String) :
    (d.afterWrite p directory text).PlainSite p directory := by
  have hshort := short_of_locateFrom h.1.parent
  have hwalk := h.1.parent
  refine plainSite_afterWrite h.1 ?_
  rw [locate, locateFrom_eq true hshort] at hwalk ⊢
  exact (Tree.walk_eq_ok_congr (h.sameWays text) _ _).1 hwalk

theorem PlainSite.isFile (h : d.PlainSite p directory) : ∃ b, d.isFile p = .ok b := by
  have hl : d.locate p = .ok (directory ++ [p.name]) :=
    locateFrom_of_parent h.1.short h.1.parts h.1.parent h.1.step fun _ => h.2
  rw [Disk.isFile, test, h.1.noNull, content, hl]
  dsimp only
  cases d.tree.content? (directory ++ [p.name]) with
  | none => exact ⟨false, rfl⟩
  | some c => exact ⟨_, rfl⟩

theorem PlainSite.holds (h : d.PlainSite p directory) (text : String) : ∃ b, d.holds p text = .ok b := by
  obtain ⟨b, hb⟩ := h.isFile
  rw [Disk.holds, hb]
  cases b with
  | false => exact ⟨false, rfl⟩
  | true =>
    dsimp only
    cases d.readText p with
    | error e => exact ⟨false, rfl⟩
    | ok s => exact ⟨_, rfl⟩

/-- A write at a plain site succeeds and leaves a plain site. -/
theorem PlainSite.write (h : d.PlainSite p directory) (text : String) :
    ∃ changed d', writeIfChanged p text d = (.ok changed, d') ∧ d'.PlainSite p directory := by
  have hnull : p.parent.hasNull = false := by
    have hp := h.1.noNull
    rw [Path.hasNull, List.any_eq_false] at hp ⊢
    exact fun part hpart => hp part (List.dropLast_subset p.parts hpart)
  obtain ⟨held, hheld⟩ := h.holds text
  rw [writeIfChanged, bind_of_ok (ask_of_ok hheld)]
  cases held with
  | true => exact ⟨false, d, rfl, h⟩
  | false =>
    rw [if_neg Bool.false_ne_true, bind_of_ok (makeDirectories_of_directory hnull h.1.parent h.1.isDirectory),
      bind_of_ok (writeAtomic_of_site h.1 text)]
    exact ⟨true, _, rfl, h.afterWrite text⟩

/-- **A path that names a file or nothing, in a directory that is there, can be written.** -/
theorem PlainSite.canWrite (h : d.PlainSite p directory) : d.CanWrite p := by
  intro texts
  induction texts generalizing d with
  | nil => exact ⟨d, rfl⟩
  | cons text rest ih =>
    obtain ⟨changed, d', hw, h'⟩ := h.write text
    obtain ⟨d'', hrest⟩ := ih h'
    exact ⟨d'', by rw [writeEach, bind_of_ok hw]; exact hrest⟩

end ElmAssay.Disk
