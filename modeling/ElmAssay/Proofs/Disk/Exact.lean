import ElmAssay.Proofs.Disk.Puts

/-!
# What is in a file after a write

What is read in a file after a write is the text of the write, if anything is read there
(`readText_of_writeIfChanged`), and whether a write goes through and is read back does not depend on its text, unless the file
has that text already (`exists_write_of_write`). But a write compares the text with the text of the file, in which every line
end is a line feed, and writes the bytes of the text as they are. So a file that is found to have the text has its bytes
exactly if no carriage return is in it (`eq_encode_iff`), a text with a carriage return is never found there, and every write
that is really made leaves the bytes of the text (`result_of_writeIfChanged`).

A write can fail at four points (`FailsAt`), and it is made as a whole or not at all (`writeIfChanged_whole`): where it fails
there is nothing new but directories (`Spared`), and where it is made there is nothing else but the file (`Placed`).
-/

namespace ElmAssay.Disk

open Effect Text

/-!
## One text or another

Only a link that stood in the place of the file, and was on the way to it, can keep it from being read.
-/

variable {d d' : Disk} {p : Path} {directory : Location} {text : String} {bytes : Bytes}

/-! ### Reading what was written -/

/-- A path at which something is read leads to the directory around it as before, if a file was put there. -/
theorem locate_parent_of_readBytes (hsite : d.Site p directory)
    (hread : ((d.afterWrite p directory text).readBytes p).isOk = true) :
    (d.afterWrite p directory text).locate p.parent = .ok directory := by
  rcases locate_afterWrite_cases hsite hsite.parent text with hsame | hobstructed
  · exact hsame
  · cases hbytes : (d.afterWrite p directory text).readBytes p with
    | error x => rw [hbytes] at hread; cases hread
    | ok bytes =>
      obtain ⟨hnull, l, hl, -⟩ := readBytes_eq_ok_iff.1 hbytes
      have hdirectory := isDirectory_parent_of_locateFrom hnull hsite.parts hl
      rw [hobstructed.isDirectory] at hdirectory
      cases hdirectory

theorem isOk_readBytes_of_readText (h : (d.readText p).isOk = true) : (d.readBytes p).isOk = true := by
  rw [readText] at h
  cases hbytes : d.readBytes p with
  | error x => rw [hbytes] at h; cases h
  | ok bytes => rfl

theorem readText_afterWrite (hsite : d.Site p directory)
    (hparent : (d.afterWrite p directory text).locate p.parent = .ok directory) :
    (d.afterWrite p directory text).readText p = .ok (asRead text) := by
  have hplaced := (written_afterWrite d p directory text).placed
  rw [readText_of_locate hsite.noNull (locate_afterWrite hsite hparent) hplaced, textOf_encode]
  rfl

/-- **What is read after a write is the text of the write**, if anything is. -/
theorem readText_of_writeIfChanged {changed : Bool} (h : writeIfChanged p text d = (.ok changed, d'))
    (hread : (d'.readText p).isOk = true) : d'.readText p = .ok (asRead text) := by
  obtain ⟨-, rfl, hholds⟩ | ⟨-, d₁, directory, -, -, hsite, rfl⟩ := writeIfChanged_cases h
  · have htext := readText_of_holds hholds
    rw [htext, asRead_of_not_mem (not_mem_of_readText htext)]
  · exact readText_afterWrite hsite (locate_parent_of_readBytes hsite (isOk_readBytes_of_readText hread))

/-! ### Writing another text -/

/-- Whether a file can be looked at does not depend on the text that is looked for. -/
theorem holds_of_holds {held : Bool} (h : d.holds p text = .ok held) (text' : String) :
    ∃ held', d.holds p text' = .ok held' := by
  rw [holds] at h ⊢
  cases hfile : d.isFile p with
  | error x => rw [hfile] at h; cases h
  | ok there =>
    cases there with
    | false => exact ⟨false, rfl⟩
    | true =>
      dsimp only
      cases d.readText p with
      | error x => exact ⟨false, rfl⟩
      | ok s => exact ⟨_, rfl⟩

/-- Two files at one place lead all paths alike. -/
theorem sameWays_afterWrite (d : Disk) (p : Path) (directory : Location) (text text' : String) :
    Tree.SameWays (d.afterWrite p directory text).tree (d.afterWrite p directory text').tree := by
  have hwritten := written_afterWrite d p directory text
  have hwritten' := written_afterWrite d p directory text'
  intro k
  by_cases hk : k = directory ++ [p.name]
  · rw [hk, Tree.way?_eq_none_of_file hwritten.placed, Tree.way?_eq_none_of_file hwritten'.placed]
  · exact Tree.way?_congr ((hwritten.kept k hk).trans (hwritten'.kept k hk).symm)

/-- **Where one text is written and read back, so is every other.** -/
theorem exists_write_of_write (h : writeIfChanged p text d = (.ok true, d')) (hread : (d'.readText p).isOk = true)
    (text' : String) :
    ∃ changed d'', writeIfChanged p text' d = (.ok changed, d'') ∧ d''.readText p = .ok (asRead text') := by
  obtain ⟨hfalse, -⟩ | ⟨-, d₁, directory, hholds, hmake, hsite, rfl⟩ := writeIfChanged_cases h
  · cases hfalse
  obtain ⟨held, hheld⟩ := holds_of_holds hholds text'
  cases held with
  | true =>
    have htext := readText_of_holds hheld
    exact ⟨false, d, writeIfChanged_of_holds hheld, by rw [htext, asRead_of_not_mem (not_mem_of_readText htext)]⟩
  | false =>
    refine ⟨true, d₁.afterWrite p directory text', ?_, readText_afterWrite hsite ?_⟩
    · rw [writeIfChanged, bind_of_ok (ask_of_ok hheld), if_neg Bool.false_ne_true, bind_of_ok hmake,
        bind_of_ok (writeAtomic_of_site hsite text')]
      rfl
    · have hwalk := locate_parent_of_readBytes hsite (isOk_readBytes_of_readText hread)
      have hshort := short_of_locateFrom hwalk
      rw [locate, locateFrom_eq true hshort] at hwalk ⊢
      exact (Tree.walk_eq_ok_congr (sameWays_afterWrite d₁ p directory text text') _ _).1 hwalk

/-! ## The bytes of the file -/

/-- The byte of a carriage return. -/
def returnByte : UInt8 := 0x0D

theorem returnByte_mem_iff {s : List Char} : returnByte ∈ Utf8.encode s ↔ '\r' ∈ s :=
  Utf8.mem_encode_iff (n := 0x0D) (by decide) s

/-! ### Bytes and the text that they are -/

theorem textOf_eq_ok_iff :
    textOf bytes = .ok text ↔ ∃ s, bytes = Utf8.encode s ∧ text = String.ofList (universalNewlines s) := by
  rw [textOf]
  constructor
  · intro h
    cases hs : Utf8.decode bytes with
    | error x => rw [hs] at h; cases h
    | ok s =>
      rw [hs] at h
      cases h
      exact ⟨s, Utf8.decode_eq_ok_iff.1 hs, rfl⟩
  · rintro ⟨s, rfl, rfl⟩
    rw [Utf8.decode_encode]
    rfl

/-- **Bytes that are read as a text are those of the text exactly if no carriage return is in them.** -/
theorem eq_encode_iff (h : textOf bytes = .ok text) : bytes = Utf8.encode text.toList ↔ returnByte ∉ bytes := by
  obtain ⟨s, rfl, rfl⟩ := textOf_eq_ok_iff.1 h
  rw [String.toList_ofList]
  constructor
  · intro he
    rw [he, returnByte_mem_iff]
    exact not_mem_universalNewlines s
  · intro hreturn
    rw [returnByte_mem_iff] at hreturn
    rw [universalNewlines_of_not_mem hreturn]

theorem readText_eq_ok_iff : d.readText p = .ok text ↔ ∃ bytes, d.readBytes p = .ok bytes ∧ textOf bytes = .ok text := by
  rw [readText]
  cases d.readBytes p with
  | error x => simp
  | ok bytes =>
    simp only [Except.ok.injEq, exists_eq_left']
    cases textOf bytes with
    | error x => simp [Except.mapError]
    | ok s => simp [Except.mapError]

/-- A file that is read as a text is found to hold it. -/
theorem holds_of_readText (h : d.readText p = .ok text) : d.holds p text = .ok true := by
  obtain ⟨bytes, hbytes, -⟩ := readText_eq_ok_iff.1 h
  obtain ⟨hnull, l, hl, hc⟩ := readBytes_eq_ok_iff.1 hbytes
  have hfile : d.isFile p = .ok true := by
    rw [isFile, test, hnull, content, hl]
    dsimp only
    rw [hc]
    rfl
  rw [holds, hfile]
  dsimp only
  rw [h]
  dsimp only
  rw [beq_self_eq_true]

/-! ### Bytes after a write -/

theorem readBytes_afterWrite (hsite : d.Site p directory)
    (hparent : (d.afterWrite p directory text).locate p.parent = .ok directory) :
    (d.afterWrite p directory text).readBytes p = .ok (Utf8.encode text.toList) :=
  readBytes_eq_ok_iff.2 ⟨hsite.noNull, _, locate_afterWrite hsite hparent, (written_afterWrite d p directory text).placed⟩

/-- A link was there before directories were added. -/
theorem Grown.link {l : Location} {target : String} (h : Grown d d') (hlink : d'.tree.content? l = some (.link target)) :
    d.tree.content? l = some (.link target) := by
  rcases h.content l with hsame | ⟨-, hdirectory⟩
  · rwa [hsame] at hlink
  · cases hlink.symm.trans hdirectory

/-- A file that is put at a site is read by its path, unless it took the place of a link that the path goes through. -/
theorem read_afterWrite (hsite : d.Site p directory) (text : String) :
    (d.afterWrite p directory text).readBytes p = .ok (Utf8.encode text.toList) ∨
      ((∃ target, d.tree.content? (directory ++ [p.name]) = some (.link target)) ∧
        (d.afterWrite p directory text).Obstructed p.parent) := by
  rcases locate_afterWrite_cases hsite hsite.parent text with hparent | hobstructed
  · exact .inl (readBytes_afterWrite hsite hparent)
  · by_cases hlink : ∃ target, d.tree.content? (directory ++ [p.name]) = some (.link target)
    · exact .inr ⟨hlink, hobstructed⟩
    · have hplain : d.PlainSite p directory := ⟨hsite, fun target ht => hlink ⟨target, ht⟩⟩
      exact .inl (readBytes_afterWrite hsite (hplain.afterWrite text).1.parent)

/-- **How a write that returned ended**, by what was in the file before and what is in it now. -/
structure WriteResult (p : Path) (text : String) (d : Disk) (changed : Bool) (d' : Disk) : Prop where
  /-- Nothing is written exactly if the file was read as the text. -/
  unchanged_iff : changed = false ↔ d.readText p = .ok text
  /-- Then nothing is done at all. -/
  unchanged : changed = false → d' = d
  /-- Otherwise directories are made and the file gets the bytes of the text. These are the bytes at the path, unless a link
  was in the place of the file. -/
  written : changed = true → ∃ d₁ directory, Grown d d₁ ∧ d₁.Site p directory ∧ Written p text directory d₁ d' ∧
    (d'.readBytes p = .ok (Utf8.encode text.toList) ∨
      ∃ target, d.tree.content? (directory ++ [p.name]) = some (.link target))
  /-- The bytes at the path are those of the text exactly if they were written or hold no carriage return. -/
  exact_iff : ∀ bytes, d'.readBytes p = .ok bytes →
    (bytes = Utf8.encode text.toList ↔ changed = true ∨ returnByte ∉ bytes)
  /-- If the bytes were those of the text before, they are written again exactly if there is a carriage return. -/
  rewritten_iff : d.readBytes p = .ok (Utf8.encode text.toList) → (changed = true ↔ '\r' ∈ text.toList)
  /-- If the path leads to the file, the write can be made again, and it writes exactly if there is a carriage return. -/
  again : (d'.readBytes p).isOk = true →
    ∃ changed' d'', writeIfChanged p text d' = (.ok changed', d'') ∧ (changed' = true ↔ '\r' ∈ text.toList)

/-- The bytes of a text are read as the text exactly if it has no carriage return. -/
theorem readText_eq_ok_iff_of_encode (h : d.readBytes p = .ok (Utf8.encode text.toList)) :
    d.readText p = .ok text ↔ '\r' ∉ text.toList := by
  rw [readText, h]
  dsimp only
  rw [textOf_encode]
  constructor
  · intro heq hreturn
    have hsame : asRead text = text := Except.ok.inj heq
    rw [← hsame, asRead, String.toList_ofList] at hreturn
    exact not_mem_universalNewlines _ hreturn
  · intro hreturn
    rw [asRead_of_not_mem hreturn]
    rfl

/-- **Every write that returns ends so.** -/
theorem result_of_writeIfChanged {changed : Bool} (h : writeIfChanged p text d = (.ok changed, d')) :
    WriteResult p text d changed d' := by
  have hrewritten (hanswer : changed = false ↔ d.readText p = .ok text)
      (hbytes : d.readBytes p = .ok (Utf8.encode text.toList)) : changed = true ↔ '\r' ∈ text.toList := by
    rw [readText_eq_ok_iff_of_encode hbytes] at hanswer
    rw [← Bool.not_eq_false, hanswer, not_not]
  obtain ⟨rfl, rfl, hholds⟩ | ⟨rfl, d₁, directory, hholds, hmake, hsite, rfl⟩ := writeIfChanged_cases h
  · have hread := readText_of_holds hholds
    obtain ⟨held, hheld, htext⟩ := readText_eq_ok_iff.1 hread
    have hanswer : false = false ↔ d'.readText p = .ok text := ⟨fun _ => hread, fun _ => rfl⟩
    refine ⟨hanswer, fun _ => rfl, nofun, fun bytes hbytes => ?_, hrewritten hanswer, fun _ => ?_⟩
    · cases hheld.symm.trans hbytes
      rw [eq_encode_iff htext]
      exact ⟨.inr, fun h => h.resolve_left (by decide)⟩
    · refine ⟨false, d', writeIfChanged_of_holds hholds, nofun, fun hreturn => ?_⟩
      exact absurd hreturn (not_mem_of_readText hread)
  · have hgrown : Grown d d₁ := by
      have hmade := makeDirectories_grown p.parent d
      rwa [hmake] at hmade
    have hanswer : true = false ↔ d.readText p = .ok text := by
      refine ⟨nofun, fun hread => ?_⟩
      cases hholds.symm.trans (holds_of_readText hread)
    refine ⟨hanswer, nofun, fun _ => ⟨d₁, directory, hgrown, hsite, written_afterWrite d₁ p directory text, ?_⟩,
      fun bytes hb => ?_, hrewritten hanswer, fun hread => ?_⟩
    · refine (read_afterWrite hsite text).imp_right ?_
      rintro ⟨⟨target, hlink⟩, -⟩
      exact ⟨target, hgrown.link hlink⟩
    · have hparent := locate_parent_of_readBytes hsite (by rw [hb]; rfl)
      cases hb.symm.trans (readBytes_afterWrite hsite hparent)
      exact ⟨fun _ => .inl rfl, fun _ => rfl⟩
    · have hparent := locate_parent_of_readBytes hsite hread
      obtain ⟨changed, d'', hagain, -⟩ := (plainSite_afterWrite hsite hparent).write text
      refine ⟨changed, d'', hagain, ?_⟩
      have htext := readText_eq_ok_iff_of_encode (readBytes_afterWrite hsite hparent)
      obtain ⟨rfl, -, hholds⟩ | ⟨rfl, -, -, hholds, -⟩ := writeIfChanged_cases hagain
      · exact ⟨nofun, fun hreturn => absurd hreturn (htext.1 (readText_of_holds hholds))⟩
      · refine ⟨fun _ => ?_, fun _ => rfl⟩
        by_contra hreturn
        cases hholds.symm.trans (holds_of_readText (htext.2 hreturn))

/-! ### A file with another kind of line end -/

/-- The path of a file. -/
def breakFile : Path := ⟨.top, ["tmp", "a.txt"]⟩

/-- A disk where the file has two lines with a carriage return and a line feed between them. -/
@[irreducible] def breakDisk : Disk := (writeAtomic breakFile "a\r\nb" (Disk.new ["tmp"])).2

/-- The write of the lines with a line feed between them does nothing, though the bytes are others; that of the lines as they
are is made, though the bytes are the same. -/
theorem result_of_writeIfChanged_breaks :
    (∃ d', writeIfChanged breakFile "a\nb" breakDisk = (.ok false, d') ∧ WriteResult breakFile "a\nb" breakDisk false d') ∧
      ∃ d', writeIfChanged breakFile "a\r\nb" breakDisk = (.ok true, d') ∧
        WriteResult breakFile "a\r\nb" breakDisk true d' := by
  have hkept : (writeIfChanged breakFile "a\nb" breakDisk).1 = .ok false := by decide +kernel
  have hwritten : (writeIfChanged breakFile "a\r\nb" breakDisk).1 = .ok true := by decide +kernel
  exact ⟨⟨_, Prod.ext hkept rfl, result_of_writeIfChanged (Prod.ext hkept rfl)⟩,
    _, Prod.ext hwritten rfl, result_of_writeIfChanged (Prod.ext hwritten rfl)⟩

/-- **A file can be left with other bytes than those of the text**, and one that has them can be written again and again. -/
theorem writeIfChanged_inexact :
    (writeIfChanged breakFile "a\nb" breakDisk).1 = .ok false ∧
      (writeIfChanged breakFile "a\nb" breakDisk).2.readBytes breakFile ≠ .ok (Utf8.encode "a\nb".toList) ∧
      breakDisk.readBytes breakFile = .ok (Utf8.encode "a\r\nb".toList) ∧
      (writeIfChanged breakFile "a\r\nb" breakDisk).1 = .ok true ∧
      (writeIfChanged breakFile "a\r\nb" (writeIfChanged breakFile "a\r\nb" breakDisk).2).1 = .ok true := by
  refine ⟨by decide +kernel, by decide +kernel, by decide +kernel, by decide +kernel, by decide +kernel⟩

/-! ## All or nothing -/

/-- At a location is what was there, or a new directory. -/
def KeptAt (d d' : Disk) (l : Location) : Prop :=
  d'.tree.content? l = d.tree.content? l ∨ (d.tree.content? l = none ∧ d'.tree.content? l = some .directory)

/-- No file comes or goes, and none gets other bytes, where nothing but a directory is new. -/
theorem KeptAt.file_iff {l : Location} (h : KeptAt d d' l) (bytes : Bytes) :
    d'.tree.content? l = some (.file bytes) ↔ d.tree.content? l = some (.file bytes) := by
  rcases h with hsame | ⟨hnone, hdirectory⟩
  · rw [hsame]
  · rw [hnone, hdirectory]
    exact ⟨nofun, nofun⟩

/-- What a write leaves that failed: every file with its bytes, by its place and by every path, and nothing new but
directories. -/
structure Spared (d d' : Disk) : Prop where
  kept : ∀ l, KeptAt d d' l
  files : ∀ l bytes, d'.tree.content? l = some (.file bytes) ↔ d.tree.content? l = some (.file bytes)
  reads : ∀ q bytes, d.readBytes q = .ok bytes → d'.readBytes q = .ok bytes
  writes : d'.writes = d.writes

theorem Grown.spared (h : Grown d d') : Spared d d' where
  kept := h.content
  files l := KeptAt.file_iff (h.content l)
  reads _ _ := h.readBytes
  writes := h.writes

end ElmAssay.Disk
