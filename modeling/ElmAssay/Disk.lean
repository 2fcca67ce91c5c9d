import ElmAssay.Disk.Tree
import ElmAssay.Failure
import ElmAssay.Text.Lines

/-!
# The disk

A disk is a file tree, the directory that relative paths start from, the log of the files written, and the time
(`Disk`). Reading is a function of the disk; what changes it runs in `DiskM`, where a failure keeps the changes made
before it. A file is written only if it does not hold the text already (`writeIfChanged`), and then by way of a
temporary file beside it that takes its place in the end (`writeAtomic`).
-/

namespace ElmAssay

/-- A file tree seen from a directory, the files written so far, oldest first, and the time in microseconds. -/
structure Disk where
  current : Location
  tree : Tree
  writes : List Path
  time : Nat
  deriving DecidableEq

/-- What changes a disk and may fail. -/
abbrev DiskM (α : Type) := ExceptT Failure (StateM Disk) α

namespace Path

/-- Whether a path holds the null character. -/
def hasNull (p : Path) : Bool := p.parts.any fun part => part.toList.contains '\x00'

end Path

namespace Disk

/-- The time of a new disk. -/
def dawn : Nat := 1767225600000000

/-- The disk with nothing but a directory, from which relative paths start. -/
def new (directory : Location) : Disk :=
  ⟨directory, Tree.empty.create directory .directory directoryRights (dawn * 1000), [], dawn⟩

/-- The time that a change gets, in nanoseconds. -/
def stamp (d : Disk) : Int := d.time * 1000

/-! ## Looking -/

/-- The count of bytes from which on the text of a path is too long. -/
def pathLimit : Nat := 4096

/-- The location that a path leads to, or that of the link that it ends in unless `follows`. -/
def locateFrom (d : Disk) (follows : Bool) (p : Path) : Except Refusal Location :=
  if pathLimit ≤ p.text.utf8ByteSize then .error .nameTooLong
  else d.tree.walk follows (if p.isAbsolute then [] else d.current) p.parts

/-- The location that a path leads to. -/
def locate (d : Disk) (p : Path) : Except Refusal Location := d.locateFrom true p

/-- The location that a path names, also if a link is there. -/
def locateName (d : Disk) (p : Path) : Except Refusal Location := d.locateFrom false p

/-- What a path leads to. -/
def content (d : Disk) (p : Path) : Except Refusal Content :=
  match d.locate p with
  | .ok l =>
    match d.tree.content? l with
    | some c => .ok c
    | none => .error .noEntry
  | .error r => .error r

/-- The answer to a question about what a path leads to, where a path that leads to nothing gives no. -/
def test (question : Content → Bool) (d : Disk) (p : Path) : Except Failure Bool :=
  if p.hasNull then .ok false
  else
    match d.content p with
    | .ok c => .ok (question c)
    | .error .noEntry => .ok false
    | .error .notDirectory => .ok false
    | .error .tooManyLinks => .ok false
    | .error r => .error (.system ⟨r, p.text⟩)

/-- Whether a path leads to a file. -/
def isFile (d : Disk) (p : Path) : Except Failure Bool :=
  d.test (fun c => match c with | .file _ => true | _ => false) p

/-- Whether a path leads to a directory. -/
def isDirectory (d : Disk) (p : Path) : Except Failure Bool := d.test (· == .directory) p

/-- The contents of a file. -/
def readBytes (d : Disk) (p : Path) : Except Failure Bytes :=
  if p.hasNull then .error .nullCharacter
  else
    match d.content p with
    | .ok (.file bytes) => .ok bytes
    | .ok .directory => .error (.system ⟨.isDirectory, p.text⟩)
    | .ok (.link _) => .error (.system ⟨.tooManyLinks, p.text⟩)
    | .error r => .error (.system ⟨r, p.text⟩)

/-- The text that contents are: UTF-8 in which every line end counts as a line feed. -/
def textOf (bytes : Bytes) : Except Text.Utf8.Malformed String :=
  (Text.Utf8.decode bytes).map fun cs => String.ofList (Text.universalNewlines cs)

/-- The text of a file. -/
def readText (d : Disk) (p : Path) : Except Failure String :=
  match d.readBytes p with
  | .ok bytes => (textOf bytes).mapError .undecodable
  | .error e => .error e

/-- Whether a path leads to a file with a text, where a file that gives no text has none. -/
def holds (d : Disk) (p : Path) (content : String) : Except Failure Bool :=
  match d.isFile p with
  | .ok true =>
    match d.readText p with
    | .ok s => .ok (s == content)
    | .error _ => .ok false
  | .ok false => .ok false
  | .error e => .error e

/-- The directory that relative paths start from. -/
def currentPath (d : Disk) : Path := ⟨.top, d.current⟩

/-- A path from the top without links and parts that go up. -/
def resolve (d : Disk) (p : Path) : Except Failure Path :=
  if p.hasNull then .error .nullCharacter
  else
    match d.tree.resolve (d.currentPath / p).parts with
    | .ok l => .ok ⟨.top, l⟩
    | .error (l, rest) => .error (.linkLoop ⟨.top, l ++ rest⟩)

/-! ## Changing -/

/-- A question to the disk as a step of what changes it. -/
def ask {α : Type} (question : Disk → Except Failure α) : DiskM α := do
  match question (← get) with
  | .ok a => return a
  | .error e => throw e

/-- What may fail without a look at the disk, as a step of what changes it. -/
def given {α : Type} (result : Except Failure α) : DiskM α := ask fun _ => result

/-- Changes the file tree. -/
def modifyTree (change : Tree → Tree) : DiskM Unit := modify fun d => { d with tree := change d.tree }

/-- The disk with a new directory. -/
def withDirectory (d : Disk) (p : Path) : Except Refusal Disk :=
  match d.locateName p with
  | .error r => .error r
  | .ok l =>
    if p.parts = [] ∨ p.name = Path.up ∨ (d.tree.get? l).isSome then .error .alreadyThere
    else .ok { d with tree := d.tree.create l .directory directoryRights d.stamp }

/-- Makes a directory unless it is there. The answer is false if the directory around it is not there. -/
def claimDirectory (p : Path) : DiskM Bool := do
  if p.hasNull then throw .nullCharacter
  match (← get).withDirectory p with
  | .ok d =>
    set d
    return true
  | .error .noEntry => return false
  | .error r =>
    if ← ask (·.isDirectory p) then return true else throw (.system ⟨r, p.text⟩)

/-- Makes a directory and, as far as the fuel goes, those around it, unless they are there. -/
def makeDirectoriesFrom : Nat → Path → DiskM Unit
  | fuel, p => do
    if ← claimDirectory p then return
    match fuel with
    | 0 => throw (.system ⟨.noEntry, p.text⟩)
    | fuel + 1 =>
      makeDirectoriesFrom fuel p.parent
      if ← claimDirectory p then return
      throw (.system ⟨.noEntry, p.text⟩)

/-- Makes a directory and those around it unless they are there. -/
def makeDirectories (p : Path) : DiskM Unit := makeDirectoriesFrom p.parts.length p

/-- The name of a temporary file beside a file, by a count. -/
def temporaryName (name : String) (count : Nat) : String :=
  "." ++ name ++ "." ++ String.ofList (Number.padded 8 count) ++ ".tmp"

/-- The first temporary name for a file that is not taken in a directory. -/
def freshName (t : Tree) (directory : Location) (name : String) : String :=
  let counts := List.range (t.entries.length + 1)
  temporaryName name ((counts.find? fun n => (t.get? (directory ++ [temporaryName name n])).isNone).getD 0)

/-- The location of a new temporary file beside a file. -/
def temporaryFor (d : Disk) (p : Path) : Except Failure Location :=
  if p.hasNull then .error .nullCharacter
  else
    match d.locate p.parent with
    | .error r => .error (.system ⟨r, p.text⟩)
    | .ok directory =>
      let name := freshName d.tree directory p.name
      if !d.tree.hasDirectory directory then .error (.system ⟨.noEntry, p.text⟩)
      else if Tree.nameLimit < name.utf8ByteSize then .error (.system ⟨.nameTooLong, p.text⟩)
      else .ok (directory ++ [name])

/-- A location at which a file may take the place of what is there: no directory, and under a name of its own. -/
def vacated (d : Disk) (p : Path) : Except Refusal Location → Except Refusal Location
  | .error r => .error r
  | .ok l =>
    if p.parts = [] ∨ p.name = Path.up then .error .busy
    else if d.tree.hasDirectory l then .error .isDirectory
    else .ok l

/-- The location of the file or the link that a temporary file is to replace. -/
def replaceable (d : Disk) (p : Path) : Except Refusal Location := d.vacated p (d.locateName p)

/-- Writes a file by way of a temporary file beside it, which is taken away again if it cannot take the place of the
file. -/
def writeAtomic (p : Path) (content : String) : DiskM Unit := do
  let temporary ← ask (·.temporaryFor p)
  let bytes := Text.Utf8.encode content.toList
  modify fun d => { d with tree := d.tree.create temporary (.file bytes) privateRights d.stamp }
  match (← get).replaceable p with
  | .ok l =>
    modify fun d =>
      { d with
        tree := (d.tree.erase temporary).create l (.file bytes) privateRights d.stamp
        writes := d.writes ++ [p] }
  | .error r =>
    modifyTree (·.erase temporary)
    throw (.system ⟨r, p.text⟩)

/-- Writes a text to a file unless the file holds it already. The answer is whether it was written. -/
def writeIfChanged (p : Path) (content : String) : DiskM Bool := do
  if ← ask (·.holds p content) then return false
  makeDirectories p.parent
  writeAtomic p content
  return true

/-! ## Arranging a tree -/

/-- An entry with the contents of a file, which is to be run or else keeps its rights. -/
def filled (bytes : Bytes) (isRunnable : Bool) (time : Int) (e : Entry) : Entry :=
  let e := (e.withContent (.file bytes)).withTime time
  if isRunnable then e.withRights directoryRights else e

/-- Puts a file at a path and makes the directories around it. -/
def placeFile (p : Path) (bytes : Bytes) (isRunnable : Bool) : DiskM Unit := do
  makeDirectories p.parent
  let d ← get
  match d.vacated p (d.locate p) with
  | .ok l =>
    match d.tree.get? l with
    | some e => modifyTree (·.alter e.marks.serial (filled bytes isRunnable d.stamp))
    | none => modifyTree (·.create l (.file bytes) (if isRunnable then directoryRights else fileRights) d.stamp)
  | .error r => throw (.system ⟨r, p.text⟩)

/-- Takes away what a path names and everything below it. -/
def remove (p : Path) : DiskM Unit := do
  match (← get).locateName p with
  | .error r => throw (.system ⟨r, p.text⟩)
  | .ok l =>
    if ((← get).tree.get? l).isNone then throw (.system ⟨.noEntry, p.text⟩)
    modifyTree (·.prune l)

/-- What is below a path, in the order of the texts of the paths, each with what it leads to. -/
def listing (d : Disk) (p : Path) : Except Failure (List (Path × Content)) :=
  match d.locate p with
  | .error _ => .ok []
  | .ok l =>
    let paths := (d.tree.below l).map fun e => (⟨.top, e.1⟩ : Path)
    (paths.mergeSort fun a b => a.text ≤ b.text).mapM fun p =>
      match d.content p with
      | .ok c => .ok (p, c)
      | .error r => .error (.system ⟨r, p.text⟩)

end Disk
end ElmAssay
