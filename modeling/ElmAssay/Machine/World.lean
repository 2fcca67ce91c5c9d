import ElmAssay.Machine.Call
import ElmAssay.Machine.Ground
import ElmAssay.Machine.Signal

/-!
# The world of the processes

Processes share a file tree, the files they have open, the pipes between them, and a clock (`World`). A number under
which a process has a file open leads to an entry of a common table, so that processes that inherit one share its
place in the file. Here are the operations on files and on processes from which the system is built.
-/

namespace ElmAssay.Machine

/-- What an open file leads to. -/
inductive Target
  | device (d : Device)
  | pipe (n : Nat)
  /-- The file with a number. -/
  | file (serial : Nat)
  | directory (l : Location)
  /-- A file that has no name any more. -/
  | detached (bytes : Bytes)
  deriving DecidableEq, Repr

/-- An open file and the place in it. -/
structure OpenFile where
  target : Target
  mode : OpenMode
  offset : Nat
  deriving DecidableEq, Repr

/-- A pipe: what was written to it and not read yet, and whether something outside of the world has its other end. -/
structure Pipe where
  held : Octets
  isWatched : Bool
  deriving DecidableEq, Repr

/-- A process. -/
structure Process where
  id : Nat
  parent : Nat
  name : Octets
  act : Act
  files : List (Nat × Nat)
  here : Location
  mask : Nat
  /-- By how much it gives way to others. -/
  niceness : Int
  handlings : List (Nat × Handling)
  pending : List Nat
  wake : Option Nat
  finished : Option End

/-- All that processes share. The clock counts the microseconds since the dawn. -/
structure World where
  tree : Tree
  opens : Array OpenFile
  pipes : Array Pipe
  processes : List Process
  dawn : Nat
  clock : Nat
  nextId : Nat

/-! ## Numbers of open files -/

/-- The lowest number from a least one on that is not in use. -/
def lowestFree (files : List (Nat × Nat)) (least : Nat) : Nat :=
  (((List.range (files.length + 1)).map (least + ·)).find? fun n => (files.lookup n).isNone).getD least

/-- The numbers of open files with one more, or with another meaning of one. -/
def withFile (files : List (Nat × Nat)) (file entry : Nat) : List (Nat × Nat) :=
  (file, entry) :: files.filter fun f => f.1 != file

/-- How a process handles a signal. -/
def Process.handlingOf (p : Process) (signal : Nat) : Handling := (p.handlings.lookup signal).getD .standard

namespace World

/-! ## Processes -/

/-- The world with one process changed. -/
def modify (w : World) (id : Nat) (change : Process → Process) : World :=
  { w with processes := w.processes.map fun p => if p.id = id then change p else p }

/-- The process that has a number and did not end yet. -/
def alive? (w : World) (id : Nat) : Option Process :=
  w.processes.find? fun p => p.id == id && p.finished.isNone

/-- The world after the end of a process. -/
def finish (w : World) (id : Nat) (e : End) : World :=
  w.modify id fun p => { p with files := [], finished := some (p.finished.getD e), pending := [] }

/-- The world after a signal was sent to a process. -/
def deliver (w : World) (signal : Nat) (p : Process) : World :=
  if p.finished.isSome ∨ signal = 0 then w
  else
    match if signal = Signal.kill then .standard else p.handlingOf signal with
    | .ignored => w
    | .caught => w.modify p.id fun p => { p with pending := p.pending ++ [signal] }
    | .standard => if Signal.isHarmless signal then w else w.finish p.id (.killed signal)

/-- Sends a signal to a process, or to all of them if the target is not positive. -/
def kill (w : World) (target : Int) (signal : Nat) : Except Refusal World :=
  if Signal.greatest < signal then .error .invalid
  else if 0 < target then
    match w.processes.find? fun p => (p.id : Int) == target with
    | some p => .ok (w.deliver signal p)
    | none => .error .noProcess
  else if target < -1 && !(w.processes.any fun p => (p.id : Int) == -target) then .error .noProcess
  else .ok (w.processes.foldl (fun w p => w.deliver signal p) w)

/-! ## Open files -/

/-- What a process has open under a number. -/
def opened? (w : World) (p : Process) (file : Nat) : Option (Nat × OpenFile) :=
  (p.files.lookup file).bind fun entry => (w.opens[entry]?).map (entry, ·)

/-- The world in which a process has one more file open, and its number. -/
def withOpen (w : World) (p : Process) (f : OpenFile) : Nat × World :=
  let file := lowestFree p.files 0
  (file, { w with opens := w.opens.push f }.modify p.id fun p => { p with files := withFile p.files file w.opens.size })

/-- Whether a process that did not end has a pipe open for one of its ends. -/
def hasEnd (w : World) (pipe : Nat) (side : OpenMode → Bool) : Bool :=
  w.processes.any fun p => p.finished.isNone && p.files.any fun f =>
    match w.opens[f.2]? with
    | some o => o.target == .pipe pipe && side o.mode
    | none => false

/-! ## The tree -/

/-- The steps in which the time of changes is told, in microseconds. -/
def timeStep : Nat := 4000

/-- The time that a change gets, in nanoseconds. -/
def time (w : World) : Int := ((w.dawn + w.clock) / timeStep * timeStep : Nat) * 1000

/-- The entries that are names of the file with a number. -/
def namesOf (w : World) (serial : Nat) : List (Location × Entry) :=
  w.tree.entries.filter fun e => e.2.marks.serial == serial

/-- The world in which a directory changed just now. -/
def stamped (w : World) (l : Location) : World :=
  match w.tree.get? l with
  | some e => { w with tree := w.tree.alter e.marks.serial (·.withTime w.time) }
  | none => w

/-- The world with something new at a location. -/
def create (w : World) (p : Process) (l : Location) (content : Content) (rights : Nat) : World :=
  { w with tree := w.tree.create l content (rights &&& (0o7777 ^^^ p.mask)) w.time }.stamped l.dropLast

/-- The world in which the open files of a file that loses its last name keep what is in it by themselves. -/
def detach (w : World) (l : Location) : World :=
  match w.tree.get? l with
  | some ⟨.file bytes, marks⟩ =>
    if 1 < (w.namesOf marks.serial).length then w
    else
      { w with
        opens := w.opens.map fun o => if o.target = .file marks.serial then { o with target := .detached bytes } else o }
  | _ => w

/-- The world without what is at a location. -/
def forget (w : World) (l : Location) : World :=
  let w := w.detach l
  { w with tree := w.tree.erase l }.stamped l.dropLast

/-- The count of bytes that a directory takes. -/
def directorySize : Nat := 4096

/-- What is known of what an entry stands for. -/
def infoOfEntry (w : World) (l : Location) (e : Entry) : Info :=
  let m := e.marks
  match e.content with
  | .directory =>
    let inner := w.tree.entries.filter fun f => f.2.isDirectory && f.1.length == l.length + 1 && l.isPrefixOf f.1
    ⟨.directory, directorySize, m.rights, m.changed, m.serial, inner.length + 2⟩
  | .file bytes => ⟨.file, bytes.length, m.rights, m.changed, m.serial, (w.namesOf m.serial).length⟩
  | .link target => ⟨.link, target.utf8ByteSize, m.rights, m.changed, m.serial, 1⟩

/-- What is known of something that is in no tree. -/
def infoOutside (w : World) (kind : Kind) (size rights : Nat) : Info := ⟨kind, size, rights, w.time, 0, 1⟩

/-- What is known of the target of an open file. -/
def infoOfTarget (w : World) : Target → Info
  | .device _ => w.infoOutside .device 0 Ground.deviceRights
  | .pipe _ => w.infoOutside .pipe 0 privateRights
  | .directory l =>
    match w.tree.get? l with
    | some e => w.infoOfEntry l e
    | none => w.infoOutside .directory directorySize directoryRights
  | .detached bytes => { w.infoOutside .file bytes.length fileRights with names := 0 }
  | .file serial =>
    match w.namesOf serial with
    | (l, e) :: _ => w.infoOfEntry l e
    | [] => w.infoOutside .file 0 fileRights

/-- The bytes of the file with a number. -/
def bytesOf (w : World) (serial : Nat) : Bytes :=
  match w.tree.entries.find? fun e => e.2.marks.serial == serial with
  | some (_, ⟨.file bytes, _⟩) => bytes
  | _ => []

/-- The contents of an open file that is no pipe. -/
def contents (w : World) : Target → Except Refusal Bytes
  | .detached bytes => .ok bytes
  | .file serial => .ok (w.bytesOf serial)
  | .directory _ => .error .isDirectory
  | _ => .ok []

/-- The world with other contents of an open file that is no pipe. -/
def withContents (w : World) (entry : Nat) (o : OpenFile) (bytes : Bytes) : World :=
  match o.target with
  | .file serial =>
    { w with
      tree := w.tree.alter serial fun e => (e.withContent (.file bytes)).withTime w.time
      opens := w.opens.set! entry o }
  | .detached _ => { w with opens := w.opens.set! entry { o with target := .detached bytes } }
  | _ => w

/-- Bytes with others put over them from an offset on. -/
def overwritten (old : Bytes) (offset : Nat) (new : Bytes) : Bytes :=
  let front := old.take offset
  front ++ List.replicate (offset - front.length) 0 ++ new ++ old.drop (offset + new.length)

/-- The world after bytes were written to an open file that is no pipe. -/
def store (w : World) (entry : Nat) (o : OpenFile) (data : Octets) : World :=
  match o.target with
  | .device _ => w
  | target =>
    match w.contents target with
    | .error _ => w
    | .ok old =>
      let new := Octets.toBytes data
      let offset := if o.mode.appends then old.length else o.offset
      let bytes := if offset = old.length then old ++ new else overwritten old offset new
      w.withContents entry { o with offset := offset + new.length } bytes

/-- The world in which an open file has so many bytes. -/
def resize (w : World) (p : Process) (file size : Nat) : Except Refusal World :=
  match w.opened? p file with
  | none => .error .badDescriptor
  | some (entry, o) =>
    match o.target with
    | .device _ => .error .invalid
    | .pipe _ => .error .invalid
    | target =>
      (w.contents target).map fun old =>
        w.withContents entry o (old.take size ++ List.replicate (size - old.length) 0)

/-! ## Paths -/

/-- The location that a path leads to as a process sees it. -/
def locate (w : World) (p : Process) (path : Octets) : Except Refusal Location := Ground.locate w.tree p.here true path

/-- The location that a path names as a process sees it, also if a link is there. -/
def locateName (w : World) (p : Process) (path : Octets) : Except Refusal Location :=
  Ground.locate w.tree p.here false path

/-- What is at a location, and the location. -/
def found (w : World) : Except Refusal Location → Except Refusal (Location × Entry)
  | .error r => .error r
  | .ok l =>
    match w.tree.get? l with
    | some e => .ok (l, e)
    | none => .error .noEntry

/-- The directory that a path leads to. -/
def findDirectory (w : World) (p : Process) (path : Octets) : Except Refusal Location :=
  match w.found (w.locate p path) with
  | .error r => .error r
  | .ok (l, e) => if e.isDirectory then .ok l else .error .notDirectory

/-- What is known of a location. -/
def infoAt (w : World) (p : Process) (l : Location) : Except Refusal Info :=
  match Device.at? l with
  | some (.opened n) => ((w.opened? p n).map fun o => w.infoOfTarget o.2.target).elim (.error .noEntry) .ok
  | some .ownName => .ok (w.infoOutside .file 0 0o444)
  | some _ => .ok (w.infoOutside .device 0 Ground.deviceRights)
  | none => (w.found (.ok l)).map fun (l, e) => w.infoOfEntry l e

/-- What is known of what a path leads to, or of the link that it ends in unless `follows`. -/
def info (w : World) (p : Process) (path : Octets) (follows : Bool) : Except Refusal Info :=
  match Ground.locate w.tree p.here follows path with
  | .ok l => w.infoAt p l
  | .error r => .error r

/-- The rights of a new file before any are masked. -/
def openRights : Nat := 0o666

/-- Opens what is at a location. -/
def openAt (w : World) (p : Process) (l : Location) (mode : OpenMode) : Except Refusal (Nat × World) :=
  match w.tree.get? l with
  | some ⟨.directory, _⟩ => if mode.writes then .error .isDirectory else .ok (w.withOpen p ⟨.directory l, mode, 0⟩)
  | some ⟨.link _, _⟩ => .error .tooManyLinks
  | some ⟨.file _, marks⟩ =>
    let w :=
      if mode.truncates then
        { w with tree := w.tree.alter marks.serial fun e => (e.withContent (.file [])).withTime w.time }
      else w
    .ok (w.withOpen p ⟨.file marks.serial, mode, 0⟩)
  | none =>
    if mode.creates then
      .ok ((w.create p l (.file []) openRights).withOpen p ⟨.file w.tree.freshSerial, mode, 0⟩)
    else .error .noEntry

/-- Opens what a process has open already once more. -/
def reopen (w : World) (p : Process) (o : OpenFile) (mode : OpenMode) : Except Refusal (Nat × World) :=
  match o.target with
  | .file serial =>
    match w.namesOf serial with
    | (l, _) :: _ => w.openAt p l mode
    | [] => .error .noEntry
  | .directory l => w.openAt p l mode
  | target => .ok (w.withOpen p ⟨target, mode, 0⟩)

/-- Opens a file for a process. -/
def openFile (w : World) (p : Process) (path : Octets) (mode : OpenMode) : Except Refusal (Nat × World) :=
  match w.locate p path with
  | .error r =>
    let isInside := path.endsWith "/" && (w.locate p (Ground.withoutSlashes path)).toOption.isSome
    .error (if mode.creates && isInside then .isDirectory else r)
  | .ok l =>
    match Device.at? l with
    | some .terminal => .error .noDevice
    | some (.opened n) =>
      match w.opened? p n with
      | some (_, o) => w.reopen p o mode
      | none => .error .noEntry
    | some .ownName => .ok (w.withOpen p ⟨.detached (Octets.toBytes (p.name ++ "\n")), mode, 0⟩)
    | some d => .ok (w.withOpen p ⟨.device d, mode, 0⟩)
    | none => w.openAt p l mode

/-- The rights of a new directory before any are masked. -/
def newDirectoryRights : Nat := 0o777

/-- Makes a directory. -/
def makeDirectory (w : World) (p : Process) (path : Octets) : Except Refusal World :=
  match w.locateName p (Ground.withoutSlashes path) with
  | .error r => .error r
  | .ok l =>
    if (w.tree.get? l).isSome then .error .alreadyThere else .ok (w.create p l .directory newDirectoryRights)

/-- Takes a file or a link away. -/
def removeFile (w : World) (p : Process) (path : Octets) : Except Refusal World :=
  match w.found (w.locateName p path) with
  | .error r => .error r
  | .ok (l, e) => if e.isDirectory then .error .isDirectory else .ok (w.forget l)

/-- Takes a directory away that has nothing in it. -/
def removeDirectory (w : World) (p : Process) (path : Octets) : Except Refusal World :=
  match w.found (w.locateName p (Ground.withoutSlashes path)) with
  | .error r => .error r
  | .ok (l, e) =>
    if !e.isDirectory then .error .notDirectory
    else if l = [] then .error .busy
    else if Ground.lastPart path = "." then .error .invalid
    else if !(w.tree.below l).isEmpty then .error .notEmpty
    else .ok (w.forget l)

/-- The tree with what is at a location and below it moved to another one. -/
def moved (t : Tree) (source target : Location) : Tree :=
  let kept := t.entries.filter fun e => e.1 != target
  ⟨kept.map fun e => if source.isPrefixOf e.1 then (target ++ e.1.drop source.length, e.2) else e⟩

/-- Moves a file, a link or a directory. -/
def rename (w : World) (p : Process) (path target : Octets) : Except Refusal World :=
  match w.found (w.locateName p (Ground.withoutSlashes path)), w.locateName p (Ground.withoutSlashes target) with
  | .error r, _ => .error r
  | _, .error r => .error r
  | .ok (a, e), .ok b =>
    let detached := w.detach b
    let change := ({ detached with tree := moved w.tree a b }.stamped a.dropLast).stamped b.dropLast
    if !e.isDirectory && target.endsWith "/" then .error .notDirectory
    else match e.isDirectory, w.tree.get? b with
    | true, none => if a.isPrefixOf b then .error .invalid else .ok change
    | false, none => .ok change
    | true, some f =>
      if !f.isDirectory then .error .notDirectory
      else if a = b then .ok w
      else if a.isPrefixOf b then .error .invalid
      else if !(w.tree.below b).isEmpty then .error .notEmpty
      else .ok change
    | false, some f =>
      if f.isDirectory then .error .isDirectory
      else if e.marks.serial = f.marks.serial then .ok w
      else .ok change

/-- Gives a file one more name. -/
def shareFile (w : World) (p : Process) (path target : Octets) : Except Refusal World :=
  match w.found (w.locateName p path), w.locateName p target with
  | .error r, _ => .error r
  | _, .error r => .error r
  | .ok (_, e), .ok b =>
    if (w.tree.get? b).isSome then .error .alreadyThere
    else if e.isDirectory then .error .notPermitted
    else .ok ({ w with tree := w.tree.put b e }.stamped b.dropLast)

/-- Makes a link. -/
def makeLink (w : World) (p : Process) (text path : Octets) : Except Refusal World :=
  if text.isEmpty then .error .noEntry
  else
    match w.locateName p path with
    | .error r => .error r
    | .ok l =>
      if (w.tree.get? l).isSome then .error .alreadyThere
      else .ok ({ w with tree := w.tree.create l (.link (Octets.toText text)) linkRights w.time }.stamped l.dropLast)

/-- The text of a link. -/
def linkText (w : World) (p : Process) (path : Octets) : Except Refusal Octets :=
  match w.found (w.locateName p path) with
  | .error r => .error r
  | .ok (_, ⟨.link target, _⟩) => .ok (Octets.ofText target)
  | .ok _ => .error .invalid

/-- The world with what a path leads to changed. -/
def altered (w : World) (p : Process) (path : Octets) (follows : Bool) (change : Entry → Entry) : Except Refusal World :=
  match w.found (Ground.locate w.tree p.here follows path) with
  | .error r => .error r
  | .ok (_, e) => .ok { w with tree := w.tree.alter e.marks.serial change }

/-- What the first line of a file says that is to be run: the program after the mark, and an argument for it. Only the
first bytes count. -/
def interpreter? (bytes : Bytes) : Option (Octets × Option Octets) :=
  let limit := 256
  match (Octets.ofBytes (bytes.take limit)).toList with
  | '#' :: '!' :: rest =>
    let pad (c : Char) : Bool := c == ' ' || c == '\t'
    let ends (c : Char) : Bool := pad c || c == '\x00'
    let whole := rest.contains '\n'
    let line := rest.takeWhile (· != '\n')
    let line := if whole then line else line.take (limit - 3)
    let body := line.dropWhile pad
    let name := body.takeWhile (!ends ·)
    if name.isEmpty then none
    else if !whole && limit ≤ bytes.length && !body.any ends then none
    else
      match body.dropWhile (!ends ·) with
      | '\x00' :: _ => some (String.ofList name, none)
      | after =>
        let argument := (Text.dropTrailing pad (after.dropWhile pad)).takeWhile (· != '\x00')
        some (String.ofList name, if argument.isEmpty then none else some (String.ofList argument))
  | _ => none

/-- What a file starts that is to be run. -/
def image (w : World) (p : Process) (path : Octets) : Except Refusal Image :=
  match w.found (w.locate p path) with
  | .error r => .error r
  | .ok (l, e) =>
    match e.content with
    | .file bytes =>
      if (Device.at? l).isSome || e.marks.rights &&& runRights == 0 then .error .denied
      else
        match Ground.utilityOf? bytes with
        | some name => .ok (.utility name)
        | none =>
          match interpreter? bytes with
          | some (program, argument) => .ok (.interpreted program argument)
          | none => .error .notExecutableFormat
    | _ => .error .denied

end World
end ElmAssay.Machine
