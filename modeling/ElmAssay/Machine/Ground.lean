import ElmAssay.Disk
import ElmAssay.Machine.Octets
import ElmAssay.Text.Classes

/-!
# Paths as programs give them

Programs name files by strings of bytes. `Ground.locate` follows one from a directory of a tree. A few places hold
devices instead of files (`Device`). The ground that every machine stands on has the directories and the utilities of
the system (`Ground.lay`).
-/

namespace ElmAssay.Machine

/-- A place in the directory of devices that is no file. -/
inductive Device
  /-- Takes everything and gives nothing. -/
  | null
  /-- Gives zeros without end. -/
  | zero
  /-- The terminal, which no process has. -/
  | terminal
  /-- What a process has open under a number. -/
  | opened (file : Nat)
  /-- The name of the process that asks. -/
  | ownName
  deriving DecidableEq, Repr

/-- The device at a location. -/
def Device.at? : Location → Option Device
  | ["dev", "null"] => some .null
  | ["dev", "zero"] => some .zero
  | ["dev", "tty"] => some .terminal
  | ["dev", "stdin"] => some (.opened 0)
  | ["dev", "stdout"] => some (.opened 1)
  | ["dev", "stderr"] => some (.opened 2)
  | ["dev", "fd", n] => n.toNat?.map .opened
  | ["proc", "self", "fd", n] => n.toNat?.map .opened
  | ["proc", "self", "comm"] => some .ownName
  | _ => none

namespace Ground

/-- The parts of a path, between the slashes. -/
def parts (path : Octets) : List String := (Text.cut '/' (Octets.toText path).toList).map String.ofList

/-- The location that a path leads to, or that of the link that it ends in unless `follows`. Only the last part may lead
to nothing. -/
def locate (t : Tree) (here : Location) (follows : Bool) (path : Octets) : Except Refusal Location :=
  if path.isEmpty then .error .noEntry
  else if Disk.pathLimit ≤ path.length then .error .nameTooLong
  else t.walk follows (Tree.startOf here path) (parts path)

/-- A path without the slashes at its end. -/
def withoutSlashes (path : Octets) : Octets :=
  let s := Text.dropTrailing (· == '/') path.toList
  if s.isEmpty && !path.isEmpty then "/" else String.ofList s

/-- The last part of a path. -/
def lastPart (path : Octets) : String := ((parts (withoutSlashes path)).getLast?).getD ""

/-- The path of a location. -/
def pathOf (l : Location) : Octets :=
  if l.isEmpty then "/" else Octets.ofText (String.join (l.map fun part => "/" ++ part))

/-- The names in a directory, the newest first. -/
def namesIn (t : Tree) (l : Location) : List Octets :=
  let entries := t.entries.filter fun e => e.1.length = l.length + 1 && l.isPrefixOf e.1
  (entries.mergeSort fun a b => b.2.marks.serial ≤ a.2.marks.serial).filterMap fun e =>
    e.1.getLast?.map Octets.ofText

/-! ## The system -/

/-- The directories of the system. -/
def directories : List Location :=
  [["boot"], ["dev"], ["dev", "fd"], ["etc"], ["home"], ["media"], ["mnt"], ["opt"], ["proc"], ["proc", "self"],
   ["proc", "self", "fd"], ["root"], ["run"], ["srv"], ["sys"], ["tmp"], ["usr"], ["usr", "bin"], ["usr", "include"],
   ["usr", "lib"], ["usr", "local"], ["usr", "local", "bin"], ["usr", "local", "lib"], ["usr", "local", "sbin"],
   ["usr", "sbin"], ["usr", "share"], ["var"], ["var", "lib"], ["var", "log"], ["var", "tmp"]]

/-- The links of the system. -/
def links : List (Location × String) :=
  [(["bin"], "usr/bin"), (["lib"], "usr/lib"), (["sbin"], "usr/sbin"), (["usr", "bin", "sh"], "dash"),
   (["usr", "bin", "awk"], "mawk"), (["usr", "bin", "nawk"], "mawk")]

/-- The places of the devices. -/
def devices : List Location :=
  [["dev", "null"], ["dev", "zero"], ["dev", "tty"], ["dev", "stdin"], ["dev", "stdout"], ["dev", "stderr"],
   ["dev", "fd", "0"], ["dev", "fd", "1"], ["dev", "fd", "2"], ["proc", "self", "fd", "0"], ["proc", "self", "fd", "1"],
   ["proc", "self", "fd", "2"], ["proc", "self", "comm"]]

/-- What a utility's file starts with, before its name. -/
def utilityMark : Octets := "\x7fELF"

/-- The file of a utility. -/
def utilityFile (name : String) : Content := .file (Octets.toBytes (utilityMark ++ name))

/-- The utility whose file this is. -/
def utilityOf? (bytes : Bytes) : Option String :=
  if (Octets.toBytes utilityMark).isPrefixOf bytes then some (Octets.ofBytes (bytes.drop utilityMark.length)) else none

/-- The rights of the directory of temporary files, in which everyone may write but take away only what is one's own. -/
def sharedRights : Nat := 0o1777

/-- The rights of the devices. -/
def deviceRights : Nat := 0o666

/-- The rights of a directory of the system. -/
def rightsOf (l : Location) : Nat := if l = ["tmp"] ∨ l = ["var", "tmp"] then sharedRights else directoryRights

/-- The entries of the system, with utilities of the given names. -/
def entries (utilities : List String) : List (Location × Content × Nat) :=
  directories.map (fun l => (l, .directory, rightsOf l)) ++ devices.map (·, .file [], deviceRights) ++
    links.map (fun l => (l.1, .link l.2, linkRights)) ++
    utilities.map fun name => (["usr", "bin", name], utilityFile name, directoryRights)

/-- The tree with the system below it, unless it is there already. -/
def lay (utilities : List String) (time : Nat) (t : Tree) : Tree :=
  if t.hasDirectory ["usr", "bin"] then t
  else
    let fresh := (entries utilities).filter fun e => (t.get? e.1).isNone
    let first := t.freshSerial
    ⟨t.entries ++ fresh.zipIdx.map fun (e, n) => (e.1, ⟨e.2.1, ⟨e.2.2, time, first + n⟩⟩)⟩

end Ground
end ElmAssay.Machine
