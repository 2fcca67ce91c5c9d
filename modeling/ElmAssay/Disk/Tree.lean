import ElmAssay.Disk.SystemError
import ElmAssay.Path
import ElmAssay.Text.Utf8

/-!
# File trees

A file tree is a table from locations, the names on the way down from the top, to directories, files and links
(`Tree`). The top is always a directory. A link stands for the place that its text leads to from the directory that it
is in. A walk along the parts of a path takes one step at a time, so it can go up only from a directory that is there,
and follows a bounded count of links (`Tree.walk`).
-/

namespace ElmAssay

/-- The contents of a file. -/
abbrev Bytes := List UInt8

/-- The names on the way from the top to a place. -/
abbrev Location := List String

/-- What can be at a place. -/
inductive Content
  | directory
  | file (bytes : Bytes)
  /-- Stands for another place. -/
  | link (target : String)
  deriving DecidableEq, Repr

/-- What is kept of an entry besides its contents: who may do what with it, the time in nanoseconds when it changed last,
and a number. Entries with the same number are names of one file. -/
structure Marks where
  rights : Nat
  changed : Int
  serial : Nat
  deriving DecidableEq, Repr

/-- What is at a place. -/
structure Entry where
  content : Content
  marks : Marks
  deriving DecidableEq, Repr

namespace Entry

/-- Whether an entry is a directory. -/
def isDirectory (e : Entry) : Bool := e.content == .directory

/-- The entry with other contents. -/
def withContent (e : Entry) (c : Content) : Entry := { e with content := c }

/-- The entry with other rights. -/
def withRights (e : Entry) (rights : Nat) : Entry := { e with marks := { e.marks with rights := rights } }

/-- The entry with another time of its last change. -/
def withTime (e : Entry) (changed : Int) : Entry := { e with marks := { e.marks with changed := changed } }

/-- The entry with another number. -/
def withSerial (e : Entry) (serial : Nat) : Entry := { e with marks := { e.marks with serial := serial } }

end Entry

/-- What the owner, the group and all others may do with a new directory. -/
def directoryRights : Nat := 0o755

/-- What the owner, the group and all others may do with a new file. -/
def fileRights : Nat := 0o644

/-- What the owner alone may do with a new file. -/
def privateRights : Nat := 0o600

/-- The rights of each link. -/
def linkRights : Nat := 0o777

/-- The rights that let a file be run. -/
def runRights : Nat := 0o111

/-- A file tree. -/
structure Tree where
  entries : List (Location × Entry)
  deriving DecidableEq, Repr

namespace Tree

/-- The tree with nothing below the top. -/
def empty : Tree := ⟨[]⟩

/-- The top. -/
def top : Entry := ⟨.directory, ⟨directoryRights, 0, 0⟩⟩

/-- What is at a location. -/
def get? (t : Tree) (l : Location) : Option Entry :=
  if l = [] then some top else t.entries.lookup l

/-- The contents of what is at a location. -/
def content? (t : Tree) (l : Location) : Option Content := (t.get? l).map Entry.content

/-- Whether a directory is at a location. -/
def hasDirectory (t : Tree) (l : Location) : Bool := t.content? l == some .directory

/-- The tree without what is at a location. -/
def erase (t : Tree) (l : Location) : Tree := ⟨t.entries.filter fun e => !decide (e.1 = l)⟩

/-- The tree with something put at a location. -/
def put (t : Tree) (l : Location) (e : Entry) : Tree := ⟨(l, e) :: (t.erase l).entries⟩

/-- The tree without what is at a location and below it. -/
def prune (t : Tree) (l : Location) : Tree := ⟨t.entries.filter fun e => !l.isPrefixOf e.1⟩

/-- What is strictly below a location. -/
def below (t : Tree) (l : Location) : List (Location × Entry) :=
  t.entries.filter fun e => l.isPrefixOf e.1 && e.1 != l

/-- A number that no entry has. -/
def freshSerial (t : Tree) : Nat := t.entries.foldl (fun n e => max n (e.2.marks.serial + 1)) 1

/-- The tree with something new put at a location. -/
def create (t : Tree) (l : Location) (content : Content) (rights : Nat) (time : Int) : Tree :=
  t.put l ⟨content, ⟨rights, time, t.freshSerial⟩⟩

/-- The tree with a file changed, under each of its names. -/
def alter (t : Tree) (serial : Nat) (change : Entry → Entry) : Tree :=
  ⟨t.entries.map fun e => if e.2.marks.serial = serial then (e.1, change e.2) else e⟩

/-! ## Walks -/

/-- The greatest count of bytes of a name. -/
def nameLimit : Nat := 255

/-- The greatest count of links that a walk follows. -/
def linkLimit : Nat := 40

/-- One step from a location. An empty part and the part "here" stay in a directory. -/
def step (t : Tree) (l : Location) (part : String) : Except Refusal Location :=
  match t.content? l with
  | none => .error .noEntry
  | some (.file _) => .error .notDirectory
  | some (.link _) => .error .notDirectory
  | some .directory =>
    if part = "" ∨ part = Path.here then .ok l
    else if part = Path.up then .ok l.dropLast
    else if nameLimit < part.utf8ByteSize then .error .nameTooLong
    else .ok (l ++ [part])

/-- Where a walk has to stop: at its end, or in front of a link with parts left. -/
inductive Halt
  | arrived (l : Location)
  | met (directory : Location) (target : String) (parts : List String)

/-- The walk along parts up to the first link that is to be followed. A link at the very end is followed if
`follows`. -/
def advance (t : Tree) (follows : Bool) : Location → List String → Except Refusal Halt
  | l, [] => .ok (.arrived l)
  | l, part :: parts =>
    match t.step l part with
    | .error r => .error r
    | .ok next =>
      match t.content? next, parts.isEmpty && !follows with
      | some (.link target), false => .ok (.met l target parts)
      | _, _ => t.advance follows next parts

/-- The parts of the text of a link. -/
def partsOf (text : String) : List String := (Text.cut '/' text.toList).map String.ofList

/-- Where the text of a link starts from. -/
def startOf (directory : Location) (text : String) : Location := if text.front = '/' then [] else directory

/-- The location that parts lead to from another one, on which at most so many links are followed. Only the last part may
lead to nothing. -/
def walkAlong (t : Tree) (follows : Bool) : Nat → Location → List String → Except Refusal Location
  | links, l, parts =>
    match t.advance follows l parts with
    | .error r => .error r
    | .ok (.arrived k) => .ok k
    | .ok (.met directory target rest) =>
      match links with
      | 0 => .error .tooManyLinks
      | links + 1 => t.walkAlong follows links (startOf directory target) (partsOf target ++ rest)

/-- The location that parts lead to from another one. -/
def walk (t : Tree) (follows : Bool) (l : Location) (parts : List String) : Except Refusal Location :=
  t.walkAlong follows linkLimit l parts

/-! ## Resolving -/

/-- The location that parts lead to from another one, where what leads to nothing is taken by text alone. `opened` are the
links that are being followed; if one of them is met again, it is told with the parts that are left. -/
def resolveAlong (t : Tree) : Nat → List Location → Location → List String → Except (Location × List String) Location
  | _, _, l, [] => .ok l
  | links, opened, l, part :: parts =>
    if part = "" ∨ part = Path.here then t.resolveAlong links opened l parts
    else if part = Path.up then t.resolveAlong links opened l.dropLast parts
    else
      let next := l ++ [part]
      match t.content? next with
      | some (.link target) =>
        if links = 0 ∨ next ∈ opened then .error (next, parts)
        else
          match t.resolveAlong (links - 1) (next :: opened) (startOf l target) (partsOf target) with
          | .error (stuck, rest) => .error (stuck, rest ++ parts)
          | .ok k => t.resolveAlong links opened k parts
      | _ => t.resolveAlong links opened next parts
  termination_by links _ _ parts => (links, parts.length)

/-- The location that parts lead to from the top, as far as there is something, and by text alone from there on. -/
def resolve (t : Tree) (parts : List String) : Except (Location × List String) Location :=
  t.resolveAlong (t.entries.length + 1) [] [] parts

/-! ## What the operations do to the view `get?` -/

/-- An entry of a filtered table is found if its key passes the filter. -/
theorem lookup_filter {p : Location → Bool} (l : Location) (es : List (Location × Entry)) :
    (es.filter fun e => p e.1).lookup l = if p l then es.lookup l else none := by
  induction es with
  | nil => simp
  | cons e es ih =>
    obtain ⟨k, v⟩ := e
    by_cases hk : l = k
    · subst hk
      by_cases hp : p l <;> simp [hp, ih]
    · have hb : (l == k) = false := by simpa using hk
      by_cases hp : p k <;> simp [List.lookup_cons, hp, ih, hb]

/-- Erasing leaves nothing at the location. -/
theorem get?_erase_self {t : Tree} {l : Location} (h : l ≠ []) : (t.erase l).get? l = none := by
  simp [get?, erase, h, lookup_filter (p := fun k => !decide (k = l))]

/-- Erasing leaves every other location as it is. -/
theorem get?_erase_of_ne {t : Tree} {l k : Location} (h : k ≠ l) : (t.erase l).get? k = t.get? k := by
  simp [get?, erase, lookup_filter (p := fun k => !decide (k = l)), h]

/-- What is put at a location is there. -/
theorem get?_put_self {t : Tree} {l : Location} {e : Entry} (h : l ≠ []) : (t.put l e).get? l = some e := by
  simp [get?, put, h]

/-- Putting something leaves every other location as it is. -/
theorem get?_put_of_ne {t : Tree} {l k : Location} {e : Entry} (h : k ≠ l) : (t.put l e).get? k = t.get? k := by
  have hb : (k == l) = false := by simpa using h
  rw [← get?_erase_of_ne (t := t) h]
  simp [get?, put, List.lookup_cons, hb]

end Tree
end ElmAssay
