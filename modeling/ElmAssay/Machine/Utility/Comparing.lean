import ElmAssay.Machine.Numeral
import ElmAssay.Machine.Utility.Difference

/-!
# The program that compares bytes

Finds the first place where two files differ, or all such places (`cmp`). Places are counted from where the comparison
starts, which may be behind the front of a file.
-/

namespace ElmAssay.Machine.Utility

open Work

namespace Comparing

/-- A place between two bytes: the count of bytes before it, the count of line ends among them, and whether it is at the
start of a line. -/
structure Place where
  bytes : Nat
  lines : Nat
  startsLine : Bool
  deriving DecidableEq, Repr

/-- The place behind one more byte. -/
def Place.behind (p : Place) (c : Char) : Place :=
  ⟨p.bytes + 1, if c = '\n' then p.lines + 1 else p.lines, c == '\n'⟩

/-- The place where two texts differ first, with the bytes there, or where the shorter one ends. -/
def firstDifference (p : Place) : List Char → List Char → Place × Option (Char × Char)
  | a :: left, b :: right => if a = b then firstDifference (p.behind a) left right else (p, some (a, b))
  | _, _ => (p, none)

/-- A byte in octal. -/
def octal (c : Char) : Octets := Numeral.padLeft ' ' 3 (String.ofList (Numeral.digitsIn 8 c.toNat))

/-- A byte as something that can be seen. -/
def visible (c : Char) : Octets :=
  let low (n : Nat) : Octets :=
    if n < 32 then "^" ++ (Char.ofNat (n + 64)).toString else if n = 127 then "^?" else (Char.ofNat n).toString
  if 128 ≤ c.toNat then "M-" ++ low (c.toNat - 128) else low c.toNat

/-- A row for each place where two texts differ, from a place on. -/
def allDifferences (width : Nat) (showsBytes : Bool) : Nat → List Char → List Char → List Octets
  | n, a :: left, b :: right =>
    let rest := allDifferences width showsBytes (n + 1) left right
    let number := Numeral.padLeft ' ' width (Numeral.text n)
    if a = b then rest
    else if showsBytes then
      (s!"{number} " ++ octal a ++ " " ++ Numeral.padRight ' ' 4 (visible a) ++ " " ++ octal b ++ " " ++ visible b ++ "\n")
        :: rest
    else (s!"{number} " ++ octal a ++ " " ++ octal b ++ "\n") :: rest
  | _, _, _ => []

/-- What is told. -/
inductive Telling
  | first
  | all
  | nothing
  /-- Only where a file ends before the other one. -/
  | ends
  deriving DecidableEq, Repr

/-- Tells of a file that ends before the other one. -/
def tellOfEnd (telling : Telling) (path : Octets) (p : Place) : Work Unit := do
  let bytes := p.bytes
  let place :=
    if bytes = 0 then "which is empty"
    else if telling != .first then s!"after byte {bytes}"
    else
      let lines := if p.startsLine then p.lines else p.lines + 1
      if p.startsLine then s!"after byte {bytes}, line {lines}" else s!"after byte {bytes}, in line {lines}"
  say s!"cmp: EOF on {path} {place}\n"

/-- A size at the front of a text, which may be in a base that its own front shows. -/
def size? (text : Octets) : Option Nat :=
  let cs := text.toList
  let allowed := "kKMGTPEZY0"
  let r := Numeral.read none cs
  if r.found && 0 ≤ r.value then (Size.factor? allowed r.rest).map (r.value.toNat * ·) else Size.read? allowed cs

/-- The counts of bytes at the fronts that are passed over, with what one more text says of them. -/
def readFronts (old : Nat × Nat) (text : Octets) : Work (Nat × Nat) := do
  let invalid {α : Type} (part : Octets) : Work α := Comparison.refuseCall s!"invalid --ignore-initial value '{part}'"
  match text.splitOn ":" with
  | [whole] =>
    match size? whole with
    | some n =>
      let left := max old.1 n
      return (left, max old.2 left)
    | none => invalid text
  | first :: rest =>
    let second := ":".intercalate rest
    match size? first, size? second with
    | some m, some n => return (max old.1 m, max old.2 n)
    | none, _ => invalid text
    | _, none => invalid second
  | [] => return old

/-- Whether messages are those of a language, and not the plain ones. -/
def hasLanguage (environment : List (Octets × Octets)) : Bool :=
  let given := ["LC_ALL", "LC_MESSAGES", "LANG"].filterMap fun name => environment.lookup name
  ["C.UTF-8", "C.utf8"].contains ((given.find? (!·.isEmpty)).getD "C")

/-- What options have said so far: what is told, the fronts that are passed over, and the count of bytes to compare. -/
structure Draft where
  telling : Option Telling
  fronts : Nat × Nat
  limit : Option Nat

/-- Takes an option. -/
def Draft.take (d : Draft) (option : Char × Option Octets) : Work Draft := do
  let text := option.2.getD ""
  let tells (t : Telling) : Work Draft :=
    if d.telling.any (· != t) then Comparison.refuseCall "options -l and -s are incompatible"
    else return { d with telling := some t }
  if option.1 = 'l' then tells .all
  else if option.1 = 's' then tells .nothing
  else if option.1 = 'i' then return { d with fronts := ← readFronts d.fronts text }
  else if option.1 = 'n' then
    match size? text with
    | some n => return { d with limit := some (d.limit.elim n (min n)) }
    | none => Comparison.refuseCall s!"invalid --bytes value '{text}'"
  else return d

/-- A file that is compared: its name, its text behind its front, and whether it is a plain one. -/
structure Subject where
  name : Octets
  text : List Char
  isPlain : Bool

/-- Reads a file behind its front. -/
def readSubject (telling : Telling) (name : Octets) (front : Nat) : Work Subject := do
  let info ← if name = "-" then ask (.infoOf 0) else look name
  match ← readOperand name with
  | .ok s => return ⟨name, s.toList.drop front, info.toOption.any (·.isFile)⟩
  | .error r => if telling = .nothing && r != .isDirectory then quit 2 else Work.fail 2 s!"{name}: {r.wording}"

/-- Compares two files. -/
def compare (telling : Telling) (showsBytes hasLanguage : Bool) (limit : Option Nat) (left right : Subject) : Work Unit := do
  let cut (s : Subject) : List Char := limit.elim s.text s.text.take
  let a := cut left
  let b := cut right
  let (p, found) := firstDifference ⟨0, 0, true⟩ a b
  let bytes := p.bytes + 1
  let lines := p.lines + 1
  match found with
  | some (x, y) =>
    raiseStatus 1
    match telling with
    | .all =>
      let sizes := [left, right].filterMap fun s => if s.isPlain then some s.text.length else none
      let greatest := sizes.foldl min ((limit.getD (2 ^ 63 - 1)).min (2 ^ 63 - 1))
      (allDifferences (Numeral.text greatest).length showsBytes 1 a b).forM put
    | .first =>
      if showsBytes then
        put (s!"{left.name} {right.name} differ: byte {bytes}, line {lines} is " ++ octal x ++ " " ++ visible x ++ " " ++
          octal y ++ " " ++ visible y ++ "\n")
      else
        let unit := if hasLanguage then "byte" else "char"
        put s!"{left.name} {right.name} differ: {unit} {bytes}, line {lines}\n"
    | _ => pure ()
  | none => pure ()
  if a.length != b.length then
    raiseStatus 1
    if telling = .all || (found.isNone && telling != .nothing) then
      let (path, text) := if a.length < b.length then (left.name, a) else (right.name, b)
      tellOfEnd telling path (text.foldl Place.behind ⟨0, 0, true⟩)

end Comparing

/-- Finds the first place where two files differ. -/
def cmp : Utility := fun _ call => complete call.name do
  let options ← Comparison.readCall
    [.flag 's' "quiet", .named 's' "silent" .nothing, .flag 'l' "verbose", .flag 'b' "print-bytes",
     .flag 'c' "print-chars", .valued 'n' "bytes", .valued 'i' "ignore-initial"] call.arguments
  let d ← options.options.foldlM Comparing.Draft.take ⟨none, (0, 0), none⟩
  let last := (call.arguments.getLast?).getD call.name
  match options.operands with
  | [] => Comparison.refuseCall s!"missing operand after '{last}'"
  | left :: rest =>
    let right := (rest.head?).getD "-"
    let front (n least : Nat) : Work Nat := do
      match rest[n]? with
      | none => return least
      | some text =>
        match Comparing.size? text with
        | some n => return max least n
        | none => Comparison.refuseCall s!"invalid --ignore-initial value '{text}'"
    let leftFront ← front 1 d.fronts.1
    let rightFront ← front 2 d.fronts.2
    match rest[3]? with
    | some extra => Comparison.refuseCall s!"extra operand '{extra}'"
    | none => pure ()
    let output ← ask (.infoOf 1)
    let isLost := output.toOption.any fun i => i.kind == .device
    let telling := d.telling.getD .first
    let telling := if isLost && telling != .nothing then .ends else telling
    let showsBytes := options.has 'b' || options.has 'c'
    let hasLanguage := Comparing.hasLanguage call.environment
    if left = right && leftFront = rightFront then
      let info ← if left = "-" then ask (.infoOf 0) else look left
      if !info.toOption.any (·.isDirectory) then
        let _ ← Comparing.readSubject telling left leftFront
    else if right = "-" then
      let b ← Comparing.readSubject telling right rightFront
      let a ← Comparing.readSubject telling left leftFront
      Comparing.compare telling showsBytes hasLanguage d.limit a b
    else
      let a ← Comparing.readSubject telling left leftFront
      let b ← Comparing.readSubject telling right rightFront
      Comparing.compare telling showsBytes hasLanguage d.limit a b

end ElmAssay.Machine.Utility
