import ElmAssay.Machine.Utility.Reading

/-!
# Dumps

Shows the bytes of files as numbers and characters (`od`), in rows of blocks. Each row starts with the place of its first
byte, and has a line for each of the forms that are asked for (`Form`); rows that repeat the one before are left out.
-/

namespace ElmAssay.Machine.Utility

open Text Work

namespace Dump

/-- How a group of bytes is shown. -/
inductive Shape
  | octal
  | hex
  | signed
  | unsigned
  | escaped
  | named
  deriving DecidableEq, Repr

/-- A form: a shape, the count of bytes in a group, and whether the characters stand behind the line. -/
structure Form where
  shape : Shape
  size : Nat
  hasText : Bool
  deriving DecidableEq, Repr

/-- The count of digits that every number of so many bits can be written with. -/
def digitCount (base bits : Nat) : Nat := (Numeral.digitsIn base (2 ^ bits - 1)).length

/-- The width of a group, without the space before it. -/
def Form.width (f : Form) : Nat :=
  match f.shape with
  | .octal => digitCount 8 (8 * f.size)
  | .hex => 2 * f.size
  | .unsigned => digitCount 10 (8 * f.size)
  | .signed => digitCount 10 (8 * f.size - 1) + 1
  | .escaped => 3
  | .named => 3

/-- The number that bytes make, where the first one counts least. -/
def valueOf (bytes : List Char) : Nat := bytes.foldr (fun c n => 256 * n + c.toNat % 256) 0

/-- A byte as a character, an escape or three octal digits. -/
def escapedByte (c : Char) : Octets :=
  match c.toNat with
  | 0 => "\\0"
  | 7 => "\\a"
  | 8 => "\\b"
  | 9 => "\\t"
  | 10 => "\\n"
  | 11 => "\\v"
  | 12 => "\\f"
  | 13 => "\\r"
  | n => if 32 ≤ n && n < 127 then String.singleton c else String.ofList (Shown.octal n)

/-- The names of the bytes that control something. -/
def controlNames : List String :=
  ["nul", "soh", "stx", "etx", "eot", "enq", "ack", "bel", "bs", "ht", "nl", "vt", "ff", "cr", "so", "si", "dle", "dc1",
   "dc2", "dc3", "dc4", "nak", "syn", "etb", "can", "em", "sub", "esc", "fs", "gs", "rs", "us", "sp"]

/-- A byte by its name, without its highest bit. -/
def namedByte (c : Char) : Octets :=
  let n := c.toNat % 128
  if n = 127 then "del" else controlNames.getD n (String.singleton (Char.ofNat n))

/-- A group of bytes as it is shown. -/
def Form.shown (f : Form) (bytes : List Char) : Octets :=
  let n := valueOf bytes
  let inBase (base : Nat) : Octets := Numeral.padLeft '0' f.width (String.ofList (Numeral.digitsIn base n))
  match f.shape with
  | .octal => inBase 8
  | .hex => inBase 16
  | .unsigned => Numeral.text n
  | .signed => Numeral.signedText ((n : Int).bmod (2 ^ (8 * f.size)))
  | .escaped => escapedByte (bytes.headD '\x00')
  | .named => namedByte (bytes.headD '\x00')

/-- The groups of some bytes. The fuel bounds their count. -/
def groupsOf (size : Nat) : Nat → List Char → List (List Char)
  | 0, _ => []
  | fuel + 1, bytes => if bytes.isEmpty then [] else bytes.take size :: groupsOf size fuel (bytes.drop size)

/-- A line of groups. So many groups fit into a line, and `spare` is the width that they leave of it; it goes to the
groups from the back on. -/
def lineOf (f : Form) (fields spare : Nat) : Nat → List (List Char) → Octets
  | _, [] => ""
  | n, g :: gs =>
    let before := spare * (fields - n) / fields
    let after := spare * (fields - n - 1) / fields
    " " ++ Numeral.padLeft ' ' (f.width + (before - after)) (f.shown g) ++ lineOf f fields spare (n + 1) gs

/-- The characters of a row, with points for those that cannot be shown. -/
def textOf (bytes : List Char) : Octets :=
  String.ofList (bytes.map fun c => if 32 ≤ c.toNat && c.toNat < 127 then c else '.')

/-- How a dump is made. -/
structure Layout where
  forms : List Form
  rowSize : Nat
  /-- The base of places and their least count of digits; without it no places are shown. -/
  radix : Option (Nat × Nat)
  showsAll : Bool

/-- The place of a byte. -/
def Layout.place (l : Layout) (n : Nat) : Octets :=
  match l.radix with
  | some (base, digits) => Numeral.padLeft '0' digits (String.ofList (Numeral.digitsIn base n))
  | none => ""

/-- The width of a row. -/
def Layout.width (l : Layout) : Nat := (l.forms.map fun f => (f.width + 1) * (l.rowSize / f.size)).foldl max 0

/-- The lines of a row. -/
def Layout.row (l : Layout) (place : Nat) (bytes : List Char) : Octets :=
  let front := l.place place
  String.join <| (l.forms.zipIdx).map fun (f, n) =>
    let fields := l.rowSize / f.size
    let spare := l.width - (f.width + 1) * fields
    let line := lineOf f fields spare 0 (groupsOf f.size (bytes.length + 1) bytes)
    let line := if f.hasText then Numeral.padRight ' ' l.width line ++ "  >" ++ textOf bytes ++ "<" else line
    (if n = 0 then front else Numeral.padLeft ' ' front.length "") ++ line ++ "\n"

/-- The rows of a dump. `last` is the row before, and `isRepeated` says that rows were left out already. The fuel bounds
the rows. -/
def Layout.rows (l : Layout) : Nat → Nat → List Char → Option (List Char) → Bool → List Octets
  | 0, _, _, _, _ => []
  | fuel + 1, place, bytes, last, isRepeated =>
    if bytes.isEmpty then (if l.radix.isSome then [l.place place ++ "\n"] else [])
    else
      let row := bytes.take l.rowSize
      let rest := bytes.drop l.rowSize
      let next := place + row.length
      if !l.showsAll && row.length = l.rowSize && last == some row then
        (if isRepeated then [] else ["*\n"]) ++ l.rows fuel next rest last true
      else l.row place row :: l.rows fuel next rest (some row) false

/-! ## The program -/

/-- The count of bytes that the letters or digits behind a shape stand for, with what follows. -/
def sizeOf? (s : List Char) : Option (Nat × List Char) :=
  match s with
  | 'C' :: rest => some (1, rest)
  | 'S' :: rest => some (2, rest)
  | 'I' :: rest => some (4, rest)
  | 'L' :: rest => some (8, rest)
  | s =>
    let (digits, rest) := Number.spanDigits s
    if digits.isEmpty then some (4, rest)
    else
      let n := Number.digitsValue digits
      if [1, 2, 4, 8].contains n then some (n, rest) else none

/-- The forms that a text asks for, or what is wrong with it. The fuel bounds their count. -/
def formsOf (all : Octets) : Nat → List Char → Except Octets (List Form)
  | 0, _ => .ok []
  | _, [] => .ok []
  | fuel + 1, c :: cs =>
    let shape : Option (Shape × Bool) :=
      match c with
      | 'o' => some (.octal, true)
      | 'x' => some (.hex, true)
      | 'd' => some (.signed, true)
      | 'u' => some (.unsigned, true)
      | 'c' => some (.escaped, false)
      | 'a' => some (.named, false)
      | _ => none
    let shown := Shown.marked all
    match shape with
    | none => .error s!"invalid character '{c}' in type string {shown}"
    | some (shape, isSized) =>
      match if isSized then sizeOf? cs else some (1, cs) with
      | none =>
        let size := (Number.spanDigits cs).1
        let digits := String.ofList size
        .error s!"invalid type string {shown};\nthis system doesn't provide a {digits}-byte integral type"
      | some (size, rest) =>
        let hasText := rest.head? == some 'z'
        (formsOf all fuel (if hasText then rest.drop 1 else rest)).map (⟨shape, size, hasText⟩ :: ·)

/-- The form that a letter stands for. -/
def form? : Char → Option Form
  | 'a' => some ⟨.named, 1, false⟩
  | 'b' => some ⟨.octal, 1, false⟩
  | 'c' => some ⟨.escaped, 1, false⟩
  | 'd' => some ⟨.unsigned, 2, false⟩
  | 'i' => some ⟨.signed, 4, false⟩
  | 'l' => some ⟨.signed, 8, false⟩
  | 'o' => some ⟨.octal, 2, false⟩
  | 's' => some ⟨.signed, 2, false⟩
  | 'x' => some ⟨.hex, 2, false⟩
  | _ => none

/-- The forms that options ask for, in their order. -/
def readForms (options : Arguments) : Work (List Form) := do
  let mut forms : List Form := []
  for (key, value) in options.options do
    match form? key, key, value with
    | some f, _, _ => forms := forms ++ [f]
    | none, 't', some text =>
      match formsOf text (text.length + 1) text.toList with
      | .ok fs => forms := forms ++ fs
      | .error message => fail 1 message
    | _, _, _ => pure ()
  return if forms.isEmpty then [⟨.octal, 2, false⟩] else forms

/-- The count that an option gives. -/
def readCount (options : Arguments) (key : Char) : Work (Option Nat) := do
  match options.value? key with
  | none => return none
  | some text =>
    match Size.read? "bEGKkMmPQRTYZ0" text.toList with
    | some n => return some n
    | none =>
      let shown := Shown.marked text
      fail 1 s!"invalid -{key} argument {shown}"

/-- How places are shown. -/
def readRadix (options : Arguments) : Work (Option (Nat × Nat)) := do
  match (options.value? 'A').getD "o" with
  | "o" => return some (8, 7)
  | "d" => return some (10, 7)
  | "x" => return some (16, 6)
  | "n" => return none
  | text =>
    let first := String.ofList (text.toList.take 1)
    fail 1 s!"invalid output address radix '{first}'; it must be one character from [doxn]"

end Dump

/-- Shows the bytes of files. -/
def od : Utility := fun _ call => complete call.name do
  let options ← Arguments.read
    ([.valued 'A' "address-radix", .valued 'j' "skip-bytes", .valued 'N' "read-bytes", .valued 't' "format",
      .flag 'v' "output-duplicates", .valued 'w' "", .named 'w' "width" .attached] ++
      "abcdilosx".toList.map fun c => .flag c "") 1 call.arguments
  let forms ← Dump.readForms options
  let radix ← Dump.readRadix options
  let skipped ← Dump.readCount options 'j'
  let limit ← Dump.readCount options 'N'
  let width ← Dump.readCount options 'w'
  let mut bytes : List Char := []
  for path in orInput options.operands do
    match ← readInput? path with
    | some data => bytes := bytes ++ data.toList
    | none => pure ()
  let start := skipped.getD 0
  if bytes.length < start then fail 1 "cannot skip past end of combined input"
  let shown := limit.elim (bytes.drop start) (bytes.drop start).take
  let rowSize := width.getD (if options.has 'w' then 32 else 16)
  let l : Dump.Layout := ⟨forms, max 1 rowSize, radix, options.has 'v'⟩
  if (← get).status = 0 || !shown.isEmpty then
    for row in l.rows (shown.length + 2) start shown none false do put row

end ElmAssay.Machine.Utility
