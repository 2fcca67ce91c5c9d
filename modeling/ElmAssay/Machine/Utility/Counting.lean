import ElmAssay.Machine.Columns
import ElmAssay.Machine.Regex.Reader
import ElmAssay.Machine.Utility.Reading

/-!
# Counting and numbering

Counts the lines, words, characters and bytes of files, and the columns of their longest lines (`wc`).

Lines are written with numbers in front of them (`nl`). A text has pages of a header, a body and a footer, each of which
starts behind a line of its own, and each has a style that says which lines are numbered (`NumberStyle`).
-/

namespace ElmAssay.Machine.Utility

open Text Work

/-! ## Counting -/

/-- What is counted of a file. -/
structure Counts where
  lines : Nat
  words : Nat
  chars : Nat
  bytes : Nat
  longest : Nat
  deriving DecidableEq, Repr

namespace Counts

/-- The sum of two counts, but for the longest line. -/
def add (a b : Counts) : Counts :=
  ⟨a.lines + b.lines, a.words + b.words, a.chars + b.chars, a.bytes + b.bytes, max a.longest b.longest⟩

/-- The count of words in a text, given whether a word is open. -/
def countWords : Bool → List Char → Nat
  | _, [] => 0
  | inWord, c :: cs =>
    if c.isWhitespace || c == '\x0b' || c == '\x0c' || (128 ≤ c.toNat && isBlank c) then countWords false cs
    else if c.toNat < 32 || c.toNat == 127 then countWords inWord cs
    else (if inWord then 0 else 1) + countWords true cs

/-- The columns of the longest line, where tabs go to the next column that eight divides. -/
def longestLine (cs : List Char) : Nat :=
  let step (acc : Nat × Nat) (c : Char) : Nat × Nat :=
    let (longest, n) := acc
    if c = '\n' ∨ c = '\r' ∨ c = '\x0c' then (max longest n, 0)
    else if c = '\t' then (longest, (n / 8 + 1) * 8)
    else (longest, n + Columns.ofChar c)
  let (longest, n) := cs.foldl step (0, 0)
  max longest n

/-- What there is to count in a text. -/
def ofText (s : Octets) : Counts :=
  let cs := Octets.widen s
  { lines := s.toList.count '\n', words := countWords false cs
    chars := (cs.filter fun c => c.toNat < Octets.strayBase).length, bytes := s.length
    longest := longestLine cs }

/-- The counts that options ask for, in their order. -/
def chosen (keys : List Char) (c : Counts) : List Nat :=
  [('l', c.lines), ('w', c.words), ('m', c.chars), ('c', c.bytes), ('L', c.longest)].filterMap fun p =>
    if keys.contains p.1 then some p.2 else none

/-- A line of counts. -/
def line (width : Nat) (keys : List Char) (name : Octets) (c : Counts) : Octets :=
  " ".intercalate ((c.chosen keys).map fun n => Numeral.padLeft ' ' width (Numeral.text n)) ++
    (if name.isEmpty then "" else " " ++ name) ++ "\n"

end Counts

/-- The width of the numbers for some files. -/
def countWidth (keys : List Char) (paths : List Octets) : Work Nat := do
  if paths.length ≤ 1 && keys.length = 1 then return 1
  let mut least := 1
  let mut total := 0
  for path in orInput paths do
    match ← (if path = "-" then ask (.infoOf 0) else ask (.info path true)) with
    | .ok i => if i.isFile then total := total + i.size else least := 7
    | .error _ => pure ()
  return max least (Numeral.text total).length

/-- The paths that a file holds, each with its place there. -/
def pathsIn (path : Octets) : Work (List Octets) := do
  match ← readOperand path with
  | .ok data => return partsBy '\x00' data
  | .error r =>
    let shown := Shown.quoted path
    Work.fail 1 s!"cannot open {shown} for reading: {r.wording}"

/-- Counts lines, words and bytes. -/
def wc : Utility := fun _ call => complete call.name do
  let options ← Arguments.read
    [.flag 'l' "lines", .flag 'w' "words", .flag 'c' "bytes", .flag 'm' "chars", .flag 'L' "max-line-length",
     .named 'F' "files0-from" .value] 1 call.arguments
  let chosen := ['l', 'w', 'c', 'm', 'L'].filter options.has
  let keys := if chosen.isEmpty then ['l', 'w', 'c'] else chosen
  let list := options.value? 'F'
  if list.isSome then
    if let extra :: _ := options.operands then
      let shown := Shown.quoted extra
      warn s!"extra operand {shown}"
      failWith "file operands cannot be combined with --files0-from"
  let paths ←
    match list with
    | some file => pathsIn file
    | none => pure options.operands
  let isPlain := list.isNone && paths.isEmpty
  let width ← if list = some "-" then pure 1 else countWidth keys paths
  let mut total : Counts := ⟨0, 0, 0, 0, 0⟩
  for path in if isPlain then ["-"] else paths do
    let name := if isPlain then "" else path
    match ← readOperand path with
    | .ok data =>
      let counts := Counts.ofText data
      put (counts.line width keys name)
      total := total.add counts
    | .error r =>
      complain (aboutFile path r.wording)
      if r = .isDirectory then put (Counts.line width keys name ⟨0, 0, 0, 0, 0⟩)
  if 1 < paths.length then put (total.line width keys "total")
where
  /-- Ends the utility with a line and the note where to read more. -/
  failWith (line : Octets) : Work Unit := do
    let name := (← get).name
    say s!"{line}\nTry '{name} --help' for more information.\n"
    quit 1

/-! ## Numbering -/

/-- Which lines are numbered. -/
inductive NumberStyle
  | all
  | filled
  | none
  | matching (r : Regex)

/-- How numbers are written. -/
inductive NumberLayout
  | left
  | right
  | zeros
  deriving DecidableEq, Repr

/-- How lines are numbered. -/
structure Numbering where
  header : NumberStyle
  body : NumberStyle
  footer : NumberStyle
  layout : NumberLayout
  width : Nat
  separator : Octets
  start : Int
  step : Int
  /-- How many empty lines count as one. -/
  blanks : Nat
  mark : Octets
  keepsOn : Bool

/-- The text of a number. -/
def Numbering.number (o : Numbering) (n : Int) : Octets :=
  match o.layout with
  | .left => Numeral.padRight ' ' o.width (Numeral.signedText n)
  | .right => Numeral.padLeft ' ' o.width (Numeral.signedText n)
  | .zeros =>
    if n < 0 then "-" ++ Numeral.padLeft '0' (o.width - 1) (Numeral.text n.natAbs)
    else Numeral.padLeft '0' o.width (Numeral.text n.natAbs)

/-- The style of the page part that a line starts, if it starts one. -/
def Numbering.sectionOf? (o : Numbering) (line : Octets) : Option NumberStyle :=
  if o.mark.length < 2 then none
  else if line = o.mark ++ o.mark ++ o.mark then some o.header
  else if line = o.mark ++ o.mark then some o.body
  else if line = o.mark then some o.footer
  else none

/-- Where numbering stands: the next number, the style, and the count of empty lines since the last number. -/
structure NumberPlace where
  next : Int
  style : NumberStyle
  blanks : Nat

/-- A line with its number, if it gets one. -/
def Numbering.write (o : Numbering) (p : NumberPlace) (line : Octets) : NumberPlace × Octets :=
  match o.sectionOf? line with
  | some style => ({ p with style := style, next := if o.keepsOn then p.next else o.start }, "\n")
  | none =>
    let blanks := if line.isEmpty then p.blanks + 1 else p.blanks
    let isNumbered :=
      match p.style with
      | .all => o.blanks ≤ 1 || !line.isEmpty || blanks = o.blanks
      | .filled => !line.isEmpty
      | .none => false
      | .matching r => (r.find? ⟨false, false⟩ (Octets.widen line).toArray 0).isSome
    let p := { p with blanks := if isNumbered then 0 else blanks }
    if isNumbered then ({ p with next := p.next + o.step }, o.number p.next ++ o.separator ++ line ++ "\n")
    else (p, String.ofList (List.replicate (o.width + o.separator.length) ' ') ++ line ++ "\n")

/-- The style that a text writes; a message if it is none. -/
def numberStyle? (text : Octets) : Except Octets (Option NumberStyle) :=
  match text.toList with
  | ['a'] => .ok (some .all)
  | ['t'] => .ok (some .filled)
  | ['n'] => .ok (some .none)
  | 'p' :: cs =>
    match Regex.read ⟨false, false⟩ (Octets.widen (String.ofList cs)) with
    | .ok r => .ok (some (.matching r))
    | .error e => .error e.message
  | _ => .ok none

/-- The options for numbering. -/
def numberingSwitches : List Switch :=
  [.valued 'b' "body-numbering", .valued 'd' "section-delimiter", .valued 'f' "footer-numbering",
   .valued 'h' "header-numbering", .valued 'i' "line-increment", .valued 'l' "join-blank-lines",
   .valued 'n' "number-format", .flag 'p' "no-renumber", .valued 's' "number-separator",
   .valued 'v' "starting-line-number", .valued 'w' "number-width"]

/-- How lines are numbered by options. -/
def readNumbering (options : Arguments) : Work Numbering := do
  let mut o : Numbering := ⟨.none, .filled, .none, .right, 6, "\t", 1, 1, 1, "\\:", options.has 'p'⟩
  let mut isWrong := false
  for (key, value) in options.options do
    let text := value.getD ""
    let shown := Shown.marked text
    if key = 'b' || key = 'h' || key = 'f' then
      match numberStyle? text with
      | .error message => Work.fail 1 message
      | .ok (some style) =>
        o := if key = 'b' then { o with body := style } else if key = 'h' then { o with header := style }
          else { o with footer := style }
      | .ok none =>
        let what := if key = 'b' then "body" else if key = 'h' then "header" else "footer"
        warn s!"invalid {what} numbering style: {shown}"
        isWrong := true
    else if key = 'n' then
      match text with
      | "ln" => o := { o with layout := .left }
      | "rn" => o := { o with layout := .right }
      | "rz" => o := { o with layout := .zeros }
      | _ =>
        warn s!"invalid line numbering format: {shown}"
        isWrong := true
    else if key = 'v' then
      let n ← Arguments.wholeOf "invalid starting line number" text
      o := { o with start := n }
    else if key = 'i' then
      let n ← Arguments.wholeOf "invalid line number increment" text
      o := { o with step := n }
    else if key = 'l' then
      let n ← Arguments.countWithin "invalid line number of blank lines" "" 0 (2 ^ 63) text
      o := { o with blanks := n }
    else if key = 'w' then
      let n ← Arguments.countWithin "invalid line number field width" "" 1 (2 ^ 31 - 1) text
      o := { o with width := n }
    else if key = 's' then o := { o with separator := text }
    else if key = 'd' then
      o := { o with mark := if text.length = 1 then text ++ String.ofList (o.mark.toList.drop 1) else text }
  if isWrong then
    let name := (← get).name
    say s!"Try '{name} --help' for more information.\n"
    quit 1
  return o

/-- Writes files with numbers before their lines. -/
def nl : Utility := fun _ call => complete call.name do
  let options ← Arguments.read numberingSwitches 1 call.arguments
  let o ← readNumbering options
  let mut place : NumberPlace := ⟨o.start, o.body, 0⟩
  for path in orInput options.operands do
    match ← readInput? path with
    | none => pure ()
    | some data =>
      for line in linesOf data do
        let (next, text) := o.write place line
        put text
        place := next

end ElmAssay.Machine.Utility
