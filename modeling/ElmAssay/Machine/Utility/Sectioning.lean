import ElmAssay.Machine.Directive
import ElmAssay.Machine.Pieces
import ElmAssay.Machine.Regex.Reader
import ElmAssay.Machine.Utility.Basic

/-!
# The program that cuts files at marks

Writes the sections of a file to files of their own (`csplit`), and shows how long they are. If the file cannot be cut, the
files that were written are taken away again.
-/

/-!
## Sections of a text

A text is cut into sections at lines with a number, or at lines that match a pattern (`Sections.Mark`). A mark may be used
again, some times or as long as possible. The sections come in order, those that are passed over left out (`Sections.cut`).
-/

namespace ElmAssay.Machine.Sections

/-- Where a section ends: in front of a line with a number, or so many lines behind a line that matches a pattern. -/
inductive Target
  | line (n : Nat)
  | matching (r : Regex) (offset : Int) (isPassed : Bool)
  deriving DecidableEq, Repr

/-- A mark: its text, and how often it is used again, where none is as often as possible. -/
structure Mark where
  text : Octets
  target : Target
  again : Option Nat
  deriving DecidableEq, Repr

/-- Why a text cannot be cut. -/
inductive Defect
  | lineRange (text : Octets) (again : Nat)
  | noMatch (text : Octets) (again : Nat)
  | range (text : Octets)
  deriving DecidableEq, Repr

/-- Where a cutter is: the lines, the first one that is left, the one that was looked at last, and the sections, latest
first. -/
structure Place where
  lines : Array Octets
  first : Nat
  current : Nat
  done : List Octets

/-- What ends the cutting early: nothing is left to do, or a defect. -/
structure Halt where
  place : Place
  defect : Option Defect

/-- A step of a cutter. -/
abbrev Step := Except Halt Place

namespace Place

/-- Whether no line is left. -/
def isOver (p : Place) : Bool := p.lines.size < p.first

/-- The lines in front of one, with the place behind them. -/
def taken (p : Place) (stop : Nat) : Octets × Place :=
  let stop := min stop (p.lines.size + 1)
  (String.join (p.lines.extract (p.first - 1) (stop - 1)).toList,
    if p.first < stop then { p with first := stop, current := max p.current (stop - 1) } else p)

/-- The place with one more section. -/
def withSection (p : Place) (text : Octets) : Place := { p with done := text :: p.done }

/-- The place behind a section with the lines in front of one, unless it is passed over. -/
def upTo (p : Place) (isPassed : Bool) (stop : Nat) : Place :=
  let (text, p) := p.taken stop
  if isPassed then p else p.withSection text

/-- The place behind a section with all lines that are left, unless it is passed over. -/
def upToEnd (p : Place) (isPassed : Bool) : Place := p.upTo isPassed (p.lines.size + 1)

/-- The place without the next line. -/
def withoutNext (p : Place) : Place := (p.taken (p.first + 1)).2

/-- The first line from one on that matches. -/
def find? (p : Place) (r : Regex) (start : Nat) : Option Nat :=
  ((p.lines.toList.drop (start - 1)).findIdx? fun line =>
    let text := Octets.widen (String.ofList (Text.dropTrailing (· == '\n') line.toList))
    (r.find? ⟨false, false⟩ text.toArray 0).isSome).map (· + start)

end Place

/-- Uses a mark for the so many-th time. `isDropped` says that the line at which a section ends is left out. -/
def useMark (isDropped : Bool) (m : Mark) (again : Nat) (p : Place) : Step :=
  match m.target with
  | .line n =>
    let fail (p : Place) : Step := .error ⟨p, some (.lineRange m.text again)⟩
    let stop := n * (again + 1)
    if p.isOver && isDropped then fail (p.withSection "")
    else if p.lines.size + 1 < stop then fail (p.upToEnd false)
    else
      let p := p.upTo false stop
      if isDropped then .ok p.withoutNext
      else if p.isOver then fail p
      else .ok p
  | .matching r offset isPassed =>
    match p.find? r (p.current + 1) with
    | none =>
      if m.again.isNone then .error ⟨if isPassed then p else p.upToEnd false, none⟩
      else .error ⟨p.upToEnd isPassed, some (.noMatch m.text again)⟩
    | some found =>
      let stop : Int := (found : Int) + offset
      if stop < p.first then .error ⟨if isPassed then p else p.withSection "", some (.range m.text)⟩
      else if (p.lines.size : Int) + 1 < stop then .error ⟨p.upToEnd isPassed, some (.range m.text)⟩
      else
        let p := { p with current := found }.upTo isPassed stop.toNat
        let p := if 0 < offset then { p with current := stop.toNat } else p
        .ok (if isDropped then p.withoutNext else p)

/-- Uses a mark again and again. The fuel bounds how often. -/
def useAgain (isDropped : Bool) (m : Mark) : Nat → Nat → Place → Step
  | 0, _, p => .ok p
  | fuel + 1, again, p =>
    if m.again.any (· < again) then .ok p
    else do useAgain isDropped m fuel (again + 1) (← useMark isDropped m again p)

/-- The sections of a text, and why it cannot be cut any further if it cannot. -/
def cut (isDropped : Bool) (marks : List Mark) (s : Octets) : List Octets × Option Defect :=
  let lines := ((Pieces.linesWithEnds '\n' s.toList).map String.ofList).toArray
  let start : Place := { lines := lines, first := 1, current := 0, done := [] }
  match marks.foldlM (fun p m => useAgain isDropped m (lines.size + 2) 0 p) start with
  | .ok p => ((p.upToEnd false).done.reverse, none)
  | .error h => (h.place.done.reverse, h.defect)

end ElmAssay.Machine.Sections

/-! ## The program -/

namespace ElmAssay.Machine.Utility

open Work Sections

namespace Sectioning

/-- Reads how often a mark is used again. -/
def readAgain (text : Octets) : Work (Option Nat) := do
  let body := text.toList.drop 1
  if body.getLast? != some '\x7d' then
    let shown := Shown.marked text
    Work.fail 1 s!"{shown}: '\x7d' is required in repeat count"
  let digits := body.dropLast
  if digits = ['*'] then return none
  if digits.isEmpty || !digits.all (Numeral.isDigitIn 10) then
    let shown := Shown.marked (String.ofList ('\x7b' :: digits))
    Work.fail 1 s!"{shown}\x7d: integer required between '\x7b' and '\x7d'"
  return some (Numeral.valueIn 10 digits)

/-- Reads a mark that is a pattern between delimiters. -/
def readPattern (text : Octets) (delimiter : Char) (body : List Char) : Work Target := do
  let behind := (body.reverse.takeWhile (· != delimiter)).reverse
  if behind.length = body.length then
    Work.fail 1 s!"{text}: closing delimiter '{delimiter}' missing"
  let shown := Shown.marked text
  let offset : Int ←
    if behind.isEmpty then pure 0
    else
      match Size.readWhole behind with
      | .ok n => pure n
      | .error _ => Work.fail 1 s!"{shown}: integer expected after delimiter"
  match Regex.read ⟨false, false⟩ (Octets.widen (String.ofList (body.take (body.length - behind.length - 1)))) with
  | .ok r => return .matching r offset (delimiter == '%')
  | .error e => Work.fail 1 s!"{shown}: invalid regular expression: {e.message}"

/-- Reads a mark that is the number of a line behind another one. -/
def readLine (last : Nat) (text : Octets) : Work Nat := do
  let shown := Shown.marked text
  match Size.readWhole text.toList with
  | .error _ => Work.fail 1 s!"{shown}: invalid pattern"
  | .ok n =>
    if n < 0 then Work.fail 1 s!"{shown}: invalid pattern"
    if n = 0 then Work.fail 1 s!"{text}: line number must be greater than zero"
    if n < last then
      Work.fail 1 s!"line number {shown} is smaller than preceding line number, {last}"
    if n = last then warn s!"warning: line number {shown} is the same as preceding line number"
    return n.toNat

/-- Reads marks behind the number of a line. -/
def readTargets : Nat → List Octets → Work (List Sections.Mark)
  | _, [] => return []
  | last, text :: rest => do
    let (target, last) ←
      match text.toList with
      | '/' :: body => do pure (← readPattern text '/' body, last)
      | '%' :: body => do pure (← readPattern text '%' body, last)
      | _ => do
        let n ← readLine last text
        pure (.line n, n)
    match rest with
    | next :: others =>
      if next.startsWith "\x7b" then
        let again ← readAgain next
        return ⟨text, target, again⟩ :: (← readTargets last others)
      else return ⟨text, target, some 0⟩ :: (← readTargets last (next :: others))
    | [] => return [⟨text, target, some 0⟩]

/-- How numbers are laid out in names. -/
structure Ending where
  front : Octets
  directive : Directive
  letter : Char
  back : Octets

/-- The ending of a name with a number. -/
def Ending.write (e : Ending) (n : Nat) : Octets := e.front ++ e.directive.integer e.letter n ++ e.back

/-- Reads the front of an ending up to a directive, with what follows its mark. -/
def readFront : List Char → List Char × Option (List Char)
  | '%' :: '%' :: rest =>
    let (front, found) := readFront rest
    ('%' :: front, found)
  | '%' :: rest => ([], some rest)
  | c :: rest =>
    let (front, found) := readFront rest
    (c :: front, found)
  | [] => ([], none)

/-- Reads how numbers are laid out. -/
def readEnding (text : Octets) : Work Ending := do
  match readFront text.toList with
  | (_, none) => Work.fail 1 "missing % conversion specification in suffix"
  | (front, some rest) =>
    match Directive.read rest with
    | (_, []) => Work.fail 1 "missing conversion specifier in suffix"
    | (d, letter :: rest) =>
      if !(['d', 'i', 'u', 'o', 'x', 'X'].contains letter) then
        Work.fail 1 s!"invalid conversion specifier in suffix: {letter}"
      match readFront rest with
      | (_, some _) => Work.fail 1 "too many % conversion specifications in suffix"
      | (back, none) => return ⟨String.ofList front, d, letter, String.ofList back⟩

/-- The wording of a defect. -/
def message : Defect → Octets
  | .lineRange text again => Shown.marked text ++ ": line number out of range" ++ repetition again
  | .noMatch text again => Shown.marked text ++ ": match not found" ++ repetition again
  | .range text => Shown.marked text ++ ": line number out of range"
where
  /-- In which turn a defect was found, apart from the first one. -/
  repetition (again : Nat) : Octets := if again = 0 then "" else " on repetition " ++ Numeral.text again

/-- Writes sections to files, from the one with a number on. -/
def writeAll (nameOf : Nat → Octets) : Nat → List Octets → Work Unit
  | _, [] => return
  | n, s :: rest => do
    let path := nameOf n
    match ← lift (Routine.writeFile path .writing s) with
    | .ok _ => writeAll nameOf (n + 1) rest
    | .error r =>
      let shown := Shown.plain path
      Work.fail 1 s!"{shown}: {r.wording}"

/-- The options. -/
def switches : List Switch :=
  [.valued 'b' "suffix-format", .valued 'f' "prefix", .flag 'k' "keep-files", .named 'm' "suppress-matched" .nothing,
   .valued 'n' "digits", .flag 's' "silent", .flag 'q' "quiet", .flag 'z' "elide-empty-files"]

end Sectioning

open Sectioning in
/-- Cuts a file at marks. -/
def csplit : Utility := fun _ call => complete call.name do
  let o ← Arguments.read switches 1 call.arguments
  let digits ← ((o.value? 'n').mapM (Arguments.countWithin "invalid number" "" 0 (2 ^ 31 - 1)))
  match o.operands with
  | [] => failUsage 1 "missing operand"
  | [file] =>
    let shown := Shown.marked file
    failUsage 1 s!"missing operand after {shown}"
  | file :: texts =>
    let ending ← readEnding ((o.value? 'b').getD s!"%0{digits.getD 2}d")
    let nameOf (n : Nat) : Octets := (o.value? 'f').getD "xx" ++ ending.write n
    let data ←
      match ← readOperand file with
      | .ok data => pure data
      | .error .isDirectory => Work.fail 1 s!"read error: {Refusal.isDirectory.wording}"
      | .error r =>
        let shown := Shown.quoted file
        Work.fail 1 s!"cannot open {shown} for reading: {r.wording}"
    let marks ← readTargets 0 texts
    let (sections, defect) := Sections.cut (o.has 'm') marks data
    let sections := if o.has 'z' then sections.filter (!·.isEmpty) else sections
    if !o.has 's' && !o.has 'q' then
      for s in sections do
        putLine (Numeral.text s.length)
    if defect.isNone || o.has 'k' then writeAll nameOf 0 sections
    else
      for n in List.range sections.length do
        let _ ← ask (.removeFile (nameOf n))
    if let some d := defect then Work.fail 1 (message d)

end ElmAssay.Machine.Utility
