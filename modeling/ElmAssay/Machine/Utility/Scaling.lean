import ElmAssay.Machine.Columns
import ElmAssay.Machine.Directive
import ElmAssay.Machine.Scale
import ElmAssay.Machine.Utility.Lines

/-!
# The program that scales numbers

Writes numbers in lines with letters for powers, or without them (`numfmt`). A format says what stands around a number and
how wide it is (`NumberFormat`).
-/

namespace ElmAssay.Machine.Utility

open Text Work

namespace Scaling

/-- What stands around a number, and how it is filled up. -/
structure NumberFormat where
  front : Octets
  back : Octets
  /-- The width, which is filled with blanks on the right if it is below zero. -/
  width : Int
  zeroWidth : Nat
  places : Option Nat
  deriving DecidableEq, Repr

/-- The count of characters in front of the directive of a format, where a doubled sign counts once; `none` if there is no
directive. The answer has what follows the sign. -/
def frontOf : List Char → Option (Nat × List Char)
  | [] => none
  | '%' :: '%' :: s => (frontOf s).map fun p => (p.1 + 1, p.2)
  | '%' :: s => some (0, s)
  | _ :: s => (frontOf s).map fun p => (p.1 + 1, p.2)

/-- Whether a format goes on with one more directive. -/
def hasDirective : List Char → Bool
  | [] => false
  | '%' :: '%' :: s => hasDirective s
  | '%' :: _ => true
  | _ :: s => hasDirective s

/-- Passes over the flags of a directive: whether zeros fill the number, whether digits are put in groups, and what
follows. -/
def flagsOf : Bool → Bool → List Char → Bool × Bool × List Char
  | zeros, groups, ' ' :: s => flagsOf zeros groups s
  | zeros, _, '\'' :: s => flagsOf zeros true s
  | _, groups, '0' :: s => flagsOf true groups s
  | zeros, groups, s => (zeros, groups, s)

/-- Reads a format. -/
def readFormat (width : Int) (text : Octets) : Work NumberFormat := do
  let whole := Shown.marked text
  match frontOf text.toList with
  | none => Work.fail 1 s!"format {whole} has no % directive"
  | some (count, s) =>
    let (hasZeros, _, s) := flagsOf false false s
    let (isNegative, body) := Number.takeSign s
    let (ds, behind) := Number.spanDigits body
    let n := Number.digitsValue ds
    if 2 ^ 63 ≤ n then Work.fail 1 s!"invalid format {whole} (width overflow)"
    let s := if ds.isEmpty then s else behind
    let (width, zeroWidth) : Int × Nat :=
      if n = 0 then (width, 0) else if isNegative then (-n, 0) else if hasZeros then (width, n) else (n, 0)
    let (places, s) ←
      match s with
      | [] => Work.fail 1 s!"format {whole} ends in %"
      | '.' :: s =>
        let (isNegative, body) := Number.takeSign s
        let (ds, rest) := Number.spanDigits body
        let isBad := s.head?.any fun c => c = ' ' || c = '\t' || c = '+'
        if isBad || (isNegative && 0 < Number.digitsValue ds) || 2 ^ 63 ≤ Number.digitsValue ds then
          Work.fail 1 s!"invalid precision in format {whole}"
        else pure (some (Number.digitsValue ds), if ds.isEmpty then s else rest)
      | s => pure (none, s)
    match s with
    | 'f' :: back =>
      if hasDirective back then Work.fail 1 s!"format {whole} has too many % directives"
      return ⟨String.ofList (text.toList.take count), String.ofList back, width, zeroWidth, places⟩
    | _ => Work.fail 1 s!"invalid format {whole}, directive must be %[0]['][-][N][.][N]f"

/-- What becomes of a text that is no number. -/
inductive Strictness
  | abort
  | fail
  | warn
  | ignore
  deriving DecidableEq, Repr

/-- How numbers are changed. -/
structure Change where
  source : Scale
  target : Scale
  sourceUnit : Nat
  targetUnit : Nat
  rounding : Rounding
  format : NumberFormat
  isAutomatic : Bool
  ending : Octets
  delimiter : Option Char
  fields : List Span
  strictness : Strictness
  isTalkative : Bool

/-- Tells that a text is no number, which may end the program. -/
def reject (c : Change) (message : Octets) : Work Unit := do
  match c.strictness with
  | .ignore => return
  | .abort => Work.fail 2 message
  | _ => warn message

/-- The message about a text that is no number. -/
def defectMessage (text : Octets) (d : Scale.Defect) : Octets :=
  let shown := Shown.marked text
  match d with
  | .tooLarge => s!"value too large to be converted: {shown}"
  | .malformed => s!"invalid number: {shown}"
  | .unwanted => s!"rejecting suffix in input: {shown} (consider using --from)"
  | .unknownLetter => s!"invalid suffix in input: {shown}"
  | .noMark => s!"missing 'i' suffix in input: {shown} (e.g Ki/Mi/Gi)"
  | .remainder rest =>
    let behind := Shown.marked rest
    s!"invalid suffix in input {shown}: {behind}"

/-- A number in a field after the change; `none` after a message. -/
def change? (c : Change) (field : Nat) (text : Octets) : Work (Option Octets) := do
  let isEnded := !c.ending.isEmpty && c.ending.length < text.length && text.endsWith c.ending
  let text := if isEnded then String.ofList (text.toList.take (text.length - c.ending.length)) else text
  let bare := String.ofList (text.toList.dropWhile TabStops.isBlank)
  let width : Int :=
    if c.isAutomatic then (if bare.length < text.length || 1 < field then text.length else 0) else c.format.width
  match c.source.read bare with
  | .error d =>
    reject c (defectMessage bare d)
    return none
  | .ok found =>
    if found.hasLoss && c.isTalkative then
      let shown := Shown.marked bare
      warn s!"large input value {shown}: possible precision loss"
    let a := if c.sourceUnit = 1 && c.targetUnit = 1 then found.value
      else (found.value.times c.sourceUnit).dividedBy c.targetUnit
    let places := c.format.places.getD found.places
    let digits := (Scale.normalized 10 10000 a 0).2
    let general := Directive.plain.real .tenBytes 'g' a.quantity
    if c.target = .nothing && Scale.exactDigits < digits + places then
      if places = 0 then reject c s!"value too large to be printed: '{general}' (consider using --to)"
      else reject c s!"value/precision too large to be printed: '{general}/{places}' (consider using --to)"
      return none
    else if Scale.mostDigits ≤ digits then
      reject c s!"value too large to be printed: '{general}' (cannot handle values > 999Y)"
      return none
    else
      let shown := c.target.shown c.rounding c.format.places places c.format.zeroWidth a ++ c.ending
      let filled :=
        if width < 0 then Numeral.padRight ' ' width.natAbs shown else Numeral.padLeft ' ' width.natAbs shown
      return some (c.format.front ++ filled ++ c.format.back)

/-- The fields of a line, and the marks between them are left out. Blanks in front of a field belong to it. The fuel
bounds the fields. -/
def fieldsOf (delimiter : Option Char) : Nat → List Char → List (List Char)
  | 0, s => [s]
  | fuel + 1, s =>
    match delimiter with
    | some d => Text.cut d s
    | none =>
      let isBreak (c : Char) : Bool := TabStops.isBlank c || c == '\n'
      let front := s.takeWhile isBreak
      let body := (s.drop front.length).takeWhile (!isBreak ·)
      match s.drop (front.length + body.length) with
      | [] => [s]
      | _ :: rest => (front ++ body) :: fieldsOf none fuel rest

/-- Writes a line after the change; whether all went well. -/
def changeLine (c : Change) (line : Octets) : Work Bool := do
  let parts := fieldsOf c.delimiter (line.length + 1) line.toList
  let mark := (c.delimiter.getD ' ').toString
  let mut isFine := true
  for (part, n) in parts.zipIdx 1 do
    let text := String.ofList part
    let shown ←
      if Span.anyHas c.fields n then
        match ← change? c n text with
        | some shown => pure shown
        | none =>
          isFine := false
          pure text
      else pure text
    put (if n = parts.length then shown else shown ++ mark)
  return isFine

/-- The size that a unit has. -/
def readUnit (text : Octets) : Work Nat := do
  let cs := text.toList
  let letters := "KMGTPEZY"
  let isLetter (c : Char) : Bool := !isAsciiDigit c
  let found :=
    if cs.getLast?.any isLetter then
      match cs.reverse with
      | 'i' :: c :: front => if isLetter c then Size.read? letters (c :: front).reverse else Size.read? (letters ++ "0") (cs ++ ['B'])
      | _ => Size.read? (letters ++ "0") (cs ++ ['B'])
    else Size.read? letters cs
  match found with
  | some (n + 1) => return n + 1
  | _ =>
    let shown := Shown.marked text
    Work.fail 1 s!"invalid unit size: {shown}"

/-- The scales by their names. -/
def scales (hasEither : Bool) : List (List String × Scale) :=
  [(["none"], Scale.nothing)] ++ (if hasEither then [(["auto"], Scale.either)] else []) ++
    [(["si"], Scale.thousands), (["iec"], Scale.binary), (["iec-i"], Scale.marked)]

/-- The ways to round by their names. -/
def roundings : List (List String × Rounding) :=
  [(["up"], .up), (["down"], .down), (["from-zero"], .fromZero), (["towards-zero"], .towardsZero), (["nearest"], .nearest)]

/-- The manners of what is no number by their names. -/
def strictnesses : List (List String × Strictness) :=
  [(["abort"], .abort), (["fail"], .fail), (["warn"], .warn), (["ignore"], .ignore)]

/-- The options. -/
def switches : List Switch :=
  [.named 'f' "from" .value, .named 'F' "from-unit" .value, .named 't' "to" .value, .named 'T' "to-unit" .value,
   .named 'r' "round" .value, .named 'p' "padding" .value, .named 's' "suffix" .value, .named 'g' "grouping" .nothing,
   .valued 'd' "delimiter", .named 'i' "field" .value, .named 'D' "debug" .nothing, .named 'h' "header" .attached,
   .named 'm' "format" .value, .named 'v' "invalid" .value, .flag 'z' "zero-terminated"]

/-- Takes an option. The width, the formats and the header are left for later. -/
def take (c : Change × Nat × Bool) (option : Char × Option Octets) : Work (Change × Nat × Bool) := do
  let (change, header, hasFields) := c
  let text := option.2.getD ""
  let only (change : Change) : Work (Change × Nat × Bool) := return (change, header, hasFields)
  if option.1 = 'f' then only { change with source := ← Arguments.choose "--from" (scales true) text }
  else if option.1 = 'F' then only { change with sourceUnit := ← readUnit text }
  else if option.1 = 't' then only { change with target := ← Arguments.choose "--to" (scales false) text }
  else if option.1 = 'T' then only { change with targetUnit := ← readUnit text }
  else if option.1 = 'r' then only { change with rounding := ← Arguments.choose "--round" roundings text }
  else if option.1 = 'p' then
    match Size.readWhole text.toList with
    | .ok n =>
      if n != 0 then return ← only { change with format := { change.format with width := n } }
    | .error _ => pure ()
    let shown := Shown.marked text
    Work.fail 1 s!"invalid padding value {shown}"
  else if option.1 = 's' then only { change with ending := text }
  else if option.1 = 'd' then
    if 1 < text.length then Work.fail 1 "the delimiter must be a single character"
    only { change with delimiter := some (text.toList.head?.getD '\x00') }
  else if option.1 = 'i' then
    if hasFields then Work.fail 1 "multiple field specifications"
    return ({ change with fields := ← readSpans ⟨true, true⟩ text false }, header, true)
  else if option.1 = 'h' then
    match option.2 with
    | none => return (change, 1, hasFields)
    | some text =>
      match Size.read? "" text.toList with
      | some (n + 1) => return (change, n + 1, hasFields)
      | _ =>
        let shown := Shown.marked text
        Work.fail 1 s!"invalid header value {shown}"
  else if option.1 = 'v' then only { change with strictness := ← Arguments.choose "--invalid" strictnesses text }
  else if option.1 = 'D' then only { change with isTalkative := true }
  else only change

end Scaling

/-- Writes numbers with letters for powers, or without them. -/
def numfmt : Utility := fun _ call => complete call.name do
  let options ← Arguments.read Scaling.switches 1 call.arguments
  let start : Scaling.Change :=
    ⟨.nothing, .nothing, 1, 1, .fromZero, ⟨"", "", 0, 0, none⟩, false, "", none, [⟨1, some 1⟩], .abort, false⟩
  let (c, header, _) ← options.options.foldlM Scaling.take (start, 0, false)
  if options.has 'm' && options.has 'g' then Work.fail 1 "--grouping cannot be combined with --format"
  if c.isTalkative && c.source = .nothing && c.target = .nothing && !options.has 'g' && c.format.width = 0 &&
      !options.has 'm' then
    warn "no conversion option specified"
  let format ← (options.value? 'm').elim (pure c.format) (Scaling.readFormat c.format.width)
  if options.has 'g' then
    if c.target != .nothing then Work.fail 1 "grouping cannot be combined with --to"
    if c.isTalkative then warn "grouping has no effect in this locale"
  let c := { c with format := format, isAutomatic := format.width = 0 && c.delimiter.isNone }
  let lineEnd := lineMark (options.has 'z')
  let mut isFine := true
  if options.operands.isEmpty then
    match ← readOperand "-" with
    | .error r => Work.fail 1 s!"error reading input: {r.wording}"
    | .ok text =>
      let lines := partsBy lineEnd text
      let isEnded := text.toList.getLast? = some lineEnd
      for (line, n) in lines.zipIdx 1 do
        let behind := if n < lines.length || isEnded then lineEnd.toString else ""
        if n ≤ header then put (line ++ behind)
        else
          if !(← Scaling.changeLine c line) then isFine := false
          put behind
  else
    if c.isTalkative && header != 0 then warn "--header ignored with command-line input"
    for operand in options.operands do
      if !(← Scaling.changeLine c operand) then isFine := false
      put lineEnd.toString
  if !isFine then
    if c.isTalkative then warn "failed to convert some of the input numbers"
    if c.strictness != .warn && c.strictness != .ignore then raiseStatus 2

end ElmAssay.Machine.Utility
