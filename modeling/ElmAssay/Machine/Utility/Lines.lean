import ElmAssay.Machine.Utility.Reading

/-!
# Utilities on lines

Programs that take parts out of lines (`cut`), put lines together (`paste`), and break long lines (`fold`).
-/

namespace ElmAssay.Machine.Utility

open Text Work

/-! ## Parts of lines -/

/-- A range of positions, which may be open at its end. -/
structure Span where
  first : Nat
  last : Option Nat
  deriving DecidableEq, Repr

/-- Whether a position is in one of some ranges. -/
def Span.anyHas (spans : List Span) (n : Nat) : Bool :=
  spans.any fun s => s.first ≤ n && s.last.all (n ≤ ·)

/-- What the positions of a list count, for messages. -/
structure Counted where
  isField : Bool
  /-- Whether a dash alone stands for all. -/
  allowsDash : Bool

/-- Ends the utility because of a list of positions. -/
def Counted.fail {α : Type} (c : Counted) (ofFields ofBytes : Octets) : Work α :=
  failUsage 1 (if c.isField then ofFields else ofBytes)

/-- What was read of a range: its start, if there was a dash, the number that is being read, and its digits. -/
structure SpanDraft where
  start : Option Nat
  hasLow : Bool
  value : Option Nat

/-- Ranges of positions as an argument writes them, from a place on. -/
def readSpansFrom (c : Counted) : SpanDraft → List Span → List Char → Work (List Span)
  | d, done, s => do
    let finish : Work Span := do
      match d.start, d.value with
      | some _, none =>
        if !d.hasLow && !c.allowsDash then failUsage 1 "invalid range with no endpoint: -"
        return ⟨d.start.getD 1, none⟩
      | some low, some high =>
        if high < low then failUsage 1 "invalid decreasing range"
        return ⟨low, some high⟩
      | none, value =>
        match value with
        | some (n + 1) => return ⟨n + 1, some (n + 1)⟩
        | _ => c.fail "fields are numbered from 1" "byte/character positions are numbered from 1"
    match s with
    | [] => return done ++ [← finish]
    | '-' :: rest =>
      if d.start.isSome then c.fail "invalid field range" "invalid byte or character range"
      else if d.value = some 0 then c.fail "fields are numbered from 1" "byte/character positions are numbered from 1"
      else readSpansFrom c ⟨some (d.value.getD 1), d.value.isSome, none⟩ done rest
    | x :: rest =>
      if x = ',' ∨ x = ' ' ∨ x = '\t' then readSpansFrom c ⟨none, false, none⟩ (done ++ [← finish]) rest
      else if isAsciiDigit x then
        let n := d.value.getD 0 * 10 + (x.toNat - 48)
        if Size.limit - 1 ≤ n then
          let (more, _) := Number.spanDigits rest
          let shown := Shown.marked (Numeral.text n ++ String.ofList more)
          c.fail s!"field number {shown} is too large" s!"byte/character offset {shown} is too large"
        else readSpansFrom c { d with value := some n } done rest
      else
        let shown := Shown.marked (String.ofList (x :: rest))
        c.fail s!"invalid field value {shown}" s!"invalid byte/character position {shown}"

/-- Ranges of positions in order, of which those that overlap are one. -/
def mergeSpans (spans : List Span) : List Span :=
  let sorted := spans.mergeSort fun a b => a.first ≤ b.first
  let step (done : List Span) (s : Span) : List Span :=
    match done with
    | last :: before =>
      if last.last.all (s.first ≤ ·) then
        let stop : Option Nat :=
          match last.last, s.last with
          | some a, some b => some (max a b)
          | _, _ => none
        ⟨last.first, stop⟩ :: before
      else s :: done
    | [] => [s]
  (sorted.foldl step []).reverse

/-- The positions that are in no range. -/
def complementOf (spans : List Span) : List Span :=
  let rec go (next : Nat) : List Span → List Span
    | [] => [⟨next, none⟩]
    | s :: rest =>
      let front := if next < s.first then [⟨next, some (s.first - 1)⟩] else []
      match s.last with
      | some last => front ++ go (last + 1) rest
      | none => front
  go 1 spans

/-- Ranges of positions as an argument writes them. -/
def readSpans (c : Counted) (text : Octets) (isComplement : Bool) : Work (List Span) := do
  let spans := mergeSpans (← readSpansFrom c ⟨none, false, none⟩ [] text.toList)
  return if isComplement then complementOf spans else spans

/-- The chosen bytes of a line, with a text between those of different ranges. -/
def cutBytes (spans : List Span) (joint : Octets) (line : Octets) : Octets :=
  let cs := line.toList
  let pieces := spans.filterMap fun s =>
    let piece := (cs.drop (s.first - 1)).take (s.last.elim cs.length fun last => last + 1 - s.first)
    if piece.isEmpty then none else some (String.ofList piece)
  joint.intercalate pieces

/-- Takes parts out of lines. -/
def cut : Utility := fun _ call => complete call.name do
  let options ← Arguments.read
    [.valued 'b' "bytes", .valued 'c' "characters", .valued 'f' "fields", .valued 'd' "delimiter", .flag 'n' "",
     .named 'C' "complement" .nothing, .flag 's' "only-delimited", .named 'O' "output-delimiter" .value,
     .flag 'z' "zero-terminated"] 1 call.arguments
  match options.options.filter fun o => ['b', 'c', 'f'].contains o.1 with
  | [] => failUsage 1 "you must specify a list of bytes, characters, or fields"
  | _ :: _ :: _ => failUsage 1 "only one list may be specified"
  | [(key, list)] =>
    let delimiter := (options.value? 'd').getD "\t"
    if 1 < delimiter.length then failUsage 1 "the delimiter must be a single character"
    let isField := key == 'f'
    if !isField && options.has 'd' then
      failUsage 1 "an input delimiter may be specified only when operating on fields"
    if !isField && options.has 's' then
      failUsage 1 "suppressing non-delimited lines makes sense\n\tonly when operating on fields"
    let spans ← readSpans ⟨isField, false⟩ (list.getD "") (options.has 'C')
    let mark := (delimiter.toList.head?).getD '\x00'
    let joint := (options.value? 'O').getD (if isField then mark.toString else "")
    let lineEnd := lineMark (options.has 'z')
    for path in orInput options.operands do
      match ← readInput? path with
      | none => pure ()
      | some data =>
        let lines :=
          if isField && mark = lineEnd then (if data.isEmpty then [] else [lineEnd.toString.intercalate (partsBy lineEnd data)])
          else partsBy lineEnd data
        for line in lines do
          if isField then
            let fields := (Text.cut mark line.toList).map String.ofList
            if fields.length = 1 then
              if !options.has 's' then put (line.push lineEnd)
            else
              let kept := (fields.zipIdx 1).filter fun p => Span.anyHas spans p.2
              put ((joint.intercalate (kept.map Prod.fst)).push lineEnd)
          else put ((cutBytes spans joint line).push lineEnd)

/-! ## Lines side by side -/

/-- The marks between lines that are put together; `none` if a backslash quotes nothing. -/
def readMarks (s : Octets) : Option (List Octets) :=
  let letter (c : Char) : Octets :=
    match c with
    | 'n' => "\n"
    | 't' => "\t"
    | '0' => ""
    | 'b' => "\x08"
    | 'f' => "\x0c"
    | 'r' => "\r"
    | 'v' => "\x0b"
    | c => c.toString
  let rec go : List Char → Option (List Octets)
    | ['\\'] => none
    | '\\' :: c :: cs => (go cs).map (letter c :: ·)
    | c :: cs => (go cs).map (c.toString :: ·)
    | [] => some []
  go s.toList

/-- Texts with marks between them, which are taken in turn. -/
def joinWith (marks : List Octets) : Nat → List Octets → Octets
  | _, [] => ""
  | _, [s] => s
  | n, s :: rest => s ++ (marks[n % max 1 marks.length]?).getD "" ++ joinWith marks (n + 1) rest

/-- Puts lines side by side. -/
def paste : Utility := fun _ call => complete call.name do
  let options ← Arguments.read
    [.valued 'd' "delimiters", .flag 's' "serial", .flag 'z' "zero-terminated"] 1 call.arguments
  let given := (options.value? 'd').getD "\t"
  let marks ←
    match readMarks given with
    | some marks => pure marks
    | none => Work.fail 1 s!"delimiter list ends with an unescaped backslash: {given}"
  let lineEnd := lineMark (options.has 'z')
  let mut files : List (List Octets) := []
  let paths := orInput options.operands
  let inputs := (paths.filter (· == "-")).length
  let input ← if inputs = 0 then pure [] else do
    match ← readInput? "-" with
    | some data => pure (partsBy lineEnd data)
    | none => pure []
  let mut seen := 0
  for path in paths do
    if path = "-" then
      let n := seen
      files := files ++ [if options.has 's' then (if n = 0 then input else [])
        else (input.zipIdx.filter fun p => p.2 % inputs == n).map Prod.fst]
      seen := seen + 1
    else
      match ← readOperand path with
      | .ok data => files := files ++ [partsBy lineEnd data]
      | .error r =>
        if options.has 's' then
          for file in files do put ((joinWith marks 0 file).push lineEnd)
          files := []
          complain (aboutFile path r.wording)
        else Work.fail 1 (aboutFile path r.wording)
  if options.has 's' then
    for file in files do put ((joinWith marks 0 file).push lineEnd)
  else
    let height := (files.map List.length).foldl max 0
    for i in List.range height do
      put ((joinWith marks 0 (files.map fun file => (file[i]?).getD "")).push lineEnd)

/-! ## Long lines -/

/-- How long lines are broken. -/
structure Folding where
  width : Nat
  atBlanks : Bool
  inBytes : Bool

/-- The column behind a character. -/
def Folding.after (o : Folding) (column : Nat) (c : Char) : Nat :=
  if o.inBytes then column + 1
  else if c = '\x08' then column - 1
  else if c = '\r' then 0
  else if c = '\t' then column + 8 - column % 8
  else column + 1

/-- What is held while lines are broken: the present line and the text before it, both latest first, and the column. -/
structure FoldState where
  done : List Char
  line : List Char
  column : Nat

/-- One more character of a line that is broken. The fuel bounds how often it is tried. -/
def Folding.step (o : Folding) : Nat → FoldState → Char → FoldState
  | 0, s, c => { s with line := c :: s.line }
  | fuel + 1, s, c =>
    if c = '\n' then ⟨'\n' :: s.line ++ s.done, [], 0⟩
    else
      let column := o.after s.column c
      if column ≤ o.width then { s with line := c :: s.line, column := column }
      else
        let behind := s.line.takeWhile fun c => c != ' ' && c != '\t'
        if o.atBlanks && behind.length < s.line.length then
          let column := behind.reverse.foldl o.after 0
          o.step fuel ⟨'\n' :: s.line.drop behind.length ++ s.done, behind, column⟩ c
        else if s.line.isEmpty then { s with line := [c], column := column }
        else o.step fuel ⟨'\n' :: s.line ++ s.done, [], 0⟩ c

/-- A text with its long lines broken. -/
def Folding.apply (o : Folding) (text : Octets) : Octets :=
  let s := text.toList.foldl (fun s c => o.step (s.line.length + 3) s c) ⟨[], [], 0⟩
  String.ofList (s.line ++ s.done).reverse

/-- Breaks long lines. -/
def fold : Utility := fun _ call => complete call.name do
  let arguments := call.arguments.map fun a =>
    match a.toList with
    | '-' :: c :: cs => if (c :: cs).all isAsciiDigit then "-w" ++ String.ofList (c :: cs) else a
    | _ => a
  let options ← Arguments.read [.valued 'w' "width", .flag 's' "spaces", .flag 'b' "bytes"] 1 arguments
  let width ← Arguments.countWithin "invalid number of columns" "" 1 (Size.limit - 10) ((options.value? 'w').getD "80")
  let o : Folding := ⟨width, options.has 's', options.has 'b'⟩
  for path in orInput options.operands do
    match ← readInput? path with
    | none => pure ()
    | some data => put (o.apply data)

end ElmAssay.Machine.Utility
