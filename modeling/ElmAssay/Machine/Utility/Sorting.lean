import ElmAssay.Machine.Quantity
import ElmAssay.Machine.Utility.Reading
import ElmAssay.Machine.Version

/-!
# Sorting

Lines are ordered (`sort`) as a whole or by keys (`Key`), which are fields or parts of fields, by bytes or by a value that
they spell (`Comparison`). Lines with equal keys are in the order of their bytes.

Lines that repeat the one before are left out, counted or shown together (`uniq`). Lines are compared by a part of them
(`Comparing`).
-/

namespace ElmAssay.Machine.Utility

open Text Work

/-! ## Order -/

/-- How keys are compared. -/
structure Comparison where
  numeric : Bool
  general : Bool
  human : Bool
  version : Bool
  month : Bool
  ignoresCase : Bool
  dictionary : Bool
  ignoresHidden : Bool
  skipsBlanks : Bool
  reverse : Bool
  deriving DecidableEq, Repr

namespace Comparison

/-- The plain comparison of bytes. -/
def plain : Comparison := ⟨false, false, false, false, false, false, false, false, false, false⟩

/-- A comparison with what a letter adds to it. -/
def withLetter (c : Comparison) (letter : Char) : Comparison :=
  match letter with
  | 'n' => { c with numeric := true }
  | 'g' => { c with general := true }
  | 'h' => { c with human := true }
  | 'V' => { c with version := true }
  | 'M' => { c with month := true }
  | 'f' => { c with ignoresCase := true }
  | 'd' => { c with dictionary := true }
  | 'i' => { c with ignoresHidden := true }
  | 'b' => { c with skipsBlanks := true }
  | 'r' => { c with reverse := true }
  | _ => c

/-- The number at the front of a key, as digits and a power of ten. -/
def leadingNumber (s : Octets) : Int × Nat :=
  let cs := s.toList.dropWhile fun c => c == ' ' || c == '\t'
  let (negative, body) :=
    match cs with
    | '-' :: rest => (true, rest)
    | cs => (false, cs)
  let (whole, rest) := Number.spanDigits body
  let fraction :=
    match rest with
    | '.' :: t => (Number.spanDigits t).1
    | _ => []
  let n : Int := Number.digitsValue (whole ++ fraction)
  (if negative then -n else n, fraction.length)

/-- The order of two numbers at the fronts of keys. -/
def compareNumbers (a b : Octets) : Ordering :=
  let (m, p) := leadingNumber a
  let (n, q) := leadingNumber b
  compare (m * 10 ^ q) (n * 10 ^ p)

/-- A rank that puts what is no number first and then numbers by value. -/
def compareReals (a b : Octets) : Ordering :=
  match Quantity.read 64 a.toList, Quantity.read 64 b.toList with
  | some (.finite s m d, _), some (.finite t n e, _) =>
    let x : Int := if s then -(m * e) else m * e
    let y : Int := if t then -(n * d) else n * d
    compare x y
  | none, none => .eq
  | none, some _ => .lt
  | some _, none => .gt
  | some (.notANumber _, _), some (.notANumber _, _) => .eq
  | some (.notANumber _, _), some _ => .lt
  | some _, some (.notANumber _, _) => .gt
  | some (.infinite s, _), some (.infinite t, _) => compare (!s).toNat (!t).toNat
  | some (.infinite s, _), some _ => if s then .lt else .gt
  | some _, some (.infinite t, _) => if t then .gt else .lt

/-- The power that a letter behind a number stands for. -/
def unitOf (s : Octets) : Int :=
  let cs := (s.toList.dropWhile fun c => c == ' ' || c == '\t').dropWhile (· == '-')
  let behind := cs.dropWhile fun c => isAsciiDigit c || c == '.'
  let i := ['K', 'M', 'G', 'T', 'P', 'E', 'Z', 'Y'].idxOf (behind.head?.elim ' ' Char.toUpper)
  let rank : Int := if i < 8 then i + 1 else 0
  let (n, _) := leadingNumber s
  if n < 0 then -rank else if n = 0 then 0 else rank

/-- The months by their names. -/
def monthOf (s : Octets) : Nat :=
  let front := String.ofList (((s.toList.dropWhile fun c => c == ' ' || c == '\t').take 3).map Char.toUpper)
  let i := ["JAN", "FEB", "MAR", "APR", "MAY", "JUN", "JUL", "AUG", "SEP", "OCT", "NOV", "DEC"].idxOf front
  if i < 12 then i + 1 else 0

/-- The characters of a key that count. -/
def counted (c : Comparison) (s : Octets) : Octets :=
  let cs := s.toList
  let cs := if c.dictionary then cs.filter fun x => x.isAlphanum || x == ' ' || x == '\t' else cs
  let cs := if c.ignoresHidden then cs.filter fun x => 32 ≤ x.toNat && x.toNat < 127 else cs
  String.ofList (if c.ignoresCase then cs.map Char.toUpper else cs)

/-- The order of two keys. -/
def order (c : Comparison) (a b : Octets) : Ordering :=
  let o :=
    if c.numeric then compareNumbers a b
    else if c.general then compareReals a b
    else if c.human then (compare (unitOf a) (unitOf b)).then (compareNumbers a b)
    else if c.month then compare (monthOf a) (monthOf b)
    else if c.version then Version.order a b
    else compare (c.counted a) (c.counted b)
  if c.reverse then o.swap else o

end Comparison

/-- A place in a line: a field, a character in it, and whether blanks in front of it are skipped. -/
structure KeyPlace where
  field : Nat
  char : Nat
  skipsBlanks : Bool
  deriving DecidableEq, Repr

/-- A key: from where up to where, and how it is compared. -/
structure Key where
  first : KeyPlace
  last : Option KeyPlace
  comparison : Comparison
  /-- The letters of the key itself. -/
  letters : List Char
  deriving DecidableEq, Repr

/-- The letters of comparisons. -/
def comparisonLetters : List Char := ['b', 'd', 'f', 'g', 'h', 'i', 'M', 'n', 'R', 'r', 'V']

/-- A count at the front of a text, with what follows it. -/
def readKeyCount (what : String) (s : List Char) : Work (Nat × List Char) := do
  let (digits, rest) := Number.spanDigits s
  if digits.isEmpty then
    let shown := Shown.marked (String.ofList s)
    Work.fail 2 s!"{what}: invalid count at start of {shown}"
  return (Number.digitsValue digits, rest)

/-- A key as an option writes it. -/
def readKey (s : Octets) : Work Key := do
  let bad {α : Type} (what : String) : Work α := do
    let shown := Shown.marked s
    Work.fail 2 s!"{what}: invalid field specification {shown}"
  let afterDot (isFirst : Bool) (rest : List Char) : Work (Nat × List Char) := do
    match rest with
    | '.' :: t => do
      let (n, rest) ← readKeyCount "invalid number after '.'" t
      if isFirst && n = 0 then bad "character offset is zero"
      return (n, rest)
    | rest => return (0, rest)
  let (field, rest) ← readKeyCount "invalid number at field start" s.toList
  if field = 0 then bad "field number is zero"
  let (char, rest) ← afterDot true rest
  let letters := rest.takeWhile comparisonLetters.contains
  let first : KeyPlace := ⟨field - 1, char - 1, letters.contains 'b'⟩
  let compared (cs : List Char) : Comparison := cs.foldl (·.withLetter ·) .plain
  match rest.drop letters.length with
  | [] => return ⟨first, none, compared letters, letters⟩
  | ',' :: t =>
    let (field, rest) ← readKeyCount "invalid number after ','" t
    if field = 0 then bad "field number is zero"
    let (char, rest) ← afterDot false rest
    let more := rest.takeWhile comparisonLetters.contains
    if more.length != rest.length then bad "stray character in field spec"
    let last : KeyPlace := ⟨if char = 0 then field else field - 1, char, more.contains 'b'⟩
    return ⟨first, some last, compared (letters ++ more), letters ++ more⟩
  | _ => bad "stray character in field spec"

/-- Stops if letters ask for comparisons that exclude each other. -/
def checkLetters (letters : List Char) : Work Unit := do
  let has (c : Char) : Bool := letters.contains c
  let kinds := (['n', 'g', 'h', 'M'].filter has).length + (if ['V', 'R', 'd', 'i'].any has then 1 else 0)
  if 1 < kinds then
    let shown := String.ofList (['d', 'g', 'h', 'i', 'M', 'n', 'R', 'V'].filter has)
    Work.fail 2 s!"options '-{shown}' are incompatible"

/-- The place where a field starts, and what is left of the line there. -/
def fieldStart (mark : Option Char) : Nat → List Char → List Char
  | 0, s => s
  | n + 1, s =>
    match mark with
    | some c =>
      let rest := s.dropWhile (· != c)
      if rest.isEmpty then [] else fieldStart mark n (rest.drop 1)
    | none =>
      let isBlank (c : Char) : Bool := c == ' ' || c == '\t'
      fieldStart mark n ((s.dropWhile isBlank).dropWhile (!isBlank ·))

/-- The key of a line. -/
def Key.of (k : Key) (mark : Option Char) (skipsBlanks : Bool) (line : Octets) : Octets :=
  let cs := line.toList
  let isBlank (c : Char) : Bool := c == ' ' || c == '\t'
  let behindFirst := fieldStart mark k.first.field cs
  let behindFirst := if k.first.skipsBlanks || skipsBlanks then behindFirst.dropWhile isBlank else behindFirst
  let behindFirst := behindFirst.drop k.first.char
  match k.last with
  | none => String.ofList behindFirst
  | some last =>
    let behind :=
      if last.char = 0 then
        let rest := fieldStart mark last.field cs
        if mark.isSome && !rest.isEmpty then rest.length + 1
        else if mark.isSome && (cs.getLast? == mark) && (Text.cut (mark.getD ' ') cs).length = last.field + 1 then 1
        else rest.length
      else
        let rest := fieldStart mark last.field cs
        let rest := if last.skipsBlanks then rest.dropWhile isBlank else rest
        (rest.drop last.char).length
    String.ofList (behindFirst.take (behindFirst.length - behind))

/-- How lines are sorted. -/
structure Sorting where
  keys : List Key
  comparison : Comparison
  mark : Option Char
  isStable : Bool
  isUnique : Bool

/-- The order of two lines by the keys alone. -/
def Sorting.byKeys (s : Sorting) (a b : Octets) : Ordering :=
  let one (k : Key) : Ordering :=
    let c := if k.letters.isEmpty then s.comparison else k.comparison
    let skips := k.letters.isEmpty && s.comparison.skipsBlanks
    c.order (k.of s.mark skips a) (k.of s.mark skips b)
  if s.keys.isEmpty then
    let trim (t : Octets) : Octets :=
      if s.comparison.skipsBlanks then String.ofList (t.toList.dropWhile fun c => c == ' ' || c == '\t') else t
    s.comparison.order (trim a) (trim b)
  else s.keys.foldl (fun o k => o.then (one k)) .eq

/-- The order of two lines. -/
def Sorting.order (s : Sorting) (a b : Octets) : Ordering :=
  let o := s.byKeys a b
  if s.isStable || s.isUnique then o
  else o.then (if s.comparison.reverse then (compare a b).swap else compare a b)

/-- The lines of which each stands behind one that it does not equal. -/
def distinctLines (same : Octets → Octets → Bool) : Option Octets → List Octets → List Octets
  | _, [] => []
  | last, l :: ls => if last.any (same · l) then distinctLines same last ls else l :: distinctLines same (some l) ls

/-- Tells of the first line that does not follow the one before it. -/
def firstDisorder (follows : Octets → Octets → Bool) : Nat → List Octets → Option (Nat × Octets)
  | n, a :: b :: rest => if follows a b then firstDisorder follows (n + 1) (b :: rest) else some (n + 1, b)
  | _, _ => none

/-- The lines of ordered files in one order. Of equal ones that of the first file comes first. The fuel bounds the
lines. -/
def mergeLines (order : Octets → Octets → Ordering) : Nat → List (List Octets) → List Octets
  | 0, _ => []
  | fuel + 1, files =>
    let heads := files.zipIdx.filterMap fun f => f.1.head?.map (·, f.2)
    match heads with
    | [] => []
    | h :: rest =>
      let (line, i) := rest.foldl (fun best x => if order x.1 best.1 == .lt then x else best) h
      line :: mergeLines order fuel (files.modify i (·.drop 1))

/-- The words for orders. -/
def sortWords : List (List String × Char) :=
  [(["general-numeric"], 'g'), (["human-numeric"], 'h'), (["month"], 'M'), (["numeric"], 'n'), (["random"], 'R'),
   (["version"], 'V')]

/-- The options for sorting. -/
def sortSwitches : List Switch :=
  [.valued 'k' "key", .valued 't' "field-separator", .flag 'u' "unique", .flag 's' "stable", .valued 'o' "output",
   .named 'c' "check" .attached, .flag 'c' "", .flag 'C' "", .flag 'm' "merge", .flag 'z' "zero-terminated",
   .valued 'S' "buffer-size", .valued 'T' "temporary-directory", .flag 'b' "ignore-leading-blanks",
   .flag 'd' "dictionary-order", .flag 'f' "ignore-case", .flag 'g' "general-numeric-sort",
   .flag 'h' "human-numeric-sort", .flag 'i' "ignore-nonprinting", .flag 'M' "month-sort", .flag 'n' "numeric-sort",
   .flag 'r' "reverse", .flag 'V' "version-sort", .flag 'R' "random-sort", .named 'O' "sort" .value,
   .named '1' "parallel" .value, .named '2' "batch-size" .value, .named '3' "compress-program" .value,
   .named '4' "debug" .nothing, .named '5' "random-source" .value, .named '6' "files0-from" .value]

/-- The letters of comparisons that options ask for, and how an order is checked, if it is. -/
def readOrders (options : Arguments) : Work (List Char × List Char) := do
  let mut letters : List Char := []
  let mut checks : List Char := []
  for (key, value) in options.options do
    match key, value with
    | 'O', some word =>
      let c ← Arguments.choose "--sort" sortWords word
      letters := letters ++ [c]
    | 'c', some word =>
      let c ← Arguments.choose "--check" [(["quiet", "silent"], 'C'), (["diagnose-first"], 'c')] word
      checks := checks ++ [c]
    | 'c', none => checks := checks ++ ['c']
    | 'C', _ => checks := checks ++ ['C']
    | key, _ => if comparisonLetters.contains key then letters := letters ++ [key]
  return (letters, checks)

/-- The mark between fields that options give. -/
def readMark (options : Arguments) : Work (Option Char) := do
  let one (t : Octets) : Work Char := do
    match t.toList with
    | [c] => return c
    | ['\\', '0'] => return '\x00'
    | [] => Work.fail 2 "empty tab"
    | _ =>
      let shown := Shown.marked t
      Work.fail 2 s!"multi-character tab {shown}"
  let marks ← (options.values 't').mapM one
  match marks with
  | [] => return none
  | c :: rest =>
    if rest.any (· != c) then Work.fail 2 "incompatible tabs"
    return some c

/-- The paths to read, which may be written in a file. -/
def readPaths (options : Arguments) : Work (List Octets) := do
  match options.value? '6' with
  | none => return orInput options.operands
  | some path =>
    match options.operands with
    | extra :: _ =>
      let shown := Shown.quoted extra
      warn s!"extra operand {shown}"
      say "file operands cannot be combined with --files0-from\n"
      let name := (← get).name
      say s!"Try '{name} --help' for more information.\n"
      quit 2
    | [] =>
      match ← readOperand path with
      | .error r =>
        let shown := Shown.plain path
        Work.fail 2 s!"open failed: {shown}: {r.wording}"
      | .ok data =>
        let paths := partsBy '\x00' data
        if paths.isEmpty then
          let shown := Shown.quoted path
          Work.fail 2 s!"no input from {shown}"
        return paths

/-- The lines of a file that is sorted. -/
def readSorted (mark : Char) (isCheck : Bool) (path : Octets) : Work (List Octets) := do
  match ← readOperand path with
  | .ok data => return partsBy mark data
  | .error r =>
    let name := Shown.plain path
    Work.fail 2 <|
      if r = .isDirectory then s!"read failed: {name}: {r.wording}"
      else if isCheck then s!"open failed: {name}: {r.wording}"
      else s!"cannot read: {name}: {r.wording}"

/-- Checks the size of the room for sorting. -/
def checkRoom (options : Arguments) : Work Unit := do
  if let some text := options.value? 'S' then
    let body := text.toList
    let body := if body.getLast?.any fun c => c == '%' || c == 'b' then body.dropLast else body
    if (Size.read? "EgGkKmMPtTYZ" body).isNone then Work.fail 2 s!"invalid -S argument '{text}'"

/-- Sorts lines. -/
def sort : Utility := fun _ call => complete call.name do
  let options ← Arguments.read sortSwitches 2 call.arguments
  let keys ← (options.values 'k').mapM readKey
  let (letters, checks) ← readOrders options
  let comparison := letters.foldl (·.withLetter ·) Comparison.plain
  let mark ← readMark options
  checkRoom options
  match (options.values 'o').eraseDups with
  | _ :: _ :: _ => Work.fail 2 "multiple output files specified"
  | _ => pure ()
  if checks.contains 'c' && checks.contains 'C' then Work.fail 2 "options '-cC' are incompatible"
  let paths ← readPaths options
  if keys.isEmpty then checkLetters letters
  for k in keys do checkLetters (if k.letters.isEmpty then letters else k.letters)
  let sorting : Sorting := ⟨keys, comparison, mark, options.has 's', options.has 'u'⟩
  let lineEnd := lineMark (options.has 'z')
  if let some check := checks.head? then
    match paths with
    | _ :: extra :: _ =>
      let shown := Shown.quoted extra
      Work.fail 2 s!"extra operand {shown} not allowed with -{check}"
    | _ => pure ()
    if options.has 'o' then Work.fail 2 s!"options '-{check}o' are incompatible"
    let path := (paths.head?).getD "-"
    let lines ← readSorted lineEnd true path
    let follows (a b : Octets) : Bool :=
      if sorting.isUnique then sorting.order a b == .lt else sorting.order a b != .gt
    match firstDisorder follows 1 lines with
    | none => return
    | some (n, line) =>
      if check = 'c' then warn s!"{path}:{n}: disorder: {line}"
      quit 1
  let files ← paths.mapM (readSorted lineEnd false)
  let sorted :=
    if options.has 'm' then mergeLines sorting.order ((files.map List.length).foldl (· + ·) 1) files
    else files.flatten.mergeSort fun a b => sorting.order a b != .gt
  let sorted :=
    if sorting.isUnique then distinctLines (fun a b => sorting.byKeys a b == .eq) none sorted else sorted
  let text := String.join (sorted.map fun l => l.push lineEnd)
  match options.value? 'o' with
  | none => put text
  | some path =>
    match ← lift (Routine.writeFile path .writing text) with
    | .ok _ => return
    | .error r =>
      let name := Shown.plain path
      Work.fail 2 s!"open failed: {name}: {r.wording}"

/-! ## Repeated lines -/

/-- Which part of a line is compared: behind some fields and bytes, and so long at most. -/
structure Comparing where
  fields : Nat
  chars : Nat
  width : Option Nat
  ignoresCase : Bool
  deriving DecidableEq, Repr

/-- The part of a line that is compared. -/
def Comparing.part (c : Comparing) (line : Octets) : Octets :=
  let isBlank (c : Char) : Bool := c == ' ' || c == '\t'
  let skipField (s : List Char) : List Char := (s.dropWhile isBlank).dropWhile (!isBlank ·)
  let rest := ((List.range c.fields).foldl (fun s _ => skipField s) line.toList).drop c.chars
  let rest := c.width.elim rest rest.take
  String.ofList (if c.ignoresCase then rest.map Char.toLower else rest)

/-- Runs of lines that count as the same. -/
def groupLines (same : Octets → Octets → Bool) : List Octets → List (List Octets)
  | [] => []
  | l :: ls =>
    match groupLines same ls with
    | (m :: ms) :: rest => if same l m then (l :: m :: ms) :: rest else [l] :: (m :: ms) :: rest
    | rest => [l] :: rest

/-- Where empty lines stand around runs of lines. -/
inductive Gap
  | none
  | before
  | after
  | between
  | around
  deriving DecidableEq, Repr

/-- Runs of lines with empty lines around them. -/
def withGaps (gap : Gap) (runs : List (List Octets)) : List Octets :=
  let last := runs.length - 1
  (runs.zipIdx.map fun (run, i) =>
    match gap with
    | .none => run
    | .before => "" :: run
    | .after => run ++ [""]
    | .between => if i = last then run else run ++ [""]
    | .around => (if i = 0 then [""] else []) ++ run ++ [""]).flatten

/-- The options about repeated lines. -/
def repetitionSwitches : List Switch :=
  [.flag 'c' "count", .flag 'd' "repeated", .flag 'D' "", .named 'D' "all-repeated" .attached, .named 'G' "group" .attached,
   .flag 'i' "ignore-case", .flag 'u' "unique", .valued 'f' "skip-fields", .valued 's' "skip-chars",
   .valued 'w' "check-chars", .flag 'z' "zero-terminated"]

/-- Arguments in which a number alone stands for fields to skip. -/
def withFieldNumbers (arguments : List Octets) : List Octets :=
  arguments.map fun a =>
    match a.toList with
    | '-' :: c :: cs => if (c :: cs).all isAsciiDigit then "-f" ++ String.ofList (c :: cs) else a
    | '+' :: c :: cs => if (c :: cs).all isAsciiDigit then "-s" ++ String.ofList (c :: cs) else a
    | _ => a

/-- Leaves out repeated lines. -/
def uniq : Utility := fun _ call => complete call.name do
  let options ← Arguments.read repetitionSwitches 1 (withFieldNumbers call.arguments)
  let gapOfRepeated ←
    match options.value? 'D' with
    | some word =>
      Arguments.choose "--all-repeated" [(["none"], Gap.none), (["prepend"], .before), (["separate"], .between)] word
    | none => pure .none
  let gapOfGroups ←
    match options.value? 'G' with
    | some word =>
      Arguments.choose "--group"
        [(["prepend"], Gap.before), (["append"], .after), (["separate"], .between), (["both"], .around)] word
    | none => pure .between
  match options.operands with
  | _ :: _ :: extra :: _ =>
    let shown := Shown.marked extra
    failUsage 1 s!"extra operand {shown}"
  | _ => pure ()
  let number (key : Char) (what : String) : Work (Option Nat) := do
    match options.value? key with
    | none => return none
    | some text =>
      match Size.read "" text.toList with
      | .ok n => return some n
      | .error .malformed => Work.fail 1 s!"{text}: invalid number of {what}"
      | .error _ => return some (Size.limit - 1)
  let fields ← number 'f' "fields to skip"
  let chars ← number 's' "bytes to skip"
  let width ← number 'w' "bytes to compare"
  if options.has 'G' && ['c', 'd', 'D', 'u'].any options.has then
    failUsage 1 "--group is mutually exclusive with -c/-d/-D/-u"
  if options.has 'c' && options.has 'D' then
    failUsage 1 "printing all duplicated lines and repeat counts is meaningless"
  let input := (options.operands.head?).getD "-"
  let data ←
    match ← readOperand input with
    | .ok data => pure data
    | .error r =>
      let shown := Shown.quoted input
      Work.fail 1 (if r = .isDirectory then s!"error reading {shown}: {r.wording}" else aboutFile input r.wording)
  let comparing : Comparing := ⟨fields.getD 0, chars.getD 0, width, options.has 'i'⟩
  let lineEnd := lineMark (options.has 'z')
  let runs := groupLines (fun a b => comparing.part a == comparing.part b) (partsBy lineEnd data)
  let lines :=
    if options.has 'G' then withGaps gapOfGroups runs
    else if options.has 'D' then (if options.has 'u' then [] else withGaps gapOfRepeated (runs.filter (1 < ·.length)))
    else
      runs.filterMap fun run =>
        let n := run.length
        let first := (run.head?).getD ""
        let shown := if options.has 'c' then Numeral.padLeft ' ' 7 (Numeral.text n) ++ " " ++ first else first
        let isHidden := (options.has 'd' && n = 1) || (options.has 'u' && 1 < n)
        if isHidden then none else some shown
  let text := String.join (lines.map fun l => l.push lineEnd)
  match options.operands with
  | [_, output] =>
    if output = "-" then put text
    else
      match ← lift (Routine.writeFile output .writing text) with
      | .ok _ => return
      | .error r => Work.fail 1 (aboutFile output r.wording)
  | _ => put text

end ElmAssay.Machine.Utility
