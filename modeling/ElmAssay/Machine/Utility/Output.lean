import ElmAssay.Machine.Directive
import ElmAssay.Machine.Escape
import ElmAssay.Machine.Utility.Basic

/-!
# Utilities that only write

Programs that write what their arguments say: a line (`echo`), arguments laid out by a format (`printf`), the same line
without end (`yes`), and rows of numbers (`seq`). Others write nothing and only have a status.
-/

namespace ElmAssay.Machine.Utility

open Text Work

/-- Has a status and does nothing. -/
def silent (status : Nat) : Utility := fun _ _ => return status

/-! ## Lines -/

/-- The escapes in the arguments of a line. -/
def lineEscapes : Escapes := ⟨true, true, true, false⟩

/-- The options in front of a line: whether it has an end and whether there are escapes. -/
def lineOptions : Bool → Bool → List Octets → Bool × Bool × List Octets
  | hasEnd, escapes, [] => (hasEnd, escapes, [])
  | hasEnd, escapes, a :: rest =>
    match a.toList with
    | '-' :: c :: cs =>
      if (c :: cs).all fun c => c == 'n' || c == 'e' || c == 'E' then
        let last := ((c :: cs).filter (· != 'n')).getLast?
        lineOptions (hasEnd && !(c :: cs).contains 'n') (last.elim escapes (· == 'e')) rest
      else (hasEnd, escapes, a :: rest)
    | _ => (hasEnd, escapes, a :: rest)

/-- The text of a line, where an escape may end all. -/
def lineText (hasEnd escapes : Bool) : List Octets → Octets
  | [] => if hasEnd then "\n" else ""
  | a :: rest =>
    let (s, stopped) := if escapes then Escape.replace lineEscapes a else (a, false)
    if stopped then s
    else if rest.isEmpty then s ++ (if hasEnd then "\n" else "")
    else s ++ " " ++ lineText hasEnd escapes rest

/-- Writes its arguments as a line. -/
def echo : Utility := fun _ call => complete call.name do
  let (hasEnd, escapes, arguments) := lineOptions true false call.arguments
  put (lineText hasEnd escapes arguments)

/-- Writes a line again and again. The fuel bounds how often. -/
def writeAgain (block : Octets) : Nat → Work Unit
  | 0 => return
  | fuel + 1 => do
    match ← ask (.write 1 block) with
    | .ok _ => writeAgain block fuel
    | .error r => fail 1 s!"standard output: {r.wording}"

/-- Writes a line without end. -/
def yes : Utility := fun _ call => complete call.name do
  let line := (if call.arguments.isEmpty then "y" else " ".intercalate call.arguments) ++ "\n"
  writeAgain (String.join (List.replicate (8192 / line.length + 1) line)) 1000000000

/-! ## Formats -/

/-- The escapes in a format. -/
def formatEscapes : Escapes := ⟨true, false, true, true⟩

/-- The escapes in an argument. -/
def argumentEscapes : Escapes := ⟨true, true, true, true⟩

/-- A step of printing, with the arguments that are left. -/
abbrev Printing (α : Type) := StateT (List Octets) Work α

/-- The next argument, if there is one. -/
def next? : Printing (Option Octets) := do
  match ← get with
  | [] => return none
  | a :: rest =>
    set rest
    return some a

/-- Tells what is wrong with a number that was read up to a place. -/
def checkNumber (argument : Octets) (found : Bool) (rest : List Char) (fits : Bool) : Work Unit := do
  let shown := Shown.marked argument
  if !fits then complain s!"{shown}: Numerical result out of range"
  else if !found && !argument.isEmpty then complain s!"{shown}: expected a numeric value"
  else if !rest.isEmpty then complain s!"{shown}: value not completely converted"

/-- The code of the character behind a quote. -/
def quotedCode? (argument : Octets) : Work (Option Nat) := do
  match argument.toList with
  | quote :: c :: cs =>
    if quote = '"' ∨ quote = '\'' then
      match Octets.widen (String.ofList (c :: cs)) with
      | c :: [] => return some c.toNat
      | c :: more =>
        let shown := Octets.narrow more
        warn s!"warning: {shown}: character(s) following character constant have been ignored"
        return some c.toNat
      | [] => return none
    else return none
  | _ => return none

/-- The next argument as a whole number. -/
def nextWhole (signed : Bool) : Printing Int := do
  match ← next? with
  | none => return 0
  | some a =>
    match ← quotedCode? a with
    | some n => return n
    | none =>
      let r := Numeral.read none a.toList
      let fits := if signed then Numeral.fits r.value else decide (r.value.natAbs < 2 ^ 64)
      checkNumber a r.found (if r.found then r.rest else []) fits
      if fits then return r.value
      else return if signed then Numeral.clamp r.value else 2 ^ 64 - 1

/-- The next argument as a number with a fraction. -/
def nextReal : Printing Quantity := do
  match ← next? with
  | none => return .ofInt 0
  | some a =>
    match ← quotedCode? a with
    | some n => return .ofInt n
    | none =>
      match Quantity.read 64 a.toList with
      | none =>
        checkNumber a false [] true
        return .ofInt 0
      | some (q, rest) =>
        let limited := q.limited 16384
        checkNumber a true rest (limited == q)
        return limited

/-- A directive with the width and the precision that arguments say for it. -/
def resolved (d : Directive) : Printing Directive := do
  let d ← if d.width == .given then d.withWidth <$> nextWhole true else pure d
  if d.precision == .given then d.withPrecision <$> nextWhole true else return d

/-- Ends printing at once, as an escape asks for. -/
def stopPrinting {α : Type} : Work α := do quit (← get).status

/-- Writes a text with its escapes replaced. -/
def putEscaped (k : Escapes) (d : Directive) (s : Octets) : Work Unit := do
  let (text, stopped) := Escape.replace k s
  put (d.text text)
  if stopped then stopPrinting

/-- Lays out the next argument by a directive, which is written as `source`. -/
def layOut (d : Directive) (source : List Char) (letter : Char) : Printing Unit := do
  let d ← resolved d
  if letter = 's' then put (d.text ((← next?).getD ""))
  else if letter = 'c' then put (d.fill (((← next?).getD "").toList.head?.getD '\x00').toString)
  else if letter = 'b' then putEscaped argumentEscapes d ((← next?).getD "")
  else if letter = 'q' then put (d.text (Shown.plain ((← next?).getD "")))
  else if letter = 'd' ∨ letter = 'i' then put (d.integer letter (← nextWhole true))
  else if ['o', 'u', 'x', 'X'].contains letter then put (d.integer letter (← nextWhole false))
  else if ['e', 'E', 'f', 'F', 'g', 'G', 'a', 'A'].contains letter then put (d.real .tenBytes letter (← nextReal))
  else
    let directive := String.ofList ('%' :: source)
    Work.fail 1 s!"{directive}: invalid conversion specification"

/-- The letters that say how long a number is, which change nothing. -/
def isLength (c : Char) : Bool := ['h', 'l', 'L', 'j', 't', 'z', 'q'].contains c

/-- Prints a format once. The fuel bounds its length. -/
def printOnce : Nat → List Char → Printing Unit
  | 0, _ => return
  | _, [] => return
  | fuel + 1, '\\' :: s => do
    match Escape.read formatEscapes s with
    | (.text t, rest) =>
      put t
      printOnce fuel rest
    | (.stop, _) => stopPrinting
    | (.noDigits, _) => Work.fail 1 "missing hexadecimal number in escape"
  | fuel + 1, '%' :: '%' :: s => do
    put "%"
    printOnce fuel s
  | fuel + 1, '%' :: s => do
    let (d, rest) := Directive.read s
    let behind := if rest.head? == some 'q' then rest else rest.dropWhile isLength
    match behind with
    | [] =>
      let directive := String.ofList ('%' :: s)
      Work.fail 1 s!"{directive}: invalid conversion specification"
    | letter :: rest =>
      layOut d (s.take (s.length - rest.length)) letter
      printOnce fuel rest
  | fuel + 1, c :: s => do
    put c.toString
    printOnce fuel s

/-- Prints a format again as long as it takes arguments and some are left. The fuel bounds the repetitions. -/
def printAll (format : List Char) : Nat → Printing Unit
  | 0 => return
  | fuel + 1 => do
    let before := (← get).length
    printOnce (format.length + 1) format
    let left ← get
    match left with
    | [] => return
    | a :: _ =>
      if left.length < before then printAll format fuel
      else
        let shown := Shown.marked a
        warn s!"warning: ignoring excess arguments, starting with {shown}"

/-- Lays out its arguments by a format. -/
def printf : Utility := fun _ call => complete call.name do
  match if call.arguments.head? = some "--" then call.arguments.drop 1 else call.arguments with
  | [] => failUsage 1 "missing operand"
  | format :: given =>
    let _ ← (printAll format.toList (given.length + 1)).run given

/-! ## Rows of numbers -/

/-- A number with its digits after the point and its length before it. -/
structure Term where
  value : Int
  places : Nat

/-- A decimal number that an argument spells. -/
def Term.read? (s : Octets) : Option Term :=
  let (negative, body) := Number.takeSign (s.toList.dropWhile Numeral.isSpace)
  let (whole, rest) := Number.spanDigits body
  let fraction := rest.drop 1
  if rest.isEmpty ∨ (rest.head? = some '.' ∧ fraction.all isAsciiDigit) then
    if whole.isEmpty && fraction.isEmpty then none
    else
      let n : Int := Number.digitsValue (whole ++ fraction)
      some ⟨if negative then -n else n, fraction.length⟩
  else none

/-- A number in units of so many places. -/
def Term.scaled (t : Term) (places : Nat) : Int := t.value * 10 ^ (places - t.places)

/-- The text of a number in units of so many places. -/
def placed (places : Nat) (n : Int) : Octets :=
  let ds := Number.padded (places + 1) n.natAbs
  let whole := ds.take (ds.length - places)
  String.ofList ((if n < 0 then ['-'] else []) ++ whole ++ if places = 0 then [] else '.' :: ds.drop (ds.length - places))

/-- A number as an argument of the row. -/
def termOf (s : Octets) : Work Term := do
  match Term.read? s with
  | some t => return t
  | none =>
    let shown := Shown.marked s
    failUsage 1 s!"invalid floating point argument: {shown}"

/-- A text with zeros in front of its digits, up to a width. -/
def zeroPadded (width : Nat) (s : Octets) : Octets :=
  match s.toList with
  | '-' :: ds => "-" ++ Numeral.padLeft '0' (width - 1) (String.ofList ds)
  | ds => Numeral.padLeft '0' width (String.ofList ds)

/-- Writes a row of numbers from one on, in blocks. The fuel bounds their count. -/
def writeRow (text : Int → Octets) (separator : Octets) (step last : Int) : Nat → Int → Bool → Work Bool
  | 0, _, any => return any
  | fuel + 1, n, any => do
    if (0 ≤ step && last < n) || (step < 0 && n < last) then return any
    put ((if any then separator else "") ++ text n)
    if (← get).held.length % 4096 = 0 then flush
    writeRow text separator step last fuel (n + step) true

/-- Writes a row of numbers. -/
def seq : Utility := fun _ call => complete call.name do
  let isNumber (s : Octets) : Bool := (Term.read? s).isSome
  let front := call.arguments.takeWhile (!isNumber ·)
  let valued := call.arguments.drop front.length
  let options ← Arguments.readInOrder
    [.valued 's' "separator", .valued 'f' "format", .flag 'w' "equal-width"] 1 front
  let operands := options.operands ++ valued
  match operands with
  | [] => failUsage 1 "missing operand"
  | _ :: _ :: _ :: extra :: _ =>
    let shown := Shown.marked extra
    failUsage 1 s!"extra operand {shown}"
  | _ => pure ()
  let terms ← operands.mapM termOf
  let (first, step, last) : Term × Term × Term :=
    match terms with
    | [last] => (⟨1, 0⟩, ⟨1, 0⟩, last)
    | [first, last] => (first, ⟨1, 0⟩, last)
    | [first, step, last] => (first, step, last)
    | _ => (⟨1, 0⟩, ⟨1, 0⟩, ⟨0, 0⟩)
  let places := max first.places step.places
  let scale := max places last.places
  let unit : Int := 10 ^ (scale - places)
  if step.value = 0 then
    let shown := Shown.marked ((operands[1]?).getD "")
    failUsage 1 s!"invalid Zero increment value: {shown}"
  let text (n : Int) : Octets := placed places (n / unit)
  let ends := [first.scaled scale, last.scaled scale].map fun n => (text n).length
  let width := if options.has 'w' then ends.foldl max 0 else 0
  let laidOut (n : Int) : Octets :=
    match options.value? 'f' with
    | none => zeroPadded width (text n)
    | some format =>
      let cs := format.toList
      let front := cs.takeWhile (· != '%')
      match Directive.read (cs.drop (front.length + 1)) with
      | (d, letter :: rest) =>
        String.ofList front ++ d.real .tenBytes letter (.finite (n < 0) n.natAbs (10 ^ scale)) ++ String.ofList rest
      | (_, []) => format
  let any ← writeRow laidOut ((options.value? 's').getD "\n") (step.scaled scale) (last.scaled scale) 1000000000
    (first.scaled scale) false
  if any then put "\n"

end ElmAssay.Machine.Utility
