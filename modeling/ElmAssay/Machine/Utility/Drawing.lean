import ElmAssay.Machine.Rules.Chance
import ElmAssay.Machine.Utility.Basic

/-!
# The program that shuffles

Writes lines, words or numbers in an order that is drawn, or draws from them again and again (`shuf`).

Numbers are drawn from a source of bytes so that each is as likely as any other (`Draw.below?`). What a draw leaves of the
bytes serves the next one: it is a number of which nothing is known but that it is at most so great. From such numbers come
arrangements (`Draw.arrangement?`) and samples of rows of unknown length (`Draw.sample?`). A draw fails if the source ends.
-/

namespace ElmAssay.Machine

/-- Where bytes come from. -/
inductive Draw.Source
  /-- Given ones, which end. -/
  | given (bytes : List Char)
  /-- A sequence without end. -/
  | chance (c : Rules.Chance)

/-- A source, and what is left of the last draw: a number and the greatest one that it could have been. -/
structure Draw where
  source : Draw.Source
  number : Nat
  greatest : Nat

namespace Draw

/-- The next byte of a source. -/
def Source.next? : Source → Option (Nat × Source)
  | given [] => none
  | given (b :: rest) => some (b.toNat, given rest)
  | chance c =>
    let (n, c) := c.next
    some (n / 256 % 256, chance c)

/-- The count of bytes that a source still has, or a bound of what one without end is asked for. -/
def Source.length : Source → Nat
  | given bytes => bytes.length
  | chance _ => 1000

/-- Appends bytes to the number until it could be as great as a bound. The fuel bounds the bytes. -/
def widen (bound : Nat) : Nat → Draw → Option Draw
  | 0, _ => none
  | fuel + 1, d =>
    if bound ≤ d.greatest then some d
    else
      match d.source.next? with
      | none => none
      | some (byte, source) => widen bound fuel ⟨source, d.number * 256 + byte, d.greatest * 256 + 255⟩

/-- Draws a number up to a bound. A number in the last row of the remainders, if that row is not complete, is drawn again.
The fuel bounds how often. -/
def upToFrom (bound : Nat) : Nat → Draw → Option (Nat × Draw)
  | 0, _ => none
  | fuel + 1, d =>
    match widen bound (d.source.length + 1) d with
    | none => none
    | some d =>
      if d.greatest = bound then some (d.number, { d with number := 0, greatest := 0 })
      else
        let choices := bound + 1
        let excess := d.greatest - bound
        let unusable := excess % choices
        let last := d.greatest - unusable
        if d.number ≤ last then some (d.number % choices, { d with number := d.number / choices, greatest := excess / choices })
        else upToFrom bound fuel { d with number := d.number - last - 1, greatest := unusable - 1 }

/-- Draws a number below another one. -/
def below? (n : Nat) (d : Draw) : Option (Nat × Draw) := upToFrom (n - 1) (d.source.length + 1) d

/-- Lets so many of the numbers in an array, from a place on, trade places with ones that are drawn from there on. -/
def arrangeFrom (place : Nat) : Nat → Array Nat → Draw → Option (Array Nat)
  | 0, a, _ => some a
  | count + 1, a, d =>
    match below? (a.size - place) d with
    | none => none
    | some (n, d) => arrangeFrom (place + 1) count (a.swapIfInBounds place (place + n)) d

/-- The same, where only the numbers that are not at their own places are kept. -/
def arrangeFew (size place : Nat) : Nat → List (Nat × Nat) → Draw → Option (List Nat)
  | 0, _, _ => some []
  | count + 1, moved, d =>
    match below? (size - place) d with
    | none => none
    | some (n, d) =>
      let held (i : Nat) : Nat := (moved.lookup i).getD i
      (arrangeFew size (place + 1) count ((place + n, held place) :: moved) d).map (held (place + n) :: ·)

/-- So many of the numbers below another one, in an order that is drawn. -/
def arrangement? (count size : Nat) (d : Draw) : Option (List Nat) :=
  let count := min count size
  if size / 32 < count then (arrangeFrom 0 count (Array.range size) d).map fun a => a.toList.take count
  else arrangeFew size 0 count [] d

/-- Lets each of some rows take the place of one that was kept, or none; `seen` is the count of rows so far. The place is
drawn before it is known whether there is one more row. -/
def sampleFrom {α : Type} : Nat → List α → Array α → Draw → Option (Array α × Draw)
  | seen, [], kept, d => (below? (seen + 1) d).map fun (_, d) => (kept, d)
  | seen, row :: rest, kept, d =>
    match below? (seen + 1) d with
    | none => none
    | some (n, d) => sampleFrom (seen + 1) rest (kept.setIfInBounds n row) d

/-- So many of some rows, each as likely as any other, without knowledge of their count. -/
def sample? {α : Type} (count : Nat) (rows : List α) (d : Draw) : Option (List α × Draw) :=
  if rows.length < count then some (rows, d)
  else (sampleFrom count (rows.drop count) (rows.take count).toArray d).map fun (kept, d) => (kept.toList, d)

end Draw
end ElmAssay.Machine

namespace ElmAssay.Machine.Utility

open Work

namespace Drawing

/-- What there is to draw from. -/
inductive Urn
  | rows (texts : List Octets)
  /-- Numbers from one on. -/
  | numbers (first count : Nat)

/-- The count of what there is. -/
def Urn.count : Urn → Nat
  | rows texts => texts.length
  | numbers _ count => count

/-- The options. -/
def switches : List Switch :=
  [.flag 'e' "echo", .valued 'i' "input-range", .valued 'n' "head-count", .valued 'o' "output", .named 'S' "random-source" .value,
   .flag 'r' "repeat", .flag 'z' "zero-terminated"]

/-- The first number of a range and the count of its numbers. -/
def readRange (text : Octets) : Work (Nat × Nat) := do
  let refuse {α : Type} (d : Size.Defect) : Work α :=
    let shown := Shown.marked text
    Work.fail 1 s!"invalid input range: {shown}{d.ending}"
  let cs := text.toList
  let front := cs.takeWhile Numeral.isSpace
  let (low, rest) := (cs.drop front.length).span fun c => c != '-'
  match Size.read "" (front ++ low), rest with
  | .error d, _ => refuse d
  | .ok _, [] => refuse .malformed
  | .ok low, _ :: high =>
    match Size.read "" high with
    | .error d => refuse d
    | .ok high =>
      if high + 1 < low || Size.limit ≤ high + 1 - low then refuse .malformed
      return (low, high + 1 - low)

/-- The most lines to write, as the options bound it. -/
def readCount : List Octets → Work (Option Nat)
  | [] => return none
  | text :: rest => do
    let n ←
      match Size.read "" text.toList with
      | .ok n => pure (some n)
      | .error .malformed =>
        let shown := Shown.marked text
        Work.fail 1 s!"invalid line count: {shown}"
      | .error _ => pure none
    match n, ← readCount rest with
    | some a, some b => return some (min a b)
    | a, b => return a.or b

/-- The one value that options give, however often. -/
def onlyValue (message : Octets) : List Octets → Work (Option Octets)
  | [] => return none
  | value :: rest => do
    if rest.any (· != value) then Work.fail 1 message
    return some value

/-- The bytes of a file, at most so many. The fuel bounds the steps. -/
def readFront (file : Nat) (most : Nat) : Nat → Octets → Routine Octets
  | 0, held => return held
  | fuel + 1, held => do
    if most ≤ held.length then return held
    match ← Routine.ask (.read file Routine.blockSize) with
    | .error _ => return held
    | .ok data => if data.isEmpty then return held else readFront file most fuel (held ++ data)

/-- What is drawn with, for so many numbers. -/
def openSource (path : Option Octets) (count : Nat) : Work Draw := do
  match path with
  | none => return ⟨.chance (.ofSeed (← ask .now)), 0, 0⟩
  | some path =>
    match ← ask (.openFile path .reading) with
    | .error r =>
      let shown := Shown.plain path
      Work.fail 1 s!"{shown}: {r.wording}"
    | .ok file =>
      let most := 16 * count + Routine.blockSize
      let bytes ← lift (readFront file most (most / Routine.blockSize + 1) "")
      let _ ← ask (.close file)
      return ⟨.given bytes.toList, 0, 0⟩

/-- Draws a row of an urn. -/
def Urn.draw? (u : Urn) (d : Draw) : Option (Octets × Draw) :=
  (d.below? u.count).map fun (n, d) =>
    match u with
    | rows texts => ((texts[n]?).getD "", d)
    | numbers first _ => (Numeral.text (first + n), d)

/-- Ends the program because the source of bytes ended. -/
def failEmpty {α : Type} (path : Option Octets) : Work α := do
  let shown := Shown.marked (path.getD "")
  Work.fail 1 s!"{shown}: end of file"

/-- Draws from an urn so many times. -/
def drawAgain (u : Urn) (path : Option Octets) (lineEnd : Octets) (target : Nat) : Nat → Draw → List Octets → Work Unit
  | 0, _, held => do
    let _ ← ask (.write target (String.join held.reverse))
  | n + 1, d, held => do
    let held ←
      if held.length < 1024 then pure held
      else
        match ← ask (.write target (String.join held.reverse)) with
        | .ok _ => pure []
        | .error r => Work.fail 1 s!"write error: {r.wording}"
    match u.draw? d with
    | some (row, d) => drawAgain u path lineEnd target n d ((row ++ lineEnd) :: held)
    | none => do
      let _ ← ask (.write target (String.join held.reverse))
      failEmpty path

/-- An arrangement of what an urn has, at most so many. -/
def Urn.arranged? (count : Nat) (u : Urn) (d : Draw) : Option (List Octets) :=
  (d.arrangement? count u.count).map fun places =>
    match u with
    | rows texts =>
      let texts := texts.toArray
      places.map fun n => (texts[n]?).getD ""
    | numbers first _ => places.map fun n => Numeral.text (first + n)

/-- The most times that something is drawn where no count bounds it. -/
def endless : Nat := 1000000000

end Drawing

open Drawing in
/-- Writes lines, words or numbers in an order that is drawn. -/
def shuf : Utility := fun _ call => complete call.name do
  let o ← Arguments.read switches 1 call.arguments
  let ranges ← (o.values 'i').mapM readRange
  if 1 < ranges.length then Work.fail 1 "multiple -i options specified"
  let limit ← readCount (o.values 'n')
  let output ← onlyValue "multiple output files specified" (o.values 'o')
  let path ← onlyValue "multiple random sources specified" (o.values 'S')
  let range := ranges.head?
  if o.has 'e' then
    if range.isSome then failUsage 1 "cannot combine -e and -i options"
  else
    if let some extra := o.operands[if range.isSome then 0 else 1]? then
      let shown := Shown.marked extra
      failUsage 1 s!"extra operand {shown}"
  let lineEnd := (lineMark (o.has 'z')).toString
  let isPiped ←
    if (o.operands.head?.getD "-") != "-" then pure false
    else
      match ← ask (.infoOf 0) with
      | .ok i => pure !i.isFile
      | .error _ => pure true
  let ofFile := limit != some 0 && !o.has 'e' && range.isNone
  let urn ←
    if limit = some 0 then pure (Urn.rows [])
    else if o.has 'e' then pure (Urn.rows o.operands)
    else
      match range with
      | some (first, count) => pure (Urn.numbers first count)
      | none =>
        let path := o.operands.head?.getD "-"
        match ← readOperand path with
        | .ok data => pure (Urn.rows (partsBy (lineMark (o.has 'z')) data))
        | .error .isDirectory => Work.fail 1 s!"read error: {Refusal.isDirectory.wording}"
        | .error r =>
          let shown := Shown.plain path
          Work.fail 1 s!"{shown}: {r.wording}"
  let most := limit.getD (if o.has 'r' then endless else urn.count)
  let d ← openSource path (min urn.count 100000 + min most 100000)
  let openOutput : Work Nat := do
    match output with
    | none => return 1
    | some path =>
      match ← ask (.openFile path .writing) with
      | .ok file => return file
      | .error r =>
        let shown := Shown.plain path
        Work.fail 1 s!"{shown}: {r.wording}"
  if o.has 'r' then
    let target ← openOutput
    if limit = some 0 then return
    if urn.count = 0 then Work.fail 1 "no lines to repeat"
    drawAgain urn path lineEnd target most d []
  else
    let sampled : Option (Urn × Draw) :=
      match urn, limit with
      | .rows texts, some n =>
        if ofFile && isPiped then (d.sample? n texts).map fun (kept, d) => (Urn.rows kept, d) else some (urn, d)
      | _, _ => some (urn, d)
    match sampled.bind fun (urn, d) => urn.arranged? most d with
    | none => failEmpty path
    | some rows =>
      let target ← openOutput
      match ← ask (.write target (String.join (rows.map (· ++ lineEnd)))) with
      | .ok _ => return
      | .error r => Work.fail 1 s!"write error: {r.wording}"

end ElmAssay.Machine.Utility
