import ElmAssay.Machine.Columns
import ElmAssay.Machine.Utility.Reading

/-!
# Utilities on tabs

Programs that write tabs as spaces (`expand`) or spaces as tabs (`unexpand`), and how their options list tab stops.
-/

namespace ElmAssay.Machine.Utility

open Text Work

namespace TabReading

/-- What was read of a list of tab stops: those that are listed, latest first, and how they go on; the number that is being
read, its digits and the mark in front of it; and whether something is wrong. -/
structure Draft where
  listed : List Nat
  multiples : Option Nat
  steps : Option Nat
  digits : List Char
  mark : Option Char
  isSpoiled : Bool

/-- The draft with the number that was being read. -/
def Draft.finish (d : Draft) : Work Draft := do
  if d.digits.isEmpty then return d
  let n := Number.digitsValue d.digits.reverse
  let d := { d with digits := [] }
  let only (mark : Octets) (old : Option Nat) : Work Bool := do
    if (old.getD 0) != 0 then
      let shown := "'" ++ mark ++ "'"
      warn s!"{shown} specifier only allowed with the last value"
      return true
    else return false
  match d.mark with
  | some '/' =>
    let isTwice ← only "/" d.multiples
    return { d with multiples := some n, isSpoiled := d.isSpoiled || isTwice }
  | some _ =>
    let isTwice ← only "+" d.steps
    return { d with steps := some n, isSpoiled := d.isSpoiled || isTwice }
  | none => return { d with listed := n :: d.listed }

/-- Reads a list of tab stops, and ends the utility if there is something wrong with it. The fuel bounds its length. -/
def readStops : Nat → Draft → List Char → Work Draft
  | 0, d, _ => return d
  | fuel + 1, d, s => do
    let here := Shown.marked (String.ofList s)
    match s with
    | [] =>
      let d ← if d.isSpoiled then pure d else d.finish
      if d.isSpoiled then quit 1 else return { d with mark := none }
    | c :: cs =>
      if c = ',' || TabStops.isBlank c then
        let d ← d.finish
        if d.isSpoiled then quit 1 else readStops fuel { d with digits := [] } cs
      else if c = '/' || c = '+' then
        let isLate := !d.digits.isEmpty
        if isLate then
          let mark := "'" ++ c.toString ++ "'"
          warn s!"{mark} specifier not at start of number: {here}"
        readStops fuel { d with mark := some c, isSpoiled := d.isSpoiled || isLate } cs
      else if isAsciiDigit c then
        let d := { d with digits := c :: d.digits }
        if 2 ^ 64 ≤ Number.digitsValue d.digits.reverse then
          let (rest, behind) := Number.spanDigits cs
          let whole := Shown.marked (String.ofList (d.digits.reverse ++ rest))
          warn s!"tab stop is too large {whole}"
          readStops fuel { d with isSpoiled := true } behind
        else readStops fuel d cs
      else
        warn s!"tab size contains invalid character(s): {here}"
        quit 1

/-- Reads one more list of tab stops. -/
def Draft.take (d : Draft) (text : Octets) : Work Draft := readStops (text.length + 1) { d with mark := none } text.toList

/-- The tab stops of a draft. -/
def Draft.stops (d : Draft) : Work TabStops := do
  let listed := d.listed.reverse
  for (n, before) in listed.zip (0 :: listed) do
    if n = 0 then Work.fail 1 "tab size cannot be 0"
    if n ≤ before then Work.fail 1 "tab sizes must be ascending"
  let positive (n : Option Nat) : Option Nat := n.filter (0 < ·)
  match positive d.multiples, positive d.steps with
  | some _, some _ => Work.fail 1 "'/' specifier is mutually exclusive with '+'"
  | some n, none => return .ofParts listed (some (.multiples n))
  | none, some n => return .ofParts listed (some (.steps n))
  | none, none => return .ofParts listed none

end TabReading

/-- Writes all lines of some files after a change, as if the files were one. -/
def changeLines (paths : List Octets) (change : List Char → List Char) : Work Unit := do
  let mut text : List Octets := []
  for path in Work.orInput paths do
    match ← readInput? path with
    | some data => text := data :: text
    | none => pure ()
  let parts := Text.cut '\n' (String.join text.reverse).toList
  put ("\n".intercalate (parts.map fun line => String.ofList (change line)))

/-- Writes lines with spaces instead of tabs. -/
def expand : Utility := fun _ call => complete call.name do
  let digits := "0123456789".toList.map fun c => Switch.mk c true "" .attached
  let options ← Arguments.read ([.flag 'i' "initial", .valued 't' "tabs"] ++ digits) 1 call.arguments
  let d ← options.options.foldlM (fun (d : TabReading.Draft) o => do
    if o.1 = 'i' then return d
    else if o.1 = 't' then d.take (o.2.getD "")
    else d.take (o.1.toString ++ o.2.getD "")) ⟨[], none, none, [], none, false⟩
  let stops ← d.stops
  changeLines options.operands (stops.expandLine (!options.has 'i'))

/-- Writes lines with tabs instead of spaces. -/
def unexpand : Utility := fun _ call => complete call.name do
  let digits := ",0123456789".toList.map fun c => Switch.flag c ""
  let options ← Arguments.read
    ([.flag 'a' "all", .valued 't' "tabs", .named 'f' "first-only" .nothing] ++ digits) 1 call.arguments
  let listNumber (d : TabReading.Draft) : TabReading.Draft :=
    if d.digits.isEmpty then d
    else { d with listed := Number.digitsValue d.digits.reverse :: d.listed, digits := [] }
  let (d, held) ← options.options.foldlM (fun (acc : TabReading.Draft × List Char) o => do
    let (d, held) := acc
    if o.1 = 't' then return (← d.take (o.2.getD ""), held)
    else if o.1 = ',' then return (listNumber { d with digits := held }, [])
    else if isAsciiDigit o.1 then
      let held := o.1 :: held
      if 2 ^ 64 ≤ Number.digitsValue held.reverse then Work.fail 1 "tab stop value is too large"
      else return (d, held)
    else return (d, held)) (⟨[], none, none, [], none, false⟩, [])
  let stops ← (listNumber { d with digits := held }).stops
  let whole := (options.has 'a' || options.has 't') && !options.has 'f'
  changeLines options.operands (stops.unexpandLine whole)

end ElmAssay.Machine.Utility
