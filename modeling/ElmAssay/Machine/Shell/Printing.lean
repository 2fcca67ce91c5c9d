import ElmAssay.Machine.Directive
import ElmAssay.Machine.Escape

/-!
# What a shell prints

The two commands by which a shell prints without the help of a program. One writes its arguments in a line
(`echoed`); the other one lays them out by a format, which is used again as long as there are arguments left
(`Format.print`). What it finds wrong with its arguments it tells before it writes.
-/

namespace ElmAssay.Machine.Shell

open Text

/-- The escapes in a format. -/
def formatEscapes : Escapes := ⟨false, false, false, false⟩

/-- The escapes in an argument. -/
def argumentEscapes : Escapes := ⟨true, true, false, false⟩

/-- The arguments in a line, where an escape may end all. -/
def echoedFrom (hasEnd : Bool) : List Octets → Octets
  | [] => if hasEnd then "\n" else ""
  | a :: rest =>
    let (s, stopped) := Escape.replace argumentEscapes a
    if stopped then s
    else if rest.isEmpty then s ++ (if hasEnd then "\n" else "")
    else s ++ " " ++ echoedFrom hasEnd rest

/-- What the arguments of the plain command print. -/
def echoed : List Octets → Octets
  | "-n" :: rest => echoedFrom false rest
  | arguments => echoedFrom true arguments

namespace Format

/-- What was printed so far, the arguments that are left, and what was found wrong with some, latest first. -/
structure Progress where
  output : List Octets
  given : List Octets
  warnings : List Octets

/-- Why printing ends before its time. -/
inductive Stop
  | done
  | defect (message : Octets)
  deriving DecidableEq, Repr

/-- A step of printing. -/
abbrev Step (α : Type) := ExceptT Stop (StateM Progress) α

/-- Prints a text. -/
def put (s : Octets) : Step Unit := modify fun p => { p with output := s :: p.output }

/-- The next argument, if there is one. -/
def next? : Step (Option Octets) := do
  match (← get).given with
  | [] => return none
  | a :: rest =>
    modify fun p => { p with given := rest }
    return some a

/-- Notes that something is wrong with an argument. -/
def complain (argument what : Octets) : Step Unit :=
  modify fun p => { p with warnings := s!"{argument}: {what}" :: p.warnings }

/-- What is wrong with a number that is too large. -/
def outOfRange : String := "Numerical result out of range"

/-- Notes what is wrong with a number that was read up to a place. -/
def check (argument : Octets) (found : Bool) (rest : List Char) (fits : Bool) : Step Unit := do
  if !found && !argument.isEmpty then complain argument "expected numeric value"
  else if !rest.isEmpty then complain argument "not completely converted"
  else if !fits then complain argument outOfRange

/-- The code of the character behind a quote. -/
def quotedCode? (argument : Octets) : Option Nat :=
  match argument.toList with
  | '"' :: rest => some ((rest.head?.map Char.toNat).getD 0)
  | '\'' :: rest => some ((rest.head?.map Char.toNat).getD 0)
  | _ => none

/-- The next argument as a whole number. -/
def nextWhole (signed : Bool) : Step Int := do
  match ← next? with
  | none => return 0
  | some a =>
    match quotedCode? a with
    | some n => return n
    | none =>
      let r := Numeral.read none a.toList
      let fits := if signed then Numeral.fits r.value else decide (r.value.natAbs < 2 ^ 64)
      check a r.found (if r.found then r.rest else []) fits
      if fits then return r.value
      else return if signed then Numeral.clamp r.value else 2 ^ 64 - 1

/-- The next argument as a number with a fraction. -/
def nextReal : Step Quantity := do
  match ← next? with
  | none => return .ofInt 0
  | some a =>
    match quotedCode? a with
    | some n => return .ofInt n
    | none =>
      match Quantity.read 53 a.toList with
      | none =>
        check a false [] true
        return .ofInt 0
      | some (q, rest) =>
        let limited := q.limited 1024
        check a true rest (limited == q)
        return limited

/-- A directive with the width and the precision that arguments say for it. -/
def resolved (d : Directive) : Step Directive := do
  let d ← if d.width == .given then d.withWidth <$> nextWhole true else pure d
  if d.precision == .given then d.withPrecision <$> nextWhole true else return d

/-- Lays out the next argument by a directive, which is written as `source`. -/
def layOut (d : Directive) (source : List Char) (letter : Char) : Step Unit := do
  let d ← resolved d
  if letter = 's' then put (d.text ((← next?).getD ""))
  else if letter = 'c' then put (d.fill (((← next?).getD "").toList.head?.getD '\x00').toString)
  else if letter = 'b' then
    let (s, stopped) := Escape.replace argumentEscapes ((← next?).getD "")
    put (d.text s)
    if stopped then throw .done
  else if letter = 'd' ∨ letter = 'i' then put (d.integer letter (← nextWhole true))
  else if ['o', 'u', 'x', 'X'].contains letter then put (d.integer letter (← nextWhole false))
  else if ['e', 'E', 'f', 'F', 'g', 'G', 'a', 'A'].contains letter then put (d.real .eightBytes letter (← nextReal))
  else
    let directive := String.ofList ('%' :: source)
    throw (.defect s!"{directive}: invalid directive")

/-- Prints a format once. The fuel bounds its length. -/
def printOnce : Nat → List Char → Step Unit
  | 0, _ => return
  | _, [] => return
  | fuel + 1, '\\' :: s => do
    match Escape.read formatEscapes s with
    | (.text t, rest) =>
      put t
      printOnce fuel rest
    | _ => return
  | fuel + 1, '%' :: '%' :: s => do
    put "%"
    printOnce fuel s
  | fuel + 1, '%' :: s => do
    match Directive.read s with
    | (_, []) => throw (.defect "missing format character")
    | (d, letter :: rest) =>
      layOut d (s.take (s.length - rest.length)) letter
      printOnce fuel rest
  | fuel + 1, c :: s => do
    put c.toString
    printOnce fuel s

/-- Prints a format again as long as it takes arguments and some are left. The fuel bounds the repetitions. -/
def printAll (format : List Char) : Nat → Step Unit
  | 0 => return
  | fuel + 1 => do
    let before := (← get).given.length
    printOnce (format.length + 1) format
    let after := (← get).given.length
    if after != 0 && after < before then printAll format fuel

/-- What a format prints with some arguments: the output, what is wrong with arguments, and what is wrong with the
format. -/
def print (format : Octets) (arguments : List Octets) : Octets × List Octets × Option Octets :=
  let (result, p) := ((printAll format.toList (arguments.length + 1)).run).run ⟨[], arguments, []⟩
  (String.join p.output.reverse, p.warnings.reverse,
    match result with
    | .error (.defect message) => some message
    | _ => none)

end Format
end ElmAssay.Machine.Shell
