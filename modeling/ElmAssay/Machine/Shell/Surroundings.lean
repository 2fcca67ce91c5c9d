import ElmAssay.Machine.Shell.Lookup
import ElmAssay.Machine.Shell.Settings

/-!
# The surroundings of a shell

The directory that a shell is in (`changingDirectory`), which it knows by a path without detours, the mask for the rights
of new files (`masking`), and how the shell prints (`tell`).
-/

namespace ElmAssay.Machine.Shell

/-- Prints a text for a builtin command and gives its status, which tells if nothing can be printed. -/
def tell (s : Octets) (status : Nat) : Shell Nat := do
  if s.isEmpty then return status
  match ← ask (.write 1 s) with
  | .ok _ => return status
  | .error _ =>
    let name := ((← get).builtin).getD ""
    warn s!"{name}: I/O error"
    return status ||| 1

/-- A path from the top, where a part that goes up takes away the part in front of it. -/
def withoutDetours (current path : Octets) : Octets :=
  let parts (p : Octets) : List Octets := (Text.cut '/' p.toList).map String.ofList
  let step (done : List Octets) (part : Octets) : List Octets :=
    if part = "" ∨ part = "." then done else if part = ".." then done.drop 1 else part :: done
  let start := if path.startsWith "/" then [] else (parts current).foldl step []
  let front := if path.startsWith "//" && !path.startsWith "///" then "//" else "/"
  front ++ "/".intercalate ((parts path).foldl step start).reverse

/-- Takes note of the directory that the shell is in. -/
def arriveAt (path : Octets) : Shell Unit :=
  modify fun s => { s with here := path }.withVariable ⟨"PWD", some path, true, false⟩

/-- Goes to a directory, by the directories that are there if `physically`, and else by the text of the path. The answer
says whether it was possible. -/
def goTo (physically : Bool) (path : Octets) : Shell Bool := do
  let current := (← get).here
  let target := if physically then path else withoutDetours current path
  match ← ask (.enter target) with
  | .error _ => return false
  | .ok _ =>
    modify fun s => s.withVariable ⟨"OLDPWD", some current, true, false⟩
    if physically then arriveAt (← ask .whereabouts) else arriveAt target
    return true

/-- Whether a path starts with a part that is a place by itself. -/
def isAnchored (path : Octets) : Bool :=
  path.startsWith "/" || path == "." || path == ".." || path.startsWith "./" || path.startsWith "../"

/-- The first directory with a path in one of those that are looked through for it, and whether it is shown. -/
def foundOnWay (path : Octets) : List Octets → Shell (Option (Octets × Bool))
  | [] => return none
  | directory :: rest => do
    let target := if directory.isEmpty then path else directory ++ "/" ++ path
    if ← lift (Routine.isDirectory target) then return some (target, !directory.isEmpty)
    foundOnWay path rest

/-- The place that a directory is meant to be at, and whether it is shown. -/
def placeOf (path : Octets) : Shell (Octets × Bool) := do
  if isAnchored path then return (path, false)
  let path := if path.isEmpty then "." else path
  match (← get).value? "CDPATH" with
  | none => return (path, false)
  | some search =>
    return (← foundOnWay path ((Text.cut ':' search.toList).map String.ofList)).getD (path, false)

/-- Whether the last of the options that were given calls for the directories that are there. -/
def isPhysical (chosen : List (Char × Octets)) : Bool := (chosen.getLast?).any (·.1 == 'P')

/-- Changes the directory. -/
def changingDirectory (arguments : List Octets) : Shell Nat := do
  let (chosen, arguments) ← readOptions [('L', false), ('P', false)] arguments
  let s ← get
  let isBack := arguments.head? == some "-"
  let path := if isBack then s.valueOf "OLDPWD" else (arguments.head?).getD (s.valueOf "HOME")
  let (target, isShown) ← placeOf path
  if !(← goTo (isPhysical chosen) target) then
    let path := if path.isEmpty then "." else path
    fail s!"can't cd to {path}"
  else if isBack || isShown then tell ((← get).here ++ "\n") 0
  else return 0

/-- Prints the directory. -/
def tellingDirectory (arguments : List Octets) : Shell Nat := do
  let (chosen, _) ← readOptions [('L', false), ('P', false)] arguments
  let here := (← get).here
  let there ← ask .whereabouts
  tell ((if isPhysical chosen then there else here) ++ "\n") 0

/-! ## The mask -/

/-- The rights that a mask leaves, by letters. -/
def rights (mask : Nat) : Octets :=
  let of (who : Char) (shift : Nat) : String :=
    let bits := 7 - mask / shift % 8
    let letter (c : Char) (bit : Nat) : List Char := if bits / bit % 2 = 1 then [c] else []
    String.ofList ([who, '='] ++ letter 'r' 4 ++ letter 'w' 2 ++ letter 'x' 1)
  ",".intercalate [of 'u' 64, of 'g' 8, of 'o' 1]

/-- The mask after one change by letters: for whom, how, and which rights. -/
def changedMask (mask : Nat) (change : List Char) : Option Nat :=
  let who := change.takeWhile fun c => ['u', 'g', 'o', 'a'].contains c
  match change.drop who.length with
  | operator :: letters =>
    if !(['+', '-', '='].contains operator) || !letters.all (fun c => ['r', 'w', 'x', 'X', 's', 't'].contains c) then none
    else
      let bit (c : Char) (b : Nat) : Nat := if letters.contains c then b else 0
      let bits := bit 'r' 4 + bit 'w' 2 + max (bit 'x' 1) (bit 'X' 1)
      let part (c : Char) (shift : Nat) : Nat :=
        let old := mask / shift % 8
        let isMeant := who.isEmpty || who.contains 'a' || who.contains c
        let new :=
          if !isMeant then old
          else if operator = '=' then 7 - bits
          else if operator = '+' then old &&& (7 - bits)
          else old ||| bits
        new * shift
      some (part 'u' 64 + part 'g' 8 + part 'o' 1)
  | [] => none

/-- Shows or sets the mask for the rights of new files. -/
def masking (arguments : List Octets) : Shell Nat := do
  let (chosen, arguments) ← readOptions [('S', false)] arguments
  let mask ← ask (.mask none)
  match arguments with
  | [] =>
    let octal := Numeral.padLeft '0' 4 (String.ofList (Numeral.digitsIn 8 mask))
    tell ((if chosen.isEmpty then octal else rights mask) ++ "\n") 0
  | a :: _ =>
    let cs := a.toList
    if cs.head?.any Text.isAsciiDigit then
      if cs.all (Numeral.isDigitIn 8) then
        let _ ← ask (.mask (some (Numeral.valueIn 8 cs % 512)))
        return 0
      else fail s!"Illegal number: {a}"
    else
      match (Text.cut ',' cs).foldlM changedMask mask with
      | some mask =>
        let _ ← ask (.mask (some mask))
        return 0
      | none => fail s!"Illegal mode: {a}"

end ElmAssay.Machine.Shell
