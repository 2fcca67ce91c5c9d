import ElmAssay.Machine.Shell.Lookup
import ElmAssay.Machine.Shell.Settings

/-!
# Commands on variables

The builtin commands that mark, list, set and take away variables and arguments, and those that give variables their
values from options (`getopts`) and from the input (`read`).
-/

namespace ElmAssay.Machine.Shell

open Text

/-- Gives a variable a value if it has the name of one. -/
def assignNamed (name value : Octets) : Shell Unit := do
  if isName name.toList then assign name value else fail s!"{name}: bad variable name"

/-- The name and the value that an argument gives a variable. -/
def nameAndValue (argument : Octets) : Octets × Option Octets :=
  let cs := argument.toList
  let name := cs.takeWhile (· != '=')
  (String.ofList name, if name.length < cs.length then some (String.ofList (cs.drop (name.length + 1))) else none)

/-- A list of variables, each with its value behind a front. -/
def listing (front : Octets) (vs : List Variable) : Octets :=
  let line (v : Variable) : Octets := front ++ v.name ++ v.value.elim "" (fun s => "=" ++ singleQuoted s) ++ "\n"
  String.join ((vs.mergeSort fun a b => a.name ≤ b.name).map line)

/-- Marks variables, or lists those that are marked. -/
def mark (front : Octets) (isMarked : Variable → Bool) (change : Variable → Variable) (arguments : List Octets) :
    Shell Nat := do
  let (chosen, names) ← readOptions [('p', false)] arguments
  if !chosen.isEmpty || names.isEmpty then
    lift (Routine.emit (listing front ((← get).bindings.filter isMarked)))
  else
    for a in names do
      let (name, value) := nameAndValue a
      if !isName name.toList then fail s!"{name}: bad variable name"
      match value with
      | some value => assign name value
      | none => pure ()
      modify fun s => s.withVariable (change ((s.binding? name).getD ⟨name, none, false, false⟩))
  return 0

/-- Hands variables on to programs. -/
def exporting (arguments : List Octets) : Shell Nat :=
  mark "export " (·.isExported) (fun v => { v with isExported := true }) arguments

/-- Protects variables. -/
def protecting (arguments : List Octets) : Shell Nat :=
  mark "readonly " (·.isReadonly) (fun v => { v with isReadonly := true }) arguments

/-- Takes away variables or functions. -/
def unset (arguments : List Octets) : Shell Nat := do
  let (chosen, names) ← readOptions [('v', false), ('f', false)] arguments
  let isFunction := (chosen.getLast?.map Prod.fst) == some 'f'
  for name in names do
    if isFunction then modify fun s => { s with functions := s.functions.filter fun f => f.1 != name }
    else
      if !isName name.toList then fail s!"{name}: bad variable name"
      if (((← get).binding? name).map (·.isReadonly)).getD false then fail s!"{name}: is read only"
      modify fun s => s.withoutVariable name
  return 0

/-- Makes variables local to the function that runs. -/
def localize (arguments : List Octets) : Shell Nat := do
  for a in arguments do
    match (← get).hidden with
    | [] => fail "not in a function"
    | frame :: outer =>
      let (name, value) := nameAndValue a
      if !isName name.toList then fail s!"{name}: bad variable name"
      modify fun s => { s with hidden := ((name, s.binding? name) :: frame) :: outer }
      match value with
      | some value => assign name value
      | none => modify fun s => s.withVariable ((s.binding? name).getD ⟨name, none, false, false⟩)
  if (← get).hidden.isEmpty then fail "not in a function"
  return 0

/-- The state with other arguments. -/
def State.withArguments (s : State) (arguments : List Octets) : State :=
  { s with arguments := arguments, optionPlace := (1, 0) }

/-- Sets options and arguments, or lists the variables. -/
def setting (arguments : List Octets) : Shell Nat := do
  if arguments.isEmpty then lift (Routine.emit (listing "" ((← get).bindings.filter (·.value.isSome))))
  else
    let settings ← readSettings false arguments
    if settings.isMarked || !settings.rest.isEmpty then modify (·.withArguments settings.rest)
  return 0

/-- Takes arguments away from the front. -/
def shift (arguments : List Octets) : Shell Nat := do
  let n ← arguments.head?.elim (pure 1) numberOf
  let s ← get
  if s.arguments.length < n then fail "can't shift that many"
  set (s.withArguments (s.arguments.drop n))
  return 0

/-! ## Options as values -/

/-- What the next letter of an argument says: the value for the variable, that for its argument, and the place behind.
`place` is the argument that follows and `rest` are the letters behind this one. -/
def chooseOption (known : List Char) (arguments : List Octets) (place : Nat) (c : Char) (rest : List Char) :
    Shell (Char × Option Octets × Nat × Nat) := do
  let isSilent := known.head? == some ':'
  let behind (rest : List Char) (place : Nat) : Nat × Nat :=
    match arguments[place - 2]? with
    | some a => (place, if rest.isEmpty then 0 else a.length - rest.length)
    | none => (place, 0)
  let here := known.dropWhile (· != c)
  if c = ':' ∨ here.isEmpty then
    if isSilent then return ('?', some c.toString, behind rest place)
    lift (Routine.protest s!"Illegal option -{c}\n")
    return ('?', none, behind rest place)
  else if here[1]? = some ':' then
    if !rest.isEmpty then return (c, some (String.ofList rest), place, 0)
    match arguments[place - 1]? with
    | some a => return (c, some a, place + 1, 0)
    | none =>
      if isSilent then return (':', some c.toString, place, 0)
      lift (Routine.protest s!"No arg for -{c} option\n")
      return ('?', none, place, 0)
  else return (c, some "", behind rest place)

/-- Gives a variable the next option of some arguments. The status says whether there was one. -/
def nextOption (arguments : List Octets) : Shell Nat := do
  let (_, arguments) ← readOptions [] arguments
  match arguments with
  | known :: name :: given =>
    let s ← get
    let given := if given.isEmpty then s.arguments else given
    let (index, offset) := if given.length + 1 < s.optionPlace.1 then (1, 0) else s.optionPlace
    let inside : List Char := if index ≤ 1 ∨ offset = 0 then [] else ((given[index - 2]?).getD "").toList.drop offset
    let finish (c : Char) (argument : Option (Option Octets)) (place : Nat × Nat) (status : Nat) : Shell Nat := do
      match argument with
      | some (some value) => assign "OPTARG" value
      | some none => modify fun s => s.withoutVariable "OPTARG"
      | none => pure ()
      assign "OPTIND" (Numeral.text place.1)
      modify fun s => { s with optionPlace := place }
      assignNamed name c.toString
      return status
    let go (c : Char) (rest : List Char) (place : Nat) : Shell Nat := do
      let (value, argument, place) ← chooseOption known.toList given place c rest
      finish value (some argument) place 0
    match inside with
    | c :: rest => go c rest index
    | [] =>
      match ((given[index - 1]?).getD "").toList with
      | ['-', '-'] => finish '?' none (index + 1, 0) 1
      | '-' :: c :: rest => go c rest (index + 1)
      | _ => finish '?' none (index, 0) 1
  | _ => fail "Usage: getopts optstring var [arg...]"

/-! ## Values from the input -/

/-- The characters of a line up to its end, each with whether it was quoted by a backslash, and whether the line goes on
behind a backslash at its end. -/
def lineChars (isRaw : Bool) : List Char → List (Char × Bool) × Bool
  | [] => ([], false)
  | '\n' :: _ => ([], false)
  | '\x00' :: cs => lineChars isRaw cs
  | '\\' :: c :: cs =>
    if isRaw then
      let (line, more) := lineChars isRaw (c :: cs)
      (('\\', false) :: line, more)
    else if c = '\n' then ([], true)
    else
      let (line, more) := lineChars isRaw cs
      ((c, true) :: line, more)
  | ['\\'] => (if isRaw then [('\\', false)] else [], false)
  | c :: cs =>
    let (line, more) := lineChars isRaw cs
    ((c, false) :: line, more)

/-- Reads a line. The answer is its characters and whether it was a whole one. The fuel bounds the lines it is joined
from. -/
def readLine (isRaw : Bool) : Nat → Shell (List (Char × Bool) × Bool)
  | 0 => return ([], false)
  | fuel + 1 => do
    match ← ask (.readLine 0) with
    | .error _ => return ([], false)
    | .ok data =>
      let (line, more) := lineChars isRaw data.toList
      if more then
        let (rest, isWhole) ← readLine isRaw fuel
        return (line ++ rest, isWhole)
      else return (line, data.toList.getLast? == some '\n')

/-- The fields of a line for so many variables. The last one gets all that is left. -/
def lineFields (separators : List Char) : Nat → List (Char × Bool) → List Octets
  | 0, _ => []
  | n + 1, line =>
    let isSeparator (p : Char × Bool) : Bool := !p.2 && separators.contains p.1
    let isSoft (p : Char × Bool) : Bool := isSeparator p && (p.1 == ' ' || p.1 == '\t' || p.1 == '\n')
    let text (ps : List (Char × Bool)) : Octets := String.ofList (ps.map Prod.fst)
    let line := line.dropWhile isSoft
    let field := line.takeWhile (!isSeparator ·)
    let rest := (line.drop field.length).dropWhile isSoft
    let rest :=
      match rest with
      | p :: ps => if isSeparator p then ps.dropWhile isSoft else rest
      | [] => []
    if n = 0 then [if rest.isEmpty then text field else text (line.reverse.dropWhile isSoft).reverse]
    else text field :: lineFields separators n rest

/-- Reads a line into variables. The status says whether there was a whole one. -/
def reading (arguments : List Octets) : Shell Nat := do
  let (chosen, names) ← readOptions [('r', false), ('p', true)] arguments
  if names.isEmpty then fail "arg count"
  let (line, isWhole) ← readLine (chosen.any (·.1 == 'r')) 1000000
  for (name, value) in names.zip (lineFields (← get).separators names.length line) do
    assignNamed name value
  return if isWhole then 0 else 1

end ElmAssay.Machine.Shell
