import ElmAssay.Machine.Numeral
import ElmAssay.Machine.Shell.State

/-!
# Utilities

A utility is a program that comes with the system (`Utility`). While it works it holds its output back (`Work`), tells of
what goes wrong, and gathers its status. Its arguments part into options, which may stand anywhere, and operands
(`Arguments.read`).
-/

namespace ElmAssay.Machine.Shown

/-!
## Names in messages

Programs show names and other arguments in their messages so that they can be told from the words around them: in the
quotes of a shell if they need some (`Shown.plain`) or in any case (`Shown.quoted`), or between curved marks
(`Shown.marked`).
-/

/-- A character that has a meaning to a shell, wherever it stands. -/
def isOpen (c : Char) : Bool :=
  [' ', '!', '"', '$', '&', '(', ')', '*', ';', '<', '=', '>', '?', '[', '\\', '^', Char.ofNat 0x60, '|', '\''].contains c

/-- A character that cannot be shown. -/
def isHidden (c : Char) : Bool := c.toNat < 32 || c.toNat == 127 || Octets.strayBase ≤ c.toNat

/-- Whether a name needs quotes. -/
def needsQuotes (cs : List Char) : Bool :=
  match cs with
  | [] => true
  | c :: rest =>
    c == '#' || c == '~' || (rest.isEmpty && (c == '\x7b' || c == '\x7d')) || (c :: rest).any fun c => isOpen c || isHidden c

/-- Three octal digits of a number. -/
def octal (n : Nat) : List Char := (Numeral.padLeft '0' 3 (String.ofList (Numeral.digitsIn 8 n))).toList

/-- The letter by which an escape shows a character. -/
def escapeLetter? (c : Char) : Option Char :=
  match c.toNat with
  | 7 => some 'a'
  | 8 => some 'b'
  | 9 => some 't'
  | 10 => some 'n'
  | 11 => some 'v'
  | 12 => some 'f'
  | 13 => some 'r'
  | _ => none

/-- An escape that shows a character. -/
def escape (c : Char) : List Char :=
  match escapeLetter? c with
  | some letter => ['\\', letter]
  | none => (Octets.narrowChar c).flatMap fun b => '\\' :: octal b.toNat

/-- Whether a name with a quote can stand in double quotes. -/
def fitsDouble (cs : List Char) : Bool :=
  cs.all fun c => c == '\'' || c == ' ' || c == '#' || c == '~' || c == '\x7b' || c == '\x7d' ||
    (!isOpen c && !isHidden c && c.toNat < 128)

/-- The characters between the quotes of a shell; what cannot be shown stands in quotes of its own. `hidden` says whether
such quotes are open. -/
def quotedFrom (hidden : Bool) : List Char → List Char
  | [] => ['\'']
  | c :: cs =>
    if isHidden c then
      (if hidden then [] else "'$'".toList) ++ escape c ++ quotedFrom true cs
    else
      (if hidden then "''".toList else []) ++ (if c = '\'' then "'\\''".toList else [c]) ++ quotedFrom false cs

/-- A name in the quotes of a shell. -/
def quoted (s : Octets) : Octets :=
  let cs := Octets.widen s
  Octets.narrow <|
    if cs.contains '\'' && fitsDouble cs then '"' :: cs ++ ['"']
    else if cs.head?.any isHidden then quotedFrom false cs |>.drop 0 |> ('\'' :: ·)
    else '\'' :: quotedFrom false cs

/-- A name in the quotes of a shell if it needs some. -/
def plain (s : Octets) : Octets := if needsQuotes (Octets.widen s) then quoted s else s

/-- A name between curved marks. -/
def marked (s : Octets) : Octets :=
  let body := (Octets.widen s).flatMap fun c =>
    if isHidden c then escape c else if c = '\\' ∨ c = '’' then ['\\', c] else [c]
  Octets.narrow ('‘' :: body ++ ['’'])

end ElmAssay.Machine.Shown

/-! ## Programs and their work -/

namespace ElmAssay.Machine

/-- A program that comes with the system. -/
abbrev Utility := Evaluator → Invocation → Routine Nat

/-- What a utility holds while it works: its name, the output that was not written yet, latest first, and its status so
far. -/
structure Progress where
  name : Octets
  held : List Octets
  status : Nat

/-- A step of a utility, which may end it. -/
abbrev Work (α : Type) := ExceptT Unit (StateT Progress Routine) α

namespace Work

/-- Asks the system for something. -/
def ask (r : Request) : Work r.Answer := monadLift (Routine.ask r : Routine r.Answer)

/-- A routine as a step. -/
def lift {α : Type} (r : Routine α) : Work α := monadLift r

/-- Holds a text for the output. -/
def put (s : Octets) : Work Unit := modify fun p => { p with held := s :: p.held }

/-- Holds a line for the output. -/
def putLine (s : Octets) : Work Unit := put (s ++ "\n")

/-- Sets the status. -/
def setStatus (status : Nat) : Work Unit := modify fun p => { p with status := status }

/-- Makes the status at least so high. -/
def raiseStatus (status : Nat) : Work Unit := modify fun p => { p with status := max p.status status }

/-- Writes a message as it stands. -/
def say (message : Octets) : Work Unit := lift (Routine.protest message)

/-- Ends the utility. -/
def quit {α : Type} (status : Nat) : Work α := do
  setStatus status
  throw ()

/-- The text that is held. -/
def heldText (p : Progress) : Octets := String.join p.held.reverse

/-- Writes what is held. -/
def flush : Work Unit := do
  let text := heldText (← get)
  modify fun p => { p with held := [] }
  if !text.isEmpty then
    match ← ask (.write 1 text) with
    | .ok _ => return
    | .error r =>
      let name := (← get).name
      say s!"{name}: write error: {r.wording}\n"
      quit 1

/-- Writes a message behind the name of the utility, after all that is held. -/
def warn (message : Octets) : Work Unit := do
  flush
  let name := (← get).name
  say s!"{name}: {message}\n"

/-- Tells of something and goes on; the utility fails in the end. -/
def complain (message : Octets) : Work Unit := do
  warn message
  raiseStatus 1

/-- Tells of something and ends the utility. -/
def fail {α : Type} (status : Nat) (message : Octets) : Work α := do
  warn message
  quit status

/-- Ends the utility because of what it was called with. -/
def failUsage {α : Type} (status : Nat) (message : Octets) : Work α := do
  warn message
  let name := (← get).name
  say s!"Try '{name} --help' for more information.\n"
  quit status

/-- Writes a text without holding it. -/
def emit (text : Octets) : Work Unit := do
  put text
  flush

/-- A step to its end as a program. -/
def complete (name : Octets) (body : Work Unit) : Routine Nat := do
  let (_, p) ← (body.run).run ⟨name, [], 0⟩
  let (_, p) ← (flush.run).run p
  return p.status

/-! ### Files -/

/-- Reads a file, where a dash is the input. -/
def readOperand (path : Octets) : Work (Except Refusal Octets) :=
  lift (if path = "-" then Routine.readAll 0 else Routine.readFile path)

/-- Reads a file, where a dash is the input; `none` after a message. -/
def readInput? (path : Octets) : Work (Option Octets) := do
  match ← readOperand path with
  | .ok data => return some data
  | .error r =>
    let name := Shown.plain path
    complain s!"{name}: {r.wording}"
    return none

/-- Files to read, which are the input if there are none. -/
def orInput (paths : List Octets) : List Octets := if paths.isEmpty then ["-"] else paths

end Work

/-! ### Lines -/

/-- The parts of a text that end in a mark, without it. A mark at the end of the text starts no part. -/
def partsBy (mark : Char) (s : Octets) : List Octets :=
  let parts := Text.cut mark s.toList
  (if parts.getLast? = some [] then parts.dropLast else parts).map String.ofList

/-- The lines of a text without their ends. -/
def linesOf (s : Octets) : List Octets := partsBy '\n' s

/-- The mark at the ends of lines, which an option may have changed. -/
def lineMark (isZero : Bool) : Char := if isZero then '\x00' else '\n'

/-- Whether a text ends in a line end. -/
def endsWithLine (s : Octets) : Bool := s.toList.getLast? == some '\n'

/-! ### Arguments -/

/-- Whether an option takes a value. -/
inductive Taking
  | nothing
  | value
  /-- A value, but only if it is written together with the option. -/
  | attached
  deriving DecidableEq, Repr

/-- An option: its key, which is its letter if it has one, its name, and whether it takes a value. -/
structure Switch where
  key : Char
  hasLetter : Bool
  name : String
  taking : Taking
  deriving DecidableEq, Repr

namespace Switch

/-- An option without a value. -/
def flag (letter : Char) (name : String) : Switch := ⟨letter, true, name, .nothing⟩

/-- An option with a value. -/
def valued (letter : Char) (name : String) : Switch := ⟨letter, true, name, .value⟩

/-- An option that only has a name. -/
def named (key : Char) (name : String) (taking : Taking) : Switch := ⟨key, false, name, taking⟩

end Switch

/-- The arguments of a utility: the options with their values, in order, and the operands. -/
structure Arguments where
  options : List (Char × Option Octets)
  operands : List Octets

namespace Arguments

/-- Whether an option was given. -/
def has (a : Arguments) (key : Char) : Bool := a.options.any (·.1 == key)

/-- The value of an option that counts, the last one. -/
def value? (a : Arguments) (key : Char) : Option Octets := ((a.options.filter (·.1 == key)).getLast?).bind (·.2)

/-- The last of some options. -/
def last? (a : Arguments) (keys : List Char) : Option Char :=
  ((a.options.filter fun o => keys.contains o.1).getLast?).map Prod.fst

/-- All values of an option. -/
def values (a : Arguments) (key : Char) : List Octets :=
  a.options.filterMap fun o => if o.1 = key then o.2 else none

/-- How arguments are read: the options there are, whether the first operand ends them, and what happens at a defect. -/
structure Manner where
  switches : List Switch
  inOrder : Bool
  onDefect : Octets → Work Arguments

/-- The options with a name, or with a front of it if that belongs to no other one. -/
def switchesNamed (switches : List Switch) (name : String) : List Switch :=
  match switches.filter (·.name == name) with
  | [] => switches.filter fun o => !o.name.isEmpty && o.name.startsWith name
  | found => found.take 1

/-- Arguments with one more option. -/
def withOption (a : Arguments) (key : Char) (value : Option Octets) : Arguments :=
  { a with options := a.options ++ [(key, value)] }

/-- Reads the options that letters spell; `rest` are the arguments behind. The answer says which of these are left. -/
def readLetters (m : Manner) (a : Arguments) : List Char → List Octets → Work (Except Arguments (Arguments × List Octets))
  | [], rest => return .ok (a, rest)
  | c :: cs, rest => do
    match m.switches.find? fun o => o.hasLetter && o.key == c with
    | none => return .error (← m.onDefect s!"invalid option -- '{c}'")
    | some o =>
      match o.taking, rest with
      | .nothing, rest => readLetters m (a.withOption c none) cs rest
      | .attached, rest => return .ok (a.withOption c (if cs.isEmpty then none else some (String.ofList cs)), rest)
      | .value, next :: others =>
        if cs.isEmpty then return .ok (a.withOption c (some next), others)
        else return .ok (a.withOption c (some (String.ofList cs)), rest)
      | .value, [] =>
        if cs.isEmpty then return .error (← m.onDefect s!"option requires an argument -- '{c}'")
        else return .ok (a.withOption c (some (String.ofList cs)), [])

/-- Reads an option by its name, which a value may follow behind an equals sign. -/
def readName (m : Manner) (a : Arguments) (text : Octets) (rest : List Octets) :
    Work (Except Arguments (Arguments × List Octets)) := do
  let cs := text.toList
  let name := String.ofList (cs.takeWhile (· != '='))
  let value := if name.length < cs.length then some (String.ofList (cs.drop (name.length + 1))) else none
  match switchesNamed m.switches name with
  | [] => return .error (← m.onDefect s!"unrecognized option '--{text}'")
  | [o] =>
    match o.taking, value, rest with
    | .nothing, none, rest => return .ok (a.withOption o.key none, rest)
    | .nothing, some _, _ => return .error (← m.onDefect s!"option '--{o.name}' doesn't allow an argument")
    | .value, none, next :: rest => return .ok (a.withOption o.key (some next), rest)
    | .value, none, [] => return .error (← m.onDefect s!"option '--{o.name}' requires an argument")
    | _, value, rest => return .ok (a.withOption o.key value, rest)
  | several =>
    let all := String.join (several.map fun o => s!" '--{o.name}'")
    return .error (← m.onDefect s!"option '--{text}' is ambiguous; possibilities:{all}")

/-- Reads a count within limits that an option has to have; `what` begins the message if it has none. -/
def countWithin (what : String) (allowed : String) (least greatest : Nat) (text : Octets) : Work Nat := do
  match Size.readWithin allowed least greatest text.toList with
  | .ok n => return n
  | .error d =>
    let shown := Shown.marked text
    Work.fail 1 s!"{what}: {shown}{d.ending}"

/-- Reads a whole number that an option has to have. -/
def wholeOf (what : String) (text : Octets) : Work Int := do
  match Size.readWhole text.toList with
  | .ok n => return n
  | .error d =>
    let shown := Shown.marked text
    Work.fail 1 s!"{what}: {shown}{d.ending}"

/-- Reads arguments. The fuel bounds their count. -/
def readFrom (m : Manner) : Nat → Arguments → List Octets → Work Arguments
  | 0, a, _ => return a
  | _, a, [] => return a
  | fuel + 1, a, next :: rest => do
    match next.toList with
    | ['-', '-'] => return { a with operands := a.operands ++ rest }
    | '-' :: '-' :: cs =>
      match ← readName m a (String.ofList cs) rest with
      | .ok (a, rest) => readFrom m fuel a rest
      | .error a => return a
    | '-' :: c :: cs =>
      match ← readLetters m a (c :: cs) rest with
      | .ok (a, rest) => readFrom m fuel a rest
      | .error a => return a
    | _ =>
      if m.inOrder then return { a with operands := a.operands ++ next :: rest }
      else readFrom m fuel { a with operands := a.operands ++ [next] } rest

/-- Reads arguments. A defect in them ends the utility with a status. -/
def read (switches : List Switch) (status : Nat) (arguments : List Octets) : Work Arguments :=
  readFrom ⟨switches, false, Work.failUsage status⟩ (arguments.length + 1) ⟨[], []⟩ arguments

/-- Reads arguments whose options end with the first operand. -/
def readInOrder (switches : List Switch) (status : Nat) (arguments : List Octets) : Work Arguments :=
  readFrom ⟨switches, true, Work.failUsage status⟩ (arguments.length + 1) ⟨[], []⟩ arguments

/-- What a word chooses among groups of words: an exact one, or a front of words of one group only; otherwise whether it is
a front of several. -/
def chosen? {α : Type} (groups : List (List String × α)) (word : Octets) : Except Bool α :=
  match groups.find? fun g => g.1.contains word, groups.filter fun g => g.1.any (·.startsWith word) with
  | some g, _ => .ok g.2
  | none, [g] => .ok g.2
  | none, several => .error (!several.isEmpty)

/-- What the word of an option chooses among groups of words, which a message lists if it chooses nothing. -/
def choose {α : Type} (what : String) (groups : List (List String × α)) (word : Octets) : Work α := do
  match chosen? groups word with
  | .ok a => return a
  | .error isAmbiguous =>
    let kind := if isAmbiguous then "ambiguous" else "invalid"
    let shown := Shown.marked word
    let option := Shown.marked what
    Work.warn s!"{kind} argument {shown} for {option}"
    Work.say "Valid arguments are:\n"
    for g in groups do
      let row := ", ".intercalate (g.1.map Shown.marked)
      Work.say s!"  - {row}\n"
    let name := (← get).name
    Work.say s!"Try '{name} --help' for more information.\n"
    Work.quit 1

end Arguments
end ElmAssay.Machine
