import ElmAssay.Machine.Rules.Token

/-!
# Reading programs of rules: names and steps

What the reader of programs knows on its way (`Reading`): the tokens that are left, the names of variables and functions
with what they were used as, and the calls whose arguments may be tables. A step may fail (`Read`), after it has told why.
-/

namespace ElmAssay.Machine.Rules

/-- What a variable was used as. -/
inductive Use
  | nothing
  | single
  | table
  deriving DecidableEq, Repr

/-- Where in a program something stands. -/
inductive Scope
  | before
  | rules
  | after
  | function (n : Nat)
  deriving DecidableEq, Repr

/-- A function as far as it is known: its name, whether it was defined, its arguments, and its body. -/
structure Draft where
  name : Octets
  isDefined : Bool
  arguments : Array (Octets × Use)
  body : Statement

instance : Inhabited Draft := ⟨⟨"", false, #[], .block []⟩⟩

/-- What is handed to a function: the function from where, if it stands in one, the variable if it is one, the place among
the arguments of which function, and the line. -/
structure Handed where
  scope : Option Nat
  ref : Option Ref
  function : Nat
  place : Nat
  line : Nat
  deriving DecidableEq, Repr

/-- A call: the function, the count of its arguments, and the line. -/
structure Called where
  function : Nat
  count : Nat
  line : Nat
  deriving DecidableEq, Repr

/-- What is known on the way through a program. `name` is what messages begin with. -/
structure Reading where
  name : Octets
  scanner : Scanner
  held : Option Token
  shared : Array (Octets × Use)
  functions : Array Draft
  scope : Scope
  loops : Nat
  /-- What was handed to functions, latest first. -/
  handed : List Handed
  calls : List Called

/-- Why a step fails: a token is out of place, which was told, or nothing more can be read. -/
inductive Failure
  | misplaced
  | halted
  deriving DecidableEq, Repr

/-- A step of reading. -/
abbrev Read (α : Type) := ExceptT Failure (StateM Reading) α

/-- The variables that every program has. -/
def usualNames : List (Octets × Use) :=
  [("NR", .single), ("FNR", .single), ("FS", .single), ("OFS", .single), ("ORS", .single), ("RS", .single),
   ("FILENAME", .single), ("SUBSEP", .single), ("RSTART", .single), ("RLENGTH", .single), ("CONVFMT", .single),
   ("OFMT", .single), ("ARGC", .single), ("ARGV", .table), ("ENVIRON", .table)]

namespace Reading

/-- The start of a program. -/
def start (name text : Octets) : Reading :=
  { name := name, scanner := Scanner.start text, held := none, shared := usualNames.toArray, functions := #[]
    scope := .rules, loops := 0, handed := [], calls := [] }

/-- The arguments of the function that is read. -/
def own (r : Reading) : Array (Octets × Use) :=
  match r.scope with
  | .function n => ((r.functions[n]?).map Draft.arguments).getD #[]
  | _ => #[]

/-- The place of a name. -/
def placeOf? (names : Array (Octets × Use)) (s : Octets) : Option Nat := names.findIdx? (·.1 == s)

/-- The function with a name. -/
def functionOf? (r : Reading) (s : Octets) : Option Nat := r.functions.findIdx? (·.name == s)

/-- What a name is known as. -/
def known (r : Reading) (s : Octets) : Known :=
  if (placeOf? r.own s).isSome then .plain
  else if (r.functionOf? s).isSome then .function
  else if (placeOf? r.shared s).isSome then .plain
  else .nothing

/-- The use of a variable. -/
def useOf (r : Reading) (scope : Option Nat) (ref : Ref) : Use :=
  match ref, scope with
  | .shared n, _ => ((r.shared[n]?).map Prod.snd).getD .nothing
  | .own n, some f => ((((r.functions[f]?).map Draft.arguments).getD #[])[n]?.map Prod.snd).getD .nothing
  | .own _, none => .nothing

/-- The reading in which a variable is used in some way. -/
def withUse (r : Reading) (scope : Option Nat) (ref : Ref) (use : Use) : Reading :=
  match ref, scope with
  | .shared n, _ => { r with shared := r.shared.modify n fun p => (p.1, use) }
  | .own n, some f =>
    { r with functions := r.functions.modify f fun d => { d with arguments := d.arguments.modify n fun p => (p.1, use) } }
  | .own _, none => r

/-- The use of what is handed to a function. -/
def useOfHanded (r : Reading) (h : Handed) : Use :=
  match h.ref with
  | some ref => r.useOf h.scope ref
  | none => .single

/-- The function that is read. -/
def functionHere (r : Reading) : Option Nat :=
  match r.scope with
  | .function n => some n
  | _ => none

end Reading

namespace Read

/-- Ends all reading. -/
def halt {α : Type} : Read α := throw .halted

/-- The greatest count of messages. -/
def mostMessages : Nat := 5

/-- Adds a message. -/
def tell (message : Octets) : Read Unit := do
  modify fun r => { r with scanner := { r.scanner with messages := message :: r.scanner.messages } }
  if mostMessages ≤ (← get).scanner.messages.length then halt

/-- Adds a message about the line of the last token. -/
def complain (message : Octets) : Read Unit := do
  let r ← get
  let line := r.scanner.tokenLine
  tell s!"{r.name}: line {line}: {message}"

/-- Makes names known as they are met. -/
def note (t : Token) : Read Unit := do
  let r ← get
  match t with
  | .name s => if r.known s = .nothing then set { r with shared := r.shared.push (s, .nothing) }
  | .called s => if r.known s = .nothing then set { r with functions := r.functions.push ⟨s, false, #[], .block []⟩ }
  | _ => pure ()

/-- The next token, which is not taken yet. -/
def peek : Read Token := do
  let r ← get
  match r.held with
  | some t => return t
  | none =>
    match r.scanner.next r.known r.name with
    | .ok (t, s) =>
      set { r with scanner := s, held := some t }
      if mostMessages ≤ s.messages.length then halt
      note t
      return t
    | .error (s, message) =>
      set { r with scanner := s }
      complain message
      halt

/-- Takes the next token. -/
def skip : Read Unit := modify fun r => { r with held := none }

/-- Takes the next token, with it. -/
def advance : Read Token := do
  let t ← peek
  skip
  return t

/-- Tells that the next token is out of place. -/
def misplace {α : Type} : Read α := do
  let t ← peek
  let r ← get
  let shown := t.shown
  let s := r.scanner
  let line := s.tokenLine
  let isOpen :=
    match t with
    | .newline => true
    | .separator _ => true
    | t => t.isMark "\x7d"
  match t with
  | .stray c =>
    let seen := if 32 < c.toNat && c.toNat < 127 then "'" ++ c.toString ++ "'"
      else "0x" ++ Numeral.padLeft '0' 2 (String.ofList (Numeral.digitsIn 16 c.toNat))
    tell s!"{r.name}: {line}: unexpected character {seen}"
  | .ending =>
    if s.braces != 0 then complain s!"missing \x7d near {shown}" else complain s!"syntax error at or near {shown}"
  | _ =>
    if s.parentheses != 0 && isOpen then complain s!"missing ) near {shown}"
    else complain s!"syntax error at or near {shown}"
  throw .misplaced

/-- Whether the next token is a mark. -/
def seesMark (s : String) : Read Bool := return (← peek).isMark s

/-- Takes a mark that has to be next. -/
def expectMark (s : String) : Read Unit := do
  if ← seesMark s then skip else misplace

/-- Takes a mark if it is next. -/
def takeMark (s : String) : Read Bool := do
  if ← seesMark s then
    skip
    return true
  else return false

/-- The variable with a name. -/
def refOf (s : Octets) : Read Ref := do
  let r ← get
  match Reading.placeOf? r.own s, Reading.placeOf? r.shared s with
  | some n, _ => return .own n
  | none, some n => return .shared n
  | none, none =>
    set { r with shared := r.shared.push (s, .nothing) }
    return .shared r.shared.size

/-- Takes the name of a variable that has to be next. -/
def expectName : Read Ref := do
  match ← peek with
  | .name s =>
    skip
    refOf s
  | _ => misplace

/-- Uses a variable in some way. -/
def useAs (ref : Ref) (use : Use) : Read Unit := do
  let r ← get
  let scope := r.functionHere
  let old := r.useOf scope ref
  if old = .nothing then set (r.withUse scope ref use)
  else if old != use then
    let (name, front) :=
      match ref with
      | .shared n => (((r.shared[n]?).map Prod.fst).getD "", "")
      | .own n => (((r.own[n]?).map Prod.fst).getD "", "local ")
    let kind := if old = .table then "array" else "variable"
    complain s!"illegal reference to {front}{kind} {name}"

/-- Tries a step; the reading is as before if it brings nothing. -/
def attempt {α : Type} (step : Read (Option α)) : Read (Option α) := do
  let r ← get
  let (result, after) := (step.run).run r
  match result with
  | .ok (some a) =>
    set after
    return some a
  | _ =>
    set r
    return none

end Read
end ElmAssay.Machine.Rules
