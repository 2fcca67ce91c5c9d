import ElmAssay.Machine.Regex

/-!
# Programs of rules

A program of rules works on the records of a text (`Rules`): it goes through its rules for each record and carries out the
action of each one whose condition holds. Conditions are expressions (`Rules.Expr`), actions are made of statements
(`Rules.Statement`). Variables are known by numbers, those of the program and those of a function apart (`Rules.Ref`).
-/

namespace ElmAssay.Machine.Rules

/-- A regular expression with the text that it was read from. -/
structure Pattern where
  source : Octets
  regex : Regex
  deriving DecidableEq, Repr

/-- A variable: one of the program, or one of the function that runs. -/
inductive Ref
  | shared (n : Nat)
  | own (n : Nat)
  deriving DecidableEq, Repr

/-- What two numbers are put together by. -/
inductive Operation
  | add
  | subtract
  | multiply
  | divide
  | remain
  | raise
  deriving DecidableEq, Repr

/-- What two values are compared by. -/
inductive Comparison
  | equal
  | unequal
  | less
  | atMost
  | greater
  | atLeast
  deriving DecidableEq, Repr

/-- Whether a comparison agrees with an order. -/
def Comparison.holds : Comparison → Ordering → Bool
  | equal, o => o == .eq
  | unequal, o => o != .eq
  | less, o => o == .lt
  | atMost, o => o != .gt
  | greater, o => o == .gt
  | atLeast, o => o != .lt

/-- The functions that every program has, apart from those with arguments of their own kind. -/
inductive Builtin
  | index
  | substr
  | sprintf
  | sine
  | cosine
  | arctangent
  | exponential
  | logarithm
  | whole
  | root
  | random
  | seed
  | lower
  | upper
  | close
  | system
  | flush
  | clock
  | timeText
  | timeValue
  deriving DecidableEq, Repr

namespace Builtin

/-- The functions by name, with the least and the greatest count of their arguments. -/
def table : List (String × Builtin × Nat × Nat) :=
  [("index", index, 2, 2), ("substr", substr, 2, 3), ("sprintf", sprintf, 1, 255), ("sin", sine, 1, 1),
   ("cos", cosine, 1, 1), ("atan2", arctangent, 2, 2), ("exp", exponential, 1, 1), ("log", logarithm, 1, 1),
   ("int", whole, 1, 1), ("sqrt", root, 1, 1), ("rand", random, 0, 0), ("srand", seed, 0, 1), ("tolower", lower, 1, 1),
   ("toupper", upper, 1, 1), ("close", close, 1, 1), ("system", system, 1, 1), ("fflush", flush, 0, 1),
   ("systime", clock, 0, 0), ("strftime", timeText, 0, 3), ("mktime", timeValue, 1, 1)]

end Builtin

/-- The sinks that output can be sent to: a file that loses what it held, one that keeps it, or a command. -/
inductive Sink
  | fresh
  | grown
  | command
  deriving DecidableEq, Repr

mutual

/-- An expression. -/
inductive Expr
  | number (x : Float)
  | text (s : Octets)
  /-- Whether the record matches. -/
  | pattern (p : Pattern)
  | value (t : Target)
  | assign (t : Target) (o : Option Operation) (e : Expr)
  /-- Adds one or takes one away; the value is that before or that after it. -/
  | step (t : Target) (isUp isFirst : Bool)
  | calculate (o : Operation) (a b : Expr)
  | negate (e : Expr)
  | affirm (e : Expr)
  | deny (e : Expr)
  | join (a b : Expr)
  | compare (c : Comparison) (a b : Expr)
  | matching (isNegated : Bool) (a b : Expr)
  | both (a b : Expr)
  | either (a b : Expr)
  | choose (condition yes no : Expr)
  | member (subscripts : List Expr) (array : Ref)
  | length (e : Option Expr)
  | builtin (b : Builtin) (arguments : List Expr)
  | split (e : Expr) (array : Ref) (separator : Option Expr)
  | locate (e pattern : Expr)
  | substitute (isGlobal : Bool) (pattern replacement : Expr) (t : Option Target)
  /-- Reads a record of the input. -/
  | read (t : Option Target)
  | readFile (t : Option Target) (path : Expr)
  | readCommand (t : Option Target) (command : Expr)
  | call (function : Nat) (arguments : List Expr)

/-- What can be given a value. -/
inductive Target
  | whole (r : Ref)
  | element (r : Ref) (subscripts : List Expr)
  | field (e : Expr)
  /-- The count of the fields. -/
  | fieldCount

end

instance : Inhabited Expr := ⟨.text ""⟩

/-- Output with the sink that it goes to. -/
abbrev Redirection := Option (Sink × Expr)

/-- A statement. -/
inductive Statement
  | block (body : List Statement)
  | evaluate (e : Expr)
  | print (arguments : List Expr) (r : Redirection)
  | printf (arguments : List Expr) (r : Redirection)
  | when (condition : Expr) (yes : Statement) (no : Option Statement)
  | loop (condition : Expr) (body : Statement)
  | loopAfter (body : Statement) (condition : Expr)
  | count (start condition step : Option Expr) (body : Statement)
  | forEach (t : Ref) (array : Ref) (body : Statement)
  | delete (array : Ref) (subscripts : Option (List Expr))
  | leaveLoop
  | nextTurn
  | next
  | nextFile
  | exit (e : Option Expr)
  | return (e : Option Expr)

instance : Inhabited Statement := ⟨.block []⟩

/-- When an action is carried out: for all records, for those for which an expression holds, or from one on for which an
expression holds up to one for which another one does. -/
inductive Condition
  | always
  | holding (e : Expr)
  | span (first last : Expr)

/-- A rule. Without an action the record is printed. -/
structure Rule where
  condition : Condition
  action : Option Statement

/-- A function: for each of its variables whether it is a table, the first of which are its arguments, and its body. -/
structure Function where
  tables : List Bool
  body : Statement

end Rules

/-- A program of rules: what is done before and after all records, the rules, the functions, and the names of the variables
of the program with whether they are tables. -/
structure Rules where
  before : List Rules.Statement
  rules : List Rules.Rule
  after : List Rules.Statement
  functions : Array Rules.Function
  names : Array (Octets × Bool)

end ElmAssay.Machine
