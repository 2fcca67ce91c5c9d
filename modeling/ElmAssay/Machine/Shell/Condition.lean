import ElmAssay.Machine.Numeral
import ElmAssay.Machine.Question

/-!
# Conditions

The conditions that a shell tests without the help of a program (`Condition.holds`). An argument is an operator only
where one can stand (`Condition.token`); the whole condition is evaluated, without a shortcut, so that a defect in it
shows in any case.
-/

namespace ElmAssay.Machine.Shell.Condition

/-- What an argument is taken for. -/
inductive Token
  | missing
  | operand
  /-- An operator with one operand behind it. -/
  | unary (name : String)
  | binary (name : String)
  | negation
  | both
  | either
  | opens
  | closes
  deriving DecidableEq, Repr

/-- The operators with two operands. -/
def binaryNames : List String :=
  ["=", "!=", "<", ">", "-eq", "-ne", "-ge", "-gt", "-le", "-lt", "-nt", "-ot", "-ef"]

/-- The operators with one operand. -/
def unaryNames : List String := Question.letters.map (fun c => String.ofList ['-', c]) ++ ["-t", "-z", "-n"]

/-- The operator that an argument spells. -/
def operator? (s : Octets) : Option Token :=
  if binaryNames.contains s then some (.binary s)
  else if unaryNames.contains s then some (.unary s)
  else
    match s with
    | "!" => some .negation
    | "-a" => some .both
    | "-o" => some .either
    | "(" => some .opens
    | ")" => some .closes
    | _ => none

/-- Whether an operator with one operand has none behind it and is one itself. -/
def standsAlone : List Octets → Bool
  | [] => true
  | [_] => false
  | a :: _ :: _ =>
    match operator? a with
    | some (.binary _) => true
    | _ => false

/-- What the first of some arguments is taken for. -/
def token : List Octets → Token
  | [] => .missing
  | s :: rest =>
    match operator? s with
    | some (.unary name) => if standsAlone rest then .operand else .unary name
    | some .opens => if rest.isEmpty then .operand else .opens
    | some t => t
    | none => .operand

/-- A step of evaluation. The state holds the arguments from the present one on. -/
abbrev Step (α : Type) := ExceptT Octets (StateT (List Octets) Routine) α

/-- A routine as a step. -/
def lift {α : Type} (r : Routine α) : Step α := monadLift r

/-- Goes on by so many arguments; what is there then? -/
def forward (n : Nat) : Step Token := do
  modify (·.drop n)
  return token (← get)

/-- The next argument but the present one, without going on. -/
def following : Step Token := return token ((← get).drop 1)

/-- The value of a number. -/
def number (s : Octets) : Step Int :=
  match Numeral.whole? s.toList with
  | some n => return n
  | none => throw s!"Illegal number: {s}"

/-- The answer of an operator with one operand. -/
def askUnary (name : String) (s : Octets) : Step Bool := do
  if name = "-z" then return s.isEmpty
  else if name = "-n" then return !s.isEmpty
  else if name = "-t" then
    let _ ← number s
    return false
  else lift (Question.asks (name.toList.getLastD 'e') s)

/-- The answer of an operator between two operands. -/
def askBinary (name : String) (a b : Octets) : Step Bool := do
  match Question.compareTexts? name a b with
  | some answer => return answer
  | none =>
    if name = "-ef" then lift (Question.areSame a b)
    else if name = "-nt" then lift (Question.isNewer false a b)
    else if name = "-ot" then lift (Question.isNewer false b a)
    else
      let m ← number a
      let n ← number b
      return (Question.compareWholes? name m n).getD false

/-- The levels of a condition, from the weakest operator to the strongest. -/
inductive Level
  | either
  | both
  | negated
  | single
  deriving DecidableEq, Repr

/-- What evaluates a level from a token on. It leaves the last argument that it took as the present one. -/
abbrev Rule := Level → Token → Step Bool

/-- Evaluates parts with an operator between them. The fuel bounds their count. -/
def evalChain (part : Token → Step Bool) (operator : Token) (combine : Bool → Bool → Bool) :
    Nat → Token → Option Bool → Step Bool
  | 0, _, held => return held.getD false
  | fuel + 1, t, held => do
    let answer ← part t
    let answer := held.elim answer fun h => combine h answer
    if (← following) = operator then evalChain part operator combine fuel (← forward 2) (some answer)
    else return answer

/-- Evaluates a level with the help of the others. -/
def rules (self : Rule) : Rule
  | .either, t => do evalChain (self .both) .either (· || ·) ((← get).length + 1) t none
  | .both, t => do evalChain (self .negated) .both (· && ·) ((← get).length + 1) t none
  | .negated, t => do
    if t = .negation then
      let t ← following
      if t != .missing then modify (·.drop 1)
      return !(← self .negated t)
    else self .single t
  | .single, t => do
    match t with
    | .missing => return false
    | .opens =>
      let t ← forward 1
      if t = .closes then return false
      let answer ← self .either t
      if (← forward 1) != .closes then throw "closing paren expected"
      return answer
    | .unary name =>
      modify (·.drop 1)
      match ← get with
      | [] => throw s!"{name}: argument expected"
      | s :: _ => askUnary name s
    | _ =>
      let a := ((← get).head?).getD ""
      match ← following with
      | .binary name =>
        modify (·.drop 2)
        match ← get with
        | [] => throw s!"{name}: argument expected"
        | b :: _ => askBinary name a b
      | _ => return !a.isEmpty

/-- Evaluates a level. The fuel bounds how deep levels stand in each other. -/
def rule : Nat → Rule
  | 0 => fun _ _ => return false
  | fuel + 1 => rules (rule fuel)

/-- Evaluates a condition from a token on; all arguments have to belong to it. -/
def evaluate (t : Token) : Step Bool := do
  let answer ← rule (4 * (← get).length + 8) .either t
  match ← get with
  | s :: _ :: _ => throw (if s.isEmpty then "unexpected operator" else s!"{s}: unexpected operator")
  | _ => return answer

/-- Whether some arguments are two operands with an operator between them. -/
def isComparison : List Octets → Bool
  | [_, operator, _] => operator? operator == some (.binary operator)
  | _ => false

/-- Evaluates a condition by the rules that the count of its arguments calls for. Of the negations that these rules take
away only one counts. -/
def decideBy (isNegated : Bool) : List Octets → Step Bool
  | [] => return false
  | a :: rest => do
    let arguments := a :: rest
    let isShort := arguments.length == 3 || arguments.length == 4
    if isComparison arguments then
      set arguments
      return (← evaluate .operand) != isNegated
    else if isShort && a == "(" && rest.getLast? == some ")" then
      set rest.dropLast
      return (← evaluate (token rest.dropLast)) != isNegated
    else if isShort && a == "!" then decideBy true rest
    else
      set arguments
      return (← evaluate (token arguments)) != isNegated

/-- Whether a condition holds, or what is wrong with it. -/
def holds (arguments : List Octets) : Routine (Except Octets Bool) := do
  let (result, _) ← ((decideBy false arguments).run).run arguments
  return result

end ElmAssay.Machine.Shell.Condition
