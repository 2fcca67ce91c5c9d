import ElmAssay.Machine.Numeral
import ElmAssay.Machine.Script.Reader

/-!
# Arithmetic in scripts

The whole numbers of 64 bits with the operators of C except those that count up and down (`Arithmetic.evaluate`). An
expression is evaluated as it is read, from the front. What is not chosen by a condition is read but not evaluated.
-/

namespace ElmAssay.Machine.Arithmetic

open Text

/-- A token of an expression. -/
inductive Token
  | number (n : Int)
  | name (s : Octets)
  | operator (s : String)
  | strange
  deriving DecidableEq, Repr

/-- The operators, longer ones first. -/
def operators : List String :=
  ["<<=", ">>=", "<<", ">>", "<=", ">=", "==", "!=", "&&", "||", "+=", "-=", "*=", "/=", "%=", "&=", "|=", "^=", "<",
   ">", "=", "!", "&", "|", "^", "+", "-", "*", "/", "%", "(", ")", "~", "?", ":"]

/-- The tokens of a text. The fuel bounds their count. -/
def tokens : Nat → List Char → List Token
  | 0, _ => []
  | _, [] => []
  | fuel + 1, c :: s =>
    if c = ' ' ∨ c = '\t' ∨ c = '\n' then tokens fuel s
    else if isAsciiDigit c then
      let r := Numeral.read none (c :: s)
      .number (Numeral.clamp r.value) :: tokens fuel r.rest
    else if startsName c then
      .name (String.ofList ((c :: s).takeWhile inName)) :: tokens fuel ((c :: s).dropWhile inName)
    else
      match operators.find? fun o => o.toList.isPrefixOf (c :: s) with
      | some o => .operator o :: tokens fuel ((c :: s).drop o.length)
      | none => [.strange]

/-- Why an expression has no value. -/
inductive Defect
  /-- Something about the expression as a whole. -/
  | expression (what : String)
  | badNumber (s : Octets)
  deriving DecidableEq, Repr

/-- What evaluation keeps: the tokens that are left, and the values that were assigned, latest first. -/
structure Progress where
  tokens : List Token
  assigned : List (Octets × Octets)

/-- A step of evaluation. -/
abbrev Step (α : Type) := StateT Progress (Except Defect) α

/-- The next token, if there is one. -/
def peek : Step (Option Token) := return (← get).tokens.head?

/-- Goes on by a token. -/
def advance : Step Unit := modify fun p => { p with tokens := p.tokens.drop 1 }

/-- Goes on by an operator if it is the next token. -/
def accept (o : String) : Step Bool := do
  if (← peek) == some (.operator o) then
    advance
    return true
  else return false

/-- Stops. -/
def stop {α : Type} (what : String) : Step α := throw (.expression what)

/-- The number that a value is. -/
def numberOf (s : Octets) : Step Int :=
  let r := Numeral.read none s.toList
  if r.rest.all Numeral.isSpace && Numeral.fits r.value then return r.value else throw (.badNumber s)

/-- The value of a variable, where `outer` knows those that were not assigned here. One without a value is zero. -/
def valueOf (outer : Octets → Octets) (name : Octets) : Step Int := do
  match (← get).assigned.lookup name with
  | some v => numberOf v
  | none => numberOf (outer name)

/-- The value of a binary operator. -/
def combine (o : String) (a b : Int) : Step Int :=
  let truth (p : Bool) : Step Int := return if p then 1 else 0
  let bits (f : Nat → Nat → Nat) : Step Int :=
    return Numeral.wrap (f (a % (2 ^ 64)).toNat (b % (2 ^ 64)).toNat)
  let shift := (b % 64).toNat
  match o with
  | "*" => return Numeral.wrap (a * b)
  | "/" => if b = 0 then stop "division by zero" else return Numeral.wrap (Int.tdiv a b)
  | "%" => if b = 0 then stop "division by zero" else return Int.tmod a b
  | "+" => return Numeral.wrap (a + b)
  | "-" => return Numeral.wrap (a - b)
  | "<<" => return Numeral.wrap (a * 2 ^ shift)
  | ">>" => return a / 2 ^ shift
  | "<" => truth (a < b)
  | ">" => truth (b < a)
  | "<=" => truth (a ≤ b)
  | ">=" => truth (b ≤ a)
  | "==" => truth (a == b)
  | "!=" => truth (a != b)
  | "&" => bits Nat.land
  | "^" => bits Nat.xor
  | _ => bits Nat.lor

/-- The binary operators, from those that bind most tightly on. -/
def ranks : List (List String) :=
  [["*", "/", "%"], ["+", "-"], ["<<", ">>"], ["<", ">", "<=", ">="], ["==", "!="], ["&"], ["^"], ["|"]]

/-- The operators that assign. -/
def assigners : List (String × String) :=
  [("*=", "*"), ("/=", "/"), ("%=", "%"), ("+=", "+"), ("-=", "-"), ("<<=", "<<"), (">>=", ">>"), ("&=", "&"),
   ("^=", "^"), ("|=", "|")]

/-- How tightly what is read binds. -/
inductive Level
  | assignment
  | condition
  | disjunction
  | conjunction
  | binary (rank : Nat)
  | unary
  deriving DecidableEq, Repr

/-- A reader of expressions: of what level, and whether it counts what they are. -/
abbrev Rule := Level → Bool → Step Int

/-- The operator of a rank that is next, if it is one. -/
def operatorOf (rank : Nat) : Step (Option String) := do
  match ← peek with
  | some (.operator o) => return if ((ranks[rank]?).getD []).contains o then some o else none
  | _ => return none

/-- Reads operators of a rank with what follows each of them. The fuel bounds their count. -/
def readBinary (self : Rule) (rank : Nat) (counts : Bool) : Nat → Int → Step Int
  | 0, a => return a
  | fuel + 1, a => do
    match ← operatorOf rank with
    | none => return a
    | some o =>
      advance
      let b ← self (if rank = 0 then .unary else .binary (rank - 1)) counts
      readBinary self rank counts fuel (← if counts then combine o a b else pure b)

/-- Puts a value into a variable. -/
def store (name : Octets) (n : Int) : Step Unit :=
  modify fun p => { p with assigned := (name, Numeral.signedText n) :: p.assigned }

/-- One step of reading, given the readers for what is inside. -/
def rules (outer : Octets → Octets) (self : Rule) : Rule
  | .assignment, counts => do
    match (← get).tokens with
    | .name x :: .operator o :: rest =>
      if o = "=" then
        set { (← get) with tokens := rest }
        let n ← self .assignment counts
        if counts then store x n
        return n
      else
        match assigners.lookup o with
        | some binary =>
          set { (← get) with tokens := rest }
          let n ← self .assignment counts
          if counts then
            let n ← combine binary (← valueOf outer x) n
            store x n
            return n
          else return n
        | none => self .condition counts
    | _ => self .condition counts
  | .condition, counts => do
    let a ← self .disjunction counts
    if ← accept "?" then
      let b ← self .assignment (counts && a != 0)
      if ← accept ":" then
        let c ← self .condition (counts && a == 0)
        return if a ≠ 0 then b else c
      else stop "expecting ':'"
    else return a
  | .disjunction, counts => do
    let a ← self .conjunction counts
    if ← accept "||" then
      let b ← self .disjunction (counts && a == 0)
      return if a ≠ 0 ∨ b ≠ 0 then 1 else 0
    else return a
  | .conjunction, counts => do
    let a ← self (.binary 7) counts
    if ← accept "&&" then
      let b ← self .conjunction (counts && a != 0)
      return if a ≠ 0 ∧ b ≠ 0 then 1 else 0
    else return a
  | .binary rank, counts => do
    let a ← self (if rank = 0 then .unary else .binary (rank - 1)) counts
    readBinary self rank counts ((← get).tokens.length + 1) a
  | .unary, counts => do
    let t ← peek
    advance
    match t with
    | some (.number n) => return n
    | some (.name x) => if counts then valueOf outer x else return 0
    | some (.operator "(") =>
      let n ← self .assignment counts
      if ← accept ")" then return n else stop "expecting ')'"
    | some (.operator "+") => self .unary counts
    | some (.operator "-") => return Numeral.wrap (-(← self .unary counts))
    | some (.operator "!") => return if (← self .unary counts) = 0 then 1 else 0
    | some (.operator "~") => return -(← self .unary counts) - 1
    | _ => stop "expecting primary"

/-- The readers. The fuel bounds how deep expressions stand in each other. -/
def rule (outer : Octets → Octets) : Nat → Rule
  | 0, _, _ => stop "expression too deep"
  | fuel + 1, l, counts => rules outer (rule outer fuel) l counts

/-- The value of an expression, and the values that it assigns, latest first. -/
def evaluate (outer : Octets → Octets) (s : List Char) :
    Except Defect (Int × List (Octets × Octets)) :=
  let ts := tokens (s.length + 1) s
  let whole : Step Int := do
    let n ← rule outer (16 * ts.length + 32) .assignment true
    if (← peek).isSome then stop "expecting EOF" else return n
  (whole.run ⟨ts, []⟩).map fun r => (r.1, r.2.assigned)

end ElmAssay.Machine.Arithmetic
