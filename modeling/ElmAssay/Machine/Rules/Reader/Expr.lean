import ElmAssay.Machine.Rules.Reader.Basic

/-!
# Reading expressions

Expressions are read level by level (`Level`): on each level a first operand is followed by operators of that level or of
a tighter one. Values that stand side by side are joined. Only what was read as a place can be given a value
(`Piece.target`).
-/

namespace ElmAssay.Machine.Rules

open Read

/-- How tight operators hold, the loosest ones first. -/
inductive Level
  | assignment
  | choice
  | disjunction
  | conjunction
  | membership
  | matching
  | comparison
  | joining
  | sum
  | product
  | negation
  | source
  | power
  | item
  deriving DecidableEq, Repr

/-- The rank of a level. -/
def Level.rank : Level → Nat
  | assignment => 0
  | choice => 1
  | disjunction => 2
  | conjunction => 3
  | membership => 4
  | matching => 5
  | comparison => 6
  | joining => 7
  | sum => 8
  | product => 9
  | negation => 10
  | source => 11
  | power => 12
  | item => 13

/-- An expression with the place that it is, if it can be given a value, and with the variable that it is alone, which may
still be a table. -/
structure Piece where
  expr : Expr
  target : Option Target
  bare : Option Ref

instance : Inhabited Piece := ⟨⟨default, none, none⟩⟩

namespace Piece

/-- An expression that is no place. -/
def plain (e : Expr) : Piece := ⟨e, none, none⟩

/-- A place. -/
def place (t : Target) : Piece := ⟨.value t, some t, none⟩

/-- A variable. -/
def ofRef (r : Ref) : Piece := ⟨.value (.whole r), some (.whole r), some r⟩

/-- The value of a piece. -/
def value (p : Piece) : Read Expr := do
  match p.bare with
  | some r => useAs r .single
  | none => pure ()
  return p.expr

end Piece

/-- What reads expressions of a level. -/
abbrev ExprReader := Level → Read Piece

/-- Reads the value of an expression of a level. -/
def valueOf (expr : ExprReader) (l : Level) : Read Expr := do (← expr l).value

/-- Whether an expression can begin with a token, if it is no sign. -/
def beginsItem : Token → Bool
  | .number .. => true
  | .text _ => true
  | .pattern _ => true
  | .name _ => true
  | .called _ => true
  | .builtin _ => true
  | .length => true
  | .field _ => true
  | .mark s => ["(", "!", "++", "--", "$"].contains s
  | .word s => ["getline", "split", "match", "sub", "gsub"].contains s
  | _ => false

/-- Whether an expression can begin with a token. -/
def beginsExpr (t : Token) : Bool := beginsItem t || t.isMark "-" || t.isMark "+"

/-- Reads expressions between commas behind others, latest first. The fuel bounds their count. -/
def readListOn (expr : ExprReader) : Nat → List Expr → Read (List Expr)
  | 0, done => return done
  | fuel + 1, done => do
    if ← takeMark "," then readListOn expr fuel ((← valueOf expr .assignment) :: done)
    else return done

/-- Reads expressions between commas, one at least. -/
def readList (expr : ExprReader) : Read (List Expr) := do
  let first ← valueOf expr .assignment
  return (← readListOn expr 100000 [first]).reverse

/-! ## Places -/

/-- Reads what follows the name of a variable. -/
def readSubscripts (expr : ExprReader) (r : Ref) : Read Piece := do
  if ← takeMark "[" then
    useAs r .table
    let subscripts ← readList expr
    expectMark "]"
    return .place (.element r subscripts)
  else return .ofRef r

/-- Reads the field behind its mark. -/
def readField (expr : ExprReader) : Read Piece := do
  match ← peek with
  | .name s =>
    skip
    let p ← readSubscripts expr (← refOf s)
    return .place (.field (← p.value))
  | _ => return .place (.field (← valueOf expr .item))

/-- The field of a token. -/
def fieldOf : Option Nat → Piece
  | some n => .place (.field (.number (Float.ofNat n)))
  | none => .place .fieldCount

/-- Reads a place. -/
def readTarget (expr : ExprReader) : Read Target := do
  let p : Piece ←
    match ← peek with
    | .name s =>
      skip
      readSubscripts expr (← refOf s)
    | .field n =>
      skip
      pure (fieldOf n)
    | t =>
      if t.isMark "$" then
        skip
        readField expr
      else misplace
  let _ ← p.value
  match p.target with
  | some t => return t
  | none => misplace

/-- Reads a place if there is one. -/
def readTarget? (expr : ExprReader) : Read (Option Target) := do
  let isThere :=
    match ← peek with
    | .name _ => true
    | .field _ => true
    | t => t.isMark "$"
  if isThere then some <$> readTarget expr else return none

/-- A place with the steps behind it. -/
def withSteps (p : Piece) : Read Piece := do
  match p.target with
  | none => return p
  | some t =>
    let isUp ← seesMark "++"
    if isUp || (← seesMark "--") then
      skip
      let _ ← p.value
      return .plain (.step t isUp false)
    else return p

/-! ## Functions -/

/-- Reads the arguments of a function behind its bracket. -/
def readArguments (expr : ExprReader) : Read (List Expr) := do
  if ← takeMark ")" then return []
  else
    let arguments ← readList expr
    expectMark ")"
    return arguments

/-- Reads the arguments of a function of the program, of which variables may be tables. The fuel bounds their count. -/
def readHanded (expr : ExprReader) (function : Nat) : Nat → Nat → Read (List Expr)
  | 0, _ => return []
  | fuel + 1, place => do
    let p ← expr .assignment
    let e ← if p.bare.isSome then pure p.expr else p.value
    let line := (← get).scanner.tokenLine
    modify fun s => { s with handed := ⟨s.functionHere, p.bare, function, place, line⟩ :: s.handed }
    if ← takeMark "," then return e :: (← readHanded expr function fuel (place + 1))
    else
      expectMark ")"
      return [e]

/-- Reads a call of a function of the program. -/
def readCall (expr : ExprReader) (name : Octets) : Read Piece := do
  let n := ((← get).functionOf? name).getD 0
  expectMark "("
  let arguments ← if ← takeMark ")" then pure [] else readHanded expr n 100000 0
  let line := (← get).scanner.tokenLine
  modify fun s => { s with calls := ⟨n, arguments.length, line⟩ :: s.calls }
  return .plain (.call n arguments)

/-- Reads a call of a function that every program has. -/
def readBuiltin (expr : ExprReader) (name : Octets) : Read Piece := do
  expectMark "("
  if name = "length" then
    if ← takeMark ")" then return .plain (.length none)
    else
      let p ← expr .assignment
      expectMark ")"
      return .plain (.length (some p.expr))
  else
    let arguments ← readArguments expr
    match Builtin.table.lookup name with
    | some (b, least, most) =>
      if arguments.length < least || most < arguments.length then
        complain s!"wrong number of arguments in call to {name}"
      return .plain (.builtin b arguments)
    | none => misplace

/-- The pattern that a text writes, or anything after a message. -/
def readPattern (s : Octets) : Read Expr := do
  match Pattern.read s with
  | .ok p => return .pattern p
  | .error d =>
    complain s!"regular expression compile failed ({d.message})\n{s}"
    return .number 0

/-- An expression where a pattern is wanted, which a text that does not change writes. -/
def asPattern : Expr → Read Expr
  | .text s => readPattern s
  | e => return e

/-- An expression where a separator is wanted. -/
def asSeparator : Expr → Read Expr
  | .text s => do
    if s.length ≤ 1 then return .text s
    else readPattern s
  | e => return e

/-- Reads a call of a function with arguments of its own kind. -/
def readSpecial (expr : ExprReader) (name : String) : Read Piece := do
  expectMark "("
  let first ← valueOf expr .assignment
  expectMark ","
  match name with
  | "split" =>
    let r ← expectName
    useAs r .table
    let separator ← if ← takeMark "," then some <$> (do asSeparator (← valueOf expr .assignment)) else pure none
    expectMark ")"
    return .plain (.split first r separator)
  | "match" =>
    let pattern ← asPattern (← valueOf expr .assignment)
    expectMark ")"
    return .plain (.locate first pattern)
  | name =>
    let first ← asPattern first
    let replacement ← valueOf expr .assignment
    let target ← if ← takeMark "," then some <$> readTarget expr else pure none
    expectMark ")"
    return .plain (.substitute (name == "gsub") first replacement target)

/-- Reads what is read from, behind the word for it. -/
def readRead (expr : ExprReader) : Read Piece := do
  modify fun s => { s with scanner := { s.scanner with isReading := true } }
  let target ← readTarget? expr
  match ← peek with
  | .inward =>
    skip
    return .plain (.readFile target (← valueOf expr .power))
  | _ =>
    modify fun s => { s with scanner := { s.scanner with isReading := false } }
    return .plain (.read target)

/-! ## Items -/

/-- Reads what stands in brackets: an expression, or subscripts that may be in a table. -/
def readGroup (expr : ExprReader) : Read Piece := do
  let first ← expr .assignment
  if ← seesMark "," then
    let others ← readListOn expr 100000 [← first.value]
    expectMark ")"
    if (← peek).isWord "in" then
      skip
      let r ← expectName
      useAs r .table
      return .plain (.member others.reverse r)
    else misplace
  else
    expectMark ")"
    match first.target with
    | some (.field e) => withSteps (.place (.field e))
    | some .fieldCount => withSteps (.place .fieldCount)
    | _ => return .plain (← first.value)

/-- Reads an item. -/
def readItem (expr : ExprReader) : Read Piece := do
  let t ← peek
  if !beginsItem t then misplace
  skip
  match t with
  | .number x _ => return .plain (.number x)
  | .text s => return .plain (.text s)
  | .pattern s => return .plain (← readPattern s)
  | .name s => withSteps (← readSubscripts expr (← refOf s))
  | .called s => readCall expr s
  | .builtin s => readBuiltin expr s
  | .length => return .plain (.length none)
  | .field n => withSteps (fieldOf n)
  | .word "getline" => readRead expr
  | .word s => readSpecial expr s
  | .mark "(" => readGroup expr
  | .mark "$" => withSteps (← readField expr)
  | .mark "++" => return .plain (.step (← readTarget expr) true true)
  | .mark "--" => return .plain (.step (← readTarget expr) false true)
  | .mark _ => return .plain (.deny (← valueOf expr .negation))
  | _ => misplace

/-- Reads a sign or a denial with what follows it, or what `otherwise` reads. -/
def readSigned (expr : ExprReader) (operand : Level) (otherwise : Read Piece) : Read Piece := do
  let t ← peek
  if t.isMark "-" then
    skip
    return .plain (.negate (← valueOf expr operand))
  else if t.isMark "+" then
    skip
    return .plain (.affirm (← valueOf expr operand))
  else if t.isMark "!" then
    skip
    return .plain (.deny (← valueOf expr operand))
  else otherwise

/-- Reads a power. -/
def readPower (expr : ExprReader) : Read Piece := do
  let p ← readItem expr
  if ← takeMark "^" then
    let base ← p.value
    let exponent ← readSigned expr .power (expr .power)
    return .plain (.calculate .raise base (← exponent.value))
  else return p

/-- Reads what commands put out, behind the first command. The fuel bounds their count. -/
def readSourceOn (expr : ExprReader) : Nat → Piece → Read Piece
  | 0, p => return p
  | fuel + 1, p => do
    if ← takeMark "|" then
      let command ← p.value
      if !(← peek).isWord "getline" then misplace
      skip
      let target ← readTarget? expr
      readSourceOn expr fuel (.plain (.readCommand target command))
    else return p

/-! ## Operators -/

/-- The operator of a sum or a product. -/
def arithmetic? (t : Token) : Option (Operation × Level) :=
  match t with
  | .mark "+" => some (.add, .sum)
  | .mark "-" => some (.subtract, .sum)
  | .mark "*" => some (.multiply, .product)
  | .mark "/" => some (.divide, .product)
  | .mark "%" => some (.remain, .product)
  | _ => none

/-- Reads the operators of sums and products behind an operand. The fuel bounds their count. -/
def readArithmeticOn (expr : ExprReader) (l : Level) : Nat → Piece → Read Piece
  | 0, p => return p
  | fuel + 1, p => do
    match arithmetic? (← peek) with
    | none => return p
    | some (o, own) =>
      if own.rank < l.rank then return p
      else
        skip
        let a ← p.value
        let b ← valueOf expr (if own = .sum then .product else .negation)
        readArithmeticOn expr l fuel (.plain (.calculate o a b))

/-- Joins what stands side by side. The fuel bounds the pieces. -/
def readJoinOn (expr : ExprReader) : Nat → Piece → Read Piece
  | 0, p => return p
  | fuel + 1, p => do
    if beginsItem (← peek) then
      let a ← p.value
      let b ← valueOf expr .sum
      readJoinOn expr fuel (.plain (.join a b))
    else return p

/-- The operation of a token that gives a place a value. -/
def assignment? (t : Token) : Option (Option Operation) :=
  match t with
  | .mark "=" => some none
  | .mark "+=" => some (some .add)
  | .mark "-=" => some (some .subtract)
  | .mark "*=" => some (some .multiply)
  | .mark "/=" => some (some .divide)
  | .mark "%=" => some (some .remain)
  | .mark "^=" => some (some .raise)
  | _ => none

/-- The comparison of a token. -/
def comparison? (t : Token) : Option Comparison :=
  match t with
  | .mark "==" => some .equal
  | .mark "!=" => some .unequal
  | .mark "<" => some .less
  | .mark "<=" => some .atMost
  | .mark ">" => some .greater
  | .mark ">=" => some .atLeast
  | _ => none

/-- Reads the operators from a level on behind an operand. The fuel bounds their count. -/
def readOperatorsOn (expr : ExprReader) (l : Level) : Nat → Piece → Read Piece
  | 0, p => return p
  | fuel + 1, p => do
    let t ← peek
    let isIn (o : Level) : Bool := l.rank ≤ o.rank
    let binary (o : Level) (make : Expr → Expr → Expr) : Read Piece := do
      skip
      let a ← p.value
      let b ← valueOf expr o
      readOperatorsOn expr l fuel (.plain (make a b))
    let matching (isNegated : Bool) : Read Piece := do
      skip
      let a ← p.value
      let b ← asPattern (← valueOf expr .comparison)
      readOperatorsOn expr l fuel (.plain (.matching isNegated a b))
    match comparison? t with
    | some c => binary .joining (.compare c)
    | none =>
      if t.isMark "~" && isIn .matching then matching false
      else if t.isMark "!~" && isIn .matching then matching true
      else if t.isWord "in" && isIn .membership then
        skip
        let a ← p.value
        let r ← expectName
        useAs r .table
        readOperatorsOn expr l fuel (.plain (.member [a] r))
      else if t.isMark "&&" && isIn .conjunction then binary .membership .both
      else if t.isMark "||" && isIn .disjunction then binary .conjunction .either
      else if t.isMark "?" && isIn .choice then
        skip
        let condition ← p.value
        let yes ← valueOf expr .assignment
        expectMark ":"
        let no ← valueOf expr .choice
        return .plain (.choose condition yes no)
      else return p

/-- Reads an expression of a level. -/
def readLevel (expr : ExprReader) (l : Level) : Read Piece := do
  match l with
  | .item => readSigned expr .negation (readItem expr)
  | .power => readSigned expr .power (readPower expr)
  | .source => readSourceOn expr 1000 (← readPower expr)
  | .negation => readSigned expr .negation (expr .source)
  | .product => readArithmeticOn expr .product 100000 (← expr .negation)
  | .sum => readArithmeticOn expr .sum 100000 (← expr .negation)
  | .joining => readOperand
  | l => readOperatorsOn expr l 100000 (← readOperand)
where
  /-- Reads values that stand side by side, or what gives a place a value. -/
  readOperand : Read Piece := do
    let p ← readJoinOn expr 100000 (← expr .sum)
    match p.target, assignment? (← peek) with
    | some t, some o =>
      skip
      let _ ← p.value
      let e ← valueOf expr .assignment
      return .plain (.assign t o e)
    | _, _ => return p

/-- Reads an expression of a level. The fuel bounds the depth. -/
def readExpr : Nat → ExprReader
  | 0, _ => halt
  | fuel + 1, l => readLevel (readExpr fuel) l

end ElmAssay.Machine.Rules
