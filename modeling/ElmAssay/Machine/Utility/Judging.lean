import ElmAssay.Machine.Question
import ElmAssay.Machine.Regex.Reader
import ElmAssay.Machine.Utility.Basic

/-!
# Utilities that judge

Programs whose status is the answer to what their arguments ask: a condition (`test`), read by rules that the count of
its arguments chooses, and an expression over whole numbers and texts (`expr`), whose value is written too.
-/

namespace ElmAssay.Machine.Utility

open Text Work

/-! ## Conditions -/

namespace Judging

/-- The arguments of a condition and the place among them. -/
structure Place where
  arguments : Array Octets
  next : Nat

/-- A step of judging. -/
abbrev Step (α : Type) := StateT Place Work α

/-- Stops with a message. -/
def stop {α : Type} (message : Octets) : Step α := fail (α := α) 2 message

/-- An argument from the place on, if there is one. -/
def look? (n : Nat) : Step (Option Octets) := do
  let p ← get
  return p.arguments[p.next + n]?

/-- How many arguments are left. -/
def left : Step Nat := do
  let p ← get
  return p.arguments.size - p.next

/-- Stops because an argument is missing behind the last one. -/
def stopAtEnd {α : Type} : Step α := do
  let last := Shown.marked ((← get).arguments.back?.getD "")
  stop s!"missing argument after {last}"

/-- Goes on by so many arguments. -/
def skip (n : Nat) : Step Unit := modify fun p => { p with next := p.next + n }

/-- Goes on by one argument to another one, which has to be there. -/
def advance : Step Unit := do
  skip 1
  if (← left) = 0 then stopAtEnd

/-- The operators with two operands. -/
def isBinary (s : Octets) : Bool :=
  ["=", "==", "!=", "-eq", "-ne", "-lt", "-le", "-gt", "-ge", "-nt", "-ot", "-ef"].contains s

/-- Whether an argument has the shape of an operator with one operand. -/
def isUnary (s : Octets) : Bool :=
  match s.toList with
  | ['-', _] => true
  | _ => false

/-- The whole number that a text is, between blanks. -/
def whole (s : Octets) : Step Int := do
  let cs := s.toList.dropWhile Numeral.isSpace
  let (isNegative, body) := Number.takeSign cs
  let (digits, rest) := Number.spanDigits body
  if digits.isEmpty || !rest.all Numeral.isSpace then
    let shown := Shown.marked s
    stop s!"invalid integer {shown}"
  let n : Int := Number.digitsValue digits
  return if isNegative then -n else n

/-- The answer of an operator between two operands, of which each may be asked for its length instead. -/
def judgeBinary (hasLength : Bool) : Step Bool := do
  if hasLength then skip 1
  let a := (← look? 0).getD ""
  let operator := (← look? 1).getD ""
  let isLength := (← look? 2) == some "-l" && 3 < (← left)
  if isLength then skip 1
  let b := (← look? 2).getD ""
  skip 3
  match operator with
  | "==" => return a == b
  | "-ef" => (monadLift (Work.lift (Question.areSame a b)) : Step Bool)
  | "-nt" => (monadLift (Work.lift (Question.isNewer true a b)) : Step Bool)
  | "-ot" => (monadLift (Work.lift (Question.isNewer true b a)) : Step Bool)
  | operator =>
    match Question.compareTexts? operator a b with
    | some answer => return answer
    | none =>
      let m ← if hasLength then pure (a.length : Int) else whole a
      let n ← if isLength then pure (b.length : Int) else whole b
      return (Question.compareWholes? operator m n).getD false

/-- The answer of an operator with one operand. -/
def judgeUnary : Step Bool := do
  let operator := (← look? 0).getD ""
  let letter := operator.toList.getLastD '-'
  if !(Question.letters ++ ['N', 't', 'n', 'z']).contains letter then
    let shown := Shown.marked operator
    stop s!"{shown}: unary operator expected"
  advance
  let operand := (← look? 0).getD ""
  skip 1
  match letter with
  | 'n' => return !operand.isEmpty
  | 'z' => return operand.isEmpty
  | 't' =>
    let _ ← whole operand
    return false
  | letter => (monadLift (Work.lift (Question.asks letter operand)) : Step Bool)

/-- Whether one argument is not empty. -/
def judgeOne : Step Bool := do
  let s := (← look? 0).getD ""
  skip 1
  return !s.isEmpty

/-- Judges two arguments. -/
def judgeTwo : Step Bool := do
  let first := (← look? 0).getD ""
  if first = "!" then
    skip 1
    return !(← judgeOne)
  else if isUnary first then judgeUnary
  else stopAtEnd

/-- Judges three arguments, where `chain` judges what operators join. -/
def judgeThree (chain : Step Bool) : Step Bool := do
  let first := (← look? 0).getD ""
  let second := (← look? 1).getD ""
  if isBinary second then judgeBinary false
  else if first = "!" then
    advance
    return !(← judgeTwo)
  else if first = "(" && (← look? 2) == some ")" then
    skip 1
    let answer ← judgeOne
    skip 1
    return answer
  else if second = "-a" || second = "-o" then chain
  else
    let shown := Shown.marked second
    stop s!"{shown}: binary operator expected"

/-- Judges so many arguments by the rules for their count, where `chain` judges what operators join. -/
def judgeCount (chain : Step Bool) (count : Nat) : Step Bool := do
  match count with
  | 1 => judgeOne
  | 2 => judgeTwo
  | 3 => judgeThree chain
  | 4 =>
    let first := (← look? 0).getD ""
    if first = "!" then
      advance
      return !(← judgeThree chain)
    else if first = "(" && (← look? 3) == some ")" then
      skip 1
      let answer ← judgeTwo
      skip 1
      return answer
    else chain
  | _ => chain

/-- Goes on behind negations. The answer is whether their count is odd. The fuel bounds it. -/
def skipNegations : Nat → Bool → Step Bool
  | 0, isOdd => return isOdd
  | fuel + 1, isOdd => do
    if (← look? 0) = some "!" then
      advance
      skipNegations fuel !isOdd
    else return isOdd

/-- The count of arguments up to a closing parenthesis, or of all that are left if it is not near. -/
def insideCount : Step Nat := do
  for n in [1, 2, 3, 4] do
    if n < (← left) && (← look? n) == some ")" then return n
    if (← left) ≤ n then return n
  left

/-- Judges what stands between operators, where `chain` judges what they join. -/
def judgeTerm (chain : Step Bool) : Step Bool := do
  let isNegated ← skipNegations ((← left) + 1) false
  let first ←
    match ← look? 0 with
    | some s => pure s
    | none => stopAtEnd
  let isComparison (n : Nat) : Step Bool := do
    let count ← left
    return n + 2 < count && (← look? (n + 1)).any isBinary
  let answer ←
    if first = "(" then do
      advance
      let answer ← judgeCount chain (← insideCount)
      let closing := Shown.marked ")"
      match ← look? 0 with
      | some ")" => skip 1
      | some other =>
        let shown := Shown.marked other
        stop s!"{closing} expected, found {shown}"
      | none => stop s!"{closing} expected"
      pure answer
    else if first = "-l" && (← isComparison 1) then judgeBinary true
    else if ← isComparison 0 then judgeBinary false
    else if isUnary first then judgeUnary
    else judgeOne
  return answer != isNegated

/-- Judges parts with an operator between them. The fuel bounds their count. -/
def judgeParts (part : Step Bool) (operator : Octets) (combine : Bool → Bool → Bool) : Nat → Bool → Step Bool
  | 0, held => return held
  | fuel + 1, held => do
    let answer := combine held (← part)
    if (← look? 0) = some operator then
      skip 1
      judgeParts part operator combine fuel answer
    else return answer

/-- Judges what operators join. The fuel bounds how deep conditions stand in each other. -/
def judgeChain : Nat → Step Bool
  | 0 => return false
  | fuel + 1 => do
    let count := (← left) + 1
    if count = 1 then stopAtEnd
    judgeParts (judgeParts (judgeTerm (judgeChain fuel)) "-a" (· && ·) count true) "-o" (· || ·) count false

/-- Judges a whole condition. -/
def judge : Step Bool := do
  let count ← left
  if count = 0 then return false
  let answer ← judgeCount (judgeChain (count + 1)) count
  match ← look? 0 with
  | some extra =>
    let shown := Shown.marked extra
    stop s!"extra argument {shown}"
  | none => return answer

/-- The status of a condition. -/
def conclude (arguments : List Octets) : Work Unit := do
  let (answer, _) ← judge.run ⟨arguments.toArray, 0⟩
  setStatus (if answer then 0 else 1)

end Judging

/-- Judges a condition. -/
def test : Utility := fun _ call => complete call.name (Judging.conclude call.arguments)

/-- Judges a condition in brackets. -/
def bracket : Utility := fun _ call => complete call.name do
  if call.arguments.getLast? = some "]" then Judging.conclude call.arguments.dropLast
  else
    let closing := Shown.marked "]"
    fail 2 s!"missing {closing}"

/-! ## Expressions -/

namespace Reckoning

/-- A value of an expression. -/
inductive Value
  | whole (n : Int)
  | text (s : Octets)
  deriving DecidableEq, Repr

namespace Value

/-- A value as a text. -/
def shown : Value → Octets
  | whole n => Numeral.signedText n
  | text s => s

/-- A value as a whole number, if it is one. -/
def whole? : Value → Option Int
  | whole n => some n
  | text s =>
    let (isNegative, digits) :=
      match s.toList with
      | '-' :: cs => (true, cs)
      | cs => (false, cs)
    if digits.isEmpty || !digits.all isAsciiDigit then none
    else some (if isNegative then -(Number.digitsValue digits : Int) else Number.digitsValue digits)

/-- Whether a value counts as nothing: it is empty or zero. -/
def isVoid (v : Value) : Bool := v.shown.isEmpty || v.whole? == some 0

/-- The value of an answer. -/
def ofBool (b : Bool) : Value := whole (if b then 1 else 0)

end Value

/-- A step of reckoning. -/
abbrev Step (α : Type) := Judging.Step α

/-- Stops because of how arguments follow each other. -/
def misread {α : Type} (what : Octets) : Step α := Judging.stop s!"syntax error: {what}"

/-- The argument before the place, as it is shown. -/
def shownBefore : Step Octets := do
  let p ← get
  return Shown.marked ((p.arguments[p.next - 1]?).getD "")

/-- Stops if there are no more arguments. -/
def demand : Step Unit := do
  if (← Judging.left) = 0 then
    let before ← shownBefore
    misread s!"missing argument after {before}"

/-- Goes on by an argument if it is the next one. -/
def accept (s : Octets) : Step Bool := do
  if (← Judging.look? 0) = some s then
    Judging.skip 1
    return true
  else return false

/-- A value as a whole number. -/
def wholeOf (v : Value) : Step Int :=
  match v.whole? with
  | some n => return n
  | none => Judging.stop "non-integer argument"

/-- Whether there are groups in an expression. -/
def hasGroup : Regex → Bool
  | .group .. => true
  | .both a b => hasGroup a || hasGroup b
  | .either a b => hasGroup a || hasGroup b
  | .repeated body _ _ => hasGroup body
  | _ => false

/-- What a pattern matches at the front of a text: what its first group did, or how many characters. -/
def matchFront (subject pattern : Octets) : Step Value := do
  match Regex.read ⟨false, false⟩ (Octets.widen pattern) with
  | .error e => Judging.stop e.message
  | .ok r =>
    let cs := (Octets.widen subject).toArray
    let found := r.matchAt? ⟨false, false⟩ cs 0
    if hasGroup r then
      let part := (found.bind fun f => f.2.lookup 1).map fun g => (cs.toList.take g.2).drop g.1
      return .text (part.elim "" Octets.narrow)
    else return .whole (found.elim 0 fun f => (f.1 : Int))

/-- The value of an operator between two values. -/
def combine (operator : Octets) (a b : Value) : Step Value := do
  match operator with
  | ":" => matchFront a.shown b.shown
  | "*" => return .whole ((← wholeOf a) * (← wholeOf b))
  | "+" => return .whole ((← wholeOf a) + (← wholeOf b))
  | "-" => return .whole ((← wholeOf a) - (← wholeOf b))
  | "/" =>
    let m ← wholeOf a
    let n ← wholeOf b
    if n = 0 then Judging.stop "division by zero" else return .whole (Int.tdiv m n)
  | "%" =>
    let m ← wholeOf a
    let n ← wholeOf b
    if n = 0 then Judging.stop "division by zero" else return .whole (Int.tmod m n)
  | operator =>
    let order :=
      match a.whole?, b.whole? with
      | some m, some n => compare m n
      | _, _ => compare a.shown b.shown
    return .ofBool <|
      match operator with
      | "<" => order == .lt
      | "<=" => order != .gt
      | "!=" => order != .eq
      | ">=" => order != .lt
      | ">" => order == .gt
      | _ => order == .eq

/-- The operators by rank, from those that bind most tightly on. -/
def ranks : List (List Octets) := [[":"], ["*", "/", "%"], ["+", "-"], ["<", "<=", "=", "==", "!=", ">=", ">"], ["&"], ["|"]]

/-- What is read: single values, or values with operators up to a rank between them. -/
inductive Level
  | single
  | rank (n : Nat)

/-- A reader, which is told whether what it reads counts. -/
abbrev Rule := Level → Bool → Step Value

/-- The level below a rank. -/
def below : Nat → Level
  | 0 => .single
  | n + 1 => .rank n

/-- Reads values with operators of a rank between them, after the first one. The fuel bounds their count. -/
def readChain (self : Rule) (rank : Nat) (counts : Bool) : Nat → Value → Step Value
  | 0, a => return a
  | fuel + 1, a => do
    match (← Judging.look? 0).filter ((ranks[rank]?).getD []).contains with
    | none => return a
    | some operator =>
      Judging.skip 1
      let value ←
        match operator with
        | "&" =>
          let b ← self (below rank) (counts && !a.isVoid)
          pure (if a.isVoid || b.isVoid then .whole 0 else a)
        | "|" =>
          let b ← self (below rank) (counts && a.isVoid)
          pure (if !a.isVoid then a else if b.isVoid then .whole 0 else b)
        | operator =>
          let b ← self (below rank) counts
          if counts then combine operator a b else pure a
      readChain self rank counts fuel value

/-- The part of a text from a place on. -/
def partOf (s : Octets) (start length : Int) : Octets :=
  if start ≤ 0 || length ≤ 0 then "" else Octets.narrow (((Octets.widen s).drop (start.toNat - 1)).take length.toNat)

/-- The first place in a text where one of some characters stands. -/
def placeOf (s marks : Octets) : Nat :=
  let cs := Octets.widen marks
  ((Octets.widen s).findIdx? cs.contains).elim 0 (· + 1)

/-- One step of reading, given the readers for what is inside. -/
def rules (self : Rule) : Rule
  | .rank n, counts => do
    let first ← self (below n) counts
    readChain self n counts ((← Judging.left) + 1) first
  | .single, counts => do
    let value : Step Value := self .single counts
    demand
    let first := (← Judging.look? 0).getD ""
    Judging.skip 1
    match first with
    | "+" =>
      demand
      let s := (← Judging.look? 0).getD ""
      Judging.skip 1
      return .text s
    | "length" => return .whole ((Octets.widen (← value).shown).length : Int)
    | "match" =>
      let s ← value
      let pattern ← value
      if counts then combine ":" s pattern else return s
    | "index" =>
      let s ← value
      let marks ← value
      return .whole (placeOf s.shown marks.shown : Int)
    | "substr" =>
      let s ← value
      let start ← value
      let length ← value
      return .text <|
        match start.whole?, length.whole? with
        | some m, some n => partOf s.shown m n
        | _, _ => ""
    | "(" =>
      let inner ← self (.rank 5) counts
      if (← Judging.left) = 0 then
        let before ← shownBefore
        misread s!"expecting ')' after {before}"
      if !(← accept ")") then
        let found := Shown.marked ((← Judging.look? 0).getD "")
        misread s!"expecting ')' instead of {found}"
      return inner
    | ")" => misread "unexpected ')'"
    | s => return .text s

/-- The readers. The fuel bounds how deep expressions stand in each other. -/
def rule : Nat → Rule
  | 0, _, _ => return .whole 0
  | fuel + 1, l, counts => rules (rule fuel) l counts

/-- The value of all arguments. -/
def reckon : Step Value := do
  let value ← rule (8 * (← Judging.left) + 8) (.rank 5) true
  match ← Judging.look? 0 with
  | some extra =>
    let shown := Shown.marked extra
    misread s!"unexpected argument {shown}"
  | none => return value

end Reckoning

/-- Writes the value of an expression. -/
def expr : Utility := fun _ call => complete call.name do
  let arguments := if call.arguments.head? = some "--" then call.arguments.drop 1 else call.arguments
  if arguments.isEmpty then failUsage 2 "missing operand"
  let (value, _) ← Reckoning.reckon.run ⟨arguments.toArray, 0⟩
  putLine value.shown
  setStatus (if value.isVoid then 1 else 0)

end ElmAssay.Machine.Utility
