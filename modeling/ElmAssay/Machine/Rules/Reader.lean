import ElmAssay.Machine.Rules.Reader.Expr

/-!
# Reading programs of rules

Statements end with a line or a semicolon. After a token out of place the reader goes on behind the end of the statement, so
that it can tell of more (`readStatement`). In the end the variables that were only handed to functions get the use that
these make of them (`settled`), and a program comes out if nothing was told (`Rules.read`).
-/

namespace ElmAssay.Machine.Rules

open Read

/-! ## Statements -/

/-- What reads statements; it is told whether a closing brace may stand in the place of one. -/
abbrev StatementReader := Bool → Read Statement

/-- Takes the end of a statement. -/
def expectEnd : Read Unit := do
  match ← peek with
  | .newline => skip
  | .separator _ => skip
  | _ => misplace

/-- Passes over line feeds. -/
def skipLines : Read Unit :=
  modify fun r => if r.held.isNone then { r with scanner := r.scanner.behindLines } else r

/-- Passes over tokens up to the end of a statement, or up to a closing brace. -/
def recover (stopsAtBrace : Bool) : Nat → Read Unit
  | 0 => halt
  | fuel + 1 => do
    let t ← peek
    let done : Read Unit :=
      modify fun r =>
        { r with scanner := { r.scanner with isPrinting := false, isReading := false, parentheses := 0 } }
    match t with
    | .ending => halt
    | .newline =>
      skip
      done
    | .separator _ =>
      skip
      done
    | t =>
      if stopsAtBrace && t.isMark "\x7d" then done
      else
        skip
        recover stopsAtBrace fuel

/-- Reads the arguments of a statement that prints; these may stand in brackets. -/
def readPrinted (expr : ExprReader) : Read (List Expr) := do
  let grouped : Read (Option (List Expr)) := do
    if ← takeMark "(" then
      if ← takeMark ")" then return some []
      else
        let arguments ← readList expr
        expectMark ")"
        if arguments.length < 2 || (← peek).isWord "in" then return none
        else return some arguments
    else return none
  match ← attempt grouped with
  | some arguments => return arguments
  | none => if beginsExpr (← peek) then readList expr else return []

/-- Reads a statement that prints, behind its word. -/
def readPrint (expr : ExprReader) (isFormatted : Bool) : Read Statement := do
  let setPrinting (b : Bool) : Read Unit :=
    modify fun r => { r with scanner := { r.scanner with isPrinting := b } }
  setPrinting true
  let arguments ← readPrinted expr
  let redirection : Redirection ←
    match ← peek with
    | .outward k =>
      skip
      let e ← valueOf expr .assignment
      pure (some (k, e))
    | _ => pure none
  expectEnd
  if isFormatted && arguments.isEmpty then complain "no arguments in call to printf"
  setPrinting false
  if isFormatted then return .printf arguments redirection else return .print arguments redirection

/-- Reads a condition in brackets. -/
def readCondition (expr : ExprReader) : Read Expr := do
  expectMark "("
  let e ← valueOf expr .assignment
  expectMark ")"
  return e

/-- Reads the body of a loop. -/
def readBody (statement : StatementReader) : Read Statement := do
  modify fun r => { r with loops := r.loops + 1 }
  let body ← statement false
  modify fun r => { r with loops := r.loops - 1 }
  return body

/-- Reads an expression that may be missing in front of a mark. -/
def readUpTo (expr : ExprReader) (isEnd : Token → Bool) : Read (Option Expr) := do
  if isEnd (← peek) then
    skip
    return none
  else
    let e ← valueOf expr .assignment
    if isEnd (← peek) then
      skip
      return some e
    else misplace

/-- Whether a token is a semicolon. -/
def isSemicolon (t : Token) : Bool :=
  match t with
  | .separator _ => true
  | _ => false

/-- Reads a loop with a head, behind its word. -/
def readFor (expr : ExprReader) (statement : StatementReader) : Read Statement := do
  expectMark "("
  let each : Read (Option Ref) := do
    match ← peek with
    | .name s =>
      skip
      let r ← refOf s
      if (← peek).isWord "in" then
        skip
        return some r
      else return none
    | _ => return none
  match ← attempt each with
  | some r =>
    useAs r .single
    let array ← expectName
    useAs array .table
    expectMark ")"
    skipLines
    return .forEach r array (← readBody statement)
  | none =>
    let start ← readUpTo expr isSemicolon
    let condition ← readUpTo expr isSemicolon
    let step ← readUpTo expr (·.isMark ")")
    skipLines
    return .count start condition step (← readBody statement)

/-- Reads what follows a statement whose body may be misread: the word and the condition of a loop behind it. -/
def readLoopAfter (expr : ExprReader) (statement : StatementReader) : Read Statement := do
  skipLines
  let body ← readBody statement
  if (← peek).isWord "while" then
    skip
    let condition ← readCondition expr
    expectEnd
    return .loopAfter body condition
  else misplace

/-- Reads the choice behind its word. -/
def readWhen (expr : ExprReader) (statement : StatementReader) : Read Statement := do
  let condition ← readCondition expr
  skipLines
  let yes ← statement false
  if (← peek).isWord "else" then
    skip
    skipLines
    return .when condition yes (some (← statement false))
  else return .when condition yes none

/-- Reads a statement that is one word. -/
def readSingle (s : Statement) (isFit : Reading → Bool) (message : Octets) : Read Statement := do
  expectEnd
  if !isFit (← get) then complain message
  return s

/-- Reads what leaves a function or the program, behind its word. -/
def readLeaving (expr : ExprReader) (make : Option Expr → Statement) (isFit : Reading → Bool) : Read Statement := do
  let e ← if beginsExpr (← peek) then some <$> valueOf expr .assignment else pure none
  expectEnd
  if !isFit (← get) then complain "return outside function body"
  return make e

/-- Reads what is deleted, behind the word for it. -/
def readDelete (expr : ExprReader) : Read Statement := do
  let r ← expectName
  useAs r .table
  if ← takeMark "[" then
    let subscripts ← readList expr
    expectMark "]"
    expectEnd
    return .delete r (some subscripts)
  else
    expectEnd
    return .delete r none

/-- Reads statements up to a closing brace behind others, latest first. The fuel bounds their count. -/
def readStatements (statement : StatementReader) : Nat → List Statement → Read (List Statement)
  | 0, _ => halt
  | fuel + 1, done => do
    if !done.isEmpty then
      if ← takeMark "\x7d" then return done.reverse
      else readStatements statement fuel ((← statement false) :: done)
    else readStatements statement fuel ((← statement true) :: done)

/-- Reads a block behind its brace. -/
def readBlock (statement : StatementReader) : Read Statement := do
  return .block (← readStatements statement 1000000 [])

/-- Reads a statement whose tokens are in place. -/
def readPlain (expr : ExprReader) (statement : StatementReader) : Read Statement := do
  let t ← peek
  match t with
  | .newline =>
    skip
    return .block []
  | .separator _ =>
    skip
    return .block []
  | .mark "\x7b" =>
    skip
    readBlock statement
  | .word "print" =>
    skip
    readPrint expr false
  | .word "printf" =>
    skip
    readPrint expr true
  | .word "if" =>
    skip
    readWhen expr statement
  | .word "while" =>
    skip
    let condition ← readCondition expr
    skipLines
    return .loop condition (← readBody statement)
  | .word "do" =>
    skip
    readLoopAfter expr statement
  | .word "for" =>
    skip
    readFor expr statement
  | .word "break" =>
    skip
    readSingle .leaveLoop (fun r => r.loops != 0) "break statement outside of loop"
  | .word "continue" =>
    skip
    readSingle .nextTurn (fun r => r.loops != 0) "continue statement outside of loop"
  | .word "next" =>
    skip
    readSingle .next (fun r => r.scope = .rules) "improper use of next"
  | .word "nextfile" =>
    skip
    readSingle .nextFile (fun r => r.scope = .rules) "improper use of nextfile"
  | .word "exit" =>
    skip
    readLeaving expr .exit fun _ => true
  | .word "return" =>
    skip
    readLeaving expr .return fun r => r.functionHere.isSome
  | .word "delete" =>
    skip
    readDelete expr
  | t =>
    if !beginsExpr t then misplace
    let e ← valueOf expr .assignment
    expectEnd
    return .evaluate e

/-- Reads a statement. What is out of place in it is passed over. The fuel bounds the depth. -/
def readStatement (expr : ExprReader) : Nat → StatementReader
  | 0, _ => halt
  | fuel + 1, isFirst => do
    let loops := (← get).loops
    try readPlain expr (readStatement expr fuel)
    catch
      | .halted => halt
      | .misplaced => do
        recover isFirst 1000000
        modify fun r => { r with loops := loops }
        return .block []

/-! ## Programs -/

/-- The parts of a program so far, latest first. -/
structure Parts where
  before : List Statement
  rules : List Rule
  after : List Statement

/-- What reads a program: expressions and statements. -/
structure Readers where
  expr : ExprReader
  statement : StatementReader

/-- Reads a block that has to be next. -/
def expectBlock (k : Readers) : Read Statement := do
  expectMark "\x7b"
  readBlock k.statement

/-- Reads a block in some place of the program. -/
def readBlockIn (k : Readers) (scope : Scope) : Read Statement := do
  modify fun r => { r with scope := scope }
  let body ← expectBlock k
  modify fun r => { r with scope := .rules }
  return body

/-- Reads the names of arguments up to the bracket behind them. The fuel bounds their count. -/
def readNames (function : Nat) : Nat → Read Unit
  | 0 => halt
  | fuel + 1 => do
    match ← peek with
    | .name s =>
      let r ← get
      let names := (((r.functions[function]?).map Draft.arguments).getD #[])
      if (Reading.placeOf? names s).isSome then complain s!"{s} is duplicated in argument list"
      skip
      modify fun r =>
        { r with functions := r.functions.modify function fun d => { d with arguments := d.arguments.push (s, .nothing) } }
      if ← takeMark "," then readNames function fuel else expectMark ")"
    | .called s =>
      let r ← get
      if r.functionOf? s = some function then complain "function parameter cannot be the function"
      misplace
    | _ => misplace

/-- Reads a function behind its word. -/
def readFunction (k : Readers) : Read Unit := do
  let name ←
    match ← peek with
    | .name s => pure s
    | .called s => pure s
    | _ => misplace
  skip
  let r ← get
  let n := (r.functionOf? name).getD r.functions.size
  if n = r.functions.size then
    set { r with functions := r.functions.push ⟨name, false, #[], .block []⟩ }
  if ((r.functions[n]?).map Draft.isDefined).getD false then complain s!"redefinition of {name}"
  modify fun r =>
    { r with functions := r.functions.modify n fun d => { d with isDefined := true, arguments := #[] } }
  expectMark "("
  if !(← takeMark ")") then readNames n 1000
  skipLines
  let body ← readBlockIn k (.function n)
  modify fun r => { r with functions := r.functions.modify n fun d => { d with body := body } }

/-- Reads the action of a rule, or the end of a rule without one. -/
def readAction (k : Readers) : Read (Option Statement) := do
  if ← seesMark "\x7b" then some <$> expectBlock k
  else
    expectEnd
    return none

/-- Reads a part of a program. -/
def readPart (k : Readers) (p : Parts) : Read Parts := do
  let t ← peek
  match t with
  | .word "BEGIN" =>
    skip
    let body ← readBlockIn k .before
    return { p with before := body :: p.before }
  | .word "END" =>
    skip
    let body ← readBlockIn k .after
    return { p with after := body :: p.after }
  | .word "function" =>
    skip
    readFunction k
    return p
  | .mark "\x7b" =>
    let action ← readAction k
    return { p with rules := ⟨.always, action⟩ :: p.rules }
  | t =>
    if !beginsExpr t then misplace
    let first ← valueOf k.expr .assignment
    if ← takeMark "," then
      let last ← valueOf k.expr .assignment
      let action ← readAction k
      return { p with rules := ⟨.span first last, action⟩ :: p.rules }
    else
      let action ← readAction k
      return { p with rules := ⟨.holding first, action⟩ :: p.rules }

/-- Passes over tokens up to a block. -/
def recoverPart : Nat → Read Unit
  | 0 => halt
  | fuel + 1 => do
    match ← peek with
    | .ending => halt
    | t =>
      if t.isMark "\x7b" then modify fun r => { r with scope := .rules }
      else
        skip
        recoverPart fuel

/-- Reads parts of a program to its end, behind others. The fuel bounds their count. -/
def readParts (k : Readers) : Nat → Parts → Read Parts
  | 0, p => return p
  | fuel + 1, p => do
    match ← peek with
    | .ending => return p
    | _ =>
      let next ←
        try readPart k p
        catch
          | .halted => halt
          | .misplaced => do
            recoverPart 1000000
            let _ ← expectBlock k
            pure p
      readParts k fuel next

/-- The reading in which variables that were handed to functions have the use that these make of them, and the other way
round. The fuel bounds the rounds. -/
def settled : Nat → Reading → Reading
  | 0, r => r
  | fuel + 1, r =>
    let step (r : Reading) (h : Handed) : Reading :=
      let there := r.useOf (some h.function) (.own h.place)
      match h.ref with
      | none => r
      | some ref =>
        let here := r.useOf h.scope ref
        if here = .nothing && there != .nothing then r.withUse h.scope ref there
        else if there = .nothing && here = .table then r.withUse (some h.function) (.own h.place) here
        else r
    settled fuel (r.handed.foldl step r)

/-- What is wrong with the calls of a program. -/
def callDefects (r : Reading) : List Octets :=
  let line := r.scanner.line
  let isHanded (c : Called) (d : Draft) : Bool := d.isDefined && d.arguments.size < c.count
  (r.calls.reverse.filterMap fun c =>
    (r.functions[c.function]?).bind fun d =>
      let line := c.line
      if isHanded c d then some s!"{r.name}: line {line}: too many arguments in call to {d.name}" else none) ++
  (r.functions.toList.filterMap fun d =>
    if d.isDefined then none else some s!"{r.name}: line {line}: function {d.name} never defined") ++
  (r.handed.reverse.filterMap fun h =>
    (r.functions[h.function]?).bind fun d =>
      let line := h.line
      let place := h.place + 1
      let heading := s!"{r.name}: line {line}: type error in arg({place}) in call to {d.name} (actual local "
      match r.useOfHanded h, r.useOf (some h.function) (.own h.place) with
      | .single, .table => some (heading ++ "variable vs local array)")
      | .table, .single => some (heading ++ "array vs local variable)")
      | _, _ => none)

end Rules

/-- The program that a text writes, or messages about what is wrong with it. -/
def Rules.read (name text : Octets) : Except (List Octets) Rules :=
  let fuel := 1000 + 50 * text.length
  let k : Rules.Readers := ⟨Rules.readExpr fuel, Rules.readStatement (Rules.readExpr fuel) fuel⟩
  let (result, r) := ((Rules.readParts k fuel ⟨[], [], []⟩).run).run (Rules.Reading.start name text)
  match result, r.scanner.messages with
  | .ok p, [] =>
    let r := Rules.settled (r.handed.length + 1) r
    match Rules.callDefects r with
    | [] =>
      let isTable (v : Octets × Rules.Use) : Bool := v.2 == .table
      .ok
        { before := p.before.reverse, rules := p.rules.reverse, after := p.after.reverse
          functions := r.functions.map fun d => ⟨d.arguments.toList.map isTable, d.body⟩
          names := r.shared.map fun v => (v.1, isTable v) }
    | defects => .error defects
  | _, messages => .error messages.reverse

end ElmAssay.Machine
