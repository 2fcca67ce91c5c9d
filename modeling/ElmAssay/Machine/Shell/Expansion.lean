import ElmAssay.Machine.Shell.Arithmetic
import ElmAssay.Machine.Shell.Fields
import ElmAssay.Machine.Shell.Input
import ElmAssay.Machine.Shell.Jobs

/-!
# The expansion of words

A word is expanded to glyphs from its front to its end (`expand`): parameters and what is made of their values, the
output of scripts, and the values of arithmetic expressions. The glyphs become fields (`expandFields`), a text
(`expandText`), or a pattern (`expandPattern`).
-/

namespace ElmAssay.Machine.Shell

/-- The value of a parameter. -/
inductive Value
  | absent
  | one (s : Octets)
  | many (ss : List Octets)
  deriving DecidableEq, Repr

/-- The options that are set, by their letters. -/
def Options.letters (o : Options) : Octets :=
  String.ofList ([('u', o.needsValues), ('a', o.exportsAll), ('C', o.protectsFiles), ('v', o.verbose), ('x', o.traces),
    ('s', o.readsInput), ('n', o.onlyReads), ('f', o.keepsPatterns), ('e', o.stopsOnFailure)].filterMap fun p =>
      if p.2 then some p.1 else none)

namespace State

/-- The value of a parameter. -/
def parameter (s : State) (name : Octets) : Value :=
  match name with
  | "@" => .many s.arguments
  | "*" => .many s.arguments
  | "#" => .one (Numeral.text s.arguments.length)
  | "?" => .one (Numeral.text s.status)
  | "$" => .one (Numeral.text s.processId)
  | "-" => .one s.options.letters
  | "!" => s.lastBackground.elim .absent fun n => .one (Numeral.text n)
  | name =>
    match Numeral.plain? name with
    | some 0 => .one s.name
    | some n => (s.arguments[n - 1]?).elim .absent .one
    | none => (s.value? name).elim .absent .one

/-- The text of a value, with its members put together. -/
def textOf (s : State) : Value → Octets
  | .absent => ""
  | .one t => t
  | .many ts => s.joint.intercalate ts

/-- The glyphs of a value. The quoted list of arguments keeps each of them apart. -/
def glyphs (s : State) (name : Octets) (isQuoted : Bool) : Value → List Glyph
  | .absent => []
  | .one t => Glyph.ofValue isQuoted t
  | .many ts =>
    if isQuoted && name == "*" then Glyph.ofValue true (s.textOf (.many ts))
    else
      (ts.map fun t => if isQuoted && t.isEmpty then [.blank] else Glyph.ofValue isQuoted t).intersperse [.cut] |>.flatten

end State

/-- Stops if a parameter without a value counts as an error. -/
def demand (name : Octets) (v : Value) : Shell Unit := do
  if v = .absent && (← get).options.needsValues then fail s!"{name}: parameter not set"

/-- Stops because a parameter has no value that counts. -/
def refuseEmpty {α : Type} (name : Octets) (emptyIsNone : Bool) (message : Octets) : Shell α :=
  fail <|
    if !message.isEmpty then s!"{name}: {message}"
    else if emptyIsNone then s!"{name}: parameter not set or null"
    else s!"{name}: parameter not set"

/-- The output of a script that runs by itself, without the line ends at its end. -/
def capture (ev : Evaluator) (body : Script) : Shell Octets := do
  modify fun s => s.withJob none
  let (output, input) ← ask .pipe
  let child ← split ev do
    let _ ← ask (.close output)
    if input != 1 then
      let _ ← ask (.duplicate input 1)
      let _ ← ask (.close input)
    ev (.run ⟨false, true⟩ body)
  let _ ← ask (.close input)
  let data ← lift (Routine.readAll output)
  let _ ← ask (.close output)
  let status ← await child
  modify fun s => { s with outputStatus := status }
  let text := ((data.toOption).getD "").toList.filter (· != '\x00')
  return String.ofList (Text.dropTrailing (· == '\n') text)

/-- The value of an arithmetic expression. -/
def calculate (expression : Octets) : Shell Int := do
  let s ← get
  match Arithmetic.evaluate s.valueOf expression.toList with
  | .ok (n, assigned) =>
    for (name, value) in assigned.reverse do
      assign name value
    return n
  | .error (.expression what) => fail s!"arithmetic expression: {what}: \"{expression}\""
  | .error (.badNumber t) => fail s!"Illegal number: {t}"

/-- The directory that a name after a tilde stands for. -/
def State.homeOf? (s : State) (name : Octets) : Option Octets :=
  if name.isEmpty then s.value? "HOME" else if name = "root" then some "/root" else none

/-- The characters of a word with a tilde in front replaced by the directory that it stands for. `isWhole` says whether
the word ends with them. -/
def State.tilde (s : State) (inAssignment isWhole : Bool) (cs : List Char) : Option (Octets × List Char) :=
  match cs with
  | '~' :: rest =>
    let ends (c : Char) : Bool := c == '/' || (inAssignment && c == ':')
    let name := rest.takeWhile (!ends ·)
    let after := rest.dropWhile (!ends ·)
    if after.isEmpty && !isWhole then none else (s.homeOf? (String.ofList name)).map (·, after)
  | _ => none

/-- The glyphs of characters that are not quoted, where a tilde may stand at the front, and in an assignment behind
colons too. The fuel bounds their count. -/
def State.plainGlyphs (s : State) (make : Char → Glyph) (inAssignment isWhole : Bool) :
    Nat → Bool → List Char → List Glyph
  | 0, _, _ => []
  | _, _, [] => []
  | fuel + 1, atStart, c :: cs =>
    match if atStart then s.tilde inAssignment isWhole (c :: cs) else none with
    | some (home, rest) => home.toList.map .quoted ++ s.plainGlyphs make inAssignment isWhole fuel false rest
    | none => make c :: s.plainGlyphs make inAssignment isWhole fuel (inAssignment && c == ':') cs

/-- Where a word stands: whether it is the word of a parameter, which may be cut, and whether it is the value of an
assignment. -/
structure Setting where
  isInner : Bool
  isAssigned : Bool
  deriving DecidableEq, Repr

/-- The glyphs of a value that was looked at, which are a field also where nothing is left of it. -/
def State.lookedAt (s : State) (name : Octets) (isQuoted : Bool) (v : Value) : List Glyph :=
  if isQuoted && v == .many [] then [.blank] else s.glyphs name isQuoted v

/-- The glyphs of a parameter and what is made of its value. -/
def expandParameter (inner : Setting → Word → Shell (List Glyph)) (name : Octets) (isQuoted : Bool)
    (use : Use) : Shell (List Glyph) := do
  let s ← get
  let v := s.parameter name
  match use with
  | .plain =>
    demand name v
    return s.glyphs name isQuoted v
  | .length =>
    demand name v
    return Glyph.ofValue isQuoted (Numeral.text (s.textOf v).length)
  | .substitute kind emptyIsNone word =>
    let isNone := v = .absent ∨ (emptyIsNone ∧ (s.textOf v).isEmpty)
    match kind with
    | .instead => if isNone then return [] else inner ⟨true, false⟩ word
    | .word => if isNone then inner ⟨true, false⟩ word else return s.lookedAt name isQuoted v
    | .assigned =>
      if isNone then
        if !isName name.toList then fail s!"{name}: bad variable name"
        let value := Glyph.text s.joint (← inner ⟨false, true⟩ word)
        assign name value
        return Glyph.ofValue isQuoted value
      else return s.lookedAt name isQuoted v
    | .error =>
      if isNone then refuseEmpty name emptyIsNone (Glyph.text s.joint (← inner ⟨false, false⟩ word))
      else return s.lookedAt name isQuoted v
  | .cut front longest pattern =>
    demand name v
    let w := Glyph.wildcard (← inner ⟨false, false⟩ pattern)
    let shorten (t : Octets) : Octets :=
      String.ofList (if front then w.cutFront longest t.toList else w.cutBack longest t.toList)
    let cut : Value :=
      match v with
      | .absent => .absent
      | .one t => .one (shorten t)
      | .many ts =>
        if front then .many (ts.take 1 |>.map shorten |> (· ++ ts.drop 1))
        else .many (ts.dropLast ++ (ts.getLast?.map shorten).toList)
    return s.lookedAt name isQuoted cut
  | .bad => fail "Bad substitution"

/-- The glyphs of a word. The fuel bounds how deep words stand in each other. -/
def expand (ev : Evaluator) : Nat → Setting → Word → Shell (List Glyph)
  | 0, _, _ => return []
  | fuel + 1, setting, word => do
    let mut all : List Glyph := []
    let mut atStart := true
    let mut left := word.length
    for piece in word do
      left := left - 1
      let gs ←
        match piece with
        | .chars t true => pure (if t.isEmpty then [.blank] else t.toList.map .quoted)
        | .chars t false =>
          let make : Char → Glyph := if setting.isInner then .value else .plain
          let cs := t.toList
          pure ((← get).plainGlyphs make setting.isAssigned (left == 0) (cs.length + 1) atStart cs)
        | .parameter name use isQuoted => expandParameter (expand ev fuel) name isQuoted use
        | .output body isQuoted => pure (Glyph.ofValue isQuoted (← capture ev body))
        | .arithmetic expression isQuoted =>
          let text := Glyph.text " " (← expand ev fuel ⟨false, false⟩ expression)
          pure (Glyph.ofValue isQuoted (Numeral.signedText (← calculate text)))
      all := all ++ gs
      atStart := false
    return all

/-- How deep words may stand in each other. -/
def depth : Nat := 1000

/-- The text of a word. -/
def expandText (ev : Evaluator) (isAssigned : Bool) (word : Word) : Shell Octets := do
  let gs ← expand ev depth ⟨false, isAssigned⟩ word
  return Glyph.text (← get).joint gs

/-- The pattern of a word. -/
def expandPattern (ev : Evaluator) (word : Word) : Shell Wildcard := do
  return Glyph.wildcard (← expand ev depth ⟨false, false⟩ word)

/-- The fields of a word, with names of files in place of patterns. -/
def expandFields (ev : Evaluator) (word : Word) : Shell (List Octets) := do
  let gs ← expand ev depth ⟨false, false⟩ word
  let s ← get
  let mut all : List Octets := []
  for field in Glyph.fields s.separators gs do
    all := all ++ (← lift (Glyph.fileNames s.options.keepsPatterns field))
  return all

end ElmAssay.Machine.Shell
