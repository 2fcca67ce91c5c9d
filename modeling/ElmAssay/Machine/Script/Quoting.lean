import ElmAssay.Machine.Script.Reader

/-!
# Quotes and expansions in words

A word is read character by character (`readMarks`). What a character means depends on the quotes and the expansions
that are open around it (`Layer`). What stands in parentheses or grave accents after a dollar sign is a script of its
own, which `list` reads: up to a closing parenthesis, or to the end of its text.
-/

namespace ElmAssay.Machine

open Text

/-- What is open around a character. -/
inductive Layer.Mode
  | bare
  | double
  | single
  | arithmetic
  deriving DecidableEq, Repr

/-- What is open around a character, up to the next opening that changes the mode. -/
structure Layer where
  mode : Layer.Mode
  /-- The count of parameters that are open. -/
  nest : Nat
  /-- The count of those that were opened within quotes. -/
  quotedNest : Nat
  /-- The count of parentheses that are open in an arithmetic expression. -/
  parens : Nat
  isQuoted : Bool
  /-- Whether quotes are open within a parameter. -/
  hasInnerQuotes : Bool
  /-- Whether the layer ends with its parameter. -/
  endsWithParameter : Bool
  deriving DecidableEq, Repr

/-- What kind of text is read. -/
inductive TextKind
  | word
  /-- The word that ends a document. -/
  | marker
  | document
  deriving DecidableEq, Repr

/-- What was read of a word: the layers, the innermost first, the marks, latest first, and whether there were
quotes. -/
structure Lexing where
  layer : Layer
  outer : List Layer
  marks : List Mark
  isQuoted : Bool

namespace Lexing

/-- The start of a word, or of a document, which is read as if quotes were open. -/
def start (kind : TextKind) : Lexing :=
  ⟨⟨if kind = .document then .double else .bare, 0, 0, 0, kind = .document, false, false⟩, [], [], false⟩

/-- With one more mark. -/
def push (l : Lexing) (m : Mark) : Lexing := { l with marks := m :: l.marks }

/-- With a mark for quotes, which documents have none of. -/
def pushQuote (l : Lexing) (kind : TextKind) : Lexing := if kind = .document then l else l.push .quote

/-- With another layer around what follows. -/
def enter (l : Lexing) (layer : Layer) : Lexing := { l with layer := layer, outer := l.layer :: l.outer }

/-- Without the innermost layer. -/
def leave (l : Lexing) : Lexing :=
  match l.outer with
  | layer :: outer => { l with layer := layer, outer := outer }
  | [] => l

end Lexing

/-- The character that opens and closes an output in its older form. -/
def graveAccent : Char := Char.ofNat 0x60

/-- A parameter with a name of one character. -/
def isSpecialParameter (c : Char) : Bool := ['@', '*', '#', '?', '$', '!', '-'].contains c || isAsciiDigit c

/-- A character that ends a word without quotes. -/
def endsWord (c : Char) : Bool := [' ', '\t', ';', '&', '|', '<', '>', '(', ')'].contains c

namespace Lexing

open Reader

/-- The use of a parameter that the characters after its name say. -/
def readSubtype : Parse Mark.Subtype := do
  let substitute (emptyIsNone : Bool) : Parse (Option Mark.Subtype) := do
    match ← peekJoined with
    | some '-' => advance; return some (.substitute .word emptyIsNone)
    | some '+' => advance; return some (.substitute .instead emptyIsNone)
    | some '?' => advance; return some (.substitute .error emptyIsNone)
    | some '=' => advance; return some (.substitute .assigned emptyIsNone)
    | _ => return none
  match ← peekJoined with
  | some '\x7d' => advance; return .plain
  | some ':' =>
    advance
    match ← substitute true with
    | some s => return s
    | none =>
      let _ ← accept '\x7d'
      return .bad
  | some '%' =>
    advance
    return .cut false (← accept '%')
  | some '#' =>
    advance
    return .cut true (← accept '#')
  | _ => return (← substitute false).getD .bad

/-- Reads the name and the use of a parameter in braces, after the opening brace. -/
def readBraced : Parse (Octets × Mark.Subtype) := do
  let fuel := (← get).rest.length
  let named : Parse (Option Octets) := do
    match ← peekJoined with
    | some c =>
      if startsName c then return some (String.ofList (← takeJoined inName fuel))
      else if isAsciiDigit c then return some (String.ofList (← takeJoined isAsciiDigit fuel))
      else return none
    | none => return none
  match ← named with
  | some name => return (name, ← readSubtype)
  | none =>
    match ← peekJoined with
    | some '#' =>
      advance
      match ← named with
      | some name => return (name, if (← peekJoined) == some '\x7d' then .length else .bad)
      | none =>
        match ← peekJoined with
        | some '\x7d' => return ("#", ← readSubtype)
        | some c =>
          let r ← get
          advance
          if (← peekJoined) == some '\x7d' && isSpecialParameter c then return (c.toString, .length)
          else
            set r
            return ("#", ← readSubtype)
        | none => return ("", .bad)
    | some c =>
      if isSpecialParameter c then
        advance
        return (c.toString, ← readSubtype)
      else
        if c != '\x7d' then advance
        return ("", .bad)
    | none => return ("", .bad)

/-- With a parameter. -/
def openParameter (l : Lexing) (name : Octets) (subtype : Mark.Subtype) : Lexing :=
  let layer := l.layer
  let mode : Layer.Mode :=
    match subtype with
    | .cut .. => .bare
    | _ => if layer.mode = .arithmetic then .double else layer.mode
  let l := l.push (.parameter name subtype)
  if subtype = .plain then l
  else
    let l :=
      if mode ≠ layer.mode ∨ layer.hasInnerQuotes then l.enter ⟨mode, 0, 0, 0, mode ≠ .bare, false, true⟩ else l
    let quoted := if l.layer.isQuoted then 1 else 0
    { l with layer := { l.layer with nest := l.layer.nest + 1, quotedNest := l.layer.quotedNest + quoted } }

/-- Reads up to the grave accent that ends an output in its older form. The fuel bounds the steps. -/
def readGrave (isQuoted : Bool) : Nat → Parse (List Char)
  | 0 => throw "EOF in backquote substitution"
  | fuel + 1 => do
    match ← peekJoined with
    | none => throw "EOF in backquote substitution"
    | some '\\' =>
      advance
      match ← peek with
      | none => throw "EOF in backquote substitution"
      | some c =>
        advance
        let kept := c == '\\' || c == graveAccent || c == '$' || (isQuoted && c == '"')
        let rest ← readGrave isQuoted fuel
        return if kept then c :: rest else '\\' :: c :: rest
    | some c =>
      advance
      if c = graveAccent then return [] else return c :: (← readGrave isQuoted fuel)

/-- Reads what a dollar sign starts, after it. -/
def readDollar (list : Bool → Parse Script) (kind : TextKind) (l : Lexing) : Parse Lexing := do
  if kind = .marker then return l.push (.plain '$')
  match ← peekJoined with
  | some '(' =>
    advance
    if ← accept '(' then return (l.push .arithmetic).enter ⟨.arithmetic, 0, 0, 0, true, false, false⟩
    let body ← list true
    return l.push (.output body)
  | some '\x7b' =>
    advance
    let (name, subtype) ← readBraced
    return l.openParameter name subtype
  | some c =>
    if startsName c then
      let name ← takeJoined inName (← get).rest.length
      return l.push (.parameter (String.ofList name) .plain)
    else if isSpecialParameter c then
      advance
      return l.push (.parameter c.toString .plain)
    else return l.push (.plain '$')
  | none => return l.push (.plain '$')

/-- Reads what a backslash starts, after it. -/
def readBackslash (kind : TextKind) (l : Lexing) : Parse Lexing := do
  match ← peek with
  | none => return l.push (.escaped '\\')
  | some c =>
    advance
    let protects := c == '\\' || c == graveAccent || c == '$' ||
      (c == '"' && !(kind == .document && l.layer.nest == 0)) || (c == '\x7d' && l.layer.nest != 0)
    let l := if l.layer.isQuoted && !protects then l.push (.escaped '\\') else l
    return { l.push (.escaped c) with isQuoted := true }

/-- The quotes that a quotation mark opens. -/
def openQuotes (kind : TextKind) (l : Lexing) : Lexing :=
  { l with layer := { l.layer with
      mode := .double, isQuoted := true, hasInnerQuotes := l.layer.nest != 0 && !l.layer.hasInnerQuotes } }.pushQuote kind

/-- The quotes that a character of their own closes. -/
def closeQuotes (kind : TextKind) (c : Char) (l : Lexing) : Lexing :=
  if kind = .document ∧ l.layer.nest = 0 then l.push (.plain c)
  else
    let layer := l.layer
    let layer := if layer.quotedNest = 0 then { layer with mode := .bare, isQuoted := false } else layer
    let layer :=
      if c = '"' ∧ layer.nest ≠ 0 then { layer with hasInnerQuotes := !layer.hasInnerQuotes } else layer
    { l with layer := layer, isQuoted := true }.pushQuote kind

/-- What a closing brace does. -/
def closeParameter (l : Lexing) : Lexing :=
  let layer := l.layer
  if !layer.hasInnerQuotes && layer.nest != 0 then
    let l := l.push .closes
    if layer.nest = 1 ∧ layer.endsWithParameter then l.leave
    else { l with layer := { layer with nest := layer.nest - 1, quotedNest := layer.quotedNest - 1 } }
  else l.push (.plain '\x7d')

/-- What a closing parenthesis in an arithmetic expression does, after it. -/
def closeParenthesis (l : Lexing) : Parse Lexing := do
  if l.layer.parens != 0 then
    return { l.push (.plain ')') with layer := { l.layer with parens := l.layer.parens - 1 } }
  else if ← accept ')' then return (l.push .arithmeticEnd).leave
  else return l.push (.plain ')')

/-- Reads a character and what it starts; `none` at the end of the word. -/
def step (list : Bool → Parse Script) (kind : TextKind) (l : Lexing) : Parse (Option Lexing) := do
  let mode := l.layer.mode
  match ← (if mode = .single then peek else peekJoined) with
  | none => return none
  | some c =>
    let word : Parse (Option Lexing) := do
      advance
      return some (l.push (.plain c))
    if mode = .single then
      advance
      return some (if c = '\'' then l.closeQuotes kind c else l.push (.escaped c))
    else if c = '\n' then if mode = .bare ∧ l.layer.nest = 0 then return none else word
    else if c = '\\' then
      advance
      return some (← l.readBackslash kind)
    else if c = '$' then
      advance
      return some (← l.readDollar list kind)
    else if c = graveAccent then
      advance
      if kind = .marker then return some (l.push (.plain c))
      let line := (← get).line
      let text ← readGrave l.layer.isQuoted ((← get).rest.length + 1)
      let body ← within text line (list false)
      return some (l.push (.output body))
    else if c = '\x7d' then
      advance
      return some l.closeParameter
    else if mode = .double then
      advance
      return some (if c = '"' then l.closeQuotes kind c else l.push (.escaped c))
    else if mode = .arithmetic then
      advance
      if c = '(' then
        return some { l.push (.plain c) with layer := { l.layer with parens := l.layer.parens + 1 } }
      else if c = ')' then return some (← l.closeParenthesis)
      else return some (l.push (.plain c))
    else if c = '\'' then
      advance
      return some ({ l with layer := { l.layer with mode := .single } }.pushQuote kind)
    else if c = '"' then
      advance
      return some (l.openQuotes kind)
    else if endsWord c && l.layer.nest = 0 then return none
    else word

/-- Reads characters up to the end of the word. The fuel bounds their count. -/
def readFrom (list : Bool → Parse Script) (kind : TextKind) : Nat → Lexing → Parse Lexing
  | 0, l => return l
  | fuel + 1, l => do
    match ← l.step list kind with
    | none => return l
    | some l => readFrom list kind fuel l

/-- Reads a word, and gives its marks and whether it held quotes. -/
def readMarks (list : Bool → Parse Script) (kind : TextKind) : Parse (List Mark × Bool) := do
  let l ← readFrom list kind ((← get).rest.length + 1) (start kind)
  if l.layer.mode = .arithmetic then throw "Missing '))'"
  if l.layer.mode ≠ .bare ∧ kind ≠ .document then throw "Unterminated quoted string"
  if l.layer.nest ≠ 0 then throw "Missing '\x7d'"
  return (l.marks.reverse, l.isQuoted)

end Lexing
end ElmAssay.Machine
