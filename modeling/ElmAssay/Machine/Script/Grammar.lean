import ElmAssay.Machine.Script.Quoting

/-!
# The grammar of scripts

Scripts are read by recursive descent (`Grammar.rule`): lists of commands, chains of commands that depend on each other,
pipelines, and single commands. A script is read one complete line at a time (`Script.readLine`), because what a line
does may come before a defect in a later one.
-/

namespace ElmAssay.Machine

open Text Reader

namespace Grammar

/-- What the grammar can read. -/
inductive Nonterminal
  /-- A list of commands. It may be empty, or end with a line. -/
  | list (mayBeEmpty endsWithLine : Bool)
  | chain
  | pipeline
  | command
  deriving DecidableEq, Repr

/-- A reader for each of them. -/
abbrev Rule := Nonterminal → Parse Script

/-- Stops at a token that cannot stand where it stands. -/
def unexpected {α : Type} (expected : Option Token) : Parse α := do
  let found := (← get).last.name
  match expected with
  | some t => throw s!"{found} unexpected (expecting {t.name})"
  | none => throw s!"{found} unexpected"

/-- Reads the script of an output, up to the parenthesis that closes it, or as far as its text goes. -/
def readOutput (self : Rule) (isClosed : Bool) : Parse Script := do
  let announced := (← get).announced
  modify fun r => { r with pushed := false, announced := [] }
  let body ← self (.list true false)
  modify fun r => { r with pushed := false, announced := announced }
  if isClosed && (← get).last != .mark ")" then unexpected (some (.mark ")")) else return body

/-! ## Tokens -/

/-- Leaves the last token to be read once more. -/
def pushBack : Parse Unit := modify fun r => { r with pushed := true }

/-- Makes a token the last one. -/
def yield (t : Token) : Parse Token := do
  modify fun r => { r with last := t }
  return t

/-- Skips a comment. -/
def skipComment : Parse Unit := modify fun r => { r with rest := r.rest.dropWhile (· != '\n') }

/-- The redirection that an angle bracket starts, before it. The word behind it is missing still. -/
def readRedirect (number : Option Nat) : Parse Redirect := do
  if ← accept '>' then
    let number := number.getD 1
    if ← accept '>' then return .file number .append []
    else if ← accept '|' then return .file number .overwrite []
    else if ← accept '&' then return .copyNamed number []
    else return .file number .write []
  else
    let _ ← accept '<'
    let number := number.getD 0
    if ← accept '<' then return .document number (if ← accept '-' then 1 else 0)
    else if ← accept '&' then return .copyNamed number []
    else if ← accept '>' then return .file number .both []
    else return .file number .read []

/-- Reads a word or a redirection. -/
def readWord (self : Rule) (kind : TextKind) : Parse Token := do
  let (marks, isQuoted) ← Lexing.readMarks (readOutput self) kind
  modify fun r => { r with marks := marks, isQuoted := isQuoted }
  let number : Option (Option Nat) :=
    match marks with
    | [] => some none
    | [.plain c] => if isAsciiDigit c then some (some (c.toNat - 48)) else none
    | _ => none
  match isQuoted, number, ← peek with
  | false, some number, some c =>
    if c = '<' ∨ c = '>' then
      let redirect ← readRedirect number
      modify fun r => { r with redirect := redirect }
      yield .redirect
    else yield .word
  | _, _, _ => yield .word

/-- Reads the next token. The fuel bounds the blanks and comments in front of it. -/
def readToken (self : Rule) (kind : TextKind) : Nat → Parse Token
  | 0 => yield .fileEnd
  | fuel + 1 => do
    let r ← get
    if r.pushed then
      set { r with pushed := false }
      return r.last
    let double (c : Char) (two one : String) : Parse Token := do
      advance
      if ← accept c then yield (.mark two) else yield (.mark one)
    match ← peekJoined with
    | none => yield .fileEnd
    | some ' ' => advance; readToken self kind fuel
    | some '\t' => advance; readToken self kind fuel
    | some '#' => skipComment; readToken self kind fuel
    | some '\n' => advance; yield .newline
    | some '&' => double '&' "&&" "&"
    | some '|' => double '|' "||" "|"
    | some ';' => double ';' ";;" ";"
    | some '(' => advance; yield (.mark "(")
    | some ')' => advance; yield (.mark ")")
    | some _ => readWord self kind

/-! ## Documents -/

/-- Whether a line goes on behind its end. -/
def isJoined (line : List Char) : Bool := (line.reverse.takeWhile (· == '\\')).length % 2 == 1

/-- The text of a document, the count of its lines, and what follows it. The fuel bounds the lines. -/
def documentText (a : Announced) : Nat → Bool → List Char → List Char × Nat × List Char
  | 0, _, s => ([], 0, s)
  | fuel + 1, joined, s =>
    if s.isEmpty then ([], 0, [])
    else
      let raw := s.takeWhile (· != '\n')
      let rest := s.drop (raw.length + 1)
      let line := if a.dropsTabs && !joined then raw.dropWhile (· == '\t') else raw
      if !joined && line == a.marker then ([], 1, rest)
      else
        let (text, count, after) := documentText a fuel (!a.isLiteral && isJoined raw) rest
        (line ++ (if raw.length < s.length then ['\n'] else []) ++ text, count + 1, after)

/-- Reads a document that was announced. -/
def readDocument (self : Rule) (a : Announced) : Parse Unit := do
  let r ← get
  let (text, count, rest) := documentText a (r.rest.length + 1) false r.rest
  let word ←
    if a.isLiteral then pure [.chars (String.ofList text) true]
    else
      let (marks, _) ← within text r.line (Lexing.readMarks (readOutput self) .document)
      pure (Mark.quotedWord marks)
  modify fun r =>
    { r with rest := rest, line := r.line + count, documents := (a.id, word) :: r.documents }

/-- Reads the documents that were announced. -/
def readDocuments (self : Rule) : Parse Unit := do
  let announced := (← get).announced
  modify fun r => { r with announced := [] }
  announced.forM fun a => do
    let r ← get
    readDocument self a
    modify fun s => { s with pushed := r.pushed, last := r.last, marks := r.marks, isQuoted := r.isQuoted }

/-- Reads the next token behind line ends, and the documents behind these. The fuel bounds their count. -/
def skipNewlines (self : Rule) : Nat → Token → Parse Token
  | 0, t => return t
  | fuel + 1, t => do
    if t = .newline then
      readDocuments self
      skipNewlines self fuel (← readToken self .word (← room))
    else return t

/-- Reads the next token: perhaps behind line ends, perhaps one of the words of the grammar, and perhaps from the text that
stands in for another name. Behind a text that ends in a blank there may be one more. The fuel bounds the texts. -/
def tokenIn (self : Rule) (keywords newlines : Bool) : Nat → Bool → Parse Token
  | 0, _ => yield .fileEnd
  | fuel + 1, aliases => do
    let before := (← get).rest.length
    let t ← readToken self .word (← room)
    let t ← if newlines then skipNewlines self (← room) t else pure t
    let r ← get
    match if t = .word && !r.isQuoted then Mark.plainText? r.marks else none with
    | none => return t
    | some s =>
      let s := String.ofList s
      let aliases := aliases || (← passedBlank before)
      if keywords && Token.keywords.contains s then yield (.mark s)
      else if !aliases then return t
      else if ← expandAlias s then tokenIn self keywords newlines fuel aliases
      else return t

/-- Reads the next token: perhaps behind line ends, and perhaps one of the words of the grammar or another name. -/
def token (self : Rule) (keywords newlines : Bool) : Parse Token := do
  tokenIn self keywords newlines (← room) keywords

/-- Reads a token that has to be there. -/
def expect (self : Rule) (keywords newlines : Bool) (t : Token) : Parse Unit := do
  if (← token self keywords newlines) != t then unexpected (some t)

/-- Reads the word behind a redirection. -/
def completeRedirect (self : Rule) (head : Redirect) : Parse Redirect := do
  let kind : TextKind :=
    match head with
    | .document .. => .marker
    | _ => .word
  let t ← readToken self kind (← room)
  if t != .word then unexpected none
  let r ← get
  let word := Mark.word r.marks
  match head with
  | .file number manner _ => return .file number manner word
  | .copyNamed number _ =>
    match Mark.plainText? r.marks with
    | some ['-'] => return .close number
    | some [c] => if isAsciiDigit c then return .copy number (c.toNat - 48) else return .copyNamed number word
    | _ => return .copyNamed number word
  | .document number dropsTabs =>
    let a : Announced := ⟨r.nextDocument, Mark.bareText r.marks, dropsTabs == 1, r.isQuoted⟩
    set { r with announced := r.announced ++ [a], nextDocument := r.nextDocument + 1 }
    return .document number a.id
  | redirect => return redirect

/-! ## Commands -/

/-- Reads redirections as long as there are some. The fuel bounds their count. -/
def readRedirects (self : Rule) : Nat → Parse (List Redirect)
  | 0 => return []
  | fuel + 1 => do
    if (← token self true false) == .redirect then
      let r ← completeRedirect self (← get).redirect
      return r :: (← readRedirects self fuel)
    else
      pushBack
      return []

/-- What a simple command is made of, each part latest first. -/
structure Simple where
  assignments : List (Octets × Word)
  words : List Word
  redirects : List Redirect

/-- The builtin commands whose names no function can have. -/
def specialNames : List Octets :=
  [".", ":", "break", "continue", "eval", "exec", "exit", "export", "local", "readonly", "return", "set", "shift",
   "times", "trap", "unset"]

/-- Reads a function after its name and the opening parenthesis. -/
def readDefinition (self : Rule) (name : List Mark) (isQuoted : Bool) : Parse Script := do
  expect self false false (.mark ")")
  match if isQuoted then none else Mark.plainText? name with
  | some text =>
    if !isName text || specialNames.contains (String.ofList text) then throw "Bad function name"
    let line := (← get).line
    let _ ← token self true true
    pushBack
    return .definition line (String.ofList text) (← self .command)
  | none => throw "Bad function name"

/-- Reads a simple command. The fuel bounds the count of its words. -/
def readSimple (self : Rule) (line : Nat) : Nat → Simple → Parse Script
  | 0, _ => throw "command too long"
  | fuel + 1, c => do
    let finish : Parse Script := do
      pushBack
      return .command line c.assignments.reverse c.words.reverse c.redirects.reverse
    match ← tokenIn self false false (← room) c.words.isEmpty with
    | .word =>
      let r ← get
      let word := Mark.word r.marks
      let more (c : Simple) := readSimple self line fuel c
      match if c.words.isEmpty then Mark.assignment? r.marks else none with
      | some (name, value) => more { c with assignments := (name, Mark.word value) :: c.assignments }
      | none =>
        let isFirst := c.words.isEmpty && c.assignments.isEmpty && c.redirects.isEmpty
        if isFirst then
          let t ← token self false false
          if t = .mark "(" then readDefinition self r.marks r.isQuoted
          else
            pushBack
            more { c with words := [word] }
        else more { c with words := word :: c.words }
    | .redirect =>
      let redirect ← completeRedirect self (← get).redirect
      readSimple self line fuel { c with redirects := redirect :: c.redirects }
    | _ => finish

/-- Reads the rest of a conditional after its first word. The fuel bounds the count of its branches. -/
def readConditional (self : Rule) : Nat → Parse Script
  | 0 => throw "command too long"
  | fuel + 1 => do
    let test ← self (.list false false)
    expect self true false (.mark "then")
    let yes ← self (.list false false)
    match ← token self true false with
    | .mark "elif" => return .conditional test yes (some (← readConditional self fuel))
    | .mark "else" => return .conditional test yes (some (← self (.list false false)))
    | _ =>
      pushBack
      return .conditional test yes none

/-- Reads words up to another token. The fuel bounds their count. -/
def readWords (self : Rule) : Nat → Parse (List Word)
  | 0 => return []
  | fuel + 1 => do
    if (← token self false false) == .word then
      let word := Mark.word (← get).marks
      return word :: (← readWords self fuel)
    else return []

/-- Reads the rest of a loop over words after its first word. -/
def readForEach (self : Rule) (line : Nat) : Parse Script := do
  let t ← token self false false
  let r ← get
  let name := Mark.plainText? r.marks
  if t != .word || r.isQuoted || !name.any isName then throw "Bad for loop variable"
  let name := String.ofList (name.getD [])
  let words ←
    if (← token self true true) == .mark "in" then
      let words ← readWords self (← room)
      let last := (← get).last
      if last != .newline && last != .mark ";" then unexpected none
      if last == .newline then readDocuments self
      pure words
    else
      if (← get).last != .mark ";" then pushBack
      pure [[.parameter "@" .plain true]]
  expect self true true (.mark "do")
  return .forEach line name words (← self (.list false false))

/-- Reads the patterns of an arm, the first of which was read, up to the closing parenthesis. Any token counts as a
pattern. The fuel bounds their count. -/
def readPatterns (self : Rule) : Nat → Parse (List Word)
  | 0 => return []
  | fuel + 1 => do
    let word := Mark.word (← get).marks
    if (← token self false false) == .mark "|" then
      let _ ← token self false false
      return word :: (← readPatterns self fuel)
    else
      if (← get).last != .mark ")" then unexpected (some (.mark ")"))
      return [word]

/-- Reads the arms of a choice. The fuel bounds their count. -/
def readArms (self : Rule) : Nat → Parse (List (List Word × Script))
  | 0 => return []
  | fuel + 1 => do
    let t ← tokenIn self true true (← room) false
    if t = .mark "esac" then return []
    else
      if t = .mark "(" then
        let _ ← token self false false
      let patterns ← readPatterns self (← room)
      let body ← self (.list true false)
      let t ← tokenIn self true true (← room) false
      if t = .mark "esac" then return [(patterns, body)]
      else if t = .mark ";;" then return (patterns, body) :: (← readArms self fuel)
      else unexpected (some (.mark ";;"))

/-- Reads the rest of a choice after its first word. -/
def readChoice (self : Rule) (line : Nat) : Parse Script := do
  if (← token self false false) != .word then unexpected (some .word)
  let subject := Mark.word (← get).marks
  expect self true true (.mark "in")
  return .choice line subject (← readArms self (← room))

/-- A command with the redirections that follow it. -/
def withRedirects (line : Nat) (body : Script) (redirects : List Redirect) : Script :=
  if redirects.isEmpty then body
  else
    match body with
    | .nested line body _ => .nested line body redirects
    | body => .redirected line body redirects

/-- Reads a command. -/
def readCommand (self : Rule) : Parse Script := do
  let line := (← get).line
  let fuel ← room
  let closedBy (t : String) (body : Script) : Parse Script := do
    expect self true false (.mark t)
    return withRedirects line body (← readRedirects self fuel)
  match ← token self true false with
  | .mark "if" => closedBy "fi" (← readConditional self fuel)
  | .mark "while" =>
    let test ← self (.list false false)
    expect self true false (.mark "do")
    closedBy "done" (.repeated true test (← self (.list false false)))
  | .mark "until" =>
    let test ← self (.list false false)
    expect self true false (.mark "do")
    closedBy "done" (.repeated false test (← self (.list false false)))
  | .mark "for" => closedBy "done" (← readForEach self line)
  | .mark "case" =>
    let body ← readChoice self line
    return withRedirects line body (← readRedirects self fuel)
  | .mark "(" => closedBy ")" (.nested line (← self (.list false false)) [])
  | .mark "\x7b" => closedBy "\x7d" (← self (.list false false))
  | .word =>
    pushBack
    readSimple self (← get).line fuel ⟨[], [], []⟩
  | .redirect =>
    pushBack
    readSimple self (← get).line fuel ⟨[], [], []⟩
  | _ => unexpected none

/-- Reads the commands of a pipeline after the first one. The fuel bounds their count. -/
def readParts (self : Rule) : Nat → Parse (List Script)
  | 0 => return []
  | fuel + 1 => do
    if (← token self true false) == .mark "|" then
      let _ ← token self true true
      pushBack
      let part ← self .command
      return part :: (← readParts self fuel)
    else
      pushBack
      return []

/-- Reads a pipeline. -/
def readPipeline (self : Rule) : Parse Script := do
  let negated := (← token self true false) == .mark "!"
  if !negated then pushBack
  let first ← self .command
  let rest ← readParts self (← room)
  let body := if rest.isEmpty then first else .piped (first :: rest)
  return if negated then .negated body else body

/-- Reads pipelines that depend on each other, after the first one. The fuel bounds their count. -/
def readChain (self : Rule) : Nat → Script → Parse Script
  | 0, left => return left
  | fuel + 1, left => do
    let continued (join : Script → Script → Script) : Parse Script := do
      let _ ← token self true true
      pushBack
      let right ← self .pipeline
      readChain self fuel (join left right)
    match ← token self true false with
    | .mark "&&" => continued .both
    | .mark "||" => continued .either
    | _ =>
      pushBack
      return left

/-- A command that runs in the background. -/
def inBackground (line : Nat) : Script → Script
  | .redirected line body redirects => .background line body redirects
  | body => .background line body []

/-- Two scripts one after the other. -/
def andThen (first second : Script) : Script :=
  match first with
  | .nothing => second
  | first => .sequence first second

/-- Reads a list after what was read of it already. The fuel bounds the count of its commands. -/
def readList (self : Rule) (endsWithLine : Bool) : Nat → Bool → Script → Parse Script
  | 0, _, before => return before
  | fuel + 1, mayEnd, before => do
    let t ← token self true (!endsWithLine)
    if t = .newline then
      readDocuments self
      return before
    if t = .fileEnd then
      readDocuments self
      pushBack
      return before
    pushBack
    if mayEnd && !endsWithLine && t.endsList then return before
    let line := (← get).line
    let part ← self .chain
    let t ← token self false false
    let whole := andThen before (if t = .mark "&" then inBackground line part else part)
    match t with
    | .fileEnd =>
      readDocuments self
      pushBack
      return whole
    | .newline =>
      pushBack
      readList self endsWithLine fuel true whole
    | .mark "&" => readList self endsWithLine fuel true whole
    | .mark ";" => readList self endsWithLine fuel true whole
    | _ =>
      if endsWithLine then unexpected none
      pushBack
      return whole

/-- One step of the grammar, given its readers for what is inside. -/
def rules (self : Rule) : Rule
  | .list mayBeEmpty endsWithLine => do readList self endsWithLine (← room) mayBeEmpty .nothing
  | .chain => do
    let first ← self .pipeline
    readChain self (← room) first
  | .pipeline => readPipeline self
  | .command => readCommand self

/-- The grammar. The fuel bounds how deep commands stand in each other. -/
def rule : Nat → Rule
  | 0, _ => throw "script too deep"
  | fuel + 1, n => rules (rule fuel) n

end Grammar

namespace Script

/-- Reads the next complete line of a script, `none` at its end. -/
def readLine : Parse (Option Script) := do
  modify fun r => { r with pushed := false, announced := [] }
  let fuel := 8 * (← Reader.room) + 64
  let body ← Grammar.rule fuel (.list false true)
  let r ← get
  match body with
  | .nothing => if r.last = .fileEnd then return none else return some body
  | body => return some body

/-- Reads a text as if it stood in quotes. One that cannot be read so stands for itself. -/
def readText (text : Octets) : Word :=
  let cs := text.toList
  let fuel := 8 * cs.length + 64
  let read := Lexing.readMarks (Grammar.readOutput (Grammar.rule fuel)) .document
  match ((read.run).run (Reader.start cs 1 0)).1 with
  | .ok (marks, _) => Mark.quotedWord marks
  | .error _ => [.chars text true]

end Script
end ElmAssay.Machine
