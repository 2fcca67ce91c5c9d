import ElmAssay.Machine.Rules.Pattern
import ElmAssay.Machine.Rules.Value

/-!
# Tokens of rules

A program is cut into tokens one by one (`Scanner.next`), since what a character begins depends on what came before: a slash
divides or begins a pattern, and a closing brace ends the statement in front of it. Line feeds are passed over behind
tokens that leave something open.
-/

namespace ElmAssay.Machine.Rules

open Text

/-- A token. -/
inductive Token
  | ending
  | newline
  /-- The end of a statement, which a closing brace may supply. -/
  | separator (isSupplied : Bool)
  | mark (s : String)
  /-- The mark in front of a sink. -/
  | outward (k : Sink)
  /-- The mark in front of a source. -/
  | inward
  | number (x : Float) (shown : Octets)
  | text (s : Octets)
  | pattern (s : Octets)
  | name (s : Octets)
  /-- The name of a function. -/
  | called (s : Octets)
  | builtin (s : Octets)
  /-- The name of the function for lengths without an argument. -/
  | length
  /-- A field by its number, or the count of the fields. -/
  | field (n : Option Nat)
  | word (s : String)
  | stray (c : Char)
  deriving Inhabited, Repr

namespace Token

/-- How a token is shown in messages. -/
def shown : Token → Octets
  | ending => "end of file"
  | newline => "end of line"
  | separator isSupplied => if isSupplied then "\x7d" else ";"
  | mark s => s
  | outward .fresh => ">"
  | outward .grown => ">>"
  | outward .command => "|"
  | inward => "<"
  | number _ s => s
  | text s => s
  | pattern s => "/" ++ s ++ "/"
  | name s => s
  | called s => s
  | builtin s => s
  | length => "length"
  | field _ => "$"
  | word s => s
  | stray c => c.toString

/-- Whether a token is a mark. -/
def isMark (t : Token) (s : String) : Bool :=
  match t with
  | mark r => r == s
  | _ => false

/-- Whether a token is a word. -/
def isWord (t : Token) (s : String) : Bool :=
  match t with
  | word r => r == s
  | _ => false

/-- Whether a slash behind a token divides. -/
def precedesSlash : Token → Bool
  | number .. => true
  | text _ => true
  | pattern _ => true
  | name _ => true
  | field _ => true
  | mark s => [")", "]", "++", "--"].contains s
  | word s => s == "getline"
  | length => true
  | _ => false

end Token

/-- The words with a meaning. -/
def words : List String :=
  ["BEGIN", "END", "function", "if", "else", "while", "for", "do", "break", "continue", "return", "next", "nextfile",
   "exit", "getline", "print", "printf", "delete", "in", "split", "match", "sub", "gsub"]

/-- What a name is known as. -/
inductive Known
  | nothing
  | plain
  | function
  deriving DecidableEq, Repr

/-- What is left of a program, with what decides on the next token. -/
structure Scanner where
  rest : List Char
  line : Nat
  /-- The line of the last token. -/
  tokenLine : Nat
  last : Token
  parentheses : Nat
  braces : Nat
  isPrinting : Bool
  isReading : Bool
  /-- Messages so far, latest first. -/
  messages : List Octets

/-- What ends the reading of a program: a message, if it is not told yet. -/
abbrev Halted := Option Octets

namespace Scanner

/-- White space inside of a line. -/
def isBlank (c : Char) : Bool := c != '\n' && Numeral.isSpace c

/-- The scanner behind white space, line feeds and comments. The fuel bounds the characters. -/
def skipLines : Nat → Scanner → Scanner
  | 0, s => s
  | fuel + 1, s =>
    match s.rest with
    | '#' :: rest => skipLines fuel { s with rest := rest.dropWhile (· != '\n') }
    | '\n' :: rest => skipLines fuel { s with rest := rest, line := s.line + 1 }
    | '\\' :: rest =>
      match rest.dropWhile isBlank with
      | '\n' :: rest => skipLines fuel { s with rest := rest, line := s.line + 1, tokenLine := s.line + 1 }
      | _ => s
    | c :: rest => if isBlank c then skipLines fuel { s with rest := rest } else s
    | [] => s

/-- The scanner in the next line that holds something. -/
def behindLines (s : Scanner) : Scanner := skipLines (s.rest.length + 1) s

/-- The scanner with a message about its line. -/
def complain (s : Scanner) (name message : Octets) : Scanner :=
  let line := s.tokenLine
  { s with messages := s!"{name}: line {line}: {message}" :: s.messages }

/-- The text up to the quote that closes it, with the rest and the count of its lines. A backslash keeps the next
character. -/
def readText : List Char → List Char → Nat → Option (List Char × List Char × Nat)
  | '"' :: rest, done, lines => some (done.reverse, rest, lines)
  | '\\' :: '\n' :: rest, done, lines => readText rest done (lines + 1)
  | '\\' :: c :: rest, done, lines => readText rest (c :: '\\' :: done) lines
  | '\n' :: _, _, _ => none
  | c :: rest, done, lines => readText rest (c :: done) lines
  | [], _, _ => none

/-- The text of a pattern up to the slash that closes it, with the rest. `inClass` is the count of characters since a class
was opened. -/
def readPattern : List Char → List Char → Option Nat → Option (List Char × List Char)
  | '\\' :: '/' :: rest, done, inClass => readPattern rest ('/' :: done) (inClass.map (· + 1))
  | '\\' :: '\n' :: rest, done, inClass => readPattern rest done inClass
  | '\\' :: c :: rest, done, inClass => readPattern rest (c :: '\\' :: done) (inClass.map (· + 1))
  | '\n' :: _, _, _ => none
  | '/' :: rest, done, none => some (done.reverse, rest)
  | '[' :: rest, done, none => readPattern rest ('[' :: done) (some 0)
  | '^' :: rest, done, some 0 => readPattern rest ('^' :: done) (some 0)
  | ']' :: rest, done, some (_ + 1) => readPattern rest (']' :: done) none
  | c :: rest, done, inClass => readPattern rest (c :: done) (inClass.map (· + 1))
  | [], _, _ => none

/-- The front of a text that a message shows. -/
def shownFront (s : List Char) : Octets := String.ofList ((s.takeWhile (· != '\n')).take 10)

/-- The token of a name. -/
def nameToken (known : Octets → Known) (s : Octets) (rest : List Char) : Token :=
  if words.contains s then .word s
  else if s = "NF" then .field none
  else if s = "length" then (if (rest.dropWhile isBlank).head? = some '(' then .builtin s else .length)
  else if (Builtin.table.lookup s).isSome then .builtin s
  else
    match known s with
    | .function => .called s
    | .plain => .name s
    | .nothing => if rest.head? = some '(' then .called s else .name s

/-- The marks of several characters, longer ones first. -/
def longMarks : List String := ["++", "+=", "--", "-=", "*=", "/=", "%=", "^=", "==", "!=", ">=", "<="]

/-- The marks of single characters. -/
def shortMarks : List Char := ['+', '-', '*', '/', '%', '^', '=', '!', '>', '<', '[', ']', '?', ':', '~']

/-- The next token. The fuel bounds the characters that are passed over. -/
def nextToken (known : Octets → Known) (name : Octets) : Nat → Scanner → Except (Scanner × Octets) (Token × Scanner)
  | 0, s => .ok (.ending, s)
  | fuel + 1, s =>
    let found (t : Token) (s : Scanner) : Except (Scanner × Octets) (Token × Scanner) := .ok (t, { s with last := t })
    let here (t : Token) (rest : List Char) : Except (Scanner × Octets) (Token × Scanner) := found t { s with rest := rest }
    let runaway (what : Octets) : Except (Scanner × Octets) (Token × Scanner) :=
      .error (s, s!"runaway {what} ...")
    match s.rest with
    | [] => found .ending s
    | '\n' :: rest => found .newline { s with rest := rest, line := s.line + 1 }.behindLines
    | '#' :: rest => nextToken known name fuel { s with rest := rest.dropWhile (· != '\n') }
    | '\\' :: rest =>
      match rest.dropWhile isBlank with
      | '\n' :: rest => nextToken known name fuel { s with rest := rest, line := s.line + 1, tokenLine := s.line + 1 }
      | [] => found .ending { s with rest := [] }
      | rest => here (.stray '\\') rest
    | ';' :: rest => found (.separator false) { s with rest := rest }.behindLines
    | ',' :: rest => found (.mark ",") { s with rest := rest }.behindLines
    | '\x7b' :: rest => found (.mark "\x7b") { s with rest := rest, braces := s.braces + 1 }.behindLines
    | '\x7d' :: rest =>
      match s.braces with
      | 0 =>
        let rest :=
          match rest.dropWhile isBlank with
          | ';' :: rest => rest
          | rest => rest
        nextToken known name fuel ({ s with rest := rest }.complain name "extra '\x7d'")
      | n + 1 =>
        let isAfterEnd :=
          match s.last with
          | .newline => true
          | .separator _ => true
          | t => t.isMark "\x7d"
        if isAfterEnd then
          let rest :=
            match n, rest.dropWhile isBlank with
            | 0, ';' :: rest => rest
            | _, _ => rest
          found (.mark "\x7d") { s with rest := rest, braces := n }.behindLines
        else found (.separator true) s
    | '(' :: rest => found (.mark "(") { s with rest := rest, parentheses := s.parentheses + 1 }
    | ')' :: rest =>
      match s.parentheses with
      | 0 => nextToken known name fuel ({ s with rest := rest }.complain name "extra ')'")
      | n + 1 => found (.mark ")") { s with rest := rest, parentheses := n }
    | '&' :: '&' :: rest => found (.mark "&&") { s with rest := rest }.behindLines
    | '|' :: '|' :: rest => found (.mark "||") { s with rest := rest }.behindLines
    | '|' :: rest =>
      if s.isPrinting && s.parentheses = 0 then found (.outward .command) { s with rest := rest, isPrinting := false }
      else here (.mark "|") rest
    | '>' :: rest =>
      if s.isPrinting && s.parentheses = 0 then
        let s := { s with isPrinting := false }
        match rest with
        | '>' :: rest => found (.outward .grown) { s with rest := rest }
        | rest => found (.outward .fresh) { s with rest := rest }
      else
        match rest with
        | '=' :: rest => here (.mark ">=") rest
        | rest => here (.mark ">") rest
    | '<' :: rest =>
      match rest with
      | '=' :: rest => here (.mark "<=") rest
      | rest => if s.isReading then found .inward { s with rest := rest, isReading := false } else here (.mark "<") rest
    | '!' :: '~' :: rest => here (.mark "!~") rest
    | '"' :: rest =>
      match readText rest [] 0 with
      | some (text, rest, lines) =>
        found (.text (String.ofList (unescaped text))) { s with rest := rest, line := s.line + lines }
      | none => runaway ("string constant \"" ++ shownFront rest)
    | '/' :: rest =>
      if s.last.precedesSlash then
        match rest with
        | '=' :: rest => here (.mark "/=") rest
        | rest => here (.mark "/") rest
      else
        match readPattern rest [] none with
        | some (text, rest) => here (.pattern (String.ofList text)) rest
        | none => runaway ("regular expression /" ++ shownFront rest)
    | '$' :: rest =>
      match readDecimal? false (rest.dropWhile isBlank) with
      | some (x, rest) => here (.field (some (wholeWithin 0 (2 ^ 31) x).toNat)) rest
      | none => here (.mark "$") rest
    | c :: rest =>
      if isBlank c then nextToken known name fuel { s with rest := rest }
      else if isAsciiDigit c || c == '.' then
        match readDecimal? false s.rest with
        | some (x, rest) => here (.number x (String.ofList (s.rest.take (s.rest.length - rest.length)))) rest
        | none => here (.stray c) (rest.drop 1)
      else if c.isAlpha || c == '_' then
        let text := s.rest.takeWhile fun c => c.isAlphanum || c == '_'
        let rest := s.rest.drop text.length
        here (nameToken known (String.ofList text) rest) rest
      else
        match longMarks.find? fun m => m.toList.isPrefixOf s.rest with
        | some m => here (.mark m) (s.rest.drop m.length)
        | none => if shortMarks.contains c then here (.mark c.toString) rest else here (.stray c) rest

/-- The next token, or a message that ends the reading. -/
def next (known : Octets → Known) (name : Octets) (s : Scanner) : Except (Scanner × Octets) (Token × Scanner) :=
  nextToken known name (s.rest.length + 1) { s with tokenLine := s.line }

/-- The scanner at the start of a program. -/
def start (text : Octets) : Scanner :=
  Scanner.behindLines
    { rest := (text ++ "\n").toList, line := 1, tokenLine := 1, last := .newline, parentheses := 0, braces := 0
      isPrinting := false, isReading := false, messages := [] }

end Scanner
end ElmAssay.Machine.Rules
