import ElmAssay.Machine.Script
import ElmAssay.Text.Classes

/-!
# The reader of scripts

What the reader of a script keeps (`Reader`): the text that is left, the line it is in, the token read last, and the
documents that are announced or read already. A word is first read as a row of marks (`Mark`), from which its parts are
put together (`Mark.word`).
-/

namespace ElmAssay.Machine

open Text

/-- What a mark says of the use of a parameter. -/
inductive Mark.Subtype
  | plain
  | length
  | substitute (kind : Substitute) (emptyIsNone : Bool)
  | cut (front longest : Bool)
  | bad
  deriving DecidableEq, Repr

/-- A mark of a word: a character, or a place where something opens or closes. -/
inductive Mark
  | plain (c : Char)
  /-- A character that a backslash or the quotes around it make stand for itself. -/
  | escaped (c : Char)
  | quote
  /-- A parameter; unless it is plain, a word follows up to the mark that closes it. -/
  | parameter (name : Octets) (subtype : Mark.Subtype)
  | closes
  | output (body : Script)
  | arithmetic
  | arithmeticEnd

namespace Mark

/-- Parts with a character in front. -/
def consChar (c : Char) (quoted : Bool) : Word → Word
  | .chars s q :: ps => if q == quoted then .chars (c.toString ++ s) q :: ps else .chars c.toString quoted :: .chars s q :: ps
  | ps => .chars c.toString quoted :: ps

/-- The use of a parameter that a mark and a word make. -/
def useOf (subtype : Subtype) (word : Word) : Use :=
  match subtype with
  | .plain => .plain
  | .length => .length
  | .substitute kind emptyIsNone => .substitute kind emptyIsNone word
  | .cut front longest => .cut front longest word
  | .bad => .bad

/-- Whether the word of a parameter is quoted by the quotes around the parameter. -/
def Subtype.inheritsQuotes : Subtype → Bool
  | .cut .. => false
  | _ => true

/-- The parts that marks make up to the mark that closes them, and the marks behind it. `outer` says whether all is
quoted, `inner` whether quotes are open. The fuel bounds the steps. -/
def build : Nat → Bool → Bool → List Mark → Word × List Mark
  | 0, _, _, ms => ([], ms)
  | fuel + 1, outer, inner, ms =>
    let quoted := outer || inner
    match ms with
    | [] => ([], [])
    | .closes :: ms => ([], ms)
    | .arithmeticEnd :: ms => ([], ms)
    | .plain c :: ms =>
      let (ps, rest) := build fuel outer inner ms
      (consChar c quoted ps, rest)
    | .escaped c :: ms =>
      let (ps, rest) := build fuel outer inner ms
      (consChar c true ps, rest)
    | .quote :: .parameter "@" .plain :: .quote :: ms =>
      if inner then
        let (ps, rest) := build fuel outer inner ms
        (.chars "" true :: .parameter "@" .plain false :: .chars "" true :: ps, rest)
      else
        let (ps, rest) := build fuel outer inner ms
        (.parameter "@" .plain true :: ps, rest)
    | .quote :: ms =>
      let (ps, rest) := build fuel outer (!inner) ms
      (.chars "" true :: ps, rest)
    | .parameter name .plain :: ms =>
      let (ps, rest) := build fuel outer inner ms
      (.parameter name .plain quoted :: ps, rest)
    | .parameter name subtype :: ms =>
      let (word, ms) := build fuel (quoted && subtype.inheritsQuotes) false ms
      let (ps, rest) := build fuel outer inner ms
      (.parameter name (useOf subtype word) quoted :: ps, rest)
    | .output body :: ms =>
      let (ps, rest) := build fuel outer inner ms
      (.output body quoted :: ps, rest)
    | .arithmetic :: ms =>
      let (word, ms) := build fuel true false ms
      let (ps, rest) := build fuel outer inner ms
      (.arithmetic word quoted :: ps, rest)

/-- The word that marks make. -/
def word (ms : List Mark) : Word := (build (ms.length + 1) false false ms).1

/-- The word that marks make within quotes. -/
def quotedWord (ms : List Mark) : Word := (build (ms.length + 1) true false ms).1

/-- The text of marks that are plain characters and nothing else. -/
def plainText? : List Mark → Option (List Char)
  | [] => some []
  | .plain c :: ms => (plainText? ms).map (c :: ·)
  | _ => none

/-- The text of marks without their quotes. -/
def bareText : List Mark → List Char
  | [] => []
  | .plain c :: ms => c :: bareText ms
  | .escaped c :: ms => c :: bareText ms
  | _ :: ms => bareText ms

end Mark

/-- A character that a name can start with. -/
def startsName (c : Char) : Bool := isAsciiLetter c || c == '_'

/-- A character that a name can hold. -/
def inName (c : Char) : Bool := isAsciiWord c

/-- Whether a text is a name. -/
def isName (s : List Char) : Bool := s.head?.any startsName && s.all inName

/-- The name and the value of an assignment that marks make. -/
def Mark.assignment? (ms : List Mark) : Option (Octets × List Mark) :=
  let isNameMark : Mark → Bool
    | .plain c => inName c
    | _ => false
  match plainText? (ms.takeWhile isNameMark), ms.dropWhile isNameMark with
  | some name, .plain '=' :: value => if isName name then some (String.ofList name, value) else none
  | _, _ => none

/-- A token of a script other than its text. -/
inductive Token
  | fileEnd
  | newline
  | word
  | redirect
  /-- An operator or a word of the grammar. -/
  | mark (s : String)
  deriving DecidableEq, Repr

namespace Token

/-- How a message calls a token. -/
def name : Token → String
  | fileEnd => "end of file"
  | newline => "newline"
  | word => "word"
  | redirect => "redirection"
  | mark s => "\"" ++ s ++ "\""

/-- The words of the grammar. -/
def keywords : List String :=
  ["!", "case", "do", "done", "elif", "else", "esac", "fi", "for", "if", "in", "then", "until", "while", "\x7b", "\x7d"]

/-- Whether a list of commands ends in front of a token. -/
def endsList : Token → Bool
  | fileEnd => true
  | mark s => [")", ";;", "do", "done", "elif", "else", "esac", "fi", "then", "\x7d"].contains s
  | _ => false

end Token

/-- A document that is announced: its number, the line that ends it, and whether tabs in front and expansions count. -/
structure Announced where
  id : Nat
  marker : List Char
  dropsTabs : Bool
  isLiteral : Bool

/-- The end of a text that stands in for another name of a command: how much of the script is left there, the name, and
whether the text ends in a blank. -/
structure AliasEnd where
  left : Nat
  name : Octets
  isBlank : Bool
  deriving DecidableEq, Repr

/-- What the reader of a script keeps. -/
structure Reader where
  rest : List Char
  /-- The other names of commands and the texts that stand in for them. -/
  aliases : List (Octets × Octets)
  /-- The ends of such texts that were put in front of the rest. -/
  aliasEnds : List AliasEnd
  line : Nat
  /-- Whether the last token is to be read once more. -/
  pushed : Bool
  last : Token
  marks : List Mark
  isQuoted : Bool
  redirect : Redirect
  announced : List Announced
  documents : Documents
  nextDocument : Nat

/-- A step of reading, which may meet a defect of the script. -/
abbrev Parse (α : Type) := ExceptT String (StateM Reader) α

namespace Reader

/-- The reader at the start of a text. -/
def start (rest : List Char) (line nextDocument : Nat) : Reader :=
  ⟨rest, [], [], line, false, .fileEnd, [], false, .close 0, [], [], nextDocument⟩

/-- A bound for the count of steps in which the rest can be read, whatever stands in for other names. -/
def room : Parse Nat := do
  let r ← get
  let length := r.aliases.foldl (fun n p => n + p.2.length) 0
  return r.rest.length + 2 + (length + 1) * r.aliases.length

/-- Puts the text that stands in for a name in front of the rest, unless the name stands in such a text of its own. The
answer is whether it did. -/
def expandAlias (name : Octets) : Parse Bool := do
  let r ← get
  let left := r.rest.length
  let open' := r.aliasEnds.filter fun e => e.left ≤ left
  match r.aliases.lookup name with
  | none => return false
  | some text =>
    if open'.any fun e => e.name == name then return false
    else
      let isBlank := text.endsWith " " || text.endsWith "\t"
      set { r with
        rest := text.toList ++ r.rest
        aliasEnds := if text.isEmpty then open' else ⟨left, name, isBlank⟩ :: open' }
      return true

/-- Whether reading from where so much was left went over the end of a text in place of a name that ends in a blank. -/
def passedBlank (before : Nat) : Parse Bool := do
  let r ← get
  return r.aliasEnds.any fun e => e.isBlank && e.left < before && r.rest.length < e.left

/-- The next character. -/
def peek : Parse (Option Char) := return (← get).rest.head?

/-- Goes on by a character. -/
def advance : Parse Unit :=
  modify fun r =>
    match r.rest with
    | [] => r
    | c :: rest => { r with rest := rest, line := if c = '\n' then r.line + 1 else r.line }

/-- A text without the joined lines in front of it, and the count of the lines. -/
def skipJoined : List Char → Nat × List Char
  | '\\' :: '\n' :: s =>
    let (n, rest) := skipJoined s
    (n + 1, rest)
  | s => (0, s)

/-- The next character after joined lines. -/
def peekJoined : Parse (Option Char) := do
  let r ← get
  let (n, rest) := skipJoined r.rest
  if n != 0 then set { r with rest := rest, line := r.line + n }
  return rest.head?

/-- Goes on by a character if it is the next one after joined lines. -/
def accept (c : Char) : Parse Bool := do
  if (← peekJoined) == some c then
    advance
    return true
  else return false

/-- Reads characters of a class, after joined lines. The fuel bounds their count. -/
def takeJoined (p : Char → Bool) : Nat → Parse (List Char)
  | 0 => return []
  | fuel + 1 => do
    match ← peekJoined with
    | some c =>
      if p c then
        advance
        return c :: (← takeJoined p fuel)
      else return []
    | none => return []

/-- Reads a text in place of the rest, and then goes on with the rest. -/
def within {α : Type} (text : List Char) (line : Nat) (body : Parse α) : Parse α := do
  let outer ← get
  set { outer with rest := text, aliasEnds := [], line := line, pushed := false, announced := [] }
  let a ← body
  modify fun r =>
    { r with rest := outer.rest, aliasEnds := outer.aliasEnds, line := outer.line, pushed := outer.pushed, announced := outer.announced }
  return a

end Reader
end ElmAssay.Machine
