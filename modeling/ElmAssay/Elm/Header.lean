import ElmAssay.Elm.Name
import ElmAssay.Text.Classes

/-!
# Module headers

A header is the words `module`, a dotted name, `exposing` and a list in parentheses that may hold parentheses one
level deep, perhaps with `port` in front. It starts a line. At a place at most one header can stand (`matchHeader?`), so
the first place that has one is the header of the text (`findHeader`).
-/

namespace ElmAssay.Elm

open Text

/-- The header of a module: what it says, and where in the text it stands. -/
structure Header where
  name : String
  exposing : String
  isPort : Bool
  start : Nat
  stop : Nat
  deriving DecidableEq, Repr

/-- The parts of a header at the front of a text, and the rest of the text. -/
structure HeaderMatch where
  isPort : Bool
  name : List Char
  exposing : List Char
  rest : List Char
  deriving DecidableEq, Repr

/-- The text after a word at its front. -/
def afterWord? (word : String) (s : List Char) : Option (List Char) :=
  if word.toList.isPrefixOf s then some (s.drop word.toList.length) else none

/-- The text after one or more characters of white space at its front. -/
def afterBlanks? : List Char → Option (List Char)
  | c :: s => if isBlank c then some (dropBlank s) else none
  | [] => none

/-- The text after `port` and white space at its front. -/
def afterPort? (s : List Char) : Option (List Char) := (afterWord? "port" s).bind afterBlanks?

/-- Whether a part of a dotted name starts with a capital letter. -/
def startsCapital : List Char → Bool
  | c :: _ => isCapital c
  | [] => false

/-- The dotted name at the front of a text, and the rest. It ends where neither a word character nor a dot follows. -/
def dottedName? (s : List Char) : Option (List Char × List Char) :=
  let (name, rest) := s.span fun c => isWord c || c == '.'
  if (cut '.' name).all startsCapital then some (name, rest) else none

/-- The text up to the parenthesis that closes the list, and the rest. Inside the list one more level of parentheses
may be open. -/
def closeList? : Bool → List Char → Option (List Char × List Char)
  | _, [] => none
  | inner, c :: s =>
    if c = ')' then
      if inner then (closeList? false s).map fun p => (c :: p.1, p.2) else some ([], s)
    else if c = '(' then
      if inner then none else (closeList? true s).map fun p => (c :: p.1, p.2)
    else (closeList? inner s).map fun p => (c :: p.1, p.2)

/-- A header without `port` at the front of a text. -/
def matchPlain? (isPort : Bool) (s : List Char) : Option HeaderMatch := do
  let s ← afterWord? "module" s
  let s ← afterBlanks? s
  let (name, s) ← dottedName? s
  let s ← afterBlanks? s
  let s ← afterWord? "exposing" s
  let s ← afterWord? "(" (dropBlank s)
  let (exposing, rest) ← closeList? false s
  return ⟨isPort, name, exposing, rest⟩

/-- A header at the front of a text. -/
def matchHeader? (s : List Char) : Option HeaderMatch :=
  match afterPort? s with
  | some s => matchPlain? true s
  | none => matchPlain? false s

/-- A header at the front of a text that stands at a position, with its list on one line. -/
def headerAt? (position : Nat) (s : List Char) : Option Header :=
  (matchHeader? s).map fun m =>
    ⟨String.ofList m.name, String.ofList (joinWith [' '] (words m.exposing)), m.isPort, position,
     position + (s.length - m.rest.length)⟩

/-- The first header of a text that stands at a position, which starts a line or does not. -/
def findHeaderFrom (position : Nat) (lineStart : Bool) : List Char → Option Header
  | [] => none
  | c :: s =>
    match if lineStart then headerAt? position (c :: s) else none with
    | some h => some h
    | none => findHeaderFrom (position + 1) (c == '\n') s

/-- The header of a text. -/
def findHeader (text : String) : Option Header := findHeaderFrom 0 true text.toList

end ElmAssay.Elm
