import ElmAssay.Machine.Octets

/-!
# Scripts

The programs of a shell as data: words with their quotes and expansions (`Piece`), where the files of a command lead
(`Redirect`), and the commands built from them (`Script`). A document that stands in a script is kept aside under a
number, because its text follows the command that reads it.
-/

namespace ElmAssay.Machine

/-- How a redirection opens a file. -/
inductive Redirect.Manner
  | read
  | write
  /-- Writes over a file even if files are protected. -/
  | overwrite
  | append
  | both
  deriving DecidableEq, Repr

/-- What stands in for a parameter. -/
inductive Substitute
  /-- The word, if there is no value. -/
  | word
  /-- The word, which becomes the value, if there is none. -/
  | assigned
  /-- An error with the word as its message, if there is no value. -/
  | error
  /-- The word, if there is a value. -/
  | instead
  deriving DecidableEq, Repr

mutual

/-- A part of a word. What is quoted is kept in one piece. -/
inductive Piece
  | chars (s : Octets) (quoted : Bool)
  | parameter (name : Octets) (use : Use) (quoted : Bool)
  /-- The output of a script. -/
  | output (body : Script) (quoted : Bool)
  | arithmetic (expression : List Piece) (quoted : Bool)

/-- What is made of the value of a parameter. -/
inductive Use
  | plain
  | length
  /-- A word stands in for it; an empty value may count as none. -/
  | substitute (kind : Substitute) (emptyIsNone : Bool) (word : List Piece)
  /-- The value without its front or its back. -/
  | cut (front longest : Bool) (pattern : List Piece)
  /-- Nothing that makes sense. -/
  | bad

/-- Where an open file of a command leads. -/
inductive Redirect
  | file (number : Nat) (manner : Redirect.Manner) (name : List Piece)
  /-- A number stands for what another number stands for. -/
  | copy (number source : Nat)
  | close (number : Nat)
  /-- A number stands for what the number that a word says stands for. -/
  | copyNamed (number : Nat) (source : List Piece)
  /-- The input is the document with a number. -/
  | document (number : Nat) (document : Nat)

/-- A script. -/
inductive Script
  | nothing
  | command (line : Nat) (assignments : List (Octets × List Piece)) (words : List (List Piece))
      (redirects : List Redirect)
  | redirected (line : Nat) (body : Script) (redirects : List Redirect)
  | nested (line : Nat) (body : Script) (redirects : List Redirect)
  | background (line : Nat) (body : Script) (redirects : List Redirect)
  | piped (parts : List Script)
  | both (left right : Script)
  | either (left right : Script)
  | sequence (first second : Script)
  | negated (body : Script)
  | conditional (test yes : Script) (no : Option Script)
  /-- The body runs as long as the test ends as wanted. -/
  | repeated (wanted : Bool) (test body : Script)
  | forEach (line : Nat) (name : Octets) (words : List (List Piece)) (body : Script)
  | choice (line : Nat) (subject : List Piece) (arms : List (List (List Piece) × Script))
  | definition (line : Nat) (name : Octets) (body : Script)

end

/-- A word: parts that stand side by side. -/
abbrev Word := List Piece

instance : Inhabited Script := ⟨.nothing⟩

/-- A document in a script, by its number. -/
abbrev Documents := List (Nat × Word)

end ElmAssay.Machine
