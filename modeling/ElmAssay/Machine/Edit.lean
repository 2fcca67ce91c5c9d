import ElmAssay.Machine.Regex

/-!
# Edits

What an editor does to the lines that stream through it (`Edit`): a row of commands (`Edit.Command`), each for the lines
that it selects (`Edit.Selection`). The heart of them is the replacement of what an expression matches
(`Edit.Substitution`).
-/

namespace ElmAssay.Machine.Edit

/-- What is looked for in a line: an expression, or none if it is the one that was used last. -/
structure Sought where
  expression : Option Regex
  manner : Regex.Manner
  deriving DecidableEq, Repr

/-- A line that is selected. -/
inductive Address
  | line (n : Nat)
  /-- From one line on every so many lines. -/
  | every (first step : Nat)
  | last
  | found (s : Sought)
  deriving DecidableEq, Repr

/-- Where a range of lines ends. -/
inductive Bound
  | line (n : Nat)
  | last
  | found (s : Sought)
  /-- So many lines behind the first one. -/
  | after (n : Nat)
  /-- At a line whose number is a multiple. -/
  | multiple (n : Nat)
  deriving DecidableEq, Repr

/-- The lines that a command is for. -/
inductive Selection
  | all
  | one (a : Address)
  | range (a : Address) (b : Bound)
  /-- From before the first line up to one that is found. -/
  | fromTop (s : Sought)
  deriving DecidableEq, Repr

/-- How the case of characters changes: that of all that follow, or that of the next one. -/
inductive Casing
  | plain
  | upper
  | lower
  | nextUpper
  | nextLower
  deriving DecidableEq, Repr

/-- A piece of what takes the place of a match. -/
inductive Piece
  | char (c : Char)
  | group (n : Nat)
  | casing (k : Casing)
  deriving DecidableEq, Repr

/-- The replacement of matches: of which one on, of all from there, and what happens with the line then. -/
structure Substitution where
  sought : Sought
  pieces : List Piece
  first : Nat
  isGlobal : Bool
  prints : Bool
  file : Option Octets
  deriving DecidableEq, Repr

/-- When a jump is made: always, after a replacement, or without one. -/
inductive JumpCondition
  | always
  | afterReplacement
  | withoutReplacement
  deriving DecidableEq, Repr

/-- What a command does. -/
inductive Action
  /-- Opens a block, which is skipped if the command is not for the line. -/
  | opens
  | closes
  | label (name : Octets)
  | jump (condition : JumpCondition) (name : Octets)
  | append (text : Octets)
  | insert (text : Octets)
  | change (text : Octets)
  | substitute (s : Substitution)
  | transliterate (table : List (Char × Char))
  | delete
  | deleteFirst
  | print
  | printFirst
  /-- Shows the line so that nothing in it is hidden. -/
  | list (width : Option Nat)
  | number
  | fileName
  | next
  | nextJoined
  | hold
  | holdJoined
  | get
  | getJoined
  | exchange
  | empty
  | quit (status : Nat)
  | quitAtOnce (status : Nat)
  | readFile (path : Octets)
  | readLine (path : Octets)
  | writeFile (path : Octets)
  | writeFirst (path : Octets)
  deriving DecidableEq, Repr

/-- A command: the lines that it is for, whether it is for the others instead, and what it does. -/
structure Command where
  selection : Selection
  isNegated : Bool
  action : Action
  deriving DecidableEq, Repr

/-- The place of a label in a row of commands. -/
def labelPlace? (commands : List Command) (name : Octets) : Option Nat :=
  commands.findIdx? fun c => c.action == .label name

/-- The place behind the block that opens in front of some commands, counted from them on. `depth` counts the blocks
inside that are open. -/
def blockLength : Nat → List Command → Nat
  | _, [] => 0
  | depth, c :: rest =>
    match c.action, depth with
    | .closes, 0 => 1
    | .closes, depth + 1 => blockLength depth rest + 1
    | .opens, depth => blockLength (depth + 1) rest + 1
    | _, depth => blockLength depth rest + 1

/-! ## Replacing -/

/-- How the case changes of the characters that come next: of the next one, and of all behind it. -/
structure Pen where
  next : Casing
  rest : Casing
  written : List Char

namespace Pen

/-- A character in a case. -/
def recased (k : Casing) (c : Char) : List Char :=
  match k with
  | .upper => Text.upperChar c
  | .nextUpper => Text.upperChar c
  | .lower => [c.toLower]
  | .nextLower => [c.toLower]
  | .plain => [c]

/-- Writes a character. -/
def put (p : Pen) (c : Char) : Pen :=
  let cs := recased (if p.next = .plain then p.rest else p.next) c
  { p with next := .plain, written := cs.reverse ++ p.written }

/-- Changes the case of what follows. -/
def turn (p : Pen) (k : Casing) : Pen :=
  match k with
  | .nextUpper => { p with next := k }
  | .nextLower => { p with next := k }
  | k => { p with next := .plain, rest := k }

end Pen

/-- What takes the place of a match. -/
def replacement (pieces : List Piece) (t : Array Char) (f : Regex.Found) : List Char :=
  let step (p : Pen) (piece : Piece) : Pen :=
    match piece with
    | .char c => p.put c
    | .casing k => p.turn k
    | .group 0 => (t.extract f.start f.stop).foldl Pen.put p
    | .group n =>
      match f.groups.lookup n with
      | some (a, b) => (t.extract a b).foldl Pen.put p
      | none => p
  (pieces.foldl step ⟨.plain, .plain, []⟩).written.reverse

/-- The characters between two places. -/
def between (t : Array Char) (a b : Nat) : List Char := (t.extract a b).toList

/-- The text with its matches replaced, from a place on, and whether any was. An empty match right behind another match
is none. `count` counts the matches so far, and `last` is where the last one ended. The fuel bounds the matches. -/
def replaceFrom (s : Substitution) (r : Regex) (t : Array Char) :
    Nat → Nat → Nat → Option Nat → List Char × Bool
  | 0, start, _, _ => (between t start t.size, false)
  | fuel + 1, start, count, last =>
    if t.size < start then ([], false)
    else
      match r.find? s.sought.manner t start with
      | none => (between t start t.size, false)
      | some f =>
        let before := between t start f.start
        if f.stop = f.start ∧ last = some f.start then
          let (rest, any) := replaceFrom s r t fuel (f.start + 1) count none
          (before ++ between t f.start (f.start + 1) ++ rest, any)
        else
          let counts := s.first ≤ count + 1
          let own := if counts then replacement s.pieces t f else between t f.start f.stop
          if counts && !s.isGlobal then (before ++ own ++ between t f.stop t.size, true)
          else if f.stop = f.start then
            let (rest, any) := replaceFrom s r t fuel (f.stop + 1) (count + 1) none
            (before ++ own ++ between t f.stop (f.stop + 1) ++ rest, counts || any)
          else
            let (rest, any) := replaceFrom s r t fuel f.stop (count + 1) (some f.stop)
            (before ++ own ++ rest, counts || any)

/-- A line with its matches replaced, and whether any was. -/
def Substitution.apply (s : Substitution) (r : Regex) (line : List Char) : List Char × Bool :=
  replaceFrom s r line.toArray (line.length + 2) 0 0 none

/-! ## Showing everything -/

/-- A byte so that it is not hidden. -/
def shownByte (c : Char) : List Char :=
  match c.toNat with
  | 7 => "\\a".toList
  | 8 => "\\b".toList
  | 9 => "\\t".toList
  | 10 => "\\n".toList
  | 11 => "\\v".toList
  | 12 => "\\f".toList
  | 13 => "\\r".toList
  | 92 => "\\\\".toList
  | n =>
    if 32 ≤ n ∧ n < 127 then [c]
    else '\\' :: [n / 64, n / 8 % 8, n % 8].map fun d => Char.ofNat (48 + d)

/-- The lines that shown bytes fill, none of which is longer than a width. `used` is what is used of the line. -/
def wrapped (width : Option Nat) : Nat → List (List Char) → List Char
  | _, [] => "$\n".toList
  | used, p :: rest =>
    if width.any (· < used + p.length) then "\\\n".toList ++ p ++ wrapped width p.length rest
    else p ++ wrapped width (used + p.length) rest

/-- A line so that nothing in it is hidden. -/
def shownLine (width : Option Nat) (line : Octets) : Octets :=
  String.ofList (wrapped width 0 (line.toList.map shownByte))

end ElmAssay.Machine.Edit
