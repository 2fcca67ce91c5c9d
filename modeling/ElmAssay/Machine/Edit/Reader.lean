import ElmAssay.Machine.Edit
import ElmAssay.Machine.Regex.Reader
import ElmAssay.Machine.Version
import ElmAssay.Text.Lines

/-!
# Reading edits

The script of an editor is read from one or more texts (`Edit.read`). A defect is told with the place in the text up to
which it was read (`Edit.Source`).
-/

namespace ElmAssay.Machine.Edit

open Text

/-- A text that is read: what is left of it, how many bytes of it were taken, and the line it is in. -/
structure Source where
  rest : List Char
  taken : Nat
  line : Nat

/-- What is wrong with a script, and whether the place where it is belongs to the message. -/
structure Defect where
  message : Octets
  isPlaced : Bool

/-- A step of reading. -/
abbrev Reading (α : Type) := ExceptT Defect (StateM Source) α

namespace Reading

/-- Stops because of a defect. -/
def fail {α : Type} (message : Octets) : Reading α := throw ⟨message, true⟩

/-- The next character, which stays. -/
def peek? : Reading (Option Char) := do return (← get).rest.head?

/-- Takes the next character. -/
def next? : Reading (Option Char) := do
  match (← get).rest with
  | [] => return none
  | c :: rest =>
    modify fun s => ⟨rest, s.taken + 1, if c = '\n' then s.line + 1 else s.line⟩
    return some c

/-- Gives the character back that was taken last. -/
def giveBack (c : Option Char) : Reading Unit := do
  match c with
  | none => return
  | some c => modify fun s => ⟨c :: s.rest, s.taken - 1, if c = '\n' then s.line - 1 else s.line⟩

/-- Takes characters as long as they pass a test. -/
def takeWhile (test : Char → Bool) : Reading (List Char) := do
  let cs := (← get).rest.takeWhile test
  modify fun s => ⟨s.rest.drop cs.length, s.taken + cs.length, s.line + cs.count '\n'⟩
  return cs

/-- Takes blanks and the character behind them. -/
def nextFilled? : Reading (Option Char) := do
  let _ ← takeWhile isPad
  next?

/-- Takes the digits of a number, the first of which was taken. -/
def number (first : Char) : Reading Nat := do return Number.digitsValue (first :: (← takeWhile isAsciiDigit))

/-- Takes a number that may be missing, where it is zero. -/
def numberOrZero : Reading Nat := do
  let c ← nextFilled?
  match c.filter isAsciiDigit with
  | some d => number d
  | none =>
    giveBack c
    return 0

end Reading

open Reading

/-! ## Escapes -/

/-- The number that digits of a base at the front of a text are, at most so many of them, with what follows. -/
def leadingNumber? (base most : Nat) (s : List Char) : Option (Nat × List Char) :=
  let ds := (s.take most).takeWhile (Numeral.isDigitIn base)
  if ds.isEmpty then none else some (Numeral.valueIn base ds, s.drop ds.length)

/-- A text in which the escapes that stand for a single character are replaced by it; one that would have a meaning of its
own behind `guarded` gets a backslash. The fuel bounds the characters. -/
def withoutEscapes (guarded : List Char) : Nat → List Char → List Char
  | 0, s => s
  | fuel + 1, s =>
    match s with
    | '\\' :: c :: rest =>
      let one (n : Nat) (rest : List Char) : List Char := Char.ofNat n :: withoutEscapes guarded fuel rest
      let numbered (base most : Nat) : List Char :=
        match leadingNumber? base most rest with
        | some (n, after) =>
          let d := Char.ofNat (n % 256)
          (if guarded.contains d then ['\\', d] else [d]) ++ withoutEscapes guarded fuel after
        | none => '\\' :: c :: withoutEscapes guarded fuel rest
      match c, rest with
      | 'a', rest => one 7 rest
      | 'f', rest => one 12 rest
      | 'n', rest => '\\' :: 'n' :: withoutEscapes guarded fuel rest
      | 'r', rest => one 13 rest
      | 't', rest => one 9 rest
      | 'v', rest => one 11 rest
      | 'd', _ => numbered 10 3
      | 'o', _ => numbered 8 3
      | 'x', _ => numbered 16 2
      | 'c', d :: rest => one (d.toUpper.toNat ^^^ 64) rest
      | c, rest => '\\' :: c :: withoutEscapes guarded fuel rest
    | c :: rest => c :: withoutEscapes guarded fuel rest
    | [] => []

/-- A text in which the escapes that stand for a single character are replaced by it. -/
def unescaped (guarded : List Char) (s : List Char) : List Char := withoutEscapes guarded (s.length + 1) s

/-- The pieces of what takes the place of a match. -/
def piecesOf : List Char → List Piece
  | '\\' :: c :: rest =>
    let piece : Piece :=
      match c with
      | 'L' => .casing .lower
      | 'U' => .casing .upper
      | 'E' => .casing .plain
      | 'l' => .casing .nextLower
      | 'u' => .casing .nextUpper
      | 'n' => .char '\n'
      | c => if isAsciiDigit c then .group (c.toNat - 48) else .char c
    piece :: piecesOf rest
  | '&' :: rest => .group 0 :: piecesOf rest
  | c :: rest => .char c :: piecesOf rest
  | [] => []

/-- The characters of a table, where a backslash may stand before a character. -/
def tableChars : List Char → List Char
  | '\\' :: 'n' :: rest => '\n' :: tableChars rest
  | '\\' :: c :: rest => c :: tableChars rest
  | c :: rest => c :: tableChars rest
  | [] => []

/-! ## Parts of commands -/

/-- Where the reader is in a class in brackets: in none, at its start, inside of it, or inside of a name between a bracket
and a mark. -/
inductive Bracket
  | outside
  | start
  | inside
  | name (mark : Char)
  deriving DecidableEq, Repr

/-- The place after a character. -/
def Bracket.after (b : Bracket) (c : Char) (before : Option Char) : Bracket :=
  match b with
  | .outside => if c = '[' then .start else .outside
  | .start => if c = '^' ∧ before = some '[' then .start else .inside
  | .inside =>
    if c = ']' then .outside
    else if before = some '[' ∧ (c = ':' ∨ c = '.' ∨ c = '=') then .name c
    else .inside
  | .name mark => if c = ']' ∧ before = some mark then .inside else .name mark

/-- Takes the text up to a delimiter; `none` if there is none in the line. In an expression a delimiter in a class in
brackets is none. The fuel bounds the characters. -/
def delimited (mark : Char) (isExpression : Bool) : Nat → Bracket → Option Char → List Char → Reading (Option (List Char))
  | 0, _, _, _ => return none
  | fuel + 1, b, before, done => do
    match ← next? with
    | none => return none
    | some '\n' =>
      giveBack (some '\n')
      return none
    | some c =>
      if c = mark ∧ b = .outside then return some done.reverse
      else if c = '\\' then
        match ← next? with
        | none => return none
        | some d =>
          let kept :=
            if d = 'n' ∧ isExpression then ['\n']
            else if d = '\n' then ['\n']
            else if d = mark ∧ (isExpression ∨ d ≠ '&') then [d]
            else ['\\', d]
          let b := if b = .outside then b else kept.foldl (fun b c => b.after c none) b
          delimited mark isExpression fuel b none (kept.reverse ++ done)
      else
        let b := if isExpression then b.after c before else b
        delimited mark isExpression fuel b (some c) (c :: done)

/-- Takes a delimiter and the text up to the next one. -/
def upTo (mark : Char) (isExpression : Bool) : Reading (Option (List Char)) := do
  delimited mark isExpression ((← get).rest.length + 1) .outside none []

/-- How scripts are read: whether expressions are in the extended dialect. -/
structure Manner where
  isExtended : Bool

/-- The expression that a text is. -/
def soughtOf (m : Manner) (manner : Regex.Manner) (text : List Char) : Reading Sought := do
  if text.isEmpty then return ⟨none, manner⟩
  let wide := Octets.widen (String.ofList (unescaped [] text))
  match Regex.read ⟨m.isExtended, true⟩ wide with
  | .ok r => return ⟨some r, manner⟩
  | .error .bareClass => throw ⟨Regex.Malformed.message .bareClass, false⟩
  | .error e => fail e.message

/-- The count of groups of an expression. -/
def groupsOf : Regex → Nat
  | .both a b => groupsOf a + groupsOf b
  | .either a b => groupsOf a + groupsOf b
  | .repeated r _ _ => groupsOf r
  | .group _ r => groupsOf r + 1
  | _ => 0

/-- Takes the letters behind an expression that selects lines. The fuel bounds their count. -/
def searchManner : Nat → Regex.Manner → Reading Regex.Manner
  | 0, m => return m
  | fuel + 1, m => do
    match ← nextFilled? with
    | some 'I' => searchManner fuel { m with ignoresCase := true }
    | some 'M' => searchManner fuel { m with manyLines := true }
    | c =>
      giveBack c
      return m

/-- What a text in front of a command selects: a line, or a place counted from another line. -/
inductive Place
  | address (a : Address)
  | bound (b : Bound)

/-- Takes the place of a line that starts with a character. -/
def place? (m : Manner) (c : Option Char) : Reading (Option Place) := do
  let found (mark : Option Char) : Reading (Option Place) := do
    match ← mark.bindM fun mark => upTo mark true with
    | none => fail "unterminated address regex"
    | some text =>
      let manner ← searchManner 1000 ⟨false, false⟩
      return some (.address (.found (← soughtOf m manner text)))
  match c with
  | some '/' => found (some '/')
  | some '\\' => found (← next?)
  | some '$' => return some (.address .last)
  | some '+' =>
    let n ← numberOrZero
    return some (if n = 0 then .address (.line 0) else .bound (.after n))
  | some '~' =>
    let n ← numberOrZero
    return some (if n = 0 then .address (.line 0) else .bound (.multiple n))
  | some c =>
    if !isAsciiDigit c then return none
    let n ← number c
    let d ← nextFilled?
    if d != some '~' then
      giveBack d
      return some (.address (.line n))
    let step ← numberOrZero
    return some (.address (if step = 0 then .line n else .every n step))
  | none => return none

/-- The end of a range at a place. -/
def Place.toBound : Place → Bound
  | .bound b => b
  | .address (.line n) => .line n
  | .address (.every first _) => .line first
  | .address .last => .last
  | .address (.found s) => .found s

/-- Takes what a command is for, which starts with a character. The answer has the character behind it. -/
def selection (m : Manner) (c : Option Char) : Reading (Selection × Option Char) := do
  match ← place? m c with
  | none => return (.all, c)
  | some (.bound _) => fail "invalid usage of +N or ~N as first address"
  | some (.address a) =>
    let c ← nextFilled?
    let (bound, c) ←
      if c = some ',' then
        match ← place? m (← nextFilled?) with
        | none => fail "unexpected `,'"
        | some p => pure (some p.toBound, ← nextFilled?)
      else pure (none, c)
    match a, bound with
    | .line 0, some (.found s) => return (.fromTop s, c)
    | .line 0, _ => fail "invalid usage of line address 0"
    | a, some b => return (.range a b, c)
    | a, none => return (.one a, c)

/-- Takes the end of a command. -/
def commandEnd : Reading Unit := do
  match ← nextFilled? with
  | some '\x7d' => giveBack (some '\x7d')
  | some '#' => giveBack (some '#')
  | none => return
  | some c => if c != '\n' && c != ';' then fail "extra characters after command"

/-- Takes the name of a label. -/
def labelName : Reading Octets := do
  let _ ← takeWhile isPad
  return String.ofList (← takeWhile fun c => !Numeral.isSpace c && c != ';' && c != '\x7d')

/-- Takes the name of a file, which ends with the line. -/
def fileName : Reading Octets := do
  let _ ← takeWhile isPad
  let name ← takeWhile (· != '\n')
  let _ ← next?
  if name.isEmpty then fail "missing filename in r/R/w/W commands"
  return String.ofList name

/-- Takes the lines of a text, of which all but the last end in a backslash; whether the script ended behind a
backslash. The fuel bounds the characters. -/
def textLines : Nat → List Char → Reading (List Char × Bool)
  | 0, done => return (done, false)
  | fuel + 1, done => do
    match ← next? with
    | none => return ('\n' :: done, false)
    | some '\n' => return ('\n' :: done, false)
    | some '\\' =>
      match ← next? with
      | none => return (done, true)
      | some c => textLines fuel (c :: '\\' :: done)
    | some c => textLines fuel (c :: done)

/-- A text without the backslashes that have done their work. -/
def plainText : List Char → List Char
  | '\\' :: c :: rest => (if c = 'n' then '\n' else c) :: plainText rest
  | c :: rest => c :: plainText rest
  | [] => []

/-- The text that lines are. -/
def textOf (reversed : List Char) : Octets := String.ofList (plainText (unescaped [] reversed.reverse))

/-- Takes the text that a command puts beside lines, and whether it goes on in the next script. -/
def commandText : Reading (Octets × Bool) := do
  let missing := "expected \\ after `a', `c' or `i'"
  let lines : Reading (List Char × Bool) := do textLines ((← get).rest.length + 1) []
  let finish (p : List Char × Bool) : Octets × Bool :=
    (if p.2 && !p.1.isEmpty then textOf ('\n' :: p.1) else textOf p.1, p.2 && p.1.isEmpty)
  match ← nextFilled? with
  | none => fail missing
  | some '\n' => fail missing
  | some '\\' =>
    match ← peek? with
    | none => return ("", true)
    | some '\n' =>
      let _ ← next?
      if (← peek?).isNone then return ("", true)
      return finish (← lines)
    | some _ =>
      let blanks ← takeWhile isPad
      if (← peek?) = some '\n' then
        let _ ← next?
        return finish (← lines)
      modify fun s => { s with rest := blanks ++ s.rest, taken := s.taken - blanks.length }
      return finish (← lines)
  | some c =>
    giveBack (some c)
    return finish (← lines)

/-- What the letters behind a replacement say. -/
structure Letters where
  manner : Regex.Manner
  isGlobal : Bool
  prints : Bool
  first : Option Nat
  file : Option Octets

/-- Takes the letters behind a replacement. The fuel bounds their count. -/
def letters : Nat → Letters → Reading Letters
  | 0, l => return l
  | fuel + 1, l => do
    match ← next? with
    | none => return l
    | some '\n' => return l
    | some ';' => return l
    | some '\x7d' =>
      giveBack (some '\x7d')
      return l
    | some '#' =>
      giveBack (some '#')
      return l
    | some 'g' =>
      if l.isGlobal then fail "multiple `g' options to `s' command"
      letters fuel { l with isGlobal := true }
    | some 'p' =>
      if l.prints then fail "multiple `p' options to `s' command"
      letters fuel { l with prints := true }
    | some 'w' => return { l with file := some (← fileName) }
    | some c =>
      if isPad c || c = '\r' then letters fuel l
      else if c = 'i' ∨ c = 'I' then letters fuel { l with manner := { l.manner with ignoresCase := true } }
      else if c = 'm' ∨ c = 'M' then letters fuel { l with manner := { l.manner with manyLines := true } }
      else if isAsciiDigit c then
        if l.first.isSome then fail "multiple number options to `s' command"
        let n ← number c
        if n = 0 then fail "number option to `s' command may not be zero"
        letters fuel { l with first := some n }
      else fail "unknown option to `s'"

/-- Takes a replacement. -/
def substitution (m : Manner) : Reading Action := do
  let unterminated := "unterminated `s' command"
  match ← next? with
  | none => fail unterminated
  | some mark =>
    match ← upTo mark true with
    | none => fail unterminated
    | some pattern =>
      match ← upTo mark false with
      | none => fail unterminated
      | some text =>
        let l ← letters ((← get).rest.length + 1) ⟨⟨false, false⟩, false, false, none, none⟩
        let pieces := piecesOf (Octets.widen (String.ofList (unescaped ['&', '\\'] text)))
        let sought ← soughtOf m l.manner pattern
        let highest := pieces.foldl (fun n p => match p with | .group k => max n k | _ => n) 0
        if sought.expression.any (groupsOf · < highest) then
          fail s!"invalid reference \\{highest} on `s' command's RHS"
        return .substitute ⟨sought, pieces, l.first.getD 1, l.isGlobal, l.prints, l.file⟩

/-- Takes a table of characters. -/
def transliteration : Reading Action := do
  let unterminated := "unterminated `y' command"
  match ← next? with
  | none => fail unterminated
  | some mark =>
    match ← upTo mark false with
    | none => fail unterminated
    | some a =>
      match ← upTo mark false with
      | none => fail unterminated
      | some b =>
        let chars (s : List Char) : List Char := tableChars (Octets.widen (String.ofList (unescaped ['\\'] s)))
        if (chars a).length != (chars b).length then fail "strings for `y' command are different lengths"
        commandEnd
        return .transliterate ((chars a).zip (chars b))

/-- The commands that a letter alone is. -/
def letterAction? (c : Char) : Option Action :=
  match c with
  | '=' => some .number
  | 'd' => some .delete
  | 'D' => some .deleteFirst
  | 'F' => some .fileName
  | 'g' => some .get
  | 'G' => some .getJoined
  | 'h' => some .hold
  | 'H' => some .holdJoined
  | 'n' => some .next
  | 'N' => some .nextJoined
  | 'p' => some .print
  | 'P' => some .printFirst
  | 'x' => some .exchange
  | 'z' => some .empty
  | _ => none

/-- Whether a selection is a range. -/
def Selection.isRange : Selection → Bool
  | .range .. => true
  | .fromTop _ => true
  | _ => false

/-- Takes a number behind a command, and the end of the command. -/
def optionalNumber : Reading (Option Nat) := do
  let c ← nextFilled?
  let n ←
    match c.filter isAsciiDigit with
    | some d => some <$> number d
    | none =>
      giveBack c
      pure none
  commandEnd
  return n

/-- Takes what a command does, whose letter was taken, and whether its text goes on in the next script. -/
def action (m : Manner) (s : Selection) (c : Char) : Reading (Action × Bool) := do
  let only (a : Action) : Reading (Action × Bool) := return (a, false)
  match letterAction? c with
  | some a =>
    commandEnd
    only a
  | none =>
    match c with
    | '\x7b' => only .opens
    | '\x7d' =>
      if s != .all then fail "\x7d doesn't want any addresses"
      commandEnd
      only .closes
    | ':' =>
      if s != .all then fail ": doesn't want any addresses"
      let name ← labelName
      if name.isEmpty then fail "\":\" lacks a label"
      only (.label name)
    | 'b' => only (.jump .always (← labelName))
    | 't' => only (.jump .afterReplacement (← labelName))
    | 'T' => only (.jump .withoutReplacement (← labelName))
    | 'q' =>
      if s.isRange then fail "command only uses one address"
      only (.quit ((← optionalNumber).getD 0))
    | 'Q' =>
      if s.isRange then fail "command only uses one address"
      only (.quitAtOnce ((← optionalNumber).getD 0))
    | 'l' => only (.list (← optionalNumber))
    | 'r' => only (.readFile (← fileName))
    | 'R' => only (.readLine (← fileName))
    | 'w' => only (.writeFile (← fileName))
    | 'W' => only (.writeFirst (← fileName))
    | 's' => only (← substitution m)
    | 'y' => only (← transliteration)
    | 'a' => (fun p => (.append p.1, p.2)) <$> commandText
    | 'i' => (fun p => (.insert p.1, p.2)) <$> commandText
    | 'c' => (fun p => (.change p.1, p.2)) <$> commandText
    | c => fail s!"unknown command: `{c}'"

/-! ## Scripts -/

/-- What was read: the commands, latest first, the scripts and lines of the blocks that are open, innermost first, whether
the last text goes on, and whether the script itself says that lines are not printed. -/
structure Draft where
  commands : List Command
  blocks : List (Nat × Nat)
  isOpen : Bool
  isSilent : Bool

/-- The draft whose last text goes on with another one. -/
def Draft.continued (d : Draft) (text : Octets) : Draft :=
  match d.commands with
  | c :: rest =>
    let action :=
      match c.action with
      | .append t => .append (t ++ text)
      | .insert t => .insert (t ++ text)
      | .change t => .change (t ++ text)
      | a => a
    { d with commands := { c with action := action } :: rest, isOpen := false }
  | [] => { d with isOpen := false }

/-- The version of the editor, which scripts may ask for. -/
def known : Octets := "4.9"

/-- Takes commands up to the end of a script with a number. The fuel bounds their count. -/
def commands (m : Manner) (script : Nat) : Nat → Draft → Reading Draft
  | 0, d => return d
  | fuel + 1, d => do
    let _ ← takeWhile fun c => c == ';' || Numeral.isSpace c
    let c ← next?
    if c.isNone then return d
    let (s, c) ← selection m c
    let (isNegated, c) ←
      if c = some '!' then
        let c ← nextFilled?
        if c = some '!' then fail "multiple `!'s"
        pure (true, c)
      else pure (false, c)
    match c with
    | none => fail "missing command"
    | some '#' =>
      if s != .all then fail "comments don't accept any addresses"
      let isFirst := (← get).taken = 1 && script = 1
      let text ← takeWhile (· != '\n')
      commands m script fuel { d with isSilent := d.isSilent || (isFirst && text.head? = some 'n') }
    | some 'v' =>
      let needed ← labelName
      if Version.orderOfNumbers .text needed.toList known.toList = .gt then fail "expected newer version of sed"
      commands m script fuel d
    | some c =>
      let isClosing := c == '\x7d'
      if isClosing && d.blocks.isEmpty then fail "unexpected `\x7d'"
      let line := (← get).line
      let (a, goesOn) ← action m s c
      let blocks :=
        if isClosing then d.blocks.drop 1 else if c = '\x7b' then (script, line) :: d.blocks else d.blocks
      commands m script fuel ⟨⟨s, isNegated, a⟩ :: d.commands, blocks, goesOn, d.isSilent⟩

/-- Takes a script with a number behind others. -/
def wholeScript (m : Manner) (script : Nat) (d : Draft) : Reading Draft := do
  let size := (← get).rest.length
  let d ←
    if d.isOpen then
      let (text, _) ← textLines (size + 1) []
      pure (d.continued (textOf text))
    else pure d
  commands m script (size + 2) d

/-- A script, and the file it is from if it is from one. -/
structure Chapter where
  file : Option Octets
  text : Octets

/-- The words for the place of a defect. -/
def placeWords (file : Option Octets) (number taken line : Nat) : Octets :=
  match file with
  | some name => s!"file {name} line {line}: "
  | none => s!"-e expression #{number}, char {taken}: "

/-- What scripts are: commands, and whether lines are not printed by themselves. -/
structure Script where
  commands : List Command
  isSilent : Bool

/-- The number of a script among those that are from no file. -/
def numbered (chapters : List Chapter) : List (Nat × Chapter) :=
  let step (acc : Nat × List (Nat × Chapter)) (c : Chapter) : Nat × List (Nat × Chapter) :=
    let n := if c.file.isNone then acc.1 + 1 else acc.1
    (n, (n, c) :: acc.2)
  (chapters.foldl step (0, [])).2.reverse

/-- Reads scripts one after the other; in the end all blocks have to be closed and all labels have to be there. -/
def read (m : Manner) (chapters : List Chapter) : Except Defect Script := do
  let step (d : Draft) (p : Nat × (Nat × Chapter)) : Except Defect Draft :=
    let (place, number, c) := p
    match (wholeScript m (place + 1) d).run ⟨c.text.toList, 0, 1⟩ with
    | (.ok d, _) => .ok d
    | (.error e, s) =>
      .error (if e.isPlaced then { e with message := placeWords c.file number s.taken s.line ++ e.message } else e)
  let all := numbered chapters
  let d ← (all.zipIdx.map fun p => (p.2, p.1)).foldlM step ⟨[], [], false, false⟩
  match d.blocks with
  | (script, line) :: _ =>
    match all[script - 1]? with
    | some (number, c) => throw ⟨placeWords c.file number 0 line ++ "unmatched `\x7b'", true⟩
    | none => throw ⟨"unmatched `\x7b'", true⟩
  | [] =>
    let commands := d.commands.reverse
    for c in commands do
      match c.action with
      | .jump _ name =>
        if !name.isEmpty && (labelPlace? commands name).isNone then 
          throw ⟨s!"can't find label for jump to `{name}'", false⟩
      | _ => pure ()
    return ⟨commands, d.isSilent⟩

end ElmAssay.Machine.Edit
