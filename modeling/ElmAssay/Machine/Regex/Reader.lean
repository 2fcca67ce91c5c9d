import ElmAssay.Machine.Numeral
import ElmAssay.Machine.Regex

/-!
# Reading regular expressions

A regular expression is written in one of a few dialects, which differ in the marks that need a backslash
(`Regex.Dialect`). It is cut into tokens, and the tokens are put together with a stack of the groups that are open
(`Regex.read`).
-/

namespace ElmAssay.Machine.Regex

open Text

/-- The dialects of regular expressions: whether groups and the like need no backslash, and whether a repetition of
nothing is a defect. -/
structure Dialect where
  isExtended : Bool
  isStrict : Bool
  deriving DecidableEq, Repr

/-- Why a text is no regular expression. -/
inductive Malformed
  | openBracket
  | openGroup
  | closedGroup
  | openInterval
  | badInterval
  | badReference
  | trailingBackslash
  | nothingToRepeat
  | badPattern
  | badClass
  | badRange
  | tooBig
  | bareClass
  deriving DecidableEq, Repr

/-- The wording of a defect. -/
def Malformed.message : Malformed → String
  | .openBracket => "Unmatched [, [^, [:, [., or [="
  | .openGroup => "Unmatched ( or \\("
  | .closedGroup => "Unmatched ) or \\)"
  | .openInterval => "Unmatched \\\x7b"
  | .badInterval => "Invalid content of \\\x7b\\\x7d"
  | .badReference => "Invalid back reference"
  | .trailingBackslash => "Trailing backslash"
  | .nothingToRepeat => "Invalid preceding regular expression"
  | .badPattern => "Invalid regular expression"
  | .badClass => "Invalid character class name"
  | .badRange => "Invalid range end"
  | .tooBig => "Regular expression too big"
  | .bareClass => "character class syntax is [[:space:]], not [:space:]"

/-- A token of a regular expression. -/
inductive Token
  | item (r : Regex)
  | opens
  | closes
  | bar
  | repeats (least : Nat) (most : Option Nat)
  /-- A repetition of nothing, by its mark. -/
  | stray (mark : String)
  deriving DecidableEq, Repr

/-- The limits of an interval in the extended dialect, in whatever order, if it is one. -/
def readLimits (s : List Char) : Option (List Char) :=
  let (low, rest) := Number.spanDigits s
  match rest with
  | '\x7d' :: r => if low.isEmpty then none else some r
  | ',' :: r =>
    match (Number.spanDigits r).2 with
    | '\x7d' :: r => some r
    | _ => none
  | _ => none

/-- The limits of an interval up to the closing brace, which a backslash precedes in the basic dialect. -/
def readInterval (d : Dialect) (s : List Char) : Option ((Nat × Option Nat) × List Char) :=
  let (low, rest) := Number.spanDigits s
  let least := Number.digitsValue low
  let (most, rest, ok) :=
    match rest with
    | ',' :: r =>
      let (high, rest) := Number.spanDigits r
      (if high.isEmpty then none else some (Number.digitsValue high), rest, true)
    | r => (some least, r, !low.isEmpty)
  let closed :=
    match d.isExtended, rest with
    | false, '\\' :: '\x7d' :: r => some r
    | true, '\x7d' :: r => some r
    | _, _ => none
  if ok && most.all (least ≤ ·) then closed.map ((least, most), ·) else none

/-- The anchor or class that a letter after a backslash stands for. -/
def escaped? (c : Char) : Option Regex :=
  let wordSet (negated : Bool) : Regex := .set ⟨negated, [.named .alnum, .range '_' '_']⟩
  match c with
  | 'w' => some (wordSet false)
  | 'W' => some (wordSet true)
  | 's' => some (.set ⟨false, [.named .space]⟩)
  | 'S' => some (.set ⟨true, [.named .space]⟩)
  | 'b' => some (.anchor .wordEdge)
  | 'B' => some (.anchor .noWordEdge)
  | '<' => some (.anchor .wordStart)
  | '>' => some (.anchor .wordEnd)
  | '\'' => some (.anchor .textEnd)
  | c => if c = Char.ofNat 0x60 then some (.anchor .textStart) else none

/-- Whether an anchor for the end of a line stands at the end of a basic expression. -/
def endsBasic : List Char → Bool
  | [] => true
  | '\\' :: ')' :: _ => true
  | '\\' :: '|' :: _ => true
  | _ => false

/-- Whether a class by a name that there is not stands in a text. -/
def hasUnknownClass : List Char → Bool
  | '[' :: ':' :: s =>
    match CharSet.untilMark ':' s with
    | some (name, _) => (NamedClass.table.lookup (String.ofList name)).isNone || hasUnknownClass s
    | none => hasUnknownClass s
  | _ :: s => hasUnknownClass s
  | [] => false

/-- Whether a member of a class is a range whose ends are the wrong way round. -/
def isReversed : Member → Bool
  | .range first last => last < first
  | .named _ => false

/-- Whether the text of a class is that of a class by name without the brackets around it. -/
def isBareClass (text : List Char) : Bool :=
  4 ≤ text.length && text.head? == some ':' && text.dropLast.getLast? == some ':' && !text.contains '['

/-- The class behind an opening bracket, with what follows it. -/
def readClass (s : List Char) : Except Malformed (Token × List Char) :=
  match CharSet.read ['^'] s with
  | some (members, rest) =>
    if members.members.any isReversed then .error .badRange
    else if isBareClass (s.take (s.length - rest.length)) then .error .bareClass
    else .ok (.item (.set members), rest)
  | none =>
    .error (if s = [] ∨ s = ['^'] then .badPattern else if hasUnknownClass s then .badClass else .openBracket)

/-- The greatest count of repetitions. -/
def repeatLimit : Nat := 32767

/-- A repetition, or what it is where there is nothing to repeat. -/
def repetition (d : Dialect) (atStart : Bool) (mark : String) (least : Nat) (most : Option Nat) (rest : List Char) :
    Except Malformed (Token × List Char) :=
  if repeatLimit < max least (most.getD 0) then .error .tooBig
  else if !atStart then .ok (.repeats least most, rest)
  else if d.isStrict then .error .nothingToRepeat
  else .ok (.stray mark, rest)

/-- The repetition by an interval behind an opening brace; `asItself` is what the brace is if it opens none. -/
def intervalToken (d : Dialect) (atStart : Bool) (asItself : Except Malformed (Token × List Char)) (s : List Char) :
    Except Malformed (Token × List Char) :=
  match readInterval d s with
  | some ((least, most), rest) => repetition d atStart "\x7b...\x7d" least most rest
  | none =>
    if d.isExtended && !d.isStrict then
      match readLimits s with
      | some _ => .error .badInterval
      | none => asItself
    else if atStart then .error .nothingToRepeat
    else .error (if s.contains '\x7d' then .badInterval else .openInterval)

/-- The token at the front of a text, with what follows it. `atStart` says whether there is nothing to repeat yet. -/
def readToken (d : Dialect) (atStart : Bool) : List Char → Except Malformed (Token × List Char)
  | [] => .error .trailingBackslash
  | '.' :: s => .ok (.item .any, s)
  | '[' :: s => readClass s
  | '*' :: s =>
    if atStart && !d.isExtended then .ok (.item (.char '*'), s) else repetition d atStart "*" 0 none s
  | '\\' :: s =>
    match s with
    | [] => .error .trailingBackslash
    | c :: r =>
      let plain : Except Malformed (Token × List Char) := .ok (.item (.char c), r)
      if isAsciiDigit c && c != '0' then .ok (.item (.back (c.toNat - 48)), r)
      else
        match escaped? c with
        | some e => .ok (.item e, r)
        | none =>
          if d.isExtended then plain
          else if c = '(' then .ok (.opens, r)
          else if c = ')' then .ok (.closes, r)
          else if c = '|' then .ok (.bar, r)
          else if c = '+' && !atStart then .ok (.repeats 1 none, r)
          else if c = '?' && !atStart then .ok (.repeats 0 (some 1), r)
          else if c = '\x7b' then
            if atStart && !d.isStrict then plain else intervalToken d atStart plain r
          else plain
  | '^' :: s => .ok (.item (if d.isExtended || atStart then .anchor .lineStart else .char '^'), s)
  | '$' :: s => .ok (.item (if d.isExtended || endsBasic s then .anchor .lineEnd else .char '$'), s)
  | c :: s =>
    let plain : Except Malformed (Token × List Char) := .ok (.item (.char c), s)
    if !d.isExtended then plain
    else if c = '(' then .ok (.opens, s)
    else if c = ')' then .ok (.closes, s)
    else if c = '|' then .ok (.bar, s)
    else if c = '+' then repetition d atStart "+" 1 none s
    else if c = '?' then repetition d atStart "?" 0 (some 1) s
    else if c = '\x7b' then intervalToken d atStart plain s
    else plain

/-- Whether there is nothing to repeat behind a token. -/
def Token.leavesNothing : Token → Bool
  | .opens => true
  | .bar => true
  | .item (.anchor _) => true
  | .stray _ => true
  | _ => false

/-- Whether a token repeats what is in front of it. -/
def Token.isRepetition : Token → Bool
  | .repeats .. => true
  | _ => false

/-- Whether a repetition starts with a text in the basic dialect. -/
def startsRepetition : List Char → Bool
  | '*' :: _ => true
  | '\\' :: '\x7b' :: _ => true
  | _ => false

/-- The tokens of a text. The strict basic dialect has no repetition of a repetition. The fuel bounds their count. -/
def readTokens (d : Dialect) : Nat → Bool → List Char → Except Malformed (List Token)
  | 0, _, _ => .ok []
  | fuel + 1, atStart, s =>
    if s.isEmpty then .ok []
    else
      match readToken d atStart s with
      | .error e => .error e
      | .ok (token, rest) =>
        if d.isStrict && !d.isExtended && token.isRepetition && startsRepetition rest then .error .nothingToRepeat
        else (readTokens d fuel token.leavesNothing rest).map (token :: ·)

/-- A group that is open: its number, its finished branches, and the items of the last one, latest first. -/
structure Frame where
  number : Nat
  branches : List Regex
  items : List Regex

namespace Frame

/-- The items one after the other. -/
def sequence (items : List Regex) : Regex :=
  match items with
  | [] => .nothing
  | last :: before => before.foldl (fun after r => .both r after) last

/-- The expression that a frame holds. -/
def body (f : Frame) : Regex := f.branches.foldl (fun right left => .either left right) (sequence f.items)

/-- The frame with one more item. -/
def push (f : Frame) (r : Regex) : Frame := { f with items := r :: f.items }

end Frame

/-- The open groups, the innermost first, with the count of groups opened and the numbers of those closed. -/
structure Stack where
  frames : List Frame
  opened : Nat
  closed : List Nat

/-- The stack after a token. -/
def Stack.step (d : Dialect) (s : Stack) (token : Token) : Except Malformed Stack :=
  match s.frames with
  | [] => .error .closedGroup
  | f :: outer =>
    match token with
    | .item (.back n) =>
      if s.closed.contains n then .ok { s with frames := f.push (.back n) :: outer } else .error .badReference
    | .item r => .ok { s with frames := f.push r :: outer }
    | .bar => .ok { s with frames := { f with branches := Frame.sequence f.items :: f.branches, items := [] } :: outer }
    | .repeats least most =>
      match f.items with
      | [] => .ok s
      | last :: before => .ok { s with frames := { f with items := .repeated last least most :: before } :: outer }
    | .stray _ => .ok s
    | .opens => .ok { s with frames := ⟨s.opened + 1, [], []⟩ :: f :: outer, opened := s.opened + 1 }
    | .closes =>
      match outer with
      | [] =>
        if d.isExtended && !d.isStrict then .ok { s with frames := [f.push (.char ')')] } else .error .closedGroup
      | g :: outer =>
        .ok { s with frames := g.push (.group f.number f.body) :: outer, closed := f.number :: s.closed }

/-- The regular expression that a text is. -/
def read (d : Dialect) (s : List Char) : Except Malformed Regex :=
  match readTokens d (s.length + 1) true s with
  | .error e => .error e
  | .ok tokens =>
    match tokens.foldlM (Stack.step d) ⟨[⟨0, [], []⟩], 0, []⟩ with
    | .error e => .error e
    | .ok s =>
      match s.frames with
      | [f] => .ok f.body
      | _ => .error .openGroup

/-- The marks of the repetitions in a text that repeat nothing. -/
def strayMarks (d : Dialect) (s : List Char) : List String :=
  match readTokens d (s.length + 1) true s with
  | .error _ => []
  | .ok tokens =>
    tokens.filterMap fun token =>
      match token with
      | .stray mark => some mark
      | _ => none

/-- The expression in the basic dialect that means what one means in which the marks of repetition need no backslash. -/
def withBackslashes : List Char → List Char
  | '\\' :: c :: s =>
    if c = '+' ∨ c = '?' ∨ c = '\x7b' ∨ c = '\x7d' then c :: withBackslashes s else '\\' :: c :: withBackslashes s
  | c :: s => if c = '+' ∨ c = '?' then '\\' :: c :: withBackslashes s else c :: withBackslashes s
  | [] => []

/-- The expression that matches a text and nothing else. -/
def literal (s : List Char) : Regex := Frame.sequence (s.reverse.map .char)

end ElmAssay.Machine.Regex
