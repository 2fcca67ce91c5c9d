import ElmAssay.Machine.Numeral
import ElmAssay.Machine.Regex

/-!
# Reading the rich dialect

The rich dialect of regular expressions has repetitions that rather end than go on, groups that only join, places that
are looked at from one side, and classes by a letter (`Regex.readRich`). A match in it is the first one that is come
upon, not the longest one.
-/

namespace ElmAssay.Machine.Regex

open Text

/-- Why a text is no expression of the rich dialect. -/
inductive RichDefect
  | nothingToRepeat
  | openGroup
  | closedGroup
  | openClass
  | limitsOutOfOrder
  | limitTooBig
  | endsInBackslash
  | endsInControl
  | variableWidth
  | noGroup
  | unknownClass
  | bareClass
  | badRange
  | classInRange
  | unknownMark
  | noName
  | openName
  | unknownProperty
  | openComment
  | badReference
  | noOctal
  | unknownEscape
  | unknownVerb
  deriving DecidableEq, Repr

/-- The wording of a defect. -/
def RichDefect.message : RichDefect → String
  | nothingToRepeat => "quantifier does not follow a repeatable item"
  | openGroup => "missing closing parenthesis"
  | closedGroup => "unmatched closing parenthesis"
  | openClass => "missing terminating ] for character class"
  | limitsOutOfOrder => "numbers out of order in \x7b\x7d quantifier"
  | limitTooBig => "number too big in \x7b\x7d quantifier"
  | endsInBackslash => "\\ at end of pattern"
  | endsInControl => "\\c at end of pattern"
  | variableWidth => "lookbehind assertion is not fixed length"
  | noGroup => "reference to non-existent subpattern"
  | unknownClass => "unknown POSIX class name"
  | bareClass => "POSIX named classes are supported only within a class"
  | badRange => "range out of order in character class"
  | classInRange => "invalid range in character class"
  | unknownMark => "unrecognized character after (? or (?-"
  | noName => "subpattern name expected"
  | openName => "syntax error in subpattern name (missing terminator?)"
  | unknownProperty => "unknown property after \\P or \\p"
  | openComment => "missing ) after (?# comment"
  | badReference =>
    "\\g is not followed by a braced, angle-bracketed, or quoted name/number or by a plain number"
  | noOctal => "non-octal character in \\o\x7b\x7d (closing brace missing?)"
  | unknownEscape => "unrecognized character follows \\"
  | unknownVerb => "(*VERB) not recognized or malformed"

/-- What changes the meaning of what follows. -/
structure RichFlags where
  ignoresCase : Bool
  manyLines : Bool
  /-- Whether the point matches line feeds. -/
  isWide : Bool
  /-- Whether blanks stand for nothing. -/
  isSpaced : Bool
  deriving DecidableEq, Repr

/-- What is kept while an expression is read: the text that is left, the flags, the count of groups, the names of
some of them, and the groups that are referred to. -/
structure RichReader where
  rest : List Char
  flags : RichFlags
  groups : Nat
  names : List (String × Nat)
  referred : List (Nat ⊕ String)

/-- A step of reading. -/
abbrev Rich (α : Type) := StateT RichReader (Except RichDefect) α

namespace Rich

/-- The text that is left. -/
def rest : Rich (List Char) := return (← get).rest

/-- Goes on with a text. -/
def goOn (s : List Char) : Rich Unit := modify fun r => { r with rest := s }

/-- The greatest code point. -/
def lastChar : Char := Char.ofNat 0x10ffff

/-- The ranges of all characters that are in none of some ranges, which are in order. -/
def outside (ranges : List (Char × Char)) : List (Char × Char) :=
  let step (acc : Nat × List (Char × Char)) (r : Char × Char) : Nat × List (Char × Char) :=
    (r.2.toNat + 1, if acc.1 < r.1.toNat then (Char.ofNat acc.1, Char.ofNat (r.1.toNat - 1)) :: acc.2 else acc.2)
  let (next, done) := ranges.foldl step (0, [])
  ((Char.ofNat next, lastChar) :: done).reverse

/-- The ranges of a class by a letter. -/
def rangesOf? (c : Char) : Option (List (Char × Char)) :=
  let digits := [('0', '9')]
  let word := [('0', '9'), ('A', 'Z'), ('_', '_'), ('a', 'z')]
  let space := [('\t', '\r'), (' ', ' ')]
  let blank := [('\t', '\t'), (' ', ' '), (Char.ofNat 160, Char.ofNat 160)]
  let line := [('\n', '\r'), (Char.ofNat 133, Char.ofNat 133), (Char.ofNat 0x2028, Char.ofNat 0x2029)]
  match c with
  | 'd' => some digits
  | 'D' => some (outside digits)
  | 'w' => some word
  | 'W' => some (outside word)
  | 's' => some space
  | 'S' => some (outside space)
  | 'h' => some blank
  | 'H' => some (outside blank)
  | 'v' => some line
  | 'V' => some (outside line)
  | 'N' => some (outside [('\n', '\n')])
  | _ => none

/-- The ranges of a class by its name. -/
def rangesNamed? (name : String) : Option (List (Char × Char)) :=
  match name with
  | "word" => rangesOf? 'w'
  | "ascii" => some [(Char.ofNat 0, Char.ofNat 127)]
  | name =>
    (NamedClass.table.lookup name).map fun k =>
      ((List.range 128).map Char.ofNat |>.filter k.hasNarrow).map fun c => (c, c)

/-- The class of a property by its name. -/
def propertyOf? (name : String) : Option (List Member) :=
  match name with
  | "L" => some [.named .alpha]
  | "Lu" => some [.named .upper]
  | "Ll" => some [.named .lower]
  | "N" => some [.named .digit]
  | "Nd" => some [.named .digit]
  | "P" => some [.named .punct]
  | "Z" => some [.named .blank]
  | "Zs" => some [.range ' ' ' ', .range (Char.ofNat 160) (Char.ofNat 160)]
  | "Any" => some [.range (Char.ofNat 0) lastChar]
  | "Xan" => some [.named .alnum]
  | "Xwd" => some [.named .alnum, .range '_' '_']
  | "Xsp" => some [.named .space]
  | _ => none

/-- The members that ranges make. -/
def members (ranges : List (Char × Char)) : List Member := ranges.map fun r => .range r.1 r.2

/-- A class with some ranges. -/
def classOf (ranges : List (Char × Char)) : Regex := .set ⟨false, members ranges⟩

/-- What follows a text up to a character, if it is there, and the text in front. -/
def upTo? (c : Char) (s : List Char) : Option (List Char × List Char) :=
  let front := s.takeWhile (· != c)
  if front.length < s.length then some (front, s.drop (front.length + 1)) else none

/-- The character that a backslash and what follows it stand for, if it is one: digits in a base or a letter. -/
def readChar? (s : List Char) : Except RichDefect (Option (Char × List Char)) :=
  match s with
  | 'n' :: s => .ok (some ('\n', s))
  | 't' :: s => .ok (some ('\t', s))
  | 'r' :: s => .ok (some ('\r', s))
  | 'f' :: s => .ok (some ('\x0c', s))
  | 'a' :: s => .ok (some ('\x07', s))
  | 'e' :: s => .ok (some ('\x1b', s))
  | 'c' :: c :: s => .ok (some (Char.ofNat (c.toUpper.toNat ^^^ 64), s))
  | ['c'] => .error .endsInControl
  | 'x' :: '\x7b' :: s =>
    match upTo? '\x7d' s with
    | some (ds, rest) => .ok (some (Char.ofNat (Numeral.valueIn 16 ds), rest))
    | none => .ok (some (Char.ofNat 0, '\x7b' :: s))
  | 'x' :: s =>
    let ds := (s.take 2).takeWhile (Numeral.isDigitIn 16)
    .ok (some (Char.ofNat (Numeral.valueIn 16 ds), s.drop ds.length))
  | 'o' :: '\x7b' :: s =>
    match upTo? '\x7d' s with
    | some (ds, rest) =>
      if !ds.isEmpty && ds.all (Numeral.isDigitIn 8) then .ok (some (Char.ofNat (Numeral.valueIn 8 ds), rest))
      else .error .noOctal
    | none => .error .noOctal
  | '0' :: s =>
    let ds := (s.take 2).takeWhile (Numeral.isDigitIn 8)
    .ok (some (Char.ofNat (Numeral.valueIn 8 ds), s.drop ds.length))
  | c :: s => .ok (if c.isAlphanum then none else some (c, s))
  | [] => .error .endsInBackslash

/-! ## Classes -/

/-- A part of a class at the front of a text: a character or several ones. -/
def classItem (s : List Char) : Except RichDefect ((Char ⊕ List Member) × List Char) :=
  match s with
  | '[' :: ':' :: rest =>
    match CharSet.untilMark ':' rest with
    | none => .ok (.inl '[', ':' :: rest)
    | some (name, after) =>
      let negated := name.head? = some '^'
      match rangesNamed? (String.ofList (if negated then name.drop 1 else name)) with
      | some ranges => .ok (.inr (members (if negated then outside ranges else ranges)), after)
      | none => if name.all fun c => c.isAlpha || c == '^' then .error .unknownClass else .ok (.inl '[', ':' :: rest)
  | '\\' :: 'b' :: rest => .ok (.inl '\x08', rest)
  | '\\' :: c :: rest =>
    match rangesOf? c with
    | some ranges => .ok (.inr (members ranges), rest)
    | none =>
      if c = 'p' ∨ c = 'P' then
        let (name, after) : List Char × List Char :=
          match rest with
          | '\x7b' :: r => (upTo? '\x7d' r).getD (rest, [])
          | r => (r.take 1, r.drop 1)
        match propertyOf? (String.ofList name) with
        | some ms => .ok (.inr ms, after)
        | none => .error .unknownProperty
      else if c != '0' && Numeral.isDigitIn 8 c then
        let ds := ((c :: rest).take 3).takeWhile (Numeral.isDigitIn 8)
        .ok (.inl (Char.ofNat (Numeral.valueIn 8 ds)), (c :: rest).drop ds.length)
      else
        match readChar? (c :: rest) with
        | .error e => .error e
        | .ok (some (c, rest)) => .ok (.inl c, rest)
        | .ok none => .error .unknownEscape
  | c :: rest => .ok (.inl c, rest)
  | [] => .error .openClass

/-- The members of a class up to the bracket that closes it, which is a member itself in the first place. The fuel bounds
their count. -/
def classMembers : Nat → Bool → List Char → Except RichDefect (List Member × List Char)
  | 0, _, _ => .error .openClass
  | _, _, [] => .error .openClass
  | fuel + 1, isFirst, s =>
    match s, isFirst with
    | ']' :: rest, false => .ok ([], rest)
    | '\\' :: 'E' :: rest, isFirst => classMembers fuel isFirst rest
    | s, _ => do
      let (item, rest) ← classItem s
      let go (ms : List Member) (rest : List Char) : Except RichDefect (List Member × List Char) :=
        (classMembers fuel false rest).map fun p => (ms ++ p.1, p.2)
      match item, rest with
      | item, '-' :: ']' :: rest =>
        go (item.elim (fun c => [.range c c]) id ++ [.range '-' '-']) (']' :: rest)
      | .inr _, '-' :: _ => .error .classInRange
      | .inl a, '-' :: rest =>
        match ← classItem rest with
        | (.inl b, rest) => if b < a then .error .badRange else go [.range a b] rest
        | (.inr _, _) => .error .classInRange
      | .inl c, rest => go [.range c c] rest
      | .inr ms, rest => go ms rest

/-- The class behind an opening bracket. -/
def readClass (s : List Char) : Except RichDefect (Regex × List Char) :=
  let negated := s.head? = some '^'
  let body := if negated then s.drop 1 else s
  (classMembers (body.length + 1) true body).map fun p => (.set ⟨negated, p.1⟩, p.2)

/-- Whether a bracket opens the name of a class where no class is open. -/
def isBareClass (s : List Char) : Bool :=
  let named (mark : Char) (s : List Char) : Bool :=
    match CharSet.untilMark mark s with
    | some (name, _) => name.all fun c => c.isAlpha || c == '^'
    | none => false
  match s with
  | ':' :: rest => named ':' rest
  | '.' :: rest => named '.' rest
  | '=' :: rest => named '=' rest
  | _ => false

/-! ## Widths -/

/-- The count of characters that an expression matches, if it is always the same. -/
def width? : Regex → Option Nat
  | .char _ => some 1
  | .any => some 1
  | .set _ => some 1
  | .both a b => do return (← width? a) + (← width? b)
  | .either a b => do
    let n ← width? a
    if (← width? b) = n then return n else none
  | .repeated r least most => do
    let n ← width? r
    if most = some least then return n * least else none
  | .reluctant .. => none
  | .group _ r => width? r
  | .atomic r => width? r
  | .within _ r => width? r
  | .back _ => none
  | _ => some 0

/-- Whether each branch of an expression always matches the same count of characters. -/
def hasWidths : Regex → Bool
  | .either a b => hasWidths a && hasWidths b
  | r => (width? r).isSome

/-! ## Expressions -/

/-- The limits of a repetition behind an opening brace, if it is one. -/
def limits? (s : List Char) : Option (Nat × Option Nat × List Char) :=
  let (low, rest) := Number.spanDigits s
  let least := Number.digitsValue low
  if low.isEmpty then none
  else
    match rest with
    | '\x7d' :: rest => some (least, some least, rest)
    | ',' :: rest =>
      match Number.spanDigits rest with
      | ([], '\x7d' :: rest) => some (least, none, rest)
      | (high, '\x7d' :: rest) => some (least, some (Number.digitsValue high), rest)
      | _ => none
    | _ => none

/-- The greatest limit of a repetition. -/
def limit : Nat := 65535

/-- A repetition with the mark behind it that makes it reluctant or atomic. -/
def marked (r : Regex) (least : Nat) (most : Option Nat) (s : List Char) : Regex × List Char :=
  match s with
  | '?' :: s => (.reluctant r least most, s)
  | '+' :: s => (.atomic (.repeated r least most), s)
  | s => (.repeated r least most, s)

/-- Whether an expression can be repeated. -/
def isRepeatable : Regex → Bool
  | .nothing => false
  | .anchor _ => false
  | .keep => false
  | .within _ r => isRepeatable r
  | _ => true

/-- The repetition of an expression that the text asks for. -/
def readRepetition (r : Regex) : Rich Regex := do
  let s ← rest
  let go (least : Nat) (most : Option Nat) (s : List Char) : Rich Regex := do
    if !isRepeatable r then throw .nothingToRepeat
    let (r, s) := marked r least most s
    goOn s
    return r
  match s with
  | '*' :: s => go 0 none s
  | '+' :: s => go 1 none s
  | '?' :: s => go 0 (some 1) s
  | '\x7b' :: s =>
    match limits? s with
    | none => return r
    | some (least, most, s) =>
      if limit < max least (most.getD 0) then throw .limitTooBig
      if most.any (· < least) then throw .limitsOutOfOrder
      go least most s
  | _ => return r

/-- An expression in the manner that the flags ask for. -/
def inManner (r : Regex) : Rich Regex := do
  let f := (← get).flags
  return .within ⟨f.ignoresCase, f.manyLines⟩ r

/-- The name in front of a mark that closes it. -/
def readName (close : Char) (s : List Char) : Rich String := do
  match s.head? with
  | none => throw .noName
  | some c => if !(c.isAlpha || c == '_') then throw .noName
  let name := s.takeWhile fun c => c.isAlphanum || c == '_'
  match s.drop name.length with
  | c :: rest =>
    if c != close then throw .openName
    goOn rest
    return String.ofList name
  | [] => throw .openName

/-- A reference to a group. -/
def refer (target : Nat ⊕ String) : Rich Regex := do
  modify fun r => { r with referred := target :: r.referred }
  let names := (← get).names
  match target with
  | .inl n => inManner (.back n)
  | .inr name =>
    match names.lookup name with
    | some n => inManner (.back n)
    | none => throw .noGroup

/-- The reference behind its letter. -/
def readReference (s : List Char) : Rich Regex := do
  let numbered (text rest : List Char) : Rich Regex := do
    let back := text.head? = some '-'
    let ds := if back then text.drop 1 else text
    if ds.isEmpty then throw .badReference
    if ds.all isAsciiDigit then
      goOn rest
      let n := Number.digitsValue ds
      let count := (← get).groups
      if back then
        if count < n then throw .noGroup
        refer (.inl (count + 1 - n))
      else refer (.inl n)
    else if ds.all fun c => c.isAlphanum || c == '_' then
      goOn rest
      refer (.inr (String.ofList text))
    else throw .badReference
  match s with
  | '\x7b' :: r =>
    match upTo? '\x7d' r with
    | some (text, rest) => numbered text rest
    | none => throw .badReference
  | s =>
    let front := if s.head? = some '-' then ['-'] else []
    let (ds, rest) := Number.spanDigits (s.drop front.length)
    numbered (front ++ ds) rest

/-- The expression that a backslash and what follows it stand for. -/
def readEscape (s : List Char) : Rich Regex := do
  let anchor (a : Anchor) (rest : List Char) : Rich Regex := do
    goOn rest
    inManner (.anchor a)
  match s with
  | [] => throw .endsInBackslash
  | 'b' :: rest => anchor .wordEdge rest
  | 'B' :: rest => anchor .noWordEdge rest
  | 'A' :: rest => anchor .textStart rest
  | 'G' :: rest => anchor .textStart rest
  | 'z' :: rest => anchor .textEnd rest
  | 'Z' :: rest => anchor .textEnd rest
  | 'K' :: rest => goOn rest; return .keep
  | 'R' :: rest =>
    goOn rest
    return .either (.both (.char '\r') (.char '\n')) (classOf [('\n', '\r')])
  | 'X' :: rest => goOn rest; return .any
  | 'C' :: rest => goOn rest; return .any
  | 'g' :: rest => readReference rest
  | 'k' :: open' :: rest =>
    let close : Option Char := [('<', '>'), ('\x7b', '\x7d'), ('\'', '\'')].lookup open'
    match close with
    | some close =>
      let name ← readName close rest
      refer (.inr name)
    | none => throw .badReference
  | c :: rest =>
    if c = 'p' ∨ c = 'P' then
      let (item, rest) ←
        match classItem ('\\' :: c :: rest) with
        | .ok p => pure p
        | .error e => throw e
      goOn rest
      return .set ⟨c = 'P', item.elim (fun c => [.range c c]) id⟩
    else if c != '0' && isAsciiDigit c then
      let ds := (c :: rest).takeWhile isAsciiDigit
      let n := Number.digitsValue ds
      if n < 10 || n ≤ (← get).groups then
        goOn ((c :: rest).drop ds.length)
        refer (.inl n)
      else
        let octal := ((c :: rest).take 3).takeWhile (Numeral.isDigitIn 8)
        if octal.isEmpty then throw .noGroup
        goOn ((c :: rest).drop octal.length)
        inManner (.char (Char.ofNat (Numeral.valueIn 8 octal)))
    else
      match rangesOf? c with
      | some ranges => goOn rest; return classOf ranges
      | none =>
        match readChar? (c :: rest) with
        | .error e => throw e
        | .ok (some (c, rest)) => goOn rest; inManner (.char c)
        | .ok none => throw .unknownEscape

/-- The flags after the letters that turn them on or off, and what follows these. -/
def takeFlags : Bool → RichFlags → List Char → RichFlags × List Char
  | on, f, 'i' :: s => takeFlags on { f with ignoresCase := on } s
  | on, f, 'm' :: s => takeFlags on { f with manyLines := on } s
  | on, f, 's' :: s => takeFlags on { f with isWide := on } s
  | on, f, 'x' :: s => takeFlags on { f with isSpaced := on } s
  | on, f, 'U' :: s => takeFlags on f s
  | on, f, 'J' :: s => takeFlags on f s
  | true, f, '-' :: s => takeFlags false f s
  | _, _, '^' :: s => takeFlags true ⟨false, false, false, false⟩ s
  | _, f, s => (f, s)

/-- Reads what stands in a group, up to the parenthesis that closes it. What the flags are in it does not last. -/
def inGroup (alternatives : Rich Regex) : Rich Regex := do
  let flags := (← get).flags
  let r ← alternatives
  match ← rest with
  | ')' :: s =>
    modify fun p => { p with rest := s, flags := flags }
    return r
  | _ => throw .openGroup

/-- Reads a group that has a number. -/
def numbered (alternatives : Rich Regex) (name : Option String) : Rich Regex := do
  let n := (← get).groups + 1
  modify fun p => { p with groups := n, names := (name.map (·, n)).toList ++ p.names }
  return .group n (← inGroup alternatives)

/-- Reads a group behind its opening parenthesis. -/
def readGroup (alternatives : Rich Regex) : Rich Regex := do
  let named (close : Char) (s : List Char) : Rich Regex := do
    let name ← readName close s
    numbered alternatives (some name)
  let look (isAhead isNegated : Bool) (s : List Char) : Rich Regex := do
    goOn s
    let r ← inGroup alternatives
    if !isAhead && !hasWidths r then throw .variableWidth
    return .look isAhead isNegated r
  match ← rest with
  | '?' :: ':' :: s => goOn s; inGroup alternatives
  | '?' :: '|' :: s => goOn s; inGroup alternatives
  | '?' :: '>' :: s =>
    goOn s
    return .atomic (← inGroup alternatives)
  | '?' :: '=' :: s => look true false s
  | '?' :: '!' :: s => look true true s
  | '?' :: '<' :: '=' :: s => look false false s
  | '?' :: '<' :: '!' :: s => look false true s
  | '?' :: '<' :: s => named '>' s
  | '?' :: 'P' :: '<' :: s => named '>' s
  | '?' :: '\'' :: s => named '\'' s
  | '?' :: 'P' :: '=' :: s =>
    let name ← readName ')' s
    refer (.inr name)
  | '?' :: '#' :: s =>
    match upTo? ')' s with
    | some (_, s) => goOn s; return .nothing
    | none => throw .openComment
  | '?' :: s =>
    let (flags, s) := takeFlags true (← get).flags s
    match s with
    | ')' :: s =>
      modify fun p => { p with rest := s, flags := flags }
      return .nothing
    | ':' :: s =>
      let before := (← get).flags
      modify fun p => { p with rest := s, flags := flags }
      let r ← inGroup alternatives
      modify fun p => { p with flags := before }
      return r
    | [] => throw .openGroup
    | _ => throw .unknownMark
  | '*' :: _ => throw .unknownVerb
  | _ => numbered alternatives none

/-- Reads one item without what repeats it. -/
def readItem (alternatives : Rich Regex) : Rich Regex := do
  match ← rest with
  | [] => return .nothing
  | '(' :: s => goOn s; readGroup alternatives
  | '[' :: s =>
    if isBareClass s then throw .bareClass
    match readClass s with
    | .ok (r, s) => goOn s; inManner r
    | .error e => throw e
  | '\\' :: s => readEscape s
  | '.' :: s =>
    goOn s
    return if (← get).flags.isWide then .set ⟨true, []⟩ else .set ⟨true, [.range '\n' '\n']⟩
  | '^' :: s => goOn s; inManner (.anchor .lineStart)
  | '$' :: s => goOn s; inManner (.anchor .lineEnd)
  | c :: s =>
    if c = '*' ∨ c = '+' ∨ c = '?' then throw .nothingToRepeat
    goOn s
    inManner (.char c)

/-- Reads items one after the other. The fuel bounds their count. -/
def readItems (alternatives : Rich Regex) : Nat → Rich Regex
  | 0 => return .nothing
  | fuel + 1 => do
    match ← rest with
    | [] => return .nothing
    | ')' :: _ => return .nothing
    | '|' :: _ => return .nothing
    | '\\' :: 'E' :: s => goOn s; readItems alternatives fuel
    | '\\' :: 'Q' :: s =>
      let (front, rest) : List Char × List Char :=
        let parts := (String.ofList s).splitOn "\\E"
        match parts with
        | front :: _ :: _ => (front.toList, s.drop (front.length + 2))
        | _ => (s, [])
      goOn rest
      let m := (← get).flags
      let chars := front.map fun c => Regex.within ⟨m.ignoresCase, m.manyLines⟩ (.char c)
      match chars.reverse with
      | [] => readItems alternatives fuel
      | last :: before =>
        let r ← readRepetition last
        let more ← readItems alternatives fuel
        return before.foldl (fun after r => .both r after) (.both r more)
    | c :: s =>
      if (← get).flags.isSpaced && (Numeral.isSpace c || c == '#') then
        goOn (if c = '#' then (s.dropWhile (· != '\n')) else s)
        readItems alternatives fuel
      else
        let item ← readItem alternatives
        let isRepeated := (← rest).head?.any fun c => c == '*' || c == '+' || c == '?'
        let r ← if item = .nothing && !isRepeated then pure item else readRepetition item
        return .both r (← readItems alternatives fuel)

/-- Reads branches. The fuel bounds how deep they stand in each other. -/
def readBranches : Nat → Rich Regex
  | 0 => throw .openGroup
  | fuel + 1 => do
    let left ← readItems (readBranches fuel) ((← rest).length + 1)
    match ← rest with
    | '|' :: s =>
      goOn s
      return .either left (← readBranches fuel)
    | _ => return left

/-- Reads an expression to its end. -/
def readAll : Rich Regex := do
  let r ← readBranches ((← rest).length + 2)
  match ← rest with
  | [] =>
    let p ← get
    for target in p.referred do
      match target with
      | .inl n => if p.groups < n then throw .noGroup
      | .inr _ => pure ()
    return r
  | _ => throw .closedGroup

end Rich

/-- The expression of the rich dialect that a text is. -/
def readRich (m : Manner) (s : List Char) : Except RichDefect Regex :=
  (Rich.readAll.run ⟨s, ⟨m.ignoresCase, m.manyLines, false, false⟩, 0, [], []⟩).map Prod.fst

end ElmAssay.Machine.Regex
