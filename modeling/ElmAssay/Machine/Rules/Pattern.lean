import ElmAssay.Machine.Numeral
import ElmAssay.Machine.Rules

/-!
# The patterns of rules

Patterns are regular expressions over bytes in a dialect of their own (`Pattern.read`): there are no references back and
no counts in braces, anchors hold wherever they stand, and a bracket without a partner that closes a group stands for
itself. A backslash starts the same escapes as in texts.

A text is cut into fields by a separator (`Separator`): white space, nothing at all, a character, or a pattern that does
not match nothing. Records are found in what was read of a text so far (`Separator.nextRecord`), which may not be enough
to tell where one ends.
-/

namespace ElmAssay.Machine.Rules

open Text

/-! ## Escapes -/

/-- The character that a letter behind a backslash stands for. -/
def escaped? (c : Char) : Option Char :=
  match c with
  | 'n' => some '\n'
  | 't' => some '\t'
  | 'f' => some (Char.ofNat 12)
  | 'b' => some (Char.ofNat 8)
  | 'r' => some '\r'
  | 'a' => some (Char.ofNat 7)
  | 'v' => some (Char.ofNat 11)
  | '\\' => some '\\'
  | '"' => some '"'
  | _ => none

/-- The character that octal digits at the front of a text stand for, with what follows. -/
def octal? (s : List Char) : Option (Char × List Char) :=
  let ds := (s.take 3).takeWhile (Numeral.isDigitIn 8)
  if ds.isEmpty then none else some (Char.ofNat (Numeral.valueIn 8 ds % 256), s.drop ds.length)

/-- The character that an x with hexadecimal digits at the front of a text stands for, with what follows. -/
def hexadecimal? (s : List Char) : Option (Char × List Char) :=
  match s with
  | 'x' :: s =>
    let ds := (s.take 2).takeWhile (Numeral.isDigitIn 16)
    if ds.isEmpty then none else some (Char.ofNat (Numeral.valueIn 16 ds), s.drop ds.length)
  | _ => none

/-- The character that digits at the front of a text stand for, with what follows. -/
def coded? (s : List Char) : Option (Char × List Char) := (octal? s).or (hexadecimal? s)

/-- A text with what its escapes stand for. A backslash in front of another character stays. The fuel bounds the
characters. -/
def unescapedFrom : Nat → List Char → List Char
  | fuel + 1, '\\' :: c :: rest =>
    match escaped? c, coded? (c :: rest) with
    | some e, _ => e :: unescapedFrom fuel rest
    | none, some (e, rest) => e :: unescapedFrom fuel rest
    | none, none => '\\' :: c :: unescapedFrom fuel rest
  | fuel + 1, c :: rest => c :: unescapedFrom fuel rest
  | _, s => s

/-- A text with what its escapes stand for. -/
def unescaped (s : List Char) : List Char := unescapedFrom s.length s

namespace Pattern

/-- Why a text is no pattern. -/
inductive Defect
  | noOperand
  | openGroup
  | badClass
  | repeatedStart
  deriving DecidableEq, Repr

/-- The wording of a defect. -/
def Defect.message : Defect → String
  | noOperand => "missing operand"
  | openGroup => "missing ')'"
  | badClass => "bad class -- [], [^] or ["
  | repeatedStart => "syntax error ^* or ^+"

/-- The character behind a backslash, with what follows. -/
def readEscape (s : List Char) : Char × List Char :=
  match coded? s, s with
  | some found, _ => found
  | none, c :: rest => ((escaped? c).getD c, rest)
  | none, [] => ('\\', [])

/-! ## Classes -/

/-- The members of a class by name: runs of bytes. -/
def membersOf (k : NamedClass) : List Member :=
  let step (runs : List (Nat × Nat)) (n : Nat) : List (Nat × Nat) :=
    if !k.hasNarrow (Char.ofNat n) then runs
    else
      match runs with
      | (first, last) :: rest => if last + 1 = n then (first, n) :: rest else (n, n) :: runs
      | [] => [(n, n)]
  ((List.range 128).foldl step []).map fun r => .range (Char.ofNat r.1) (Char.ofNat r.2)

/-- A class by name at the front of a text behind a bracket, with what follows. -/
def readNamed? (s : List Char) : Option (Option (List Member) × List Char) :=
  match s with
  | ':' :: rest =>
    let name := rest.takeWhile Char.isAlpha
    if (rest.drop name.length).take 2 = [':', ']'] then
      some ((NamedClass.table.lookup (String.ofList name)).map membersOf, rest.drop (name.length + 2))
    else none
  | _ => none

/-- The members before a place and the text there, behind a character that may begin a range: `single` are the members with
the character alone, `done` those without it. -/
def readAfter (c : Char) (single done : List Member) (rest : List Char) : List Member × List Char :=
  match rest with
  | '-' :: ']' :: _ => (single, rest)
  | '-' :: '[' :: ':' :: _ => (.range '-' '-' :: single, rest.drop 1)
  | '-' :: d :: behind =>
    let (d, behind) := if d = '\\' then readEscape behind else (d, behind)
    if c ≤ d then (.range c d :: done, behind) else (.range d d :: .range '-' '-' :: single, behind)
  | _ => (single, rest)

/-- Members of a class up to its end, behind others, latest first. `isFirst` says that a closing bracket is a member. The
fuel bounds the members. -/
def readMembers : Nat → Bool → List Member → List Char → Except Defect (List Member × List Char)
  | 0, _, _, _ => .error .badClass
  | fuel + 1, isFirst, done, s =>
    let one (c : Char) (rest : List Char) : Except Defect (List Member × List Char) :=
      let (members, rest) := readAfter c (.range c c :: done) done rest
      readMembers fuel false members rest
    match s with
    | [] => .error .badClass
    | ']' :: rest => if isFirst then one ']' rest else .ok (done, rest)
    | '[' :: rest =>
      match readNamed? rest with
      | some (some members, rest) => readMembers fuel false (members ++ done) rest
      | some (none, _) => .error .badClass
      | none => one '[' rest
    | '\\' :: rest =>
      let (c, rest) := readEscape rest
      one c rest
    | c :: rest => one c rest

/-- A class behind its bracket, with what follows. -/
def readClass (s : List Char) : Except Defect (Regex × List Char) := do
  let isNegated := s.head? == some '^'
  let body := if isNegated then s.drop 1 else s
  let (members, rest) ← readMembers (body.length + 1) true [] body
  return (.set ⟨isNegated, members⟩, rest)

/-! ## Patterns -/

/-- An item as often as the marks behind it say, with the text behind these. -/
def readMarks (item : Regex) (rest : List Char) : Regex × List Char :=
  let marks := rest.takeWhile fun c => c == '*' || c == '+' || c == '?'
  let once (r : Regex) (c : Char) : Regex :=
    match c with
    | '*' => .repeated r 0 none
    | '+' => .repeated r 1 none
    | _ => .repeated r 0 (some 1)
  (marks.foldl once item, rest.drop marks.length)

/-- Alternatives up to the end of a group or of the text: what came before in the same branch, which may be nothing, and
the earlier branches. The fuel bounds the steps. -/
def readBranches : Nat → Nat → Option Regex → Option Regex → List Char → Except Defect (Regex × List Char)
  | 0, _, _, _, _ => .error .noOperand
  | fuel + 1, depth, earlier, before, s =>
    let closed (r : Regex) : Regex := earlier.elim r fun e => .either e r
    let readOn (item : Regex) (rest : List Char) : Except Defect (Regex × List Char) :=
      let (item, rest) := readMarks item rest
      readBranches fuel depth earlier (some (before.elim item fun b => .both b item)) rest
    match s with
    | [] =>
      match before with
      | none => .error .noOperand
      | some r => if depth = 0 then .ok (closed r, []) else .error .openGroup
    | '|' :: rest =>
      match before with
      | none => .error .noOperand
      | some r => readBranches fuel depth (some (closed r)) none rest
    | ')' :: rest =>
      if depth = 0 then readOn (.char ')') rest
      else
        match before with
        | none => .error .noOperand
        | some r => .ok (closed r, rest)
    | '(' :: ')' :: rest => if before.isNone then .error .noOperand else readBranches fuel depth earlier before rest
    | '(' :: rest =>
      match rest with
      | [] => .error .openGroup
      | rest => do
        let (r, rest) ← readBranches fuel (depth + 1) none none rest
        readOn r rest
    | '[' :: rest => do
      let (r, rest) ← readClass rest
      readOn r rest
    | '\\' :: rest =>
      let (c, rest) := readEscape rest
      readOn (.char c) rest
    | '.' :: rest => readOn .any rest
    | '^' :: rest =>
      match rest with
      | '*' :: _ => .error .repeatedStart
      | '+' :: _ => .error .repeatedStart
      | rest => readOn (.anchor .textStart) rest
    | '$' :: rest => readOn (.anchor .textEnd) rest
    | c :: rest => if ['*', '+', '?'].contains c then .error .noOperand else readOn (.char c) rest

/-- The pattern that a text writes. -/
def read (source : Octets) : Except Defect Pattern :=
  let s := source.toList
  if s.isEmpty then .ok ⟨source, .nothing⟩
  else (readBranches (s.length + 1) 0 none none s).map fun r => ⟨source, r.1⟩

/-- How texts are searched. -/
def manner : Regex.Manner := ⟨false, false⟩

/-- The end of the longest match at a place. -/
def endAt? (p : Pattern) (t : Array Char) (i : Nat) : Option Nat := (p.regex.ends manner t i).max?

/-- Whether a pattern occurs in a text. -/
def occursIn (p : Pattern) (s : Octets) : Bool :=
  let t := s.toList.toArray
  (List.range (t.size + 1)).any fun i => (p.endAt? t i).isSome

/-- The first match from a place on: where it starts and ends. -/
def find? (p : Pattern) (t : Array Char) (start : Nat) : Option (Nat × Nat) :=
  (List.range (t.size + 1 - start)).findSome? fun n => (p.endAt? t (start + n)).map (start + n, ·)

/-- The first match from a place on that is not empty. -/
def findFilled? (p : Pattern) (t : Array Char) (start : Nat) : Option (Nat × Nat) :=
  (List.range (t.size - start)).findSome? fun n =>
    (p.endAt? t (start + n)).bind fun e => if start + n < e then some (start + n, e) else none

end Pattern

/-! ## Fields and records -/

/-- What stands between fields or records. -/
inductive Separator
  | blanks
  | nothing
  | char (c : Char)
  | pattern (p : Pattern)
  deriving DecidableEq, Repr

namespace Separator

/-- The separator that a text stands for. -/
def read (s : Octets) : Except Pattern.Defect Separator :=
  match s.toList with
  | [] => .ok .nothing
  | [' '] => .ok .blanks
  | [c] => .ok (.char c)
  | _ => (Pattern.read s).map .pattern

/-- The words between white space. -/
def words (s : List Char) : List Octets :=
  let (last, done) := s.foldl (fun (word, done) c =>
    if Numeral.isSpace c then (if word.isEmpty then ([], done) else ([], String.ofList word.reverse :: done))
    else (c :: word, done)) (([] : List Char), ([] : List Octets))
  (if last.isEmpty then done else String.ofList last.reverse :: done).reverse

/-- The parts of a text from a place on between matches. The fuel bounds their count. -/
def cutFrom (p : Pattern) (t : Array Char) : Nat → Nat → List Octets
  | 0, _ => []
  | fuel + 1, i =>
    match p.findFilled? t i with
    | some (a, b) => String.ofList (t.extract i a).toList :: cutFrom p t fuel b
    | none => [String.ofList (t.extract i t.size).toList]

/-- The fields of a text. -/
def cut (k : Separator) (s : Octets) : List Octets :=
  if s.isEmpty then []
  else
    match k with
    | .blanks => words s.toList
    | .nothing => s.toList.map Char.toString
    | .char c => (Text.cut c s.toList).map String.ofList
    | .pattern p =>
      let t := s.toList.toArray
      cutFrom p t (t.size + 2) 0

/-- What a look for the end of a record brings. -/
inductive Look
  | record (s : Octets) (rest : List Char)
  /-- Nothing can be told before more is read. -/
  | unclear
  | nothing

/-- The first record of what was read and not used yet. `isAll` says that nothing follows. -/
def nextRecord (k : Separator) (held : List Char) (isAll : Bool) : Look :=
  let whole (s : List Char) : Look := if s.isEmpty then .nothing else .record (String.ofList s) []
  let byChar (c : Char) : Look :=
    let front := held.takeWhile (· != c)
    match held.drop front.length with
    | _ :: rest => .record (String.ofList front) rest
    | [] => if isAll then whole held else .unclear
  match k with
  | .blanks => byChar ' '
  | .char c => byChar c
  | .nothing =>
    let body := held.dropWhile (· == '\n')
    let front := paragraph body
    let rest := body.drop front.length
    let gap := rest.takeWhile (· == '\n')
    if !isAll && (rest.drop gap.length).isEmpty then .unclear
    else whole front |> fun
      | .record s _ => .record s (rest.drop gap.length)
      | l => l
  | .pattern p =>
    let t := held.toArray
    match p.findFilled? t 0 with
    | some (a, b) =>
      if !isAll && b = t.size then .unclear
      else .record (String.ofList (t.extract 0 a).toList) (t.extract b t.size).toList
    | none => if isAll then whole held else .unclear
where
  /-- The lines up to the first empty one, without the end of the last one. -/
  paragraph : List Char → List Char
    | [] => []
    | ['\n'] => []
    | '\n' :: '\n' :: _ => []
    | c :: rest => c :: paragraph rest

end Separator

/-! ## Replacement -/

/-- What a replacement makes of a match: the match in the place of each mark without a backslash. -/
def replaced (found : List Char) : List Char → List Char
  | '\\' :: '\\' :: '&' :: rest => '\\' :: found ++ replaced found rest
  | '\\' :: '\\' :: '\\' :: '&' :: rest => '\\' :: '&' :: replaced found rest
  | '\\' :: '&' :: rest => '&' :: replaced found rest
  | '&' :: rest => found ++ replaced found rest
  | c :: rest => c :: replaced found rest
  | [] => []

/-- A text in which matches from a place on are replaced, and how many there were. `isAfter` says that a match ended at this
place. The fuel bounds the steps. -/
def replaceFrom (p : Pattern) (replacement : List Char) (isGlobal : Bool) (t : Array Char) :
    Nat → Nat → Bool → List Char × Nat
  | 0, i, _ => ((t.extract i t.size).toList, 0)
  | fuel + 1, i, isAfter =>
    match p.find? t i with
    | none => ((t.extract i t.size).toList, 0)
    | some (a, b) =>
      let front := (t.extract i a).toList
      if a = b && a = i && isAfter then
        if t.size ≤ i then ([], 0)
        else
          let (rest, n) := replaceFrom p replacement isGlobal t fuel (i + 1) false
          ((t.extract i (i + 1)).toList ++ rest, n)
      else
        let new := replaced (t.extract a b).toList replacement
        if !isGlobal then (front ++ new ++ (t.extract b t.size).toList, 1)
        else if a = b then
          if t.size ≤ a then (front ++ new, 1)
          else
            let (rest, n) := replaceFrom p replacement isGlobal t fuel (a + 1) false
            (front ++ new ++ (t.extract a (a + 1)).toList ++ rest, n + 1)
        else
          let (rest, n) := replaceFrom p replacement isGlobal t fuel b true
          (front ++ new ++ rest, n + 1)

/-- A text in which the first match is replaced, or all of them, and how many there were. -/
def replace (p : Pattern) (replacement : Octets) (isGlobal : Bool) (s : Octets) : Octets × Nat :=
  let t := s.toList.toArray
  let (new, n) := replaceFrom p replacement.toList isGlobal t (t.size + 2) 0 false
  (String.ofList new, n)

end ElmAssay.Machine.Rules
