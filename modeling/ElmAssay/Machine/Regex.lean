import ElmAssay.Machine.Octets
import ElmAssay.Text.Classes
import ElmAssay.Text.Upper

/-!
# Regular expressions

Regular expressions with groups, references back to them and anchors (`Regex`), over texts of wide characters. Of the
matches that start at the first possible place the longest one counts (`Regex.find?`): the places where a match can end
are computed as a set (`ends`), and the groups of the longest match are those of the first way to reach its end, where
a repetition takes as much as it can (`trace`).
-/

namespace ElmAssay.Machine

open Text

/-- A class of characters by name. -/
inductive NamedClass
  | alpha
  | digit
  | alnum
  | upper
  | lower
  | space
  | blank
  | punct
  | print
  | graph
  | cntrl
  | xdigit
  deriving DecidableEq, Repr

namespace NamedClass

/-- The classes by their names. -/
def table : List (String × NamedClass) :=
  [("alpha", alpha), ("digit", digit), ("alnum", alnum), ("upper", upper), ("lower", lower), ("space", space),
   ("blank", blank), ("punct", punct), ("print", print), ("graph", graph), ("cntrl", cntrl), ("xdigit", xdigit)]

/-- Whether a character of the first 128 code points is in a class. -/
def hasNarrow (k : NamedClass) (c : Char) : Bool :=
  let visible := 33 ≤ c.toNat && c.toNat ≤ 126
  match k with
  | alpha => c.isAlpha
  | digit => isAsciiDigit c
  | alnum => c.isAlphanum
  | upper => c.isUpper
  | lower => c.isLower
  | space => c == ' ' || (9 ≤ c.toNat && c.toNat ≤ 13)
  | blank => c == ' ' || c == '\t'
  | punct => visible && !c.isAlphanum
  | print => visible || c == ' '
  | graph => visible
  | cntrl => c.toNat < 32 || c.toNat == 127
  | xdigit => isAsciiDigit c || ('a' ≤ c && c ≤ 'f') || ('A' ≤ c && c ≤ 'F')

/-- Whether a character above the first 128 code points is in a class. -/
def hasWide (k : NamedClass) (c : Char) : Bool :=
  let raised := upperChar c
  match k with
  | alpha => isWord c
  | alnum => isWord c
  | lower => isWord c && raised != [c]
  | upper => isWord c && raised == [c]
  | punct => !isWord c
  | print => true
  | graph => true
  | _ => false

/-- Whether a character is in a class. -/
def has (k : NamedClass) (c : Char) : Bool :=
  if c.toNat < 128 then k.hasNarrow c else c.toNat < Octets.strayBase && k.hasWide c

end NamedClass

/-- A member of a class in brackets. -/
inductive Member
  | range (first last : Char)
  | named (k : NamedClass)
  deriving DecidableEq, Repr

namespace Member

/-- Whether a character is a member. -/
def has (c : Char) : Member → Bool
  | range first last => first ≤ c && c ≤ last
  | named k => k.has c

end Member

/-- A class in brackets. -/
structure CharSet where
  negated : Bool
  members : List Member
  deriving DecidableEq, Repr

namespace CharSet

/-- Whether a character is in a class. -/
def has (s : CharSet) (c : Char) : Bool := (s.members.any (Member.has c)) != s.negated

/-- The other case of a character, if it has one of the first 128 code points. -/
def otherCase (c : Char) : Char := if c.isUpper then c.toLower else if c.isLower then c.toUpper else c

/-- Whether a character is in a class, perhaps in its other case. -/
def hasIn (ignoresCase : Bool) (s : CharSet) (c : Char) : Bool :=
  if ignoresCase then (s.members.any fun m => m.has c || m.has (otherCase c)) != s.negated else s.has c

/-- The end of a name between a bracket and a mark, as in the name of a class. -/
def untilMark (mark : Char) : List Char → Option (List Char × List Char)
  | c :: ']' :: s => if c = mark then some ([], s) else (untilMark mark (']' :: s)).map fun p => (c :: p.1, p.2)
  | c :: s => (untilMark mark s).map fun p => (c :: p.1, p.2)
  | [] => none

/-- One end of a range, or a class by name, at the front of a text. -/
def readItem (s : List Char) : Option ((Char ⊕ NamedClass) × List Char) :=
  match s with
  | '[' :: mark :: r =>
    if mark = ':' ∨ mark = '.' ∨ mark = '=' then
      match untilMark mark r with
      | none => none
      | some (name, rest) =>
        if mark = ':' then (NamedClass.table.lookup (String.ofList name)).map fun k => (.inr k, rest)
        else
          match name with
          | [c] => some (.inl c, rest)
          | _ => none
    else some (.inl '[', mark :: r)
  | c :: r => some (.inl c, r)
  | [] => none

/-- The members up to the closing bracket, which is a member itself in the first place. The fuel bounds their count. -/
def readMembers : Nat → Bool → List Char → Option (List Member × List Char)
  | 0, _, _ => none
  | fuel + 1, first, s =>
    match s with
    | [] => none
    | ']' :: r => if first then readAfter fuel (.inl ']') r else some ([], r)
    | s => (readItem s).bind fun p => readAfter fuel p.1 p.2
where
  /-- The members from one on that was read in part. -/
  readAfter (fuel : Nat) (item : Char ⊕ NamedClass) (rest : List Char) : Option (List Member × List Char) :=
    let continued (m : Member) (rest : List Char) := (readMembers fuel false rest).map fun p => (m :: p.1, p.2)
    match item, rest with
    | .inr k, rest => continued (.named k) rest
    | .inl a, '-' :: ']' :: r => (some ([.range a a, .range '-' '-'], r))
    | .inl a, '-' :: r =>
      match readItem r with
      | some (.inl b, rest) => continued (.range a b) rest
      | _ => none
    | .inl a, rest => continued (.range a a) rest

/-- The class after an opening bracket, which these characters negate in the first place. -/
def read (negations : List Char) (s : List Char) : Option (CharSet × List Char) :=
  let negated := s.head?.any negations.contains
  let body := if negated then s.drop 1 else s
  (readMembers (body.length + 1) true body).map fun p => (⟨negated, p.1⟩, p.2)

end CharSet

/-- The places that an anchor matches. -/
inductive Anchor
  | lineStart
  | lineEnd
  | textStart
  | textEnd
  | wordStart
  | wordEnd
  | wordEdge
  | noWordEdge
  | noWordBefore
  | noWordAfter
  deriving DecidableEq, Repr

/-- How a text is searched. -/
structure Regex.Manner where
  ignoresCase : Bool
  /-- Whether line feeds inside of the text part lines for the anchors. -/
  manyLines : Bool
  deriving DecidableEq, Repr

namespace Anchor

/-- A character of a word. -/
def isWordChar (c : Char) : Bool := c == '_' || NamedClass.alnum.has c

/-- Whether the character in front of a place belongs to a word. -/
def wordBefore (t : Array Char) (i : Nat) : Bool := i != 0 && (t[i - 1]?).any isWordChar

/-- Whether the character behind a place belongs to a word. -/
def wordAfter (t : Array Char) (i : Nat) : Bool := (t[i]?).any isWordChar

/-- Whether an anchor matches at a place. -/
def holds (m : Regex.Manner) (t : Array Char) (i : Nat) : Anchor → Bool
  | .lineStart => i == 0 || (m.manyLines && t[i - 1]? == some '\n')
  | .lineEnd => i == t.size || (m.manyLines && t[i]? == some '\n')
  | .textStart => i == 0
  | .textEnd => i == t.size
  | .wordStart => !wordBefore t i && wordAfter t i
  | .wordEnd => wordBefore t i && !wordAfter t i
  | .wordEdge => wordBefore t i != wordAfter t i
  | .noWordEdge => wordBefore t i == wordAfter t i
  | .noWordBefore => !wordBefore t i
  | .noWordAfter => !wordAfter t i

end Anchor

/-- A regular expression. -/
inductive Regex
  | nothing
  | char (c : Char)
  | any
  | set (s : CharSet)
  | anchor (a : Anchor)
  | both (first second : Regex)
  | either (left right : Regex)
  /-- At least so many times, and at most so many if there is a limit. -/
  | repeated (body : Regex) (least : Nat) (most : Option Nat)
  | group (n : Nat) (body : Regex)
  | back (n : Nat)
  /-- A place in front of which or behind which something matches, or does not. -/
  | look (isAhead isNegated : Bool) (body : Regex)
  /-- A repetition that rather ends than goes on. -/
  | reluctant (body : Regex) (least : Nat) (most : Option Nat)
  /-- Matches in the first way only. -/
  | atomic (body : Regex)
  /-- Leaves out of the match what comes before. -/
  | keep
  /-- Matches in a manner of its own. -/
  | within (m : Regex.Manner) (body : Regex)
  deriving DecidableEq, Repr

namespace Regex

/-- What the groups matched, by number: from where up to where. -/
abbrev Groups := List (Nat × Nat × Nat)

/-- Whether two characters count as the same. -/
def Manner.same (m : Manner) (a b : Char) : Bool :=
  a == b || (m.ignoresCase && (CharSet.otherCase a == b || (128 ≤ a.toNat && upperChar a == upperChar b)))

/-- Whether a character is matched by the point. -/
def isAny (c : Char) : Bool := c.toNat < Octets.strayBase

/-- Places without repetitions, none of which is behind the last one. -/
def distinct (last : Nat) (places : List Nat) : List Nat :=
  let note (acc : Array Bool × List Nat) (i : Nat) : Array Bool × List Nat :=
    if acc.1.getD i true then acc else (acc.1.set! i true, i :: acc.2)
  (places.foldl note (Array.replicate (last + 1) false, [])).2

/-- The length of the run of characters that pass a test, up to a limit. -/
def runLength (t : Array Char) (test : Char → Bool) : Nat → Nat → Nat
  | 0, _ => 0
  | limit + 1, i => if (t[i]?).any test then runLength t test limit (i + 1) + 1 else 0

/-- The places that steps lead to from some places: at least so many steps, and at most `most`. The fuel bounds the
steps that lead to new places. -/
def spread (last : Nat) (step : Nat → List Nat) : Nat → Nat → Option Nat → List Nat → List Nat
  | 0, _, _, places => places
  | fuel + 1, least, most, places =>
    if most = some 0 then (if least = 0 then places else [])
    else
      let next := distinct last (places.flatMap step)
      match least with
      | least + 1 => if next.isEmpty then [] else spread last step fuel least (most.map (· - 1)) next
      | 0 =>
        let fresh := next.filter fun n => !places.contains n
        if fresh.isEmpty then places else spread last step fuel 0 (most.map (· - 1)) (places ++ fresh)

/-- The place behind a character that passes a test. -/
def oneAt (t : Array Char) (i : Nat) (test : Char → Bool) : List Nat := if (t[i]?).any test then [i + 1] else []

/-- The test of an expression that matches single characters. -/
def single? (m : Manner) : Regex → Option (Char → Bool)
  | char c => some (m.same c)
  | any => some isAny
  | set s => some (s.hasIn m.ignoresCase)
  | _ => none

/-- The places where a match from a place can end, if there are no references back and nothing that looks around. -/
def ends (m : Manner) (t : Array Char) : Regex → Nat → List Nat
  | nothing, i => [i]
  | char c, i => oneAt t i (m.same c)
  | any, i => oneAt t i isAny
  | set s, i => oneAt t i (s.hasIn m.ignoresCase)
  | anchor a, i => if a.holds m t i then [i] else []
  | both a b, i => distinct t.size ((ends m t a i).flatMap (ends m t b))
  | either a b, i => distinct t.size (ends m t a i ++ ends m t b i)
  | repeated r least most, i =>
    match r.single? m with
    | some test =>
      let n := runLength t test (most.getD t.size) i
      if n < least then [] else (List.range (n + 1 - least)).map fun k => i + least + k
    | none => spread t.size (ends m t r) (t.size + least + 1) least most [i]
  | group _ r, i => ends m t r i
  | _, _ => []

/-- Whether there are parts whose ends depend on more than the place. -/
def isEntangled : Regex → Bool
  | both a b => a.isEntangled || b.isEntangled
  | either a b => a.isEntangled || b.isEntangled
  | repeated r _ _ => r.isEntangled
  | group _ r => r.isEntangled
  | nothing => false
  | char _ => false
  | any => false
  | set _ => false
  | anchor _ => false
  | _ => true

/-- What is found on the way: where a match ends, and its groups. -/
abbrev Way := Option (Nat × Groups)

/-- Repeats a step as often as it can, and less often if what follows asks for it. The fuel bounds the repetitions. -/
def repeatTrace (step : Nat → Groups → (Nat → Groups → Way) → Way)
    (next : Nat → Groups → Way) : Nat → Nat → Option Nat → Nat → Groups → Way
  | 0, _, _, i, gs => next i gs
  | fuel + 1, least, most, i, gs =>
    let more : Way :=
      if most = some 0 then none
      else
        step i gs fun j gs =>
          if j = i && least = 0 then none else repeatTrace step next fuel (least - 1) (most.map (· - 1)) j gs
    match more with
    | some a => some a
    | none => if least = 0 then next i gs else none

/-- Repeats a step as seldom as it can, and more often if what follows asks for it. The fuel bounds the repetitions. -/
def reluctantTrace (step : Nat → Groups → (Nat → Groups → Way) → Way)
    (next : Nat → Groups → Way) : Nat → Nat → Option Nat → Nat → Groups → Way
  | 0, _, _, i, gs => next i gs
  | fuel + 1, least, most, i, gs =>
    match if least = 0 then next i gs else none with
    | some a => some a
    | none =>
      if most = some 0 then none
      else
        step i gs fun j gs =>
          if j = i && least = 0 then none else reluctantTrace step next fuel (least - 1) (most.map (· - 1)) j gs

/-- Whether the characters from one place on are those from another place on. -/
def sameText (m : Manner) (t : Array Char) (i j n : Nat) : Bool :=
  j + n ≤ t.size && (List.range n).all fun k =>
    match t[i + k]?, t[j + k]? with
    | some a, some b => m.same a b
    | _, _ => false

/-- The first way to match from a place on that what follows agrees with. -/
def trace (t : Array Char) : Regex → Manner → Nat → Groups → (Nat → Groups → Way) → Way
  | nothing, _, i, gs, next => next i gs
  | char c, m, i, gs, next => if (t[i]?).any (m.same c) then next (i + 1) gs else none
  | any, _, i, gs, next => if (t[i]?).any isAny then next (i + 1) gs else none
  | set s, m, i, gs, next => if (t[i]?).any (s.hasIn m.ignoresCase) then next (i + 1) gs else none
  | anchor a, m, i, gs, next => if a.holds m t i then next i gs else none
  | both a b, m, i, gs, next => trace t a m i gs fun j gs => trace t b m j gs next
  | either a b, m, i, gs, next =>
    match trace t a m i gs next with
    | some r => some r
    | none => trace t b m i gs next
  | repeated r least most, m, i, gs, next =>
    repeatTrace (fun j gs next => trace t r m j gs next) next (t.size - i + least + 1) least most i gs
  | group n r, m, i, gs, next => trace t r m i gs fun j gs => next j ((n, i, j) :: gs.filter fun g => g.1 != n)
  | back n, m, i, gs, next =>
    match gs.lookup n with
    | some (a, b) => if sameText m t a i (b - a) then next (i + (b - a)) gs else none
    | none => none
  | look isAhead isNegated r, m, i, gs, next =>
    let found : Way :=
      if isAhead then trace t r m i gs fun j gs => some (j, gs)
      else
        (List.range (i + 1)).findSome? fun n =>
          trace t r m (i - n) gs fun j gs => if j = i then some (j, gs) else none
    match found, isNegated with
    | some (_, gs), false => next i gs
    | none, true => next i gs
    | _, _ => none
  | reluctant r least most, m, i, gs, next =>
    reluctantTrace (fun j gs next => trace t r m j gs next) next (t.size - i + least + 1) least most i gs
  | atomic r, m, i, gs, next =>
    match trace t r m i gs fun j gs => some (j, gs) with
    | some (j, gs) => next j gs
    | none => none
  | keep, _, i, gs, next => next i ((0, i, i) :: gs.filter fun g => g.1 != 0)
  | within m r, _, i, gs, next => trace t r m i gs next

/-- The longest match from a place on: its end and its groups. -/
def matchAt? (m : Manner) (r : Regex) (t : Array Char) (i : Nat) : Option (Nat × Groups) :=
  let reach (e : Nat) : Option (Nat × Groups) := trace t r m i [] fun j gs => if j = e then some (j, gs) else none
  if r.isEntangled then ((List.range (t.size + 1 - i)).reverse).findSome? fun n => reach (i + n)
  else (r.ends m t i).max?.bind reach

/-- A match: from where up to where, and what its groups matched. -/
structure Found where
  start : Nat
  stop : Nat
  groups : Groups
  deriving DecidableEq, Repr

/-- The first match from a place on. -/
def find? (m : Manner) (r : Regex) (t : Array Char) (start : Nat) : Option Found :=
  (List.range (t.size + 1 - start)).findSome? fun n =>
    (r.matchAt? m t (start + n)).map fun p => ⟨start + n, p.1, p.2⟩

/-- The first match from a place on in the first way to match there. -/
def findFirst? (m : Manner) (r : Regex) (t : Array Char) (start : Nat) : Option Found :=
  (List.range (t.size + 1 - start)).findSome? fun n =>
    (trace t r m (start + n) [] fun j gs => some (j, gs)).map fun p =>
      ⟨((p.2.lookup 0).map Prod.fst).getD (start + n), p.1, p.2⟩

/-- Whether there is a match in a text. -/
def occursIn (m : Manner) (r : Regex) (s : List Char) : Bool := (r.find? m s.toArray 0).isSome

end Regex
end ElmAssay.Machine
