import ElmAssay.Machine.Regex
import ElmAssay.Machine.Utility.Basic

/-!
# Translation of bytes

A program that replaces, deletes and squeezes single bytes (`tr`).
-/

/-!
## Sets of bytes

A set of bytes is written with escapes, ranges, classes, and repetitions (`ByteSet.read`). Two of them make a translation
(`Translation.check`, `Translation.table`): each member of the first one goes to the member of the second one at its
place. A class of large or small letters in the second one has to stand where such a class stands in the first one.
-/

namespace ElmAssay.Machine

open Text

namespace ByteSet

/-- A part of a set. -/
inductive Item
  | char (c : Char)
  | range (first last : Char)
  | named (k : NamedClass)
  /-- The characters that count as equal to one, which is this one alone. -/
  | equal (c : Char)
  /-- A character so often, or often enough to fill the set if there is no count. -/
  | repeated (c : Char) (count : Option Nat)
  deriving DecidableEq, Repr

/-- What can be wrong with sets. -/
inductive Defect
  | noClass
  | noEqual
  | unknownClass (name : List Char)
  | longEqual (text : List Char)
  | badCount (text : List Char)
  | backward (first last : Char)
  | fillsFirst
  | fillsTwice
  | fillsUnused
  | equalAsTarget
  | classAsTarget
  | misaligned
  | noTarget
  | endsInClass
  | severalTargets
  deriving DecidableEq, Repr

/-- A byte as messages show it. -/
def shownByte (c : Char) : List Char :=
  match c with
  | '\\' => ['\\', '\\']
  | '\n' => ['\\', 'n']
  | '\t' => ['\\', 't']
  | '\r' => ['\\', 'r']
  | c =>
    let n := c.toNat
    match [(7, 'a'), (8, 'b'), (11, 'v'), (12, 'f')].lookup n with
    | some letter => ['\\', letter]
    | none =>
      if 32 ≤ n && n < 127 then [c]
      else '\\' :: (Numeral.padLeft '0' 3 (String.ofList (Numeral.digitsIn 8 n))).toList

/-- A text as messages show it. -/
def shownText (s : List Char) : Octets := String.ofList (s.flatMap shownByte)

/-- The wording of a defect. -/
def Defect.message : Defect → Octets
  | noClass => "missing character class name '[::]'"
  | noEqual => "missing equivalence class character '[==]'"
  | unknownClass name =>
    let shown := Shown.marked (shownText name)
    s!"invalid character class {shown}"
  | longEqual text =>
    let shown := shownText text
    s!"{shown}: equivalence class operand must be a single character"
  | badCount text =>
    let shown := Shown.marked (shownText text)
    s!"invalid repeat count {shown} in [c*n] construct"
  | backward first last =>
    let a := shownText [first]
    let b := shownText [last]
    s!"range-endpoints of '{a}-{b}' are in reverse collating sequence order"
  | fillsFirst => "the [c*] repeat construct may not appear in string1"
  | fillsTwice => "only one [c*] repeat construct may appear in string2"
  | fillsUnused => "the [c*] construct may appear in string2 only when translating"
  | equalAsTarget => "[=c=] expressions may not appear in string2 when translating"
  | classAsTarget =>
    "when translating, the only character classes that may appear in\nstring2 are 'upper' and 'lower'"
  | misaligned => "misaligned [:upper:] and/or [:lower:] construct"
  | noTarget => "when not truncating set1, string2 must be non-empty"
  | endsInClass =>
    "when translating with string1 longer than string2,\nthe latter string must not end with a character class"
  | severalTargets =>
    "when translating with complemented character classes,\nstring2 must map all characters in the domain to one"

/-- A character of a set, and whether a backslash stood in front of it, which takes its meaning away. -/
abbrev Mark := Char × Bool

/-- The characters of the text of a set, and what there is to warn of. The fuel bounds their count. -/
def marks : Nat → List Char → List Mark × List Octets
  | 0, _ => ([], [])
  | _, [] => ([], [])
  | fuel + 1, c :: s =>
    let go (c : Char) (escaped : Bool) (rest : List Char) (warnings : List Octets) : List Mark × List Octets :=
      let (ms, ws) := marks fuel rest
      ((c, escaped) :: ms, warnings ++ ws)
    if c != '\\' then go c false s []
    else
      let three := (s.take 3).takeWhile (Numeral.isDigitIn 8)
      match s with
      | [] => go '\\' false [] ["warning: an unescaped backslash at end of string is not portable"]
      | d :: rest =>
        if three.isEmpty then
          let known := ['a', 'b', 'f', 'n', 'r', 't', 'v', '\\']
          let values := [7, 8, 12, 10, 13, 9, 11, 92]
          go (((known.zip values).lookup d).map Char.ofNat |>.getD d) true rest []
        else if Numeral.valueIn 8 three < 256 then
          go (Char.ofNat (Numeral.valueIn 8 three)) true (s.drop three.length) []
        else
          let all := String.ofList three
          let two := String.ofList (three.take 2)
          let last := String.ofList (three.drop 2)
          go (Char.ofNat (Numeral.valueIn 8 (three.take 2))) true (s.drop 2)
            [s!"warning: the ambiguous octal escape \\{all} is being\n\tinterpreted as the 2-byte sequence \\0{two}, {last}"]

/-- Whether characters begin with one that has its meaning. -/
def starts (c : Char) (s : List Mark) : Bool := s.head? == some (c, false)

/-- What stands before a mark with a bracket behind it, and what stands behind both. -/
def untilClosing (c : Char) : List Mark → Option (List Char × List Mark)
  | [] => none
  | m :: rest =>
    if m = (c, false) ∧ starts ']' rest then some ([], rest.drop 1)
    else (untilClosing c rest).map fun (inner, after) => (m.1 :: inner, after)

/-- Whether characters are a star, digits, and a closing bracket. -/
def isStarred (s : List Mark) : Bool :=
  starts '*' s && starts ']' ((s.drop 1).dropWhile fun m => isAsciiDigit m.1)

/-- A repetition at the front of characters that a bracket opened. -/
def readRepeated : List Mark → Except Defect (Option (Item × List Mark))
  | (c, _) :: ('*', false) :: rest =>
    let inner := rest.takeWhile fun m => m.1 != ']' && !m.2
    match rest.drop inner.length with
    | (']', false) :: after =>
      let digits := inner.map Prod.fst
      let base := if digits.head? = some '0' then 8 else 10
      let isSigned := digits.head? = some '+'
      let bare := if isSigned then digits.drop 1 else digits
      if digits.isEmpty then .ok (some (.repeated c none, after))
      else if bare.isEmpty || !bare.all (Numeral.isDigitIn base) || 2 ^ 64 ≤ Numeral.valueIn base bare then
        .error (.badCount digits)
      else
        let n := Numeral.valueIn base bare
        .ok (some (.repeated c (if n = 0 then none else some n), after))
    | _ => .ok none
  | _ => .ok none

/-- A class at the front of characters that a bracket opened; a mark stands at both of its ends. -/
def readClass (s : List Mark) : Except Defect (Option (Item × List Mark)) :=
  match s with
  | (':', false) :: rest =>
    match untilClosing ':' rest with
    | none => .ok none
    | some (name, after) =>
      if name.isEmpty then .error .noClass
      else
        match NamedClass.table.lookup (String.ofList name) with
        | some k => .ok (some (.named k, after))
        | none => if isStarred rest then .ok none else .error (.unknownClass name)
  | ('=', false) :: rest =>
    match untilClosing '=' rest with
    | none => .ok none
    | some ([], _) => .error .noEqual
    | some ([c], after) => .ok (some (.equal c, after))
    | some (text, _) => if isStarred rest then .ok none else .error (.longEqual text)
  | _ => .ok none

/-- The parts of a set. The fuel bounds their count. -/
def readItems : Nat → List Mark → Except Defect (List Item)
  | 0, _ => .ok []
  | fuel + 1, s =>
    let go (item : Item) (rest : List Mark) : Except Defect (List Item) := (readItems fuel rest).map (item :: ·)
    match s with
    | [] => .ok []
    | m :: n :: o :: rest => do
      let found ←
        if m = ('[', false) then
          match ← readClass (n :: o :: rest) with
          | some found => pure (some found)
          | none => readRepeated (n :: o :: rest)
        else pure none
      match found with
      | some (item, rest) => go item rest
      | none =>
        if n = ('-', false) then
          if o.1 < m.1 then .error (.backward m.1 o.1) else go (.range m.1 o.1) rest
        else go (.char m.1) (n :: o :: rest)
    | m :: rest => go (.char m.1) rest

/-- The parts of a set by its text, and what there is to warn of. -/
def read (s : Octets) : List Octets × Except Defect (List Item) :=
  let (ms, warnings) := marks s.length s.toList
  (warnings, readItems (ms.length + 1) ms)

/-- The bytes. -/
def allBytes : List Char := (List.range 256).map Char.ofNat

/-- The members of a part of a set. `missing` is how many members fill the set. -/
def Item.members (missing : Nat) : Item → List Char
  | char c => [c]
  | equal c => [c]
  | range a b => (List.range (b.toNat + 1 - a.toNat)).map fun i => Char.ofNat (a.toNat + i)
  | named k => allBytes.filter k.hasNarrow
  | repeated c count => List.replicate (count.getD missing) c

/-- Whether a part of a set is there to fill it. -/
def Item.isFilling : Item → Bool
  | repeated _ none => true
  | _ => false

/-- The members of a set. -/
def members (items : List Item) : List Char := items.flatMap (Item.members 0)

/-- The members of the set that has all other bytes. -/
def others (items : List Item) : List Char :=
  let given := (members items).foldl (fun (t : Array Bool) c => t.set! c.toNat true) (Array.replicate 256 false)
  allBytes.filter fun c => !given.getD c.toNat false

/-- Which bytes are in a list. -/
def table (cs : List Char) : Array Bool := cs.foldl (fun t c => t.set! c.toNat true) (Array.replicate 256 false)

end ByteSet

/-- A translation: the sets, whether the first one has all other bytes, and whether what the second one has no member for
stays as it is. -/
structure Translation where
  source : List ByteSet.Item
  target : List ByteSet.Item
  isComplement : Bool
  isShortened : Bool

namespace Translation

open ByteSet

/-- A class whose letters have partners. -/
inductive Case
  | upper
  | lower
  deriving DecidableEq, Repr

/-- A member of a set with the class it is in, and whether it is the first member of its part. -/
structure Place where
  char : Char
  case? : Option Case
  isFirst : Bool

/-- The class of letters with partners that a part is. -/
def caseOf : Item → Option Case
  | .named .upper => some .upper
  | .named .lower => some .lower
  | _ => none

/-- The members of parts in order. -/
def places (length : Nat) (items : List Item) : List Place :=
  let missing := length - (members items).length
  items.flatMap fun i =>
    match i.members missing with
    | [] => []
    | c :: cs => ⟨c, caseOf i, true⟩ :: cs.map fun c => ⟨c, caseOf i, false⟩

/-- The places behind the part that the first one is in. -/
def nextPart (ps : List Place) : List Place := (ps.drop 1).dropWhile (!·.isFirst)

/-- How many letters too many classes have that stand for one place, in both sets; `none` if a class of the second set
does not stand at one of the first set. The fuel bounds the places. -/
def surplus : Nat → List Place → List Place → Option (Nat × Nat)
  | 0, _, _ => some (0, 0)
  | _, _, [] => some (0, 0)
  | fuel + 1, ps, q :: qs =>
    match ps with
    | [] => if q.isFirst && q.case?.isSome then none else some (0, 0)
    | p :: rest =>
      if q.case?.isNone then surplus fuel rest qs
      else if q.isFirst && !(p.isFirst && p.case?.isSome) then none
      else
        let left := nextPart (p :: rest)
        let right := nextPart (q :: qs)
        (surplus fuel left right).map fun (a, b) =>
          (a + (rest.length - left.length), b + (qs.length - right.length))

/-- The length of the first set. -/
def sourceLength (t : Translation) : Nat := if t.isComplement then (others t.source).length else (members t.source).length

/-- The places of the second set. -/
def targets (t : Translation) : List Place := places t.sourceLength t.target

/-- What is wrong with a translation, if something is. -/
def check (t : Translation) : Except Defect Translation := do
  if t.source.any Item.isFilling then throw .fillsFirst
  if 1 < (t.target.filter Item.isFilling).length then throw .fillsTwice
  let isEqual : Item → Bool
    | .equal _ => true
    | _ => false
  let isClass : Item → Bool
    | .named _ => true
    | _ => false
  if t.target.any isEqual then throw .equalAsTarget
  if t.target.any fun i => isClass i && (caseOf i).isNone then throw .classAsTarget
  let length := t.sourceLength
  let qs := t.targets
  let (a, b) ←
    if t.isComplement || !t.target.any isClass then pure (0, 0)
    else
      match surplus (qs.length + 1) (places 0 t.source) qs with
      | some found => pure found
      | none => throw .misaligned
  if qs.length - b < length - a && !t.isShortened then
    if qs.length = 0 then throw .noTarget
    if (t.target.getLast?).any isClass then throw .endsInClass
  let fits := if t.isShortened then qs.length = length else qs.length ≤ length
  let isOne := qs.all fun q => some q.char == qs.head?.map (·.char)
  if t.isComplement && t.source.any isClass && !(fits && isOne) then throw .severalTargets
  return t

/-- The byte that each byte goes to, after some pairs of places. The fuel bounds the places. -/
def pair (last : Option Char) : Nat → List Place → List Place → Array Char → Array Char
  | 0, _, _, done => done
  | _, [], _, done => done
  | fuel + 1, p :: ps, qs, done =>
    match qs with
    | [] =>
      match last with
      | some c => pair last fuel ps [] (done.set! p.char.toNat c)
      | none => done
    | q :: rest =>
      let done :=
        match p.case?, q.case? with
        | some .lower, some .upper => allBytes.foldl (fun t c => if c.isLower then t.set! c.toNat c.toUpper else t) done
        | some .upper, some .lower => allBytes.foldl (fun t c => if c.isUpper then t.set! c.toNat c.toLower else t) done
        | _, _ => done.set! p.char.toNat q.char
      if q.case?.isSome then pair last fuel (nextPart (p :: ps)) (nextPart (q :: rest)) done
      else pair last fuel ps rest done

/-- The byte that each byte goes to. -/
def table (t : Translation) : Array Char :=
  let qs := t.targets
  let last := if t.isShortened then none else (qs.getLast?).map (·.char)
  let ps := if t.isComplement then (others t.source).map (⟨·, none, true⟩) else places 0 t.source
  let qs := if t.isComplement then qs.map ({ · with case? := none }) else qs
  pair last (ps.length + 1) ps qs allBytes.toArray

end Translation
end ElmAssay.Machine

/-! ## The program -/

namespace ElmAssay.Machine.Utility

open Text Work

/-- A text in which runs of some characters are single ones. `last` is the character before it. -/
def squeeze (test : Char → Bool) : Option Char → List Char → List Char
  | _, [] => []
  | last, c :: cs => if some c = last && test c then squeeze test last cs else c :: squeeze test (some c) cs

/-- What is done to each byte: whether it is left out, what it becomes, and whether several of it become one. -/
structure ByteChange where
  isDeleted : Option (Array Bool)
  becomes : Option (Array Char)
  isSqueezed : Option (Array Bool)

namespace ByteChange

/-- A text after a change, and the last character of it or of what stood before it. -/
def apply (change : ByteChange) (last : Option Char) (s : Octets) : Octets × Option Char :=
  let isIn (t : Array Bool) (c : Char) : Bool := t.getD c.toNat false
  let cs := s.toList
  let cs :=
    match change.isDeleted with
    | some t => cs.filter fun c => !isIn t c
    | none => cs
  let cs :=
    match change.becomes with
    | some t => cs.map fun c => t.getD c.toNat c
    | none => cs
  match change.isSqueezed with
  | none => (String.ofList cs, none)
  | some t =>
    let cs := squeeze (isIn t) last cs
    (String.ofList cs, cs.getLast?.or last)

end ByteChange

/-- Reads a set that an operand writes. -/
def byteSetOf (text : Octets) : Work (List ByteSet.Item) := do
  let (warnings, result) := ByteSet.read text
  for warning in warnings do warn warning
  match result with
  | .ok items => return items
  | .error d => Work.fail 1 d.message

/-- Tells that there are too few or too many operands. -/
def failOperands {α : Type} (message : Octets) (advice : Option Octets) : Work α := do
  warn message
  match advice with
  | some line => say (line ++ "\n")
  | none => pure ()
  let name := (← get).name
  say s!"Try '{name} --help' for more information.\n"
  quit 1

/-- Translates, deletes and squeezes bytes. -/
def tr : Utility := fun _ call => complete call.name do
  let options ← Arguments.readInOrder
    [.flag 'c' "complement", .flag 'C' "", .flag 'd' "delete", .flag 's' "squeeze-repeats", .flag 't' "truncate-set1",
     .flag 'A' ""] 1 call.arguments
  let isComplement := options.has 'c' || options.has 'C'
  let deletes := options.has 'd'
  let squeezes := options.has 's'
  let needed := if deletes == squeezes then 2 else 1
  let most := if deletes && !squeezes then 1 else 2
  match options.operands, options.operands[most]? with
  | [], _ => failOperands "missing operand" none
  | given, extra =>
    if given.length < needed then
      let shown := Shown.marked ((given.getLast?).getD "")
      failOperands s!"missing operand after {shown}" <| some
        (if squeezes then "Two strings must be given when both deleting and squeezing repeats."
          else "Two strings must be given when translating.")
    match extra with
    | none => pure ()
    | some extra =>
      let shown := Shown.marked extra
      failOperands s!"extra operand {shown}" <|
        if given.length = 2 then some "Only one string may be given when deleting without squeezing repeats." else none
  let first ← byteSetOf ((options.operands[0]?).getD "")
  let hasSecond := 1 < options.operands.length
  let second ← byteSetOf ((options.operands[1]?).getD "")
  let translates := hasSecond && !deletes
  let chosen := ByteSet.table (if isComplement then ByteSet.others first else ByteSet.members first)
  let also := ByteSet.table (ByteSet.members second)
  let change : ByteChange ←
    if translates then
      match (Translation.mk first second isComplement (options.has 't')).check with
      | .error d => Work.fail 1 d.message
      | .ok t => pure ⟨none, some t.table, if squeezes then some (ByteSet.table (t.targets.map (·.char))) else none⟩
    else if first.any ByteSet.Item.isFilling then Work.fail 1 ByteSet.Defect.fillsFirst.message
    else if 1 < (second.filter ByteSet.Item.isFilling).length then Work.fail 1 ByteSet.Defect.fillsTwice.message
    else if second.any ByteSet.Item.isFilling then Work.fail 1 ByteSet.Defect.fillsUnused.message
    else if !deletes then pure ⟨none, none, some chosen⟩
    else pure ⟨some chosen, none, if squeezes then some also else none⟩
  let rec work : Nat → Option Char → Work Unit
    | 0, _ => return
    | fuel + 1, last => do
      match ← ask (.read 0 Routine.blockSize) with
      | .error r => complain s!"read error: {r.wording}"
      | .ok data =>
        if data.isEmpty then return
        let (text, last) := change.apply last data
        emit text
        work fuel last
  work 1000000000 none

end ElmAssay.Machine.Utility
