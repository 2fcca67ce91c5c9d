import ElmAssay.Machine.Difference.Layout
import ElmAssay.Machine.Directive

/-!
# Merged texts

Two texts are written as one by formats: one for each kind of run of lines, and one for each kind of line
(`Merging.textFrom`). A format holds directives for lines, numbers and characters, and may choose between two parts.
-/

namespace ElmAssay.Machine.Difference

/-- The formats of runs and of lines by where the lines are: on both sides, on the left one, on the right one, or, for
runs, changed from one to the other. -/
structure Merging where
  same : Octets
  old : Octets
  new : Octets
  changed : Octets
  sameLine : Octets
  oldLine : Octets
  newLine : Octets

/-- A run: a part of each side, from a place up to another one. -/
structure Stretch where
  left : Nat
  leftEnd : Nat
  right : Nat
  rightEnd : Nat

namespace Merging

/-- What a letter says of a run: the line before it, its first and its last one, the one behind it, or their count; of the
left side if it is small. -/
def letterValue? (r : Stretch) (letter : Char) : Option Int :=
  let (start, stop) := if letter.isUpper then (r.right, r.rightEnd) else (r.left, r.leftEnd)
  match letter.toLower with
  | 'e' => some start
  | 'f' => some (start + 1)
  | 'l' => some stop
  | 'm' => some (stop + 1)
  | 'n' => some (stop - start)
  | _ => none

/-- A character between quotes, which may be given by its code in octal, and what follows. -/
def quotedChar? : List Char → Option (Char × List Char)
  | '\\' :: s =>
    let digits := s.takeWhile (Numeral.isDigitIn 8)
    match s.drop digits.length with
    | '\'' :: rest =>
      if digits.isEmpty || 3 < digits.length then none
      else some (Char.ofNat (Numeral.valueIn 8 digits % 256), rest)
    | _ => none
  | '\'' :: _ => none
  | c :: '\'' :: rest => some (c, rest)
  | _ => none

/-- What a directive for a number or a character stands for, and what follows it. -/
def field? (value? : Char → Option Int) (s : List Char) : Option (Octets × List Char) :=
  let isFlag (c : Char) : Bool := c == '-' || c == '\'' || c == '0'
  let flags := s.takeWhile isFlag
  let isPlain (c : Char) : Bool := c == '.' || c.isAlphanum
  let (d, rest) := Directive.read (flags.filter (· != '\'') ++ s.drop flags.length)
  match (if (s.drop flags.length).head?.any isPlain then rest else []) with
  | 'c' :: '\'' :: rest => (quotedChar? rest).map fun p => (p.1.toString, p.2)
  | letter :: key :: rest =>
    if ['d', 'o', 'x', 'X'].contains letter then (value? key).map fun n => (d.integer letter n, rest) else none
  | _ => none

/-- A line by its format. The fuel bounds the length of the format. -/
def lineText (st : Style) (number : Nat) (l : Line) : Nat → List Char → Octets
  | _, [] => ""
  | 0, _ => ""
  | fuel + 1, '%' :: s =>
    match s with
    | '%' :: s => "%" ++ lineText st number l fuel s
    | 'l' :: s => st.textOf "" l.text ++ lineText st number l fuel s
    | 'L' :: s => st.textOf "" l.text ++ (if l.isOpen then "" else "\n") ++ lineText st number l fuel s
    | s =>
      match field? (fun key => if key = 'n' then some (number : Int) else none) s with
      | some (text, rest) => text ++ lineText st number l fuel rest
      | none => "%" ++ lineText st number l fuel s
  | fuel + 1, c :: s => c.toString ++ lineText st number l fuel s

/-- Lines by their format, from a place on. -/
def linesText (st : Style) (format : Octets) (ls : List Line) (start stop : Nat) : Octets :=
  let cs := format.toList
  String.join (((slice ls start (stop - start)).zipIdx start).map fun (l, n) => lineText st (n + 1) l (cs.length + 1) cs)

/-- A value in a choice, which is a number or a letter, and what follows it. -/
def choiceValue? (r : Stretch) (s : List Char) : Option (Int × List Char) :=
  match Number.spanDigits s, s with
  | ([], _), c :: rest => (letterValue? r c).map fun n => (n, rest)
  | ([], _), [] => none
  | (ds, rest), _ => some (Number.digitsValue ds, rest)

/-- A choice between two parts, up to where the first one starts: whether the first one is taken. -/
def choice? (r : Stretch) (s : List Char) : Option (Bool × List Char) := do
  let (a, rest) ← choiceValue? r s
  match rest with
  | '=' :: rest =>
    let (b, rest) ← choiceValue? r rest
    match rest with
    | '?' :: rest => return (a == b, rest)
    | _ => none
  | _ => none

/-- A run by its format, up to a mark, and what is left of the format from the mark on. The fuel bounds its length. -/
def runText (m : Merging) (st : Style) (s : Sides) (r : Stretch) (stop : Option Char) :
    Nat → List Char → Octets × List Char
  | _, [] => ("", [])
  | 0, f => ("", f)
  | fuel + 1, c :: f =>
    let behind (text : Octets) (rest : List Char) : Octets × List Char :=
      let (more, left) := runText m st s r stop fuel rest
      (text ++ more, left)
    if some c = stop then ("", c :: f)
    else if c != '%' then behind c.toString f
    else
      match f with
      | '%' :: rest => behind "%" rest
      | '<' :: rest => behind (linesText st m.oldLine s.left r.left r.leftEnd) rest
      | '=' :: rest => behind (linesText st m.sameLine s.left r.left r.leftEnd) rest
      | '>' :: rest => behind (linesText st m.newLine s.right r.right r.rightEnd) rest
      | '(' :: rest =>
        match choice? r rest with
        | none => behind "%" f
        | some (isFirst, rest) =>
          let (first, rest) := runText m st s r (some ':') fuel rest
          let (second, rest) := runText m st s r (some ')') fuel (rest.drop 1)
          behind (if isFirst then first else second) (rest.drop 1)
      | f =>
        match field? (letterValue? r) f with
        | some (text, rest) => behind text rest
        | none => behind "%" f

/-- A run by a format. -/
def run (m : Merging) (st : Style) (s : Sides) (format : Octets) (r : Stretch) : Octets :=
  (runText m st s r none (format.length + 1) format.toList).1

/-- Both sides as one text, from two places on. -/
def textFrom (m : Merging) (st : Style) (s : Sides) : Nat → Nat → List Hunk → List Octets
  | i, j, [] =>
    if i < s.left.length || j < s.right.length then [m.run st s m.same ⟨i, s.left.length, j, s.right.length⟩] else []
  | i, j, h :: hs =>
    let leftEnd := h.left + h.leftCount
    let rightEnd := h.right + h.rightCount
    let format := if !h.removes then m.new else if !h.adds then m.old else m.changed
    (if i < h.left || j < h.right then [m.run st s m.same ⟨i, h.left, j, h.right⟩] else []) ++
      m.run st s format ⟨h.left, leftEnd, h.right, rightEnd⟩ :: textFrom m st s leftEnd rightEnd hs

/-- The formats in which a name tells a program that prepares texts which side is wanted. -/
def ofName (name : Octets) : Merging :=
  { same := "%=", old := s!"#ifndef {name}\n%<#endif /* ! {name} */\n", new := s!"#ifdef {name}\n%>#endif /* {name} */\n"
    changed := s!"#ifndef {name}\n%<#else /* {name} */\n%>#endif /* {name} */\n"
    sameLine := "%l\n", oldLine := "%l\n", newLine := "%l\n" }

end Merging
end ElmAssay.Machine.Difference
