import ElmAssay.Machine.Octets

/-!
# Pieces of texts

The ways to cut a text into pieces: of so many bytes or lines (`Pieces.ofBytes`, `ofLines`), of as many whole lines as fit
in a count of bytes (`ofFilledLines`), or into a count of pieces (`ofChunks`, `ofLineChunks`, `ofTurns`). The pieces get
names that are counted up (`PieceName`).
-/

namespace ElmAssay.Machine

open Text

namespace Pieces

/-- Pieces of so many bytes. The fuel bounds their count. -/
def bytesFrom (n : Nat) : Nat → List Char → List (List Char)
  | 0, _ => []
  | fuel + 1, s => if s.isEmpty then [] else s.take n :: bytesFrom n fuel (s.drop n)

/-- Pieces of so many bytes, of which the last one may be shorter. -/
def ofBytes (n : Nat) (s : List Char) : List (List Char) := bytesFrom n s.length s

/-- The lines of a text with their ends. -/
def linesWithEnds (mark : Char) (s : List Char) : List (List Char) :=
  let step (c : Char) (lines : List (List Char)) : List (List Char) :=
    match lines with
    | [] => [[c]]
    | l :: ls => if c = mark then [c] :: l :: ls else (c :: l) :: ls
  s.foldr step []

/-- Rows of so many members. The fuel bounds their count. -/
def rowsOf {α : Type} (n : Nat) : Nat → List α → List (List α)
  | 0, _ => []
  | fuel + 1, xs => if xs.isEmpty then [] else xs.take n :: rowsOf n fuel (xs.drop n)

/-- Pieces of so many lines. -/
def ofLines (mark : Char) (n : Nat) (s : List Char) : List (List Char) :=
  let lines := linesWithEnds mark s
  (rowsOf n lines.length lines).map List.flatten

/-- Pieces of at most so many bytes that end with a line where they can. The fuel bounds their count. -/
def filledFrom (mark : Char) (n : Nat) : Nat → List Char → List (List Char)
  | 0, _ => []
  | fuel + 1, s =>
    if s.isEmpty then []
    else
      let window := s.take n
      if window.length < n then [s]
      else
        let rest := (window.reverse.takeWhile (· != mark)).length
        let size := if rest = n then n else n - rest
        s.take size :: filledFrom mark n fuel (s.drop size)

/-- Pieces of as many whole lines as fit in a count of bytes. -/
def ofFilledLines (mark : Char) (n : Nat) (s : List Char) : List (List Char) := filledFrom mark n s.length s

/-- A count of pieces of the same size, of which the last one has the rest. -/
def ofChunks (count : Nat) (s : List Char) : List (List Char) :=
  let size := max s.length count / count
  (List.range count).map fun k => if k + 1 = count then s.drop (k * size) else (s.drop (k * size)).take size

/-- Whole lines from a place on, in the piece with a number, which ends behind a place; lines belong to the piece in which
they start, and a piece in which no line starts is empty. The fuel bounds lines and pieces. -/
def lineChunksFrom (count size total : Nat) : Nat → Nat → Nat → List Char → List (List Char) → List (List Char)
  | 0, _, _, held, _ => [held]
  | fuel + 1, number, place, held, lines =>
    if number = count then [held ++ lines.flatten]
    else if number * size ≤ place then held :: lineChunksFrom count size total fuel (number + 1) place [] lines
    else
      match lines with
      | [] => held :: lineChunksFrom count size total fuel (number + 1) place [] []
      | l :: ls => lineChunksFrom count size total fuel number (place + l.length) (held ++ l) ls

/-- A count of pieces of about the same size that end with lines. -/
def ofLineChunks (mark : Char) (count : Nat) (s : List Char) : List (List Char) :=
  let lines := linesWithEnds mark s
  let total := max s.length count
  lineChunksFrom count (total / count) total (lines.length + count) 1 0 [] lines

/-- A count of pieces that get the lines in turn. -/
def ofTurns (mark : Char) (count : Nat) (s : List Char) : List (List Char) :=
  let lines := (linesWithEnds mark s).zipIdx
  (List.range count).map fun k => ((lines.filter fun l => l.2 % count = k).map Prod.fst).flatten

end Pieces

/-! ## Names of pieces -/

/-- The name of a piece: a front, a number that is written with the letters of an alphabet, and an ending. The front grows
where the number would need one more letter, if it may. -/
structure PieceName where
  front : Octets
  alphabet : List Char
  digits : List Nat
  grows : Bool
  ending : Octets

namespace PieceName

/-- The name as a text. -/
def text (n : PieceName) : Octets :=
  n.front ++ String.ofList (n.digits.map fun d => n.alphabet.getD d '?') ++ n.ending

/-- A number one higher, with its last digit first; `none` if it has too few digits. -/
def increased? (base : Nat) : List Nat → Option (List Nat)
  | [] => none
  | d :: ds => if d + 1 < base then some ((d + 1) :: ds) else (increased? base ds).map (0 :: ·)

/-- The next name; `none` if there is none. -/
def next? (n : PieceName) : Option PieceName :=
  let base := n.alphabet.length
  match increased? base n.digits.reverse with
  | some ds =>
    let digits := ds.reverse
    if n.grows && digits.head? = some (base - 1) then
      some { n with
        front := n.front ++ (n.alphabet.getD (base - 1) '?').toString, digits := List.replicate (digits.length + 1) 0 }
    else some { n with digits := digits }
  | none => none

/-- The count of digits that the names up to a number are given. -/
def digitsUpTo (base last : Nat) : Nat :=
  (if last % base = 0 then 0 else 1) + ((Nat.toDigits base last).length - 1)

end PieceName
end ElmAssay.Machine
