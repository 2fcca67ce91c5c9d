/-!
# Differences

How one row of lines is made from another (`changes`): lines of the left one are taken away, and lines of the right one
are added. A shortest way is found by a search from both ends at once (`meeting`) that splits the rows where the two
sides meet. Lines that occur on one side only are not looked at in it (`Frequency`). In the end each run of changed lines
moves back as long as it can, so that runs grow together, and then forward (`settleRun`).
-/

namespace ElmAssay.Machine.Difference

/-! ## Lines that are not looked at -/

/-- How often a line occurs on the other side: so often that it tells little, not at all, or in between. -/
inductive Frequency
  | some
  | many
  | none
  deriving DecidableEq, Repr

/-- A bound that is doubled as often as a number can be divided by four. -/
def doubled (n bound : Nat) : Nat := if n = 0 then bound else doubled (n / 4) (bound * 2)
termination_by n

/-- The count of times from which on a line occurs often, for the length of its own side. -/
def manyFor (length : Nat) : Nat := doubled (length / 256) 5

/-- The least length of a row of frequent lines that is looked at in any case, within a run of some length. -/
def rowBound (length : Nat) : Nat := doubled (length / 16) 1 + 1

/-- A run without its rows of frequent lines that have at least some length. The fuel bounds the rows. -/
def withoutRows (bound : Nat) : Nat → List Frequency → List Frequency
  | 0, run => run
  | _, [] => []
  | fuel + 1, f :: run =>
    if f = .many then
      let row := (f :: run).takeWhile (· == .many)
      let rest := (f :: run).dropWhile (· == .many)
      (if row.length < bound then row else row.map fun _ => .some) ++ withoutRows bound fuel rest
    else f :: withoutRows bound fuel run

/-- A run in which the frequent lines at the front are looked at, up to three in a row that occur nowhere or to one such
behind the eighth. -/
def withoutFront : Nat → Nat → List Frequency → List Frequency
  | _, _, [] => []
  | place, row, f :: run =>
    if 8 ≤ place && f == .none then f :: run
    else
      match f with
      | .many => .some :: withoutFront (place + 1) 0 run
      | .some => .some :: withoutFront (place + 1) 0 run
      | .none => if row = 2 then f :: run else f :: withoutFront (place + 1) (row + 1) run

/-- A run of lines that are not looked at, as it is in the end: too many frequent ones among them are looked at. -/
def thinned (run : List Frequency) : List Frequency :=
  if run.length < 4 * run.count .many then run.map fun f => if f = .many then .some else f
  else (withoutFront 0 0 (withoutFront 0 0 (withoutRows (rowBound run.length) (run.length + 1) run)).reverse).reverse

/-- Frequent lines are not looked at only in the middle of a run. The fuel bounds the runs. -/
def thinnedRuns : Nat → List Frequency → List Frequency
  | 0, fs => fs
  | _, [] => []
  | fuel + 1, .none :: fs =>
    let run := (.none :: fs).takeWhile (· != .some)
    let rest := (.none :: fs).dropWhile (· != .some)
    let core := (run.reverse.dropWhile (· == .many)).reverse
    thinned core ++ (run.drop core.length).map (fun _ => .some) ++ thinnedRuns fuel rest
  | fuel + 1, _ :: fs => .some :: thinnedRuns fuel fs

/-- Which lines of a side are looked at. -/
def lookedAt {α : Type} [BEq α] (side other : Array α) : List Bool :=
  let frequency (line : α) : Frequency :=
    let n := other.toList.count line
    if n = 0 then .none else if manyFor side.size < n then .many else .some
  (thinnedRuns (side.size + 1) (side.toList.map frequency)).map (· == .some)

/-! ## The shortest way -/

/-- A part of both sides, each from a place to another one. -/
structure Span where
  left : Int
  leftEnd : Int
  right : Int
  rightEnd : Int
  deriving Repr

/-- How far a search came on each diagonal, and between which diagonals it stands. -/
structure Front where
  reached : Array Int
  shift : Int
  low : Int
  high : Int

namespace Front

/-- The place that was reached on a diagonal. -/
def get (f : Front) (d : Int) : Int := f.reached.getD (d + f.shift).toNat 0

/-- The front after a place was reached on a diagonal. -/
def reach (f : Front) (d place : Int) : Front := { f with reached := f.reached.setIfInBounds (d + f.shift).toNat place }

/-- The front that starts on a diagonal. -/
def start (size : Nat) (shift d place : Int) : Front := (⟨Array.replicate size 0, shift, d, d⟩ : Front).reach d place

/-- The front with one more diagonal on each side, as far as there are some. `blank` marks those that were not reached. -/
def widen (f : Front) (least greatest blank : Int) : Front :=
  let f := if least < f.low then { f with low := f.low - 1 }.reach (f.low - 2) blank else { f with low := f.low + 1 }
  if f.high < greatest then { f with high := f.high + 1 }.reach (f.high + 2) blank else { f with high := f.high - 1 }

/-- The diagonals of a front that one step reaches. -/
def diagonals (f : Front) : List Int :=
  (List.range ((f.high - f.low) / 2 + 1).toNat).map fun (k : Nat) => f.high - 2 * k

end Front

/-- Goes on while lines are the same. The fuel bounds their count. -/
def goOn (same : Int → Int → Bool) (s : Span) : Nat → Int → Int → Int
  | 0, x, _ => x
  | fuel + 1, x, y => if x < s.leftEnd && y < s.rightEnd && same x y then goOn same s fuel (x + 1) (y + 1) else x

/-- Goes back while lines are the same. The fuel bounds their count. -/
def goBack (same : Int → Int → Bool) (s : Span) : Nat → Int → Int → Int
  | 0, x, _ => x
  | fuel + 1, x, y => if s.left < x && s.right < y && same (x - 1) (y - 1) then goBack same s fuel (x - 1) (y - 1) else x

/-- One step of the search from the front on some diagonals; the answer has the place where it met the other search. -/
def stepOn (same : Int → Int → Bool) (s : Span) (other : Option Front) :
    List Int → Front → Front × Option (Int × Int)
  | [], f => (f, none)
  | d :: ds, f =>
    let below := f.get (d - 1)
    let above := f.get (d + 1)
    let x := if below < above then above else below + 1
    let x := goOn same s (s.leftEnd - x).toNat x (x - d)
    let f := f.reach d x
    if other.any fun b => b.low ≤ d && d ≤ b.high && b.get d ≤ x then (f, some (x, x - d))
    else stepOn same s other ds f

/-- One step of the search from the back on some diagonals; the answer has the place where it met the other search. -/
def stepBack (same : Int → Int → Bool) (s : Span) (other : Option Front) :
    List Int → Front → Front × Option (Int × Int)
  | [], b => (b, none)
  | d :: ds, b =>
    let below := b.get (d - 1)
    let above := b.get (d + 1)
    let x := if below < above then below else above - 1
    let x := goBack same s (x - s.left).toNat x (x - d)
    let b := b.reach d x
    if other.any fun f => f.low ≤ d && d ≤ f.high && x ≤ f.get d then (b, some (x, x - d))
    else stepBack same s other ds b

/-- The place where the searches from both ends meet. The fuel bounds their steps. -/
def meeting (same : Int → Int → Bool) (s : Span) : Nat → Front → Front → Int × Int
  | 0, _, _ => (s.leftEnd, s.right)
  | fuel + 1, f, b =>
    let least := s.left - s.rightEnd
    let greatest := s.leftEnd - s.right
    let isOdd := (s.left - s.right - (s.leftEnd - s.rightEnd)) % 2 != 0
    let f := f.widen least greatest (-1)
    match stepOn same s (if isOdd then some b else none) f.diagonals f with
    | (_, some place) => place
    | (f, none) =>
      let b := b.widen least greatest (s.leftEnd + s.rightEnd + 2)
      match stepBack same s (if isOdd then none else some f) b.diagonals b with
      | (_, some place) => place
      | (b, none) => meeting same s fuel f b

/-- Which lines of both sides change. -/
structure Marks where
  left : Array Bool
  right : Array Bool

/-- A row of places marked. -/
def markFrom (marks : Array Bool) (first last : Int) : Array Bool :=
  (List.range (last - first).toNat).foldl (fun marks k => marks.setIfInBounds (first.toNat + k) true) marks

/-- Marks what changes in a part of both sides. The fuel bounds how often it is split. -/
def compare (same : Int → Int → Bool) (size : Nat) : Nat → Span → Marks → Marks
  | 0, _, marks => marks
  | fuel + 1, s, marks =>
    let left := goOn same s (s.leftEnd - s.left).toNat s.left s.right
    let s := { s with left := left, right := s.right + (left - s.left) }
    let leftEnd := goBack same s (s.leftEnd - s.left).toNat s.leftEnd s.rightEnd
    let s := { s with leftEnd := leftEnd, rightEnd := s.rightEnd - (s.leftEnd - leftEnd) }
    if s.left = s.leftEnd then { marks with right := markFrom marks.right s.right s.rightEnd }
    else if s.right = s.rightEnd then { marks with left := markFrom marks.left s.left s.leftEnd }
    else
      let shift : Int := s.rightEnd + 2
      let front := Front.start (2 * size + 6) shift (s.left - s.right) s.left
      let back := Front.start (2 * size + 6) shift (s.leftEnd - s.rightEnd) s.leftEnd
      let (x, y) := meeting same s (size + 2) front back
      compare same size fuel { s with left := x, right := y }
        (compare same size fuel { s with leftEnd := x, rightEnd := y } marks)

/-- Which lines of both sides change, where only some lines are looked at. -/
def marked {α : Type} [BEq α] (isMinimal : Bool) (left right : Array α) : Marks :=
  let looked (side other : Array α) : List Bool :=
    if isMinimal then side.toList.map fun _ => true else lookedAt side other
  let leftLooked := looked left right
  let rightLooked := looked right left
  let places (bs : List Bool) : Array Nat := ((bs.zipIdx).filterMap fun b => if b.1 then some b.2 else none).toArray
  let leftPlaces := places leftLooked
  let rightPlaces := places rightLooked
  let same (x y : Int) : Bool :=
    match leftPlaces[x.toNat]?, rightPlaces[y.toNat]? with
    | some i, some j =>
      match left[i]?, right[j]? with
      | some a, some b => a == b
      | _, _ => false
    | _, _ => false
  let size := leftPlaces.size + rightPlaces.size
  let inner := compare same size (size + 2) ⟨0, leftPlaces.size, 0, rightPlaces.size⟩
    ⟨leftPlaces.map fun _ => false, rightPlaces.map fun _ => false⟩
  let outer (looked : List Bool) (places : Array Nat) (marks : Array Bool) : Array Bool :=
    (places.zip marks).foldl (fun all p => all.setIfInBounds p.1 p.2) (looked.map (!·)).toArray
  ⟨outer leftLooked leftPlaces inner.left, outer rightLooked rightPlaces inner.right⟩

/-! ## Runs of changed lines -/

/-- A run of changed lines while it moves: the marks of its side, where it starts and stops, and the place on the other
side. -/
structure Run where
  marks : Array Bool
  start : Nat
  stop : Nat
  across : Nat

/-- The mark of a place, where there is none outside of a side. -/
def isMarked (marks : Array Bool) (place : Nat) : Bool := marks.getD place false

/-- The first place from another one on without a mark. The fuel bounds the marks. -/
def pastMarks (marks : Array Bool) : Nat → Nat → Nat
  | 0, n => n
  | fuel + 1, n => if isMarked marks n then pastMarks marks fuel (n + 1) else n

/-- The first place of a row of marks that ends before a place. -/
def beforeMarks (marks : Array Bool) : Nat → Nat
  | 0 => 0
  | n + 1 => if isMarked marks n then beforeMarks marks n else n + 1

/-- The place before another one, and before the marks in front of that. -/
def stepBackAcross (marks : Array Bool) (n : Nat) : Nat :=
  match beforeMarks marks n with
  | 0 => 0
  | k + 1 => k

/-- The run one line further back. -/
def Run.shiftBack (r : Run) (other : Array Bool) : Run :=
  let marks := (r.marks.setIfInBounds (r.start - 1) true).setIfInBounds (r.stop - 1) false
  ⟨marks, beforeMarks marks (r.start - 1), r.stop - 1, stepBackAcross other r.across⟩

/-- The run as far back as its lines allow. The fuel bounds the lines. -/
def Run.moveBack (same : Nat → Nat → Bool) (other : Array Bool) : Nat → Run → Run
  | 0, r => r
  | fuel + 1, r =>
    if 0 < r.start && same (r.start - 1) (r.stop - 1) then (r.shiftBack other).moveBack same other fuel else r

/-- The run as far forward as its lines allow, and the last place on the way that stands across from a change, if there
is one. The fuel bounds the lines. -/
def Run.moveOn (same : Nat → Nat → Bool) (other : Array Bool) : Nat → Run → Option Nat → Run × Option Nat
  | 0, r, partner => (r, partner)
  | fuel + 1, r, partner =>
    if r.stop < r.marks.size && same r.start r.stop then
      let marks := (r.marks.setIfInBounds r.start false).setIfInBounds r.stop true
      let stop := pastMarks marks marks.size (r.stop + 1)
      let across := pastMarks other other.size (r.across + 1)
      let partner := if r.across + 1 < across then some stop else partner
      Run.moveOn same other fuel ⟨marks, r.start + 1, stop, across⟩ partner
    else (r, partner)

/-- The run grown together with those that it meets, as far forward as it can move. The fuel bounds the runs. -/
def Run.settle (same : Nat → Nat → Bool) (other : Array Bool) : Nat → Run → Run × Option Nat
  | 0, r => (r, none)
  | fuel + 1, r =>
    let length := r.stop - r.start
    let r := r.moveBack same other (r.marks.size + 1)
    let partner := if 0 < r.across && isMarked other (r.across - 1) then some r.stop else none
    let (r, partner) := r.moveOn same other (r.marks.size + 1) partner
    if r.stop - r.start = length then (r, partner) else Run.settle same other fuel r

/-- The run back at the last place that stands across from a change. The fuel bounds the lines. -/
def Run.moveTo (other : Array Bool) (place : Nat) : Nat → Run → Run
  | 0, r => r
  | fuel + 1, r =>
    if place < r.stop then
      let marks := (r.marks.setIfInBounds (r.start - 1) true).setIfInBounds (r.stop - 1) false
      Run.moveTo other place fuel ⟨marks, r.start - 1, r.stop - 1, stepBackAcross other r.across⟩
    else r

/-- The marks of a side after all runs from a place on have settled. The fuel bounds the lines. -/
def settleRuns (same : Nat → Nat → Bool) (other : Array Bool) : Nat → Nat → Nat → Array Bool → Array Bool
  | 0, _, _, marks => marks
  | fuel + 1, place, across, marks =>
    if marks.size ≤ place then marks
    else if !isMarked marks place then
      settleRuns same other fuel (place + 1) (pastMarks other other.size across + 1) marks
    else
      let stop := pastMarks marks marks.size place
      let r : Run := ⟨marks, place, stop, pastMarks other other.size across⟩
      let (r, partner) := r.settle same other (marks.size + 1)
      let r := r.moveTo other (partner.getD marks.size) marks.size
      settleRuns same other fuel r.stop r.across r.marks

/-! ## Changes -/

/-- A change: so many lines from a place on the left are taken away, and so many from a place on the right added. -/
structure Change where
  left : Nat
  removed : Nat
  right : Nat
  added : Nat
  deriving DecidableEq, Repr

/-- The changes that marks make, from two places on. The fuel bounds the lines. -/
def changesFrom (marks : Marks) : Nat → Nat → Nat → List Change
  | 0, _, _ => []
  | fuel + 1, i, j =>
    if marks.left.size ≤ i && marks.right.size ≤ j then []
    else
      let i' := pastMarks marks.left marks.left.size i
      let j' := pastMarks marks.right marks.right.size j
      if i = i' && j = j' then changesFrom marks fuel (i + 1) (j + 1)
      else ⟨i, i' - i, j, j' - j⟩ :: changesFrom marks fuel i' j'

/-- The count of lines at the front that are the same. -/
def commonFront {α : Type} [BEq α] : List α → List α → Nat
  | a :: left, b :: right => if a == b then commonFront left right + 1 else 0
  | _, _ => 0

/-- The changes that make the right one of two rows of lines from the left one, where lines are compared by their keys. Of
the front and the back that both have in common so many lines are looked at once more. -/
def changes {α β : Type} [BEq α] [BEq β] (key : α → β) (isMinimal : Bool) (around : Nat) (left right : List α) :
    List Change :=
  let common := commonFront left right
  let front := common - around
  let back := commonFront (left.drop common).reverse (right.drop common).reverse - around
  let part (side : List α) : Array β := (((side.drop front).take (side.length - front - back)).map key).toArray
  let left := part left
  let right := part right
  let same (side : Array β) (i j : Nat) : Bool :=
    match side[i]?, side[j]? with
    | some a, some b => a == b
    | _, _ => false
  let size := left.size + right.size
  let marks := marked isMinimal left right
  let leftMarks := settleRuns (same left) marks.right (size + 1) 0 0 marks.left
  let rightMarks := settleRuns (same right) leftMarks (size + 1) 0 0 marks.right
  (changesFrom ⟨leftMarks, rightMarks⟩ (size + 1) 0 0).map fun c =>
    { c with left := c.left + front, right := c.right + front }

end ElmAssay.Machine.Difference
