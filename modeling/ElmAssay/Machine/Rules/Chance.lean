import ElmAssay.Number.Binary64

/-!
# Numbers by chance

A sequence of numbers that looks like chance (`Chance.next`): each is the sum of two earlier ones, 3 and 31 places before it,
without its lowest binary digit. A seed begins it (`Chance.ofSeed`).
-/

namespace ElmAssay.Machine.Rules

/-- The last 31 sums, the oldest one at a place that goes round. -/
structure Chance where
  sums : Array UInt32
  place : Nat
  deriving Repr

namespace Chance

/-- The count of sums that are kept. -/
def degree : Nat := 31

/-- The distance of the nearer one of the two sums. -/
def distance : Nat := 3

/-- The next number, with what it leaves. -/
def next (c : Chance) : Nat × Chance :=
  let old := (c.sums[c.place]?).getD 0
  let near := (c.sums[(c.place + degree - distance) % degree]?).getD 0
  let sum := old + near
  ((sum >>> 1).toNat, ⟨c.sums.set! c.place sum, (c.place + 1) % degree⟩)

/-- The sequence behind so many numbers. -/
def behind : Nat → Chance → Chance
  | 0, c => c
  | n + 1, c => behind n c.next.2

/-- The first sums, which a seed decides on. -/
def firstSums (seed : Nat) : List Nat :=
  let step (acc : List Nat × Nat) (_ : Nat) : List Nat × Nat :=
    let x : Int := if 2 ^ 31 ≤ acc.2 then (acc.2 : Int) - 2 ^ 32 else acc.2
    let y := 16807 * (x.tmod 127773) - 2836 * (x.tdiv 127773)
    let z := (if y < 0 then y + 2147483647 else y).toNat
    (z :: acc.1, z)
  ((List.range (degree - 1)).foldl step ([seed], seed)).1.reverse

/-- The sequence that a seed begins. -/
def ofSeed (seed : Nat) : Chance :=
  let seed := if seed % 2 ^ 32 = 0 then 1 else seed % 2 ^ 32
  behind (10 * degree) ⟨((firstSums seed).map UInt32.ofNat).toArray, distance⟩

/-- The greatest number. -/
def greatest : Nat := 2 ^ 31 - 1

end Chance
end ElmAssay.Machine.Rules
