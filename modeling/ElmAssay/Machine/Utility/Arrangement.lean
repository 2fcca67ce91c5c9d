import ElmAssay.Machine.Octets
import ElmAssay.Machine.Regex.Reader
import ElmAssay.Machine.Utility.Basic
import ElmAssay.Machine.Utility.Reading

/-!
# Utilities that arrange

Programs that put names in an order that pairs of them give (`tsort`), and numbers into their factors (`factor`).

The prime factors of a number in order (`Factors.of`). Small ones are found by division. What is left is either a prime, by
a test that each prime passes (`isPrime`), or parted by a search for two places of a row that are the same for one of its
factors (`divisor?`).

Files are written from their last record to the first (`tac`), where a record ends or starts with a separator, and lines
from their last character to the first (`rev`).
-/

/-!
## Orders from pairs

Names are put in an order in which the first name of each given pair comes before the second one (`Precedence.sorted`).
Names that nothing has to precede come first, and those that become free on the way follow in turn. Where pairs go round
in a circle, the circle is told and one of its pairs is given up.
-/

namespace ElmAssay.Machine

/-- The state of a sort: for each name the count of pairs in which it still comes second, the names that it has to precede,
latest first, and whether it was told; and, while a circle is looked for, the name that stands behind it in the chain. -/
structure Precedence where
  names : Array Octets
  counts : Array Nat
  followers : Array (List Nat)
  told : Array Bool
  chain : Array (Option Nat)

namespace Precedence

/-- What a sort tells: the next name in the order, or that there is a circle, with the names in it. -/
inductive Told
  | next (name : Octets)
  | circle (names : List Octets)
  deriving DecidableEq, Repr

/-- The state before a sort of the names in some pairs. A pair of a name with itself says nothing. -/
def ofPairs (pairs : List (Octets × Octets)) : Precedence :=
  let sorted := ((pairs.flatMap fun p => [p.1, p.2]).mergeSort fun a b => a ≤ b).toArray
  let names := sorted.foldl (fun (done : Array Octets) n => if done.back? = some n then done else done.push n) #[]
  let size := names.size
  let start : Precedence :=
    ⟨names, Array.replicate size 0, Array.replicate size [], Array.replicate size false, Array.replicate size none⟩
  pairs.foldl (fun p (a, b) =>
    if a = b then p
    else
      let i := names.toList.idxOf a
      let j := names.toList.idxOf b
      { p with counts := p.counts.modify j (· + 1), followers := p.followers.modify i (j :: ·) }) start

/-- The count of pairs in which a name comes second. -/
def count (p : Precedence) (i : Nat) : Nat := p.counts.getD i 0

/-- Takes names from the front of a queue; those that become free join it at its end. The fuel bounds the names. -/
def release : Nat → List Nat → Precedence → List Told → Precedence × List Told
  | 0, _, p, done => (p, done)
  | _, [], p, done => (p, done)
  | fuel + 1, i :: queue, p, done =>
    let told := Told.next (p.names.getD i "")
    let p := { p with told := p.told.set! i true }
    let step (acc : Precedence × List Nat) (j : Nat) : Precedence × List Nat :=
      let p := { acc.1 with counts := acc.1.counts.modify j (· - 1) }
      (p, if p.count j = 0 then acc.2 ++ [j] else acc.2)
    let (p, queue) := (p.followers.getD i []).foldl step (p, queue)
    release fuel queue p (told :: done)

/-- The names along a chain up to one of them. The fuel bounds them. -/
def chainTo (p : Precedence) (last : Nat) : Nat → Nat → List Nat
  | 0, _ => []
  | fuel + 1, i =>
    if i = last then [i]
    else
      match (p.chain.getD i none) with
      | some j => i :: chainTo p last fuel j
      | none => [i]

/-- One walk through the names in the search for a circle, from the end of the chain on: either the end of the longer
chain, or the circle. -/
def walk : List Nat → Option Nat → Precedence → (Precedence × Option Nat) ⊕ (Precedence × List Nat)
  | [], stop, p => .inl (p, stop)
  | i :: rest, stop, p =>
    if p.count i = 0 then walk rest stop p
    else
      match stop with
      | none => walk rest (some i) p
      | some j =>
        if !(p.followers.getD i []).contains j then walk rest stop p
        else if (p.chain.getD i none).isNone then
          walk rest (some i) { p with chain := p.chain.set! i (some j) }
        else
          let circle := p.chainTo i (p.names.size + 1) j
          .inr ({ p with
            counts := p.counts.modify j (· - 1), followers := p.followers.modify i (·.erase j)
            chain := p.chain.map fun _ => none }, circle)

/-- The circle that is found by walking through the names again and again; one of its pairs is given up. The fuel bounds
the walks. -/
def breakCircle : Nat → Option Nat → Precedence → Precedence × List Nat
  | 0, _, p => (p, [])
  | fuel + 1, stop, p =>
    match walk (List.range p.names.size) stop p with
    | .inr found => found
    | .inl (p, stop) => breakCircle fuel stop p

/-- All that a sort tells, latest first. The fuel bounds the circles. -/
def run : Nat → Precedence → List Told → List Told
  | 0, _, done => done
  | fuel + 1, p, done =>
    let free := (List.range p.names.size).filter fun i => p.count i = 0 && !p.told.getD i true
    let (p, done) := release (p.names.size + 1) free p done
    if p.told.all id then done
    else
      let (p, circle) := breakCircle (p.names.size + 2) none p
      run fuel p (.circle (circle.map fun i => p.names.getD i "") :: done)

/-- All that a sort of the names in some pairs tells. -/
def sorted (pairs : List (Octets × Octets)) : List Told := (run (pairs.length + 1) (ofPairs pairs) []).reverse

end Precedence
end ElmAssay.Machine

/-! ## Factors -/

namespace ElmAssay.Machine.Factors

/-- A power of a number, of which only the rest of a division is kept. The fuel bounds the bits of the exponent. -/
def powerRest (m : Nat) : Nat → Nat → Nat → Nat → Nat
  | 0, _, _, result => result
  | fuel + 1, base, exponent, result =>
    if exponent = 0 then result
    else powerRest m fuel (base * base % m) (exponent / 2) (if exponent % 2 = 1 then result * base % m else result)

/-- Whether squaring a number so many times comes to one less than the modulus. -/
def meetsMinusOne (m : Nat) : Nat → Nat → Bool
  | 0, _ => false
  | n + 1, x => x == m - 1 || meetsMinusOne m n (x * x % m)

/-- How often a number can be halved, and what is left. The fuel bounds its bits. -/
def halvings : Nat → Nat → Nat → Nat × Nat
  | 0, n, count => (count, n)
  | fuel + 1, n, count => if n % 2 = 0 && n != 0 then halvings fuel (n / 2) (count + 1) else (count, n)

/-- Bases that tell primes from other numbers. -/
def bases : List Nat := [2, 3, 5, 7, 11, 13, 17, 19, 23, 29, 31, 37, 41, 43, 47]

/-- Whether an odd number above all bases is a prime. -/
def isPrime (n : Nat) : Bool :=
  let (count, odd) := halvings n.log2 (n - 1) 0
  bases.all fun b =>
    let x := powerRest n (n.log2 + 1) b odd 1
    x == 1 || meetsMinusOne n count x

/-- A divisor that two places of the row of squares with an addend have in common. The fuel bounds the steps. -/
def meetingDivisor? (n addend : Nat) : Nat → Nat → Nat → Option Nat
  | 0, _, _ => none
  | fuel + 1, slow, fast =>
    let step (x : Nat) : Nat := (x * x + addend) % n
    let slow := step slow
    let fast := step (step fast)
    let d := Nat.gcd n (if slow < fast then fast - slow else slow - fast)
    if d = n then none else if 1 < d then some d else meetingDivisor? n addend fuel slow fast

/-- The count of steps that a search for a divisor takes. -/
def stepLimit : Nat := 4000000

/-- A divisor of a number that is no prime, searched for with one addend after the other. -/
def divisor? (n : Nat) : Option Nat := (List.range' 1 20).findSome? fun a => meetingDivisor? n a stepLimit 2 2

/-- The factors of a number without small ones. The fuel bounds their count. -/
def large : Nat → Nat → List Nat
  | 0, n => [n]
  | fuel + 1, n =>
    if n ≤ 1 then []
    else if isPrime n then [n]
    else
      match divisor? n with
      | some d => large fuel d ++ large fuel (n / d)
      | none => [n]

/-- The factors of a number from a candidate on, and what is left when the candidates are too large. The fuel bounds the
candidates. -/
def small : Nat → Nat → Nat → List Nat → List Nat × Nat
  | 0, _, n, done => (done, n)
  | fuel + 1, d, n, done =>
    if n < d * d then (done, n)
    else if n % d = 0 then small fuel d (n / d) (d :: done)
    else small fuel (if d = 2 then 3 else d + 2) n done

/-- The prime factors of a number, in order. -/
def of (n : Nat) : List Nat :=
  if n ≤ 1 then []
  else
    let limit := 5000
    let (found, rest) := small (limit + n.log2) 2 n []
    let others := if rest ≤ 1 then [] else if rest < limit * limit then [rest] else large rest.log2 rest
    (found ++ others).mergeSort fun a b => a ≤ b

end ElmAssay.Machine.Factors

namespace ElmAssay.Machine.Utility

open Text Work

/-- The words of a text. -/
def wordsOf (s : Octets) : List Octets :=
  let isBreak (c : Char) : Bool := c == ' ' || c == '\t' || c == '\n'
  let parts := s.toList.splitBy fun a b => isBreak a == isBreak b
  (parts.filter fun p => !p.head?.any isBreak).map String.ofList

/-- Pairs of the words of a row; `none` if one is left over. -/
def pairsOf? : List Octets → Option (List (Octets × Octets))
  | [] => some []
  | [_] => none
  | a :: b :: rest => (pairsOf? rest).map ((a, b) :: ·)

/-- Writes names in an order that pairs of them give. -/
def tsort : Utility := fun _ call => complete call.name do
  let options ← Arguments.read [] 1 call.arguments
  match options.operands.drop 1 with
  | extra :: _ =>
    let shown := Shown.marked extra
    failUsage 1 s!"extra operand {shown}"
  | [] =>
    let path := options.operands.head?.getD "-"
    let name := Shown.plain path
    match ← readOperand path with
    | .error r => Work.fail 1 s!"{name}: {r.wording}"
    | .ok text =>
      match pairsOf? (wordsOf text) with
      | none => Work.fail 1 s!"{name}: input contains an odd number of tokens"
      | some pairs =>
        for told in Precedence.sorted pairs do
          match told with
          | .next n => putLine n
          | .circle names =>
            complain s!"{name}: input contains a loop:"
            for n in names do warn n

/-- A number in a factorisation as it is written. -/
def factorText (showsPowers : Bool) (n : Nat) : Octets :=
  let factors := Factors.of n
  let powers := factors.splitBy (· == ·)
  let shown :=
    if showsPowers then
      powers.map fun p =>
        Numeral.text (p.head?.getD 1) ++ if 1 < p.length then "^" ++ Numeral.text p.length else ""
    else factors.map Numeral.text
  Numeral.text n ++ ":" ++ String.join (shown.map (" " ++ ·)) ++ "\n"

/-- Writes the prime factors of numbers. -/
def factor : Utility := fun _ call => complete call.name do
  let options ← Arguments.read [.flag 'h' "exponents"] 1 call.arguments
  let tell (word : Octets) : Work Unit := do
    let body := word.toList.dropWhile (· == ' ')
    let digits := if body.head? = some '+' then body.drop 1 else body
    if digits.isEmpty || !digits.all isAsciiDigit then
      let shown := Shown.marked word
      complain s!"{shown} is not a valid positive integer"
    else put (factorText (options.has 'h') (Number.digitsValue digits))
  if options.operands.isEmpty then
    match ← readOperand "-" with
    | .ok text => (wordsOf text).forM tell
    | .error r => Work.fail 1 s!"error reading input: {r.wording}"
  else options.operands.forM tell

/-! ## Other orders -/

/-- The places of separators in a text, the last first: where each starts and ends. They do not overlap, and the later one
counts. `matchAt` tells where a separator that starts at a place ends, in the text up to another place. The fuel bounds
the places. -/
def separatorsFrom (matchAt : Nat → Nat → Option Nat) : Nat → Nat → List (Nat × Nat)
  | 0, _ => []
  | limit, 0 => if (matchAt limit 0) = some 0 then [] else (matchAt limit 0).toList.map (0, ·)
  | limit, start + 1 =>
    match matchAt limit (start + 1) with
    | some stop => if stop = start + 1 then separatorsFrom matchAt limit start
      else (start + 1, stop) :: separatorsFrom matchAt (start + 1) start
    | none => separatorsFrom matchAt limit start
termination_by _ start => start

/-- The pieces of a text between places, which are in order and counted from a start. -/
def piecesAt (start : Nat) : List Nat → List Char → List (List Char)
  | [], s => [s]
  | place :: places, s => s.take (place - start) :: piecesAt place places (s.drop (place - start))

/-- The records of a text, the last first. A separator belongs to the record in front of it, or to the one behind. -/
def recordsBack (isBefore : Bool) (separators : List (Nat × Nat)) (s : List Char) : List (List Char) :=
  let cuts := separators.map fun (start, stop) => if isBefore then start else stop
  (piecesAt 0 cuts.reverse s).reverse

/-- What a text separates records by: a text, or an expression. -/
def separatorIn (r : Option Regex) (separator : List Char) (s : Array Char) : Nat → Nat → Option Nat :=
  match r with
  | some r => fun limit start => (r.matchAt? ⟨false, false⟩ (s.extract 0 limit) start).map (·.1)
  | none => fun limit start =>
    if start + separator.length ≤ limit && (s.extract start (start + separator.length)).toList == separator then
      some (start + separator.length)
    else none

/-- Writes the records of files from the last to the first. -/
def tac : Utility := fun _ call => complete call.name do
  let options ← Arguments.read [.flag 'b' "before", .flag 'r' "regex", .valued 's' "separator"] 1 call.arguments
  let given := (options.value? 's').getD "\n"
  let r ←
    if options.has 'r' then
      if given.isEmpty then Work.fail 1 "separator cannot be empty"
      match Regex.read ⟨false, false⟩ (Regex.withBackslashes given.toList) with
      | .ok r => pure (some r)
      | .error e => Work.fail 1 e.message
    else pure none
  let separator := if given.isEmpty then ['\x00'] else given.toList
  for path in orInput options.operands do
    match ← readOperand path with
    | .ok data =>
      let cs := data.toList
      let found := separatorsFrom (separatorIn r separator cs.toArray) cs.length cs.length
      put (String.ofList (recordsBack (options.has 'b') found cs).flatten)
    | .error r =>
      if r = .isDirectory then
        let name := Shown.plain path
        complain s!"{name}: read error: {Refusal.invalid.wording}"
      else
        let name := Shown.quoted path
        complain s!"failed to open {name} for reading: {r.wording}"

/-- Writes lines with their characters from the last to the first. -/
def rev : Utility := fun _ call => complete call.name do
  let options ← Arguments.read [.flag '0' "zero"] 1 call.arguments
  let mark := lineMark (options.has '0')
  for path in orInput options.operands do
    match ← readOperand path with
    | .ok data =>
      let parts := (Text.cut mark data.toList).map fun l => Octets.narrow (Octets.widen (String.ofList l)).reverse
      put ((String.singleton mark).intercalate parts)
    | .error r => complain s!"cannot open {path}: {r.wording}"

end ElmAssay.Machine.Utility
