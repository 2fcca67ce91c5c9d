import ElmAssay.Machine.Numeral
import ElmAssay.Machine.Octets
import ElmAssay.Number.Binary64

/-!
# Digests

A digest is a short value that depends on all bytes of a message (`Digest.of`). Each kind of digest goes through the blocks
of the message, which change a few words one after the other, and these words make the digest in the end.
-/

/-!
## Words of digests

Digests work on words of a fixed width, which are made of bytes in one of two orders (`Digest.Order`). A message is filled
up to whole blocks before it is taken apart (`Digest.blocks`). The constants of some digests are the digits behind the point
of roots of prime numbers (`Digest.rootDigits`) or of sines (`Digest.sineDigits`).
-/

namespace ElmAssay.Machine.Digest

/-- The order of the bytes of a word. -/
inductive Order
  | lowFirst
  | highFirst
  deriving DecidableEq, Repr

/-- The value of bytes. -/
def Order.value (o : Order) (bytes : List UInt8) : Nat :=
  let bytes :=
    match o with
    | lowFirst => bytes.reverse
    | highFirst => bytes
  bytes.foldl (fun n b => 256 * n + b.toNat) 0

/-- So many bytes of a value. -/
def Order.bytes (o : Order) (count n : Nat) : List UInt8 :=
  let low := (List.range count).map fun i => UInt8.ofNat (n / 256 ^ i % 256)
  match o with
  | lowFirst => low
  | highFirst => low.reverse

/-- Parts of a list that have the same size, of which the last one may be shorter. The fuel bounds their count. -/
def parts {α : Type} (size : Nat) : Nat → List α → List (List α)
  | 0, _ => []
  | _, [] => []
  | fuel + 1, s => s.take size :: parts size fuel (s.drop size)

/-- The words of bytes. -/
def words {α : Type} (ofNat : Nat → α) (o : Order) (size : Nat) (bytes : List UInt8) : Array α :=
  ((parts size bytes.length bytes).map fun w => ofNat (o.value w)).toArray

/-- The blocks of a message that is filled up: with a one bit, zeros, and the count of its bits in so many bytes. -/
def blocks (o : Order) (block count : Nat) (message : Bytes) : List (List UInt8) :=
  let size := message.length
  let gap := (2 * block - 1 - count - size % block) % block
  let filled := message ++ 0x80 :: List.replicate gap 0 ++ o.bytes count (8 * size)
  parts block filled.length filled

/-- The word at a place. -/
def wordAt {α : Type} [Inhabited α] (a : Array α) (i : Nat) : α := (a[i]?).getD default

/-- The hexadecimal digits of bytes. -/
def shown (bytes : List UInt8) : Octets :=
  String.ofList (bytes.flatMap fun b => [Nat.digitChar (b.toNat / 16), Nat.digitChar (b.toNat % 16)])

/-- The hexadecimal digits of words with so many bytes. -/
def shownWords (o : Order) (size : Nat) (ws : List Nat) : Octets := shown (ws.flatMap (o.bytes size))

/-! ## Constants -/

/-- The greatest number below two to a power whose own power is not above a bound. -/
def root (degree bound : Nat) : Nat → Nat → Nat
  | 0, r => r
  | bit + 1, r => root degree bound bit (if (r + 2 ^ bit) ^ degree ≤ bound then r + 2 ^ bit else r)

/-- So many binary digits behind the point of a root of a number. -/
def rootDigits (degree digits n : Nat) : Nat := root degree (n * 2 ^ (degree * digits)) (digits + 8) 0 % 2 ^ digits

/-- The first prime numbers, eighty of them. -/
def primes : List Nat :=
  (List.range 410).filter fun n => 2 ≤ n && (List.range n).all fun d => d < 2 || n % d != 0

/-- The count of binary digits behind the point with which sines are summed up. -/
def sinePrecision : Nat := 320

/-- The sum that a sine is, so many times larger, with the term that comes next. -/
def sineSum (x : Nat) : Nat → Nat → Int → Int → Int
  | 0, _, _, sum => sum
  | fuel + 1, k, term, sum =>
    sineSum x fuel (k + 2) (-(term * (x * x : Nat)).tdiv ((k + 1) * (k + 2) : Nat)) (sum + term)

/-- The first binary digits behind the point of the sine of a number, as a word. -/
def sineDigits (x : Nat) : UInt32 :=
  UInt32.ofNat ((sineSum x 200 1 (x * 2 ^ sinePrecision : Nat) 0).natAbs / 2 ^ (sinePrecision - 32))

end ElmAssay.Machine.Digest

/-! ## The digest of a message -/

namespace ElmAssay.Machine

/-- The kinds of digests. -/
inductive Digest
  | md5
  | sha1
  | sha224
  | sha256
  | sha384
  | sha512
  /-- The one with a length, in bytes. -/
  | blake2b (length : Nat)
  deriving DecidableEq, Repr

namespace Digest

/-- A word turned to the left. -/
def left (x : UInt32) (n : Nat) : UInt32 := (x <<< UInt32.ofNat n) ||| (x >>> UInt32.ofNat (32 - n))

/-- A word turned to the right. -/
def right (x : UInt32) (n : Nat) : UInt32 := left x (32 - n)

/-- A long word turned to the right. -/
def rightLong (x : UInt64) (n : Nat) : UInt64 := (x >>> UInt64.ofNat n) ||| (x <<< UInt64.ofNat (64 - n))

/-- Words added to others at the same places. -/
def added {α : Type} [Add α] (a b : List α) : List α := List.zipWith (· + ·) a b

/-! ## The kind of four words -/

/-- The constants of its rounds. -/
def sineWords : Array UInt32 := ((List.range 64).map fun i => sineDigits (i + 1)).toArray

/-- By how much words are turned in the rounds. -/
def md5Turns : List (List Nat) := [[7, 12, 17, 22], [5, 9, 14, 20], [4, 11, 16, 23], [6, 10, 15, 21]]

/-- A round. -/
def md5Round (w : Array UInt32) (s : UInt32 × UInt32 × UInt32 × UInt32) (i : Nat) :
    UInt32 × UInt32 × UInt32 × UInt32 :=
  let (a, b, c, d) := s
  let (f, place) :=
    match i / 16 with
    | 0 => ((b &&& c) ||| (~~~b &&& d), i)
    | 1 => ((d &&& b) ||| (~~~d &&& c), (5 * i + 1) % 16)
    | 2 => (b ^^^ c ^^^ d, (3 * i + 5) % 16)
    | _ => (c ^^^ (b ||| ~~~d), 7 * i % 16)
  let turn := ((md5Turns[i / 16]?).bind (·[i % 4]?)).getD 0
  (d, b + left (a + f + wordAt sineWords i + wordAt w place) turn, b, c)

/-- The words after a block. -/
def md5Block (h : List UInt32) (block : List UInt8) : List UInt32 :=
  match h with
  | [a, b, c, d] =>
    let (a, b, c, d) := (List.range 64).foldl (md5Round (words UInt32.ofNat .lowFirst 4 block)) (a, b, c, d)
    added h [a, b, c, d]
  | h => h

/-! ## The kind of five words -/

/-- The words of a block with those that come of them. -/
def sha1Words (block : List UInt8) : Array UInt32 :=
  (List.range 64).foldl (fun w i => w.push (left (wordAt w (i + 13) ^^^ wordAt w (i + 8) ^^^ wordAt w (i + 2) ^^^ wordAt w i) 1))
    (words UInt32.ofNat .highFirst 4 block)

/-- A round. -/
def sha1Round (w : Array UInt32) (s : UInt32 × UInt32 × UInt32 × UInt32 × UInt32) (i : Nat) :
    UInt32 × UInt32 × UInt32 × UInt32 × UInt32 :=
  let (a, b, c, d, e) := s
  let (f, k) : UInt32 × UInt32 :=
    match i / 20 with
    | 0 => ((b &&& c) ||| (~~~b &&& d), 0x5a827999)
    | 1 => (b ^^^ c ^^^ d, 0x6ed9eba1)
    | 2 => ((b &&& c) ||| (b &&& d) ||| (c &&& d), 0x8f1bbcdc)
    | _ => (b ^^^ c ^^^ d, 0xca62c1d6)
  (left a 5 + f + e + k + wordAt w i, a, left b 30, c, d)

/-- The words after a block. -/
def sha1Block (h : List UInt32) (block : List UInt8) : List UInt32 :=
  match h with
  | [a, b, c, d, e] =>
    let (a, b, c, d, e) := (List.range 80).foldl (sha1Round (sha1Words block)) (a, b, c, d, e)
    added h [a, b, c, d, e]
  | h => h

/-! ## The kinds of eight words -/

/-- What the kinds of eight words differ in: how the bits of a word are mixed, and the constants of the rounds. -/
structure Mixing (α : Type) where
  early : α → α
  late : α → α
  first : α → α
  fifth : α → α
  constants : Array α

/-- How short words are mixed. -/
def mixing : Mixing UInt32 :=
  { early := fun x => right x 7 ^^^ right x 18 ^^^ (x >>> 3)
    late := fun x => right x 17 ^^^ right x 19 ^^^ (x >>> 10)
    first := fun x => right x 2 ^^^ right x 13 ^^^ right x 22
    fifth := fun x => right x 6 ^^^ right x 11 ^^^ right x 25
    constants := ((primes.take 64).map fun p => UInt32.ofNat (rootDigits 3 32 p)).toArray }

/-- How long words are mixed. -/
def mixingLong : Mixing UInt64 :=
  { early := fun x => rightLong x 1 ^^^ rightLong x 8 ^^^ (x >>> 7)
    late := fun x => rightLong x 19 ^^^ rightLong x 61 ^^^ (x >>> 6)
    first := fun x => rightLong x 28 ^^^ rightLong x 34 ^^^ rightLong x 39
    fifth := fun x => rightLong x 14 ^^^ rightLong x 18 ^^^ rightLong x 41
    constants := (primes.map fun p => UInt64.ofNat (rootDigits 3 64 p)).toArray }

section Rounds

variable {α : Type} [Inhabited α] [Add α] [AndOp α] [XorOp α] [Complement α]

/-- The words of a block with those that come of them. -/
def Mixing.words (m : Mixing α) (w : Array α) : Array α :=
  (List.range (m.constants.size - 16)).foldl (fun w i =>
    w.push (m.late (wordAt w (i + 14)) + wordAt w (i + 9) + m.early (wordAt w (i + 1)) + wordAt w i)) w

/-- A round. -/
def Mixing.round (m : Mixing α) (w : Array α) (s : (α × α × α × α) × α × α × α × α) (i : Nat) :
    (α × α × α × α) × α × α × α × α :=
  let ((a, b, c, d), e, f, g, h) := s
  let t := h + m.fifth e + ((e &&& f) ^^^ (~~~e &&& g)) + wordAt m.constants i + wordAt w i
  let u := m.first a + ((a &&& b) ^^^ (a &&& c) ^^^ (b &&& c))
  ((t + u, a, b, c), d + t, e, f, g)

/-- The words after a block. -/
def Mixing.block (m : Mixing α) (state : List α) (w : Array α) : List α :=
  match state with
  | [a, b, c, d, e, f, g, h] =>
    let ((a, b, c, d), e, f, g, h) :=
      (List.range m.constants.size).foldl (m.round (m.words w)) ((a, b, c, d), e, f, g, h)
    added state [a, b, c, d, e, f, g, h]
  | state => state

end Rounds

/-- The digest with short words that begins with some words. -/
def short (start : List UInt32) (message : Bytes) : List UInt8 :=
  ((blocks .highFirst 64 8 message).foldl (fun h b => mixing.block h (words UInt32.ofNat .highFirst 4 b)) start).flatMap
    fun x => Order.bytes .highFirst 4 x.toNat

/-- The digest with long words that begins with some words. -/
def long (start : List UInt64) (message : Bytes) : List UInt8 :=
  ((blocks .highFirst 128 16 message).foldl (fun h b => mixingLong.block h (words UInt64.ofNat .highFirst 8 b))
    start).flatMap fun x => Order.bytes .highFirst 8 x.toNat

/-- The roots of the first eight prime numbers. -/
def firstRoots : List UInt64 := (primes.take 8).map fun p => UInt64.ofNat (rootDigits 2 64 p)

/-- The roots of the next eight prime numbers. -/
def nextRoots : List UInt64 := ((primes.drop 8).take 8).map fun p => UInt64.ofNat (rootDigits 2 64 p)

/-! ## The kind with a length -/

/-- Words crossed with others at the same places. -/
def crossed (a b : List UInt64) : List UInt64 := List.zipWith (fun x y => x ^^^ y) a b

/-- In what orders the words of a block are taken. -/
def orders : List (List Nat) :=
  [[0, 1, 2, 3, 4, 5, 6, 7, 8, 9, 10, 11, 12, 13, 14, 15], [14, 10, 4, 8, 9, 15, 13, 6, 1, 12, 0, 2, 11, 7, 5, 3],
   [11, 8, 12, 0, 5, 2, 15, 13, 10, 14, 3, 6, 7, 1, 9, 4], [7, 9, 3, 1, 13, 12, 11, 14, 2, 6, 5, 10, 4, 0, 15, 8],
   [9, 0, 5, 7, 2, 4, 10, 15, 14, 1, 11, 12, 6, 8, 3, 13], [2, 12, 6, 10, 0, 11, 8, 3, 4, 13, 7, 5, 15, 14, 1, 9],
   [12, 5, 1, 15, 14, 13, 4, 10, 0, 7, 6, 3, 9, 2, 8, 11], [13, 11, 7, 14, 12, 1, 3, 9, 5, 0, 15, 4, 8, 6, 2, 10],
   [6, 15, 14, 9, 11, 3, 0, 8, 12, 2, 13, 7, 1, 4, 10, 5], [10, 2, 8, 4, 7, 6, 1, 5, 15, 11, 9, 14, 3, 12, 13, 0]]

/-- The places that are mixed with each other: four columns, and four diagonals. -/
def quarters : List (Nat × Nat × Nat × Nat) :=
  [(0, 4, 8, 12), (1, 5, 9, 13), (2, 6, 10, 14), (3, 7, 11, 15), (0, 5, 10, 15), (1, 6, 11, 12), (2, 7, 8, 13),
   (3, 4, 9, 14)]

/-- Mixes four words with two words of a block. -/
def quarter (v : Array UInt64) (places : Nat × Nat × Nat × Nat) (x y : UInt64) : Array UInt64 :=
  let (i, j, k, l) := places
  let a := wordAt v i + wordAt v j + x
  let d := rightLong (wordAt v l ^^^ a) 32
  let c := wordAt v k + d
  let b := rightLong (wordAt v j ^^^ c) 24
  let a := a + b + y
  let d := rightLong (d ^^^ a) 16
  let c := c + d
  let b := rightLong (b ^^^ c) 63
  (((v.set! i a).set! j b).set! k c).set! l d

/-- A round. -/
def blakeRound (w : Array UInt64) (v : Array UInt64) (i : Nat) : Array UInt64 :=
  let order := ((orders[i % 10]?).getD []).map (wordAt w)
  (quarters.zip (parts 2 16 order)).foldl (fun v (places, xy) => quarter v places (xy.headD 0) (xy.getLastD 0)) v

/-- The words after a block, behind so many bytes with it. -/
def blakeBlock (h : List UInt64) (count : Nat) (isLast : Bool) (block : List UInt8) : List UInt64 :=
  let low := firstRoots.take 4
  let marks : List UInt64 := [UInt64.ofNat count, UInt64.ofNat (count / 2 ^ 64), if isLast then ~~~0 else 0, 0]
  let start := (h ++ low ++ crossed (firstRoots.drop 4) marks).toArray
  let filled := block ++ List.replicate (128 - block.length) 0
  let v := ((List.range 12).foldl (blakeRound (words UInt64.ofNat .lowFirst 8 filled)) start).toList
  crossed h (crossed (v.take 8) (v.drop 8))

/-- The words after blocks, behind so many bytes. -/
def blakeBlocks (h : List UInt64) (count : Nat) : List (List UInt8) → List UInt64
  | [] => blakeBlock h count true []
  | [b] => blakeBlock h (count + b.length) true b
  | b :: rest => blakeBlocks (blakeBlock h (count + b.length) false b) (count + b.length) rest

/-- The digest with a length. -/
def blake (length : Nat) (message : Bytes) : List UInt8 :=
  let start :=
    match firstRoots with
    | x :: rest => (x ^^^ UInt64.ofNat (0x01010000 + length)) :: rest
    | [] => []
  ((blakeBlocks start 0 (parts 128 message.length message)).flatMap fun x => Order.bytes .lowFirst 8 x.toNat).take length

/-! ## All kinds -/

/-- The digest of a message. -/
def bytesOf (d : Digest) (message : Bytes) : List UInt8 :=
  match d with
  | md5 =>
    ((blocks .lowFirst 64 8 message).foldl md5Block [0x67452301, 0xefcdab89, 0x98badcfe, 0x10325476]).flatMap
      fun x => Order.bytes .lowFirst 4 x.toNat
  | sha1 =>
    ((blocks .highFirst 64 8 message).foldl sha1Block
      [0x67452301, 0xefcdab89, 0x98badcfe, 0x10325476, 0xc3d2e1f0]).flatMap fun x => Order.bytes .highFirst 4 x.toNat
  | sha224 => (short (nextRoots.map fun x => UInt32.ofNat (x.toNat % 2 ^ 32)) message).take 28
  | sha256 => short (firstRoots.map fun x => UInt32.ofNat (x.toNat / 2 ^ 32)) message
  | sha384 => (long nextRoots message).take 48
  | sha512 => long firstRoots message
  | blake2b length => blake length message

/-- The digest of a message in hexadecimal digits. -/
def of (d : Digest) (message : Bytes) : Octets := shown (d.bytesOf message)

/-- The name of a kind. -/
def name : Digest → String
  | md5 => "MD5"
  | sha1 => "SHA1"
  | sha224 => "SHA224"
  | sha256 => "SHA256"
  | sha384 => "SHA384"
  | sha512 => "SHA512"
  | blake2b length => if length = 64 then "BLAKE2b" else "BLAKE2b-" ++ Numeral.text (8 * length)

/-- The count of bytes of a digest. -/
def size : Digest → Nat
  | md5 => 16
  | sha1 => 20
  | sha224 => 28
  | sha256 => 32
  | sha384 => 48
  | sha512 => 64
  | blake2b length => length

end Digest
end ElmAssay.Machine
