import ElmAssay.Machine.Octets
import ElmAssay.Machine.Utility.Basic

/-!
# Encoded bytes

Programs that write bytes with few characters and read them back (`base64`, `base32`, `basenc`). What they write is cut into
lines of one length.
-/

/-!
## Bytes written with few characters

A coding writes bytes with the characters of an alphabet: a group of bytes becomes a group of characters, each of which
stands for some bits (`Coding.encode`). A group that lacks bytes is filled up, or its missing characters are left out.
Characters are read back group by group, as far as they make sense (`Coding.decode`).
-/

namespace ElmAssay.Machine

/-- A coding: its alphabet, the bits of a character, and the bytes and characters of a group. -/
structure Coding where
  alphabet : List Char
  bits : Nat
  bytes : Nat
  chars : Nat
  /-- Whether the lowest bit of a byte comes first. -/
  isTurned : Bool
  /-- Whether a group that makes no sense as a whole brings the bytes in front of that. -/
  isLenient : Bool
  deriving DecidableEq, Repr

namespace Coding

/-- The character that fills up groups. -/
def filler : Char := '='

/-- The letters that many alphabets begin with. -/
def letters : List Char := "ABCDEFGHIJKLMNOPQRSTUVWXYZ".toList

/-- The digits. -/
def digits : List Char := "0123456789".toList

/-- The coding with 64 characters, the last two of which are given. -/
def sixtyFour (last : List Char) : Coding :=
  ⟨letters ++ letters.map Char.toLower ++ digits ++ last, 6, 3, 4, false, true⟩

/-- The coding with 32 characters. -/
def thirtyTwo (alphabet : List Char) : Coding := ⟨alphabet, 5, 5, 8, false, false⟩

/-- The coding with 16 characters. -/
def sixteen : Coding := ⟨digits ++ letters.take 6, 4, 1, 2, false, false⟩

/-- The coding with two characters. -/
def two (isTurned : Bool) : Coding := ⟨['0', '1'], 1, 1, 8, isTurned, false⟩

/-- The bits of a number, highest first. -/
def bitsOf (count n : Nat) : List Bool := ((List.range count).map n.testBit).reverse

/-- The value of bits, highest first. -/
def valueOf (bits : List Bool) : Nat := bits.foldl (fun n b => 2 * n + b.toNat) 0

/-- Parts of a list of one size, of which the last one may be shorter. The fuel bounds their count. -/
def groups {α : Type} (size : Nat) : Nat → List α → List (List α)
  | 0, _ => []
  | _, [] => []
  | fuel + 1, s => s.take size :: groups size fuel (s.drop size)

/-- The bits of a byte. -/
def byteBits (c : Coding) (b : UInt8) : List Bool :=
  if c.isTurned then (bitsOf 8 b.toNat).reverse else bitsOf 8 b.toNat

/-- The characters for a group of bytes. -/
def encodeGroup (c : Coding) (bytes : List UInt8) : List Char :=
  let bits := bytes.flatMap c.byteBits
  let written := (groups c.bits bits.length bits).map fun g =>
    (c.alphabet[valueOf (g ++ List.replicate (c.bits - g.length) false)]?).getD filler
  written ++ List.replicate (c.chars - written.length) filler

/-- The characters for bytes. -/
def encode (c : Coding) (bytes : Bytes) : List Char := (groups c.bytes bytes.length bytes).flatMap c.encodeGroup

/-- What a character stands for. -/
def valueOf? (c : Coding) (x : Char) : Option Nat := c.alphabet.idxOf? x

/-- The bytes for the characters of a group in front of the first one that stands for nothing, with whether the rest fills
up the group. -/
def decodeGroup (c : Coding) (g : List Char) : List UInt8 × Bool :=
  let front := g.takeWhile fun x => (c.valueOf? x).isSome
  let bits := front.flatMap fun x => bitsOf c.bits ((c.valueOf? x).getD 0)
  let whole := (groups 8 bits.length bits).filter fun b => b.length == 8
  let bytes := whole.map fun b => UInt8.ofNat (valueOf (if c.isTurned then b.reverse else b))
  let rest := g.drop front.length
  let isFilled := g.length == c.chars && rest.all (· == filler)
  let isFit := (c.encodeGroup bytes).length == c.chars && front.length == (8 * bytes.length + c.bits - 1) / c.bits
  (bytes, isFilled && isFit && !bytes.isEmpty)

/-- The bytes for groups of characters, with whether all of them make sense. -/
def decodeGroups (c : Coding) : List (List Char) → List UInt8 × Bool
  | [] => ([], true)
  | g :: rest =>
    match c.decodeGroup g with
    | (bytes, true) =>
      let (others, isWhole) := decodeGroups c rest
      (bytes ++ others, isWhole)
    | (bytes, false) => (if c.isLenient then bytes else [], false)

/-- The bytes for characters, among which line ends do not count, with whether all of them make sense. -/
def decode (c : Coding) (s : List Char) : List UInt8 × Bool :=
  let s := s.filter (· != '\n')
  c.decodeGroups (groups c.chars s.length s)

end Coding
end ElmAssay.Machine

/-! ## The programs -/

namespace ElmAssay.Machine.Utility

open Work

namespace Encoding

/-- Lines of a length, none of which is shorter but the last one; without a length there is one without an end. -/
def wrapped (width : Nat) (s : List Char) : Octets :=
  if width = 0 then String.ofList s
  else String.join ((Coding.groups width s.length s).map fun l => String.ofList l ++ "\n")

/-- The options of all encodings. -/
def switches : List Switch := [.flag 'd' "decode", .flag 'i' "ignore-garbage", .valued 'w' "wrap"]

/-- The width that an option asks for. -/
def widthOf (o : Arguments) : Work Nat := do
  match o.value? 'w' with
  | none => return 76
  | some text =>
    let shown := Shown.marked text
    match Size.readWhole text.toList with
    | .ok n => if n < 0 then Work.fail 1 s!"invalid wrap size: {shown}" else return n.toNat
    | .error _ => Work.fail 1 s!"invalid wrap size: {shown}"

/-- Writes a file with a coding, or reads it back. -/
def convert (o : Arguments) (c : Coding) : Work Unit := do
  let width ← widthOf o
  match o.operands with
  | _ :: extra :: _ =>
    let shown := Shown.marked extra
    failUsage 1 s!"extra operand {shown}"
  | _ => pure ()
  let path := o.operands.headD "-"
  match ← readOperand path with
  | .error .isDirectory => Work.fail 1 s!"read error: {Refusal.isDirectory.wording}"
  | .error r =>
    let shown := Shown.plain path
    Work.fail 1 s!"{shown}: {r.wording}"
  | .ok data =>
    if o.has 'd' then
      let isKnown (x : Char) : Bool := (c.valueOf? x).isSome || x == Coding.filler
      let (bytes, isWhole) := c.decode (if o.has 'i' then data.toList.filter isKnown else data.toList)
      put (Octets.ofBytes bytes)
      if !isWhole then Work.fail 1 "invalid input"
    else put (wrapped width (c.encode (Octets.toBytes data)))

/-- The coding with 64 characters that is meant without further ado. -/
def usual : Coding := .sixtyFour ['+', '/']

/-- The coding with 32 characters that is meant without further ado. -/
def usualSmall : Coding := .thirtyTwo (Coding.letters ++ "234567".toList)

/-- The codings by name, with the keys of their options. -/
def codings : List (Char × String × Coding) :=
  [('A', "base64", usual), ('B', "base64url", .sixtyFour ['-', '_']), ('C', "base32", usualSmall),
   ('D', "base32hex", .thirtyTwo (Coding.digits ++ Coding.letters.take 22)), ('E', "base16", .sixteen),
   ('F', "base2msbf", .two false), ('G', "base2lsbf", .two true)]

end Encoding

open Encoding in
/-- Writes bytes with a coding, or reads them back. -/
def encoding (c : Coding) : Utility := fun _ call => complete call.name do
  convert (← Arguments.read switches 1 call.arguments) c

open Encoding in
/-- Writes bytes with a coding of choice, or reads them back. -/
def basenc : Utility := fun _ call => complete call.name do
  let o ← Arguments.read (codings.map (fun (key, name, _) => .named key name .nothing) ++ switches) 1 call.arguments
  match (o.last? (codings.map Prod.fst)).bind fun key => codings.lookup key with
  | some (_, c) => convert o c
  | none => failUsage 1 "missing encoding type"

end ElmAssay.Machine.Utility
