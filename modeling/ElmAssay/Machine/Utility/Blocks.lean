import ElmAssay.Machine.Numeral
import ElmAssay.Machine.Scale
import ElmAssay.Machine.Utility.Reading

/-!
# The program that copies blocks

Copies a file block by block, with a conversion if one is wanted, and tells how many blocks there were (`dd`). What its
operands say is an `Order`; how far it has come is a `Course`.

A conversion (`Conversion`) writes characters in another code, changes the places of neighbours, and makes blocks of one
length from lines (`Shaping.blocks`) or the other way round (`Shaping.lines`).
-/

namespace ElmAssay.Machine

open Text

/-! ## Codes -/

/-- The place of each character in the code for punched cards. -/
def cardCode : List Nat :=
  [0, 1, 2, 3, 55, 45, 46, 47, 22, 5, 37, 11, 12, 13, 14, 15, 16, 17, 18, 19, 60, 61, 50, 38, 24, 25, 63, 39, 28, 29,
   30, 31, 64, 90, 127, 123, 91, 108, 80, 125, 77, 93, 92, 78, 107, 96, 75, 97, 240, 241, 242, 243, 244, 245, 246,
   247, 248, 249, 122, 94, 76, 126, 110, 111, 124, 193, 194, 195, 196, 197, 198, 199, 200, 201, 209, 210, 211, 212,
   213, 214, 215, 216, 217, 226, 227, 228, 229, 230, 231, 232, 233, 173, 224, 189, 154, 109, 121, 129, 130, 131, 132,
   133, 134, 135, 136, 137, 145, 146, 147, 148, 149, 150, 151, 152, 153, 162, 163, 164, 165, 166, 167, 168, 169, 192,
   79, 208, 95, 7, 32, 33, 34, 35, 36, 21, 6, 23, 40, 41, 42, 43, 44, 9, 10, 27, 48, 49, 26, 51, 52, 53, 54, 8, 56,
   57, 58, 59, 4, 20, 62, 225, 65, 66, 67, 68, 69, 70, 71, 72, 73, 81, 82, 83, 84, 85, 86, 87, 88, 89, 98, 99, 100,
   101, 102, 103, 104, 105, 112, 113, 114, 115, 116, 117, 118, 119, 120, 128, 138, 139, 140, 141, 142, 143, 144, 106,
   155, 156, 157, 158, 159, 160, 170, 171, 172, 74, 174, 175, 176, 177, 178, 179, 180, 181, 182, 183, 184, 185, 186,
   187, 188, 161, 190, 191, 202, 203, 204, 205, 206, 207, 218, 219, 220, 221, 222, 223, 234, 235, 236, 237, 238, 239,
   250, 251, 252, 253, 254, 255]

/-- The characters whose place is another one in the code of printers. -/
def printerChanges : List (Nat × Nat) := [(94, 95), (126, 161), (203, 154), (213, 173), (229, 189)]

/-- A way to write characters in another code. -/
inductive Recoding
  | fromCards
  | toCards
  | toPrinters
  deriving DecidableEq, Repr

/-- A character in the other code. -/
def Recoding.apply (r : Recoding) (c : Char) : Char :=
  Char.ofNat <|
    match r with
    | .fromCards => cardCode.idxOf c.toNat
    | .toCards => cardCode.getD c.toNat 0
    | .toPrinters => (printerChanges.lookup c.toNat).getD (cardCode.getD c.toNat 0)

/-! ## Conversions -/

/-- What becomes of lines. -/
inductive Shape
  /-- Each line becomes a block of so many characters. -/
  | blocks (size : Nat)
  /-- Each block of so many characters becomes a line. -/
  | lines (size : Nat)
  deriving DecidableEq, Repr

/-- What happens to bytes. -/
structure Conversion where
  recoding : Option Recoding
  /-- Whether letters become capital ones, or small ones. -/
  capitals : Option Bool
  swaps : Bool
  shape : Option Shape
  deriving DecidableEq, Repr

namespace Conversion

/-- A capital or small letter instead of another one. -/
def withCase (c : Conversion) (char : Char) : Char :=
  match c.capitals with
  | some true => char.toUpper
  | some false => char.toLower
  | none => char

/-- What a character becomes. -/
def char (c : Conversion) (char : Char) : Char :=
  match c.recoding with
  | some .fromCards => c.withCase (Recoding.fromCards.apply char)
  | some r => r.apply (c.withCase char)
  | none => c.withCase char

/-- A character of the layout in the code of the output. -/
def mark (c : Conversion) (char : Char) : Char :=
  match c.recoding with
  | some .fromCards => char
  | some r => r.apply char
  | none => char

end Conversion

/-- How far the shaping of lines has come: the column, how many blanks wait, and how many lines were too long. -/
structure Shaping where
  column : Nat
  blanks : Nat
  cutLines : Nat
  deriving DecidableEq, Repr

namespace Shaping

/-- Lines as blocks, behind the output so far, latest first. -/
def blocks (mark blank : Char) (size : Nat) : List Char → Shaping → List Char → Shaping × List Char
  | [], s, done => (s, done)
  | c :: rest, s, done =>
    if c = mark then blocks mark blank size rest { s with column := 0 } (List.replicate (size - s.column) blank ++ done)
    else
      let cutLines := if s.column = size then s.cutLines + 1 else s.cutLines
      let done := if s.column < size then c :: done else done
      blocks mark blank size rest { s with column := s.column + 1, cutLines := cutLines } done

/-- Blocks as lines without the blanks at their ends, behind the output so far, latest first. -/
def lines (mark blank : Char) (size : Nat) : List Char → Shaping → List Char → Shaping × List Char
  | [], s, done => (s, done)
  | c :: rest, s, done =>
    let isFull := size ≤ s.column
    let s := if isFull then { s with column := 0, blanks := 0 } else s
    let done := if isFull then mark :: done else done
    if c = blank then lines mark blank size rest { s with column := s.column + 1, blanks := s.blanks + 1 } done
    else
      lines mark blank size rest { s with column := s.column + 1, blanks := 0 }
        (c :: (List.replicate s.blanks blank ++ done))

end Shaping

/-! ## Neighbours -/

/-- Bytes that have changed places with their neighbours, and the last one if it has none. -/
def swapped : List Char → List Char × Option Char
  | a :: b :: rest =>
    let (front, odd) := swapped rest
    (b :: a :: front, odd)
  | [a] => ([], some a)
  | [] => ([], none)

end ElmAssay.Machine

/-! ## Blocks -/

namespace ElmAssay.Machine.Utility

open Text Work

namespace Blocks

/-- How much is told in the end. -/
inductive Report
  | nothing
  | counts
  | everything
  deriving DecidableEq, Repr

/-- A count of blocks, or of bytes. -/
structure Amount where
  count : Nat
  isBytes : Bool
  deriving DecidableEq, Repr

/-- What operands have said so far. -/
structure Order where
  source : Option Octets
  sink : Option Octets
  sourceBlock : Option Nat
  sinkBlock : Option Nat
  block : Option Nat
  lineBlock : Nat
  skipped : Amount
  sought : Amount
  count : Option Amount
  conversions : List Octets
  sourceFlags : List Octets
  sinkFlags : List Octets
  report : Report

namespace Order

/-- The order without operands. -/
def usual : Order :=
  { source := none, sink := none, sourceBlock := none, sinkBlock := none, block := none, lineBlock := 0
    skipped := ⟨0, false⟩, sought := ⟨0, false⟩, count := none, conversions := [], sourceFlags := [], sinkFlags := []
    report := .everything }

/-- The size of the blocks that are read. -/
def sourceSize (o : Order) : Nat := (o.block.or o.sourceBlock).getD 512

/-- The size of the blocks that are written. -/
def sinkSize (o : Order) : Nat := (o.block.or o.sinkBlock).getD 512

/-- Whether a conversion was asked for. -/
def has (o : Order) (conversion : Octets) : Bool := o.conversions.contains conversion

/-- The code that characters are written in. -/
def recoding (o : Order) : Option Recoding :=
  if o.has "ascii" then some .fromCards
  else if o.has "ebcdic" then some .toCards
  else if o.has "ibm" then some .toPrinters
  else none

/-- Whether lines become blocks. -/
def makesBlocks (o : Order) : Bool := o.lineBlock != 0 && (o.has "block" || o.has "ebcdic" || o.has "ibm")

/-- Whether blocks become lines. -/
def makesLines (o : Order) : Bool := o.lineBlock != 0 && (o.has "unblock" || o.has "ascii")

/-- The conversion. -/
def conversion (o : Order) : Conversion :=
  { recoding := o.recoding
    capitals := if o.has "ucase" then some true else if o.has "lcase" then some false else none
    swaps := o.has "swab"
    shape := if o.makesBlocks then some (.blocks o.lineBlock) else if o.makesLines then some (.lines o.lineBlock) else none }

/-- Whether blocks are written as they were read. -/
def isDirect (o : Order) : Bool :=
  o.block.isSome &&
    !(["ascii", "ebcdic", "ibm", "block", "unblock", "lcase", "ucase", "swab"].any o.has)

end Order

/-- The conversions by name. -/
def conversionNames : List Octets :=
  ["ascii", "ebcdic", "ibm", "block", "unblock", "lcase", "ucase", "sparse", "swab", "noerror", "nocreat", "excl",
   "notrunc", "sync", "fdatasync", "fsync"]

/-- The names of what can be said of a file. -/
def flagNames : List Octets :=
  ["append", "direct", "directory", "dsync", "noatime", "nocache", "noctty", "nofollow", "nonblock", "sync",
   "fullblock", "count_bytes", "skip_bytes", "seek_bytes"]

/-- Words between commas that have to be among some names. -/
def readWords (what : String) (names : List Octets) (text : Octets) : Work (List Octets) := do
  let words := text.splitOn ","
  match words.find? (!names.contains ·) with
  | none => return words
  | some word =>
    let shown := Shown.marked word
    failUsage 1 s!"{what}: {shown}"

/-- The letters in which sizes are written. -/
def sizeLetters : String := "bcEGkKMPTwYZ0"

/-- Reads a number that is not below a least one. -/
def readNumber (least : Nat) (text : Octets) : Work Nat := do
  let (result, count) := Size.readProduct sizeLetters (text.length + 1) text.toList
  let short := Shown.marked "0x"
  let long := Shown.marked "00x"
  for _ in List.range count do
    warn s!"warning: {short} is a zero multiplier; use {long} if that is intended"
  let shown := Shown.quoted text
  match result with
  | .ok n => if n < least then Work.fail 1 s!"invalid number: {shown}" else return n
  | .error d =>
    let ending := d.ending
    Work.fail 1 s!"invalid number: {shown}{ending}"

/-- Refuses an operand that nobody knows. -/
def refuseOperand {α : Type} (text : Octets) : Work α := do
  let shown := Shown.marked text
  failUsage 1 s!"unrecognized operand {shown}"

/-- Takes an operand. -/
def Order.take (o : Order) (operand : Octets) : Work Order := do
  let cs := operand.toList
  let name := String.ofList (cs.takeWhile (· != '='))
  if name.length = cs.length then refuseOperand operand
  let text := String.ofList (cs.drop (name.length + 1))
  let amount : Work Amount := return ⟨← readNumber 0 text, text.contains 'B'⟩
  match name with
  | "if" => return { o with source := some text }
  | "of" => return { o with sink := some text }
  | "conv" => return { o with conversions := o.conversions ++ (← readWords "invalid conversion" conversionNames text) }
  | "iflag" => return { o with sourceFlags := o.sourceFlags ++ (← readWords "invalid input flag" flagNames text) }
  | "oflag" => return { o with sinkFlags := o.sinkFlags ++ (← readWords "invalid output flag" flagNames text) }
  | "status" =>
    match text with
    | "none" => return { o with report := .nothing }
    | "noxfer" => return { o with report := .counts }
    | "progress" => return { o with report := .everything }
    | word =>
      let shown := Shown.marked word
      failUsage 1 s!"invalid status level: {shown}"
  | "ibs" => return { o with sourceBlock := some (← readNumber 1 text) }
  | "obs" => return { o with sinkBlock := some (← readNumber 1 text) }
  | "bs" => return { o with block := some (← readNumber 1 text) }
  | "cbs" => return { o with lineBlock := ← readNumber 1 text }
  | "skip" => return { o with skipped := ← amount }
  | "iseek" => return { o with skipped := ← amount }
  | "seek" => return { o with sought := ← amount }
  | "oseek" => return { o with sought := ← amount }
  | "count" => return { o with count := some (← amount) }
  | _ => refuseOperand operand

/-- Refuses what cannot be wanted together. -/
def Order.check (o : Order) : Work Unit := do
  if o.sinkFlags.contains "fullblock" then
    let shown := Shown.marked "fullblock"
    failUsage 1 s!"invalid output flag: {shown}"
  let both (a b : Octets) : Bool := o.has a && o.has b
  if both "ascii" "ebcdic" || both "ascii" "ibm" || both "ebcdic" "ibm" then
    Work.fail 1 "cannot combine any two of \x7bascii,ebcdic,ibm\x7d"
  if o.makesBlocks && o.makesLines then Work.fail 1 "cannot combine block and unblock"
  if both "lcase" "ucase" then Work.fail 1 "cannot combine lcase and ucase"
  if both "excl" "nocreat" then Work.fail 1 "cannot combine excl and nocreat"
  let isTwofold (flags : List Octets) : Bool := flags.contains "direct" && flags.contains "nocache"
  if isTwofold o.sourceFlags || isTwofold o.sinkFlags then Work.fail 1 "cannot combine direct and nocache"

/-! ## Copying -/

/-- How far a copy has come: the blocks that were read and written, whole ones and others, the bytes that were written,
the state of the shaping, a byte without a neighbour, and the pieces that wait to fill a block, latest first, with their
length. -/
structure Course where
  wholeRead : Nat
  partRead : Nat
  wholeWritten : Nat
  partWritten : Nat
  bytes : Nat
  shaping : Shaping
  odd : Option Char
  held : List Octets
  heldCount : Nat

/-- The start of a copy. -/
def Course.start : Course := ⟨0, 0, 0, 0, 0, ⟨0, 0, 0⟩, none, [], 0⟩

/-- The ends of a copy: the order, the open files with their names, and the time at which it started. -/
structure Ends where
  order : Order
  source : Nat
  sourceName : Octets
  sink : Nat
  sinkName : Octets
  begun : Nat

/-- A count of bytes with a letter for a power, and whether there is one. -/
def shownAmount (k : Scale) (a : Real) : Octets × Bool :=
  let (a, power, places) := k.laidOut .nearest none a
  let digits := String.ofList (Quantity.fixed false places a.num.natAbs a.den)
  let letter := Scale.letter power
  let letter := if k = .thousands && power = 1 then "k" else letter
  let ending := if k = .binary && 0 < power then "iB" else "B"
  (digits ++ " " ++ letter ++ ending, 0 < power)

/-- Tells what was copied. -/
def tell (e : Ends) (c : Course) : Work Unit := do
  if e.order.report = .nothing then return
  say s!"{c.wholeRead}+{c.partRead} records in\n{c.wholeWritten}+{c.partWritten} records out\n"
  let cut := c.shaping.cutLines
  if cut = 1 then say "1 truncated record\n"
  else if cut != 0 then say s!"{cut} truncated records\n"
  if e.order.report = .counts then return
  let passed := (← ask .now) - e.begun
  let (thousands, isLarge) := shownAmount .thousands (.ofInt c.bytes)
  let (binary, isLarger) := shownAmount .binary (.ofInt c.bytes)
  let noun := if c.bytes = 1 then "byte" else "bytes"
  let amount :=
    if isLarger then s!"{c.bytes} bytes ({thousands}, {binary}) copied"
    else if isLarge then s!"{c.bytes} bytes ({thousands}) copied"
    else s!"{c.bytes} {noun} copied"
  let seconds := String.ofList (Quantity.general false 6 passed 1000000)
  let (rate, _) := shownAmount .thousands (Real.near (c.bytes * 1000000) passed)
  if passed = 0 then say s!"{amount}, 0 s, Infinity B/s\n" else say s!"{amount}, {seconds} s, {rate}/s\n"

/-- Ends the program after a message. -/
def failCopying {α : Type} (e : Ends) (c : Course) (message : Octets) : Work α := do
  warn message
  tell e c
  quit 1

/-- Writes a block. -/
def writeBlock (e : Ends) (c : Course) (data : Octets) : Work Course := do
  match ← ask (.write e.sink data) with
  | .ok _ =>
    let isWhole := data.length = if e.order.isDirect then e.order.sourceSize else e.order.sinkSize
    let bytes := c.bytes + data.length
    if isWhole then return { c with wholeWritten := c.wholeWritten + 1, bytes := bytes }
    else return { c with partWritten := c.partWritten + 1, bytes := bytes }
  | .error r =>
    let shown := Shown.quoted e.sinkName
    failCopying e c s!"error writing {shown}: {r.wording}"

/-- The blocks at the front of some bytes that are whole, and the rest. The fuel bounds their count. -/
def wholeBlocks (size : Nat) : Nat → List Char → List (List Char) × List Char
  | 0, cs => ([], cs)
  | fuel + 1, cs =>
    let front := cs.take size
    if front.length < size then ([], cs)
    else
      let (others, rest) := wholeBlocks size fuel (cs.drop size)
      (front :: others, rest)

/-- Gathers bytes and writes the blocks that they fill. -/
def gather (e : Ends) (c : Course) (data : Octets) : Work Course := do
  let size := e.order.sinkSize
  let c := { c with held := data :: c.held, heldCount := c.heldCount + data.length }
  if c.heldCount < size then return c
  let all := (String.join c.held.reverse).toList
  let (whole, rest) := wholeBlocks size (c.heldCount / size) all
  let c ← whole.foldlM (fun c block => writeBlock e c (String.ofList block)) c
  return { c with held := [String.ofList rest], heldCount := rest.length }

/-- Gathers bytes after they were shaped. -/
def gatherShaped (e : Ends) (c : Course) (cs : List Char) : Work Course := do
  let conversion := e.order.conversion
  let mark := conversion.mark '\n'
  let blank := conversion.mark ' '
  match conversion.shape with
  | none => gather e c (String.ofList cs)
  | some (.blocks n) =>
    let (s, done) := Shaping.blocks mark blank n cs c.shaping []
    gather e { c with shaping := s } (String.ofList done.reverse)
  | some (.lines n) =>
    let (s, done) := Shaping.lines mark blank n cs c.shaping []
    gather e { c with shaping := s } (String.ofList done.reverse)

/-- Copies what was read. -/
def copyBlock (e : Ends) (c : Course) (data : Octets) : Work Course := do
  let o := e.order
  let isWhole := o.sourceSize ≤ data.length
  let c :=
    if isWhole then { c with wholeRead := c.wholeRead + 1 } else { c with partRead := c.partRead + 1 }
  let filler := if o.makesBlocks || o.makesLines then ' ' else '\x00'
  let data :=
    if !isWhole && o.has "sync" then data ++ String.ofList (List.replicate (o.sourceSize - data.length) filler) else data
  if o.isDirect then writeBlock e c data
  else
    let cs := data.toList.map o.conversion.char
    if o.conversion.swaps then
      let (cs, odd) := swapped (c.odd.toList ++ cs)
      gatherShaped e { c with odd := odd } cs
    else gatherShaped e c cs

/-- Reads a block, or what there is of it. With `fills` the block ends only with the file. The fuel bounds the steps. -/
def readBlock (file size : Nat) (fills : Bool) : Nat → Octets → Work (Except Refusal Octets)
  | 0, held => return .ok held
  | fuel + 1, held => do
    match ← ask (.read file (size - held.length)) with
    | .error r => return .error r
    | .ok data =>
      let held := held ++ data
      if !fills || data.isEmpty || size ≤ held.length then return .ok held
      else readBlock file size fills fuel held

/-- The count of bytes up to which the next block is read; `none` if no more is wanted. -/
def Order.next? (o : Order) (c : Course) : Option Nat :=
  let done := c.wholeRead + c.partRead
  match o.count with
  | none => some o.sourceSize
  | some ⟨n, isBytes⟩ =>
    let isBytes := isBytes || o.sourceFlags.contains "count_bytes"
    let blocks := if isBytes then n / o.sourceSize else n
    let rest := if isBytes then n % o.sourceSize else 0
    if done < blocks then some o.sourceSize else if done = blocks && rest != 0 then some rest else none

/-- Whether a copy warns of blocks that are not whole. -/
def Order.warns (o : Order) : Bool :=
  o.isDirect && o.block.isSome && !o.sourceFlags.contains "fullblock" && o.report != .nothing &&
    (o.count.any (fun n => 0 < n.count) || 0 < o.skipped.count)

/-- Copies block after block. `last` is the count of bytes that were read last, as long as there was no warning. The fuel
bounds the blocks. -/
def copyBlocks (e : Ends) : Nat → Option Nat → Course → Work Course
  | 0, _, c => return c
  | fuel + 1, last, c => do
    match e.order.next? c with
    | none => return c
    | some size =>
      match ← readBlock e.source size (e.order.sourceFlags.contains "fullblock") readLimit "" with
      | .error r =>
        let shown := Shown.quoted e.sourceName
        warn s!"error reading {shown}: {r.wording}"
        setStatus 1
        return c
      | .ok data =>
        if data.isEmpty then return c
        let isShort := last.any fun n => 0 < n && n < size
        if isShort then
          let n := last.getD 0
          let noun := if n = 1 then "byte" else "bytes"
          warn s!"warning: partial read ({n} {noun}); suggest iflag=fullblock"
        let c ← copyBlock e c data
        copyBlocks e fuel (if isShort then none else last.map fun _ => data.length) c

/-- Writes what waits in the end. -/
def finish (e : Ends) (c : Course) : Work Course := do
  let c ← gatherShaped e { c with odd := none } c.odd.toList
  let conversion := e.order.conversion
  let column := c.shaping.column
  let c ←
    match conversion.shape with
    | some (.blocks n) =>
      if column = 0 then pure c
      else gather e c (String.ofList (List.replicate (n - column) (conversion.mark ' ')))
    | some (.lines _) => if column = 0 then pure c else gather e c (String.ofList [conversion.mark '\n'])
    | none => pure c
  if c.heldCount = 0 then return c
  else writeBlock e { c with held := [], heldCount := 0 } (String.join c.held.reverse)

/-! ## Places -/

/-- The count of bytes of an amount. -/
def Amount.bytes (a : Amount) (size : Nat) (isBytes : Bool) : Nat := if a.isBytes || isBytes then a.count else a.count * size

/-- Reads so many bytes in blocks; the answer is how many there were not. The fuel bounds the blocks. -/
def readAway (file size : Nat) (fills : Bool) : Nat → Nat → Work (Except Refusal Nat)
  | 0, rest => return .ok rest
  | fuel + 1, rest => do
    if rest = 0 then return .ok 0
    match ← readBlock file (min size rest) fills readLimit "" with
    | .error r => return .error r
    | .ok data => if data.isEmpty then return .ok rest else readAway file size fills fuel (rest - min size rest)

/-- Goes forward in the source. -/
def skip (e : Ends) : Work Unit := do
  let o := e.order
  let count := o.skipped.bytes o.sourceSize (o.sourceFlags.contains "skip_bytes")
  if count = 0 then return
  let shown := Shown.plain e.sourceName
  let lacks : Work Unit := do
    if o.report != .nothing then warn s!"{shown}: cannot skip to specified offset"
  match ← ask (.shift e.source 0) with
  | .ok place =>
    match ← ask (.infoOf e.source) with
    | .ok i =>
      if i.isFile && i.size < place + count then
        let _ ← ask (.shift e.source (i.size - place))
        lacks
      else
        let _ ← ask (.shift e.source count)
    | .error _ => pure ()
  | .error _ =>
    match ← readAway e.source o.sourceSize (o.sourceFlags.contains "fullblock") (count + 1) count with
    | .ok rest => if rest != 0 then lacks
    | .error r =>
      let quoted := Shown.quoted e.sourceName
      failCopying e .start s!"error reading {quoted}: {r.wording}"

/-- The count of bytes that are left out in the sink. -/
def Order.soughtBytes (o : Order) : Nat := o.sought.bytes o.sinkSize (o.sinkFlags.contains "seek_bytes")

/-- Goes forward in the sink. -/
def seek (e : Ends) : Work Unit := do
  let count := e.order.soughtBytes
  if count = 0 then return
  match ← ask (.shift e.sink count) with
  | .ok _ => return
  | .error r =>
    let shown := Shown.plain e.sinkName
    failCopying e .start s!"{shown}: cannot seek: {r.wording}"

/-- Opens the sink. -/
def openSink (o : Order) (path : Octets) : Work Nat := do
  let shown := Shown.quoted path
  let refuse (r : Refusal) : Work Nat := Work.fail 1 s!"failed to open {shown}: {r.wording}"
  let keeps := o.has "notrunc"
  let count := o.soughtBytes
  let isThere := (← ask (.info path false)).toOption.isSome
  if o.has "excl" && isThere then refuse .alreadyThere
  else
    let mode : OpenMode :=
      { reads := false, writes := true, creates := !o.has "nocreat", truncates := count = 0 && !keeps
        appends := o.sinkFlags.contains "append" }
    match ← ask (.openFile path mode) with
    | .error r => refuse r
    | .ok file =>
      if count != 0 && !keeps then
        let _ ← ask (.setSize file count)
      return file

end Blocks

/-- Copies a file block by block. -/
def dd : Utility := fun _ call => complete call.name do
  let options ← Arguments.readInOrder [] 1 call.arguments
  let o ← options.operands.foldlM Blocks.Order.take .usual
  o.check
  let source ←
    match o.source with
    | none => pure 0
    | some path =>
      match ← ask (.openFile path .reading) with
      | .ok file => pure file
      | .error r =>
        let shown := Shown.quoted path
        Work.fail 1 s!"failed to open {shown}: {r.wording}"
  let sink ←
    match o.sink with
    | none => pure 1
    | some path => Blocks.openSink o path
  let e : Blocks.Ends :=
    { order := o, source := source, sourceName := o.source.getD "standard input", sink := sink
      sinkName := o.sink.getD "standard output", begun := ← ask .now }
  Blocks.skip e
  Blocks.seek e
  let c ← Blocks.copyBlocks e readLimit (if o.warns then some 0 else none) .start
  Blocks.tell e (← Blocks.finish e c)

end ElmAssay.Machine.Utility
