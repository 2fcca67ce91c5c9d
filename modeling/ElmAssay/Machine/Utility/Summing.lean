import ElmAssay.Machine.Digest
import ElmAssay.Machine.Utility.Basic

/-!
# Checksums

Programs that show checksums and digests of files (`cksum`, `sum`, `md5sum` and the others of its kind), and that check
lists of digests against the files (`Summing.checkList`). A line of such a list holds the digest in front of the name, or
behind it with the name of the kind at the front (`Summing.entryOf?`).
-/

namespace ElmAssay.Machine.Utility

open Work

namespace Summing

/-- The kinds of checksums. -/
inductive Sum
  | cyclic
  /-- The sum that is turned at each byte. -/
  | turned
  /-- The sum that is folded in the end. -/
  | folded
  | digest (d : Digest)
  deriving DecidableEq, Repr

/-- The remainder after a byte. -/
def cyclicStep (c : UInt32) (b : UInt8) : UInt32 :=
  (List.range 8).foldl (fun c _ => if c >>> 31 = 1 then (c <<< 1) ^^^ 0x04c11db7 else c <<< 1) (c ^^^ (b.toUInt32 <<< 24))

/-- The bytes of a number that are not zero at the end, lowest first. -/
def sizeBytes (n : Nat) : List UInt8 := ((List.range 8).takeWhile fun i => 256 ^ i ≤ n).map fun i => UInt8.ofNat (n / 256 ^ i)

/-- The remainder of a message with its size behind it. -/
def cyclic (message : Bytes) : Nat := (~~~((message ++ sizeBytes message.length).foldl cyclicStep 0)).toNat

/-- The sum that is turned to the right at each byte. -/
def turned (message : Bytes) : Nat := message.foldl (fun s b => (s / 2 + s % 2 * 2 ^ 15 + b.toNat) % 2 ^ 16) 0

/-- The sum of the bytes, folded to two bytes. -/
def folded (message : Bytes) : Nat :=
  let s := message.foldl (fun s b => (s + b.toNat) % 2 ^ 32) 0
  let r := s % 2 ^ 16 + s / 2 ^ 16
  r % 2 ^ 16 + r / 2 ^ 16

/-- How checksums are shown. -/
structure Manner where
  sum : Sum
  isTagged : Bool
  isBinary : Bool
  mark : Octets
  /-- Whether names of files are shown where they are not needed. -/
  isNaming : Bool
  deriving DecidableEq, Repr

/-- A name in which line ends and backslashes are escaped. -/
def escaped (name : Octets) : Octets :=
  String.ofList (name.toList.flatMap fun c =>
    if c = '\n' then ['\\', 'n'] else if c = '\r' then ['\\', 'r'] else if c = '\\' then ['\\', '\\'] else [c])

/-- Whether a name has to be escaped. -/
def needsEscape (name : Octets) : Bool := name.toList.any fun c => c == '\n' || c == '\r' || c == '\\'

/-- The line about a file. -/
def lineOf (m : Manner) (name : Octets) (message : Bytes) : Octets :=
  let named := if m.isNaming then " " ++ name else ""
  let size := message.length
  match m.sum with
  | .cyclic => Numeral.text (cyclic message) ++ " " ++ Numeral.text size ++ named ++ m.mark
  | .turned =>
    Numeral.padLeft '0' 5 (Numeral.text (turned message)) ++ " " ++
      Numeral.padLeft ' ' 5 (Numeral.text ((size + 1023) / 1024)) ++ named ++ m.mark
  | .folded => Numeral.text (folded message) ++ " " ++ Numeral.text ((size + 511) / 512) ++ named ++ m.mark
  | .digest d =>
    let isEscaped := m.mark = "\n" && needsEscape name
    let front := if isEscaped then "\\" else ""
    let name := if isEscaped then escaped name else name
    let value := d.of message
    if m.isTagged then s!"{front}{d.name} ({name}) = {value}" ++ m.mark
    else front ++ value ++ (if m.isBinary then " *" else "  ") ++ name ++ m.mark

/-- Shows the checksums of files. -/
def showAll (m : Manner) : List Octets → Work Unit
  | [] => return
  | path :: rest => do
    match ← readInput? path with
    | some data => put (lineOf m path (Octets.toBytes data))
    | none => pure ()
    showAll m rest

/-! ## Lists -/

/-- An entry of a list: the kind, the digest, and the file. -/
structure Entry where
  digest : Digest
  value : Octets
  path : Octets
  deriving DecidableEq, Repr

/-- The name that an escaped one stands for, if it does. -/
def unescaped? : List Char → Option (List Char)
  | [] => some []
  | '\\' :: 'n' :: rest => (unescaped? rest).map ('\n' :: ·)
  | '\\' :: 'r' :: rest => (unescaped? rest).map ('\r' :: ·)
  | '\\' :: '\\' :: rest => (unescaped? rest).map ('\\' :: ·)
  | '\\' :: _ => none
  | c :: rest => (unescaped? rest).map (c :: ·)

/-- Whether a character is a blank. -/
def isBlank (c : Char) : Bool := c == ' ' || c == '\t'

/-- The path in an entry. -/
def pathOf? (isEscaped : Bool) (name : List Char) : Option Octets :=
  (if isEscaped then unescaped? name else some name).map String.ofList

/-- Whether characters are the digits of a digest. -/
def isValue (d : Digest) (s : List Char) : Bool := s.length == 2 * d.size && s.all (Numeral.isDigitIn 16)

/-- Reads an entry behind the name of its kind: a file in brackets, an equals sign, and the digest. -/
def readTagged? (d : Digest) (isEscaped : Bool) (s : List Char) : Option Entry := do
  let s := if s.head? = some ' ' then s.drop 1 else s
  if s.head? != some '(' then none
  let reversed := (s.drop 1).reverse
  let behind := (reversed.takeWhile (· != ')')).reverse
  let name := (reversed.drop (behind.length + 1)).reverse
  if reversed.length = behind.length then none
  let path ← pathOf? isEscaped name
  match behind.dropWhile isBlank with
  | '=' :: value =>
    let value := value.dropWhile isBlank
    if isValue d value then some ⟨d, String.ofList value, path⟩ else none
  | _ => none

/-- Reads an entry whose digest comes first. -/
def readPlain? (d : Digest) (isEscaped : Bool) (s : List Char) : Option Entry := do
  let value := s.takeWhile fun c => !isBlank c
  let d :=
    match d with
    | .blake2b _ => .blake2b (value.length / 2)
    | d => d
  if !isValue d value then none
  match s.drop value.length with
  | _ :: ' ' :: name => (pathOf? isEscaped name).map fun path => ⟨d, String.ofList value, path⟩
  | _ :: '*' :: name => (pathOf? isEscaped name).map fun path => ⟨d, String.ofList value, path⟩
  | _ :: c :: name => (pathOf? isEscaped (c :: name)).map fun path => ⟨d, String.ofList value, path⟩
  | _ => none

/-- The kinds of digests of full length. -/
def kinds : List Digest := [.blake2b 64, .md5, .sha1, .sha224, .sha256, .sha384, .sha512]

/-- Reads an entry of a kind, or of any kind. -/
def entryOf? (kind : Option Digest) (line : Octets) : Option Entry :=
  let s := line.toList.dropWhile isBlank
  let isEscaped := s.head? == some '\\'
  let s := if isEscaped then s.drop 1 else s
  let tagged (d : Digest) : Option Entry :=
    if d.name.toList.isPrefixOf s then
      let rest := s.drop d.name.length
      match d, rest with
      | .blake2b _, '-' :: rest =>
        let digits := rest.takeWhile (Numeral.isDigitIn 10)
        let bits := Numeral.valueIn 10 digits
        if bits % 8 = 0 && 0 < bits && bits ≤ 512 then
          readTagged? (.blake2b (bits / 8)) isEscaped (rest.drop digits.length)
        else none
      | d, rest => readTagged? d isEscaped rest
    else none
  match kind with
  | some d => (tagged d).or (readPlain? d isEscaped s)
  | none => kinds.findSome? tagged

/-- How lists are checked. -/
structure Checking where
  kind : Option Digest
  /-- What is told of: everything, no successes, or only what cannot be read. -/
  isQuiet : Bool
  isSilent : Bool
  warns : Bool
  isStrict : Bool
  passesMissing : Bool
  deriving DecidableEq, Repr

/-- What comes of a list: how many entries there were, hit and failed, and how many could not be read. -/
structure Tally where
  formed : Nat
  malformed : Nat
  hits : Nat
  misses : Nat
  unread : Nat
  deriving DecidableEq, Repr

/-- Checks an entry. -/
def checkEntry (c : Checking) (t : Tally) (e : Entry) : Work Tally := do
  let t := { t with formed := t.formed + 1 }
  let shown := if needsEscape e.path then "\\" ++ escaped e.path else e.path
  let data ← readOperand e.path
  match data with
  | .error r =>
    if c.passesMissing && r = .noEntry then return t
    let name := Shown.plain e.path
    warn s!"{name}: {r.wording}"
    if !c.isSilent then putLine (shown ++ ": FAILED open or read")
    return { t with unread := t.unread + 1 }
  | .ok data =>
    if e.digest.of (Octets.toBytes data) = e.value.toLower then
      if !c.isSilent && !c.isQuiet then putLine (shown ++ ": OK")
      return { t with hits := t.hits + 1 }
    else
      if !c.isSilent then putLine (shown ++ ": FAILED")
      return { t with misses := t.misses + 1 }

/-- Checks the lines of a list from the one with a number on. -/
def checkLines (c : Checking) (list shown : Octets) : Nat → Tally → List Octets → Work Tally
  | _, t, [] => return t
  | number, t, line :: rest => do
    let line := String.ofList (Text.dropTrailing (· == '\r') line.toList)
    if line.isEmpty || line.startsWith "#" then checkLines c list shown (number + 1) t rest
    else
      match (entryOf? c.kind line).filter fun e => !(list == "-" && e.path == "-") with
      | some e => checkLines c list shown (number + 1) (← checkEntry c t e) rest
      | none =>
        if c.warns then
          let kind := (c.kind.map Digest.name).getD "CRC"
          warn s!"{shown}: {number}: improperly formatted {kind} checksum line"
        checkLines c list shown (number + 1) { t with malformed := t.malformed + 1 } rest

/-- A count with words that follow one, or several. -/
def counted (n : Nat) (one several : String) : Octets := Numeral.text n ++ " " ++ if n = 1 then one else several

/-- Checks a list. -/
def checkList (c : Checking) (list : Octets) : Work Unit := do
  let shown := Shown.plain (if list = "-" then "standard input" else list)
  match ← readOperand list with
  | .error .isDirectory => complain s!"{shown}: read error"
  | .error r => complain s!"{shown}: {r.wording}"
  | .ok data =>
    let t ← checkLines c list shown 1 ⟨0, 0, 0, 0, 0⟩ (linesOf data)
    if t.formed = 0 then complain s!"{shown}: no properly formatted checksum lines found"
    else
      if !c.isSilent then
        if t.malformed != 0 then
          warn ("WARNING: " ++ counted t.malformed "line is improperly formatted" "lines are improperly formatted")
        if t.unread != 0 then
          warn ("WARNING: " ++ counted t.unread "listed file could not be read" "listed files could not be read")
        if t.misses != 0 then
          warn ("WARNING: " ++ counted t.misses "computed checksum did NOT match" "computed checksums did NOT match")
        if c.passesMissing && t.hits = 0 then warn s!"{shown}: no file was verified"
      if t.hits = 0 || t.misses != 0 || t.unread != 0 || (c.isStrict && t.malformed != 0) then raiseStatus 1

/-! ## Options -/

/-- The options about digests. -/
def switches : List Switch :=
  [.flag 'b' "binary", .flag 'c' "check", .flag 't' "text", .flag 'w' "warn", .flag 'z' "zero", .named 'T' "tag" .nothing,
   .named 'I' "ignore-missing" .nothing, .named 'Q' "quiet" .nothing, .named 'S' "status" .nothing,
   .named 'R' "strict" .nothing]

/-- Refuses options that do not go together. -/
def checkOptions (o : Arguments) : Work Unit := do
  let checks := o.has 'c'
  let mode := o.last? ['b', 't', 'T']
  let verifying (key : Char) (name : String) : Work Unit :=
    if o.has key && !checks then failUsage 1 s!"the --{name} option is meaningful only when verifying checksums"
    else return
  if o.has 'T' && mode = some 't' then failUsage 1 "--tag does not support --text mode"
  if o.has 'z' && checks then failUsage 1 "the --zero option is not supported when verifying checksums"
  if o.has 'T' && checks then failUsage 1 "the --tag option is meaningless when verifying checksums"
  if mode.isSome && checks then failUsage 1 "the --binary and --text options are meaningless when verifying checksums"
  verifying 'I' "ignore-missing"
  let last := o.last? ['w', 'Q', 'S']
  if last = some 'S' then verifying 'S' "status"
  if last = some 'w' then verifying 'w' "warn"
  if last = some 'Q' then verifying 'Q' "quiet"
  verifying 'R' "strict"

/-- How lists are checked for options. -/
def checkingOf (o : Arguments) (kind : Option Digest) : Checking :=
  let last := o.last? ['w', 'Q', 'S']
  { kind := kind, isQuiet := last = some 'Q', isSilent := last = some 'S', warns := last = some 'w', isStrict := o.has 'R'
    passesMissing := o.has 'I' }

/-- Does what options ask for with files. -/
def handle (o : Arguments) (m : Manner) (kind : Option Digest) : Work Unit := do
  if o.has 'c' then
    for list in orInput o.operands do
      checkList (checkingOf o kind) list
  else showAll m (orInput o.operands)

/-- The length in bytes that an option gives a digest, where none and zero are the full one. -/
def lengthOf (o : Arguments) : Work Nat := do
  match o.value? 'l' with
  | none => return 64
  | some text =>
    match Size.readWithin "" 0 (2 ^ 64 - 1) text.toList with
    | .error d =>
      let shown := Shown.marked text
      Work.fail 1 s!"invalid length: {shown}{d.ending}"
    | .ok n =>
      let shown := Shown.marked text
      if n % 8 != 0 then
        warn s!"invalid length: {shown}"
        Work.fail 1 "length is not a multiple of 8"
      if 512 < n then
        let kind := Shown.marked "BLAKE2b"
        warn s!"invalid length: {shown}"
        Work.fail 1 s!"maximum digest length for {kind} is 512 bits"
      return if n = 0 then 64 else n / 8

/-- How digests are shown for options. -/
def mannerOf (o : Arguments) (d : Digest) (isTagged : Bool) : Manner :=
  { sum := .digest d, isTagged := isTagged, isBinary := o.last? ['b', 't', 'T'] = some 'b'
    mark := if o.has 'z' then "\x00" else "\n", isNaming := true }

/-- The kinds of checksums by their names. -/
def algorithms : List (List String × Sum) :=
  [(["bsd"], .turned), (["sysv"], .folded), (["crc"], .cyclic), (["md5"], .digest .md5), (["sha1"], .digest .sha1),
   (["sha224"], .digest .sha224), (["sha256"], .digest .sha256), (["sha384"], .digest .sha384),
   (["sha512"], .digest .sha512), (["blake2b"], .digest (.blake2b 64))]

end Summing

open Summing in
/-- Shows digests of a kind, or checks lists of them. -/
def digesting (d : Digest) : Utility := fun _ call => complete call.name do
  let o ← Arguments.read switches 1 call.arguments
  checkOptions o
  handle o (mannerOf o d (o.has 'T')) (some d)

open Summing in
/-- Shows digests with a length, or checks lists of them. -/
def b2sum : Utility := fun _ call => complete call.name do
  let o ← Arguments.read (.valued 'l' "length" :: switches) 1 call.arguments
  let length ← lengthOf o
  checkOptions o
  handle o (mannerOf o (.blake2b length) (o.has 'T')) (some (.blake2b length))

open Summing in
/-- Shows checksums with the sizes of the files, or other ones. -/
def cksum : Utility := fun _ call => complete call.name do
  let o ← Arguments.read
    (.valued 'a' "algorithm" :: .valued 'l' "length" :: .named 'U' "untagged" .nothing :: .named 'D' "debug" .nothing ::
      switches.filter fun s => !(['b', 't'].contains s.key)) 1 call.arguments
  let sum ←
    match o.value? 'a' with
    | some word => Arguments.choose "--algorithm" algorithms word
    | none => pure .cyclic
  let length ← lengthOf o
  let sum ←
    match sum with
    | .digest (.blake2b _) => pure (.digest (.blake2b length))
    | sum =>
      if o.has 'l' && length != 64 then Work.fail 1 "--length is only supported with --algorithm=blake2b"
      pure sum
  if o.has 'c' && o.has 'a' && [.cyclic, .turned, .folded].contains sum then
    Work.fail 1 "--check is not supported with --algorithm=\x7bbsd,sysv,crc\x7d"
  if !(o.last? ['T', 'U'] = some 'T' && !o.has 'c') then checkOptions { o with options := o.options.filter (·.1 != 'T') }
  let isTagged := o.last? ['T', 'U'] != some 'U'
  match sum with
  | .digest d => handle o (mannerOf o d isTagged) (some d)
  | sum => handle o { mannerOf o .md5 false with sum := sum, isNaming := !o.operands.isEmpty } none

open Summing in
/-- Shows short checksums. -/
def sum : Utility := fun _ call => complete call.name do
  let o ← Arguments.read [.flag 'r' "", .flag 's' "sysv"] 1 call.arguments
  let kind := if o.last? ['r', 's'] = some 's' then Sum.folded else .turned
  showAll { sum := kind, isTagged := false, isBinary := false, mark := "\n", isNaming := !o.operands.isEmpty }
    (orInput o.operands)

end ElmAssay.Machine.Utility
