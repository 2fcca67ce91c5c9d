import ElmAssay.Machine.Pieces
import ElmAssay.Machine.Utility.Paths
import ElmAssay.Machine.Utility.Running

/-!
# The program that cuts files

Writes pieces of a file to files of their own, or hands them to programs (`split`). The way to cut is a `Cutting`.
-/

namespace ElmAssay.Machine.Utility

open Text Work

namespace Cutting

/-- The ways to cut a file. A chunk may be chosen among those that are counted. -/
inductive Way
  | lines (n : Nat)
  | bytes (n : Nat)
  | filledLines (n : Nat)
  | chunks (chosen : Option Nat) (count : Nat)
  | lineChunks (chosen : Option Nat) (count : Nat)
  | turns (chosen : Option Nat) (count : Nat)
  deriving DecidableEq, Repr

/-- The count of pieces, and the one that is chosen, if these are given. -/
def Way.counted? : Way → Option (Option Nat × Nat)
  | .chunks chosen count => some (chosen, count)
  | .lineChunks chosen count => some (chosen, count)
  | .turns chosen count => some (chosen, count)
  | _ => none

/-- The pieces of a text. -/
def Way.pieces (w : Way) (mark : Char) (s : List Char) : List (List Char) :=
  match w with
  | .lines n => Pieces.ofLines mark n s
  | .bytes n => Pieces.ofBytes n s
  | .filledLines n => Pieces.ofFilledLines mark n s
  | .chunks _ count => Pieces.ofChunks count s
  | .lineChunks _ count => Pieces.ofLineChunks mark count s
  | .turns _ count => Pieces.ofTurns mark count s

/-- What options have said so far. -/
structure Draft where
  way : Option Way
  /-- The count of lines that digits spell, if they say how to cut. -/
  spelled : Option Nat
  alphabet : List Char
  start : Option (List Char)
  length : Nat
  mark : Option Char

/-- The letters in which sizes are written. -/
def sizeLetters : String := "bEGKkMmPTYZ0"

/-- Ends the program because of two ways to cut. -/
def refuseSecond {α : Type} : Work α := failUsage 1 "cannot split in more than one way"

/-- A count of pieces, which the number of one of them may stand before. -/
def readChunks (text : Octets) : Work (Option Nat × Nat) := do
  let count (text : Octets) : Work Nat :=
    Arguments.countWithin "invalid number of chunks" "" 1 (Size.limit - 1) text
  match text.splitOn "/" with
  | [whole] => return (none, ← count whole)
  | first :: rest =>
    let n ← count ("/".intercalate rest)
    if first.isEmpty then return (none, n)
    else return (some (← Arguments.countWithin "invalid chunk number" "" 1 n first), n)
  | [] => return (none, 1)

/-- The way that the option for counts of pieces tells. -/
def readCounted (text : Octets) : Work Way := do
  let text := String.ofList (text.toList.dropWhile Numeral.isSpace)
  let behind := String.ofList (text.toList.drop 2)
  if text.startsWith "r/" then
    let (chosen, count) ← readChunks behind
    return .turns chosen count
  else if text.startsWith "l/" then
    let (chosen, count) ← readChunks behind
    return .lineChunks chosen count
  else
    let (chosen, count) ← readChunks text
    return .chunks chosen count

/-- Takes an option. -/
def Draft.take (d : Draft) (option : Char × Option Octets) : Work Draft := do
  let text := option.2.getD ""
  let only (way : Work Way) : Work Draft := do
    if d.way.isSome || d.spelled.isSome then refuseSecond
    return { d with way := some (← way) }
  let numbered (letters : String) (kind : Octets) : Work Draft := do
    let cs := text.toList
    let shown := Shown.marked text
    if option.2.isSome && !cs.all letters.toList.contains then
      failUsage 1 s!"{shown}: invalid start value for {kind} suffix"
    else
      let zeros := (cs.takeWhile (· == '0')).length
      let bare := cs.drop (min zeros (cs.length - 1))
      return { d with alphabet := letters.toList, start := if option.2.isSome then some bare else d.start }
  match option.1 with
  | 'a' => return { d with length := ← Arguments.countWithin "invalid suffix length" "" 0 (2 ^ 61 - 1) text }
  | 'b' => only (.bytes <$> Arguments.countWithin "invalid number of bytes" sizeLetters 1 (2 ^ 63 - 1) text)
  | 'C' => only (.filledLines <$> Arguments.countWithin "invalid number of bytes" sizeLetters 1 (2 ^ 63 - 1) text)
  | 'l' => only (.lines <$> Arguments.countWithin "invalid number of lines" "" 1 (Size.limit - 1) text)
  | 'n' => only (readCounted text)
  | 'd' => numbered "0123456789" "numerical"
  | 'x' => numbered "0123456789abcdef" "hexadecimal"
  | 't' =>
    let found : Option Char :=
      match text.toList with
      | [c] => some c
      | ['\\', '0'] => some '\x00'
      | _ => none
    match found with
    | some c =>
      if d.mark.any (· != c) then Work.fail 1 "multiple separator characters specified"
      return { d with mark := some c }
    | none =>
      if text.isEmpty then Work.fail 1 "empty record separator"
      else
        let shown := Shown.marked text
        Work.fail 1 s!"multi-character separator {shown}"
  | '+' =>
    if text.toList.contains '/' then
      let shown := Shown.marked text
      failUsage 1 s!"invalid suffix {shown}, contains directory separator"
    return d
  | c =>
    if isAsciiDigit c then
      if d.way.isSome then refuseSecond
      return { d with spelled := some (d.spelled.getD 0 * 10 + (c.toNat - 48)) }
    return d

/-- The options. -/
def switches : List Switch :=
  [.valued 'a' "suffix-length", .named '+' "additional-suffix" .value, .valued 'b' "bytes", .valued 'C' "line-bytes",
   .flag 'd' "", .named 'd' "numeric-suffixes" .attached, .flag 'x' "", .named 'x' "hex-suffixes" .attached,
   .flag 'e' "elide-empty-files", .named 'f' "filter" .value, .valued 'l' "lines", .valued 'n' "number",
   .valued 't' "separator", .flag 'u' "unbuffered", .named 'v' "verbose" .nothing] ++
    "0123456789".toList.map fun c => .flag c ""

/-- The first name of the pieces. -/
def Draft.firstName (d : Draft) (w : Way) (front ending : Octets) : Work PieceName := do
  let base := d.alphabet.length
  let counted := w.counted?.map Prod.snd
  let startValue := d.start.map Number.digitsValue
  let last := (counted.getD 1) - 1 + match counted, startValue with
    | some count, some n => if n < count then n else 0
    | _, _ => 0
  let needed := if counted.isSome then PieceName.digitsUpTo base last else 0
  if d.length != 0 && d.length < needed then
    Work.fail 1 s!"the suffix length needs to be at least {needed}"
  let length := if d.length != 0 then d.length else max 2 needed
  let digits := (d.start.getD []).map fun c => d.alphabet.idxOf c
  if length < digits.length then
    failUsage 1 "numerical suffix start value is too large for the suffix length"
  return ⟨front, d.alphabet, List.replicate (length - digits.length) 0 ++ digits,
    d.length = 0 && counted.isNone && d.start.isNone, ending⟩

/-- Writes a piece to a file. -/
def writePiece (source : Except Refusal Info) (name : Octets) (piece : Octets) : Work Unit := do
  let shown := Shown.plain name
  match ← ask (.openFile name .touching) with
  | .error r => Work.fail 1 s!"{shown}: {r.wording}"
  | .ok file =>
    match source, ← ask (.infoOf file) with
    | .ok i, .ok o =>
      if i.isFile && i.serial = o.serial then
        let quoted := Shown.quoted name
        Work.fail 1 s!"{quoted} would overwrite input; aborting"
    | _, _ => pure ()
    let _ ← ask (.setSize file 0)
    if !piece.isEmpty then
      match ← ask (.write file piece) with
      | .ok _ => pure ()
      | .error r => Work.fail 1 s!"{shown}: {r.wording}"
    let _ ← ask (.close file)

/-- Hands a piece to a program. -/
def feedPiece (ev : Evaluator) (call : Invocation) (command name piece : Octets) : Work Unit := do
  let (source, sink) ← ask .pipe
  let environment := withBinding call.environment "FILE" name
  let shell := ((call.environment.lookup "SHELL").filter (!·.isEmpty)).getD "/bin/sh"
  let child ← lift <| Routine.fork do
    let _ ← Routine.ask (.duplicate source 0)
    Routine.close source
    Routine.close sink
    let r ← execute ev ⟨shell, ["-c", command], environment⟩
    Routine.protest s!"{call.name}: failed to run command: \"{shell} -c {command}\": {r.wording}\n"
    return 1
  let _ ← ask (.close source)
  ask (.handle Signal.pipe .ignored)
  if !piece.isEmpty then
    let _ ← ask (.write sink piece)
  let _ ← ask (.close sink)
  let shown := Shown.plain name
  match ← lift (Routine.await child) with
  | .exited 0 => return
  | .exited n => Work.fail n s!"with FILE={shown}, exit {n} from command: {command}"
  | .killed n =>
    if n != Signal.pipe then
      let signal := (Signal.name? n).getD ""
      Work.fail (n + 128) s!"with FILE={shown}, signal {signal} from command: {command}"

end Cutting

/-- Writes pieces of a file to files of their own. -/
def split : Utility := fun ev call => complete call.name do
  let options ← Arguments.read Cutting.switches 1 call.arguments
  let d ← options.options.foldlM Cutting.Draft.take ⟨none, none, "abcdefghijklmnopqrstuvwxyz".toList, none, 0, none⟩
  let command := options.value? 'f'
  let way := d.way.getD (.lines (d.spelled.getD 1000))
  let chosen := way.counted?.bind Prod.fst
  if chosen.isSome && command.isSome then failUsage 1 "--filter does not process a chunk extracted to stdout"
  if way = .lines 0 then
    let shown := Shown.marked "0"
    failUsage 1 s!"invalid number of lines: {shown}"
  let path := options.operands.head?.getD "-"
  let name ← d.firstName way (options.operands[1]?.getD "x") ((options.value? '+').getD "")
  match options.operands[2]? with
  | some extra =>
    let shown := Shown.marked extra
    failUsage 1 s!"extra operand {shown}"
  | none => pure ()
  let mark := d.mark.getD '\n'
  let source ← if path = "-" then ask (.infoOf 0) else look path
  match ← readOperand path with
  | .error r =>
    let shown := Shown.quoted path
    let plain := Shown.plain path
    if r = .isDirectory then Work.fail 1 s!"{plain}: {r.wording}"
    else Work.fail 1 s!"cannot open {shown} for reading: {r.wording}"
  | .ok text =>
    match way with
    | .turns .. => pure ()
    | way =>
      let plain := Shown.plain path
      if way.counted?.isSome && !source.toOption.any (fun i => i.isFile || i.kind == .device) then
        Work.fail 1 s!"{plain}: cannot determine file size"
    let pieces := way.pieces mark text.toList
    match chosen with
    | some n => put (String.ofList (pieces.getD (n - 1) []))
    | none =>
      let kept := if options.has 'e' then pieces.filter (!·.isEmpty) else pieces
      let mut next : Option PieceName := some name
      for piece in kept do
        match next with
        | none => Work.fail 1 "output file suffixes exhausted"
        | some name =>
          let title := name.text
          let content := String.ofList piece
          match command with
          | some command =>
            if options.has 'v' then
              let shown := Shown.plain title
              putLine s!"executing with FILE={shown}"
            Cutting.feedPiece ev call command title content
          | none =>
            if options.has 'v' then
              let shown := Shown.quoted title
              putLine s!"creating file {shown}"
            Cutting.writePiece source title content
          next := name.next?

end ElmAssay.Machine.Utility
