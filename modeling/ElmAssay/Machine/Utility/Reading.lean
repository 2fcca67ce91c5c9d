import ElmAssay.Machine.Numeral
import ElmAssay.Machine.Utility.Basic
import ElmAssay.Text.Classes

/-!
# Utilities that hand on what they read

Programs that write their input as it is or with something beside it (`cat`), or into files as well (`tee`), and how files
are read block by block (`forBlocks`).
-/

namespace ElmAssay.Machine.Utility

open Text Work

/-- Opens a file to be read, where a dash is the input; `none` after a message. -/
def openInput? (path : Octets) (message : Octets → Octets → Octets) : Work (Option Nat) := do
  if path = "-" then return some 0
  match ← ask (.openFile path .reading) with
  | .ok file => return some file
  | .error r =>
    complain (message path r.wording)
    return none

/-- Closes a file that was opened to be read. -/
def closeInput (file : Nat) : Work Unit := do
  if file != 0 then
    let _ ← ask (.close file)

/-- A message about a file. -/
def aboutFile (path wording : Octets) : Octets := Shown.plain path ++ ": " ++ wording

/-- The count of steps after which reading is given up. -/
def readLimit : Nat := 1000000000

/-- Hands the blocks of an open file to a step, with a state, up to the end or up to where the step says that it has
enough. -/
def forBlocks {σ : Type} (file size : Nat) (step : σ → Octets → Work (σ × Bool)) :
    Nat → σ → Work (Except Refusal σ)
  | 0, state => return .ok state
  | fuel + 1, state => do
    match ← ask (.read file size) with
    | .error r => return .error r
    | .ok data =>
      if data.isEmpty then return .ok state
      let (state, enough) ← step state data
      if enough then return .ok state else forBlocks file size step fuel state

/-! ## Whole files -/

/-- What is put beside the text of files. -/
structure Decoration where
  numbers : Bool
  numbersFilled : Bool
  squeezes : Bool
  showsEnds : Bool
  showsTabs : Bool
  showsHidden : Bool
  deriving DecidableEq, Repr

namespace Decoration

/-- A character as it is shown. -/
def char (d : Decoration) (c : Char) : List Char :=
  let n := c.toNat
  if c = '\t' then (if d.showsTabs then "^I".toList else [c])
  else if !d.showsHidden then [c]
  else
    let low (m : Nat) : List Char :=
      if m < 32 then ['^', Char.ofNat (m + 64)] else if m = 127 then "^?".toList else [Char.ofNat m]
    if n < 128 then low n else "M-".toList ++ low (n - 128)

/-- The state between lines: the number of the last line, how many empty lines came last, and whether a line is open. -/
structure Place where
  number : Nat
  blanks : Nat
  isOpen : Bool
  deriving DecidableEq, Repr

/-- The number in front of a line. -/
def label (number : Nat) : Octets := Numeral.padLeft ' ' 6 (Numeral.text number) ++ "\t"

/-- A text with its decoration. -/
def apply (d : Decoration) (p : Place) (text : Octets) : Place × Octets :=
  let step (acc : Place × List Octets) (piece : List Char × Bool) : Place × List Octets :=
    let (p, done) := acc
    let (line, isWhole) := piece
    let isBlank := line.isEmpty && !p.isOpen
    let blanks := if isBlank && isWhole then p.blanks + 1 else 0
    if isBlank && !isWhole then (p, done)
    else if isBlank && d.squeezes && 1 < blanks then ({ p with blanks := blanks }, done)
    else
      let counts := !p.isOpen && (if d.numbersFilled then !isBlank else d.numbers)
      let number := if counts then p.number + 1 else p.number
      let front := if counts then label number else ""
      let ended := if isWhole then (if d.showsEnds then "$\n" else "\n") else ""
      (⟨number, blanks, !isWhole⟩, (front ++ String.ofList (line.flatMap d.char) ++ ended) :: done)
  let parts := Text.cut '\n' text.toList
  let pieces := (parts.dropLast.map fun l => (l, true)) ++ (parts.getLast?.toList.map fun l => (l, false))
  let (p, done) := pieces.foldl step (p, [])
  (p, String.join done.reverse)

end Decoration

/-- The options for what is put beside the text of files. -/
def decorationSwitches : List Switch :=
  [.flag 'A' "show-all", .flag 'b' "number-nonblank", .flag 'e' "", .flag 'E' "show-ends", .flag 'n' "number",
   .flag 's' "squeeze-blank", .flag 't' "", .flag 'T' "show-tabs", .flag 'u' "", .flag 'v' "show-nonprinting"]

/-- Writes files one after the other. -/
def cat : Utility := fun _ call => complete call.name do
  let options ← Arguments.read decorationSwitches 1 call.arguments
  let has (keys : List Char) : Bool := keys.any options.has
  let d : Decoration :=
    { numbers := has ['n'], numbersFilled := has ['b'], squeezes := has ['s'], showsEnds := has ['A', 'e', 'E']
      showsTabs := has ['A', 't', 'T'], showsHidden := has ['A', 'e', 't', 'v'] }
  let isPlain := !has ['A', 'b', 'e', 'E', 'n', 's', 't', 'T', 'v']
  let mut place : Decoration.Place := ⟨0, 0, false⟩
  for path in orInput options.operands do
    match ← openInput? path aboutFile with
    | none => pure ()
    | some file =>
      let result ← forBlocks file Routine.blockSize (fun place data => do
        let (place, text) := if isPlain then (place, data) else d.apply place data
        emit text
        return (place, false)) readLimit place
      match result with
      | .ok p => place := p
      | .error r => complain (aboutFile path r.wording)
      closeInput file

/-! ## Copies -/

/-- What happens where a copy cannot be written: whether a pipe that nobody reads any more ends the program as it usually
does, whether this is passed over in silence, and whether other failures end the program. -/
structure CopyManner where
  isUsual : Bool
  isPipeQuiet : Bool
  isStrict : Bool

/-- The manners of copying by name. -/
def copyManners : List (List String × CopyManner) :=
  [(["warn"], ⟨false, false, false⟩), (["warn-nopipe"], ⟨false, true, false⟩), (["exit"], ⟨false, false, true⟩),
   (["exit-nopipe"], ⟨false, true, true⟩)]

/-- Tells that a copy failed. -/
def failCopy (m : CopyManner) (name : Octets) (r : Refusal) : Work Unit := do
  complain (aboutFile name r.wording)
  if m.isStrict then quit 1

/-- Opens the files that copies go to. -/
def openCopies (m : CopyManner) (mode : OpenMode) (paths : List Octets) : Work (List (Octets × Nat)) := do
  let mut files : List (Octets × Nat) := []
  for path in paths do
    match ← ask (.openFile path mode) with
    | .ok file => files := files ++ [(path, file)]
    | .error r => failCopy m path r
  return files

/-- Writes a text to files and hands on those where it worked. -/
def writeCopies (m : CopyManner) (data : Octets) (files : List (Octets × Nat)) : Work (List (Octets × Nat)) :=
  files.filterM fun (name, file) => do
    match ← ask (.write file data) with
    | .ok _ => return true
    | .error r =>
      if !(r = .brokenPipe && m.isPipeQuiet) then failCopy m name r
      return false

/-- Writes its input to the output and to files. -/
def tee : Utility := fun _ call => complete call.name do
  let options ← Arguments.read
    [.flag 'a' "append", .flag 'i' "ignore-interrupts", .flag 'p' "", .named 'P' "output-error" .attached] 1 call.arguments
  let mut manner : CopyManner := ⟨true, true, false⟩
  for (key, value) in options.options do
    if key = 'p' then manner := ⟨false, true, false⟩
    if key = 'P' then
      manner ←
        match value with
        | none => pure ⟨false, true, false⟩
        | some word => Arguments.choose "--output-error" copyManners word
  if options.has 'i' then ask (.handle Signal.interrupt .ignored)
  if !manner.isUsual then ask (.handle Signal.pipe .ignored)
  let m := manner
  let files ← openCopies m (if options.has 'a' then .appending else .writing) options.operands
  let result ← forBlocks 0 Routine.blockSize (fun files data => do
    let files ← writeCopies m data files
    return (files, files.isEmpty)) readLimit (("standard output", 1) :: files)
  match result with
  | .ok _ => return
  | .error r => complain s!"read error: {r.wording}"

end ElmAssay.Machine.Utility
