import ElmAssay.Machine.Numeral
import ElmAssay.Machine.Utility.Basic

/-!
# Filled lines

The program that fills the lines of paragraphs (`fmt`). Its options set the width, the length that lines should come near,
and the mark in front of the lines that are filled.

Lines of words are filled up to a width (`Paragraph.fill`). The lines of a paragraph have the same margin; where its lines are
broken anew is decided by costs, so that lines come near a goal, do not differ much from each other, and end where sentences
do (`Paragraph.breaks`).
-/

namespace ElmAssay.Machine.Paragraph

/-- Which lines make a paragraph: those with the margin of the first one, those with the margin of the second one, those with
the margin of the second one if it differs, or only a single one. -/
inductive Style
  | plain
  | crown
  | tagged
  | single
  deriving DecidableEq, Repr

/-- How paragraphs are filled. -/
structure Manner where
  style : Style
  /-- Whether the gaps between words are made the same. -/
  isUniform : Bool
  width : Nat
  goal : Nat
  /-- The count of spaces in front of the mark that all lines have. -/
  markLead : Nat
  /-- The mark without its spaces. -/
  mark : List Char
  /-- The size of the mark with the spaces behind it. -/
  markSize : Nat
  deriving DecidableEq, Repr

/-- A word, the gap behind it, and whether it begins with a bracket, ends in a mark, ends like a sentence, and ends one. -/
structure Word where
  text : List Char
  gap : Nat
  opens : Bool
  isMarked : Bool
  isPeriod : Bool
  isFinal : Bool
  deriving DecidableEq, Repr, Inhabited

/-- Whether a character is a mark. -/
def isMark (c : Char) : Bool := 32 < c.toNat && c.toNat < 127 && !c.isAlphanum

/-- A word with what can be told from its characters. -/
def Word.ofChars (text : List Char) : Word :=
  let bare := text.reverse.dropWhile fun c => [')', ']', '\'', '"'].contains c
  let last := if bare.isEmpty then text.head? else bare.head?
  { text := text, gap := 0, opens := text.head?.any fun c => ['(', '[', '\'', Char.ofNat 0x60, '"'].contains c
    isMarked := text.getLast?.any isMark, isPeriod := last.any fun c => ['.', '?', '!'].contains c, isFinal := false }

/-! ## Breaks -/

/-- A line that starts at a word: what it costs with all behind it, the word that the next line starts at, and its length. -/
structure Break where
  cost : Int
  next : Nat
  length : Nat
  deriving DecidableEq, Repr, Inhabited

/-- The cost of a line that misses the goal by so much. -/
def missCost (n : Int) : Int := (n * 10) * (n * 10)

/-- The cost of lines that differ by so much. -/
def raggedCost (n : Int) : Int := missCost n / 2

/-- What it costs that a line starts at a word. -/
def startCost (ws : Array Word) (start : Nat) : Int :=
  let this := (ws[start]?).getD default
  let behind : Int :=
    if start = 0 then 0
    else
      let last := (ws[start - 1]?).getD default
      if last.isPeriod then (if last.isFinal then -2500 else 360000)
      else if last.isMarked then -1600
      else if 1 < start && ((ws[start - 2]?).getD default).isFinal then 40000 / ((last.text.length : Int) + 2)
      else 0
  let ahead : Int :=
    if this.opens then -1600 else if this.isFinal then 22500 / ((this.text.length : Int) + 2) else 0
  4900 + behind + ahead

/-- What a line of a length costs behind which the next one starts at a word. -/
def lineCost (m : Manner) (known : Array Break) (count next length : Nat) : Int :=
  if next = count then 0
  else
    let b := (known[next]?).getD default
    missCost ((m.goal : Int) - length) + if b.next = count then 0 else raggedCost ((length : Int) - b.length)

/-- The best end of a line that starts at a word, among the ends from a word on. The fuel bounds the words. -/
def bestFrom (m : Manner) (ws : Array Word) (known : Array Break) : Nat → Nat → Nat → Option Break → Option Break
  | 0, _, _, best => best
  | fuel + 1, next, length, best =>
    let cost := lineCost m known ws.size next length + ((known[next]?).getD default).cost
    let best := if best.all fun b => cost < b.cost then some ⟨cost, next, length⟩ else best
    if next = ws.size then best
    else
      let last := (ws[next - 1]?).getD default
      let word := (ws[next]?).getD default
      let longer := length + last.gap + word.text.length
      if longer < m.width then bestFrom m ws known fuel (next + 1) longer best else best

/-- The lines that start at each word, where the first line and the others have margins. -/
def breaks (m : Manner) (first other : Nat) (ws : Array Word) : Array Break :=
  let start : Array Break := (Array.replicate ws.size default).push ⟨0, ws.size, 0⟩
  (List.range ws.size).reverse.foldl (fun known i =>
    let word := (ws[i]?).getD default
    let length := (if i = 0 then first else other) + word.text.length
    match bestFrom m ws known (ws.size + 1) (i + 1) length none with
    | some b => known.set! i { b with cost := b.cost + startCost ws i }
    | none => known) start

/-! ## Output -/

/-- Space from a column on, with tabs if the text has some. -/
def space (usesTabs : Bool) (column size : Nat) : List Char :=
  let target := column + size
  let stop := target / 8 * 8
  if usesTabs && column + 1 < stop then
    List.replicate (stop / 8 - column / 8) '\t' ++ List.replicate (target - stop) ' '
  else List.replicate size ' '

/-- Words with the gaps between them, from a column on. -/
def wordsFrom (usesTabs : Bool) : Nat → List Word → List Char
  | _, [] => []
  | _, [w] => w.text
  | column, w :: rest =>
    let column := column + w.text.length
    w.text ++ space usesTabs column w.gap ++ wordsFrom usesTabs (column + w.gap) rest

/-- A line of words with a margin, behind the mark. -/
def lineOf (m : Manner) (usesTabs : Bool) (lead margin : Nat) (ws : List Word) : Octets :=
  let front := space usesTabs 0 lead ++ m.mark
  let column := lead + m.mark.length
  String.ofList (front ++ space usesTabs column (margin - column) ++ wordsFrom usesTabs (max column margin) ws) ++ "\n"

/-- The lines that start at the words from one on. The fuel bounds their count. -/
def linesFrom (m : Manner) (usesTabs : Bool) (lead other : Nat) (ws : Array Word) (bs : Array Break) :
    Nat → Nat → Nat → List Octets
  | 0, _, _ => []
  | fuel + 1, margin, i =>
    if ws.size ≤ i then []
    else
      let next := max (i + 1) ((bs[i]?).getD default).next
      lineOf m usesTabs lead margin (ws.extract i next).toList :: linesFrom m usesTabs lead other ws bs fuel other next

/-! ## Input -/

/-- Where a reader is: what is left, the column, whether there was a tab, the margin of the mark in this line, and the margin
of the lines behind the first one. -/
structure Place where
  rest : List Char
  column : Nat
  hasTabs : Bool
  lead : Nat
  other : Nat
  deriving DecidableEq, Repr

/-- Goes over blanks. -/
def skipBlanks : Nat → Bool → List Char → Nat × Bool × List Char
  | column, hasTabs, ' ' :: rest => skipBlanks (column + 1) hasTabs rest
  | column, _, '\t' :: rest => skipBlanks ((column / 8 + 1) * 8) true rest
  | column, hasTabs, rest => (column, hasTabs, rest)

/-- Goes over blanks. -/
def Place.skip (p : Place) : Place :=
  let (column, hasTabs, rest) := skipBlanks p.column p.hasTabs p.rest
  { p with column := column, hasTabs := hasTabs, rest := rest }

/-- Goes over a mark as far as it is there; the answer is whether all of it is. -/
def Place.skipMark (p : Place) : List Char → Place × Bool
  | [] => (p, true)
  | c :: mark =>
    match p.rest with
    | d :: rest => if c = d then { p with rest := rest, column := p.column + 1 }.skipMark mark else (p, false)
    | [] => (p, false)

/-- Goes over the front of a line. -/
def Place.begin (m : Manner) (p : Place) : Place :=
  let p := { p with column := 0 }.skip
  if m.mark.isEmpty then { p with lead := min m.markLead p.column }
  else
    match ({ p with lead := p.column }.skipMark m.mark) with
    | (p, true) => p.skip
    | (p, false) => p

/-- Whether nothing is left of a line. -/
def Place.isAtEnd (p : Place) : Bool := p.rest.head?.all (· == '\n')

/-- Goes to the next line. -/
def Place.next (m : Manner) (p : Place) : Place := { p with rest := p.rest.drop 1 }.begin m

/-- Whether a line goes on with a paragraph whose mark has a margin. -/
def Place.goesOn (m : Manner) (lead : Nat) (p : Place) : Bool :=
  p.lead == lead && p.lead + m.markSize ≤ p.column && !p.isAtEnd

/-- Whether a character ends a word. -/
def endsWord (c : Char) : Bool := Numeral.isSpace c

/-- Reads the words of a line behind others, latest first, and goes to the next line. The fuel bounds their count. -/
def readWords (m : Manner) : Nat → Place → List Word → Place × List Word
  | 0, p, ws => (p, ws)
  | fuel + 1, p, ws =>
    match p.rest with
    | [] => (p.next m, ws)
    | c :: rest =>
      let text := c :: rest.takeWhile (!endsWord ·)
      let p := { p with rest := p.rest.drop text.length, column := p.column + text.length }
      let after := p.skip
      let w := Word.ofChars text
      let gap := after.column - p.column
      let isLast := after.isAtEnd
      let isFinal := after.rest.isEmpty || (w.isPeriod && (isLast || 1 < gap))
      let gap := if isLast || m.isUniform then (if isFinal then 2 else 1) else gap
      let ws := { w with gap := gap, isFinal := isFinal } :: ws
      if isLast then (after.next m, ws) else readWords m fuel after ws

/-- The margin of the lines behind the first one. -/
def otherMargin (m : Manner) (first : Nat) (goesOn : Bool) (p : Place) : Nat :=
  match m.style with
  | .crown => if goesOn then p.column else first
  | .tagged =>
    if goesOn && p.column != first then p.column
    else if p.other = first then (if first = 0 then 3 else 0)
    else p.other
  | _ => first

/-- Reads the lines of a paragraph that have a margin, behind words, latest first. The fuel bounds their count. -/
def readLines (m : Manner) (lead : Nat) : Nat → Place → List Word → Place × List Word
  | 0, p, ws => (p, ws)
  | fuel + 1, p, ws =>
    if p.goesOn m lead && p.column == p.other then
      let (p, ws) := readWords m (p.rest.length + 1) p ws
      readLines m lead fuel p ws
    else (p, ws)

/-- The line that is copied as it stands, up to its end, and the place behind it. -/
def copied (m : Manner) (p : Place) : List Char × Place :=
  let text := p.rest.takeWhile (· != '\n')
  let front :=
    if p.lead < p.column || !p.isAtEnd then
      let written := m.mark.take (p.column - p.lead)
      let column := p.lead + written.length
      space p.hasTabs 0 p.lead ++ written ++ (if p.isAtEnd then [] else space p.hasTabs column (p.column - column)) ++
        if p.rest.isEmpty && p.lead + m.mark.length ≤ p.column then ['\n'] else []
    else []
  (front ++ text, { p with rest := p.rest.drop text.length })

/-- Reads and fills the paragraphs from a place on, behind what is written, latest first. The fuel bounds their count. -/
def fillFrom (m : Manner) : Nat → Place → List Octets → List Octets
  | 0, _, done => done
  | fuel + 1, p, done =>
    if p.isAtEnd || p.lead < m.markLead || p.column < p.lead + m.markSize then
      let (text, after) := copied m p
      let done := String.ofList text :: done
      if after.rest.isEmpty then done else fillFrom m fuel (after.next m) ("\n" :: done)
    else
      let lead := p.lead
      let first := p.column
      let (p, ws) := readWords m (p.rest.length + 1) p []
      let p := { p with other := otherMargin m first (p.goesOn m lead) p }
      let (p, ws) :=
        match m.style with
        | .single => (p, ws)
        | .tagged => if p.column = first then (p, ws) else readLines m lead (p.rest.length + 1) p ws
        | _ => readLines m lead (p.rest.length + 1) p ws
      let ws :=
        match ws with
        | w :: rest => { w with isPeriod := true, isFinal := true } :: rest
        | [] => []
      let all := ws.reverse.toArray
      let lines := linesFrom m p.hasTabs lead p.other all (breaks m first p.other all) (all.size + 1) first 0
      fillFrom m fuel p (lines.reverse ++ done)

/-- A text with its paragraphs filled. -/
def fill (m : Manner) (s : Octets) : Octets :=
  let start : Place := { rest := s.toList, column := 0, hasTabs := false, lead := 0, other := 0 }
  String.join (fillFrom m (2 * s.length + 2) (start.begin m) []).reverse

end ElmAssay.Machine.Paragraph

namespace ElmAssay.Machine.Utility

open Work

namespace Filling

/-- The greatest width. -/
def widest : Nat := 2500

/-- The options about filled lines. -/
def switches : List Switch :=
  [.flag 'c' "crown-margin", .flag 't' "tagged-paragraph", .flag 's' "split-only", .flag 'u' "uniform-spacing",
   .valued 'w' "width", .valued 'g' "goal", .valued 'p' "prefix"]

/-- The arguments in which a width at the front is an option. -/
def withWidth : List Octets → List Octets
  | a :: rest =>
    match a.toList with
    | '-' :: c :: cs => if Numeral.isDigitIn 10 c then "-w" :: String.ofList (c :: cs) :: rest else a :: rest
    | _ => a :: rest
  | [] => []

/-- A width that an option has to have. -/
def widthOf (most : Nat) (text : Octets) : Work Nat := Arguments.countWithin "invalid width" "" 0 most text

/-- How lines are filled for options. -/
def mannerOf (o : Arguments) : Work Paragraph.Manner := do
  let given ← (o.value? 'w').mapM (widthOf widest)
  let goal ← (o.value? 'g').mapM (widthOf (given.getD 75))
  let width := given.getD (goal.elim 75 (· + 10))
  let mark := ((o.value? 'p').getD "").toList
  let lead := (mark.takeWhile (· == ' ')).length
  let body := mark.drop lead
  let style : Paragraph.Style :=
    if o.has 's' then .single else if o.has 'c' then .crown else if o.has 't' then .tagged else .plain
  return { style := style, isUniform := o.has 'u', width := width, goal := goal.getD (width * 187 / 200), markLead := lead
           mark := Text.dropTrailing (· == ' ') body, markSize := body.length }

end Filling

/-- Fills the lines of paragraphs. -/
def fmt : Utility := fun _ call => complete call.name do
  let refuse (message : Octets) : Work Arguments := do
    match (message.toList.reverse.drop 1).head? with
    | some c =>
      if message.startsWith "invalid option" && Numeral.isDigitIn 10 c then
        failUsage 1
          s!"invalid option -- {c}; -WIDTH is recognized only when it is the first\noption; use -w N instead"
      else failUsage 1 message
    | none => failUsage 1 message
  let arguments := Filling.withWidth call.arguments
  let o ← Arguments.readFrom ⟨Filling.switches, false, refuse⟩ (arguments.length + 1) ⟨[], []⟩ arguments
  let m ← Filling.mannerOf o
  for path in orInput o.operands do
    match ← readOperand path with
    | .ok data => put (Paragraph.fill m data)
    | .error .isDirectory => complain "read error"
    | .error r =>
      let shown := Shown.quoted path
      complain s!"cannot open {shown} for reading: {r.wording}"

end ElmAssay.Machine.Utility
