import ElmAssay.Machine.Calendar
import ElmAssay.Machine.Numeral
import ElmAssay.Machine.Rights
import ElmAssay.Machine.Utility.Making
import ElmAssay.Machine.Version
import ElmAssay.Machine.Wildcard

/-!
# Listing

What stands in directories is listed by name (`ls`), in an order, one name to a line or laid out in columns, with marks and
with what is known of each file. A name is shown as it is or with escapes (`NameStyle`).
-/

namespace ElmAssay.Machine

/-- A size with at most two digits or three and a letter, rounded up. -/
def Size.short (base n : Nat) : Octets :=
  let rec go (fuel power n unit : Nat) : Octets :=
    match fuel with
    | 0 => Numeral.text n
    | fuel + 1 =>
      let top := unit * base
      if n < unit * base then
        if power = 0 then Numeral.text n
        else
          let tenths := (n * 10 + unit - 1) / unit
          let letter := String.singleton <|
            if power = 1 && base = 1000 then 'k' else (Size.powerLetters[power - 1]?).getD ' '
          if tenths < 100 then Numeral.text (tenths / 10) ++ "." ++ Numeral.text (tenths % 10) ++ letter
          else
            let whole := (n + unit - 1) / unit
            if whole = base then go fuel (power + 1) n top else Numeral.text whole ++ letter
      else go fuel (power + 1) n top
  go 12 0 n 1

namespace Utility

open Text Work

/-! ## Names -/

/-- How names are shown. -/
inductive NameStyle
  | literal
  /-- In the quotes of a shell where some are needed. -/
  | quoted
  /-- In the quotes of a shell. -/
  | quotedAlways
  /-- In double quotes, with escapes. -/
  | doubled
  /-- With escapes. -/
  | escaped
  /-- Between curved marks, with escapes. -/
  | marked
  deriving DecidableEq, Repr

/-- The words for how names are shown. -/
def nameStyleWords : List (List String × NameStyle) :=
  [(["literal"], .literal), (["shell"], .quoted), (["shell-always"], .quotedAlways), (["shell-escape"], .quoted),
   (["shell-escape-always"], .quotedAlways), (["c"], .doubled), (["c-maybe"], .doubled), (["escape"], .escaped),
   (["locale"], .marked), (["clocale"], .marked)]

/-- A name as it is shown. -/
def NameStyle.show (style : NameStyle) (name : Octets) : Octets :=
  let escapedBody (also : List Char) : Octets :=
    Octets.narrow ((Octets.widen name).flatMap fun c =>
      if Shown.isHidden c then Shown.escape c else if c = '\\' ∨ also.contains c then ['\\', c] else [c])
  match style with
  | .literal => name
  | .quoted => Shown.plain name
  | .quotedAlways => Shown.quoted name
  | .doubled => "\"" ++ escapedBody ['"'] ++ "\""
  | .escaped => escapedBody [' ']
  | .marked => Shown.marked name

/-! ## How -/

/-- The order of a listing. -/
inductive Order
  | name
  | none
  | time
  | size
  | ending
  | version
  | width
  deriving DecidableEq, Repr

/-- The words for orders. -/
def orderWords : List (List String × Order) :=
  [(["none"], .none), (["time"], .time), (["size"], .size), (["extension"], .ending), (["version"], .version),
   (["width"], .width)]

/-- How names are laid out. -/
inductive Layout
  | lines
  | long
  | commas
  | down
  | across
  deriving DecidableEq, Repr

/-- The words for layouts. -/
def layoutWords : List (List String × Layout) :=
  [(["verbose", "long"], .long), (["commas"], .commas), (["horizontal", "across"], .across), (["vertical"], .down),
   (["single-column"], .lines)]

/-- Which marks stand behind names. -/
inductive Marking
  | none
  | slash
  | kind
  | all
  deriving DecidableEq, Repr

/-- The words for marks. -/
def markingWords : List (List String × Marking) :=
  [(["none"], .none), (["slash"], .slash), (["file-type"], .kind), (["classify"], .all)]

/-- How files are listed. -/
structure Listing where
  showsHidden : Bool
  showsDots : Bool
  hidden : List Octets
  order : Order
  isReversed : Bool
  directoriesFirst : Bool
  isRecursive : Bool
  listsDirectories : Bool
  follows : Bool
  followsArguments : Bool
  followsToDirectories : Bool
  layout : Layout
  marking : Marking
  style : NameStyle
  hidesControls : Bool
  hasOwner : Bool
  hasGroup : Bool
  hasNumbers : Bool
  hasSerials : Bool
  hasBlocks : Bool
  size : Nat → Octets
  blocks : Nat → Octets
  timePattern : Option (Octets × Octets)
  hasColor : Bool
  width : Nat
  lineEnd : Octets

/-- A file in a listing: its name, its path, what is known of it, and what it leads to if it is a link. -/
structure Item where
  name : Octets
  path : Octets
  info : Info
  target : Option (Octets × Option Info)

/-- What is shown instead of a control character. -/
def withoutControls (name : Octets) : Octets :=
  Octets.narrow ((Octets.widen name).map fun c => if Shown.isHidden c then '?' else c)

/-- The name of an item as it is shown. -/
def Listing.nameOf (o : Listing) (name : Octets) : Octets :=
  if o.hidesControls && o.style == .literal then withoutControls name else o.style.show name

/-- The mark behind the name of something. -/
def Listing.markFor (o : Listing) (i : Info) : Octets :=
  match o.marking, i.kind with
  | .none, _ => ""
  | _, .directory => "/"
  | .slash, _ => ""
  | _, .link => "@"
  | _, .pipe => "|"
  | .all, .file => if i.isRunnable then "*" else ""
  | _, _ => ""

/-- The color of something. -/
def colorOf? (i : Info) : Option String :=
  let r := i.rights
  match i.kind with
  | .directory =>
    if Rights.hasAny r Rights.keeps && Rights.hasAny r 0o002 then some "30;42"
    else if Rights.hasAny r 0o002 then some "34;42"
    else if Rights.hasAny r Rights.keeps then some "37;44"
    else some "01;34"
  | .link => some "01;36"
  | .pipe => some "33"
  | .device => some "01;33"
  | .file =>
    if Rights.hasAny r Rights.asOwner then some "37;41"
    else if Rights.hasAny r Rights.asGroup then some "30;43"
    else if i.isRunnable then some "01;32"
    else none

/-- A name in the color of what it names. -/
def Listing.colored (o : Listing) (i : Info) (text : Octets) : Octets :=
  match if o.hasColor then colorOf? i else none with
  | some code => "\x1b[" ++ code ++ "m" ++ text ++ "\x1b[0m"
  | none => text

/-! ## Order -/

/-- The ending of a name from its last dot on. -/
def endingOf (name : Octets) : Octets :=
  let back := name.toList.reverse
  let tail := back.takeWhile (· != '.')
  if tail.length < back.length then String.ofList ('.' :: tail.reverse) else ""

/-- Whether an item does not come after another one. -/
def Listing.precedes (o : Listing) (a b : Item) : Bool :=
  let byName := compare a.name b.name
  let c :=
    match o.order with
    | .name => byName
    | .none => .eq
    | .time => (compare b.info.changed a.info.changed).then byName
    | .size => (compare b.info.size a.info.size).then byName
    | .ending => (compare (endingOf a.name) (endingOf b.name)).then byName
    | .version =>
      (Version.order a.name b.name).then byName
    | .width => (compare (Octets.widen (o.nameOf a.name)).length (Octets.widen (o.nameOf b.name)).length).then byName
  (if o.isReversed then c.swap else c) != .gt

/-- Whether an item is a directory or leads to one. -/
def Item.leadsToDirectory (x : Item) : Bool :=
  x.info.isDirectory || x.target.any fun t => t.2.any Info.isDirectory

/-- Items in the order of a listing. -/
def Listing.sorted (o : Listing) (items : List Item) : List Item :=
  let items := if o.order = .none then items else items.mergeSort o.precedes
  if o.directoriesFirst && o.order != .none then items.filter (·.leadsToDirectory) ++ items.filter (!·.leadsToDirectory)
  else items

/-! ## Layout -/

/-- The blocks of 1024 bytes that something takes. -/
def blocksOf (i : Info) : Nat :=
  match i.kind with
  | .file => (i.size + 4095) / 4096 * 4
  | .directory => 4
  | _ => 0

/-- What stands in front of the name of an item, with the widths of its fields. -/
def Listing.front (o : Listing) (serials blocks : Nat) (x : Item) : Octets :=
  (if o.hasSerials then Numeral.padLeft ' ' serials (Numeral.text x.info.serial) ++ " " else "") ++
    (if o.hasBlocks then Numeral.padLeft ' ' blocks (o.blocks (blocksOf x.info)) ++ " " else "")

/-- The name of an item with its mark. -/
def Listing.nameText (o : Listing) (x : Item) : Octets :=
  let name := o.colored x.info (o.nameOf x.name)
  match o.layout, x.target with
  | .long, some (text, known) =>
    let shown := o.nameOf text
    let behind :=
      match known with
      | some i => o.colored i shown ++ o.markFor i
      | none => shown
    name ++ " -> " ++ behind
  | _, _ => name ++ o.markFor x.info

/-- The count of characters of a name with its mark. -/
def Listing.nameWidth (o : Listing) (x : Item) : Nat :=
  (Octets.widen (o.nameOf x.name)).length + (o.markFor x.info).length

/-- The greatest of the widths of texts. -/
def widest (texts : List Octets) : Nat := (texts.map String.length).foldl max 0

/-- The time of a change as it is shown now. -/
def Listing.timeText (o : Listing) (now : Int) (i : Info) : Octets :=
  let m := Moment.ofNanos i.changed
  let (old, recent) := o.timePattern.getD ("%b %e  %Y", "%b %e %H:%M")
  let halfYear := 31556952 / 2 * Moment.secondNanos
  m.format (if i.changed ≤ now && now < i.changed + halfYear then recent else old)

/-- The lines of items with what is known of them. -/
def Listing.longLines (o : Listing) (now : Int) (items : List Item) : List Octets :=
  let field (f : Item → Octets) : Nat := widest (items.map f)
  let serials := field fun x => Numeral.text x.info.serial
  let blocks := field fun x => o.blocks (blocksOf x.info)
  let count (x : Item) : Octets := Numeral.text x.info.names
  let size (x : Item) : Octets := if x.info.kind = .device then "1, 3" else o.size x.info.size
  let who := if o.hasNumbers then "0" else "root"
  items.map fun x =>
    let owner := (if o.hasOwner then " " ++ who else "") ++ (if o.hasGroup then " " ++ who else "")
    let names := Numeral.padLeft ' ' (field count) (count x)
    let bytes := Numeral.padLeft ' ' (field size) (size x)
    o.front serials blocks x ++ Rights.shown x.info ++ " " ++ names ++ owner ++ " " ++ bytes ++ " " ++
      o.timeText now x.info ++ " " ++ o.nameText x

/-- The greatest count of columns in which items fit, and the widths of these. -/
def Listing.columns (o : Listing) (widths : List Nat) : Nat × List Nat :=
  let n := widths.length
  let perColumn (count : Nat) : Nat := (n + count - 1) / count
  let columnOf (count i : Nat) : Nat := if o.layout = .down then i / perColumn count else i % count
  let widthsFor (count : Nat) : List Nat :=
    (List.range count).map fun c =>
      let inColumn := widths.zipIdx.filter fun w => columnOf count w.2 = c
      inColumn.foldl (fun m w => max m (w.1 + if c = count - 1 then 0 else 2)) (if c = count - 1 then 0 else 0)
  let fits (count : Nat) : Bool := (widthsFor count).foldl (· + ·) 0 < o.width
  let most := max 1 (min n (max 1 (o.width / 3)))
  let count := (((List.range most).map (· + 1)).reverse.find? fits).getD 1
  (count, widthsFor count)

/-- Blanks from one column to another, with tabs where they go far. -/
def indent : Nat → Nat → Nat → Octets
  | 0, _, _ => ""
  | fuel + 1, a, b =>
    if b ≤ a then ""
    else if (a + 1) / 8 < b / 8 then "\t" ++ indent fuel (a + 8 - a % 8) b
    else " " ++ indent fuel (a + 1) b

/-- Items in columns. -/
def Listing.inColumns (o : Listing) (items : List Item) : Octets :=
  let serials := widest (items.map fun x => Numeral.text x.info.serial)
  let blocks := widest (items.map fun x => o.blocks (blocksOf x.info))
  let cells := items.map fun x =>
    let front := o.front serials blocks x
    (front ++ o.nameText x, front.length + o.nameWidth x)
  let (count, widths) := o.columns (cells.map Prod.snd)
  let n := cells.length
  let rows := (n + count - 1) / count
  let row (r : Nat) : Octets :=
    let indices :=
      if o.layout = .down then (List.range count).map fun c => c * rows + r
      else (List.range count).map fun c => r * count + c
    let rec go (position start : Nat) : List (Nat × Nat) → Octets
      | [] => ""
      | (i, width) :: rest =>
        match cells[i]? with
        | none => ""
        | some (text, w) => indent o.width position start ++ text ++ go (start + w) (start + width) rest
    go 0 0 (indices.zip widths)
  String.join ((List.range rows).map fun r => row r ++ "\n")

/-- Items behind each other with commas, in lines of a width. -/
def Listing.withCommas (o : Listing) (items : List Item) : Octets :=
  let rec go (position : Nat) (isFirst : Bool) : List Item → Octets
    | [] => ""
    | x :: rest =>
      let front := o.front 0 0 x
      let width := front.length + o.nameWidth x
      let text := front ++ o.nameText x
      if isFirst then text ++ go width false rest
      else if position + 2 + width < o.width then ", " ++ text ++ go (position + 2 + width) false rest
      else ",\n" ++ text ++ go width false rest
  if items.isEmpty then "" else go 0 true items ++ "\n"

/-- The text of items in order. -/
def Listing.text (o : Listing) (now : Int) (items : List Item) : Octets :=
  match o.layout with
  | .long => String.join ((o.longLines now items).map (· ++ o.lineEnd))
  | .commas => o.withCommas items
  | .down => if items.isEmpty then "" else o.inColumns items
  | .across => if items.isEmpty then "" else o.inColumns items
  | .lines =>
    let serials := widest (items.map fun x => Numeral.text x.info.serial)
    let blocks := widest (items.map fun x => o.blocks (blocksOf x.info))
    String.join (items.map fun x => o.front serials blocks x ++ o.nameText x ++ o.lineEnd)

/-! ## Looking -/

/-- The item of a path; a refusal if nothing is there. -/
def Listing.item (o : Listing) (isArgument : Bool) (path name : Octets) : Work (Except Refusal Item) := do
  let wholly := o.follows || (isArgument && o.followsArguments)
  let known ←
    if wholly then do
      match ← look path with
      | .ok i => pure (.ok i)
      | .error r => if isArgument then pure (.error r) else lookAtName path
    else
      match ← lookAtName path with
      | .error r => pure (.error r)
      | .ok i =>
        if isArgument && i.isLink && o.followsToDirectories then do
          match ← look path with
          | .ok j => pure (.ok (if j.isDirectory then j else i))
          | .error _ => pure (.ok i)
        else pure (.ok i)
  match known with
  | .error r => return .error r
  | .ok i =>
    let target ←
      if i.isLink then do
        let text := (← ask (.linkText path)).toOption.getD ""
        pure (some (text, (← look path).toOption))
      else pure none
    return .ok ⟨name, path, i, target⟩

/-- Whether a listing leaves a name out. -/
def Listing.hides (o : Listing) (name : Octets) : Bool :=
  let accepts (pattern : Octets) : Bool :=
    !(name.startsWith "." && !pattern.startsWith ".") && (Wildcard.ofText pattern.toList).agrees name.toList
  (!o.showsHidden && name.startsWith ".") || o.hidden.any accepts

/-- Lists a directory. The fuel bounds how deep directories stand in each other. -/
def listAt (o : Listing) (hasTitle isFirst : Bool) : Nat → Octets → Bool → Work Unit
  | 0, _, _ => return
  | fuel + 1, path, isArgument => do
    match ← ask (.list path) with
    | .error r =>
      let shown := Shown.quoted path
      warn s!"cannot open directory {shown}: {r.wording}"
      raiseStatus (if isArgument then 2 else 1)
    | .ok names =>
      let visible := names.filter (!o.hides ·)
      let visible := if o.showsDots then "." :: ".." :: visible else visible
      let found ← visible.mapM fun name => o.item false (joinPath path name) name
      let items := o.sorted (found.filterMap Except.toOption)
      if hasTitle then put ((if isFirst then "" else "\n") ++ o.nameOf path ++ ":\n")
      if o.layout = .long || o.hasBlocks then
        let total := o.blocks ((items.map fun x => blocksOf x.info).foldl (· + ·) 0)
        put s!"total {total}{o.lineEnd}"
      put (o.text ((← ask .now) * 1000 : Nat) items)
      if o.isRecursive then
        for x in items do
          if x.name != "." && x.name != ".." && x.info.isDirectory then
            listAt o true false fuel x.path false

/-! ## The program -/

/-- The options for listing. -/
def listingSwitches : List Switch :=
  [.flag 'a' "all", .flag 'A' "almost-all", .flag '1' "", .flag 'd' "directory", .flag 'R' "recursive",
   .flag 'F' "", .flag 'p' "", .flag 'r' "reverse", .flag 'l' "", .flag 'S' "", .flag 't' "",
   .flag 'h' "human-readable", .flag 'C' "", .flag 'x' "", .flag 'm' "", .flag 'U' "", .flag 'f' "", .flag 'i' "inode",
   .flag 'n' "numeric-uid-gid", .flag 'g' "", .flag 'o' "", .flag 'q' "hide-control-chars", .flag 'Q' "quote-name",
   .flag 'N' "literal", .flag 'v' "", .flag 'X' "", .flag 'u' "", .flag 'c' "", .flag 's' "size", .flag 'k' "kibibytes",
   .flag 'b' "escape", .flag 'B' "ignore-backups", .flag 'G' "no-group", .flag 'L' "dereference",
   .flag 'H' "dereference-command-line", .valued 'I' "ignore", .valued 'w' "width", .valued 'T' "tabsize", .flag 'Z' "context",
   .flag 'D' "dired", .named 'y' "group-directories-first" .nothing, .named 'K' "color" .attached,
   .named 'j' "hide" .value, .named 'e' "file-type" .nothing, .named 'E' "classify" .attached,
   .named 'M' "indicator-style" .value, .named 'O' "sort" .value, .named 'P' "format" .value, .named 'W' "time" .value,
   .named 'V' "time-style" .value, .named 'Y' "full-time" .nothing, .named 'z' "quoting-style" .value,
   .named '2' "si" .nothing, .named '3' "author" .nothing, .named '4' "zero" .nothing,
   .named '5' "show-control-chars" .nothing, .named '6' "block-size" .value,
   .named '7' "dereference-command-line-symlink-to-dir" .nothing, .named '8' "hyperlink" .attached]

/-- The last choice that options make, each by what it means. -/
def lastChoice {α : Type} (options : Arguments) (meaning : Char → Option Octets → Work (Option α)) : Work (Option α) := do
  let mut chosen : Option α := none
  for (key, value) in options.options do
    if let some a := ← meaning key value then chosen := some a
  return chosen

/-- The patterns for times by a word. -/
def timePattern? (word : Octets) : Option (Octets × Octets) :=
  match word with
  | "full-iso" => some ("%Y-%m-%d %H:%M:%S.%N %z", "%Y-%m-%d %H:%M:%S.%N %z")
  | "long-iso" => some ("%Y-%m-%d %H:%M", "%Y-%m-%d %H:%M")
  | "iso" => some ("%Y-%m-%d ", "%m-%d %H:%M")
  | word =>
    if word.startsWith "+" then
      let pattern := String.ofList (word.toList.drop 1)
      match (Text.cut '\n' pattern.toList).map String.ofList with
      | [old, recent] => some (old, recent)
      | _ => some (pattern, pattern)
    else none

/-- How files are listed by options. -/
def readListing (call : Invocation) (options : Arguments) : Work Listing := do
  let layout ← lastChoice options fun key value => do
    match key, value with
    | 'l', _ => return some Layout.long
    | 'n', _ => return some .long
    | 'g', _ => return some .long
    | 'o', _ => return some .long
    | 'Y', _ => return some .long
    | 'm', _ => return some .commas
    | 'C', _ => return some .down
    | 'x', _ => return some .across
    | '1', _ => return some .lines
    | '4', _ => return none
    | 'P', some word => do
      let l ← Arguments.choose "--format" layoutWords word
      return some l
    | _, _ => return none
  let isLong := ['l', 'n', 'g', 'o', 'Y'].any options.has
  let layout := if layout = some .lines && isLong then .long else layout.getD .lines
  let order ← lastChoice options fun key value => do
    match key, value with
    | 't', _ => return some Order.time
    | 'S', _ => return some .size
    | 'X', _ => return some .ending
    | 'v', _ => return some .version
    | 'U', _ => return some .none
    | 'f', _ => return some .none
    | 'O', some word => do
      let w ← Arguments.choose "--sort" orderWords word
      return some w
    | _, _ => return none
  let order := order.getD (if (options.has 'u' || options.has 'c') && layout != .long then .time else .name)
  let marking ← lastChoice options fun key value => do
    match key, value with
    | 'F', _ => return some Marking.all
    | 'E', some word => do
      let always ← Arguments.choose "--classify"
        [(["always", "yes", "force"], true), (["never", "no", "none"], false), (["auto", "tty", "if-tty"], false)] word
      return if always then some .all else none
    | 'E', none => return some .all
    | 'p', _ => return some .slash
    | 'e', _ => return some .kind
    | 'M', some word => do
      let m ← Arguments.choose "--indicator-style" markingWords word
      return some m
    | _, _ => return none
  let style ← lastChoice options fun key value => do
    match key, value with
    | 'Q', _ => return some NameStyle.doubled
    | 'N', _ => return some .literal
    | 'b', _ => return some .escaped
    | 'z', some word => do
      let s ← Arguments.choose "--quoting-style" nameStyleWords word
      return some s
    | _, _ => return none
  let color ← lastChoice options fun key value => do
    match key, value with
    | 'K', none => return some true
    | 'K', some word => do
      let c ← Arguments.choose "--color"
        [(["always", "yes", "force"], true), (["never", "no", "none"], false), (["auto", "tty", "if-tty"], false)] word
      return some c
    | 'f', _ => return some false
    | _, _ => return none
  let width ←
    match options.value? 'w' with
    | none => pure (((call.environment.lookup "COLUMNS").bind Numeral.plain?).getD 80)
    | some text =>
      match Numeral.plain? text with
      | some n => pure (if n = 0 then 1000000 else n)
      | none =>
        let shown := Shown.marked text
        Work.fail 2 s!"invalid line width: {shown}"
  let pattern ←
    match if options.last? ['V', 'Y'] = some 'Y' then some "full-iso" else options.value? 'V' with
    | none => pure none
    | some "locale" => pure none
    | some word =>
      match timePattern? word with
      | some p => pure (some p)
      | none =>
        if layout != .long then pure none
        else
          let shown := Shown.marked word
          let what := Shown.marked "time style"
          warn s!"invalid argument {shown} for {what}"
          let note := "Valid arguments are:\n  - [posix-]full-iso\n  - [posix-]long-iso\n  - [posix-]iso\n" ++
            "  - [posix-]locale\n  - +FORMAT (e.g., +%H:%M) for a 'date'-style format\n"
          say note
          let name := (← get).name
          say s!"Try '{name} --help' for more information.\n"
          quit 2
  let marking := marking.getD .none
  let isDereferencing := options.last? ['L', 'H', '7']
  let short : Option Nat :=
    match options.last? ['h', '2'] with
    | some 'h' => some 1024
    | some _ => some 1000
    | none => none
  return {
    showsHidden := options.has 'a' || options.has 'A' || options.has 'f'
    showsDots := options.last? ['a', 'A', 'f'] = some 'a' || options.has 'f'
    hidden := options.values 'I' ++ (if options.has 'a' || options.has 'A' || options.has 'f' then [] else options.values 'j') ++
      (if options.has 'B' then ["*~", ".*~"] else [])
    order, isReversed := options.has 'r', directoriesFirst := options.has 'y', isRecursive := options.has 'R'
    listsDirectories := !options.has 'd', follows := options.has 'L', followsArguments := options.has 'H'
    followsToDirectories := (isDereferencing.isNone || isDereferencing = some '7') &&
      !(options.has 'd' || marking = .all || layout = .long)
    layout, marking, style := style.getD .literal, hidesControls := options.has 'q'
    hasOwner := !options.has 'g', hasGroup := !(options.has 'G' || options.has 'o'), hasNumbers := options.has 'n'
    hasSerials := options.has 'i', hasBlocks := options.has 's'
    size := fun n => short.elim (Numeral.text n) fun base => Size.short base n
    blocks := fun n => short.elim (Numeral.text n) fun base => Size.short base (n * 1024)
    timePattern := pattern, hasColor := color.getD false && !(options.has 'f'), width
    lineEnd := if options.has '4' then "\x00" else "\n" }

/-- The start of what is colored, in front of the first color. -/
def withColorStart (text : Octets) : Octets :=
  let rec go : List Char → List Char
    | '\x1b' :: '[' :: rest => "\x1b[0m\x1b[".toList ++ rest
    | c :: rest => c :: go rest
    | [] => []
  String.ofList (go text.toList)

/-- Lists what is named. -/
def listAll (o : Listing) (operands : List Octets) : Work Unit := do
  let paths := if operands.isEmpty then ["."] else operands
  let mut files : List Item := []
  let mut directories : List Item := []
  for path in paths do
    match ← o.item true path path with
    | .error r =>
      let shown := Shown.quoted path
      warn s!"cannot access {shown}: {r.wording}"
      raiseStatus 2
    | .ok x =>
      if x.info.isDirectory && o.listsDirectories then directories := directories ++ [x]
      else files := files ++ [x]
  put (o.text ((← ask .now) * 1000 : Nat) (o.sorted files))
  let hasTitle := 1 < paths.length || o.isRecursive
  let mut isFirst := files.isEmpty
  for x in o.sorted directories do
    listAt o hasTitle isFirst depthLimit x.path true
    isFirst := false

/-- Lists files in a layout unless options choose another one. -/
def listing (change : Listing → Listing) : Utility := fun _ call => complete call.name do
  let options ← Arguments.read listingSwitches 2 call.arguments
  let o := change (← readListing call options)
  listAll o options.operands
  if o.hasColor then
    modify fun p => { p with held := [withColorStart (heldText p)] }

/-- Lists files and directories. -/
def ls : Utility := listing id

/-- Lists files and directories in columns, with escapes. -/
def dir : Utility := listing fun o => { o with layout := if o.layout = .lines then .down else o.layout, style := .escaped }

/-- Lists files and directories with what is known of them, with escapes. -/
def vdir : Utility := listing fun o => { o with layout := if o.layout = .lines then .long else o.layout, style := .escaped }

end Utility
end ElmAssay.Machine
