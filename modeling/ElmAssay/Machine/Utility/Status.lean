import ElmAssay.Machine.Calendar.Reader
import ElmAssay.Machine.Quest
import ElmAssay.Machine.Utility.Removal

/-!
# Utilities that tell what is known

Programs that tell what is known of files (`stat`), of the time (`date`), of the user (`id`, `whoami`, `groups`), and of the
system (`uname`, `nproc`). Each directive of a format stands for one thing that is known (`statField?`).
-/

namespace ElmAssay.Machine.Utility

open Text Work

/-! ## Files -/

/-- What a kind of file is called. -/
def statKind (i : Info) : String := kindName i

/-- A time with nanoseconds and a zone. -/
def fullTime (nanos : Int) : Octets := (Moment.ofNanos nanos).format "%Y-%m-%d %H:%M:%S.%N %z"

/-- The bits of a kind in the number of rights. -/
def kindBits : Kind → Nat
  | .file => 0o100000
  | .directory => 0o040000
  | .link => 0o120000
  | .device => 0o020000
  | .pipe => 0o010000

/-- A name with what it leads to if it is a link. -/
def nameWithTarget (quote : Octets → Octets) (s : Spot) : Octets :=
  if s.info.isLink then quote s.path ++ " -> " ++ quote s.linkText else quote s.path

/-- Seconds of a time with so many digits of the fraction. -/
def secondsWith (places : Option Nat) (nanos : Int) : Octets :=
  let m := Moment.ofNanos nanos
  match places with
  | none => m.format "%s"
  | some 0 => m.format "%s"
  | some n => m.format "%s." ++ String.ofList (((m.format "%N").toList ++ List.replicate (n - 9) '0').take n)

/-- What a directive stands for; `none` if there is no such directive. The places are those behind a dot. -/
def statField? (s : Spot) (places : Option Nat) (letter : Char) : Option Octets :=
  let i := s.info
  match letter with
  | 'a' => some (String.ofList (Numeral.digitsIn 8 i.rights))
  | 'A' => some (Rights.shown i)
  | 'b' => some (Numeral.text (Spot.blocks i))
  | 'B' => some "512"
  | 'C' => some "?"
  | 'd' => some "50"
  | 'D' => some "32"
  | 'f' => some (String.ofList (Numeral.digitsIn 16 (kindBits i.kind + i.rights)))
  | 'F' => some (statKind i)
  | 'g' => some "0"
  | 'G' => some "root"
  | 'h' => some (Numeral.text i.names)
  | 'i' => some (Numeral.text i.serial)
  | 'm' => some "/"
  | 'n' => some s.path
  | 'N' => some (nameWithTarget Shown.quoted s)
  | 'o' => some "4096"
  | 's' => some (Numeral.text i.size)
  | 't' => some "0"
  | 'T' => some "0"
  | 'u' => some "0"
  | 'U' => some "root"
  | 'w' => some (fullTime i.changed)
  | 'x' => some (fullTime i.changed)
  | 'y' => some (fullTime i.changed)
  | 'z' => some (fullTime i.changed)
  | 'W' => some (secondsWith places i.changed)
  | 'X' => some (secondsWith places i.changed)
  | 'Y' => some (secondsWith places i.changed)
  | 'Z' => some (secondsWith places i.changed)
  | _ => none

/-- The escape at the front of a text, as what it stands for, with the rest; `none` if there is no such escape. -/
def statEscape? : List Char → Option (List Char × List Char)
  | 'x' :: s =>
    let ds := (s.take 2).takeWhile (Numeral.isDigitIn 16)
    if ds.isEmpty then none else some ([Char.ofNat (Numeral.valueIn 16 ds)], s.drop ds.length)
  | 'n' :: s => some (['\n'], s)
  | 't' :: s => some (['\t'], s)
  | 'a' :: s => some (['\x07'], s)
  | 'b' :: s => some (['\x08'], s)
  | 'f' :: s => some (['\x0c'], s)
  | 'r' :: s => some (['\r'], s)
  | 'v' :: s => some (['\x0b'], s)
  | 'e' :: s => some (['\x1b'], s)
  | '"' :: s => some (['"'], s)
  | '\\' :: s => some (['\\'], s)
  | c :: s =>
    let ds := ((c :: s).take 3).takeWhile (Numeral.isDigitIn 8)
    if ds.isEmpty then none else some ([Char.ofNat (Numeral.valueIn 8 ds % 256)], (c :: s).drop ds.length)
  | [] => none

/-- Writes what is known of a place by a format. The fuel bounds the characters. -/
def putStatus (s : Spot) (hasEscapes : Bool) : Nat → List Char → Work Unit
  | 0, _ => return
  | _, [] => return
  | fuel + 1, '%' :: cs => do
    let flags := cs.takeWhile fun c => ['-', '+', ' ', '#', '0', '\''].contains c
    let (width, rest) := Number.spanDigits (cs.drop flags.length)
    let (places, rest) :=
      match rest with
      | '.' :: r =>
        let (ds, r) := Number.spanDigits r
        (some (if ds.isEmpty then 9 else Number.digitsValue ds), r)
      | r => (none, r)
    let isBare := (cs.length = rest.length)
    match rest with
    | [] =>
      if isBare then put "%"
      else
        let text := String.ofList ('%' :: cs)
        Work.fail 1 s!"'{text}': invalid directive"
    | '%' :: rest =>
      if isBare then
        put "%"
        putStatus s hasEscapes fuel rest
      else
        let text := String.ofList ('%' :: cs.take (cs.length - rest.length))
        Work.fail 1 s!"'{text}': invalid directive"
    | letter :: rest =>
      let isText := "AFGnNUwxyzm".toList.contains letter
      let value := (statField? s places letter).getD "?"
      let value := if isText then places.elim value fun n => String.ofList (value.toList.take n) else value
      let value := if flags.contains '#' && letter = 'a' then "0" ++ value else value
      let n := Number.digitsValue width
      put (if flags.contains '-' then Numeral.padRight ' ' n value
        else Numeral.padLeft (if flags.contains '0' && !isText then '0' else ' ') n value)
      putStatus s hasEscapes fuel rest
  | fuel + 1, '\\' :: cs => do
    if !hasEscapes then
      put "\\"
      putStatus s hasEscapes fuel cs
    else
      match statEscape? cs with
      | some (text, rest) =>
        put (String.ofList text)
        putStatus s hasEscapes fuel rest
      | none =>
        match cs with
        | c :: rest =>
          warn s!"warning: unrecognized escape '\\{c}'"
          put (String.singleton c)
          putStatus s hasEscapes fuel rest
        | [] =>
          warn "warning: backslash at end of format"
          put "\\"
  | fuel + 1, c :: cs => do
    put (String.singleton c)
    putStatus s hasEscapes fuel cs

/-- All that is known of a place, in lines. -/
def statusLines (s : Spot) : Octets :=
  let i := s.info
  let pad (width : Nat) (n : Nat) : Octets := Numeral.padRight ' ' width (Numeral.text n)
  let kind := statKind i
  let size := pad 10 i.size
  let blocks := pad 10 (Spot.blocks i)
  let file := nameWithTarget Shown.plain s
  let rights := Rights.octal 4 i.rights
  let letters := Rights.shown i
  let serial := pad 11 i.serial
  let time := fullTime i.changed
  s!"  File: {file}\n  Size: {size}\tBlocks: {blocks} IO Block: 4096   {kind}\n" ++
    s!"Device: 0,50\tInode: {serial} Links: {i.names}\n" ++
    s!"Access: ({rights}/{letters})  Uid: (    0/    root)   Gid: (    0/    root)\n" ++
    s!"Access: {time}\nModify: {time}\nChange: {time}\n Birth: {time}\n"

/-- Tells what is known of files. -/
def stat : Utility := fun _ call => complete call.name do
  let options ← Arguments.read
    [.flag 'L' "dereference", .flag 'f' "file-system", .valued 'c' "format", .named 'p' "printf" .value, .flag 't' "terse",
     .named 'C' "cached" .value] 1 call.arguments
  if options.operands.isEmpty then failUsage 1 "missing operand"
  let format : Option (Octets × Bool) :=
    match options.last? ['c', 'p'] with
    | some 'c' => some ((options.value? 'c').getD "", false)
    | some _ => some ((options.value? 'p').getD "", true)
    | none => if options.has 't' then some ("%n %s %b %f %u %g %D %i %h %t %T %X %Y %Z %W %o", false) else none
  for path in options.operands do
    let known ←
      if path = "-" then ask (.infoOf 0) else if options.has 'L' then look path else lookAtName path
    match known with
    | .error r =>
      let shown := Shown.quoted path
      complain s!"cannot statx {shown}: {r.wording}"
    | .ok i =>
      let text ← if i.isLink then do pure ((← ask (.linkText path)).toOption.getD "") else pure ""
      let s : Spot := ⟨path, path, 0, i, text, none⟩
      match format with
      | some (f, hasEscapes) =>
        putStatus s hasEscapes (f.length + 1) f.toList
        if !hasEscapes then put "\n"
      | none => put (statusLines s)

/-! ## Time -/

/-- The formats of dates by how exact they are. -/
def isoFormats : List (List String × Octets) :=
  [(["hours"], "%Y-%m-%dT%H%:z"), (["minutes"], "%Y-%m-%dT%H:%M%:z"), (["date"], "%Y-%m-%d"),
   (["seconds"], "%Y-%m-%dT%H:%M:%S%:z"), (["ns"], "%Y-%m-%dT%H:%M:%S,%N%:z")]

/-- The formats of dates with a blank in front of the time. -/
def spacedFormats : List (List String × Octets) :=
  [(["date"], "%Y-%m-%d"), (["seconds"], "%Y-%m-%d %H:%M:%S%:z"), (["ns"], "%Y-%m-%d %H:%M:%S.%N%:z")]

/-- The format of a date, by options and operands. -/
def dateFormat (options : Arguments) : Work Octets := do
  let mut formats : List Octets := []
  for (key, value) in options.options do
    match key, value with
    | 'R', _ => formats := formats ++ ["%a, %d %b %Y %H:%M:%S %z"]
    | 'I', none => formats := formats ++ ["%Y-%m-%d"]
    | 'I', some word =>
      let f ← Arguments.choose "--iso-8601" isoFormats word
      formats := formats ++ [f]
    | '3', some word =>
      let f ← Arguments.choose "--rfc-3339" spacedFormats word
      formats := formats ++ [f]
    | _, _ => pure ()
    if 1 < formats.length then Work.fail 1 "multiple output formats specified"
  let plus := options.operands.filter (·.startsWith "+")
  match options.operands with
  | _ :: extra :: _ =>
    let shown := Shown.marked extra
    failUsage 1 s!"extra operand {shown}"
  | _ => pure ()
  let plus := plus.map (·.replace "%-N" "%9N")
  match formats, plus with
  | _ :: _, _ :: _ => Work.fail 1 "multiple output formats specified"
  | f :: _, [] => return f
  | [], p :: _ => return String.ofList (p.toList.drop 1)
  | [], [] => return "%a %b %e %H:%M:%S %Z %Y"

/-- Writes a moment by a format, or tells that a text means none. -/
def putDate (format : Octets) (now : Nat) (text : Octets) : Work Unit := do
  match Moment.read? (Moment.ofMicros now) text with
  | some m => putLine (m.format format)
  | none =>
    let shown := Shown.marked text
    complain s!"invalid date {shown}"

/-- Tells the time. -/
def date : Utility := fun _ call => complete call.name do
  let options ← Arguments.read
    [.valued 'd' "date", .valued 'f' "file", .flag 'u' "utc", .flag 'u' "universal", .valued 'r' "reference",
     .flag 'R' "rfc-email", .named '3' "rfc-3339" .value, .valued 's' "set", .named 'D' "debug" .nothing,
     .named '1' "resolution" .nothing, ⟨'I', true, "iso-8601", .attached⟩] 1 call.arguments
  let format ← dateFormat options
  if 1 < (['d', 'f', 'r', '1'].filter options.has).length then
    failUsage 1 "the options to specify dates for printing are mutually exclusive"
  let isPlain := options.operands.all (·.startsWith "+")
  let now ← ask .now
  if !isPlain && ['d', 'f', 'r', 's'].any options.has then
    let shown := Shown.marked ((options.operands.head?).getD "")
    failUsage 1 <| s!"the argument {shown} lacks a leading '+';\nwhen using an option to specify date(s), any non-option\n" ++
      "argument must be a format string beginning with '+'"
  match options.value? 'd', options.value? 'f', options.value? 'r', options.value? 's' with
  | some text, _, _, _ => putDate format now text
  | none, some path, _, _ =>
    match ← readOperand path with
    | .ok data => for line in linesOf data do putDate format now line
    | .error r =>
      let shown := Shown.plain path
      Work.fail 1 s!"{shown}: {r.wording}"
  | none, none, some path, _ =>
    match ← look path with
    | .ok i => putLine ((Moment.ofNanos i.changed).format format)
    | .error r =>
      let shown := Shown.plain path
      Work.fail 1 s!"{shown}: {r.wording}"
  | none, none, none, set =>
    if !isPlain || set.isSome then
      let text := set.getD ((options.operands.head?).getD "")
      let m := if set.isSome then Moment.read? (Moment.ofMicros now) text else Moment.ofDigits? (Moment.ofMicros now) text
      match m with
      | none =>
        let shown := Shown.marked text
        Work.fail 1 s!"invalid date {shown}"
      | some m =>
        complain "cannot set date: Operation not permitted"
        putLine (m.format format)
    else putLine ((Moment.ofMicros now).format (if options.has '1' then "0.000000001" else format))

/-! ## The user -/

/-- Tells who the user is. -/
def identity : Utility := fun _ call => complete call.name do
  let options ← Arguments.read
    [.flag 'a' "", .flag 'Z' "context", .flag 'g' "group", .flag 'G' "groups", .flag 'n' "name", .flag 'r' "real",
     .flag 'u' "user", .flag 'z' "zero"] 1 call.arguments
  let only := ['g', 'G', 'u', 'Z'].filter options.has
  if options.has 'Z' then Work.fail 1 "--context (-Z) works only on an SELinux-enabled kernel"
  if 1 < only.length then Work.fail 1 "cannot print \"only\" of more than one choice"
  if only.isEmpty && (options.has 'n' || options.has 'r') then
    Work.fail 1 "cannot print only names or real IDs in default format"
  if only.isEmpty && options.has 'z' then Work.fail 1 "option --zero not permitted in default format"
  let lineEnd := if options.has 'z' then "\x00" else "\n"
  for user in if options.operands.isEmpty then ["root"] else options.operands do
    if user = "root" || user = "0" then
      put ((if only.isEmpty then "uid=0(root) gid=0(root) groups=0(root)" else if options.has 'n' then "root" else "0") ++
        lineEnd)
    else
      let shown := Shown.marked user
      complain s!"{shown}: no such user"

/-- Stops at an operand that is too much. -/
def refuseOperands (options : Arguments) : Work Unit := do
  if let extra :: _ := options.operands then
    let shown := Shown.marked extra
    failUsage 1 s!"extra operand {shown}"

/-- Writes a line, with no operands. -/
def onlyLine (line : Octets) : Utility := fun _ call => complete call.name do
  refuseOperands (← Arguments.read [] 1 call.arguments)
  putLine line

/-- Tells the name of the user. -/
def whoami : Utility := onlyLine "root"

/-- Tells the groups of users. -/
def groups : Utility := fun _ call => complete call.name do
  let options ← Arguments.read [] 1 call.arguments
  if options.operands.isEmpty then putLine "root"
  for user in options.operands do
    if user = "root" then putLine "root : root"
    else
      let shown := Shown.marked user
      complain s!"{shown}: no such user"

/-- Tells the name by which the user came, which is not known. -/
def logname : Utility := fun _ call => complete call.name do
  refuseOperands (← Arguments.read [] 1 call.arguments)
  Work.fail 1 "no login name"

/-- Tells the terminal, of which there is none. -/
def tty : Utility := fun _ call => complete call.name do
  let options ← Arguments.read [.flag 's' "silent", .flag 's' "quiet"] 2 call.arguments
  if let extra :: _ := options.operands then
    let shown := Shown.marked extra
    failUsage 2 s!"extra operand {shown}"
  if !options.has 's' then putLine "not a tty"
  raiseStatus 1

/-! ## The system -/

/-- The count of processors. -/
def processors : Nat := 4

/-- Tells the count of processors. -/
def nproc : Utility := fun _ call => complete call.name do
  let options ← Arguments.read [.named 'a' "all" .nothing, .named 'i' "ignore" .value] 1 call.arguments
  refuseOperands options
  let ignored ←
    match options.value? 'i' with
    | none => pure 0
    | some text =>
      match Numeral.plain? text with
      | some n => pure n
      | none =>
        let shown := Shown.marked text
        Work.fail 1 s!"invalid number: {shown}"
  putLine (Numeral.text (max 1 (processors - ignored)))

/-- Tells the name of the system. -/
def uname : Utility := fun _ call => complete call.name do
  let options ← Arguments.read
    [.flag 'a' "all", .flag 's' "kernel-name", .flag 'n' "nodename", .flag 'r' "kernel-release", .flag 'v' "kernel-version",
     .flag 'm' "machine", .flag 'p' "processor", .flag 'i' "hardware-platform", .flag 'o' "operating-system"] 1 call.arguments
  refuseOperands options
  let parts : List (Char × String) :=
    [('s', "Linux"), ('n', "localhost"), ('r', "6.1.0"), ('v', "#1 SMP"), ('m', "x86_64"), ('p', "unknown"),
     ('i', "unknown"), ('o', "GNU/Linux")]
  let wanted := parts.filter fun (key, value) =>
    if options.has 'a' then value != "unknown" || options.has key else options.has key
  putLine (if wanted.isEmpty then "Linux" else " ".intercalate (wanted.map Prod.snd))

end ElmAssay.Machine.Utility
