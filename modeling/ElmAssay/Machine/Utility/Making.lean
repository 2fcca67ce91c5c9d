import ElmAssay.Machine.Calendar.Reader
import ElmAssay.Machine.Numeral
import ElmAssay.Machine.Rights
import ElmAssay.Machine.Utility.Paths

/-!
# Utilities that make files

Programs that make directories (`mkdir`), files for a while (`mktemp`), and links (`ln`, `link`), and that change what is
kept of a file besides its contents: its times (`touch`), its rights (`chmod`) and its size (`truncate`).
-/

namespace ElmAssay.Machine.Utility

open Text Work

/-- How deep directories may stand in each other. -/
def depthLimit : Nat := 1000

/-! ## Directories -/

/-- The changes of rights that an option writes, or the end of the utility. -/
def readRights (text : Octets) (onDefect : Octets → Work (List Rights.Change)) : Work (List Rights.Change) := do
  match Rights.read? text with
  | some changes => return changes
  | none =>
    let shown := Shown.marked text
    onDefect shown

/-- Makes a directory, with rights of its own if some are given. -/
def makeOne (isVerbose : Bool) (changes : Option (List Rights.Change)) (path : Octets) : Work (Except Refusal Unit) := do
  match ← ask (.makeDirectory path) with
  | .ok _ =>
    match changes with
    | some changes =>
      let mask ← ask (.mask none)
      let _ ← ask (.setRights path (Rights.after changes true mask 0o777))
    | none => pure ()
    if isVerbose then
      let name := (← get).name
      let shown := Shown.quoted path
      putLine s!"{name}: created directory {shown}"
    return .ok ()
  | .error r => return .error r

/-- The paths at which the directories around a path stand, the outer ones first, and the path itself. -/
def prefixes (path : Octets) : List Octets :=
  let cs := dropTrailing (· == '/') path.toList
  let ends := (List.range cs.length).filter fun i => 0 < i && cs[i]? == some '/' && cs[i - 1]? != some '/'
  ends.map (fun i => String.ofList (cs.take i)) ++ [path]

/-- Tells that a directory could not be made. -/
def complainOfDirectory (path : Octets) (r : Refusal) : Work Unit := do
  let shown := Shown.marked path
  complain s!"cannot create directory {shown}: {r.wording}"

/-- Makes a directory with those around it. -/
def makeWithParents (isVerbose : Bool) (changes : Option (List Rights.Change)) : List Octets → Work Unit
  | [] => return
  | path :: rest => do
    if ← isDirectoryAt path then makeWithParents isVerbose changes rest
    else
      match ← makeOne isVerbose (if rest.isEmpty then changes else none) path with
      | .ok _ => makeWithParents isVerbose changes rest
      | .error r =>
        let isInWay := r = .alreadyThere && !rest.isEmpty && (← look path).toOption.isSome
        complainOfDirectory path (if isInWay then .notDirectory else r)

/-- Makes directories. -/
def mkdir : Utility := fun _ call => complete call.name do
  let options ← Arguments.read
    [.flag 'p' "parents", .flag 'v' "verbose", .valued 'm' "mode", .flag 'Z' "context"] 1 call.arguments
  if options.operands.isEmpty then failUsage 1 "missing operand"
  let changes ←
    match options.value? 'm' with
    | some text => do
      let changes ← readRights text fun shown => Work.fail 1 s!"invalid mode {shown}"
      pure (some changes)
    | none => pure none
  for path in options.operands do
    if options.has 'p' && !path.isEmpty then makeWithParents (options.has 'v') changes (prefixes path)
    else
      match ← makeOne (options.has 'v') changes path with
      | .ok _ => pure ()
      | .error r => complainOfDirectory path r

/-! ## Times -/

/-- The present moment. -/
def present : Work Moment := do return .ofMicros (← ask .now)

/-- The time that options give, if some do. -/
def chosenTime (options : Arguments) : Work (Option Moment) := do
  let now ← present
  let base ←
    match options.value? 'r' with
    | some path =>
      match ← if options.has 'h' then lookAtName path else look path with
      | .ok i => pure (some (Moment.ofNanos i.changed))
      | .error r =>
        let shown := Shown.quoted path
        Work.fail 1 s!"failed to get attributes of {shown}: {r.wording}"
    | none => pure none
  let refuse (text : Octets) : Work (Option Moment) := do
    let shown := Shown.marked text
    Work.fail 1 s!"invalid date format {shown}"
  match options.value? 'd', options.value? 't' with
  | some text, _ =>
    match Moment.read? (base.getD now) text with
    | some m => return some m
    | none => refuse text
  | none, some text =>
    match Moment.ofDigits? now text with
    | some m => return some m
    | none => refuse text
  | none, none => return base

/-- Sets the time of a file, which is made if it is not there. -/
def touchOne (isQuiet follows setsChange : Bool) (time : Option Int) (path : Octets) : Work Unit := do
  let shown := Shown.quoted path
  let isThere := (← if follows then look path else lookAtName path).toOption.isSome
  let made : Except Refusal Unit ←
    if isThere then pure (.ok ())
    else if isQuiet then pure (.error .noEntry)
    else
      match ← ask (.openFile path .touching) with
      | .ok file => do
        let _ ← ask (.close file)
        pure (.ok ())
      | .error r => pure (.error r)
  match made with
  | .error .isDirectory =>
    if !isQuiet then
      let r : Refusal :=
        match ← if follows then look path else lookAtName path with
        | .error r => r
        | .ok _ => .isDirectory
      complain s!"setting times of {shown}: {r.wording}"
  | .error r => if !(isQuiet && r == .noEntry) then complain s!"cannot touch {shown}: {r.wording}"
  | .ok _ =>
    if setsChange then
      let now := (← present).toNanos
      match ← ask (.setTime path follows (time.getD now)) with
      | .ok _ => pure ()
      | .error r => complain s!"setting times of {shown}: {r.wording}"

/-- Sets the times of files, and makes those that are not there. -/
def touch : Utility := fun _ call => complete call.name do
  let options ← Arguments.read
    [.flag 'a' "", .flag 'c' "no-create", .flag 'm' "", .valued 'd' "date", .valued 'r' "reference", .valued 't' "",
     .flag 'f' "", .flag 'h' "no-dereference", .named 'T' "time" .value] 1 call.arguments
  let time ← chosenTime options
  if options.has 't' && (options.has 'd' || options.has 'r') then
    failUsage 1 "cannot specify times from more than one source"
  if options.operands.isEmpty then failUsage 1 "missing file operand"
  let isAccess := options.has 'a' || ["atime", "access", "use"].contains ((options.value? 'T').getD "")
  let isChange := options.has 'm' || ["mtime", "modify"].contains ((options.value? 'T').getD "")
  for path in options.operands do
    touchOne (options.has 'c' || options.has 'h') (!options.has 'h') (isChange || !isAccess)
      (time.map Moment.toNanos) path

/-! ## Files for a while -/

/-- A name of a row of letters and digits by a count. -/
def rowName : Nat → Nat → List Char
  | 0, _ => []
  | n + 1, k =>
    let letters := "0123456789ABCDEFGHIJKLMNOPQRSTUVWXYZabcdefghijklmnopqrstuvwxyz".toList
    (letters[k % 62]?).getD '0' :: rowName n (k / 62 + 7 * k)

/-- Makes a file or a directory with a name of its own, unless that is only to be told. -/
def makeUnique (isDirectory isOnlyTold : Bool) (front : Octets) (count : Nat) (back : Octets) :
    Nat → Nat → Work (Except Refusal Octets)
  | 0, _ => return .error .alreadyThere
  | fuel + 1, k => do
    let path := front ++ String.ofList (rowName count k) ++ back
    if (← lookAtName path).toOption.isSome then makeUnique isDirectory isOnlyTold front count back fuel (k + 1)
    else if isOnlyTold then return .ok path
    else
      let made ←
        if isDirectory then ask (.makeDirectory path) else lift (Routine.writeFile path .touching "")
      if made.toOption.isSome then
        let _ ← ask (.setRights path (if isDirectory then 0o700 else 0o600))
      return made.map fun _ => path

/-- Makes a file or a directory for a while. -/
def mktemp : Utility := fun _ call => complete call.name do
  let options ← Arguments.read
    [.flag 'd' "directory", .flag 'u' "dry-run", .flag 'q' "quiet", .valued 'p' "", .named 'P' "tmpdir" .attached,
     .flag 't' "", .named 'S' "suffix" .value] 1 call.arguments
  match options.operands with
  | _ :: _ :: _ => failUsage 1 "too many templates"
  | _ => pure ()
  let home := ((call.environment.lookup "TMPDIR").filter (!·.isEmpty)).getD "/tmp"
  let directory := (((options.value? 'p').or (options.value? 'P')).filter (!·.isEmpty)).getD home
  let template := (options.operands.head?).getD "tmp.XXXXXXXXXX"
  let isInside := options.operands.isEmpty || options.has 't' || options.has 'p' || options.has 'P'
  let shownTemplate := Shown.marked template
  let cs := template.toList
  if (options.value? 'S').isSome && cs.getLast? != some 'X' then
    Work.fail 1 s!"with --suffix, template {shownTemplate} must end in X"
  let back := (cs.reverse.takeWhile (· != 'X')).reverse
  let ending := String.ofList back ++ (options.value? 'S').getD ""
  if ending.toList.contains '/' then
    let shown := Shown.marked ending
    Work.fail 1 s!"invalid suffix {shown}, contains directory separator"
  let marks := ((cs.take (cs.length - back.length)).reverse.takeWhile (· == 'X')).length
  if marks < 3 then Work.fail 1 s!"too few X's in template {shownTemplate}"
  if isInside then
    if options.has 't' && template.toList.contains '/' then
      Work.fail 1 s!"invalid template, {shownTemplate}, contains directory separator"
    else if template.startsWith "/" then
      Work.fail 1 s!"invalid template, {shownTemplate}; with --tmpdir, it may not be absolute"
  let front := String.ofList (cs.take (cs.length - back.length - marks))
  let front := if isInside then joinPath directory front else front
  let seed := (← ask .identity) * 1000003 + (← ask .now)
  match ← makeUnique (options.has 'd') (options.has 'u') front marks ending 1000 seed with
  | .ok path => putLine path
  | .error r =>
    if options.has 'q' then raiseStatus 1
    else
      let shown := Shown.marked (front ++ String.ofList (List.replicate marks 'X') ++ ending)
      let what := if options.has 'd' then "directory" else "file"
      complain s!"failed to create {what} via template {shown}: {r.wording}"

/-! ## Rights -/

/-- When the rights of a file are told of. -/
inductive Report
  | never
  | atChange
  | always
  deriving DecidableEq, Repr

/-- How rights are changed. -/
structure Permitting where
  changes : List Rights.Change
  report : Report
  isQuiet : Bool
  isRecursive : Bool
  /-- Whether rights that the mask held back are told of. -/
  isCareful : Bool

/-- Tells how the rights of a file changed. -/
def tellOfRights (o : Permitting) (path : Octets) (old new : Nat) : Work Unit := do
  let shown := Shown.quoted path
  let a := Rights.octal 4 old
  let b := Rights.octal 4 new
  let c := Rights.letters old
  let d := Rights.letters new
  if old != new then
    if o.report != .never then putLine s!"mode of {shown} changed from {a} ({c}) to {b} ({d})"
  else if o.report = .always then putLine s!"mode of {shown} retained as {b} ({d})"

/-- Changes the rights of a file. -/
def permit (o : Permitting) (path : Octets) (i : Info) : Work Unit := do
  let mask ← ask (.mask none)
  let new := Rights.after o.changes i.isDirectory mask i.rights
  let _ ← ask (.setRights path new)
  tellOfRights o path i.rights new
  let expected := Rights.after o.changes i.isDirectory 0 i.rights
  if o.isCareful && Rights.without new expected != 0 then
    let shown := Shown.plain path
    let a := Rights.letters new
    let b := Rights.letters expected
    complain s!"{shown}: new permissions are {a}, not {b}"

/-- Changes the rights at a path. Links inside of directories are passed over. The fuel bounds how deep directories stand in
each other. -/
def permitAt (o : Permitting) (isInside : Bool) : Nat → Octets → Work Unit
  | 0, _ => return
  | fuel + 1, path => do
    let shown := Shown.quoted path
    let named ← lookAtName path
    if isInside && named.toOption.any Info.isLink then
      if o.report = .always then putLine s!"neither symbolic link {shown} nor referent has been changed"
    else
      match ← look path with
      | .error r =>
        if named.toOption.isSome then
          if !o.isQuiet then warn s!"cannot operate on dangling symlink {shown}"
        else if !o.isQuiet then warn s!"cannot access {shown}: {r.wording}"
        raiseStatus 1
      | .ok i =>
        permit o path i
        if o.isRecursive && i.isDirectory then
          ((← ask (.list path)).toOption.getD []).forM fun name => permitAt o true fuel (joinPath path name)

/-- Changes who may do what with files. -/
def chmod : Utility := fun _ call => complete call.name do
  let isMode (a : Octets) : Bool := 1 < a.length && a.startsWith "-" && (Rights.read? a).isSome
  let front := call.arguments.takeWhile (· != "--")
  let modes := front.filter isMode
  let options ← Arguments.read
    [.flag 'R' "recursive", .flag 'v' "verbose", .flag 'c' "changes", .flag 'f' "silent", .named 'q' "quiet" .nothing,
     .named 'r' "reference" .value, .named 'p' "preserve-root" .nothing, .named 'n' "no-preserve-root" .nothing] 1
    (front.filter (!isMode ·) ++ call.arguments.drop front.length)
  let permitting (changes : List Rights.Change) (isCareful : Bool) : Permitting :=
    { changes, isCareful, isQuiet := options.has 'f' || options.has 'q', isRecursive := options.has 'R'
      report :=
        match options.last? ['v', 'c'] with
        | some 'v' => .always
        | some _ => .atChange
        | none => .never }
  let change (o : Permitting) (paths : List Octets) : Work Unit := do
    for path in paths do permitAt o false depthLimit path
  match options.value? 'r', modes with
  | some path, _ =>
    if options.operands.isEmpty then failUsage 1 "missing operand"
    match ← look path with
    | .ok i => change (permitting [⟨'=', Rights.all, .these i.rights, Rights.all⟩] false) options.operands
    | .error r =>
      let shown := Shown.quoted path
      Work.fail 1 s!"failed to get attributes of {shown}: {r.wording}"
  | none, mode :: _ =>
    if options.operands.isEmpty then
      let shown := Shown.marked (",".intercalate modes)
      failUsage 1 s!"missing operand after {shown}"
    let changes ← readRights (",".intercalate modes) fun shown => failUsage 1 s!"invalid mode: {shown}"
    change (permitting changes (mode.startsWith "-")) options.operands
  | none, [] =>
    match options.operands with
    | [] => failUsage 1 "missing operand"
    | [mode] =>
      let shown := Shown.marked mode
      failUsage 1 s!"missing operand after {shown}"
    | mode :: paths =>
      let changes ← readRights mode fun shown => failUsage 1 s!"invalid mode: {shown}"
      change (permitting changes false) paths

/-! ## Sizes -/

/-- A size for files: how it is seen from the size that a file has, and a count. -/
structure Resizing where
  operator : Option Char
  count : Int

/-- The size of a file after a change. -/
def Resizing.size (r : Resizing) (old : Nat) : Int :=
  let n := r.count
  let old : Int := old
  match r.operator with
  | some '+' => old + n
  | some '-' => max 0 (old - n)
  | some '<' => min old n
  | some '>' => max old n
  | some '/' => old / n * n
  | some '%' => (old + n - 1) / n * n
  | _ => n

/-- The letters that may stand behind a size. -/
def sizeLetters : String := "EgGkKmMPQRtTYZ0"

/-- One more than the greatest size of a file. -/
def sizeLimit : Nat := 2 ^ 27

/-- The change of sizes that a text writes. -/
def readResizing (text : Octets) : Work Resizing := do
  let cs := text.toList.dropWhile Numeral.isSpace
  let (operator, cs) :=
    match cs with
    | c :: rest => if ['<', '>', '/', '%'].contains c then (some c, rest.dropWhile Numeral.isSpace) else (none, cs)
    | [] => (none, cs)
  let (sign, digits) :=
    match cs with
    | c :: rest => if c == '+' || c == '-' then (some c, rest) else (none, cs)
    | [] => (none, cs)
  if operator.isSome && sign.isSome then failUsage 1 "multiple relative modifiers specified"
  let isSigned := sign.isSome && !digits.head?.any isAsciiDigit
  match if isSigned then .error .malformed else Size.read sizeLetters digits with
  | .ok n =>
    if (operator = some '/' || operator = some '%') && n = 0 then Work.fail 1 "division by zero"
    return ⟨operator.or sign, n⟩
  | .error d =>
    let shown := Shown.marked (String.ofList cs)
    Work.fail 1 s!"Invalid number: {shown}{d.ending}"

/-- Makes files so long. -/
def truncate : Utility := fun _ call => complete call.name do
  let options ← Arguments.read
    [.flag 'c' "no-create", .flag 'o' "io-blocks", .valued 's' "size", .valued 'r' "reference"] 1 call.arguments
  let size ← (options.value? 's').mapM readResizing
  let a := Shown.marked "--size"
  let b := Shown.marked "--reference"
  if (options.value? 's').isNone && (options.value? 'r').isNone then
    failUsage 1 s!"you must specify either {a} or {b}"
  if (options.value? 'r').isSome && size.any (·.operator.isNone) then
    failUsage 1 s!"you must specify a relative {a} with {b}"
  if options.has 'o' && size.isNone then
    let c := Shown.marked "--io-blocks"
    failUsage 1 s!"{c} was specified but {a} was not"
  if options.operands.isEmpty then failUsage 1 "missing file operand"
  let reference ←
    match options.value? 'r' with
    | some path =>
      match ← look path with
      | .ok i => pure (some i.size)
      | .error r =>
        let shown := Shown.quoted path
        Work.fail 1 s!"cannot stat {shown}: {r.wording}"
    | none => pure none
  let size := size.map fun s => if options.has 'o' then { s with count := s.count * 4096 } else s
  for path in options.operands do
    let shown := Shown.quoted path
    let mode : OpenMode := ⟨false, true, !options.has 'c', false, false⟩
    match ← ask (.openFile path mode) with
    | .error r => if !(options.has 'c' && r = .noEntry) then complain s!"cannot open {shown} for writing: {r.wording}"
    | .ok file =>
      let old ←
        match reference with
        | some n => pure n
        | none => do pure ((← ask (.infoOf file)).toOption.elim 0 Info.size)
      let new := (size.getD ⟨some '+', 0⟩).size old
      let result ← if sizeLimit ≤ new.toNat then pure (.error .fileTooLarge) else ask (.setSize file new.toNat)
      match result with
      | .ok _ => pure ()
      | .error r => complain s!"failed to truncate {shown} at {new} bytes: {r.wording}"
      let _ ← ask (.close file)

end ElmAssay.Machine.Utility
