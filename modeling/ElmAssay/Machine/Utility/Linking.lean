import ElmAssay.Machine.Utility.Paths

/-!
# Utilities on links

A path from the top on which no link is left is canonical (`canonical`); programs write such paths (`realpath`) or the
texts of links (`readlink`), and make links and further names of files (`ln`, `link`). What stands in the way of a new
name can be kept under another one (`Keeping`).
-/

namespace ElmAssay.Machine.Utility

open Text Work

/-! ## Canonical paths -/

/-- How much of a path has to be there. -/
inductive Presence
  | all
  | allButLast
  | none
  deriving DecidableEq, Repr

/-- The path with one more part. -/
def childPath (path part : Octets) : Octets := if path = "/" then "/" ++ part else path ++ "/" ++ part

/-- Whether a directory has to be where the rest of a path goes on. -/
def asksForDirectory (rest : List Octets) : Bool :=
  match rest.dropWhile (·.isEmpty) with
  | [] => !rest.isEmpty
  | part :: _ => part == "." || part == ".."

/-- The canonical path of parts from another one. Links are not followed if `isPlain`. The fuel bounds the parts and those
of the links. -/
def canonicalFrom (presence : Presence) (isPlain : Bool) : Nat → Octets → List Octets → Work (Except Refusal Octets)
  | 0, _, _ => return .error .tooManyLinks
  | _, path, [] => return .ok path
  | fuel + 1, path, part :: rest => do
    if part = "" ∨ part = "." then canonicalFrom presence isPlain fuel path rest
    else if part = ".." then canonicalFrom presence isPlain fuel (parentPath path) rest
    else
      let next := childPath path part
      let onward := canonicalFrom presence isPlain fuel next rest
      match ← if isPlain then pure (Except.error Refusal.invalid) else ask (.linkText next) with
      | .ok text =>
        let start := if text.startsWith "/" then "/" else path
        canonicalFrom presence isPlain fuel start ((Text.cut '/' text.toList).map String.ofList ++ rest)
      | .error r =>
        if presence = .none then onward
        else
          let defect : Option Refusal ←
            if asksForDirectory rest || isPlain then do
              match ← look (if asksForDirectory rest then next ++ "/" else next) with
              | .ok _ => pure none
              | .error r => pure (some r)
            else pure (if r = .invalid then none else some r)
          match defect with
          | none => onward
          | some r =>
            if presence = .allButLast && r = .noEntry && rest.all (·.isEmpty) then onward else return .error r

/-- The count of steps in which paths are made canonical. -/
def canonicalLimit : Nat := 4000

/-- The canonical path of a path. -/
def canonical (presence : Presence) (isPlain : Bool) (path : Octets) : Work (Except Refusal Octets) := do
  if path.isEmpty then return .error .noEntry
  let start ← if path.startsWith "/" then pure "/" else ask .whereabouts
  canonicalFrom presence isPlain canonicalLimit start ((Text.cut '/' path.toList).map String.ofList)

/-- The parts of a canonical path. -/
def canonicalParts (path : Octets) : List Octets :=
  ((Text.cut '/' path.toList).map String.ofList).filter (!·.isEmpty)

/-- The way from a canonical path to another one. -/
def relativePath (base path : Octets) : Octets :=
  let rec go : List Octets → List Octets → List Octets
    | a :: as, b :: bs => if a = b then go as bs else (a :: as).map (fun _ => "..") ++ b :: bs
    | as, bs => as.map (fun _ => "..") ++ bs
  match go (canonicalParts base) (canonicalParts path) with
  | [] => "."
  | parts => "/".intercalate parts

/-- Whether a canonical path leads to another one or into it. -/
def leadsInto (base path : Octets) : Bool := (canonicalParts base).isPrefixOf (canonicalParts path)

/-- A path at the end of which only a directory may be wanted, or the end of the utility. -/
def canonicalBase (presence : Presence) (find : Octets → Work (Except Refusal Octets)) (path : Octets) : Work Octets := do
  let shown := Shown.plain path
  match ← find path with
  | .ok base =>
    if presence = .all && !(← isDirectoryAt base) then Work.fail 1 s!"{shown}: Not a directory"
    return base
  | .error r => Work.fail 1 s!"{shown}: {r.wording}"

/-- Writes paths from the top, or relative to a place. -/
def realpath : Utility := fun _ call => complete call.name do
  let options ← Arguments.read
    [.flag 'e' "canonicalize-existing", .flag 'm' "canonicalize-missing", .flag 'q' "quiet", .flag 's' "strip",
     .flag 's' "no-symlinks", .flag 'L' "logical", .flag 'P' "physical", .flag 'z' "zero",
     .named 'T' "relative-to" .value, .named 'B' "relative-base" .value] 1 call.arguments
  if options.operands.isEmpty then failUsage 1 "missing operand"
  let presence : Presence :=
    match options.last? ['e', 'm'] with
    | some 'e' => .all
    | some _ => .none
    | none => .allButLast
  let manner := options.last? ['s', 'L', 'P']
  let find (path : Octets) : Work (Except Refusal Octets) := do
    match ← canonical presence (manner = some 's' || manner = some 'L') path with
    | .ok p => if manner = some 'L' then canonical presence false p else return .ok p
    | .error r => return .error r
  let base ← (options.value? 'B').mapM (canonicalBase presence find)
  let near ← (options.value? 'T').mapM (canonicalBase presence find)
  let near := near.or base
  let (near, base) :=
    match base, near with
    | some b, some n => if leadsInto b n then (some n, some b) else (none, some n)
    | b, n => (n, b)
  let lineEnd := if options.has 'z' then "\x00" else "\n"
  for path in options.operands do
    match ← find path with
    | .ok target =>
      let isOutside := base.any fun b => !leadsInto b target
      put ((match near with
        | some n => if isOutside then target else relativePath n target
        | none => target) ++ lineEnd)
    | .error r =>
      if options.has 'q' then raiseStatus 1
      else
        let name := Shown.plain path
        complain s!"{name}: {r.wording}"

/-- Writes the texts of links, or canonical paths. -/
def readlink : Utility := fun _ call => complete call.name do
  let options ← Arguments.read
    [.flag 'f' "canonicalize", .flag 'e' "canonicalize-existing", .flag 'm' "canonicalize-missing",
     .flag 'n' "no-newline", .flag 'q' "quiet", .flag 's' "silent", .flag 'v' "verbose", .flag 'z' "zero"] 1
    call.arguments
  if options.operands.isEmpty then failUsage 1 "missing operand"
  let isEndless := options.has 'n' && options.operands.length = 1
  if options.has 'n' && !isEndless then warn "ignoring --no-newline with multiple arguments"
  let lineEnd := if isEndless then "" else if options.has 'z' then "\x00" else "\n"
  for path in options.operands do
    let result ←
      match options.last? ['f', 'e', 'm'] with
      | some 'f' => canonical .allButLast false path
      | some 'e' => canonical .all false path
      | some _ => canonical .none false path
      | none => ask (.linkText path)
    match result with
    | .ok target => put (target ++ lineEnd)
    | .error r =>
      if options.last? ['q', 's', 'v'] = some 'v' then
        let shown := Shown.plain path
        complain s!"{shown}: {r.wording}"
      else raiseStatus 1

/-! ## Keeping what is in the way -/

/-- How what stands in the way of a new name is kept. -/
inductive Keeping
  | none
  | simple
  /-- By numbers if there are names with numbers already. -/
  | existing
  | numbered
  deriving DecidableEq, Repr

/-- The words for how something is kept. -/
def keepingWords : List (List String × Keeping) :=
  [(["none", "off"], .none), (["simple", "never"], .simple), (["existing", "nil"], .existing), (["numbered", "t"], .numbered)]

/-- The options about keeping. -/
def keepingSwitches : List Switch :=
  [.flag 'b' "", .named 'B' "backup" .attached, .valued 'S' "suffix"]

/-- How options want something to be kept, and the ending of the names for that. -/
def readKeeping (call : Invocation) (options : Arguments) : Work (Keeping × Octets) := do
  let fromName (what : String) (word : Octets) : Work Keeping :=
    if word.isEmpty then return .existing else Arguments.choose what keepingWords word
  let keeping ←
    if !(options.has 'b' || options.has 'B' || options.has 'S') then pure Keeping.none
    else
      match options.value? 'B' with
      | some word => fromName "backup type" word
      | none => fromName "$VERSION_CONTROL" ((call.environment.lookup "VERSION_CONTROL").getD "")
  let wanted := (options.value? 'S').getD ((call.environment.lookup "SIMPLE_BACKUP_SUFFIX").getD "")
  return (keeping, if wanted.isEmpty || wanted.toList.contains '/' then "~" else wanted)

/-- The number of a name that keeps what another one named. -/
def keptNumber? (base name : Octets) : Option Nat :=
  let front := base ++ ".~"
  if name.startsWith front && name.endsWith "~" && front.length < name.length then
    let digits := (name.toList.drop front.length).dropLast
    if digits.isEmpty || digits.head? == some '0' then none else Numeral.plain? (String.ofList digits)
  else none

/-- The path under which what is at a path is kept. -/
def keptPath (keeping : Keeping) (ending path : Octets) : Work Octets := do
  if keeping = .simple then return path ++ ending
  let names := (← ask (.list (parentPath path))).toOption.getD []
  let greatest := (names.filterMap (keptNumber? (lastName path))).foldl max 0
  if greatest = 0 && keeping = .existing then return path ++ ending
  let number := Numeral.text (greatest + 1)
  return s!"{path}.~{number}~"

/-! ## Making links -/

/-- How links are made. -/
structure Tying where
  isSymbolic : Bool
  isForced : Bool
  asks : Bool
  isVerbose : Bool
  isRelative : Bool
  /-- Whether a further name is made for what a link leads to. -/
  follows : Bool
  keeping : Keeping
  ending : Octets

/-- Makes a link or a further name. -/
def tie (o : Tying) (source target : Octets) : Work (Except Refusal Unit) := do
  if o.isSymbolic then ask (.makeLink source target)
  else if o.follows then
    match ← canonical .all false source with
    | .ok path => ask (.shareFile path target)
    | .error r => return .error r
  else ask (.shareFile source target)

/-- Whether an answer that is read says yes. -/
def isAgreed : Work Bool := do
  flush
  match ← ask (.readLine 0) with
  | .ok line => return line.startsWith "y" || line.startsWith "Y"
  | .error _ => return false

/-- Tells that a link could not be made. -/
def complainOfTie (o : Tying) (source target : Octets) (r : Refusal) : Work Unit := do
  let a := Shown.quoted source
  let b := Shown.quoted target
  if o.isSymbolic then
    if r = .nameTooLong || source.isEmpty then complain s!"failed to create symbolic link {b} -> {a}: {r.wording}"
    else complain s!"failed to create symbolic link {b}: {r.wording}"
  else if r = .alreadyThere then complain s!"failed to create hard link {b}: {r.wording}"
  else complain s!"failed to create hard link {b} => {a}: {r.wording}"

/-- Whether two paths name the same entry of the same directory. -/
def nameSame (a b : Octets) : Work Bool := do
  return lastName a == lastName b && (← leadToSame (parentPath a) (parentPath b))

/-- The kept path of what was moved out of the way of a link, or the end of the attempt. -/
def clearWay (o : Tying) (source target : Octets) (there : Info) : Work (Except Unit (Option Octets)) := do
  let a := Shown.quoted source
  let b := Shown.quoted target
  if there.isDirectory then
    let shown := Shown.plain target
    complain s!"{shown}: cannot overwrite directory"
    return .error ()
  let known ← if o.isSymbolic || o.follows then look source else lookAtName source
  let mayClash := o.isForced && o.keeping = .none || !o.isSymbolic && o.keeping != .none
  let isSame := known.toOption.any fun i => i.serial == there.serial && i.kind == there.kind
  if mayClash && isSame && (there.names = 1 || (← nameSame source target)) then
    complain s!"{a} and {b} are the same file"
    return .error ()
  if o.asks then
    let name := (← get).name
    flush
    say s!"{name}: replace {b}? "
    if !(← isAgreed) then
      return .error ()
  if o.keeping = .none then
    if !(isSame && !o.isSymbolic) then
      let _ ← ask (.removeFile target)
    return .ok none
  let kept ← keptPath o.keeping o.ending target
  match ← ask (.rename target kept) with
  | .ok _ => return .ok (some kept)
  | .error r =>
    complain s!"cannot backup {b}: {r.wording}"
    return .error ()

/-- Makes one link. -/
def tieOne (o : Tying) (source target : Octets) : Work Unit := do
  let done (source : Octets) (kept : Option Octets) : Work Unit := do
    if o.isVerbose then
      let front := kept.elim "" fun k => Shown.quoted k ++ " ~ "
      let a := Shown.quoted source
      let b := Shown.quoted target
      let arrow := if o.isSymbolic then "->" else "=>"
      putLine s!"{front}{b} {arrow} {a}"
  let source ←
    if o.isRelative then do
      let directory := (← canonical .none false (parentPath target)).toOption.getD "/"
      match ← canonical .none false source with
      | .ok path => pure (relativePath directory path)
      | .error _ => pure source
    else pure source
  match ← tie o source target with
  | .ok _ => done source none
  | .error r =>
    let known ← if o.follows then look source else lookAtName source
    match o.isSymbolic, known with
    | false, .error e =>
      let shown := Shown.quoted source
      complain s!"failed to access {shown}: {e.wording}"
    | isSymbolic, known =>
      if !isSymbolic && known.toOption.any Info.isDirectory then
        let shown := Shown.plain source
        complain s!"{shown}: hard link not allowed for directory"
      else if o.isForced || o.asks || o.keeping != .none then
        match ← lookAtName target with
        | .ok there =>
          match ← clearWay o source target there with
          | .error _ => if !o.asks then raiseStatus 1
          | .ok kept =>
            let isDone := !o.isSymbolic && kept.isNone && (← lookAtName target).toOption.isSome
            match ← if isDone then pure (.ok ()) else tie o source target with
            | .ok _ => done source kept
            | .error r =>
              complainOfTie o source target r
              if let some k := kept then
                let _ ← ask (.rename k target)
        | .error .noEntry => complainOfTie o source target r
        | .error e =>
          let shown := Shown.quoted target
          complain s!"failed to access {shown}: {e.wording}"
      else complainOfTie o source target r

/-- The options for links. -/
def tyingSwitches : List Switch :=
  keepingSwitches ++
    [.flag 'd' "directory", .flag 'F' "", .flag 'f' "force", .flag 'i' "interactive", .flag 'L' "logical",
     .flag 'n' "no-dereference", .flag 'P' "physical", .flag 'r' "relative", .flag 's' "symbolic",
     .valued 't' "target-directory", .flag 'T' "no-target-directory", .flag 'v' "verbose"]

/-- Makes links and further names of files. -/
def ln : Utility := fun _ call => complete call.name do
  let options ← Arguments.read tyingSwitches 1 call.arguments
  let (keeping, ending) ← readKeeping call options
  let o : Tying :=
    { isSymbolic := options.has 's', isForced := options.last? ['f', 'i'] = some 'f'
      asks := options.last? ['f', 'i'] = some 'i', isVerbose := options.has 'v', isRelative := options.has 'r'
      follows := options.last? ['L', 'P'] = some 'L', keeping, ending }
  if options.operands.isEmpty then failUsage 1 "missing file operand"
  if o.isRelative && !o.isSymbolic then Work.fail 1 "cannot do --relative without --symbolic"
  let tieInside (directory : Octets) (sources : List Octets) : Work Unit := do
    for source in sources do tieOne o source (joinPath directory (lastName source))
  let isPlace (path : Octets) : Work Bool := do
    return (← if options.has 'n' then lookAtName path else look path).toOption.any Info.isDirectory
  match options.value? 't', options.has 'T', options.operands with
  | some _, true, _ => Work.fail 1 "cannot combine --target-directory and --no-target-directory"
  | some directory, false, sources =>
    if ← isPlace directory then tieInside directory sources
    else
      let shown := Shown.quoted directory
      match ← look directory with
      | .ok _ => Work.fail 1 s!"target {shown} is not a directory"
      | .error r => Work.fail 1 s!"failed to access {shown}: {r.wording}"
  | none, true, [source, target] => tieOne o source target
  | none, true, [source] =>
    let shown := Shown.quoted source
    failUsage 1 s!"missing destination file operand after {shown}"
  | none, true, operands =>
    let shown := Shown.quoted ((operands[2]?).getD "")
    failUsage 1 s!"extra operand {shown}"
  | none, false, [source] => tieInside "." [source]
  | none, false, operands =>
    let target := (operands.getLast?).getD ""
    if ← isPlace target then tieInside target operands.dropLast
    else
      match operands with
      | [source, target] => tieOne o source target
      | _ =>
        let shown := Shown.quoted target
        let r := (← look target).toOption.elim Refusal.noEntry fun _ => Refusal.notDirectory
        Work.fail 1 s!"target {shown}: {r.wording}"

/-- Gives a file one more name. -/
def link : Utility := fun _ call => complete call.name do
  let options ← Arguments.read [] 1 call.arguments
  match options.operands with
  | [source, target] =>
    match ← ask (.shareFile source target) with
    | .ok _ => pure ()
    | .error r =>
      let a := Shown.quoted source
      let b := Shown.quoted target
      complain s!"cannot create link {b} to {a}: {r.wording}"
  | [] => failUsage 1 "missing operand"
  | [source] =>
    let shown := Shown.marked source
    failUsage 1 s!"missing operand after {shown}"
  | _ :: _ :: extra :: _ =>
    let shown := Shown.marked extra
    failUsage 1 s!"extra operand {shown}"

end ElmAssay.Machine.Utility
