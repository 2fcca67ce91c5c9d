import ElmAssay.Machine.Utility.Removal

/-!
# Utilities that copy and move

Programs that copy files and directories (`cp`, `install`) and give them other places (`mv`). A transfer goes from one path
to another (`transferAt`): it looks at what stands at both, clears the way, and makes what the source is. What was copied
already is remembered (`Copied`), so that no directory is copied into itself and further names stay names of one file.
-/

namespace ElmAssay.Machine.Utility

open Text Work

/-! ## How and what -/

/-- Which links are copied as what they lead to. -/
inductive Following
  | never
  | arguments
  | always
  deriving DecidableEq, Repr

/-- What happens if something stands at the target. -/
inductive Clash
  | overwrite
  | ask
  | keep
  deriving DecidableEq, Repr

/-- What is made instead of a copy. -/
inductive Product
  | copy
  | name
  | link
  deriving DecidableEq, Repr

/-- What a new file gets from its source. -/
structure Inheritance where
  rights : Bool
  time : Bool
  names : Bool
  /-- Whether not even the rights of the source count. -/
  isPlain : Bool
  deriving DecidableEq, Repr

/-- How files are copied or moved. -/
structure Transfer where
  isMove : Bool
  isRecursive : Bool
  following : Following
  isVerbose : Bool
  isForced : Bool
  clash : Clash
  onlyNewer : Bool
  product : Product
  inheritance : Inheritance
  withoutContents : Bool
  removesFirst : Bool
  /-- The rights of all new files, if they are set. -/
  rights : Option Nat
  keeping : Keeping
  ending : Octets

/-- What was copied already: the sources that were named, the targets of these, and where each file or directory went. -/
structure Copied where
  sources : List Nat
  targets : List Nat
  places : List (Nat × Octets)
  /-- Whether a directory was made for the present source. -/
  hasMade : Bool

/-- A step of copying. -/
abbrev Copy (α : Type) := StateT Copied Work α

/-- Shows what goes where. -/
def showPair (front source target : Octets) (kept : Option Octets) : Work Unit := do
  let a := Shown.quoted source
  let b := Shown.quoted target
  let behind := kept.elim "" fun k => " (backup: " ++ Shown.quoted k ++ ")"
  putLine s!"{front}{a} -> {b}{behind}"

/-- Whether two files are the same one. -/
def isSameFile (i j : Info) : Bool := i.serial == j.serial && i.kind == j.kind && i.serial != 0

/-- Whether a target that stands may take the place of its source; `none` if there is nothing to do. -/
def mayReplace (o : Transfer) (source target : Octets) (i j : Info) : Work (Option Bool) := do
  let same := isSameFile i j
  let isOneName : Work Bool := nameSame source target
  if same && o.product = .name then return none
  if o.following = .never then
    if i.isLink && j.isLink then
      let one ← isOneName
      if one then return some false
      if o.keeping != .none then return some true
      if same then return if o.isMove then some false else none
      return some true
  else if !same then return some true
  let a := (← lookAtName source).toOption.getD i
  let b := (← lookAtName target).toOption.getD j
  let sameNamed := isSameFile a b
  if o.following != .never && a.isLink && b.isLink && o.removesFirst then return some true
  if o.keeping != .none then
    if !sameNamed then return some (o.isMove || o.following = .never || !a.isLink || b.isLink)
    return some (!(← isOneName))
  if o.isMove || o.removesFirst then
    if b.isLink then return some true
    if sameNamed && 1 < b.names && !(← isOneName) then return some (!o.isMove)
  if !a.isLink && !b.isLink then
    if !sameNamed then return some true
    if o.product = .name then return none
  if o.product = .link && b.isLink then return some true
  if o.following = .never then
    match ← look source, ← look target with
    | .ok x, .ok y => if !isSameFile x y then return some true
    | _, _ => return some true
  return some false

/-- Whether the user lets a target be overwritten. -/
def mayOverwrite (target : Octets) : Work Bool := do
  let shown := Shown.quoted target
  isGranted s!"overwrite {shown}"

/-! ## Making what a source is -/

/-- Sets what a new file inherits. -/
def inherit (o : Transfer) (isNew : Bool) (i : Info) (target : Octets) : Work Unit := do
  let follows := !i.isLink
  if o.inheritance.time then
    let _ ← ask (.setTime target follows i.changed)
  if follows then
    match o.rights with
    | some rights =>
      let _ ← ask (.setRights target rights)
    | none =>
      let mask ← ask (.mask none)
      if o.inheritance.rights then
        let _ ← ask (.setRights target i.rights)
      else if o.inheritance.isPlain then
        if isNew then
          let _ ← ask (.setRights target (Rights.without (if i.isDirectory then 0o777 else 0o666) mask))
      else if isNew then
        let _ ← ask (.setRights target (Rights.without i.rights mask))

/-- Reads a file by its path, even if that is a dash. -/
def readNamedFile (path : Octets) : Work (Except Refusal Octets) := lift (Routine.readFile path)

/-- Opens a target to be written, after it was removed if it cannot be opened otherwise. -/
def openTarget (o : Transfer) (target : Octets) (isNew : Bool) : Work (Except Unit (Nat × Bool)) := do
  let b := Shown.quoted target
  let refuse (r : Refusal) : Work (Except Unit (Nat × Bool)) := do
    complain s!"cannot create regular file {b}: {r.wording}"
    return .error ()
  let make : Work (Except Unit (Nat × Bool)) := do
    match ← lookAtName target with
    | .ok there =>
      if there.isLink then
        complain s!"not writing through dangling symlink {b}"
        return .error ()
      refuse .alreadyThere
    | .error _ =>
      match ← ask (.openFile target .touching) with
      | .ok file => return .ok (file, true)
      | .error r => refuse (if r = .isDirectory && target.endsWith "/" then .notDirectory else r)
  if isNew then make
  else
    let mode : OpenMode := ⟨false, true, false, !o.withoutContents, false⟩
    match ← ask (.openFile target mode) with
    | .ok file => return .ok (file, false)
    | .error r =>
      if !o.isForced then refuse r
      else
        match ← ask (.removeFile target) with
        | .error r =>
          complain s!"cannot remove {b}: {r.wording}"
          return .error ()
        | .ok _ =>
          if o.isVerbose then putLine s!"removed {b}"
          make

/-- Copies a file to a path; whether that went well. -/
def copyFile (o : Transfer) (source target : Octets) (isNew : Bool) (i : Info) : Work Bool := do
  let a := Shown.quoted source
  match ← if o.withoutContents then pure (.ok "") else readNamedFile source with
  | .error r =>
    complain s!"cannot open {a} for reading: {r.wording}"
    return false
  | .ok data =>
    match ← openTarget o target isNew with
    | .error _ => return false
    | .ok (file, isNew) =>
      if !data.isEmpty then
        let _ ← ask (.write file data)
      let _ ← ask (.close file)
      inherit o isNew i target
      return true

/-- Makes a further name for a file; whether that went well. -/
def copyName (o : Transfer) (isForced : Bool) (source target : Octets) : Work Bool := do
  let made ← ask (.shareFile source target)
  let made ←
    if isForced && made.toOption.isNone then do
      let _ ← ask (.removeFile target)
      ask (.shareFile source target)
    else pure made
  match made with
  | .ok _ => return true
  | .error r =>
    let a := Shown.quoted source
    let b := Shown.quoted target
    complain s!"cannot create hard link {b} to {a}: {r.wording}"
    return o.isMove && false

/-- Makes a link; whether that went well. -/
def copyLink (o : Transfer) (i : Info) (text source target : Octets) (isNew isCopy : Bool) : Work Bool := do
  let a := Shown.quoted source
  let b := Shown.quoted target
  if !isCopy && !source.startsWith "/" && !(← leadToSame (parentPath target) ".") then
    let shown := Shown.plain target
    complain s!"{shown}: can make relative symbolic links only in current directory"
    return false
  let made ← ask (.makeLink text target)
  let made ←
    if (o.isForced || isCopy) && !isNew && made.toOption.isNone then do
      let _ ← ask (.removeFile target)
      ask (.makeLink text target)
    else pure made
  match made with
  | .ok _ =>
    if isCopy then inherit o true i target
    return true
  | .error r =>
    complain (if isCopy then s!"cannot create symbolic link {b}: {r.wording}"
      else s!"cannot create symbolic link {b} to {a}: {r.wording}")
    return false

/-! ## One transfer -/

/-- What was cleared out of the way of a transfer: whether the target is new now, and the path of what was kept. -/
structure Cleared where
  isNew : Bool
  kept : Option Octets

/-- Clears the way for a transfer; `none` if there is nothing more to do. -/
def clearTarget (o : Transfer) (isArgument : Bool) (source target : Octets) (i : Info) : Copy (Option Cleared) := do
  let a := Shown.quoted source
  let b := Shown.quoted target
  let namesOnly := !(i.isFile || (!o.isRecursive && !i.isDirectory && !i.isLink)) || o.isMove || o.product != .copy ||
    o.keeping != .none || o.removesFirst
  match ← if namesOnly then lookAtName target else look target with
  | .error .noEntry => return some ⟨true, none⟩
  | .error r =>
    if r = .tooManyLinks && o.isForced then return some ⟨false, none⟩
    if r = .notDirectory && o.isMove && target.endsWith "/" then return some ⟨true, none⟩
    complain s!"cannot stat {b}: {r.wording}"
    return none
  | .ok j =>
    match ← mayReplace o source target i j with
    | none => return none
    | some false =>
      complain s!"{a} and {b} are the same file"
      return none
    | some true =>
      if o.onlyNewer && !i.isDirectory && i.changed ≤ j.changed then return none
      if o.isMove || !i.isDirectory then
        match o.clash with
        | .keep => return none
        | .ask => if !(← mayOverwrite target) then return none
        | .overwrite => pure ()
      if !j.isDirectory then
        if i.isDirectory && !(o.isMove && o.keeping != .none) then
          complain s!"cannot overwrite non-directory {b} with directory {a}"
          return none
        if isArgument && (← get).targets.contains j.serial && j.serial != 0 then
          complain s!"will not overwrite just-created {b} with {a}"
          return none
      if !i.isDirectory && j.isDirectory && !(o.isMove && o.keeping != .none) then
        complain s!"cannot overwrite directory {b} with non-directory"
        return none
      let name := lastName source
      if o.keeping != .none && name != "." && name != ".." && (o.isMove || !j.isDirectory) then
        let kept ← keptPath o.keeping o.ending target
        if kept == source || (← leadToSame kept source) then
          let verb := if o.isMove then "moved" else "copied"
          complain s!"backing up {b} might destroy source;  {a} not {verb}"
          return none
        match ← ask (.rename target kept) with
        | .ok _ => return some ⟨true, some kept⟩
        | .error r =>
          complain s!"cannot backup {b}: {r.wording}"
          return none
      let breaksNames := o.product = .copy && (o.inheritance.names && 1 < j.names || o.following = .never && !i.isFile)
      if !o.isMove && !j.isDirectory && (o.removesFirst || breaksNames) then
        match ← ask (.removeFile target) with
        | .ok _ =>
          if o.isVerbose then putLine s!"removed {b}"
          return some ⟨true, none⟩
        | .error r =>
          complain s!"cannot remove {b}: {r.wording}"
          return none
      return some ⟨false, none⟩

/-- Remembers where something goes; where it went before, if it did. -/
def remember (serial : Nat) (target : Octets) : Copy (Option Octets) := do
  let known := (← get).places.lookup serial
  if known.isNone then modify fun s => { s with places := (serial, target) :: s.places }
  return known

/-- Moves what is at a path to a place that is clear. -/
def moveNow (o : Transfer) (source target : Octets) (kept : Option Octets) : Work Unit := do
  let a := Shown.quoted source
  let b := Shown.quoted target
  match ← ask (.rename source target) with
  | .ok _ => if o.isVerbose then showPair "renamed " source target kept
  | .error r =>
    complain (if r = .invalid then s!"cannot move {a} to a subdirectory of itself, {b}"
      else s!"cannot move {a} to {b}: {r.wording}")
    if let some k := kept then
      let _ ← ask (.rename k target)

/-- The names in a directory, those of the oldest files first. -/
def namesByAge (directory : Octets) : Work (List Octets) := do
  let names := (← ask (.list directory)).toOption.getD []
  let known ← names.mapM fun name => do
    let i ← lookAtName (joinPath directory name)
    return (i.toOption.elim 0 Info.serial, name)
  return (known.mergeSort fun a b => a.1 ≤ b.1).map Prod.snd

/-- Copies or moves what is at a path to another path. `whole` are the paths that were named at first. The fuel bounds how
deep directories stand in each other. -/
def transferAt (o : Transfer) (whole : Octets × Octets) (isArgument : Bool) :
    Nat → Octets → Octets → Copy Unit
  | 0, _, _ => return
  | fuel + 1, source, target => do
    let a := Shown.quoted source
    let b := Shown.quoted target
    let follows := o.following = .always || (o.following = .arguments && isArgument)
    match ← if follows then look source else lookAtName source with
    | .error r => complain s!"cannot stat {a}: {r.wording}"
    | .ok i =>
      if i.isDirectory && !o.isRecursive && !o.isMove then
        complain (if o.rights.isSome then s!"omitting directory {a}" else s!"-r not specified; omitting directory {a}")
        return
      if isArgument && i.serial != 0 then
        if (← get).sources.contains i.serial && !i.isDirectory && o.keeping = .none then
          warn s!"warning: source file {a} specified more than once"
          return
        modify fun s => { s with sources := i.serial :: s.sources }
      match ← clearTarget o isArgument source target i with
      | none => return
      | some cleared =>
        if o.isVerbose && !o.isMove && !i.isDirectory then showPair "" source target cleared.kept
        let earlier ←
          if o.isMove then pure none
          else if i.isDirectory then
            if isArgument then remember i.serial target else do pure ((← get).places.lookup i.serial)
          else if o.inheritance.names && (1 < i.names || follows) then remember i.serial target
          else pure none
        match earlier, i.isDirectory with
        | some place, true =>
          if ← nameSame source place then
            let x := Shown.quoted whole.1
            let y := Shown.quoted whole.2
            complain s!"cannot copy a directory, {x}, into itself, {y}"
            return
          else if ← nameSame target place then
            let x := Shown.quoted whole.1
            warn s!"warning: source directory {x} specified more than once"
            return
          else if !follows then
            let p := Shown.quoted place
            complain s!"will not create hard link {b} to directory {p}"
            return
        | some place, false =>
          let _ ← copyName o true place target
          return
        | none, _ => pure ()
        if o.isMove then moveNow o source target cleared.kept
        else if i.isDirectory then
          if cleared.isNew then
            match ← ask (.makeDirectory target) with
            | .error r =>
              complain s!"cannot create directory {b}: {r.wording}"
              return
            | .ok _ =>
              if !(← get).hasMade then
                if let some j := (← look target).toOption then
                  let _ ← remember j.serial target
                modify fun s => { s with hasMade := true }
              if o.isVerbose then showPair "" source target cleared.kept
          let next : Transfer := { o with following := if o.following = .arguments then .never else o.following }
          (← namesByAge source).forM fun name =>
            transferAt next whole false fuel (joinPath source name) (joinPath target name)
          inherit o cleared.isNew i target
        else
          let isDone ←
            match o.product with
            | .link => copyLink o i source source target cleared.isNew false
            | .name => copyName o (o.isForced || o.clash = .ask) source target
            | .copy =>
              if i.isLink then do
                match ← ask (.linkText source) with
                | .ok text => copyLink o i text source target cleared.isNew true
                | .error r =>
                  complain s!"cannot read symbolic link {a}: {r.wording}"
                  pure false
              else copyFile o source target cleared.isNew i
          if isDone then
            if isArgument then
              if let some j := (← lookAtName target).toOption then
                modify fun s => { s with targets := j.serial :: s.targets }
          else if let some k := cleared.kept then
            let _ ← ask (.rename k target)

/-- Copies or moves what was named to what was named. -/
def transfer (o : Transfer) (source target : Octets) : Copy Unit := do
  modify fun s => { s with hasMade := false }
  transferAt o (source, target) true depthLimit source target

/-- Runs steps of copying from the start. -/
def freshly (steps : Copy Unit) : Work Unit := do
  let _ ← steps.run ⟨[], [], [], false⟩

/-! ## What is named -/

/-- The sources and the target of copying or moving, and whether the target is a directory to put them into. -/
def sourcesAndTarget (directory : Option Octets) (isPlain : Bool) (operands : List Octets) :
    Work (List Octets × Octets × Bool) := do
  let missing : Work (List Octets × Octets × Bool) := failUsage 1 "missing file operand"
  if directory.isSome && isPlain then
    if operands.isEmpty then
      return ← missing
    else Work.fail 1 "cannot combine --target-directory (-t) and --no-target-directory (-T)"
  match directory, operands with
  | some _, [] => missing
  | some d, sources =>
    if ← isDirectoryAt d then return (sources, d, true)
    let shown := Shown.quoted d
    let r := (← look d).toOption.elim Refusal.noEntry fun _ => Refusal.notDirectory
    Work.fail 1 s!"target directory {shown}: {r.wording}"
  | none, [] => missing
  | none, [a] =>
    let shown := Shown.quoted a
    failUsage 1 s!"missing destination file operand after {shown}"
  | none, operands =>
    let target := operands.getLast?.getD ""
    let sources := operands.dropLast
    let shown := Shown.quoted target
    if isPlain then
      match sources with
      | _ :: _ :: _ =>
        let extra := Shown.quoted ((operands[2]?).getD "")
        failUsage 1 s!"extra operand {extra}"
      | _ => return (sources, target, false)
    else if ← isDirectoryAt target then return (sources, target, true)
    else
      match sources with
      | _ :: _ :: _ =>
        match ← look target with
        | .ok _ => Work.fail 1 s!"target {shown}: Not a directory"
        | .error r => Work.fail 1 s!"target {shown}: {r.wording}"
      | _ => return (sources, target, false)

/-- Makes the directories of a source inside of a target. -/
def makeParents (o : Transfer) (target source : Octets) : Work Unit := do
  for path in (prefixes source).dropLast do
    let goal := joinPath target path
    if !(← isDirectoryAt goal) then
      match ← ask (.makeDirectory goal) with
      | .ok _ =>
        if o.isVerbose then putLine s!"{path} -> {goal}"
        if let some i := (← look path).toOption then inherit o true i goal
      | .error r =>
        let shown := Shown.quoted goal
        complain s!"cannot make directory {shown}: {r.wording}"

/-- What of a source can be inherited, by word. -/
def inheritableWords : List (List String × String) :=
  ["mode", "timestamps", "ownership", "links", "context", "xattr", "all"].map fun w => ([w], w)

/-- What is inherited after an option that adds to it or takes from it. -/
def withInherited (adds : Bool) (words : Octets) (i : Inheritance) : Work Inheritance := do
  let mut i := i
  for word in (Text.cut ',' words.toList).map String.ofList do
    let chosen ← Arguments.choose (if adds then "--preserve" else "--no-preserve") inheritableWords word
    let all := chosen == "all"
    if chosen == "mode" || all then i := { i with rights := adds, isPlain := !adds }
    if chosen == "timestamps" || all then i := { i with time := adds }
    if chosen == "links" || all then i := { i with names := adds }
  return i

/-- The options for copying. -/
def copySwitches : List Switch :=
  keepingSwitches ++
    [.flag 'r' "recursive", .flag 'R' "", .flag 'a' "archive", .flag 'f' "force", .flag 'p' "", .flag 'i' "interactive",
     .flag 'v' "verbose", .flag 'n' "no-clobber", .valued 't' "target-directory", .flag 'T' "no-target-directory",
     .flag 'u' "update", .flag 'L' "dereference", .flag 'P' "no-dereference", .flag 'd' "", .flag 'H' "",
     .flag 'x' "one-file-system", .flag 'l' "link", .flag 's' "symbolic-link", .named 'Q' "preserve" .attached,
     .named 'q' "no-preserve" .value, .named 'A' "attributes-only" .nothing, .named 'E' "parents" .nothing,
     .named 'D' "remove-destination" .nothing, .named 'W' "strip-trailing-slashes" .nothing,
     .named 'F' "reflink" .attached, .named 'M' "sparse" .value, .named 'C' "copy-contents" .nothing, .flag 'Z' ""]

/-- What is inherited by options in their order. -/
def readInheritance (options : Arguments) : Work Inheritance := do
  let mut i : Inheritance := ⟨false, false, false, false⟩
  for (key, value) in options.options do
    match key, value with
    | 'a', _ => i := ⟨true, true, true, false⟩
    | 'd', _ => i := { i with names := true }
    | 'p', _ => i := { i with rights := true, time := true, isPlain := false }
    | 'Q', none => i := { i with rights := true, time := true, isPlain := false }
    | 'Q', some words => i ← withInherited true words i
    | 'q', some words => i ← withInherited false words i
    | 'F', some word =>
      let _ ← Arguments.choose "--reflink" [(["auto"], ()), (["always"], ()), (["never"], ())] word
    | 'M', some word =>
      let _ ← Arguments.choose "--sparse" [(["never"], ()), (["auto"], ()), (["always"], ())] word
    | _, _ => pure ()
  return i

/-- What happens at a clash, by the last option about it. -/
def readClash (options : Arguments) (keys : List Char) : Clash :=
  match options.last? keys with
  | some 'i' => .ask
  | some 'n' => .keep
  | _ => .overwrite

/-- Copies files. -/
def cp : Utility := fun _ call => complete call.name do
  let options ← Arguments.read copySwitches 1 call.arguments
  let inheritance ← readInheritance options
  let (keeping, ending) ← readKeeping call options
  let isRecursive := ['r', 'R', 'a'].any options.has
  let following : Following :=
    match options.last? ['a', 'd', 'P', 'L', 'H'] with
    | some 'L' => .always
    | some 'H' => .arguments
    | some _ => .never
    | none => if isRecursive && !options.has 'l' then .never else .always
  let o : Transfer :=
    { isMove := false, isRecursive, following, isVerbose := options.has 'v', isForced := options.has 'f'
      clash := readClash options ['i', 'n'], onlyNewer := options.has 'u' && readClash options ['i', 'n'] != .keep
      product := if options.has 'l' then .name else if options.has 's' then .link else .copy
      inheritance, withoutContents := options.has 'A', removesFirst := options.has 'D', rights := none, keeping, ending }
  if options.has 'l' && options.has 's' then failUsage 1 "cannot make both hard and symbolic links"
  if keeping != .none && o.clash = .keep then failUsage 1 "options --backup and --no-clobber are mutually exclusive"
  let (sources, target, isInside) ← sourcesAndTarget (options.value? 't') (options.has 'T') options.operands
  if options.has 'E' && !isInside then failUsage 1 "with --parents, the destination must be a directory"
  freshly do
    for source in sources do
      let source :=
        if options.has 'W' then
          let kept := dropTrailing (· == '/') source.toList
          if kept.isEmpty then source else String.ofList kept
        else source
      if options.has 'E' then
        makeParents o target source
        transfer o source (joinPath target (String.ofList (dropTrailing (· == '/') source.toList)))
      else
        let name := lastName source
        transfer o source (if isInside then joinPath target (if name = ".." then "." else name) else target)

/-- Moves files. -/
def mv : Utility := fun _ call => complete call.name do
  let options ← Arguments.read
    (keepingSwitches ++
      [.flag 'f' "force", .flag 'i' "interactive", .flag 'n' "no-clobber", .flag 'v' "verbose",
       .valued 't' "target-directory", .flag 'T' "no-target-directory", .flag 'u' "update",
       .named 'W' "strip-trailing-slashes" .nothing, .flag 'Z' "context"]) 1 call.arguments
  let (keeping, ending) ← readKeeping call options
  let o : Transfer :=
    { isMove := true, isRecursive := true, following := .never, isVerbose := options.has 'v', isForced := true
      clash := readClash options ['f', 'i', 'n'], onlyNewer := options.has 'u' && readClash options ['f', 'i', 'n'] != .keep
      product := .copy
      inheritance := ⟨true, true, true, false⟩, withoutContents := false, removesFirst := false, rights := none, keeping
      ending }
  let (sources, target, isInside) ← sourcesAndTarget (options.value? 't') (options.has 'T') options.operands
  if keeping != .none && o.clash = .keep then failUsage 1 "options --backup and --no-clobber are mutually exclusive"
  freshly do
    for source in sources do
      let source :=
        if options.has 'W' then
          let kept := dropTrailing (· == '/') source.toList
          if kept.isEmpty then source else String.ofList kept
        else source
      transfer o source (if isInside then joinPath target (lastName source) else target)

/-! ## Putting files into their places -/

/-- The options for putting files into their places. -/
def installSwitches : List Switch :=
  keepingSwitches ++
    [.flag 'c' "", .flag 'C' "compare", .flag 'd' "directory", .flag 'D' "", .valued 'g' "group", .valued 'm' "mode",
     .valued 'o' "owner", .flag 'p' "preserve-timestamps", .flag 's' "strip", .valued 't' "target-directory",
     .flag 'T' "no-target-directory", .flag 'v' "verbose", .flag 'Z' ""]

/-- Makes the directories on the way to a path, of which each that is made is told. -/
def makeWay (isVerbose : Bool) (paths : List Octets) : Work Bool := do
  let mut isWell := true
  for path in paths do
    if isWell && !(← isDirectoryAt path) then
      match ← ask (.makeDirectory path) with
      | .ok _ =>
        let name := (← get).name
        let shown := Shown.quoted path
        if isVerbose then putLine s!"{name}: creating directory {shown}"
        let _ ← ask (.setRights path directoryRights)
      | .error r =>
        let shown := Shown.marked path
        let r := if r = .alreadyThere then Refusal.notDirectory else r
        complain s!"cannot create directory {shown}: {r.wording}"
        isWell := false
  return isWell

/-- Puts copies of files into their places, with rights of their own. -/
def install : Utility := fun _ call => complete call.name do
  let options ← Arguments.read installSwitches 1 call.arguments
  let (keeping, ending) ← readKeeping call options
  let rights ←
    match options.value? 'm' with
    | none => pure directoryRights
    | some text =>
      match Rights.read? text with
      | some changes => pure (Rights.after changes false 0 0)
      | none =>
        let shown := Shown.marked text
        Work.fail 1 s!"invalid mode {shown}"
  if options.has 'd' then
    if options.operands.isEmpty then failUsage 1 "missing file operand"
    for path in options.operands do
      if ← makeWay (options.has 'v') (prefixes path) then
        let _ ← ask (.setRights path rights)
  else
    let o : Transfer :=
      { isMove := false, isRecursive := false, following := .always, isVerbose := options.has 'v', isForced := false
        clash := .overwrite, onlyNewer := false, product := .copy
        inheritance := ⟨false, options.has 'p', false, false⟩, withoutContents := false, removesFirst := true
        rights := some rights, keeping, ending }
    let way :=
      if !options.has 'D' then []
      else
        match options.value? 't', options.operands with
        | some d, _ => prefixes d
        | none, [_, target] => (prefixes target).dropLast
        | none, _ => []
    if ← makeWay (options.has 'v') way then
      let (sources, target, isInside) ←
        sourcesAndTarget (options.value? 't') (options.has 'T' || (options.has 'D' && (options.value? 't').isNone))
          options.operands
      freshly do
        for source in sources do
          transfer o source (if isInside then joinPath target (lastName source) else target)

end ElmAssay.Machine.Utility
