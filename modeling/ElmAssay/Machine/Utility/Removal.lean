import ElmAssay.Machine.Utility.Linking
import ElmAssay.Machine.Utility.Making

/-!
# Utilities that take files away

Programs that take away files and whole directories (`rm`), directories that are empty (`rmdir`), and one name of a file
(`unlink`). What goes on inside of a directory decides whether the directory itself can go (`removeAt`).
-/

namespace ElmAssay.Machine.Utility

open Text Work

/-! ## Empty directories -/

/-- Takes away directories that are empty, as far as the paths go. -/
def removeEmpty (isVerbose isIgnoring : Bool) : List Octets → Work Unit
  | [] => return
  | path :: rest => do
    let shown := Shown.quoted path
    tell shown
    match ← ask (.removeDirectory path) with
    | .ok _ => removeEmptyOuter rest
    | .error r =>
      if !(isIgnoring && r = .notEmpty) then complain s!"failed to remove {shown}: {r.wording}"
where
  /-- Tells which directory is taken away. -/
  tell (shown : Octets) : Work Unit := do
    if isVerbose then
      let name := (← get).name
      putLine s!"{name}: removing directory, {shown}"
  /-- Takes away the directories around one that was taken away. -/
  removeEmptyOuter : List Octets → Work Unit
    | [] => return
    | path :: rest => do
      let shown := Shown.quoted path
      tell shown
      match ← ask (.removeDirectory path) with
      | .ok _ => removeEmptyOuter rest
      | .error r =>
        if !(isIgnoring && r = .notEmpty) then complain s!"failed to remove directory {shown}: {r.wording}"

/-- Takes away empty directories. -/
def rmdir : Utility := fun _ call => complete call.name do
  let options ← Arguments.read
    [.flag 'p' "parents", .flag 'v' "verbose", .named 'I' "ignore-fail-on-non-empty" .nothing] 1 call.arguments
  if options.operands.isEmpty then failUsage 1 "missing operand"
  for path in options.operands do
    let paths := if options.has 'p' then (prefixes path).reverse else [path]
    removeEmpty (options.has 'v') (options.has 'I') paths

/-! ## Files and whole directories -/

/-- When it is asked whether something is to be taken away. -/
inductive Asking
  | never
  | once
  | always
  deriving DecidableEq, Repr

/-- The words for when it is asked. -/
def askingWords : List (List String × Asking) :=
  [(["never", "no", "none"], .never), (["once"], .once), (["always", "yes"], .always)]

/-- How files are taken away. -/
structure Removal where
  isForced : Bool
  isRecursive : Bool
  isVerbose : Bool
  takesEmpty : Bool
  asking : Asking
  sparesTop : Bool

/-- Tells that something could not be taken away. -/
def complainOfRemoval (path : Octets) (r : Refusal) : Work Unit := do
  let shown := Shown.quoted path
  complain s!"cannot remove {shown}: {r.wording}"

/-- What a kind of file is called. -/
def kindName (i : Info) : String :=
  match i.kind with
  | .directory => "directory"
  | .link => "symbolic link"
  | .device => "character special file"
  | .pipe => "fifo"
  | .file => if i.size = 0 then "regular empty file" else "regular file"

/-- Asks a question; whether the answer is yes. -/
def isGranted (question : Octets) : Work Bool := do
  let name := (← get).name
  flush
  say s!"{name}: {question}? "
  isAgreed

/-- Takes away what is at a path; whether nothing went wrong. The fuel bounds how deep directories stand in each other. -/
def removeAt (o : Removal) (isArgument : Bool) : Nat → Octets → Work Bool
  | 0, _ => return false
  | fuel + 1, path => do
    let shown := Shown.quoted path
    match ← lookAtName path with
    | .error r =>
      if o.isForced && (r = .noEntry || r = .notDirectory) then return true
      complainOfRemoval path r
      return false
    | .ok i =>
      if !i.isDirectory then
        let kind := kindName i
        if o.asking = .always then
          if !(← isGranted s!"remove {kind} {shown}") then return true
        match ← ask (.removeFile path) with
        | .ok _ =>
          if o.isVerbose then putLine s!"removed {shown}"
          return true
        | .error r =>
          complainOfRemoval path r
          return false
      else
        let names := (← ask (.list path)).toOption.getD []
        let name := lastName path
        if !o.isRecursive && !(o.takesEmpty && names.isEmpty) then
          complainOfRemoval path (if o.takesEmpty then .notEmpty else .isDirectory)
          return false
        if isArgument && (name == "." || name == "..") then
          complain s!"refusing to remove '.' or '..' directory: skipping {shown}"
          return false
        if isArgument && o.sparesTop && (← ask (.resolve path)).toOption == some "/" then
          let same := if path = "/" then "" else " (same as '/')"
          complain s!"it is dangerous to operate recursively on {shown}{same}"
          warn "use --no-preserve-root to override this failsafe"
          return false
        if o.asking = .always && !names.isEmpty then
          if !(← isGranted s!"descend into directory {shown}") then return true
        let gone ← names.mapM fun name => removeAt o false fuel (joinPath path name)
        if !gone.all id then return false
        if o.asking = .always then
          if !(← isGranted s!"remove directory {shown}") then return true
        match ← ask (.removeDirectory path) with
        | .ok _ =>
          if o.isVerbose then putLine s!"removed directory {shown}"
          return true
        | .error r =>
          complainOfRemoval path r
          return false

/-- The options for taking away. -/
def removalSwitches : List Switch :=
  [.flag 'f' "force", .flag 'i' "", .flag 'I' "", .flag 'r' "recursive", .flag 'R' "", .flag 'd' "dir",
   .flag 'v' "verbose", .named 'P' "preserve-root" .attached, .named 'N' "no-preserve-root" .nothing,
   .named 'O' "one-file-system" .nothing, .named 'A' "interactive" .attached]

/-- Takes away files. -/
def rm : Utility := fun _ call => complete call.name do
  let options ← Arguments.read removalSwitches 1 call.arguments
  let mut asking := Asking.never
  let mut isForced := false
  for (key, value) in options.options do
    let next : Option Asking ←
      match key with
      | 'f' => pure (some .never)
      | 'i' => pure (some .always)
      | 'I' => pure (some .once)
      | 'A' =>
        match value with
        | some word => do
          let a ← Arguments.choose "--interactive" askingWords word
          pure (some a)
        | none => pure (some .always)
      | _ => pure none
    if let some a := next then
      asking := a
      isForced := key == 'f'
  let o : Removal :=
    { isForced, isRecursive := options.has 'r' || options.has 'R', isVerbose := options.has 'v', takesEmpty := options.has 'd'
      asking, sparesTop := !options.has 'N' }
  let count := options.operands.length
  if count = 0 && !o.isForced then failUsage 1 "missing operand"
  if o.asking = .once && (o.isRecursive || 3 < count) then
    let noun := if count = 1 then "argument" else "arguments"
    let manner := if o.isRecursive then " recursively" else ""
    if !(← isGranted s!"remove {count} {noun}{manner}") then quit 0
  for path in options.operands do
    let _ ← removeAt o true depthLimit path

/-- Takes away one name of a file. -/
def unlink : Utility := fun _ call => complete call.name do
  let options ← Arguments.read [] 1 call.arguments
  match options.operands with
  | [path] =>
    match ← ask (.removeFile path) with
    | .ok _ => pure ()
    | .error r =>
      let shown := Shown.quoted path
      complain s!"cannot unlink {shown}: {r.wording}"
  | [] => failUsage 1 "missing operand"
  | _ :: extra :: _ =>
    let shown := Shown.marked extra
    failUsage 1 s!"extra operand {shown}"

end ElmAssay.Machine.Utility
