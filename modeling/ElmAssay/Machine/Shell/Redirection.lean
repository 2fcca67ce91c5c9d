import ElmAssay.Machine.Shell.Expansion

/-!
# Redirections

The redirections of a command are expanded first (`Opening`) and then made one after the other (`redirect`). What their
numbers stood for before is kept under numbers that scripts cannot name, so that it can be put back (`restore`).
-/

namespace ElmAssay.Machine.Shell

/-- A redirection without words. -/
inductive Opening
  | file (number : Nat) (manner : Redirect.Manner) (path : Octets)
  | copy (number source : Nat)
  | close (number : Nat)
  | text (number : Nat) (content : Octets)
  deriving DecidableEq, Repr

namespace Opening

/-- The number that a redirection gives a meaning. -/
def number : Opening → Nat
  | file n _ _ => n
  | copy n _ => n
  | close n => n
  | text n _ => n

end Opening

/-- Expands a redirection. -/
def expandRedirect (ev : Evaluator) : Redirect → Shell Opening
  | .file number manner name => do return .file number manner (← expandText ev false name)
  | .copy number source => return .copy number source
  | .close number => return .close number
  | .copyNamed number source => do
    let s ← expandText ev false source
    match s.toList with
    | ['-'] => return .close number
    | [c] => if Text.isAsciiDigit c then return .copy number (c.toNat - 48) else fail "Syntax error: Bad fd number"
    | _ => fail "Syntax error: Bad fd number"
  | .document number document => do
    return .text number (← expandText ev false (((← get).documents.lookup document).getD []))

/-- Opens a file for a redirection; `none` after a message. -/
def openFor (manner : Redirect.Manner) (path : Octets) : Shell (Option Nat) := do
  let mode : OpenMode :=
    match manner with
    | .read => .reading
    | .write => .writing
    | .overwrite => .writing
    | .append => .appending
    | .both => .both
  let isProtected ←
    if manner = .write && (← get).options.protectsFiles then
      match ← ask (.info path true) with
      | .ok i => pure i.isFile
      | .error _ => pure false
    else pure false
  if isProtected then
    warn s!"cannot create {path}: File exists"
    return none
  match ← ask (.openFile path mode) with
  | .ok file => return some file
  | .error r =>
    if manner = .read then warn s!"cannot open {path}: {openRefusal r}"
    else warn s!"cannot create {path}: {creationRefusal r}"
    return none

/-- Gives a number the meaning of another one, which it takes over. -/
def takeOver (file number : Nat) : Shell Unit := do
  if file != number then
    let _ ← ask (.duplicate file number)
    let _ ← ask (.close file)

/-- What numbers stood for, under the numbers that keep it; `none` for nothing. -/
abbrev Kept := List (Nat × Option Nat)

/-- Keeps what a number stands for, unless it is kept already. -/
def keep (kept : Kept) (number : Nat) : Shell Kept := do
  if (kept.lookup number).isSome then return kept
  else
    match ← ask (.reserve number privateFiles) with
    | .ok file => return (number, some file) :: kept
    | .error _ => return (number, none) :: kept

/-- Makes a redirection. The answer is what is kept, or nothing if the redirection failed after a message. -/
def redirectOne (kept : Kept) (o : Opening) : Shell (Bool × Kept) := do
  match o with
  | .file number manner path =>
    match ← openFor manner path with
    | none => return (false, kept)
    | some file =>
      if file = number then return (true, (number, none) :: kept)
      let kept ← keep kept number
      takeOver file number
      return (true, kept)
  | .copy number source =>
    if number = source then return (true, kept)
    let kept ← keep kept number
    match ← ask (.duplicate source number) with
    | .ok _ => return (true, kept)
    | .error r =>
      warn s!"{source}: {r.wording}"
      return (false, kept)
  | .close number =>
    let kept ← keep kept number
    let _ ← ask (.close number)
    return (true, kept)
  | .text number content =>
    let kept ← keep kept number
    let _ ← ask (.close number)
    let (output, input) ← ask .pipe
    let _ ← ask (.write input content)
    let _ ← ask (.close input)
    takeOver output number
    return (true, kept)

/-- Makes redirections up to the first that fails. -/
def redirect (kept : Kept) : List Opening → Shell (Bool × Kept)
  | [] => return (true, kept)
  | o :: os => do
    let (ok, kept) ← redirectOne kept o
    if ok then redirect kept os else return (false, kept)

/-- Puts back what was kept. -/
def restore : Kept → Shell Unit
  | [] => return
  | (number, file) :: kept => do
    match file with
    | some file => takeOver file number
    | none =>
      let _ ← ask (.close number)
    restore kept

/-- Forgets what was kept. -/
def forget (kept : Kept) : Shell Unit := do
  for k in kept do
    match k.2 with
    | some file =>
      let _ ← ask (.close file)
    | none => pure ()

/-- Runs a step to its end, however it ends. -/
def attempt {α : Type} (body : Shell α) : Shell (Except Halt α) := do
  let s ← get
  let (result, s) ← lift ((body.run).run s)
  set s
  return result

/-- Goes on as a step ended. -/
def resume {α : Type} : Except Halt α → Shell α
  | .ok a => return a
  | .error h => throw h

/-- Makes redirections for a step. After it they are taken back, or stay if the answer of the step is that they do. If
one of them fails, the status is two and the step is left out. The answer is whether they were made. -/
def redirected (openings : List Opening) (body : Kept → Shell Bool) : Shell Bool := do
  let (made, kept) ← redirect [] openings
  if made then
    let result ← attempt (body kept)
    match result with
    | .ok true => forget kept
    | _ => restore kept
    let _ ← resume result
    return true
  else
    restore kept
    setStatus 2
    return false

end ElmAssay.Machine.Shell
