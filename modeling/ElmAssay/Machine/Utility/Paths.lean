import ElmAssay.Machine.Ground
import ElmAssay.Machine.Utility.Basic

/-!
# Utilities on paths

Programs that take paths apart (`basename`, `dirname`) or tell where one is (`pwd`), and the operations on paths that other
utilities need.
-/

namespace ElmAssay.Machine.Utility

open Text Work

/-! ## Parts of paths -/

/-- The last part of a path, without slashes behind it. -/
def lastName (path : Octets) : Octets :=
  let s := dropTrailing (· == '/') path.toList
  if s.isEmpty then (if path.isEmpty then "" else "/")
  else String.ofList (s.reverse.takeWhile (· != '/')).reverse

/-- The path of the directory around the last part of a path. -/
def parentPath (path : Octets) : Octets :=
  let s := dropTrailing (· == '/') path.toList
  let front := (s.reverse.dropWhile (· != '/')).reverse
  if s.isEmpty then (if path.isEmpty then "." else "/")
  else if front.isEmpty then "."
  else
    let t := dropTrailing (· == '/') front
    if t.isEmpty then "/" else String.ofList t

/-- A path behind another one. -/
def joinPath (directory name : Octets) : Octets :=
  if directory.endsWith "/" then directory ++ name else directory ++ "/" ++ name

/-- A name without an ending, unless it is nothing else. -/
def withoutEnding (ending name : Octets) : Octets :=
  if name != ending && name.endsWith ending then String.ofList (name.toList.take (name.length - ending.length)) else name

/-- Writes the last parts of paths. -/
def basename : Utility := fun _ call => complete call.name do
  let options ← Arguments.readInOrder
    [.flag 'a' "multiple", .valued 's' "suffix", .flag 'z' "zero"] 1 call.arguments
  let isMultiple := options.has 'a' || options.has 's'
  let lineEnd := if options.has 'z' then "\x00" else "\n"
  match options.operands with
  | [] => failUsage 1 "missing operand"
  | path :: rest =>
    if isMultiple then
      for p in path :: rest do put (withoutEnding ((options.value? 's').getD "") (lastName p) ++ lineEnd)
    else
      match rest with
      | _ :: extra :: _ =>
        let shown := Shown.marked extra
        failUsage 1 s!"extra operand {shown}"
      | _ => put (withoutEnding ((rest.head?).getD "") (lastName path) ++ lineEnd)

/-- Writes the paths around the last parts of paths. -/
def dirname : Utility := fun _ call => complete call.name do
  let options ← Arguments.read [.flag 'z' "zero"] 1 call.arguments
  if options.operands.isEmpty then failUsage 1 "missing operand"
  for path in options.operands do put (parentPath path ++ if options.has 'z' then "\x00" else "\n")

/-! ## Looking -/

/-- What is known of what a path leads to. -/
def look (path : Octets) : Work (Except Refusal Info) := ask (.info path true)

/-- What is known of what a path names, which may be a link. -/
def lookAtName (path : Octets) : Work (Except Refusal Info) := ask (.info path false)

/-- Whether a directory stands at a path. -/
def isDirectoryAt (path : Octets) : Work Bool := lift (Routine.isDirectory path)

/-- Whether two paths lead to the same place. -/
def leadToSame (a b : Octets) : Work Bool := do
  match ← ask (.resolve a), ← ask (.resolve b) with
  | .ok l, .ok m => return l == m
  | _, _ => return false

/-! ## Where one is -/

/-- Whether a path from the top has no detours. -/
def isStraight (path : Octets) : Bool :=
  path.startsWith "/" && !(Tree.partsOf path).any fun part => part == "." || part == ".."

/-- Writes the directory that it is in. -/
def pwd : Utility := fun _ call => complete call.name do
  let options ← Arguments.read [.flag 'L' "logical", .flag 'P' "physical"] 1 call.arguments
  if !options.operands.isEmpty then warn "ignoring non-option arguments"
  let here ← ask .whereabouts
  let told := (call.environment.lookup "PWD").getD ""
  let isTold ← if options.last? ['L', 'P'] = some 'L' && isStraight told then leadToSame told "." else pure false
  putLine (if isTold then told else here)

end ElmAssay.Machine.Utility
