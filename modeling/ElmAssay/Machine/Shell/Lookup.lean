import ElmAssay.Machine.Script.Grammar
import ElmAssay.Machine.Shell.State
import ElmAssay.Text.Lines

/-!
# What the names of commands stand for

A command is named by a function, by a command that is built into the shell, or by a program, which is looked for in the
directories of the search path (`lookUp`). A name with a slash is the path of a program itself. The same is told in words
to scripts that ask for it (`describe`).
-/

namespace ElmAssay.Machine.Shell

/-- The builtin commands that are treated as a part of the shell: their errors end it. -/
def specialBuiltins : List Octets := Grammar.specialNames

/-- The builtin commands that could be programs. -/
def plainBuiltins : List Octets :=
  ["[", "alias", "bg", "cd", "chdir", "command", "echo", "false", "fg", "getopts", "hash", "jobs", "kill", "printf", "pwd",
   "read", "test", "true", "type", "ulimit", "umask", "unalias", "wait"]

/-- Whether a command is built in. -/
def isBuiltin (name : Octets) : Bool := specialBuiltins.contains name || plainBuiltins.contains name

/-- What the name of a command stands for. -/
inductive Standing
  | function (body : Script)
  | builtin
  /-- A program, with the paths at which it may be, the first of which leads to a file. -/
  | program (paths : List Octets)
  | unknown (r : Refusal)

/-- The paths of a name in the directories of a search path. -/
def pathsIn (search name : Octets) : List Octets :=
  (Text.cut ':' search.toList).map fun d => if d.isEmpty then name else String.ofList d ++ "/" ++ name

/-- The paths from the first on that leads to a file. -/
def fromFirstFile : List Octets → Refusal → Routine (Except Refusal (List Octets))
  | [], r => return .error r
  | path :: paths, r => do
    match ← Routine.info path with
    | .ok i => if i.kind = .file then return .ok (path :: paths) else fromFirstFile paths .denied
    | .error .noEntry => fromFirstFile paths r
    | .error .notDirectory => fromFirstFile paths r
    | .error s => fromFirstFile paths s

/-- Whether a name is a path itself. -/
def isPath (name : Octets) : Bool := name.toList.contains '/'

/-- Looks for a program. -/
def findProgram (search name : Octets) : Shell Standing := do
  if isPath name then return .program [name]
  match ← lift (fromFirstFile (pathsIn search name) .noEntry) with
  | .ok paths =>
    modify fun s => { s with foundPrograms := name :: s.foundPrograms.filter (· != name) }
    return .program paths
  | .error r => return .unknown r

/-- What the name of a command stands for, with or without the functions. -/
def lookUp (withFunctions : Bool) (search name : Octets) : Shell Standing := do
  if isPath name then return .program [name]
  let s ← get
  match if withFunctions then s.functions.lookup name else none with
  | some body => return .function body
  | none => if isBuiltin name then return .builtin else findProgram search name

/-- Becomes the first of some programs that can start; a file that starts nothing by itself is a script. The answer says
why none could. -/
def startFirst (ev : Evaluator) (call : Invocation) : List Octets → Refusal → Routine Refusal
  | [], r => return r
  | path :: paths, r => do
    match ← ev (.start path call) with
    | .noEntry => startFirst ev call paths r
    | .notDirectory => startFirst ev call paths r
    | .notExecutableFormat =>
      let shell := "/bin/sh"
      startFirst ev call paths (← ev (.start shell { call with name := shell, arguments := path :: call.arguments }))
    | s => startFirst ev call paths s

/-- A text in single quotes, in which a quote itself stands in double ones. -/
def singleQuoted (s : Octets) : Octets :=
  let isQuote (c : Char) : Bool := c == '\''
  let rec pieces : Nat → List Char → List Char
    | 0, _ => []
    | fuel + 1, cs =>
      let plain := cs.takeWhile (!isQuote ·)
      let rest := cs.drop plain.length
      let quotes := rest.takeWhile isQuote
      let after := rest.drop quotes.length
      '\'' :: plain ++ '\'' :: (if quotes.isEmpty then [] else '"' :: quotes ++ ['"']) ++
        if after.isEmpty then [] else pieces fuel after
  String.ofList (pieces (s.length + 1) s.toList)

/-- What is said of the name of a command, in words or as a script would have it, and whether it stands for anything. -/
def describe (inWords : Bool) (search name : Octets) : Shell (Octets × Bool) := do
  let s ← get
  let say (words plain : Octets) : Octets × Bool := (if inWords then s!"{name} {words}\n" else s!"{plain}\n", true)
  if Token.keywords.contains name then return say "is a shell keyword" name
  else
    match s.aliases.lookup name with
    | some value =>
      let quoted := singleQuoted value
      return say s!"is an alias for {value}" s!"alias {name}={quoted}"
    | none =>
      let known := if s.foundPrograms.contains name then "is a tracked alias for" else "is"
      match ← lookUp true search name with
      | .function _ => return say "is a shell function" name
      | .builtin =>
        return say (if specialBuiltins.contains name then "is a special shell builtin" else "is a shell builtin") name
      | .program paths =>
        let path := (paths.head?).getD name
        if isPath name && !(← lift (Routine.stands path)) then
          return (if inWords then s!"{name}: not found\n" else "", false)
        return say s!"{known} {path}" path
      | .unknown _ => return (if inWords then s!"{name}: not found\n" else "", false)

end ElmAssay.Machine.Shell
