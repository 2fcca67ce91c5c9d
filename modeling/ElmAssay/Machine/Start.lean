import ElmAssay.Machine.Shell.Evaluation
import ElmAssay.Machine.Utility.Arrangement
import ElmAssay.Machine.Utility.Blocks
import ElmAssay.Machine.Utility.Comparing
import ElmAssay.Machine.Utility.Copying
import ElmAssay.Machine.Utility.Counting
import ElmAssay.Machine.Utility.Cutting
import ElmAssay.Machine.Utility.Difference
import ElmAssay.Machine.Utility.Drawing
import ElmAssay.Machine.Utility.Dump
import ElmAssay.Machine.Utility.Editing
import ElmAssay.Machine.Utility.Encoding
import ElmAssay.Machine.Utility.Filling
import ElmAssay.Machine.Utility.Finding
import ElmAssay.Machine.Utility.Judging
import ElmAssay.Machine.Utility.Lines
import ElmAssay.Machine.Utility.Listing
import ElmAssay.Machine.Utility.Merging
import ElmAssay.Machine.Utility.Output
import ElmAssay.Machine.Utility.Parts
import ElmAssay.Machine.Utility.Paths
import ElmAssay.Machine.Utility.Reading
import ElmAssay.Machine.Utility.Ruling
import ElmAssay.Machine.Utility.Running
import ElmAssay.Machine.Utility.Scaling
import ElmAssay.Machine.Utility.Searching
import ElmAssay.Machine.Utility.Sectioning
import ElmAssay.Machine.Utility.Sorting
import ElmAssay.Machine.Utility.Status
import ElmAssay.Machine.Utility.Summing
import ElmAssay.Machine.Utility.Tabs
import ElmAssay.Machine.Utility.Translation

/-!
# The start of programs

How a process becomes the program that a file holds (`startProgram`): one of the utilities that come with the system
(`Utility.table`) takes its place, and a file that names another program as its interpreter starts that one with its own
path as an argument. With it goes the evaluator of all scripts and programs (`evaluator`), to a depth to which they may
stand inside of each other.
-/

namespace ElmAssay.Machine.Utility

/-- The utilities by their names. -/
def table : List (String × Utility) :=
  [("sh", Shell.program), ("dash", Shell.program), ("true", silent 0), ("false", silent 1), ("echo", echo), ("yes", yes),
   ("printf", printf), ("seq", seq), ("cat", cat), ("head", head), ("tail", tail), ("tac", tac), ("rev", rev), ("nl", nl),
   ("tee", tee), ("wc", wc), ("tr", tr), ("sort", sort), ("uniq", uniq), ("cut", cut), ("paste", paste), ("comm", comm), ("join", join),
   ("fold", fold), ("basename", basename), ("dirname", dirname), ("realpath", realpath), ("readlink", readlink),
   ("pwd", pwd), ("mkdir", mkdir), ("touch", touch), ("mktemp", mktemp), ("rmdir", rmdir), ("rm", rm), ("cp", cp),
   ("mv", mv), ("install", install), ("ln", ln), ("link", link), ("unlink", unlink), ("truncate", truncate),
   ("chmod", chmod), ("ls", ls), ("dir", dir), ("vdir", vdir), ("stat", stat), ("date", date), ("id", identity),
   ("whoami", whoami), ("groups", groups), ("logname", logname), ("tty", tty), ("nproc", nproc), ("uname", uname),
   ("arch", onlyLine "x86_64"), ("hostname", onlyLine "localhost"), ("users", silent 0), ("env", env), ("printenv", printenv), ("which", which),
   ("sleep", sleep), ("timeout", timeout), ("nohup", nohup), ("nice", nice), ("xargs", xargs), ("grep", grep),
   ("sed", sed), ("egrep", egrep), ("fgrep", fgrep), ("rgrep", rgrep), ("diff", diff), ("cmp", cmp),
   ("test", test), ("[", bracket), ("expr", expr), ("find", find), ("od", od), ("expand", expand), ("unexpand", unexpand),
   ("tsort", tsort), ("factor", factor), ("numfmt", numfmt), ("split", split), ("dd", dd),
   ("awk", awk), ("mawk", awk), ("md5sum", digesting .md5), ("sha1sum", digesting .sha1), ("sha224sum", digesting .sha224),
   ("sha256sum", digesting .sha256), ("sha384sum", digesting .sha384), ("sha512sum", digesting .sha512), ("b2sum", b2sum),
   ("cksum", cksum), ("sum", sum), ("base64", encoding Encoding.usual), ("base32", encoding Encoding.usualSmall),
   ("basenc", basenc), ("fmt", fmt), ("csplit", csplit),
   ("shuf", shuf), ("stdbuf", stdbuf), ("setsid", setsid), ("sync", sync)]

/-- The names of the utilities. -/
def names : List String := table.map Prod.fst

end ElmAssay.Machine.Utility

namespace ElmAssay.Machine

/-- The count of files, each the interpreter of the one before, that a start may go through. -/
def interpreterLimit : Nat := 6

/-- The greatest count of bytes of the name of a process. -/
def nameLength : Nat := 15

/-- The name of a process that runs the program at a path. -/
def shownName (path : Octets) : Octets := (((Text.cut '/' path.toList).getLast?).getD []).take nameLength |> String.ofList

/-- Becomes the program at a path, as a process with a name; the answer says why that could not be. The fuel bounds the
interpreters. -/
def startNamed (ev : Evaluator) (shown : Octets) : Nat → Octets → Invocation → Routine Refusal
  | 0, _, _ => return .tooManyLinks
  | fuel + 1, path, call => do
    match ← Routine.ask (.image path) with
    | .error r => return r
    | .ok (.utility name) =>
      match Utility.table.lookup name with
      | none => return .notExecutableFormat
      | some utility =>
        Routine.ask (.become shown)
        Routine.replace (utility ev call).toAct
    | .ok (.interpreted program argument) =>
      startNamed ev shown fuel program
        { call with name := program, arguments := argument.toList ++ path :: call.arguments }

/-- Becomes the program at a path; the answer says why that could not be. -/
def startProgram (ev : Evaluator) (path : Octets) (call : Invocation) : Routine Refusal :=
  startNamed ev (shownName path) interpreterLimit path call

/-- Runs scripts and programs that stand inside of each other to a depth. -/
def evaluator : Nat → Evaluator
  | 0, .run .. => Shell.leave 2
  | 0, .start .. => return .tooManyLinks
  | depth + 1, .run place script => Shell.runScript (evaluator depth) place script
  | depth + 1, .start path call => startProgram (evaluator depth) path call

end ElmAssay.Machine
