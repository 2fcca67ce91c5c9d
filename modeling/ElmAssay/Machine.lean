import ElmAssay.Machine.Kernel
import ElmAssay.Machine.Start
import ElmAssay.Program

/-!
# The machine

A machine on which the toolchain can be stood in for by scripts (`Machine.host`). A program starts in a world of its own
(`start`), whose file tree is the disk with the system on it, and runs there until it and all that still hold its
output have ended, or until its time is over. The clock of this world tells how long that takes.
-/

namespace ElmAssay.Machine

/-- The directories in which programs are looked for. -/
def searchPath : List Octets := ["/usr/local/bin", "/usr/bin", "/bin"]

/-- The depth to which scripts and programs may stand inside of each other. -/
def depth : Nat := 1000000000

/-- The count of steps after which a program is given up. -/
def stepLimit : Nat := 1000000000000

/-- The number of the first process. -/
def firstProcess : Nat := 1000

/-- The directory of a disk that a program starts in. -/
def startDirectory (d : Disk) (t : Tree) (directory : Option String) : Except SystemError Location :=
  match directory with
  | none => .ok d.current
  | some text =>
    match Ground.locate t d.current true (Octets.ofText text) with
    | .error r => .error ⟨r, text⟩
    | .ok l =>
      match t.content? l with
      | some .directory => .ok l
      | some _ => .error ⟨.notDirectory, text⟩
      | none => .error ⟨.noEntry, text⟩

/-! ## What starts -/

/-- Why a program at a path cannot start, if it cannot. The fuel bounds the interpreters. -/
def refusal? (w : World) (p : Process) : Nat → Octets → Option Refusal
  | 0, _ => some .tooManyLinks
  | fuel + 1, path =>
    match w.image p path with
    | .error r => some r
    | .ok (.utility _) => none
    | .ok (.interpreted program _) => refusal? w p fuel program

/-- The path of the first program of some that can start. Otherwise the refusal counts that is the first to say more than
that nothing is there, or else the last one. -/
def firstToStart (w : World) (p : Process) : Option Refusal → Refusal → List Octets → Except Refusal Octets
  | kept, last, [] => .error (kept.getD last)
  | kept, _, path :: paths =>
    match refusal? w p interpreterLimit path with
    | none => .ok path
    | some r =>
      let saysMore := r != .noEntry && r != .notDirectory
      firstToStart w p (kept.or (if saysMore then some r else none)) r paths

/-- The paths at which a command may be. -/
def candidates (command : Octets) : List Octets :=
  if command.toList.contains '/' then [command] else searchPath.map (· ++ "/" ++ command)

/-! ## The first process -/

/-- The variables that the first process is told of. -/
def environment (directory : Path) : List (Octets × Octets) :=
  [("PATH", ":".intercalate searchPath), ("PWD", Octets.ofText directory.text), ("LC_CTYPE", "C.UTF-8")]

/-- The input of a program: what it is given, or nothing. -/
def inputTarget (input : Option String) : Target := if input.isSome then .pipe 0 else .device .null

/-- The first process, which does nothing but start a program. -/
def firstIn (here : Location) (act : Act) : Process :=
  { id := firstProcess, parent := 1, name := "", act := act, mask := 0o022, niceness := 0, files := [(0, 0), (1, 1), (2, 2)], here := here, handlings := [],
    pending := [], wake := none, finished := none }

/-- The world that a program starts in. -/
def startWorld (t : Tree) (time : Nat) (here : Location) (input : Option String) (act : Act) : World :=
  let output : OpenMode := ⟨false, true, false, false, false⟩
  { tree := t
    opens := #[⟨inputTarget input, .reading, 0⟩, ⟨.pipe 1, output, 0⟩, ⟨.pipe 2, output, 0⟩]
    pipes := #[⟨Octets.ofText (input.getD ""), false⟩, ⟨"", true⟩, ⟨"", true⟩]
    processes := [firstIn here act], dawn := time, clock := 0, nextId := firstProcess + 1 }

/-- Whether the first process and all that hold its output have ended. -/
def isOver (w : World) : Bool :=
  (w.alive? firstProcess).isNone && !w.hasEnd 1 (·.writes) && !w.hasEnd 2 (·.writes)

/-! ## The end -/

/-- The number by which a program reports its end: its status, or the signal that ended it below zero. -/
def exitCode : End → Int
  | .exited status => status
  | .killed signal => -signal

/-- How the first process ended, if it did. -/
def ownEnd (w : World) : Option End := (w.processes.find? fun p => p.id == firstProcess).bind (·.finished)

/-- What was written to a pipe. -/
def written (w : World) (pipe : Nat) : Bytes := Octets.toBytes (((w.pipes[pipe]?).map (·.held)).getD "")

/-- The end of a program that was done in time, or of one that was not, whose output is lost. -/
def ending (isDone : Bool) (w : World) : Program.End :=
  let code := exitCode ((ownEnd w).getD (.killed Signal.kill))
  if isDone then ⟨some code, written w 1, written w 2, 0, false⟩ else ⟨some code, [], [], 0, true⟩

/-- Whether a limit leaves no time at all. -/
def isNoTime (limit : Option Seconds) : Bool := limit.any fun l => l.isZero || l.isBelowZero || l.isNotANumber

/-- The disk with the system on it. -/
def furnished (d : Disk) : Disk := { d with tree := Ground.lay Utility.names d.time d.tree }

/-- The count of microseconds that it takes to start a program. -/
def startTime : Nat := 20000

/-- Starts a program. -/
def start (p : Program) (d : Disk) : Except SystemError (Program.End × Disk) :=
  match p.command with
  | [] => .error ⟨.noEntry, ""⟩
  | command :: arguments =>
    let tree := (furnished d).tree
    let time := d.time + startTime
    match startDirectory d tree p.directory with
    | .error e => .error e
    | .ok here =>
      let name := Octets.ofText command
      let idle := startWorld tree time here p.input (.exit 0)
      match firstToStart idle (firstIn here (.exit 0)) none .noEntry (candidates name) with
      | .error r => .error ⟨r, command⟩
      | .ok path =>
        let call : Invocation := ⟨name, arguments.map Octets.ofText, environment d.currentPath⟩
        let act := Routine.toAct do
          let _ ← evaluator depth (.start path call)
          return 127
        let (isDone, w) :=
          if isNoTime p.limit then (false, idle)
          else (startWorld tree time here p.input act).run isOver (p.limit.bind Seconds.micros?) stepLimit
        .ok (ending isDone w, { d with tree := w.tree, time := time + w.clock })

/-- The machine as a host. -/
def host : Host := ⟨start⟩

end ElmAssay.Machine
