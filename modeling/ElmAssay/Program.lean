import ElmAssay.Disk
import ElmAssay.Outcome

/-!
# Running programs

Programs run on a host (`Host`), which either refuses to start one or lets it run to its end, or to the end of its
time. `Program.run` checks what it is asked to start and reads what the program wrote as text.
-/

namespace ElmAssay

/-- A program to start: its command line, the directory it starts in, what it reads, and its time limit. -/
structure Program where
  command : List String
  directory : Option String := none
  input : Option String := none
  limit : Option Seconds := none

/-- How a program ended and what it wrote. -/
structure Program.End where
  exitCode : Option Int
  stdout : Bytes
  stderr : Bytes
  durationMs : Int
  timedOut : Bool

/-- Where programs run. A program may change the disk. -/
structure Host where
  start : Program → Disk → Except SystemError (Program.End × Disk)

namespace Program

/-- Whether the command line holds the null character. -/
def hasNull (p : Program) : Bool := p.command.any fun part => part.toList.contains '\x00'

/-- Refuses a program without a command, or in a directory that is not there. -/
def check (p : Program) (d : Disk) : Except Failure Unit :=
  if p.command.isEmpty then .error .emptyCommand
  else
    match p.directory with
    | none => .ok ()
    | some directory =>
      match d.isDirectory (Path.parse directory) with
      | .ok true => .ok ()
      | .ok false => .error (.noWorkingDirectory directory)
      | .error e => .error e

/-- The text of what a program wrote. -/
def textOf (bytes : Bytes) : String := String.ofList (Text.Utf8.decodeLossy bytes)

/-- Runs a program on a host. -/
def run (host : Host) (p : Program) : DiskM ProcessResult := do
  Disk.ask p.check
  if p.hasNull then throw .nullCharacter
  match host.start p (← get) with
  | .error e => throw (.notStarted p.command e)
  | .ok (e, d) =>
    set d
    return ⟨p.command, e.exitCode, textOf e.stdout, textOf e.stderr, e.durationMs, e.timedOut⟩

end Program
end ElmAssay
