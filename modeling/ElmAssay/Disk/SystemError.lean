import ElmAssay.Text.Quoted

/-!
# Errors of the file system

What the file system or the start of a program can refuse (`Refusal`), with the number and the wording that an error
message shows, and a refusal together with the file it concerns (`SystemError`).
-/

namespace ElmAssay

/-- Why the system refuses an operation. -/
inductive Refusal
  | notPermitted
  | noEntry
  | noProcess
  | noDevice
  | notExecutableFormat
  | badDescriptor
  | noChild
  | denied
  | busy
  | alreadyThere
  | notDirectory
  | isDirectory
  | invalid
  | fileTooLarge
  | noSeek
  | brokenPipe
  | nameTooLong
  | notEmpty
  | tooManyLinks
  deriving DecidableEq, Repr

namespace Refusal

/-- The number of a refusal. -/
def number : Refusal → Nat
  | notPermitted => 1
  | noEntry => 2
  | noProcess => 3
  | noDevice => 6
  | notExecutableFormat => 8
  | badDescriptor => 9
  | noChild => 10
  | denied => 13
  | busy => 16
  | alreadyThere => 17
  | notDirectory => 20
  | isDirectory => 21
  | invalid => 22
  | fileTooLarge => 27
  | noSeek => 29
  | brokenPipe => 32
  | nameTooLong => 36
  | notEmpty => 39
  | tooManyLinks => 40

/-- The wording of a refusal. -/
def wording : Refusal → String
  | notPermitted => "Operation not permitted"
  | noEntry => "No such file or directory"
  | noProcess => "No such process"
  | noDevice => "No such device or address"
  | notExecutableFormat => "Exec format error"
  | badDescriptor => "Bad file descriptor"
  | noChild => "No child processes"
  | denied => "Permission denied"
  | busy => "Device or resource busy"
  | alreadyThere => "File exists"
  | notDirectory => "Not a directory"
  | isDirectory => "Is a directory"
  | invalid => "Invalid argument"
  | fileTooLarge => "File too large"
  | noSeek => "Illegal seek"
  | brokenPipe => "Broken pipe"
  | nameTooLong => "File name too long"
  | notEmpty => "Directory not empty"
  | tooManyLinks => "Too many levels of symbolic links"

end Refusal

/-- A refusal and the text of the path that it concerns. -/
structure SystemError where
  refusal : Refusal
  file : String
  deriving DecidableEq, Repr

namespace SystemError

/-- The number and the wording of an error. -/
def summary (e : SystemError) : String := s!"[Errno {e.refusal.number}] {e.refusal.wording}"

/-- The number, the wording and the file of an error. -/
def message (e : SystemError) : String := s!"{e.summary}: {Text.quoted e.file}"

end SystemError
end ElmAssay
