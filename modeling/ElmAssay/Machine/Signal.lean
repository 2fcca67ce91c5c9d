/-!
# Signals

Signals by number, with the names by which commands call them (`Signal.named?`), what a shell says of a process that
one of them ended (`Signal.notice`), and which of them leave a process alone that does nothing about them
(`Signal.isHarmless`).
-/

namespace ElmAssay.Machine.Signal

/-- The names of the signals, in the order of their numbers, which start from one. -/
def names : List String :=
  ["HUP", "INT", "QUIT", "ILL", "TRAP", "ABRT", "BUS", "FPE", "KILL", "USR1", "SEGV", "USR2", "PIPE", "ALRM", "TERM",
   "STKFLT", "CHLD", "CONT", "STOP", "TSTP", "TTIN", "TTOU", "URG", "XCPU", "XFSZ", "VTALRM", "PROF", "WINCH", "POLL",
   "PWR", "SYS"]

/-- What is said of a process that a signal ended, in the order of the numbers. -/
def notices : List String :=
  ["Hangup", "Interrupt", "Quit", "Illegal instruction", "Trace/breakpoint trap", "Aborted", "Bus error",
   "Floating point exception", "Killed", "User defined signal 1", "Segmentation fault", "User defined signal 2",
   "Broken pipe", "Alarm clock", "Terminated", "Stack fault", "Child exited", "Continued", "Stopped (signal)",
   "Stopped", "Stopped (tty input)", "Stopped (tty output)", "Urgent I/O condition", "CPU time limit exceeded",
   "File size limit exceeded", "Virtual timer expired", "Profiling timer expired", "Window changed", "I/O possible",
   "Power failure", "Bad system call"]

/-- The interrupt signal. -/
def interrupt : Nat := 2

/-- The signal that cannot be caught. -/
def kill : Nat := 9

/-- The signal of a pipe that nobody reads. -/
def pipe : Nat := 13

/-- The signal that asks a process to end. -/
def terminate : Nat := 15

/-- The greatest number of a signal. -/
def greatest : Nat := 64

/-- The name of a signal. -/
def name? (signal : Nat) : Option String := if signal = 0 then none else names[signal - 1]?

/-- The signal of a name. -/
def named? (name : String) : Option Nat :=
  let i := names.idxOf name
  if i < names.length then some (i + 1) else none

/-- What is said of a process that a signal ended. -/
def notice (signal : Nat) : String :=
  match if signal = 0 then none else notices[signal - 1]? with
  | some s => s
  | none => s!"Unknown signal {signal}"

/-- Whether a signal leaves a process alone that does nothing about it. -/
def isHarmless (signal : Nat) : Bool := signal = 0 || [17, 18, 19, 20, 21, 22, 23, 28].contains signal

end ElmAssay.Machine.Signal
