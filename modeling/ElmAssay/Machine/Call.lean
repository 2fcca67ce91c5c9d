import ElmAssay.Machine.Octets

/-!
# What processes ask of the system

A process is a tree (`Act`): it ends, or it asks the system for something and goes on with the answer, or it splits in
two. What can be asked for is a `Request`, and each request has answers of its own type (`Request.Answer`). The front
of a process, up to the place where it hands on a result, is a `Routine`; routines are put together one after the other.
-/

namespace ElmAssay.Machine

/-- How a process ended. -/
inductive End
  | exited (status : Nat)
  | killed (signal : Nat)
  deriving DecidableEq, Repr

/-- What a file is opened for, and what happens to it in opening. -/
structure OpenMode where
  reads : Bool
  writes : Bool
  creates : Bool
  truncates : Bool
  appends : Bool
  deriving DecidableEq, Repr

namespace OpenMode

/-- Opens a file to be read. -/
def reading : OpenMode := ⟨true, false, false, false, false⟩

/-- Opens a file to be written from its start; what it held is lost. -/
def writing : OpenMode := ⟨false, true, true, true, false⟩

/-- Opens a file to be written at its end. -/
def appending : OpenMode := ⟨false, true, true, false, true⟩

/-- Opens a file to be read and written. -/
def both : OpenMode := ⟨true, true, true, false, false⟩

/-- Opens a file to be written that must be there. -/
def touching : OpenMode := ⟨false, true, true, false, false⟩

end OpenMode

/-- The kinds of what can stand at a path. -/
inductive Kind
  | file
  | directory
  | link
  | device
  | pipe
  deriving DecidableEq, Repr

/-- What is known of a file: its kind, its size, who may do what with it, the time in nanoseconds when it changed last, a number that it
shares with no other file, and the count of its names. -/
structure Info where
  kind : Kind
  size : Nat
  rights : Nat
  changed : Int
  serial : Nat
  names : Nat
  deriving DecidableEq, Repr

namespace Info

/-- Whether something is a directory. -/
def isDirectory (i : Info) : Bool := i.kind == .directory

/-- Whether something is a file. -/
def isFile (i : Info) : Bool := i.kind == .file

/-- Whether something is a link. -/
def isLink (i : Info) : Bool := i.kind == .link

/-- Whether someone may run a file. -/
def isRunnable (i : Info) : Bool := i.rights &&& runRights != 0

end Info

/-- What a file that may be run starts: a utility, or the program that its first line names, with an argument. -/
inductive Image
  | utility (name : String)
  | interpreted (program : Octets) (argument : Option Octets)
  deriving DecidableEq, Repr

/-- What a process does about a signal. -/
inductive Handling
  | standard
  | ignored
  | caught
  deriving DecidableEq, Repr

/-- How long a process waits for a child. -/
inductive Patience
  /-- Not at all. -/
  | none
  /-- Until a signal is caught. -/
  | untilSignal
  | endless
  deriving DecidableEq, Repr

/-- What waiting for a child brings. -/
inductive Waited
  | ended (id : Nat) (e : End)
  | nobody
  | stillRunning
  | interrupted (signal : Nat)
  deriving DecidableEq, Repr

/-- The first of the numbers of open files that a program keeps from the one that takes its place. -/
def privateFiles : Nat := 10

/-- What a process can ask for. Open files are known to it by number. -/
inductive Request
  /-- Opens a file under the lowest free number. -/
  | openFile (path : Octets) (mode : OpenMode)
  | close (file : Nat)
  /-- Makes the second number stand for what the first one stands for. -/
  | duplicate (file target : Nat)
  /-- Gives an open file a second number, the lowest free one from a least one on. -/
  | reserve (file least : Nat)
  | pipe
  | read (file count : Nat)
  /-- Reads up to the next line feed and no further. -/
  | readLine (file : Nat)
  /-- Goes on in a file by so many bytes, or back; the answer is the place. -/
  | shift (file : Nat) (steps : Int)
  | write (file : Nat) (data : Octets)
  /-- What stands at a path, or the link itself unless `follows`. -/
  | info (path : Octets) (follows : Bool)
  | infoOf (file : Nat)
  /-- Whether someone could still read what is written to an open file. -/
  | isHeard (file : Nat)
  | list (path : Octets)
  | makeDirectory (path : Octets)
  | removeFile (path : Octets)
  | removeDirectory (path : Octets)
  | rename (path target : Octets)
  /-- Gives a file one more name. -/
  | shareFile (path target : Octets)
  /-- Makes a link with a text. -/
  | makeLink (text path : Octets)
  /-- The text of a link. -/
  | linkText (path : Octets)
  | setRights (path : Octets) (rights : Nat)
  | setTime (path : Octets) (follows : Bool) (nanos : Int)
  /-- Makes an open file so long. -/
  | setSize (file size : Nat)
  /-- The rights that new files do not get, which may be changed with it. -/
  | mask (new : Option Nat)
  | enter (path : Octets)
  | whereabouts
  /-- The path from the top without detours. -/
  | resolve (path : Octets)
  | image (path : Octets)
  | wait (child : Option Nat) (patience : Patience)
  | kill (target : Int) (signal : Nat)
  | handle (signal : Nat) (handling : Handling)
  | handling (signal : Nat)
  /-- The next signal that was caught. -/
  | caught
  | sleep (micros : Nat)
  | identity
  /-- Gives way to others by so much more, or less; the answer is by how much it does so in all. -/
  | giveWay (more : Int)
  | parent
  | now
  /-- Nothing but a chance for the others. -/
  | pass
  /-- Becomes another program with a name, which catches no signal yet and has only the lower numbers of open files. -/
  | become (name : Octets)
  /-- Never goes on. -/
  | hang
  deriving DecidableEq, Repr

/-- The type of the answers to a request. -/
abbrev Request.Answer : Request → Type
  | openFile .. => Except Refusal Nat
  | close _ => Bool
  | duplicate .. => Except Refusal Unit
  | reserve .. => Except Refusal Nat
  | pipe => Nat × Nat
  | read .. => Except Refusal Octets
  | readLine _ => Except Refusal Octets
  | shift .. => Except Refusal Nat
  | write .. => Except Refusal Unit
  | info .. => Except Refusal Info
  | infoOf _ => Except Refusal Info
  | isHeard _ => Bool
  | list _ => Except Refusal (List Octets)
  | makeDirectory _ => Except Refusal Unit
  | removeFile _ => Except Refusal Unit
  | removeDirectory _ => Except Refusal Unit
  | rename .. => Except Refusal Unit
  | shareFile .. => Except Refusal Unit
  | makeLink .. => Except Refusal Unit
  | linkText _ => Except Refusal Octets
  | setRights .. => Except Refusal Unit
  | setTime .. => Except Refusal Unit
  | setSize .. => Except Refusal Unit
  | mask _ => Nat
  | enter _ => Except Refusal Unit
  | whereabouts => Octets
  | resolve _ => Except Refusal Octets
  | image _ => Except Refusal Image
  | wait .. => Waited
  | kill .. => Except Refusal Unit
  | handle .. => Unit
  | handling _ => Handling
  | caught => Option Nat
  | sleep _ => Unit
  | identity => Nat
  | giveWay _ => Int
  | parent => Nat
  | now => Nat
  | pass => Unit
  | become _ => Unit
  | hang => Unit

/-- A process, as what it does from now on. -/
inductive Act
  | exit (status : Nat)
  | call (r : Request) (next : r.Answer → Act)
  /-- Splits off a child; the process goes on with the number of the child. -/
  | fork (child : Act) (next : Nat → Act)

/-- The front of a process, up to a result. -/
def Routine (α : Type) : Type := (α → Act) → Act

namespace Routine

instance : Monad Routine where
  pure a := fun next => next a
  bind x f := fun next => x fun a => f a next

/-- Asks the system for something. -/
def ask (r : Request) : Routine r.Answer := fun next => .call r next

/-- Ends the process. -/
def exit {α : Type} (status : Nat) : Routine α := fun _ => .exit status

/-- Goes on as another process altogether. -/
def replace {α : Type} (a : Act) : Routine α := fun _ => a

/-- Splits off a child, which ends with the status that its routine hands on. -/
def fork (child : Routine Nat) : Routine Nat := fun next => .fork (child .exit) next

/-- A routine as a process that ends with the status that the routine hands on. -/
def toAct (r : Routine Nat) : Act := r .exit

/-! ## Requests as routines -/

/-- Opens a file. -/
def openFile (path : Octets) (mode : OpenMode) : Routine (Except Refusal Nat) := ask (.openFile path mode)

/-- Closes a file. -/
def close (file : Nat) : Routine Unit := do
  let _ ← ask (.close file)

/-- Goes back in an open file, where that is possible. -/
def goBack (file count : Nat) : Routine Unit := do
  let _ ← ask (.shift file (-count))

/-- Writes to an open file. -/
def write (file : Nat) (data : Octets) : Routine (Except Refusal Unit) := ask (.write file data)

/-- Writes to the standard output. -/
def emit (data : Octets) : Routine Unit := do
  if !data.isEmpty then
    let _ ← write 1 data

/-- Writes to the stream of errors. -/
def protest (data : Octets) : Routine Unit := do
  let _ ← write 2 data

/-- What is known of what a path leads to. -/
def info (path : Octets) : Routine (Except Refusal Info) := ask (.info path true)

/-- What is known of what a path names, which may be a link. -/
def infoOfName (path : Octets) : Routine (Except Refusal Info) := ask (.info path false)

/-- Whether something stands at a path. -/
def stands (path : Octets) : Routine Bool := do
  match ← info path with
  | .ok _ => return true
  | .error _ => return false

/-- Whether a directory stands at a path. -/
def isDirectory (path : Octets) : Routine Bool := do
  match ← info path with
  | .ok i => return i.isDirectory
  | .error _ => return false

/-- The count of bytes that are read at once. -/
def blockSize : Nat := 65536

/-- Reads an open file to its end, in at most so many steps, after what was read already. -/
def readOn (file : Nat) : Nat → Octets → Routine (Except Refusal Octets)
  | 0, held => return .ok held
  | fuel + 1, held => do
    match ← ask (.read file blockSize) with
    | .error r => return .error r
    | .ok data => if data.isEmpty then return .ok held else readOn file fuel (held ++ data)

/-- Reads an open file to its end. -/
def readAll (file : Nat) : Routine (Except Refusal Octets) := readOn file 1000000 ""

/-- Reads a file by its path. -/
def readFile (path : Octets) : Routine (Except Refusal Octets) := do
  match ← openFile path .reading with
  | .error r => return .error r
  | .ok file =>
    let data ← readAll file
    close file
    return data

/-- Writes a file by its path. -/
def writeFile (path : Octets) (mode : OpenMode) (data : Octets) : Routine (Except Refusal Unit) := do
  match ← openFile path mode with
  | .error r => return .error r
  | .ok file =>
    let r ← write file data
    close file
    return r

/-- Waits for one child. -/
def await (child : Nat) : Routine End := do
  match ← ask (.wait (some child) .endless) with
  | .ended _ e => return e
  | _ => return .exited 127

end Routine
end ElmAssay.Machine
