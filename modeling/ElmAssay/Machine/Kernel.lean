import ElmAssay.Machine.World

/-!
# The system

The system answers the requests of the processes (`World.answer`), lets one process after the other take a step
(`World.step?`), and moves the clock on when all of them wait (`World.run`). Each answer takes some time (`World.cost`).
A process keeps its turn until it has to wait.
-/

namespace ElmAssay.Machine

/-- What comes of a request. -/
inductive Outcome (α : Type)
  | answers (a : α) (w : World)
  /-- The process has to wait for others. -/
  | waits
  /-- The process has to wait for a time. -/
  | sleeps (wake : Nat)
  | ends (e : End) (w : World)

namespace World

/-- The count of bytes that a pipe holds before those who write to it have to wait. -/
def pipeCapacity : Nat := 65536

/-- Reads bytes of an open file that is no pipe. -/
def readStored (w : World) (entry : Nat) (o : OpenFile) (count : Bytes → Nat) : Except Refusal (Octets × World) :=
  match w.contents o.target with
  | .error r => .error r
  | .ok bytes =>
    let rest := bytes.drop o.offset
    let n := min (count rest) rest.length
    .ok (Octets.ofBytes (rest.take n), { w with opens := w.opens.set! entry { o with offset := o.offset + n } })

/-- The count of bytes up to the first line feed and with it. -/
def lineLength (bytes : Bytes) : Nat := (bytes.takeWhile (· != 10)).length + 1

/-- Reads from a pipe as much of what it holds as `count` says, where `none` says that more has to come. -/
def readPipe (w : World) (n : Nat) (count : Octets → Option Nat) : Outcome (Except Refusal Octets) :=
  match w.pipes[n]? with
  | none => .answers (.ok "") w
  | some pipe =>
    let take (k : Nat) : Outcome (Except Refusal Octets) :=
      let cs := pipe.held.toList
      .answers (.ok (String.ofList (cs.take k)))
        { w with pipes := w.pipes.set! n { pipe with held := String.ofList (cs.drop k) } }
    match if pipe.held.isEmpty then none else count pipe.held with
    | some k => take k
    | none =>
      if pipeCapacity ≤ pipe.held.length then take pipe.held.length
      else if w.hasEnd n (·.writes) then .waits
      else take pipe.held.length

/-- Reads from an open file. -/
def readFrom (w : World) (p : Process) (file : Nat) (stored : Bytes → Nat) (piped : Octets → Option Nat) :
    Outcome (Except Refusal Octets) :=
  match w.opened? p file with
  | none => .answers (.error .badDescriptor) w
  | some (entry, o) =>
    if !o.mode.reads then .answers (.error .badDescriptor) w
    else
      match o.target with
      | .pipe n => w.readPipe n piped
      | .device .zero => .answers (.ok (String.ofList (List.replicate (stored []) '\x00'))) w
      | _ =>
        match w.readStored entry o stored with
        | .ok (data, w) => .answers (.ok data) w
        | .error r => .answers (.error r) w

/-- The count of characters up to the first line feed and with it, if there is one. -/
def wholeLine? (s : Octets) : Option Nat :=
  let front := s.toList.takeWhile (· != '\n')
  if front.length < s.length then some (front.length + 1) else none

/-- Writes to an open file. -/
def writeTo (w : World) (p : Process) (file : Nat) (data : Octets) : Outcome (Except Refusal Unit) :=
  match w.opened? p file with
  | none => .answers (.error .badDescriptor) w
  | some (entry, o) =>
    if !o.mode.writes then .answers (.error .badDescriptor) w
    else
      match o.target with
      | .pipe n =>
        match w.pipes[n]? with
        | none => .answers (.error .badDescriptor) w
        | some pipe =>
          if !pipe.isWatched && !w.hasEnd n (·.reads) then
            match p.handlingOf Signal.pipe with
            | .standard => .ends (.killed Signal.pipe) w
            | _ => .answers (.error .brokenPipe) w
          else if !pipe.isWatched && pipeCapacity ≤ pipe.held.length then .waits
          else .answers (.ok ()) { w with pipes := w.pipes.modify n fun pipe => { pipe with held := pipe.held ++ data } }
      | _ => .answers (.ok ()) (w.store entry o data)

/-- Whether what is written to an open file could still be read, which only a pipe without readers denies. -/
def isHeard (w : World) (p : Process) (file : Nat) : Bool :=
  match w.opened? p file with
  | some (_, o) =>
    match o.target with
    | .pipe n => (w.pipes[n]?).any (·.isWatched) || w.hasEnd n (·.reads)
    | _ => true
  | none => true

/-- Goes to another place in an open file, with that place. -/
def shift (w : World) (p : Process) (file : Nat) (steps : Int) : Except Refusal (Nat × World) :=
  match w.opened? p file with
  | some (entry, o) =>
    match o.target with
    | .pipe _ => .error .noSeek
    | .device _ => .ok (0, w)
    | _ =>
      let place := (o.offset + steps).toNat
      .ok (place, { w with opens := w.opens.set! entry { o with offset := place } })
  | none => .error .badDescriptor

/-- Makes a pipe, with the numbers of its ends. -/
def makePipe (w : World) (p : Process) : (Nat × Nat) × World :=
  let target := Target.pipe w.pipes.size
  let w := { w with pipes := w.pipes.push ⟨"", false⟩ }
  let (output, w) := w.withOpen p ⟨target, .reading, 0⟩
  let p := (w.alive? p.id).getD p
  let (input, w) := w.withOpen p ⟨target, ⟨false, true, false, false, false⟩, 0⟩
  ((output, input), w)

/-- Looks for a child that ended. -/
def waitFor (w : World) (p : Process) (child : Option Nat) (patience : Patience) : Outcome Waited :=
  let children := w.processes.filter fun q => q.parent == p.id && (child.isNone || child == some q.id)
  match children.find? fun q => q.finished.isSome with
  | some q =>
    .answers (.ended q.id (q.finished.getD (.exited 0)))
      { w with processes := w.processes.filter fun r => r.id != q.id }
  | none =>
    if children.isEmpty then .answers .nobody w
    else
      match patience, p.pending with
      | .none, _ => .answers .stillRunning w
      | .untilSignal, signal :: _ => .answers (.interrupted signal) w
      | _, _ => .waits

/-- An answer with a changed world, or a refusal. -/
def settled (w : World) : Except Refusal World → Outcome (Except Refusal Unit)
  | .ok w => .answers (.ok ()) w
  | .error r => .answers (.error r) w

/-- An answer with a number and a changed world, or a refusal. -/
def numbered (w : World) : Except Refusal (Nat × World) → Outcome (Except Refusal Nat)
  | .ok (n, w) => .answers (.ok n) w
  | .error r => .answers (.error r) w

/-- Gives an open file another number. -/
def share (w : World) (p : Process) (file target : Nat) : Except Refusal World :=
  match p.files.lookup file with
  | some entry => .ok (w.modify p.id fun p => { p with files := withFile p.files target entry })
  | none => .error .badDescriptor

/-- What comes of a request of a process. -/
def answer (w : World) (p : Process) : (r : Request) → Outcome r.Answer
  | .openFile path mode => w.numbered (w.openFile p path mode)
  | .close file =>
    .answers (p.files.lookup file).isSome
      (w.modify p.id fun p => { p with files := p.files.filter fun f => f.1 != file })
  | .duplicate file target => w.settled (w.share p file target)
  | .reserve file least =>
    let target := lowestFree p.files least
    w.numbered ((w.share p file target).map (target, ·))
  | .pipe =>
    let (ends, w) := w.makePipe p
    .answers ends w
  | .read file count => w.readFrom p file (fun _ => count) (fun s => some (min count s.length))
  | .readLine file => w.readFrom p file lineLength wholeLine?
  | .shift file steps => w.numbered (w.shift p file steps)
  | .write file data => w.writeTo p file data
  | .info path follows => .answers (w.info p path follows) w
  | .infoOf file =>
    match w.opened? p file with
    | some (_, o) => .answers (.ok (w.infoOfTarget o.target)) w
    | none => .answers (.error .badDescriptor) w
  | .isHeard file => .answers (w.isHeard p file) w
  | .list path =>
    .answers ((w.findDirectory p path).map (Ground.namesIn w.tree)) w
  | .makeDirectory path => w.settled (w.makeDirectory p path)
  | .removeFile path => w.settled (w.removeFile p path)
  | .removeDirectory path => w.settled (w.removeDirectory p path)
  | .rename path target => w.settled (w.rename p path target)
  | .shareFile path target => w.settled (w.shareFile p path target)
  | .makeLink text path => w.settled (w.makeLink p text path)
  | .linkText path => .answers (w.linkText p path) w
  | .setRights path rights => w.settled (w.altered p path true (·.withRights rights))
  | .setTime path follows nanos => w.settled (w.altered p path follows (·.withTime nanos))
  | .setSize file size => w.settled (w.resize p file size)
  | .mask new => .answers p.mask (w.modify p.id fun p => { p with mask := new.getD p.mask })
  | .enter path =>
    match w.findDirectory p path with
    | .ok l => .answers (.ok ()) (w.modify p.id fun p => { p with here := l })
    | .error r => .answers (.error r) w
  | .whereabouts => .answers (Ground.pathOf p.here) w
  | .resolve path => .answers ((w.locate p path).map Ground.pathOf) w
  | .image path => .answers (w.image p path) w
  | .wait child patience => w.waitFor p child patience
  | .kill target signal => w.settled (w.kill target signal)
  | .handle signal handling =>
    .answers () (w.modify p.id fun p =>
      { p with handlings := (signal, handling) :: p.handlings.filter fun h => h.1 != signal })
  | .handling signal => .answers (p.handlingOf signal) w
  | .caught => .answers p.pending.head? (w.modify p.id fun p => { p with pending := p.pending.drop 1 })
  | .sleep micros =>
    match p.wake with
    | some wake =>
      if wake ≤ w.clock then .answers () (w.modify p.id fun p => { p with wake := none }) else .waits
    | none => if micros = 0 then .answers () w else .sleeps (w.clock + micros)
  | .identity => .answers p.id w
  | .giveWay more =>
    let level := max (-20) (min 19 (p.niceness + more))
    .answers level (w.modify p.id fun p => { p with niceness := level })
  | .parent => .answers p.parent w
  | .now => .answers (w.dawn + w.clock) w
  | .pass => .answers () w
  | .become name =>
    .answers () (w.modify p.id fun p =>
      { p with
        name := name
        handlings := p.handlings.filter fun h => h.2 == .ignored
        files := p.files.filter fun f => f.1 < privateFiles })
  | .hang => .waits

/-- The world with one more process, split off from another one, of which it inherits all but what it catches. -/
def split (w : World) (p : Process) (child : Act) : World :=
  let q : Process :=
    { p with
      id := w.nextId, parent := p.id, act := child, pending := [], wake := none
      handlings := p.handlings.filter fun h => h.2 == .ignored }
  { w with processes := w.processes ++ [q], nextId := w.nextId + 1 }

/-- The count of bytes that are written in a microsecond. -/
def bytesPerMicro : Nat := 4096

/-- How many microseconds it takes to answer a request. -/
def cost : Request → Nat
  | .write _ data => 1 + data.utf8ByteSize / bytesPerMicro
  | .pass => 10
  | _ => 1

/-- The world after a step of a process, unless it has to wait. -/
def stepOf? (w : World) (p : Process) : Option World :=
  match p.act with
  | .exit status => some (w.finish p.id (.exited (status % 256)))
  | .fork child next => some ((w.split p child).modify p.id fun p => { p with act := next w.nextId })
  | .call r next =>
    match w.answer p r with
    | .waits => none
    | .sleeps wake => some (w.modify p.id fun p => { p with wake := some wake })
    | .ends e w => some (w.finish p.id e)
    | .answers a w => some ({ w with clock := w.clock + cost r }.modify p.id fun p => { p with act := next a })

/-- The world after a step of the first process that need not wait, if there is one. -/
def step? (w : World) : Option World :=
  w.processes.findSome? fun p => if p.finished.isSome then none else w.stepOf? p

/-- The time at which the next process wakes up. -/
def nextWake? (w : World) : Option Nat :=
  (w.processes.filterMap fun p => if p.finished.isSome then none else p.wake).min?

/-- The world in which the others have their turn first. -/
def rotated (w : World) : World := { w with processes := w.processes.drop 1 ++ w.processes.take 1 }

/-- The count of microseconds after which a process loses its turn. -/
def turn : Nat := 4096

/-- Lets the processes run until `isOver`, or until the clock has passed the limit, or forever. The answer is whether they
were done in time. The fuel bounds the steps. -/
def run (isOver : World → Bool) (limit : Option Nat) : Nat → World → Bool × World
  | 0, w => (false, w)
  | fuel + 1, w =>
    if isOver w then (true, w)
    else if limit.any (· < w.clock) then (false, w)
    else
      match w.step? with
      | some next => run isOver limit fuel (if next.clock / turn != w.clock / turn then next.rotated else next)
      | none =>
        match w.nextWake? with
        | some wake =>
          if limit.any (· < wake) then (false, { w with clock := wake })
          else run isOver limit fuel { w with clock := max wake w.clock }
        | none => (false, w)

end World
end ElmAssay.Machine
