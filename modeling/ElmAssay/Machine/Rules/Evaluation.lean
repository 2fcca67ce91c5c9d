import ElmAssay.Machine.Calendar
import ElmAssay.Machine.Rules.Streams

/-!
# The values of expressions

How an expression gets its value (`evaluate`), given how the expressions inside of it do and how statements are carried out
(`Doing`). What can be given a value is found once (`Spot`), so that its subscripts are not evaluated again, and a table has
an entry for it from then on.
-/

namespace ElmAssay.Machine.Rules

/-- How expressions get their values and statements are carried out. -/
structure Doing where
  value : Expr → Run Value
  perform : Statement → Run Unit

/-- A place that holds a value. -/
inductive Spot
  | single (r : Ref)
  | element (r : Ref) (k : Key)
  | field (n : Int)
  | fieldCount

namespace Run

/-- The limits of numbers that are counts or places. -/
def limited (x : Float) : Int := wholeWithin (-(2 ^ 31)) (2 ^ 31 - 1) x

/-- The text of a value, as it stands. -/
def textFor (v : Value) : Run Octets := return (← get).textOf v

/-- The count of turns after which other processes get their chance. -/
def patience : Nat := 16

/-- Counts a turn of a loop or a call of a function, and lets the others go on now and then. -/
def tick : Run Unit := do
  let n ← modifyGet fun s => (s.turns + 1, { s with turns := s.turns + 1 })
  if n % patience = 0 then
    let _ ← ask .pass

/-! ## Places -/

/-- The key that subscripts make. -/
def keyFor (k : Doing) (subscripts : List Expr) : Run Key := do keyOfAll (← subscripts.mapM k.value)

/-- The place of what can be given a value. -/
def spot (k : Doing) : Target → Run Spot
  | .whole r => return .single r
  | .fieldCount => return .fieldCount
  | .field e => do return .field (limited (← k.value e).real)
  | .element r subscripts => do
    let key ← keyFor k subscripts
    let _ ← onTable r fun a => a.get key
    return .element r key

/-- The value in a place. -/
def fetch : Spot → Run Value
  | .single r => variableOf r
  | .element r key => onTable r fun a => a.get key
  | .field n => field n
  | .fieldCount => do return .number (Float.ofNat (← fields).size)

/-- Puts a value into a place. -/
def store (place : Spot) (v : Value) : Run Unit := do
  match place with
  | .single r => setVariable r v
  | .element r key => onTable r fun a => ((), a.set key v)
  | .field n => setField n v
  | .fieldCount => setFieldCount (limited v.real)

/-! ## Calculation -/

/-- What an operation makes of two numbers. -/
def calculate : Operation → Float → Float → Float
  | .add, x, y => x + y
  | .subtract, x, y => x - y
  | .multiply, x, y => x * y
  | .divide, x, y => x / y
  | .remain, x, y => remainder x y
  | .raise, x, y => Float.pow x y

/-- The number without its fraction. -/
def truncated (x : Float) : Float := if x < 0 then x.ceil else x.floor

/-! ## Texts -/

/-- The place of a text in another one, from one on, or zero. -/
def indexOf (sought : List Char) : Nat → List Char → Nat
  | n, s => if sought.isPrefixOf s then n else match s with
    | [] => 0
    | _ :: rest => indexOf sought (n + 1) rest

/-- The part of a text from a place on, of a length if there is one. -/
def part (s : Octets) (start : Float) (length : Option Float) : Octets :=
  let start := limited start
  let first := max start 1
  let kept := s.toList.drop (first - 1).toNat
  match length with
  | none => String.ofList kept
  | some x => String.ofList (kept.take (limited x + start - first).toNat)

/-- The pattern that an expression stands for where one is wanted. -/
def patternFor (k : Doing) : Expr → Run Pattern
  | .pattern p => return p
  | e => do patternOf (← textFor (← k.value e))

/-- The separator that an expression stands for, or that of the fields. -/
def separatorFor (k : Doing) : Option Expr → Run Separator
  | some (.pattern p) => return .pattern p
  | some e => do separatorOf (← textFor (← k.value e))
  | none => do separatorOf ((← get).usualText .fieldSeparator)

/-- Cuts a text into a table. -/
def splitInto (k : Doing) (e : Expr) (array : Ref) (separator : Option Expr) : Run Value := do
  let text ← textFor (← k.value e)
  let parts := (← separatorFor k separator).cut text
  onTable array fun _ => ((), Associations.ofList (parts.map .entry))
  return .number (Float.ofNat parts.length)

/-- Finds the first match in a text, and keeps where it is. -/
def locate (k : Doing) (e pattern : Expr) : Run Value := do
  let text ← textFor (← k.value e)
  let p ← patternFor k pattern
  let (start, length) : Float × Float :=
    match p.find? text.toList.toArray 0 with
    | some (a, b) => (Float.ofNat (a + 1), Float.ofNat (b - a))
    | none => (0, -1)
  modify fun s => (s.withUsual .matchStart (.number start)).withUsual .matchLength (.number length)
  return .number start

/-- Replaces the first match in a place, or all of them; the value is their count. -/
def substitute (k : Doing) (isGlobal : Bool) (pattern replacement : Expr) (target : Option Target) : Run Value := do
  let p ← patternFor k pattern
  let replacement ← textFor (← k.value replacement)
  let place ←
    match target with
    | some t => spot k t
    | none => pure (.field 0)
  let (text, count) := replace p replacement isGlobal (← textFor (← fetch place))
  if count != 0 then store place (.text text)
  return .number (Float.ofNat count)

/-! ## Reading -/

/-- Puts a record that was read where it belongs. -/
def receive (place : Option Spot) (text : Octets) : Run Unit :=
  match place with
  | none => setRecord text
  | some place => store place (.entry text)

/-- The place that a record is read into, if it is not the record itself. -/
def spotFor (k : Doing) : Option Target → Run (Option Spot)
  | none => return none
  | some t => some <$> spot k t

/-- What reading a record comes to: one, zero at the end, or minus one. -/
def readResult (place : Option Spot) : Except Refusal (Option Octets) → Run Value
  | .ok (some text) => do
    receive place text
    return .number 1
  | .ok none => return .number 0
  | .error _ => return .number (-1)

/-! ## The functions that every program has -/

/-- Begins the numbers by chance; the value is what began them before. -/
def plant (seed : Value) : Run Value := do
  let number := (limited seed.real % 2 ^ 32).toNat
  modifyGet fun s => (s.seed, { s with seed := seed, chance := some (Chance.ofSeed number) })

/-- The count of seconds since the beginning of time. -/
def secondsNow : Run Float := do return Float.ofNat ((← ask .now) / 1000000)

/-- The next number by chance, below one. -/
def chance : Run Value := do
  let c ←
    match (← get).chance with
    | some c => pure c
    | none => do
      let _ ← plant (.number (← secondsNow))
      pure ((← get).chance.getD (Chance.ofSeed 1))
  let (n, c) := c.next
  modify fun s => { s with chance := some c }
  return .number (Float.ofNat n / Float.ofNat Chance.greatest)

/-- The moment that seconds since the beginning of time stand for. -/
def momentOf (seconds : Float) : Moment := .ofNanos (wholeWithin (-(2 ^ 53)) (2 ^ 53) seconds * Moment.secondNanos)

/-- The seconds of a moment that six numbers write. -/
def secondsOf (text : Octets) : Float :=
  match (Separator.words text.toList).map fun w => wholeWithin (-(2 ^ 31)) (2 ^ 31) (realOf w) with
  | year :: month :: day :: hour :: minute :: second :: _ =>
    let months := 12 * year + (month - 1)
    let first := Calendar.dayNumber (months.fdiv 12) (months.fmod 12 + 1) 1
    Float.ofInt ((first + day - 1) * 86400 + hour * 3600 + minute * 60 + second)
  | _ => -1

/-- The value of a function that every program has. -/
def builtinOf (b : Builtin) (vs : List Value) : Run Value := do
  let number (f : Float → Float) : Run Value := return .number (f (vs.headD .unset).real)
  match b, vs with
  | .index, [a, b] =>
    return .number (Float.ofNat (indexOf (← textFor b).toList 1 (← textFor a).toList))
  | .substr, a :: start :: length =>
    return .text (part (← textFor a) start.real (length.head?.map Value.real))
  | .sprintf, format :: rest =>
    let format ← textFor format
    match Layout.lay (← get).numberFormat format rest with
    | (s, none) => return .text s
    | (_, some d) => failAt (d.message "sprintf" format)
  | .sine, _ => number Float.sin
  | .cosine, _ => number Float.cos
  | .arctangent, [y, x] => return .number (Float.atan2 y.real x.real)
  | .exponential, _ => number Float.exp
  | .logarithm, _ => number Float.log
  | .whole, _ => number truncated
  | .root, _ => number Float.sqrt
  | .random, _ => chance
  | .seed, [] => plant (.number (← secondsNow))
  | .seed, v :: _ => plant v
  | .lower, [a] => return .text (← textFor a).toLower
  | .upper, [a] => return .text (← textFor a).toUpper
  | .close, [a] => return .number (Float.ofInt (← close (← textFor a)))
  | .system, [a] => return .number (Float.ofNat (← system (← textFor a)))
  | .flush, [] =>
    flushAll
    return .number 0
  | .flush, a :: _ =>
    let path ← textFor a
    flushAll
    let isThere := (← get).drains.any fun d => d.path == path
    return .number (if isThere || path.isEmpty then 0 else -1)
  | .clock, _ => return .number (← secondsNow)
  | .timeText, vs =>
    let format ← match vs with | f :: _ => textFor f | [] => pure "%c"
    let seconds ← match vs with | _ :: t :: _ => pure t.real | _ => secondsNow
    return .text ((momentOf seconds).format format)
  | .timeValue, [a] => return .number (secondsOf (← textFor a))
  | _, _ => return .unset

/-! ## Functions of the program -/

/-- What the variable of a function begins with: the table that an argument is or a new one, or the value of the argument. -/
def slotFor (k : Doing) (isTable : Bool) (argument : Option Expr) : Run Slot := do
  if isTable then
    match argument with
    | some (.value (.whole r)) => return .table ((← get).tableOf r)
    | _ => return .table (← modifyGet fun s => s.withTable Associations.empty)
  else
    match argument with
    | some e => return .single (← k.value e)
    | none => return .single .unset

/-- What the variables of a function begin with, one after the other. -/
def slotsFor (k : Doing) : List Bool → List Expr → Run (List Slot)
  | [], _ => return []
  | isTable :: rest, arguments => do
    let slot ← slotFor k isTable arguments.head?
    return slot :: (← slotsFor k rest arguments.tail)

/-- Calls a function of the program. -/
def call (k : Doing) (function : Nat) (arguments : List Expr) : Run Value := do
  tick
  match (← get).program.functions[function]? with
  | none => return .unset
  | some f =>
    let outer := (← get).own
    let count := (← get).tables.size
    let slots ← slotsFor k f.tables arguments
    modify fun s => { s with own := slots.toArray }
    let v ←
      tryCatch (do k.perform f.body; pure .unset) fun
        | .returning v => pure v
        | stop => throw stop
    modify fun s => { s with own := outer, tables := s.tables.shrink count }
    return v

/-! ## Expressions -/

/-- The value of an expression. -/
def evaluate (k : Doing) : Expr → Run Value
  | .number x => return .number x
  | .text s => return .text s
  | .pattern p => do return .ofBool (p.occursIn (← textFor (← field 0)))
  | .value t => do fetch (← spot k t)
  | .assign t none e => do
    let place ← spot k t
    let v ← k.value e
    store place v
    return v
  | .assign t (some o) e => do
    let place ← spot k t
    let y := (← k.value e).real
    let v := Value.number (calculate o (← fetch place).real y)
    store place v
    return v
  | .step t isUp isFirst => do
    let place ← spot k t
    let old := (← fetch place).real
    let new := if isUp then old + 1 else old - 1
    store place (.number new)
    return .number (if isFirst then new else old)
  | .calculate o a b => do
    let x := (← k.value a).real
    return .number (calculate o x (← k.value b).real)
  | .negate e => do return .number (-(← k.value e).real)
  | .affirm e => do return .number (← k.value e).real
  | .deny e => do return .ofBool !(← k.value e).isTrue
  | .join a b => do
    let x ← k.value a
    let y ← k.value b
    return .text ((← textFor x) ++ (← textFor y))
  | .compare c a b => do
    let x ← k.value a
    let y ← k.value b
    return .ofBool (c.holds (x.order (← get).numberFormat y))
  | .matching isNegated a b => do
    let text ← textFor (← k.value a)
    let p ← patternFor k b
    return .ofBool (p.occursIn text != isNegated)
  | .both a b => do
    if (← k.value a).isTrue then return .ofBool (← k.value b).isTrue
    else return .ofBool false
  | .either a b => do
    if (← k.value a).isTrue then return .ofBool true
    else return .ofBool (← k.value b).isTrue
  | .choose condition yes no => do if (← k.value condition).isTrue then k.value yes else k.value no
  | .member subscripts array => do
    let key ← keyFor k subscripts
    return .ofBool (← onTable array fun a => a.has key)
  | .length none => do return .number (Float.ofNat (← textFor (← field 0)).length)
  | .length (some (.value (.whole r))) => do
    let s ← get
    match s.slot r with
    | .table n => return .number (Float.ofNat ((s.tables[n]?).getD default).size)
    | .single v => return .number (Float.ofNat (s.textOf v).length)
  | .length (some e) => do return .number (Float.ofNat (← textFor (← k.value e)).length)
  | .builtin b arguments => do builtinOf b (← arguments.mapM k.value)
  | .split e array separator => splitInto k e array separator
  | .locate e pattern => locate k e pattern
  | .substitute isGlobal pattern replacement t => substitute k isGlobal pattern replacement t
  | .read t => do
    let place ← spotFor k t
    readResult place (.ok (← nextRecord?))
  | .readFile t path => do
    let place ← spotFor k t
    readResult place (← nextOfFile (← textFor (← k.value path)))
  | .readCommand t command => do
    let command ← textFor (← k.value command)
    let place ← spotFor k t
    readResult place (.ok (← nextOfCommand command))
  | .call function arguments => call k function arguments

end Run
end ElmAssay.Machine.Rules
