import ElmAssay.Machine.Calendar
import ElmAssay.Machine.Quantity
import ElmAssay.Machine.Regex
import ElmAssay.Machine.Rights
import ElmAssay.Machine.Utility.Paths
import ElmAssay.Machine.Wildcard

/-!
# What is asked at a place

A search through directories evaluates an expression (`Quest`) at every place that it comes to (`Spot`): tests of what
stands there, and actions. A place can be shown by a format of directives (`Spot.formatted`).
-/

namespace ElmAssay.Machine

open Text

/-- How a number is compared: less, the same, or more. -/
structure Amount where
  order : Ordering
  count : Nat
  deriving DecidableEq, Repr

/-- Whether a number is as asked for. -/
def Amount.has (a : Amount) (n : Nat) : Bool := compare n a.count == a.order

/-- Whether an age is as asked for, in units of so many nanoseconds. -/
def Amount.hasAge (a : Amount) (unit age : Int) : Bool :=
  let whole := age.fdiv unit
  match a.order with
  | .eq => whole == a.count
  | .gt => (a.count : Int) < whole
  | .lt => whole < a.count

/-- What is evaluated at a place. -/
inductive Quest
  | always (answer : Bool)
  | name (w : Wildcard) (ignoresCase : Bool)
  | path (w : Wildcard) (ignoresCase : Bool)
  | regex (r : Regex) (ignoresCase : Bool)
  | linkText (w : Wildcard) (ignoresCase : Bool)
  | kind (letters : List Char)
  /-- The kind of what a link leads to. -/
  | targetKind (letters : List Char)
  | empty
  /-- The size in units of so many bytes. -/
  | size (a : Amount) (unit : Nat)
  | links (a : Amount)
  | serial (a : Amount)
  /-- The time since the last change in units of so many nanoseconds. -/
  | age (a : Amount) (unit : Int)
  /-- Whether the last change came after a time. -/
  | newer (time : Int)
  | same (serial : Nat)
  | runnable
  /-- The rights: all of some, any of some, or exactly these. Those of directories may be others. -/
  | rights (mark : Option Char) (bits directoryBits : Nat)
  /-- Writes to an open file. -/
  | print (file : Nat) (lineEnd : Octets)
  | printed (file : Nat) (format : Octets)
  | listed (file : Nat)
  | delete
  | prune
  | quit
  /-- Runs a program, perhaps in the directory of the file, perhaps after a question. -/
  | run (command : List Octets) (isInside asks : Bool)
  /-- Runs a program for many files at once. The number tells such programs apart. -/
  | gather (id : Nat) (command : List Octets)
  | not (q : Quest)
  | both (left right : Quest)
  | either (left right : Quest)
  | sequence (left right : Quest)

namespace Quest

/-- Whether something is done. -/
def acts : Quest → Bool
  | print .. => true
  | printed .. => true
  | listed _ => true
  | delete => true
  | quit => true
  | run .. => true
  | gather .. => true
  | not q => q.acts
  | both l r => l.acts || r.acts
  | either l r => l.acts || r.acts
  | sequence l r => l.acts || r.acts
  | _ => false

/-- The programs of an expression that run for many files at once. -/
def gatherers : Quest → List (Nat × List Octets)
  | gather id command => [(id, command)]
  | not q => q.gatherers
  | both l r => l.gatherers ++ r.gatherers
  | either l r => l.gatherers ++ r.gatherers
  | sequence l r => l.gatherers ++ r.gatherers
  | _ => []

end Quest

/-- Where a search is: the path, the path that it started from, how deep below that it is, what stands there, and for a
link its text and what it leads to. -/
structure Spot where
  path : Octets
  origin : Octets
  depth : Nat
  info : Info
  linkText : Octets
  target : Option Info

namespace Spot

/-- The letter of a kind. -/
def kindLetter : Kind → Char
  | .file => 'f'
  | .directory => 'd'
  | .link => 'l'
  | .device => 'c'
  | .pipe => 'p'

/-- The letter of the kind of what a place leads to. -/
def targetLetter (s : Spot) : Char :=
  if s.info.isLink then s.target.elim 'N' fun i => kindLetter i.kind else kindLetter s.info.kind

/-- The name at a place. -/
def name (s : Spot) : Octets := Utility.lastName s.path

/-- The path of the directory around a place. -/
def directory (s : Spot) : Octets :=
  if s.path = "/" then ""
  else if (dropTrailing (· == '/') s.path.toList).contains '/' then Utility.parentPath s.path else "."

/-- The path from the start of the search on. -/
def inner (s : Spot) : Octets :=
  String.ofList ((s.path.toList.drop s.origin.length).dropWhile (· == '/'))

/-- The bytes of 512 that something takes, in so many. -/
def blocks (i : Info) : Nat :=
  match i.kind with
  | .file => (i.size + 4095) / 4096 * 8
  | .directory => 8
  | _ => 0

/-- A time by a letter. -/
def timeField (nanos : Int) (letter : Char) : Octets :=
  let m := Moment.ofNanos nanos
  let fraction := m.format "%N0"
  match letter with
  | '@' => m.format "%s" ++ "." ++ fraction
  | 'S' => m.format "%S" ++ "." ++ fraction
  | 'T' => m.format "%T" ++ "." ++ fraction
  | 'X' => m.format "%T" ++ "." ++ fraction
  | '+' => m.format "%F+%T" ++ "." ++ fraction
  | letter => m.format (String.ofList ['%', letter])

/-- A time as it is written by default. -/
def plainTime (nanos : Int) : Octets := (Moment.ofNanos nanos).format "%a %b %e %H:%M:%S.%N0 %Y"

/-- The value of a directive in a format; `none` if there is no such directive. -/
def field? (s : Spot) : Char → Option Octets
  | 'p' => some s.path
  | 'P' => some s.inner
  | 'f' => some s.name
  | 'h' => some s.directory
  | 'H' => some s.origin
  | 's' => some (Numeral.text s.info.size)
  | 'd' => some (Numeral.text s.depth)
  | 'y' => some (String.singleton (kindLetter s.info.kind))
  | 'Y' => some (String.singleton s.targetLetter)
  | 'l' => some s.linkText
  | 'm' => some (String.ofList (Numeral.digitsIn 8 s.info.rights))
  | 'M' => some (Rights.shown s.info)
  | 'u' => some "root"
  | 'g' => some "root"
  | 'U' => some "0"
  | 'G' => some "0"
  | 'n' => some (Numeral.text s.info.names)
  | 'i' => some (Numeral.text s.info.serial)
  | 'k' => some (Numeral.text (blocks s.info / 2))
  | 'b' => some (Numeral.text (blocks s.info))
  | 'D' => some "50"
  | 'F' => some "overlay"
  | 'S' => some (if s.info.size = 0 then "1" else
      Quantity.general false 6 (blocks s.info * 512) s.info.size |> String.ofList)
  | 't' => some (plainTime s.info.changed)
  | 'a' => some (plainTime s.info.changed)
  | 'c' => some (plainTime s.info.changed)
  | '%' => some "%"
  | _ => none

/-- The warnings about a format: directives and escapes that there are not. The fuel bounds its characters. -/
def defects : Nat → List Char → List (String × Char)
  | fuel + 1, '%' :: cs =>
    let rest := cs.dropWhile fun c => isAsciiDigit c || ['-', '+', ' ', '#', '.'].contains c
    match rest with
    | [] => [("end", '%')]
    | d :: rest =>
      if ['T', 'A', 'C', 'B'].contains d then defects fuel (rest.drop 1)
      else
        let known := "pPfhHsdyYlmMugUGnikbDFStac%Z".toList.contains d
        (if known then [] else [("directive", d)]) ++ defects fuel rest
  | fuel + 1, '\\' :: c :: rest =>
    let known := Numeral.isDigitIn 8 c || "ntabfrv\\c".toList.contains c
    (if known then [] else [("escape", c)]) ++ defects fuel rest
  | fuel + 1, _ :: rest => defects fuel rest
  | _, _ => []

/-- The text of a format at a place. The fuel bounds its characters. -/
def formatted (s : Spot) : Nat → List Char → List Char
  | 0, _ => []
  | _, [] => []
  | fuel + 1, c :: cs =>
    match c, cs with
    | '%', cs =>
      let flags := cs.takeWhile fun c => c == '-' || c == '0' || c == '+' || c == ' ' || c == '#'
      let (width, rest) := Number.spanDigits (cs.drop flags.length)
      let (places, rest) :=
        match rest with
        | '.' :: r =>
          let (ds, r) := Number.spanDigits r
          (some (Number.digitsValue ds), r)
        | r => (none, r)
      match rest with
      | d :: rest =>
        let n := Number.digitsValue width
        let lay (value : Octets) : List Char :=
          let value := if "pPfhHlugyY".toList.contains d then places.elim value fun k => String.ofList (value.toList.take k) else value
          let fill := if flags.contains '0' && "sdmiknbUG".toList.contains d then '0' else ' '
          (if flags.contains '-' then Numeral.padRight ' ' n value else Numeral.padLeft fill n value).toList
        if ['T', 'A', 'C', 'B'].contains d then
          match rest with
          | letter :: rest => lay (timeField s.info.changed letter) ++ formatted s fuel rest
          | [] => ['%', d]
        else
          match s.field? d with
          | some value => lay value ++ formatted s fuel rest
          | none => ('%' :: flags ++ width ++ [d]) ++ formatted s fuel rest
      | [] => ['%']
    | '\\', e :: rest =>
      let octal := (e :: rest).take 3 |>.takeWhile (Numeral.isDigitIn 8)
      if !octal.isEmpty then
        Char.ofNat (Numeral.valueIn 8 octal % 256) :: formatted s fuel ((e :: rest).drop octal.length)
      else
        match e with
        | 'n' => '\n' :: formatted s fuel rest
        | 't' => '\t' :: formatted s fuel rest
        | 'a' => '\x07' :: formatted s fuel rest
        | 'b' => '\x08' :: formatted s fuel rest
        | 'f' => '\x0c' :: formatted s fuel rest
        | 'r' => '\r' :: formatted s fuel rest
        | 'v' => '\x0b' :: formatted s fuel rest
        | '\\' => '\\' :: formatted s fuel rest
        | 'c' => []
        | e => '\\' :: e :: formatted s fuel rest
    | c, rest => c :: formatted s fuel rest

/-- The line that tells what is known of a place. -/
def listed (s : Spot) (now : Int) : Octets :=
  let right (width : Nat) (n : Nat) : Octets := Numeral.padLeft ' ' width (Numeral.text n)
  let time := (Moment.ofNanos s.info.changed).format (if now < s.info.changed + 15778476 * Moment.secondNanos then "%b %e %H:%M" else "%b %e  %Y")
  let behind := if s.info.isLink then " -> " ++ s.linkText else ""
  let size := if s.info.kind = .device then "        " else right 8 s.info.size
  right 9 s.info.serial ++ " " ++ right 6 (blocks s.info / 2) ++ " " ++ Rights.shown s.info ++ " " ++
    right 3 s.info.names ++ " root     root     " ++ size ++ " " ++ time ++ " " ++ s.path ++ behind ++ "\n"

end Spot
end ElmAssay.Machine
