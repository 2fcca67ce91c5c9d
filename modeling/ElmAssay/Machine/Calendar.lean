import ElmAssay.Machine.Numeral

/-!
# The calendar

A moment is a day of the calendar and a time of that day (`Moment`), in the zone in which the day starts with the first
second of the count of seconds. Days are counted from the first day of 1970 (`Calendar.dayNumber`, `Moment.ofMicros`), and
a moment is written by a pattern of directives (`Moment.format`).
-/

namespace ElmAssay.Machine

namespace Calendar

/-- The number of the day of a year, a month from one, and a day from one. -/
def dayNumber (year month day : Int) : Int :=
  let y := if month ≤ 2 then year - 1 else year
  let era := y.fdiv 400
  let yearOfEra := y - era * 400
  let dayOfYear := (153 * (if 2 < month then month - 3 else month + 9) + 2) / 5 + day - 1
  era * 146097 + yearOfEra * 365 + yearOfEra / 4 - yearOfEra / 100 + dayOfYear - 719468

/-- The year, the month and the day of a day by its number. -/
def dateOf (number : Int) : Int × Int × Int :=
  let z := number + 719468
  let era := z.fdiv 146097
  let dayOfEra := z - era * 146097
  let yearOfEra := (dayOfEra - dayOfEra / 1460 + dayOfEra / 36524 - dayOfEra / 146096) / 365
  let dayOfYear := dayOfEra - (365 * yearOfEra + yearOfEra / 4 - yearOfEra / 100)
  let shifted := (5 * dayOfYear + 2) / 153
  let month := if shifted < 10 then shifted + 3 else shifted - 9
  (yearOfEra + era * 400 + (if month ≤ 2 then 1 else 0), month, dayOfYear - (153 * shifted + 2) / 5 + 1)

/-- The names of the days of the week. -/
def dayNames : List String := ["Sunday", "Monday", "Tuesday", "Wednesday", "Thursday", "Friday", "Saturday"]

/-- The names of the months. -/
def monthNames : List String :=
  ["January", "February", "March", "April", "May", "June", "July", "August", "September", "October", "November",
   "December"]

/-- The first three letters of a name. -/
def short (name : String) : String := String.ofList (name.toList.take 3)

end Calendar

/-- A moment: the number of its day, and the nanoseconds of that day. -/
structure Moment where
  dayNumber : Int
  nanos : Int
  deriving DecidableEq, Repr

namespace Moment

open Calendar

/-- The nanoseconds of a second. -/
def secondNanos : Int := 1000000000

/-- The nanoseconds of a day. -/
def dayNanos : Int := 86400 * secondNanos

/-- The moment so many nanoseconds after the start of 1970. -/
def ofNanos (n : Int) : Moment := ⟨n.fdiv dayNanos, n.fmod dayNanos⟩

/-- The moment so many microseconds after the start of 1970. -/
def ofMicros (n : Int) : Moment := ofNanos (n * 1000)

/-- The nanoseconds from the start of 1970 to a moment. -/
def toNanos (m : Moment) : Int := m.dayNumber * dayNanos + m.nanos

/-- The seconds from the start of 1970 to a moment. -/
def seconds (m : Moment) : Int := m.toNanos.fdiv secondNanos

/-- The hour of the day. -/
def hour (m : Moment) : Int := m.nanos / (3600 * secondNanos)

/-- The minute of the hour. -/
def minute (m : Moment) : Int := m.nanos / (60 * secondNanos) % 60

/-- The second of the minute. -/
def second (m : Moment) : Int := m.nanos / secondNanos % 60

/-- The nanosecond of the second. -/
def nano (m : Moment) : Int := m.nanos % secondNanos

/-- The day of the week, from Sunday on. -/
def weekDay (m : Moment) : Int := (m.dayNumber + 4).fmod 7

/-- The day of the year, from zero on. -/
def yearDay (m : Moment) : Int := m.dayNumber - Calendar.dayNumber (dateOf m.dayNumber).1 1 1

/-- The year and the number of the week that a day belongs to, where weeks start on Monday and belong to the year that
has most of their days. -/
def week (m : Moment) : Int × Int :=
  let thursday : Moment := ⟨m.dayNumber - (m.weekDay + 6) % 7 + 3, 0⟩
  ((dateOf thursday.dayNumber).1, thursday.yearDay / 7 + 1)

/-! ## Writing -/

/-- How the fields of a directive are written: the flag that says what fills them, how wide they are, which letters they
have, and the letter in front of that of the directive. -/
structure Style where
  fill : Option Char
  width : Option Nat
  isUpper : Bool
  isSwapped : Bool
  modifier : Option Char

namespace Style

/-- The style without wishes. -/
def plain : Style := ⟨none, none, false, false, none⟩

/-- A text in a field. -/
def lay (s : Style) (text : Octets) : Octets :=
  let fill := if s.fill = some '0' ∨ s.fill = some '+' then '0' else ' '
  Numeral.padLeft fill (if s.fill = some '-' then 0 else s.width.getD 0) text

/-- A word in a field. -/
def word (s : Style) (text : Octets) : Octets := s.lay (if s.isUpper then text.toUpper else text)

/-- A word in a field that is changed to large letters altogether. -/
def name (s : Style) (text : Octets) : Octets := s.lay (if s.isUpper || s.isSwapped then text.toUpper else text)

/-- A word of large letters in a field, which is changed to small letters altogether. -/
def mark (s : Style) (text : Octets) : Octets := if s.isSwapped then s.lay text.toLower else s.word text

/-- Digits with a sign in a field. -/
def signed (s : Style) (fill : Char) (width : Nat) (sign : Option Char) (digits : Octets) : Octets :=
  let fill := s.fill.getD fill
  let width := s.width.getD width
  match sign with
  | none => { s with fill := some fill, width := some width }.lay digits
  | some c =>
    if fill = '_' then Numeral.padLeft ' ' width (String.singleton c ++ digits)
    else String.singleton c ++ { s with fill := some fill, width := some (width - 1) }.lay digits

/-- A number in a field. -/
def number (s : Style) (fill : Char) (width : Nat) (n : Int) : Octets :=
  s.signed fill width (if n < 0 then some '-' else none) (Numeral.text n.natAbs)

/-- A year or a part of one in a field. `fill` is what fills it unless it says so itself. -/
def year (s : Style) (fill : Option Char) (width : Nat) (n : Int) : Octets :=
  let fill := s.fill.or fill
  let hasPlus := fill = some '+' && ((10 ^ width : Nat) ≤ n || width < s.width.getD 0)
  { s with fill := fill }.signed '0' width (if n < 0 then some '-' else if hasPlus then some '+' else none)
    (Numeral.text n.natAbs)

/-- The fraction of a second in a field. -/
def fraction (s : Style) (nano : Int) : Octets :=
  let width := if s.width.getD 0 = 0 then 9 else s.width.getD 9
  let all := ((Numeral.padLeft '0' 9 (Numeral.text nano.toNat)).toList).take width
  let kept := (all.reverse.dropWhile (· == '0')).reverse
  let kept := if kept.isEmpty then ['0'] else kept
  match s.fill with
  | some '-' => String.ofList kept
  | some '_' => Numeral.padRight ' ' width (String.ofList kept)
  | _ => Numeral.padRight '0' width (String.ofList kept)

end Style

/-- The hour on a clock with twelve hours. -/
def clockHour (m : Moment) : Int := if m.hour % 12 = 0 then 12 else m.hour % 12

/-- The pattern that some directives stand for. -/
def longForm? : Char → Option String
  | 'c' => some "%a %b %e %H:%M:%S %Y"
  | 'D' => some "%m/%d/%y"
  | 'r' => some "%I:%M:%S %p"
  | 'R' => some "%H:%M"
  | 'T' => some "%H:%M:%S"
  | 'x' => some "%m/%d/%y"
  | 'X' => some "%H:%M:%S"
  | _ => none

/-- Whether a letter in front of that of a directive takes its meaning. -/
def isSpoiled (modifier : Option Char) (letter : Char) : Bool :=
  match modifier with
  | none => false
  | some 'E' => "aAbBhDFdeHIkljMmNSUVgGWw".toList.contains letter
  | some _ => "aAcDFxXY".toList.contains letter

/-- What a directive writes that stands for no pattern; `none` if there is no such directive. `yearFill` is what fills
years. -/
def field? (s : Style) (yearFill : Option Char) (m : Moment) (letter : Char) : Option Octets :=
  let (year, month, day) := dateOf m.dayNumber
  let number (fill : Char) (width : Nat) (n : Int) : Option Octets := some (s.number fill width n)
  let dayName := (dayNames[m.weekDay.toNat]?).getD ""
  let monthName := (monthNames[(month - 1).toNat]?).getD ""
  let half := if m.hour < 12 then "AM" else "PM"
  match letter with
  | 'a' => some (s.name (short dayName))
  | 'A' => some (s.name dayName)
  | 'b' => some (s.name (short monthName))
  | 'B' => some (s.name monthName)
  | 'h' => some (s.name (short monthName))
  | 'C' => some (s.year yearFill 2 (year.fdiv 100))
  | 'd' => number '0' 2 day
  | 'e' => number '_' 2 day
  | 'g' => some (s.year yearFill 2 (m.week.1.fmod 100))
  | 'G' => some (s.year yearFill 4 m.week.1)
  | 'H' => number '0' 2 m.hour
  | 'I' => number '0' 2 m.clockHour
  | 'j' => number '0' 3 (m.yearDay + 1)
  | 'k' => number '_' 2 m.hour
  | 'l' => number '_' 2 m.clockHour
  | 'm' => number '0' 2 month
  | 'M' => number '0' 2 m.minute
  | 'n' => some (s.lay "\n")
  | 'N' => some (s.fraction m.nano)
  | 'p' => some (s.mark half)
  | 'P' => some (s.lay half.toLower)
  | 'q' => number '0' 1 ((month - 1) / 3 + 1)
  | 's' => number '0' 1 m.seconds
  | 'S' => number '0' 2 m.second
  | 't' => some (s.lay "\t")
  | 'u' => number '0' 1 (if m.weekDay = 0 then 7 else m.weekDay)
  | 'U' => number '0' 2 ((m.yearDay + 7 - m.weekDay) / 7)
  | 'V' => number '0' 2 m.week.2
  | 'w' => number '0' 1 m.weekDay
  | 'W' => number '0' 2 ((m.yearDay + 7 - (m.weekDay + 6) % 7) / 7)
  | 'y' => some (s.year yearFill 2 (year.fmod 100))
  | 'Y' => some (s.year yearFill 4 year)
  | 'Z' => some (s.mark "UTC")
  | _ => none

/-- Whether a number is written as by itself, in a field for words, because of the letter in front of its directive, which
asks for other digits or years. -/
def isAlternate (modifier : Option Char) (letter : Char) : Bool :=
  match modifier with
  | none => false
  | some 'E' => ['C', 'y', 'Y'].contains letter
  | some _ => "CdegGHIjklmMSuUVwWyq".toList.contains letter

/-- What a directive writes with the letter that may stand in front of it. -/
def alternate? (s : Style) (yearFill : Option Char) (m : Moment) (letter : Char) : Option Octets :=
  if isAlternate s.modifier letter then
    if letter = 'q' then some (s.word "%Oq") else (field? Style.plain none m letter).map s.lay
  else field? s yearFill m letter

/-- The zone in a field, written with so many colons: the digits of its distance stand in for a number. -/
def zone? (s : Style) : Nat → Option Octets
  | 0 => some (s.signed '0' 5 (some '+') "0")
  | 1 => some (s.signed '0' 6 (some '+') "0:00")
  | 2 => some (s.signed '0' 9 (some '+') "0:00:00")
  | 3 => some (s.signed '0' 3 (some '+') "0")
  | _ => none

/-- The flags at the front of a directive, and the rest. -/
def takeFlags : Style → List Char → Style × List Char
  | s, '^' :: cs => takeFlags { s with isUpper := true } cs
  | s, '#' :: cs => takeFlags { s with isSwapped := true } cs
  | s, c :: cs => if c = '-' ∨ c = '_' ∨ c = '0' ∨ c = '+' then takeFlags { s with fill := some c } cs else (s, c :: cs)
  | s, [] => (s, [])

/-- A moment by a pattern, whose first field may get a width. The fuel bounds the directives and the patterns that they
stand for. -/
def formatFrom (m : Moment) (isUpper : Bool) (yearFill : Option Char) : Nat → Option Nat → List Char → Octets
  | 0, _, _ => ""
  | _, _, [] => ""
  | fuel + 1, width, '%' :: cs =>
    let go (rest : List Char) : Octets := formatFrom m isUpper yearFill fuel none rest
    let (s, r) := takeFlags { Style.plain with isUpper := isUpper, width := width } cs
    let digits := r.takeWhile Text.isAsciiDigit
    let s := if digits.isEmpty then s else { s with width := some (Number.digitsValue digits) }
    let r := r.drop digits.length
    let (s, r) :=
      match r with
      | 'E' :: r => ({ s with modifier := some 'E' }, r)
      | 'O' :: r => ({ s with modifier := some 'O' }, r)
      | r => (s, r)
    let raw (rest : List Char) : Octets := s.word (String.ofList ('%' :: cs.take (cs.length - rest.length))) ++ go rest
    let colons := (r.takeWhile (· == ':')).length
    match r.drop colons with
    | 'z' :: rest =>
      match if s.modifier = some 'O' then (zone? Style.plain colons).map s.lay else zone? s colons with
      | some text => text ++ go rest
      | none => raw rest
    | rest =>
      if colons != 0 then raw (r.drop 1)
      else
        match rest with
        | [] => raw []
        | '%' :: rest => if rest.length + 1 = cs.length then s.lay "%" ++ go rest else raw ('%' :: rest)
        | letter :: rest =>
          if isSpoiled s.modifier letter then
            let isName := letter = 'b' ∨ letter = 'h'
            let text := String.ofList ('%' :: cs.take (cs.length - rest.length))
            (if isName then s.name text else s.word text) ++ go rest
          else if letter = 'F' then
            let (fill, inner) : Option Char × Nat :=
              if s.fill.isNone && s.width.isNone then (some '+', 4) else (s.fill, s.width.getD 0 - 6)
            { s with fill := fill }.lay (formatFrom m s.isUpper fill fuel (some inner) "%Y-%m-%d".toList) ++ go rest
          else
            match longForm? letter, alternate? s yearFill m letter with
            | some pattern, _ => s.lay (formatFrom m s.isUpper s.fill fuel none pattern.toList) ++ go rest
            | none, some text => text ++ go rest
            | none, none => raw rest
  | fuel + 1, _, c :: cs => String.singleton c ++ formatFrom m isUpper yearFill fuel none cs

/-- A moment by a pattern. -/
def format (m : Moment) (pattern : Octets) : Octets :=
  formatFrom m false none (pattern.length + 20) none pattern.toList

end Moment
end ElmAssay.Machine
