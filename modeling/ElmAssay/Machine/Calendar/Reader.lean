import ElmAssay.Machine.Calendar

/-!
# Reading moments

A moment is written as a row of items in any order: a date, a time of day, a zone, a day of the week, distances from the
present moment, or else a count of seconds alone (`Moment.read?`). What no item tells is taken from the present moment,
but a date without a time means the start of the day. A moment as digits alone is read by `Moment.ofDigits?`.
-/

namespace ElmAssay.Machine.Moment

open Calendar

/-- A distance: its months, its days and its nanoseconds. -/
structure Distance where
  months : Int
  days : Int
  nanos : Int
  deriving DecidableEq, Repr

namespace Distance

/-- No distance. -/
def none : Distance := ⟨0, 0, 0⟩

/-- Two distances one after the other. -/
def add (a b : Distance) : Distance := ⟨a.months + b.months, a.days + b.days, a.nanos + b.nanos⟩

/-- A distance so many times. -/
def times (n : Int) (d : Distance) : Distance := ⟨n * d.months, n * d.days, n * d.nanos⟩

/-- Whether a distance is a second. -/
def isSecond (d : Distance) : Bool := d == ⟨0, 0, secondNanos⟩

end Distance

/-- What a moment is written with. -/
inductive Token
  | whole (value digits : Nat)
  | signed (isNegative : Bool) (value digits : Nat)
  /-- A number with a fraction, in billionths. -/
  | fraction (isSigned : Bool) (nanos : Int)
  | half (isAfternoon : Bool)
  | month (n : Nat)
  | weekDay (n : Int)
  /-- A zone by its distance in seconds. -/
  | zone (seconds : Int)
  /-- A zone in which clocks are one hour ahead in summer, as they are now. -/
  | summerZone (seconds : Int)
  | summer
  | unit (d : Distance)
  | ordinal (n : Int)
  | shift (days : Int)
  /-- Turns the distance before it around, or leaves it as it is. -/
  | turn (sign : Int)
  | letterT
  | letterJ
  | symbol (c : Char)
  | unknown
  deriving DecidableEq, Repr

/-- The halves of the day by their names. -/
def halfNames : List (String × Token) :=
  [("am", .half false), ("a.m.", .half false), ("pm", .half true), ("p.m.", .half true)]

/-- The names of months and days of the week, in the order in which their beginnings are tried. -/
def dateNames : List (String × Token) :=
  (monthNames.take 9).mapIdx (fun i name => (name.toLower, .month (i + 1))) ++ [("sept", .month 9)] ++
    (monthNames.drop 9).mapIdx (fun i name => (name.toLower, .month (i + 10))) ++
    [("sunday", .weekDay 0), ("monday", .weekDay 1), ("tuesday", .weekDay 2), ("tues", .weekDay 2),
     ("wednesday", .weekDay 3), ("wednes", .weekDay 3), ("thursday", .weekDay 4), ("thur", .weekDay 4),
     ("thurs", .weekDay 4), ("friday", .weekDay 5), ("saturday", .weekDay 6)]

/-- The zones by their names, with their distances in hours. -/
def zoneNames : List (String × Token) :=
  let zone (names : List String) (hours : Int) : List (String × Token) := names.map fun n => (n, .zone (hours * 3600))
  let summer (names : List String) (hours : Int) : List (String × Token) :=
    names.map fun n => (n, .summerZone (hours * 3600))
  zone ["gmt", "ut", "utc", "wet"] 0 ++ summer ["west", "bst"] 0 ++ zone ["art", "brt"] (-3) ++ summer ["brst"] (-3) ++
    [("nst", .zone (-12600)), ("ndt", .summerZone (-12600))] ++ zone ["ast", "clt"] (-4) ++ summer ["adt", "clst"] (-4) ++
    zone ["est"] (-5) ++ summer ["edt"] (-5) ++ zone ["cst"] (-6) ++ summer ["cdt"] (-6) ++ zone ["mst"] (-7) ++
    summer ["mdt"] (-7) ++ zone ["pst"] (-8) ++ summer ["pdt"] (-8) ++ zone ["akst"] (-9) ++ summer ["akdt"] (-9) ++
    zone ["hst", "hast"] (-10) ++ summer ["hadt"] (-10) ++ zone ["sst"] (-12) ++ zone ["wat", "cet", "met", "mez"] 1 ++
    summer ["cest", "mest", "mesz"] 1 ++ zone ["eet", "cat", "sast"] 2 ++ summer ["eest"] 2 ++ zone ["eat", "msk"] 3 ++
    summer ["msd"] 3 ++ [("ist", .zone 19800)] ++ zone ["sgt"] 8 ++ zone ["kst", "jst"] 9 ++ zone ["gst"] 10 ++
    zone ["nzst"] 12 ++ summer ["nzdt"] 12

/-- The units of distances by their names. -/
def unitNames : List (String × Token) :=
  [("year", .unit ⟨12, 0, 0⟩), ("month", .unit ⟨1, 0, 0⟩), ("fortnight", .unit ⟨0, 14, 0⟩), ("week", .unit ⟨0, 7, 0⟩),
   ("day", .unit ⟨0, 1, 0⟩), ("hour", .unit ⟨0, 0, 3600 * secondNanos⟩), ("minute", .unit ⟨0, 0, 60 * secondNanos⟩),
   ("min", .unit ⟨0, 0, 60 * secondNanos⟩), ("second", .unit ⟨0, 0, secondNanos⟩), ("sec", .unit ⟨0, 0, secondNanos⟩)]

/-- The other words by their names. -/
def relationNames : List (String × Token) :=
  [("tomorrow", .shift 1), ("yesterday", .shift (-1)), ("today", .shift 0), ("now", .shift 0), ("last", .ordinal (-1)),
   ("this", .ordinal 0), ("next", .ordinal 1), ("first", .ordinal 1), ("third", .ordinal 3), ("fourth", .ordinal 4),
   ("fifth", .ordinal 5), ("sixth", .ordinal 6), ("seventh", .ordinal 7), ("eighth", .ordinal 8), ("ninth", .ordinal 9),
   ("tenth", .ordinal 10), ("eleventh", .ordinal 11), ("twelfth", .ordinal 12), ("ago", .turn (-1)),
   ("hence", .turn 1)]

/-- The zone that a single letter stands for. -/
def letterZone? (c : Char) : Option Token :=
  let east := "abcdefghiklm".toList
  let west := "nopqrsuvwxy".toList
  if c = 't' then some .letterT
  else if c = 'j' then some .letterJ
  else if c = 'z' then some (.zone 0)
  else if east.contains c then some (.zone ((east.idxOf c + 1 : Nat) * 3600))
  else if west.contains c then
    let n := west.idxOf c
    some (.zone (-((if n < 6 then n + 1 else n + 2 : Nat) * 3600 : Int)))
  else none

/-- What a word of small letters and dots stands for. -/
def wordToken (word : String) : Token :=
  let cs := word.toList
  let isShort := cs.length = 3 || (cs.length = 4 && cs.getLast? = some '.')
  let front := String.ofList (cs.take 3)
  let date? := dateNames.find? fun p => if isShort then p.1.startsWith front else p.1 == word
  let single := if word.endsWith "s" then String.ofList cs.dropLast else word
  let bare := String.ofList (cs.filter (· != '.'))
  let letter? :=
    match cs with
    | [c] => letterZone? c
    | _ => none
  let found := (halfNames.lookup word).or <| (date?.map Prod.snd).or <| (zoneNames.lookup word).or <|
    (if word = "dst" then some .summer else none).or <| (unitNames.lookup word).or <| (unitNames.lookup single).or <|
    (relationNames.lookup word).or <| letter?.or <| if bare = word then none else zoneNames.lookup bare
  found.getD .unknown

/-- The billionths that the digits of a fraction stand for, rounded up if they are left out of a number below zero. -/
def nanosOf (isNegative : Bool) (digits : List Char) : Int :=
  let exact : Int := Number.digitsValue ((digits ++ List.replicate 9 '0').take 9)
  if isNegative && (digits.drop 9).any (· != '0') then exact + 1 else exact

/-- A number at the front of a text, and the rest. -/
def takeNumber (sign : Option Bool) (cs : List Char) : Token × List Char :=
  let digits := cs.takeWhile Text.isAsciiDigit
  let rest := cs.drop digits.length
  let value := Number.digitsValue digits
  let fraction := (rest.drop 1).takeWhile Text.isAsciiDigit
  let isNegative := sign = some true
  if 2 ^ 63 ≤ value then (.unknown, rest)
  else if (rest.head? = some '.' || rest.head? = some ',') && !fraction.isEmpty then
    let whole : Int := value * secondNanos + nanosOf isNegative fraction
    (.fraction sign.isSome (if isNegative then -whole else whole), rest.drop (fraction.length + 1))
  else
    match sign with
    | some isNegative => (.signed isNegative value digits.length, rest)
    | none => (.whole value digits.length, rest)

/-- A text behind the parenthesis that closes a comment, so many of which are open. -/
def afterComment : Nat → List Char → List Char
  | _, [] => []
  | depth, '(' :: cs => afterComment (depth + 1) cs
  | 0, cs => cs
  | depth + 1, ')' :: cs => if depth = 0 then cs else afterComment depth cs
  | depth + 1, _ :: cs => afterComment (depth + 1) cs

/-- The tokens of a text. A sign without digits counts for nothing. The fuel bounds their count. -/
def tokens : Nat → List Char → List Token
  | 0, _ => []
  | _, [] => []
  | fuel + 1, c :: cs =>
    if Numeral.isSpace c then tokens fuel cs
    else if Text.isAsciiDigit c then
      let (t, rest) := takeNumber none (c :: cs)
      t :: tokens fuel rest
    else if c = '+' ∨ c = '-' then
      let after := cs.dropWhile Numeral.isSpace
      if after.head?.any Text.isAsciiDigit then
        let (t, rest) := takeNumber (some (c = '-')) after
        t :: tokens fuel rest
      else tokens fuel after
    else if c.isAlpha then
      let letters := (c :: cs).takeWhile fun c => c.isAlpha || c == '.'
      wordToken (String.ofList (letters.take 19)).toLower :: tokens fuel ((c :: cs).drop letters.length)
    else if c = '(' then tokens fuel (afterComment 1 cs)
    else .symbol c :: tokens fuel cs

/-- A time of day as it was told. -/
structure Clock where
  hour : Nat
  minute : Nat
  nanos : Int
  half : Option Bool

/-- What items told so far. -/
structure Told where
  year : Option (Int × Nat) := none
  monthDay : Option (Int × Int) := none
  clock : Option Clock := none
  zone : Int := 0
  weekDay : Option (Int × Int) := none
  distance : Distance := .none
  dates : Nat := 0
  times : Nat := 0
  zones : Nat := 0
  weekDays : Nat := 0
  hasDistance : Bool := false

namespace Told

/-- What was told, with a distance. -/
def withDistance (t : Told) (d : Distance) : Told := { t with distance := t.distance.add d, hasDistance := true }

/-- What was told, with a time of day. -/
def withClock (t : Told) (c : Clock) : Told := { t with clock := some c, times := t.times + 1 }

/-- What was told, with a date. -/
def withDate (t : Told) (year : Option (Int × Nat)) (month day : Int) : Told :=
  { t with year := year.or t.year, monthDay := some (month, day), dates := t.dates + 1 }

/-- What was told, with a day of the week. -/
def withWeekDay (t : Told) (count day : Int) : Told := { t with weekDay := some (count, day), weekDays := t.weekDays + 1 }

/-- What was told, with a zone. -/
def withZone (t : Told) (seconds : Int) : Told := { t with zone := seconds, zones := t.zones + 1 }

/-- What was told, with a number that stands alone. -/
def withNumber (t : Told) (value digits : Nat) : Told :=
  if t.dates != 0 && t.year.isNone && !t.hasDistance && (t.times != 0 || 2 < digits) then
    { t with year := some (value, digits) }
  else if 4 < digits then t.withDate (some (value / 10000, digits - 4)) (value / 100 % 100) (value % 100)
  else if digits ≤ 2 then t.withClock ⟨value, 0, 0, none⟩
  else t.withClock ⟨value / 100, value % 100, 0, none⟩

end Told

/-- The distance of a zone in seconds, by a number and perhaps minutes behind a colon; `none` if it is too large. -/
def zoneOf? (isNegative : Bool) (value digits : Nat) (minutes : Option Nat) : Option Int :=
  let n :=
    match minutes with
    | some m => value * 60 + m
    | none => if digits ≤ 2 then value * 60 else value / 100 * 60 + value % 100
  if n ≤ 24 * 60 then some ((if isNegative then -(n : Int) else n) * 60) else none

/-- The distance of a zone behind its sign, and the tokens behind it. -/
def takeZone? (isNegative : Bool) (value digits : Nat) : List Token → Option (Int × List Token)
  | .symbol ':' :: .whole m _ :: rest => (zoneOf? isNegative value digits (some m)).map (·, rest)
  | .symbol ':' :: _ => none
  | rest => (zoneOf? isNegative value digits none).map (·, rest)

/-- What was told, with a time of day and the half of the day or the zone behind it. -/
def takeClock (t : Told) (hour minute : Nat) (nanos : Int) : List Token → Option (Told × List Token)
  | .half isAfternoon :: rest => some (t.withClock ⟨hour, minute, nanos, some isAfternoon⟩, rest)
  | .signed isNegative value digits :: rest => do
    let (zone, rest) ← takeZone? isNegative value digits rest
    return ((t.withClock ⟨hour, minute, nanos, none⟩).withZone zone, rest)
  | rest => some (t.withClock ⟨hour, minute, nanos, none⟩, rest)

/-- What was told, with a time of day behind its hour, which a colon or a zone has to follow. -/
def takeTime (t : Told) (hour : Nat) : List Token → Option (Told × List Token)
  | .symbol ':' :: .whole m _ :: .symbol ':' :: .whole s _ :: rest => takeClock t hour m (s * secondNanos) rest
  | .symbol ':' :: .whole m _ :: .symbol ':' :: .fraction false nanos :: rest => takeClock t hour m nanos rest
  | .symbol ':' :: .whole _ _ :: .symbol ':' :: _ => none
  | .symbol ':' :: .whole m _ :: rest => takeClock t hour m 0 rest
  | .signed isNegative value digits :: rest => takeClock t hour 0 0 (.signed isNegative value digits :: rest)
  | _ => none

/-- What was told, with a distance that a word behind it may turn. -/
def takeTurn (t : Told) (d : Distance) : List Token → Told × List Token
  | .turn sign :: rest => (t.withDistance (d.times sign), rest)
  | rest => (t.withDistance d, rest)

/-- A number with its sign. -/
def signedValue (isNegative : Bool) (value : Nat) : Int := if isNegative then -(value : Int) else value

/-- What was told, with an item that begins with a number without a sign. -/
def takeWhole (t : Told) (n digits : Nat) : List Token → Option (Told × List Token)
  | .half isAfternoon :: rest => some (t.withClock ⟨n, 0, 0, some isAfternoon⟩, rest)
  | .symbol ':' :: rest => takeTime t n (.symbol ':' :: rest)
  | .symbol '/' :: .whole b _ :: .symbol '/' :: .whole c k :: rest =>
    some (if 4 ≤ digits then t.withDate (some (n, digits)) b c else t.withDate (some (c, k)) n b, rest)
  | .symbol '/' :: .whole _ _ :: .symbol '/' :: _ => none
  | .symbol '/' :: .whole b _ :: rest => some (t.withDate none n b, rest)
  | .month m :: .signed isNegative y k :: rest =>
    some (t.withDate (some (-signedValue isNegative y, k)) m n, rest)
  | .month m :: .whole y k :: rest => some (t.withDate (some (y, k)) m n, rest)
  | .month m :: rest => some (t.withDate none m n, rest)
  | .weekDay d :: rest => some (t.withWeekDay n d, rest)
  | .unit d :: rest => some (takeTurn t (d.times n) rest)
  | .signed a m _ :: .signed b d _ :: .letterT :: rest =>
    let t := t.withDate (some (n, digits)) (-signedValue a m) (-signedValue b d)
    match rest with
    | .whole hour _ :: rest => takeTime t hour rest
    | _ => none
  | .signed a m _ :: .signed b d _ :: rest =>
    some (t.withDate (some (n, digits)) (-signedValue a m) (-signedValue b d), rest)
  | .signed a m k :: rest => takeTime t n (.signed a m k :: rest)
  | rest => some (t.withNumber n digits, rest)

/-- What was told, with a zone and what may follow it: a distance, or a number that is added to the zone. -/
def takeBehindZone (t : Told) (zone : Int) : List Token → Option (Told × List Token)
  | .signed isNegative n _ :: .unit d :: rest =>
    some ((t.withZone zone).withDistance (d.times (signedValue isNegative n)), rest)
  | .signed isNegative n digits :: rest => do
    let (more, rest) ← takeZone? isNegative n digits rest
    return (t.withZone (zone + more), rest)
  | .summer :: rest => some (t.withZone (zone + 3600), rest)
  | rest => some (t.withZone zone, rest)

/-- What was told, with one more item; `none` if there is no such item. -/
def takeItem (t : Told) : List Token → Option (Told × List Token)
  | .whole n digits :: .signed isNegative m _ :: .unit d :: rest =>
    some ((t.withNumber n digits).withDistance (d.times (signedValue isNegative m)), rest)
  | .whole n digits :: rest => takeWhole t n digits rest
  | .signed isNegative n _ :: .unit d :: rest => some (takeTurn t (d.times (signedValue isNegative n)) rest)
  | .fraction _ nanos :: .unit d :: rest => if d.isSecond then some (takeTurn t ⟨0, 0, nanos⟩ rest) else none
  | .month m :: .signed a d _ :: .signed b y k :: rest =>
    some (t.withDate (some (-signedValue b y, k)) m (-signedValue a d), rest)
  | .month m :: .whole d _ :: .symbol ',' :: .whole y k :: rest => some (t.withDate (some (y, k)) m d, rest)
  | .month _ :: .whole _ _ :: .symbol ',' :: _ => none
  | .month m :: .whole d _ :: rest => some (t.withDate none m d, rest)
  | .weekDay d :: .symbol ',' :: rest => some (t.withWeekDay 0 d, rest)
  | .weekDay d :: rest => some (t.withWeekDay 0 d, rest)
  | .ordinal n :: .weekDay d :: rest => some (t.withWeekDay n d, rest)
  | .ordinal n :: .unit d :: rest => some (takeTurn t (d.times n) rest)
  | .unit d :: rest => some (takeTurn t d rest)
  | .shift n :: rest => some (t.withDistance ⟨0, n, 0⟩, rest)
  | .zone seconds :: rest => takeBehindZone t seconds rest
  | .summerZone seconds :: rest => some (t.withZone (seconds + 3600), rest)
  | .letterT :: .signed isNegative n _ :: .unit d :: rest =>
    some ((t.withZone (-7 * 3600)).withDistance (d.times (signedValue isNegative n)), rest)
  | .letterT :: rest => some (t.withZone (-7 * 3600), rest)
  | .letterJ :: rest => some ({ t with zones := t.zones + 1 }, rest)
  | _ => none

/-- What items tell. The fuel bounds their count. -/
def takeItems : Nat → Told → List Token → Option Told
  | _, t, [] => some t
  | 0, _, _ => none
  | fuel + 1, t, tokens => do
    let (t, rest) ← takeItem t tokens
    takeItems fuel t rest

/-- The year that digits mean. Two of them mean a year near the end of the last century. -/
def yearOf (value : Int) (digits : Nat) : Int :=
  if 0 ≤ value && digits = 2 then if value < 69 then value + 2000 else value + 1900 else value

/-- The count of days of a month. -/
def daysIn (year month : Int) : Int :=
  let next := if month = 12 then Calendar.dayNumber (year + 1) 1 1 else Calendar.dayNumber year (month + 1) 1
  next - Calendar.dayNumber year month 1

/-- The nanoseconds of a day at which a clock shows what was told; `none` if no clock shows it. -/
def Clock.nanosOfDay? (c : Clock) : Option Int :=
  let hour? : Option Nat :=
    match c.half with
    | none => if c.hour < 24 then some c.hour else none
    | some isAfternoon =>
      if 1 ≤ c.hour && c.hour ≤ 12 then some (c.hour % 12 + if isAfternoon then 12 else 0) else none
  if c.minute < 60 && c.nanos < 60 * secondNanos then
    hour?.map fun h => ((h * 60 + c.minute : Nat) : Int) * 60 * secondNanos + c.nanos
  else none

/-- The moment that items mean, seen from the present one. -/
def Told.moment? (t : Told) (now : Moment) : Option Moment :=
  if 1 < t.dates || 1 < t.times || 1 < t.zones || 1 < t.weekDays then none
  else do
    let (y, m, d) := dateOf now.dayNumber
    let year := t.year.elim y fun (v, n) => yearOf v n
    let (month, day) := t.monthDay.getD (m, d)
    if month < 1 || 12 < month || day < 1 || daysIn year month < day then none
    else
      let keepsTime := t.hasDistance && t.dates = 0 && t.weekDays = 0
      let nanos ←
        match t.clock with
        | some c => c.nanosOfDay?
        | none => some (if keepsTime then now.nanos else 0)
      let start := Calendar.dayNumber year month day
      let weekShift : Int :=
        match t.weekDay with
        | some (count, wanted) =>
          if t.dates != 0 then 0
          else
            let present := (⟨start, 0⟩ : Moment).weekDay
            (wanted - present + 7) % 7 + 7 * (count - if 0 < count && present != wanted then 1 else 0)
        | none => 0
      let (y2, m2, d2) := dateOf (start + weekShift)
      let index := y2 * 12 + (m2 - 1) + t.distance.months
      let last := index.fdiv 12
      if last < -(2 ^ 31) || 2 ^ 31 + 1899 < last then none
      else
        let base := Calendar.dayNumber last (index.fmod 12 + 1) 1 + d2 - 1 + t.distance.days
        some (ofNanos (base * dayNanos + nanos + t.distance.nanos - t.zone * secondNanos))

/-- The moment that a text means, seen from the present one. -/
def read? (now : Moment) (text : Octets) : Option Moment :=
  let ts := tokens (text.length + 1) text.toList
  match ts with
  | [.symbol '@', .whole n _] => some (ofNanos (n * secondNanos))
  | [.symbol '@', .signed isNegative n _] => some (ofNanos (signedValue isNegative n * secondNanos))
  | [.symbol '@', .fraction _ nanos] => some (ofNanos nanos)
  | ts => (takeItems (ts.length + 1) {} ts).bind (·.moment? now)

/-- The moment that digits mean: month, day, hour and minute, behind a year that may be there, and seconds that may be
behind a dot. -/
def ofDigits? (now : Moment) (text : Octets) : Option Moment :=
  let cs := text.toList
  let digits := cs.takeWhile Text.isAsciiDigit
  let rest := cs.drop digits.length
  let second? : Option Nat :=
    match rest with
    | [] => some 0
    | ['.', a, b] => if Text.isAsciiDigit a && Text.isAsciiDigit b then some (Number.digitsValue [a, b]) else none
    | _ => none
  let yearDigits := digits.take (digits.length - 8)
  let part (n : Nat) : Int := Number.digitsValue (((digits.drop yearDigits.length).drop (2 * n)).take 2)
  let year? : Option Int :=
    match yearDigits.length with
    | 0 => some (dateOf now.dayNumber).1
    | 2 => some (yearOf (Number.digitsValue yearDigits) 2)
    | 4 => some (Number.digitsValue yearDigits)
    | _ => none
  match second?, year? with
  | some second, some year =>
    let month := part 0
    let day := part 1
    if digits.length < 8 || month < 1 || 12 < month || day < 1 || daysIn year month < day || 23 < part 2 ||
        59 < part 3 || 60 < second then none
    else some ⟨Calendar.dayNumber year month day, ((part 2 * 60 + part 3) * 60 + second) * secondNanos⟩
  | _, _ => none

end ElmAssay.Machine.Moment
