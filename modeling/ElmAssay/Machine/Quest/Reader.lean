import ElmAssay.Machine.Calendar.Reader
import ElmAssay.Machine.Quest
import ElmAssay.Machine.Regex.Reader

/-!
# Reading what is asked

The expression of a search is written by words, each of which is a test, an action, an operator or a setting. Words are read
to tokens, for some of which the system is asked, and the tokens are put together by their precedence (`Quest.read`).
-/

namespace ElmAssay.Machine.Quest

open Text Work

/-- How a search goes through directories. -/
structure Walk where
  least : Nat
  most : Option Nat
  /-- Whether a directory comes after what is in it. -/
  isUpward : Bool
  /-- Whether links are followed. -/
  follows : Bool

/-- A token of an expression. -/
inductive Token
  | quest (q : Quest)
  | negation (spelled : Octets)
  | both (spelled : Octets)
  | either (spelled : Octets)
  | sequence
  | opens
  | closes

/-- What holds for a search as a whole: how it goes, the dialect of expressions, and the time when it started. -/
structure Setting where
  walk : Walk
  dialect : Octets
  now : Int

/-- Stops because an option has no argument. -/
def stopForWant {α : Type} (name : Octets) : Work α := Work.fail 1 s!"missing argument to \x60{name}'"

/-- A number with a sign in front that says how to compare. -/
def amount? (s : List Char) : Option Amount :=
  let (order, digits) : Ordering × List Char :=
    match s with
    | '+' :: cs => (.gt, cs)
    | '-' :: cs => (.lt, cs)
    | cs => (.eq, cs)
  if digits.isEmpty || !digits.all isAsciiDigit then none else some ⟨order, Number.digitsValue digits⟩

/-- The size that a text asks for. -/
def sizeOf? (s : List Char) : Option Quest :=
  let unit? : Char → Option Nat
    | 'c' => some 1
    | 'w' => some 2
    | 'b' => some 512
    | 'k' => some 1024
    | 'M' => some (1024 ^ 2)
    | 'G' => some (1024 ^ 3)
    | _ => none
  match s.getLast? with
  | none => none
  | some c =>
    if isAsciiDigit c then (amount? s).map (.size · 512)
    else do return .size (← amount? s.dropLast) (← unit? c)

/-- The rights that a text asks for. -/
def rightsOf? (s : List Char) : Option Quest :=
  let (mark, digits) :=
    match s with
    | '-' :: cs => (some '-', cs)
    | '/' :: cs => (some '/', cs)
    | cs => (none, cs)
  let octal := !digits.isEmpty && digits.all (Numeral.isDigitIn 8)
  if octal then
    let n := Numeral.valueIn 8 digits
    if Rights.all < n then none else some (.rights mark n n)
  else if mark.isNone && digits.head? == some '+' then none
  else
    (Rights.read? (String.ofList digits)).map fun changes =>
      .rights mark (Rights.after changes false 0 0) (Rights.after changes true 0 0)

/-- The arguments of a program up to the end of its command, and whether it runs for many files at once. -/
def takeCommand (mayGather : Bool) : List Octets → List Octets → Option (List Octets × Bool × List Octets)
  | _, [] => none
  | command, a :: rest =>
    if a = ";" then some (command.reverse, false, rest)
    else if mayGather && a = "+" && command.head? == some "\x7b\x7d" then some (command.reverse, true, rest)
    else takeCommand mayGather (a :: command) rest

/-- The argument before a plus sign that holds a place for a file among other characters, if a command ends so. -/
def mixedPlace? : List Octets → Option Octets
  | a :: "+" :: rest => if 1 < (a.splitOn "\x7b\x7d").length && a != "\x7b\x7d" then some a else mixedPlace? rest
  | _ :: rest => mixedPlace? rest
  | [] => none

/-- Reads the command of a program. -/
def readCommand (name : Octets) (id : Nat) (rest : List Octets) : Work (Token × List Octets) := do
  match takeCommand (name == "-exec" || name == "-execdir") [] rest with
  | none =>
    if let some a := mixedPlace? rest then
      let shown := Shown.marked s!"{name} ... \x7b\x7d +"
      let place := Shown.marked "\x7b\x7d"
      let given := Shown.marked a
      Work.fail 1 s!"In {shown} the {place} must appear by itself, but you specified {given}"
    stopForWant name
  | some (command, isMany, rest) =>
    if command.isEmpty then Work.fail 1 s!"invalid argument \x60;' to \x60{name}'"
    if isMany then
      if 1 < (command.filter (· == "\x7b\x7d")).length then
        Work.fail 1 s!"Only one instance of \x7b\x7d is supported with {name} ... +"
      return (.quest (.gather id command.dropLast), rest)
    else return (.quest (.run command (name.endsWith "dir") (name.startsWith "-ok")), rest)

/-- The words of an expression that stand for themselves. -/
def plainToken? (a : Octets) : Option Token :=
  match a with
  | "(" => some .opens
  | ")" => some .closes
  | "!" => some (.negation a)
  | "-not" => some (.negation a)
  | "-a" => some (.both a)
  | "-and" => some (.both a)
  | "-o" => some (.either a)
  | "-or" => some (.either a)
  | "," => some .sequence
  | "-true" => some (.quest (.always true))
  | "-false" => some (.quest (.always false))
  | "-empty" => some (.quest .empty)
  | "-executable" => some (.quest .runnable)
  | "-readable" => some (.quest (.always true))
  | "-writable" => some (.quest (.always true))
  | "-nouser" => some (.quest (.always false))
  | "-nogroup" => some (.quest (.always false))
  | "-print" => some (.quest (.print 1 "\n"))
  | "-print0" => some (.quest (.print 1 "\x00"))
  | "-ls" => some (.quest (.listed 1))
  | "-delete" => some (.quest .delete)
  | "-prune" => some (.quest .prune)
  | "-quit" => some (.quest .quit)
  | _ => none

/-- The words of an expression that make no difference to it. -/
def idleWords : List Octets :=
  ["-depth", "-d", "-mount", "-xdev", "-noleaf", "-daystart", "-warn", "-nowarn", "-ignore_readdir_race",
   "-noignore_readdir_race"]

/-- A message about an argument that a word cannot have. -/
def refused (name argument : Octets) : Octets := s!"invalid argument \x60{argument}' to \x60{name}'"

/-- The names of dialects. -/
def dialects : List Octets :=
  ["findutils-default", "ed", "emacs", "gnu-awk", "grep", "posix-awk", "awk", "posix-basic", "posix-egrep", "egrep",
   "posix-extended", "posix-minimal-basic", "sed"]

/-- The regular expression that a text is in a dialect. -/
def regexOf (dialect argument : Octets) : Except Regex.Malformed Regex :=
  let cs := Octets.widen argument
  if dialect = "findutils-default" ∨ dialect = "emacs" then Regex.read ⟨false, false⟩ (Regex.withBackslashes cs)
  else Regex.read ⟨["posix-extended", "posix-egrep", "egrep", "awk", "posix-awk", "gnu-awk"].contains dialect, false⟩ cs

/-- The kinds that an argument asks for. -/
def kindsOf (name argument : Octets) : Except Octets (List Char) :=
  if argument.isEmpty then .error s!"Arguments to {name} should contain at least one letter"
  else
    (Text.cut ',' argument.toList).foldl (fun done part =>
      done.bind fun letters =>
        match part with
        | [] => .error s!"Last file type in list argument to {name} is missing, i.e., list is ending on: ','"
        | c :: rest =>
          if !(['b', 'c', 'd', 'p', 'f', 'l', 's', 'D'].contains c) then .error s!"Unknown argument to {name}: {c}"
          else if !rest.isEmpty then .error s!"Must separate multiple arguments to {name} using: ','"
          else .ok (letters ++ [c])) (.ok [])

/-- The test that a word and its argument make, or a message if the argument is wrong; `none` if there is no such
word. -/
def testOf? (dialect name argument : Octets) : Option (Except Octets Quest) :=
  let cs := argument.toList
  let folded := Wildcard.ofText (cs.map Char.toLower)
  let regex (ignoresCase : Bool) : Except Octets Quest :=
    match regexOf dialect argument with
    | .ok r => .ok (.regex r ignoresCase)
    | .error e => .error s!"failed to compile regular expression '{argument}': {e.message}"
  let invalid (q : Option Quest) : Except Octets Quest := q.elim (.error (refused name argument)) .ok
  let who (what : Octets) : Except Octets Quest :=
    let shown := Shown.marked argument
    if argument = "root" then .ok (.always true)
    else if !argument.isEmpty && cs.all isAsciiDigit then .ok (.always (Number.digitsValue cs == 0))
    else .error s!"{shown} is not the name of {what}"
  match name with
  | "-name" => some (.ok (.name (Wildcard.ofText cs) false))
  | "-iname" => some (.ok (.name folded true))
  | "-path" => some (.ok (.path (Wildcard.ofText cs) false))
  | "-wholename" => some (.ok (.path (Wildcard.ofText cs) false))
  | "-ipath" => some (.ok (.path folded true))
  | "-iwholename" => some (.ok (.path folded true))
  | "-lname" => some (.ok (.linkText (Wildcard.ofText cs) false))
  | "-ilname" => some (.ok (.linkText folded true))
  | "-regex" => some (regex false)
  | "-iregex" => some (regex true)
  | "-type" => some ((kindsOf name argument).map .kind)
  | "-xtype" => some ((kindsOf name argument).map .targetKind)
  | "-size" => some <|
    match sizeOf? cs with
    | some q => .ok q
    | none =>
      if cs.getLast?.any fun c => !isAsciiDigit c then
        let last := String.ofList (cs.getLast?.toList)
        .error s!"invalid -size type \x60{last}'"
      else .error s!"Invalid argument \x60{argument}' to -size"
  | "-perm" => some <|
    match rightsOf? cs with
    | some q => .ok q
    | none =>
      let shown := Shown.marked argument
      .error s!"invalid mode {shown}"
  | "-links" => some (invalid ((amount? cs).map .links))
  | "-inum" => some (invalid ((amount? cs).map .serial))
  | "-user" => some (who "a known user")
  | "-group" => some (who "an existing group")
  | "-uid" => some (invalid ((amount? cs).map fun a => .always (a.has 0)))
  | "-gid" => some (invalid ((amount? cs).map fun a => .always (a.has 0)))
  | "-fstype" => some (.ok (.always (argument == "overlay")))
  | name =>
    if ["-mtime", "-atime", "-ctime"].contains name then
      some (invalid ((amount? cs).map fun a => .age a Moment.dayNanos))
    else if ["-mmin", "-amin", "-cmin"].contains name then
      some (invalid ((amount? cs).map fun a => .age a (60 * Moment.secondNanos)))
    else none

/-- Whether a word compares times with those of a file or with a moment. -/
def isComparison (name : Octets) : Bool :=
  name == "-newer" || name == "-anewer" || name == "-cnewer" ||
    (name.startsWith "-newer" && name.length = 8 &&
      match name.toList.drop 6 with
      | [x, y] => ['a', 'B', 'c', 'm'].contains x && ['a', 'B', 'c', 'm', 't'].contains y
      | _ => false)

/-- The test that compares times. -/
def comparisonOf (setting : Setting) (name argument : Octets) : Work Quest := do
  let shown := Shown.marked argument
  if name.startsWith "-newer" && name.endsWith "t" then
    match Moment.read? (Moment.ofNanos setting.now) argument with
    | some m => return .newer m.toNanos
    | none => Work.fail 1 s!"I cannot figure out how to interpret {shown} as a date or time"
  else
    match ← ask (.info argument setting.walk.follows) with
    | .ok i => return .newer i.changed
    | .error r => Work.fail 1 s!"{shown}: {r.wording}"

/-- Tells of what is not known in a format; an end in the middle stops all. -/
def checkFormat (format : Octets) : Work Unit := do
  for (what, c) in Spot.defects (format.length + 1) format.toList do
    match what with
    | "end" => Work.fail 1 "error: % at end of format string"
    | "directive" => warn s!"warning: unrecognized format directive \x60%{c}'"
    | _ => warn s!"warning: unrecognized escape \x60\\{c}'"

/-- The number of the open file that an action writes to. -/
def openOutput (path : Octets) : Work Nat := do
  if path = "/dev/stdout" then return 1
  if path = "/dev/stderr" then return 2
  match ← ask (.openFile path .writing) with
  | .ok file => return file
  | .error r =>
    let shown := Shown.marked path
    Work.fail 1 s!"{shown}: {r.wording}"

/-- Reads how deep a search goes. -/
def readDepth (name argument : Octets) : Work Nat := do
  match Numeral.plain? argument with
  | some n => return n
  | none =>
    let shown := Shown.marked argument
    Work.fail 1 s!"Expected a positive decimal integer argument to {name}, but got {shown}"

/-- A word with arguments that is no test, with what follows it; `none` if there is no such word. -/
def readSetting (setting : Setting) (id : Nat) (name : Octets) (rest : List Octets) :
    Work (Option (Setting × Token × List Octets)) := do
  let idle : Token := .quest (.always true)
  if ["-exec", "-execdir", "-ok", "-okdir"].contains name then
    let (t, rest) ← readCommand name id rest
    return some (setting, t, rest)
  else if ["-maxdepth", "-mindepth", "-regextype", "-samefile", "-printf", "-fprint", "-fprint0", "-fprintf", "-fls"].contains
      name || isComparison name then
    match name, rest with
    | _, [] => stopForWant name
    | "-maxdepth", argument :: rest =>
      let n ← readDepth name argument
      return some ({ setting with walk := { setting.walk with most := some n } }, idle, rest)
    | "-mindepth", argument :: rest =>
      let n ← readDepth name argument
      return some ({ setting with walk := { setting.walk with least := n } }, idle, rest)
    | "-regextype", argument :: rest =>
      if !dialects.contains argument then
        let shown := Shown.marked argument
        let all := ", ".intercalate (dialects.map Shown.marked)
        Work.fail 1 s!"Unknown regular expression type {shown}; valid types are {all}."
      return some ({ setting with dialect := argument }, idle, rest)
    | "-samefile", argument :: rest =>
      match ← ask (.info argument setting.walk.follows) with
      | .ok i => return some (setting, .quest (.same i.serial), rest)
      | .error r =>
        let shown := Shown.marked argument
        Work.fail 1 s!"{shown}: {r.wording}"
    | "-printf", format :: rest =>
      checkFormat format
      return some (setting, .quest (.printed 1 format), rest)
    | "-fprint", output :: rest => return some (setting, .quest (.print (← openOutput output) "\n"), rest)
    | "-fprint0", output :: rest => return some (setting, .quest (.print (← openOutput output) "\x00"), rest)
    | "-fls", output :: rest => return some (setting, .quest (.listed (← openOutput output)), rest)
    | "-fprintf", [_] => stopForWant name
    | "-fprintf", output :: format :: rest =>
      let file ← openOutput output
      checkFormat format
      return some (setting, .quest (.printed file format), rest)
    | _, argument :: rest => return some (setting, .quest (← comparisonOf setting name argument), rest)
  else return none

/-- Reads the tokens of an expression. The fuel bounds their count. -/
def readTokens : Nat → Setting → List Octets → List Token → Work (Setting × List Token)
  | 0, setting, _, tokens => return (setting, tokens.reverse)
  | _, setting, [], tokens => return (setting, tokens.reverse)
  | fuel + 1, setting, a :: rest, tokens => do
    let upward (isUpward : Bool) : Setting :=
      { setting with walk := { setting.walk with isUpward := setting.walk.isUpward || isUpward } }
    match plainToken? a with
    | some t => readTokens fuel (upward (a == "-delete")) rest (t :: tokens)
    | none =>
      if a.toList.head? != some '-' || a = "-" then Work.fail 1 s!"paths must precede expression: \x60{a}'"
      else if a = "-follow" then
        readTokens fuel { setting with walk := { setting.walk with follows := true } } rest (.quest (.always true) :: tokens)
      else if idleWords.contains a then
        readTokens fuel (upward (a == "-depth" || a == "-d")) rest (.quest (.always true) :: tokens)
      else
        match ← readSetting setting fuel a rest with
        | some (setting, t, rest) => readTokens fuel setting rest (t :: tokens)
        | none =>
          match rest with
          | [] =>
            if (testOf? setting.dialect a "1").isSome then stopForWant a
            else if a.startsWith "-newer" then Work.fail 1 s!"invalid predicate \x60{a}'"
            else Work.fail 1 s!"unknown predicate \x60{a}'"
          | argument :: rest =>
            match testOf? setting.dialect a argument with
            | none =>
              if a.startsWith "-newer" then Work.fail 1 s!"invalid predicate \x60{a}'"
              else Work.fail 1 s!"unknown predicate \x60{a}'"
            | some (.error message) => Work.fail 1 message
            | some (.ok q) => readTokens fuel setting rest (.quest q :: tokens)

/-- The levels of an expression, from the weakest operator on. -/
inductive Level
  | sequence
  | either
  | both
  | single

/-- A step of reading tokens. -/
abbrev Reading (α : Type) := StateT (List Token) Work α

/-- Stops. -/
def misread {α : Type} (message : Octets) : Reading α := Work.fail (α := α) 1 message

/-- How a binary operator is spelled. -/
def Token.spelled? : Token → Option Octets
  | both s => some s
  | either s => some s
  | sequence => some ","
  | _ => none

/-- Stops if nothing stands behind an operator. -/
def demandAfter (spelled : Octets) : Reading Unit := do
  match ← get with
  | [] => misread s!"expected an expression after '{spelled}'"
  | _ => return

/-- Reads parts with an operator between them, after the first one. The fuel bounds their count. -/
def readParts (part : Reading Quest) (operator? : Token → Option (Bool × Octets)) (join : Quest → Quest → Quest) :
    Nat → Quest → Reading Quest
  | 0, q => return q
  | fuel + 1, q => do
    match (← get).head?.bind operator? with
    | none => return q
    | some (isSpelled, spelled) =>
      if isSpelled then
        modify (·.drop 1)
        demandAfter spelled
      readParts part operator? join fuel (join q (← part))

/-- One step of reading, given the readers for what is inside. -/
def rules (self : Level → Reading Quest) : Level → Reading Quest
  | .sequence => do
    let operator? : Token → Option (Bool × Octets)
      | .sequence => some (true, ",")
      | _ => none
    readParts (self .either) operator? .sequence ((← get).length + 1) (← self .either)
  | .either => do
    let operator? : Token → Option (Bool × Octets)
      | .either s => some (true, s)
      | _ => none
    readParts (self .both) operator? .either ((← get).length + 1) (← self .both)
  | .both => do
    let operator? : Token → Option (Bool × Octets)
      | .both s => some (true, s)
      | .quest _ => some (false, "")
      | .negation _ => some (false, "")
      | .opens => some (false, "")
      | _ => none
    readParts (self .single) operator? .both ((← get).length + 1) (← self .single)
  | .single => do
    match ← get with
    | .quest q :: rest =>
      set rest
      return q
    | .negation spelled :: rest =>
      set rest
      demandAfter spelled
      return .not (← self .single)
    | .opens :: .closes :: _ => misread "invalid expression; empty parentheses are not allowed."
    | .opens :: rest =>
      set rest
      let missing := "invalid expression; I was expecting to find a ')' somewhere but did not see one."
      if rest.isEmpty then misread missing
      let q ← self .sequence
      match ← get with
      | .closes :: rest =>
        set rest
        return q
      | _ => misread missing
    | .closes :: _ => misread "invalid expression; you have too many ')'"
    | t :: _ =>
      let spelled := t.spelled?.getD ""
      misread s!"invalid expression; you have used a binary operator '{spelled}' with nothing before it."
    | [] => return .always true

/-- The readers. The fuel bounds how deep expressions stand in each other. -/
def rule : Nat → Level → Reading Quest
  | 0, _ => misread "expression too deep"
  | fuel + 1, l => rules (rule fuel) l

/-- The expression that tokens make. -/
def read (tokens : List Token) : Work Quest := do
  if tokens.isEmpty then return .print 1 "\n"
  let (q, rest) ← (rule (6 * tokens.length + 6) .sequence).run tokens
  if !rest.isEmpty then Work.fail 1 "you have too many ')'"
  return if q.acts then q else .both q (.print 1 "\n")

/-- Whether an argument starts an expression. -/
def startsExpression (a : Octets) : Bool :=
  match a.toList with
  | '-' :: _ :: _ => true
  | ['!'] => true
  | ['('] => true
  | _ => false


end ElmAssay.Machine.Quest
