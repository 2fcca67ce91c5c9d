import ElmAssay.Machine.Shell.State

/-!
# The options of commands and of the shell

How the arguments of a builtin command part into options and the rest (`readOptions`), and how those of the shell itself
are set, by letter or by name (`readSettings`).
-/

namespace ElmAssay.Machine.Shell

/-- An option with its argument, if it takes one. -/
abbrev Chosen := List (Char × Octets)

/-- The options that one argument spells. `known` says which letters there are and whether they take an argument; `rest`
are the arguments behind. -/
def readLetters (known : List (Char × Bool)) : List Char → List Octets → Shell (Chosen × List Octets)
  | [], rest => return ([], rest)
  | c :: cs, rest => do
    match known.lookup c with
    | none => fail s!"Illegal option -{c}"
    | some false =>
      let (more, rest) ← readLetters known cs rest
      return ((c, "") :: more, rest)
    | some true =>
      if !cs.isEmpty then return ([(c, String.ofList cs)], rest)
      else
        match rest with
        | a :: rest => return ([(c, a)], rest)
        | [] => fail s!"No arg for -{c} option"

/-- The options at the front of arguments, and the arguments behind them. The fuel bounds their count. -/
def readOptionsFrom (known : List (Char × Bool)) : Nat → List Octets → Shell (Chosen × List Octets)
  | 0, arguments => return ([], arguments)
  | _, [] => return ([], [])
  | fuel + 1, a :: rest => do
    match a.toList with
    | ['-', '-'] => return ([], rest)
    | '-' :: c :: cs =>
      let (first, rest) ← readLetters known (c :: cs) rest
      let (more, rest) ← readOptionsFrom known fuel rest
      return (first ++ more, rest)
    | _ => return ([], a :: rest)

/-- The options at the front of arguments, and the arguments behind them. -/
def readOptions (known : List (Char × Bool)) (arguments : List Octets) : Shell (Chosen × List Octets) :=
  readOptionsFrom known (arguments.length + 1) arguments

/-- A natural number that an argument has to be. -/
def numberOf (argument : Octets) : Shell Nat := do
  match Numeral.plain? argument with
  | some n => return n
  | none => fail s!"Illegal number: {argument}"

/-! ## Options of the shell -/

namespace Options

/-- The names of the options with their letters. -/
def names : List (String × Char) :=
  [("errexit", 'e'), ("noglob", 'f'), ("ignoreeof", 'I'), ("interactive", 'i'), ("monitor", 'm'), ("noexec", 'n'),
   ("stdin", 's'), ("xtrace", 'x'), ("verbose", 'v'), ("vi", 'V'), ("emacs", 'E'), ("noclobber", 'C'),
   ("allexport", 'a'), ("notify", 'b'), ("nounset", 'u'), ("privileged", 'p'), ("nolog", '0'), ("debug", '1')]

/-- Whether an option is set. -/
def isSet (o : Options) (letter : Char) : Bool :=
  match letter with
  | 'e' => o.stopsOnFailure
  | 'u' => o.needsValues
  | 'x' => o.traces
  | 'f' => o.keepsPatterns
  | 'n' => o.onlyReads
  | 'a' => o.exportsAll
  | 'C' => o.protectsFiles
  | 'v' => o.verbose
  | 's' => o.readsInput
  | _ => false

/-- The options with one of them set or not. -/
def withOption (o : Options) (letter : Char) (value : Bool) : Options :=
  match letter with
  | 'e' => { o with stopsOnFailure := value }
  | 'u' => { o with needsValues := value }
  | 'x' => { o with traces := value }
  | 'f' => { o with keepsPatterns := value }
  | 'n' => { o with onlyReads := value }
  | 'a' => { o with exportsAll := value }
  | 'C' => { o with protectsFiles := value }
  | 'v' => { o with verbose := value }
  | 's' => { o with readsInput := value }
  | _ => o

/-- The list of the options, in words or as commands that set them. -/
def listed (o : Options) (inWords : Bool) : Octets :=
  let line (p : String × Char) : Octets :=
    let (name, letter) := p
    if inWords then Numeral.padRight ' ' 16 name ++ (if o.isSet letter then "on" else "off") ++ "\n"
    else "set " ++ (if o.isSet letter then "-" else "+") ++ s!"o {name}\n"
  (if inWords then "Current option settings\n" else "") ++ String.join (names.map line)

end Options

/-- What options say apart from those that are only set: whether a script is given as text, and whether there was a mark
that no options follow. -/
structure Settings where
  isCommand : Bool
  isMarked : Bool
  rest : List Octets

/-- Sets an option. -/
def setOption (letter : Char) (value : Bool) : Shell Unit := do
  if letter.isAlpha && Options.names.any (·.2 == letter) then
    modify fun s => { s with options := s.options.withOption letter value }
  else fail s!"Illegal option -{letter}"

/-- Sets an option by its name, or tells about all of them if there is no name. -/
def setNamed (value : Bool) (arguments : List Octets) : Shell (List Octets) := do
  match arguments with
  | [] =>
    lift (Routine.emit ((← get).options.listed value))
    return []
  | name :: rest =>
    match Options.names.lookup name with
    | some letter =>
      modify fun s => { s with options := s.options.withOption letter value }
      return rest
    | none => fail s!"Illegal option -o {name}"

/-- Sets the options that one argument spells; `atStart` says whether the shell starts. The answer is whether a script is
given as text, and the arguments behind. -/
def readSettingLetters (atStart value : Bool) : List Char → List Octets → Shell (Bool × List Octets)
  | [], rest => return (false, rest)
  | c :: cs, rest => do
    if atStart && c == 'c' then
      let (_, rest) ← readSettingLetters atStart value cs rest
      return (true, rest)
    else if atStart && c == 'l' then readSettingLetters atStart value cs rest
    else if c = 'o' then readSettingLetters atStart value cs (← setNamed value rest)
    else
      setOption c value
      readSettingLetters atStart value cs rest

/-- Sets the options at the front of arguments. The fuel bounds their count. -/
def readSettingsFrom (atStart : Bool) : Nat → List Octets → Shell Settings
  | 0, arguments => return ⟨false, false, arguments⟩
  | _, [] => return ⟨false, false, []⟩
  | fuel + 1, a :: rest => do
    let go (value : Bool) (cs : List Char) : Shell Settings := do
      let (isCommand, rest) ← readSettingLetters atStart value cs rest
      let more ← readSettingsFrom atStart fuel rest
      return { more with isCommand := isCommand || more.isCommand }
    match a.toList with
    | ['-'] =>
      if !atStart then modify fun s => { s with options := { s.options with traces := false, verbose := false } }
      return ⟨false, false, rest⟩
    | ['-', '-'] => return ⟨false, true, rest⟩
    | '-' :: cs => go true cs
    | '+' :: cs => go false cs
    | _ => return ⟨false, false, a :: rest⟩

/-- Sets the options at the front of arguments. -/
def readSettings (atStart : Bool) (arguments : List Octets) : Shell Settings :=
  readSettingsFrom atStart (arguments.length + 1) arguments

end ElmAssay.Machine.Shell
