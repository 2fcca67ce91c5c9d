import ElmAssay.Machine.Ground
import ElmAssay.Machine.Rules.Course
import ElmAssay.Machine.Rules.Reader
import ElmAssay.Machine.Utility.Basic

/-!
# Rules for records

The program that runs programs of rules (`awk`). Its arguments are options, then the text of the program unless an option
names files that hold it, and then the files with the records. Options may set the separator of the fields and give values
to variables (`Ruling.Order`).
-/

namespace ElmAssay.Machine.Utility

open Work

namespace Ruling

/-- What is done in front of a program. -/
inductive Setting
  | separator (text : Octets)
  | binding (name value : Octets)
  deriving DecidableEq, Repr

/-- What the arguments ask for. -/
structure Order where
  settings : List Setting
  /-- The files that hold the program. -/
  files : List Octets
  /-- The arguments behind the options. -/
  operands : List Octets
  deriving DecidableEq, Repr

/-- Lines as a text. -/
def textOfLines (ls : List String) : Octets := String.join (ls.map (· ++ "\n"))

/-- How the program is used. -/
def usage : List String :=
  ["Usage: mawk [Options] [Program] [file ...]",
   "",
   "Program:",
   "    The -f option value is the name of a file containing program text.",
   "    If no -f option is given, a \"--\" ends option processing; the following",
   "    parameters are the program text.",
   "",
   "Options:",
   "    -f program-file  Program  text is read from file instead of from the",
   "                     command-line.  Multiple -f options are accepted.",
   "    -F value         sets the field separator, FS, to value.",
   "    -v var=value     assigns value to program variable var.",
   "    --               unambiguous end of options.",
   "",
   "    Implementation-specific options are prefixed with \"-W\".  They can be",
   "    abbreviated:",
   "",
   "    -W version       show version information and exit.",
   "    -W dump          show assembler-like listing of program and exit.",
   "    -W help          show this message and exit.",
   "    -W interactive   set unbuffered output, line-buffered input.",
   "    -W exec file     use file as program as well as last option.",
   "    -W posix_space   do not consider \"\\n\" a space.",
   "    -W random=number set initial random seed.",
   "    -W sprintf=number adjust size of sprintf buffer.",
   "    -W usage         show this message and exit."]

/-- What the version is. -/
def version : List String :=
  ["mawk 1.3.4 20200120",
   "",
   "random-funcs:       srandom/random",
   "regex-funcs:        internal",
   "compiled limits:",
   "sprintf buffer      8192",
   "maximum-integer     2147483647"]

/-- The options with names. -/
inductive Special
  | version
  | help
  | exec
  | other
  deriving DecidableEq, Repr

/-- The options with names by these, which may be cut short. -/
def specials : List (String × Special) :=
  [("BINMODE", .other), ("DUMP", .other), ("EXEC", .exec), ("HELP", .help), ("INTERACTIVE", .other), ("POSIX_SPACE", .other),
   ("RANDOM", .other), ("SPRINTF", .other), ("USAGE", .help), ("VERSION", .version)]

/-- The option that a name stands for. -/
def special? (text : Octets) : Option Special :=
  let name := (text.toList.takeWhile (· != '=')).map Char.toUpper
  (specials.find? fun s => !name.isEmpty && name.isPrefixOf s.1.toList).map Prod.snd

/-- Reads the arguments. The answer is `none` if they only ask for a text, which is shown. The fuel bounds their count. -/
def readOrder : Nat → Order → List Octets → Work (Option Order)
  | 0, o, rest => return some { o with operands := rest }
  | fuel + 1, o, arguments => do
    match arguments with
    | [] => return some o
    | a :: rest =>
      let named (text : Octets) (refusal : Work (Option Order)) (rest : List Octets) : Work (Option Order) := do
        match special? text, rest with
        | some .version, _ =>
          put (textOfLines version)
          return none
        | some .help, _ =>
          put (textOfLines usage)
          return none
        | some .exec, file :: rest => return some { o with files := o.files ++ [file], operands := rest }
        | some _, rest => readOrder fuel o rest
        | none, _ => refusal
      let unknown : Work (Option Order) := Work.fail 2 s!"not an option: {a}"
      let lettered (letter : Char) (value : Octets) (rest : List Octets) : Work (Option Order) := do
        match letter with
        | 'F' =>
          let text := String.ofList (Rules.unescaped value.toList)
          match Rules.Separator.read text with
          | .ok _ => readOrder fuel { o with settings := o.settings ++ [.separator text] } rest
          | .error d => Work.fail 2 s!"line 0: regular expression compile failed ({d.message})\n{text}"
        | 'v' =>
          match Rules.Run.bindingOf? value with
          | some (name, value) => readOrder fuel { o with settings := o.settings ++ [.binding name value] } rest
          | none => Work.fail 2 s!"improper assignment: -v {value}"
        | 'f' => readOrder fuel { o with files := o.files ++ [value] } rest
        | 'W' =>
          let refusal : Work (Option Order) := do
            warn s!"vacuous option: -W \"{value}\""
            readOrder fuel o rest
          named value refusal rest
        | _ => unknown
      match a.toList with
      | ['-'] => return some { o with operands := arguments }
      | ['-', '-'] => return some { o with operands := rest }
      | '-' :: '-' :: name => named (String.ofList name) unknown rest
      | ['-', letter] =>
        match rest with
        | value :: rest => lettered letter value rest
        | [] =>
          if ['W', 'F', 'v', 'f'].contains letter then Work.fail 2 s!"option {a} lacks argument" else unknown
      | '-' :: letter :: value => lettered letter (String.ofList value) rest
      | _ => return some { o with operands := arguments }

/-- The text of a program in files. -/
def readFiles : List Octets → Work Octets
  | [] => return ""
  | path :: rest => do
    match ← lift (if path = "-" || path = "/dev/stdin" then Routine.readAll 0 else Routine.readFile path) with
    | .ok text => return (if rest.isEmpty then text else text ++ "\n") ++ (← readFiles rest)
    | .error .isDirectory => Work.fail 2 s!"read error ({Refusal.isDirectory.wording})"
    | .error r => Work.fail 2 s!"cannot open \"{path}\" ({r.wording})"

/-- The table in which the values of some names are. -/
def tableOf (pairs : List (Rules.Key × Octets)) : Rules.Associations :=
  pairs.foldl (fun a p => a.set p.1 (.entry p.2)) .empty

/-- Gives the variables that every program has their first values. -/
def prepare (call : Invocation) (operands : List Octets) : Rules.Run Unit := do
  let arguments := (call.name :: operands).zipIdx.map fun (s, i) => (Rules.Key.number i, s)
  let environment := call.environment.map fun (name, value) => (Rules.Key.text name, value)
  let give (u : Rules.Usual) (v : Rules.Value) : Rules.Run Unit := modify fun s => s.withUsual u v
  give .records (.number 0)
  give .fileRecords (.number 0)
  give .fieldSeparator (.text " ")
  give .fieldJoint (.text " ")
  give .recordJoint (.text "\n")
  give .recordSeparator (.text "\n")
  give .subscriptJoint (.text "\x1c")
  give .numberText (.text "%.6g")
  give .numberOutput (.text "%.6g")
  give .argumentCount (.number (Float.ofNat arguments.length))
  Rules.Run.onTable (.shared Rules.Usual.arguments.place) fun _ => ((), tableOf arguments)
  Rules.Run.onTable (.shared Rules.Usual.environment.place) fun _ => ((), tableOf environment)

/-- Carries out what is done in front of a program. -/
def settle : Setting → Rules.Run Unit
  | .separator text => Rules.Run.setVariable (.shared Rules.Usual.fieldSeparator.place) (.text text)
  | .binding name value => Rules.Run.bind name value

end Ruling

/-- Runs a program of rules. -/
def awk : Utility := fun ev call => do
  let call := { call with name := Ground.lastPart call.name }
  if call.arguments.isEmpty then
    Routine.protest (Ruling.textOfLines Ruling.usage)
    return 0
  else
    complete call.name do
      match ← Ruling.readOrder (call.arguments.length + 1) ⟨[], [], []⟩ call.arguments with
      | none => return
      | some o =>
        let (file, text?, operands) ←
          match o.files, o.operands with
          | [], ["-"] => pure (none, none, [])
          | [], text :: operands => pure (none, some text, operands)
          | [], [] => pure (none, none, [])
          | files, operands => do pure (files.getLast?, some (← Ruling.readFiles files), operands)
        match text? with
        | none => return
        | some text =>
          match Rules.read (": ".intercalate (call.name :: file.toList)) text with
          | .error messages =>
            for m in messages do
              say (m ++ "\n")
            quit 2
          | .ok p =>
            let preparation : Rules.Run Unit := do
              Ruling.prepare call operands
              for s in o.settings do
                Ruling.settle s
            flush
            setStatus (← lift (Rules.Run.status p preparation (Rules.State.start p ev call)))

end ElmAssay.Machine.Utility
