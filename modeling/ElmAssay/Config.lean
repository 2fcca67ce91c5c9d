import ElmAssay.Elm.Name
import ElmAssay.Failure
import ElmAssay.Text.Classes
import ElmAssay.Text.Upper

/-!
# Settings

The settings of the engine (`Config`) are accepted only if the programs and the workspace directory are not blank, the
time limit is not below zero, and the private module has the name of a module (`Config.accept`). They can be read from
environment variables (`Config.ofEnvironment`), where one that is not set has its default.
-/

namespace ElmAssay

/-- The settings of the engine. -/
structure Config where
  compiler : String := "elm"
  testRunner : String := "elm-test"
  formatter : String := "elm-format"
  workspaceDirectory : String := "elm-stuff/elm-ai"
  privateModule : String := "ElmAiCandidate"
  discardTarget : String := "/dev/null"
  timeout : Seconds := .real (.ofDecimal false 120 0)
  strictHeader : Bool := true
  backend : String := "subprocess"
  logLevel : String := "INFO"
  deriving DecidableEq

namespace Config

open Text

/-- Whether a text is empty or all white space. -/
def isBlankText (s : String) : Bool := allBlank s.toList

/-- The settings that must not be blank, by name, in the order in which they are checked. -/
def required (c : Config) : List (String × String) :=
  [("compiler", c.compiler), ("test_runner", c.testRunner), ("formatter", c.formatter),
   ("workspace_dir", c.workspaceDirectory)]

/-- The settings as they are, or why they are refused. -/
def accept (c : Config) : Except Failure Config :=
  match c.required.find? fun s => isBlankText s.2 with
  | some s => .error (.blankSetting s.1)
  | none =>
    if c.timeout.isBelowZero then .error (.negativeTimeout c.timeout)
    else if Elm.isModuleName c.privateModule.toList then .ok c
    else .error (.badPrivateModule c.privateModule)

/-- The time limit, where zero is none. -/
def limit (c : Config) : Option Seconds := c.timeout.limit

/-- Variables and their values. -/
abbrev Environment := String → Option String

/-- The words that mean yes, in any case. -/
def yesWords : List String := ["1", "true", "yes", "on"]

/-- The truth value of a variable. Words compare by their letters of the first 128 code points: no other letter has one
of the letters of these words as its small letter. -/
def flag (env : Environment) (variableName : String) (default : Bool) : Bool :=
  match env variableName with
  | none => default
  | some raw => yesWords.contains (String.ofList (lowerAscii (strip raw.toList)))

/-- The number of a variable, where a blank one has its default. -/
def seconds (env : Environment) (variableName : String) (default : Seconds) : Except Failure Seconds :=
  match env variableName with
  | none => .ok default
  | some raw =>
    if isBlankText raw then .ok default
    else
      match Number.readReal raw.toList with
      | some x => .ok (.real x)
      | none => .error (.notANumber variableName raw)

/-- The settings that the variables give. -/
def ofEnvironment (env : Environment) : Except Failure Config :=
  let defaults : Config := {}
  let text (variableName default : String) := (env variableName).getD default
  match seconds env "ELM_AI_TIMEOUT_S" defaults.timeout with
  | .error e => .error e
  | .ok timeout =>
    accept
      { compiler := text "ELM_AI_COMPILER" defaults.compiler
        testRunner := text "ELM_AI_TEST_RUNNER" defaults.testRunner
        formatter := text "ELM_AI_FORMATTER" defaults.formatter
        workspaceDirectory := text "ELM_AI_WORKSPACE_DIR" defaults.workspaceDirectory
        privateModule := text "ELM_AI_PRIVATE_MODULE" defaults.privateModule
        discardTarget := text "ELM_AI_DISCARD_TARGET" defaults.discardTarget
        timeout := timeout
        strictHeader := flag env "ELM_AI_STRICT_HEADER" defaults.strictHeader
        backend := text "ELM_AI_ORACLE" defaults.backend
        logLevel := String.ofList (upper (text "ELM_AI_LOG_LEVEL" defaults.logLevel).toList) }

end Config
end ElmAssay
