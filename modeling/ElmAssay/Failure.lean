import ElmAssay.Disk.SystemError
import ElmAssay.Json.Reader
import ElmAssay.Json.Schema
import ElmAssay.Number.Reading
import ElmAssay.Path

/-!
# Failures

A check that fails is an outcome; a `Failure` is the case in which there is no outcome at all. Each constructor is
one cause, and `Failure.message` holds the wording of all of them. Some are failures of the configuration
(`Failure.isConfiguration`).
-/

namespace ElmAssay

/-!
## How a check ends

A check passes, fails, or runs out of time (`OutcomeKind`); each kind has a name (`OutcomeKind.name`) by which it is
found again (`OutcomeKind.ofName?`).
-/

/-- How a check ends. -/
inductive OutcomeKind
  | passed
  | failed
  | timeout
  deriving DecidableEq, Repr

namespace OutcomeKind

/-- The name of a kind. -/
def name : OutcomeKind → String
  | passed => "passed"
  | failed => "failed"
  | timeout => "timeout"

/-- The kind of a name. -/
def ofName? (s : String) : Option OutcomeKind :=
  [passed, failed, timeout].find? fun k => k.name == s

/-- Every kind is found by its name. -/
theorem ofName?_name (k : OutcomeKind) : ofName? k.name = some k := by
  cases k <;> rfl

end OutcomeKind

/-! ## Causes and their wording -/

/-- Why a file gave no text. -/
inductive Unreadable
  | system (e : SystemError)
  | undecodable (e : Text.Utf8.Malformed)
  deriving DecidableEq, Repr

/-- The wording of why a file gave no text. -/
def Unreadable.message : Unreadable → String
  | system e => e.message
  | undecodable e => e.message

/-- Why there is no outcome. -/
inductive Failure
  -- settings
  /-- A setting that needs a value is blank. -/
  | blankSetting (setting : String)
  | negativeTimeout (limit : Seconds)
  | badPrivateModule (name : String)
  /-- A setting that should hold a number does not. -/
  | notANumber (setting value : String)
  | unknownBackend (name : String)
  | unknownMode (name : String)
  -- manifests
  | manifestUnreadable (path : Path) (e : SystemError)
  | manifestMalformed (path : Path) (e : Json.SyntaxError)
  | manifestNotObject (source : String)
  | manifestInvalid (source : String) (problems : List Json.Problem)
  -- modules and candidates
  | moduleUnreadable (path : Path) (why : Unreadable)
  /-- A module without a header, where one is wanted. -/
  | noHeader (path : Option Path)
  /-- A candidate under a name that is no identifier. -/
  | badName (name : String)
  /-- A candidate of a request under a name that is no identifier. -/
  | badRequestedName (name : String)
  | duplicateName (name : String)
  -- payloads
  | recordInvalid (record : String) (problems : List Json.Problem)
  | solutionMalformed (e : Json.SyntaxError)
  | solutionInvalid (problems : List Json.Problem)
  | jsonMalformed (e : Json.SyntaxError)
  | tooManyDigits (count : Nat)
  /-- A text with an array or an object inside of too many others. -/
  | tooDeepToRead (isArray : Bool)
  /-- A manifest with a value inside of too many others. -/
  | tooDeepToWrite
  | missingField (field : String)
  /-- A request with neither candidates nor code. -/
  | nothingToCheck
  -- paths and files
  /-- A path that does not lie under the root it must lie under. -/
  | outside (path root : Path)
  /-- A path without a name, where a name is wanted. -/
  | nameless (path : Path)
  /-- A path on which a link leads back to itself. -/
  | linkLoop (path : Path)
  /-- A text with the null character, which no system call takes. -/
  | nullCharacter
  | system (e : SystemError)
  | undecodable (e : Text.Utf8.Malformed)
  -- programs
  | noWorkingDirectory (directory : String)
  | emptyCommand
  /-- A command line without a program that could be named. -/
  | namelessCommand
  | notStarted (command : List String) (e : SystemError)
  -- outcomes
  /-- Diagnostics that do not go with whether a check passed. -/
  | diagnosticsMismatch
  | kindMismatch (passed : Bool) (kind : OutcomeKind)
  | unknownKind (name : String)
  deriving DecidableEq, Repr

namespace Failure

open Text

/-- The name of the manifest record in messages. -/
def manifestRecord : String := "ManifestDescriptor"

/-- The name of the decoder solution record in messages. -/
def solutionRecord : String := "DecoderSolution"

/-- The wording of a refused candidate name. -/
def nameMessage (name : String) : String :=
  s!"Candidate name must be a lower-case identifier, got {quoted name}"

/-- How a message shows whether a check passed. -/
def truth (b : Bool) : String := if b then "True" else "False"

/-- The wording of a failure. -/
def message : Failure → String
  | blankSetting setting => s!"{setting} must not be empty"
  | negativeTimeout limit => s!"timeout_s must be >= 0, got {limit.text}"
  | badPrivateModule name => s!"private_module is not a valid module name: {quoted name}"
  | notANumber setting value => s!"{setting} must be a number, got {quoted value}"
  | unknownBackend name => s!"Unknown oracle backend: {quoted name}. Supported: 'subprocess', 'mock'"
  | unknownMode name => s!"Unknown mock mode: {quoted name}"
  | manifestUnreadable path e => s!"Cannot read manifest {path.text}: {e.message}"
  | manifestMalformed path e => s!"Manifest {path.text} is not valid JSON: {e.message}"
  | manifestNotObject source => s!"Manifest {source} must be a JSON object"
  | manifestInvalid source problems =>
    s!"Invalid manifest {source}: {Json.problemsHeading manifestRecord problems}"
  | moduleUnreadable path why => s!"Cannot read module source {path.text}: {why.message}"
  | noHeader path => "No module header found in " ++ (path.map Path.text).getD "<module>"
  | badName name => nameMessage name
  | badRequestedName name => nameMessage name
  | duplicateName name => s!"Duplicate candidate name in batch: {quoted name}"
  | recordInvalid record problems => Json.problemsHeading record problems
  | solutionMalformed e => s!"Malformed decoder solution: {e.message}"
  | solutionInvalid problems =>
    s!"Malformed decoder solution: {Json.problemsHeading solutionRecord problems}"
  | jsonMalformed e => e.message
  | tooManyDigits count => (Json.ReadError.tooManyDigits count).message
  | tooDeepToRead isArray => (Json.ReadError.tooDeep isArray).message
  | tooDeepToWrite => "Maximum serialization depth exceeded"
  | missingField field => s!"Missing required field: {field}"
  | nothingToCheck => "Provide either candidates or code"
  | outside path root =>
    s!"{quoted path.text} is not in the subpath of {quoted root.text} OR one path is relative and the other is " ++
      "absolute."
  | nameless path => s!"PosixPath({quoted path.text}) has an empty name"
  | linkLoop path => s!"Symlink loop from {quoted path.text}"
  | nullCharacter => "embedded null byte"
  | system e => e.summary
  | undecodable e => e.message
  | noWorkingDirectory directory => s!"Working directory does not exist: {directory}"
  | emptyCommand => "command must not be empty"
  | namelessCommand => "tuple index out of range"
  | notStarted command e => "Cannot run " ++ quoted (command.headD "") ++ s!": {e.message}"
  | diagnosticsMismatch => "passed must be True exactly when diagnostics is empty"
  | kindMismatch passed kind => s!"passed={truth passed} is inconsistent with kind={kind.name}"
  | unknownKind name => s!"{quoted name} is not a valid OutcomeKind"

/-- The problems that a failure lists. -/
def problems : Failure → Option (List Json.Problem)
  | manifestInvalid _ ps => some ps
  | recordInvalid _ ps => some ps
  | solutionInvalid ps => some ps
  | _ => none

/-- Whether a failure is one of the configuration. -/
def isConfiguration : Failure → Bool
  | .blankSetting _ | .negativeTimeout _ | .badPrivateModule _ | .notANumber _ _ => true
  | .manifestUnreadable _ _ | .manifestMalformed _ _ | .manifestNotObject _ | .manifestInvalid _ _ => true
  | .moduleUnreadable _ _ | .noHeader _ | .badRequestedName _ | .duplicateName _ => true
  | .solutionMalformed _ | .solutionInvalid _ | .noWorkingDirectory _ => true
  | _ => false

/-- The failure of reading JSON where no more is said about its source. -/
def ofReadError : Json.ReadError → Failure
  | .malformed e => jsonMalformed e
  | .tooManyDigits count => tooManyDigits count
  | .tooDeep isArray => tooDeepToRead isArray

end Failure
end ElmAssay
