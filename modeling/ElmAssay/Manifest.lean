import ElmAssay.Disk
import ElmAssay.Json.Writer

/-!
# Manifests

A manifest is the `elm.json` of a project: its type, its source directories, and whatever else it holds
(`Manifest`). The manifest of a workspace is derived from that of the project (`Manifest.derive`): the source
directories are written as seen from the workspace, and the private root is added to them. Manifests are written in one
canonical form (`Manifest.canonical`).
-/

namespace ElmAssay

/-- A manifest. The other fields are kept as they were read. -/
structure Manifest where
  type : String
  sourceDirectories : List String
  others : Fields

namespace Manifest

/-- Where a manifest came from, in messages, if nothing else is said. -/
def defaultSource : String := "<manifest>"

/-- The key of the type. -/
def typeKey : String := "type"

/-- The key of the source directories. -/
def directoriesKey : String := "source-directories"

/-- The key that the source directories are read from if their own is not there. -/
def otherDirectoriesKey : String := "source_directories"

/-- The key that the source directories are read from. -/
def keyOfDirectories (fields : Fields) : String :=
  if fields.has directoriesKey || !fields.has otherDirectoriesKey then directoriesKey else otherDirectoriesKey

/-- The source directories of an object. -/
def checkDirectories (fields : Fields) : Json.Checked (List String) :=
  let key := keyOfDirectories fields
  match fields.get? key with
  | some v => Json.asStrings [.field key] v
  | none => .error [⟨[.field key], .missing⟩]

/-- The manifest that a value is; `source` says in messages where it came from. -/
def ofJson (v : Json) (source : String) : Except Failure Manifest :=
  match v with
  | .obj fields =>
    match (Json.stringField fields typeKey).both (checkDirectories fields) with
    | .ok (type, directories) =>
      .ok ⟨type, directories, (Fields.without fields typeKey).without (keyOfDirectories fields)⟩
    | .error problems => .error (.manifestInvalid source problems)
  | _ => .error (.manifestNotObject source)

/-- The greatest count of levels that a value of a manifest may have to be written. -/
def levelLimit : Nat := 255

/-- The fields of a manifest: type and source directories, then the others in their order. -/
def fields (m : Manifest) : Fields :=
  (typeKey, .str m.type) :: (directoriesKey, .arr (m.sourceDirectories.map .str)) :: Json.finiteFields m.others

/-- The fields of a manifest as they are written, unless one of the others has too many levels. -/
def toFields (m : Manifest) : Except Failure Fields :=
  if levelLimit < Json.levelsOfFields m.others then .error .tooDeepToWrite else .ok m.fields

/-- The canonical text of a manifest. -/
def canonical (m : Manifest) : Except Failure String := m.toFields.map fun fields => (Json.obj fields).wideText ++ "\n"

/-- The manifest in a file. -/
def load (d : Disk) (p : Path) : Except Failure Manifest :=
  match d.readText p with
  | .error (.system e) => .error (.manifestUnreadable p e)
  | .error e => .error e
  | .ok text =>
    match Json.read text with
    | .error (.malformed e) => .error (.manifestMalformed p e)
    | .error e => .error (.ofReadError e)
    | .ok v => ofJson v p.text

/-- A source directory of a project as seen from elsewhere; `back` leads from there to the project. A directory from
the top stays as it is. -/
def reanchor (directory back : String) : String :=
  let p := Path.parse directory
  if p.isAbsolute then directory else (Path.parse back / p).collapse.text

/-- The source directories of a project as seen from a workspace, with the private root. -/
def deriveDirectories (directories : List String) (back privateRoot : String) : List String :=
  let seen := directories.map (reanchor · back)
  if privateRoot ∈ seen then seen else seen ++ [privateRoot]

/-- The manifest of a workspace: that of its project, with the source directories as seen from the workspace. -/
def derive (m : Manifest) (back privateRoot : String) : Except Failure Manifest := do
  let fields ← m.toFields
  let directories := deriveDirectories m.sourceDirectories back privateRoot
  ofJson (.obj (fields.put directoriesKey (.arr (directories.map .str)))) "<derived>"

/-- The version list of packages. -/
def packages (versions : List (String × String)) : Json := .obj (versions.map fun p => (p.1, .str p.2))

/-- The manifest of decoder tests that do not depend on a project. -/
def standalone : Manifest where
  type := "application"
  sourceDirectories := ["src"]
  others :=
    [("elm-version", .str "0.19.1"),
     ("dependencies", .obj
      [("direct", packages
        [("elm/core", "1.0.5"), ("elm/json", "1.1.3"), ("elm/time", "1.0.0"),
         ("rtfeldman/elm-iso8601-date-strings", "1.1.4"), ("NoRedInk/elm-json-decode-pipeline", "1.0.1")]),
       ("indirect", packages [("elm/parser", "1.1.0")])]),
     ("test-dependencies", .obj
      [("direct", packages [("elm-explorations/test", "2.1.1")]), ("indirect", packages [])])]

end Manifest
end ElmAssay
