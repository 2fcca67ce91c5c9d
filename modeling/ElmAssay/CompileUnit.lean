import ElmAssay.Candidate
import ElmAssay.Disk
import ElmAssay.Elm.Header

/-!
# Compile units

A compile unit is a copy of a module under a private name that exposes everything, with more declarations at its end
(`CompileUnit.splice`). Only the header of the module changes; a module without one is kept as it is, or refused where
the caller is strict.
-/

namespace ElmAssay

/-- The text of a module, and the file that it was read from. -/
structure ModuleSource where
  text : String
  path : Option Path
  deriving DecidableEq

/-- The module in a file. -/
def ModuleSource.read (d : Disk) (p : Path) : Except Failure ModuleSource :=
  match d.readText p with
  | .ok text => .ok ⟨text, some p⟩
  | .error (.system e) => .error (.moduleUnreadable p (.system e))
  | .error (.undecodable e) => .error (.moduleUnreadable p (.undecodable e))
  | .error e => .error e

/-- A module that is ready to be written: its name, its text, and whether its header was replaced. -/
structure CompileUnit where
  moduleName : String
  text : String
  headerReplaced : Bool
  deriving DecidableEq

namespace CompileUnit

/-- The private name where no other is given. -/
def defaultName : String := "ElmAiCandidate"

/-- A text with more at its end, after an empty line, unless there is nothing more. -/
def append (text more : List Char) : List Char :=
  if more.isEmpty then text
  else if text.isEmpty || text.getLast? == some '\n' then text ++ '\n' :: more
  else text ++ '\n' :: '\n' :: more

/-- The header of a unit. -/
def headerText (isPort : Bool) (name : String) : String :=
  (if isPort then "port " else "") ++ "module " ++ name ++ " exposing (..)"

/-- The text of a module with the header of a unit in place of its own. -/
def replaceHeader (text : List Char) (h : Elm.Header) (name : String) : List Char :=
  text.take h.start ++ (headerText h.isPort name).toList ++ text.drop h.stop

/-- The unit of a module with more declarations, under a private name. -/
def splice (source : ModuleSource) (more name : String) (strict : Bool) : Except Failure CompileUnit :=
  let text := source.text.toList
  match Elm.findHeader source.text with
  | some h => .ok ⟨name, String.ofList (append (replaceHeader text h name) more.toList), true⟩
  | none =>
    if strict then .error (.noHeader source.path)
    else .ok ⟨name, String.ofList (append text more.toList), false⟩

/-- The parts of a dotted name. -/
def nameParts (name : String) : List String := (Text.cut '.' name.toList).map String.ofList

/-- The path of a unit below the root of the units. -/
def path (u : CompileUnit) : Path :=
  let parts := nameParts u.moduleName
  Path.ofTexts (parts.dropLast ++ [parts.getLastD "" ++ ".elm"])

end CompileUnit
end ElmAssay
