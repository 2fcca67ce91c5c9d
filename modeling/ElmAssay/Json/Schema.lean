import ElmAssay.Json.Value

/-!
# Records in JSON

Reading a record out of a JSON value finds either the record or every problem in the order of the fields
(`Checked`). Nothing is converted: only a string is a string and only an array is a list.
-/

namespace ElmAssay.Json

/-- A step towards a place in a value. -/
inductive Step
  | field (name : String)
  | item (index : Nat)
  deriving DecidableEq, Repr

/-- What is wrong at a place. -/
inductive Defect
  | missing
  | notString
  | notList
  /-- The value is not an object, where the record of the given name was wanted. -/
  | notObject (record : String)
  deriving DecidableEq, Repr

/-- The short name of a defect. -/
def Defect.code : Defect → String
  | .missing => "missing"
  | .notString => "string_type"
  | .notList => "list_type"
  | .notObject _ => "model_type"

/-- The wording of a defect. -/
def Defect.message : Defect → String
  | .missing => "Field required"
  | .notString => "Input should be a valid string"
  | .notList => "Input should be a valid list"
  | .notObject record => s!"Input should be a valid dictionary or instance of {record}"

/-- A defect and its place. -/
structure Problem where
  place : List Step
  defect : Defect
  deriving DecidableEq, Repr

/-- The line over a list of problems of a record. -/
def problemsHeading (record : String) (problems : List Problem) : String :=
  let noun := if problems.length = 1 then "error" else "errors"
  s!"{problems.length} validation {noun} for {record}"

/-- What is read, or every problem with it. -/
abbrev Checked (α : Type) := Except (List Problem) α

/-- Two readings together: the problems of the first come before those of the second. -/
def Checked.both {α β : Type} (a : Checked α) (b : Checked β) : Checked (α × β) :=
  match a, b with
  | .ok x, .ok y => .ok (x, y)
  | .ok _, .error e => .error e
  | .error e, .ok _ => .error e
  | .error e, .error f => .error (e ++ f)

/-- The string at a place. -/
def asString (place : List Step) : Json → Checked String
  | .str s => .ok s
  | _ => .error [⟨place, .notString⟩]

/-- The strings of a list at a place, from the item with the given index on. -/
def stringItems (place : List Step) (index : Nat) : List Json → Checked (List String)
  | [] => .ok []
  | v :: vs =>
    (Checked.both (asString (place ++ [.item index]) v) (stringItems place (index + 1) vs)).map
      fun p => p.1 :: p.2

/-- The list of strings at a place. -/
def asStrings (place : List Step) : Json → Checked (List String)
  | .arr items => stringItems place 0 items
  | _ => .error [⟨place, .notList⟩]

/-- The string field of a record. -/
def stringField (fields : Fields) (name : String) : Checked String :=
  match fields.get? name with
  | some v => asString [.field name] v
  | none => .error [⟨[.field name], .missing⟩]

/-- The string field of a record that may be left out. -/
def stringFieldOr (fields : Fields) (name default : String) : Checked String :=
  match fields.get? name with
  | some v => asString [.field name] v
  | none => .ok default

/-- The fields of a value that a record is read from. -/
def recordFields (record : String) : Json → Checked Fields
  | .obj fields => .ok fields
  | _ => .error [⟨[], .notObject record⟩]

end ElmAssay.Json
