import ElmAssay.Number.Decimal

/-!
# JSON values

A JSON value keeps whole numbers apart from floating point numbers and the fields of an object in order
(`Json`). Fields form a table: a key has one place, and putting a value at a key that is there keeps the place
(`Fields.put`).
-/

namespace ElmAssay

/-- A JSON value. -/
inductive Json
  | null
  | bool (b : Bool)
  | int (n : Int)
  | real (x : Binary64)
  | str (s : String)
  | arr (items : List Json)
  | obj (fields : List (String × Json))

/-- The fields of an object, in order. -/
abbrev Fields := List (String × Json)

namespace Fields

/-- The value at a key. -/
def get? (fs : Fields) (key : String) : Option Json := fs.lookup key

/-- Whether a key is there. -/
def has (fs : Fields) (key : String) : Bool := (fs.get? key).isSome

/-- A value put at a key: in its place if the key is there, else at the end. -/
def put : Fields → String → Json → Fields
  | [], key, v => [(key, v)]
  | (k, w) :: fs, key, v => if k = key then (k, v) :: fs else (k, w) :: put fs key v

/-- The table that pairs make when they are put one after the other. -/
def ofPairs (pairs : List (String × Json)) : Fields := pairs.foldl (fun fs p => fs.put p.1 p.2) []

/-- The fields without a key. -/
def without (fs : Fields) (key : String) : Fields := fs.filter (·.1 != key)

end Fields

namespace Json

/-! A value in which the numbers that no JSON text can hold are replaced by null. -/

mutual

/-- The value with every infinite number and every number that is none replaced by null. -/
def finite : Json → Json
  | .real x => if x.isFinite then .real x else .null
  | .arr items => .arr (finiteItems items)
  | .obj fields => .obj (finiteFields fields)
  | v => v

/-- The items with their numbers made finite. -/
def finiteItems : List Json → List Json
  | [] => []
  | v :: vs => finite v :: finiteItems vs

/-- The fields with their numbers made finite. -/
def finiteFields : List (String × Json) → List (String × Json)
  | [] => []
  | (k, v) :: fs => (k, finite v) :: finiteFields fs

end

/-! How deep a value is: a value that holds no other has one level. -/

mutual

/-- The count of levels of a value. -/
def levels : Json → Nat
  | .arr items => levelsOfItems items + 1
  | .obj fields => levelsOfFields fields + 1
  | _ => 1

/-- The count of levels of the deepest item. -/
def levelsOfItems : List Json → Nat
  | [] => 0
  | v :: vs => max (levels v) (levelsOfItems vs)

/-- The count of levels of the deepest field. -/
def levelsOfFields : List (String × Json) → Nat
  | [] => 0
  | (_, v) :: fs => max (levels v) (levelsOfFields fs)

end

end Json
end ElmAssay
