import ElmAssay.Elm.Name
import ElmAssay.Failure
import ElmAssay.Text.Lines

/-!
# Candidates

A candidate is a proposed top-level declaration: a name, a type annotation and an implementation. It is written out in
full (`Candidate.render`), or as a stub of the same name and type that compiles and is never run
(`Candidate.stub`).

An implementation may be a whole declaration with its annotation, a definition that wants the annotation in front, or
only a right-hand side, which is set in below the name.
-/

namespace ElmAssay

open Text

/-- A proposed top-level declaration under the name of a value. -/
structure Candidate where
  name : String
  signature : String
  body : String
  named : Elm.isValueName name.toList = true
  deriving DecidableEq

namespace Candidate

/-- The candidate with a name, which must be the name of a value. -/
def new (name signature body : String) : Except Failure Candidate :=
  if h : Elm.isValueName name.toList = true then .ok ⟨name, signature, body, h⟩ else .error (.badName name)

/-- The padding of a right-hand side. -/
def padding : List Char := [' ', ' ', ' ', ' ']

/-- The annotation, if the signature is not blank. -/
def annotation (c : Candidate) : List (List Char) :=
  let signature := strip c.signature.toList
  if signature.isEmpty then [] else [c.name.toList ++ ' ' :: ':' :: ' ' :: signature]

/-- Whether a text starts with a name and a colon that is not doubled. -/
def opensAnnotation (name text : List Char) : Bool :=
  name.isPrefixOf text &&
    match dropBlank (text.drop name.length) with
    | ':' :: ':' :: _ => false
    | ':' :: _ => true
    | _ => false

/-- Whether a text starts with a name that ends there. -/
def opensDefinition (name text : List Char) : Bool :=
  name.isPrefixOf text && isBoundary name.getLast? (text.drop name.length).head?

/-- The line that a right-hand side stands below. -/
def equation (c : Candidate) : List Char := c.name.toList ++ [' ', '=']

/-- The declaration in full, without its final line feed. -/
def renderList (c : Candidate) : List Char :=
  let name := c.name.toList
  let body := stripNewlines c.body.toList
  if opensAnnotation name (dropBlank body) then body
  else if opensDefinition name (dropBlank body) then joinWith ['\n'] (c.annotation ++ [body])
  else joinWith ['\n'] (c.annotation ++ [c.equation, indent padding (dedent body)])

/-- The declaration in full. -/
def render (c : Candidate) : String := String.ofList (c.renderList ++ ['\n'])

/-- The right-hand side of a stub. -/
def todo (c : Candidate) : List Char := padding ++ "Debug.todo \"".toList ++ c.name.toList ++ ['"']

/-- The stub: the annotation, and a right-hand side of every type. -/
def stub (c : Candidate) : String :=
  String.ofList (joinWith ['\n'] (c.annotation ++ [c.equation, c.todo]) ++ ['\n'])

/-- Puts blank lines between declarations. -/
def separate (declarations : List String) : String :=
  String.ofList (joinWith ['\n', '\n'] (declarations.map String.toList))

/-- The whole batch in full. -/
def renderAll (batch : List Candidate) : String := separate (batch.map render)

/-- The batch with one candidate in full, by its position, and stubs for all others. -/
def isolated (focus : Nat) (batch : List Candidate) : String :=
  separate (batch.mapIdx fun i c => if i = focus then c.render else c.stub)

/-- The first name of a batch that is there before. -/
def firstDuplicate : List String → List String → Option String
  | _, [] => none
  | seen, name :: names => if name ∈ seen then some name else firstDuplicate (name :: seen) names

/-- Refuses a batch in which a name comes twice. -/
def checkUnique (batch : List Candidate) : Except Failure Unit :=
  match firstDuplicate [] (batch.map Candidate.name) with
  | some name => .error (.duplicateName name)
  | none => .ok ()

end Candidate
end ElmAssay
