import ElmAssay.Machine.Call
import ElmAssay.Machine.Wildcard

/-!
# Fields

The expansion of a word is a row of glyphs (`Glyph`), which remember whether a character was quoted or came out of a
value. The glyphs of a word become its fields (`Glyph.fields`): what came out of a value is cut at the separators.
A field whose pattern agrees with names of files becomes these names (`Glyph.fileNames`).
-/

namespace ElmAssay.Machine

/-- A part of an expanded word. -/
inductive Glyph
  /-- A character of the word itself. -/
  | plain (c : Char)
  /-- A character that stands for itself. -/
  | quoted (c : Char)
  /-- A character of a value, where the word may be cut. -/
  | value (c : Char)
  /-- A place where the word is cut in any case. -/
  | cut
  /-- Quotes with nothing between them. -/
  | blank
  deriving DecidableEq, Repr

namespace Glyph

/-- The glyphs of a value. -/
def ofValue (isQuoted : Bool) (s : Octets) : List Glyph :=
  if isQuoted then s.toList.map .quoted else s.toList.map .value

/-- The character of a glyph. -/
def char? : Glyph → Option Char
  | plain c => some c
  | quoted c => some c
  | value c => some c
  | _ => none

/-- The text of glyphs, with a text in place of the cuts. -/
def text (joint : Octets) (gs : List Glyph) : Octets :=
  String.ofList (gs.flatMap fun g =>
    match g with
    | cut => joint.toList
    | g => g.char?.toList)

/-- The characters of glyphs, each with whether it was quoted. -/
def marked (gs : List Glyph) : List (Char × Bool) :=
  gs.filterMap fun g =>
    match g with
    | plain c => some (c, false)
    | value c => some (c, false)
    | quoted c => some (c, true)
    | _ => none

/-- The wildcard pattern that glyphs make. -/
def wildcard (gs : List Glyph) : Wildcard := Wildcard.read (marked gs)

/-- A separator that makes no field by itself. -/
def isSoft (separators : List Char) (c : Char) : Bool :=
  separators.contains c && (c == ' ' || c == '\t' || c == '\n')

/-- The fields of glyphs. `field` holds the open one, latest first; `afterSoft` says whether a soft separator ended the
last one, so that a hard one that follows belongs to it. -/
def fieldsFrom (separators : List Char) : List Glyph → Bool → List Glyph → List (List Glyph)
  | field, _, [] => if field.isEmpty then [] else [field.reverse]
  | field, afterSoft, g :: gs =>
    match g with
    | cut => (if field.isEmpty then [] else [field.reverse]) ++ fieldsFrom separators [] false gs
    | value c =>
      if isSoft separators c then
        if field.isEmpty then fieldsFrom separators [] afterSoft gs
        else field.reverse :: fieldsFrom separators [] true gs
      else if separators.contains c then
        if !field.isEmpty then field.reverse :: fieldsFrom separators [] false gs
        else if afterSoft then fieldsFrom separators [] false gs
        else [blank] :: fieldsFrom separators [] false gs
      else fieldsFrom separators (g :: field) false gs
    | g => fieldsFrom separators (g :: field) false gs

/-- The fields of glyphs. -/
def fields (separators : List Char) (gs : List Glyph) : List (List Glyph) := fieldsFrom separators [] false gs

/-! ## Names of files -/

/-- Whether a glyph makes a pattern of its field. -/
def isOpen : Glyph → Bool
  | plain c => c == '*' || c == '?' || c == '['
  | value c => c == '*' || c == '?' || c == '['
  | _ => false

/-- The parts of a field between its slashes. -/
def parts : List Glyph → List (List Glyph)
  | [] => [[]]
  | g :: gs =>
    if g.char? = some '/' then [] :: parts gs
    else
      match parts gs with
      | [] => [[g]]
      | p :: ps => (g :: p) :: ps

/-- The names in a directory that agree with a pattern. One that starts with a dot agrees only with a dot. -/
def namesIn (directory : Octets) (part : List Glyph) : Routine (List Octets) := do
  let w := wildcard part
  let startsWithDot := (part.find? fun g => g.char?.isSome).bind char? == some '.'
  match ← Routine.ask (.list (if directory.isEmpty then "." else directory)) with
  | .error _ => return []
  | .ok names =>
    let names := if startsWithDot then "." :: ".." :: names else names
    return names.filter fun name => (startsWithDot || name.front != '.') && w.agrees name.toList

/-- The paths that agree with the parts of a pattern, each behind a path that was found. -/
def pathsFrom : List (List Glyph) → Octets → Bool → Routine (List Octets)
  | [], found, mustCheck => do
    if mustCheck then return if ← Routine.stands found then [found] else []
    else return [found]
  | part :: rest, found, _ => do
    let slash := if rest.isEmpty then "" else "/"
    if part.any isOpen && (wildcard part).isOpen then
      let names ← namesIn found part
      let mut all : List Octets := []
      for name in names do
        let path := found ++ name
        if rest.isEmpty then all := all ++ [path]
        else if ← Routine.isDirectory path then all := all ++ (← pathsFrom rest (path ++ slash) false)
      return all
    else pathsFrom rest (found ++ text "" part ++ slash) true

/-- The names of files that a field stands for: those that agree with its pattern, or its text if there are none. -/
def fileNames (keepsPatterns : Bool) (field : List Glyph) : Routine (List Octets) := do
  if !keepsPatterns && field.any isOpen then
    match ← pathsFrom (parts field) "" false with
    | [] => return [text "" field]
    | paths => return paths.mergeSort fun a b => a ≤ b
  else return [text "" field]

end Glyph
end ElmAssay.Machine
