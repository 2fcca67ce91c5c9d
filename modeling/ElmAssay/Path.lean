import ElmAssay.Text.Lines
import ElmAssay.Text.Quoted

/-!
# Paths

A path is where it starts and its parts (`Path`). Reading one drops empty parts and those that mean "here"; the parts
that mean "up" are kept (`Path.parse`), because what they lead to depends on the directories. `Path.collapse` takes
them out by text alone, and `Path.relativeFrom` leads from one directory to a path by text alone.
-/

namespace ElmAssay

/-- Where a path starts: here, or at the top, which may be written with one slash or with exactly two. -/
inductive Anchor
  | here
  | top
  | doubleTop
  deriving DecidableEq, Repr

/-- A path: where it starts, and its parts. -/
structure Path where
  anchor : Anchor
  parts : List String
  deriving DecidableEq, Repr

namespace Path

open Text

/-- The part that means "up". -/
def up : String := ".."

/-- The part that means "here". -/
def here : String := "."

/-- Where the text of a path starts. -/
def anchorOf : List Char → Anchor
  | '/' :: '/' :: '/' :: _ => .top
  | '/' :: '/' :: _ => .doubleTop
  | '/' :: _ => .top
  | _ => .here

/-- The path that a text is. -/
def parse (s : String) : Path :=
  ⟨anchorOf s.toList, ((cut '/' s.toList).map String.ofList).filter fun p => p != "" && p != here⟩

/-- The slashes of an anchor. -/
def slashes : Anchor → List Char
  | .here => []
  | .top => ['/']
  | .doubleTop => ['/', '/']

/-- The text of a path; the path without start and parts is "here". -/
def text (p : Path) : String :=
  match p.anchor, p.parts with
  | .here, [] => here
  | anchor, parts => String.ofList (slashes anchor ++ joinWith ['/'] (parts.map String.toList))

/-- Whether a path starts at the top. -/
def isAbsolute (p : Path) : Bool := p.anchor != .here

/-- One path continued by another: one that starts at the top stands for itself. -/
def join (p q : Path) : Path := if q.isAbsolute then q else ⟨p.anchor, p.parts ++ q.parts⟩

instance : Div Path := ⟨join⟩

/-- A path continued by one part. -/
def child (p : Path) (name : String) : Path := ⟨p.anchor, p.parts ++ [name]⟩

/-- The path that several texts make, each continuing those before it. -/
def ofTexts (texts : List String) : Path := texts.foldl (fun p s => p / parse s) ⟨.here, []⟩

/-- The path without its last part. -/
def parent (p : Path) : Path := ⟨p.anchor, p.parts.dropLast⟩

/-- The last part of a path, empty if it has none. -/
def name (p : Path) : String := p.parts.getLastD ""

/-- The name without its ending: what follows the last dot, unless that dot is the first or the last character. -/
def stem (name : List Char) : List Char :=
  let ending := name.reverse.takeWhile (· != '.')
  let front := (name.reverse.drop (ending.length + 1)).reverse
  if ending.isEmpty || front.isEmpty || !name.contains '.' then name else front

/-- The path with another ending of its name, `none` if it has no name. -/
def withEnding? (p : Path) (ending : String) : Option Path :=
  if p.parts.isEmpty then none
  else some ⟨p.anchor, p.parts.dropLast ++ [String.ofList (stem p.name.toList ++ ending.toList)]⟩

/-- What leads from one path to another whose parts its own begin with, `none` if they do not. -/
def below? (p root : Path) : Option Path :=
  if p.anchor = root.anchor ∧ root.parts.isPrefixOf p.parts then some ⟨.here, p.parts.drop root.parts.length⟩
  else none

/-! ## Paths by text alone -/

/-- One part more on a stack of parts, top first: "up" takes the last part off, or stays where there is none to take
off and the path does not start at the top. -/
def pushPart (rooted : Bool) (stack : List String) (part : String) : List String :=
  if part = up then
    match stack with
    | [] => if rooted then [] else [up]
    | last :: rest => if last = up then up :: stack else rest
  else part :: stack

/-- The path without the parts that go up, as far as the text tells. -/
def collapse (p : Path) : Path := ⟨p.anchor, (p.parts.foldl (pushPart p.isAbsolute) []).reverse⟩

/-- What leads from a directory to a path by text alone, both seen from the directory `here`. -/
def relativeFrom (here : Path) (directory p : Path) : Path :=
  let source := (here / directory).collapse.parts
  let target := (here / p).collapse.parts
  let shared := (commonPrefix source target).length
  ⟨.here, List.replicate (source.length - shared) up ++ target.drop shared⟩

end Path
end ElmAssay
