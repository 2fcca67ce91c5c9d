import ElmAssay.Text.Classes
import ElmAssay.Text.Lines

/-!
# Elm names

The names of values (`isValueName`) and of modules (`isModuleName`), in the first 128 code points. Both allow one
line feed after the name, which the checks that use them do not see.
-/

namespace ElmAssay.Elm

open Text

/-- A small letter of the first 128 code points. -/
def isSmall (c : Char) : Bool := 'a' ≤ c && c ≤ 'z'

/-- A capital letter of the first 128 code points. -/
def isCapital (c : Char) : Bool := 'A' ≤ c && c ≤ 'Z'

/-- A text without the line feed it may end with. -/
def dropFinalNewline (s : List Char) : List Char := if s.getLast? = some '\n' then s.dropLast else s

/-- A small letter and word characters. -/
def isValueWord : List Char → Bool
  | c :: s => isSmall c && s.all isAsciiWord
  | [] => false

/-- A capital letter and word characters. -/
def isModuleWord : List Char → Bool
  | c :: s => isCapital c && s.all isAsciiWord
  | [] => false

/-- The name of a value, perhaps with a line feed after it. -/
def isValueName (s : List Char) : Bool := isValueWord (dropFinalNewline s)

/-- The name of a module, capital words with dots between them, perhaps with a line feed after it. -/
def isModuleName (s : List Char) : Bool := (cut '.' (dropFinalNewline s)).all isModuleWord

end ElmAssay.Elm
