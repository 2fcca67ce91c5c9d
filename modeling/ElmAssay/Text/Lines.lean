import ElmAssay.Text.Classes

/-!
# Lines

Cutting a text at a character and putting it together again (`cut`, `joinWith`, with `joinWith_cut`), the reading of
a text file in which every line end becomes a line feed (`universalNewlines`), and the lines of a text with their
ends in the wide sense of Unicode (`wideLines`).
-/

namespace ElmAssay.Text

/-- The pieces of a list between the occurrences of a separator; there is always at least one. -/
def cut {α : Type} [DecidableEq α] (sep : α) : List α → List (List α)
  | [] => [[]]
  | c :: s =>
    if c = sep then [] :: cut sep s
    else
      match cut sep s with
      | [] => [[c]]
      | piece :: pieces => (c :: piece) :: pieces

/-- Pieces put together with a separator between them. -/
def joinWith {α : Type} (sep : List α) : List (List α) → List α
  | [] => []
  | [piece] => piece
  | piece :: pieces => piece ++ sep ++ joinWith sep pieces

/-- The longest list that both lists begin with. -/
def commonPrefix {α : Type} [DecidableEq α] : List α → List α → List α
  | a :: as, b :: bs => if a = b then a :: commonPrefix as bs else []
  | _, _ => []

/-- Every carriage return, alone or before a line feed, becomes one line feed. -/
def universalNewlines : List Char → List Char
  | [] => []
  | '\r' :: '\n' :: s => '\n' :: universalNewlines s
  | c :: s => (if c = '\r' then '\n' else c) :: universalNewlines s

/-- A character that ends a line in the wide sense. -/
def isLineBreak (c : Char) : Bool :=
  (0xA ≤ c.toNat && c.toNat ≤ 0xD) || (0x1C ≤ c.toNat && c.toNat ≤ 0x1E) || c.toNat == 0x85 ||
    c.toNat == 0x2028 || c.toNat == 0x2029

/-- The lines of a text in the wide sense, each with its end; a carriage return and a line feed are one end. -/
def wideLines : List Char → List (List Char)
  | [] => []
  | '\r' :: '\n' :: s => ['\r', '\n'] :: wideLines s
  | c :: s =>
    if isLineBreak c then [c] :: wideLines s
    else
      match wideLines s with
      | [] => [[c]]
      | line :: lines => (c :: line) :: lines

/-- There is always a piece. -/
theorem cut_ne_nil {α : Type} [DecidableEq α] (sep : α) (s : List α) : cut sep s ≠ [] := by
  cases s with
  | nil => simp [cut]
  | cons c s =>
    unfold cut
    split
    · simp
    · split <;> simp

/-- The pieces of a text, put together again, are the text. -/
theorem joinWith_cut {α : Type} [DecidableEq α] (sep : α) (s : List α) : joinWith [sep] (cut sep s) = s := by
  induction s with
  | nil => rfl
  | cons c s ih =>
    obtain ⟨piece, pieces, h⟩ := List.exists_cons_of_ne_nil (cut_ne_nil sep s)
    rw [h] at ih
    by_cases hc : c = sep
    · subst hc
      simp only [cut, if_pos, h]
      simp [joinWith, ih]
    · simp only [cut, if_neg hc, h]
      cases pieces <;> simp_all [joinWith]

/-- The lines of a text in the wide sense, put together again, are the text. -/
theorem flatten_wideLines (s : List Char) : (wideLines s).flatten = s := by
  fun_induction wideLines s with
  | case1 => rfl
  | case2 s ih => simp [ih]
  | case3 c s _ _ ih => simp [ih]
  | case4 c s _ _ h ih => simp_all
  | case5 c s _ _ line lines h ih => simp_all

/-!
## Indentation

Taking the common margin off a block of lines (`dedent`) and setting a block in by some padding (`indent`). A margin
is the longest run of spaces and tabs that every line with other characters starts with (`margin`).
-/

/-- A character of a margin. -/
def isPad (c : Char) : Bool := c == ' ' || c == '\t'

/-- A line of spaces and tabs alone counts as empty. -/
def blankLine (line : List Char) : List Char := if line.all isPad then [] else line

/-- The spaces and tabs a line starts with. -/
def leadingPad (line : List Char) : List Char := line.takeWhile isPad

/-- The longest run of spaces and tabs that starts every line, `none` if there is no line. -/
def sharedPad : List (List Char) → Option (List Char)
  | [] => none
  | line :: lines =>
    match sharedPad lines with
    | none => some (leadingPad line)
    | some pad => some (commonPrefix (leadingPad line) pad)

/-- The margin of a block: what the lines that are not empty share. -/
def margin (lines : List (List Char)) : List Char :=
  (sharedPad (lines.filter fun line => !line.isEmpty)).getD []

/-- A block without its margin; its lines of spaces and tabs alone become empty. -/
def dedent (s : List Char) : List Char :=
  let lines := (cut '\n' s).map blankLine
  joinWith ['\n'] (lines.map (·.drop (margin lines).length))

/-- A block with every line that is not all white space set in. -/
def indent (pad s : List Char) : List Char :=
  (wideLines s).flatMap fun line => if allBlank line then line else pad ++ line

end ElmAssay.Text
