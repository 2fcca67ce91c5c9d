import ElmAssay.Json.Writer
import Mathlib.Data.Nat.Notation

/-!
# The characters of written JSON

Written JSON has no control characters but the line feeds of its layout (`visible_write`): strings escape all of them,
and numbers are written with signs, digits, points and letters. So no value has a carriage return in its text
(`not_mem_wideText`), whatever its strings hold.
-/

namespace ElmAssay

/-- A character that is a line feed or no control character of the first 32. -/
def Text.Visible (c : Char) : Prop := c = '\n' ∨ 0x20 ≤ c.toNat

/-- All characters of a text are visible. -/
def Text.AllVisible (s : List Char) : Prop := ∀ c ∈ s, Text.Visible c

open Text

theorem Text.AllVisible.append {s u : List Char} (hs : AllVisible s) (hu : AllVisible u) : AllVisible (s ++ u) :=
  fun c hc => (List.mem_append.1 hc).elim (hs c) (hu c)

theorem Text.AllVisible.cons {c : Char} {s : List Char} (hc : Visible c) (hs : AllVisible s) : AllVisible (c :: s) := by
  intro a ha
  rcases List.mem_cons.1 ha with rfl | ha
  · exact hc
  · exact hs a ha

theorem Text.AllVisible.of_subset {s u : List Char} (hu : AllVisible u) (h : s ⊆ u) : AllVisible s :=
  fun c hc => hu c (h hc)

theorem Text.allVisible_nil : AllVisible [] := fun c hc => by cases hc

theorem Text.allVisible_replicate {c : Char} (hc : Visible c) (n : Nat) : AllVisible (List.replicate n c) :=
  fun _ ha => (List.eq_of_mem_replicate ha).symm ▸ hc

instance (c : Char) : Decidable (Visible c) := inferInstanceAs (Decidable (_ ∨ _))

instance (s : List Char) : Decidable (AllVisible s) := List.decidableBAll _ s

/-! ## Numbers -/

namespace Number

theorem visible_natDigits (n : Nat) : AllVisible (natDigits n) := by
  intro c hc
  have hdigit := Nat.isDigit_of_mem_toDigits (by decide) (by decide) hc
  rw [Char.isDigit, Bool.and_eq_true, decide_eq_true_eq, decide_eq_true_eq] at hdigit
  exact .inr (Nat.le_trans (by decide) hdigit.1)

theorem visible_padded (width n : Nat) : AllVisible (padded width n) :=
  (allVisible_replicate (by decide) _).append (visible_natDigits n)

theorem visible_wholeText (n : Int) : AllVisible (wholeText n) := by
  rw [wholeText]
  split
  · exact .cons (by decide) (visible_natDigits _)
  · exact visible_natDigits _

theorem visible_byPlace {ds : List Char} (h : AllVisible ds) (point : Int) : AllVisible (byPlace ds point) := by
  rw [byPlace]
  split
  · exact .cons (by decide) (.cons (by decide) ((allVisible_replicate (by decide) _).append h))
  · split
    · exact (h.of_subset (List.take_subset _ _)).append (.cons (by decide) (h.of_subset (List.drop_subset _ _)))
    · exact (h.append (allVisible_replicate (by decide) _)).append (by decide)

theorem visible_byExponent {l : Layout} (hmark : AllVisible l.mark.toList) {ds : List Char} (h : AllVisible ds)
    (exponent : Int) : AllVisible (l.byExponent ds exponent) := by
  rw [Layout.byExponent]
  refine (((h.of_subset (List.take_subset _ _)).append ?_).append hmark).append (.cons ?_ (visible_padded _ _))
  · split
    · exact allVisible_nil
    · exact .cons (by decide) (h.of_subset (List.drop_subset _ _))
  · split <;> decide

theorem visible_render {l : Layout} (hmark : AllVisible l.mark.toList) (hinfinity : AllVisible l.infinity.toList)
    (hnan : AllVisible l.notANumber.toList) (x : Binary64) : AllVisible (l.render x) := by
  have hsign (negative : Bool) : AllVisible (if negative then ['-'] else []) := by cases negative <;> decide
  cases x with
  | notANumber => exact hnan
  | infinite negative => exact (hsign negative).append hinfinity
  | finite negative m q =>
    rw [Layout.render]
    dsimp only
    split
    · exact (hsign negative).append (by decide)
    · split
      · exact (hsign negative).append (visible_byPlace (visible_natDigits _) _)
      · exact (hsign negative).append (visible_byExponent hmark (visible_natDigits _) _)

end Number

/-! ## Strings -/

namespace Json

theorem visible_hex (width n : Nat) : AllVisible (hex width n) := by
  induction width generalizing n with
  | zero => exact allVisible_nil
  | succ width ih =>
    have hdigit : ∀ m < 16, Visible (hexDigit m) := by decide
    exact (ih (n / 16)).append (.cons (hdigit _ (Nat.mod_lt n (by decide))) allVisible_nil)

theorem visible_escapeChar (c : Char) : AllVisible (escapeChar c) := by
  rw [escapeChar]
  split
  · rename_i h
    rcases h with rfl | rfl <;> decide
  · repeat' split
    · decide
    · decide
    · decide
    · decide
    · decide
    · exact .cons (by decide) (.cons (by decide) (visible_hex _ _))
    · exact .cons (.inr (by omega)) allVisible_nil

theorem visible_writeString (s : List Char) : AllVisible (writeString s) := by
  refine (AllVisible.cons (by decide) fun c hc => ?_).append (by decide)
  obtain ⟨a, -, ha⟩ := List.mem_flatMap.1 hc
  exact visible_escapeChar a c ha

/-! ## Values -/

/-- The white space of a style is visible. -/
structure Style.IsVisible (st : Style) : Prop where
  lineBreak : ∀ level, AllVisible (st.lineBreak level)
  colon : AllVisible st.colon

theorem Style.isVisible_wide : Style.wide.IsVisible where
  lineBreak _ := .cons (.inl rfl) (allVisible_replicate (by decide) _)
  colon := by decide

variable {st : Style}

theorem visible_comma (last : Bool) : AllVisible (if last then [] else [',']) := by cases last <;> decide

mutual

/-- **A written value has no control characters but the line feeds of its layout.** -/
theorem visible_write (hst : st.IsVisible) (level : Nat) : ∀ v, AllVisible (write st level v)
  | .null => by rw [write]; decide
  | .bool true => by rw [write]; decide
  | .bool false => by rw [write]; decide
  | .int n => by rw [write]; exact Number.visible_wholeText n
  | .real x => by rw [write]; exact Number.visible_render (by decide) (by decide) (by decide) x
  | .str s => by rw [write]; exact visible_writeString s.toList
  | .arr items => by
    rw [write]
    split
    · decide
    · exact .append (.cons (by decide) (.append (visible_writeItems hst (level + 1) items) (hst.lineBreak level)))
        (by decide)
  | .obj fields => by
    rw [write]
    split
    · decide
    · exact .append (.cons (by decide) (.append (visible_writeFields hst (level + 1) fields) (hst.lineBreak level)))
        (by decide)

theorem visible_writeItems (hst : st.IsVisible) (level : Nat) : ∀ items, AllVisible (writeItems st level items)
  | [] => by rw [writeItems]; exact allVisible_nil
  | v :: vs => by
    rw [writeItems]
    exact (((hst.lineBreak level).append (visible_write hst level v)).append (visible_comma _)).append
      (visible_writeItems hst level vs)

theorem visible_writeFields (hst : st.IsVisible) (level : Nat) : ∀ fields, AllVisible (writeFields st level fields)
  | [] => by rw [writeFields]; exact allVisible_nil
  | (k, v) :: fs => by
    rw [writeFields]
    exact (((((hst.lineBreak level).append (visible_writeString k.toList)).append hst.colon).append
      (visible_write hst level v)).append (visible_comma _)).append (visible_writeFields hst level fs)

end

/-- **No value has a carriage return in its text.** -/
theorem not_mem_wideText (v : Json) : '\r' ∉ v.wideText.toList := by
  rw [wideText, String.toList_ofList]
  intro h
  rcases visible_write Style.isVisible_wide 0 v _ h with he | hle
  · exact absurd he (by decide)
  · exact absurd hle (by decide)

end Json
end ElmAssay
