import ElmAssay.Elm.Name
import ElmAssay.Text.Classes
import Mathlib.Init

/-!
# The characters of names

The characters of a name are word characters (`isWord_of_isAsciiWord`), and a name does not start with white space
(`isBlank_of_isCapital`). No white space is a word character, in any script (`isWord_of_isBlank`). A dotted name that
consists of the names of modules has only word characters and dots (`mem_dotted`).
-/

namespace ElmAssay.Elm

open Text

variable {c : Char}

theorem isWord_of_isAsciiWord (h : isAsciiWord c = true) : isWord c = true := by
  have hlow : c.toNat < 128 := by
    simp only [isAsciiWord, isAsciiLetter, isAsciiDigit, Bool.or_eq_true, Bool.and_eq_true, decide_eq_true_eq,
      Char.le_def, beq_iff_eq] at h
    rcases h with ((⟨-, h⟩ | ⟨-, h⟩) | ⟨-, h⟩) | rfl
    · exact Nat.lt_of_le_of_lt (UInt32.le_iff_toNat_le.1 h) (by decide)
    · exact Nat.lt_of_le_of_lt (UInt32.le_iff_toNat_le.1 h) (by decide)
    · exact Nat.lt_of_le_of_lt (UInt32.le_iff_toNat_le.1 h) (by decide)
    · decide
  rw [isWord, if_pos hlow]
  exact h

theorem isAsciiWord_of_isCapital (h : isCapital c = true) : isAsciiWord c = true := by
  rw [isCapital] at h
  simp [isAsciiWord, isAsciiLetter, h]

theorem isBlank_of_isCapital (h : isCapital c = true) : isBlank c = false := by
  have hall : ∀ n < 91, 65 ≤ n → blankRanges.mem n = false := by decide
  rw [isCapital, Bool.and_eq_true, decide_eq_true_eq, decide_eq_true_eq, Char.le_def, Char.le_def,
    UInt32.le_iff_toNat_le, UInt32.le_iff_toNat_le] at h
  exact hall c.toNat (Nat.lt_succ_of_le h.2) h.1

theorem isWord_of_isCapital (h : isCapital c = true) : isWord c = true :=
  isWord_of_isAsciiWord (isAsciiWord_of_isCapital h)

/-- White space is not among word characters. -/
theorem isWord_of_isBlank (h : isBlank c = true) : isWord c = false := by
  have hlow : ∀ n < 128, blankRanges.mem n = true → isWord (Char.ofNat n) = false := by decide
  have hhigh : ∀ b ∈ blankRanges, ∀ w ∈ wordRanges, b.2 < w.1 ∨ w.2 < b.1 := by decide +kernel
  by_cases hc : c.toNat < 128
  · have hword := hlow c.toNat hc h
    rwa [Char.ofNat_toNat] at hword
  · rw [isWord, if_neg hc, ← Bool.not_eq_true, Ranges.mem_iff]
    rintro ⟨w, hw, hlw, hwl⟩
    obtain ⟨b, hb, hlb, hbl⟩ := Ranges.mem_iff.1 h
    have hapart := hhigh b hb w hw
    omega

theorem all_of_isModuleWord {word : List Char} (h : isModuleWord word = true) : word.all isAsciiWord = true := by
  cases word with
  | nil => rfl
  | cons c word =>
    rw [isModuleWord, Bool.and_eq_true] at h
    rw [List.all_cons, isAsciiWord_of_isCapital h.1, h.2]
    rfl

/-- A dotted name of such parts has word characters and dots. -/
theorem mem_dotted : ∀ {name : List Char}, (cut '.' name).all (·.all isAsciiWord) = true →
    ∀ c ∈ name, c = '.' ∨ isWord c = true
  | [], _, _, hc => by cases hc
  | a :: name, h, c, hc => by
    obtain ⟨piece, pieces, hcut⟩ := List.exists_cons_of_ne_nil (cut_ne_nil '.' name)
    by_cases ha : a = '.'
    · rw [cut, if_pos ha, List.all_cons, Bool.and_eq_true] at h
      rcases List.mem_cons.1 hc with rfl | hc
      · exact .inl ha
      · exact mem_dotted h.2 c hc
    · rw [cut, if_neg ha, hcut] at h
      simp only [List.all_cons, Bool.and_eq_true] at h
      rcases List.mem_cons.1 hc with rfl | hc
      · exact .inr (isWord_of_isAsciiWord h.1.1)
      · exact mem_dotted (by rw [hcut, List.all_cons, Bool.and_eq_true]; exact ⟨h.1.2, h.2⟩) c hc

/-- A dotted name whose parts are names of modules starts with a capital letter. -/
theorem head_of_dotted {name : List Char} (h : (cut '.' name).all isModuleWord = true) :
    ∃ c rest, name = c :: rest ∧ isCapital c = true := by
  cases name with
  | nil => exact absurd h (by decide)
  | cons c rest =>
    refine ⟨c, rest, rfl, ?_⟩
    rw [cut] at h
    split at h
    · exact absurd h (by simp [isModuleWord])
    · split at h <;> simp_all [isModuleWord]

end ElmAssay.Elm
