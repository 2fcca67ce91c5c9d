import ElmAssay.Text.Classes
import Mathlib.Data.List.TakeDrop
import Mathlib.Data.List.TakeWhile

/-!
# What is taken off a text

A text is what is taken off it at its ends and what is left between them (`exists_trim`), and what is left is known as
soon as none of its characters could be taken off (`trim_surround`).
-/

namespace ElmAssay.Text

variable {p : Char → Bool} {s w front back : List Char}

theorem dropWhile_of_all (h : ∀ c ∈ s, p c = false) : s.dropWhile p = s := by
  cases s with
  | nil => rfl
  | cons c s => exact List.dropWhile_cons_of_neg (by rw [h c List.mem_cons_self]; exact Bool.false_ne_true)

theorem trim_of_all (h : ∀ c ∈ s, p c = false) : trim p s = s := by
  rw [trim, dropTrailing, dropLeading, dropWhile_of_all h, dropWhile_of_all fun c hc => h c (List.mem_reverse.1 hc),
    List.reverse_reverse]

theorem trim_append_left (h : ∀ c ∈ front, p c = true) (s : List Char) : trim p (front ++ s) = trim p s := by
  rw [trim, trim, dropLeading, dropLeading, List.dropWhile_append_of_pos h]

theorem trim_append_right (h : ∀ c ∈ back, p c = true) (hw : ∀ c ∈ w, p c = false) : trim p (w ++ back) = w := by
  cases w with
  | nil => rw [List.nil_append, ← List.append_nil back, trim_append_left h]; rfl
  | cons c w =>
    have hc : ¬ p c = true := by rw [hw c List.mem_cons_self]; exact Bool.false_ne_true
    rw [trim, dropLeading, List.cons_append, List.dropWhile_cons_of_neg hc, ← List.cons_append, dropTrailing,
      List.reverse_append, List.dropWhile_append_of_pos fun c hc => h c (List.mem_reverse.1 hc),
      dropWhile_of_all fun c hc => hw c (List.mem_reverse.1 hc), List.reverse_reverse]

/-- **Between what can be taken off, a text with nothing to take off is what is left.** -/
theorem trim_surround (hfront : ∀ c ∈ front, p c = true) (hback : ∀ c ∈ back, p c = true) (hw : ∀ c ∈ w, p c = false) :
    trim p (front ++ (w ++ back)) = w := by
  rw [trim_append_left hfront, trim_append_right hback hw]

/-- What is taken off a text stands in front of the rest and behind it. -/
theorem exists_trim (p : Char → Bool) (s : List Char) : ∃ front back, s = front ++ (trim p s ++ back) ∧
    (∀ c ∈ front, p c = true) ∧ (∀ c ∈ back, p c = true) := by
  refine ⟨s.takeWhile p, ((dropLeading p s).reverse.takeWhile p).reverse, ?_, fun c hc => List.mem_takeWhile_imp hc,
    fun c hc => List.mem_takeWhile_imp (List.mem_reverse.1 hc)⟩
  rw [trim, dropTrailing, ← List.reverse_append, List.takeWhile_append_dropWhile, List.reverse_reverse, dropLeading,
    List.takeWhile_append_dropWhile]

theorem mem_of_mem_trim {c : Char} (h : c ∈ trim p s) : c ∈ s := by
  obtain ⟨front, back, hs, -, -⟩ := exists_trim p s
  rw [hs]
  exact List.mem_append_right front (List.mem_append_left back h)

theorem trim_map (p : Char → Bool) (f : Char → Char) (s : List Char) : trim p (s.map f) = (trim (p ∘ f) s).map f := by
  rw [trim, trim, dropTrailing, dropTrailing, dropLeading, dropLeading, List.dropWhile_map, ← List.map_reverse,
    List.dropWhile_map, List.map_reverse]

end ElmAssay.Text
