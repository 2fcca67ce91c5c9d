import ElmAssay.Text.Lines
import Mathlib.Init

/-!
# The pieces of a text

What cutting a text at a character does to texts that are put together: a separator between two texts ends a piece
(`cut_append_sep`), so the pieces of what was joined are those of its parts (`cut_joinWith`), and a text without the
separator goes in front of the first piece (`cut_append_of_not_mem`). No piece has the separator (`not_mem_of_mem_cut`).

A text is written as it is and read with every line end as a line feed, so what is read back is not always what was
written (`asRead`). No carriage return is left in it, and a text without one is read as it is.
-/

namespace ElmAssay.Text

variable {α : Type} [DecidableEq α] {sep : α} {s : List α}

theorem not_mem_of_mem_cut : ∀ {s piece : List α}, piece ∈ cut sep s → sep ∉ piece
  | [], piece, h => by
    rw [List.mem_singleton.1 h]
    exact List.not_mem_nil
  | c :: s, piece, h => by
    obtain ⟨first, rest, hcut⟩ := List.exists_cons_of_ne_nil (cut_ne_nil sep s)
    by_cases hc : c = sep
    · rw [cut, if_pos hc] at h
      rcases List.mem_cons.1 h with rfl | h
      · exact List.not_mem_nil
      · exact not_mem_of_mem_cut h
    · rw [cut, if_neg hc, hcut] at h
      rcases List.mem_cons.1 h with rfl | h
      · intro hmem
        rcases List.mem_cons.1 hmem with hsep | hmem
        · exact hc hsep.symm
        · exact not_mem_of_mem_cut (hcut ▸ List.mem_cons_self) hmem
      · exact not_mem_of_mem_cut (hcut ▸ List.mem_cons_of_mem _ h)

/-- The characters of joined pieces are those of the pieces and of the separator. -/
theorem mem_joinWith {α : Type} {sep : List α} {a : α} : ∀ {pieces : List (List α)}, a ∈ joinWith sep pieces →
    a ∈ sep ∨ ∃ piece ∈ pieces, a ∈ piece
  | [], h => by cases h
  | [piece], h => .inr ⟨piece, List.mem_singleton_self piece, h⟩
  | piece :: next :: pieces, h => by
    rw [joinWith] at h
    · rcases List.mem_append.1 h with h | h
      · rcases List.mem_append.1 h with h | h
        · exact .inr ⟨piece, List.mem_cons_self, h⟩
        · exact .inl h
      · rcases mem_joinWith h with h | ⟨piece', hmem, h⟩
        · exact .inl h
        · exact .inr ⟨piece', List.mem_cons_of_mem _ hmem, h⟩
    · exact List.cons_ne_nil next pieces

theorem mem_of_mem_cut {α : Type} [DecidableEq α] {sep : α} {a : α} : ∀ {s piece : List α}, piece ∈ cut sep s →
    a ∈ piece → a ∈ s
  | [], piece, h, ha => by
    rw [List.mem_singleton.1 h] at ha
    cases ha
  | c :: s, piece, h, ha => by
    obtain ⟨first, rest, hcut⟩ := List.exists_cons_of_ne_nil (cut_ne_nil sep s)
    have hs {piece : List α} (hpiece : piece ∈ first :: rest) (ha : a ∈ piece) : a ∈ s :=
      mem_of_mem_cut (hcut ▸ hpiece) ha
    rw [cut, hcut] at h
    split at h
    · rcases List.mem_cons.1 h with rfl | h
      · cases ha
      · exact List.mem_cons_of_mem c (hs h ha)
    · rcases List.mem_cons.1 h with rfl | h
      · rcases List.mem_cons.1 ha with rfl | ha
        · exact List.mem_cons_self
        · exact List.mem_cons_of_mem c (hs List.mem_cons_self ha)
      · exact List.mem_cons_of_mem c (hs (List.mem_cons_of_mem _ h) ha)

/-- A text without the separator goes in front of the first piece. -/
theorem cut_append_of_not_mem {first : List α} {rest : List (List α)} (hcut : cut sep s = first :: rest) :
    ∀ {a : List α}, sep ∉ a → cut sep (a ++ s) = (a ++ first) :: rest
  | [], _ => hcut
  | c :: a, h => by
    obtain ⟨hc, ha⟩ := not_or.1 fun hm => h (List.mem_cons.2 hm)
    rw [List.cons_append, cut, if_neg (Ne.symm hc), cut_append_of_not_mem hcut ha]
    rfl

theorem cut_of_not_mem (h : sep ∉ s) : cut sep s = [s] := by
  have hnil : cut sep ([] : List α) = [[]] := rfl
  have hcut := cut_append_of_not_mem hnil h
  rwa [List.append_nil] at hcut

theorem cut_append_sep (a b : List α) : cut sep (a ++ sep :: b) = cut sep a ++ cut sep b := by
  induction a with
  | nil => simp [cut]
  | cons c a ih =>
    obtain ⟨first, rest, hcut⟩ := List.exists_cons_of_ne_nil (cut_ne_nil sep a)
    rw [List.cons_append, cut, ih, cut, hcut]
    split <;> rfl

/-- The pieces of what was joined are the pieces of its parts. -/
theorem cut_joinWith : ∀ {parts : List (List α)}, parts ≠ [] → cut sep (joinWith [sep] parts) = parts.flatMap (cut sep)
  | [], h => absurd rfl h
  | [part], _ => by simp [joinWith]
  | part :: next :: parts, _ => by
    have hjoin : joinWith [sep] (part :: next :: parts) = part ++ sep :: joinWith [sep] (next :: parts) := by
      simp [joinWith]
    rw [hjoin, cut_append_sep, cut_joinWith (List.cons_ne_nil next parts)]
    rfl

/-- Pieces without the separator are what their join is cut into. -/
theorem cut_joinWith_of_not_mem {parts : List (List α)} (hne : parts ≠ []) (h : ∀ part ∈ parts, sep ∉ part) :
    cut sep (joinWith [sep] parts) = parts := by
  rw [cut_joinWith hne]
  clear hne
  induction parts with
  | nil => rfl
  | cons part parts ih =>
    rw [List.forall_mem_cons] at h
    rw [List.flatMap_cons, cut_of_not_mem h.1, ih h.2]
    rfl

theorem joinWith_append {α : Type} {sep : List α} {b : List (List α)} (hb : b ≠ []) : ∀ {a : List (List α)}, a ≠ [] →
    joinWith sep (a ++ b) = joinWith sep a ++ sep ++ joinWith sep b
  | [], ha => absurd rfl ha
  | [piece], _ => by
    obtain ⟨first, rest, rfl⟩ := List.exists_cons_of_ne_nil hb
    rfl
  | piece :: next :: a, _ => by
    have hcons (c : List (List α)) : joinWith sep (piece :: next :: c) = piece ++ sep ++ joinWith sep (next :: c) := rfl
    have hrest : joinWith sep (next :: (a ++ b)) = joinWith sep (next :: a) ++ sep ++ joinWith sep b :=
      joinWith_append hb (List.cons_ne_nil next a)
    rw [List.cons_append, List.cons_append, hcons, hrest, hcons]
    simp only [List.append_assoc]

/-! ## The text of a file that a text was written to -/

theorem not_mem_universalNewlines (s : List Char) : '\r' ∉ universalNewlines s := by
  fun_induction universalNewlines s with
  | case1 => exact List.not_mem_nil
  | case2 s ih =>
    intro h
    rcases List.mem_cons.1 h with h | h
    · exact absurd h (by decide)
    · exact ih h
  | case3 c s _ ih =>
    intro h
    rcases List.mem_cons.1 h with h | h
    · split at h
      · exact absurd h (by decide)
      · rename_i hc
        exact hc h.symm
    · exact ih h

theorem universalNewlines_of_not_mem {s : List Char} (h : '\r' ∉ s) : universalNewlines s = s := by
  fun_induction universalNewlines s with
  | case1 => rfl
  | case2 s _ => exact absurd List.mem_cons_self h
  | case3 c s _ ih =>
    obtain ⟨hc, hs⟩ := not_or.1 (fun hm => h (List.mem_cons.2 hm))
    rw [if_neg (Ne.symm hc), ih hs]

/-- A text as it is read from a file that it was written to. -/
def asRead (s : String) : String := String.ofList (universalNewlines s.toList)

theorem asRead_of_not_mem {s : String} (h : '\r' ∉ s.toList) : asRead s = s := by
  rw [asRead, universalNewlines_of_not_mem h, String.ofList_toList]

end ElmAssay.Text
