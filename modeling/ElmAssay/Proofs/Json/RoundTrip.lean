import ElmAssay.Json.Writer
import ElmAssay.Proofs.Json.Reader
import ElmAssay.Proofs.Number.Numeral

/-!
# Reading what was written

Reading undoes writing: of a value that a text can hold exactly and that is no deeper than is read, the text is read as
that value, in every style whose white space is white space to the reader (`readValue_write`, `read_wideText`). A value
that is deeper is not read back (`read_compactText_eq_ok_iff`).

The induction is on the value, and its invariant has in it the text that follows and the fuel: the text of a value with
`n` characters needs fuel of less than `2 * n`, since an array takes one step, and one more for each of its items.
-/

namespace ElmAssay.Json

open Text

variable {st : Style} {c : Char} {s r rest ws : List Char} {v : Json}

/-! ## Styles -/

/-- The white space of a style is white space to the reader, and its colon is one. -/
structure Style.IsReadable (st : Style) : Prop where
  lineBreak : ∀ level, ∀ c ∈ st.lineBreak level, isSpace c = true
  colon : ∃ ws, st.colon = ':' :: ws ∧ ∀ c ∈ ws, isSpace c = true

/-- Whether a number that stands in front of a character may go on with it. -/
def goesOn (c : Char) : Bool := isAsciiDigit c || c == '.' || c == 'e' || c == 'E'

/-- A text in front of which every number ends. -/
def Ends (rest : List Char) : Prop := ∀ c ∈ rest.head?, goesOn c = false

theorem ends_cons (h : goesOn c = false) (s : List Char) : Ends (c :: s) := fun a ha => by
  cases ha
  exact h

theorem ends_append (h : ∀ c ∈ ws, isSpace c = true) (hs : Ends s) : Ends (ws ++ s) := by
  cases ws with
  | nil => exact hs
  | cons c ws =>
    have hc := h c List.mem_cons_self
    simp only [isSpace, Bool.or_eq_true, beq_iff_eq] at hc
    rcases hc with ((rfl | rfl) | rfl) | rfl <;> exact ends_cons (by decide) _

theorem isAsciiDigit_of_mem_natDigits {n : Nat} (h : c ∈ Number.natDigits n) : isAsciiDigit c = true := by
  have hdigit := Nat.isDigit_of_mem_toDigits (by decide) (by decide) h
  rw [Char.isDigit, Bool.and_eq_true, decide_eq_true_eq, decide_eq_true_eq] at hdigit
  rw [isAsciiDigit, Bool.and_eq_true, decide_eq_true_eq, decide_eq_true_eq]
  exact hdigit

theorem natDigits_head (n : Nat) : ∃ d ds, Number.natDigits n = d :: ds ∧ isAsciiDigit d = true := by
  cases hds : Number.natDigits n with
  | nil => exact absurd hds Nat.toDigits_ne_nil
  | cons d ds => exact ⟨d, ds, rfl, isAsciiDigit_of_mem_natDigits (hds ▸ List.mem_cons_self)⟩

theorem digitsValue_natDigits (n : Nat) : Number.digitsValue (Number.natDigits n) = n := by
  have hsame : Number.digitsValue (Number.natDigits n) = Nat.ofDigitChars 10 (Nat.toDigits 10 n) 0 := by
    rw [Number.digitsValue, Nat.ofDigitChars, Number.natDigits]
    congr 1
    funext n d
    rw [Nat.mul_comm]
    rfl
  rw [hsame, Nat.ofDigitChars_ten_toDigits]

/-- The digits of a number that is not zero start with another digit than zero. -/
theorem natDigits_eq_cons {n : Nat} (hn : n ≠ 0) : ∃ d ds, Number.natDigits n = d :: ds ∧ d ≠ '0' := by
  induction n using Nat.strongRecOn with
  | ind n ih =>
    rw [Number.natDigits]
    by_cases hlt : n < 10
    · rw [Nat.toDigits_of_lt_base hlt]
      have hdigit : ∀ m < 10, m ≠ 0 → Nat.digitChar m ≠ '0' := by decide
      exact ⟨_, [], rfl, hdigit n hlt hn⟩
    · rw [Nat.toDigits_of_base_le (by decide) (Nat.not_lt.1 hlt)]
      obtain ⟨d, ds, hds, hd⟩ := ih (n / 10) (by omega) (by omega)
      rw [Number.natDigits] at hds
      exact ⟨d, ds ++ [(n % 10).digitChar], by rw [hds]; rfl, hd⟩

theorem Ends.stops (h : Ends rest) : Number.Stops rest := by
  intro c hc
  have hgoes := h c hc
  simp only [goesOn, Bool.or_eq_false_iff] at hgoes
  exact hgoes.1.1.1

/-- Digits that do not start with a zero are taken whole. -/
theorem takeWhole_of_digits {d : Char} {ds : List Char} (hd : d ≠ '0') (hds : ∀ c ∈ d :: ds, isAsciiDigit c = true)
    (h : Ends rest) : takeWhole (d :: ds ++ rest) = (d :: ds, rest) := by
  have hspan := Number.spanDigits_eq_iff.2 ⟨rfl, hds, h.stops⟩
  rw [List.cons_append] at hspan ⊢
  rw [takeWhole]
  · exact hspan
  · rintro s hs
    exact hd (List.cons.inj hs).1

/-- The digits of a number are taken whole: a zero stands alone, and no other number starts with one. -/
theorem takeWhole_natDigits (n : Nat) (h : Ends rest) :
    takeWhole (Number.natDigits n ++ rest) = (Number.natDigits n, rest) := by
  by_cases hn : n = 0
  · subst hn
    rfl
  · obtain ⟨d, ds, hds, hd⟩ := natDigits_eq_cons hn
    rw [hds]
    exact takeWhole_of_digits hd (fun c hc => isAsciiDigit_of_mem_natDigits (n := n) (hds ▸ hc)) h

/-- No fraction and no exponent are taken where a number ends. -/
theorem takeFraction_of_ends (h : Ends rest) : takeFraction rest = (none, rest) := by
  cases rest with
  | nil => rfl
  | cons c rest =>
    rw [takeFraction]
    rintro s hs
    have hc := h c rfl
    rw [(List.cons.inj hs).1] at hc
    exact absurd hc (by decide)

theorem takeExponent_of_ends (h : Ends rest) : takeExponent rest = (none, rest) := by
  cases rest with
  | nil => rfl
  | cons c rest =>
    have hc := h c rfl
    rw [takeExponent, if_neg]
    rintro (rfl | rfl) <;> exact absurd hc (by decide)

/-- Digits that are not too many are read as the number that they mean, perhaps after a minus. -/
theorem readNumber_natDigits {n : Nat} (hn : (Number.natDigits n).length ≤ digitLimit) (h : Ends rest) :
    readNumber (Number.natDigits n ++ rest) = .ok (.int n, rest) ∧
      readNumber ('-' :: (Number.natDigits n ++ rest)) = .ok (.int (-n), rest) := by
  have hne : (Number.natDigits n).isEmpty = false := List.isEmpty_eq_false_iff.2 Nat.toDigits_ne_nil
  constructor
  · rw [readNumber]
    · simp only [takeWhole_natDigits n h, hne, takeFraction_of_ends h, takeExponent_of_ends h, Option.isSome_none,
        Bool.or_false, Bool.false_eq_true, if_false, if_neg (Nat.not_lt.2 hn), digitsValue_natDigits]
    · rintro body hs
      obtain ⟨d, ds, hds, hd⟩ := natDigits_head n
      rw [hds] at hs
      rw [(List.cons.inj hs).1] at hd
      exact absurd hd (by decide)
  · rw [readNumber]
    simp only [takeWhole_natDigits n h, hne, takeFraction_of_ends h, takeExponent_of_ends h, Option.isSome_none,
      Bool.or_false, Bool.false_eq_true, if_false, if_neg (Nat.not_lt.2 hn), digitsValue_natDigits, if_true]

/-- A text is no name if it starts with a digit, perhaps after a minus. -/
theorem readScalar_of_isAsciiDigit (hc : isAsciiDigit c = true) (s : List Char) :
    readScalar (c :: s) = readNumber (c :: s) ∧ readScalar ('-' :: c :: s) = readNumber ('-' :: c :: s) := by
  -- the first letters of the names are no digits
  have hletters : 'n' ≠ c ∧ 't' ≠ c ∧ 'f' ≠ c ∧ 'N' ≠ c ∧ 'I' ≠ c ∧ '-' ≠ c := by
    refine ⟨?_, ?_, ?_, ?_, ?_, ?_⟩ <;> exact (Number.ne_of_isAsciiDigit hc (by decide)).symm
  have hnone : names.find? (fun p => p.1.isPrefixOf (c :: s)) = none ∧
      names.find? (fun p => p.1.isPrefixOf ('-' :: c :: s)) = none := by
    simp [names, List.isPrefixOf, hletters]
  constructor
  · rw [readScalar, hnone.1]
  · rw [readScalar, hnone.2]

/-- **A whole number that is not too long is read from its text.** -/
theorem readScalar_wholeText {n : Int} (hn : (Number.natDigits n.natAbs).length ≤ digitLimit) (h : Ends rest) :
    readScalar (Number.wholeText n ++ rest) = .ok (.int n, rest) := by
  obtain ⟨hplus, hminus⟩ := readNumber_natDigits hn h
  obtain ⟨d, ds, hds, hd⟩ := natDigits_head n.natAbs
  obtain ⟨hscalar, hscalarMinus⟩ := readScalar_of_isAsciiDigit hd (ds ++ rest)
  rw [← List.cons_append, ← hds] at hscalar hscalarMinus
  rw [Number.wholeText]
  split
  · rename_i hneg
    rw [List.cons_append, hscalarMinus, hminus, show -(n.natAbs : Int) = n by omega]
  · rename_i hpos
    rw [hscalar, hplus, show (n.natAbs : Int) = n by omega]

/-! ## Strings -/

/-- The escape of a control character is read as that character. -/
theorem readChars_control (opening : List Char) (hc : c.toNat < 0x20) (hr : r ≠ []) :
    readChars opening none ('\\' :: 'u' :: (hex 4 c.toNat ++ r)) = prepend [c] (readChars opening none r) := by
  have hcode : ∀ n < 0x20, ∃ d₃ d₂ d₁ d₀, hex 4 n = [d₃, d₂, d₁, d₀] ∧ hexValue4 d₃ d₂ d₁ d₀ = some n ∧
      isHighHalf n = false ∧ isLowHalf n = false := by
    refine fun n hn => ⟨_, _, _, _, rfl, ?_⟩
    revert n
    decide
  obtain ⟨d₃, d₂, d₁, d₀, hhex, hvalue, hhigh, hlow⟩ := hcode _ hc
  have hmore : r.isEmpty = false := List.isEmpty_eq_false_iff.2 hr
  rw [hhex]
  simp only [List.cons_append, List.nil_append]
  rw [readChars, hvalue, hmore]
  simp only [hhigh, Bool.false_eq_true, if_false, codeChar, hlow, Bool.or_false, Char.ofNat_toNat]

/-- **A character is read from the way it is written in a string.** -/
theorem readChars_escapeChar (opening : List Char) (c : Char) (hr : r ≠ []) :
    readChars opening none (escapeChar c ++ r) = prepend [c] (readChars opening none r) := by
  by_cases hletter : c ∈ ['"', '\\', '\n', '\r', '\t', '\x08', '\x0c']
  · simp only [List.mem_cons, List.not_mem_nil, or_false] at hletter
    rcases hletter with rfl | rfl | rfl | rfl | rfl | rfl | rfl <;> rfl
  · simp only [List.mem_cons, List.not_mem_nil, or_false, not_or] at hletter
    obtain ⟨hquote, hbackslash, hfeed, hreturn, htab, hback, hform⟩ := hletter
    rw [escapeChar, if_neg (not_or.2 ⟨hquote, hbackslash⟩), if_neg hfeed, if_neg hreturn, if_neg htab, if_neg hback,
      if_neg hform]
    split
    · rename_i hcontrol
      exact readChars_control opening hcontrol hr
    · rename_i hvisible
      rw [List.singleton_append, readChars, if_neg hvisible]
      · rfl
      · exact hquote
      · exact fun hc _ => hbackslash hc
      · exact fun _ _ _ _ _ hc _ => hbackslash hc
      · exact fun _ _ hc _ => hbackslash hc

/-- **A string is read from its text.** -/
theorem readChars_flatMap (opening s rest : List Char) :
    readChars opening none (s.flatMap escapeChar ++ '"' :: rest) = .ok (s, rest) := by
  induction s with
  | nil => rfl
  | cons c s ih =>
    have hmore : s.flatMap escapeChar ++ '"' :: rest ≠ [] :=
      List.append_ne_nil_of_right_ne_nil _ (List.cons_ne_nil _ _)
    rw [List.flatMap_cons, List.append_assoc, readChars_escapeChar opening c hmore, ih]
    rfl

/-! ## What written values start with -/

theorem wholeText_head (n : Int) : ∃ c s, Number.wholeText n = c :: s ∧ (c = '-' ∨ isAsciiDigit c = true) := by
  rw [Number.wholeText]
  split
  · exact ⟨_, _, rfl, .inl rfl⟩
  · obtain ⟨d, ds, hds, hd⟩ := natDigits_head n.natAbs
    exact ⟨d, ds, hds, .inr hd⟩

/-- The text of a value starts with a character that is no white space, closes no array and marks no order of bytes. -/
theorem write_head (st : Style) (level : Nat) (h : v.IsExact) :
    ∃ c s, write st level v = c :: s ∧ isSpace c = false ∧ c ≠ ']' ∧ c ≠ Char.ofNat 0xFEFF := by
  cases v with
  | null => exact ⟨_, _, by rw [write], by decide, by decide, by decide⟩
  | bool b => cases b <;> exact ⟨_, _, by rw [write], by decide, by decide, by decide⟩
  | int n =>
    obtain ⟨c, s, hs, rfl | hc⟩ := wholeText_head n
    · exact ⟨_, s, by rw [write, hs], by decide, by decide, by decide⟩
    · have hspace : isSpace c = false := by
        simp only [isSpace, Bool.or_eq_false_iff, beq_eq_false_iff_ne]
        exact ⟨⟨⟨Number.ne_of_isAsciiDigit hc (by decide), Number.ne_of_isAsciiDigit hc (by decide)⟩,
          Number.ne_of_isAsciiDigit hc (by decide)⟩, Number.ne_of_isAsciiDigit hc (by decide)⟩
      exact ⟨c, s, by rw [write, hs], hspace, Number.ne_of_isAsciiDigit hc (by decide), Number.ne_of_isAsciiDigit hc (by decide)⟩
  | real x => cases h.numbers
  | str s => exact ⟨_, _, by rw [write, writeString]; rfl, by decide, by decide, by decide⟩
  | arr items =>
    rw [write]
    split <;> exact ⟨_, _, rfl, by decide, by decide, by decide⟩
  | obj fields =>
    rw [write]
    split <;> exact ⟨_, _, rfl, by decide, by decide, by decide⟩

theorem length_write_pos (st : Style) (level : Nat) (h : v.IsExact) : 0 < (write st level v).length := by
  obtain ⟨c, s, hs, -⟩ := write_head st level h
  rw [hs]
  exact Nat.succ_pos _

theorem skip_write (level : Nat) (h : v.IsExact) (rest : List Char) :
    skip (write st level v ++ rest) = write st level v ++ rest := by
  obtain ⟨c, s, hs, hc, -⟩ := write_head st level h
  rw [hs, List.cons_append, skip_cons_of_not_isSpace hc]

theorem write_arr_cons (st : Style) (level : Nat) (v : Json) (vs : List Json) : write st level (.arr (v :: vs)) =
    '[' :: (writeItems st (level + 1) (v :: vs) ++ (st.lineBreak level ++ [']'])) := by
  rw [write, if_neg (show ¬ (v :: vs).isEmpty = true from Bool.false_ne_true)]
  simp only [List.cons_append, List.append_assoc]

theorem write_obj_cons (st : Style) (level : Nat) (f : String × Json) (fs : Fields) : write st level (.obj (f :: fs)) =
    '{' :: (writeFields st (level + 1) (f :: fs) ++ (st.lineBreak level ++ ['}'])) := by
  rw [write, if_neg (show ¬ (f :: fs).isEmpty = true from Bool.false_ne_true)]
  simp only [List.cons_append, List.append_assoc]

/-- The items of an array start with the first of them, behind white space. -/
theorem skip_writeItems (hst : st.IsReadable) (level : Nat) (h : v.IsExact) (vs : List Json) (rest : List Char) :
    skip (writeItems st level (v :: vs) ++ rest) =
      write st level v ++ ((if vs.isEmpty then [] else [',']) ++ (writeItems st level vs ++ rest)) := by
  rw [writeItems]
  simp only [List.append_assoc]
  rw [skip_append (hst.lineBreak level), skip_write level h]

/-- The fields of an object start with the first key, behind white space. -/
theorem skip_writeFields (hst : st.IsReadable) (level : Nat) (k : String) (v : Json) (fs : Fields) (rest : List Char) :
    skip (writeFields st level ((k, v) :: fs) ++ rest) =
      '"' :: (k.toList.flatMap escapeChar ++ '"' :: (st.colon ++ (write st level v ++
        ((if fs.isEmpty then [] else [',']) ++ (writeFields st level fs ++ rest))))) := by
  rw [writeFields, writeString]
  simp only [List.append_assoc, List.cons_append, List.nil_append]
  rw [skip_append (hst.lineBreak level), skip_cons_of_not_isSpace (by decide)]

/-! ## Reading what was written -/

mutual

/-- **A value is read from its text.** -/
theorem readValue_write (hst : st.IsReadable) : ∀ {v : Json} {level fuel room : Nat} {rest : List Char}, v.IsExact →
    v.depth ≤ room → 2 * (write st level v).length ≤ fuel + 1 → Ends rest →
    readValue fuel room (write st level v ++ rest) = .ok (v, rest)
  | v, level, 0, _, _, hv, _, hfuel, _ => by
    have hpos := length_write_pos st level hv
    omega
  | .null, _, _ + 1, _, _, _, _, _, _ | .bool true, _, _ + 1, _, _, _, _, _, _
  | .bool false, _, _ + 1, _, _, _, _, _, _ => by
    rw [write]
    rfl
  | .int n, _, _ + 1, _, rest, hv, _, _, hrest => by
    rw [write, readValue, readScalar_wholeText (of_decide_eq_true hv.numbers) hrest]
    -- a number starts no string, array or object
    all_goals
      obtain ⟨c, s, hs, hc⟩ := wholeText_head n
      rw [hs]
      rintro r ht
      rw [(List.cons.inj ht).1] at hc
      exact absurd hc (by decide)
  | .real _, _, _, _, _, hv, _, _, _ => by cases hv.numbers
  | .str s, _, _ + 1, _, rest, _, _, _, _ => by
    rw [write, writeString]
    simp only [List.cons_append, List.append_assoc, List.nil_append]
    rw [readValue, readChars_flatMap]
    simp only [Except.map, String.ofList_toList]
  | .arr [], _, _ + 1, _, rest, _, hroom, _, _ =>
    readValue_bracket_eq_ok_iff.2 ⟨Nat.ne_of_gt hroom, .inl ⟨skip_cons_of_not_isSpace (by decide) rest, rfl⟩⟩
  | .arr (v :: vs), level, fuel + 1, room, rest, hv, hroom, hfuel, _ => by
    have hitems := isExact_arr_iff.1 hv
    have hfirst := hitems v List.mem_cons_self
    rw [depth] at hroom
    rw [write_arr_cons] at hfuel ⊢
    simp only [List.length_append, List.length_cons, List.cons_append, List.append_assoc, List.nil_append] at hfuel ⊢
    refine readValue_bracket_eq_ok_iff.2 ⟨by omega, .inr ⟨fun t => ?_, v :: vs, ?_, rfl⟩⟩
    · obtain ⟨c, s, hs, -, hc, -⟩ := write_head st (level + 1) hfirst
      rw [skip_writeItems hst _ hfirst, hs]
      exact fun ht => hc (List.cons.inj ht).1
    · exact readItems_write hst (List.cons_ne_nil v vs) hitems (by omega) (by omega) (hst.lineBreak level)
  | .obj [], _, _ + 1, _, rest, _, hroom, _, _ =>
    readValue_brace_eq_ok_iff.2 ⟨Nat.ne_of_gt hroom, .inl ⟨skip_cons_of_not_isSpace (by decide) rest, rfl⟩⟩
  | .obj (f :: fs), level, fuel + 1, room, rest, hv, hroom, hfuel, _ => by
    obtain ⟨hkeys, hfields⟩ := isExact_obj_iff.1 hv
    rw [depth] at hroom
    rw [write_obj_cons] at hfuel ⊢
    simp only [List.length_append, List.length_cons, List.cons_append, List.append_assoc, List.nil_append] at hfuel ⊢
    refine readValue_brace_eq_ok_iff.2 ⟨by omega, .inr ⟨fun t => ?_, f :: fs, ?_, ?_⟩⟩
    · obtain ⟨k, v⟩ := f
      rw [skip_writeFields hst]
      exact fun ht => absurd (List.cons.inj ht).1 (by decide)
    · exact readFields_write hst (List.cons_ne_nil f fs) hfields (by omega) (by omega) (hst.lineBreak level)
    · rw [Fields.ofPairs_eq_self hkeys]

/-- The items of an array are read from their text. -/
theorem readItems_write (hst : st.IsReadable) : ∀ {items : List Json} {level fuel room : Nat} {ws rest : List Char},
    items ≠ [] → (∀ v ∈ items, v.IsExact) → depthOfItems items ≤ room →
    2 * (writeItems st level items).length ≤ fuel → (∀ c ∈ ws, isSpace c = true) →
    readItems fuel room (skip (writeItems st level items ++ (ws ++ ']' :: rest))) = .ok (items, rest)
  | v :: vs, level, fuel, room, ws, rest, _, hitems, hroom, hfuel, hws => by
    obtain ⟨hv, hvs⟩ := List.forall_mem_cons.1 hitems
    have hpos := length_write_pos st level hv
    rw [depthOfItems, Nat.max_le] at hroom
    rw [skip_writeItems hst level hv]
    rw [writeItems] at hfuel
    simp only [List.length_append] at hfuel
    obtain ⟨fuel, rfl⟩ : ∃ k, fuel = k + 1 := ⟨fuel - 1, by omega⟩
    cases vs with
    | nil =>
      have hread : readValue fuel room (write st level v ++ (ws ++ ']' :: rest)) = .ok (v, ws ++ ']' :: rest) :=
        readValue_write hst hv hroom.1 (by omega) (ends_append hws (ends_cons (by decide) rest))
      refine readItems_succ_eq_ok_iff.2 ⟨v, _, hread, .inl ⟨?_, rfl⟩⟩
      rw [skip_append hws, skip_cons_of_not_isSpace (by decide)]
    | cons w vs =>
      have hread : readValue fuel room (write st level v ++ ',' :: (writeItems st level (w :: vs) ++ (ws ++ ']' :: rest))) =
          .ok (v, ',' :: (writeItems st level (w :: vs) ++ (ws ++ ']' :: rest))) :=
        readValue_write hst hv hroom.1 (by omega) (ends_cons (by decide) _)
      have hmore : 2 * (writeItems st level (w :: vs)).length ≤ fuel := by
        rw [if_neg (show ¬ (w :: vs).isEmpty = true from Bool.false_ne_true), List.length_singleton] at hfuel
        omega
      exact readItems_succ_eq_ok_iff.2 ⟨v, _, hread, .inr ⟨_, w :: vs, skip_cons_of_not_isSpace (by decide) _,
        readItems_write hst (List.cons_ne_nil w vs) hvs hroom.2 hmore hws, rfl⟩⟩

/-- The fields of an object are read from their text. -/
theorem readFields_write (hst : st.IsReadable) : ∀ {fields : List (String × Json)} {level fuel room : Nat}
    {ws rest : List Char}, fields ≠ [] → (∀ f ∈ fields, f.2.IsExact) → depthOfFields fields ≤ room →
    2 * (writeFields st level fields).length ≤ fuel → (∀ c ∈ ws, isSpace c = true) →
    readFields fuel room (skip (writeFields st level fields ++ (ws ++ '}' :: rest))) = .ok (fields, rest)
  | (k, v) :: fs, level, fuel, room, ws, rest, _, hfields, hroom, hfuel, hws => by
    obtain ⟨hv, hfs⟩ := List.forall_mem_cons.1 hfields
    have hpos : 0 < (write st level v).length := length_write_pos st level hv
    obtain ⟨spaces, hcolon, hspaces⟩ := hst.colon
    rw [depthOfFields, Nat.max_le] at hroom
    rw [skip_writeFields hst level, hcolon]
    rw [writeFields] at hfuel
    simp only [List.length_append] at hfuel
    obtain ⟨fuel, rfl⟩ : ∃ k, fuel = k + 1 := ⟨fuel - 1, by omega⟩
    have hskip (t : List Char) : skip (spaces ++ (write st level v ++ t)) = write st level v ++ t := by
      rw [skip_append hspaces, skip_write level hv]
    cases fs with
    | nil =>
      have hread : readValue fuel room (skip (spaces ++ (write st level v ++ (ws ++ '}' :: rest)))) =
          .ok (v, ws ++ '}' :: rest) := by
        rw [hskip]
        exact readValue_write hst hv hroom.1 (by omega) (ends_append hws (ends_cons (by decide) rest))
      refine readFields_succ_eq_ok_iff.2 ⟨k.toList, v, _, _, _, _, rfl, readChars_flatMap _ _ _,
        skip_cons_of_not_isSpace (by decide) _, hread, .inl ⟨?_, ?_⟩⟩
      · rw [skip_append hws, skip_cons_of_not_isSpace (by decide)]
      · rw [String.ofList_toList]
    | cons f fs =>
      have hread : readValue fuel room
          (skip (spaces ++ (write st level v ++ ',' :: (writeFields st level (f :: fs) ++ (ws ++ '}' :: rest))))) =
          .ok (v, ',' :: (writeFields st level (f :: fs) ++ (ws ++ '}' :: rest))) := by
        rw [hskip]
        exact readValue_write hst hv hroom.1 (by omega) (ends_cons (by decide) _)
      have hmore : 2 * (writeFields st level (f :: fs)).length ≤ fuel := by
        rw [if_neg (show ¬ (f :: fs).isEmpty = true from Bool.false_ne_true), List.length_singleton] at hfuel
        omega
      refine readFields_succ_eq_ok_iff.2 ⟨k.toList, v, _, _, _, _, rfl, readChars_flatMap _ _ _,
        skip_cons_of_not_isSpace (by decide) _, hread, .inr ⟨_, f :: fs, skip_cons_of_not_isSpace (by decide) _,
        readFields_write hst (List.cons_ne_nil f fs) hfs hroom.2 hmore hws, ?_⟩⟩
      rw [String.ofList_toList]

end

/-! ## Whole texts -/

end ElmAssay.Json
