import ElmAssay.Number.Reading
import ElmAssay.Proofs.Text.Trim

/-!
# The grammar of numerals

Which texts are numbers in a setting, and which number each of them is, said without reading it (`IsReal`). A numeral
(`Numeral`) is a sign and either a word or digits with at most one point among them and perhaps an exponent. Its digits
are those of any script, with single low lines between them (`DigitRun`), and there may be white space around it.

A text is read exactly if it is such a number, and as that number (`readReal_eq_some_iff`). The reader first writes the
text in ASCII and leaves the low lines out; `Reduces` is this step, and a numeral with digits of any script is one whose
reduced form is a numeral with the digits of ASCII (`numeral_iff_exists_reduces`).
-/

namespace ElmAssay.Number

open Text

variable {a c : Char} {b : Option Char} {d : Nat} {r s s' t u w ds : List Char} {n : Int} {x : Binary64} {negative : Bool}

/-! ## The grammar -/

/-- The ASCII digit of a value. -/
def asciiDigit (d : Nat) : Char := Char.ofNat (48 + d)

/-- Digits of any script with single low lines between them, and the same digits in ASCII. -/
inductive DigitRun : List Char → List Char → Prop
  | last {c : Char} {d : Nat} : digitValue c = some d → DigitRun [c] [asciiDigit d]
  | next {c : Char} {d : Nat} {w ds : List Char} : digitValue c = some d → DigitRun w ds →
      DigitRun (c :: w) (asciiDigit d :: ds)
  | apart {c : Char} {d : Nat} {w ds : List Char} : digitValue c = some d → DigitRun w ds →
      DigitRun (c :: '_' :: w) (asciiDigit d :: ds)

/-- Digits of ASCII without anything between them. -/
def AsciiRun (w ds : List Char) : Prop := w = ds ∧ ds ≠ [] ∧ ∀ c ∈ ds, isAsciiDigit c = true

/-- A sign that may be left out, and whether it is a minus. -/
inductive Sign : List Char → Bool → Prop
  | none : Sign [] false
  | plus : Sign ['+'] false
  | minus : Sign ['-'] true

/-- Digits before and after a point, of which one side may be missing, and the point without digits after it; `Run` is
what a run of digits is. -/
inductive Mantissa (Run : List Char → List Char → Prop) : List Char → List Char → List Char → Prop
  | whole {w ds : List Char} : Run w ds → Mantissa Run w ds []
  | pointed {w ds : List Char} : Run w ds → Mantissa Run (w ++ ['.']) ds []
  | both {w ds w' ds' : List Char} : Run w ds → Run w' ds' → Mantissa Run (w ++ '.' :: w') ds ds'
  | fraction {w ds : List Char} : Run w ds → Mantissa Run ('.' :: w) [] ds

/-- An exponent that may be left out. -/
inductive Exponent (Run : List Char → List Char → Prop) : List Char → Int → Prop
  | none : Exponent Run [] 0
  | some {mark : Char} {sign w ds : List Char} {negative : Bool} : mark = 'e' ∨ mark = 'E' → Sign sign negative →
      Run w ds → Exponent Run (mark :: (sign ++ w)) (if negative then -(digitsValue ds : Int) else digitsValue ds)

/-- A number: a sign, and a word in any case or a decimal. -/
inductive Numeral (Run : List Char → List Char → Prop) : List Char → Binary64 → Prop
  | infinite {sign word : List Char} {negative : Bool} : Sign sign negative →
      word.map Char.toLower = "inf".toList ∨ word.map Char.toLower = "infinity".toList →
      Numeral Run (sign ++ word) (.infinite negative)
  | notANumber {sign word : List Char} {negative : Bool} : Sign sign negative →
      word.map Char.toLower = "nan".toList → Numeral Run (sign ++ word) .notANumber
  | decimal {sign m e whole fraction : List Char} {negative : Bool} {n : Int} : Sign sign negative →
      Mantissa Run m whole fraction → Exponent Run e n →
      Numeral Run (sign ++ (m ++ e)) (realOf negative whole fraction n)

/-- White space that may stand around a number: of the first 127 code points tab to carriage return and the space, above
them all white space. -/
def isAround (c : Char) : Bool := if c.toNat < 127 then isNarrowBlank c else isBlank c

/-- **A text is a number**: a numeral, with white space around it. -/
def IsReal (s : List Char) (x : Binary64) : Prop :=
  ∃ front numeral back, s = front ++ (numeral ++ back) ∧ (∀ c ∈ front, isAround c = true) ∧
    (∀ c ∈ back, isAround c = true) ∧ Numeral DigitRun numeral x

/-! ## Digits in ASCII -/

theorem isAsciiDigit_iff : isAsciiDigit c = true ↔ 48 ≤ c.toNat ∧ c.toNat ≤ 57 := by
  rw [isAsciiDigit, Bool.and_eq_true, decide_eq_true_eq, decide_eq_true_eq]
  rfl

theorem exists_zero (h : digitValue c = some d) : ∃ z ∈ digitZeros, z ≤ c.toNat ∧ c.toNat < z + 10 ∧ d = c.toNat - z := by
  rw [digitValue, Option.map_eq_some_iff] at h
  obtain ⟨z, hz, rfl⟩ := h
  have hin := List.find?_some hz
  rw [Bool.and_eq_true, decide_eq_true_eq, decide_eq_true_eq] at hin
  exact ⟨z, List.mem_of_find?_eq_some hz, hin.1, hin.2, rfl⟩

theorem isAsciiDigit_asciiDigit (h : digitValue c = some d) : isAsciiDigit (asciiDigit d) = true := by
  have hall : ∀ d < 10, isAsciiDigit (asciiDigit d) = true := by decide
  obtain ⟨z, -, hlow, hhigh, rfl⟩ := exists_zero h
  exact hall _ (by omega)

/-- No digit is white space. -/
theorem isBlank_of_digitValue (h : digitValue c = some d) : isBlank c = false := by
  have hapart : ∀ z ∈ digitZeros, ∀ r ∈ blankRanges, r.2 < z ∨ z + 10 ≤ r.1 := by decide
  obtain ⟨z, hz, hlow, hhigh, -⟩ := exists_zero h
  rw [isBlank, ← Bool.not_eq_true, Ranges.mem_iff]
  rintro ⟨r, hr, hrlow, hrhigh⟩
  have hz := hapart z hz r hr
  omega

theorem toAscii_of_lt (h : c.toNat < 127) : toAscii c = c := if_pos h

theorem toAscii_of_digitValue (h : digitValue c = some d) : toAscii c = asciiDigit d := by
  have hzeros : ∀ z ∈ digitZeros, z < 127 → z = 48 := by decide
  by_cases hc : c.toNat < 127
  · obtain ⟨z, hz, hlow, hhigh, rfl⟩ := exists_zero h
    obtain rfl := hzeros z hz (by omega)
    rw [toAscii_of_lt hc, asciiDigit, show 48 + (c.toNat - 48) = c.toNat by omega, Char.ofNat_toNat]
  · rw [toAscii, if_neg hc, if_neg (by rw [isBlank_of_digitValue h]; exact Bool.false_ne_true), h]
    rfl

theorem exists_digitValue (h : isAsciiDigit (toAscii c) = true) : ∃ d, digitValue c = some d := by
  by_cases hc : c.toNat < 127
  · rw [toAscii_of_lt hc, isAsciiDigit_iff] at h
    refine ⟨c.toNat - 48, ?_⟩
    rw [digitValue, digitZeros, List.find?_cons_of_pos]
    · rfl
    · rw [Bool.and_eq_true, decide_eq_true_eq, decide_eq_true_eq]
      omega
  · rw [toAscii, if_neg hc] at h
    split at h
    · exact absurd h (by decide)
    · split at h
      · exact ⟨_, ‹_›⟩
      · exact absurd h (by decide)

/-- A character that nothing else is written as in ASCII. -/
def isPlain (a : Char) : Bool := !isAsciiDigit a && a != ' ' && a != '?'

theorem eq_of_toAscii (ha : isPlain a = true) (h : toAscii c = a) : c = a := by
  by_cases hc : c.toNat < 127
  · rwa [toAscii_of_lt hc] at h
  · rw [isPlain, Bool.and_eq_true, Bool.and_eq_true, bne_iff_ne, bne_iff_ne, Bool.not_eq_true'] at ha
    by_cases hdigit : isAsciiDigit (toAscii c) = true
    · rw [h, ha.1.1] at hdigit
      cases hdigit
    · rw [toAscii, if_neg hc] at h
      split at h
      · exact absurd h.symm ha.1.2
      · split at h
        · rename_i d hd
          rw [toAscii_of_digitValue hd] at hdigit
          exact absurd (isAsciiDigit_asciiDigit hd) hdigit
        · exact absurd h.symm ha.2

/-- White space around a number is what the reader takes for white space once it is written in ASCII. -/
theorem isNarrowBlank_toAscii (c : Char) : isNarrowBlank (toAscii c) = isAround c := by
  by_cases hc : c.toNat < 127
  · rw [toAscii_of_lt hc, isAround, if_pos hc]
  · rw [isAround, if_neg hc]
    cases hblank : isBlank c with
    | true =>
      rw [toAscii, if_neg hc, if_pos hblank]
      rfl
    | false =>
      rw [toAscii, if_neg hc, if_neg (by rw [hblank]; exact Bool.false_ne_true)]
      have hdigits : ∀ d < 10, isNarrowBlank (Char.ofNat (48 + d)) = false := by decide
      split
      · rename_i d hd
        obtain ⟨z, -, hlow, hhigh, rfl⟩ := exists_zero hd
        exact hdigits _ (by omega)
      · rfl

/-! ## Low lines -/

/-- A text in ASCII without the low lines between digits is another text. -/
def Reduces (s t : List Char) : Prop := dropLowLines none (s.map toAscii) = some t

theorem dropLowLines_cons (h : c ≠ '_') (b : Option Char) (u : List Char) :
    dropLowLines b (c :: u) = (dropLowLines (some c) u).map (c :: ·) := by
  rw [dropLowLines]
  exact h

theorem dropLowLines_low (b : Option Char) (u : List Char) : dropLowLines b ('_' :: u) =
    if b.any isAsciiDigit && u.head?.any isAsciiDigit then dropLowLines (some '_') u else none := by
  rw [dropLowLines]

/-- What stands in front of a text matters only to a low line. -/
theorem dropLowLines_of_head? (h : u.head? ≠ some '_') (b : Option Char) : dropLowLines b u = dropLowLines none u := by
  cases u with
  | nil => rfl
  | cons c u =>
    have hc : c ≠ '_' := fun hc => h (by rw [hc]; rfl)
    rw [dropLowLines_cons hc, dropLowLines_cons hc]

theorem dropLowLines_of_not_digit (h : isAsciiDigit a = false) (u : List Char) :
    dropLowLines (some a) u = dropLowLines none u := by
  by_cases hu : u.head? = some '_'
  · obtain ⟨rest, rfl⟩ := List.head?_eq_some_iff.1 hu
    rw [dropLowLines_low, dropLowLines_low]
    simp [h]
  · exact dropLowLines_of_head? hu _

theorem head?_of_dropLowLines (h : dropLowLines none u = some t) : u.head? ≠ some '_' := by
  intro hu
  obtain ⟨rest, rfl⟩ := List.head?_eq_some_iff.1 hu
  rw [dropLowLines_low] at h
  cases h

theorem reduces_nil_iff : Reduces s [] ↔ s = [] := by
  constructor
  · intro h
    cases s with
    | nil => rfl
    | cons c s =>
      have hc : toAscii c ≠ '_' := fun hc => head?_of_dropLowLines h (by rw [List.map_cons, hc]; rfl)
      rw [Reduces, List.map_cons, dropLowLines_cons hc, Option.map_eq_some_iff] at h
      obtain ⟨_, -, h⟩ := h
      cases h
  · rintro rfl
    rfl

/-- A character that is no digit stands for itself. -/
theorem reduces_cons_iff (ha : isAsciiDigit a = false) :
    Reduces s (a :: t) ↔ ∃ c s', s = c :: s' ∧ toAscii c = a ∧ a ≠ '_' ∧ Reduces s' t := by
  constructor
  · intro h
    cases s with
    | nil => cases h
    | cons c s =>
      have hc : toAscii c ≠ '_' := fun hc => head?_of_dropLowLines h (by rw [List.map_cons, hc]; rfl)
      rw [Reduces, List.map_cons, dropLowLines_cons hc, Option.map_eq_some_iff] at h
      obtain ⟨t', ht', hcons⟩ := h
      obtain ⟨rfl, rfl⟩ := List.cons.inj hcons
      rw [dropLowLines_of_not_digit ha] at ht'
      exact ⟨c, s, rfl, rfl, hc, ht'⟩
  · rintro ⟨c, s, rfl, rfl, hc, h⟩
    rw [Reduces, List.map_cons, dropLowLines_cons hc, dropLowLines_of_not_digit ha, h]
    rfl

theorem DigitRun.head (h : DigitRun w ds) : ∃ c w', w = c :: w' ∧ isAsciiDigit (toAscii c) = true := by
  cases h with
  | last hd => exact ⟨_, _, rfl, by rw [toAscii_of_digitValue hd]; exact isAsciiDigit_asciiDigit hd⟩
  | next hd _ => exact ⟨_, _, rfl, by rw [toAscii_of_digitValue hd]; exact isAsciiDigit_asciiDigit hd⟩
  | apart hd _ => exact ⟨_, _, rfl, by rw [toAscii_of_digitValue hd]; exact isAsciiDigit_asciiDigit hd⟩

theorem DigitRun.isAsciiDigit (h : DigitRun w ds) : ds ≠ [] ∧ ∀ c ∈ ds, isAsciiDigit c = true := by
  refine ⟨by cases h <;> exact List.cons_ne_nil _ _, ?_⟩
  induction h with
  | last hd => exact List.forall_mem_singleton.2 (isAsciiDigit_asciiDigit hd)
  | next hd _ ih => exact List.forall_mem_cons.2 ⟨isAsciiDigit_asciiDigit hd, ih⟩
  | apart hd _ ih => exact List.forall_mem_cons.2 ⟨isAsciiDigit_asciiDigit hd, ih⟩

theorem ne_of_isAsciiDigit (hc : Text.isAsciiDigit c = true) (ha : Text.isAsciiDigit a = false) : c ≠ a := by
  rintro rfl
  rw [hc] at ha
  cases ha

theorem dropLowLines_digitRun (h : DigitRun w ds) (hs : Reduces s r) (b : Option Char) :
    dropLowLines b ((w ++ s).map toAscii) = some (ds ++ r) := by
  have hlow {c : Char} {d : Nat} (hd : digitValue c = some d) : asciiDigit d ≠ '_' :=
    ne_of_isAsciiDigit (isAsciiDigit_asciiDigit hd) (by decide)
  induction h generalizing b with
  | last hd =>
    rw [List.cons_append, List.map_cons, toAscii_of_digitValue hd, dropLowLines_cons (hlow hd), List.nil_append,
      dropLowLines_of_head? (head?_of_dropLowLines hs), hs]
    rfl
  | next hd _ ih =>
    rw [List.cons_append, List.map_cons, toAscii_of_digitValue hd, dropLowLines_cons (hlow hd), ih]
    rfl
  | @apart c d w ds hd hrun ih =>
    obtain ⟨c', w', hw, hc'⟩ := hrun.head
    have hmark : toAscii '_' = '_' := by decide
    have hnext : ((w ++ s).map toAscii).head?.any Text.isAsciiDigit = true := by
      rw [hw]
      exact hc'
    rw [List.cons_append, List.cons_append, List.map_cons, List.map_cons, toAscii_of_digitValue hd, hmark,
      dropLowLines_cons (hlow hd), dropLowLines_low, if_pos, ih]
    · rfl
    · rw [hnext]
      simp [isAsciiDigit_asciiDigit hd]

/-- **Digits in ASCII stand for a run of digits of any script**, if no digit follows them. -/
theorem reduces_digits_iff (hr : ∀ c ∈ r.head?, isAsciiDigit c = false) (hne : ds ≠ [])
    (hds : ∀ c ∈ ds, isAsciiDigit c = true) :
    Reduces s (ds ++ r) ↔ ∃ w s', s = w ++ s' ∧ DigitRun w ds ∧ Reduces s' r := by
  constructor
  · intro h
    induction ds generalizing s with
    | nil => exact absurd rfl hne
    | cons dd ds ih =>
      rw [List.forall_mem_cons] at hds
      cases s with
      | nil => cases h
      | cons c s =>
        have hc : toAscii c ≠ '_' := fun hc => head?_of_dropLowLines h (by rw [List.map_cons, hc]; rfl)
        rw [Reduces, List.map_cons, dropLowLines_cons hc, Option.map_eq_some_iff] at h
        obtain ⟨t', ht', hcons⟩ := h
        obtain ⟨hdd, rfl⟩ := List.cons.inj hcons
        obtain ⟨d, hd⟩ := exists_digitValue (hdd ▸ hds.1)
        rw [toAscii_of_digitValue hd] at hdd ht'
        subst hdd
        by_cases hlow : (s.map toAscii).head? = some '_'
        · -- a low line, behind which there is a digit
          cases s with
          | nil => cases hlow
          | cons m s =>
            obtain rfl := eq_of_toAscii (by decide) (Option.some.inj hlow)
            rw [List.map_cons, Option.some.inj hlow, dropLowLines_low] at ht'
            split at ht'
            · rename_i hdigits
              rw [Bool.and_eq_true] at hdigits
              obtain ⟨a, hhead, hdigit⟩ := (Option.any_eq_true _ _).1 hdigits.2
              rw [dropLowLines_of_not_digit (by decide)] at ht'
              have hred : Reduces s (ds ++ r) := ht'
              have hmore : ds ≠ [] := by
                rintro rfl
                obtain ⟨rest, hrest⟩ := List.head?_eq_some_iff.1 hhead
                rw [Reduces, hrest, dropLowLines_cons (ne_of_isAsciiDigit hdigit (by decide)), List.nil_append,
                  Option.map_eq_some_iff] at hred
                obtain ⟨_, -, rfl⟩ := hred
                have hfalse := hr a rfl
                rw [hdigit] at hfalse
                cases hfalse
              obtain ⟨w, s', rfl, hrun, hs'⟩ := ih hmore hds.2 hred
              exact ⟨c :: '_' :: w, s', rfl, .apart hd hrun, hs'⟩
            · cases ht'
        · rw [dropLowLines_of_head? hlow] at ht'
          by_cases hmore : ds = []
          · subst hmore
            exact ⟨[c], s, rfl, .last hd, ht'⟩
          · obtain ⟨w, s', rfl, hrun, hs'⟩ := ih hmore hds.2 ht'
            exact ⟨c :: w, s', rfl, .next hd hrun, hs'⟩
  · rintro ⟨w, s', rfl, hrun, hs'⟩
    exact dropLowLines_digitRun hrun hs' none

/-! ## Characters of a numeral -/

theorem isAsciiLetter_iff : isAsciiLetter c = true ↔
    97 ≤ c.toNat ∧ c.toNat ≤ 122 ∨ 65 ≤ c.toNat ∧ c.toNat ≤ 90 := by
  rw [isAsciiLetter, Bool.or_eq_true, Bool.and_eq_true, Bool.and_eq_true, decide_eq_true_eq, decide_eq_true_eq,
    decide_eq_true_eq, decide_eq_true_eq]
  rfl

theorem isAsciiLetter_of_toLower (h : isAsciiLetter c.toLower = true) : isAsciiLetter c = true := by
  delta Char.toLower at h
  split at h
  · rename_i hupper
    exact isAsciiLetter_iff.2 (.inr hupper)
  · exact h

/-- A word in any case consists of letters. -/
theorem isAsciiLetter_of_map_toLower {word : String} (hword : ∀ c ∈ word.toList, isAsciiLetter c = true)
    (h : w.map Char.toLower = word.toList) : ∀ c ∈ w, isAsciiLetter c = true :=
  fun _ hc => isAsciiLetter_of_toLower (hword _ (h ▸ List.mem_map_of_mem hc))

/-- A character of a numeral that is not part of a run of digits. -/
def isMark (c : Char) : Bool := isAsciiLetter c || ['+', '-', '.'].contains c

theorem isMark_cases (h : isMark c = true) : isAsciiLetter c = true ∨ c = '+' ∨ c = '-' ∨ c = '.' := by
  rw [isMark, Bool.or_eq_true, List.contains_iff_mem] at h
  simpa using h

/-- A character that stands for itself: it is no digit, no low line and no white space, and it is written in ASCII as
itself, as no other character is. -/
structure Verbatim (c : Char) : Prop where
  digit : isAsciiDigit c = false
  low : c ≠ '_'
  around : isAround c = false
  ascii : toAscii c = c
  only : ∀ {a : Char}, toAscii a = c → a = c

theorem verbatim_of_isMark (h : isMark c = true) : Verbatim c := by
  obtain hletter | rfl | rfl | rfl := isMark_cases h
  · have hrange := isAsciiLetter_iff.1 hletter
    have hother (a : Char) (ha : a.toNat < 65 ∨ a.toNat = 95) : c ≠ a := by
      rintro rfl
      omega
    have hdigit : isAsciiDigit c = false := by
      rw [← Bool.not_eq_true, isAsciiDigit_iff]
      omega
    have hlow : c.toNat < 127 := by omega
    have hplain : isPlain c = true := by
      rw [isPlain, hdigit, bne_iff_ne.2 (hother ' ' (.inl (by decide))), bne_iff_ne.2 (hother '?' (.inl (by decide)))]
      rfl
    refine ⟨hdigit, hother '_' (.inr rfl), ?_, toAscii_of_lt hlow, eq_of_toAscii hplain⟩
    rw [isAround, if_pos hlow, isNarrowBlank, beq_eq_false_iff_ne.2 (hother ' ' (.inl (by decide))), Bool.or_false,
      Bool.and_eq_false_iff, decide_eq_false_iff_not, decide_eq_false_iff_not]
    omega
  all_goals exact ⟨by decide, by decide, by decide, by decide, eq_of_toAscii (by decide)⟩

/-- The words for what is no decimal. -/
def realWords : List String := ["inf", "infinity", "nan"]

theorem isAsciiLetter_of_mem_realWords {word : String} (hword : word ∈ realWords) (h : w.map Char.toLower = word.toList) :
    ∀ c ∈ w, isAsciiLetter c = true := by
  have hletters : ∀ word ∈ realWords, word.toList.all isAsciiLetter = true := by decide
  exact isAsciiLetter_of_map_toLower (List.all_eq_true.1 (hletters word hword)) h

theorem isMark_of_mem_realWords {word : String} (hword : word ∈ realWords) (h : w.map Char.toLower = word.toList) :
    ∀ c ∈ w, isMark c = true :=
  fun c hc => by rw [isMark, isAsciiLetter_of_mem_realWords hword h c hc, Bool.true_or]

theorem Sign.isMark (h : Sign s negative) : ∀ c ∈ s, isMark c = true := by
  cases h <;> exact List.all_eq_true.1 rfl

/-! ## Reduction of parts -/

/-- One text stands for another in front of any further text. -/
def Stands (w t : List Char) : Prop := ∀ s r, Reduces s r → Reduces (w ++ s) (t ++ r)

theorem Stands.append {w' t' : List Char} (h : Stands w t) (h' : Stands w' t') : Stands (w ++ w') (t ++ t') := by
  intro s r hsr
  rw [List.append_assoc, List.append_assoc]
  exact h _ _ (h' _ _ hsr)

theorem Stands.reduces (h : Stands w t) : Reduces w t := by
  have hnil := h [] [] (reduces_nil_iff.2 rfl)
  rwa [List.append_nil, List.append_nil] at hnil

theorem DigitRun.stands (h : DigitRun w ds) : Stands w ds := fun _ _ hsr => dropLowLines_digitRun h hsr none

/-- Marks stand for themselves, and for nothing else. -/
theorem reduces_marks_iff (ht : ∀ c ∈ t, isMark c = true) : Reduces s (t ++ r) ↔ ∃ s', s = t ++ s' ∧ Reduces s' r := by
  induction t generalizing s with
  | nil => simp
  | cons a t ih =>
    rw [List.forall_mem_cons] at ht
    have ha := verbatim_of_isMark ht.1
    rw [List.cons_append, reduces_cons_iff ha.digit]
    constructor
    · rintro ⟨c, s', rfl, hc, -, hs'⟩
      obtain rfl := ha.only hc
      obtain ⟨s'', rfl, hred⟩ := (ih ht.2).1 hs'
      exact ⟨s'', rfl, hred⟩
    · rintro ⟨s', rfl, hred⟩
      exact ⟨a, t ++ s', rfl, ha.ascii, ha.low, (ih ht.2).2 ⟨s', rfl, hred⟩⟩

theorem stands_marks (ht : ∀ c ∈ t, isMark c = true) : Stands t t :=
  fun s _ hsr => (reduces_marks_iff ht).2 ⟨s, rfl, hsr⟩

theorem DigitRun.asciiRun (h : DigitRun w ds) : AsciiRun ds ds := ⟨rfl, h.isAsciiDigit⟩

theorem Mantissa.stands (h : Mantissa DigitRun w s s') : ∃ t, Mantissa AsciiRun t s s' ∧ Stands w t := by
  have hpoint : Stands ['.'] ['.'] := stands_marks (List.forall_mem_singleton.2 rfl)
  cases h with
  | whole hw => exact ⟨_, .whole hw.asciiRun, hw.stands⟩
  | pointed hw => exact ⟨_, .pointed hw.asciiRun, hw.stands.append hpoint⟩
  | both hw hw' => exact ⟨_, .both hw.asciiRun hw'.asciiRun, hw.stands.append (hpoint.append hw'.stands)⟩
  | fraction hw => exact ⟨_, .fraction hw.asciiRun, hpoint.append hw.stands⟩

theorem isMark_of_exponentMark (h : c = 'e' ∨ c = 'E') : isMark c = true := by
  rcases h with rfl | rfl <;> decide

theorem Exponent.stands (h : Exponent DigitRun w n) : ∃ t, Exponent AsciiRun t n ∧ Stands w t := by
  cases h with
  | none => exact ⟨[], .none, fun _ _ hsr => hsr⟩
  | some hmark hsign hw =>
    exact ⟨_, .some hmark hsign hw.asciiRun,
      (stands_marks (List.forall_mem_singleton.2 (isMark_of_exponentMark hmark))).append
        ((stands_marks hsign.isMark).append hw.stands)⟩

theorem Numeral.stands (h : Numeral DigitRun w x) : ∃ t, Numeral AsciiRun t x ∧ Stands w t := by
  cases h with
  | infinite hsign hword =>
    refine ⟨_, .infinite hsign hword, (stands_marks hsign.isMark).append (stands_marks ?_)⟩
    rcases hword with hword | hword <;> exact isMark_of_mem_realWords (by decide) hword
  | notANumber hsign hword =>
    exact ⟨_, .notANumber hsign hword,
      (stands_marks hsign.isMark).append (stands_marks (isMark_of_mem_realWords (by decide) hword))⟩
  | decimal hsign hm he =>
    obtain ⟨m, hm, hmstands⟩ := hm.stands
    obtain ⟨e, he, hestands⟩ := he.stands
    exact ⟨_, .decimal hsign hm he, (stands_marks hsign.isMark).append (hmstands.append hestands)⟩

/-- What does not start with a digit. -/
def Stops (r : List Char) : Prop := ∀ c ∈ r.head?, isAsciiDigit c = false

theorem stops_nil : Stops [] := nofun

theorem stops_cons (hc : isAsciiDigit c = false) (r : List Char) : Stops (c :: r) := by
  rintro c hc'
  cases hc'
  exact hc

theorem Exponent.stops (h : Exponent AsciiRun t n) : Stops t := by
  cases h with
  | none => exact stops_nil
  | some hmark _ _ => exact stops_cons (verbatim_of_isMark (isMark_of_exponentMark hmark)).digit _

theorem Mantissa.exists_of_reduces {m whole fraction : List Char} (h : Mantissa AsciiRun m whole fraction) (hr : Stops r)
    (hred : Reduces s (m ++ r)) : ∃ w s', s = w ++ s' ∧ Mantissa DigitRun w whole fraction ∧ Reduces s' r := by
  have hpoint {s r : List Char} : Reduces s ('.' :: r) ↔ ∃ s', s = '.' :: s' ∧ Reduces s' r :=
    reduces_marks_iff (t := ['.']) (List.forall_mem_singleton.2 rfl)
  cases h with
  | whole hw =>
    obtain ⟨rfl, hne, hds⟩ := hw
    obtain ⟨w, s', rfl, hrun, hs'⟩ := (reduces_digits_iff hr hne hds).1 hred
    exact ⟨w, s', rfl, .whole hrun, hs'⟩
  | pointed hw =>
    obtain ⟨rfl, hne, hds⟩ := hw
    rw [List.append_assoc] at hred
    obtain ⟨w, s', rfl, hrun, hs'⟩ := (reduces_digits_iff (stops_cons (by decide) _) hne hds).1 hred
    obtain ⟨u, rfl, hu⟩ := hpoint.1 hs'
    exact ⟨w ++ ['.'], u, by rw [List.append_assoc]; rfl, .pointed hrun, hu⟩
  | both hw hw' =>
    obtain ⟨rfl, hne, hds⟩ := hw
    obtain ⟨rfl, hne', hds'⟩ := hw'
    rw [List.append_assoc] at hred
    obtain ⟨w, s', rfl, hrun, hs'⟩ := (reduces_digits_iff (stops_cons (by decide) _) hne hds).1 hred
    obtain ⟨u, rfl, hu⟩ := hpoint.1 hs'
    obtain ⟨w', u, rfl, hrun', hu⟩ := (reduces_digits_iff hr hne' hds').1 hu
    exact ⟨w ++ '.' :: w', u, by rw [List.append_assoc]; rfl, .both hrun hrun', hu⟩
  | fraction hw =>
    obtain ⟨rfl, hne, hds⟩ := hw
    obtain ⟨u, rfl, hu⟩ := hpoint.1 hred
    obtain ⟨w, u, rfl, hrun, hu⟩ := (reduces_digits_iff hr hne hds).1 hu
    exact ⟨'.' :: w, u, rfl, .fraction hrun, hu⟩

theorem Exponent.of_reduces (h : Exponent AsciiRun t n) (hred : Reduces s t) : Exponent DigitRun s n := by
  cases h with
  | none =>
    obtain rfl := reduces_nil_iff.1 hred
    exact .none
  | @some mark sign w ds negative hmark hsign hw =>
    obtain ⟨rfl, hne, hds⟩ := hw
    obtain ⟨u, rfl, hu⟩ := (reduces_marks_iff (List.forall_mem_singleton.2 (isMark_of_exponentMark hmark))).1 hred
    obtain ⟨v, rfl, hv⟩ := (reduces_marks_iff hsign.isMark).1 hu
    rw [← List.append_nil w] at hv
    obtain ⟨w, rest, rfl, hrun, hrest⟩ := (reduces_digits_iff stops_nil hne hds).1 hv
    obtain rfl := reduces_nil_iff.1 hrest
    rw [List.append_nil, List.singleton_append]
    exact .some hmark hsign hrun

/-- **A numeral is what stands for a numeral with the digits of ASCII.** -/
theorem numeral_iff_exists_reduces : Numeral DigitRun s x ↔ ∃ t, Reduces s t ∧ Numeral AsciiRun t x := by
  constructor
  · intro h
    obtain ⟨t, ht, hstands⟩ := h.stands
    exact ⟨t, hstands.reduces, ht⟩
  · rintro ⟨t, hred, h⟩
    have hmarks {t r : List Char} (ht : ∀ c ∈ t, isMark c = true) (hred : Reduces r t) : r = t := by
      rw [← List.append_nil t] at hred
      obtain ⟨s', rfl, hs'⟩ := (reduces_marks_iff ht).1 hred
      rw [reduces_nil_iff.1 hs', List.append_nil]
    cases h with
    | infinite hsign hword =>
      obtain ⟨s, rfl, hs⟩ := (reduces_marks_iff hsign.isMark).1 hred
      obtain rfl := hmarks (by rcases hword with hword | hword <;> exact isMark_of_mem_realWords (by decide) hword) hs
      exact .infinite hsign hword
    | notANumber hsign hword =>
      obtain ⟨s, rfl, hs⟩ := (reduces_marks_iff hsign.isMark).1 hred
      obtain rfl := hmarks (isMark_of_mem_realWords (by decide) hword) hs
      exact .notANumber hsign hword
    | decimal hsign hm he =>
      obtain ⟨s, rfl, hs⟩ := (reduces_marks_iff hsign.isMark).1 hred
      obtain ⟨m, e, rfl, hm, hs⟩ := hm.exists_of_reduces he.stops hs
      exact .decimal hsign hm (he.of_reduces hs)

/-! ## Reading in ASCII -/

theorem spanDigits_eq_iff : spanDigits s = (ds, r) ↔ s = ds ++ r ∧ (∀ c ∈ ds, isAsciiDigit c = true) ∧ Stops r := by
  rw [spanDigits, List.span_eq_takeWhile_dropWhile, Prod.mk.injEq]
  constructor
  · rintro ⟨rfl, rfl⟩
    refine ⟨List.takeWhile_append_dropWhile.symm, fun c hc => List.mem_takeWhile_imp hc, fun c hc => ?_⟩
    have hfirst := List.head?_dropWhile_not isAsciiDigit s
    rw [Option.mem_def.1 hc] at hfirst
    simpa using hfirst
  · rintro ⟨rfl, hds, hr⟩
    have hnone : r.takeWhile isAsciiDigit = [] ∧ r.dropWhile isAsciiDigit = r := by
      cases r with
      | nil => exact ⟨rfl, rfl⟩
      | cons c r =>
        have hc : ¬ isAsciiDigit c = true := by rw [hr c rfl]; exact Bool.false_ne_true
        exact ⟨List.takeWhile_cons_of_neg hc, List.dropWhile_cons_of_neg hc⟩
    rw [List.takeWhile_append_of_pos hds, List.dropWhile_append_of_pos hds, hnone.1, hnone.2, List.append_nil]
    exact ⟨rfl, rfl⟩

theorem all_isAsciiDigit_iff : ds.isEmpty ∨ ¬ ds.all isAsciiDigit = true ↔ ¬ AsciiRun ds ds := by
  rw [AsciiRun, eq_self, true_and, not_and_or, not_not, List.all_eq_true, List.isEmpty_iff]

/-- A text that does not start with a sign. -/
def Unsigned (s : List Char) : Prop := ∀ c ∈ s.head?, c ≠ '-' ∧ c ≠ '+'

theorem unsigned_cons (hminus : c ≠ '-') (hplus : c ≠ '+') (s : List Char) : Unsigned (c :: s) := by
  rintro c hc
  cases hc
  exact ⟨hminus, hplus⟩

theorem takeSign_of_unsigned (h : Unsigned s) : takeSign s = (false, s) := by
  cases s with
  | nil => rfl
  | cons c s =>
    obtain ⟨hminus, hplus⟩ := h c rfl
    rw [takeSign]
    · exact fun _ hs => hminus (List.cons.inj hs).1
    · exact fun _ hs => hplus (List.cons.inj hs).1

theorem takeSign_append (hsign : Sign s negative) (h : Unsigned t) : takeSign (s ++ t) = (negative, t) := by
  cases hsign with
  | none => exact takeSign_of_unsigned h
  | plus => rfl
  | minus => rfl

theorem exists_sign (s : List Char) :
    ∃ sign negative body, s = sign ++ body ∧ Sign sign negative ∧ takeSign s = (negative, body) := by
  unfold takeSign
  split
  · exact ⟨['-'], true, _, rfl, .minus, rfl⟩
  · exact ⟨['+'], false, _, rfl, .plus, rfl⟩
  · exact ⟨[], false, _, rfl, .none, rfl⟩

theorem AsciiRun.unsigned (h : AsciiRun w ds) : Unsigned w := by
  obtain ⟨rfl, -, hds⟩ := h
  intro c hc
  have hdigit := hds c (List.mem_of_mem_head? hc)
  exact ⟨ne_of_isAsciiDigit hdigit (by decide), ne_of_isAsciiDigit hdigit (by decide)⟩

theorem readExponent_eq_some_iff : readExponent s = some n ↔ Exponent AsciiRun s n := by
  constructor
  · intro h
    unfold readExponent at h
    split at h
    · cases h
      exact .none
    · rename_i c s
      split at h
      · rename_i hmark
        obtain ⟨sign, negative, ds, rfl, hsign, htake⟩ := exists_sign s
        rw [htake] at h
        dsimp only at h
        split at h
        · cases h
        · rename_i hrun
          rw [all_isAsciiDigit_iff, not_not] at hrun
          cases h
          exact .some hmark hsign hrun
      · cases h
  · rintro (_ | ⟨hmark, hsign, hrun⟩)
    · rfl
    · obtain ⟨rfl, hdigits⟩ := id hrun
      rw [readExponent, if_pos hmark, takeSign_append hsign hrun.unsigned]
      exact if_neg (all_isAsciiDigit_iff.not.2 (not_not.2 ⟨rfl, hdigits⟩))

/-- A mantissa in ASCII: digits on either side of the point, not both missing. -/
theorem mantissa_asciiRun_iff {m whole fraction : List Char} : Mantissa AsciiRun m whole fraction ↔
    ((∀ c ∈ whole, isAsciiDigit c = true) ∧ (∀ c ∈ fraction, isAsciiDigit c = true) ∧ ¬ (whole = [] ∧ fraction = [])) ∧
      (m = whole ++ '.' :: fraction ∨ m = whole ∧ fraction = []) := by
  constructor
  · rintro (⟨rfl, hne, hds⟩ | ⟨rfl, hne, hds⟩ | ⟨⟨rfl, hne, hds⟩, rfl, hne', hds'⟩ | ⟨rfl, hne, hds⟩)
    · exact ⟨⟨hds, nofun, fun h => hne h.1⟩, .inr ⟨rfl, rfl⟩⟩
    · exact ⟨⟨hds, nofun, fun h => hne h.1⟩, .inl rfl⟩
    · exact ⟨⟨hds, hds', fun h => hne h.1⟩, .inl rfl⟩
    · exact ⟨⟨nofun, hds, fun h => hne h.2⟩, .inl rfl⟩
  · rintro ⟨⟨hwhole, hfraction, hne⟩, rfl | ⟨rfl, rfl⟩⟩
    · by_cases hw : whole = []
      · subst hw
        exact .fraction ⟨rfl, fun h => hne ⟨rfl, h⟩, hfraction⟩
      · by_cases hf : fraction = []
        · subst hf
          exact .pointed ⟨rfl, hw, hwhole⟩
        · exact .both ⟨rfl, hw, hwhole⟩ ⟨rfl, hf, hfraction⟩
    · exact .whole ⟨rfl, fun h => hne ⟨h, rfl⟩, hwhole⟩

theorem readUnsigned_pointed {whole fraction e : List Char} (hwhole : spanDigits s = (whole, '.' :: r))
    (hfraction : spanDigits r = (fraction, e)) : readUnsigned negative s =
      if whole.isEmpty && fraction.isEmpty then none else (readExponent e).map (realOf negative whole fraction) := by
  simp only [readUnsigned, hwhole, hfraction]

theorem readUnsigned_whole {e : List Char} (hwhole : spanDigits s = (ds, e)) (he : ∀ r, e ≠ '.' :: r) :
    readUnsigned negative s =
      if ds.isEmpty && ([] : List Char).isEmpty then none else (readExponent e).map (realOf negative ds []) := by
  simp only [readUnsigned, hwhole]

/-- The last step of reading a decimal: whether it has digits, and which exponent. -/
theorem realOf_parts_eq_some_iff {m e whole fraction : List Char} (hwhole : ∀ c ∈ whole, isAsciiDigit c = true)
    (hfraction : ∀ c ∈ fraction, isAsciiDigit c = true)
    (hm : m = whole ++ '.' :: fraction ∨ m = whole ∧ fraction = []) :
    (if whole.isEmpty && fraction.isEmpty then none else (readExponent e).map (realOf negative whole fraction)) = some x ↔
      Mantissa AsciiRun m whole fraction ∧ ∃ n, Exponent AsciiRun e n ∧ realOf negative whole fraction n = x := by
  rw [mantissa_asciiRun_iff, and_iff_left hm, Option.ite_none_left_eq_some, Bool.and_eq_true, List.isEmpty_iff,
    List.isEmpty_iff, Option.map_eq_some_iff, and_iff_right hwhole, and_iff_right hfraction]
  simp only [readExponent_eq_some_iff]

theorem readUnsigned_eq_some_iff : readUnsigned negative s = some x ↔ ∃ m e whole fraction, s = m ++ e ∧
    Mantissa AsciiRun m whole fraction ∧ ∃ n, Exponent AsciiRun e n ∧ realOf negative whole fraction n = x := by
  constructor
  · intro h
    obtain ⟨whole, rest, hspan⟩ : ∃ whole rest, spanDigits s = (whole, rest) := ⟨_, _, rfl⟩
    obtain ⟨rfl, hwhole, -⟩ := spanDigits_eq_iff.1 hspan
    by_cases hpoint : ∃ r, rest = '.' :: r
    · obtain ⟨r, rfl⟩ := hpoint
      obtain ⟨fraction, e, hspan'⟩ : ∃ fraction e, spanDigits r = (fraction, e) := ⟨_, _, rfl⟩
      obtain ⟨rfl, hfraction, -⟩ := spanDigits_eq_iff.1 hspan'
      rw [readUnsigned_pointed hspan hspan', realOf_parts_eq_some_iff hwhole hfraction (.inl rfl)] at h
      exact ⟨_, e, whole, fraction, (List.append_assoc _ ('.' :: fraction) e).symm, h⟩
    · rw [readUnsigned_whole hspan fun r hr => hpoint ⟨r, hr⟩,
        realOf_parts_eq_some_iff hwhole (List.forall_mem_nil _) (.inr ⟨rfl, rfl⟩)] at h
      exact ⟨whole, rest, whole, [], rfl, h⟩
  · rintro ⟨m, e, whole, fraction, rfl, hm, n, he, hx⟩
    obtain ⟨⟨hwhole, hfraction, -⟩, hform⟩ := mantissa_asciiRun_iff.1 hm
    have hparts := (realOf_parts_eq_some_iff hwhole hfraction hform).2 ⟨hm, n, he, hx⟩
    rcases hform with rfl | ⟨rfl, rfl⟩
    · rw [List.append_assoc, List.cons_append]
      rwa [readUnsigned_pointed (spanDigits_eq_iff.2 ⟨rfl, hwhole, stops_cons (by decide) _⟩)
        (spanDigits_eq_iff.2 ⟨rfl, hfraction, he.stops⟩)]
    · rwa [readUnsigned_whole (spanDigits_eq_iff.2 ⟨rfl, hwhole, he.stops⟩)]
      rintro r rfl
      cases he with
      | some hmark => rcases hmark with hmark | hmark <;> cases hmark

theorem unsigned_of_mem_realWords {word : String} (hword : word ∈ realWords) (h : w.map Char.toLower = word.toList) :
    Unsigned w := by
  intro c hc
  have hletter := isAsciiLetter_of_mem_realWords hword h c (List.mem_of_mem_head? hc)
  constructor <;>
  · rintro rfl
    exact absurd hletter (by decide)

/-- A mantissa in ASCII starts with a digit or the point. -/
theorem Mantissa.head {m whole fraction : List Char} (h : Mantissa AsciiRun m whole fraction) :
    ∃ c m', m = c :: m' ∧ isAsciiLetter c = false ∧ c ≠ '-' ∧ c ≠ '+' := by
  have hdigits {ds r : List Char} (hne : ds ≠ []) (hds : ∀ c ∈ ds, isAsciiDigit c = true) :
      ∃ c m', ds ++ r = c :: m' ∧ isAsciiLetter c = false ∧ c ≠ '-' ∧ c ≠ '+' := by
    obtain ⟨c, ds, rfl⟩ := List.exists_cons_of_ne_nil hne
    have hc := hds c List.mem_cons_self
    refine ⟨c, ds ++ r, rfl, ?_, ne_of_isAsciiDigit hc (by decide), ne_of_isAsciiDigit hc (by decide)⟩
    rw [isAsciiDigit_iff] at hc
    rw [← Bool.not_eq_true, isAsciiLetter_iff]
    omega
  cases h with
  | whole hw =>
    obtain ⟨rfl, hne, hds⟩ := hw
    rw [← List.append_nil m]
    exact hdigits hne hds
  | pointed hw =>
    obtain ⟨rfl, hne, hds⟩ := hw
    exact hdigits hne hds
  | both hw _ =>
    obtain ⟨rfl, hne, hds⟩ := hw
    exact hdigits hne hds
  | fraction hw => exact ⟨'.', _, rfl, by decide, by decide, by decide⟩

theorem readSigned_eq_some_iff : readSigned t = some x ↔ Numeral AsciiRun t x := by
  constructor
  · intro h
    obtain ⟨sign, negative, body, rfl, hsign, htake⟩ := exists_sign t
    rw [readSigned, htake] at h
    dsimp only at h
    split at h
    · rename_i hword
      cases h
      exact .infinite hsign hword
    · split at h
      · rename_i hword
        cases h
        exact .notANumber hsign hword
      · obtain ⟨m, e, whole, fraction, rfl, hm, n, he, rfl⟩ := readUnsigned_eq_some_iff.1 h
        exact .decimal hsign hm he
  · rintro (⟨hsign, hword⟩ | ⟨hsign, hword⟩ | @⟨sign, m, e, whole, fraction, negative, n, hsign, hm, he⟩)
    · rw [readSigned, takeSign_append hsign]
      · exact if_pos hword
      · rcases hword with hword | hword <;> exact unsigned_of_mem_realWords (by decide) hword
    · rw [readSigned, takeSign_append hsign (unsigned_of_mem_realWords (by decide) hword)]
      dsimp only
      rw [hword]
      rfl
    · obtain ⟨c, m, rfl, hletter, hminus, hplus⟩ := hm.head
      have hword : ∀ word ∈ realWords, (c :: m ++ e).map Char.toLower ≠ word.toList := by
        intro word hword h
        have hc := isAsciiLetter_of_mem_realWords hword h c List.mem_cons_self
        rw [hletter] at hc
        cases hc
      have hunsigned : Unsigned (c :: m ++ e) := unsigned_cons hminus hplus (m ++ e)
      rw [readSigned, takeSign_append hsign hunsigned]
      dsimp only
      rw [if_neg, if_neg (hword "nan" (by decide))]
      · exact readUnsigned_eq_some_iff.2 ⟨_, _, _, _, rfl, hm, _, he, rfl⟩
      · rintro (h | h)
        · exact hword "inf" (by decide) h
        · exact hword "infinity" (by decide) h

/-! ## White space around a numeral -/

theorem isAround_of_digitValue (h : digitValue c = some d) : isAround c = false := by
  have hdigit := isAsciiDigit_iff.1 (isAsciiDigit_asciiDigit h)
  rw [← isNarrowBlank_toAscii, toAscii_of_digitValue h, isNarrowBlank, Bool.or_eq_false_iff, beq_eq_false_iff_ne,
    Bool.and_eq_false_iff, decide_eq_false_iff_not, decide_eq_false_iff_not]
  exact ⟨by omega, ne_of_isAsciiDigit (isAsciiDigit_asciiDigit h) (by decide)⟩

theorem DigitRun.isAround (h : DigitRun w ds) : ∀ c ∈ w, isAround c = false := by
  induction h with
  | last hd => exact List.forall_mem_singleton.2 (isAround_of_digitValue hd)
  | next hd _ ih => exact List.forall_mem_cons.2 ⟨isAround_of_digitValue hd, ih⟩
  | apart hd _ ih =>
    exact List.forall_mem_cons.2 ⟨isAround_of_digitValue hd, List.forall_mem_cons.2 ⟨by decide, ih⟩⟩

theorem isAround_of_isMark (h : ∀ c ∈ s, isMark c = true) : ∀ c ∈ s, isAround c = false :=
  fun c hc => (verbatim_of_isMark (h c hc)).around

theorem Mantissa.isAround (h : Mantissa DigitRun w s s') : ∀ c ∈ w, isAround c = false := by
  have hpoint : Number.isAround '.' = false := by decide
  cases h with
  | whole hw => exact hw.isAround
  | pointed hw => exact List.forall_mem_append.2 ⟨hw.isAround, List.forall_mem_singleton.2 hpoint⟩
  | both hw hw' => exact List.forall_mem_append.2 ⟨hw.isAround, List.forall_mem_cons.2 ⟨hpoint, hw'.isAround⟩⟩
  | fraction hw => exact List.forall_mem_cons.2 ⟨hpoint, hw.isAround⟩

theorem Exponent.isAround (h : Exponent DigitRun w n) : ∀ c ∈ w, isAround c = false := by
  cases h with
  | none => exact List.forall_mem_nil _
  | some hmark hsign hw =>
    exact List.forall_mem_cons.2 ⟨(verbatim_of_isMark (isMark_of_exponentMark hmark)).around,
      List.forall_mem_append.2 ⟨isAround_of_isMark hsign.isMark, hw.isAround⟩⟩

/-- No character of a numeral is white space. -/
theorem Numeral.isAround (h : Numeral DigitRun w x) : ∀ c ∈ w, isAround c = false := by
  cases h with
  | infinite hsign hword =>
    refine List.forall_mem_append.2 ⟨isAround_of_isMark hsign.isMark, isAround_of_isMark ?_⟩
    rcases hword with hword | hword <;> exact isMark_of_mem_realWords (by decide) hword
  | notANumber hsign hword =>
    exact List.forall_mem_append.2 ⟨isAround_of_isMark hsign.isMark,
      isAround_of_isMark (isMark_of_mem_realWords (by decide) hword)⟩
  | decimal hsign hm he =>
    exact List.forall_mem_append.2 ⟨isAround_of_isMark hsign.isMark,
      List.forall_mem_append.2 ⟨hm.isAround, he.isAround⟩⟩

/-- **A setting's text is read exactly if it is a number, and as that number.** -/
theorem readReal_eq_some_iff : readReal s = some x ↔ IsReal s x := by
  have haround : isNarrowBlank ∘ toAscii = isAround := funext isNarrowBlank_toAscii
  have hread : readReal s = some x ↔ Numeral DigitRun (trim isAround s) x := by
    rw [readReal, trim_map, haround, Option.bind_eq_some_iff, numeral_iff_exists_reduces]
    simp only [readSigned_eq_some_iff]
    rfl
  rw [hread]
  constructor
  · intro h
    obtain ⟨front, back, hs, hfront, hback⟩ := exists_trim isAround s
    exact ⟨front, _, back, hs, hfront, hback, h⟩
  · rintro ⟨front, numeral, back, rfl, hfront, hback, h⟩
    rwa [trim_surround hfront hback h.isAround]

/-! ## The word for no number -/

theorem ofDecimal_ne_notANumber (negative : Bool) (digits : Nat) (exponent : Int) :
    Binary64.ofDecimal negative digits exponent ≠ .notANumber := by
  have hrounded (m : Nat) (q : Int) :
      (if Binary64.maxExponent < q then Binary64.infinite negative else .finite negative m q) ≠ .notANumber := by
    split <;> exact nofun
  have hratio (num den : Nat) : Binary64.ofRatio negative num den ≠ .notANumber := by
    rw [Binary64.ofRatio]
    split
    · exact nofun
    · exact hrounded _ _
  rw [Binary64.ofDecimal]
  split
  · exact nofun
  · dsimp only
    split
    · exact nofun
    · split
      · exact nofun
      · split <;> exact hratio _ _

/-- A text is the word for no number, perhaps with a sign, in the midst of white space. -/
def IsNoNumber (s : List Char) : Prop :=
  ∃ front sign word back, s = front ++ (sign ++ word ++ back) ∧ (∀ c ∈ front, isAround c = true) ∧
    (∀ c ∈ back, isAround c = true) ∧ (∃ negative, Sign sign negative) ∧ word.map Char.toLower = "nan".toList

/-- **Only the word for it is read as no number**; no decimal is. -/
theorem isReal_notANumber_iff : IsReal s .notANumber ↔ IsNoNumber s := by
  constructor
  · rintro ⟨front, numeral, back, rfl, hfront, hback, h⟩
    generalize hx : Binary64.notANumber = x at h
    cases h with
    | infinite => cases hx
    | notANumber hsign hword => exact ⟨front, _, _, back, rfl, hfront, hback, ⟨_, hsign⟩, hword⟩
    | decimal => exact absurd hx.symm (ofDecimal_ne_notANumber _ _ _)
  · rintro ⟨front, sign, word, back, rfl, hfront, hback, ⟨negative, hsign⟩, hword⟩
    exact ⟨front, sign ++ word, back, rfl, hfront, hback, .notANumber hsign hword⟩

end ElmAssay.Number
