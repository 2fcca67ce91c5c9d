import ElmAssay.Text.Utf8
import Mathlib.Data.Nat.Init

/-!
# Reading what was encoded

The strict reader undoes the encoding of a text (`decode_encode`), so a text that is written to a file is the text
that the file holds. The proof goes character by character (`decodeFrom_encodeChar`): the lead byte opens a character
whose bits are the high ones of the code point, and each continuation byte adds six more.

It reads nothing else: bytes that it takes for a text are the encoding of that text (`decode_eq_ok_iff`), since the bytes of
a character are those that it was read from (`encodeChar_of_decodeFrom`). A byte below 128 is always a character of its own
(`mem_encode_iff`).
-/

namespace ElmAssay.Text.Utf8

/-! ## Bytes -/

theorem toNat_byte {n : Nat} (h : n < 256) : (UInt8.ofNat n).toNat = n := UInt8.toNat_ofNat_of_lt' h

theorem toNat_continuation (n : Nat) : (UInt8.ofNat (0x80 + n % 64)).toNat = 0x80 + n % 64 :=
  toNat_byte (by omega)

theorem toNat_valid (c : Char) : c.toNat < 0xD800 ∨ (0xDFFF < c.toNat ∧ c.toNat < 0x110000) := c.valid

/-! ## Continuation bytes -/

/-- A started character with a continuation byte added. -/
theorem push_continuation (p : Pending) (n : Nat) :
    p.push (UInt8.ofNat (0x80 + n % 64)) = ⟨p.lead, p.bits * 64 + n % 64, p.read + 1, p.need - 1, 0x80, 0xBF⟩ := by
  rw [Pending.push, toNat_continuation, Nat.add_sub_cancel_left]

theorem accepts_continuation {p : Pending} {n : Nat} (hl : p.low ≤ 0x80 + n % 64) (hh : 0x80 + n % 64 ≤ p.high) :
    p.accepts (UInt8.ofNat (0x80 + n % 64)) = true := by
  rw [Pending.accepts, toNat_continuation, Bool.and_eq_true]
  exact ⟨decide_eq_true hl, decide_eq_true hh⟩

/-- A continuation byte after which more are needed. -/
theorem decodeFrom_more {p : Pending} {n : Nat} (position : Nat) (s : Bytes) (hl : p.low ≤ 0x80 + n % 64)
    (hh : 0x80 + n % 64 ≤ p.high) (hn : 1 < p.need) :
    decodeFrom position (some p) (UInt8.ofNat (0x80 + n % 64) :: s) =
      decodeFrom (position + 1) (some ⟨p.lead, p.bits * 64 + n % 64, p.read + 1, p.need - 1, 0x80, 0xBF⟩) s := by
  rw [decodeFrom, if_pos (accepts_continuation hl hh), push_continuation, if_neg (by dsimp only; omega)]

/-- The last continuation byte of a character. -/
theorem decodeFrom_last {p : Pending} {n : Nat} (position : Nat) (s : Bytes) (hl : p.low ≤ 0x80 + n % 64)
    (hh : 0x80 + n % 64 ≤ p.high) (hn : p.need = 1) :
    decodeFrom position (some p) (UInt8.ofNat (0x80 + n % 64) :: s) =
      (decodeFrom (position + 1) none s).map (Char.ofNat (p.bits * 64 + n % 64) :: ·) := by
  rw [decodeFrom, if_pos (accepts_continuation hl hh), push_continuation, if_pos (by dsimp only; omega)]

theorem decodeFrom_opens {p : Pending} {b : UInt8} (position : Nat) (s : Bytes) (h : lead b = .opens p) :
    decodeFrom position none (b :: s) = decodeFrom (position + 1) (some p) s := by
  rw [decodeFrom, h]

/-! ## One character -/

theorem lead_single {n : Nat} (h : n < 0x80) : lead (UInt8.ofNat n) = .single (Char.ofNat n) := by
  have hn : (UInt8.ofNat n).toNat = n := toNat_byte (by omega)
  simp only [lead, hn, if_pos h]

/-- The lead byte of a character of two bytes. -/
theorem lead_two {m : Nat} (h : 2 ≤ m) (h' : m < 0x20) :
    lead (UInt8.ofNat (0xC0 + m)) = .opens ⟨UInt8.ofNat (0xC0 + m), m, 1, 1, 0x80, 0xBF⟩ := by
  have hn : (UInt8.ofNat (0xC0 + m)).toNat = 0xC0 + m := toNat_byte (by omega)
  simp only [lead, hn]
  rw [if_neg (by omega), if_neg (by omega), if_pos (by omega), Nat.add_sub_cancel_left]

/-- The lead byte of a character of three bytes. -/
theorem lead_three {m : Nat} (h : m < 0x10) :
    lead (UInt8.ofNat (0xE0 + m)) =
      .opens ⟨UInt8.ofNat (0xE0 + m), m, 1, 2, if m = 0 then 0xA0 else 0x80, if m = 0xD then 0x9F else 0xBF⟩ := by
  have hn : (UInt8.ofNat (0xE0 + m)).toNat = 0xE0 + m := toNat_byte (by omega)
  have hlow : (0xE0 + m = 0xE0) = (m = 0) := propext (by omega)
  have hhigh : (0xE0 + m = 0xED) = (m = 0xD) := propext (by omega)
  simp only [lead, hn, hlow, hhigh]
  rw [if_neg (by omega), if_neg (by omega), if_neg (by omega), if_pos (by omega), Nat.add_sub_cancel_left]

/-- The lead byte of a character of four bytes. -/
theorem lead_four {m : Nat} (h : m < 5) :
    lead (UInt8.ofNat (0xF0 + m)) =
      .opens ⟨UInt8.ofNat (0xF0 + m), m, 1, 3, if m = 0 then 0x90 else 0x80, if m = 4 then 0x8F else 0xBF⟩ := by
  have hn : (UInt8.ofNat (0xF0 + m)).toNat = 0xF0 + m := toNat_byte (by omega)
  have hlow : (0xF0 + m = 0xF0) = (m = 0) := propext (by omega)
  have hhigh : (0xF0 + m = 0xF4) = (m = 4) := propext (by omega)
  simp only [lead, hn, hlow, hhigh]
  rw [if_neg (by omega), if_neg (by omega), if_neg (by omega), if_neg (by omega), if_pos (by omega),
    Nat.add_sub_cancel_left]

/-- The bytes of a character give the character, wherever they stand and whatever follows. -/
theorem decodeFrom_encodeChar (c : Char) (position : Nat) (s : Bytes) :
    ∃ next, decodeFrom position none (encodeChar c ++ s) = (decodeFrom next none s).map (c :: ·) := by
  have hv := toNat_valid c
  have hc : Char.ofNat c.toNat = c := Char.ofNat_toNat c
  simp only [encodeChar]
  generalize c.toNat = n at hv hc ⊢
  split
  · rename_i h
    exact ⟨position + 1, by rw [List.singleton_append, decodeFrom, lead_single h, hc]⟩
  · split
    · refine ⟨position + 2, ?_⟩
      simp only [List.cons_append, List.nil_append]
      rw [decodeFrom_opens _ _ (lead_two (by omega) (by omega)),
        decodeFrom_last _ _ (by dsimp only; omega) (by dsimp only; omega) rfl]
      have hbits : n / 64 * 64 + n % 64 = n := by omega
      simp only [hbits, hc]
    · split
      · refine ⟨position + 3, ?_⟩
        simp only [List.cons_append, List.nil_append]
        -- the ranges of the second byte are what keeps out overlong forms and surrogates
        rw [decodeFrom_opens _ _ (lead_three (by omega)),
          decodeFrom_more _ _ (by dsimp only; split <;> omega) (by dsimp only; split <;> omega)
            (show 1 < 2 by decide),
          decodeFrom_last _ _ (by dsimp only; omega) (by dsimp only; omega) rfl]
        have hbits : (n / 4096 * 64 + n / 64 % 64) * 64 + n % 64 = n := by omega
        simp only [hbits, hc]
      · refine ⟨position + 4, ?_⟩
        simp only [List.cons_append, List.nil_append]
        rw [decodeFrom_opens _ _ (lead_four (by omega)),
          decodeFrom_more _ _ (by dsimp only; split <;> omega) (by dsimp only; split <;> omega)
            (show 1 < 3 by decide),
          decodeFrom_more _ _ (by dsimp only; omega) (by dsimp only; omega) (show 1 < 3 - 1 by decide),
          decodeFrom_last _ _ (by dsimp only; omega) (by dsimp only; omega) rfl]
        have hbits : ((n / 262144 * 64 + n / 4096 % 64) * 64 + n / 64 % 64) * 64 + n % 64 = n := by omega
        simp only [hbits, hc]

/-! ## Whole texts -/

theorem decodeFrom_encode (s : List Char) : ∀ position, decodeFrom position none (encode s) = .ok s := by
  induction s with
  | nil => intro position; rfl
  | cons c s ih =>
    intro position
    obtain ⟨next, hnext⟩ := decodeFrom_encodeChar c position (encode s)
    have happ : encode (c :: s) = encodeChar c ++ encode s := rfl
    rw [happ, hnext, ih next]
    rfl

/-- **The strict reader undoes the encoding.** -/
theorem decode_encode (s : List Char) : decode (encode s) = .ok s := decodeFrom_encode s 0

/-! ## Encoding what was read -/

theorem eq_ofNat_toNat {b : UInt8} {n : Nat} (h : b.toNat = n) : b = UInt8.ofNat n := by
  rw [← h, UInt8.ofNat_toNat]

theorem toNat_ofNat {n : Nat} (h : n < 0xD800 ∨ (0xDFFF < n ∧ n < 0x110000)) : (Char.ofNat n).toNat = n :=
  by rw [Char.ofNat, dif_pos (show n.isValidChar from h)]; rfl

/-- What follows a started character begins with a byte that the character accepts. -/
theorem cons_of_decodeFrom {p : Pending} {position : Nat} {s : Bytes} {cs : List Char}
    (h : decodeFrom position (some p) s = .ok cs) :
    ∃ b rest, s = b :: rest ∧ p.low ≤ b.toNat ∧ b.toNat ≤ p.high ∧
      decodeFrom position (some p) (b :: rest) =
        if (p.push b).need = 0 then (decodeFrom (position + 1) none rest).map (Char.ofNat (p.push b).bits :: ·)
        else decodeFrom (position + 1) (some (p.push b)) rest := by
  cases s with
  | nil => cases h
  | cons b rest =>
    rw [decodeFrom] at h
    split at h
    · rename_i haccepts
      have hrange := haccepts
      rw [Pending.accepts, Bool.and_eq_true, decide_eq_true_eq, decide_eq_true_eq] at hrange
      exact ⟨b, rest, rfl, hrange.1, hrange.2, by rw [decodeFrom, if_pos haccepts]⟩
    · cases h

/-- A started character that needs more bytes than one goes on. -/
theorem more_of_decodeFrom {p : Pending} {position : Nat} {s : Bytes} {cs : List Char} (hneed : 1 < p.need)
    (h : decodeFrom position (some p) s = .ok cs) :
    ∃ b rest, s = b :: rest ∧ p.low ≤ b.toNat ∧ b.toNat ≤ p.high ∧
      decodeFrom (position + 1) (some (p.push b)) rest = .ok cs := by
  obtain ⟨b, rest, rfl, hlow, hhigh, heq⟩ := cons_of_decodeFrom h
  rw [heq, if_neg (by rw [Pending.push]; dsimp only; omega)] at h
  exact ⟨b, rest, rfl, hlow, hhigh, h⟩

/-- A started character that needs one byte ends with it. -/
theorem last_of_decodeFrom {p : Pending} {position : Nat} {s : Bytes} {cs : List Char} (hneed : p.need = 1)
    (h : decodeFrom position (some p) s = .ok cs) :
    ∃ b rest cs', s = b :: rest ∧ p.low ≤ b.toNat ∧ b.toNat ≤ p.high ∧
      cs = Char.ofNat (p.bits * 64 + (b.toNat - 0x80)) :: cs' ∧ decodeFrom (position + 1) none rest = .ok cs' := by
  obtain ⟨b, rest, rfl, hlow, hhigh, heq⟩ := cons_of_decodeFrom h
  rw [heq, if_pos (by rw [Pending.push]; dsimp only; omega)] at h
  cases hrest : decodeFrom (position + 1) none rest with
  | error x => rw [hrest] at h; cases h
  | ok cs' =>
    rw [hrest] at h
    cases h
    exact ⟨b, rest, cs', rfl, hlow, hhigh, rfl, hrest⟩

/-! ## The bytes of one character -/

theorem encodeChar_one {b : UInt8} (h : b.toNat < 0x80) : encodeChar (Char.ofNat b.toNat) = [b] := by
  rw [encodeChar, toNat_ofNat (by omega)]
  rw [if_pos h, UInt8.ofNat_toNat]

theorem encodeChar_two {b b₁ : UInt8} (h : 0xC2 ≤ b.toNat ∧ b.toNat < 0xE0) (h₁ : 0x80 ≤ b₁.toNat ∧ b₁.toNat ≤ 0xBF) :
    encodeChar (Char.ofNat ((b.toNat - 0xC0) * 64 + (b₁.toNat - 0x80))) = [b, b₁] := by
  generalize hn : (b.toNat - 0xC0) * 64 + (b₁.toNat - 0x80) = n
  have hb : b = UInt8.ofNat (0xC0 + n / 64) := eq_ofNat_toNat (by omega)
  have hb₁ : b₁ = UInt8.ofNat (0x80 + n % 64) := eq_ofNat_toNat (by omega)
  rw [encodeChar, toNat_ofNat (by omega)]
  rw [if_neg (by omega), if_pos (by omega), ← hb, ← hb₁]

theorem encodeChar_three {b b₁ b₂ : UInt8} (h : 0xE0 ≤ b.toNat ∧ b.toNat < 0xF0)
    (h₁ : (if b.toNat = 0xE0 then 0xA0 else 0x80) ≤ b₁.toNat ∧ b₁.toNat ≤ (if b.toNat = 0xED then 0x9F else 0xBF))
    (h₂ : 0x80 ≤ b₂.toNat ∧ b₂.toNat ≤ 0xBF) :
    encodeChar (Char.ofNat (((b.toNat - 0xE0) * 64 + (b₁.toNat - 0x80)) * 64 + (b₂.toNat - 0x80))) = [b, b₁, b₂] := by
  generalize hn : ((b.toNat - 0xE0) * 64 + (b₁.toNat - 0x80)) * 64 + (b₂.toNat - 0x80) = n
  -- the range of the second byte keeps out overlong forms and surrogates
  have hrange : 0x80 ≤ b₁.toNat ∧ b₁.toNat ≤ 0xBF ∧ (b.toNat = 0xE0 → 0xA0 ≤ b₁.toNat) ∧
      (b.toNat = 0xED → b₁.toNat ≤ 0x9F) := by
    obtain ⟨hlow, hhigh⟩ := h₁
    split at hlow <;> split at hhigh <;> omega
  have hb : b = UInt8.ofNat (0xE0 + n / 4096) := eq_ofNat_toNat (by omega)
  have hb₁ : b₁ = UInt8.ofNat (0x80 + n / 64 % 64) := eq_ofNat_toNat (by omega)
  have hb₂ : b₂ = UInt8.ofNat (0x80 + n % 64) := eq_ofNat_toNat (by omega)
  rw [encodeChar, toNat_ofNat (by omega)]
  rw [if_neg (by omega), if_neg (by omega), if_pos (by omega), ← hb, ← hb₁, ← hb₂]

theorem encodeChar_four {b b₁ b₂ b₃ : UInt8} (h : 0xF0 ≤ b.toNat ∧ b.toNat < 0xF5)
    (h₁ : (if b.toNat = 0xF0 then 0x90 else 0x80) ≤ b₁.toNat ∧ b₁.toNat ≤ (if b.toNat = 0xF4 then 0x8F else 0xBF))
    (h₂ : 0x80 ≤ b₂.toNat ∧ b₂.toNat ≤ 0xBF) (h₃ : 0x80 ≤ b₃.toNat ∧ b₃.toNat ≤ 0xBF) :
    encodeChar (Char.ofNat ((((b.toNat - 0xF0) * 64 + (b₁.toNat - 0x80)) * 64 + (b₂.toNat - 0x80)) * 64 +
      (b₃.toNat - 0x80))) = [b, b₁, b₂, b₃] := by
  generalize hn : (((b.toNat - 0xF0) * 64 + (b₁.toNat - 0x80)) * 64 + (b₂.toNat - 0x80)) * 64 + (b₃.toNat - 0x80) = n
  have hrange : 0x80 ≤ b₁.toNat ∧ b₁.toNat ≤ 0xBF ∧ (b.toNat = 0xF0 → 0x90 ≤ b₁.toNat) ∧
      (b.toNat = 0xF4 → b₁.toNat ≤ 0x8F) := by
    obtain ⟨hlow, hhigh⟩ := h₁
    split at hlow <;> split at hhigh <;> omega
  have hb : b = UInt8.ofNat (0xF0 + n / 262144) := eq_ofNat_toNat (by omega)
  have hb₁ : b₁ = UInt8.ofNat (0x80 + n / 4096 % 64) := eq_ofNat_toNat (by omega)
  have hb₂ : b₂ = UInt8.ofNat (0x80 + n / 64 % 64) := eq_ofNat_toNat (by omega)
  have hb₃ : b₃ = UInt8.ofNat (0x80 + n % 64) := eq_ofNat_toNat (by omega)
  rw [encodeChar, toNat_ofNat (by omega)]
  rw [if_neg (by omega), if_neg (by omega), if_neg (by omega), ← hb, ← hb₁, ← hb₂, ← hb₃]

/-- What a byte can do where a character may start. -/
theorem lead_cases (b : UInt8) :
    (b.toNat < 0x80 ∧ lead b = .single (Char.ofNat b.toNat)) ∨
      ((0xC2 ≤ b.toNat ∧ b.toNat < 0xE0) ∧ lead b = .opens ⟨b, b.toNat - 0xC0, 1, 1, 0x80, 0xBF⟩) ∨
      ((0xE0 ≤ b.toNat ∧ b.toNat < 0xF0) ∧ lead b = .opens ⟨b, b.toNat - 0xE0, 1, 2,
        if b.toNat = 0xE0 then 0xA0 else 0x80, if b.toNat = 0xED then 0x9F else 0xBF⟩) ∨
      ((0xF0 ≤ b.toNat ∧ b.toNat < 0xF5) ∧ lead b = .opens ⟨b, b.toNat - 0xF0, 1, 3,
        if b.toNat = 0xF0 then 0x90 else 0x80, if b.toNat = 0xF4 then 0x8F else 0xBF⟩) ∨
      lead b = .invalid := by
  simp only [lead]
  by_cases h1 : b.toNat < 0x80
  · rw [if_pos h1]; exact .inl ⟨h1, rfl⟩
  rw [if_neg h1]
  by_cases h2 : b.toNat < 0xC2
  · rw [if_pos h2]; exact .inr (.inr (.inr (.inr rfl)))
  rw [if_neg h2]
  by_cases h3 : b.toNat < 0xE0
  · rw [if_pos h3]; exact .inr (.inl ⟨⟨by omega, h3⟩, rfl⟩)
  rw [if_neg h3]
  by_cases h4 : b.toNat < 0xF0
  · rw [if_pos h4]; exact .inr (.inr (.inl ⟨⟨by omega, h4⟩, rfl⟩))
  rw [if_neg h4]
  by_cases h5 : b.toNat < 0xF5
  · rw [if_pos h5]; exact .inr (.inr (.inr (.inl ⟨⟨by omega, h5⟩, rfl⟩)))
  · rw [if_neg h5]; exact .inr (.inr (.inr (.inr rfl)))

/-- Bytes that are a text begin with the bytes of its first character. -/
theorem encodeChar_of_decodeFrom {position : Nat} {b : UInt8} {s : Bytes} {cs : List Char}
    (h : decodeFrom position none (b :: s) = .ok cs) :
    ∃ c cs' rest next, cs = c :: cs' ∧ b :: s = encodeChar c ++ rest ∧ decodeFrom next none rest = .ok cs' := by
  rw [decodeFrom] at h
  obtain ⟨hb, hlead⟩ | ⟨hb, hlead⟩ | ⟨hb, hlead⟩ | ⟨hb, hlead⟩ | hlead := lead_cases b <;>
    rw [hlead] at h <;> dsimp only at h
  · cases hrest : decodeFrom (position + 1) none s with
    | error x => rw [hrest] at h; cases h
    | ok cs' =>
      rw [hrest] at h
      cases h
      exact ⟨_, cs', s, _, rfl, by rw [encodeChar_one hb]; rfl, hrest⟩
  · obtain ⟨b₁, rest, cs', rfl, hlow, hhigh, rfl, hrest⟩ := last_of_decodeFrom rfl h
    exact ⟨_, cs', rest, _, rfl, by rw [encodeChar_two hb ⟨hlow, hhigh⟩]; rfl, hrest⟩
  · obtain ⟨b₁, rest₁, rfl, hlow₁, hhigh₁, h⟩ := more_of_decodeFrom (Nat.lt_succ_self 1) h
    obtain ⟨b₂, rest, cs', rfl, hlow₂, hhigh₂, rfl, hrest⟩ := last_of_decodeFrom rfl h
    exact ⟨_, cs', rest, _, rfl,
      by rw [Pending.push, encodeChar_three hb ⟨hlow₁, hhigh₁⟩ ⟨hlow₂, hhigh₂⟩]; rfl, hrest⟩
  · obtain ⟨b₁, rest₁, rfl, hlow₁, hhigh₁, h⟩ := more_of_decodeFrom (p := ⟨b, _, 1, 3, _, _⟩) (by decide : 1 < 3) h
    obtain ⟨b₂, rest₂, rfl, hlow₂, hhigh₂, h⟩ := more_of_decodeFrom (Nat.lt_succ_self 1) h
    obtain ⟨b₃, rest, cs', rfl, hlow₃, hhigh₃, rfl, hrest⟩ := last_of_decodeFrom rfl h
    exact ⟨_, cs', rest, _, rfl,
      by rw [Pending.push, Pending.push, encodeChar_four hb ⟨hlow₁, hhigh₁⟩ ⟨hlow₂, hhigh₂⟩ ⟨hlow₃, hhigh₃⟩]; rfl, hrest⟩
  · cases h

theorem encode_of_decodeFrom {bytes : Bytes} {position : Nat} {cs : List Char}
    (h : decodeFrom position none bytes = .ok cs) : encode cs = bytes := by
  induction cs generalizing bytes position with
  | nil =>
    cases bytes with
    | nil => rfl
    | cons b s =>
      obtain ⟨c, cs', rest, next, habsurd, -⟩ := encodeChar_of_decodeFrom h
      cases habsurd
  | cons c cs ih =>
    cases bytes with
    | nil => cases h
    | cons b s =>
      obtain ⟨c', cs', rest, next, heq, hbytes, hrest⟩ := encodeChar_of_decodeFrom h
      cases heq
      rw [hbytes, ← ih hrest]
      rfl

/-- **Bytes are a text exactly if they are its encoding.** -/
theorem decode_eq_ok_iff {bytes : Bytes} {cs : List Char} : decode bytes = .ok cs ↔ bytes = encode cs :=
  ⟨fun h => (encode_of_decodeFrom h).symm, fun h => h ▸ decode_encode cs⟩

/-! ## Bytes below 128 -/

/-- A byte below 128 comes from the character that it is. -/
theorem mem_encodeChar_iff {n : Nat} (h : n < 0x80) (c : Char) : UInt8.ofNat n ∈ encodeChar c ↔ c = Char.ofNat n := by
  have hc : c = Char.ofNat n ↔ c.toNat = n := by
    constructor
    · rintro rfl
      exact toNat_ofNat (by omega)
    · rintro rfl
      exact (Char.ofNat_toNat c).symm
  have hbyte {m : Nat} (hm : m < 256) : UInt8.ofNat n = UInt8.ofNat m ↔ n = m := by
    rw [← UInt8.toNat_inj, toNat_byte (by omega), toNat_byte hm]
  have hv := toNat_valid c
  rw [hc, encodeChar]
  split
  · rw [List.mem_singleton, hbyte (by omega)]
    exact eq_comm
  · split
    · simp only [List.mem_cons, List.not_mem_nil, or_false]
      rw [hbyte (by omega), hbyte (by omega)]
      omega
    · split
      · simp only [List.mem_cons, List.not_mem_nil, or_false]
        rw [hbyte (by omega), hbyte (by omega), hbyte (by omega)]
        omega
      · simp only [List.mem_cons, List.not_mem_nil, or_false]
        rw [hbyte (by omega), hbyte (by omega), hbyte (by omega), hbyte (by omega)]
        omega

theorem mem_encode_iff {n : Nat} (h : n < 0x80) (s : List Char) : UInt8.ofNat n ∈ encode s ↔ Char.ofNat n ∈ s := by
  rw [encode, List.mem_flatMap]
  constructor
  · rintro ⟨c, hc, hmem⟩
    rwa [(mem_encodeChar_iff h c).1 hmem] at hc
  · exact fun hmem => ⟨_, hmem, (mem_encodeChar_iff h _).2 rfl⟩

end ElmAssay.Text.Utf8
