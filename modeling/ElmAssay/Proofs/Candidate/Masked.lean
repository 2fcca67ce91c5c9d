import ElmAssay.Proofs.Candidate

/-!
# Stubs as candidates

A stub is a candidate in full with another body (`Candidate.hollow`, `render_hollow`): if the name is a word, a right-hand
side of one line is written as a stub writes it. So a batch in which one candidate stands in full and all others as stubs
is a batch like any other (`Candidate.masked`, `isolated_eq_renderAll`).
-/

namespace ElmAssay

open Text Elm

/-! ## Blocks of one line -/

namespace Text

variable {c : Char} {s : List Char}

/-- A block of one line that starts with no space has no margin. -/
theorem dedent_of_line (hc : isPad c = false) (h : '\n' ∉ c :: s) : dedent (c :: s) = c :: s := by
  have hline : blankLine (c :: s) = c :: s := by
    rw [blankLine, List.all_cons, hc]
    rfl
  have hmargin : margin [c :: s] = [] := by
    simp [margin, sharedPad, leadingPad, hc]
  rw [dedent, cut_of_not_mem h, List.map_singleton, hline, hmargin]
  rfl

/-- A text without line breaks is one line. -/
theorem wideLines_of_line (h : ∀ x ∈ c :: s, isLineBreak x = false) : wideLines (c :: s) = [c :: s] := by
  induction s generalizing c with
  | nil =>
    rw [wideLines.eq_3 c [] (by simp), h c List.mem_cons_self]
    rfl
  | cons a s ih =>
    have hreturn : c ≠ '\r' := by
      rintro rfl
      exact absurd (h _ List.mem_cons_self) (by decide)
    rw [wideLines.eq_3 c (a :: s) (by simp [hreturn]), h c List.mem_cons_self,
      ih fun x hx => h x (List.mem_cons_of_mem _ hx)]
    rfl

theorem indent_of_line {pad : List Char} (hc : isBlank c = false) (h : ∀ x ∈ c :: s, isLineBreak x = false) :
    indent pad (c :: s) = pad ++ c :: s := by
  rw [indent, wideLines_of_line h, List.flatMap_singleton, allBlank, List.all_cons, hc]
  rfl

end Text

/-! ## Names that are words -/

namespace Elm

variable {c : Char}

theorem toNat_of_isAsciiWord (h : isAsciiWord c = true) : 48 ≤ c.toNat ∧ c.toNat < 123 := by
  simp only [isAsciiWord, isAsciiLetter, isAsciiDigit, Bool.or_eq_true, Bool.and_eq_true, decide_eq_true_eq, Char.le_def,
    beq_iff_eq, UInt32.le_iff_toNat_le] at h
  rcases h with ((⟨hlow, hhigh⟩ | ⟨hlow, hhigh⟩) | ⟨hlow, hhigh⟩) | rfl
  · exact ⟨Nat.le_trans (by decide) hlow, Nat.lt_of_le_of_lt hhigh (by decide)⟩
  · exact ⟨Nat.le_trans (by decide) hlow, Nat.lt_of_le_of_lt hhigh (by decide)⟩
  · exact ⟨Nat.le_trans (by decide) hlow, Nat.lt_of_le_of_lt hhigh (by decide)⟩
  · decide

theorem isLineBreak_of_isAsciiWord (h : isAsciiWord c = true) : isLineBreak c = false := by
  have hall : ∀ n < 123, 48 ≤ n → isLineBreak (Char.ofNat n) = false := by decide
  rw [← Char.ofNat_toNat c]
  exact hall c.toNat (toNat_of_isAsciiWord h).2 (toNat_of_isAsciiWord h).1

end Elm

namespace Candidate

variable {c : Candidate}

/-- The body of a stub. -/
def todoBody (c : Candidate) : String := "Debug.todo \"" ++ c.name ++ "\""

/-- The candidate with the body of its stub. -/
def hollow (c : Candidate) : Candidate := { c with body := c.todoBody }

/-- The batch in which all candidates but one, by its position, have the bodies of their stubs. -/
def masked (focus : Nat) (batch : List Candidate) : List Candidate :=
  batch.mapIdx fun i c => if i = focus then c else c.hollow

theorem toList_todoBody (c : Candidate) :
    c.todoBody.toList = 'D' :: ("ebug.todo \"".toList ++ c.name.toList ++ ['"']) := by
  have hfront : ("Debug.todo \"" : String).toList = 'D' :: "ebug.todo \"".toList := by decide
  rw [todoBody, String.toList_append, String.toList_append, hfront]
  rfl

/-- The body of a stub whose name is a word is one line. -/
theorem isLineBreak_todoBody (h : isValueWord c.name.toList = true) : ∀ x ∈ c.todoBody.toList, isLineBreak x = false := by
  have hname : ∀ x ∈ c.name.toList, isAsciiWord x = true := by
    cases hc : c.name.toList with
    | nil => exact fun x hx => by cases hx
    | cons a rest =>
      rw [hc, isValueWord, Bool.and_eq_true, List.all_eq_true] at h
      intro x hx
      rcases List.mem_cons.1 hx with rfl | hx
      · rw [isSmall] at h
        simp [isAsciiWord, isAsciiLetter, h.1]
      · exact h.2 x hx
  intro x hx
  rw [toList_todoBody, ← List.cons_append, List.mem_append, ← List.cons_append, List.mem_append] at hx
  rcases hx with (hx | hx) | hx
  · have hall : ∀ x ∈ 'D' :: "ebug.todo \"".toList, isLineBreak x = false := by simp [isLineBreak]
    exact hall x hx
  · exact isLineBreak_of_isAsciiWord (hname x hx)
  · rw [List.mem_singleton.1 hx]
    decide

/-- A name that is a word does not start the body of a stub. -/
theorem not_prefix_todoBody (h : isValueWord c.name.toList = true) : c.name.toList.isPrefixOf c.todoBody.toList = false := by
  cases hc : c.name.toList with
  | nil => rw [hc] at h; cases h
  | cons a rest =>
    rw [hc, isValueWord, Bool.and_eq_true] at h
    have ha : a ≠ 'D' := by
      rintro rfl
      exact absurd h.1 (by decide)
    rw [toList_todoBody, List.isPrefixOf_cons_cons, beq_false_of_ne ha]
    rfl

/-- **A stub under a name that is a word is a candidate in full**, one with the body of the stub. -/
theorem render_hollow (h : isValueWord c.name.toList = true) : c.hollow.render = c.stub := by
  have hlines := isLineBreak_todoBody h
  have hstrip : stripNewlines c.todoBody.toList = c.todoBody.toList := by
    refine trim_of_all fun x hx => ?_
    refine beq_false_of_ne fun he => ?_
    rw [he] at hx
    exact absurd (hlines _ hx) (by decide)
  have hblank : dropBlank c.todoBody.toList = c.todoBody.toList := by
    have hd : isBlank 'D' = false := by decide
    rw [toList_todoBody, dropBlank, dropLeading, List.dropWhile_cons, hd]
    rfl
  have hline : indent padding (dedent c.todoBody.toList) = c.todo := by
    have hbreak : '\n' ∉ c.todoBody.toList := fun hx => absurd (hlines _ hx) (by decide)
    have hsame : dedent c.todoBody.toList = c.todoBody.toList := by
      rw [toList_todoBody] at hbreak ⊢
      exact dedent_of_line (by decide) hbreak
    rw [hsame]
    rw [toList_todoBody] at hlines ⊢
    exact indent_of_line (by decide) hlines
  have hannotation : opensAnnotation c.name.toList c.todoBody.toList = false := by
    rw [ opensAnnotation, not_prefix_todoBody h]
    rfl
  have hdefinition : opensDefinition c.name.toList c.todoBody.toList = false := by
    rw [opensDefinition, not_prefix_todoBody h]
    rfl
  have hlist : c.hollow.renderList = joinWith ['\n'] (c.annotation ++ [c.equation, c.todo]) := by
    rw [renderList, hollow]
    dsimp only
    rw [hstrip, hblank, hannotation, hdefinition, hline]
    rfl
  rw [render, hlist, stub]

/-- **A batch with stubs for all candidates but one is a batch in full.** -/
theorem isolated_eq_renderAll {batch : List Candidate} (h : ∀ c ∈ batch, isValueWord c.name.toList = true) (focus : Nat) :
    isolated focus batch = renderAll (masked focus batch) := by
  refine congrArg separate (List.ext_getElem (by simp [masked]) fun i hi hi' => ?_)
  have hlength : i < batch.length := by simpa using hi
  have hc : batch[i] ∈ batch := List.getElem_mem hlength
  rw [List.getElem_map]
  simp only [masked, List.getElem_mapIdx]
  split
  · rfl
  · exact (render_hollow (h _ hc)).symm

/-- The names of a batch stay. -/
theorem map_name_masked (focus : Nat) (batch : List Candidate) : (masked focus batch).map name = batch.map name := by
  refine List.ext_getElem (by simp [masked]) fun i hi hi' => ?_
  simp only [masked, List.getElem_map, List.getElem_mapIdx]
  split <;> rfl

end Candidate
end ElmAssay
