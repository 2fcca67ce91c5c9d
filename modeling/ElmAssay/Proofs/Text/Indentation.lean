import ElmAssay.Proofs.Text.Lines

/-!
# Margins and indentation

The margin of lines is the longest run of spaces and tabs that starts every line with other characters in it
(`IsMargin`), and there is at most one (`IsMargin.unique`). That is what a block loses: each of its lines loses the
margin, or all it has where it is spaces and tabs alone (`cut_dedent`). Setting a block in works on its lines one by one
(`cut_indent`), provided the line feed is the only end of a line in it.
-/

namespace ElmAssay.Text

variable {a b p m m' pad line s : List Char} {lines : List (List Char)}

/-! ## Common beginnings -/

theorem prefix_commonPrefix_iff : ∀ {p a b : List Char}, p <+: commonPrefix a b ↔ p <+: a ∧ p <+: b
  | [], _, _ => by simp
  | c :: p, [], b => by simp [commonPrefix]
  | c :: p, x :: a, [] => by simp [commonPrefix]
  | c :: p, x :: a, y :: b => by
    rw [commonPrefix]
    by_cases hxy : x = y
    · subst hxy
      rw [if_pos rfl, List.cons_prefix_cons, List.cons_prefix_cons, List.cons_prefix_cons, prefix_commonPrefix_iff]
      constructor
      · exact fun ⟨hc, ha, hb⟩ => ⟨⟨hc, ha⟩, hc, hb⟩
      · exact fun ⟨⟨hc, ha⟩, _, hb⟩ => ⟨hc, ha, hb⟩
    · rw [if_neg hxy, List.cons_prefix_cons, List.cons_prefix_cons]
      exact iff_of_false (by simp) fun ⟨⟨hx, _⟩, hy, _⟩ => hxy (hx.symm.trans hy)

/-- What the indentation of a line starts with are the runs of spaces and tabs that the line starts with. -/
theorem prefix_leadingPad_iff : ∀ {p line : List Char},
    p <+: leadingPad line ↔ (∀ c ∈ p, isPad c = true) ∧ p <+: line
  | [], _ => by simp
  | c :: p, [] => by simp [leadingPad]
  | c :: p, x :: line => by
    rw [leadingPad, List.takeWhile_cons, List.cons_prefix_cons, List.forall_mem_cons]
    split
    · rename_i hx
      rw [List.cons_prefix_cons, ← leadingPad, prefix_leadingPad_iff]
      constructor
      · exact fun ⟨hc, hp, hline⟩ => ⟨⟨hc ▸ hx, hp⟩, hc, hline⟩
      · exact fun ⟨⟨_, hp⟩, hc, hline⟩ => ⟨hc, hp, hline⟩
    · rename_i hx
      exact iff_of_false (by simp) fun ⟨⟨hpad, _⟩, hc, _⟩ => hx (hc ▸ hpad)

theorem sharedPad_eq_none_iff : sharedPad lines = none ↔ lines = [] := by
  cases lines with
  | nil => simp [sharedPad]
  | cons line lines =>
    rw [sharedPad]
    split <;> simp

/-- The run that lines share starts with what all of them start with. -/
theorem prefix_of_sharedPad : ∀ {lines : List (List Char)} {pad : List Char}, sharedPad lines = some pad →
    (p <+: pad ↔ ∀ line ∈ lines, p <+: leadingPad line)
  | [], _, h => by cases h
  | line :: lines, pad, h => by
    rw [List.forall_mem_cons]
    rw [sharedPad] at h
    cases hshared : sharedPad lines with
    | none =>
      rw [hshared] at h
      cases h
      rw [sharedPad_eq_none_iff.1 hshared]
      simp
    | some rest =>
      rw [hshared] at h
      cases h
      rw [prefix_commonPrefix_iff, prefix_of_sharedPad hshared]

/-- The indentation of a line behind a run of spaces and tabs is that run and what follows in it. -/
theorem leadingPad_append (h : ∀ a ∈ m, isPad a = true) (line : List Char) :
    leadingPad (m ++ line) = m ++ leadingPad line := by
  rw [leadingPad, List.takeWhile_append_of_pos h, leadingPad]

/-! ## The margin -/

/-- A line has text: a character that is no space and no tab. -/
def HasText (line : List Char) : Prop := ∃ c ∈ line, isPad c = false

/-- The longest run of spaces and tabs that starts every line that has text. -/
structure IsMargin (lines : List (List Char)) (m : List Char) : Prop where
  pads : ∀ c ∈ m, isPad c = true
  starts : ∀ line ∈ lines, HasText line → m <+: line
  longest : ∀ n, (∀ c ∈ n, isPad c = true) → (∀ line ∈ lines, HasText line → n <+: line) → n.length ≤ m.length

/-- **Lines have at most one margin.** -/
theorem IsMargin.unique (h : IsMargin lines m) (h' : IsMargin lines m') (htext : ∃ line ∈ lines, HasText line) :
    m = m' := by
  obtain ⟨line, hline, hhas⟩ := htext
  have hlength : m.length = m'.length :=
    Nat.le_antisymm (h'.longest m h.pads h.starts) (h.longest m' h'.pads h'.starts)
  exact (List.prefix_of_prefix_length_le (h.starts line hline hhas) (h'.starts line hline hhas)
    (Nat.le_of_eq hlength)).eq_of_length hlength

theorem not_hasText_iff : ¬HasText line ↔ ∀ c ∈ line, isPad c = true := by
  simp [HasText]

theorem blankLine_of_hasText (h : HasText line) : blankLine line = line :=
  if_neg fun hall => not_hasText_iff.2 (List.all_eq_true.1 hall) h

theorem blankLine_of_not_hasText (h : ¬HasText line) : blankLine line = [] :=
  if_pos (List.all_eq_true.2 (not_hasText_iff.1 h))

theorem HasText.ne_nil (h : HasText line) : line ≠ [] := by
  obtain ⟨c, hc, -⟩ := h
  exact List.ne_nil_of_mem hc

theorem isBlank_of_isPad {a : Char} (h : isPad a = true) : isBlank a = true := by
  rw [isPad, Bool.or_eq_true, beq_iff_eq, beq_iff_eq] at h
  rcases h with rfl | rfl <;> decide

theorem hasText_of_allBlank (h : allBlank line = false) : HasText line := by
  obtain ⟨a, ha, hblank⟩ := List.all_eq_false.1 h
  exact ⟨a, ha, Bool.eq_false_iff.2 fun hpad => hblank (isBlank_of_isPad hpad)⟩

/-- The lines that a margin is read off are those that have text. -/
theorem mem_filter_blankLine : line ∈ (lines.map blankLine).filter (fun line => !line.isEmpty) ↔
    line ∈ lines ∧ HasText line := by
  rw [List.mem_filter, List.mem_map]
  constructor
  · rintro ⟨⟨line', hline, rfl⟩, hne⟩
    by_cases htext : HasText line'
    · rw [blankLine_of_hasText htext]
      exact ⟨hline, htext⟩
    · rw [blankLine_of_not_hasText htext] at hne
      cases hne
  · rintro ⟨hline, htext⟩
    exact ⟨⟨line, hline, blankLine_of_hasText htext⟩, by simp [htext.ne_nil]⟩

/-- The margin of a block. -/
def blockMargin (s : List Char) : List Char := margin ((cut '\n' s).map blankLine)

/-- **The margin that a block loses is the margin of its lines.** -/
theorem isMargin_blockMargin (h : ∃ line ∈ cut '\n' s, HasText line) : IsMargin (cut '\n' s) (blockMargin s) := by
  have hruns (p : List Char) : p <+: blockMargin s ↔
      (∀ c ∈ p, isPad c = true) ∧ ∀ line ∈ cut '\n' s, HasText line → p <+: line := by
    obtain ⟨line, hline, htext⟩ := h
    rw [blockMargin, margin]
    cases hshared : sharedPad (((cut '\n' s).map blankLine).filter fun line => !line.isEmpty) with
    | none =>
      have hmem := mem_filter_blankLine.2 ⟨hline, htext⟩
      rw [sharedPad_eq_none_iff.1 hshared] at hmem
      cases hmem
    | some pad =>
      rw [Option.getD_some, prefix_of_sharedPad hshared]
      simp only [mem_filter_blankLine, prefix_leadingPad_iff]
      constructor
      · exact fun hall => ⟨(hall line ⟨hline, htext⟩).1, fun line hline htext => (hall line ⟨hline, htext⟩).2⟩
      · exact fun ⟨hpads, hstarts⟩ line hline => ⟨hpads, hstarts line hline.1 hline.2⟩
  obtain ⟨hpads, hstarts⟩ := (hruns (blockMargin s)).1 (List.prefix_refl _)
  exact ⟨hpads, hstarts, fun n hn hall => ((hruns n).2 ⟨hn, hall⟩).length_le⟩

/-- Every line with text is the margin and a rest. -/
theorem eq_blockMargin_append (hline : line ∈ cut '\n' s) (htext : HasText line) :
    line = blockMargin s ++ line.drop (blockMargin s).length := by
  obtain ⟨rest, hrest⟩ := (isMargin_blockMargin ⟨line, hline, htext⟩).starts line hline htext
  rw [← hrest, List.drop_left]

/-- **The lines of a block without its margin**: each without the margin, and those without text empty. -/
theorem cut_dedent (s : List Char) :
    cut '\n' (dedent s) = (cut '\n' s).map fun line => (blankLine line).drop (blockMargin s).length := by
  have hlines : ((cut '\n' s).map blankLine).map (·.drop (blockMargin s).length) ≠ [] := by simp [cut_ne_nil]
  have hfree : ∀ piece ∈ ((cut '\n' s).map blankLine).map (·.drop (blockMargin s).length), '\n' ∉ piece := by
    simp only [List.mem_map, forall_exists_index, and_imp, forall_apply_eq_imp_iff₂]
    intro line hline hfeed
    have hmem := List.mem_of_mem_drop hfeed
    rw [blankLine] at hmem
    split at hmem
    · cases hmem
    · exact not_mem_of_mem_cut hline hmem
  rw [dedent, ← blockMargin, cut_joinWith_of_not_mem hlines hfree, List.map_map]
  rfl

/-- A block without its margin has no characters that it did not have. -/
theorem mem_of_mem_dedent {c : Char} (h : c ∈ dedent s) : c ∈ s ∨ c = '\n' := by
  rw [dedent] at h
  rcases mem_joinWith h with h | ⟨piece, hpiece, hc⟩
  · exact .inr (List.mem_singleton.1 h)
  · simp only [List.mem_map] at hpiece
    obtain ⟨_, ⟨line, hline, rfl⟩, rfl⟩ := hpiece
    have hmem := List.mem_of_mem_drop hc
    rw [blankLine] at hmem
    split at hmem
    · cases hmem
    · exact .inl (mem_of_mem_cut hline hmem)

/-! ## Setting in -/

/-- A line set in, unless it is all white space. -/
def setIn (pad line : List Char) : List Char := if allBlank line then line else pad ++ line

/-- Lines with their line feeds; the last one has none, and is left out if it is empty. -/
def closed : List (List Char) → List (List Char)
  | [] => []
  | [last] => if last.isEmpty then [] else [last]
  | line :: lines => (line ++ ['\n']) :: closed lines

theorem closed_cons (line : List Char) (h : lines ≠ []) : closed (line :: lines) = (line ++ ['\n']) :: closed lines := by
  obtain ⟨next, lines, rfl⟩ := List.exists_cons_of_ne_nil h
  rfl

/-- Where the line feed is the only end of a line, the lines in the wide sense are the pieces between line feeds. -/
theorem wideLines_eq (h : ∀ c ∈ s, isLineBreak c = true → c = '\n') : wideLines s = closed (cut '\n' s) := by
  fun_induction wideLines s with
  | case1 => rfl
  | case2 s => exact absurd (h '\r' List.mem_cons_self (by decide)) (by decide)
  | case3 c s _ hc ih =>
    have hfeed := h c List.mem_cons_self hc
    rw [cut, if_pos hfeed, closed_cons _ (cut_ne_nil _ _), ih fun a ha => h a (List.mem_cons_of_mem c ha), hfeed]
    rfl
  | case4 c s _ hc hnone ih =>
    have hs := ih fun a ha => h a (List.mem_cons_of_mem c ha)
    rw [hnone] at hs
    obtain ⟨first, rest, hcut⟩ := List.exists_cons_of_ne_nil (cut_ne_nil '\n' s)
    have hne : c ≠ '\n' := fun hfeed => hc (by rw [hfeed]; decide)
    rw [cut, if_neg hne, hcut]
    rw [hcut] at hs
    cases rest with
    | nil =>
      cases first with
      | nil => rfl
      | cons x first => cases hs
    | cons next rest => cases hs
  | case5 c s _ hc line lines hsome ih =>
    have hs := ih fun a ha => h a (List.mem_cons_of_mem c ha)
    rw [hsome] at hs
    obtain ⟨first, rest, hcut⟩ := List.exists_cons_of_ne_nil (cut_ne_nil '\n' s)
    have hne : c ≠ '\n' := fun hfeed => hc (by rw [hfeed]; decide)
    rw [cut, if_neg hne, hcut]
    rw [hcut] at hs
    cases rest with
    | nil =>
      cases first with
      | nil => cases hs
      | cons x first =>
        cases hs
        rfl
    | cons next rest =>
      cases hs
      rfl

theorem allBlank_append_feed (line : List Char) : allBlank (line ++ ['\n']) = allBlank line := by
  have hfeed : isBlank '\n' = true := by decide
  simp [allBlank, hfeed]

/-- **A block is set in line by line**, provided the line feed is the only end of a line in it. -/
theorem indent_eq (pad : List Char) (h : ∀ c ∈ s, isLineBreak c = true → c = '\n') :
    indent pad s = joinWith ['\n'] ((cut '\n' s).map (setIn pad)) := by
  suffices hlines : ∀ lines : List (List Char),
      (closed lines).flatMap (fun line => if allBlank line then line else pad ++ line) =
        joinWith ['\n'] (lines.map (setIn pad)) by
    rw [indent, wideLines_eq h, hlines]
  intro lines
  induction lines with
  | nil => rfl
  | cons line lines ih =>
    cases lines with
    | nil => cases line <;> simp [closed, joinWith, setIn, allBlank]
    | cons next lines =>
      rw [closed_cons line (List.cons_ne_nil next lines), List.flatMap_cons, ih, allBlank_append_feed]
      by_cases hblank : allBlank line = true <;> simp [joinWith, setIn, hblank]

/-- The lines of a block that was set in. -/
theorem cut_indent (hpad : '\n' ∉ pad) (h : ∀ c ∈ s, isLineBreak c = true → c = '\n') :
    cut '\n' (indent pad s) = (cut '\n' s).map (setIn pad) := by
  rw [indent_eq pad h]
  refine cut_joinWith_of_not_mem (by simp [cut_ne_nil]) ?_
  simp only [List.mem_map, forall_exists_index, and_imp, forall_apply_eq_imp_iff₂]
  intro line hline hfeed
  rw [setIn] at hfeed
  split at hfeed
  · exact not_mem_of_mem_cut hline hfeed
  · rcases List.mem_append.1 hfeed with hfeed | hfeed
    · exact hpad hfeed
    · exact not_mem_of_mem_cut hline hfeed

end ElmAssay.Text
