import ElmAssay.Candidate
import ElmAssay.Proofs.Elm.Name
import ElmAssay.Proofs.Text.Indentation
import ElmAssay.Proofs.Text.Trim
import Mathlib.Data.List.Forall2

/-!
# How candidates are laid out

A declaration is laid out (`Candidate.LaidOut`) if its lines are those of the annotation, of which all but the first
are set in, and then one that starts with the name. What a candidate writes is laid out exactly if its signature is
set in and its definition starts with the name (`laidOut_iff_of_lines`): so a stub depends on the name and the
signature, and a candidate in full on whether its definition is set in as well (`laidOut_iff`).

A right-hand side is written line by line below its name: without the margin that its lines have in common, and set in by
the padding (`cut_render`). So its lines keep their places to each other (`rightHandSide_keepsLayout`).
-/

namespace ElmAssay.Candidate

open Text Elm

variable {c : Candidate} {m line out line' out' : List Char}

/-! ## Names -/

theorem isValueWord_name (h : '\n' ∉ c.name.toList) : isValueWord c.name.toList = true := by
  have hnamed := c.named
  rw [isValueName, dropFinalNewline, if_neg] at hnamed
  · exact hnamed
  · exact fun hlast => h (List.mem_of_getLast? hlast)

theorem any_isWord_getLast? (h : '\n' ∉ c.name.toList) : c.name.toList.getLast?.any isWord = true := by
  have hword := isValueWord_name h
  cases hname : c.name.toList with
  | nil => rw [hname] at hword; exact absurd hword (by decide)
  | cons a rest =>
    rw [hname, isValueWord, Bool.and_eq_true, List.all_eq_true] at hword
    obtain ⟨hsmall, hrest⟩ := hword
    rw [List.getLast?_eq_some_getLast (List.cons_ne_nil a rest), Option.any_some]
    refine isWord_of_isAsciiWord ?_
    rcases List.mem_cons.1 (List.getLast_mem (List.cons_ne_nil a rest)) with hlast | hlast
    · rw [hlast, isAsciiWord, isAsciiLetter]
      rw [isSmall] at hsmall
      simp [hsmall]
    · exact hrest _ hlast

/-! ## Lines of a declaration -/

/-- The lines of the annotation. -/
def annotationLines (c : Candidate) : List (List Char) := c.annotation.flatMap (cut '\n')

/-- A declaration is laid out: its lines are those of the annotation, and then one that starts with the name. The
annotation is there exactly if the signature is not blank; its first line starts with the name and a colon, and the
others are set in. -/
structure LaidOut (c : Candidate) (text : String) : Prop where
  lines : ∃ first rest, cut '\n' text.toList = c.annotationLines ++ first :: rest ∧
    opensDefinition c.name.toList first = true
  absent : c.annotationLines = [] ↔ strip c.signature.toList = []
  opens : ∀ line ∈ c.annotationLines.head?, c.name.toList ++ [' ', ':'] <+: line
  setIn : ∀ line ∈ c.annotationLines.tail, line.head? = some ' '

/-- A signature is set in: its lines but the first start with a space. -/
def SignatureSetIn (c : Candidate) : Prop :=
  ∀ line ∈ (cut '\n' (strip c.signature.toList)).tail, line.head? = some ' '

theorem annotationLines_eq_nil_iff (c : Candidate) : c.annotationLines = [] ↔ strip c.signature.toList = [] := by
  rw [annotationLines, annotation]
  cases strip c.signature.toList with
  | nil => simp
  | cons a rest => simp [cut_ne_nil]

/-- Where the name has no line feed, the lines of the annotation are those of the signature with the name in front. -/
theorem annotationLines_eq (h : '\n' ∉ c.name.toList) (hsig : strip c.signature.toList ≠ []) :
    ∃ first rest, cut '\n' (strip c.signature.toList) = first :: rest ∧
      c.annotationLines = (c.name.toList ++ [' ', ':', ' '] ++ first) :: rest := by
  obtain ⟨first, rest, hcut⟩ := List.exists_cons_of_ne_nil (cut_ne_nil '\n' (strip c.signature.toList))
  refine ⟨first, rest, hcut, ?_⟩
  have hfront : '\n' ∉ c.name.toList ++ [' ', ':', ' '] := by simp [h]
  have hempty : (strip c.signature.toList).isEmpty = false := by simpa using hsig
  have hlines : c.annotation = [c.name.toList ++ [' ', ':', ' '] ++ strip c.signature.toList] := by
    simp [hempty, annotation]
  rw [annotationLines, hlines, List.flatMap_singleton, cut_append_of_not_mem hcut hfront]

theorem tail_annotationLines (h : '\n' ∉ c.name.toList) :
    c.annotationLines.tail = (cut '\n' (strip c.signature.toList)).tail := by
  by_cases hsig : strip c.signature.toList = []
  · rw [(annotationLines_eq_nil_iff c).2 hsig, hsig]
    rfl
  · obtain ⟨first, rest, hcut, hlines⟩ := annotationLines_eq h hsig
    rw [hlines, hcut]
    rfl

theorem prefix_of_opensDefinition {name text : List Char} (h : opensDefinition name text = true) : name <+: text :=
  List.isPrefixOf_iff_prefix.1 (Bool.and_eq_true_iff.1 h).1

/-- The first line of a text opens a definition exactly if the text does. -/
theorem opensDefinition_firstLine {name text first : List Char} {rest : List (List Char)} (h : '\n' ∉ name)
    (hcut : cut '\n' text = first :: rest) : opensDefinition name first = opensDefinition name text := by
  have hjoin := joinWith_cut '\n' text
  rw [hcut] at hjoin
  cases rest with
  | nil => rw [← hjoin]; rfl
  | cons next rest =>
    obtain ⟨tail, htail⟩ : ∃ tail, text = first ++ '\n' :: tail := ⟨_, by rw [← hjoin]; simp [joinWith]; rfl⟩
    have hend (r : List Char) :
        isBoundary name.getLast? (r ++ '\n' :: tail).head? = isBoundary name.getLast? r.head? := by
      cases r with
      | nil =>
        have hbreak : isWord '\n' = false := by decide
        simp [isBoundary, hbreak]
      | cons a r => rfl
    by_cases hprefix : name <+: first
    · obtain ⟨r, rfl⟩ := hprefix
      rw [htail, List.append_assoc, opensDefinition, opensDefinition, List.drop_left, List.drop_left, hend,
        List.isPrefixOf_iff_prefix.2 (List.prefix_append _ _), List.isPrefixOf_iff_prefix.2 (List.prefix_append _ _)]
    · have hno : ¬name <+: text := by
        rintro ⟨r, hr⟩
        rw [htail] at hr
        rcases List.append_eq_append_iff.1 hr with ⟨a, ha, -⟩ | ⟨a, ha, hrest⟩
        · exact hprefix ⟨a, ha.symm⟩
        · cases a with
          | nil => exact hprefix ⟨[], by simpa using ha⟩
          | cons b a =>
            obtain ⟨rfl, -⟩ := List.cons.inj hrest
            exact h (by rw [ha]; simp)
      rw [Bool.eq_false_iff.2 fun hopens => hprefix (prefix_of_opensDefinition hopens),
        Bool.eq_false_iff.2 fun hopens => hno (prefix_of_opensDefinition hopens)]

/-- **What a candidate writes is laid out exactly if** the name has no line feed, the signature is set in, and what
follows the annotation starts with the name. -/
theorem laidOut_iff_of_lines {text definition : List Char} {more : List (List Char)}
    (htext : text = joinWith ['\n'] (c.annotation ++ definition :: more) ++ ['\n']) :
    LaidOut c (String.ofList text) ↔
      '\n' ∉ c.name.toList ∧ c.SignatureSetIn ∧ opensDefinition c.name.toList definition = true := by
  obtain ⟨first, rest, hcut⟩ := List.exists_cons_of_ne_nil (cut_ne_nil '\n' definition)
  obtain ⟨tail, hlines⟩ : ∃ tail, cut '\n' text = c.annotationLines ++ first :: tail := by
    rw [htext, cut_append_sep, cut_joinWith (by simp), List.flatMap_append, List.flatMap_cons, hcut]
    exact ⟨rest ++ more.flatMap (cut '\n') ++ cut '\n' [], by simp [annotationLines]⟩
  have hfirst : '\n' ∉ first := not_mem_of_mem_cut (hcut ▸ List.mem_cons_self)
  constructor
  · intro hlaid
    obtain ⟨first', rest', hsplit, hopens⟩ := hlaid.lines
    rw [String.toList_ofList, hlines] at hsplit
    obtain ⟨rfl, -⟩ := List.cons.inj (List.append_cancel_left hsplit)
    have hname : '\n' ∉ c.name.toList := fun hmem => hfirst ((prefix_of_opensDefinition hopens).subset hmem)
    refine ⟨hname, ?_, by rw [← opensDefinition_firstLine hname hcut]; exact hopens⟩
    rw [SignatureSetIn, ← tail_annotationLines hname]
    exact hlaid.setIn
  · rintro ⟨hname, hset, hopens⟩
    refine ⟨⟨first, tail, by rw [String.toList_ofList]; exact hlines, ?_⟩, annotationLines_eq_nil_iff c, ?_, ?_⟩
    · rw [opensDefinition_firstLine hname hcut]
      exact hopens
    · intro line hline
      by_cases hsig : strip c.signature.toList = []
      · rw [(annotationLines_eq_nil_iff c).2 hsig] at hline
        cases hline
      · obtain ⟨start, _, -, hlines⟩ := annotationLines_eq hname hsig
        rw [hlines] at hline
        cases hline
        exact ⟨' ' :: start, by simp⟩
    · rw [tail_annotationLines hname]
      exact hset

/-! ## Stubs and candidates in full -/

/-- The line that a right-hand side stands below opens a definition. -/
theorem opensDefinition_equation (h : '\n' ∉ c.name.toList) : opensDefinition c.name.toList c.equation = true := by
  have hspace : isWord ' ' = false := by decide
  rw [opensDefinition, equation, List.isPrefixOf_iff_prefix.2 (List.prefix_append _ _), List.drop_left, isBoundary,
    any_isWord_getLast? h]
  simp [hspace]

/-- The implementation without line feeds at its ends. -/
def implementation (c : Candidate) : List Char := stripNewlines c.body.toList

/-- The implementation opens with an annotation of its own. -/
def IsAnnotated (c : Candidate) : Prop := opensAnnotation c.name.toList (dropBlank c.implementation) = true

/-- The implementation opens with the definition of the name, be it set in or not. -/
def IsDefinition (c : Candidate) : Prop := opensDefinition c.name.toList (dropBlank c.implementation) = true

theorem laidOut_stub_iff : LaidOut c c.stub ↔ '\n' ∉ c.name.toList ∧ c.SignatureSetIn := by
  rw [stub, laidOut_iff_of_lines rfl]
  constructor
  · exact fun h => ⟨h.1, h.2.1⟩
  · exact fun h => ⟨h.1, h.2, opensDefinition_equation h.1⟩

theorem renderList_eq (h : ¬c.IsAnnotated) :
    c.renderList =
      if opensDefinition c.name.toList (dropBlank c.implementation) = true then
        joinWith ['\n'] (c.annotation ++ [c.implementation])
      else joinWith ['\n'] (c.annotation ++ [c.equation, indent padding (dedent c.implementation)]) := by
  rw [renderList]
  exact if_neg h

/-- A candidate in full without an annotation of its own is laid out exactly if its stub is and, where the
implementation is a definition, that is not set in. -/
theorem laidOut_render_iff (h : ¬c.IsAnnotated) :
    LaidOut c c.render ↔
      '\n' ∉ c.name.toList ∧ c.SignatureSetIn ∧
        (c.IsDefinition → opensDefinition c.name.toList c.implementation = true) := by
  rw [render, renderList_eq h]
  split
  · rename_i hdefinition
    rw [laidOut_iff_of_lines rfl]
    simp [IsDefinition, hdefinition]
  · rename_i hdefinition
    rw [laidOut_iff_of_lines rfl]
    constructor
    · exact fun h => ⟨h.1, h.2.1, fun hopens => absurd hopens hdefinition⟩
    · exact fun h => ⟨h.1, h.2.1, opensDefinition_equation h.1⟩

/-- **When candidates are laid out.** A stub is exactly if the name has no line feed and the signature is set in. So
is the candidate in full, unless it has an annotation of its own, if besides a definition is not set in. -/
theorem laidOut_iff (c : Candidate) :
    (LaidOut c c.stub ↔ '\n' ∉ c.name.toList ∧ c.SignatureSetIn) ∧
      (¬c.IsAnnotated →
        (LaidOut c c.render ↔
          '\n' ∉ c.name.toList ∧ c.SignatureSetIn ∧
            (c.IsDefinition → opensDefinition c.name.toList c.implementation = true))) :=
  ⟨laidOut_stub_iff, laidOut_render_iff⟩

/-- A definition below an annotation of three lines. -/
theorem laidOut_add :
    let c : Candidate := ⟨"add", "Int\n -> Int\n -> Int", "add m n = m + n", rfl⟩
    LaidOut c c.stub ∧ LaidOut c c.render := by
  intro c
  have hname : '\n' ∉ c.name.toList := by decide
  have hset : c.SignatureSetIn := by
    unfold SignatureSetIn
    decide
  obtain ⟨hstub, hrender⟩ := laidOut_iff c
  have hplain : ¬c.IsAnnotated := by
    unfold IsAnnotated
    decide
  exact ⟨hstub.2 ⟨hname, hset⟩, (hrender hplain).2 ⟨hname, hset, fun _ => by decide⟩⟩

/-- A definition that is set in, a signature that is not, and a name with a line feed are not laid out. -/
theorem not_laidOut_samples :
    let setIn : Candidate := ⟨"answer", "Int", "    answer = 42", rfl⟩
    let ragged : Candidate := ⟨"add", "Int\n-> Int", "add n = n", rfl⟩
    let broken : Candidate := ⟨"answer\n", "Int", "42", rfl⟩
    ¬setIn.IsAnnotated ∧ ¬LaidOut setIn setIn.render ∧ ¬LaidOut ragged ragged.stub ∧ ¬LaidOut broken broken.stub := by
  intro setIn ragged broken
  have hplain : ¬setIn.IsAnnotated := by
    unfold IsAnnotated
    decide
  have hdefinition : setIn.IsDefinition := by
    unfold IsDefinition
    decide
  refine ⟨hplain, fun hlaid => ?_, fun hlaid => ?_, fun hlaid => ?_⟩
  · obtain ⟨-, -, hopens⟩ := (laidOut_render_iff hplain).1 hlaid
    exact absurd (hopens hdefinition) (by decide)
  · obtain ⟨-, hset⟩ := laidOut_stub_iff.1 hlaid
    exact absurd (hset "-> Int".toList (by decide)) (by decide)
  · exact absurd (laidOut_stub_iff.1 hlaid).1 (by decide)

/-! ## Right-hand sides -/

/-- The implementation is a right-hand side: it opens neither with an annotation nor with a definition of the name. -/
def IsRightHandSide (c : Candidate) : Prop := ¬c.IsAnnotated ∧ ¬c.IsDefinition

/-- A line of a right-hand side and what is written for it: nothing for spaces and tabs alone; where it is not all white
space, the line with the padding in the place of the margin. -/
structure Reindented (m line out : List Char) : Prop where
  empty : ¬HasText line → out = []
  moved : allBlank line = false → ∃ rest, line = m ++ rest ∧ out = padding ++ rest

/-- A line that is set in anew starts with a space. -/
theorem Reindented.head? (h : Reindented m line out) (hline : allBlank line = false) : out.head? = some ' ' := by
  obtain ⟨rest, -, rfl⟩ := h.moved hline
  rfl

/-- **Two lines that are set in anew keep their places to each other.** -/
theorem Reindented.length_leadingPad (h : Reindented m line out) (h' : Reindented m line' out')
    (hm : ∀ a ∈ m, isPad a = true) (hline : allBlank line = false) (hline' : allBlank line' = false) :
    (leadingPad out).length + (leadingPad line').length = (leadingPad out').length + (leadingPad line).length := by
  obtain ⟨rest, rfl, rfl⟩ := h.moved hline
  obtain ⟨rest', rfl, rfl⟩ := h'.moved hline'
  have hpadding : ∀ a ∈ padding, isPad a = true := List.all_eq_true.1 rfl
  rw [leadingPad_append hm, leadingPad_append hm, leadingPad_append hpadding, leadingPad_append hpadding]
  simp only [List.length_append]
  omega

/-- The lines of a right-hand side as they are written. -/
def writtenLines (c : Candidate) : List (List Char) :=
  (cut '\n' c.implementation).map fun line =>
    setIn padding ((blankLine line).drop (blockMargin c.implementation).length)

/-- Only line feeds end lines of the implementation. -/
def HasPlainLines (c : Candidate) : Prop := ∀ a ∈ c.body.toList, isLineBreak a = true → a = '\n'

theorem mem_of_mem_implementation {a : Char} (h : a ∈ c.implementation) : a ∈ c.body.toList := mem_of_mem_trim h

theorem cut_indent_dedent (h : c.HasPlainLines) :
    cut '\n' (indent padding (dedent c.implementation)) = c.writtenLines := by
  have hfeeds : ∀ a ∈ dedent c.implementation, isLineBreak a = true → a = '\n' := by
    intro a ha hbreak
    rcases mem_of_mem_dedent ha with ha | ha
    · exact h a (mem_of_mem_implementation ha) hbreak
    · exact ha
  rw [cut_indent (by decide) hfeeds, cut_dedent, List.map_map, Function.comp_def, writtenLines]

/-- Each line of a right-hand side is written without the margin and set in. -/
theorem reindented_writtenLines (c : Candidate) :
    List.Forall₂ (Reindented (blockMargin c.implementation)) (cut '\n' c.implementation) c.writtenLines := by
  rw [writtenLines, List.forall₂_map_right_iff, List.forall₂_same]
  intro line hline
  constructor
  · intro htext
    rw [blankLine_of_not_hasText htext, List.drop_nil]
    rfl
  · intro hblank
    have htext := hasText_of_allBlank hblank
    have hpads := (isMargin_blockMargin ⟨line, hline, htext⟩).pads
    have hsplit := eq_blockMargin_append hline htext
    refine ⟨_, hsplit, ?_⟩
    rw [blankLine_of_hasText htext, setIn, if_neg]
    -- the margin is white space, so the rest of the line is not
    intro hrest
    rw [hsplit, allBlank, List.all_append, ← allBlank, ← allBlank, hrest, Bool.and_true] at hblank
    exact Bool.eq_false_iff.1 hblank (List.all_eq_true.2 fun a ha => isBlank_of_isPad (hpads a ha))

/-- The lines of a right-hand side in full: the annotation, the name with the equals sign, and the lines written anew. -/
theorem cut_render (hname : '\n' ∉ c.name.toList) (h : c.IsRightHandSide) (hplain : c.HasPlainLines) :
    cut '\n' c.render.toList = c.annotationLines ++ c.equation :: (c.writtenLines ++ [[]]) := by
  have hside : ¬opensDefinition c.name.toList (dropBlank c.implementation) = true := h.2
  have hequation : cut '\n' c.equation = [c.equation] := cut_of_not_mem (by simp [equation, hname])
  have hend : cut '\n' ([] : List Char) = [[]] := rfl
  rw [render, String.toList_ofList, cut_append_sep, hend, renderList_eq h.1, if_neg hside, cut_joinWith (by simp),
    List.flatMap_append, List.flatMap_cons, List.flatMap_singleton, hequation, cut_indent_dedent hplain,
    ← annotationLines]
  simp only [List.append_assoc, List.cons_append, List.nil_append]

/-- **A right-hand side keeps its layout.** Below the annotation and the name with the equals sign there is one line for
each line of the implementation: it is empty for spaces and tabs alone, and a line that is not all white space has lost
the margin of all lines and is set in by the padding. So no such line starts at the left end, and any two of them have
their places to each other. -/
theorem rightHandSide_keepsLayout (hname : '\n' ∉ c.name.toList) (h : c.IsRightHandSide) (hplain : c.HasPlainLines) :
    ∃ written m,
      cut '\n' c.render.toList = c.annotationLines ++ c.equation :: (written ++ [[]]) ∧
      List.Forall₂ (Reindented m) (cut '\n' c.implementation) written ∧
      ((∃ line ∈ cut '\n' c.implementation, HasText line) → IsMargin (cut '\n' c.implementation) m) ∧
      ∀ line out, (line, out) ∈ (cut '\n' c.implementation).zip written → allBlank line = false →
        out.head? = some ' ' ∧
        ∀ line' out', (line', out') ∈ (cut '\n' c.implementation).zip written → allBlank line' = false →
          (leadingPad out).length + (leadingPad line').length =
            (leadingPad out').length + (leadingPad line).length := by
  have hlines := c.reindented_writtenLines
  refine ⟨c.writtenLines, _, cut_render hname h hplain, hlines, isMargin_blockMargin, ?_⟩
  intro line out hmem hblank
  have hline := (List.forall₂_iff_zip.1 hlines).2 hmem
  refine ⟨hline.head? hblank, fun line' out' hmem' hblank' => ?_⟩
  have htext : ∃ line ∈ cut '\n' c.implementation, HasText line :=
    ⟨line, (List.of_mem_zip hmem).1, hasText_of_allBlank hblank⟩
  exact hline.length_leadingPad ((List.forall₂_iff_zip.1 hlines).2 hmem') (isMargin_blockMargin htext).pads hblank
    hblank'

/-- A pair whose lines start with a tab and two spaces at least, and a line of spaces between them. -/
theorem rightHandSide_keepsLayout_pair :
    let c : Candidate := ⟨"pair", "( Int, Int )", "\n\t  ( 1\n  \n\t    , 2\n\t  )\n", rfl⟩
    ('\n' ∉ c.name.toList ∧ c.IsRightHandSide ∧ c.HasPlainLines) ∧
      ∃ written m,
        cut '\n' c.render.toList = c.annotationLines ++ c.equation :: (written ++ [[]]) ∧
        List.Forall₂ (Reindented m) (cut '\n' c.implementation) written ∧
        IsMargin (cut '\n' c.implementation) m := by
  intro c
  have hname : '\n' ∉ c.name.toList := by decide
  have hside : c.IsRightHandSide := by
    unfold IsRightHandSide IsAnnotated IsDefinition
    decide
  have hplain : c.HasPlainLines := by
    have hall : c.body.toList.all (fun a => !isLineBreak a || a == '\n') = true := by decide
    intro a ha hbreak
    simpa [hbreak] using List.all_eq_true.1 hall a ha
  obtain ⟨written, m, hrender, hlines, hmargin, -⟩ := rightHandSide_keepsLayout hname hside hplain
  exact ⟨⟨hname, hside, hplain⟩, written, m, hrender, hlines,
    hmargin ⟨"\t  ( 1".toList, by decide, '(', by decide, by decide⟩⟩

end ElmAssay.Candidate
