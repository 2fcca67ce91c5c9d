import ElmAssay.CompileUnit
import ElmAssay.Proofs.Elm.Grammar

/-!
# Splicing

In a whole text the first line is found at which the grammar has a header (`findHeader_eq_some_iff_firstHeader`), and none
is found only if there is no such line (`findHeader_eq_none_iff`). A unit is the text of the module with nothing but this
header replaced, and with the declarations behind an empty line at its end (`findHeader_and_splice_exact`).
-/

namespace ElmAssay

open Text Elm

namespace Elm

variable {s text : List Char}

/-! ## The first header of a text -/

variable {before header after : List Char}

/-- The first header of a text that starts a line: what is before it, the header with its name and its list, and what is
after it. -/
structure FirstHeader (text : List Char) (isPort : Bool) (name list before header after : List Char) : Prop where
  split : text = before ++ (header ++ after)
  line : EndsLine before
  grammar : HeaderText isPort name list header
  first : ∀ before' header' after', text = before' ++ (header' ++ after') → EndsLine before' → IsHeader header' →
    before.length ≤ before'.length

/-- Where some header starts a line, one of them is the first. -/
theorem exists_firstHeader (hsplit : text = before ++ (header ++ after)) (hline : EndsLine before)
    (hheader : IsHeader header) :
    ∃ isPort name list before header after, FirstHeader text isPort name list before header after := by
  induction hn : before.length using Nat.strong_induction_on generalizing before header after with
  | h n ih =>
    by_cases hearlier : ∃ before' header' after', text = before' ++ (header' ++ after') ∧ EndsLine before' ∧
        IsHeader header' ∧ before'.length < before.length
    · obtain ⟨before', header', after', hsplit', hline', hheader', hlt⟩ := hearlier
      exact ih before'.length (hn ▸ hlt) hsplit' hline' hheader' rfl
    · obtain ⟨isPort, name, list, hgrammar⟩ := hheader
      refine ⟨isPort, name, list, before, header, after, hsplit, hline, hgrammar, ?_⟩
      intro before' header' after' hsplit' hline' hheader'
      exact Nat.le_of_not_lt fun hlt => hearlier ⟨before', header', after', hsplit', hline', hheader', hlt⟩

/-- What is read from a header at a place. -/
def readHeader (isPort : Bool) (name list : List Char) (start stop : Nat) : Header :=
  ⟨String.ofList name, String.ofList (joinWith [' '] (words list)), isPort, start, stop⟩

theorem headerAt?_eq_some_iff {position : Nat} {h : Header} :
    headerAt? position s = some h ↔
      ∃ isPort name list header after, s = header ++ after ∧ HeaderText isPort name list header ∧
        h = readHeader isPort name list position (position + header.length) := by
  rw [headerAt?, Option.map_eq_some_iff]
  constructor
  · rintro ⟨m, hm, rfl⟩
    obtain ⟨header, hheader, rfl⟩ := matchHeader?_eq_some_iff.1 hm
    refine ⟨m.isPort, m.name, m.exposing, header, m.rest, rfl, hheader, ?_⟩
    rw [readHeader, List.length_append, Nat.add_sub_cancel]
  · rintro ⟨isPort, name, list, header, after, rfl, hheader, rfl⟩
    refine ⟨⟨isPort, name, list, after⟩, matchHeader?_eq_some_iff.2 ⟨header, hheader, rfl⟩, ?_⟩
    rw [readHeader, List.length_append, Nat.add_sub_cancel]

/-- **The header of a text is the first that the grammar has in it.** -/
theorem findHeader_eq_some_iff_firstHeader {t : String} {h : Header} :
    findHeader t = some h ↔
      ∃ isPort name list before header after, FirstHeader t.toList isPort name list before header after ∧
        h = readHeader isPort name list before.length (before.length + header.length) := by
  rw [findHeader_eq_some_iff]
  constructor
  · rintro ⟨before, x, hsplit, hline, hat, hquiet⟩
    obtain ⟨isPort, name, list, header, after, rfl, hgrammar, hread⟩ := headerAt?_eq_some_iff.1 hat
    refine ⟨isPort, name, list, before, header, after, ⟨hsplit, hline, hgrammar, ?_⟩, hread⟩
    rintro before' header' after' hsplit' hline' ⟨isPort', name', list', hgrammar'⟩
    refine Nat.le_of_not_lt fun hlt => ?_
    -- a header at an earlier line would have been found there
    obtain ⟨b, hb⟩ : before' <+: before :=
      List.prefix_of_prefix_length_le ⟨_, hsplit'.symm⟩ ⟨_, hsplit.symm⟩ (Nat.le_of_lt hlt)
    have hne : b ≠ [] := by
      rintro rfl
      rw [← hb, List.append_nil] at hlt
      exact Nat.lt_irrefl _ hlt
    have hrest : b ++ (header ++ after) = header' ++ after' := by
      rw [hsplit, ← hb, List.append_assoc] at hsplit'
      exact List.append_cancel_left hsplit'
    have hnone := hquiet before' b hb.symm hne hline'
    have hfound : matchHeader? (header' ++ after') = some ⟨isPort', name', list', after'⟩ :=
      matchHeader?_eq_some_iff.2 ⟨header', hgrammar', rfl⟩
    rw [hrest, hfound] at hnone
    cases hnone
  · rintro ⟨isPort, name, list, before, header, after, ⟨hsplit, hline, hgrammar, hfirst⟩, hread⟩
    refine ⟨before, header ++ after, hsplit, hline,
      headerAt?_eq_some_iff.2 ⟨isPort, name, list, header, after, rfl, hgrammar, hread⟩, fun a b hab hb ha => ?_⟩
    rw [Option.eq_none_iff_forall_ne_some]
    intro m hm
    obtain ⟨header', hgrammar', hrest⟩ := matchHeader?_eq_some_iff.1 hm
    have hle := hfirst a header' m.rest (by rw [hsplit, hab, List.append_assoc, hrest]) ha ⟨_, _, _, hgrammar'⟩
    rw [hab, List.length_append] at hle
    have hlength := List.length_pos_iff.2 hb
    omega

/-- **No header is found only where the grammar has none at any line.** -/
theorem findHeader_eq_none_iff {t : String} :
    findHeader t = none ↔
      ∀ before header after, t.toList = before ++ (header ++ after) → EndsLine before → ¬IsHeader header := by
  constructor
  · intro hnone before header after hsplit hline hheader
    obtain ⟨isPort, name, list, before', header', after', hfirst⟩ := exists_firstHeader hsplit hline hheader
    rw [findHeader_eq_some_iff_firstHeader.2 ⟨isPort, name, list, before', header', after', hfirst, rfl⟩] at hnone
    cases hnone
  · intro hno
    rw [Option.eq_none_iff_forall_ne_some]
    intro h hfound
    obtain ⟨isPort, name, list, before, header, after, hfirst, -⟩ := findHeader_eq_some_iff_firstHeader.1 hfound
    exact hno before header after hfirst.split hfirst.line ⟨isPort, name, list, hfirst.grammar⟩

end Elm

/-! ## Units -/

namespace CompileUnit

/-- A text with more at its end: behind one line feed if the text is empty or ends with a line, else behind two; with
nothing more it stays as it is. -/
inductive Appended (text more : List Char) : List Char → Prop
  | nothing : more = [] → Appended text more text
  | line : more ≠ [] → EndsLine text → Appended text more (text ++ ['\n'] ++ more)
  | lines : more ≠ [] → ¬EndsLine text → Appended text more (text ++ ['\n', '\n'] ++ more)

theorem endsLine_iff {text : List Char} :
    EndsLine text ↔ (text.isEmpty || text.getLast? == some '\n') = true := by
  rw [EndsLine]
  cases text.eq_nil_or_concat with
  | inl h => simp [h]
  | inr h =>
    obtain ⟨front, c, rfl⟩ := h
    simp

theorem appended_append (text more : List Char) : Appended text more (append text more) := by
  rw [append]
  split
  · rename_i hmore
    exact .nothing (List.isEmpty_iff.1 hmore)
  · rename_i hmore
    have hne : more ≠ [] := fun h => hmore (List.isEmpty_iff.2 h)
    split
    · rename_i hline
      have happended := Appended.line hne (endsLine_iff.2 hline)
      rwa [List.append_assoc] at happended
    · rename_i hline
      have happended := Appended.lines hne fun h => hline (endsLine_iff.1 h)
      rwa [List.append_assoc] at happended

/-- In place of the first header a unit has its own. -/
theorem replaceHeader_eq {text name list before header after : List Char} {isPort : Bool}
    (h : FirstHeader text isPort name list before header after) (unitName : String) :
    replaceHeader text (readHeader isPort name list before.length (before.length + header.length)) unitName =
      before ++ ((headerText isPort unitName).toList ++ after) := by
  rw [replaceHeader, readHeader, h.split]
  simp only [List.take_left, ← List.drop_drop, List.drop_left, List.append_assoc]

/-- **Headers are found exactly where the grammar has them, and a unit is the text of the module with only its header
replaced.** -/
theorem findHeader_and_splice_exact (t : String) :
    (∀ s, s <:+ t.toList → ∀ {isPort isPort' name name' list list' header header'},
      HeaderText isPort name list header → HeaderText isPort' name' list' header' → header <+: s → header' <+: s →
        header = header' ∧ isPort = isPort' ∧ name = name' ∧ list = list') ∧
    (findHeader t = none ↔
      ∀ before header after, t.toList = before ++ (header ++ after) → EndsLine before → ¬IsHeader header) ∧
    (∀ h, findHeader t = some h ↔
      ∃ isPort name list before header after, FirstHeader t.toList isPort name list before header after ∧
        h = ⟨String.ofList name, String.ofList (joinWith [' '] (words list)), isPort, before.length,
          (before ++ header).length⟩) ∧
    ∀ (path : Option Path) (more name : String) (strict : Bool),
      (findHeader t = none →
        if strict then splice ⟨t, path⟩ more name strict = .error (.noHeader path)
        else ∃ result, splice ⟨t, path⟩ more name strict = .ok ⟨name, result, false⟩ ∧
          Appended t.toList more.toList result.toList) ∧
      ∀ {isPort oldName list before header after},
        FirstHeader t.toList isPort oldName list before header after →
          ∃ result, splice ⟨t, path⟩ more name strict = .ok ⟨name, result, true⟩ ∧
            Appended (before ++ ((headerText isPort name).toList ++ after)) more.toList result.toList := by
  refine ⟨fun s _ => ?_, findHeader_eq_none_iff, fun h => ?_, fun path more name strict => ⟨fun hnone => ?_, ?_⟩⟩
  · intro _ _ _ _ _ _ _ _ hheader hheader' hs hs'
    exact hheader.unique hheader' hs hs'
  · simp only [List.length_append]
    exact findHeader_eq_some_iff_firstHeader
  · rw [splice, hnone]
    cases strict with
    | true => rfl
    | false =>
      refine ⟨_, rfl, ?_⟩
      rw [String.toList_ofList]
      exact appended_append t.toList more.toList
  · intro isPort oldName list before header after hfirst
    have hfound := findHeader_eq_some_iff_firstHeader.2 ⟨isPort, oldName, list, before, header, after, hfirst, rfl⟩
    rw [splice, hfound]
    refine ⟨_, rfl, ?_⟩
    dsimp only
    rw [String.toList_ofList, replaceHeader_eq hfirst]
    exact appended_append _ more.toList

end CompileUnit
end ElmAssay
