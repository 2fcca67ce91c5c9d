import ElmAssay.Elm.Header
import Mathlib.Data.List.TakeDrop
import Mathlib.Data.List.TakeWhile

/-!
# Where a header can stand

A header opens with words and a parenthesis (`openPlain?`) and goes on to the parenthesis that closes its list. What
is appended to a text that ends with a line does not change how a header in it opens (`openPlain?_append`); but a list
that is open at the end of the text goes on into what is appended (`closeList?_append_cases`). So a text gets a header
at its front from what is appended only if the header was unfinished (`Unfinished`, `isSome_matchHeader?_append`).

The header of a text is the one at the first line where one stands (`findHeaderFrom_eq_some_iff`).
-/

namespace ElmAssay.Elm

open Text

variable {s r x : List Char}

/-! ## Texts that end with a line -/

/-- A text that is empty or ends with a line feed. -/
def EndsLine (s : List Char) : Prop := ∀ c ∈ s.getLast?, c = '\n'

theorem EndsLine.of_suffix (h : EndsLine s) (hr : r <:+ s) : EndsLine r := by
  obtain ⟨w, rfl⟩ := hr
  intro c hc
  exact h c (by rw [List.getLast?_append, hc]; rfl)

theorem EndsLine.mem (h : EndsLine s) (hs : s ≠ []) : '\n' ∈ s := by
  have hlast := List.getLast?_eq_some_getLast hs
  rw [← h _ hlast]
  exact List.getLast_mem hs

/-- What a text starts with that goes on with a header or with a closing parenthesis. -/
def Solid (x : List Char) : Prop := ∃ c rest, x = c :: rest ∧ (c = 'm' ∨ c = 'p' ∨ c = ')')

theorem Solid.isBlank_eq_false (h : Solid x) : ∃ c rest, x = c :: rest ∧ isBlank c = false := by
  obtain ⟨c, rest, rfl, hc⟩ := h
  refine ⟨c, rest, rfl, ?_⟩
  rcases hc with rfl | rfl | rfl <;> decide

/-! ## Steps of a header -/

theorem afterWord?_eq_some_iff {word : String} : afterWord? word s = some r ↔ s = word.toList ++ r := by
  rw [afterWord?]
  constructor
  · intro h
    split at h
    · rename_i hprefix
      obtain ⟨rest, hrest⟩ := List.isPrefixOf_iff_prefix.1 hprefix
      cases h
      rw [← hrest, List.drop_left]
    · cases h
  · rintro rfl
    rw [if_pos (List.isPrefixOf_iff_prefix.2 (List.prefix_append _ _)), List.drop_left]

theorem afterWord?_eq_none {word : String} {c : Char} {rest : List Char} (hne : word.toList ≠ [])
    (hhead : word.toList.head? ≠ some c) : afterWord? word (c :: rest) = none := by
  obtain ⟨w, word', hw⟩ := List.exists_cons_of_ne_nil hne
  have hcw : w ≠ c := fun h => hhead (by rw [hw, h]; rfl)
  simp [afterWord?, hw, hcw]

/-- A word at the front of a text that ends with a line ends before that. -/
theorem afterWord?_append {word : String} (hword : '\n' ∉ word.toList) (hs : s ≠ []) (hend : EndsLine s) :
    afterWord? word (s ++ x) = (afterWord? word s).map (· ++ x) := by
  cases h : afterWord? word s with
  | some r =>
    rw [afterWord?_eq_some_iff] at h
    rw [Option.map_some, afterWord?_eq_some_iff, h, List.append_assoc]
  | none =>
    rw [Option.map_none, Option.eq_none_iff_forall_ne_some]
    intro r hr
    rw [afterWord?_eq_some_iff] at hr
    rcases List.append_eq_append_iff.1 hr with ⟨a, ha, -⟩ | ⟨c, hc, -⟩
    · exact hword (by rw [ha]; exact List.mem_append_left _ (hend.mem hs))
    · rw [afterWord?_eq_some_iff.2 hc] at h
      cases h

/-- A word stands at the front of a text that ends with a line exactly if it stands there with more appended. -/
theorem afterWord?_append_of_solid {word : String} (hword : '\n' ∉ word.toList)
    (hhead : word.toList.head? ≠ some 'm' ∧ word.toList.head? ≠ some 'p' ∧ word.toList.head? ≠ some ')')
    (hne : word.toList ≠ []) (hend : EndsLine s) (hx : Solid x) :
    afterWord? word (s ++ x) = (afterWord? word s).map (· ++ x) := by
  by_cases hs : s = []
  · obtain ⟨c, rest, rfl, hc⟩ := hx
    have hc' : word.toList.head? ≠ some c := by
      rcases hc with rfl | rfl | rfl
      exacts [hhead.1, hhead.2.1, hhead.2.2]
    have hnil : afterWord? word [] = none := by
      obtain ⟨w, word', hw⟩ := List.exists_cons_of_ne_nil hne
      simp [afterWord?, hw]
    rw [hs, List.nil_append, hnil, afterWord?_eq_none hne hc']
    rfl
  · exact afterWord?_append hword hs hend

theorem dropBlank_append (s : List Char) (hx : Solid x) : dropBlank (s ++ x) = dropBlank s ++ x := by
  obtain ⟨c, rest, rfl, hblank⟩ := hx.isBlank_eq_false
  induction s with
  | nil => simp [dropBlank, dropLeading, hblank]
  | cons a s ih =>
    by_cases ha : isBlank a = true
    · simpa [dropBlank, dropLeading, ha] using ih
    · simp [dropBlank, dropLeading, ha]

theorem afterBlanks?_append (s : List Char) (hx : Solid x) :
    afterBlanks? (s ++ x) = (afterBlanks? s).map (· ++ x) := by
  cases s with
  | nil =>
    obtain ⟨c, rest, rfl, hblank⟩ := hx.isBlank_eq_false
    simp [afterBlanks?, hblank]
  | cons a s =>
    rw [List.cons_append, afterBlanks?, afterBlanks?, dropBlank_append s hx]
    split <;> rfl

theorem suffix_of_afterWord? {word : String} (h : afterWord? word s = some r) : r <:+ s :=
  ⟨word.toList, (afterWord?_eq_some_iff.1 h).symm⟩

theorem suffix_of_afterBlanks? (h : afterBlanks? s = some r) : r <:+ s := by
  cases s with
  | nil => cases h
  | cons a s =>
    rw [afterBlanks?] at h
    split at h
    · cases h
      exact (List.dropWhile_suffix isBlank).trans (List.suffix_cons a s)
    · cases h

/-- Whether a character can be in a dotted name. -/
def isNamePart (c : Char) : Bool := isWord c || c == '.'

/-- A dotted name is the longest one at the front. -/
theorem dottedName?_eq (s : List Char) :
    dottedName? s =
      if (cut '.' (s.takeWhile isNamePart)).all startsCapital then
        some (s.takeWhile isNamePart, s.dropWhile isNamePart)
      else none := by
  rw [dottedName?, List.span_eq_takeWhile_dropWhile]
  rfl

theorem suffix_of_dottedName? {name : List Char} (h : dottedName? s = some (name, r)) : r <:+ s := by
  rw [dottedName?_eq] at h
  split at h
  · cases h
    exact List.dropWhile_suffix isNamePart
  · cases h

theorem dottedName?_eq_none {c : Char} (hcapital : isCapital c = false) (hdot : c ≠ '.') (rest : List Char) :
    dottedName? (c :: rest) = none := by
  rw [dottedName?_eq, if_neg]
  intro hall
  by_cases hc : isNamePart c = true
  · rw [List.takeWhile_cons_of_pos hc, cut, if_neg hdot] at hall
    split at hall
    all_goals simp [startsCapital, hcapital] at hall
  · rw [List.takeWhile_cons_of_neg hc] at hall
    exact absurd hall (by decide)

/-- A dotted name at the front of a text that ends with a line ends before that. -/
theorem dottedName?_append (hend : EndsLine s) (hx : Solid x) :
    dottedName? (s ++ x) = (dottedName? s).map fun p => (p.1, p.2 ++ x) := by
  by_cases hs : s = []
  · obtain ⟨c, rest, rfl, hc⟩ := hx
    have hnone : isCapital c = false ∧ c ≠ '.' := by rcases hc with rfl | rfl | rfl <;> decide
    rw [hs, List.nil_append, dottedName?_eq_none hnone.1 hnone.2]
    rfl
  · have hstop : s.takeWhile isNamePart ≠ s := by
      intro h
      exact absurd (List.takeWhile_eq_self_iff.1 h '\n' (hend.mem hs)) (by decide)
    have hlength : (s.takeWhile isNamePart).length ≠ s.length := fun h =>
      hstop ((List.takeWhile_prefix isNamePart).eq_of_length h)
    have hrest : (s.dropWhile isNamePart).isEmpty ≠ true := fun h =>
      hstop (List.takeWhile_eq_self_iff.2 (List.dropWhile_eq_nil_iff.1 (List.isEmpty_iff.1 h)))
    rw [dottedName?_eq, dottedName?_eq, List.takeWhile_append, if_neg hlength, List.dropWhile_append, if_neg hrest]
    split <;> rfl

/-! ## How a header opens -/

/-- The name of a header without `port` at the front of a text, and what is after the parenthesis that opens its list.
-/
def openPlain? (s : List Char) : Option (List Char × List Char) := do
  let s ← afterWord? "module" s
  let s ← afterBlanks? s
  let (name, s) ← dottedName? s
  let s ← afterBlanks? s
  let s ← afterWord? "exposing" s
  let s ← afterWord? "(" (dropBlank s)
  return (name, s)

theorem openPlain?_of_steps {s₁ s₂ name s₃ s₄ s₅ : List Char} (h₁ : afterWord? "module" s = some s₁)
    (h₂ : afterBlanks? s₁ = some s₂) (h₃ : dottedName? s₂ = some (name, s₃)) (h₄ : afterBlanks? s₃ = some s₄)
    (h₅ : afterWord? "exposing" s₄ = some s₅) (h₆ : afterWord? "(" (dropBlank s₅) = some r) :
    openPlain? s = some (name, r) := by
  simp only [openPlain?, h₁, h₂, h₃, h₄, h₅, h₆, Option.bind_eq_bind, Option.bind_some, Option.pure_def]

/-- A header without `port` opens, and then its list closes. -/
theorem matchPlain?_eq (isPort : Bool) (s : List Char) :
    matchPlain? isPort s =
      (openPlain? s).bind fun p => (closeList? false p.2).map fun l => ⟨isPort, p.1, l.1, l.2⟩ := by
  simp only [matchPlain?, openPlain?, Option.bind_eq_bind, Option.bind_assoc, Option.pure_def, Option.bind_some,
    Option.map_eq_bind]
  rfl

/-- How a header opens that starts in a text that ends with a line is not changed by what is appended. -/
theorem openPlain?_append (hs : s ≠ []) (hend : EndsLine s) (hx : Solid x) :
    openPlain? (s ++ x) = (openPlain? s).map fun p => (p.1, p.2 ++ x) := by
  simp only [openPlain?, Option.bind_eq_bind, Option.pure_def]
  rw [afterWord?_append (by decide) hs hend]
  cases h₁ : afterWord? "module" s with
  | none => rfl
  | some s₁ =>
  have hend₁ := hend.of_suffix (suffix_of_afterWord? h₁)
  simp only [Option.map_some, Option.bind_some]
  rw [afterBlanks?_append s₁ hx]
  cases h₂ : afterBlanks? s₁ with
  | none => rfl
  | some s₂ =>
  have hend₂ := hend₁.of_suffix (suffix_of_afterBlanks? h₂)
  simp only [Option.map_some, Option.bind_some]
  rw [dottedName?_append hend₂ hx]
  cases h₃ : dottedName? s₂ with
  | none => rfl
  | some p =>
  obtain ⟨name, s₃⟩ := p
  have hend₃ := hend₂.of_suffix (suffix_of_dottedName? h₃)
  simp only [Option.map_some, Option.bind_some]
  rw [afterBlanks?_append s₃ hx]
  cases h₄ : afterBlanks? s₃ with
  | none => rfl
  | some s₄ =>
  have hend₄ := hend₃.of_suffix (suffix_of_afterBlanks? h₄)
  simp only [Option.map_some, Option.bind_some]
  rw [afterWord?_append_of_solid (by decide) (by decide) (by decide) hend₄ hx]
  cases h₅ : afterWord? "exposing" s₄ with
  | none => rfl
  | some s₅ =>
  have hend₅ := hend₄.of_suffix (suffix_of_afterWord? h₅)
  simp only [Option.map_some, Option.bind_some]
  have hend₆ : EndsLine (dropBlank s₅) := hend₅.of_suffix (List.dropWhile_suffix isBlank)
  rw [dropBlank_append s₅ hx, afterWord?_append_of_solid (by decide) (by decide) (by decide) hend₆ hx]
  cases afterWord? "(" (dropBlank s₅) <;> rfl

/-! ## How a list closes -/

/-- A list that closes does so whatever is appended. -/
theorem closeList?_append : ∀ (inner : Bool) (r : List Char) {p : List Char × List Char}, closeList? inner r = some p →
    ∀ x, closeList? inner (r ++ x) = some (p.1, p.2 ++ x)
  | _, [], _, h, _ => by simp [closeList?] at h
  | inner, c :: r, p, h, x => by
    rw [closeList?] at h
    rw [List.cons_append, closeList?]
    split
    · rename_i hc
      rw [if_pos hc] at h
      cases inner with
      | true =>
        obtain ⟨q, hq, rfl⟩ := Option.map_eq_some_iff.1 h
        rw [if_pos rfl, closeList?_append false r hq x]
        rfl
      | false =>
        cases h
        rfl
    · rename_i hc
      rw [if_neg hc] at h
      split
      · rename_i ho
        rw [if_pos ho] at h
        cases inner with
        | true => cases h
        | false =>
          obtain ⟨q, hq, rfl⟩ := Option.map_eq_some_iff.1 h
          rw [if_neg Bool.false_ne_true, closeList?_append true r hq x]
          rfl
      · rename_i ho
        rw [if_neg ho] at h
        obtain ⟨q, hq, rfl⟩ := Option.map_eq_some_iff.1 h
        rw [closeList?_append inner r hq x]
        rfl

/-- A list that does not close goes on in what is appended: on its own level, on the inner one, or not at all. -/
theorem closeList?_append_cases : ∀ (inner : Bool) (r : List Char), closeList? inner r = none →
    (∀ x, (closeList? inner (r ++ x)).isSome = (closeList? false x).isSome) ∨
      (∀ x, (closeList? inner (r ++ x)).isSome = (closeList? true x).isSome) ∨ ∀ x, closeList? inner (r ++ x) = none
  | false, [], _ => .inl fun _ => rfl
  | true, [], _ => .inr (.inl fun _ => rfl)
  | inner, c :: r, h => by
    simp only [List.cons_append, closeList?] at h ⊢
    split at h
    · rename_i hc
      simp only [if_pos hc]
      cases inner with
      | true => simpa using closeList?_append_cases false r (by simpa using h)
      | false => cases h
    · rename_i hc
      simp only [if_neg hc]
      split at h
      · rename_i ho
        simp only [if_pos ho]
        cases inner with
        | true => exact .inr (.inr fun _ => rfl)
        | false => simpa using closeList?_append_cases true r (by simpa using h)
      · rename_i ho
        simp only [if_neg ho]
        simpa using closeList?_append_cases inner r (by simpa using h)

/-- Text without parentheses does not change whether a list closes. -/
theorem isSome_closeList?_append (inner : Bool) {w : List Char} (h : ∀ c ∈ w, c ≠ ')' ∧ c ≠ '(') (x : List Char) :
    (closeList? inner (w ++ x)).isSome = (closeList? inner x).isSome := by
  induction w with
  | nil => rfl
  | cons c w ih =>
    obtain ⟨hc, ho⟩ := h c List.mem_cons_self
    rw [List.cons_append, closeList?, if_neg hc, if_neg ho, Option.isSome_map]
    exact ih fun c hc => h c (List.mem_cons_of_mem _ hc)

/-! ## Unfinished headers -/

/-- A text starts with a header that only its last parenthesis is missing from. -/
def Unfinished (s : List Char) : Prop := matchHeader? s = none ∧ (matchHeader? (s ++ [')'])).isSome = true

/-- A header at the front of a text makes it solid. -/
theorem solid_of_matchHeader? {m : HeaderMatch} (h : matchHeader? x = some m) : Solid x := by
  rw [matchHeader?] at h
  split at h
  · rename_i s hport
    rw [afterPort?] at hport
    obtain ⟨s', hword, -⟩ := Option.bind_eq_some_iff.1 hport
    exact ⟨'p', _, afterWord?_eq_some_iff.1 hword, .inr (.inl rfl)⟩
  · rw [matchPlain?_eq, openPlain?] at h
    obtain ⟨p, hopen, -⟩ := Option.bind_eq_some_iff.1 h
    obtain ⟨s', hword, -⟩ := Option.bind_eq_some_iff.1 hopen
    exact ⟨'m', _, afterWord?_eq_some_iff.1 hword, .inl rfl⟩

/-- A header that does not say `port` could also stand behind `port`. -/
theorem isSome_matchPlain?_of_matchHeader? {m : HeaderMatch} (h : matchHeader? x = some m) (hport : m.isPort = false) :
    (matchPlain? true x).isSome = true := by
  rw [matchHeader?] at h
  split at h <;> rw [matchPlain?_eq] at h <;> obtain ⟨p, hopen, hclose⟩ := Option.bind_eq_some_iff.1 h <;>
    obtain ⟨l, hl, rfl⟩ := Option.map_eq_some_iff.1 hclose
  · cases hport
  · rw [matchPlain?_eq, hopen, Option.bind_some, hl]
    rfl

theorem afterPort?_append (hs : s ≠ []) (hend : EndsLine s) (hx : Solid x) :
    afterPort? (s ++ x) = (afterPort? s).map (· ++ x) := by
  rw [afterPort?, afterPort?, afterWord?_append (by decide) hs hend]
  cases afterWord? "port" s with
  | none => rfl
  | some s₁ => exact afterBlanks?_append s₁ hx

theorem suffix_of_afterPort? (h : afterPort? s = some r) : r <:+ s := by
  rw [afterPort?] at h
  obtain ⟨s₁, hword, hblank⟩ := Option.bind_eq_some_iff.1 h
  exact (suffix_of_afterBlanks? hblank).trans (suffix_of_afterWord? hword)

/-- What a text that ends with a line has of a header without `port`: nothing, or how it opens. -/
theorem matchPlain?_append_cases (isPort : Bool) (hs : s ≠ []) (hend : EndsLine s) :
    (∀ x, Solid x → matchPlain? isPort (s ++ x) = none) ∨
      ∃ name r, matchPlain? isPort s = ((closeList? false r).map fun l => ⟨isPort, name, l.1, l.2⟩) ∧
        ∀ x, Solid x →
          matchPlain? isPort (s ++ x) = ((closeList? false (r ++ x)).map fun l => ⟨isPort, name, l.1, l.2⟩) := by
  cases hopen : openPlain? s with
  | none => exact .inl fun x hx => by rw [matchPlain?_eq, openPlain?_append hs hend hx, hopen]; rfl
  | some p =>
    refine .inr ⟨p.1, p.2, by rw [matchPlain?_eq, hopen]; rfl, fun x hx => ?_⟩
    rw [matchPlain?_eq, openPlain?_append hs hend hx, hopen]
    rfl

/-- What a text that ends with a line has of a header: only `port`, nothing, or how it opens. -/
theorem matchHeader?_append_cases (hs : s ≠ []) (hend : EndsLine s) :
    (∀ x, Solid x → matchHeader? (s ++ x) = matchPlain? true x) ∨
      (∀ x, Solid x → matchHeader? (s ++ x) = none) ∨
        ∃ isPort name r, matchHeader? s = ((closeList? false r).map fun l => ⟨isPort, name, l.1, l.2⟩) ∧
          ∀ x, Solid x →
            matchHeader? (s ++ x) = ((closeList? false (r ++ x)).map fun l => ⟨isPort, name, l.1, l.2⟩) := by
  cases hport : afterPort? s with
  | none =>
    have hmatch (x : List Char) (hx : Solid x) : matchHeader? (s ++ x) = matchPlain? false (s ++ x) := by
      rw [matchHeader?, afterPort?_append hs hend hx, hport]
      rfl
    rcases matchPlain?_append_cases false hs hend with hnone | ⟨name, r, hself, happend⟩
    · exact .inr (.inl fun x hx => (hmatch x hx).trans (hnone x hx))
    · exact .inr (.inr ⟨false, name, r, by rw [matchHeader?, hport]; exact hself, fun x hx =>
        (hmatch x hx).trans (happend x hx)⟩)
  | some t =>
    have hmatch (x : List Char) (hx : Solid x) : matchHeader? (s ++ x) = matchPlain? true (t ++ x) := by
      rw [matchHeader?, afterPort?_append hs hend hx, hport]
      rfl
    by_cases ht : t = []
    · exact .inl fun x hx => by rw [hmatch x hx, ht]; rfl
    · have hendt : EndsLine t := hend.of_suffix (suffix_of_afterPort? hport)
      rcases matchPlain?_append_cases true ht hendt with hnone | ⟨name, r, hself, happend⟩
      · exact .inr (.inl fun x hx => (hmatch x hx).trans (hnone x hx))
      · exact .inr (.inr ⟨true, name, r, by rw [matchHeader?, hport]; exact hself, fun x hx =>
          (hmatch x hx).trans (happend x hx)⟩)

/-- **A header comes to stand at the front of a text by what is appended only if it was unfinished** and its list
closes in what is appended. Here `x` is something else that could be appended without a header coming to stand there.
-/
theorem isSome_matchHeader?_append {y : List Char} (hs : s ≠ []) (hend : EndsLine s) (hx : Solid x)
    (hnone : matchHeader? (s ++ x) = none) (hy : Solid y)
    (hport : matchPlain? true x = none → matchPlain? true y = none) (hinner : closeList? true y = none) :
    (matchHeader? (s ++ y)).isSome = true ↔ Unfinished s ∧ (closeList? false y).isSome = true := by
  have hparen : Solid [')'] := ⟨')', [], rfl, .inr (.inr rfl)⟩
  rcases matchHeader?_append_cases hs hend with hmatch | hmatch | ⟨isPort, name, r, hself, hmatch⟩
  · rw [hmatch x hx] at hnone
    rw [Unfinished, hmatch y hy, hmatch _ hparen, hport hnone]
    have hplain : matchPlain? true [')'] = none := by decide
    simp [hplain]
  · rw [Unfinished, hmatch y hy, hmatch _ hparen]
    simp
  · rw [Unfinished, hmatch y hy, hmatch _ hparen, hself, Option.isSome_map, Option.isSome_map, Option.map_eq_none_iff]
    cases hclose : closeList? false r with
    | some p =>
      rw [hmatch x hx, closeList?_append false r hclose x] at hnone
      cases hnone
    | none =>
      rcases closeList?_append_cases false r hclose with h | h | h
      · rw [h y, h [')']]
        simp [closeList?]
      · rw [h y, h [')'], hinner]
        simp [closeList?]
      · rw [h y, h [')']]
        simp

/-! ## The header of a text -/

/-- A place that starts a line, by what is before it; whether the place without anything before it does is known. -/
def StartsLine (first : Bool) (before : List Char) : Prop := (before = [] → first = true) ∧ EndsLine before

theorem startsLine_cons {first : Bool} {c : Char} {before : List Char} :
    StartsLine first (c :: before) ↔ StartsLine (c == '\n') before := by
  rw [StartsLine, StartsLine, EndsLine, EndsLine]
  cases before <;> simp

theorem startsLine_nil {first : Bool} : StartsLine first [] ↔ first = true :=
  ⟨fun h => h.1 rfl, fun h => ⟨fun _ => h, by simp [EndsLine]⟩⟩

theorem matchHeader?_nil : matchHeader? [] = none := by decide

/-- A header is the one at the first line of a text where one stands; the text starts at a position, and it is known
whether that starts a line. -/
def IsFirstHeader (position : Nat) (first : Bool) (s : List Char) (h : Header) : Prop :=
  ∃ before x, s = before ++ x ∧ StartsLine first before ∧ headerAt? (position + before.length) x = some h ∧
    ∀ a b, before = a ++ b → b ≠ [] → StartsLine first a → matchHeader? (b ++ x) = none

theorem not_isFirstHeader_nil {position : Nat} {first : Bool} {h : Header} : ¬IsFirstHeader position first [] h := by
  rintro ⟨before, x, hsplit, -, hat, -⟩
  obtain ⟨-, rfl⟩ := List.append_eq_nil_iff.1 hsplit.symm
  rw [headerAt?, matchHeader?_nil] at hat
  cases hat

/-- The first header of a text stands at its front, or it is the first one behind the first character. -/
theorem isFirstHeader_cons {position : Nat} {first : Bool} {c : Char} {h : Header} :
    IsFirstHeader position first (c :: s) h ↔
      (first = true ∧ headerAt? position (c :: s) = some h) ∨
        ((first = true → matchHeader? (c :: s) = none) ∧ IsFirstHeader (position + 1) (c == '\n') s h) := by
  constructor
  · rintro ⟨before, x, hsplit, hline, hat, hquiet⟩
    cases before with
    | nil =>
      rw [List.nil_append] at hsplit
      exact .inl ⟨startsLine_nil.1 hline, hsplit ▸ hat⟩
    | cons c' before =>
      obtain ⟨rfl, rfl⟩ := List.cons.inj hsplit
      refine .inr ⟨fun hfirst => hquiet [] _ rfl (List.cons_ne_nil c before) (startsLine_nil.2 hfirst), before, x, rfl,
        startsLine_cons.1 hline, ?_, fun a b hab hb ha => ?_⟩
      · rw [List.length_cons, ← Nat.add_assoc, Nat.add_right_comm] at hat
        exact hat
      · exact hquiet (c :: a) b (by rw [hab]; rfl) hb (startsLine_cons.2 ha)
  · rintro (⟨hfirst, hat⟩ | ⟨hno, before, x, rfl, hline, hat, hquiet⟩)
    · refine ⟨[], c :: s, rfl, startsLine_nil.2 hfirst, hat, fun a b hsplit hb => ?_⟩
      exact absurd (List.append_eq_nil_iff.1 hsplit.symm).2 hb
    · refine ⟨c :: before, x, rfl, startsLine_cons.2 hline, ?_, fun a b hsplit hb ha => ?_⟩
      · rw [List.length_cons, ← Nat.add_assoc, Nat.add_right_comm]
        exact hat
      · cases a with
        | nil =>
          rw [← show c :: before = b from hsplit]
          exact hno (startsLine_nil.1 ha)
        | cons a₀ a =>
          obtain ⟨rfl, hrest⟩ := List.cons.inj hsplit
          exact hquiet a b hrest hb (startsLine_cons.1 ha)

/-- **The search for a header finds the first one.** -/
theorem findHeaderFrom_eq_some_iff : ∀ (s : List Char) (position : Nat) (first : Bool) {h : Header},
    findHeaderFrom position first s = some h ↔ IsFirstHeader position first s h
  | [], position, first, h => iff_of_false nofun not_isFirstHeader_nil
  | c :: s, position, first, h => by
    rw [findHeaderFrom, isFirstHeader_cons, ← findHeaderFrom_eq_some_iff s (position + 1) (c == '\n')]
    cases first with
    | false => simp
    | true =>
      have hnone : headerAt? position (c :: s) = none ↔ matchHeader? (c :: s) = none := Option.map_eq_none_iff
      rw [if_pos rfl, ← hnone]
      cases headerAt? position (c :: s) <;> simp

/-- The header of a text stands at a line, and none stands at an earlier line. -/
theorem findHeader_eq_some_iff {text : String} {h : Header} :
    findHeader text = some h ↔
      ∃ before x, text.toList = before ++ x ∧ EndsLine before ∧ headerAt? before.length x = some h ∧
        ∀ a b, before = a ++ b → b ≠ [] → EndsLine a → matchHeader? (b ++ x) = none := by
  have hline (before : List Char) : StartsLine true before ↔ EndsLine before := by simp [StartsLine]
  rw [findHeader, findHeaderFrom_eq_some_iff]
  simp only [IsFirstHeader, hline, Nat.zero_add]

end ElmAssay.Elm
