import ElmAssay.Proofs.Elm.Header
import ElmAssay.Proofs.Elm.Name
import ElmAssay.Proofs.Text.Lines
import Mathlib.Data.List.Basic
import Mathlib.Data.List.Count

/-!
# The grammar of headers

What a header is, said without the search for it (`HeaderText`): words with white space between them, a dotted name
(`IsDottedName`), and a list in parentheses that holds parentheses one level deep (`IsShallow`). At the front of a text
the header that is found is the one that the grammar has there (`matchHeader?_eq_some_iff`), so at most one prefix of a
text is a header (`HeaderText.unique`).

Each step of the search takes the longest piece that it can. That this is the piece of the grammar is because what comes
next cannot be part of it: no white space is in a name (`isNamePart_of_isBlank`), and a word starts with no white space.
-/

namespace ElmAssay.Elm

open Text

variable {s r name list text : List Char}

/-! ## The grammar -/

/-- White space between two words: at least one character of it. -/
def IsGap (gap : List Char) : Prop := gap ≠ [] ∧ allBlank gap = true

/-- A part of a dotted name: a capital letter, then word characters. -/
def IsNameWord (word : List Char) : Prop := ∃ c rest, word = c :: rest ∧ isCapital c = true ∧ ∀ a ∈ rest, isWord a = true

/-- A dotted name: one part or more, with dots between them. -/
def IsDottedName (name : List Char) : Prop :=
  ∃ parts, parts ≠ [] ∧ name = joinWith ['.'] parts ∧ ∀ word ∈ parts, IsNameWord word

/-- With `n` parentheses open in front, the text closes them all, and never more than are open; at no place more than
one is open. -/
def IsShallowFrom (n : Nat) (list : List Char) : Prop :=
  n + list.count '(' = list.count ')' ∧
    ∀ front, front <+: list → front.count ')' ≤ n + front.count '(' ∧ n + front.count '(' ≤ front.count ')' + 1

/-- A text whose parentheses are balanced, one level deep at most. -/
def IsShallow (list : List Char) : Prop := IsShallowFrom 0 list

/-- The text of a header with its name and its list; the first argument says whether it starts with `port`. -/
inductive HeaderText : Bool → List Char → List Char → List Char → Prop
  | plain {gap₁ gap₂ gap₃ name list : List Char} : IsGap gap₁ → IsDottedName name → IsGap gap₂ → allBlank gap₃ = true →
      IsShallow list →
      HeaderText false name list
        ("module".toList ++ (gap₁ ++ (name ++ (gap₂ ++ ("exposing".toList ++ (gap₃ ++ '(' :: (list ++ [')'])))))))
  | port {gap name list text : List Char} : IsGap gap → HeaderText false name list text →
      HeaderText true name list ("port".toList ++ (gap ++ text))

/-- A text that is a header. -/
def IsHeader (text : List Char) : Prop := ∃ isPort name list, HeaderText isPort name list text

/-! ## White space -/

theorem allBlank_cons {c : Char} : allBlank (c :: s) = true ↔ isBlank c = true ∧ allBlank s = true := by
  simp [allBlank]

/-- What is left without leading white space is what follows a run of it and starts with none. -/
theorem dropBlank_eq_iff :
    dropBlank s = r ↔ ∃ gap, allBlank gap = true ∧ s = gap ++ r ∧ ∀ c ∈ r.head?, isBlank c = false := by
  constructor
  · rintro rfl
    refine ⟨s.takeWhile isBlank, ?_, List.takeWhile_append_dropWhile.symm, fun c hc => ?_⟩
    · exact List.all_eq_true.2 fun c hc => List.mem_takeWhile_imp hc
    · have hhead := List.head?_dropWhile_not isBlank s
      rw [show s.dropWhile isBlank = dropBlank s from rfl, hc] at hhead
      simpa using hhead
  · rintro ⟨gap, hgap, rfl, hr⟩
    have hall : ∀ c ∈ gap, isBlank c = true := List.all_eq_true.1 hgap
    rw [dropBlank, dropLeading, List.dropWhile_append_of_pos hall]
    cases r with
    | nil => rfl
    | cons c r => rw [List.dropWhile_cons_of_neg (by simp [hr c rfl])]

theorem afterBlanks?_eq_some_iff :
    afterBlanks? s = some r ↔ ∃ gap, IsGap gap ∧ s = gap ++ r ∧ ∀ c ∈ r.head?, isBlank c = false := by
  cases s with
  | nil =>
    refine iff_of_false nofun ?_
    rintro ⟨gap, ⟨hne, -⟩, hnil, -⟩
    exact hne (List.append_eq_nil_iff.1 hnil.symm).1
  | cons c s =>
    rw [afterBlanks?]
    constructor
    · intro h
      split at h
      · rename_i hc
        obtain ⟨gap, hgap, hs, hr⟩ := dropBlank_eq_iff.1 (Option.some.inj h)
        exact ⟨c :: gap, ⟨List.cons_ne_nil c gap, allBlank_cons.2 ⟨hc, hgap⟩⟩, congrArg (c :: ·) hs, hr⟩
      · cases h
    · rintro ⟨gap, ⟨hne, hgap⟩, hs, hr⟩
      obtain ⟨a, gap, rfl⟩ := List.exists_cons_of_ne_nil hne
      obtain ⟨rfl, hrest⟩ := List.cons.inj hs
      obtain ⟨hc, hgap⟩ := allBlank_cons.1 hgap
      rw [if_pos hc, dropBlank_eq_iff.2 ⟨gap, hgap, hrest, hr⟩]

/-! ## Names -/

theorem isNamePart_of_isBlank {c : Char} (h : isBlank c = true) : isNamePart c = false := by
  have hdot : c ≠ '.' := by
    rintro rfl
    exact absurd h (by decide)
  simp [isNamePart, isWord_of_isBlank h, hdot]

theorem IsNameWord.all_isWord {word : List Char} (h : IsNameWord word) : ∀ c ∈ word, isWord c = true := by
  obtain ⟨c, rest, rfl, hc, hrest⟩ := h
  intro a ha
  rcases List.mem_cons.1 ha with rfl | ha
  · exact isWord_of_isCapital hc
  · exact hrest a ha

theorem IsNameWord.not_mem_dot {word : List Char} (h : IsNameWord word) : '.' ∉ word := by
  intro hdot
  exact absurd (h.all_isWord '.' hdot) (by decide)

/-- A dotted name is a run of name characters whose pieces between the dots start with a capital letter. -/
theorem isDottedName_iff :
    IsDottedName name ↔ (∀ c ∈ name, isNamePart c = true) ∧ (cut '.' name).all startsCapital = true := by
  constructor
  · rintro ⟨parts, hne, rfl, hparts⟩
    have hcut : cut '.' (joinWith ['.'] parts) = parts := by
      rw [cut_joinWith hne]
      exact (List.flatMap_congr fun word hword => cut_of_not_mem (hparts word hword).not_mem_dot).trans
        (List.flatMap_singleton' parts)
    refine ⟨fun c hc => ?_, ?_⟩
    · rcases mem_joinWith hc with hdot | ⟨word, hword, hc⟩
      · rw [List.mem_singleton.1 hdot]
        decide
      · simp [isNamePart, (hparts word hword).all_isWord c hc]
    · rw [hcut, List.all_eq_true]
      intro word hword
      obtain ⟨c, rest, rfl, hc, -⟩ := hparts word hword
      exact hc
  · rintro ⟨hname, hcapital⟩
    refine ⟨cut '.' name, cut_ne_nil '.' name, (joinWith_cut '.' name).symm, fun word hword => ?_⟩
    have hstart := List.all_eq_true.1 hcapital word hword
    cases word with
    | nil => cases hstart
    | cons c rest =>
      refine ⟨c, rest, rfl, hstart, fun a ha => ?_⟩
      have hmem := List.mem_cons_of_mem c ha
      have hdot : a ≠ '.' := fun h => not_mem_of_mem_cut hword (h ▸ hmem)
      have hpart := hname a (mem_of_mem_cut hword hmem)
      simpa [isNamePart, hdot] using hpart

theorem dottedName?_eq_some_iff :
    dottedName? s = some (name, r) ↔ IsDottedName name ∧ s = name ++ r ∧ ∀ c ∈ r.head?, isNamePart c = false := by
  rw [dottedName?_eq, isDottedName_iff]
  constructor
  · intro h
    split at h
    · rename_i hcapital
      cases h
      refine ⟨⟨fun c hc => List.mem_takeWhile_imp hc, hcapital⟩, List.takeWhile_append_dropWhile.symm, fun c hc => ?_⟩
      have hhead := List.head?_dropWhile_not isNamePart s
      rw [hc] at hhead
      simpa using hhead
    · cases h
  · rintro ⟨⟨hname, hcapital⟩, rfl, hr⟩
    have hstop : r.takeWhile isNamePart = [] ∧ r.dropWhile isNamePart = r := by
      cases r with
      | nil => exact ⟨rfl, rfl⟩
      | cons c r =>
        have hc : ¬isNamePart c = true := by simp [hr c rfl]
        exact ⟨List.takeWhile_cons_of_neg hc, List.dropWhile_cons_of_neg hc⟩
    rw [List.takeWhile_append_of_pos hname, List.dropWhile_append_of_pos hname, hstop.1, hstop.2, List.append_nil,
      if_pos hcapital]

/-- A dotted name does not start with white space. -/
theorem IsDottedName.head (h : IsDottedName name) : ∃ c rest, name = c :: rest ∧ isBlank c = false := by
  obtain ⟨parts, hne, rfl, hparts⟩ := h
  obtain ⟨word, parts, rfl⟩ := List.exists_cons_of_ne_nil hne
  obtain ⟨c, rest, rfl, hc, -⟩ := hparts word List.mem_cons_self
  cases parts with
  | nil => exact ⟨c, rest, rfl, isBlank_of_isCapital hc⟩
  | cons next parts => exact ⟨c, _, rfl, isBlank_of_isCapital hc⟩

/-! ## Lists in parentheses -/

theorem isShallowFrom_nil {n : Nat} : IsShallowFrom n [] ↔ n = 0 := by
  constructor
  · rintro ⟨hclosed, -⟩
    simpa using hclosed
  · rintro rfl
    refine ⟨rfl, fun front hfront => ?_⟩
    rw [List.prefix_nil.1 hfront]
    simp

/-- What the first character of a list does to the count of open parentheses. -/
theorem isShallowFrom_cons {n : Nat} {c : Char} :
    IsShallowFrom n (c :: list) ↔
      n ≤ 1 ∧ [c].count ')' ≤ n + [c].count '(' ∧ IsShallowFrom (n + [c].count '(' - [c].count ')') list := by
  have hcount (a : Char) (l : List Char) : (c :: l).count a = [c].count a + l.count a := by
    rw [← List.singleton_append, List.count_append]
  have hopen := hcount '(' list
  have hclose := hcount ')' list
  constructor
  · rintro ⟨hclosed, hfronts⟩
    have hnone := hfronts [] List.nil_prefix
    have hfirst := hfronts [c] (List.prefix_append [c] list)
    rw [List.count_nil, List.count_nil] at hnone
    refine ⟨by omega, hfirst.1, by omega, fun front hfront => ?_⟩
    have hfront := hfronts (c :: front) ((List.prefix_cons_inj c).2 hfront)
    have hopen' := hcount '(' front
    have hclose' := hcount ')' front
    omega
  · rintro ⟨hn, hfirst, hclosed, hfronts⟩
    refine ⟨by omega, fun front hfront => ?_⟩
    rcases List.prefix_cons_iff.1 hfront with rfl | ⟨front, rfl, hrest⟩
    · rw [List.count_nil, List.count_nil]
      omega
    · have hfront := hfronts front hrest
      have hopen' := hcount '(' front
      have hclose' := hcount ')' front
      omega

theorem isShallowFrom_close {n : Nat} : IsShallowFrom n (')' :: list) ↔ n = 1 ∧ IsShallowFrom 0 list := by
  rw [isShallowFrom_cons, show [')'].count ')' = 1 by decide, show [')'].count '(' = 0 by decide]
  constructor
  · rintro ⟨hn, hclose, hlist⟩
    obtain rfl : n = 1 := by omega
    exact ⟨rfl, hlist⟩
  · rintro ⟨rfl, hlist⟩
    exact ⟨Nat.le_refl 1, by omega, hlist⟩

theorem isShallowFrom_open {n : Nat} : IsShallowFrom n ('(' :: list) ↔ n = 0 ∧ IsShallowFrom 1 list := by
  rw [isShallowFrom_cons, show ['('].count ')' = 0 by decide, show ['('].count '(' = 1 by decide]
  constructor
  · rintro ⟨-, -, hlist⟩
    have hn := (hlist.2 [] List.nil_prefix).2
    rw [List.count_nil, List.count_nil] at hn
    obtain rfl : n = 0 := by omega
    exact ⟨rfl, hlist⟩
  · rintro ⟨rfl, hlist⟩
    exact ⟨Nat.zero_le 1, Nat.zero_le _, hlist⟩

theorem isShallowFrom_other {n : Nat} {c : Char} (hn : n ≤ 1) (hclose : c ≠ ')') (hopen : c ≠ '(') :
    IsShallowFrom n (c :: list) ↔ IsShallowFrom n list := by
  rw [isShallowFrom_cons, List.count_singleton, List.count_singleton, if_neg (by simpa using hclose),
    if_neg (by simpa using hopen)]
  exact ⟨fun h => h.2.2, fun h => ⟨hn, Nat.zero_le _, h⟩⟩

/-- **A list goes up to the first parenthesis that leaves it balanced and shallow.** -/
theorem closeList?_eq_some_iff : ∀ (inner : Bool) (s : List Char) {list r : List Char},
    closeList? inner s = some (list, r) ↔ s = list ++ ')' :: r ∧ IsShallowFrom inner.toNat list
  | inner, [], list, r => by simp [closeList?]
  | inner, c :: s, list, r => by
    have hinner : inner.toNat ≤ 1 := by cases inner <;> decide
    -- the list is empty, or it starts with the same character and goes on
    have hsplit : (c :: s = list ++ ')' :: r ∧ IsShallowFrom inner.toNat list) ↔
        (c = ')' ∧ s = r ∧ list = [] ∧ inner = false) ∨
          ∃ l, list = c :: l ∧ s = l ++ ')' :: r ∧ IsShallowFrom inner.toNat (c :: l) := by
      cases list with
      | nil => cases inner <;> simp [isShallowFrom_nil]
      | cons a l =>
        simp only [List.cons_append, List.cons.injEq, reduceCtorEq, false_and, and_false, false_or]
        constructor
        · rintro ⟨⟨rfl, hs⟩, hshallow⟩
          exact ⟨l, ⟨rfl, rfl⟩, hs, hshallow⟩
        · rintro ⟨l', ⟨rfl, rfl⟩, hs, hshallow⟩
          exact ⟨⟨rfl, hs⟩, hshallow⟩
    have hmap (next : Bool) (hnext : ∀ l, IsShallowFrom inner.toNat (c :: l) ↔ IsShallowFrom next.toNat l) :
        (closeList? next s).map (fun p => (c :: p.1, p.2)) = some (list, r) ↔
          ∃ l, list = c :: l ∧ s = l ++ ')' :: r ∧ IsShallowFrom inner.toNat (c :: l) := by
      rw [Option.map_eq_some_iff]
      constructor
      · rintro ⟨⟨l, r'⟩, hclose, hpair⟩
        cases hpair
        obtain ⟨hs, hshallow⟩ := (closeList?_eq_some_iff next s).1 hclose
        exact ⟨l, rfl, hs, (hnext l).2 hshallow⟩
      · rintro ⟨l, rfl, hs, hshallow⟩
        exact ⟨(l, r), (closeList?_eq_some_iff next s).2 ⟨hs, (hnext l).1 hshallow⟩, rfl⟩
    rw [hsplit, closeList?]
    by_cases hclose : c = ')'
    · subst hclose
      rw [if_pos rfl]
      cases inner with
      | true =>
        rw [if_pos rfl, hmap false fun l => by simp [isShallowFrom_close]]
        simp
      | false =>
        simp only [Bool.false_eq_true, if_false, Option.some.injEq, Prod.mk.injEq, isShallowFrom_close]
        simp [eq_comm, and_comm]
    · rw [if_neg hclose]
      by_cases hopen : c = '('
      · subst hopen
        rw [if_pos rfl]
        cases inner with
        | true => simp [isShallowFrom_open]
        | false =>
          rw [if_neg Bool.false_ne_true, hmap true fun l => by simp [isShallowFrom_open]]
          simp
      · rw [if_neg hopen, hmap inner fun l => isShallowFrom_other hinner hclose hopen]
        simp [hclose]

/-! ## Headers -/

theorem openPlain?_eq_some_iff :
    openPlain? s = some (name, r) ↔
      ∃ gap₁ gap₂ gap₃, IsGap gap₁ ∧ IsDottedName name ∧ IsGap gap₂ ∧ allBlank gap₃ = true ∧
        s = "module".toList ++ (gap₁ ++ (name ++ (gap₂ ++ ("exposing".toList ++ (gap₃ ++ '(' :: r))))) := by
  constructor
  · intro h
    rw [openPlain?] at h
    obtain ⟨s₁, h₁, h⟩ := Option.bind_eq_some_iff.1 h
    obtain ⟨s₂, h₂, h⟩ := Option.bind_eq_some_iff.1 h
    obtain ⟨⟨name', s₃⟩, h₃, h⟩ := Option.bind_eq_some_iff.1 h
    obtain ⟨s₄, h₄, h⟩ := Option.bind_eq_some_iff.1 h
    obtain ⟨s₅, h₅, h⟩ := Option.bind_eq_some_iff.1 h
    obtain ⟨s₆, h₆, h⟩ := Option.bind_eq_some_iff.1 h
    cases h
    rw [afterWord?_eq_some_iff] at h₁ h₅ h₆
    obtain ⟨gap₁, hgap₁, rfl, -⟩ := afterBlanks?_eq_some_iff.1 h₂
    obtain ⟨hname, rfl, -⟩ := dottedName?_eq_some_iff.1 h₃
    obtain ⟨gap₂, hgap₂, rfl, -⟩ := afterBlanks?_eq_some_iff.1 h₄
    obtain ⟨gap₃, hgap₃, rfl, -⟩ := dropBlank_eq_iff.1 h₆
    exact ⟨gap₁, gap₂, gap₃, hgap₁, hname, hgap₂, hgap₃, by rw [h₁, h₅]; rfl⟩
  · rintro ⟨gap₁, gap₂, gap₃, hgap₁, hname, hgap₂, hgap₃, rfl⟩
    obtain ⟨c, rest, hhead, hblank⟩ := hname.head
    obtain ⟨b, gap, rfl⟩ := List.exists_cons_of_ne_nil hgap₂.1
    have hb : isNamePart b = false := isNamePart_of_isBlank (allBlank_cons.1 hgap₂.2).1
    refine openPlain?_of_steps (afterWord?_eq_some_iff.2 rfl) (afterBlanks?_eq_some_iff.2 ⟨gap₁, hgap₁, rfl, ?_⟩)
      (dottedName?_eq_some_iff.2 ⟨hname, rfl, ?_⟩) (afterBlanks?_eq_some_iff.2 ⟨b :: gap, hgap₂, rfl, ?_⟩)
      (afterWord?_eq_some_iff.2 rfl) (afterWord?_eq_some_iff.2 (dropBlank_eq_iff.2 ⟨gap₃, hgap₃, rfl, ?_⟩))
    · intro a ha
      rw [hhead] at ha
      cases ha
      exact hblank
    · intro a ha
      cases ha
      exact hb
    · intro a ha
      cases ha
      decide
    · intro a ha
      cases ha
      decide

/-- **At the front of a text, the header without `port` that is found is the one that the grammar has there.** -/
theorem matchPlain?_eq_some_iff {isPort : Bool} {m : HeaderMatch} :
    matchPlain? isPort s = some m ↔
      m.isPort = isPort ∧ ∃ text, HeaderText false m.name m.exposing text ∧ s = text ++ m.rest := by
  rw [matchPlain?_eq, Option.bind_eq_some_iff]
  constructor
  · rintro ⟨⟨name, r⟩, hopen, hclose⟩
    obtain ⟨⟨list, rest⟩, hlist, rfl⟩ := Option.map_eq_some_iff.1 hclose
    obtain ⟨gap₁, gap₂, gap₃, hgap₁, hname, hgap₂, hgap₃, rfl⟩ := openPlain?_eq_some_iff.1 hopen
    obtain ⟨hr, hshallow⟩ := (closeList?_eq_some_iff false r).1 hlist
    refine ⟨rfl, _, .plain hgap₁ hname hgap₂ hgap₃ hshallow, ?_⟩
    rw [show r = list ++ ')' :: rest from hr]
    simp only [List.append_assoc, List.cons_append, List.nil_append]
  · rintro ⟨rfl, text, htext, rfl⟩
    obtain ⟨isPort, name, list, rest⟩ := m
    cases htext with
    | @plain gap₁ gap₂ gap₃ _ _ hgap₁ hname hgap₂ hgap₃ hshallow =>
      have hclose := (closeList?_eq_some_iff false (list ++ ')' :: rest)).2 ⟨rfl, hshallow⟩
      refine ⟨(name, list ++ ')' :: rest), openPlain?_eq_some_iff.2
        ⟨gap₁, gap₂, gap₃, hgap₁, hname, hgap₂, hgap₃, ?_⟩, by rw [hclose]; rfl⟩
      simp only [List.append_assoc, List.cons_append, List.nil_append]

theorem afterPort?_eq_some_iff :
    afterPort? s = some r ↔
      ∃ gap, IsGap gap ∧ s = "port".toList ++ (gap ++ r) ∧ ∀ c ∈ r.head?, isBlank c = false := by
  rw [afterPort?, Option.bind_eq_some_iff]
  constructor
  · rintro ⟨t, hword, hblanks⟩
    obtain ⟨gap, hgap, rfl, hr⟩ := afterBlanks?_eq_some_iff.1 hblanks
    exact ⟨gap, hgap, afterWord?_eq_some_iff.1 hword, hr⟩
  · rintro ⟨gap, hgap, rfl, hr⟩
    exact ⟨gap ++ r, afterWord?_eq_some_iff.2 rfl, afterBlanks?_eq_some_iff.2 ⟨gap, hgap, rfl, hr⟩⟩

/-- A header without `port` starts with `module`. -/
theorem HeaderText.eq_module (h : HeaderText false name list text) : ∃ rest, text = 'm' :: rest := by
  cases h
  exact ⟨_, rfl⟩

theorem HeaderText.afterPort? {gap : List Char} (h : HeaderText false name list text) (hgap : IsGap gap) (r : List Char) :
    afterPort? ("port".toList ++ (gap ++ (text ++ r))) = some (text ++ r) := by
  refine afterPort?_eq_some_iff.2 ⟨gap, hgap, rfl, fun c hc => ?_⟩
  obtain ⟨rest, rfl⟩ := h.eq_module
  cases hc
  decide

theorem HeaderText.afterPort?_eq_none (h : HeaderText false name list text) (r : List Char) :
    Elm.afterPort? (text ++ r) = none := by
  obtain ⟨rest, rfl⟩ := h.eq_module
  rw [Elm.afterPort?, List.cons_append, afterWord?_eq_none (by decide) (by decide)]
  rfl

/-- **At the front of a text, the header that is found is the one that the grammar has there.** -/
theorem matchHeader?_eq_some_iff {m : HeaderMatch} :
    matchHeader? s = some m ↔ ∃ text, HeaderText m.isPort m.name m.exposing text ∧ s = text ++ m.rest := by
  obtain ⟨isPort, name, list, rest⟩ := m
  rw [matchHeader?]
  constructor
  · intro h
    cases hport : afterPort? s with
    | none =>
      rw [hport] at h
      obtain ⟨rfl, text, htext, rfl⟩ := matchPlain?_eq_some_iff.1 h
      exact ⟨text, htext, rfl⟩
    | some t =>
      rw [hport] at h
      obtain ⟨rfl, text, htext, rfl⟩ := matchPlain?_eq_some_iff.1 h
      obtain ⟨gap, hgap, rfl, -⟩ := afterPort?_eq_some_iff.1 hport
      exact ⟨_, .port hgap htext, by simp only [List.append_assoc]⟩
  · rintro ⟨text, htext, rfl⟩
    cases isPort with
    | false =>
      rw [htext.afterPort?_eq_none]
      exact matchPlain?_eq_some_iff.2 ⟨rfl, text, htext, rfl⟩
    | true =>
      cases htext with
      | @port gap _ _ text hgap htext =>
        rw [List.append_assoc, List.append_assoc, htext.afterPort? hgap]
        exact matchPlain?_eq_some_iff.2 ⟨rfl, text, htext, rfl⟩

/-- **At most one prefix of a text is a header**, and it is one in one way only. -/
theorem HeaderText.unique {isPort isPort' : Bool} {name' list' text' : List Char}
    (h : HeaderText isPort name list text) (h' : HeaderText isPort' name' list' text') (hs : text <+: s)
    (hs' : text' <+: s) : text = text' ∧ isPort = isPort' ∧ name = name' ∧ list = list' := by
  obtain ⟨r, rfl⟩ := hs
  obtain ⟨r', hr'⟩ := hs'
  have hm : matchHeader? (text ++ r) = some ⟨isPort, name, list, r⟩ := matchHeader?_eq_some_iff.2 ⟨text, h, rfl⟩
  have hm' : matchHeader? (text ++ r) = some ⟨isPort', name', list', r'⟩ :=
    matchHeader?_eq_some_iff.2 ⟨text', h', hr'.symm⟩
  rw [hm] at hm'
  cases hm'
  exact ⟨(List.append_cancel_right hr').symm, rfl, rfl, rfl⟩


end ElmAssay.Elm
