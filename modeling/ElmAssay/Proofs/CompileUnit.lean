import ElmAssay.CompileUnit
import ElmAssay.Proofs.Elm.Header
import ElmAssay.Proofs.Elm.Name

/-!
# The name under which a unit is found

The private header of a unit is itself a header (`matchHeader?_headerText`). It is the header of the unit
(`HasPrivateName`) unless the module has, at an earlier line, a header that is still open where its own begins
(`LeavesOpen`), and the text behind the private header closes it (`hasPrivateName_splice_iff`). Then the unit is found
under another name, as that of a module with a comment is (`findHeader_splice_commentedModule`).
-/

namespace ElmAssay

open Text Elm

/-! ## Open headers -/

/-- A header starts at a line of the text and is unfinished at the end of the text. -/
def Elm.LeavesOpen (text : List Char) : Prop :=
  ∃ before header, text = before ++ header ∧ EndsLine before ∧ Unfinished header

namespace CompileUnit

/-! ## The private header -/

/-- A header without `port` whose list is not yet written, and what follows. -/
def plainHeader (name after : List Char) : List Char :=
  "module".toList ++ ' ' :: (name ++ ' ' :: ("exposing".toList ++ ' ' :: ("(".toList ++ after)))

theorem plainHeader_eq (name after : List Char) :
    plainHeader name after = 'm' :: ("odule".toList ++ ' ' :: (name ++ ' ' :: ("exposing".toList ++ ' ' ::
      ("(".toList ++ after)))) := by
  have hword : "module".toList = 'm' :: "odule".toList := by decide
  exact congrArg (· ++ _) hword

theorem headerText_append (isPort : Bool) (name : String) (after : List Char) :
    (headerText isPort name).toList ++ after =
      if isPort then "port".toList ++ ' ' :: plainHeader name.toList ('.' :: '.' :: ')' :: after)
      else plainHeader name.toList ('.' :: '.' :: ')' :: after) := by
  cases isPort <;> simp [headerText, plainHeader_eq, String.toList_append]

theorem afterBlanks?_space {c : Char} (hc : isBlank c = false) (rest : List Char) :
    afterBlanks? (' ' :: c :: rest) = some (c :: rest) := by
  simp [afterBlanks?, dropBlank, dropLeading, hc, show isBlank ' ' = true by decide]

theorem isNamePart_of_mem {name : List Char} (h : (cut '.' name).all isModuleWord = true) :
    ∀ c ∈ name, isNamePart c = true := by
  have hwords : (cut '.' name).all (·.all isAsciiWord) = true :=
    List.all_eq_true.2 fun word hword => all_of_isModuleWord (List.all_eq_true.1 h word hword)
  intro c hc
  rw [isNamePart, Bool.or_eq_true, beq_iff_eq]
  exact (mem_dotted hwords c hc).symm

theorem dottedName?_space {name : List Char} (h : (cut '.' name).all isModuleWord = true) (rest : List Char) :
    dottedName? (name ++ ' ' :: rest) = some (name, ' ' :: rest) := by
  have hparts := isNamePart_of_mem h
  have hcapital : (cut '.' name).all startsCapital = true := by
    refine List.all_eq_true.2 fun word hword => ?_
    have hmodule := List.all_eq_true.1 h word hword
    cases word with
    | nil => exact absurd hmodule (by decide)
    | cons c word => exact (Bool.and_eq_true_iff.1 hmodule).1
  rw [dottedName?_eq, List.takeWhile_append_of_pos hparts, List.dropWhile_append_of_pos hparts,
    List.takeWhile_cons_of_neg (by decide), List.dropWhile_cons_of_neg (by decide), List.append_nil, if_pos hcapital]

theorem openPlain?_plainHeader {name : List Char} (h : (cut '.' name).all isModuleWord = true) (after : List Char) :
    openPlain? (plainHeader name after) = some (name, after) := by
  obtain ⟨c, rest, hname, hc⟩ := head_of_dotted h
  have hblanks (tail : List Char) : afterBlanks? (' ' :: (name ++ tail)) = some (name ++ tail) := by
    rw [hname]
    exact afterBlanks?_space (isBlank_of_isCapital hc) _
  have hexposing (tail : List Char) :
      afterBlanks? (' ' :: ("exposing".toList ++ tail)) = some ("exposing".toList ++ tail) :=
    afterBlanks?_space (by decide) _
  have hparen : dropBlank (' ' :: ("(".toList ++ after)) = "(".toList ++ after := by
    simp [dropBlank, dropLeading, show isBlank ' ' = true by decide, show isBlank '(' = false by decide]
  exact openPlain?_of_steps (afterWord?_eq_some_iff.2 rfl) (hblanks _) (dottedName?_space h _) (hexposing _)
    (afterWord?_eq_some_iff.2 rfl) (afterWord?_eq_some_iff.2 hparen)

/-- **The private header is a header**: it has the private name, and it exposes everything. -/
theorem matchHeader?_headerText (isPort : Bool) {name : String} (h : (cut '.' name.toList).all isModuleWord = true)
    (after : List Char) :
    matchHeader? ((headerText isPort name).toList ++ after) = some ⟨isPort, name.toList, ['.', '.'], after⟩ := by
  have hplain (isPort : Bool) : matchPlain? isPort (plainHeader name.toList ('.' :: '.' :: ')' :: after)) =
      some ⟨isPort, name.toList, ['.', '.'], after⟩ := by
    rw [matchPlain?_eq, openPlain?_plainHeader h]
    simp [closeList?]
  rw [headerText_append, matchHeader?]
  cases isPort with
  | false =>
    have hport (tail : List Char) : afterPort? (plainHeader name.toList tail) = none := by
      rw [afterPort?, plainHeader_eq, afterWord?_eq_none (by decide) (by decide)]
      rfl
    rw [if_neg Bool.false_ne_true, hport]
    exact hplain false
  | true =>
    have hport (tail : List Char) :
        afterPort? ("port".toList ++ ' ' :: plainHeader name.toList tail) = some (plainHeader name.toList tail) := by
      rw [afterPort?, afterWord?_eq_some_iff.2 rfl, plainHeader_eq]
      exact afterBlanks?_space (by decide) _
    rw [if_pos rfl, hport]
    exact hplain true

/-- No header without `port` stands where one with `port` does. -/
theorem matchPlain?_headerText (name : String) (after : List Char) :
    matchPlain? true ((headerText true name).toList ++ after) = none := by
  have hport : "port".toList = 'p' :: ['o', 'r', 't'] := by decide
  rw [headerText_append, if_pos rfl, hport, List.cons_append, matchPlain?_eq, openPlain?,
    afterWord?_eq_none (by decide) (by decide)]
  rfl

/-- Where no header without `port` stands at the header of a module, none does at the private one. -/
theorem matchPlain?_headerText_of_match {x : List Char} {m : HeaderMatch} (hm : matchHeader? x = some m)
    (hnone : matchPlain? true x = none) (name : String) (after : List Char) :
    matchPlain? true ((headerText m.isPort name).toList ++ after) = none := by
  cases hp : m.isPort with
  | true => exact matchPlain?_headerText name after
  | false =>
    have hsome := isSome_matchPlain?_of_matchHeader? hm hp
    rw [hnone] at hsome
    cases hsome

/-- The private header is some text without parentheses, then two dots in parentheses. -/
theorem headerText_eq_append (isPort : Bool) {name : String} (h : (cut '.' name.toList).all isModuleWord = true) :
    ∃ front, (∀ c ∈ front, c ≠ ')' ∧ c ≠ '(') ∧
      ∀ after, (headerText isPort name).toList ++ after = front ++ '(' :: '.' :: '.' :: ')' :: after := by
  have hname : ∀ c ∈ name.toList, c ≠ ')' ∧ c ≠ '(' := by
    have hparen : isNamePart ')' = false ∧ isNamePart '(' = false := by decide
    refine fun c hc => ⟨?_, ?_⟩
    all_goals
      rintro rfl
      have hpart := isNamePart_of_mem h _ hc
      simp [hparen] at hpart
  have hfixed {w : List Char} (hw : w.all (fun c => c != ')' && c != '(') = true) : ∀ c ∈ w, c ≠ ')' ∧ c ≠ '(' := by
    intro c hc
    simpa using List.all_eq_true.1 hw c hc
  have hmodule :
      ((if isPort then "port ".toList else []) ++ "module ".toList).all (fun c => c != ')' && c != '(') = true := by
    cases isPort <;> decide
  have hexposing : " exposing ".toList.all (fun c => c != ')' && c != '(') = true := by decide
  refine ⟨(if isPort then "port ".toList else []) ++ "module ".toList ++ name.toList ++ " exposing ".toList, ?_, ?_⟩
  · intro c hc
    rcases List.mem_append.1 hc with hc | hc
    · exact (List.mem_append.1 hc).elim (hfixed hmodule c) (hname c)
    · exact hfixed hexposing c hc
  · intro after
    cases isPort <;> simp [headerText, String.toList_append]

/-- **A list that is open goes on behind the private header**, unless parentheses are open in it. -/
theorem closeList?_headerText (isPort : Bool) {name : String} (h : (cut '.' name.toList).all isModuleWord = true)
    (after : List Char) :
    closeList? true ((headerText isPort name).toList ++ after) = none ∧
      (closeList? false ((headerText isPort name).toList ++ after)).isSome = (closeList? false after).isSome := by
  obtain ⟨front, hfront, hsplit⟩ := headerText_eq_append isPort h
  rw [hsplit, ← Option.not_isSome_iff_eq_none, isSome_closeList?_append _ hfront, isSome_closeList?_append _ hfront]
  simp [closeList?]

/-! ## The header of a unit -/

/-- A unit is found under its private name: its header is the private one, where that of the module was. -/
def HasPrivateName (u : CompileUnit) (h : Header) : Prop :=
  ∃ h', findHeader u.text = some h' ∧ h'.name = u.moduleName ∧ h'.exposing = ".." ∧ h'.isPort = h.isPort ∧
    h'.start = h.start

/-- What is behind the private header of a unit. -/
def behindHeader (u : CompileUnit) (h : Header) : List Char :=
  u.text.toList.drop (h.start + (headerText h.isPort u.moduleName).toList.length)

theorem append_eq (text more : List Char) : ∃ tail, append text more = text ++ tail := by
  rw [append]
  split
  · exact ⟨[], (List.append_nil text).symm⟩
  · split
    · exact ⟨_, rfl⟩
    · exact ⟨_, rfl⟩

theorem headerAt?_headerText (position : Nat) (isPort : Bool) {name : String}
    (h : (cut '.' name.toList).all isModuleWord = true) (after : List Char) :
    ∃ stop, headerAt? position ((headerText isPort name).toList ++ after) =
      some ⟨name, "..", isPort, position, stop⟩ := by
  rw [headerAt?, matchHeader?_headerText isPort h, Option.map_some, String.ofList_toList]
  exact ⟨_, rfl⟩

/-- A unit is found under its private name exactly if no header comes to stand at an earlier line. -/
theorem hasPrivateName_iff {u : CompileUnit} {h : Header} {before after : List Char}
    (hname : (cut '.' u.moduleName.toList).all isModuleWord = true) (hstart : h.start = before.length)
    (htext : u.text.toList = before ++ ((headerText h.isPort u.moduleName).toList ++ after)) (hline : EndsLine before) :
    u.HasPrivateName h ↔
      ∀ a b, before = a ++ b → b ≠ [] → EndsLine a →
        matchHeader? (b ++ ((headerText h.isPort u.moduleName).toList ++ after)) = none := by
  constructor
  · rintro ⟨h', hfind, -, -, -, hstart'⟩
    obtain ⟨before', x, hsplit, -, hat, hquiet⟩ := findHeader_eq_some_iff.1 hfind
    obtain ⟨m, -, rfl⟩ := Option.map_eq_some_iff.1 hat
    rw [htext] at hsplit
    obtain ⟨rfl, rfl⟩ := List.append_inj hsplit (hstart.symm.trans hstart'.symm)
    exact hquiet
  · intro hquiet
    obtain ⟨stop, hat⟩ := headerAt?_headerText before.length h.isPort hname after
    exact ⟨_, findHeader_eq_some_iff.2 ⟨before, _, htext, hline, hat, hquiet⟩, rfl, rfl, rfl, hstart.symm⟩

/-- A unit has the private header where the module had its own, the rest of the module behind it, and something more. -/
theorem splice_of_findHeader {source : ModuleSource} {h : Header} (hh : findHeader source.text = some h)
    (name more : String) (strict : Bool) :
    ∃ u tail, splice source more name strict = .ok u ∧ u.moduleName = name ∧
      u.text.toList = source.text.toList.take h.start ++
        ((headerText h.isPort name).toList ++ (source.text.toList.drop h.stop ++ tail)) := by
  obtain ⟨tail, htail⟩ := append_eq (replaceHeader source.text.toList h name) more.toList
  refine ⟨_, tail, by rw [splice, hh], rfl, ?_⟩
  rw [String.toList_ofList, htail, replaceHeader]
  simp only [List.append_assoc]

/-- **A unit is found under its private name, unless** a header that was open before the header of the module closes
behind the private one. -/
theorem hasPrivateName_splice_iff {source : ModuleSource} {h : Header} (hh : findHeader source.text = some h)
    {name : String} (hname : (cut '.' name.toList).all isModuleWord = true) (more : String) (strict : Bool) :
    ∃ u, splice source more name strict = .ok u ∧ u.moduleName = name ∧
      (u.HasPrivateName h ↔
        ¬(LeavesOpen (source.text.toList.take h.start) ∧ (closeList? false (u.behindHeader h)).isSome = true)) := by
  obtain ⟨before, x, htext, hline, hat, hquiet⟩ := findHeader_eq_some_iff.1 hh
  obtain ⟨m, hm, hfields⟩ := Option.map_eq_some_iff.1 hat
  have hstart : h.start = before.length := by rw [← hfields]
  have hport : h.isPort = m.isPort := by rw [← hfields]
  have htake : source.text.toList.take h.start = before := by rw [htext, hstart, List.take_left]
  obtain ⟨u, tail, hu, rfl, hutext⟩ := splice_of_findHeader hh name more strict
  refine ⟨u, hu, rfl, ?_⟩
  rw [htake] at hutext
  have hbehind : u.behindHeader h = source.text.toList.drop h.stop ++ tail := by
    rw [behindHeader, hutext, hstart, ← List.drop_drop, List.drop_left, List.drop_left]
  rw [hasPrivateName_iff hname hstart hutext hline, hbehind, htake]
  generalize source.text.toList.drop h.stop ++ tail = after
  have hx := solid_of_matchHeader? hm
  have hy := solid_of_matchHeader? (matchHeader?_headerText h.isPort hname after)
  obtain ⟨hinner, hclose⟩ := closeList?_headerText h.isPort hname after
  have hplain (hnone : matchPlain? true x = none) :
      matchPlain? true ((headerText h.isPort u.moduleName).toList ++ after) = none := by
    rw [hport]
    exact matchPlain?_headerText_of_match hm hnone u.moduleName after
  -- at each earlier line, a header comes to stand exactly if one was unfinished there and is closed now
  have hline' {a b : List Char} (hab : before = a ++ b) (hb : b ≠ []) (ha : EndsLine a) :=
    isSome_matchHeader?_append hb (hline.of_suffix ⟨a, hab.symm⟩) hx (hquiet a b hab hb ha) hy hplain hinner
  rw [hclose] at hline'
  constructor
  · rintro hnone ⟨⟨a, b, hab, ha, hunfinished⟩, hclosed⟩
    have hb : b ≠ [] := by
      rintro rfl
      exact absurd hunfinished.2 (by decide)
    have hsome := (hline' hab hb ha).2 ⟨hunfinished, hclosed⟩
    rw [hnone a b hab hb ha] at hsome
    cases hsome
  · intro hno a b hab hb ha
    rw [← Option.not_isSome_iff_eq_none]
    intro hsome
    obtain ⟨hunfinished, hclosed⟩ := (hline' hab hb ha).1 hsome
    exact hno ⟨⟨a, b, hab, ha, hunfinished⟩, hclosed⟩

/-- A module that starts with its header is found under its private name. -/
theorem hasPrivateName_splice_main :
    ∃ u, splice ⟨"module Main exposing (main)\n", none⟩ "one = 1" defaultName true = .ok u ∧
      u.HasPrivateName ⟨"Main", "main", false, 0, 27⟩ := by
  have hheader : findHeader (⟨"module Main exposing (main)\n", none⟩ : ModuleSource).text =
      some ⟨"Main", "main", false, 0, 27⟩ := by decide +kernel
  have hname : (cut '.' defaultName.toList).all isModuleWord = true := by decide
  obtain ⟨u, hu, -, hiff⟩ := hasPrivateName_splice_iff hheader hname "one = 1" true
  refine ⟨u, hu, hiff.2 ?_⟩
  rintro ⟨⟨a, b, hab, -, hunfinished⟩, -⟩
  obtain ⟨-, rfl⟩ := List.append_eq_nil_iff.1 (hab.symm.trans List.take_zero)
  exact absurd hunfinished.2 (by decide)

/-- A module with another header in a comment, which is open until the text behind its own header. -/
def commentedModule : ModuleSource where
  text := "\x7b- formerly\nmodule Old exposing (\n-\x7d\nmodule Real exposing (T(..))\n\n-- done :)\ntype T\n    = T\n"
  path := none

/-- The header of the module with a comment is its own, but that of its unit is the one in the comment. -/
theorem findHeader_splice_commentedModule :
    (findHeader commentedModule.text).map Header.name = some "Real" ∧
      ((splice commentedModule "" defaultName true).toOption.bind fun u => findHeader u.text).map Header.name =
        some "Old" := by
  decide +kernel

end CompileUnit
end ElmAssay
