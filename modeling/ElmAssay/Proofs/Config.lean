import ElmAssay.Config
import ElmAssay.Proofs.Elm.Name
import ElmAssay.Proofs.Number.Numeral
import ElmAssay.Proofs.Text.Lines

/-!
# Which settings are admitted

The settings should have programs and a workspace directory that are not blank, a time limit that is none or above zero,
and a private module whose name is a dotted name of capital words (`Config.IsSound`). What is admitted is a little more
(`Config.IsAdmitted`): a limit that is no number is neither below zero nor zero, and the check of the name does not see
a line feed behind it. Settings from variables are refused exactly if they are not admitted, always as a failure of the
configuration, and those that are not refused are sound unless the limit is the word for no number or the name has the
line feed (`ofEnvironment_admits`).
-/

namespace ElmAssay

open Text Elm

variable {s name word : List Char} {c c' : Config} {t t' : Seconds} {x : Binary64} {e : Failure}
  {env : Config.Environment} {raw : String}

/-! ## Names of modules -/

/-- A capital letter of ASCII and letters, digits and low lines of ASCII. -/
def IsComponent (word : List Char) : Prop :=
  ∃ c rest, word = c :: rest ∧ isCapital c = true ∧ ∀ a ∈ rest, isAsciiWord a = true

/-- Components with single dots between them. -/
inductive IsModulePath : List Char → Prop
  | single {word : List Char} : IsComponent word → IsModulePath word
  | dotted {word name : List Char} : IsComponent word → IsModulePath name → IsModulePath (word ++ '.' :: name)

theorem isModuleWord_iff : isModuleWord word = true ↔ IsComponent word := by
  cases word with
  | nil => exact ⟨nofun, fun ⟨_, _, h, _⟩ => nomatch h⟩
  | cons c rest =>
    rw [isModuleWord, Bool.and_eq_true, List.all_eq_true]
    constructor
    · exact fun h => ⟨c, rest, rfl, h⟩
    · rintro ⟨_, _, h, hword⟩
      cases h
      exact hword

theorem IsComponent.isAsciiWord (h : IsComponent word) : ∀ a ∈ word, isAsciiWord a = true := by
  obtain ⟨c, rest, rfl, hc, hrest⟩ := h
  exact List.forall_mem_cons.2 ⟨isAsciiWord_of_isCapital hc, hrest⟩

/-- A name is cut into its components. -/
theorem all_isModuleWord_iff : (cut '.' name).all isModuleWord = true ↔ IsModulePath name := by
  rw [List.all_eq_true]
  constructor
  · intro h
    rw [← joinWith_cut '.' name]
    generalize hparts : cut '.' name = parts at h
    have hne : parts ≠ [] := hparts ▸ cut_ne_nil '.' name
    clear hparts
    induction parts with
    | nil => exact absurd rfl hne
    | cons word parts ih =>
      rw [List.forall_mem_cons, isModuleWord_iff] at h
      cases parts with
      | nil => exact .single h.1
      | cons next parts =>
        rw [joinWith, List.append_assoc]
        · exact .dotted h.1 (ih h.2 (List.cons_ne_nil next parts))
        · exact List.cons_ne_nil next parts
  · intro h
    have hcut {word : List Char} (hword : IsComponent word) : cut '.' word = [word] :=
      cut_of_not_mem fun hdot => absurd (hword.isAsciiWord '.' hdot) (by decide)
    induction h with
    | single hword =>
      rw [hcut hword]
      exact List.forall_mem_singleton.2 (isModuleWord_iff.2 hword)
    | dotted hword _ ih =>
      rw [cut_append_sep, hcut hword]
      exact List.forall_mem_cons.2 ⟨isModuleWord_iff.2 hword, ih⟩

theorem IsModulePath.not_mem_newline (h : IsModulePath name) : '\n' ∉ name := by
  have hcomponent {word : List Char} (hword : IsComponent word) : '\n' ∉ word :=
    fun hfeed => absurd (hword.isAsciiWord _ hfeed) (by decide)
  induction h with
  | single hword => exact hcomponent hword
  | dotted hword _ ih =>
    intro hfeed
    rcases List.mem_append.1 hfeed with hfeed | hfeed
    · exact hcomponent hword hfeed
    · rcases List.mem_cons.1 hfeed with hfeed | hfeed
      · cases hfeed
      · exact ih hfeed

/-- **The check takes a name, and a name with a line feed behind it.** -/
theorem isModuleName_iff : isModuleName s = true ↔ ∃ name, IsModulePath name ∧ (s = name ∨ s = name ++ ['\n']) := by
  rw [isModuleName, all_isModuleWord_iff]
  constructor
  · intro h
    by_cases hlast : s.getLast? = some '\n'
    · rw [dropFinalNewline, if_pos hlast] at h
      obtain ⟨name, rfl⟩ := List.getLast?_eq_some_iff.1 hlast
      rw [List.dropLast_concat] at h
      exact ⟨name, h, .inr rfl⟩
    · rw [dropFinalNewline, if_neg hlast] at h
      exact ⟨s, h, .inl rfl⟩
  · rintro ⟨name, h, rfl | rfl⟩
    · rwa [dropFinalNewline, if_neg fun hlast => h.not_mem_newline (List.mem_of_getLast? hlast)]
    · rwa [dropFinalNewline, if_pos List.getLast?_concat, List.dropLast_concat]

/-! ## Time limits -/

/-- A number above zero. -/
def Binary64.IsPositive : Binary64 → Prop
  | .notANumber => False
  | .infinite negative => negative = false
  | .finite negative m _ => negative = false ∧ m ≠ 0

/-- A count above zero. -/
def Seconds.IsPositive : Seconds → Prop
  | .whole n => 0 < n
  | .real x => x.IsPositive

/-- A number that is not below zero is zero, above zero, or no number at all. -/
theorem Binary64.isBelowZero_eq_false_iff (x : Binary64) :
    x.isBelowZero = false ↔ x.isZero = true ∨ x.IsPositive ∨ x = .notANumber := by
  cases x with
  | notANumber => exact iff_of_true rfl (.inr (.inr rfl))
  | infinite negative => cases negative <;> simp [isBelowZero, isZero, IsPositive]
  | finite negative m q =>
    by_cases hm : m = 0 <;> simp [isBelowZero, isZero, IsPositive, hm]

namespace Seconds

theorem forall_limit_iff (p : Seconds → Prop) : (∀ limit ∈ t.limit, p limit) ↔ (t.isZero = true ∨ p t) := by
  rw [limit]
  split <;> simp [*]

theorem isNotANumber_iff : t.isNotANumber = true ↔ t = .real .notANumber := by
  cases t with
  | whole n => simp [isNotANumber]
  | real x => cases x <;> simp [isNotANumber]

theorem isBelowZero_eq_false_iff (t : Seconds) :
    t.isBelowZero = false ↔ ∀ limit ∈ t.limit, limit.IsPositive ∨ limit.isNotANumber = true := by
  rw [forall_limit_iff, isNotANumber_iff]
  cases t with
  | whole n =>
    simp only [isBelowZero, isZero, IsPositive, decide_eq_false_iff_not, beq_iff_eq, reduceCtorEq, or_false]
    omega
  | real x =>
    rw [real.injEq]
    exact x.isBelowZero_eq_false_iff

/-- A limit above zero is one that is not below zero, and a number. -/
theorem forall_limit_isPositive_iff : (∀ limit ∈ t.limit, limit.IsPositive) ↔
    (∀ limit ∈ t.limit, limit.IsPositive ∨ limit.isNotANumber = true) ∧ t.isNotANumber = false := by
  rw [forall_limit_iff, forall_limit_iff, ← Bool.not_eq_true, isNotANumber_iff]
  constructor
  · intro h
    refine ⟨h.imp_right .inl, ?_⟩
    rintro rfl
    rcases h with h | h <;> cases h
  · rintro ⟨h, hnumber⟩
    exact h.imp_right fun h => h.resolve_right hnumber

end Seconds

namespace Config

/-- A text with a character that is no white space. -/
def HasInk (s : String) : Prop := ∃ c ∈ s.toList, isBlank c = false

theorem isBlankText_eq_false_iff : isBlankText raw = false ↔ HasInk raw := by
  rw [isBlankText, allBlank, List.all_eq_false]
  simp only [Bool.not_eq_true]
  rfl

/-- The time limit that the variables give: the default, if there is none or a blank one, or else the number that it
is. -/
inductive Limits (env : Environment) : Seconds → Prop
  | absent : env "ELM_AI_TIMEOUT_S" = none → Limits env ({} : Config).timeout
  | blank {raw : String} : env "ELM_AI_TIMEOUT_S" = some raw → ¬ HasInk raw → Limits env ({} : Config).timeout
  | number {raw : String} {x : Binary64} : env "ELM_AI_TIMEOUT_S" = some raw → HasInk raw →
      Number.IsReal raw.toList x → Limits env (.real x)

theorem seconds_eq_ok_iff : seconds env "ELM_AI_TIMEOUT_S" ({} : Config).timeout = .ok t ↔ Limits env t := by
  constructor
  · intro h
    rw [seconds] at h
    split at h
    · rename_i habsent
      cases h
      exact .absent habsent
    · rename_i raw hraw
      split at h
      · rename_i hblank
        cases h
        refine .blank hraw fun hink => ?_
        rw [isBlankText_eq_false_iff.2 hink] at hblank
        cases hblank
      · rename_i hink
        split at h
        · rename_i x hx
          cases h
          exact .number hraw (isBlankText_eq_false_iff.1 (Bool.not_eq_true _ ▸ hink)) (Number.readReal_eq_some_iff.1 hx)
        · cases h
  · rintro (habsent | ⟨hraw, hblank⟩ | ⟨hraw, hink, hx⟩)
    · rw [seconds, habsent]
    · rw [← isBlankText_eq_false_iff, Bool.not_eq_false] at hblank
      simp only [seconds, hraw, hblank, if_true]
    · simp only [seconds, hraw, isBlankText_eq_false_iff.2 hink, Number.readReal_eq_some_iff.2 hx,
        Bool.false_eq_true, if_false]

/-- A limit that is no number is refused, as one of the configuration. -/
theorem seconds_eq_error (h : seconds env "ELM_AI_TIMEOUT_S" ({} : Config).timeout = .error e) :
    e.isConfiguration = true ∧ ∀ t, ¬ Limits env t := by
  refine ⟨?_, fun t ht => ?_⟩
  · rw [seconds] at h
    split at h
    · cases h
    · split at h
      · cases h
      · split at h
        · cases h
        · cases h
          rfl
  · rw [seconds_eq_ok_iff.2 ht] at h
    cases h

/-! ## What is admitted -/

/-- **Settings as they should be**: what is required has ink, the time limit is none or above zero, and the private
module has the name of a module. -/
structure IsSound (c : Config) : Prop where
  required : ∀ setting ∈ c.required, HasInk setting.2
  limit : ∀ limit ∈ c.limit, limit.IsPositive
  privateModule : IsModulePath c.privateModule.toList

/-- Settings as they are admitted: the time limit may also be no number, and a line feed may stand behind the name. -/
structure IsAdmitted (c : Config) : Prop where
  required : ∀ setting ∈ c.required, HasInk setting.2
  limit : ∀ limit ∈ c.limit, limit.IsPositive ∨ limit.isNotANumber = true
  privateModule : ∃ name, IsModulePath name ∧ (c.privateModule.toList = name ∨ c.privateModule.toList = name ++ ['\n'])

theorem required_iff (c : Config) :
    (c.required.find? fun s => isBlankText s.2) = none ↔ ∀ setting ∈ c.required, HasInk setting.2 := by
  simp only [List.find?_eq_none, Bool.not_eq_true, isBlankText_eq_false_iff]

/-- Settings are accepted as they are exactly if they are admitted, and else refused as ones of the configuration. -/
theorem accept_cases (c : Config) :
    (c.IsAdmitted ∧ accept c = .ok c) ∨ (¬ c.IsAdmitted ∧ ∃ e, accept c = .error e ∧ e.isConfiguration = true) := by
  rw [accept]
  cases hfind : c.required.find? fun s => isBlankText s.2 with
  | some setting =>
    refine .inr ⟨fun h => ?_, _, rfl, rfl⟩
    rw [(required_iff c).2 h.required] at hfind
    cases hfind
  | none =>
    dsimp only
    split
    · rename_i hbelow
      refine .inr ⟨fun h => ?_, _, rfl, rfl⟩
      rw [(Seconds.isBelowZero_eq_false_iff _).2 h.limit] at hbelow
      cases hbelow
    · rename_i hbelow
      split
      · rename_i hname
        exact .inl ⟨⟨(required_iff c).1 hfind, (Seconds.isBelowZero_eq_false_iff _).1 (Bool.not_eq_true _ ▸ hbelow),
          isModuleName_iff.1 hname⟩, rfl⟩
      · rename_i hname
        exact .inr ⟨fun h => hname (isModuleName_iff.2 h.privateModule), _, rfl, rfl⟩

/-- Sound settings are those that are admitted without either of the two gaps. -/
theorem isSound_iff (c : Config) : c.IsSound ↔
    c.IsAdmitted ∧ c.timeout.isNotANumber = false ∧ '\n' ∉ c.privateModule.toList := by
  constructor
  · intro h
    obtain ⟨hlimit, hnumber⟩ := Seconds.forall_limit_isPositive_iff.1 h.limit
    exact ⟨⟨h.required, hlimit, _, h.privateModule, .inl rfl⟩, hnumber, h.privateModule.not_mem_newline⟩
  · rintro ⟨h, hnumber, hfeed⟩
    refine ⟨h.required, Seconds.forall_limit_isPositive_iff.2 ⟨h.limit, hnumber⟩, ?_⟩
    obtain ⟨name, hname, heq | heq⟩ := h.privateModule
    · rwa [heq]
    · exact absurd (heq ▸ List.mem_append_right name (List.mem_singleton_self '\n')) hfeed

/-! ## Settings from variables -/

/-- The value of a variable, or its default. -/
def valueOf (env : Environment) (variableName default : String) : String := (env variableName).getD default

/-- The settings are what the variables give. -/
structure Given (env : Environment) (c : Config) : Prop where
  compiler : c.compiler = valueOf env "ELM_AI_COMPILER" "elm"
  testRunner : c.testRunner = valueOf env "ELM_AI_TEST_RUNNER" "elm-test"
  formatter : c.formatter = valueOf env "ELM_AI_FORMATTER" "elm-format"
  workspaceDirectory : c.workspaceDirectory = valueOf env "ELM_AI_WORKSPACE_DIR" "elm-stuff/elm-ai"
  privateModule : c.privateModule = valueOf env "ELM_AI_PRIVATE_MODULE" "ElmAiCandidate"
  timeout : Limits env c.timeout

theorem Limits.unique (h : Limits env t) (h' : Limits env t') : t = t' := by
  have heq := (seconds_eq_ok_iff.2 h).symm.trans (seconds_eq_ok_iff.2 h')
  cases heq
  rfl

theorem Given.isAdmitted (h : Given env c) (h' : Given env c') (hc : c.IsAdmitted) : c'.IsAdmitted := by
  have hrequired : c.required = c'.required := by
    simp only [required, h.compiler, h.testRunner, h.formatter, h.workspaceDirectory, h'.compiler, h'.testRunner,
      h'.formatter, h'.workspaceDirectory]
  have htimeout : c.limit = c'.limit := congrArg Seconds.limit (h.timeout.unique h'.timeout)
  exact ⟨hrequired ▸ hc.required, htimeout ▸ hc.limit, h'.privateModule ▸ h.privateModule ▸ hc.privateModule⟩

/-- The time limit is given as the word for no number. -/
def NamesNoNumber (env : Environment) : Prop :=
  ∃ raw, env "ELM_AI_TIMEOUT_S" = some raw ∧ Number.IsNoNumber raw.toList

theorem hasInk_of_isNoNumber (h : Number.IsNoNumber raw.toList) : HasInk raw := by
  obtain ⟨front, sign, word, back, hraw, -, -, -, hword⟩ := h
  cases word with
  | nil => cases hword
  | cons c word =>
    have hletter := Number.isAsciiLetter_of_mem_realWords (by decide) hword c List.mem_cons_self
    refine ⟨c, by simp [hraw], ?_⟩
    rw [← Bool.not_eq_true]
    intro hblank
    have hnone := isWord_of_isBlank hblank
    rw [isWord_of_isAsciiWord (by simp [isAsciiWord, hletter])] at hnone
    cases hnone

theorem Limits.isNotANumber_iff (h : Limits env t) : t.isNotANumber = true ↔ NamesNoNumber env := by
  have hdefault : ({} : Config).timeout ≠ .real .notANumber :=
    fun h => Number.ofDecimal_ne_notANumber _ _ _ (Seconds.real.inj h)
  rw [Seconds.isNotANumber_iff]
  constructor
  · intro ht
    cases h with
    | absent => exact absurd ht hdefault
    | blank => exact absurd ht hdefault
    | number hraw _ hx =>
      cases ht
      exact ⟨_, hraw, Number.isReal_notANumber_iff.1 hx⟩
  · rintro ⟨raw, hraw, hnumber⟩
    exact h.unique (.number hraw (hasInk_of_isNoNumber hnumber) (Number.isReal_notANumber_iff.2 hnumber))

/-- Either the time limit is refused, or the settings that the variables give are accepted or not. -/
theorem ofEnvironment_cases (env : Environment) :
    (∃ e, ofEnvironment env = .error e ∧ e.isConfiguration = true ∧ ∀ t, ¬ Limits env t) ∨
      ∃ c, Given env c ∧ ofEnvironment env = accept c := by
  rw [ofEnvironment]
  cases htimeout : seconds env "ELM_AI_TIMEOUT_S" ({} : Config).timeout with
  | error e => exact .inl ⟨e, rfl, seconds_eq_error htimeout⟩
  | ok t => exact .inr ⟨_, ⟨rfl, rfl, rfl, rfl, rfl, seconds_eq_ok_iff.1 htimeout⟩, rfl⟩

/-- **Which settings are admitted from variables.** If they are refused, it is as ones of the configuration, and what
the variables give is not to be admitted. If they are not refused, they are what the variables give, and to be admitted;
and they are as they should be unless the time limit is the word for no number or a line feed stands behind the name of
the private module. -/
theorem ofEnvironment_admits (env : Environment) :
    (∀ e, ofEnvironment env = .error e → e.isConfiguration = true ∧ ∀ c, Given env c → ¬ c.IsAdmitted) ∧
    ∀ c, ofEnvironment env = .ok c → Given env c ∧ c.IsAdmitted ∧
      (c.IsSound ↔ ¬ NamesNoNumber env ∧ '\n' ∉ c.privateModule.toList) := by
  obtain ⟨e, hall, hconfiguration, hnone⟩ | ⟨c, hgiven, hall⟩ := ofEnvironment_cases env
  · rw [hall]
    refine ⟨fun e' he => ?_, nofun⟩
    cases he
    exact ⟨hconfiguration, fun c hc => absurd hc.timeout (hnone c.timeout)⟩
  · rw [hall]
    obtain ⟨hadmitted, haccept⟩ | ⟨hrefused, e, haccept, hconfiguration⟩ := accept_cases c
    · rw [haccept]
      refine ⟨nofun, fun c' hc => ?_⟩
      cases hc
      refine ⟨hgiven, hadmitted, ?_⟩
      rw [isSound_iff, and_iff_right hadmitted, ← Bool.not_eq_true, hgiven.timeout.isNotANumber_iff]
    · rw [haccept]
      refine ⟨fun e' he => ?_, nofun⟩
      cases he
      exact ⟨hconfiguration, fun c' hc' hadmitted => hrefused (hc'.isAdmitted hgiven hadmitted)⟩

/-- The variables of which only one is set. -/
def only (variableName value : String) : Environment := fun name => if name = variableName then some value else none

/-- Not all settings that are not sound are refused: neither those with a line feed behind the name of the private
module, nor those with a time limit that is no number. -/
theorem exists_unsound_admitted :
    (∃ c, ofEnvironment (only "ELM_AI_PRIVATE_MODULE" "Main\n") = .ok c ∧ c.privateModule = "Main\n" ∧ ¬ c.IsSound) ∧
      ∃ c, ofEnvironment (only "ELM_AI_TIMEOUT_S" "nan") = .ok c ∧ c.limit = some (.real .notANumber) ∧
        ¬ c.IsSound := by
  constructor
  · exact ⟨_, rfl, rfl, fun h => h.privateModule.not_mem_newline (by decide)⟩
  · exact ⟨_, rfl, rfl, fun h => h.limit (.real .notANumber) rfl⟩

end Config
end ElmAssay
