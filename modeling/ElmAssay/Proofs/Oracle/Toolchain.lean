import ElmAssay.Proofs.Engine
import ElmAssay.Proofs.Outcome
import ElmAssay.Proofs.Path
import ElmAssay.Tool

/-!
# What the tools are told, and what is made of a formatter

The compiler and the test runner are told the file to check as seen from the directory that they run in. From there it
leads, by text alone, to the file that is meant (`argument_denotes`).

Formatting a text keeps it (`FormatResult.Keeps`): what comes back is what the formatter made of the text, or else the text
as it was and a reason. A toolchain formats so whatever becomes of the program that it starts
(`Toolchain.format_run`), unless the name of the program cannot be told to the system at all: then there is a failure
(`Toolchain.format_of_null`). A mock oracle always formats so (`Mock.formatText_run`), and what the oracle gave is what
engine, tool and report give.
-/

namespace ElmAssay

open Effect

/-! ## The file to check -/

namespace Toolchain

variable {σ : Type} {p directory : Path}

/-- From the top, what a tool is told does not depend on where the disk is seen from. -/
theorem argument_of_isAbsolute (hp : p.isAbsolute = true) (hd : directory.isAbsolute = true) (here : Path) :
    argument here p directory = (Path.relativeFrom ⟨.top, []⟩ directory p).text := by
  rw [argument, if_pos hp, Path.relativeFrom, Path.relativeFrom]
  simp only [Path.join_of_isAbsolute _ hp, Path.join_of_isAbsolute _ hd]

/-- What a tool is told leads from its directory to the file. -/
theorem collapse_join_argument (hp : p.anchor = .top) (hd : directory.anchor = .top) (htextual : p.IsTextual)
    (here : Path) : (directory / Path.parse (argument here p directory)).collapse = p.collapse := by
  have hp' : p.isAbsolute = true := by rw [Path.isAbsolute, hp]; rfl
  have hd' : directory.isAbsolute = true := by rw [Path.isAbsolute, hd]; rfl
  let relative := Path.relativeFrom ⟨.top, []⟩ directory p
  have hread : Path.parse (argument here p directory) = relative := by
    rw [argument_of_isAbsolute hp' hd']
    refine Path.parse_text (Path.IsTextual.relativeFrom ?_)
    rwa [Path.join_of_isAbsolute _ hp']
  calc (directory / Path.parse (argument here p directory)).collapse
      = ⟨.top, Path.follow (Path.follow [] directory.parts) relative.parts⟩ := by
        rw [hread, Path.collapse_join hd' rfl, hd]
    _ = ⟨.top, Path.follow [] p.parts⟩ := by rw [Path.follow_relativeFrom _ hd' hp']
    _ = p.collapse := by
        rw [← Path.collapse_parts_of_isAbsolute hp', ← hp]
        rfl

theorem compile_run (t : Toolchain) (host : Host) (p directory : Path) (b : Bench σ) :
    t.compile host p directory b =
      t.invoke host t.compiler ["make", argument b.disk.currentPath p directory, "--output", t.discardTarget]
        directory.text b := bind_of_ok (get_run b)

theorem test_run (t : Toolchain) (host : Host) (p directory : Path) (b : Bench σ) :
    t.test host p directory b =
      t.invoke host t.testRunner [argument b.disk.currentPath p directory] directory.text b := bind_of_ok (get_run b)

/-- **What the compiler and the test runner are told leads to the file that is meant**, from the directory that they are
started in, by text alone. File and directory are told from the top, and may go up on the way. -/
theorem argument_denotes (t : Toolchain) (host : Host) (file directory : String)
    (hfile : (Path.parse file).anchor = .top) (hdirectory : (Path.parse directory).anchor = .top) :
    ∃ argument place : String,
      (∀ b : Bench σ, t.compile host (Path.parse file) (Path.parse directory) b =
        t.invoke host t.compiler ["make", argument, "--output", t.discardTarget] place b) ∧
      (∀ b : Bench σ, t.test host (Path.parse file) (Path.parse directory) b =
        t.invoke host t.testRunner [argument] place b) ∧
      Path.parse place = Path.parse directory ∧
      (Path.parse place / Path.parse argument).collapse = (Path.parse file).collapse := by
  have hfile' : (Path.parse file).isAbsolute = true := by rw [Path.isAbsolute, hfile]; rfl
  have hdirectory' : (Path.parse directory).isAbsolute = true := by rw [Path.isAbsolute, hdirectory]; rfl
  have hargument (here : Path) := argument_of_isAbsolute hfile' hdirectory' here
  have hplace : Path.parse (Path.parse directory).text = Path.parse directory :=
    Path.parse_text (Path.isTextual_parse directory)
  refine ⟨argument ⟨.top, []⟩ (Path.parse file) (Path.parse directory), (Path.parse directory).text, fun b => ?_,
    fun b => ?_, hplace, ?_⟩
  · rw [compile_run, hargument, hargument]
  · rw [test_run, hargument, hargument]
  · rw [hplace]
    exact collapse_join_argument hfile hdirectory (Path.isTextual_parse file) _

/-- A host on which nothing can be started. -/
def bareHost : Host := ⟨fun p _ => .error ⟨.noEntry, p.command.headD ""⟩⟩

/-- A file and a directory that go up on the way, to the unit of a workspace and to its root. -/
theorem argument_denotes_climbing :
    ∃ argument place : String,
      (∀ b : Bench Unit, ({} : Toolchain).compile bareHost (Path.parse "/home/me/../me/p/./elm-stuff//.elm-ai/X.elm")
          (Path.parse "/home/p/../me/p/elm-stuff") b =
        ({} : Toolchain).invoke bareHost "elm" ["make", argument, "--output", "/dev/null"] place b) ∧
      (Path.parse place / Path.parse argument).collapse =
        (Path.parse "/home/me/../me/p/./elm-stuff//.elm-ai/X.elm").collapse := by
  obtain ⟨argument, place, hcompile, -, -, hdenotes⟩ := argument_denotes (σ := Unit) {} bareHost
    "/home/me/../me/p/./elm-stuff//.elm-ai/X.elm" "/home/p/../me/p/elm-stuff" (by decide +kernel) (by decide +kernel)
  exact ⟨argument, place, hcompile, hdenotes⟩

end Toolchain

/-! ## What comes back from a formatter -/

/-- What formatting a source text comes to, by what the formatter made of the text, if it did. What it made is given without
a word; otherwise the source text is given as it was, and a reason. -/
structure FormatResult.Keeps (source : String) (made : Option String) (r : FormatResult) : Prop where
  formatted : r.formatted = made.isSome
  text : r.text = made.getD source
  diagnostics : r.diagnostics = "" ↔ made.isSome = true

theorem FormatResult.keeps_some (source made : String) : FormatResult.Keeps source (some made) ⟨made, true, ""⟩ where
  formatted := rfl
  text := rfl
  diagnostics := iff_of_true rfl rfl

theorem FormatResult.keeps_none (source : String) {diagnostics : String} (h : diagnostics ≠ "") :
    FormatResult.Keeps source none ⟨source, false, diagnostics⟩ where
  formatted := rfl
  text := rfl
  diagnostics := iff_of_false h Bool.false_ne_true

namespace Program

variable {host : Host} {p : Program} {d : Disk}

/-- What a program leaves behind. -/
def result (p : Program) (e : End) : ProcessResult :=
  ⟨p.command, e.exitCode, textOf e.stdout, textOf e.stderr, e.durationMs, e.timedOut⟩

/-- What a formatter makes of a text, by how it was started and how it ended: what it wrote, if it ended well and in
time. -/
def made : Except SystemError (End × Disk) → Option String
  | .error _ => none
  | .ok (e, _) => if e.exitCode = some 0 ∧ e.timedOut = false then some (textOf e.stdout) else none

theorem run_of_hasNull (hcheck : p.check d = .ok ()) (hnull : p.hasNull = true) :
    p.run host d = (.error .nullCharacter, d) := by
  rw [run, bind_of_ok (Disk.ask_of_ok hcheck), if_pos hnull]
  rfl

theorem run_of_check (hcheck : p.check d = .ok ()) (hnull : p.hasNull = false) :
    p.run host d =
      match host.start p d with
      | .error e => (.error (.notStarted p.command e), d)
      | .ok (e, d') => (.ok (p.result e), d') := by
  rw [run, bind_of_ok (Disk.ask_of_ok hcheck), if_neg (by rw [hnull]; exact Bool.false_ne_true)]
  show (match host.start p d with
    | .error e => throw (Failure.notStarted p.command e)
    | .ok (e, d') => do
      set d'
      return p.result e : DiskM ProcessResult) d = _
  rcases host.start p d with e | ⟨e, d'⟩ <;> rfl

end Program

/-- The words about a program that could not be started are some. -/
theorem Failure.message_notStarted_ne (command : List String) (e : SystemError) :
    (Failure.notStarted command e).message ≠ "" := by
  obtain ⟨rest, hrest⟩ : ∃ rest, (Failure.notStarted command e).message = "Cannot run " ++ rest :=
    ⟨_, String.append_assoc⟩
  rw [hrest]
  intro h
  have hlist := congrArg String.toList h
  rw [String.toList_append] at hlist
  cases hlist

namespace Toolchain

variable {σ : Type} {t : Toolchain} {host : Host} {source : String} {b : Bench σ}

/-- The program that formats a source text. -/
def formatting (t : Toolchain) (source : String) : Program :=
  { command := [t.formatter, "--stdin"], input := some source, limit := t.limit }

theorem check_formatting (d : Disk) : (t.formatting source).check d = .ok () := rfl

/-- The name of the formatter is all of its command line that can hold the null character. -/
theorem hasNull_formatting : (t.formatting source).hasNull = t.formatter.toList.contains '\x00' := by
  have hflag : "--stdin".toList.contains '\x00' = false := by decide
  rw [Program.hasNull, formatting, List.any_cons, List.any_cons, List.any_nil, hflag, Bool.or_false, Bool.or_false]

/-- A formatter that was started keeps the text, however it ended. -/
theorem formatResult_keeps (t : Toolchain) (source : String) (e : Program.End) (d : Disk) :
    ∃ r, t.formatResult source ((t.formatting source).result e) = .ok r ∧
      r.Keeps source (Program.made (.ok (e, d))) := by
  rw [formatResult, Program.made, Program.result]
  by_cases hwell : e.exitCode = some 0 ∧ e.timedOut = false
  · have hended : ¬(e.exitCode ≠ some 0 ∨ e.timedOut = true) := by simp [hwell]
    rw [if_neg hended, if_pos hwell]
    exact ⟨_, rfl, FormatResult.keeps_some source _⟩
  · have hended : e.exitCode ≠ some 0 ∨ e.timedOut = true := by rwa [not_and_or, Bool.not_eq_false] at hwell
    have hcommand : ((t.formatting source).result e).command ≠ [] := List.cons_ne_nil _ _
    obtain ⟨o, ho, hreduces⟩ := Outcome.ofProcess_eq_ok hcommand t.limit
    have hdiagnostics : o.diagnostics ≠ "" := by
      intro hempty
      have hpassed := hreduces.isSound.kind.1 (hreduces.isSound.diagnostics.2 hempty)
      obtain ⟨htime, hcode⟩ := hreduces.passed.1 hpassed
      exact hwell ⟨hcode, htime⟩
    rw [Program.result] at ho
    rw [if_pos hended, if_neg hwell, ho]
    exact ⟨_, rfl, FormatResult.keeps_none source hdiagnostics⟩

/-- Formatting by a formatter that ran. -/
theorem format_of_run {result : ProcessResult} {r : FormatResult} {d : Disk}
    (hrun : (t.formatting source).run host b.disk = (.ok result, d)) (hr : t.formatResult source result = .ok r) :
    t.format host source b = (.ok r, { b with disk := d }) := by
  have h := Bench.onDisk_run (b := b) hrun
  rw [formatting] at h
  rw [format, bind_run]
  erw [tryCatch_run]
  rw [bind_of_ok h, hr]
  rfl

/-- Formatting by a formatter that did not run. -/
theorem format_of_error {x : Failure} {d : Disk} (hrun : (t.formatting source).run host b.disk = (.error x, d)) :
    t.format host source b =
      match x with
      | .notStarted command e => (.ok ⟨source, false, (Failure.notStarted command e).message⟩, { b with disk := d })
      | x => (.error x, { b with disk := d }) := by
  have h := Bench.onDisk_run (b := b) hrun
  rw [formatting] at h
  rw [format, bind_run]
  erw [tryCatch_run]
  rw [bind_of_error h]
  cases x <;> rfl

/-- A formatter whose name cannot be told to the system is a failure, and not a text without a formatter. -/
theorem format_of_null (hnull : '\x00' ∈ t.formatter.toList) : t.format host source b = (.error .nullCharacter, b) := by
  have hhas : (t.formatting source).hasNull = true := by rwa [hasNull_formatting, List.contains_iff_mem]
  exact format_of_error (Program.run_of_hasNull (check_formatting b.disk) hhas)

/-- **A toolchain keeps the text that it formats**, whatever becomes of the formatter. -/
theorem format_run (hnull : '\x00' ∉ t.formatter.toList) :
    ∃ r b', t.format host source b = (.ok r, b') ∧
      r.Keeps source (Program.made (host.start (t.formatting source) b.disk)) := by
  have hhas : (t.formatting source).hasNull = false := by
    rw [hasNull_formatting, ← Bool.not_eq_true, List.contains_iff_mem]
    exact hnull
  have hrun : (t.formatting source).run host b.disk = _ := Program.run_of_check (check_formatting b.disk) hhas
  cases hstart : host.start (t.formatting source) b.disk with
  | error e =>
    rw [hstart] at hrun
    exact ⟨_, _, format_of_error hrun, FormatResult.keeps_none source (Failure.message_notStarted_ne _ e)⟩
  | ok ended =>
    obtain ⟨e, d⟩ := ended
    rw [hstart] at hrun
    obtain ⟨r, hr, hkeeps⟩ := t.formatResult_keeps source e d
    exact ⟨r, _, format_of_run hrun hr, hkeeps⟩

end Toolchain

/-! ### Through oracle, engine and report -/

/-- What the formatter of a mock oracle makes of a text. -/
def Mock.made (m : Mock) (source : String) : Option String :=
  if m.mode = .fail then none else m.formatter.map fun formatter => formatter source

/-- A mock oracle keeps the text that it formats, and records it. -/
theorem Mock.formatText_run (m : Mock) (source : String) (b : Bench Mock.Log) :
    ∃ r, m.formatText source b = (.ok r, { b with oracle := b.oracle ++ [⟨.format, none, source⟩] }) ∧
      r.Keeps source (m.made source) := by
  have hskipped : "mock formatter skipped" ≠ "" := by decide
  rw [formatText, record, bind_of_ok (modify_run _ _), made]
  cases hmode : m.mode with
  | fail => exact ⟨_, rfl, FormatResult.keeps_none source hskipped⟩
  | pass | timeout =>
    rw [if_neg (by decide)]
    cases m.formatter with
    | none => exact ⟨_, rfl, FormatResult.keeps_none source hskipped⟩
    | some formatter => exact ⟨_, rfl, FormatResult.keeps_some source (formatter source)⟩

/-- A text that a tool formats is what the chosen oracle made of it. -/
theorem Tool.formatElm_run {config : Config} {choice : OracleChoice} (host : Host) (source : String) (d : Disk)
    (h : OracleChoice.ofConfig config = .ok choice) :
    Tool.formatElm host config source d =
      (((choice.oracle host).format source ⟨d, []⟩).1.map FormatReport.ofResult,
        ((choice.oracle host).format source ⟨d, []⟩).2.disk) := by
  rw [Tool.formatElm, Tool.withEngine, h]
  dsimp only
  rw [map_run]
  rfl

/-- **Formatting never loses the source text.** Toolchains and mock oracles keep it, with one exception: no program can be
started whose name holds the null character, and this is a failure. Engine and tool pass on what the oracle gave. -/
theorem format_keeps {σ : Type} (source : String) :
    (∀ (t : Toolchain) (host : Host) (b : Bench σ),
      ('\x00' ∈ t.formatter.toList → t.format host source b = (.error .nullCharacter, b)) ∧
        ('\x00' ∉ t.formatter.toList → ∃ r b', t.format host source b = (.ok r, b') ∧
          r.Keeps source (Program.made (host.start (t.formatting source) b.disk)))) ∧
      (∀ (m : Mock) (b : Bench Mock.Log), ∃ r b', m.oracle.format source b = (.ok r, b') ∧
        r.Keeps source (m.made source)) ∧
      (∀ (e : Engine σ) (st : EngineState σ), e.formatSource source st =
        ((e.oracle.format source st.bench).1, { st with bench := (e.oracle.format source st.bench).2 })) ∧
      ∀ (host : Host) (config : Config) (choice : OracleChoice) (d : Disk), OracleChoice.ofConfig config = .ok choice →
        (Tool.formatElm host config source d).1 =
          ((choice.oracle host).format source ⟨d, []⟩).1.map fun r => ⟨r.text, r.formatted, r.diagnostics⟩ := by
  refine ⟨fun t host b => ⟨Toolchain.format_of_null, Toolchain.format_run⟩, fun m b => ?_, fun e st => ?_,
    fun host config choice d h => ?_⟩
  · obtain ⟨r, hr, hkeeps⟩ := m.formatText_run source b
    exact ⟨r, _, hr, hkeeps⟩
  · rw [Engine.formatSource, Engine.onBench_run]
  · rw [Tool.formatElm_run host source d h]
    rfl

/-! ### A late formatter, and one that cannot be named -/

/-- A host on which a program writes what it reads and ends well, but only after it was stopped. -/
def lateHost : Host := ⟨fun p d => .ok (⟨some 0, Text.Utf8.encode (p.input.getD "").toList, [], 0, true⟩, d)⟩

/-- A toolchain whose formatter has a name that cannot be told to the system. -/
def unnamedToolchain : Toolchain := { formatter := "elm\x00format" }

/-- A formatter that was stopped is not believed, though it ended well, and the tool reports so. -/
theorem format_keeps_late :
    (∃ r, ((Toolchain.ofConfig {}).format lateHost "x = 1" (⟨Disk.new [], []⟩ : Bench Mock.Log)).1 = .ok r ∧
        r.text = "x = 1" ∧ r.formatted = false ∧ r.diagnostics ≠ "" ∧
        (Tool.formatElm lateHost {} "x = 1" (Disk.new [])).1 = .ok ⟨"x = 1", false, r.diagnostics⟩) ∧
      unnamedToolchain.format lateHost "x = 1" (⟨Disk.new [], []⟩ : Bench Mock.Log) =
        (.error .nullCharacter, ⟨Disk.new [], []⟩) := by
  obtain ⟨htoolchain, -, -, htool⟩ := format_keeps (σ := Mock.Log) "x = 1"
  obtain ⟨r, b', hrun, hkeeps⟩ := (htoolchain (.ofConfig {}) lateHost ⟨Disk.new [], []⟩).2 (by decide)
  have hmade : Program.made (lateHost.start ((Toolchain.ofConfig {}).formatting "x = 1") (Disk.new [])) = none := rfl
  rw [hmade] at hkeeps
  have htext : r.text = "x = 1" := hkeeps.text
  have hformatted : r.formatted = false := hkeeps.formatted
  have hdiagnostics : r.diagnostics ≠ "" := fun h => Bool.false_ne_true (hkeeps.diagnostics.1 h)
  refine ⟨⟨r, by rw [hrun], htext, hformatted, hdiagnostics, ?_⟩, (htoolchain unnamedToolchain _ _).1 (by decide)⟩
  have hreport := htool lateHost {} (.toolchain (.ofConfig {})) (Disk.new []) rfl
  have hformat : (OracleChoice.oracle lateHost (.toolchain (.ofConfig {}))).format "x = 1" ⟨Disk.new [], []⟩ =
      (.ok r, b') := hrun
  rw [hformat, Except.map, htext, hformatted] at hreport
  exact hreport

/-- **A formatter whose name holds the null character does not keep the text**: there is no result. -/
theorem not_format_unnamed :
    ¬ ∃ r b, unnamedToolchain.format lateHost "x = 1" (⟨Disk.new [], ()⟩ : Bench Unit) = (.ok r, b) := by
  rw [Toolchain.format_of_null (by decide)]
  rintro ⟨r, b, h⟩
  cases h

end ElmAssay
