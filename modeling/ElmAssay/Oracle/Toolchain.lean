import ElmAssay.Config
import ElmAssay.Oracle
import ElmAssay.Oracle.Mock
import ElmAssay.Program

/-!
# Oracles that run the toolchain

A toolchain is the compiler, the test runner and the formatter by name (`Toolchain`). Each check starts one of them on a
host and reduces what it leaves behind to an outcome. A formatter that cannot be started, or that does not end well,
leaves the source as it is.
-/

namespace ElmAssay

/-- The programs of the toolchain, where the compiler puts its result, and the time limit of each run. -/
structure Toolchain where
  compiler : String := "elm"
  testRunner : String := "elm-test"
  formatter : String := "elm-format"
  discardTarget : String := "/dev/null"
  limit : Option Seconds := some (.real (.ofDecimal false 120 0))

namespace Toolchain

variable {σ : Type}

/-- The toolchain of the settings. -/
def ofConfig (c : Config) : Toolchain := ⟨c.compiler, c.testRunner, c.formatter, c.discardTarget, c.limit⟩

/-- A path as the tools are told it: one from the top is told as seen from the directory they run in. -/
def argument (here p directory : Path) : String :=
  if p.isAbsolute then (here.relativeFrom directory p).text else p.text

/-- Runs a program of the toolchain in a directory. -/
def invoke (t : Toolchain) (host : Host) (program : String) (arguments : List String) (directory : String) :
    BenchM σ Outcome := do
  let result ← Bench.onDisk
    (Program.run host { command := program :: arguments, directory := some directory, limit := t.limit })
  match Outcome.ofProcess result t.limit with
  | .ok o => return o
  | .error e => throw e

/-- Compiles a unit and discards the result. -/
def compile (t : Toolchain) (host : Host) (p directory : Path) : BenchM σ Outcome := do
  let here := (← get).disk.currentPath
  t.invoke host t.compiler ["make", argument here p directory, "--output", t.discardTarget] directory.text

/-- Runs a test module. -/
def test (t : Toolchain) (host : Host) (p directory : Path) : BenchM σ Outcome := do
  let here := (← get).disk.currentPath
  t.invoke host t.testRunner [argument here p directory] directory.text

/-- The result of a formatter that was started. -/
def formatResult (t : Toolchain) (source : String) (r : ProcessResult) : Except Failure FormatResult :=
  if r.exitCode ≠ some 0 ∨ r.timedOut then
    (Outcome.ofProcess r t.limit).map fun o => ⟨source, false, o.diagnostics⟩
  else .ok ⟨r.stdout, true, ""⟩

/-- Formats a source text. A formatter that cannot be started is no failure. -/
def format (t : Toolchain) (host : Host) (source : String) : BenchM σ FormatResult := do
  let program : Program := { command := [t.formatter, "--stdin"], input := some source, limit := t.limit }
  try
    let result ← Bench.onDisk (Program.run host program)
    match t.formatResult source result with
    | .ok r => return r
    | .error e => throw e
  catch
    | .notStarted command e => return ⟨source, false, (Failure.notStarted command e).message⟩
    | e => throw e

/-- A toolchain on a host as an oracle. -/
def oracle (t : Toolchain) (host : Host) : Oracle σ := ⟨t.compile host, t.test host, t.format host⟩

end Toolchain

/-!
## Choosing an oracle

The oracles there are to choose from (`OracleChoice`), by the name of a backend (`OracleChoice.ofName`) or by the settings
of the engine (`OracleChoice.ofConfig`).
-/

/-- An oracle that can be chosen. -/
inductive OracleChoice
  | mock (m : Mock)
  | toolchain (t : Toolchain)

namespace OracleChoice

/-- The backend that runs the toolchain. -/
def toolchainName : String := "subprocess"

/-- The backend that answers by itself. -/
def mockName : String := "mock"

/-- The oracle of a backend, where `mode` is the mode of a mock oracle. -/
def ofName (backend mode : String) : Except Failure OracleChoice :=
  if backend = toolchainName then .ok (.toolchain {})
  else if backend = mockName then (Mock.Mode.ofName mode).map fun m => .mock { mode := m }
  else .error (.unknownBackend backend)

/-- The oracle that the settings select. -/
def ofConfig (c : Config) : Except Failure OracleChoice :=
  if c.backend = toolchainName then .ok (.toolchain (.ofConfig c)) else ofName c.backend "pass"

/-- A choice as an oracle, which runs its programs on a host. -/
def oracle (host : Host) : OracleChoice → Oracle Mock.Log
  | mock m => m.oracle
  | toolchain t => t.oracle host

end OracleChoice
end ElmAssay
