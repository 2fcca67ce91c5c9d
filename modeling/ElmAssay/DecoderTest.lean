import ElmAssay.CompileUnit
import ElmAssay.Json.Writer
import ElmAssay.Text.Lines
import ElmAssay.Workspace

/-!
# Decoder tests

A decoder test is a test module that decodes one fixed sample and expects one fixed value (`DecoderTest`). Its source
holds the sample as a string literal and the expected value verbatim (`DecoderTest.source`); its place below the tests
of a workspace is read off its module name (`DecoderTest.path`).
-/

namespace ElmAssay.Elm

/-!
## String literals

A text as a string literal on one line (`literal`): the quote, the backslash and the controls are escaped, every other
character stands for itself.
-/

/-- The upper-case hexadecimal digit of a value below 16. -/
def capitalHexDigit (n : Nat) : Char := (Nat.digitChar n).toUpper

/-- The escape of a control by its code point, in four digits. -/
def controlEscape (n : Nat) : List Char :=
  ['\\', 'u', '{', capitalHexDigit (n / 4096 % 16), capitalHexDigit (n / 256 % 16), capitalHexDigit (n / 16 % 16),
   capitalHexDigit (n % 16), '}']

/-- A character inside a literal. -/
def literalChar (c : Char) : List Char :=
  if c = '\\' ∨ c = '"' then ['\\', c]
  else if c = '\n' then ['\\', 'n']
  else if c = '\r' then ['\\', 'r']
  else if c = '\t' then ['\\', 't']
  else if c.toNat < 0x20 ∨ c.toNat = 0x7F then controlEscape c.toNat
  else [c]

/-- A text as a literal. -/
def literalList (s : List Char) : List Char := '"' :: s.flatMap literalChar ++ ['"']

/-- A text as a literal. -/
def literal (s : String) : String := String.ofList (literalList s.toList)

end ElmAssay.Elm

/-! ## The test and its source -/

namespace ElmAssay

/-- The sample of a decoder test: a JSON text as it is, or a value to be written as one. -/
inductive Sample
  | text (s : String)
  | value (v : Json)

/-- The text of a sample. A value that is a string counts as the text it holds. -/
def Sample.toText : Sample → String
  | text s => s
  | value (.str s) => s
  | value v => v.compactText

/-- A test that a decoder gives an expected value for a sample. -/
structure DecoderTest where
  decoderCode : String
  sample : Sample
  expectedValue : String
  typeDefinitions : String := ""
  extraImports : List String := []
  decoderName : String := "decoder"
  includeHelpers : Bool := true
  testModule : String := "DecoderTest"

namespace DecoderTest

open Text

/-- The imports of decoders of points in time. -/
def timeImports : List String := ["Iso8601", "Time exposing (Posix)"]

/-- Whether a line of a text starts with a name that ends there. `before` is the character in front. -/
def definesFrom (name : List Char) (before : Option Char) (s : List Char) : Bool :=
  let here := (before == none || before == some '\n') && name.isPrefixOf s &&
    isBoundary (name.getLast?.or before) (s.drop name.length).head?
  here ||
    match s with
    | [] => false
    | c :: rest => definesFrom name (some c) rest

/-- Whether the decoder or its types define a name. -/
def defines (t : DecoderTest) (name : String) : Bool :=
  definesFrom name.toList none t.decoderCode.toList || definesFrom name.toList none t.typeDefinitions.toList

/-- The import line of an extra import, `none` if it is blank. -/
def importLine (line : String) : Option (List Char) :=
  let line := strip line.toList
  if line.isEmpty then none
  else if "import ".toList.isPrefixOf line then some line
  else some ("import ".toList ++ line)

/-- The lines of the extra imports. -/
def importLines (t : DecoderTest) : List Char := joinWith ['\n'] (t.extraImports.filterMap importLine)

/-- The type definitions with the empty lines around them. -/
def typeBlock (t : DecoderTest) : List Char :=
  let types := stripNewlines t.typeDefinitions.toList
  if types.isEmpty then [] else '\n' :: '\n' :: types ++ ['\n']

/-- The name of the helper that decoders in a pipeline use. -/
def helperName : String := "andMap"

/-- The helper, unless it is not wanted or defined already. -/
def helperBlock (t : DecoderTest) : String :=
  if t.includeHelpers && !t.defines helperName then
    "\n\nandMap : Decoder a -> Decoder (a -> b) -> Decoder b\nandMap =\n    Json.Decode.map2 (|>)\n"
  else ""

/-- The part of the source in front of the test: header, imports and decoder. -/
def preamble (t : DecoderTest) : String :=
  "module " ++ t.testModule ++ " exposing (all)\n\nimport Expect\nimport Json.Decode exposing (Decoder)\nimport Test\n" ++
    String.ofList t.importLines ++ "\n" ++ String.ofList (stripNewlines t.decoderCode.toList) ++ "\n\n\n"

/-- The test. -/
def body (t : DecoderTest) : String :=
  "all : Test.Test\nall =\n    Test.test \"decoder test\" <|\n        \\_ ->\n            Json.Decode.decodeString " ++
    t.decoderName ++ " " ++ Elm.literal t.sample.toText ++ "\n                |> Expect.equal (Ok " ++
    String.ofList (strip t.expectedValue.toList) ++ "\n                                )\n"

/-- The source of the test module. -/
def source (t : DecoderTest) : String :=
  t.preamble ++ t.body ++ String.ofList t.typeBlock ++ t.helperBlock

/-- The file of the test module in a workspace. -/
def path (t : DecoderTest) (w : Workspace) : Except Failure Path :=
  let p := Path.ofTexts (CompileUnit.nameParts t.testModule)
  match p.withEnding? ".elm" with
  | some q => .ok (w.tests / q)
  | none => .error (.nameless p)

/-- Writes the test module into the workspace, and gives its path. -/
def build (t : DecoderTest) (w : Workspace) : DiskM Path := do
  let target ← Disk.ask fun _ => t.path w
  w.writeBelow target t.source
  return target

end DecoderTest
end ElmAssay
