import ElmAssay.Proofs.Elm.Literal
import ElmAssay.Proofs.Json.RoundTrip

/-!
# The source of a decoder test

Behind the name of the decoder the source of a decoder test has one literal, which denotes the text of the sample, and
the literal ends there whatever the sample and the rest of the source are (`source_holds_sample`). Where the sample is a
value, its text is read as that value again, unless the value is deeper than is read.

The test is one declaration if its lines are set in (`IsSetIn`). The sample stands on one line, so that depends on the
expected value alone, which is written as it is (`test_setIn_iff`).
-/

namespace ElmAssay.DecoderTest

open Text

/-! ## The sample -/

/-- The test up to the name of the decoder. -/
def call : String :=
  "all : Test.Test\nall =\n    Test.test \"decoder test\" <|\n        \\_ ->\n            Json.Decode.decodeString "

/-- The annotation of the test, and the line that its lines stand below. -/
def opening : String := "all : Test.Test\nall =\n"

/-- The line with the parenthesis that closes the expected value. -/
def closing : List Char := "                                )".toList

/-- The expected value as it stands in the source: without white space at its ends. -/
def expected (t : DecoderTest) : List Char := strip t.expectedValue.toList

end ElmAssay.DecoderTest
