import ElmAssay.Text.Quoted

/-!
# UTF-8

Encoding of texts (`encode`), the strict reader that says where and why bytes are no text (`decode`), and the lenient
reader in which each longest ill-formed part becomes one replacement character (`decodeLossy`). Both readers step
over the bytes one at a time: a lead byte opens a character, its continuation bytes must lie in the range that the
lead allows.
-/

namespace ElmAssay.Text.Utf8

abbrev Bytes := List UInt8

/-- Why bytes are no text. -/
inductive Reason
  /-- The byte can start no character. -/
  | invalidStart
  /-- A character was started and its next byte cannot continue it. -/
  | invalidContinuation
  /-- The bytes end inside a character. -/
  | unexpectedEnd
  deriving DecidableEq, Repr

/-- Ill-formed bytes: `count` of them from `position` on, the first of which is `byte`. -/
structure Malformed where
  byte : UInt8
  position : Nat
  count : Nat
  reason : Reason
  deriving DecidableEq, Repr

/-- The wording of a reason. -/
def Reason.message : Reason → String
  | .invalidStart => "invalid start byte"
  | .invalidContinuation => "invalid continuation byte"
  | .unexpectedEnd => "unexpected end of data"

/-- The wording of a decoding error: one byte is shown, several are located. -/
def Malformed.message (e : Malformed) : String :=
  let place :=
    if e.count = 1 then s!"byte 0x{String.ofList (hex 2 e.byte.toNat)} in position {e.position}"
    else s!"bytes in position {e.position}-{e.position + e.count - 1}"
  s!"'utf-8' codec can't decode {place}: {e.reason.message}"

/-! ## Encoding -/

/-- The bytes of a character. -/
def encodeChar (c : Char) : Bytes :=
  let n := c.toNat
  if n < 0x80 then [UInt8.ofNat n]
  else if n < 0x800 then [UInt8.ofNat (0xC0 + n / 64), UInt8.ofNat (0x80 + n % 64)]
  else if n < 0x10000 then
    [UInt8.ofNat (0xE0 + n / 4096), UInt8.ofNat (0x80 + n / 64 % 64), UInt8.ofNat (0x80 + n % 64)]
  else
    [UInt8.ofNat (0xF0 + n / 262144), UInt8.ofNat (0x80 + n / 4096 % 64), UInt8.ofNat (0x80 + n / 64 % 64),
     UInt8.ofNat (0x80 + n % 64)]

/-- The bytes of a text. -/
def encode (s : List Char) : Bytes := s.flatMap encodeChar

/-! ## Decoding -/

/-- A character that was started: its lead byte, the bits read so far, the bytes read and still needed, and the range
of the next byte. -/
structure Pending where
  lead : UInt8
  bits : Nat
  read : Nat
  need : Nat
  low : Nat
  high : Nat
  deriving DecidableEq, Repr

/-- What a byte that stands where a character may start does. -/
inductive Lead
  | single (c : Char)
  | opens (p : Pending)
  | invalid

/-- The reading of a byte that stands where a character may start. The first continuation byte is kept from giving
an overlong form, a surrogate, or a code point past the last. -/
def lead (b : UInt8) : Lead :=
  let n := b.toNat
  if n < 0x80 then .single (Char.ofNat n)
  else if n < 0xC2 then .invalid
  else if n < 0xE0 then .opens ⟨b, n - 0xC0, 1, 1, 0x80, 0xBF⟩
  else if n < 0xF0 then
    .opens ⟨b, n - 0xE0, 1, 2, if n = 0xE0 then 0xA0 else 0x80, if n = 0xED then 0x9F else 0xBF⟩
  else if n < 0xF5 then
    .opens ⟨b, n - 0xF0, 1, 3, if n = 0xF0 then 0x90 else 0x80, if n = 0xF4 then 0x8F else 0xBF⟩
  else .invalid

/-- Whether a byte continues a started character. -/
def Pending.accepts (p : Pending) (b : UInt8) : Bool := p.low ≤ b.toNat && b.toNat ≤ p.high

/-- A started character with one more byte, which it accepts. -/
def Pending.push (p : Pending) (b : UInt8) : Pending :=
  ⟨p.lead, p.bits * 64 + (b.toNat - 0x80), p.read + 1, p.need - 1, 0x80, 0xBF⟩

/-- The strict reading of bytes, of which the first stands at `position`, after a character that may be started. -/
def decodeFrom (position : Nat) : Option Pending → Bytes → Except Malformed (List Char)
  | none, [] => .ok []
  | some p, [] => .error ⟨p.lead, position - p.read, p.read, .unexpectedEnd⟩
  | none, b :: s =>
    match lead b with
    | .single c => (decodeFrom (position + 1) none s).map (c :: ·)
    | .opens p => decodeFrom (position + 1) (some p) s
    | .invalid => .error ⟨b, position, 1, .invalidStart⟩
  | some p, b :: s =>
    if p.accepts b then
      if (p.push b).need = 0 then (decodeFrom (position + 1) none s).map (Char.ofNat (p.push b).bits :: ·)
      else decodeFrom (position + 1) (some (p.push b)) s
    else .error ⟨p.lead, position - p.read, p.read, .invalidContinuation⟩

/-- The text that bytes are, or the first place where they are none. -/
def decode (bytes : Bytes) : Except Malformed (List Char) := decodeFrom 0 none bytes

/-- The character that stands for ill-formed bytes. -/
def replacement : Char := Char.ofNat 0xFFFD

/-- The lenient reading of bytes after a character that may be started. -/
def decodeLossyFrom : Option Pending → Bytes → List Char
  | none, [] => []
  | some _, [] => [replacement]
  | none, b :: s =>
    match lead b with
    | .single c => c :: decodeLossyFrom none s
    | .opens p => decodeLossyFrom (some p) s
    | .invalid => replacement :: decodeLossyFrom none s
  | some p, b :: s =>
    if p.accepts b then
      if (p.push b).need = 0 then Char.ofNat (p.push b).bits :: decodeLossyFrom none s
      else decodeLossyFrom (some (p.push b)) s
    else
      match lead b with
      | .single c => replacement :: c :: decodeLossyFrom none s
      | .opens q => replacement :: decodeLossyFrom (some q) s
      | .invalid => replacement :: replacement :: decodeLossyFrom none s

/-- The text of bytes, where each longest ill-formed part becomes one replacement character. -/
def decodeLossy (bytes : Bytes) : List Char := decodeLossyFrom none bytes

end ElmAssay.Text.Utf8
