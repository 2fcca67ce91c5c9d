import ElmAssay.Disk.Tree

/-!
# Strings of bytes

Programs pass strings of bytes around, of which only some are text (`Octets`). A text becomes such a string by its
UTF-8 form (`Octets.ofText`), and a reader that cares for characters sees it as wide characters, in which a byte that
belongs to no character stands for itself (`Octets.widen`, `Octets.narrow`).
-/

namespace ElmAssay.Machine

open Text

/-- A string of bytes: each of its characters stands for one byte. -/
abbrev Octets := String

namespace Octets

/-- The string of some bytes. -/
def ofBytes (bytes : Bytes) : Octets := String.ofList (bytes.map fun b => Char.ofNat b.toNat)

/-- The bytes of a string. -/
def toBytes (s : Octets) : Bytes := s.toList.map fun c => UInt8.ofNat c.toNat

/-- The string of the bytes of a text. -/
def ofText (s : String) : Octets := ofBytes (Utf8.encode s.toList)

/-- The text that a string holds, where ill-formed bytes become replacement characters. -/
def toText (s : Octets) : String := String.ofList (Utf8.decodeLossy (toBytes s))

/-- The first of the characters that stand for the bytes outside all characters. -/
def strayBase : Nat := 0x10FF00

/-- The character that stands for a byte outside all characters. -/
def stray (b : UInt8) : Char := if b.toNat < 0x80 then Char.ofNat b.toNat else Char.ofNat (strayBase + b.toNat)

/-- The wide characters of bytes, after those of a character that may be started, latest first. -/
def widenFrom : Option (Utf8.Pending × List UInt8) → Bytes → List Char
  | none, [] => []
  | some (_, held), [] => held.reverse.map stray
  | state, b :: s =>
    let fresh (front : List Char) : List Char :=
      match Utf8.lead b with
      | .single c => front ++ c :: widenFrom none s
      | .opens p => front ++ widenFrom (some (p, [b])) s
      | .invalid => front ++ stray b :: widenFrom none s
    match state with
    | none => fresh []
    | some (p, held) =>
      if p.accepts b then
        if (p.push b).need = 0 then Char.ofNat (p.push b).bits :: widenFrom none s
        else widenFrom (some (p.push b, b :: held)) s
      else fresh (held.reverse.map stray)

/-- A character that is one byte in any case. -/
def isNarrow (c : Char) : Bool := c.toNat < 0x80

/-- The wide characters of a string. -/
def widen (s : Octets) : List Char :=
  let cs := s.toList
  if cs.all isNarrow then cs else widenFrom none (toBytes s)

/-- The bytes of a wide character. -/
def narrowChar (c : Char) : Bytes :=
  if strayBase ≤ c.toNat then [UInt8.ofNat (c.toNat - strayBase)] else Utf8.encodeChar c

/-- The string of some wide characters. -/
def narrow (s : List Char) : Octets :=
  if s.all isNarrow then String.ofList s else ofBytes (s.flatMap narrowChar)

end Octets
end ElmAssay.Machine
