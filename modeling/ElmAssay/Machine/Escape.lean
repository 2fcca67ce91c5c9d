import ElmAssay.Machine.Numeral

/-!
# Backslashes in texts that are printed

A backslash and what follows it stand for a byte (`Escape.read`). Programs differ in what they take for such an escape
(`Escapes`); a backslash that starts none stands for itself. In some places an escape ends all output
(`Escape.stop`).
-/

namespace ElmAssay.Machine

open Text

/-- What a program takes for an escape. -/
structure Escapes where
  /-- Whether there is an escape that ends all output. -/
  stops : Bool
  /-- Whether a zero in front of three octal digits does not count. -/
  longOctal : Bool
  /-- Whether there are escapes by two hexadecimal digits. -/
  hexadecimal : Bool
  /-- Whether code points and quotes can be written by escapes, and digits must not be missing. -/
  isStrict : Bool
  deriving DecidableEq, Repr

/-- What an escape stands for. -/
inductive Escape
  | text (s : Octets)
  | stop
  /-- Nothing, because digits are missing. -/
  | noDigits
  deriving DecidableEq, Repr

namespace Escape

/-- The byte that a letter behind a backslash stands for. -/
def ofLetter? (c : Char) : Option Char :=
  match c with
  | '\\' => some '\\'
  | 'a' => some (Char.ofNat 7)
  | 'b' => some (Char.ofNat 8)
  | 'e' => some (Char.ofNat 27)
  | 'f' => some (Char.ofNat 12)
  | 'n' => some '\n'
  | 'r' => some '\r'
  | 't' => some '\t'
  | 'v' => some (Char.ofNat 11)
  | _ => none

/-- The digits in a base at the front of a text, so many at most. -/
def digits (base most : Nat) (s : List Char) : List Char := (s.take most).takeWhile (Numeral.isDigitIn base)

/-- A byte by its digits. -/
def byte (base : Nat) (ds : List Char) : Escape := .text (Char.ofNat (Numeral.valueIn base ds % 256)).toString

/-- A character by so many hexadecimal digits. -/
def character (count : Nat) (s : List Char) : Escape × List Char :=
  let ds := digits 16 count s
  if ds.length < count then (.noDigits, s)
  else (.text (Octets.ofText (Char.ofNat (Numeral.valueIn 16 ds)).toString), s.drop count)

/-- What the text behind a backslash stands for, with what follows. -/
def read (k : Escapes) (s : List Char) : Escape × List Char :=
  match s with
  | [] => (.text "\\", [])
  | c :: rest =>
    let octal := digits 8 3 (if k.longOctal && c == '0' then rest else s)
    if k.stops && c == 'c' then (.stop, rest)
    else if k.longOctal && c == '0' then (byte 8 octal, rest.drop octal.length)
    else if !octal.isEmpty then (byte 8 octal, s.drop octal.length)
    else if k.hexadecimal && c == 'x' then
      let ds := digits 16 2 rest
      if !ds.isEmpty then (byte 16 ds, rest.drop ds.length)
      else if k.isStrict then (.noDigits, s)
      else (.text "\\", s)
    else if k.isStrict && c == '"' then (.text "\"", rest)
    else if k.isStrict && c == 'u' then character 4 rest
    else if k.isStrict && c == 'U' then character 8 rest
    else
      match ofLetter? c with
      | some d => (.text d.toString, rest)
      | none => if k.isStrict then (.text (String.ofList ['\\', c]), rest) else (.text "\\", s)

/-- A text with its escapes replaced, and whether one of them ended it. The fuel bounds its length. -/
def replaceFrom (k : Escapes) : Nat → List Char → List Octets → Octets × Bool
  | 0, _, done => (String.join done.reverse, false)
  | _, [], done => (String.join done.reverse, false)
  | fuel + 1, '\\' :: s, done =>
    match read k s with
    | (.text t, rest) => replaceFrom k fuel rest (t :: done)
    | (.stop, _) => (String.join done.reverse, true)
    | (.noDigits, rest) => replaceFrom k fuel rest ("\\" :: done)
  | fuel + 1, c :: s, done => replaceFrom k fuel s (c.toString :: done)

/-- A text with its escapes replaced, and whether one of them ended it. -/
def replace (k : Escapes) (s : Octets) : Octets × Bool := replaceFrom k (s.length + 1) s.toList []

end Escape
end ElmAssay.Machine
