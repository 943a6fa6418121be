import RowGate.Text.Cut
import RowGate.Text.Utf8

/-! # Form-encoded pairs

The media type `application/x-www-form-urlencoded`: pairs stand between ampersands, a name ends at
its first equals sign, a plus sign is a blank, and `%` with two hexadecimal digits is a byte.
-/

namespace RowGate.Text

def hexValue? (b : UInt8) : Option UInt8 :=
  if 0x30 ≤ b ∧ b ≤ 0x39 then some (b - 0x30)
  else if 0x41 ≤ b ∧ b ≤ 0x46 then some (b - 0x37)
  else if 0x61 ≤ b ∧ b ≤ 0x66 then some (b - 0x57)
  else none

/-- Percent-decoding; a percent sign that two hexadecimal digits do not follow stands for itself. -/
def percentDecode : List UInt8 → List UInt8
  | [] => []
  | [b] => [b]
  | [b, c] => [b, c]
  | b :: c :: d :: bs =>
    if b = 0x25 then
      match hexValue? c, hexValue? d with
      | some h, some l => (16 * h + l) :: percentDecode bs
      | _, _ => b :: percentDecode (c :: d :: bs)
    else b :: percentDecode (c :: d :: bs)

/-- The text that one side of a pair stands for. -/
def decodeComponent (s : List Char) : List Char :=
  decodeUtf8 (percentDecode (utf8 (s.map fun c => if c = '+' then ' ' else c)))

/-- One pair; without an equals sign the value is empty. -/
def decodePair (s : List Char) : List Char × List Char :=
  match cutFirst '=' s with
  | some (name, value) => (decodeComponent name, decodeComponent value)
  | none => (decodeComponent s, [])

/-- The pairs of a form-encoded text. Empty stretches between ampersands are no pairs. -/
def formPairs (s : List Char) : List (List Char × List Char) :=
  ((pieces '&' s).filter fun p => !p.isEmpty).map decodePair

end RowGate.Text
