/-! # UTF-8

Encoding, and a decoding that never fails: every maximal stretch of bytes that begins a character
without completing it is read as U+FFFD.
-/

namespace RowGate.Text

/-- The bytes of a text. -/
def utf8 (s : List Char) : List UInt8 := s.flatMap String.utf8EncodeChar

def replacement : Char := '\ufffd'

/-- What a leading byte announces: how many more bytes, and the bounds of the first of them. -/
structure Lead where
  more : Nat
  least : Nat
  greatest : Nat
deriving DecidableEq

def lead? (b : UInt8) : Option Lead :=
  let n := b.toNat
  if n < 0x80 then some ⟨0, 0, 0⟩
  else if n < 0xC2 then none
  else if n < 0xE0 then some ⟨1, 0x80, 0xBF⟩
  else if n = 0xE0 then some ⟨2, 0xA0, 0xBF⟩
  else if n = 0xED then some ⟨2, 0x80, 0x9F⟩
  else if n < 0xF0 then some ⟨2, 0x80, 0xBF⟩
  else if n = 0xF0 then some ⟨3, 0x90, 0xBF⟩
  else if n < 0xF4 then some ⟨3, 0x80, 0xBF⟩
  else if n = 0xF4 then some ⟨3, 0x80, 0x8F⟩
  else none

/-- The bits that a leading byte contributes. -/
def leadBits (b : UInt8) (more : Nat) : Nat :=
  match more with
  | 0 => b.toNat
  | 1 => b.toNat % 0x20
  | 2 => b.toNat % 0x10
  | _ => b.toNat % 0x08

/-- Where a decoder stands: between characters, or inside one with the value so far, the number of
bytes still missing and the bounds of the next. -/
inductive Utf8State where
  | start
  | inside (value more least greatest : Nat)
deriving DecidableEq

/-- One byte read between characters. -/
def startByte (b : UInt8) : List Char × Utf8State :=
  match lead? b with
  | none => ([replacement], .start)
  | some ⟨0, _, _⟩ => ([Char.ofNat b.toNat], .start)
  | some ⟨more, least, greatest⟩ => ([], .inside (leadBits b more) more least greatest)

/-- One byte read: the characters it completes, and the state after it. -/
def utf8Step : Utf8State → UInt8 → List Char × Utf8State
  | .start, b => startByte b
  | .inside value more least greatest, b =>
    if least ≤ b.toNat ∧ b.toNat ≤ greatest then
      let value := value * 0x40 + b.toNat % 0x40
      if more ≤ 1 then ([Char.ofNat value], .start)
      else ([], .inside value (more - 1) 0x80 0xBF)
    else
      let next := startByte b
      (replacement :: next.1, next.2)

def decodeFrom : Utf8State → List UInt8 → List Char
  | .start, [] => []
  | .inside .., [] => [replacement]
  | st, b :: bs => (utf8Step st b).1 ++ decodeFrom (utf8Step st b).2 bs

/-- The text of a byte sequence. -/
def decodeUtf8 (bs : List UInt8) : List Char := decodeFrom .start bs

end RowGate.Text
