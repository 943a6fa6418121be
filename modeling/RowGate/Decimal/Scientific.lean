import RowGate.Decimal.Integer

/-! # Decimal fractions in scientific form -/

namespace RowGate.Decimal

/-- The number `± digits * 10 ^ exponent`. -/
structure Scientific where
  negative : Bool
  digits : Nat
  exponent : Int
deriving DecidableEq, Repr

namespace Scientific

/-- The double nearest to a decimal number, with the even neighbour on a tie. Magnitudes that are
plainly out of range are settled before any power is taken. -/
def toFloat (x : Scientific) : Float :=
  let size := (Nat.toDigits 10 x.digits).length + x.exponent
  let magnitude : Float :=
    if x.digits = 0 ∨ size < -330 then 0
    else if size > 310 then 1 / 0
    else Float.ofScientific x.digits (x.exponent < 0) x.exponent.natAbs
  if x.negative then -magnitude else magnitude

end Scientific

def spanDigits (s : List Char) : List Char × List Char := s.span Char.isDigit

/-- A sign, if there is one: whether it is a minus, and what follows it. -/
def readSign : List Char → Bool × List Char
  | '-' :: s => (true, s)
  | '+' :: s => (false, s)
  | s => (false, s)

/-- The digits after a point, if there is one. -/
def readFraction : List Char → List Char × List Char
  | '.' :: s => spanDigits s
  | s => ([], s)

def readExponent? : List Char → Option Int
  | [] => some 0
  | c :: s => if c = 'e' ∨ c = 'E' then readInt? s else none

/-- Digits with an optional sign, point and exponent; either side of the point may be empty, but
not both. -/
def readScientific? (s : List Char) : Option Scientific := do
  let (negative, s) := readSign s
  let (whole, s) := spanDigits s
  let (fraction, s) := readFraction s
  if whole.isEmpty && fraction.isEmpty then none
  let exponent ← readExponent? s
  some ⟨negative, digitsValue (whole ++ fraction), exponent - fraction.length⟩

/-- A decimal number or one of the words `inf`, `infinity` and `nan`, in any case. -/
def readFloat? (s : List Char) : Option Float :=
  let (negative, word) := readSign s
  match String.ofList (word.map Char.toLower) with
  | "inf" | "infinity" => some (if negative then -1 / 0 else 1 / 0)
  | "nan" => some (0 / 0)
  | _ => (readScientific? s).map Scientific.toFloat

end RowGate.Decimal
