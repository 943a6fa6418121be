import RowGate.Decimal.Shortest

/-! # Number texts

Two layouts of the shortest digits: that of JSON documents, and the plain one of messages.
-/

namespace RowGate.Decimal

/-- How a double is written: the powers of ten of the leading digit that are written positionally,
whether a whole number keeps a point and a zero, and the choice of digits on a tie. -/
structure Layout where
  positional : Int → Bool
  wholePoint : Bool
  tie : Tie

/-- Scientific notation below `10 ^ -5` and from `10 ^ 16` on. -/
def Layout.json : Layout := ⟨fun e => -5 ≤ e && e ≤ 15, true, .even⟩

/-- Always positional, whole numbers without a point. -/
def Layout.plain : Layout := ⟨fun _ => true, false, .up⟩

def zeros (n : Nat) : List Char := List.replicate n '0'

/-- Digits with the point after the digit of `10 ^ 0`. -/
def positionalText (ds : List Char) (exponent : Int) (wholePoint : Bool) : List Char :=
  if 0 ≤ exponent then
    ds ++ zeros exponent.toNat ++ if wholePoint then ['.', '0'] else []
  else
    let places := exponent.natAbs
    if places < ds.length then
      ds.take (ds.length - places) ++ '.' :: ds.drop (ds.length - places)
    else
      '0' :: '.' :: zeros (places - ds.length) ++ ds

/-- One digit before the point and a signed exponent. -/
def scientificText (ds : List Char) (leading : Int) : List Char :=
  let mantissa := match ds with
    | [] => []
    | [d] => [d]
    | d :: ds => d :: '.' :: ds
  let sign := if leading < 0 then '-' else '+'
  mantissa ++ 'e' :: sign :: Nat.toDigits 10 leading.natAbs

def Layout.digitsText (l : Layout) (x : Scientific) : List Char :=
  let ds := Nat.toDigits 10 x.digits
  let leading : Int := ds.length - 1 + x.exponent
  let body :=
    if x.digits = 0 || l.positional leading then positionalText ds x.exponent l.wholePoint
    else scientificText ds leading
  if x.negative then '-' :: body else body

/-- The text of a double. -/
def Layout.text (l : Layout) (x : Float) : String :=
  if x.isNaN then "NaN"
  else if x.isInf then (if x < 0 then "-inf" else "inf")
  else String.ofList (l.digitsText (shortest l.tie x))

end RowGate.Decimal
