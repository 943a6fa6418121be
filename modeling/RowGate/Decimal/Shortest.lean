import RowGate.Decimal.Scientific

/-! # Shortest decimal digits

A double stands for all the reals that round to it. Its shortest decimal is the one with the fewest
digits among them and, of several, the one nearest to the double. Two may be equally near.
-/

namespace RowGate.Decimal

/-- The choice between two decimals that are equally near: the one with an even last digit, or the
greater magnitude. -/
inductive Tie where
  | even
  | up
deriving DecidableEq, Repr

/-- Whether the smaller magnitude, with the digits `d`, wins a tie. -/
def Tie.takesLower (tie : Tie) (d : Nat) : Bool :=
  match tie with
  | .even => d % 2 = 0
  | .up => false

/-- The reals that round to a double, as whole multiples of `1 / unit`: the double itself, and the
ends of the interval, which belong to it if `closed`. -/
structure Interval where
  value : Nat
  low : Nat
  high : Nat
  unit : Nat
  closed : Bool

/-- The interval of the double `m * 2 ^ q`. Below a power of two the neighbours stand twice as
close, the least normal number excepted. -/
def Interval.ofParts (m : Nat) (q : Int) : Interval :=
  let below := if m = power 2 52 ∧ q > -1074 then 1 else 2
  let scale := power 2 (q - 2).toNat
  { value := 4 * m * scale
    low := (4 * m - below) * scale
    high := (4 * m + 2) * scale
    unit := power 2 (2 - q).toNat
    closed := m % 2 = 0 }

/-- The significand and the exponent of a finite double: its magnitude is `m * 2 ^ q`. -/
def floatParts (x : Float) : Nat × Int :=
  let bits := x.toBits.toNat
  let exponent : Nat := bits / power 2 52 % power 2 11
  let fraction : Nat := bits % power 2 52
  if exponent = 0 then (fraction, -1074) else (fraction + power 2 52, (exponent : Int) - 1075)

namespace Interval

def holds (i : Interval) (numerator denominator : Nat) : Bool :=
  let x := numerator * i.unit
  if i.closed then i.low * denominator ≤ x && x ≤ i.high * denominator
  else i.low * denominator < x && x < i.high * denominator

/-- The greatest `e` with `10 ^ e` at most the value. -/
def magnitude (i : Interval) : Int :=
  let e : Int := (Nat.toDigits 10 i.value).length - (Nat.toDigits 10 i.unit).length
  if i.unit * power 10 e.toNat ≤ i.value * power 10 (-e).toNat then e else e - 1

/-- The neighbour of the value on the grid of the multiples of `10 ^ k` that lies in the interval,
and of two the nearer. -/
def onGrid? (tie : Tie) (i : Interval) (k : Int) : Option Nat :=
  let up := power 10 k.toNat
  let down := power 10 (-k).toNat
  let d := i.value * down / (i.unit * up)
  match i.holds (d * up) down, i.holds ((d + 1) * up) down with
  | true, false => some d
  | false, true => some (d + 1)
  | false, false => none
  | true, true =>
    let twice := 2 * i.value * down
    let middle := (2 * d + 1) * (i.unit * up)
    if twice < middle ∨ (twice = middle ∧ tie.takesLower d) then some d else some (d + 1)

/-- The first grid with a point in the interval, from `k` on to finer ones. -/
def search (tie : Tie) (i : Interval) : Nat → Int → Nat × Int
  | 0, k => (i.value * power 10 (-k).toNat / (i.unit * power 10 k.toNat), k)
  | fuel + 1, k =>
    match i.onGrid? tie k with
    | some d => (d, k)
    | none => search tie i fuel (k - 1)

end Interval

/-- Moves trailing zeros into the exponent; there are at most `fuel` of them. -/
def dropZeros : Nat → Nat × Int → Nat × Int
  | 0, p => p
  | fuel + 1, (d, k) => if d ≠ 0 ∧ d % 10 = 0 then dropZeros fuel (d / 10, k + 1) else (d, k)

/-- The shortest decimal of a finite double. Seventeen digits always suffice. -/
def shortest (tie : Tie) (x : Float) : Scientific :=
  let (m, q) := floatParts x
  let negative := x.toBits.toNat / power 2 63 = 1
  if m = 0 then ⟨negative, 0, 0⟩
  else
    let i := Interval.ofParts m q
    let (digits, exponent) := dropZeros 17 (i.search tie 17 i.magnitude)
    ⟨negative, digits, exponent⟩

end RowGate.Decimal
