/-! # Decimal integers -/

namespace RowGate.Decimal

/-- The number that a text of decimal digits denotes. -/
def digitsValue (s : List Char) : Nat := s.foldl (fun n c => 10 * n + (c.toNat - 48)) 0

/-- A power of a whole number. -/
def power (base n : Nat) : Nat := Nat.pow base n

def readNat? (s : List Char) : Option Nat :=
  if !s.isEmpty && s.all Char.isDigit then some (digitsValue s) else none

/-- Digits behind an optional sign. -/
def readInt? : List Char → Option Int
  | '+' :: s => (readNat? s).map Int.ofNat
  | '-' :: s => (readNat? s).map fun n => -Int.ofNat n
  | s => (readNat? s).map Int.ofNat

def maxInt64 : Int := 9223372036854775807

def maxUInt64 : Nat := 18446744073709551615

def maxUInt32 : Nat := 4294967295

def fitsInt64 (n : Int) : Bool := -maxInt64 - 1 ≤ n && n ≤ maxInt64

def fitsUInt64 (n : Int) : Bool := 0 ≤ n && n ≤ maxUInt64

def fitsUInt32 (n : Int) : Bool := 0 ≤ n && n ≤ maxUInt32

def readInt64? (s : List Char) : Option Int := (readInt? s).filter fitsInt64

/-- An unsigned number may carry a plus sign, but no minus sign, not even before zero. -/
def readUInt64? (s : List Char) : Option Nat :=
  let digits := match s with
    | '+' :: s => s
    | s => s
  (readNat? digits).filter fun n => n ≤ maxUInt64

end RowGate.Decimal
