import RowGate.Decimal.Scientific
import RowGate.Json.Basic

/-! # TOML scalars

Numbers, truth values and dates. A date is kept as its text.
-/

namespace RowGate.Toml

open Decimal

/-- Digits of a base, with single underscores between them; without the underscores. -/
def plainDigits? (isDigit : Char → Bool) (s : List Char) : Option (List Char) :=
  let rec go : Bool → List Char → Option (List Char)
    | afterDigit, [] => if afterDigit then some [] else none
    | afterDigit, c :: s =>
      if c = '_' then if afterDigit then go false s else none
      else if isDigit c then (go true s).map (c :: ·)
      else none
  go false s

def digitOf (c : Char) : Nat :=
  if c.isDigit then c.toNat - 48
  else if 'a' ≤ c ∧ c ≤ 'f' then c.toNat - 87
  else c.toNat - 55

def baseValue (base : Nat) (s : List Char) : Nat := s.foldl (fun n c => base * n + digitOf c) 0

def isHexDigit (c : Char) : Bool := c.isDigit || ('a' ≤ c && c ≤ 'f') || ('A' ≤ c && c ≤ 'F')

/-- The digits before a point: no zero leads them. -/
def wholeDigits? (s : List Char) : Option (List Char) := do
  let ds ← plainDigits? Char.isDigit s
  if ds.length > 1 && ds.head? = some '0' then none else some ds

def integer? (s : List Char) : Option Int :=
  let n? : Option Int := match s with
    | '0' :: 'x' :: s => (plainDigits? isHexDigit s).map fun ds => baseValue 16 ds
    | '0' :: 'o' :: s =>
      (plainDigits? (fun c => '0' ≤ c && c ≤ '7') s).map fun ds => baseValue 8 ds
    | '0' :: 'b' :: s =>
      (plainDigits? (fun c => c == '0' || c == '1') s).map fun ds => baseValue 2 ds
    | s =>
      let (negative, s) := readSign s
      (wholeDigits? s).map fun ds => if negative then -(digitsValue ds : Int) else digitsValue ds
  n?.filter fitsInt64

def spanNumber (s : List Char) : List Char × List Char := s.span fun c => c.isDigit || c == '_'

def float? (s : List Char) : Option Float := do
  let (negative, s) := readSign s
  if s = "inf".toList then return if negative then -1 / 0 else 1 / 0
  if s = "nan".toList then return 0 / 0
  let (whole, s) := spanNumber s
  let whole ← wholeDigits? whole
  let (places, s) ← match s with
    | '.' :: s =>
      let (places, s) := spanNumber s
      (plainDigits? Char.isDigit places).map fun ds => (ds, s)
    | s => some ([], s)
  let exponent : Int ← match s with
    | [] => if places = [] then none else some 0
    | c :: s =>
      if c = 'e' ∨ c = 'E' then
        let (down, s) := readSign s
        (plainDigits? Char.isDigit s).map fun ds =>
          if down then -(digitsValue ds : Int) else digitsValue ds
      else none
  let x := Scientific.toFloat ⟨negative, digitsValue (whole ++ places), exponent - places.length⟩
  if x.isFinite then some x else none

/-- A number of exactly two digits within bounds. -/
def twoDigits? (low high : Nat) : List Char → Option (Nat × List Char)
  | a :: b :: s =>
    if a.isDigit && b.isDigit then
      let n := 10 * digitOf a + digitOf b
      if low ≤ n ∧ n ≤ high then some (n, s) else none
    else none
  | _ => none

def skip? (c : Char) : List Char → Option (List Char)
  | d :: s => if c = d then some s else none
  | [] => none

def isLeapYear (y : Nat) : Bool := y % 4 == 0 && (y % 100 != 0 || y % 400 == 0)

def daysOf (year month : Nat) : Nat :=
  if month = 2 then (if isLeapYear year then 29 else 28)
  else if month = 4 ∨ month = 6 ∨ month = 9 ∨ month = 11 then 30
  else 31

def twoText (n : Nat) : List Char := if n < 10 then '0' :: Nat.toDigits 10 n else Nat.toDigits 10 n

/-- `YYYY-MM-DD`. -/
def date? (s : List Char) : Option (List Char × List Char) := do
  let (century, s) ← twoDigits? 0 99 s
  let (year, s) ← twoDigits? 0 99 s
  let s ← skip? '-' s
  let (month, s) ← twoDigits? 1 12 s
  let s ← skip? '-' s
  let (day, s) ← twoDigits? 1 (daysOf (100 * century + year) month) s
  return (twoText century ++ twoText year ++ '-' :: twoText month ++ '-' :: twoText day, s)

/-- The fraction of a second, to nine places and without trailing zeros but a leading one. -/
def fractionText (ds : List Char) : List Char :=
  match ((ds.take 9).reverse.dropWhile (· == '0')).reverse with
  | [] => ['.', '0']
  | ds => '.' :: ds

/-- A point and a fraction of a second, if there is one. -/
def fraction? : List Char → Option (List Char × List Char)
  | '.' :: s => match spanDigits s with
    | ([], _) => none
    | (ds, s) => some (fractionText ds, s)
  | s => some ([], s)

/-- A colon and seconds with or without a fraction, if there are any. -/
def seconds? : List Char → Option (List Char × List Char)
  | ':' :: s => do
    let (second, s) ← twoDigits? 0 60 s
    let (fraction, s) ← fraction? s
    return (':' :: twoText second ++ fraction, s)
  | s => some ([], s)

/-- `HH:MM` or `HH:MM:SS`, the latter with a fraction if it has one. -/
def time? (s : List Char) : Option (List Char × List Char) := do
  let (hour, s) ← twoDigits? 0 23 s
  let s ← skip? ':' s
  let (minute, s) ← twoDigits? 0 59 s
  let (seconds, s) ← seconds? s
  return (twoText hour ++ ':' :: twoText minute ++ seconds, s)

/-- The distance to universal time, if it is given. No distance counts as one to the east. -/
def offset? : List Char → Option (List Char × List Char)
  | [] => some ([], [])
  | 'Z' :: s | 'z' :: s => some (['Z'], s)
  | c :: s =>
    if c = '+' ∨ c = '-' then do
      let (hour, s) ← twoDigits? 0 23 s
      let s ← skip? ':' s
      let (minute, s) ← twoDigits? 0 59 s
      let sign := if hour = 0 ∧ minute = 0 then '+' else c
      return (sign :: twoText hour ++ ':' :: twoText minute, s)
    else none

/-- A date, a time, or both with or without an offset. -/
def dateTime? (s : List Char) : Option (List Char) :=
  match date? s with
  | some (date, []) => some date
  | some (date, c :: s) =>
    if c = 'T' ∨ c = 't' ∨ c = ' ' then do
      let (time, s) ← time? s
      let (offset, s) ← offset? s
      if s = [] then some (date ++ 'T' :: time ++ offset) else none
    else none
  | none => match time? s with
    | some (time, []) => some time
    | _ => none

/-- A scalar other than a string. -/
def scalar? (s : List Char) : Option Json :=
  if s = "true".toList then some (.bool true)
  else if s = "false".toList then some (.bool false)
  else match integer? s with
    | some n => some (.ofInt n)
    | none => match float? s with
      | some x => some (.number (.float x))
      | none => (dateTime? s).map fun t => .string (String.ofList t)

/-- The characters of a scalar. -/
def isScalarChar (c : Char) : Bool :=
  c.isAlphanum || c == '+' || c == '-' || c == '.' || c == '_' || c == ':'

/-- A scalar, and what follows it. A blank may stand between a date and a time. -/
def readScalar? (s : List Char) : Option (Json × List Char) :=
  let (word, rest) := s.span isScalarChar
  let (word, rest) := match date? word, rest with
    | some (_, []), ' ' :: c :: more =>
      if c.isDigit then
        let (time, rest) := (c :: more).span isScalarChar
        (word ++ ' ' :: time, rest)
      else (word, rest)
    | _, _ => (word, rest)
  (scalar? word).map fun v => (v, rest)

end RowGate.Toml
