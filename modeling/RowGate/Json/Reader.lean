import RowGate.Decimal.Scientific
import RowGate.Json.Basic

/-! # Reading JSON

The grammar of RFC 8259, with a bound on nesting. Numbers outside the range of 64-bit integers are
doubles: their leading digits, as many as 64 bits hold, are scaled by a power of ten in floating
point. A double too large for its type is an error.
-/

namespace RowGate.Json

open Decimal

/-- Documents nested deeper than this are refused. -/
def maxDepth : Nat := 127

def isSpace (c : Char) : Bool := c == ' ' || c == '\n' || c == '\t' || c == '\r'

def skipSpace (s : List Char) : List Char := s.dropWhile isSpace

/-- Continues a significand with digits as long as 64 bits hold it, and returns the digits that it
no longer takes. -/
def takeDigits : Nat → List Char → Nat × List Char
  | n, [] => (n, [])
  | n, c :: s =>
    let next := 10 * n + (c.toNat - 48)
    if next ≤ maxUInt64 then takeDigits next s else (n, c :: s)

def powerOfTen (e : Nat) : Float := Float.ofScientific 1 false e

/-- Divides by `10 ^ e`, in steps of the greatest power of ten that a double holds. -/
def scaleDown (x : Float) (e : Nat) : Float :=
  if e ≤ 308 then x / powerOfTen e
  else if x == 0 then x
  else scaleDown (x / powerOfTen 308) (e - 308)
termination_by e

/-- The number `significand * 10 ^ exponent`; none if it is too large for a double. -/
def scale? (significand : Nat) (exponent : Int) : Option Float :=
  let x := Float.ofNat significand
  if significand = 0 then some 0
  else if exponent < 0 then some (scaleDown x exponent.natAbs)
  else if exponent > 308 then none
  else
    let x := x * powerOfTen exponent.toNat
    if x.isFinite then some x else none

/-- The value of a number with a point, an exponent or too many digits. -/
def floatOf? (whole fraction : List Char) (exponent : Int) : Option Float :=
  let (n, dropped) := takeDigits 0 whole
  let (n, ignored) := takeDigits n fraction
  scale? n (exponent + dropped.length - (fraction.length - ignored.length : Nat))

/-- The digits before the point: a zero stands alone. -/
def readWhole? : List Char → Option (List Char × List Char)
  | '0' :: s => match s with
    | c :: _ => if c.isDigit then none else some (['0'], s)
    | [] => some (['0'], s)
  | s => match spanDigits s with
    | ([], _) => none
    | p => some p

/-- The digits after the point, if there is one; it needs digits. -/
def readPlaces? : List Char → Option (List Char × List Char)
  | '.' :: s => match spanDigits s with
    | ([], _) => none
    | p => some p
  | s => some ([], s)

/-- The exponent, if there is one. -/
def readPower? : List Char → Option (Option Int × List Char)
  | c :: s =>
    if c = 'e' ∨ c = 'E' then
      let (negative, s) := readSign s
      match spanDigits s with
      | ([], _) => none
      | (ds, s) => some (some (if negative then -(digitsValue ds : Int) else digitsValue ds), s)
    else some (none, c :: s)
  | [] => some (none, [])

def readNumber? (s : List Char) : Option (Number × List Char) := do
  let (negative, s) := match s with
    | '-' :: s => (true, s)
    | s => (false, s)
  let (whole, s) ← readWhole? s
  let (places, s) ← readPlaces? s
  let (power, s) ← readPower? s
  let n : Int := digitsValue whole
  if places.isEmpty && power.isNone then
    if !negative && n ≤ maxUInt64 then return (.int n, s)
    if negative && 0 < n && fitsInt64 (-n) then return (.int (-n), s)
  let x ← floatOf? whole places (power.getD 0)
  return (.float (if negative then -x else x), s)

def hexDigit? (c : Char) : Option Nat :=
  if c.isDigit then some (c.toNat - 48)
  else if 'a' ≤ c ∧ c ≤ 'f' then some (c.toNat - 87)
  else if 'A' ≤ c ∧ c ≤ 'F' then some (c.toNat - 55)
  else none

/-- Four hexadecimal digits. -/
def readUnit? : List Char → Option (Nat × List Char)
  | a :: b :: c :: d :: s => do
    let a ← hexDigit? a
    let b ← hexDigit? b
    let c ← hexDigit? c
    let d ← hexDigit? d
    return (((a * 16 + b) * 16 + c) * 16 + d, s)
  | _ => none

/-- The character behind `\u`: a code unit, or two that form a surrogate pair. -/
def readCodePoint? (s : List Char) : Option (Char × List Char) := do
  let (u, s) ← readUnit? s
  if 0xDC00 ≤ u ∧ u ≤ 0xDFFF then none
  else if 0xD800 ≤ u ∧ u ≤ 0xDBFF then
    match s with
    | '\\' :: 'u' :: s =>
      let (v, s) ← readUnit? s
      if 0xDC00 ≤ v ∧ v ≤ 0xDFFF then
        return (Char.ofNat (0x10000 + (u - 0xD800) * 0x400 + (v - 0xDC00)), s)
      else none
    | _ => none
  else return (Char.ofNat u, s)

def simpleEscape? : Char → Option Char
  | '"' => some '"'
  | '\\' => some '\\'
  | '/' => some '/'
  | 'b' => some '\x08'
  | 'f' => some '\x0c'
  | 'n' => some '\n'
  | 'r' => some '\r'
  | 't' => some '\t'
  | _ => none

/-- The text of a string up to its closing quote. The fuel is at least the length of the input, as
in the readers below. -/
def readText? : Nat → List Char → Option (List Char × List Char)
  | 0, _ => none
  | fuel + 1, s => match s with
    | [] => none
    | '"' :: s => some ([], s)
    | '\\' :: 'u' :: s => do
      let (c, s) ← readCodePoint? s
      let (t, s) ← readText? fuel s
      return (c :: t, s)
    | '\\' :: e :: s => do
      let c ← simpleEscape? e
      let (t, s) ← readText? fuel s
      return (c :: t, s)
    | c :: s =>
      if c.toNat < 0x20 ∨ c = '\\' then none
      else (readText? fuel s).map fun p => (c :: p.1, p.2)

/-- The rest after a word. -/
def readWord? (word : String) (value : Json) (s : List Char) : Option (Json × List Char) :=
  let n := word.toList.length
  if s.take n = word.toList then some (value, s.drop n) else none

mutual

/-- A document, and what follows it. -/
def readValue? : Nat → Nat → List Char → Option (Json × List Char)
  | 0, _, _ => none
  | fuel + 1, depth, s => match skipSpace s with
    | 'n' :: s => readWord? "null" null ('n' :: s)
    | 't' :: s => readWord? "true" (bool true) ('t' :: s)
    | 'f' :: s => readWord? "false" (bool false) ('f' :: s)
    | '"' :: s => (readText? (s.length + 1) s).map fun p => (string (String.ofList p.1), p.2)
    | '[' :: s =>
      if depth = 0 then none
      else match skipSpace s with
        | ']' :: s => some (array [], s)
        | s => (readItems? fuel (depth - 1) s).map fun p => (array p.1, p.2)
    | '{' :: s =>
      if depth = 0 then none
      else match skipSpace s with
        | '}' :: s => some (object [], s)
        | s => (readMembers? fuel (depth - 1) s).map fun p => (ofMembers p.1, p.2)
    | s => (readNumber? s).map fun p => (number p.1, p.2)

/-- The items of an array up to its closing bracket. -/
def readItems? : Nat → Nat → List Char → Option (List Json × List Char)
  | 0, _, _ => none
  | fuel + 1, depth, s =>
    match readValue? fuel depth s with
    | none => none
    | some (v, s) => match skipSpace s with
      | ',' :: s => (readItems? fuel depth s).map fun p => (v :: p.1, p.2)
      | ']' :: s => some ([v], s)
      | _ => none

/-- The members of an object up to its closing brace. -/
def readMembers? : Nat → Nat → List Char → Option (List (String × Json) × List Char)
  | 0, _, _ => none
  | fuel + 1, depth, s => match skipSpace s with
    | '"' :: s => match readText? (s.length + 1) s with
      | none => none
      | some (k, s) => match skipSpace s with
        | ':' :: s => match readValue? fuel depth s with
          | none => none
          | some (v, s) =>
            let m := (String.ofList k, v)
            match skipSpace s with
            | ',' :: s => (readMembers? fuel depth s).map fun p => (m :: p.1, p.2)
            | '}' :: s => some ([m], s)
            | _ => none
        | _ => none
    | _ => none

end

/-- The document that a text holds, nested to at most `depth` levels. -/
def parseWithin? (depth : Nat) (s : List Char) : Option Json :=
  match readValue? (2 * s.length + 2) depth s with
  | some (v, rest) => if (skipSpace rest).isEmpty then some v else none
  | none => none

def parse? (s : List Char) : Option Json := parseWithin? maxDepth s

end RowGate.Json
