import RowGate.Decimal.Scientific
import RowGate.Decimal.Layout
import RowGate.Json.Basic

/-! # Reading fields

Records, numbers, texts and flags out of documents. A strict reading takes values of the right kind
only; a lenient one, for files and environment variables, converts between them.
-/

namespace RowGate

inductive Reading where
  | strict
  | lenient
deriving DecidableEq, Repr

namespace Reading

/-- The fields of a record: the members of an object, or the items of an array in the order of the
names. Items may be missing at the end; a strict reading refuses items left over. -/
def fields? (mode : Reading) (names : List String) : Json → Option (List (Option Json))
  | .object ms => some (names.map fun n => ms.lookup n)
  | .array items =>
    if mode = .strict ∧ names.length < items.length then none
    else some ((List.range names.length).map fun i => items[i]?)
  | _ => none

/-- A field that may be missing. -/
def orDefault {α : Type} (read : Json → Option α) (default : α) : Option Json → Option α
  | none => some default
  | some v => read v

/-- A field that may be null. -/
def nullable {α : Type} (read : Json → Option α) : Json → Option (Option α)
  | .null => some none
  | v => (read v).map some

/-- The words for true and false, in any case. -/
def wordFlag? (s : String) : Option Bool :=
  match s.map Char.toLower with
  | "true" | "on" | "yes" => some true
  | "false" | "off" | "no" => some false
  | _ => none

/-- The integer nearest to a double, away from zero on a tie. -/
def roundFloat? (x : Float) : Option Int :=
  if !x.isFinite then none
  else
    let (m, q) := Decimal.floatParts x
    let unit := Decimal.power 2 q.natAbs
    let n := if 0 ≤ q then m * unit else (2 * m + unit) / (2 * unit)
    some (if x < 0 then -(n : Int) else n)

/-- An integer that passes a test of its range; `read` reads one from a text. -/
def integer? (mode : Reading) (read : List Char → Option Int) (fits : Int → Bool) (v : Json) :
    Option Int :=
  let n := match mode, v with
    | _, .number (.int n) => some n
    | .lenient, .number (.float x) => roundFloat? x
    | .lenient, .bool b => some (if b then 1 else 0)
    | .lenient, .string s => match wordFlag? s with
      | some b => some (if b then 1 else 0)
      | none => read s.toList
    | _, _ => none
  n.filter fits

def int64? (mode : Reading) : Json → Option Int :=
  integer? mode Decimal.readInt? Decimal.fitsInt64

def unsignedText? (s : List Char) : Option Int := (Decimal.readUInt64? s).map Int.ofNat

def uint64? (mode : Reading) (v : Json) : Option Nat :=
  (integer? mode unsignedText? Decimal.fitsUInt64 v).map Int.toNat

def uint32? (mode : Reading) (v : Json) : Option Nat :=
  (integer? mode unsignedText? Decimal.fitsUInt32 v).map Int.toNat

def text? (mode : Reading) (v : Json) : Option String :=
  match mode, v with
  | _, .string s => some s
  | .lenient, .bool b => some (if b then "true" else "false")
  | .lenient, .number (.int n) => some (toString n)
  | .lenient, .number (.float x) => some (Decimal.Layout.plain.text x)
  | _, _ => none

def flag? (mode : Reading) (v : Json) : Option Bool :=
  match mode, v with
  | _, .bool b => some b
  | .lenient, .number (.int n) => some (n ≠ 0)
  | .lenient, .number (.float x) => some !(x == 0)
  | .lenient, .string s =>
    if s = "1" then some true else if s = "0" then some false else wordFlag? s
  | _, _ => none

end Reading

end RowGate
