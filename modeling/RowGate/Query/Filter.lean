import RowGate.Decimal.Scientific
import RowGate.Json.Printer
import RowGate.Sql.Value
import RowGate.Text.Blank
import RowGate.Text.Cut

/-! # Filters -/

namespace RowGate

inductive Operator where
  | eq | neq | gt | gte | lt | lte | like | ilike | is | oneOf | stDWithin
deriving DecidableEq, Repr

namespace Operator

def all : List Operator := [eq, neq, gt, gte, lt, lte, like, ilike, is, oneOf, stDWithin]

def keyword : Operator → String
  | eq => "eq"
  | neq => "neq"
  | gt => "gt"
  | gte => "gte"
  | lt => "lt"
  | lte => "lte"
  | like => "like"
  | ilike => "ilike"
  | is => "is"
  | oneOf => "in"
  | stDWithin => "st_dwithin"

/-- The operator with a keyword, in any case of its letters. -/
def ofKeyword? (s : List Char) : Option Operator :=
  all.find? fun op => op.keyword.toList = Text.lower s

/-- The SQL operator between two operands, where there is one. -/
def sql? : Operator → Option String
  | eq => some "="
  | neq => some "<>"
  | gt => some ">"
  | gte => some ">="
  | lt => some "<"
  | lte => some "<="
  | like => some "LIKE"
  | ilike => some "ILIKE"
  | is | oneOf | stDWithin => none

/-- Comparisons by order. -/
def isOrdering : Operator → Bool
  | gt | gte | lt | lte => true
  | _ => false

/-- Comparisons with a pattern. -/
def isPattern : Operator → Bool
  | like | ilike => true
  | _ => false

theorem ofKeyword?_keyword (op : Operator) : ofKeyword? op.keyword.toList = some op := by
  cases op <;> decide

end Operator

/-- The value that a filter compares with. -/
inductive FilterValue where
  | string (s : String)
  | number (n : Json.Number)
  | bool (b : Bool)
  | null
  | strings (items : List String)
deriving DecidableEq, Repr

/-- A text of digits, points, signs and exponent marks that denotes a finite double. -/
def looksNumeric (s : List Char) : Bool :=
  let t := Text.trim s
  t.any Char.isDigit &&
    t.all (fun c => c.isDigit || c == '.' || c == '-' || c == '+' || c == 'e' || c == 'E') &&
    match Decimal.readFloat? t with
    | some x => x.isFinite
    | none => false

/-- The number that a text denotes, as an integer where 64 bits with a sign hold it. -/
def SqlValue.numeric? (s : List Char) : Option SqlValue :=
  if looksNumeric s then
    let t := Text.trim s
    match Decimal.readInt64? t with
    | some n => some (.integer n)
    | none => (Decimal.readFloat? t).map .float
  else none

namespace FilterValue

/-- A number, or a text that looks like one. -/
def isNumeric : FilterValue → Bool
  | number _ => true
  | string s => looksNumeric s.toList
  | _ => false

/-- The text of a single value. -/
def text? : FilterValue → Option String
  | string s => some s
  | number n => some n.text
  | bool b => some (if b then "true" else "false")
  | null | strings _ => none

end FilterValue

/-- A condition on a column. Filters of one group are alternatives; all else has to hold
together. -/
structure Filter where
  column : String
  operator : Operator
  value : FilterValue
  group : Option Nat := none
deriving DecidableEq, Repr

end RowGate
