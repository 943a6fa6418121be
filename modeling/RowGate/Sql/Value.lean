import RowGate.Json.Printer
import RowGate.Text.Blank
import RowGate.Text.Cut

/-! # Bound values

The values that statements carry beside their text, and their forms in JSON.
-/

namespace RowGate

/-- A positional argument of a statement. A vector is bound as text and cast by its placeholder. -/
inductive SqlValue where
  | text (s : String)
  | integer (n : Int)
  | float (x : Float)
  | boolean (b : Bool)
  | textArray (items : List String)
  | json (v : Json)
  | vector (literal : String)
  | null
deriving DecidableEq, Repr

/-- The literal `[x,y,…]` of the parts of a vector. -/
def vectorLiteral (parts : List String) : String := "[" ++ ",".intercalate parts ++ "]"

/-- The vector literal of a comma-separated text. Brackets around it may be missing or repeated, and
empty parts are dropped. -/
def vectorOfText (s : List Char) : String :=
  let opened := (Text.trim s).dropWhile (· == '[')
  let inner := (opened.reverse.dropWhile (· == ']')).reverse
  let parts := ((Text.pieces ',' inner).map Text.trim).filter fun p => !p.isEmpty
  vectorLiteral (parts.map String.ofList)

/-- The vector literal of a list of whole numbers. -/
def vectorOfInts (xs : List Int) : String := vectorLiteral (xs.map toString)

/-- The vector literal of a list of doubles. -/
def vectorOfFloats (xs : List Float) : String :=
  vectorLiteral (xs.map Decimal.Layout.plain.text)

/-- A number or a text that is not blank, as a part of a vector. -/
def vectorPart? : Json → Option String
  | .number n => some n.text
  | .string s =>
    let t := Text.trim s.toList
    if t.isEmpty then none else some (String.ofList t)
  | _ => none

/-- The vector literal of a text, a number or an array of both; of anything else it is empty. -/
def vectorOfJson : Json → String
  | .string s => vectorOfText s.toList
  | .number n => vectorLiteral [n.text]
  | .array items => vectorLiteral (items.filterMap vectorPart?)
  | _ => vectorLiteral []

namespace SqlValue

/-- A number, as an integer where 64 bits with a sign hold it. -/
def ofNumber : Json.Number → SqlValue
  | .int n => if Decimal.fitsInt64 n then integer n else float (Float.ofInt n)
  | .float x => float x

/-- A member of a row. -/
def ofJson : Json → SqlValue
  | .null => null
  | .bool b => boolean b
  | .number n => ofNumber n
  | .string s => text s
  | .array items => json (.array items)
  | .object members => json (.object members)

def ofVectorJson (v : Json) : SqlValue := vector (vectorOfJson v)

def isVector : SqlValue → Bool
  | vector _ => true
  | _ => false

def toJson : SqlValue → Json
  | text s => .string s
  | vector s => .string s
  | integer n => .ofInt n
  | float x => .ofFloat x
  | boolean b => .bool b
  | textArray items => .ofStrings items
  | json v => v
  | null => .null

end SqlValue

/-- The columns of a row object and their values. -/
def rowValues : List (String × Json) → List (String × SqlValue) :=
  List.map fun m => (m.1, SqlValue.ofJson m.2)

end RowGate
