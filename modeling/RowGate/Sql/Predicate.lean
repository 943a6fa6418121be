import RowGate.Json.Reader
import RowGate.Schema

/-! # Predicates

The SQL condition of a filter. Values are bound, never written; the placeholder of a value that is
compared with a column of known type is cast to that type.
-/

namespace RowGate

/-- A distance and a geometry, separated by the first comma. -/
def readGeoValue (raw : String) : Except ValidationError (Float × String) :=
  match Text.cutFirst ',' raw.toList with
  | none => .error (.invalidGeoFilter .shape)
  | some (distance, geometry) =>
    let distance := Text.trim distance
    let geometry := Text.trim geometry
    let refused := .error (.invalidGeoFilter (.distance (String.ofList distance)))
    match Decimal.readFloat? distance with
    | none => refused
    | some x =>
      if !x.isFinite then refused
      else if x < 0 then .error (.negativeDistance x)
      else if geometry = [] then .error (.invalidGeoFilter .missingGeometry)
      else match Json.parse? geometry with
        | none => .error (.invalidGeoFilter .malformedGeometry)
        | some v =>
          if v.isObject then .ok (x, String.ofList geometry)
          else .error (.invalidGeoFilter .geometryKind)

/-- The text of a document that is a single value. -/
def documentText (f : Fragment) : Fragment :=
  .fixed "(" :: f ++ [.fixed " #>> ", .key "\x7b\x7d", .fixed ")"]

def castNumeric (f : Fragment) : Fragment := f.paren ++ [.fixed "::numeric"]

namespace FilterValue

/-- The text of a single value, empty where there is none. -/
def textOrEmpty (v : FilterValue) : String := v.text?.getD ""

/-- The document that a value is compared with: a text that is JSON stands for what it holds. -/
def document : FilterValue → Json
  | string s => (Json.parse? s.toList).getD (.string s)
  | number n => .number n
  | bool b => .bool b
  | null | strings _ => .null

def asNumeric : FilterValue → SqlValue
  | number n => .ofNumber n
  | v => (SqlValue.numeric? v.textOrEmpty.toList).getD (.text v.textOrEmpty)

def asScalar : FilterValue → SqlValue
  | number n => .ofNumber n
  | bool b => .boolean b
  | v => .text v.textOrEmpty

end FilterValue

/-- The left side of a comparison and the value on its right. Text taken from a document is compared
as a number where the operator asks for an order and the value looks numeric. -/
def comparisonOperands (p : ColumnPath) (op : Operator) (v : FilterValue) : Fragment × SqlValue :=
  if p.extractsText && op.isOrdering && v.isNumeric then (castNumeric p.fragment, v.asNumeric)
  else if p.extractsJson then
    if op.isPattern then (documentText p.fragment, .text v.textOrEmpty)
    else (p.fragment, .json v.document)
  else if p.isJson then (p.fragment, .text v.textOrEmpty)
  else (p.fragment, v.asScalar)

namespace Filter

def refuse (f : Filter) (fault : ValueFault) : Except QueryError Fragment :=
  .error (.validation (.invalidValue f.column f.operator.keyword fault))

/-- `IS NULL`, or a comparison with a truth value that null does not pass. -/
def isFragment (f : Filter) (p : ColumnPath) : Except QueryError Fragment :=
  match f.value with
  | .null => .ok (p.fragment ++ [.fixed " IS NULL"])
  | .bool b => .ok (p.fragment ++ [.fixed " IS NOT DISTINCT FROM ", .bound (.boolean b) none])
  | _ => f.refuse .truthOperand

/-- The items of the list that a value stands for. -/
def listItems? : FilterValue → Option (List String)
  | .strings items => some items
  | .string s => some ((Text.pieces ',' s.toList).map fun p => String.ofList (Text.trim p))
  | .number n => some [n.text]
  | .bool _ | .null => none

/-- Membership in a list, bound as one array. -/
def inFragment (f : Filter) (p : ColumnPath) (column : Option ColumnInfo) :
    Except QueryError Fragment :=
  match listItems? f.value with
  | none => f.refuse .listOperand
  | some items =>
    let left := if p.extractsJson then documentText p.fragment else p.fragment
    let type := (column.filter fun c => !c.isArray).bind ColumnInfo.castType?
    .ok (left ++ [.fixed " = ANY(", .bound (.textArray items) (type.map (· ++ "[]")), .fixed ")"])

/-- Nearness to a geometry. -/
def geoFragment (f : Filter) (p : ColumnPath) : Except QueryError Fragment :=
  match f.value with
  | .string raw => match readGeoValue raw with
    | .error e => .error (.validation e)
    | .ok (distance, geometry) =>
      .ok (.fixed "ST_DWithin(" :: p.fragment ++
        [.fixed ", ST_GeomFromGeoJSON(", .bound (.text geometry) none, .fixed "), ",
          .bound (.float distance) none, .fixed ")"])
  | _ => .error (.validation (.invalidGeoFilter .shape))

/-- A comparison of two operands. Patterns stay text. -/
def binaryFragment (f : Filter) (p : ColumnPath) (column : Option ColumnInfo) (symbol : String) :
    Except QueryError Fragment :=
  match f.value with
  | .null => match f.operator with
    | .eq => .ok (p.fragment ++ [.fixed " IS NULL"])
    | .neq => .ok (p.fragment ++ [.fixed " IS NOT NULL"])
    | _ => f.refuse .nullOperand
  | .strings _ => f.refuse .listRefused
  | v =>
    let (left, value) := comparisonOperands p f.operator v
    let type := (column.filter fun _ => !f.operator.isPattern).bind ColumnInfo.castType?
    .ok (left ++ [.fixed (" " ++ symbol ++ " "), .bound value type])

/-- The metadata of the column that a path names, if it leads into no document. -/
def columnOf (table : Option TableInfo) (p : ColumnPath) : Option ColumnInfo :=
  if p.isJson then none else table.bind fun t => t.column? p.column.name

/-- The condition of a filter. -/
def fragment (table : Option TableInfo) (f : Filter) : Except QueryError Fragment :=
  match ColumnPath.ofString f.column with
  | .error e => .error (.ofName e)
  | .ok p =>
    let column := columnOf table p
    match f.operator with
    | .is => f.isFragment p
    | .oneOf => f.inFragment p column
    | .stDWithin => f.geoFragment p
    | op => match op.sql? with
      | some symbol => f.binaryFragment p column symbol
      | none =>
        .error (.compile (.invariant ("operator " ++ op.keyword ++ " has no binary form")))

end Filter

end RowGate
