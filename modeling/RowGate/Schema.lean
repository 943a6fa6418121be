import RowGate.ColumnPath
import RowGate.Query.Basic
import RowGate.Query.Error

/-! # Table metadata

Metadata tells which columns exist and of which type they are.
-/

namespace RowGate

structure ColumnInfo where
  name : String
  dataType : String
  nullable : Bool := false
  primaryKey : Bool := false
deriving DecidableEq, Repr

namespace ColumnInfo

/-- A column that may be null and is no key. -/
def ofType (name dataType : String) : ColumnInfo := { name, dataType, nullable := true }

def asNotNull (c : ColumnInfo) : ColumnInfo := { c with nullable := false }

def asPrimaryKey (c : ColumnInfo) : ColumnInfo := { c with primaryKey := true, nullable := false }

/-- Letters, digits, underscores, blanks, points and square brackets, and in parentheses digits,
commas and blanks; the flag says whether a parenthesis is open. -/
def isTypeText : Bool → List Char → Bool
  | opened, [] => !opened
  | true, c :: s =>
    if c = ')' then isTypeText false s
    else (c.isDigit || c == ',' || c == ' ') && isTypeText true s
  | false, c :: s =>
    if c = '(' then isTypeText true s
    else (c.isAlphanum || c == '_' || c == ' ' || c == '.' || c == '[' || c == ']') &&
      isTypeText false s

def typeText (c : ColumnInfo) : List Char := Text.trim c.dataType.toList

/-- The type as a placeholder may be cast to it. The words that stand for an array or for a type of
the user's own, and anything that needs quotes, are no such type. -/
def castType? (c : ColumnInfo) : Option String :=
  let t := String.ofList c.typeText
  if t = "" ∨ t = "ARRAY" ∨ t = "USER-DEFINED" then none
  else if isTypeText false c.typeText then some t
  else none

def isArray (c : ColumnInfo) : Bool :=
  String.ofList c.typeText = "ARRAY" || c.typeText.getLast? = some ']'

end ColumnInfo

structure TableInfo where
  schema : String
  name : String
  columns : List ColumnInfo := []
deriving DecidableEq, Repr

namespace TableInfo

def column? (t : TableInfo) (name : String) : Option ColumnInfo :=
  t.columns.find? fun c => c.name = name

def hasColumn (t : TableInfo) (name : String) : Bool := (t.column? name).isSome

/-- Checks that the root column of a reference exists. -/
def checkColumn (t : TableInfo) (raw : String) : Except ValidationError Unit :=
  match ColumnPath.ofString raw with
  | .error f => .error (.invalidIdentifier f)
  | .ok p => if t.hasColumn p.column.name then .ok () else .error (.unknownColumn p.column.name)

def checkColumns (t : TableInfo) : List String → Except ValidationError Unit
  | [] => .ok ()
  | c :: cs => do t.checkColumn c; t.checkColumns cs

def primaryKey (t : TableInfo) : List ColumnInfo := t.columns.filter fun c => c.primaryKey

end TableInfo

/-- The names of output columns that an order term may use: the aggregates' and the aliases. -/
def Query.outputNames (q : Query) : List String :=
  q.aggregations.map Aggregation.outputAlias ++ q.select.filterMap (·.label)

/-- The column references of a query, in the order in which they are checked. -/
def Query.references (q : Query) : List String :=
  q.plainColumns.map (·.column) ++ q.filters.map (·.column) ++ q.groupBy ++
    q.aggregations.filterMap (·.column) ++
    (q.order.map (·.column)).filter fun c => !q.outputNames.contains c

/-- Checks that every column of a query exists. -/
def TableInfo.validate (t : TableInfo) (q : Query) : Except ValidationError Unit :=
  t.checkColumns q.references

/-- Tables by their names. -/
structure Catalog where
  tables : List TableInfo := []
deriving DecidableEq, Repr

namespace Catalog

/-- The catalog with one more table, instead of its namesake if there is one. -/
def insert (c : Catalog) (t : TableInfo) : Catalog :=
  ⟨t :: c.tables.filter fun u => u.name ≠ t.name⟩

def table? (c : Catalog) (name : String) : Option TableInfo :=
  c.tables.find? fun t => t.name = name

def size (c : Catalog) : Nat := c.tables.length

def isEmpty (c : Catalog) : Bool := c.tables.isEmpty

end Catalog

end RowGate
