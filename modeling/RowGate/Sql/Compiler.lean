import RowGate.Sql.Clause
import RowGate.Sql.Where

/-! # Statements

Queries and changes of a table, compiled to SQL.
-/

namespace RowGate

/-- The greatest number of filters in a statement. -/
def maxFilters : Nat := 100

/-- The table that statements address, with its metadata if it is known. -/
structure Target where
  table : String
  schema : Option String := none
  info : Option TableInfo := none
deriving DecidableEq, Repr

/-- A name with a schema before it. The name is checked first. -/
def tableFragment (schema : Option String) (table : String) : Except QueryError Fragment := do
  let name ← readName table
  match schema with
  | some s => return [.name (← readName s), .fixed ".", .name name]
  | none => return [.name name]

def checkFilterCount (fs : List Filter) : Except QueryError Unit :=
  if maxFilters < fs.length then .error (.validation (.tooManyFilters fs.length maxFilters))
  else .ok ()

def liftValidation {α : Type} : Except ValidationError α → Except QueryError α
  | .ok a => .ok a
  | .error e => .error (.validation e)

/-- A hidden output column of a page: an expression, and the name it is sorted by from outside. -/
structure HiddenKey where
  expr : Fragment
  name : Identifier
deriving DecidableEq, Repr

namespace Target

def fragment (t : Target) : Except QueryError Fragment := tableFragment t.schema t.table

/-- Checks the columns of a query, if the metadata is known. -/
def validate (t : Target) (q : Query) : Except QueryError Unit :=
  match t.info with
  | some info => liftValidation (info.validate q)
  | none => .ok ()

def checkColumns (t : Target) (columns : List String) : Except QueryError Unit :=
  match t.info with
  | some info => liftValidation (info.checkColumns columns)
  | none => .ok ()

/-- The type that a placeholder assigned to a column is cast to. -/
def columnType? (t : Target) (column : String) : Option String :=
  (t.info.bind fun info => info.column? column).bind ColumnInfo.castType?

/-- A SELECT with hidden columns behind its own. -/
def selectWith (t : Target) (q : Query) (hidden : List HiddenKey) : Except QueryError Fragment := do
  checkFilterCount q.filters
  t.validate q
  let items ← selectClause q
  let hiddenItems := hidden.flatMap fun h =>
    Piece.fixed ", " :: h.expr ++ [.fixed " AS ", .name h.name]
  let table ← t.fragment
  let condition ← whereClause t.info q.filters
  let groups ← groupByClause q.groupingKeys
  let order ← orderByClause q.order
  return .fixed "SELECT " :: items ++ hiddenItems ++ .fixed " FROM " :: table ++ condition ++
    groups ++ order ++ pageClause q

def selectFragment (t : Target) (q : Query) : Except QueryError Fragment := t.selectWith q []

/-- The keys of the order terms from the `i`-th on. -/
def hiddenKeys (q : Query) : Nat → List OrderTerm → Except QueryError (List HiddenKey)
  | _, [] => .ok []
  | i, term :: terms => do
    let expr ← term.key q
    let name ← readName ("_order_" ++ toString i)
    let rest ← hiddenKeys q (i + 1) terms
    return ⟨expr, name⟩ :: rest

/-- The terms that sort a page from outside, by its hidden columns. -/
def outerOrder (order : List OrderTerm) (keys : List HiddenKey) : Fragment :=
  if order.isEmpty then []
  else .fixed " ORDER BY " ::
    Fragment.join ", " (List.zipWith (fun t k => t.fragment [.name k.name]) order keys)

/-- One document per row, in the order of the query. The keys of the order are selected under names
of their own, to sort the documents by, and are not part of them. -/
def rowsFragment (t : Target) (q : Query) : Except QueryError Fragment := do
  let keys ← hiddenKeys q 1 q.order
  let inner ← t.selectWith q keys
  let dropped := keys.flatMap fun k => [Piece.fixed " - ", .key k.name.name]
  return .fixed "SELECT to_jsonb(_rows)" :: dropped ++ .fixed " FROM (" :: inner ++
    .fixed ") AS _rows" :: outerOrder q.order keys

/-- The total of all pages: of rows, or of groups where the query has aggregates. -/
def countFragment (t : Target) (q : Query) : Except QueryError Fragment := do
  checkFilterCount q.filters
  t.validate q
  let table ← t.fragment
  let condition ← whereClause t.info q.filters
  if q.isAggregate then
    let groups ← groupByClause q.groupingKeys
    return .fixed "SELECT COUNT(*) AS total FROM (SELECT 1 FROM " :: table ++ condition ++ groups ++
      [.fixed ") AS _groups"]
  else return .fixed "SELECT COUNT(*) AS total FROM " :: table ++ condition

/-- The plan of the query without order, limit and offset. -/
def explainFragment (t : Target) (q : Query) : Except QueryError Fragment := do
  let f ← t.selectFragment { q with order := [], limit := none, offset := none }
  return .fixed "EXPLAIN (FORMAT JSON) " :: f

/-- A row to insert, or a row of defaults if it has no columns. -/
def insertFragment (t : Target) (row : List (String × SqlValue)) :
    Except QueryError Fragment := do
  let table ← t.fragment
  if row.isEmpty then
    return .fixed "INSERT INTO " :: table ++ [.fixed " DEFAULT VALUES RETURNING *"]
  else
    t.checkColumns (row.map (·.1))
    let names ← row.mapM fun p => readName p.1
    let columns := Fragment.join ", " (names.map fun i => [Piece.name i])
    let values := Fragment.join ", " (row.map fun p => [Piece.bound p.2 (t.columnType? p.1)])
    return .fixed "INSERT INTO " :: table ++ .fixed " (" :: columns ++ .fixed ") VALUES (" ::
      values ++ [.fixed ") RETURNING *"]

/-- An assignment of a value to a column. -/
def assignment (t : Target) (p : String × SqlValue) : Except QueryError Fragment := do
  let i ← readName p.1
  return [.name i, .fixed " = ", .bound p.2 (t.columnType? p.1)]

/-- New values for the rows that pass the filters. -/
def updateFragment (t : Target) (row : List (String × SqlValue)) (fs : List Filter) :
    Except QueryError Fragment := do
  if row.isEmpty then .error (.validation .emptyUpdate)
  checkFilterCount fs
  t.checkColumns (row.map (·.1) ++ fs.map (·.column))
  let assignments ← row.mapM t.assignment
  let table ← t.fragment
  let condition ← whereClause t.info fs
  return .fixed "UPDATE " :: table ++ .fixed " SET " :: Fragment.join ", " assignments ++
    condition ++ [.fixed " RETURNING *"]

/-- The removal of the rows that pass the filters. -/
def deleteFragment (t : Target) (fs : List Filter) : Except QueryError Fragment := do
  checkFilterCount fs
  t.checkColumns (fs.map (·.column))
  let table ← t.fragment
  let condition ← whereClause t.info fs
  return .fixed "DELETE FROM " :: table ++ condition ++ [.fixed " RETURNING *"]

def select (t : Target) (q : Query) : Except QueryError Statement :=
  (t.selectFragment q).map Fragment.statement

def rows (t : Target) (q : Query) : Except QueryError Statement :=
  (t.rowsFragment q).map Fragment.statement

def count (t : Target) (q : Query) : Except QueryError Statement :=
  (t.countFragment q).map Fragment.statement

def explain (t : Target) (q : Query) : Except QueryError Statement :=
  (t.explainFragment q).map Fragment.statement

def insert (t : Target) (row : List (String × SqlValue)) : Except QueryError Statement :=
  (t.insertFragment row).map Fragment.statement

def update (t : Target) (row : List (String × SqlValue)) (fs : List Filter) :
    Except QueryError Statement :=
  (t.updateFragment row fs).map Fragment.statement

def delete (t : Target) (fs : List Filter) : Except QueryError Statement :=
  (t.deleteFragment fs).map Fragment.statement

end Target

/-- A query over a table without schema and metadata. -/
def Query.compile (q : Query) (table : String) : Except QueryError Statement :=
  ({ table := table } : Target).select q

end RowGate
