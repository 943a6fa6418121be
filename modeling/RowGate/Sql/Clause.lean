import RowGate.Schema

/-! # The other clauses

The select list, GROUP BY and ORDER BY.
-/

namespace RowGate

def readPath (raw : String) : Except QueryError ColumnPath :=
  match ColumnPath.ofString raw with
  | .ok p => .ok p
  | .error f => .error (.ofName f)

def readName (raw : String) : Except QueryError Identifier :=
  match Identifier.ofString raw with
  | .ok i => .ok i
  | .error f => .error (.ofName f)

/-- An expression with the name of its output column. -/
def aliased (expr : Fragment) (label : String) : Except QueryError Fragment := do
  let i ← readName label
  return expr ++ [.fixed " AS ", .name i]

/-- A path into a document is named by its last key, unless it has an alias. -/
def SelectColumn.fragment (c : SelectColumn) : Except QueryError Fragment :=
  if c.isWildcard then .ok [.fixed "*"]
  else do
    let p ← readPath c.column
    match c.label with
    | some label => aliased p.fragment label
    | none => if p.isJson then aliased p.fragment p.outputName else return p.fragment

namespace Aggregation

/-- What a function is applied to. Sums and averages of text need numbers. -/
def argument (a : Aggregation) : Except QueryError Fragment :=
  match a.function, a.column with
  | .countAll, _ => .ok [.fixed "*"]
  | f, none => .error (.compile (.missingAggregateColumn f.name))
  | f, some column => do
    let p ← readPath column
    return if f.isArithmetic && p.extractsText then p.fragment.paren ++ [.fixed "::numeric"]
      else p.fragment

/-- The call, without a name. -/
def call (a : Aggregation) : Except QueryError Fragment := do
  let arg ← a.argument
  return .fixed a.function.sql :: arg.paren

def fragment (a : Aggregation) : Except QueryError Fragment := do
  aliased (← a.call) a.outputAlias

end Aggregation

/-- The select list. A query with groups selects its keys, the selected columns or else the named
ones, and then its aggregates; without any item it selects everything. -/
def selectClause (q : Query) : Except QueryError Fragment := do
  let items ←
    if q.isAggregate then do
      let keys :=
        if q.plainColumns.isEmpty then q.groupBy.map fun c => { column := c } else q.plainColumns
      let keys ← keys.mapM SelectColumn.fragment
      let aggregates ← q.aggregations.mapM Aggregation.fragment
      pure (keys ++ aggregates)
    else q.select.mapM SelectColumn.fragment
  return if items.isEmpty then [.fixed "*"] else Fragment.join ", " items

/-- GROUP BY with its keyword; nothing without columns. -/
def groupByClause (columns : List String) : Except QueryError Fragment :=
  if columns.isEmpty then .ok []
  else do
    let paths ← columns.mapM readPath
    return .fixed " GROUP BY " :: Fragment.join ", " (paths.map ColumnPath.fragment)

namespace OrderTerm

/-- The direction and the place of nulls. -/
def direction (t : OrderTerm) : String :=
  let nulls := match t.nulls with
    | some .first => " NULLS FIRST"
    | some .last => " NULLS LAST"
    | none => ""
  (if t.descending then " DESC" else " ASC") ++ nulls

def fragment (t : OrderTerm) (key : Fragment) : Fragment := key ++ [.fixed t.direction]

end OrderTerm

/-- The terms of ORDER BY, without the keyword. -/
def orderTerms (order : List OrderTerm) : Except QueryError Fragment := do
  let terms ← order.mapM fun t => do
    let p ← readPath t.column
    return t.fragment p.fragment
  return Fragment.join ", " terms

/-- ORDER BY with its keyword; nothing without terms. -/
def orderByClause (order : List OrderTerm) : Except QueryError Fragment := do
  let terms ← orderTerms order
  return if order.isEmpty then [] else .fixed " ORDER BY " :: terms

/-- The first selected column with an output name, as the expression that the name stands for. -/
def findOutput (name : String) : List SelectColumn → Except QueryError (Option Fragment)
  | [] => .ok none
  | c :: cs => do
    let p ← readPath c.column
    if c.label.getD p.outputName = name then return some p.fragment
    else findOutput name cs

/-- The expression that an order term sorts by: an aggregate or a selected column with that output
name, or else a column of the table. -/
def OrderTerm.key (q : Query) (t : OrderTerm) : Except QueryError Fragment :=
  match q.aggregations.find? fun a => a.outputAlias = t.column with
  | some a => a.call
  | none => do
    match ← findOutput t.column q.plainColumns with
    | some f => return f
    | none => return (← readPath t.column).fragment

/-- LIMIT and OFFSET. A limit beyond the server's integers is no limit, and is written as the
greatest of them. -/
def pageClause (q : Query) : Fragment :=
  let limit := match q.limit with
    | some n => [Piece.fixed " LIMIT ", .number (min n Decimal.maxInt64.toNat)]
    | none => []
  let offset := match q.offset with
    | some n => if 0 < n then [Piece.fixed " OFFSET ", .number n.toNat] else []
    | none => []
  limit ++ offset

end RowGate
