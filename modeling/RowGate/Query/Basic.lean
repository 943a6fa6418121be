import RowGate.Pagination
import RowGate.Query.Filter

/-! # Queries

What a request asks of a table.
-/

namespace RowGate

inductive NullsOrder where
  | first
  | last
deriving DecidableEq, Repr

structure OrderTerm where
  column : String
  descending : Bool := false
  nulls : Option NullsOrder := none
deriving DecidableEq, Repr

/-- `countAll` counts rows, `count` the rows with a value in a column. -/
inductive AggregateFunction where
  | count | countAll | sum | avg | min | max
deriving DecidableEq, Repr

namespace AggregateFunction

/-- The functions with a name in a query text. -/
def named : List AggregateFunction := [count, sum, avg, min, max]

def name : AggregateFunction → String
  | count => "count"
  | countAll => "count_all"
  | sum => "sum"
  | avg => "avg"
  | min => "min"
  | max => "max"

def sql : AggregateFunction → String
  | count | countAll => "COUNT"
  | sum => "SUM"
  | avg => "AVG"
  | min => "MIN"
  | max => "MAX"

def ofName? (s : List Char) : Option AggregateFunction :=
  named.find? fun f => f.name.toList = Text.lower s

/-- The functions that need numbers. -/
def isArithmetic : AggregateFunction → Bool
  | sum | avg => true
  | _ => false

end AggregateFunction

structure Aggregation where
  function : AggregateFunction
  column : Option String := none
  label : Option String := none
deriving DecidableEq, Repr

namespace Aggregation

/-- What a path names last: the text behind its last arrow, without leading `>`. -/
def stem (column : String) : String :=
  match (Text.arrowPieces column.toList).getLast? with
  | some key => String.ofList (key.dropWhile (· == '>'))
  | none => column

/-- `count` where there is no column, else the function and the stem of the column. -/
def defaultAlias (a : Aggregation) : String :=
  match a.function, a.column with
  | .countAll, _ => "count"
  | _, none => "count"
  | f, some column => f.name ++ "_" ++ stem column

/-- The name of the output column. -/
def outputAlias (a : Aggregation) : String := a.label.getD a.defaultAlias

end Aggregation

structure SelectColumn where
  column : String
  label : Option String := none
deriving DecidableEq, Repr

def SelectColumn.isWildcard (c : SelectColumn) : Bool := c.column = "*"

/-- How the total of all pages is found. -/
inductive CountMode where
  | none | exact | planned | estimated
deriving DecidableEq, Repr

namespace CountMode

def all : List CountMode := [none, exact, planned, estimated]

def name : CountMode → String
  | none => "none"
  | exact => "exact"
  | planned => "planned"
  | estimated => "estimated"

/-- The mode with a name, in any case of its letters; no name means no count. -/
def ofName? (s : List Char) : Option CountMode :=
  if s.isEmpty then some none else all.find? fun m => m.name.toList = Text.lower s

end CountMode

structure Query where
  select : List SelectColumn := []
  filters : List Filter := []
  order : List OrderTerm := []
  limit : Option Nat := none
  offset : Option Int := none
  aggregations : List Aggregation := []
  groupBy : List String := []
  count : CountMode := .none
deriving DecidableEq, Repr

namespace Query

/-- Whether the output has a row per group. -/
def isAggregate (q : Query) : Bool := !q.aggregations.isEmpty || !q.groupBy.isEmpty

/-- The selected columns other than `*`. -/
def plainColumns (q : Query) : List SelectColumn := q.select.filter fun c => !c.isWildcard

/-- The columns that rows are grouped by: the named ones, then the selected ones that are not yet
among them. -/
def groupingKeys (q : Query) : List String :=
  if q.isAggregate then
    q.plainColumns.foldl
      (fun keys c => if c.column ∈ keys then keys else keys ++ [c.column]) q.groupBy
  else []

/-- Adds the columns of a comma-separated list; empty names are skipped. -/
def addGroupBy (q : Query) (s : List Char) : Query :=
  let names := ((Text.pieces ',' s).map Text.trim).filter fun p => !p.isEmpty
  { q with groupBy := q.groupBy ++ names.map String.ofList }

/-- The query under a pagination policy. -/
def paginate (q : Query) (policy : PaginationPolicy) : Query :=
  let page := normalize q.limit q.offset policy
  { q with
    limit := page.limit
    offset := some (min (page.offset : Int) Decimal.maxInt64) }

end Query

end RowGate
