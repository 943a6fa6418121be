import RowGate.Session.Task
import RowGate.Sql.Compiler

/-! # Pages

Running compiled statements: rows, counts, changes, and a page of rows with its total.
-/

namespace RowGate

structure Page where
  rows : List Json
  total : Option Int
deriving DecidableEq, Repr

namespace Work

/-- The statement with each of its rows made a document. -/
def asDocuments (s : Statement) : Statement :=
  ⟨"WITH _rows AS (" ++ s.sql ++ ") SELECT to_jsonb(_rows) FROM _rows", s.params⟩

def fetchRows (s : Statement) : Work (List Json) := run (asDocuments s) readDocuments

/-- The rows of a statement that returns documents already. -/
def fetchDocuments (s : Statement) : Work (List Json) := run s readDocuments

def fetchCount (s : Statement) : Work Int := run s readNumber

def execute (s : Statement) : Work Nat := run s readAffected

/-- The nearest integer of 64 bits, away from zero on a tie. -/
def nearestInt64 (x : Float) : Int := x.round.toInt64.toInt

/-- The number of rows that a plan expects. -/
def planRows? (plan : Json) : Option Int :=
  match ((plan.item? 0).bind (Json.get? "Plan")).bind (Json.get? "Plan Rows") with
  | some (.number (.int n)) =>
    some (if Decimal.fitsInt64 n then n else nearestInt64 (Float.ofInt n))
  | some (.number (.float x)) => some (nearestInt64 x)
  | _ => none

def fetchPlannedCount (s : Statement) : Work Int := do
  let plan ← run s readDocument
  match planRows? plan with
  | some n => return n
  | none => throw (.database (.protocol "EXPLAIN output has no \"Plan Rows\""))

def ofQuery {α : Type} : Except QueryError α → Work α
  | .ok a => pure a
  | .error e => throw (.query e)

/-- Planned totals up to this are counted exactly instead. -/
def exactBelow : Int := 1000

/-- The total of a query in the way it asks for. -/
def fetchTotal (t : Target) (q : Query) : Work (Option Int) := do
  match q.count with
  | .none => return none
  | .exact => return some (← fetchCount (← ofQuery (t.count q)))
  | .planned => return some (← fetchPlannedCount (← ofQuery (t.explain q)))
  | .estimated =>
    let planned ← fetchPlannedCount (← ofQuery (t.explain q))
    if planned ≤ exactBelow then return some (← fetchCount (← ofQuery (t.count q)))
    else return some planned

/-- The rows of a query, and their total. -/
def fetchPage (t : Target) (q : Query) : Work Page := do
  ofQuery (t.validate q)
  let rows ← fetchDocuments (← ofQuery (t.rows q))
  let total ← fetchTotal t q
  return ⟨rows, total⟩

end Work

end RowGate
