import RowGate.Query.Basic
import RowGate.Query.Error

/-! # Select items

`column`, `alias:column`, `function(column)` and `count(*)`.
-/

namespace RowGate

open Text

/-- An alias stands before the first colon, unless two colons stand there: those are a cast. -/
def splitAlias (item : List Char) : Option (List Char) × List Char :=
  match cutFirst ':' item with
  | some (label, expr) =>
    if expr.head? = some ':' then (none, item) else (some (trim label), trim expr)
  | none => (none, item)

/-- The aggregation that an expression calls, if it calls one. -/
def readAggregate (expr : List Char) : Except ParseError (Option Aggregation) :=
  let fail (f : ParseFault) := .error ⟨String.ofList expr, f⟩
  match cutFirst '(' expr with
  | none => .ok none
  | some (name, rest) => match AggregateFunction.ofName? (trim name) with
    | none => .ok none
    | some f => match dropFinal? ')' rest with
      | none => fail .unterminatedAggregate
      | some arg =>
        let arg := trim arg
        if arg = [] then fail .aggregateWithoutColumn
        else if arg = ['*'] then
          if f = .count then .ok (some { function := .countAll })
          else fail .wildcardAggregate
        else .ok (some { function := f, column := some (String.ofList arg) })

/-- Adds what a select item names: a column or an aggregation. -/
def Query.addSelectItem (q : Query) (raw : List Char) : Except ParseError Query :=
  let item := trim raw
  if item = [] then .error ⟨String.ofList raw, .emptySelectItem⟩
  else
    let (label, expr) := splitAlias item
    if label = some [] then .error ⟨String.ofList item, .emptyAlias⟩
    else
      let label := label.map String.ofList
      match readAggregate expr with
      | .error e => .error e
      | .ok (some a) =>
        .ok { q with aggregations := q.aggregations ++ [{ a with label := label }] }
      | .ok none => .ok { q with select := q.select ++ [⟨String.ofList expr, label⟩] }

end RowGate
