import RowGate.Query.Group
import RowGate.Query.SelectItem
import RowGate.Text.FormData

/-! # Reading query texts

A query text is a form-encoded list of parameters. Parameters with a reserved name shape the output;
every other one is a filter.
-/

namespace RowGate

open Text

inductive ReservedName where
  | select | order | limit | offset | groupBy | count | and | or
deriving DecidableEq, Repr

namespace ReservedName

def all : List ReservedName := [select, order, limit, offset, groupBy, count, and, or]

def text : ReservedName → String
  | select => "select"
  | order => "order"
  | limit => "limit"
  | offset => "offset"
  | groupBy => "group_by"
  | count => "count"
  | and => "and"
  | or => "or"

def ofText? (s : List Char) : Option ReservedName := all.find? fun r => r.text.toList = s

end ReservedName

/-- Applies a word behind the column of an order term. -/
def OrderTerm.modify (t : OrderTerm) (word : List Char) : Except ParseFault OrderTerm :=
  match String.ofList (lower word) with
  | "asc" => .ok { t with descending := false }
  | "desc" => .ok { t with descending := true }
  | "nullsfirst" => .ok { t with nulls := some .first }
  | "nullslast" => .ok { t with nulls := some .last }
  | word => .error (.orderModifier word)

/-- An order term: a column, and words behind it that points separate. -/
def OrderTerm.ofText (raw : List Char) : Except ParseError OrderTerm :=
  let item := trim raw
  let fail (f : ParseFault) : ParseError := ⟨String.ofList item, f⟩
  match pieces '.' item with
  | [] => .error (fail .emptyOrder)
  | column :: words =>
    let column := trim column
    if column = [] then .error (fail .emptyOrder)
    else match words.foldlM OrderTerm.modify { column := String.ofList column } with
      | .ok t => .ok t
      | .error f => .error (fail f)

/-- What has been read so far, and the last group number in use. -/
structure Draft where
  query : Query := {}
  lastGroup : Nat := 0
deriving DecidableEq, Repr

/-- Reads the value of a parameter with a reserved name. -/
def Draft.readReserved (d : Draft) (value : List Char) : ReservedName → Except ParseError Draft
  | .select =>
    if isBlankText value then .ok d
    else do
      let items ← Brackets.split ',' value
      return { d with query := ← items.foldlM Query.addSelectItem d.query }
  | .order => do
    let items ← Brackets.split ',' value
    let terms ← items.mapM OrderTerm.ofText
    return { d with query := { d.query with order := d.query.order ++ terms } }
  | .limit => match Decimal.readInt64? (trim value) with
    | some (.ofNat n) => .ok { d with query := { d.query with limit := some n } }
    | _ => .error ⟨String.ofList value, .limit⟩
  | .offset => match Decimal.readInt64? (trim value) with
    | some n => .ok { d with query := { d.query with offset := some n } }
    | none => .error ⟨String.ofList value, .offset⟩
  | .groupBy => .ok { d with query := d.query.addGroupBy value }
  | .count => match CountMode.ofName? (trim value) with
    | some mode => .ok { d with query := { d.query with count := mode } }
    | none => .error ⟨String.ofList value, .countMode⟩
  | .and => do
    let (filters, last) ← readGroup .and d.lastGroup value
    return ⟨{ d.query with filters := d.query.filters ++ filters }, last⟩
  | .or => do
    let (filters, last) ← readGroup .or d.lastGroup value
    return ⟨{ d.query with filters := d.query.filters ++ filters }, last⟩

/-- Reads a parameter. -/
def Draft.read (d : Draft) (param : List Char × List Char) : Except ParseError Draft :=
  match ReservedName.ofText? param.1 with
  | some name => d.readReserved param.2 name
  | none => do
    let f ← Filter.ofParam param.1 param.2
    return { d with query := { d.query with filters := d.query.filters ++ [f] } }

namespace Query

/-- Reads a query text. -/
def parse (text : String) : Except ParseError Query := do
  let d ← (formPairs text.toList).foldlM Draft.read {}
  return d.query

end Query

end RowGate
