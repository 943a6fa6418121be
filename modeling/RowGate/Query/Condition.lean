import RowGate.Query.Brackets
import RowGate.Query.Filter

/-! # Conditions

A condition is written `column.operator=value`, `column=operator.value` or, inside a group,
`column.operator.value`.
-/

namespace RowGate

open Text

/-- A text without the parentheses around it, if there are any. -/
def stripParens (s : List Char) : List Char := (enclosed? '(' ')' s).getD s

/-- A text without the double quotes around it, if there are any. Inside them a backslash escapes a
quote and a backslash. -/
def unquote (s : List Char) : List Char :=
  match enclosed? '"' '"' s with
  | some inner => replacePair '\\' '\\' '\\' (replacePair '\\' '"' '"' inner)
  | none => s

namespace FilterValue

/-- The value that a text stands for beside an operator. -/
def ofText (op : Operator) (raw : List Char) : Except ParseError FilterValue :=
  match op with
  | .is => match String.ofList (lower (trim raw)) with
    | "null" => .ok null
    | "true" => .ok (bool true)
    | "false" => .ok (bool false)
    | _ => .error ⟨String.ofList raw, .isOperand⟩
  | .oneOf =>
    let list := stripParens (trim raw)
    if isBlankText list then .ok (strings [])
    else do
      let items ← Brackets.split ',' list
      return strings (items.map fun item => String.ofList (unquote (trim item)))
  | .stDWithin => .ok (string (String.ofList (stripParens (trim raw))))
  | _ => .ok (string (String.ofList (unquote raw)))

end FilterValue

namespace Filter

/-- A filter from its three parts; `fragment` is where they stand. -/
def ofParts (column : List Char) (op : Operator) (raw fragment : List Char) :
    Except ParseError Filter :=
  let column := trim column
  if column = [] then .error ⟨String.ofList fragment, .missingColumn⟩
  else do
    let value ← FilterValue.ofText op raw
    return { column := String.ofList column, operator := op, value }

/-- A keyword up to the first point, and what follows it. -/
def operatorBefore? (s : List Char) : Option (Operator × List Char) := do
  let (word, rest) ← cutFirst '.' s
  let op ← Operator.ofKeyword? word
  return (op, rest)

/-- A filter from a parameter. An operator behind the last point of the name comes first, one before
the first point of the value second. -/
def ofParam (name value : List Char) : Except ParseError Filter :=
  let name := trim name
  let whole := String.ofList (name ++ '=' :: value)
  if name = [] then .error ⟨whole, .emptyFilter⟩
  else
    let byName := do
      let (column, word) ← cutLast '.' name
      let op ← Operator.ofKeyword? word
      return (column, op)
    match byName with
    | some (column, op) => ofParts column op value name
    | none => match cutFirst '.' value with
      | none => .error ⟨whole, .missingOperator⟩
      | some (word, rest) => match Operator.ofKeyword? word with
        | some op => ofParts name op rest value
        | none => .error ⟨whole, .unknownOperator (String.ofList word)⟩

/-- The column before the first operator keyword that stands between two points, the operator, and
what follows it. -/
def splitCondition? : List Char → Option (List Char × Operator × List Char)
  | [] => none
  | c :: s =>
    let later := (splitCondition? s).map fun p => (c :: p.1, p.2)
    if c = '.' then
      match operatorBefore? s with
      | some (op, value) => some ([], op, value)
      | none => later
    else later

/-- A filter from a condition of a group. -/
def ofCondition (expr : List Char) : Except ParseError Filter :=
  match splitCondition? expr with
  | some (column, op, value) => ofParts column op value expr
  | none => .error ⟨String.ofList expr, .condition⟩

end Filter

end RowGate
