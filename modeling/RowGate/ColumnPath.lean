import RowGate.Decimal.Integer
import RowGate.Sql.Fragment
import RowGate.Text.Blank

/-! # Column references

A column, or a path from a column into a JSON document: `data->stats->>count`.
-/

namespace RowGate

/-- How a step of a path leaves its result: as a document, or as text. -/
inductive Accessor where
  | document
  | text
deriving DecidableEq, Repr

def Accessor.sql : Accessor → String
  | document => "->"
  | text => "->>"

/-- A member name or an array position. -/
inductive PathKey where
  | name (s : String)
  | index (n : Nat)
deriving DecidableEq, Repr

namespace PathKey

/-- Digits that 32 bits hold are a position, other texts a name. -/
def ofText (s : List Char) : Except NameFault PathKey :=
  if s.isEmpty then .error .emptyKey
  else match (Decimal.readNat? s).filter (fun n : Nat => Decimal.fitsUInt32 n) with
    | some n => .ok (index n)
    | none =>
      let s := String.ofList s
      if hasControl s then .error (.control s) else .ok (name s)

def display : PathKey → String
  | name s => s
  | index n => toString n

def piece : PathKey → Piece
  | name s => .key s
  | index n => .number n

end PathKey

/-- A step below the root column. -/
structure PathStep where
  accessor : Accessor
  key : PathKey
deriving DecidableEq, Repr

/-- A step is written behind `->`; a further `>` asks for text. -/
def PathStep.ofText : List Char → Except NameFault PathStep
  | '>' :: s => return ⟨.text, ← PathKey.ofText s⟩
  | s => return ⟨.document, ← PathKey.ofText s⟩

structure ColumnPath where
  column : Identifier
  steps : List PathStep
deriving DecidableEq, Repr

namespace ColumnPath

/-- Reads a reference. The root column is trimmed, the keys are taken as they are. -/
def ofText (raw : List Char) : Except NameFault ColumnPath :=
  match Text.arrowPieces raw with
  | [] => .error .empty
  | root :: steps => do
    let column ← Identifier.ofString (String.ofList (Text.trim root))
    let steps ← steps.mapM PathStep.ofText
    return ⟨column, steps⟩

def ofString (raw : String) : Except NameFault ColumnPath := ofText raw.toList

/-- Whether the reference leads into a document. -/
def isJson (p : ColumnPath) : Bool := !p.steps.isEmpty

def extractsText (p : ColumnPath) : Bool :=
  match p.steps.getLast? with
  | some step => step.accessor = .text
  | none => false

def extractsJson (p : ColumnPath) : Bool :=
  match p.steps.getLast? with
  | some step => step.accessor = .document
  | none => false

/-- The name of the output column: the last key, or the column itself. -/
def outputName (p : ColumnPath) : String :=
  match p.steps.getLast? with
  | some step => step.key.display
  | none => p.column.name

def fragment (p : ColumnPath) : Fragment :=
  .name p.column :: p.steps.flatMap fun step => [.fixed step.accessor.sql, step.key.piece]

end ColumnPath

end RowGate
