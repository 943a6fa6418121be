import RowGate.Cli.Grid
import RowGate.Cli.Invocation
import RowGate.Session.Page

/-! # Reports

Statements and pages as they are printed.
-/

namespace RowGate.Cli

def line (s : String) : String := s ++ "\n"

/-- The parameters of a statement with their placeholders. -/
def paramGrid (params : List SqlValue) : Grid :=
  { header := ["Placeholder", "Value"]
    rows := (params.zipIdx 1).map fun (v, i) => ["$" ++ toString i, v.toJson.compact] }

def Format.statement (f : Format) (s : Statement) : String :=
  match f with
  | json => line (Json.ofMembers
      [("sql", .string s.sql), ("params", .array (s.params.map SqlValue.toJson))]).pretty
  | table =>
    line s.sql ++ if s.params.isEmpty then "" else line (paramGrid s.params).render

/-- The names of all members of rows, in the order in which they come up. -/
def columnsOf (rows : List Json) : List String :=
  (rows.flatMap fun
    | .object ms => ms.map (·.1)
    | _ => []).foldl (fun names name => if name ∈ names then names else names ++ [name]) []

/-- The text of a cell. -/
def cell : Option Json → String
  | none | some .null => "-"
  | some (.string s) => s
  | some v => v.compact

def rowGrid (rows : List Json) : Grid :=
  let names := columnsOf rows
  { header := names, rows := rows.map fun row => names.map fun name => cell (row.get? name) }

def Format.page (f : Format) (p : Page) : String :=
  match f with
  | json =>
    let total := match p.total with
      | some n => [("total", Json.ofInt n)]
      | none => []
    line (Json.ofMembers (("rows", .array p.rows) :: total)).pretty
  | table =>
    line (if p.rows.isEmpty then "No rows found." else (rowGrid p.rows).render) ++
      match p.total with
      | some n => line ("Total: " ++ toString n)
      | none => ""

end RowGate.Cli
