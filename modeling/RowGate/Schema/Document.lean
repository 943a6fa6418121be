import RowGate.Json.Reading
import RowGate.Schema

/-! # Table metadata in documents -/

namespace RowGate

open Reading

/-- A column. The flags may be missing. -/
def ColumnInfo.ofJson? (v : Json) : Option ColumnInfo := do
  match ← fields? .strict ["name", "data_type", "nullable", "primary_key"] v with
  | [some name, some dataType, nullable, primaryKey] =>
    return {
      name := ← text? .strict name
      dataType := ← text? .strict dataType
      nullable := ← orDefault (flag? .strict) false nullable
      primaryKey := ← orDefault (flag? .strict) false primaryKey }
  | _ => none

/-- A table. Nothing may be missing. -/
def TableInfo.ofJson? (v : Json) : Option TableInfo := do
  match ← fields? .strict ["schema", "name", "columns"] v with
  | [some schema, some name, some (.array columns)] =>
    return {
      schema := ← text? .strict schema
      name := ← text? .strict name
      columns := ← columns.mapM ColumnInfo.ofJson? }
  | _ => none

end RowGate
