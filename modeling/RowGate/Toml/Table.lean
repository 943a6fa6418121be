import RowGate.Json.Basic

/-! # TOML tables

A document under construction. A table that a header opens may be opened only once; tables that a
header or a dotted key passes through come into being on the way.
-/

namespace RowGate.Toml

/-- How a table came into being: by a header of its own, on the way to the table of another header,
or on the way of a dotted key. -/
inductive Origin where
  | header
  | passed
  | dotted
deriving DecidableEq, Repr

/-- A value, a table, or an array of tables with the current one last. -/
inductive Node where
  | value (v : Json)
  | table (origin : Origin) (entries : List (String × Node))
  | tables (elements : List (List (String × Node)))

abbrev Entries := List (String × Node)

/-- Puts a node under a name, in its place or at the end. -/
def put (k : String) (n : Node) : Entries → Entries
  | [] => [(k, n)]
  | (l, m) :: es => if k = l then (k, n) :: es else (l, m) :: put k n es

/-- Changes the table that a header path leads to. A path leads through the last element of an array
of tables, and not through values. -/
def descend (f : Entries → Option Entries) : List String → Entries → Option Entries
  | [], es => f es
  | k :: path, es => match es.lookup k with
    | none => do
      let inner ← descend f path []
      return put k (.table .passed inner) es
    | some (.table origin inner) => do
      let inner ← descend f path inner
      return put k (.table origin inner) es
    | some (.tables elements) => do
      let last ← elements.getLast?
      let inner ← descend f path last
      return put k (.tables (elements.dropLast ++ [inner])) es
    | some (.value _) => none

/-- Opens the table of a header. -/
def openTable (k : String) (es : Entries) : Option Entries :=
  match es.lookup k with
  | none => some (put k (.table .header []) es)
  | some (.table .passed inner) => some (put k (.table .header inner) es)
  | some _ => none

/-- Opens another element of an array of tables. -/
def openElement (k : String) (es : Entries) : Option Entries :=
  match es.lookup k with
  | none => some (put k (.tables [[]]) es)
  | some (.tables elements) => some (put k (.tables (elements ++ [[]])) es)
  | some _ => none

/-- Adds a value under a dotted key. The table that takes it belongs to dotted keys alone, and so do
those on the way, unless the way leads through the last element of an array of tables. -/
def addValue (k : String) (v : Json) : List String → Entries → Option Entries
  | [], es => match es.lookup k with
    | none => some (put k (.value v) es)
    | some _ => none
  | p :: path, es => match es.lookup p with
    | none => do
      let inner ← addValue k v path []
      return put p (.table .dotted inner) es
    | some (.table origin inner) =>
      if origin = .header ∨ (path = [] ∧ origin ≠ .dotted) then none
      else do
        let inner ← addValue k v path inner
        return put p (.table origin inner) es
    | some (.tables elements) =>
      if path = [] then none
      else do
        let last ← elements.getLast?
        let inner ← addValue k v path last
        return put p (.tables (elements.dropLast ++ [inner])) es
    | some (.value _) => none

mutual

/-- What a node holds, as a document. -/
def Node.document : Node → Json
  | .value v => v
  | .table _ es => .ofMembers (members es)
  | .tables elements => .array (tableDocuments elements)

def members : List (String × Node) → List (String × Json)
  | [] => []
  | (k, n) :: es => (k, n.document) :: members es

def tableDocuments : List (List (String × Node)) → List Json
  | [] => []
  | es :: ess => .ofMembers (members es) :: tableDocuments ess

end

end RowGate.Toml
