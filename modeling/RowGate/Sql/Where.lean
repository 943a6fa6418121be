import RowGate.Sql.Predicate

/-! # WHERE conditions

A list of filters is a conjunction. Its parts stand where they first appear: a filter without a
group alone, the filters of a group together as alternatives.
-/

namespace RowGate

inductive Part where
  | alone (f : Filter)
  | anyOf (group : Nat) (fs : List Filter)
deriving DecidableEq, Repr

namespace Part

def filters : Part → List Filter
  | alone f => [f]
  | anyOf _ fs => fs

/-- Adds an alternative to the part of its group, which comes last if it is new. -/
def addToGroup (g : Nat) (f : Filter) : List Part → List Part
  | [] => [anyOf g [f]]
  | anyOf h fs :: ps => if g = h then anyOf h (fs ++ [f]) :: ps else anyOf h fs :: addToGroup g f ps
  | alone h :: ps => alone h :: addToGroup g f ps

def add (ps : List Part) (f : Filter) : List Part :=
  match f.group with
  | none => ps ++ [alone f]
  | some g => addToGroup g f ps

/-- The parts of a filter list. -/
def ofFilters (fs : List Filter) : List Part := fs.foldl add []

/-- Whether a part holds, by what its filters do. -/
def holds (truth : Filter → Bool) : Part → Bool
  | alone f => truth f
  | anyOf _ fs => fs.any truth

def fragment (table : Option TableInfo) : Part → Except QueryError Fragment
  | alone f => f.fragment table
  | anyOf _ fs => do
    let alternatives ← fs.mapM (Filter.fragment table)
    return (Fragment.join " OR " alternatives).paren

end Part

/-- The condition of a filter list; none if it is empty. -/
def whereFragment (table : Option TableInfo) (fs : List Filter) :
    Except QueryError (Option Fragment) :=
  if fs.isEmpty then .ok none
  else do
    let parts ← (Part.ofFilters fs).mapM (Part.fragment table)
    return some (Fragment.join " AND " parts)

/-- The condition behind its keyword, or nothing. -/
def whereClause (table : Option TableInfo) (fs : List Filter) : Except QueryError Fragment := do
  match ← whereFragment table fs with
  | some f => return .fixed " WHERE " :: f
  | none => return []

/-- The values of the filters before the first that has no condition. -/
def valuesBeforeFailure (table : Option TableInfo) : List Filter → List SqlValue
  | [] => []
  | f :: fs => match f.fragment table with
    | .ok g => g.values ++ valuesBeforeFailure table fs
    | .error _ => []

/-- Bound values in the order of their placeholders. -/
structure Bindings where
  values : List SqlValue := []
deriving DecidableEq, Repr

namespace Bindings

/-- Binds a value and returns its placeholder. -/
def push (b : Bindings) (v : SqlValue) (type : Option String) : String × Bindings :=
  (placeholder (b.values.length + 1) v type, ⟨b.values ++ [v]⟩)

/-- Binds the values of a filter list, as far as its filters have a condition, and returns the
text of the whole. -/
def addWhere (b : Bindings) (fs : List Filter) :
    Except QueryError (Option String) × Bindings :=
  let text := (whereFragment none fs).map fun c => c.map (Fragment.textFrom b.values.length)
  let rendered := (Part.ofFilters fs).flatMap Part.filters
  (text, ⟨b.values ++ valuesBeforeFailure none rendered⟩)

end Bindings

end RowGate
