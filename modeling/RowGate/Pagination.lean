import RowGate.Decimal.Integer

/-! # Pagination

Ceilings and defaults for the limit and the offset of a query.
-/

namespace RowGate

/-- A negative number disables a setting. -/
structure PaginationPolicy where
  maxPageSize : Int
  maxTotalResults : Int
  defaultPageSize : Int
deriving DecidableEq, Repr

namespace PaginationPolicy

def disabled : Int := -1

def standard : PaginationPolicy := ⟨1000, disabled, 100⟩

/-- Limits nothing. -/
def unlimited : PaginationPolicy := ⟨disabled, disabled, disabled⟩

/-- The number that a setting stands for, unless it is disabled. -/
def enabled? (n : Int) : Option Nat := if 0 ≤ n then some n.toNat else none

end PaginationPolicy

/-- A page of a result. Without a limit it has no end. -/
structure PageRange where
  limit : Option Nat
  offset : Nat
deriving DecidableEq, Repr

/-- A limit that is at most `bound`; `bound` itself where there was none. -/
def capLimit (bound : Nat) : Option Nat → Nat
  | some l => min l bound
  | none => bound

/-- The page that a policy makes of a request. A missing limit is the default one, a limit is at
most the greatest page size, and no page reaches past the greatest total. -/
def normalize (limit : Option Nat) (offset : Option Int) (policy : PaginationPolicy) : PageRange :=
  let offset := (offset.getD 0).toNat
  let limit := limit.or (PaginationPolicy.enabled? policy.defaultPageSize)
  let limit := match PaginationPolicy.enabled? policy.maxPageSize with
    | some size => limit.map (min · size)
    | none => limit
  let limit := match PaginationPolicy.enabled? policy.maxTotalResults with
    | some total => some (capLimit (total - offset) limit)
    | none => limit
  ⟨limit, offset⟩

end RowGate
