import RowGate.Decimal.Layout
import RowGate.Identifier

/-! # Errors of queries

A query fails while its text is read, while it is checked, or while SQL is written for it. The
first two are the caller's fault.
-/

namespace RowGate

/-- What is wrong with a part of a query text. -/
inductive ParseFault where
  | unbalanced
  | unterminatedQuote
  | emptySelectItem
  | emptyAlias
  | unterminatedAggregate
  | aggregateWithoutColumn
  | wildcardAggregate
  | limit
  | offset
  | countMode
  | emptyFilter
  | missingColumn
  | missingOperator
  | unknownOperator (keyword : String)
  | isOperand
  | groupParentheses (keyword : String)
  | emptyGroup
  | conjunctionInDisjunction
  | condition
  | emptyOrder
  | orderModifier (modifier : String)
  | described (text : String)
deriving DecidableEq, Repr

def ParseFault.message : ParseFault → String
  | unbalanced => "unbalanced parentheses"
  | unterminatedQuote => "unterminated quoted value"
  | emptySelectItem => "empty select item"
  | emptyAlias => "empty alias in select item"
  | unterminatedAggregate => "unterminated aggregate"
  | aggregateWithoutColumn => "aggregate requires a column"
  | wildcardAggregate => "only count accepts '*'"
  | limit => "limit must be a non-negative 64-bit integer"
  | offset => "offset must be an integer"
  | countMode => "count must be one of exact, planned, estimated"
  | emptyFilter => "empty filter expression"
  | missingColumn => "missing column name"
  | missingOperator => "expected column.operator=value or column=operator.value"
  | unknownOperator keyword => "unknown operator '" ++ keyword ++ "'"
  | isOperand => "is expects null, true or false"
  | groupParentheses keyword => keyword ++ " group must be wrapped in parentheses"
  | emptyGroup => "empty logical group"
  | conjunctionInDisjunction => "and groups cannot be nested inside or"
  | condition => "expected column.operator.value"
  | emptyOrder => "empty order term"
  | orderModifier modifier => "unknown order modifier '" ++ modifier ++ "'"
  | described text => text

/-- A malformed query text: the part that cannot be read, and why. -/
structure ParseError where
  fragment : String
  fault : ParseFault
deriving DecidableEq, Repr

def ParseError.message (e : ParseError) : String :=
  e.fault.message ++ " (near '" ++ e.fragment ++ "')"

/-- Why a value does not fit its operator. -/
inductive ValueFault where
  | truthOperand
  | listOperand
  | nullOperand
  | listRefused
  | described (text : String)
deriving DecidableEq, Repr

def ValueFault.message : ValueFault → String
  | truthOperand => "expected null, true or false"
  | listOperand => "expected a list of values"
  | nullOperand => "null is only comparable with eq, neq or is"
  | listRefused => "lists are only accepted by in"
  | described text => text

/-- Why a text is no pair of a distance and a geometry. -/
inductive GeoFault where
  | shape
  | distance (text : String)
  | missingGeometry
  | malformedGeometry
  | geometryKind
deriving DecidableEq, Repr

def GeoFault.message : GeoFault → String
  | shape => "expected 'distance,geojson'"
  | distance text => "invalid distance '" ++ text ++ "'"
  | missingGeometry => "missing GeoJSON geometry"
  | malformedGeometry => "malformed GeoJSON"
  | geometryKind => "GeoJSON geometry must be an object"

/-- A readable query that cannot be applied. -/
inductive ValidationError where
  | unknownColumn (name : String)
  | invalidIdentifier (fault : NameFault)
  | invalidValue (column operator : String) (fault : ValueFault)
  | invalidGeoFilter (fault : GeoFault)
  | negativeDistance (distance : Float)
  | emptyUpdate
  | tooManyFilters (count max : Nat)
deriving DecidableEq, Repr

def ValidationError.message : ValidationError → String
  | unknownColumn name => "Unknown column: " ++ name
  | invalidIdentifier fault => "Invalid identifier: " ++ fault.message
  | invalidValue column operator fault =>
    "Invalid value for '" ++ column ++ "' with operator '" ++ operator ++ "': " ++ fault.message
  | invalidGeoFilter fault => "Invalid st_dwithin value: " ++ fault.message
  | negativeDistance distance =>
    "Distance must not be negative, got " ++ Decimal.Layout.plain.text distance
  | emptyUpdate => "Update requires at least one column to set"
  | tooManyFilters count max =>
    "Query too complex: Too many filters: " ++ toString count ++ " (max " ++ toString max ++ ")"

/-- A defect of a query that no query text can express. -/
inductive CompileError where
  | missingAggregateColumn (function : String)
  | invariant (text : String)
deriving DecidableEq, Repr

def CompileError.message : CompileError → String
  | missingAggregateColumn function => "Aggregation " ++ function ++ " requires a column"
  | invariant text => "Invariant violated: " ++ text

inductive QueryError where
  | parse (e : ParseError)
  | validation (e : ValidationError)
  | compile (e : CompileError)
deriving DecidableEq, Repr

namespace QueryError

def message : QueryError → String
  | parse e => e.message
  | validation e => e.message
  | compile e => e.message

/-- Whether the caller sent a bad request. -/
def isClient : QueryError → Bool
  | parse _ | validation _ => true
  | compile _ => false

def ofName (f : NameFault) : QueryError := .validation (.invalidIdentifier f)

end QueryError

end RowGate
