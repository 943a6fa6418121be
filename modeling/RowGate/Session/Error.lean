import RowGate.Query.Error

/-! # Errors of execution

What can go wrong between a compiled statement and its rows, and whose fault it is.
-/

namespace RowGate

/-- An error that the server reports, with its SQLSTATE code. -/
structure ServerError where
  code : String
  message : String
deriving DecidableEq, Repr

namespace ServerError

/-- The server is starting or full: the connection may succeed later. -/
def isTransient (e : ServerError) : Bool := e.code = "57P03" || e.code = "53300"

def isPermissionDenied (e : ServerError) : Bool := e.code = "42501"

end ServerError

/-- Codes of data exceptions, and of functions, columns and types that do not fit a value. -/
def isInvalidInputCode (code : String) : Bool :=
  code.startsWith "22" || code = "42883" || code = "42703" || code = "42804"

/-- A failure below the statements: of the pool, of the connection, or in an answer. -/
inductive Failure where
  | poolTimedOut
  | poolClosed
  | io (detail : String)
  | tls (detail : String)
  | server (e : ServerError)
  | rowNotFound
  | columnNotFound (name : String)
  | columnType
  | workerCrashed
  | protocol (detail : String)
  | configuration (detail : String)
deriving DecidableEq, Repr

namespace Failure

/-- The text of a failure, and then those of its causes. -/
def chain : Failure → List String
  | poolTimedOut => ["pool timed out while waiting for an open connection"]
  | poolClosed => ["attempted to acquire a connection on a closed pool"]
  | io detail => ["error communicating with database: " ++ detail, detail]
  | tls detail =>
    ["error occurred while attempting to establish a TLS connection: " ++ detail, detail]
  | server e => ["error returned from database: " ++ e.message, e.message]
  | rowNotFound => ["no rows returned by a query that expected to return at least one row"]
  | columnNotFound name => ["no column found for name: " ++ name]
  | columnType =>
    ["error occurred while decoding column 0: mismatched types", "mismatched types"]
  | workerCrashed => ["attempted to communicate with a crashed background worker"]
  | protocol detail => ["encountered unexpected or invalid data: " ++ detail]
  | configuration detail => ["error with configuration: " ++ detail, detail]

def message (f : Failure) : String := f.chain.headD ""

/-- The database cannot be reached; another attempt may succeed. -/
def isOutage : Failure → Bool
  | poolTimedOut | poolClosed | io _ | tls _ => true
  | _ => false

end Failure

/-- Why the database is unavailable. -/
inductive Outage where
  | failure (f : Failure)
  | notEstablished (ms : Nat)
  | described (text : String)
deriving DecidableEq, Repr

def Outage.message : Outage → String
  | failure f => f.message
  | notEstablished ms => "connection not established within " ++ toString ms ++ "ms"
  | described text => text

/-- Whose fault an error is. -/
inductive Category where
  | client
  | forbidden
  | unavailable
  | internal
deriving DecidableEq, Repr

def Category.name : Category → String
  | client => "client"
  | forbidden => "forbidden"
  | unavailable => "unavailable"
  | internal => "internal"

inductive RunError where
  | unavailable (cause : Outage)
  | permissionDenied (detail : String)
  | invalidInput (code message : String)
  | database (f : Failure)
  | timeout (ms : Nat)
  | query (e : QueryError)
deriving DecidableEq, Repr

namespace RunError

/-- The error that a failure of a statement is. Permissions are denied without the server's
words. -/
def ofFailure (f : Failure) : RunError :=
  if f.isOutage then unavailable (.failure f)
  else match f with
    | .server e =>
      if e.isPermissionDenied then permissionDenied "insufficient privilege for this operation"
      else if isInvalidInputCode e.code then invalidInput e.code e.message
      else database f
    | f => database f

def category : RunError → Category
  | query e => if e.isClient then .client else .internal
  | invalidInput .. => .client
  | permissionDenied _ => .forbidden
  | unavailable _ | timeout _ => .unavailable
  | database _ => .internal

/-- Whether the same request may succeed later. -/
def isRetryable (e : RunError) : Bool := e.category = .unavailable

def message : RunError → String
  | unavailable cause => "Database unavailable: " ++ cause.message
  | permissionDenied detail => "Permission denied: " ++ detail
  | invalidInput code message => "Invalid input (" ++ code ++ "): " ++ message
  | database f => "Database error: " ++ f.message
  | timeout ms => "Transaction timed out after " ++ toString ms ++ "ms"
  | query e => e.message

/-- The message with those of its causes behind it. -/
def report (e : RunError) : String :=
  let causes := match e with
    | database f => f.chain
    | _ => []
  ": ".intercalate (e.message :: causes)

end RunError

end RowGate
