import RowGate.Json.Reading
import RowGate.Pagination
import RowGate.Session.Server
import RowGate.Text.Blank

/-! # The configuration

Its sections with their defaults, how they are read from a document, and what makes them valid.
-/

namespace RowGate

structure AppConfig where
  pool : PoolConfig := {}
  pagination : PaginationPolicy := .standard
  roles : RoleConfig := {}
  logLevel : String := "info"
deriving DecidableEq, Repr

namespace Config

open Reading

def readPool (mode : Reading) (v : Json) : Option PoolConfig := do
  let d : PoolConfig := {}
  match ← fields? mode ["url", "pool_size", "min_connections", "connect_timeout_ms",
      "acquire_timeout_ms", "idle_timeout_ms", "max_lifetime_secs"] v with
  | [url, size, least, connect, acquire, idle, lifetime] =>
    return {
      url := ← orDefault (text? mode) d.url url
      poolSize := ← orDefault (uint32? mode) d.poolSize size
      minConnections := ← orDefault (nullable (uint32? mode)) d.minConnections least
      connectTimeoutMs := ← orDefault (uint64? mode) d.connectTimeoutMs connect
      acquireTimeoutMs := ← orDefault (uint64? mode) d.acquireTimeoutMs acquire
      idleTimeoutMs := ← orDefault (nullable (uint64? mode)) d.idleTimeoutMs idle
      maxLifetimeSecs := ← orDefault (nullable (uint64? mode)) d.maxLifetimeSecs lifetime }
  | _ => none

def readStorage (mode : Reading) (v : Json) : Option PoolConfig := do
  match ← fields? mode ["postgres"] v with
  | [pool] => orDefault (readPool mode) {} pool
  | _ => none

def readPagination (mode : Reading) (v : Json) : Option PaginationPolicy := do
  let d := PaginationPolicy.standard
  match ← fields? mode ["max_page_size", "max_total_results", "default_page_size"] v with
  | [size, total, default] =>
    return {
      maxPageSize := ← orDefault (int64? mode) d.maxPageSize size
      maxTotalResults := ← orDefault (int64? mode) d.maxTotalResults total
      defaultPageSize := ← orDefault (int64? mode) d.defaultPageSize default }
  | _ => none

def readRoles (mode : Reading) (v : Json) : Option RoleConfig := do
  let d : RoleConfig := {}
  match ← fields? mode ["anon_role", "authenticated_role", "switch_role", "statement_timeout_ms",
      "transaction_timeout_ms"] v with
  | [anon, authenticated, switch, statement, transaction] =>
    return {
      anonRole := ← orDefault (text? mode) d.anonRole anon
      authenticatedRole := ← orDefault (text? mode) d.authenticatedRole authenticated
      switchRole := ← orDefault (flag? mode) d.switchRole switch
      statementTimeoutMs := ← orDefault (nullable (uint64? mode)) d.statementTimeoutMs statement
      transactionTimeoutMs := ← orDefault (uint64? mode) d.transactionTimeoutMs transaction }
  | _ => none

def readLogging (mode : Reading) (v : Json) : Option String := do
  match ← fields? mode ["level"] v with
  | [level] => orDefault (text? mode) "info" level
  | _ => none

/-- The configuration in a document; none if a value does not fit its field. -/
def readApp (mode : Reading) (v : Json) : Option AppConfig := do
  let d : AppConfig := {}
  match ← fields? mode ["storage", "pagination", "rls", "logging"] v with
  | [storage, pagination, roles, logging] =>
    return {
      pool := ← orDefault (readStorage mode) d.pool storage
      pagination := ← orDefault (readPagination mode) d.pagination pagination
      roles := ← orDefault (readRoles mode) d.roles roles
      logLevel := ← orDefault (readLogging mode) d.logLevel logging }
  | _ => none

def logLevels : List String := ["trace", "debug", "info", "warn", "error", "off"]

/-- Why a configuration is refused. -/
inductive Fault where
  | missingUrl
  | emptyPool
  | connectionsBeyondPool
  | zeroTimeout
  | pagination (field : String) (value : Int)
  | emptyRole
  | zeroTransactionTimeout
  | zeroStatementTimeout
  | logLevel
deriving DecidableEq, Repr

def Fault.message : Fault → String
  | missingUrl => "storage.postgres.url must be set"
  | emptyPool => "storage.postgres.pool_size must be > 0"
  | connectionsBeyondPool => "storage.postgres.min_connections must be <= pool_size"
  | zeroTimeout => "storage.postgres timeouts must be > 0"
  | pagination field value =>
    "pagination." ++ field ++ " must be -1 (disabled) or > 0, got " ++ toString value
  | emptyRole => "rls roles must not be empty"
  | zeroTransactionTimeout => "rls.transaction_timeout_ms must be > 0"
  | zeroStatementTimeout => "rls.statement_timeout_ms must be > 0 when set"
  | logLevel => "logging.level must be one of " ++ Text.quoteList logLevels

def isBlankString (s : String) : Bool := Text.isBlankText s.toList

def poolFault? (c : PoolConfig) : Option Fault :=
  if isBlankString c.url then some .missingUrl
  else if c.poolSize = 0 then some .emptyPool
  else if c.poolSize < c.minConnections.getD 0 then some .connectionsBeyondPool
  else if c.connectTimeoutMs = 0 ∨ c.acquireTimeoutMs = 0 then some .zeroTimeout
  else none

/-- Each setting of the policy is `-1` or positive. -/
def paginationFault? (p : PaginationPolicy) : Option Fault :=
  [("max_page_size", p.maxPageSize), ("max_total_results", p.maxTotalResults),
    ("default_page_size", p.defaultPageSize)].findSome? fun (name, value) =>
      if value = 0 ∨ value < -1 then some (.pagination name value) else none

def rolesFault? (c : RoleConfig) : Option Fault :=
  if isBlankString c.anonRole || isBlankString c.authenticatedRole then some .emptyRole
  else if c.transactionTimeoutMs = 0 then some .zeroTransactionTimeout
  else if c.statementTimeoutMs = some 0 then some .zeroStatementTimeout
  else none

def levelFault? (level : String) : Option Fault :=
  if level.map Char.toLower ∈ logLevels then none else some .logLevel

/-- The first thing that is wrong with a configuration. -/
def fault? (c : AppConfig) : Option Fault :=
  (poolFault? c.pool).or ((paginationFault? c.pagination).or
    ((rolesFault? c.roles).or (levelFault? c.logLevel)))

inductive LoadError where
  | notFound (path : String)
  | build
  | deserialize
  | invalid (f : Fault)
deriving DecidableEq, Repr

def LoadError.message : LoadError → String
  | notFound path => "config file not found: " ++ path
  | build => "config build error"
  | deserialize => "config deserialize error"
  | invalid f => "invalid configuration: " ++ f.message

/-- Reads a configuration from a document and checks it. -/
def ofDocument (mode : Reading) (v : Json) : Except LoadError AppConfig :=
  match readApp mode v with
  | none => .error .deserialize
  | some c => match fault? c with
    | some f => .error (.invalid f)
    | none => .ok c

end Config

end RowGate
