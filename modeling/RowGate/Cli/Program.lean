import RowGate.Cli.Report
import RowGate.Config.Load
import RowGate.Json.Reader
import RowGate.Query.Reader
import RowGate.Session.Server

/-! # The program

From the words of a command line to what is printed.
-/

namespace RowGate.Cli

def programName : String := "restbase"

def version : String := "0.0.1"

/-- The environment variable that names the configuration file. -/
def configVariable : String := "RESTBASE_CONFIG"

/-- Why a job fails. -/
inductive JobError where
  | config (e : Config.LoadError)
  | query (e : QueryError)
  | claims
  | columnShape (text : String)
  | columnType (type : String)
  | run (e : RunError)
deriving DecidableEq, Repr

def JobError.message : JobError → String
  | config e => e.message
  | query e => e.message
  | claims => "--claims must be a JSON object"
  | columnShape text => "--column expects NAME:TYPE, got '" ++ text ++ "'"
  | columnType type => "unsupported column type '" ++ type ++ "'"
  | run e => e.report

/-- A column from `NAME:TYPE`. -/
def readColumn (s : String) : Except JobError ColumnInfo :=
  match Text.cutFirst ':' s.toList with
  | none => .error (.columnShape s)
  | some (name, type) =>
    let c := ColumnInfo.ofType (String.ofList (Text.trim name)) (String.ofList (Text.trim type))
    if c.castType?.isSome then .ok c else .error (.columnType c.dataType)

/-- The table of a query. Without types of columns there is no metadata to check it against. -/
def TableQuery.target (q : TableQuery) : Except JobError Target := do
  let columns ← q.columns.mapM readColumn
  let info : TableInfo := { schema := q.schema.getD "public", name := q.table, columns }
  return { table := q.table, schema := q.schema, info := if columns.isEmpty then none else info }

/-- The query of a text under a policy. -/
def TableQuery.query (q : TableQuery) (policy : PaginationPolicy) : Except JobError Query :=
  match Query.parse q.text with
  | .ok query => .ok (query.paginate policy)
  | .error e => .error (.query (.parse e))

def StatementKind.compile (k : StatementKind) (t : Target) (q : Query) :
    Except QueryError Statement :=
  match k with
  | select => t.select q
  | count => t.count q
  | explain => t.explain q

/-- Claims may be any document. -/
def readClaims : Option String → Except JobError (Option Json)
  | none => .ok none
  | some s => match Json.parse? s.toList with
    | some v => .ok (some v)
    | none => .error .claims

def runCompile (c : AppConfig) (f : Format) (q : TableQuery) (k : StatementKind) :
    Except JobError String := do
  let query ← q.query c.pagination
  let target ← q.target
  f.statement <$> (k.compile target query).mapError .query

/-- The server that a program meets. -/
structure Host where
  network : Network
  script : Script := {}

/-- What a job comes to. None if a server never answers a probe. -/
abbrev JobResult := Option (Except JobError String)

def runQuery (c : AppConfig) (f : Format) (host : Host) (q : TableQuery) (claims : Option String) :
    JobResult × List Command :=
  let prepared : Except JobError (Query × Option Json × Target) := do
    let query ← q.query c.pagination
    let claims ← readClaims claims
    return (query, claims, ← q.target)
  match prepared with
  | .error e => (some (.error e), [])
  | .ok (query, claims, target) => match Pool.create c.pool host.network host.script with
    | .error e => (some (.error (.run e)), [])
    | .ok pool =>
      let (page, pool) := pool.fetchPage c.roles (.ofClaims claims c.roles) target query
      (some ((page.map f.page).mapError .run), pool.log)

def runPing (c : AppConfig) (host : Host) : JobResult × List Command :=
  match Pool.create c.pool host.network host.script with
  | .error e => (some (.error (.run e)), [])
  | .ok pool =>
    let (answer, pool) := pool.probe
    (answer.map fun r => (r.map fun () => line "✓ database reachable").mapError .run, pool.log)

def runJob (c : AppConfig) (host : Host) (i : Invocation) : JobResult × List Command :=
  match i.job with
  | .compile q kind => (some (runCompile c i.format q kind), [])
  | .query q claims => runQuery c i.format host q claims
  | .ping => runPing c host

/-- The end of the program: its exit code, its output, and what was sent to the server. -/
structure Outcome where
  code : Nat
  stdout : String := ""
  stderr : String := ""
  log : List Command := []
deriving DecidableEq, Repr

def helpText : String := "Usage: " ++ programName ++ " [OPTIONS] <COMMAND>"

def Outcome.ofStop : Stop → Outcome
  | .usage => { code := 2, stderr := line helpText }
  | .help => { code := 0, stdout := line helpText }
  | .version => { code := 0, stdout := line (programName ++ " " ++ version) }

def Outcome.ofJob (r : JobResult) (log : List Command) : Outcome :=
  match r with
  | some (.ok text) => { code := 0, stdout := text, log }
  | some (.error e) => { code := 1, stderr := line ("✗ " ++ e.message), log }
  | none => { code := 1, log }

/-- The program as a whole. -/
def run (surroundings : Surroundings) (host : Host) (words : List String) : Outcome :=
  match Invocation.ofWords (surroundings.environment.lookup configVariable) words with
  | .error stop => .ofStop stop
  | .ok i => match Config.load surroundings i.config with
    | .error e => .ofJob (some (.error (.config e))) []
    | .ok c =>
      let (r, log) := runJob c host i
      .ofJob r log

end RowGate.Cli
