import RowGate.Cli.Arguments

/-! # Invocations

What a command line asks for.
-/

namespace RowGate.Cli

/-- How results are printed. -/
inductive Format where
  | json
  | table
deriving DecidableEq, Repr

def Format.ofName? : String → Option Format
  | "json" => some json
  | "table" => some table
  | _ => none

inductive StatementKind where
  | select
  | count
  | explain
deriving DecidableEq, Repr

def StatementKind.ofName? : String → Option StatementKind
  | "select" => some select
  | "count" => some count
  | "explain" => some explain
  | _ => none

/-- A query text for a table, and the types of columns as `NAME:TYPE`. -/
structure TableQuery where
  table : String
  text : String := ""
  schema : Option String := none
  columns : List String := []
deriving DecidableEq, Repr

inductive Job where
  | compile (q : TableQuery) (kind : StatementKind)
  | query (q : TableQuery) (claims : Option String)
  | ping
deriving DecidableEq, Repr

structure Invocation where
  config : Option String
  logLevel : Option String
  format : Format
  job : Job
deriving DecidableEq, Repr

/-- The options of both levels. -/
def sharedSettings : List Setting :=
  [{ name := "config", letter := some 'c', accepts := (· ≠ "") },
    { name := "log-level" },
    { name := "format", letter := some 'f', accepts := fun s => (Format.ofName? s).isSome }]

def querySettings : List Setting :=
  [{ name := "schema" }, { name := "column", repeats := true }]

def programLevel : Level :=
  { settings := sharedSettings
    commands := ["compile", "query", "ping", "help"]
    tellsVersion := true }

def compileLevel : Level :=
  { settings := { name := "kind", accepts := fun s => (StatementKind.ofName? s).isSome } ::
      querySettings ++ sharedSettings
    operands := 2 }

def queryLevel : Level :=
  { settings := { name := "claims" } :: querySettings ++ sharedSettings
    operands := 2 }

def pingLevel : Level := { settings := sharedSettings }

/-- The table has to be given; the query text is empty if it is not. -/
def TableQuery.ofFound (f : Found) : Except Stop TableQuery :=
  match f.operands with
  | [] => .error .usage
  | table :: text => .ok
    { table
      text := text.headD ""
      schema := f.value? "schema"
      columns := f.all "column" }

/-- A job, and what was found at the level of its command. -/
def readJob (command : String) (words : List String) : Except Stop (Job × Found) := do
  match command with
  | "compile" =>
    let f ← compileLevel.read {} words
    let kind := (f.value? "kind").bind StatementKind.ofName?
    return (.compile (← TableQuery.ofFound f) (kind.getD .select), f)
  | "query" =>
    let f ← queryLevel.read {} words
    return (.query (← TableQuery.ofFound f) (f.value? "claims"), f)
  | "ping" =>
    let f ← pingLevel.read {} words
    return (.ping, f)
  | _ => throw (if words.all (· ∈ programLevel.commands) then .help else .usage)

/-- Reads a command line. An option at the command's level goes before the same option of the
program, and that before the environment variable for the configuration file. The variable counts at
each level that lacks the option, and there it must not be empty. -/
def Invocation.ofWords (configVariable : Option String) (words : List String) :
    Except Stop Invocation := do
  let outer ← programLevel.read {} words
  match outer.command with
  | none => throw .usage
  | some (command, words) =>
    let (job, inner) ← readJob command words
    let value? (name : String) := (inner.value? name).or (outer.value? name)
    let isCovered := (inner.value? "config").isSome && (outer.value? "config").isSome
    if configVariable = some "" && !isCovered then throw .usage
    return {
      config := (value? "config").or configVariable
      logLevel := value? "log-level"
      format := ((value? "format").bind Format.ofName?).getD .json
      job }

end RowGate.Cli
