import RowGate.Config.App
import RowGate.Toml.Reader

/-! # Loading the configuration

Settings come from a file, and environment variables override them. A key such as `rls.anon_role`
names a place in the document of all settings.
-/

namespace RowGate

/-- What is found under the path of a file. -/
inductive FileContents where
  | absent
  | unreadable
  | text (s : String)
deriving DecidableEq, Repr

/-- The surroundings that settings are taken from. -/
structure Surroundings where
  file : String → FileContents
  environment : List (String × String)

namespace Config

mutual

/-- A newer value over an older one. Tables are joined name by name; anything else is replaced. -/
def overlay : Option Json → Json → Json
  | some (.object old), .object ms => .object (overlayMembers old ms)
  | _, .object ms => .object (overlayMembers [] ms)
  | _, v => v

def overlayMembers : List (String × Json) → List (String × Json) → List (String × Json)
  | old, [] => old
  | old, (k, v) :: ms =>
    overlayMembers (Json.insertMember k (overlay (old.lookup k) v) old) ms

end

/-- Puts a value at a place. What is no table on the way there becomes one. -/
def setAt (v : Json) : List String → Option Json → Json
  | [], old => overlay old v
  | k :: path, old =>
    let ms := match old with
      | some (.object ms) => ms
      | _ => []
    .object (Json.insertMember k (setAt v path (ms.lookup k)) ms)

def isNameChar (c : Char) : Bool := c.isAlphanum || c == '_' || c == '-'

/-- The place that a key names: names between points. A key that is no such path is one name. -/
def keyPath (key : String) : List String :=
  let names := Text.pieces '.' key.toList
  if names.all fun n => !n.isEmpty && n.all isNameChar then names.map String.ofList else [key]

/-- Adds settings to those that are there already. -/
def apply (settings : Json) (news : List (String × Json)) : Json :=
  news.foldl (fun acc p => setAt p.2 (keyPath p.1) (some acc)) settings

/-- The beginning of the names of environment variables that are settings, in lower case. -/
def environmentMark : String := "restbase__"

/-- The value of an environment variable: a truth value, a number, or else a text. -/
def environmentValue (s : String) : Json :=
  match s.map Char.toLower with
  | "true" => .bool true
  | "false" => .bool false
  | _ => match Decimal.readInt64? s.toList with
    | some n => .ofInt n
    | none => match Decimal.readFloat? s.toList with
      | some x => .number (.float x)
      | none => .string s

/-- The setting that an environment variable makes. In its name two underscores stand for a point,
and case does not matter. -/
def environmentSetting? (entry : String × String) : Option (String × Json) :=
  let name := Text.lower entry.1.toList
  (Text.dropLead? environmentMark.toList name).map fun key =>
    (String.ofList (Text.replacePair '_' '_' '.' key), environmentValue entry.2)

/-- The names of the environment variables that are settings, as they are usually written. -/
def environmentNames : List String :=
  [("STORAGE__POSTGRES", ["URL", "POOL_SIZE", "MIN_CONNECTIONS", "CONNECT_TIMEOUT_MS",
      "ACQUIRE_TIMEOUT_MS", "IDLE_TIMEOUT_MS", "MAX_LIFETIME_SECS"]),
    ("PAGINATION", ["MAX_PAGE_SIZE", "MAX_TOTAL_RESULTS", "DEFAULT_PAGE_SIZE"]),
    ("RLS", ["ANON_ROLE", "AUTHENTICATED_ROLE", "SWITCH_ROLE", "STATEMENT_TIMEOUT_MS",
      "TRANSACTION_TIMEOUT_MS"]),
    ("LOGGING", ["LEVEL"])].flatMap fun (table, names) =>
      names.map fun name => "RESTBASE__" ++ table ++ "__" ++ name

def defaultFile : String := "restbase.toml"

/-- What follows the last point of a file name, if anything stands before that point. -/
def extension? (path : String) : Option (List Char) :=
  let name := ((Text.pieces '/' path.toList).getLast?).getD []
  match Text.cutLast '.' name with
  | some (_ :: _, ext) => some ext
  | _ => none

/-- A text without a byte order mark at its start. -/
def dropMark (s : List Char) : List Char := (Text.dropLead? ['\ufeff'] s).getD s

/-- The settings of a file. A file that is named has to exist; the default file may be missing. -/
def fileSettings (surroundings : Surroundings) (path : Option String) : Except LoadError Json :=
  let file := path.getD defaultFile
  match surroundings.file file with
  | .absent => match path with
    | some path => .error (.notFound path)
    | none => .ok (.object [])
  | .unreadable => .error .build
  | .text s =>
    if extension? file = some "toml".toList then
      match Toml.parse? (dropMark s.toList) with
      | some v => .ok v
      | none => .error .build
    else .error .build

/-- All settings: those of the file, overridden by those of the environment. -/
def gather (surroundings : Surroundings) (path : Option String) : Except LoadError Json := do
  let settings ← fileSettings surroundings path
  let entries := match settings with
    | .object ms => ms
    | _ => []
  return apply (apply (.object []) entries) (surroundings.environment.filterMap environmentSetting?)

/-- Loads the configuration and checks it. -/
def load (surroundings : Surroundings) (path : Option String) : Except LoadError AppConfig := do
  ofDocument .lenient (← gather surroundings path)

end Config

end RowGate
