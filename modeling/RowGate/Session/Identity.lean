import RowGate.Sql.Fragment

/-! # Identities

Who a transaction runs for, and the settings that tell the server.
-/

namespace RowGate

/-- The roles of callers, and how far the server is told of them. -/
structure RoleConfig where
  anonRole : String := "anon"
  authenticatedRole : String := "authenticated"
  switchRole : Bool := true
  statementTimeoutMs : Option Nat := none
  transactionTimeoutMs : Nat := 30000
deriving DecidableEq, Repr

/-- The caller of a request: a user, a role and the claims that were verified. -/
structure Identity where
  userId : Option String
  role : String
  claims : Json
deriving DecidableEq, Repr

/-- The role that claims name; without one, that of authenticated callers. -/
def roleOfClaims (claims : Json) (config : RoleConfig) : String :=
  match (claims.get? "role").bind Json.string? with
  | some role => if role = "" then config.authenticatedRole else role
  | none => config.authenticatedRole

namespace Identity

def anonymous (config : RoleConfig) : Identity :=
  ⟨none, config.anonRole, .object [("role", .string config.anonRole)]⟩

def authenticated (userId : String) (claims : Json) (config : RoleConfig) : Identity :=
  ⟨some userId, roleOfClaims claims config, claims⟩

/-- The identity of verified claims; without claims it is anonymous. -/
def ofClaims (claims : Option Json) (config : RoleConfig) : Identity :=
  match claims with
  | none => anonymous config
  | some claims =>
    ⟨(claims.get? "sub").bind Json.string?, roleOfClaims claims config, claims⟩

def withRole (i : Identity) (role : String) : Identity := { i with role := role }

def isAnonymous (i : Identity) : Bool := i.userId.isNone

/-- The names and values of the settings of a transaction. The role is switched last, because the
new role may not be allowed the rest. -/
def settings (i : Identity) (config : RoleConfig) : List (String × String) :=
  (match config.statementTimeoutMs with
    | some ms => [("statement_timeout", toString ms)]
    | none => []) ++
  [("request.jwt.claims", i.claims.compact), ("request.jwt.claim.role", i.role)] ++
  (match i.userId with
    | some id => [("request.jwt.claim.sub", id)]
    | none => []) ++
  if config.switchRole then [("role", i.role)] else []

end Identity

/-- One call that sets a value for the rest of the transaction. -/
def settingCall (p : String × String) : Fragment :=
  [.fixed "set_config(", .bound (.text p.1) none, .fixed ", ", .bound (.text p.2) none,
    .fixed ", true)"]

/-- The statement that applies settings. -/
def settingsStatement (ps : List (String × String)) : Statement :=
  Fragment.statement (.fixed "SELECT " :: Fragment.join ", " (ps.map settingCall))

/-- The text of the statement for a number of settings, whatever they are. -/
def settingsText (count : Nat) : String :=
  (settingsStatement (List.replicate count ("", ""))).sql

end RowGate
