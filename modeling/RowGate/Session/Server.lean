import RowGate.Session.Address
import RowGate.Session.Page
import RowGate.Session.Transaction

/-! # A scripted server

A server that answers by a script, behind a pool of connections, and keeps a log of what it
executed. Time passes only where something waits: for an answer that never comes, or for a
connection.
-/

namespace RowGate

/-- How the server meets a command: with a reply, or never. -/
inductive Response where
  | reply (r : Reply)
  | silence
deriving DecidableEq, Repr

def Response.success : Response := reply (.affected 0)

/-- The answers of a server: to connections, to the commands of transactions, to settings, to the
probe of a connection, and to all other statements in turn. -/
structure Script where
  startup : Response := .success
  begin : Response := .success
  commit : Response := .success
  rollback : Response := .success
  settings : Response := .success
  probe : Response := .success
  queue : List Response := []
deriving DecidableEq, Repr

def probeText : String := "SELECT 1"

namespace Script

/-- The response to a statement text, and the script after it. -/
def respond (s : Script) (sql : String) : Response × Script :=
  if sql = "BEGIN" then (s.begin, s)
  else if sql = "COMMIT" then (s.commit, s)
  else if sql = "ROLLBACK" then (s.rollback, s)
  else if sql = probeText then (s.probe, s)
  else if sql.startsWith "SELECT set_config(" then (s.settings, s)
  else match s.queue with
    | [] => (.success, s)
    | r :: rs => (r, { s with queue := rs })

end Script

/-- Whether the server's host can be reached. -/
inductive Network where
  | reachable
  | refused
  | unreachable
deriving DecidableEq, Repr

structure PoolConfig where
  url : String := "postgres://localhost/restbase"
  poolSize : Nat := 10
  minConnections : Option Nat := none
  connectTimeoutMs : Nat := 5000
  acquireTimeoutMs : Nat := 5000
  idleTimeoutMs : Option Nat := some 300000
  maxLifetimeSecs : Option Nat := some 1800
deriving DecidableEq, Repr

/-- The connections that a new pool opens: the least number of them, which the size bounds, but one
to see that the server is there. -/
def PoolConfig.initialConnections (c : PoolConfig) : Nat :=
  max 1 (min (c.minConnections.getD (c.poolSize / 4)) c.poolSize)

/-- What a connection attempt comes to: it succeeds, it fails, or it is tried until time is up. -/
inductive Attempt where
  | opened
  | failed (f : Failure)
  | waits
deriving DecidableEq, Repr

def Network.attempt (n : Network) (startup : Response) : Attempt :=
  match n with
  | .unreachable => .failed (.io "Network is unreachable (os error 101)")
  | .refused => .waits
  | .reachable => match startup with
    | .silence => .waits
    | .reply (.refused e) => if e.isTransient then .waits else .failed (.server e)
    | .reply .lost => .failed (.io Reply.lostDetail)
    | .reply _ => .opened

/-- A pool with the server behind it. Connections wait in it, are stuck in a conversation that
never goes on, or are not open yet. -/
structure Pool where
  network : Network
  script : Script
  log : List Command := []
  size : Nat
  waiting : Nat
  stuck : Nat := 0
  closed : Bool := false
  acquireTimeoutMs : Nat
deriving Repr

/-- The connection of a task: whether it lives, and whether a transaction is open on it. -/
structure Link where
  alive : Bool := true
  inTransaction : Bool := false
deriving DecidableEq, Repr

/-- What a reply changes about the connection. -/
def Link.after (l : Link) (c : Command) (r : Reply) : Link :=
  match r with
  | .lost => { l with alive := false }
  | .refused _ => l
  | .rows .. | .affected _ => match c with
    | .begin => { l with inTransaction := true }
    | .commit | .rollback => { l with inTransaction := false }
    | .run _ => l

namespace Pool

/-- The first connection of a pool. A pool without room waits for one in vain. -/
def firstAttempt (c : PoolConfig) (network : Network) (script : Script) : Attempt :=
  match addressFault? c.url.toList with
  | some fault => .failed (.configuration fault.message)
  | none => if c.poolSize = 0 then .waits else network.attempt script.startup

/-- Opens a pool. Of the two times to wait the shorter one decides. -/
def create (c : PoolConfig) (network : Network) (script : Script) : Except RunError Pool :=
  match firstAttempt c network script with
  | .opened => .ok
    { network, script
      size := c.poolSize
      waiting := c.initialConnections
      acquireTimeoutMs := c.acquireTimeoutMs }
  | .failed f => .error (RunError.ofFailure f)
  | .waits =>
    if c.connectTimeoutMs < c.acquireTimeoutMs then
      .error (.unavailable (.notEstablished c.connectTimeoutMs))
    else .error (.unavailable (.failure .poolTimedOut))

def close (p : Pool) : Pool := { p with closed := true, waiting := 0 }

/-- Takes a connection: a waiting one, or a new one if there is room. -/
def acquire (p : Pool) : Attempt × Pool :=
  if p.closed then (.failed .poolClosed, p)
  else if 0 < p.waiting then (.opened, { p with waiting := p.waiting - 1 })
  else if p.size ≤ p.stuck then (.waits, p)
  else (p.network.attempt p.script.startup, p)

/-- Sends a command over a living connection. -/
def ask (p : Pool) (c : Command) : Response × Pool :=
  let (r, script) := p.script.respond c.sql
  (r, { p with script, log := p.log ++ [c] })

/-- Plays a conversation to its end, or to the command that is never answered. On a dead connection
nothing is sent any more. -/
def play {α : Type} : Conversation α → Link → Pool → Option α × Link × Pool
  | .done a, l, p => (some a, l, p)
  | .send c next, l, p =>
    if l.alive then
      match p.ask c with
      | (.silence, p) => (none, l, p)
      | (.reply r, p) => play (next r) (l.after c r) p
    else play (next .lost) l p

/-- Takes a connection back after a conversation. A transaction that is still open is rolled back
first. -/
def release (p : Pool) (l : Link) : Pool :=
  if l.alive then
    let p := if l.inTransaction then (p.ask .rollback).2 else p
    { p with waiting := p.waiting + 1 }
  else p

/-- How far a list of steps came: the results of those that ended, and whether one never did. -/
structure Progress (α : Type) where
  results : List (Except RunError α)
  silent : Bool

/-- The error of the step that failed, which is the last one that ended. -/
def Progress.error? {α : Type} (g : Progress α) : Option RunError :=
  match g.results.getLast? with
  | some (.error e) => some e
  | _ => none

/-- Plays steps one after the other, until one fails. -/
def playSteps {α : Type} : List (Work α) → Link → Pool → Progress α × Link × Pool
  | [], l, p => (⟨[], false⟩, l, p)
  | w :: ws, l, p => match play w.conversation l p with
    | (none, l, p) => (⟨[], true⟩, l, p)
    | (some (.error e), l, p) => (⟨[.error e], false⟩, l, p)
    | (some (.ok a), l, p) =>
      let (g, l, p) := playSteps ws l p
      (⟨.ok a :: g.results, g.silent⟩, l, p)

/-- The end of a transaction: the results of its steps, and what failed. -/
structure Ending (α : Type) where
  results : List (Except RunError α) := []
  failed : Option RunError

/-- Ends a transaction whose steps have ended. -/
def conclude {α : Type} (late : RunError) (g : Progress α) (l : Link) (p : Pool) :
    Ending α × Pool :=
  match play (Transaction.closing g.error?) l p with
  | (some failed, l, p) => (⟨g.results, failed⟩, p.release l)
  | (none, _, p) => (⟨g.results, some late⟩, { p with stuck := p.stuck + 1 })

/-- Runs steps in a transaction for an identity. The whole of it, with the wait for a connection,
has to end in time. -/
def transact {α : Type} (p : Pool) (config : RoleConfig) (identity : Identity)
    (steps : List (Work α)) : Ending α × Pool :=
  let late : RunError := .timeout config.transactionTimeoutMs
  match p.acquire with
  | (.failed f, p) => (⟨[], some (.unavailable (.failure f))⟩, p)
  | (.waits, p) =>
    if config.transactionTimeoutMs < p.acquireTimeoutMs then (⟨[], some late⟩, p)
    else (⟨[], some (.unavailable (.failure .poolTimedOut))⟩, p)
  | (.opened, p) => match play (Transaction.opening (identity.settings config)) {} p with
    | (none, _, p) => (⟨[], some late⟩, { p with stuck := p.stuck + 1 })
    | (some (some e), l, p) => (⟨[], some e⟩, p.release l)
    | (some none, l, p) =>
      let (g, l, p) := playSteps steps l p
      if g.silent then (⟨g.results, some late⟩, { p with stuck := p.stuck + 1 })
      else conclude late g l p

/-- Runs work in a transaction for an identity. -/
def run {α : Type} (p : Pool) (config : RoleConfig) (identity : Identity) (work : Work α) :
    Except RunError α × Pool :=
  let (ending, p) := p.transact config identity [work]
  match ending.failed, ending.results with
  | none, [r] => (r, p)
  | some e, _ => (.error e, p)
  | none, _ => (.error (.timeout config.transactionTimeoutMs), p)

/-- A page of a query, in a transaction of its own. A query that does not fit the metadata of its
table is refused before a connection is taken. -/
def fetchPage (p : Pool) (config : RoleConfig) (identity : Identity) (t : Target) (q : Query) :
    Except RunError Page × Pool :=
  match t.validate q with
  | .error e => (.error (.query e), p)
  | .ok () => p.run config identity (Work.fetchPage t q)

/-- Sees whether a connection answers, outside of any transaction; none if it never does. -/
def probe (p : Pool) : Option (Except RunError Unit) × Pool :=
  match p.acquire with
  | (.failed f, p) => (some (.error (RunError.ofFailure f)), p)
  | (.waits, p) => (some (.error (.unavailable (.failure .poolTimedOut))), p)
  | (.opened, p) =>
    let talk : Conversation (Option Failure) :=
      .send (.run ⟨probeText, []⟩) fun r => .done r.failure?
    match play talk {} p with
    | (some none, l, p) => (some (.ok ()), p.release l)
    | (some (some f), l, p) => (some (.error (RunError.ofFailure f)), p.release l)
    | (none, _, p) => (none, { p with stuck := p.stuck + 1 })

end Pool

end RowGate
