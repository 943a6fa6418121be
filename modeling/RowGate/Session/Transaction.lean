import RowGate.Session.Identity
import RowGate.Session.Task

/-! # Transactions

A request runs in a transaction of its own. The identity is set first, for this transaction only;
then the request's work runs; work that succeeds is committed, any other rolled back.
-/

namespace RowGate

/-- What is sent to the server. -/
inductive Command where
  | begin
  | commit
  | rollback
  | run (s : Statement)
deriving DecidableEq, Repr

def Command.sql : Command → String
  | begin => "BEGIN"
  | commit => "COMMIT"
  | rollback => "ROLLBACK"
  | run s => s.sql

abbrev Conversation (α : Type) := Task Command α

/-- Work as it is sent inside a transaction. -/
def Work.conversation {α : Type} (w : Work α) : Conversation (Except RunError α) :=
  (ExceptT.run w).mapCommand Command.run

namespace Transaction

/-- Begins, and applies the settings of an identity. -/
def opening (settings : List (String × String)) : Conversation (Option RunError) :=
  .send .begin fun r => match r.failure? with
    | some f => .done (some (.unavailable (.failure f)))
    | none => .send (.run (settingsStatement settings)) fun r =>
      .done (r.failure?.map RunError.ofFailure)

/-- Commits, or rolls back on an error of the work. -/
def closing : Option RunError → Conversation (Option RunError)
  | none => .send .commit fun r => .done (r.failure?.map RunError.ofFailure)
  | some e => .send .rollback fun _ => .done (some e)

end Transaction

end RowGate
