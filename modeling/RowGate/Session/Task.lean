import RowGate.Session.Error
import RowGate.Sql.Fragment

/-! # Tasks

A task speaks with the server: it sends commands, one at a time, and goes on with the replies. Its
tree of possible conversations is the whole of its behaviour.
-/

namespace RowGate

inductive ColumnType where
  | jsonb
  | int8
  | text
deriving DecidableEq, Repr

/-- What comes back for a command: rows of one column, a count of changed rows, an error, or the
end of the connection. -/
inductive Reply where
  | rows (values : List Json) (type : ColumnType)
  | affected (n : Nat)
  | refused (e : ServerError)
  | lost
deriving DecidableEq, Repr

namespace Reply

/-- The detail of a connection that ends in the middle of a conversation. -/
def lostDetail : String := "expected to read 5 bytes, got 0 bytes at EOF"

/-- What keeps a command from having succeeded. -/
def failure? : Reply → Option Failure
  | refused e => some (.server e)
  | lost => some (.io lostDetail)
  | rows .. | affected _ => none

end Reply

/-- A conversation that ends with a result. -/
inductive Task (κ : Type) (α : Type) where
  | done (a : α)
  | send (command : κ) (next : Reply → Task κ α)

namespace Task

variable {κ κ' α β : Type}

/-- Goes on with another task. -/
def bind : Task κ α → (α → Task κ β) → Task κ β
  | done a, f => f a
  | send c next, f => send c fun r => bind (next r) f

instance : Monad (Task κ) where
  pure := done
  bind := bind

/-- Sends each command in another form. -/
def mapCommand (g : κ → κ') : Task κ α → Task κ' α
  | done a => done a
  | send c next => send (g c) fun r => mapCommand g (next r)

end Task

/-- A task that runs statements and may fail. -/
abbrev Work (α : Type) := ExceptT RunError (Task Statement) α

namespace Work

/-- Runs a statement and reads its reply. -/
def run {α : Type} (s : Statement) (read : Reply → Except Failure α) : Work α :=
  ExceptT.mk (.send s fun r => .done (match read r with
    | .ok a => .ok a
    | .error f => .error (RunError.ofFailure f)))

/-- The rows of a reply, which have to be documents. -/
def readDocuments : Reply → Except Failure (List Json)
  | .rows [] _ => .ok []
  | .rows vs .jsonb => .ok vs
  | .rows .. => .error .columnType
  | .affected _ => .ok []
  | .refused e => .error (.server e)
  | .lost => .error (.io Reply.lostDetail)

/-- The document of the first row. -/
def readDocument (r : Reply) : Except Failure Json :=
  match r, readDocuments r with
  | _, .ok (v :: _) => .ok v
  | _, .ok [] => .error .rowNotFound
  | _, .error f => .error f

/-- The number in the first row. -/
def readNumber : Reply → Except Failure Int
  | .rows [] _ => .error .rowNotFound
  | .rows (.number (.int n) :: _) .int8 => .ok n
  | .rows .. => .error .columnType
  | .affected _ => .error .rowNotFound
  | .refused e => .error (.server e)
  | .lost => .error (.io Reply.lostDetail)

/-- The number of rows that a statement changed or returned. -/
def readAffected : Reply → Except Failure Nat
  | .rows vs _ => .ok vs.length
  | .affected n => .ok n
  | .refused e => .error (.server e)
  | .lost => .error (.io Reply.lostDetail)

end Work

end RowGate
