import RowGate.Text.Escape

/-! # Compensations

Actions that undo what was done outside the database, in case a transaction does not commit. They
are registered in order and run in the opposite one.
-/

namespace RowGate

/-- An action under its label, and whether it is going to fail. -/
structure Undo where
  label : String
  fails : Bool := false
deriving DecidableEq, Repr

/-- Labels of actions that ran, in order, and how many of the actions failed. -/
structure UndoLog where
  ran : List String := []
  failed : Nat := 0
deriving DecidableEq, Repr

/-- Runs actions one after the other. One that fails does not keep the next from running. -/
def UndoLog.ofRun : List Undo → UndoLog
  | [] => {}
  | u :: us =>
    let log := ofRun us
    { ran := u.label :: log.ran
      failed := if u.fails then log.failed + 1 else log.failed }

/-- The pending actions in the order of registration. -/
structure Compensations where
  pending : List Undo := []
deriving DecidableEq, Repr

namespace Compensations

def size (c : Compensations) : Nat := c.pending.length

def isEmpty (c : Compensations) : Bool := c.pending.isEmpty

/-- The pending labels for a reader. -/
def describe (c : Compensations) : String :=
  "Compensations \x7b pending: " ++ Text.quoteList (c.pending.map (·.label)) ++ " \x7d"

def register (c : Compensations) (u : Undo) : Compensations := ⟨c.pending ++ [u]⟩

def disarm (_ : Compensations) : Compensations := {}

/-- Runs what is pending, the newest first, and leaves nothing. -/
def run (c : Compensations) : UndoLog × Compensations := (.ofRun c.pending.reverse, {})

/-- Runs what is pending in a registry that nobody holds any more. Without a scheduler there is
nothing to run it on. -/
def drop (c : Compensations) (scheduler : Bool) : UndoLog × Compensations :=
  if scheduler then c.run else ({}, {})

/-- What can be done with a registry. After `drop` an empty one takes its place. -/
inductive Operation where
  | register (u : Undo)
  | disarm
  | run
  | drop (scheduler : Bool)
deriving DecidableEq, Repr

/-- What an operation runs, and the registry after it. -/
def apply (c : Compensations) : Operation → UndoLog × Compensations
  | .register u => ({}, c.register u)
  | .disarm => ({}, c.disarm)
  | .run => c.run
  | .drop scheduler => c.drop scheduler

end Compensations

theorem UndoLog.ran_ofRun (us : List Undo) : (ofRun us).ran = us.map (·.label) := by
  induction us with
  | nil => rfl
  | cons u us ih => rw [ofRun, List.map_cons, ← ih]

theorem UndoLog.failed_ofRun (us : List Undo) : (ofRun us).failed = us.countP (·.fails) := by
  induction us with
  | nil => rfl
  | cons u us ih =>
    rw [ofRun, List.countP_cons, ← ih]
    cases u.fails <;> rfl

end RowGate
