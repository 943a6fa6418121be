import RowGate.Session.Compensation

/-! # Recovery

A request with compensations, as it works, fails, and undoes what it did. After a failure the
actions run one at a time, as part of the request: whoever drops the request then drops the
actions that have not started. A request that is dropped while it works leaves its actions to the
scheduler, which starts them all.
-/

namespace RowGate

/-- Where a request stands. -/
inductive Recovery where
  | working (c : Compensations)
  | undoing (running : Undo) (waiting : List Undo)
  | answered (success : Bool)
  | dropped
deriving DecidableEq, Repr

namespace Recovery

inductive Event where
  /-- The request's work and its commit succeed. -/
  | succeeded
  /-- The work fails, its commit fails, or its time is up. -/
  | failed
  /-- The action that runs comes to its end, well or not. -/
  | undone
  /-- Nobody waits for the request any more. -/
  | abandoned
deriving DecidableEq, Repr

/-- Starts the first of the actions, or answers with the failure if none is left. -/
def undo : List Undo → List String × Recovery
  | [] => ([], answered false)
  | u :: us => ([u.label], undoing u us)

/-- The labels of the actions that an event starts, and where the request stands after it. -/
def step : Recovery → Event → List String × Recovery
  | working _, .succeeded => ([], answered true)
  | working c, .failed => undo c.pending.reverse
  | working c, .abandoned => ((c.drop true).1.ran, dropped)
  | undoing _ waiting, .undone => undo waiting
  | undoing .., .abandoned => ([], dropped)
  | r, _ => ([], r)

/-- The labels of the actions that events start, in order. -/
def started (r : Recovery) : List Event → List String
  | [] => []
  | e :: es => (r.step e).1 ++ (r.step e).2.started es

end Recovery

namespace Compensations

/-- What runs at the end of a transaction if every action is awaited. -/
def afterTransaction (c : Compensations) (committed : Bool) : List String :=
  (Recovery.working c).started <|
    if committed then [.succeeded] else .failed :: List.replicate c.size .undone

end Compensations

end RowGate
