import Mathlib.Data.List.DropRight
import Mathlib.Data.List.Perm.Subperm
import RowGate.Proofs.Text.Quoted
import RowGate.Session.Compensation

/-! # The registry of compensations

After any operations a registry holds what was registered since the last of them that was no
registration. That is what a run or a drop executes, whichever of the actions fail, and what the
registry shows in the meantime. So no action is executed more often than it was registered.
-/

namespace RowGate.Compensations

namespace Operation

/-- The action that an operation registers. -/
def action? : Operation → Option Undo
  | register u => some u
  | disarm | run | drop _ => none

/-- The log of an operation when the actions `us` are due, the oldest first. -/
def logOf (us : List Undo) : Operation → UndoLog
  | run | drop true => ⟨us.reverse.map (·.label), us.countP (·.fails)⟩
  | register _ | disarm | drop false => {}

end Operation

/-- The registry after operations, one after the other. -/
def after (c : Compensations) (ops : List Operation) : Compensations :=
  ops.foldl (fun c op ↦ (c.apply op).2) c

/-- The logs of operations, one after the other. -/
def logs (c : Compensations) : List Operation → List UndoLog
  | [] => []
  | op :: ops => (c.apply op).1 :: (c.apply op).2.logs ops

/-- The actions that were registered since the last run, disarm or drop, the oldest first. -/
def registeredSince (ops : List Operation) : List Undo :=
  (ops.rtakeWhile fun op ↦ op.action?.isSome).filterMap Operation.action?

/-- The labels of actions, in order. -/
def labels (us : List Undo) : List String := us.map (·.label)

theorem labels_append (us us' : List Undo) : labels (us ++ us') = labels us ++ labels us' :=
  List.map_append

variable {c : Compensations} {op : Operation} {ops : List Operation} {u : Undo}

/-! ## One operation -/

/-- A run starts the actions from the newest on, and counts those that fail. -/
theorem ofRun_reverse (us : List Undo) :
    UndoLog.ofRun us.reverse = ⟨us.reverse.map (·.label), us.countP (·.fails)⟩ := by
  rw [← List.countP_reverse, ← UndoLog.ran_ofRun, ← UndoLog.failed_ofRun]

/-- What an operation logs depends on the actions that are due. -/
theorem log_apply (c : Compensations) (op : Operation) : (c.apply op).1 = op.logOf c.pending := by
  match op with
  | .register _ | .disarm | .drop false => rfl
  | .run | .drop true => exact ofRun_reverse c.pending

/-- A registered action is due behind the others. -/
theorem pending_apply_of_some (h : op.action? = some u) :
    (c.apply op).2.pending = c.pending ++ [u] := by
  cases op with
  | register u' => exact congrArg (c.pending ++ [·]) (Option.some.inj h)
  | disarm | run | drop _ => cases h

/-- Every other operation leaves no action due. -/
theorem pending_apply_of_none (h : op.action? = none) : (c.apply op).2.pending = [] := by
  match op with
  | .register _ => cases h
  | .disarm | .run | .drop true | .drop false => rfl

/-- What an operation executes and what it leaves was pending before, or is registered by it. -/
theorem subperm_apply (c : Compensations) (op : Operation) :
    ((c.apply op).1.ran ++ labels (c.apply op).2.pending).Subperm
      (labels c.pending ++ labels op.action?.toList) := by
  have hrun : (UndoLog.ofRun c.pending.reverse).ran.Perm (labels c.pending) := by
    rw [UndoLog.ran_ofRun]
    exact c.pending.reverse_perm.map _
  match op with
  | .register u =>
    exact (List.Perm.of_eq (labels_append c.pending [u])).subperm
  | .disarm | .drop false => exact List.nil_subperm
  | .run | .drop true => exact (hrun.append_right []).subperm

/-! ## Many operations -/

/-- A registration is one more since the last operation that cleared the registry. -/
theorem registeredSince_concat_of_some (h : op.action? = some u) (ops : List Operation) :
    registeredSince (ops ++ [op]) = registeredSince ops ++ [u] := by
  rw [registeredSince, List.rtakeWhile_concat_pos _ _ _ (by simp [h]), List.filterMap_append,
    registeredSince]
  simp [h]

/-- An operation that clears the registry begins anew. -/
theorem registeredSince_concat_of_none (h : op.action? = none) (ops : List Operation) :
    registeredSince (ops ++ [op]) = [] := by
  rw [registeredSince, List.rtakeWhile_concat_neg _ _ _ (by simp [h])]
  rfl

/-- A registry holds what was registered since it was last emptied. -/
theorem pending_after (ops : List Operation) :
    (after {} ops).pending = registeredSince ops := by
  induction ops using List.reverseRecOn with
  | nil => rfl
  | append_singleton ops op ih =>
    rw [after, List.foldl_append] at *
    cases h : op.action? with
    | some u => exact (pending_apply_of_some h).trans (by rw [registeredSince_concat_of_some h, ih])
    | none => exact (pending_apply_of_none h).trans (registeredSince_concat_of_none h ops).symm

/-- Each operation executes what is pending when its turn comes. -/
theorem logs_getElem? (c : Compensations) (ops : List Operation) (i : Nat) :
    (c.logs ops)[i]? = ops[i]?.map fun op ↦ op.logOf (c.after (ops.take i)).pending := by
  induction ops generalizing c i with
  | nil => rfl
  | cons op ops ih =>
    cases i with
    | zero => exact congrArg some (log_apply c op)
    | succ i => exact ih (c.apply op).2 i

/-- What operations execute and what they leave was pending before, or is registered by them. -/
theorem subperm_logs (c : Compensations) (ops : List Operation) :
    ((c.logs ops).flatMap (·.ran) ++ labels (c.after ops).pending).Subperm
      (labels c.pending ++ labels (ops.filterMap Operation.action?)) := by
  induction ops generalizing c with
  | nil => exact (List.Perm.of_eq (List.append_nil _).symm).subperm
  | cons op ops ih =>
    have hactions : (op :: ops).filterMap Operation.action? =
        op.action?.toList ++ ops.filterMap Operation.action? := by
      cases h : op.action? with
      | some u => exact List.filterMap_cons_some h
      | none => exact List.filterMap_cons_none h
    have hlogged : ((c.logs (op :: ops)).flatMap (·.ran) ++ labels (c.after (op :: ops)).pending) =
        (c.apply op).1.ran ++ (((c.apply op).2.logs ops).flatMap (·.ran) ++
          labels ((c.apply op).2.after ops).pending) := by
      rw [logs, List.flatMap_cons, List.append_assoc]
      rfl
    have hlater := (List.subperm_append_left (c.apply op).1.ran).mpr (ih (c.apply op).2)
    have hnow := (List.subperm_append_right (labels (ops.filterMap Operation.action?))).mpr
      (subperm_apply c op)
    rw [List.append_assoc, List.append_assoc] at hnow
    rw [hlogged, hactions, labels_append]
    exact hlater.trans hnow

/-- The text that shows actions under their labels. -/
def shown (ls : List String) : String :=
  "Compensations \x7b pending: " ++ Text.quoteList ls ++ " \x7d"

/-- Different lists of labels are shown differently. -/
theorem shown_inj {ls ls' : List String} : shown ls = shown ls' ↔ ls = ls' := by
  unfold shown
  rw [String.append_left_inj, String.append_right_inj]
  exact Text.quoteList_inj

/-- Whatever is done with a new registry, a run or a drop inside a scheduler executes, each once and
the newest first, the actions that were registered since the last run, disarm or drop, and counts
those that fail; nothing else executes an action. The size, the emptiness and the list that is shown
are those of the actions that are registered and wait. Over all operations no action is executed
more often than it was registered, and none that still waits. -/
theorem operations_logged (ops : List Operation) :
    (∀ i, (logs {} ops)[i]? =
      ops[i]?.map fun op : Operation ↦ op.logOf (registeredSince (ops.take i))) ∧
    (after {} ops).size = (registeredSince ops).length ∧
    ((after {} ops).isEmpty = true ↔ registeredSince ops = []) ∧
    (∀ ls, (after {} ops).describe = shown ls ↔ labels (registeredSince ops) = ls) ∧
    ((logs {} ops).flatMap (·.ran) ++ labels (registeredSince ops)).Subperm
      (labels (ops.filterMap Operation.action?)) := by
  refine ⟨fun i ↦ ?_, ?_, ?_, fun ls ↦ ?_, ?_⟩
  · simp only [logs_getElem?, pending_after]
  · rw [size, pending_after]
  · rw [isEmpty, pending_after, List.isEmpty_iff]
  · rw [← pending_after]
    exact shown_inj
  · have h := subperm_logs {} ops
    rwa [pending_after] at h

/-- An action that fails keeps none from running, and a second run finds nothing. -/
example : logs {} [.register ⟨"a", false⟩, .register ⟨"b", true⟩, .run, .run] =
    [{}, {}, ⟨["b", "a"], 1⟩, {}] := by
  decide

end RowGate.Compensations
