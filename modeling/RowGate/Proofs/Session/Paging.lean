import RowGate.Proofs.Session.Conversation
import RowGate.Proofs.Sql.Agreement
import RowGate.Session.Page

/-! # Pages and the compiler

The statements of a page are compiled one by one, between the replies of the server. Main statement:
whatever the server replies, a page that has sent its first statement never fails in the compiler,
as the rows come first and are compiled only if the total and the plan are.
-/

namespace RowGate

/-! ## How tasks end -/

namespace Task

variable {κ α β : Type}

/-- Whatever the replies, the task ends with a result of a kind. -/
def Ends (P : α → Prop) : Task κ α → Prop
  | done a => P a
  | send _ next => ∀ r, Ends P (next r)

variable {P : α → Prop} {Q : β → Prop} {t : Task κ α}

/-- Where a task has ended, its result is of the kind that all its ends are of. -/
theorem Follows.of_ends {said : List (κ × Reply)} {a : α} (h : Follows t said (done a))
    (ht : t.Ends P) : P a := by
  generalize hu : done a = u at h
  induction h with
  | nil t =>
    subst hu
    exact ht
  | @cons c next r said t _ ih => exact ih (ht r) hu

/-- A task ends as the last of its parts does. -/
theorem Ends.bind {f : α → Task κ β} (ht : t.Ends P) (hf : ∀ a, P a → (f a).Ends Q) :
    (t.bind f).Ends Q := by
  induction t with
  | done a => exact hf a ht
  | send c next ih => exact fun r ↦ ih r (ht r)

end Task

/-! ## Work without errors of the compiler -/

namespace Work

variable {α β : Type} {w : Work α}

/-- Whatever the replies, the work does not fail in the compiler. -/
def IsCompiled (w : Work α) : Prop :=
  Task.Ends (fun r ↦ ∀ e, r ≠ .error (.query e)) (ExceptT.run w)

/-- Work that has its result asks for no statement. -/
theorem IsCompiled.pure (a : α) : IsCompiled (Pure.pure a : Work α) := fun _ h ↦ nomatch h

/-- Work goes on as it has begun, without errors of the compiler. -/
theorem IsCompiled.bind {f : α → Work β} (hw : w.IsCompiled) (hf : ∀ a, (f a).IsCompiled) :
    (w >>= f).IsCompiled := by
  refine Task.Ends.bind (t := ExceptT.run w) hw fun r hr ↦ ?_
  cases r with
  | ok a => exact hf a
  | error e =>
    intro e' h
    cases h
    exact hr e' rfl

/-- A failure of the server is none of the compiler. -/
theorem ofFailure_ne_query (f : Failure) (e : QueryError) : RunError.ofFailure f ≠ .query e := by
  intro h
  unfold RunError.ofFailure at h
  split at h
  · cases h
  · split at h
    · split at h
      · cases h
      · split at h <;> cases h
    · cases h

/-- A statement fails in the server, and not in the compiler. -/
theorem IsCompiled.run (s : Statement) (read : Reply → Except Failure α) :
    IsCompiled (run s read) := by
  intro r e
  split
  · exact fun h ↦ nomatch h
  next f _ => exact fun h ↦ ofFailure_ne_query f e (Except.error.inj h)

/-- A statement that compiles does not fail in the compiler. -/
theorem IsCompiled.ofQuery {x : Except QueryError α} (h : ∃ a, x = .ok a) :
    IsCompiled (ofQuery x) := by
  obtain ⟨a, rfl⟩ := h
  exact .pure a

theorem IsCompiled.fetchPlannedCount (s : Statement) : IsCompiled (fetchPlannedCount s) := by
  refine (IsCompiled.run s readDocument).bind fun plan ↦ ?_
  cases planRows? plan with
  | some n => exact .pure n
  | none => exact fun _ h ↦ nomatch h

variable {t : Target} {q : Query}

/-- A total takes the statement that counts or the one that plans, as the query asks for. -/
theorem IsCompiled.fetchTotal (htotal : ∃ s, t.count q = .ok s) (hplan : ∃ s, t.explain q = .ok s) :
    IsCompiled (fetchTotal t q) := by
  have hcounted : IsCompiled (do return some (← fetchCount (← Work.ofQuery (t.count q)))) :=
    (ofQuery htotal).bind fun s ↦ (run s readNumber).bind fun n ↦ .pure (some n)
  rw [Work.fetchTotal]
  cases q.count with
  | none => exact .pure none
  | exact => exact hcounted
  | planned =>
    exact (ofQuery hplan).bind fun s ↦ (fetchPlannedCount s).bind fun n ↦ .pure (some n)
  | estimated =>
    refine (ofQuery hplan).bind fun s ↦ (fetchPlannedCount s).bind fun n ↦ ?_
    split
    · exact hcounted
    · exact .pure (some n)

/-- Past the compilation of its rows, a page does not fail in the compiler. -/
theorem IsCompiled.fetchPage (hvalid : t.validate q = .ok ()) (hrows : ∃ s, t.rows q = .ok s)
    (htotal : ∃ s, t.count q = .ok s) (hplan : ∃ s, t.explain q = .ok s) :
    IsCompiled (fetchPage t q) :=
  (ofQuery ⟨(), hvalid⟩).bind fun _ ↦ (ofQuery hrows).bind fun s ↦
    (run s readDocuments).bind fun _ ↦ (fetchTotal htotal hplan).bind fun _ ↦ .pure _

end Work

/-- The statements of a query agree. There is a SELECT if and only if there is a page; then there
are the total and the plan, too, with the same values in the same condition. A page that has sent a
statement has no error of the compiler left to report, whatever was replied and however it counts.

The only queries left out have more order terms than names of 63 bytes can number, which no list in
memory has. -/
theorem statements_agree {t : Target} {q : Query} (hkeys : q.order.length < 10 ^ 56) :
    ((∃ st, t.select q = .ok st) ↔ ∃ page, t.rows q = .ok page) ∧
    (∀ st, t.select q = .ok st → ∃ page total plan, t.rows q = .ok page ∧
      t.count q = .ok total ∧ t.explain q = .ok plan ∧ t.Agree q st page total plan) ∧
    ∀ said e, Task.Follows (ExceptT.run (Work.fetchPage t q)) said (.done (.error (.query e))) →
      said = [] := by
  have hagree (st : Statement) (h : t.select q = .ok st) := Target.agree_of_select hkeys h
  refine ⟨⟨?_, fun ⟨_, h⟩ ↦ Target.select_of_rows h⟩, hagree, ?_⟩
  · rintro ⟨st, hst⟩
    obtain ⟨page, -, -, hpage, -⟩ := hagree st hst
    exact ⟨page, hpage⟩
  · intro said e h
    cases hvalid : t.validate q with
    | error e' =>
      have hrun : ExceptT.run (Work.fetchPage t q) = .done (.error (.query e')) := by
        rw [Work.fetchPage, hvalid]
        rfl
      rw [hrun] at h
      cases h
      rfl
    | ok _ =>
      cases hrows : t.rows q with
      | error e' =>
        have hrun : ExceptT.run (Work.fetchPage t q) = .done (.error (.query e')) := by
          rw [Work.fetchPage, hvalid, hrows]
          rfl
        rw [hrun] at h
        cases h
        rfl
      | ok page =>
        obtain ⟨st, hst⟩ := Target.select_of_rows hrows
        obtain ⟨-, total, plan, -, htotal, hplan, -⟩ := hagree st hst
        have hcompiled := Work.IsCompiled.fetchPage hvalid ⟨page, hrows⟩ ⟨total, htotal⟩
          ⟨plan, hplan⟩
        exact absurd rfl (h.of_ends hcompiled e)

/-- The second page of the towns with many documents, by their number, with an estimated total. -/
def busyTowns : Query where
  filters := [{ column := "a", operator := .gt, value := .string "3" }]
  order := [{ column := "n", descending := true }, { column := "b" }]
  limit := some 10
  offset := some 10
  aggregations := [{ function := .countAll, label := some "n" }]
  groupBy := ["b"]
  count := .estimated

def busyTownsBase : String :=
  "SELECT \"b\", COUNT(*) AS \"n\" FROM \"t\" WHERE \"a\" > $1::integer GROUP BY \"b\""

theorem statements_agree_busyTowns : busyTowns.order.length < 10 ^ 56 ∧
    typedTarget.select busyTowns = .ok
      ⟨busyTownsBase ++ " ORDER BY \"n\" DESC, \"b\" ASC LIMIT 10 OFFSET 10", [.text "3"]⟩ ∧
    (∃ page, typedTarget.rows busyTowns = .ok page ∧ page.params = [.text "3"] ∧
      (ExceptT.run (Work.fetchPage typedTarget busyTowns)).next? = some page) ∧
    (∃ plan, typedTarget.explain busyTowns = .ok plan ∧ plan.params = [.text "3"]) ∧
    ∀ said e,
      Task.Follows (ExceptT.run (Work.fetchPage typedTarget busyTowns)) said
        (.done (.error (.query e))) → said = [] := by
  have hkeys : busyTowns.order.length < 10 ^ 56 := by decide
  have hselect : typedTarget.select busyTowns = .ok
      ⟨busyTownsBase ++ " ORDER BY \"n\" DESC, \"b\" ASC LIMIT 10 OFFSET 10", [.text "3"]⟩ := by
    decide +kernel
  have hvalid : typedTarget.validate busyTowns = .ok () := by decide +kernel
  obtain ⟨-, hagree, hpaged⟩ := statements_agree (t := typedTarget) hkeys
  obtain ⟨page, total, plan, hpage, -, hplan, hparams⟩ := hagree _ hselect
  have hnext : (ExceptT.run (Work.fetchPage typedTarget busyTowns)).next? = some page := by
    rw [Work.fetchPage, hvalid, hpage]
    rfl
  exact ⟨hkeys, hselect, ⟨page, hpage, hparams.params.1, hnext⟩,
    ⟨plan, hplan, hparams.params.2.2⟩, hpaged⟩

end RowGate
