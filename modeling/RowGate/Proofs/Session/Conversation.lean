import RowGate.Session.Server

/-! # The conversation of a request

A request opens its transaction, lets its work speak, and closes the transaction. What was said so
far tells how far the request has come.
-/

namespace RowGate

namespace Task

variable {κ κ' α β : Type}

/-- The command that a task sends next, if it has not ended. -/
def next? : Task κ α → Option κ
  | done _ => none
  | send c _ => some c

/-- Told replies to its commands, a task goes on as another task. -/
inductive Follows : Task κ α → List (κ × Reply) → Task κ α → Prop
  | nil (t : Task κ α) : Follows t [] t
  | cons {c : κ} {next : Reply → Task κ α} {r : Reply} {h : List (κ × Reply)} {t : Task κ α} :
    Follows (next r) h t → Follows (send c next) ((c, r) :: h) t

/-- A task that has been followed up to a command goes on with the reply to it. -/
theorem Follows.concat {t : Task κ α} {h : List (κ × Reply)} {c : κ} {next : Reply → Task κ α}
    (ht : Follows t h (send c next)) (r : Reply) : Follows t (h ++ [(c, r)]) (next r) := by
  generalize hu : send c next = u at ht
  induction ht with
  | nil t =>
    subst hu
    exact .cons (.nil _)
  | cons _ ih => exact .cons (ih hu)

end Task

namespace Transaction

variable {α : Type}

def error? : Except RunError α → Option RunError
  | .ok _ => none
  | .error e => some e

/-- Closes the transaction of work that has ended, and ends with its result. -/
def conclusion (r : Except RunError α) : Conversation (Except RunError α) :=
  (closing (error? r)).bind fun
    | some e => .done (.error e)
    | none => .done r

/-- What follows when the settings of the identity were applied, or were not. -/
def proceed (w : Task Statement (Except RunError α)) :
    Option RunError → Conversation (Except RunError α)
  | some e => .done (.error e)
  | none => (w.mapCommand Command.run).bind conclusion

/-- The whole of a request. -/
def request (settings : List (String × String)) (w : Work α) :
    Conversation (Except RunError α) :=
  (opening settings).bind (proceed (ExceptT.run w))

/-- A request that has begun its transaction. -/
def applying (settings : List (String × String)) (w : Work α) :
    Conversation (Except RunError α) :=
  .send (.run (settingsStatement settings)) fun r ↦
    proceed (ExceptT.run w) (r.failure?.map RunError.ofFailure)

/-- A request begins its transaction, and ends if it cannot. -/
theorem request_eq (settings : List (String × String)) (w : Work α) :
    request settings w = .send .begin fun r ↦ match r.failure? with
      | some f => .done (.error (.unavailable (.failure f)))
      | none => applying settings w := by
  rw [request, opening, Task.bind]
  congr 1
  funext r
  cases r.failure? <;> rfl

/-- Work that succeeds is committed, and its result is given if the server commits. -/
theorem conclusion_ok (a : α) : conclusion (.ok a) = .send .commit fun r ↦
    .done (match r.failure? with
      | some f => .error (.ofFailure f)
      | none => .ok a) := by
  rw [conclusion, error?, closing, Task.bind]
  congr 1
  funext r
  cases r.failure? <;> rfl

/-- Work that fails is rolled back, whatever the server says to that. -/
theorem conclusion_error (e : RunError) :
    conclusion (.error e : Except RunError α) = .send .rollback fun _ ↦ .done (.error e) := rfl

theorem proceed_send (s : Statement) (next : Reply → Task Statement (Except RunError α)) :
    proceed (.send s next) none = .send (.run s) fun r ↦ proceed (next r) none := rfl

theorem proceed_done (r : Except RunError α) : proceed (.done r) none = conclusion r := rfl

/-- What was said in a transaction that is open for work. -/
def opened (settings : List (String × String)) (r r' : Reply)
    (h : List (Statement × Reply)) : List (Command × Reply) :=
  (.begin, r) :: (.run (settingsStatement settings), r') :: h.map fun p ↦ (.run p.1, p.2)

/-- How far a request has come: what was said, and what it is still going to say. -/
inductive Stage (settings : List (String × String)) (w : Work α) :
    List (Command × Reply) → Conversation (Except RunError α) → Prop
  | start : Stage settings w [] (request settings w)
  | refused {r : Reply} {f : Failure} : r.failure? = some f →
    Stage settings w [(.begin, r)] (.done (.error (.unavailable (.failure f))))
  | begun {r : Reply} : r.failure? = none → Stage settings w [(.begin, r)] (applying settings w)
  | unset {r r' : Reply} {f : Failure} : r.failure? = none → r'.failure? = some f →
    Stage settings w (opened settings r r' []) (.done (.error (.ofFailure f)))
  | working {r r' : Reply} {h : List (Statement × Reply)}
    {t : Task Statement (Except RunError α)} : r.failure? = none → r'.failure? = none →
    Task.Follows (ExceptT.run w) h t → Stage settings w (opened settings r r' h) (proceed t none)
  | rolledBack {r r' r'' : Reply} {h : List (Statement × Reply)} {e : RunError} :
    r.failure? = none → r'.failure? = none → Task.Follows (ExceptT.run w) h (.done (.error e)) →
    Stage settings w (opened settings r r' h ++ [(Command.rollback, r'')]) (.done (.error e))
  | committed {r r' r'' : Reply} {h : List (Statement × Reply)} {a : α} :
    r.failure? = none → r'.failure? = none → Task.Follows (ExceptT.run w) h (.done (.ok a)) →
    Stage settings w (opened settings r r' h ++ [(Command.commit, r'')])
      (.done (match r''.failure? with
        | some f => .error (.ofFailure f)
        | none => .ok a))

variable {settings : List (String × String)} {w : Work α} {h : List (Command × Reply)}
  {t : Conversation (Except RunError α)}

/-- A reply takes a request from one stage to another. -/
theorem Stage.concat {c : Command} {next : Reply → Conversation (Except RunError α)}
    (hs : Stage settings w h t) (ht : t = .send c next) (r : Reply) :
    Stage settings w (h ++ [(c, r)]) (next r) := by
  cases hs with
  | start =>
    rw [request_eq] at ht
    obtain ⟨rfl, rfl⟩ := Task.send.inj ht
    cases hr : r.failure? with
    | some f =>
      simp only [hr]
      exact .refused hr
    | none =>
      simp only [hr]
      exact .begun hr
  | refused _ => cases ht
  | begun hr =>
    obtain ⟨rfl, rfl⟩ := Task.send.inj ht
    cases hr' : r.failure? with
    | some f =>
      simp only [hr']
      exact .unset hr hr'
    | none =>
      simp only [hr']
      exact .working hr hr' (.nil _)
  | unset _ _ => cases ht
  | @working r₁ r₂ h u hr₁ hr₂ hu =>
    cases u with
    | done a =>
      rw [proceed_done] at ht
      cases a with
      | error e =>
        rw [conclusion_error] at ht
        obtain ⟨rfl, rfl⟩ := Task.send.inj ht
        exact .rolledBack hr₁ hr₂ hu
      | ok a =>
        rw [conclusion_ok] at ht
        obtain ⟨rfl, rfl⟩ := Task.send.inj ht
        exact .committed hr₁ hr₂ hu
    | send s next =>
      rw [proceed_send] at ht
      obtain ⟨rfl, rfl⟩ := Task.send.inj ht
      have hnext : Stage settings w (opened settings r₁ r₂ (h ++ [(s, r)]))
          (proceed (next r) none) := .working hr₁ hr₂ (hu.concat r)
      rw [opened, List.map_append] at hnext
      exact hnext
  | rolledBack _ _ _ => cases ht
  | committed _ _ _ => cases ht

/-- The command that work leads to, if it has not ended or has. -/
def closingCommand : Task Statement (Except RunError α) → Command
  | .send s _ => .run s
  | .done (.ok _) => .commit
  | .done (.error _) => .rollback

/-- The commands of a request up to the next one of its work, or up to the end of its
transaction. -/
def script (settings : List (String × String)) (h : List (Statement × Reply))
    (t : Task Statement (Except RunError α)) : List Command :=
  Command.begin :: Command.run (settingsStatement settings) ::
    h.map (fun p ↦ Command.run p.1) ++ [closingCommand t]

/-- Before its work a request has begun its transaction and applied its settings. -/
theorem commands_opened (settings : List (String × String)) (r r' : Reply)
    (h : List (Statement × Reply)) : (opened settings r r' h).map Prod.fst =
      .begin :: .run (settingsStatement settings) :: h.map fun p ↦ .run p.1 := by
  rw [opened, List.map_cons, List.map_cons, List.map_map]
  rfl

/-- Work goes on with its next statement, or ends in the command that closes it. -/
theorem next?_proceed (t : Task Statement (Except RunError α)) :
    (proceed t none).next? = some (closingCommand t) := by
  match t with
  | .send s next => rfl
  | .done (.ok a) => rfl
  | .done (.error e) => rfl

/-- What a request said and says next follows its script, and its work goes on with the replies that
it hears. -/
theorem Stage.script (hs : Stage settings w h t) :
    ∃ hw u, Task.Follows (ExceptT.run w) hw u ∧
      hw.map (fun p ↦ (Command.run p.1, p.2)) <+: h.drop 2 ∧
      h.map Prod.fst ++ t.next?.toList <+: script settings hw u := by
  cases hs with
  | start =>
    refine ⟨[], _, .nil _, List.nil_prefix, ?_⟩
    simp [Transaction.script, request_eq, Task.next?]
  | refused _ =>
    refine ⟨[], _, .nil _, List.nil_prefix, ?_⟩
    simp [Transaction.script, Task.next?]
  | begun _ =>
    refine ⟨[], _, .nil _, List.nil_prefix, ?_⟩
    simp [Transaction.script, applying, Task.next?]
  | unset _ _ =>
    refine ⟨[], _, .nil _, List.nil_prefix, ?_⟩
    simp [Transaction.script, commands_opened, Task.next?]
  | @working _ _ h u _ _ hu =>
    refine ⟨h, u, hu, List.prefix_refl _, ?_⟩
    rw [commands_opened, next?_proceed]
    exact List.prefix_refl _
  | @rolledBack _ _ _ h e _ _ hu =>
    refine ⟨h, _, hu, List.prefix_append _ _, ?_⟩
    rw [List.map_append, commands_opened, Task.next?, Option.toList_none, List.append_nil]
    exact List.prefix_refl _
  | @committed _ _ _ h a _ _ hu =>
    refine ⟨h, _, hu, List.prefix_append _ _, ?_⟩
    rw [List.map_append, commands_opened, Task.next?, Option.toList_none, List.append_nil]
    exact List.prefix_refl _

/-- A third command is only said when the transaction is open and the settings are applied. -/
theorem Stage.applied (hs : Stage settings w h t)
    (hlength : 2 < (h.map Prod.fst ++ t.next?.toList).length) :
    ∃ r r', r.failure? = none ∧ r'.failure? = none ∧ opened settings r r' [] <+: h := by
  cases hs with
  | start => simp [request_eq, Task.next?] at hlength
  | refused _ => simp [Task.next?] at hlength
  | begun _ => simp [applying, Task.next?] at hlength
  | unset _ _ => simp [commands_opened, Task.next?] at hlength
  | working hr hr' _ => exact ⟨_, _, hr, hr', by simp [opened]⟩
  | rolledBack hr hr' _ => exact ⟨_, _, hr, hr', by simp [opened]⟩
  | committed hr hr' _ => exact ⟨_, _, hr, hr', by simp [opened]⟩

end Transaction

/-! ## The connection behind a conversation -/

namespace Link

variable {l : Link} {c : Command} {r : Reply}

/-- A statement that is answered leaves the connection as it is. -/
theorem after_run (hr : r ≠ .lost) (s : Statement) : l.after (.run s) r = l := by
  cases r <;> trivial

/-- A command that fails leaves the connection as it is, unless the connection is lost. -/
theorem after_failed {f : Failure} (hr : r ≠ .lost) (hf : r.failure? = some f) :
    l.after c r = l := by
  cases r <;> trivial

/-- A transaction that has begun is open. -/
theorem after_begin (hr : r.failure? = none) :
    l.after .begin r = { l with inTransaction := true } := by
  cases r <;> trivial

/-- The connection after what was said on it. -/
def afterAll (l : Link) (h : List (Command × Reply)) : Link :=
  h.foldl (fun l p ↦ l.after p.1 p.2) l

theorem afterAll_concat (h : List (Command × Reply)) (p : Command × Reply) :
    l.afterAll (h ++ [p]) = (l.afterAll h).after p.1 p.2 := by
  rw [afterAll, List.foldl_append]
  rfl

/-- Statements leave the connection as it is if none of them loses it. -/
theorem afterAll_runs {h : List (Statement × Reply)} (hh : ∀ p ∈ h, p.2 ≠ .lost) :
    l.afterAll (h.map fun p ↦ (.run p.1, p.2)) = l := by
  induction h with
  | nil => rfl
  | cons p h ih =>
    have hrest : ∀ q ∈ h, q.2 ≠ .lost := fun q hq ↦ hh q (List.mem_cons_of_mem p hq)
    have hp : l.after (.run p.1) p.2 = l := after_run (hh p List.mem_cons_self) p.1
    rw [List.map_cons, afterAll, List.foldl_cons, hp]
    exact ih hrest

end Link

namespace Transaction

variable {α : Type} {settings : List (String × String)} {w : Work α}
  {h : List (Command × Reply)} {t : Conversation (Except RunError α)}

/-- A request at work has its transaction open. -/
theorem afterAll_opened {r r' : Reply} {hw : List (Statement × Reply)} (hr : r.failure? = none)
    (hh : ∀ p ∈ opened settings r r' hw, p.2 ≠ .lost) :
    (Link.afterAll {} (opened settings r r' hw)).inTransaction = true := by
  have hr' : r' ≠ .lost := hh (.run (settingsStatement settings), r') (by simp [opened])
  have hruns : ∀ p ∈ hw, p.2 ≠ .lost := by
    intro p hp
    refine hh (.run p.1, p.2) ?_
    rw [opened]
    exact List.mem_cons_of_mem _ (List.mem_cons_of_mem _ (List.mem_map_of_mem hp))
  rw [opened, Link.afterAll, List.foldl_cons, List.foldl_cons, Link.after_begin hr,
    Link.after_run hr']
  exact congrArg Link.inTransaction (Link.afterAll_runs hruns)

/-- On a connection that lives, a request has no open transaction if it has not begun one, or if it
has closed it. -/
theorem Stage.closed (hs : Stage settings w h t) (hh : ∀ p ∈ h, p.2 ≠ .lost)
    (hclosed : (Link.afterAll {} h).inTransaction = false) :
    h = [] ∨ (∃ (r : Reply) (f : Failure), h = [(.begin, r)] ∧ r.failure? = some f) ∨
      ∃ (h' : List (Command × Reply)) (c : Command) (r : Reply), h = h' ++ [(c, r)] ∧
        (c = .commit ∨ c = .rollback) ∧ r.failure? = none := by
  -- A last command that fails leaves the transaction open, which is what `hclosed` denies.
  have hlast {r r' r'' : Reply} {hw : List (Statement × Reply)} {c : Command}
      (hr : r.failure? = none) (hc : c = .commit ∨ c = .rollback)
      (hh : ∀ p ∈ opened settings r r' hw ++ [(c, r'')], p.2 ≠ .lost)
      (hclosed : (Link.afterAll {} (opened settings r r' hw ++ [(c, r'')])).inTransaction = false) :
      r''.failure? = none := by
    cases hf : r''.failure? with
    | none => rfl
    | some f =>
      have hr'' : r'' ≠ .lost := hh (c, r'') (List.mem_append_right _ List.mem_cons_self)
      have hopen := afterAll_opened hr fun p hp ↦ hh p (List.mem_append_left _ hp)
      rw [Link.afterAll_concat, Link.after_failed hr'' hf, hopen] at hclosed
      cases hclosed
  cases hs with
  | start => exact .inl rfl
  | refused hr => exact .inr (.inl ⟨_, _, rfl, hr⟩)
  | begun hr =>
    rw [Link.afterAll, List.foldl_cons, Link.after_begin hr] at hclosed
    cases hclosed
  | unset hr _ =>
    rw [afterAll_opened hr hh] at hclosed
    cases hclosed
  | working hr _ _ =>
    rw [afterAll_opened hr hh] at hclosed
    cases hclosed
  | rolledBack hr _ _ =>
    exact .inr (.inr ⟨_, _, _, rfl, .inr rfl, hlast hr (.inr rfl) hh hclosed⟩)
  | committed hr _ _ =>
    exact .inr (.inr ⟨_, _, _, rfl, .inl rfl, hlast hr (.inl rfl) hh hclosed⟩)

end Transaction

end RowGate
