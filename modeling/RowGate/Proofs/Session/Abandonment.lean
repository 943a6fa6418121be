import RowGate.Proofs.Session.Durability

/-! # Abandoned requests

A request with compensations, from its first command to the end of its last action. Whoever waits
for it may drop it at any moment: before it has a connection, while its work or its commit is under
way, or while one of its actions runs. An action is registered, or it waits behind the one that
runs, or it has started. It is lost in one way only: with a request that is dropped while it waits.
-/

namespace RowGate

namespace Recovery

/-- Nothing of a request runs any more. -/
def isOver : Recovery → Bool
  | answered _ | dropped => true
  | working _ | undoing .. => false

/-- The actions that have not started, in the order in which they would. -/
def unstarted : Recovery → List Undo
  | working c => c.pending.reverse
  | undoing _ waiting => waiting
  | answered _ | dropped => []

/-- A request is dropped while an action runs and others wait. -/
def Strands (r : Recovery) (e : Event) : Prop :=
  e = .abandoned ∧ ∃ running waiting, r = undoing running waiting ∧ waiting ≠ []

variable {r : Recovery} {e : Event}

/-- Where nothing runs any more, no action is left. -/
theorem unstarted_eq_nil (h : r.isOver = true) : r.unstarted = [] := by
  cases r with
  | working _ | undoing _ _ => cases h
  | answered _ | dropped => rfl

/-- The action that starts and those that wait are all that there are. -/
theorem unstarted_undo (us : List Undo) :
    (undo us).1 ++ (undo us).2.unstarted.map (·.label) = us.map (·.label) := by
  cases us <;> rfl

/-- An action starts, or it stays where it is. -/
theorem unstarted_step (hsuccess : e ≠ .succeeded) (hstrands : ¬r.Strands e) :
    (r.step e).1 ++ (r.step e).2.unstarted.map (·.label) = r.unstarted.map (·.label) := by
  cases r with
  | working c =>
    cases e with
    | succeeded => exact absurd rfl hsuccess
    | failed => exact unstarted_undo _
    | undone => rfl
    | abandoned =>
      rw [step, Compensations.drop, if_pos rfl, Compensations.run, UndoLog.ran_ofRun]
      exact List.append_nil _
  | undoing running waiting =>
    cases e with
    | succeeded => exact absurd rfl hsuccess
    | failed => rfl
    | undone => exact unstarted_undo waiting
    | abandoned =>
      cases waiting with
      | nil => rfl
      | cons u us => exact absurd ⟨rfl, running, u :: us, rfl, List.cons_ne_nil u us⟩ hstrands
  | answered _ | dropped => cases e <;> rfl

/-- A request whose transaction has ended does not work any more. -/
theorem step_ne_working (h : ∀ c, r ≠ working c ∨ e = .failed ∨ e = .abandoned)
    (c : Compensations) :
    (r.step e).2 ≠ working c := by
  have hundo (us : List Undo) : (undo us).2 ≠ working c := by
    cases us <;> exact fun h ↦ nomatch h
  cases r with
  | working c' =>
    rcases h c' with hne | rfl | rfl
    · exact absurd rfl hne
    · exact hundo _
    · exact fun h ↦ nomatch h
  | undoing running waiting =>
    cases e with
    | undone => exact hundo waiting
    | _ => exact fun h ↦ nomatch h
  | answered _ | dropped => cases e <;> exact fun h ↦ nomatch h

end Recovery

/-- A request with compensations: its exchange with the server, where its actions are, and the
labels of those that have started. -/
structure Undertaking (S : Server) (α : Type) where
  exchange : Exchange S α
  recovery : Recovery
  started : List String := []

namespace Undertaking

/-- What may happen to a request with compensations. The caller drops it as a whole, also after its
transaction has ended. -/
inductive Event where
  | exchange (e : RowGate.Event)
  /-- The action that runs comes to its end. -/
  | undone

variable {S : Server} {α : Type}

def start (st : S.State) (settings : List (String × String)) (w : Work α) (c : Compensations) :
    Undertaking S α where
  exchange := .start st settings w
  recovery := .working c

/-- What an event of the exchange is for the actions: the end of the transaction, or later the drop
of the request. -/
def signal? (x : Exchange S α) (e : RowGate.Event) : Option Recovery.Event :=
  match x.outcome, e with
  | none, e => (x.step e).outcome.map Outcome.event
  | some _, .drop => some .abandoned
  | some _, _ => none

/-- Goes on with the actions, some of which may start. -/
def recover (u : Undertaking S α) (e : Recovery.Event) : Undertaking S α :=
  { u with
    recovery := (u.recovery.step e).2
    started := u.started ++ (u.recovery.step e).1 }

def step (u : Undertaking S α) : Event → Undertaking S α
  | .exchange e =>
    let u' := match signal? u.exchange e with
      | some s => u.recover s
      | none => u
    { u' with exchange := u.exchange.step e }
  | .undone => u.recover .undone

def run (u : Undertaking S α) (es : List Event) : Undertaking S α := es.foldl step u

end Undertaking

/-! ## The outcome of an exchange -/

namespace Exchange

variable {S : Server} {α : Type} {x : Exchange S α}

/-- What the server executes does not change how a request has ended. -/
theorem outcome_execute (x : Exchange S α) (r : Reply) : (x.execute r).outcome = x.outcome := by
  rw [execute]
  split
  · rfl
  · split
    · rfl
    · split <;> rfl

/-- A request ends once. -/
theorem outcome_step {o : Outcome α} (h : x.outcome = some o) (e : Event) :
    (x.step e).outcome = some o := by
  have hended : x.outcome.isSome = true := by rw [h]; rfl
  cases e with
  | execute r => exact (outcome_execute x r).trans h
  | _ =>
    rw [step, if_pos hended]
    · exact h
    · exact fun r hr ↦ nomatch hr

end Exchange

/-- A request succeeds only by a result that is no error. -/
theorem Outcome.event_eq_succeeded_iff {α : Type} {o : Outcome α} :
    o.event = .succeeded ↔ ∃ a, o = .answered (.ok a) := by
  constructor
  · intro h
    match o with
    | .answered (.ok a) => exact ⟨a, rfl⟩
    | .answered (.error _) | .expired | .dropped => cases h
  · rintro ⟨a, rfl⟩
    rfl

/-- At any other end the actions are due. -/
theorem Outcome.event_cases {α : Type} (o : Outcome α) (h : o.event ≠ .succeeded) :
    o.event = .failed ∨ o.event = .abandoned := by
  match o with
  | .answered (.ok _) => exact absurd rfl h
  | .answered (.error _) | .expired => exact .inl rfl
  | .dropped => exact .inr rfl

namespace Undertaking

variable {S : Server} {α : Type} {c : Compensations} {u : Undertaking S α} {e : Event}
  {es : List Event}

/-- The labels of all actions, the newest first. -/
def newest (c : Compensations) : List String := c.pending.reverse.map (·.label)

/-- An event that loses actions: the caller drops the request while an action runs and others
wait. -/
def Strands (u : Undertaking S α) (e : Event) : Prop :=
  e = .exchange .drop ∧ ∃ running waiting, u.recovery = .undoing running waiting ∧ waiting ≠ []

/-- At some moment of a run its event loses actions. -/
def StrandsAmong (u : Undertaking S α) (es : List Event) : Prop :=
  ∃ es₁ e es₂, es = es₁ ++ e :: es₂ ∧ (u.run es₁).Strands e

/-- No action is lost: those that have not started come after those that have. A request that has
succeeded needs none. -/
inductive Accounted (c : Compensations) : Undertaking S α → Prop
  | working {x : Exchange S α} : x.outcome = none → Accounted c ⟨x, .working c, []⟩
  | succeeded {x : Exchange S α} {a : α} : x.outcome = some (.answered (.ok a)) →
    Accounted c ⟨x, .answered true, []⟩
  | undoing {x : Exchange S α} {o : Outcome α} {r : Recovery} {log : List String} :
    x.outcome = some o → o.event ≠ .succeeded → (∀ c', r ≠ .working c') →
    log ++ r.unstarted.map (·.label) = newest c → Accounted c ⟨x, r, log⟩

/-- A request that was dropped, and actions of it that never start. -/
structure Short (c : Compensations) (u : Undertaking S α) : Prop where
  ended : ∃ o, u.exchange.outcome = some o ∧ o.event ≠ .succeeded
  dropped : u.recovery = .dropped
  lost : ∃ rest, rest ≠ [] ∧ u.started ++ rest = newest c

/-! ## One event -/

section Step

variable {x : Exchange S α} {e : RowGate.Event} {o : Outcome α}

/-- An exchange that ends gives its end as a signal. -/
theorem signal?_of_none (hx : x.outcome = none) :
    signal? x e = (x.step e).outcome.map Outcome.event := by
  unfold signal?
  rw [hx]

/-- A drop after the end of an exchange abandons the actions. -/
theorem signal?_drop (hx : x.outcome = some o) : signal? x .drop = some .abandoned := by
  unfold signal?
  rw [hx]

/-- After its end an exchange gives no other signal. -/
theorem signal?_of_ne_drop (hx : x.outcome = some o) (he : e ≠ .drop) : signal? x e = none := by
  unfold signal?
  rw [hx]
  cases e with
  | drop => exact absurd rfl he
  | _ => rfl

theorem step_of_signal {s : Recovery.Event} (h : signal? u.exchange e = some s) :
    u.step (.exchange e) = { u.recover s with exchange := u.exchange.step e } := by
  rw [step, h]

theorem step_of_no_signal (h : signal? u.exchange e = none) :
    u.step (.exchange e) = { u with exchange := u.exchange.step e } := by
  rw [step, h]

end Step

/-- At its beginning no action has started. -/
theorem accounted_start (st : S.State) (settings : List (String × String)) (w : Work α)
    (c : Compensations) : Accounted c (start st settings w c) := .working rfl

/-- The actions of a request whose transaction has ended go on without loss. -/
theorem accounted_recover {x x' : Exchange S α} {o : Outcome α} {r : Recovery} {log : List String}
    {s : Recovery.Event} (ho : x'.outcome = some o) (hfailed : o.event ≠ .succeeded)
    (hworking : ∀ c, r ≠ .working c ∨ s = .failed ∨ s = .abandoned) (hs : s ≠ .succeeded)
    (hstrands : ¬r.Strands s) (hlog : log ++ r.unstarted.map (·.label) = newest c) :
    Accounted c { recover ⟨x, r, log⟩ s with exchange := x' } := by
  refine .undoing ho hfailed (Recovery.step_ne_working hworking) ?_
  calc (log ++ (r.step s).1) ++ (r.step s).2.unstarted.map (·.label)
    _ = log ++ r.unstarted.map (·.label) := by
      rw [List.append_assoc, Recovery.unstarted_step hs hstrands]
    _ = newest c := hlog

/-- An event that strands no action keeps all of them accounted for. -/
theorem accounted_step (hu : Accounted c u) (he : ¬u.Strands e) : Accounted c (u.step e) := by
  cases hu with
  | @working x hx =>
    cases e with
    | undone => exact .working hx
    | exchange e =>
      have hsignal := signal?_of_none (e := e) hx
      cases ho : (x.step e).outcome with
      | none =>
        rw [ho] at hsignal
        rw [step_of_no_signal hsignal]
        exact .working ho
      | some o =>
        rw [ho] at hsignal
        rw [step_of_signal hsignal]
        by_cases hsucceeded : o.event = .succeeded
        · obtain ⟨a, rfl⟩ := Outcome.event_eq_succeeded_iff.mp hsucceeded
          exact .succeeded ho
        · refine accounted_recover ho hsucceeded (fun _ ↦ .inr (o.event_cases hsucceeded))
            hsucceeded ?_ rfl
          rintro ⟨-, running, waiting, hr, -⟩
          cases hr
  | @succeeded x a hx =>
    cases e with
    | undone => exact .succeeded hx
    | exchange e =>
      have hx' := Exchange.outcome_step hx e
      by_cases hdrop : e = .drop
      · subst hdrop
        rw [step_of_signal (signal?_drop hx)]
        exact .succeeded hx'
      · rw [step_of_no_signal (signal?_of_ne_drop hx hdrop)]
        exact .succeeded hx'
  | @undoing x o r log hx ho hr hlog =>
    have hworking (s : Recovery.Event) : ∀ c, r ≠ .working c ∨ s = .failed ∨ s = .abandoned :=
      fun c ↦ .inl (hr c)
    cases e with
    | undone =>
      refine accounted_recover (x := x) hx ho (hworking _) (fun h ↦ nomatch h) ?_ hlog
      rintro ⟨h, -⟩
      cases h
    | exchange e =>
      have hx' := Exchange.outcome_step hx e
      -- Here a drop has no action waiting, or it would strand the others.
      by_cases hdrop : e = .drop
      · subst hdrop
        rw [step_of_signal (signal?_drop hx)]
        refine accounted_recover hx' ho (hworking _) (fun h ↦ nomatch h) ?_ hlog
        rintro ⟨-, running, waiting, hwaiting⟩
        exact he ⟨rfl, running, waiting, hwaiting⟩
      · rw [step_of_no_signal (signal?_of_ne_drop hx hdrop)]
        exact .undoing hx' ho hr hlog

/-- A request that is dropped while actions wait starts none of them. -/
theorem short_of_strands (hu : Accounted c u) (he : u.Strands e) : Short c (u.step e) := by
  obtain ⟨rfl, running, waiting, hr, hne⟩ := he
  cases hu with
  | working _ => cases hr
  | succeeded _ => cases hr
  | @undoing x o r log hx ho _ hlog =>
    obtain rfl : r = .undoing running waiting := hr
    have hx' := Exchange.outcome_step hx .drop
    rw [step_of_signal (signal?_drop hx)]
    refine ⟨⟨o, hx', ho⟩, rfl, waiting.map (·.label), ?_, ?_⟩
    · simpa using hne
    · calc (log ++ []) ++ waiting.map (·.label)
        _ = log ++ waiting.map (·.label) := by rw [List.append_nil]
        _ = newest c := hlog

/-- Lost actions stay lost. -/
theorem short_step (hu : Short c u) (e : Event) : Short c (u.step e) := by
  obtain ⟨⟨o, hx, ho⟩, hdropped, hlost⟩ := hu
  have hrecover (s : Recovery.Event) : u.recover s = u := by
    rw [recover, hdropped]
    cases u
    cases hdropped
    simp [Recovery.step]
  cases e with
  | undone =>
    rw [step, hrecover]
    exact ⟨⟨o, hx, ho⟩, hdropped, hlost⟩
  | exchange e =>
    have hx' := Exchange.outcome_step hx e
    cases hsignal : signal? u.exchange e with
    | none =>
      rw [step_of_no_signal hsignal]
      exact ⟨⟨o, hx', ho⟩, hdropped, hlost⟩
    | some s =>
      rw [step_of_signal hsignal, hrecover]
      exact ⟨⟨o, hx', ho⟩, hdropped, hlost⟩

/-! ## A whole run -/

/-- Lost actions stay lost, whatever follows. -/
theorem short_run (hu : Short c u) (es : List Event) : Short c (u.run es) := by
  induction es generalizing u with
  | nil => exact hu
  | cons e es ih => exact ih (short_step hu e)

/-- Actions are stranded by the first event or by a later one. -/
theorem strandsAmong_cons {u : Undertaking S α} :
    u.StrandsAmong (e :: es) ↔ u.Strands e ∨ (u.step e).StrandsAmong es := by
  constructor
  · rintro ⟨es₁, e', es₂, hes, hstrands⟩
    cases es₁ with
    | nil =>
      obtain ⟨rfl, rfl⟩ := List.cons.inj hes
      exact .inl hstrands
    | cons e₁ es₁ =>
      obtain ⟨rfl, rfl⟩ := List.cons.inj hes
      exact .inr ⟨es₁, e', es₂, rfl, hstrands⟩
  · rintro (hstrands | ⟨es₁, e', es₂, rfl, hstrands⟩)
    · exact ⟨[], e, es, rfl, hstrands⟩
    · exact ⟨e :: es₁, e', es₂, rfl, hstrands⟩

/-- All actions are accounted for as long as no event loses some; after one that does, some never
start. -/
theorem run_cases (hu : Accounted c u) (es : List Event) :
    ¬u.StrandsAmong es ∧ Accounted c (u.run es) ∨ u.StrandsAmong es ∧ Short c (u.run es) := by
  induction es generalizing u with
  | nil =>
    refine .inl ⟨?_, hu⟩
    rintro ⟨es₁, e, es₂, hes, -⟩
    exact absurd hes.symm (by simp)
  | cons e es ih =>
    rw [strandsAmong_cons]
    by_cases he : u.Strands e
    · exact .inr ⟨.inl he, short_run (short_of_strands hu he) es⟩
    · rcases ih (accounted_step hu he) with ⟨hnone, hrun⟩ | ⟨hsome, hrun⟩
      · exact .inl ⟨by simp [he, hnone], hrun⟩
      · exact .inr ⟨.inr hsome, hrun⟩

/-- When nothing of a request runs any more, it has succeeded and none of its actions has started,
or each has started once, the newest first; unless the request was dropped while one of them ran and
others waited. Even then those that have started are the newest ones, each once. -/
theorem undone_iff_not_stranded (st : S.State) (config : RoleConfig) (identity : Identity)
    (w : Work α) (c : Compensations) (es : List Event) {u : Undertaking S α}
    (hu : u = (start st (identity.settings config) w c).run es)
    (hover : u.recovery.isOver = true) :
    ((∃ a, u.exchange.outcome = some (.answered (.ok a))) ∧ u.started = [] ∨
        u.started = newest c ↔
      ¬(start st (identity.settings config) w c).StrandsAmong es) ∧
    u.started <+: newest c := by
  have hcases := run_cases (accounted_start st (identity.settings config) w c) es
  rw [← hu] at hcases
  rcases hcases with ⟨hnone, haccounted⟩ | ⟨hsome, ⟨o, ho, hfailed⟩, -, rest, hne, hlost⟩
  · cases haccounted with
    | working _ => cases hover
    | @succeeded x a hx =>
      exact ⟨⟨fun _ ↦ hnone, fun _ ↦ .inl ⟨⟨a, hx⟩, rfl⟩⟩, List.nil_prefix⟩
    | @undoing x o r log _ _ _ hlog =>
      rw [Recovery.unstarted_eq_nil hover, List.map_nil, List.append_nil] at hlog
      exact ⟨⟨fun _ ↦ hnone, fun _ ↦ .inr hlog⟩, hlog ▸ List.prefix_refl _⟩
  · refine ⟨⟨?_, fun hnone ↦ absurd hsome hnone⟩, ⟨rest, hlost⟩⟩
    rintro (⟨⟨a, ha⟩, -⟩ | hall)
    · rw [ho] at ha
      exact absurd (Outcome.event_eq_succeeded_iff.mpr ⟨a, Option.some.inj ha⟩) hfailed
    · rw [← hlost] at hall
      exact absurd (List.append_right_eq_self.mp hall.symm) hne

/-- What is registered for a lock, and for a blob that is stored under it. -/
def unlockAndDelete : Compensations := ⟨[⟨"unlock", false⟩, ⟨"delete blob", true⟩]⟩

/-- The document of a request is refused and its transaction rolled back. -/
def rolledBack : List Event :=
  (Event.exchanged (.affected 0) ++ Event.exchanged (.affected 0) ++
    Event.exchanged (.refused ⟨"23505", "duplicate key value"⟩) ++
    Event.exchanged (.affected 0)).map .exchange

/-- A request to add a document. -/
def addingDoc : Undertaking standingServer Nat :=
  start Standing.idle ((Identity.anonymous {}).settings {}) (.execute Exchange.addDoc)
    unlockAndDelete

/-- Both actions come to their end. -/
theorem undone_rolledBack : (addingDoc.run (rolledBack ++ [.undone, .undone])).started =
      ["delete blob", "unlock"] ∧
    ¬addingDoc.StrandsAmong (rolledBack ++ [.undone, .undone]) := by
  have hover : (addingDoc.run (rolledBack ++ [.undone, .undone])).recovery.isOver = true := rfl
  have hundone := undone_iff_not_stranded (S := standingServer) Standing.idle {} (.anonymous {})
    (.execute Exchange.addDoc) unlockAndDelete (rolledBack ++ [.undone, .undone])
    (u := addingDoc.run (rolledBack ++ [.undone, .undone])) rfl hover
  exact ⟨rfl, hundone.1.mp (.inr rfl)⟩

/-- The request is dropped while the blob is deleted, and the lock stays. -/
theorem stranded_rolledBack :
    (addingDoc.run (rolledBack ++ [.exchange .drop])).recovery.isOver = true ∧
    (addingDoc.run (rolledBack ++ [.exchange .drop])).started = ["delete blob"] ∧
    newest unlockAndDelete = ["delete blob", "unlock"] ∧
    ¬∃ a, (addingDoc.run (rolledBack ++ [.exchange .drop])).exchange.outcome =
      some (.answered (.ok a)) := by
  refine ⟨by decide +kernel, by decide +kernel, rfl, ?_⟩
  rintro ⟨a, ha⟩
  cases ha

end Undertaking

end RowGate
