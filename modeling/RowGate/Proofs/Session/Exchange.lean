import RowGate.Proofs.Session.Conversation

/-! # Requests over a connection

A request and the server exchange messages over a connection. Messages take their time, the
connection may be lost, the time of the request may be up, and its caller may drop it: each at any
moment. What holds of an exchange holds after every such event.
-/

namespace RowGate

/-- A server as one of its connections meets it: the state after a command that is answered with a
reply; none if the reply cannot be. -/
structure Server where
  State : Type
  answer : State → Command → Reply → Option State

namespace Server

/-- A command as the server met it. -/
structure Execution (S : Server) where
  before : S.State
  command : Command
  reply : Reply

/-- What was said, as the server sees it. -/
def Execution.said {S : Server} (e : S.Execution) : Command × Reply := (e.command, e.reply)

/-- The server goes from one state to another, one command after the other. -/
def Runs (S : Server) : S.State → List S.Execution → S.State → Prop
  | st, [], st' => st' = st
  | st, e :: es, st' => e.before = st ∧
    ∃ st₁, S.answer st e.command e.reply = some st₁ ∧ Runs S st₁ es st'

/-- A server that runs through two lists of commands is in some state between them. -/
theorem runs_append {S : Server} {st st' : S.State} {es es' : List S.Execution} :
    S.Runs st (es ++ es') st' ↔ ∃ st₁, S.Runs st es st₁ ∧ S.Runs st₁ es' st' := by
  induction es generalizing st with
  | nil => simp [Runs]
  | cons e es ih =>
    constructor
    · rintro ⟨rfl, st₁, hanswer, h⟩
      obtain ⟨st₂, hes, hes'⟩ := ih.mp h
      exact ⟨st₂, ⟨rfl, st₁, hanswer, hes⟩, hes'⟩
    · rintro ⟨st₂, ⟨rfl, st₁, hanswer, hes⟩, hes'⟩
      exact ⟨rfl, st₁, hanswer, ih.mpr ⟨st₂, hes, hes'⟩⟩

/-- A server goes on from the state that its run has led to. -/
theorem Runs.concat {S : Server} {st st' st'' : S.State} {es : List S.Execution} {c : Command}
    {r : Reply} (h : S.Runs st es st') (hanswer : S.answer st' c r = some st'') :
    S.Runs st (es ++ [⟨st', c, r⟩]) st'' :=
  runs_append.mpr ⟨st', h, rfl, st'', hanswer, rfl⟩

end Server

/-- How a request ends: with the result of its transaction, because its time is up, or because
nobody waits for it any more. -/
inductive Outcome (α : Type) where
  | answered (r : Except RunError α)
  | expired
  | dropped

/-- A request, its connection, and the server behind it. The commands in `spoken` and then those in
`cleanup` are on their way to the server until they are among the executed ones, and a reply is on
its way back until it is heard. -/
structure Exchange (S : Server) (α : Type) where
  state : S.State
  task : Conversation (Except RunError α)
  link : Link := {}
  waits : Bool := false
  spoken : List Command := []
  cleanup : List Command := []
  heard : List (Command × Reply) := []
  executed : List S.Execution := []
  outcome : Option (Outcome α) := none

/-- What may happen to an exchange. -/
inductive Event where
  /-- The request sends its next command. -/
  | speak
  /-- The server executes the next command that reaches it, and sends a reply. -/
  | execute (r : Reply)
  /-- The reply that the request waits for comes in. -/
  | hear
  /-- The connection is lost. -/
  | lose
  /-- There is no connection for the request. -/
  | refuse (f : Failure)
  | expire
  | drop

/-- A command that is sent, executed and answered. -/
def Event.exchanged (r : Reply) : List Event := [.speak, .execute r, .hear]

namespace Exchange

variable {S : Server} {α : Type}

def start (st : S.State) (settings : List (String × String)) (w : Work α) : Exchange S α where
  state := st
  task := Transaction.request settings w

/-- All that was sent. -/
def sent (x : Exchange S α) : List Command := x.spoken ++ x.cleanup

/-- The request ends and gives its connection back. A transaction that is open on it, or that a
command on its way may open, is rolled back. -/
def leave (x : Exchange S α) (o : Outcome α) : Exchange S α :=
  { x with
    outcome := some o
    cleanup := if x.link.alive && (x.link.inTransaction || x.waits) then [.rollback] else [] }

/-- The request takes a reply and goes on as a task. -/
def record (x : Exchange S α) (c : Command) (r : Reply) (t : Conversation (Except RunError α)) :
    Exchange S α :=
  { x with
    task := t
    link := x.link.after c r
    waits := false
    heard := x.heard ++ [(c, r)] }

/-- The request takes a reply, and answers if it was the last one. -/
def take (x : Exchange S α) (c : Command) (r : Reply) (t : Conversation (Except RunError α)) :
    Exchange S α :=
  match t with
  | .done a => (x.record c r t).leave (.answered a)
  | .send _ _ => x.record c r t

/-- What happens to a request that has not ended. -/
def act (x : Exchange S α) : Event → Exchange S α
  | .speak => match x.task with
    | .send c next =>
      if x.waits then x
      else if x.link.alive then { x with waits := true, spoken := x.spoken ++ [c] }
      else x.take c .lost (next .lost)
    | .done _ => x
  | .hear => match x.task, x.executed[x.heard.length]? with
    | .send c next, some e => if x.waits then x.take c e.reply (next e.reply) else x
    | _, _ => x
  | .lose => match x.task with
    | .send c next =>
      if x.waits then x.take c .lost (next .lost)
      else { x with link := { x.link with alive := false } }
    | .done _ => x
  | .refuse f =>
    if x.spoken = [] then x.leave (.answered (.error (.unavailable (.failure f)))) else x
  | .expire => x.leave .expired
  | .drop => x.leave .dropped
  | .execute _ => x

/-- What happens at the server. -/
def execute (x : Exchange S α) (r : Reply) : Exchange S α :=
  match x.sent[x.executed.length]? with
  | none => x
  | some c => match S.answer x.state c r with
    | none => x
    | some st =>
      if r = .lost then x
      else { x with state := st, executed := x.executed ++ [⟨x.state, c, r⟩] }

/-- The exchange after an event. One that cannot happen changes nothing. -/
def step (x : Exchange S α) : Event → Exchange S α
  | .execute r => x.execute r
  | e => if x.outcome.isSome then x else x.act e

def run (x : Exchange S α) (es : List Event) : Exchange S α := es.foldl step x

/-! ## What every event preserves -/

/-- What was said and heard fits together. -/
structure Consistent (st : S.State) (settings : List (String × String)) (w : Work α)
    (x : Exchange S α) : Prop where
  stage : Transaction.Stage settings w x.heard x.task
  runs : S.Runs st x.executed x.state
  /-- The request speaks as its conversation goes. -/
  spoken : x.spoken <+: x.heard.map Prod.fst ++ x.task.next?.toList
  /-- On a connection that lives, only the last command may lack its reply. -/
  alive : x.link.alive = true → x.spoken =
    x.heard.map Prod.fst ++ if x.waits then x.task.next?.toList else []
  waits : x.waits = true → x.link.alive = true
  /-- The server executes what was sent, in order. -/
  executed : x.executed.map (·.command) <+: x.sent
  answers : ∀ e ∈ x.executed, e.reply ≠ .lost
  /-- What is heard is what the server said, and then that the connection is lost. -/
  heard : ∃ said missed, x.heard = said ++ missed ∧ said <+: x.executed.map (·.said) ∧
    (∀ p ∈ missed, p.2 = .lost) ∧ (x.link.alive = true → missed = [])
  link : x.link.inTransaction = (Link.afterAll {} x.heard).inTransaction

/-- What holds after every event. -/
structure Sound (st : S.State) (settings : List (String × String)) (w : Work α)
    (x : Exchange S α) : Prop extends Consistent st settings w x where
  running : x.outcome = none → x.cleanup = [] ∧ x.task.next?.isSome = true
  /-- A request that ends cleans up. -/
  ended : x.outcome.isSome = true → x.cleanup =
    if x.link.alive && (x.link.inTransaction || x.waits) then [.rollback] else []
  /-- A request whose conversation is over has answered with its result. -/
  answered : ∀ r, x.task = .done r → x.outcome = some (.answered r)
  /-- A request that has answered is over, or was never given a connection. -/
  result : ∀ r, x.outcome = some (.answered r) →
    x.task = .done r ∨ x.spoken = [] ∧ ∃ f, r = .error (.unavailable (.failure f))

end Exchange

/-- A beginning of a list and the element behind it are a beginning too. -/
theorem prefix_concat_of_getElem? {β : Type} {l s : List β} {b : β} (h : l <+: s)
    (hb : s[l.length]? = some b) : l ++ [b] <+: s := by
  obtain ⟨t, rfl⟩ := h
  rw [List.getElem?_append_right (Nat.le_refl _), Nat.sub_self] at hb
  cases t with
  | nil => cases hb
  | cons c t =>
    cases hb
    exact ⟨t, by simp⟩

/-- Whether a transaction is open depends on nothing else of the connection. -/
theorem Link.inTransaction_after {l l' : Link} (h : l.inTransaction = l'.inTransaction)
    (c : Command) (r : Reply) : (l.after c r).inTransaction = (l'.after c r).inTransaction := by
  cases r <;> cases c <;> first | exact h | rfl

/-- A connection that lives has lost no reply. -/
theorem Link.alive_after {l : Link} {c : Command} {r : Reply} (h : (l.after c r).alive = true) :
    r ≠ .lost := by
  rintro rfl
  cases h

namespace Exchange

variable {S : Server} {α : Type} {st : S.State} {settings : List (String × String)} {w : Work α}
  {x : Exchange S α} {c : Command} {next : Reply → Conversation (Except RunError α)} {r : Reply}

theorem record_heard (t : Conversation (Except RunError α)) :
    (x.record c r t).heard = x.heard ++ [(c, r)] := rfl

namespace Consistent

/-- The command that waits for a reply is the next one that the server's replies answer. -/
theorem command_eq (hx : Consistent st settings w x) (ht : x.task = .send c next)
    (hwaits : x.waits = true) {e : S.Execution} (he : x.executed[x.heard.length]? = some e) :
    e.command = c := by
  have hspoken := hx.alive (hx.waits hwaits)
  rw [hwaits, if_pos rfl, ht] at hspoken
  have hsent : x.sent[x.heard.length]? = some c := by
    rw [sent, hspoken]
    simp [Task.next?]
  obtain ⟨rest, hrest⟩ := hx.executed
  have hlt : x.heard.length < (x.executed.map (·.command)).length := by
    rw [List.length_map]
    exact (List.getElem?_eq_some_iff.mp he).1
  rw [← hrest, List.getElem?_append_left hlt, List.getElem?_map, he] at hsent
  exact Option.some.inj hsent

/-- A reply that the server sent may be heard. -/
theorem record_reply (hx : Consistent st settings w x) (ht : x.task = .send c next)
    (hwaits : x.waits = true) {e : S.Execution} (he : x.executed[x.heard.length]? = some e) :
    Consistent st settings w (x.record c e.reply (next e.reply)) := by
  have hspoken := hx.alive (hx.waits hwaits)
  rw [hwaits, if_pos rfl, ht, Task.next?, Option.toList_some] at hspoken
  have hsaid : x.spoken = (x.heard ++ [(c, e.reply)]).map Prod.fst := by
    rw [hspoken, List.map_append, List.map_singleton]
  have hanswer : (x.executed.map (·.said))[x.heard.length]? = some (c, e.reply) := by
    rw [List.getElem?_map, he, Option.map_some, Server.Execution.said, hx.command_eq ht hwaits he]
  obtain ⟨said, missed, hheard, hsofar, -, hmissed⟩ := hx.heard
  rw [hmissed (hx.waits hwaits), List.append_nil] at hheard
  exact
    { stage := hx.stage.concat ht e.reply
      runs := hx.runs
      spoken := hsaid ▸ List.prefix_append _ _
      alive := fun _ ↦ hsaid.trans (List.append_nil _).symm
      waits := fun h ↦ absurd h Bool.false_ne_true
      executed := hx.executed
      answers := hx.answers
      heard := by
        refine ⟨said ++ [(c, e.reply)], [], ?_, ?_, List.forall_mem_nil _, fun _ ↦ rfl⟩
        · rw [List.append_nil, ← hheard]
          rfl
        · exact prefix_concat_of_getElem? hsofar (hheard ▸ hanswer)
      link := by
        rw [record_heard, Link.afterAll_concat]
        exact Link.inTransaction_after hx.link c e.reply }

/-- The loss of the connection may be heard in place of a reply. -/
theorem record_lost (hx : Consistent st settings w x) (ht : x.task = .send c next) :
    Consistent st settings w (x.record c .lost (next .lost)) := by
  have hspoken := hx.spoken
  rw [ht, Task.next?, Option.toList_some] at hspoken
  obtain ⟨said, missed, hheard, hsofar, hlost, -⟩ := hx.heard
  exact
    { stage := hx.stage.concat ht .lost
      runs := hx.runs
      spoken := by
        refine List.IsPrefix.trans ?_ (List.prefix_append _ _)
        rwa [record_heard, List.map_append, List.map_singleton]
      alive := fun h ↦ absurd h Bool.false_ne_true
      waits := fun h ↦ absurd h Bool.false_ne_true
      executed := hx.executed
      answers := hx.answers
      heard := by
        refine ⟨said, missed ++ [(c, .lost)], ?_, hsofar, ?_, fun h ↦ absurd h Bool.false_ne_true⟩
        · rw [← List.append_assoc, ← hheard]
          rfl
        · exact List.forall_mem_append.mpr ⟨hlost, by simp⟩
      link := by
        rw [record_heard, Link.afterAll_concat]
        exact Link.inTransaction_after hx.link c .lost }

/-- A request that ends leaves what was said and heard as it is. -/
theorem leave (hx : Consistent st settings w x) (hcleanup : x.cleanup = []) (o : Outcome α) :
    Consistent st settings w (x.leave o) :=
  { hx with
    executed := by
      have hexecuted := hx.executed
      rw [sent, hcleanup, List.append_nil] at hexecuted
      exact hexecuted.trans (List.prefix_append _ _) }

/-- A request that ends with an outcome is in order, if the outcome fits its conversation. -/
theorem sound_leave (hx : Consistent st settings w x) (hcleanup : x.cleanup = []) {o : Outcome α}
    (hanswered : ∀ r, x.task = .done r → o = .answered r)
    (hresult : ∀ r, o = .answered r →
      x.task = .done r ∨ x.spoken = [] ∧ ∃ f, r = .error (.unavailable (.failure f))) :
    Sound st settings w (x.leave o) where
  toConsistent := hx.leave hcleanup o
  running := fun h ↦ nomatch h
  ended := fun _ ↦ rfl
  answered := fun r hr ↦ congrArg some (hanswered r hr)
  result := fun r hr ↦ hresult r (Option.some.inj hr)

/-- A request that has not ended is in order if it still speaks and has not cleaned up. -/
theorem sound_running (hx : Consistent st settings w x) (hcleanup : x.cleanup = [])
    (houtcome : x.outcome = none) (ht : x.task = .send c next) : Sound st settings w x where
  toConsistent := hx
  running := fun _ ↦ ⟨hcleanup, by rw [ht]; rfl⟩
  ended := fun h ↦ by
    rw [houtcome] at h
    cases h
  answered := fun r hr ↦ by
    rw [ht] at hr
    cases hr
  result := fun r hr ↦ by
    rw [houtcome] at hr
    cases hr

/-- A reply keeps a request in order. -/
theorem sound_take {t : Conversation (Except RunError α)}
    (hx : Consistent st settings w (x.record c r t)) (hcleanup : x.cleanup = [])
    (houtcome : x.outcome = none) : Sound st settings w (x.take c r t) := by
  cases t with
  | done a =>
    refine hx.sound_leave hcleanup (fun r hr ↦ ?_) fun r hr ↦ ?_
    · rw [Task.done.inj hr]
    · rw [Outcome.answered.inj hr]
      exact .inl rfl
  | send c' next' => exact hx.sound_running hcleanup houtcome rfl

end Consistent

namespace Sound

/-- At its beginning a request has said nothing, and the server has executed nothing. -/
theorem start (st : S.State) (settings : List (String × String)) (w : Work α) :
    Sound st settings w (start st settings w) where
  stage := .start
  runs := rfl
  spoken := List.nil_prefix
  alive := fun _ ↦ rfl
  waits := fun h ↦ nomatch h
  executed := List.nil_prefix
  answers := List.forall_mem_nil _
  heard := ⟨[], [], rfl, List.nil_prefix, List.forall_mem_nil _, fun _ ↦ rfl⟩
  link := rfl
  running := fun _ ↦ ⟨rfl, by rw [Exchange.start, Transaction.request_eq]; rfl⟩
  ended := fun h ↦ nomatch h
  answered := fun r hr ↦ by
    rw [Exchange.start, Transaction.request_eq] at hr
    cases hr
  result := fun _ h ↦ nomatch h

variable (hx : Sound st settings w x) (houtcome : x.outcome = none)

include hx houtcome

/-- A request that speaks waits for the reply, or meets the loss of its connection. -/
theorem speak : Sound st settings w (x.act .speak) := by
  obtain ⟨hcleanup, -⟩ := hx.running houtcome
  rw [act]
  split
  next c next ht =>
    split
    next => exact hx
    next hwaits =>
      split
      next halive =>
        have hspoken := hx.alive halive
        rw [if_neg hwaits, List.append_nil] at hspoken
        have hsent : x.spoken ++ [c] = x.heard.map Prod.fst ++ x.task.next?.toList := by
          rw [hspoken, ht]
          rfl
        have hexecuted := hx.executed
        rw [sent, hcleanup, List.append_nil] at hexecuted
        refine Consistent.sound_running ?_ hcleanup houtcome ht
        exact
          { hx.toConsistent with
            spoken := hsent ▸ List.prefix_refl _
            alive := fun _ ↦ hsent
            waits := fun _ ↦ halive
            executed := by
              rw [sent, hcleanup, List.append_nil]
              exact hexecuted.trans (List.prefix_append _ _) }
      next => exact (hx.record_lost ht).sound_take hcleanup houtcome
  next => exact hx

/-- A request hears the replies in the order in which the server sends them. -/
theorem hear : Sound st settings w (x.act .hear) := by
  obtain ⟨hcleanup, -⟩ := hx.running houtcome
  rw [act]
  split
  next c next e ht he =>
    split
    next hwaits => exact (hx.record_reply ht hwaits he).sound_take hcleanup houtcome
    next => exact hx
  next => exact hx

/-- Whoever waits on a connection that is lost hears of it. -/
theorem lose : Sound st settings w (x.act .lose) := by
  obtain ⟨hcleanup, -⟩ := hx.running houtcome
  rw [act]
  split
  next c next ht =>
    split
    next => exact (hx.record_lost ht).sound_take hcleanup houtcome
    next hwaits =>
      obtain ⟨said, missed, hheard, hsofar, hlost, -⟩ := hx.heard
      refine Consistent.sound_running ?_ hcleanup houtcome ht
      exact
        { hx.toConsistent with
          alive := fun h ↦ nomatch h
          waits := fun h ↦ absurd h hwaits
          heard := ⟨said, missed, hheard, hsofar, hlost, fun h ↦ nomatch h⟩ }
  next => exact hx

/-- A request that ends while its conversation goes on cleans up behind it. -/
theorem leave_early {o : Outcome α} (ho : ∀ r, o = .answered r →
    x.spoken = [] ∧ ∃ f, r = .error (.unavailable (.failure f))) :
    Sound st settings w (x.leave o) := by
  obtain ⟨hcleanup, hnext⟩ := hx.running houtcome
  refine hx.sound_leave hcleanup (fun r hr ↦ ?_) fun r hr ↦ .inr (ho r hr)
  rw [hr] at hnext
  cases hnext

/-- Whatever happens to a running request keeps what was said and heard sound. -/
theorem act (e : Event) : Sound st settings w (x.act e) := by
  cases e with
  | speak => exact hx.speak houtcome
  | hear => exact hx.hear houtcome
  | lose => exact hx.lose houtcome
  | execute r => exact hx
  | refuse f =>
    rw [Exchange.act]
    split
    next hspoken =>
      refine hx.leave_early houtcome fun r hr ↦ ⟨hspoken, f, ?_⟩
      exact (Outcome.answered.inj hr).symm
    next => exact hx
  | expire => exact hx.leave_early houtcome fun r hr ↦ nomatch hr
  | drop => exact hx.leave_early houtcome fun r hr ↦ nomatch hr

omit houtcome

/-- The server answers the next command that was sent, also when the request has ended. -/
theorem execute (r : Reply) : Sound st settings w (x.execute r) := by
  rw [Exchange.execute]
  split
  next => exact hx
  next c hc =>
    split
    next => exact hx
    next st' hanswer =>
      split
      next => exact hx
      next hr =>
        obtain ⟨said, missed, hheard, hsofar, hrest⟩ := hx.heard
        exact
          { hx with
            runs := hx.runs.concat hanswer
            executed := by
              rw [List.map_append]
              refine prefix_concat_of_getElem? hx.executed ?_
              rwa [List.length_map]
            answers := List.forall_mem_append.mpr ⟨hx.answers, by simpa using hr⟩
            heard := by
              refine ⟨said, missed, hheard, ?_, hrest⟩
              rw [List.map_append]
              exact hsofar.trans (List.prefix_append _ _) }

/-- Every event keeps what was said and heard sound. -/
theorem step (e : Event) : Sound st settings w (x.step e) := by
  have hact : Sound st settings w (if x.outcome.isSome then x else x.act e) := by
    split
    next => exact hx
    next houtcome => exact hx.act (Option.not_isSome_iff_eq_none.mp houtcome) e
  cases e with
  | execute r => exact hx.execute r
  | _ => exact hact

/-- Any events keep what was said and heard sound, by induction on them. -/
theorem run (es : List Event) : Sound st settings w (x.run es) := by
  induction es generalizing x with
  | nil => exact hx
  | cons e es ih => exact ih (hx.step e)

end Sound

/-- What holds after every run of an exchange. -/
theorem sound_run (st : S.State) (settings : List (String × String)) (w : Work α)
    (es : List Event) : Sound st settings w ((start st settings w).run es) :=
  (Sound.start st settings w).run es

/-! ## What was said on the connection -/

namespace Sound

variable (hx : Sound st settings w x)

include hx

/-- A request cleans up by nothing but a rollback. -/
theorem cleanup_cases : x.cleanup = [] ∨ x.cleanup = [.rollback] := by
  cases houtcome : x.outcome with
  | none => exact .inl (hx.running houtcome).1
  | some o =>
    have hcleanup := hx.ended (houtcome ▸ rfl)
    split at hcleanup
    next => exact .inr hcleanup
    next => exact .inl hcleanup

/-- On a connection that lives, what was heard is what the server said. -/
theorem heard_said (halive : x.link.alive = true) : x.heard <+: x.executed.map (·.said) := by
  obtain ⟨said, missed, hheard, hsofar, -, hmissed⟩ := hx.heard
  rw [hmissed halive, List.append_nil] at hheard
  rwa [hheard]

/-- On a connection that lives no reply was lost. -/
theorem heard_ne_lost (halive : x.link.alive = true) : ∀ p ∈ x.heard, p.2 ≠ .lost := by
  intro p hp
  obtain ⟨e, he, rfl⟩ := List.mem_map.mp ((hx.heard_said halive).subset hp)
  exact hx.answers e he

/-- A request that has ended and leaves nothing to clean up has no transaction open and waits for
nothing. -/
theorem closed_of_cleanup (houtcome : x.outcome.isSome = true) (halive : x.link.alive = true)
    (hcleanup : x.cleanup = []) :
    x.waits = false ∧ (Link.afterAll {} x.heard).inTransaction = false := by
  have hended := hx.ended houtcome
  rw [hcleanup, halive, Bool.true_and] at hended
  split at hended
  next => cases hended
  next h =>
    rw [Bool.not_eq_true, Bool.or_eq_false_iff] at h
    exact ⟨h.2, hx.link ▸ h.1⟩

/-- What was heard up to a reply that came is what the server said. -/
theorem said_of_heard {h : List (Command × Reply)} (hsofar : h <+: x.heard)
    (hlast : ∀ p ∈ h.getLast?, p.2 ≠ .lost) : h <+: x.executed.map (·.said) := by
  obtain ⟨said, missed, hheard, hsaid, hlost, -⟩ := hx.heard
  rw [hheard] at hsofar
  rcases List.prefix_or_prefix_of_prefix hsofar (List.prefix_append said missed) with h' | h'
  · exact h'.trans hsaid
  · obtain ⟨t, rfl⟩ := h'
    have hmissed := (List.prefix_append_right_inj said).mp hsofar
    rcases List.eq_nil_or_concat t with rfl | ⟨t, p, rfl⟩
    · rwa [List.append_nil]
    · rw [List.concat_eq_append, ← List.append_assoc, List.getLast?_concat] at hlast
      exact absurd (hlost p (hmissed.subset (by simp))) (hlast p rfl)

end Sound

end Exchange

end RowGate
