import RowGate.Proofs.Session.Isolation

/-! # Requests over a pool

A pool plays a request against the script of its server: it sends a command, takes the reply, and
goes on, up to a reply that never comes. This is one of the ways in which the exchange of the
request may go. What holds of every exchange therefore holds of what a pool answers and logs.
-/

namespace RowGate

/-- The server behind a pool. It keeps silent by never giving a reply. -/
abbrev Script.server : Server where
  State := Script
  answer s c r := match s.respond c.sql with
    | (.reply r', s') => if r = r' then some s' else none
    | (.silence, _) => none

/-- The server behind a pool answers as the script responds. -/
theorem Script.answer_server {s s' : Script} {c : Command} {r : Reply}
    (h : s.respond c.sql = (.reply r, s')) : Script.server.answer s c r = some s' := by
  simp only [Script.server, h, if_pos]

namespace Exchange

variable {α : Type} {st : Script} {settings : List (String × String)} {w : Work α}
  {x : Exchange Script.server α} {log : List Command} {l : Link} {p : Pool}

/-- A pool in the middle of a request, and the exchange of the request. The pool has logged what the
exchange sent; as long as the connection lives, each command has been executed and answered. -/
structure Tracks (log : List Command) (l : Link) (p : Pool) (x : Exchange Script.server α) :
    Prop where
  link : x.link = l
  waits : x.waits = false
  log : p.log = log ++ x.spoken
  script : l.alive = true → x.state = p.script
  executed : l.alive = true → x.executed.length = x.spoken.length

/-- An exchange may go on in such a way that it ends as a pool has ended a request. -/
def Mirrors (log : List Command) (x : Exchange Script.server α) :
    Option (Except RunError α) × Link × Pool → Prop
  | (some r, l, p) => ∃ es, (x.run es).outcome = some (.answered r) ∧ Tracks log l p (x.run es)
  | (none, _, p) => ∃ es, (x.run es).outcome = none ∧ p.log = log ++ (x.run es).spoken

/-- An exchange may come to take a reply at the same point as a pool. -/
def Takes (log : List Command) (x : Exchange Script.server α) (c : Command) (r : Reply)
    (t : Conversation (Except RunError α)) (l : Link) (p : Pool) : Prop :=
  ∃ (es : List Event) (y : Exchange Script.server α), x.run es = y.take c r t ∧
    y.outcome = none ∧ Tracks log l p (y.record c r t)

theorem run_append {S : Server} (x : Exchange S α) (es es' : List Event) :
    x.run (es ++ es') = (x.run es).run es' := List.foldl_append

/-- An exchange that may mirror a pool after some events may mirror it before them. -/
theorem Mirrors.of_run (es : List Event) {o : Option (Except RunError α) × Link × Pool}
    (h : Mirrors log (x.run es) o) : Mirrors log x o := by
  match o with
  | (some r, l, p) =>
    obtain ⟨es', houtcome, htracks⟩ := h
    exact ⟨es ++ es', run_append x es es' ▸ houtcome, run_append x es es' ▸ htracks⟩
  | (none, l, p) =>
    obtain ⟨es', houtcome, hlog⟩ := h
    exact ⟨es ++ es', run_append x es es' ▸ houtcome, run_append x es es' ▸ hlog⟩

/-! ## One command -/

section

variable {c : Command} {next : Reply → Conversation (Except RunError α)} {r : Reply}

/-- The exchange after its next command was sent. -/
def asking (x : Exchange Script.server α) (c : Command) : Exchange Script.server α :=
  { x with waits := true, spoken := x.spoken ++ [c] }

/-- On a connection that lives, the next command is sent. -/
theorem step_speak (ht : x.task = .send c next) (houtcome : x.outcome = none)
    (htracks : Tracks log l p x) (halive : l.alive = true) :
    x.step .speak = x.asking c := by
  have hlive : x.link.alive = true := htracks.link ▸ halive
  simp [step, act, houtcome, ht, htracks.waits, hlive, asking]

/-- A connection that is dead says so without the server. -/
theorem step_speak_dead (ht : x.task = .send c next) (houtcome : x.outcome = none)
    (htracks : Tracks log l p x) (hdead : l.alive = false) :
    x.step .speak = x.take c .lost (next .lost) := by
  have hlost : x.link.alive = false := htracks.link ▸ hdead
  simp [step, act, houtcome, ht, htracks.waits, hlost]

theorem step_expire (houtcome : x.outcome = none) : x.step .expire = x.leave .expired := by
  simp [step, act, houtcome]

/-- A request that waits on a connection that is lost hears of the loss. -/
theorem step_lose (ht : x.task = .send c next) (houtcome : x.outcome = none) :
    (x.asking c).step .lose = (x.asking c).take c .lost (next .lost) := by
  simp [step, act, asking, houtcome, ht]

/-- The server executes the next command that was sent, if its reply can be. -/
theorem execute_eq {S : Server} {x : Exchange S α} {st : S.State}
    (hc : x.sent[x.executed.length]? = some c) (hanswer : S.answer x.state c r = some st)
    (hr : r ≠ .lost) : x.execute r =
      { x with state := st, executed := x.executed ++ [⟨x.state, c, r⟩] } := by
  simp only [execute, hc, hanswer, if_neg hr]

/-- The exchange after the server executed its next command. -/
def executing (x : Exchange Script.server α) (c : Command) (r : Reply) (s : Script) :
    Exchange Script.server α :=
  { x.asking c with state := s, executed := x.executed ++ [⟨x.state, c, r⟩] }

/-- The server executes the command that the pool has sent. -/
theorem step_execute {s : Script} (hcleanup : x.cleanup = []) (htracks : Tracks log l p x)
    (halive : l.alive = true) (hrespond : p.script.respond c.sql = (.reply r, s))
    (hr : r ≠ .lost) : (x.asking c).step (.execute r) = x.executing c r s := by
  have hsent : (x.asking c).sent[(x.asking c).executed.length]? = some c := by
    simp [sent, asking, hcleanup, htracks.executed halive]
  have hanswer : Script.server.answer (x.asking c).state c r = some s := by
    rw [show (x.asking c).state = p.script from htracks.script halive]
    exact Script.answer_server hrespond
  exact execute_eq hsent hanswer hr

/-- The request hears the reply that the pool was told. -/
theorem step_hear {s : Script} (ht : x.task = .send c next) (houtcome : x.outcome = none)
    (hheard : x.heard.length = x.executed.length) :
    (x.executing c r s).step .hear = (x.executing c r s).take c r (next r) := by
  have hrunning : (x.executing c r s).outcome = none := houtcome
  have htask : (x.executing c r s).task = .send c next := ht
  have hreply : (x.executing c r s).executed[(x.executing c r s).heard.length]? =
      some ⟨x.state, c, r⟩ := by
    rw [show (x.executing c r s).heard = x.heard from rfl, hheard]
    exact List.getElem?_concat_length
  simp only [step, act, hrunning, htask, hreply, Option.isSome_none]
  rfl

/-- A reply that both have taken leaves them at the same point. -/
theorem Tracks.record (hlink : x.link = l) (hlog : p.log = log ++ x.spoken)
    (hquiet : (l.after c r).alive = true →
      x.state = p.script ∧ x.executed.length = x.spoken.length)
    (t : Conversation (Except RunError α)) : Tracks log (l.after c r) p (x.record c r t) where
  link := congrArg (·.after c r) hlink
  waits := rfl
  log := hlog
  script := fun h ↦ (hquiet h).1
  executed := fun h ↦ (hquiet h).2

/-- The rollback behind a request is not in the log of the pool yet. -/
theorem Tracks.leave (htracks : Tracks log l p x) (o : Outcome α) : Tracks log l p (x.leave o) :=
  { htracks with }

/-- On a dead connection both are told that it is lost. -/
theorem takes_dead (ht : x.task = .send c next) (houtcome : x.outcome = none)
    (htracks : Tracks log l p x) (hdead : l.alive = false) :
    Takes log x c .lost (next .lost) l p := by
  have hafter : l.after c .lost = l := by rw [Link.after, ← hdead]
  refine ⟨[.speak], x, step_speak_dead ht houtcome htracks hdead, houtcome, ?_⟩
  rw [← hafter]
  exact .record htracks.link htracks.log (fun h ↦ absurd rfl (Link.alive_after h)) _

/-- The pool logs a command as the exchange sends it. -/
theorem log_asking (htracks : Tracks log l p x) :
    p.log ++ [c] = log ++ (x.asking c).spoken := by
  rw [htracks.log, List.append_assoc]
  rfl

/-- On a connection that lives, both come to take the same reply. -/
theorem takes_reply {s : Script} (hx : Sound st settings w x) (ht : x.task = .send c next)
    (houtcome : x.outcome = none) (htracks : Tracks log l p x) (halive : l.alive = true)
    (hrespond : p.script.respond c.sql = (.reply r, s)) :
    Takes log x c r (next r) (l.after c r) { p with script := s, log := p.log ++ [c] } := by
  have hspeak := step_speak ht houtcome htracks halive
  by_cases hr : r = .lost
  · subst hr
    refine ⟨[.speak, .lose], x.asking c, ?_, houtcome, ?_⟩
    · rw [← step_lose ht houtcome, ← hspeak]
      rfl
    · exact .record (x := x.asking c) htracks.link (log_asking htracks)
        (fun h ↦ absurd rfl (Link.alive_after h)) _
  · have hspoken := hx.alive (htracks.link ▸ halive)
    rw [htracks.waits, if_neg Bool.false_ne_true, List.append_nil] at hspoken
    have hheard : x.heard.length = x.executed.length := by
      rw [htracks.executed halive, hspoken, List.length_map]
    refine ⟨Event.exchanged r, x.executing c r s, ?_, houtcome, ?_⟩
    · rw [← step_hear ht houtcome hheard,
        ← step_execute (hx.running houtcome).1 htracks halive hrespond hr, ← hspeak]
      rfl
    · refine .record (x := x.executing c r s) htracks.link (log_asking htracks)
        (fun _ ↦ ⟨rfl, ?_⟩) _
      simp [executing, asking, htracks.executed halive]

/-! ## A whole conversation -/

/-- A conversation that is over with a reply ends, and any other goes on. -/
theorem Takes.mirrors {t : Conversation (Except RunError α)} (h : Takes log x c r t l p)
    (hx : Sound st settings w x) (ih : ∀ {x}, Sound st settings w x → x.outcome = none →
      x.task = t → Tracks log l p x → Mirrors log x (Pool.play t l p)) :
    Mirrors log x (Pool.play t l p) := by
  obtain ⟨es, y, hrun, houtcome, htracks⟩ := h
  have hsound : Sound st settings w (y.take c r t) := hrun ▸ hx.run es
  refine Mirrors.of_run es ?_
  rw [hrun]
  cases t with
  | done a => exact ⟨[], rfl, htracks.leave _⟩
  | send c' next' => exact ih hsound houtcome rfl htracks

/-- What a pool plays is a way for the exchange to go. -/
theorem mirrors_play (hx : Sound st settings w x) (houtcome : x.outcome = none)
    {t : Conversation (Except RunError α)} (ht : x.task = t) (htracks : Tracks log l p x) :
    Mirrors log x (Pool.play t l p) := by
  induction t generalizing x l p with
  | done a =>
    have hnext := (hx.running houtcome).2
    rw [ht] at hnext
    cases hnext
  | send c next ih =>
    rw [Pool.play]
    cases halive : l.alive with
    | false =>
      rw [if_neg Bool.false_ne_true]
      exact (takes_dead ht houtcome htracks halive).mirrors hx (ih .lost)
    | true =>
      rcases hrespond : p.script.respond c.sql with ⟨response, s⟩
      rw [if_pos rfl, Pool.ask, hrespond]
      cases response with
      | silence =>
        have hspeak : x.run [.speak] = x.asking c := step_speak ht houtcome htracks halive
        exact ⟨[.speak], hspeak ▸ houtcome, hspeak ▸ log_asking htracks⟩
      | reply r => exact (takes_reply hx ht houtcome htracks halive hrespond).mirrors hx (ih r)

end

end Exchange

/-! ## Requests of a pool -/

namespace Pool

variable {α β : Type} {p p' : Pool}

/-- A pool plays one conversation after the other. -/
theorem play_bind (t : Conversation β) (f : β → Conversation α) (l : Link) (p : Pool) :
    play (t.bind f) l p = match play t l p with
      | (some b, l, p) => play (f b) l p
      | (none, l, p) => (none, l, p) := by
  induction t generalizing l p with
  | done b => rfl
  | send c next ih =>
    rw [Task.bind, play, play]
    cases l.alive with
    | false => exact ih .lost l p
    | true =>
      rw [if_pos rfl, if_pos rfl]
      rcases p.ask c with ⟨response, p'⟩
      cases response with
      | silence => rfl
      | reply r => exact ih r (l.after c r) p'

/-- A pool plays the work of a request and then its conclusion. -/
theorem play_proceed (w : Work α) (l : Link) (p : Pool) :
    play (Transaction.proceed (ExceptT.run w) none) l p = match play w.conversation l p with
      | (some r, l, p) => play (Transaction.conclusion r) l p
      | (none, l, p) => (none, l, p) := by
  have hproceed : Transaction.proceed (ExceptT.run w) none =
      w.conversation.bind Transaction.conclusion := rfl
  rw [hproceed, play_bind]
  rcases play w.conversation l p with ⟨_ | r, l', p'⟩
  · rfl
  · rfl

/-- Work is a list of one step. -/
theorem playSteps_singleton (w : Work α) (l : Link) (p : Pool) :
    playSteps [w] l p = match play w.conversation l p with
      | (some r, l, p) => (⟨[r], false⟩, l, p)
      | (none, l, p) => (⟨[], true⟩, l, p) := by
  rw [playSteps]
  rcases play w.conversation l p with ⟨_ | e | a, l', p'⟩
  · rfl
  · rfl
  · rfl

theorem error?_singleton (r : Except RunError α) (silent : Bool) :
    Progress.error? ⟨[r], silent⟩ = Transaction.error? r := by
  cases r <;> rfl

/-- A request on a connection is played as a whole. One that comes to its end gives the connection
back. -/
theorem run_opened (h : p.acquire = (.opened, p')) (config : RoleConfig) (identity : Identity)
    (w : Work α) : p.run config identity w =
      match play (Transaction.request (identity.settings config) w) {} p' with
      | (some r, l, p) => (r, p.release l)
      | (none, _, p) =>
        (.error (.timeout config.transactionTimeoutMs), { p with stuck := p.stuck + 1 }) := by
  rw [Transaction.request, play_bind]
  rcases hopening : play (Transaction.opening (identity.settings config)) {} p'
    with ⟨_ | _ | e, l, p₁⟩
  · simp only [run, transact, h, hopening]
  · rcases hwork : play w.conversation l p₁ with ⟨_ | r, l₂, p₂⟩
    · simp only [run, transact, h, hopening, playSteps_singleton, play_proceed, hwork, if_pos]
    · rcases hclosing : play (Transaction.closing (Transaction.error? r)) l₂ p₂
        with ⟨_ | _ | e, l₃, p₃⟩
      all_goals
        simp only [run, transact, h, hopening, playSteps_singleton, play_proceed, hwork, conclude,
          error?_singleton, Transaction.conclusion, play_bind, hclosing]
        rfl
  · simp only [run, transact, h, hopening]
    rfl

/-- Handing out a connection logs no command and asks the server nothing. -/
theorem acquire_eq {a : Attempt} (h : p.acquire = (a, p')) :
    p'.log = p.log ∧ p'.script = p.script := by
  rw [acquire] at h
  split at h
  · obtain ⟨-, rfl⟩ := Prod.mk.inj h
    exact ⟨rfl, rfl⟩
  · split at h
    · obtain ⟨-, rfl⟩ := Prod.mk.inj h
      exact ⟨rfl, rfl⟩
    · split at h
      all_goals
        obtain ⟨-, rfl⟩ := Prod.mk.inj h
        exact ⟨rfl, rfl⟩

/-- A connection that is given back is rolled back if its transaction is open. -/
theorem log_release {log : List Command} {l : Link} {x : Exchange Script.server α}
    (htracks : x.Tracks log l p) (hcleanup : x.cleanup =
      if x.link.alive && (x.link.inTransaction || x.waits) then [.rollback] else []) :
    (p.release l).log = log ++ x.sent := by
  rw [Exchange.sent, ← List.append_assoc, ← htracks.log, hcleanup, htracks.link, htracks.waits,
    release]
  cases l.alive with
  | false => exact (List.append_nil _).symm
  | true => cases l.inTransaction with
    | false => exact (List.append_nil _).symm
    | true => rfl

/-- What a request on a connection answers and logs is what one of its exchanges does. If the server
keeps silent, its time is up. -/
theorem run_exchange (h : p.acquire = (.opened, p')) (config : RoleConfig) (identity : Identity)
    (w : Work α) : ∃ (x : Exchange Script.server α) (es : List Event),
      x = (Exchange.start p.script (identity.settings config) w).run es ∧
      (x.outcome = some (.answered (p.run config identity w).1) ∧
          (p.run config identity w).2.log = p.log ++ x.sent ∨
        x.outcome = some .expired ∧
          (p.run config identity w).1 = .error (.timeout config.transactionTimeoutMs) ∧
          (p.run config identity w).2.log = p.log ++ x.spoken) := by
  obtain ⟨hlog, hscript⟩ := acquire_eq h
  have hsound := Exchange.sound_run (S := Script.server) p.script (identity.settings config) w
  have hmirrors := Exchange.mirrors_play (l := {}) (p := p') (hsound []) rfl rfl
    ⟨rfl, rfl, hlog.trans (List.append_nil _).symm, fun _ ↦ hscript.symm, fun _ ↦ rfl⟩
  rw [run_opened h]
  rcases hplay : play (Transaction.request (identity.settings config) w) {} p' with ⟨_ | r, l, p₁⟩
  · obtain ⟨es, houtcome, hspoken⟩ := hplay ▸ hmirrors
    refine ⟨_, es ++ [.expire], rfl, .inr ?_⟩
    rw [Exchange.run_append]
    refine ⟨?_, rfl, ?_⟩
    · exact congrArg Exchange.outcome (Exchange.step_expire houtcome)
    · exact hspoken.trans (congrArg (p.log ++ ·.spoken) (Exchange.step_expire houtcome).symm)
  · obtain ⟨es, houtcome, htracks⟩ := hplay ▸ hmirrors
    have hended := (hsound es).ended (houtcome ▸ rfl)
    exact ⟨_, es, rfl, .inl ⟨houtcome, log_release htracks hended⟩⟩

/-- A request that is not given a connection fails, and nothing is logged. -/
theorem run_unopened {a : Attempt} (h : p.acquire = (a, p')) (ha : a ≠ .opened)
    (config : RoleConfig) (identity : Identity) (w : Work α) :
    ∃ e, p.run config identity w = (.error e, p') := by
  cases a with
  | opened => exact absurd rfl ha
  | failed f =>
    simp only [run, transact, h]
    exact ⟨_, rfl⟩
  | waits =>
    by_cases hlate : config.transactionTimeoutMs < p'.acquireTimeoutMs
    · simp only [run, transact, h, if_pos hlate]
      exact ⟨_, rfl⟩
    · simp only [run, transact, h, if_neg hlate]
      exact ⟨_, rfl⟩

/-- Whatever a request logs is a beginning of its script, and at most one rollback behind it. -/
theorem log_run (p : Pool) (config : RoleConfig) (identity : Identity) (w : Work α) :
    ∃ (hw : List (Statement × Reply)) (u : Task Statement (Except RunError α))
      (said : List Command) (n : Nat), n ≤ 1 ∧ Task.Follows (ExceptT.run w) hw u ∧
      said <+: Transaction.script (identity.settings config) hw u ∧
      (p.run config identity w).2.log = p.log ++ said ++ List.replicate n Command.rollback := by
  rcases hacquire : p.acquire with ⟨a, p'⟩
  by_cases ha : a = .opened
  · subst ha
    obtain ⟨x, es, hx, hcases⟩ := run_exchange hacquire config identity w
    have hsound : x.Sound p.script (identity.settings config) w := hx ▸ Exchange.sound_run _ _ w es
    obtain ⟨hw, u, n, hn, hfollows, -, hscript, hsent⟩ := hsound.script
    rcases hcases with ⟨-, hlog⟩ | ⟨-, -, hlog⟩
    · exact ⟨hw, u, x.spoken, n, hn, hfollows, hscript, by rw [hlog, hsent, List.append_assoc]⟩
    · exact ⟨hw, u, x.spoken, 0, Nat.zero_le 1, hfollows, hscript,
        hlog.trans (List.append_nil _).symm⟩
  · obtain ⟨e, hrun⟩ := run_unopened hacquire ha config identity w
    refine ⟨[], _, [], 0, Nat.zero_le 1, .nil _, List.nil_prefix, ?_⟩
    rw [hrun, (acquire_eq hacquire).1]
    simp

end Pool

end RowGate
