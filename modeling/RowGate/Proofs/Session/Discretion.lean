import RowGate.Proofs.Session.Play

/-! # What refusals tell

A server that refuses something for a lack of privilege says why, and its words may name tables and
roles. A request shows none of them, wherever in its transaction they were said, except where the
connection itself or the beginning of the transaction is refused: there the words of the server are
the caller's message.

The words of refusals are taken out of a server's script by a veil. A task that takes each reply as
it takes the veiled one plays in the same way against both scripts, so servers that are alike under
the veil are told apart by the beginning of a request only.
-/

namespace RowGate

/-! ## The veil -/

/-- A refusal for a lack of privilege without the server's words; other errors keep theirs. -/
def ServerError.veil (e : ServerError) : ServerError :=
  if e.isPermissionDenied then { e with message := "" } else e

def Reply.veil : Reply → Reply
  | .refused e => .refused e.veil
  | r => r

def Response.veil : Response → Response
  | .reply r => .reply r.veil
  | .silence => .silence

def Attempt.veil : Attempt → Attempt
  | .failed (.server e) => .failed (.server e.veil)
  | a => a

def Script.veil (s : Script) : Script where
  startup := s.startup.veil
  begin := s.begin.veil
  commit := s.commit.veil
  rollback := s.rollback.veil
  settings := s.settings.veil
  probe := s.probe.veil
  queue := s.queue.map Response.veil

def Pool.veil (p : Pool) : Pool := { p with script := p.script.veil }

namespace ServerError

variable {e e' : ServerError}

@[simp] theorem code_veil (e : ServerError) : e.veil.code = e.code := by
  rw [veil]
  split <;> rfl

/-- The veil leaves the code of an error, and so what kind of error it is. -/
theorem isPermissionDenied_veil (e : ServerError) :
    e.veil.isPermissionDenied = e.isPermissionDenied := by
  rw [isPermissionDenied, isPermissionDenied, code_veil]

theorem isTransient_veil (e : ServerError) : e.veil.isTransient = e.isTransient := by
  rw [isTransient, isTransient, code_veil]

/-- Other errors keep their words. -/
theorem veil_of_not_denied (h : e.isPermissionDenied = false) : e.veil = e := by
  rw [veil, h, if_neg Bool.false_ne_true]

/-- Refusals for a lack of privilege differ in their words only. -/
theorem eq_iff_message_eq (he : e.isPermissionDenied = true) (he' : e'.isPermissionDenied = true) :
    e = e' ↔ e.message = e'.message := by
  have hcode : e.code = e'.code := (of_decide_eq_true he).trans (of_decide_eq_true he').symm
  cases e
  cases e'
  simp_all

end ServerError

/-- A denied command is reported in words of the library, not of the server. -/
theorem RunError.ofFailure_of_denied {e : ServerError} (h : e.isPermissionDenied = true) :
    ofFailure (.server e) = .permissionDenied "insufficient privilege for this operation" := by
  simp [ofFailure, Failure.isOutage, h]

/-- A failed statement is classified without the words of a refusal. -/
theorem RunError.ofFailure_veil (e : ServerError) :
    ofFailure (.server e.veil) = ofFailure (.server e) := by
  cases h : e.isPermissionDenied with
  | false => rw [ServerError.veil_of_not_denied h]
  | true =>
    have hveil : e.veil.isPermissionDenied = true := (e.isPermissionDenied_veil).trans h
    rw [ofFailure_of_denied h, ofFailure_of_denied hveil]

/-- Where a refusal makes the database unavailable, its words are shown. -/
theorem RunError.message_unavailable_inj {e e' : ServerError} :
    message (.unavailable (.failure (.server e))) = message (.unavailable (.failure (.server e'))) ↔
      e.message = e'.message := by
  have htext (e : ServerError) : message (.unavailable (.failure (.server e))) =
      "Database unavailable: " ++ ("error returned from database: " ++ e.message) := rfl
  rw [htext, htext, String.append_right_inj, String.append_right_inj]

/-- A reply is reported as it is behind the veil. -/
theorem Reply.ofFailure_veil (r : Reply) :
    r.veil.failure?.map RunError.ofFailure = r.failure?.map RunError.ofFailure := by
  cases r with
  | refused e => exact congrArg some (RunError.ofFailure_veil e)
  | rows _ _ => rfl
  | affected _ => rfl
  | lost => rfl

/-- A connection goes on alike whatever the words of a refusal. -/
theorem Link.after_veil (l : Link) (c : Command) (r : Reply) : l.after c r.veil = l.after c r := by
  cases r <;> rfl

/-- The responses of a server behind the veil are its responses, veiled. -/
theorem Script.respond_veil (s : Script) (sql : String) :
    s.veil.respond sql = ((s.respond sql).1.veil, (s.respond sql).2.veil) := by
  obtain ⟨_, _, _, _, _, _, queue⟩ := s
  simp only [respond]
  split_ifs
  case neg => cases queue <;> rfl
  all_goals rfl

/-- An attempt to connect ends alike but for the words of a refusal. -/
theorem Network.attempt_veil (n : Network) (r : Response) :
    n.attempt r.veil = (n.attempt r).veil := by
  cases n with
  | refused => rfl
  | unreachable => rfl
  | reachable => match r with
    | .silence => rfl
    | .reply .lost => rfl
    | .reply (.rows _ _) => rfl
    | .reply (.affected _) => rfl
    | .reply (.refused e) =>
      simp only [attempt, Response.veil, Reply.veil, ServerError.isTransient_veil]
      split <;> rfl

/-! ## Tasks that do not repeat a refusal -/

namespace Task

variable {κ κ' α β : Type} {t : Task κ α}

/-- At each of its commands, the task takes a reply as it takes the veiled one. -/
def IsDiscreet : Task κ α → Prop
  | done _ => True
  | send _ next => ∀ r, IsDiscreet (next r) ∧ next r.veil = next r

/-- Discreet tasks may follow one another. -/
theorem IsDiscreet.bind {f : α → Task κ β} (ht : t.IsDiscreet) (hf : ∀ a, (f a).IsDiscreet) :
    (t.bind f).IsDiscreet := by
  induction t with
  | done a => exact hf a
  | send c next ih =>
    intro r
    obtain ⟨hnext, hveil⟩ := ht r
    exact ⟨ih r hnext, congrArg (Task.bind · f) hveil⟩

theorem IsDiscreet.mapCommand (ht : t.IsDiscreet) (g : κ → κ') : (t.mapCommand g).IsDiscreet := by
  induction t with
  | done a => exact trivial
  | send c next ih =>
    intro r
    obtain ⟨hnext, hveil⟩ := ht r
    exact ⟨ih r hnext, congrArg (Task.mapCommand g) hveil⟩

end Task

namespace Work

variable {α β : Type} {w : Work α}

def IsDiscreet (w : Work α) : Prop := Task.IsDiscreet (ExceptT.run w)

theorem IsDiscreet.pure (a : α) : IsDiscreet (Pure.pure a : Work α) := trivial

theorem IsDiscreet.throw (e : RunError) : IsDiscreet (throw e : Work α) := trivial

theorem IsDiscreet.bind {f : α → Work β} (hw : w.IsDiscreet) (hf : ∀ a, (f a).IsDiscreet) :
    (w >>= f).IsDiscreet := by
  refine Task.IsDiscreet.bind (t := ExceptT.run w) hw fun r ↦ ?_
  cases r with
  | ok a => exact hf a
  | error e => exact trivial

/-- A statement is discreet if it reports a refusal as a failure of the server. -/
theorem IsDiscreet.run (s : Statement) {read : Reply → Except Failure α}
    (hread : ∀ e, read (.refused e) = .error (.server e)) : IsDiscreet (run s read) := by
  intro r
  refine ⟨trivial, ?_⟩
  cases r with
  | refused e => simp only [Reply.veil, hread, RunError.ofFailure_veil]
  | rows _ _ => rfl
  | affected _ => rfl
  | lost => rfl

theorem IsDiscreet.ofQuery (x : Except QueryError α) : IsDiscreet (ofQuery x) := by
  cases x with
  | ok a => exact .pure a
  | error e => exact .throw _

/-- Rows are read from replies, never from the words of a refusal. -/
theorem IsDiscreet.fetchRows (s : Statement) : IsDiscreet (fetchRows s) := .run _ fun _ ↦ rfl

theorem IsDiscreet.execute (s : Statement) : IsDiscreet (execute s) := .run s fun _ ↦ rfl

/-- The estimate of a plan is discreet, also where the plan cannot be read. -/
theorem IsDiscreet.fetchPlannedCount (s : Statement) : IsDiscreet (fetchPlannedCount s) := by
  refine (IsDiscreet.run s fun _ ↦ rfl).bind fun plan ↦ ?_
  cases planRows? plan with
  | some n => exact .pure n
  | none => exact .throw _

/-- A total asks for a count, a plan, or nothing. -/
theorem IsDiscreet.fetchTotal (t : Target) (q : Query) : IsDiscreet (fetchTotal t q) := by
  have hcounted : IsDiscreet (do return some (← fetchCount (← Work.ofQuery (t.count q)))) :=
    (ofQuery _).bind fun s ↦ (run s fun _ ↦ rfl).bind fun n ↦ .pure (some n)
  rw [Work.fetchTotal]
  cases q.count with
  | none => exact .pure none
  | exact => exact hcounted
  | planned => exact (ofQuery _).bind fun s ↦ (fetchPlannedCount s).bind fun n ↦ .pure (some n)
  | estimated =>
    refine (ofQuery _).bind fun s ↦ (fetchPlannedCount s).bind fun n ↦ ?_
    split
    · exact hcounted
    · exact .pure (some n)

/-- A page asks for its rows and its total. -/
theorem IsDiscreet.fetchPage (t : Target) (q : Query) : IsDiscreet (fetchPage t q) :=
  (ofQuery _).bind fun _ ↦ (ofQuery _).bind fun s ↦
    (run s fun _ ↦ rfl).bind fun _ ↦ (fetchTotal t q).bind fun _ ↦ .pure _

end Work

namespace Transaction

variable {α : Type} {w : Work α}

/-- The end of a transaction reports a refused COMMIT as a failure of the server. -/
theorem isDiscreet_conclusion (r : Except RunError α) : (conclusion r).IsDiscreet := by
  cases r with
  | error e => exact fun _ ↦ ⟨trivial, rfl⟩
  | ok a =>
    refine Task.IsDiscreet.bind (t := closing none) ?_ fun o ↦ ?_
    · exact fun r ↦ ⟨trivial, congrArg Task.done r.ofFailure_veil⟩
    · cases o <;> exact trivial

/-- From the settings on, a request of discreet work is discreet. -/
theorem isDiscreet_proceed (hw : w.IsDiscreet) (o : Option RunError) :
    (proceed (ExceptT.run w) o).IsDiscreet := by
  cases o with
  | some e => exact trivial
  | none => exact (Task.IsDiscreet.mapCommand hw _).bind isDiscreet_conclusion

/-- Past its beginning, a transaction of discreet work is discreet. -/
theorem isDiscreet_applying (hw : w.IsDiscreet) (settings : List (String × String)) :
    (applying settings w).IsDiscreet := fun r ↦
  ⟨isDiscreet_proceed hw _, congrArg (proceed (ExceptT.run w)) r.ofFailure_veil⟩

end Transaction

/-! ## Pools behind a veil -/

namespace Pool

variable {α : Type} {p p' : Pool} {w : Work α}

/-- A pool behind the veil answers a command as it does, veiled. -/
theorem ask_veil (p : Pool) (c : Command) :
    p.veil.ask c = ((p.ask c).1.veil, (p.ask c).2.veil) := by
  rw [ask, ask, veil, Script.respond_veil]
  rfl

/-- A connection is handed out alike behind the veil. -/
theorem acquire_veil (p : Pool) : p.veil.acquire = (p.acquire.1.veil, p.acquire.2.veil) := by
  rw [acquire, acquire]
  change (if p.closed then _ else if 0 < p.waiting then _ else if p.size ≤ p.stuck then _ else
    (p.network.attempt p.script.startup.veil, p.veil)) = _
  rw [Network.attempt_veil]
  split_ifs <;> rfl

/-- A connection is taken back alike behind the veil. -/
theorem release_veil (p : Pool) (l : Link) : p.veil.release l = (p.release l).veil := by
  rw [release, release]
  cases l.alive with
  | false => rfl
  | true => cases l.inTransaction with
    | false => rfl
    | true =>
      simp only [ask_veil]
      rfl

/-- A discreet conversation is played over a veiled pool as over the pool itself. -/
theorem play_veil {t : Conversation α} (ht : t.IsDiscreet) (l : Link) (p : Pool) :
    play t l p.veil = ((play t l p).1, (play t l p).2.1, (play t l p).2.2.veil) := by
  induction t generalizing l p with
  | done a => rfl
  | send c next ih =>
    rw [play, play]
    cases l.alive with
    | false => exact ih .lost (ht .lost).1 l p
    | true =>
      rw [if_pos rfl, if_pos rfl, ask_veil]
      rcases p.ask c with ⟨response, p₁⟩
      cases response with
      | silence => rfl
      | reply r =>
        obtain ⟨hnext, hveil⟩ := ht r
        change play (next r.veil) (l.after c r.veil) p₁.veil = _
        rw [hveil, Link.after_veil]
        exact ih r hnext (l.after c r) p₁

/-! ## Refusals at the beginning -/

/-- The error that refuses a request before its identity is applied: where its connection is opened,
or where its transaction begins. -/
def openingRefusal? (p : Pool) : Option ServerError :=
  match p.acquire.1, p.script.begin with
  | .failed (.server e), _ => some e
  | .opened, .reply (.refused e) => some e
  | _, _ => none

/-- Such a refusal for a lack of privilege. -/
def openingDenial? (p : Pool) : Option ServerError :=
  p.openingRefusal?.filter ServerError.isPermissionDenied

theorem openingRefusal?_veil (p : Pool) :
    p.veil.openingRefusal? = p.openingRefusal?.map ServerError.veil := by
  rw [openingRefusal?, openingRefusal?, acquire_veil]
  rcases p.acquire.1 with _ | f | _
  · simp only [veil, Script.veil, Attempt.veil]
    rcases p.script.begin with (_ | _ | _ | _) | _ <;> rfl
  · cases f <;> rfl
  · rfl

/-- The veil leaves which denial refuses a request, but for its words. -/
theorem openingDenial?_veil (p : Pool) :
    p.veil.openingDenial? = p.openingDenial?.map ServerError.veil := by
  rw [openingDenial?, openingDenial?, openingRefusal?_veil]
  cases p.openingRefusal? with
  | none => rfl
  | some e =>
    rw [Option.map_some, Option.filter_some, Option.filter_some, e.isPermissionDenied_veil]
    split <;> rfl

variable (config : RoleConfig) (identity : Identity)

/-- A request without a connection shows what the connection failed with. -/
theorem run_failed {f : Failure} (h : p.acquire = (.failed f, p')) (w : Work α) :
    p.run config identity w = (.error (.unavailable (.failure f)), p') := by
  simp only [run, transact, h]

/-- A request that waits for a connection in vain ends in one of two timeouts. -/
theorem run_waits (h : p.acquire = (.waits, p')) (w : Work α) :
    p.run config identity w = (.error (if config.transactionTimeoutMs < p'.acquireTimeoutMs then
      .timeout config.transactionTimeoutMs else .unavailable (.failure .poolTimedOut)), p') := by
  by_cases hlate : config.transactionTimeoutMs < p'.acquireTimeoutMs
  · simp only [run, transact, h, if_pos hlate]
  · simp only [run, transact, h, if_neg hlate]

/-- A request hears the response to its first command, and goes on if the transaction has begun. -/
theorem play_request (settings : List (String × String)) (w : Work α) (p : Pool) :
    play (Transaction.request settings w) {} p = match p.script.begin with
      | .silence => (none, {}, (p.ask .begin).2)
      | .reply r => match r.failure? with
        | some f => (some (.error (.unavailable (.failure f))), Link.after {} .begin r,
            (p.ask .begin).2)
        | none => play (Transaction.applying settings w) (Link.after {} .begin r)
            (p.ask .begin).2 := by
  have hask : p.ask .begin = (p.script.begin, (p.ask .begin).2) := rfl
  rw [Transaction.request_eq, play, if_pos rfl, hask]
  cases p.script.begin with
  | silence => rfl
  | reply r => cases hr : r.failure? <;> simp only [hr, play]

/-- The pool after a request that was refused its connection or its transaction. -/
def afterRefusal (p : Pool) : Pool :=
  match p.acquire with
  | (.opened, p) => (p.ask .begin).2.release {}
  | (_, p) => p

/-- The pool after a refusal is the same behind the veil. -/
theorem afterRefusal_veil (p : Pool) : p.veil.afterRefusal = p.afterRefusal.veil := by
  rw [afterRefusal, afterRefusal, acquire_veil]
  rcases p.acquire with ⟨_ | f | _, p'⟩
  · change (p'.veil.ask .begin).2.release {} = ((p'.ask .begin).2.release {}).veil
    rw [ask_veil, release_veil]
  · cases f <;> rfl
  · rfl

/-- A request that is refused its connection or its transaction repeats the words of the server. -/
theorem run_of_openingRefusal {e : ServerError} (h : p.openingRefusal? = some e) (w : Work α) :
    p.run config identity w =
      (.error (.unavailable (.failure (.server e))), p.afterRefusal) := by
  rcases hacquire : p.acquire with ⟨a, p₁⟩
  rw [openingRefusal?, hacquire] at h
  rw [afterRefusal, hacquire]
  split at h
  next hfailed =>
    obtain rfl := Option.some.inj h
    obtain rfl : a = .failed (.server _) := hfailed
    exact run_failed config identity hacquire w
  next hopened hbegin =>
    obtain rfl := Option.some.inj h
    obtain rfl : a = .opened := hopened
    rw [← (acquire_eq hacquire).2] at hbegin
    rw [run_opened hacquire, play_request, hbegin]
    rfl
  next => cases h

/-- A transaction that the server does not refuse to begin is played as it is behind the veil. -/
theorem play_request_veil (hw : w.IsDiscreet) (settings : List (String × String))
    (h : ∀ e, p.script.begin ≠ .reply (.refused e)) :
    play (Transaction.request settings w) {} p.veil =
      ((play (Transaction.request settings w) {} p).1,
        (play (Transaction.request settings w) {} p).2.1,
        (play (Transaction.request settings w) {} p).2.2.veil) := by
  have hveil : p.veil.script.begin = p.script.begin := by
    change p.script.begin.veil = p.script.begin
    rcases hbegin : p.script.begin with (_ | _ | e | _) | _
    case reply.refused => exact absurd hbegin (h e)
    all_goals rfl
  rw [play_request, play_request, hveil, ask_veil]
  cases p.script.begin with
  | silence => rfl
  | reply r => cases hr : r.failure? with
    | some f => simp only [hr]
    | none =>
      simp only [hr]
      exact play_veil (Transaction.isDiscreet_applying hw settings) _ _

/-- A request that the server lets begin goes as it goes behind the veil. -/
theorem run_veil_of_unrefused (hw : w.IsDiscreet) (h : p.openingRefusal? = none) :
    p.veil.run config identity w =
      ((p.run config identity w).1, (p.run config identity w).2.veil) := by
  rcases hacquire : p.acquire with ⟨a, p₁⟩
  have hveil : p.veil.acquire = (a.veil, p₁.veil) := by rw [acquire_veil, hacquire]
  rw [openingRefusal?, hacquire] at h
  cases a with
  | waits =>
    rw [run_waits config identity hacquire, run_waits config identity hveil]
    rfl
  | failed f =>
    have hf : Attempt.veil (.failed f) = .failed f := by
      cases f with
      | server e => cases h
      | _ => rfl
    rw [run_failed config identity hacquire, run_failed config identity (hveil.trans (by rw [hf]))]
  | opened =>
    have hbegin : ∀ e, p₁.script.begin ≠ .reply (.refused e) := by
      intro e he
      rw [(acquire_eq hacquire).2] at he
      rw [he] at h
      cases h
    rw [run_opened hacquire, run_opened hveil, play_request_veil hw _ hbegin]
    rcases play (Transaction.request (identity.settings config) w) {} p₁ with ⟨_ | r, l, p₂⟩
    · rfl
    · exact Prod.ext rfl (release_veil p₂ l)

/-- The veil changes no pool, and no answer but that to a request denied at its beginning. -/
theorem run_veil (hw : w.IsDiscreet) :
    (p.veil.run config identity w).2 = (p.run config identity w).2.veil ∧
    (p.openingDenial? = none →
      (p.veil.run config identity w).1 = (p.run config identity w).1) := by
  cases hrefusal : p.openingRefusal? with
  | none =>
    rw [run_veil_of_unrefused config identity hw hrefusal]
    exact ⟨rfl, fun _ ↦ rfl⟩
  | some e =>
    have hveil : p.veil.openingRefusal? = some e.veil := by
      rw [openingRefusal?_veil, hrefusal, Option.map_some]
    rw [run_of_openingRefusal config identity hrefusal, run_of_openingRefusal config identity hveil]
    refine ⟨p.afterRefusal_veil, fun hnone ↦ ?_⟩
    rw [openingDenial?, hrefusal, Option.filter_eq_none_iff] at hnone
    have he : e.isPermissionDenied = false := Bool.eq_false_iff.mpr (hnone e rfl)
    rw [ServerError.veil_of_not_denied he]

/-- Over pools that are alike behind the veil, discreet work comes to the same, or the server denies
both requests their beginning. -/
theorem run_of_veil_eq (hw : w.IsDiscreet) (h : p.veil = p'.veil) :
    (p.run config identity w).1 = (p'.run config identity w).1 ∧
        p.openingDenial? = p'.openingDenial? ∨
      ∃ e e', p.openingDenial? = some e ∧ p'.openingDenial? = some e' ∧
        (p.run config identity w).1 = .error (.unavailable (.failure (.server e))) ∧
        (p'.run config identity w).1 = .error (.unavailable (.failure (.server e'))) := by
  have hdenials : p.openingDenial?.map ServerError.veil =
      p'.openingDenial?.map ServerError.veil := by
    rw [← openingDenial?_veil, ← openingDenial?_veil, h]
  cases hdenial : p.openingDenial? with
  | none =>
    rw [hdenial, Option.map_none, eq_comm, Option.map_eq_none_iff] at hdenials
    have hrun := (run_veil config identity (p := p) hw).2 hdenial
    have hrun' := (run_veil config identity (p := p') hw).2 hdenials
    exact .inl ⟨by rw [← hrun, ← hrun', h], hdenials.symm⟩
  | some e =>
    rw [hdenial, Option.map_some, eq_comm, Option.map_eq_some_iff] at hdenials
    obtain ⟨e', hdenial', -⟩ := hdenials
    have hrefusal := (Option.filter_eq_some_iff.mp hdenial).1
    have hrefusal' := (Option.filter_eq_some_iff.mp hdenial').1
    refine .inr ⟨e, e', rfl, hdenial', ?_, ?_⟩
    · rw [run_of_openingRefusal config identity hrefusal]
    · rw [run_of_openingRefusal config identity hrefusal']

end Pool

/-! ## Calls -/

/-- A call that runs in a transaction of its own, by what it returns. -/
inductive Call : Type → Type where
  | fetch (s : Statement) : Call (List Json)
  | execute (s : Statement) : Call Nat
  | page (t : Target) (q : Query) : Call Page

namespace Call

variable {α : Type}

/-- Answers a call for an identity over a pool. -/
def answer (config : RoleConfig) (identity : Identity) (p : Pool) :
    Call α → Except RunError α × Pool
  | fetch s => p.run config identity (Work.fetchRows s)
  | execute s => p.run config identity (Work.execute s)
  | page t q => p.fetchPage config identity t q

/-- A page that does not fit the metadata of its table takes no connection. -/
def Connects : Call α → Prop
  | fetch _ | execute _ => True
  | page t q => t.validate q = .ok ()

variable (config : RoleConfig) (identity : Identity) {p p' : Pool} {x : Call α}

/-- A call that takes a connection runs discreet work. -/
theorem answer_of_connects (h : x.Connects) : ∃ w : Work α, w.IsDiscreet ∧
    ∀ p, x.answer config identity p = p.run config identity w := by
  cases x with
  | fetch s => exact ⟨_, .fetchRows s, fun _ ↦ rfl⟩
  | execute s => exact ⟨_, .execute s, fun _ ↦ rfl⟩
  | page t q =>
    refine ⟨_, .fetchPage t q, fun p ↦ ?_⟩
    rw [answer, Pool.fetchPage, show t.validate q = .ok () from h]

/-- A call that does not fit its table is refused without a connection. -/
theorem answer_of_not_connects (h : ¬x.Connects) :
    ∃ e, ∀ p, x.answer config identity p = (.error e, p) := by
  cases x with
  | fetch s => exact absurd trivial h
  | execute s => exact absurd trivial h
  | page t q =>
    cases hvalid : t.validate q with
    | ok _ => exact absurd hvalid h
    | error e =>
      refine ⟨.query e, fun p ↦ ?_⟩
      rw [answer, Pool.fetchPage, hvalid]

/-- Two servers that differ in the words of their refusals for a lack of privilege. A call comes to
the same over either of them, up to the text of its error: the same value, or errors of the same
category, and pools that are alike again. The text is the same, too, exactly if the call takes no
connection or both servers say the same where they refuse the connection or the beginning of its
transaction. -/
theorem answer_of_veil_eq (h : p.veil = p'.veil) (x : Call α) :
    (x.answer config identity p).1.mapError (fun e ↦ (e.category, e.isRetryable)) =
        (x.answer config identity p').1.mapError (fun e ↦ (e.category, e.isRetryable)) ∧
      ((x.answer config identity p).1.mapError RunError.message =
          (x.answer config identity p').1.mapError RunError.message ↔
        (x.Connects → p.openingDenial? = p'.openingDenial?)) ∧
      (x.answer config identity p).2.veil = (x.answer config identity p').2.veil := by
  by_cases hconnects : x.Connects
  case neg =>
    obtain ⟨e, hanswer⟩ := answer_of_not_connects config identity hconnects
    rw [hanswer p, hanswer p']
    exact ⟨rfl, iff_of_true rfl fun hx ↦ absurd hx hconnects, h⟩
  case pos =>
    obtain ⟨w, hw, hanswer⟩ := answer_of_connects config identity hconnects
    have hpools : (p.run config identity w).2.veil = (p'.run config identity w).2.veil := by
      rw [← (Pool.run_veil config identity hw).1, ← (Pool.run_veil config identity hw).1, h]
    rw [hanswer p, hanswer p']
    rcases Pool.run_of_veil_eq config identity hw h with
      ⟨hrun, hdenial⟩ | ⟨e, e', hdenial, hdenial', hrun, hrun'⟩
    · rw [hrun]
      exact ⟨rfl, iff_of_true rfl fun _ ↦ hdenial, hpools⟩
    · have he := (Option.filter_eq_some_iff.mp hdenial).2
      have he' := (Option.filter_eq_some_iff.mp hdenial').2
      refine ⟨by rw [hrun, hrun']; rfl, ?_, hpools⟩
      rw [hrun, hrun', hdenial, hdenial', Option.some_inj, ServerError.eq_iff_message_eq he he',
        ← RunError.message_unavailable_inj]
      exact ⟨fun htext _ ↦ Except.error.inj htext,
        fun htext ↦ congrArg Except.error (htext hconnects)⟩

/-- A server that denies a command, in words of its own. -/
def denial (words : String) : Response := .reply (.refused ⟨"42501", words⟩)

/-- A pool with one connection to a server. -/
def single (s : Script) : Pool where
  network := .reachable
  script := s
  size := 1
  waiting := 1
  acquireTimeoutMs := 5000

/-- What an anonymous caller who deletes documents is shown of an error. -/
def shown (p : Pool) : Except String Nat :=
  ((execute ⟨"DELETE FROM docs", []⟩).answer {} (.anonymous {}) p).1.mapError RunError.message

/-- What a commit is denied with is not shown. -/
theorem shown_of_denied_commit :
    (single { commit := denial "check on payroll" }).veil
        = (single { commit := denial "check on staff" }).veil ∧
      shown (single { commit := denial "check on payroll" })
        = .error "Permission denied: insufficient privilege for this operation" ∧
      shown (single { commit := denial "check on payroll" })
        = shown (single { commit := denial "check on staff" }) := by
  have hveil : (single { commit := denial "check on payroll" }).veil
      = (single { commit := denial "check on staff" }).veil := rfl
  obtain ⟨-, htext, -⟩ :=
    answer_of_veil_eq {} (.anonymous {}) hveil (execute ⟨"DELETE FROM docs", []⟩)
  exact ⟨hveil, by decide +kernel, htext.mpr fun _ ↦ rfl⟩

/-- What the beginning of a transaction is denied with is shown. -/
theorem shown_of_denied_begin :
    (single { begin := denial "payroll" }).veil = (single { begin := denial "staff" }).veil ∧
      shown (single { begin := denial "payroll" })
        = .error "Database unavailable: error returned from database: payroll" ∧
      shown (single { begin := denial "staff" })
        = .error "Database unavailable: error returned from database: staff" :=
  ⟨rfl, rfl, rfl⟩

end Call

end RowGate
