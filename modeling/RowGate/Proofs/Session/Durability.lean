import RowGate.Proofs.Session.Exchange
import RowGate.Session.Recovery

/-! # Commits and compensations

Whether a request answers with success, whether the server has committed its transaction, and
whether its compensations start. The server's word for a commit is not enough: a transaction that
failed on the way ends with success, too. And a commit whose answer is not heard counts as none.
-/

namespace RowGate

/-- How the transaction of a session stands. -/
inductive Standing where
  | idle
  | active
  | aborted
deriving DecidableEq, Repr

/-- How a server keeps the standing of a transaction. -/
structure Server.Standings (S : Server) where
  standing : S.State → Standing
  /-- Statements that do not control the transaction. -/
  ordinary : Statement → Prop
  ordinary_settings : ∀ settings : List (String × String), ordinary (settingsStatement settings)
  begin : ∀ {st st' : S.State} {r : Reply}, standing st = .idle → S.answer st .begin r = some st' →
    r.failure? = none → standing st' = .active
  /-- A statement that fails aborts the transaction. -/
  run : ∀ {st st' : S.State} {s : Statement} {r : Reply}, ordinary s → standing st = .active →
    S.answer st (.run s) r = some st' →
    standing st' = if r.failure? = none then .active else .aborted
  /-- A transaction that is aborted stays so until it ends. -/
  aborted : ∀ {st st' : S.State} {s : Statement} {r : Reply}, ordinary s → standing st = .aborted →
    S.answer st (.run s) r = some st' → standing st' = .aborted

namespace Server.Standings

variable {S : Server} (L : S.Standings) {st st' : S.State} {es : List S.Execution}

/-- Ordinary statements leave a transaction active if none of them fails, and aborted otherwise. -/
theorem standing_runs (hst : L.standing st ≠ .idle) (h : S.Runs st es st')
    (hes : ∀ e ∈ es, ∃ s, e.command = .run s ∧ L.ordinary s) :
    L.standing st' ≠ .idle ∧ (L.standing st' = .active ↔
      L.standing st = .active ∧ ∀ e ∈ es, e.reply.failure? = none) := by
  induction es generalizing st with
  | nil =>
    cases h
    exact ⟨hst, by simp⟩
  | cons e es ih =>
    obtain ⟨-, st₁, hanswer, hrest⟩ := h
    obtain ⟨s, hs, hordinary⟩ := hes e List.mem_cons_self
    have hes' : ∀ e' ∈ es, ∃ s, e'.command = .run s ∧ L.ordinary s := fun e' he' ↦
      hes e' (List.mem_cons_of_mem e he')
    rw [hs] at hanswer
    rw [List.forall_mem_cons]
    cases hstanding : L.standing st with
    | idle => exact absurd hstanding hst
    | active =>
      have hnext := L.run hordinary hstanding hanswer
      split at hnext
      next hr =>
        have hstate := ih (by simp [hnext]) hrest hes'
        simpa [hnext, hr] using hstate
      next hr =>
        have hstate := ih (by simp [hnext]) hrest hes'
        simpa [hnext, hr] using hstate
    | aborted =>
      have hnext := L.aborted hordinary hstanding hanswer
      have hstate := ih (by simp [hnext]) hrest hes'
      simpa [hnext] using hstate

/-- A transaction that was opened for ordinary work is active as long as none of the statements
fails. -/
theorem active_iff_of_opened (hst : L.standing st = .idle) {settings : List (String × String)}
    {r r' : Reply} {hw : List (Statement × Reply)} (h : S.Runs st es st')
    (hes : es.map (·.said) = Transaction.opened settings r r' hw) (hr : r.failure? = none)
    (hordinary : ∀ p ∈ hw, L.ordinary p.1) : L.standing st' = .active ↔
      ∀ s r'', (.run s, r'') ∈ Transaction.opened settings r r' hw → r''.failure? = none := by
  obtain ⟨e₀, es, rfl, he₀, hrest⟩ := List.map_eq_cons_iff.mp hes
  obtain ⟨hcommand₀, rfl⟩ := Prod.mk.inj he₀
  obtain ⟨-, st₁, hbegin, hruns⟩ := h
  rw [hcommand₀] at hbegin
  have hactive : L.standing st₁ = .active := L.begin hst hbegin hr
  have hcommands : ∀ e ∈ es, ∃ s, e.command = .run s ∧ L.ordinary s := by
    intro e he
    have hmem : e.said ∈ es.map (·.said) := List.mem_map_of_mem he
    rw [hrest] at hmem
    rcases List.mem_cons.mp hmem with hsaid | hmem
    · exact ⟨_, (Prod.mk.inj hsaid).1, L.ordinary_settings settings⟩
    · obtain ⟨p, hp, hsaid⟩ := List.mem_map.mp hmem
      exact ⟨p.1, (Prod.mk.inj hsaid).1.symm, hordinary p hp⟩
  -- What is left to compare are the replies that were executed with those that were heard.
  rw [(L.standing_runs (by simp [hactive]) hruns hcommands).2, and_iff_right hactive,
    Transaction.opened, ← hrest]
  constructor
  · intro hreplies s r'' hmem
    rcases List.mem_cons.mp hmem with hmem | hmem
    · cases hmem
    · obtain ⟨e, he, hsaid⟩ := List.mem_map.mp hmem
      rw [← (Prod.mk.inj hsaid).2]
      exact hreplies e he
  · intro hreplies e he
    obtain ⟨s, hs, -⟩ := hcommands e he
    refine hreplies s e.reply (List.mem_cons_of_mem _ ?_)
    rw [← hs]
    exact List.mem_map_of_mem he

end Server.Standings

/-- A server that takes any command, but whose statements do not succeed in an aborted transaction.
A commit ends such a transaction with success, like any other. -/
def standingServer : Server where
  State := Standing
  answer s c r := match c, s, r.failure? with
    | .begin, _, none => some .active
    | .begin, s, some _ => some s
    | .run _, .active, some _ => some .aborted
    | .run _, .aborted, none => none
    | .run _, s, _ => some s
    | .commit, _, _ | .rollback, _, none => some .idle
    | .rollback, s, some _ => some s

def standings : standingServer.Standings where
  standing := id
  ordinary _ := True
  ordinary_settings _ := trivial
  begin := by
    rintro st st' r - h hr
    simp only [standingServer, hr] at h
    exact (Option.some.inj h).symm
  run := by
    rintro st st' s r - rfl h
    cases hr : r.failure? with
    | none =>
      simp only [standingServer, hr] at h
      exact (Option.some.inj h).symm
    | some f =>
      simp only [standingServer, hr] at h
      exact (Option.some.inj h).symm
  aborted := by
    rintro st st' s r - rfl h
    cases hr : r.failure? with
    | none =>
      simp only [standingServer, hr] at h
      cases h
    | some f =>
      simp only [standingServer, hr] at h
      exact (Option.some.inj h).symm

/-- What the end of a transaction is for the compensations of its request. -/
def Outcome.event {α : Type} : Outcome α → Recovery.Event
  | .answered (.ok _) => .succeeded
  | .answered (.error _) | .expired => .failed
  | .dropped => .abandoned

/-! ## What starts at the end of a request -/

namespace Recovery

theorem started_answered (success : Bool) (es : List Event) :
    (answered success).started es = [] := by
  induction es with
  | nil => rfl
  | cons e es ih =>
    cases e <;> exact ih

theorem started_succeeded (c : Compensations) (es : List Event) :
    (working c).started (.succeeded :: es) = [] :=
  started_answered true es

/-- At any other end the actions start. -/
theorem started_ne_nil {c : Compensations} (hc : c.pending ≠ []) {e : Event}
    (he : e = .failed ∨ e = .abandoned) (es : List Event) : (working c).started (e :: es) ≠ [] := by
  intro hnil
  obtain ⟨hstep, -⟩ := List.append_eq_nil_iff.mp hnil
  rcases he with rfl | rfl
  · cases hreverse : c.pending.reverse with
    | nil => exact hc (List.reverse_eq_nil_iff.mp hreverse)
    | cons u us =>
      rw [step, hreverse] at hstep
      cases hstep
  · rw [step, Compensations.drop, if_pos rfl, Compensations.run, UndoLog.ran_ofRun,
      List.map_eq_nil_iff, List.reverse_eq_nil_iff] at hstep
    exact hc hstep

end Recovery

namespace Transaction

variable {α : Type} {settings : List (String × String)} {w : Work α}
  {h : List (Command × Reply)} {t : Conversation (Except RunError α)}

/-- A request that succeeds has heard that its commit did. -/
theorem Stage.of_ok {a : α} (hs : Stage settings w h t) (ht : t = .done (.ok a)) :
    ∃ r, r.failure? = none ∧ (.commit, r) ∈ h := by
  cases hs with
  | start =>
    rw [request_eq] at ht
    cases ht
  | refused _ => cases ht
  | begun _ => cases ht
  | unset _ _ => cases ht
  | @working r r' hw u hr hr' hu =>
    have hnext := congrArg Task.next? ht
    rw [next?_proceed] at hnext
    cases hnext
  | rolledBack _ _ _ => cases ht
  | @committed r r' r'' hw a' hr hr' hu =>
    refine ⟨r'', ?_, List.mem_append_right _ List.mem_cons_self⟩
    cases hf : r''.failure? with
    | none => rfl
    | some f =>
      rw [hf] at ht
      cases ht

/-- A request that heard of its commit is over, and well if the commit succeeded. -/
theorem Stage.of_commit {r : Reply} (hs : Stage settings w h t) (hmem : (.commit, r) ∈ h) :
    ∃ (r₁ r₂ : Reply) (hw : List (Statement × Reply)), r₁.failure? = none ∧ r₂.failure? = none ∧
      h = opened settings r₁ r₂ hw ++ [(Command.commit, r)] ∧ t.next? = none ∧
      (r.failure? = none → ∃ a, t = .done (.ok a)) := by
  have hopened {r₁ r₂ : Reply} {hw : List (Statement × Reply)} :
      (Command.commit, r) ∉ opened settings r₁ r₂ hw := by
    simp [opened]
  cases hs with
  | start => cases hmem
  | refused _ => simp at hmem
  | begun _ => simp at hmem
  | unset _ _ => exact absurd hmem hopened
  | working _ _ _ => exact absurd hmem hopened
  | rolledBack _ _ _ =>
    rcases List.mem_append.mp hmem with hmem | hmem
    · exact absurd hmem hopened
    · simp at hmem
  | @committed r₁ r₂ r'' hw a hr hr' hu =>
    rcases List.mem_append.mp hmem with hmem | hmem
    · exact absurd hmem hopened
    · obtain rfl : r = r'' := (Prod.mk.inj (List.mem_singleton.mp hmem)).2
      refine ⟨r₁, r₂, hw, hr, hr', rfl, rfl, fun hcommit ↦ ⟨a, ?_⟩⟩
      rw [hcommit]

end Transaction

namespace Exchange

variable {S : Server} {α : Type} {st : S.State} {settings : List (String × String)} {w : Work α}
  {x : Exchange S α}

/-- The server has committed the transaction of a request: it executed the commit with success, and
the transaction was not aborted. -/
def Committed (L : S.Standings) (x : Exchange S α) : Prop :=
  ∃ e ∈ x.executed, e.command = .commit ∧ e.reply.failure? = none ∧ L.standing e.before = .active

/-- A transaction that the server was heard to commit is committed if it was active. -/
theorem committed_iff_active (L : S.Standings) {es es' : List S.Execution} {e : S.Execution}
    {r₁ r₂ r : Reply} {hw : List (Statement × Reply)} (hexecuted : x.executed = es ++ e :: es')
    (hes : es.map (·.said) = Transaction.opened settings r₁ r₂ hw) (he : e.said = (.commit, r))
    (hes' : ∀ e' ∈ es', e'.command = .rollback) :
    x.Committed L ↔ r.failure? = none ∧ L.standing e.before = .active := by
  obtain ⟨hcommand, rfl⟩ := Prod.mk.inj he
  constructor
  · rintro ⟨e', he', hcommit, hreply, hactive⟩
    rw [hexecuted, List.mem_append, List.mem_cons] at he'
    rcases he' with he' | rfl | he'
    · have hmem : e'.said ∈ Transaction.opened settings r₁ r₂ hw := hes ▸ List.mem_map_of_mem he'
      rw [Server.Execution.said, hcommit] at hmem
      simp [Transaction.opened] at hmem
    · exact ⟨hreply, hactive⟩
    · rw [hes' e' he'] at hcommit
      cases hcommit
  · rintro ⟨hreply, hactive⟩
    exact ⟨e, by simp [hexecuted], hcommand, hreply, hactive⟩

namespace Sound

variable (hx : Sound st settings w x)

include hx

/-- A request that has nothing to say any more can only be rolled back. -/
theorem rollback_after {es es' : List S.Execution} (hnext : x.task.next? = none)
    (hexecuted : x.executed = es ++ es') (hes : es.map (·.said) = x.heard) :
    ∀ e ∈ es', e.command = .rollback := by
  intro e he
  have hspoken := hx.spoken
  rw [hnext, Option.toList_none, List.append_nil] at hspoken
  obtain ⟨unspoken, hunspoken⟩ := hspoken
  have hcommands : es.map (·.command) = x.heard.map Prod.fst := by
    rw [← hes, List.map_map]
    rfl
  have hsent := hx.executed
  rw [hexecuted, List.map_append, hcommands, ← hunspoken, sent, List.append_assoc,
    List.prefix_append_right_inj] at hsent
  have hcleanup : e.command ∈ x.cleanup :=
    hsent.subset (List.mem_append_right _ (List.mem_map_of_mem he))
  rcases hx.cleanup_cases with h | h
  · rw [h] at hcleanup
    cases hcleanup
  · rw [h] at hcleanup
    exact List.mem_singleton.mp hcleanup

/-- If the server's answer to the commit was heard, the commit is what it executed last, but for a
rollback, and the answer is the one it gave. -/
theorem executed_of_commit {r : Reply} (hmem : (.commit, r) ∈ x.heard) (hr : r ≠ .lost) :
    ∃ (r₁ r₂ : Reply) (hw : List (Statement × Reply)) (es : List S.Execution) (e : S.Execution)
      (es' : List S.Execution), r₁.failure? = none ∧ r₂.failure? = none ∧
      x.heard = Transaction.opened settings r₁ r₂ hw ++ [(Command.commit, r)] ∧
      x.executed = es ++ e :: es' ∧ es.map (·.said) = Transaction.opened settings r₁ r₂ hw ∧
      e.said = (.commit, r) ∧ ∀ e' ∈ es', e'.command = .rollback := by
  obtain ⟨r₁, r₂, hw, hr₁, hr₂, hheard, hnext, -⟩ := hx.stage.of_commit hmem
  have hsaid : x.heard <+: x.executed.map (·.said) := by
    refine hx.said_of_heard (List.prefix_refl _) ?_
    rw [hheard, List.getLast?_concat]
    intro p hp
    obtain rfl := Option.some.inj hp
    exact hr
  obtain ⟨rest, hrest⟩ := hsaid
  obtain ⟨es₁, es', hexecuted, hes₁, -⟩ := List.map_eq_append_iff.mp hrest.symm
  have hrollback := hx.rollback_after hnext hexecuted hes₁
  rw [hheard] at hes₁
  obtain ⟨es, es₂, rfl, hes, hes₂⟩ := List.map_eq_append_iff.mp hes₁
  obtain ⟨e, rfl, he⟩ := List.map_eq_singleton_iff.mp hes₂
  exact ⟨r₁, r₂, hw, es, e, es', hr₁, hr₂, hheard, by simp [hexecuted], hes, he, hrollback⟩

/-- A request that has succeeded is over. -/
theorem task_of_ok {a : α} (hok : x.outcome = some (.answered (.ok a))) :
    x.task = .done (.ok a) := by
  rcases hx.result (.ok a) hok with h | ⟨-, f, h⟩
  · exact h
  · cases h

/-- Before the commit of a transaction whose statements are ordinary, it is active if none of them
failed. -/
theorem active_iff (L : S.Standings) (hst : L.standing st = .idle)
    (hordinary : ∀ s r, (.run s, r) ∈ x.heard.drop 2 → L.ordinary s) {es es' : List S.Execution}
    {e : S.Execution} {r₁ r₂ r : Reply} {hw : List (Statement × Reply)}
    (hr₁ : r₁.failure? = none)
    (hheard : x.heard = Transaction.opened settings r₁ r₂ hw ++ [(Command.commit, r)])
    (hexecuted : x.executed = es ++ e :: es')
    (hes : es.map (·.said) = Transaction.opened settings r₁ r₂ hw) :
    L.standing e.before = .active ↔ ∀ s r, (.run s, r) ∈ x.heard → r.failure? = none := by
  have hruns := hx.runs
  rw [hexecuted] at hruns
  obtain ⟨_, hbefore, rfl, -⟩ := Server.runs_append.mp hruns
  have hwork : ∀ p ∈ hw, L.ordinary p.1 := by
    intro p hp
    refine hordinary p.1 p.2 ?_
    rw [hheard]
    exact List.mem_append_left _ (List.mem_map_of_mem hp)
  rw [L.active_iff_of_opened hst hbefore hes hr₁ hwork, hheard]
  constructor
  · intro hreplies s r' hmem
    rcases List.mem_append.mp hmem with hmem | hmem
    · exact hreplies s r' hmem
    · cases List.mem_singleton.mp hmem
  · exact fun hreplies s r' hmem ↦ hreplies s r' (List.mem_append_left _ hmem)

end Sound

/-! ## Success -/

/-- A request that answers with success has committed its transaction if none of the statements that
it ran was refused; otherwise the server has only ended it. No compensation starts either way. -/
theorem committed_iff_of_ok (L : S.Standings) (hst : L.standing st = .idle) (config : RoleConfig)
    (identity : Identity) (w : Work α) (es : List Event) {x : Exchange S α}
    (hx : x = (start st (identity.settings config) w).run es)
    (hordinary : ∀ s r, (.run s, r) ∈ x.heard.drop 2 → L.ordinary s) {a : α}
    (hok : x.outcome = some (.answered (.ok a))) :
    (x.Committed L ↔ ∀ s r, (.run s, r) ∈ x.heard → r.failure? = none) ∧
      ∀ (c : Compensations) (later : List Recovery.Event),
        (Recovery.working c).started ((Outcome.answered (.ok a)).event :: later) = [] := by
  have hsound : Sound st (identity.settings config) w x := hx ▸ sound_run _ _ w es
  obtain ⟨r, hr, hmem⟩ := hsound.stage.of_ok (hsound.task_of_ok hok)
  have hne : r ≠ .lost := by
    rintro rfl
    cases hr
  obtain ⟨r₁, r₂, hw, es, e, es', hr₁, -, hheard, hexecuted, hes, he, hes'⟩ :=
    hsound.executed_of_commit hmem hne
  rw [committed_iff_active L hexecuted hes he hes', and_iff_right hr,
    hsound.active_iff L hst hordinary hr₁ hheard hexecuted hes]
  exact ⟨.rfl, fun c later ↦ Recovery.started_succeeded c later⟩

def addDoc : Statement := ⟨"INSERT INTO docs VALUES (1)", []⟩

/-- What is registered for a blob that was stored for a document. -/
def deleteBlob : Compensations := ⟨[⟨"delete blob", false⟩]⟩

/-- Every command is answered with success. -/
def addedDoc : Exchange standingServer Nat :=
  (start Standing.idle ((Identity.anonymous {}).settings {}) (.execute addDoc)).run
    (List.replicate 4 (Event.exchanged (.affected 1))).flatten

theorem committed_addedDoc : addedDoc.outcome = some (.answered (.ok 1)) ∧
    addedDoc.Committed standings ∧
    (Recovery.working deleteBlob).started [(Outcome.answered (.ok 1)).event] = [] := by
  have hok : addedDoc.outcome = some (.answered (.ok 1)) := rfl
  have hreplies : ∀ p ∈ addedDoc.heard, p.2.failure? = none := by decide +kernel
  have hsuccess := committed_iff_of_ok (x := addedDoc) standings rfl {} (.anonymous {})
    (.execute addDoc) _ rfl (fun _ _ _ ↦ trivial) hok
  exact ⟨hok, hsuccess.1.mpr fun _ _ hmem ↦ hreplies _ hmem, hsuccess.2 deleteBlob []⟩

/-- Work that goes on when its statement is refused. -/
def addDocIfNew : Work Unit := .run addDoc fun _ ↦ .ok ()

/-- The document is refused. The work goes on, and the server ends the transaction with success. -/
def refusedDoc : Exchange standingServer Unit :=
  (start Standing.idle ((Identity.anonymous {}).settings {}) addDocIfNew).run
    (Event.exchanged (.affected 0) ++ Event.exchanged (.affected 0) ++
      Event.exchanged (.refused ⟨"23505", "duplicate key value"⟩) ++
      Event.exchanged (.affected 0))

/-- A request may succeed without a commit, and its blob stays. -/
theorem not_committed_refusedDoc : refusedDoc.outcome = some (.answered (.ok ())) ∧
    ¬refusedDoc.Committed standings ∧
    (Recovery.working deleteBlob).started [(Outcome.answered (.ok ())).event] = [] := by
  have hcommit : ∀ e ∈ refusedDoc.executed, e.command = .commit →
      standings.standing e.before = .aborted := by decide +kernel
  refine ⟨rfl, ?_, rfl⟩
  rintro ⟨e, he, hcommand, -, hactive⟩
  rw [hcommit e he hcommand] at hactive
  cases hactive

/-! ## Compensations of committed work -/

/-- The compensations of a request whose transaction the server has committed start if the request
ends before it hears so, and only then. -/
theorem undone_iff_unheard (L : S.Standings) (st : S.State) (config : RoleConfig)
    (identity : Identity) (w : Work α) (es : List Event) {x : Exchange S α}
    (hx : x = (start st (identity.settings config) w).run es) (hcommitted : x.Committed L)
    {o : Outcome α} (ho : x.outcome = some o) {c : Compensations} (hc : c.pending ≠ [])
    (later : List Recovery.Event) :
    (Recovery.working c).started (o.event :: later) ≠ [] ↔
      ∀ r, (.commit, r) ∈ x.heard → r = .lost := by
  have hsound : Sound st (identity.settings config) w x := hx ▸ sound_run _ _ w es
  constructor
  · intro hstarted r hmem
    refine Decidable.byContradiction fun hr ↦ ?_
    obtain ⟨_, _, _, es, e, es', -, -, -, hexecuted, hes, he, hes'⟩ :=
      hsound.executed_of_commit hmem hr
    obtain ⟨hreply, -⟩ := (committed_iff_active L hexecuted hes he hes').mp hcommitted
    obtain ⟨_, _, _, -, -, -, -, hdone⟩ := hsound.stage.of_commit hmem
    obtain ⟨a, ha⟩ := hdone hreply
    have hok : some o = some (.answered (.ok a)) := ho.symm.trans (hsound.answered _ ha)
    rw [Option.some.inj hok] at hstarted
    exact hstarted (Recovery.started_succeeded c later)
  · intro hunheard
    refine Recovery.started_ne_nil hc ?_ later
    match o with
    | .answered (.ok a) =>
      obtain ⟨r, hr, hmem⟩ := hsound.stage.of_ok (hsound.task_of_ok ho)
      rw [hunheard r hmem] at hr
      cases hr
    | .answered (.error e) => exact .inl rfl
    | .expired => exact .inl rfl
    | .dropped => exact .inr rfl

/-- The server commits the document, and the time is up before the request hears so. -/
def lateDoc : Exchange standingServer Nat :=
  (start Standing.idle ((Identity.anonymous {}).settings {}) (.execute addDoc)).run
    ((List.replicate 3 (Event.exchanged (.affected 1))).flatten ++
      [Event.speak, Event.execute (.affected 0), Event.expire])

theorem committed_lateDoc : lateDoc.Committed standings :=
  ⟨⟨.active, .commit, .affected 0⟩, List.mem_of_getElem? (i := 3) rfl, rfl, rfl, rfl⟩

theorem undone_lateDoc : lateDoc.Committed standings ∧ lateDoc.outcome = some .expired ∧
    (Recovery.working deleteBlob).started [Outcome.event (.expired : Outcome Nat)] ≠ [] := by
  have hexpired : lateDoc.outcome = some .expired := rfl
  have hheard : ∀ p ∈ lateDoc.heard, p.1 ≠ .commit := by decide +kernel
  refine ⟨committed_lateDoc, hexpired, ?_⟩
  refine (undone_iff_unheard (x := lateDoc) standings Standing.idle {} (.anonymous {})
    (.execute addDoc) _ rfl committed_lateDoc hexpired (List.cons_ne_nil _ _) []).mpr ?_
  exact fun r hmem ↦ absurd rfl (hheard _ hmem)

/-- The blob of a document that is committed may be deleted. -/
theorem deleted_lateDoc : lateDoc.Committed standings ∧ lateDoc.outcome = some .expired ∧
    (Recovery.working deleteBlob).started [Outcome.event (.expired : Outcome Nat)] =
      ["delete blob"] :=
  ⟨committed_lateDoc, rfl, rfl⟩

end Exchange

end RowGate
