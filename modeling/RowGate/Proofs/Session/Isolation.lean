import RowGate.Proofs.Session.Exchange
import RowGate.Proofs.Sql.Placeholders

/-! # Isolation of requests

Requests that are served one after another on a connection do not see each other's identities. What
is assumed of the server is that settings made for a transaction end with it, and of the pool that a
connection is used again only when all that was sent has been executed, a rollback with success.
-/

namespace RowGate

/-- How a server keeps the settings that are made for a transaction. -/
structure Server.Settings (S : Server) where
  /-- The settings of the transaction that is open; none if no transaction is. -/
  inForce : S.State → Option (List (String × String))
  /-- What a statement does to the settings. -/
  effect : Option (List (String × String)) → Statement → Reply → Option (List (String × String))
  begin : ∀ {st st' : S.State} {r : Reply}, inForce st = none → S.answer st .begin r = some st' →
    r.failure? = none → inForce st' = some []
  refused : ∀ {st st' : S.State} {r : Reply} {f : Failure}, inForce st = none →
    S.answer st .begin r = some st' → r.failure? = some f → inForce st' = none
  run : ∀ {st st' : S.State} {s : Statement} {r : Reply}, S.answer st (.run s) r = some st' →
    inForce st' = effect (inForce st) s r
  set : ∀ (settings : List (String × String)) {r : Reply}, r.failure? = none →
    effect (some []) (settingsStatement settings) r = some settings
  close : ∀ {st st' : S.State} {c : Command} {r : Reply}, c = .commit ∨ c = .rollback →
    S.answer st c r = some st' → r.failure? = none → inForce st' = none

namespace Server.Settings

variable {S : Server} (L : S.Settings) {st st' : S.State} {es : List S.Execution}

/-- The settings after statements, one after the other. -/
def after (l : Option (List (String × String))) (es : List S.Execution) :
    Option (List (String × String)) :=
  es.foldl (fun l e ↦ match e.command with
    | .run s => L.effect l s e.reply
    | .begin | .commit | .rollback => l) l

theorem inForce_runs (h : S.Runs st es st') (hes : ∀ e ∈ es, ∃ s, e.command = .run s) :
    L.inForce st' = L.after (L.inForce st) es := by
  induction es generalizing st with
  | nil => exact congrArg L.inForce h
  | cons e es ih =>
    obtain ⟨-, st₁, hanswer, hrest⟩ := h
    obtain ⟨s, hs⟩ := hes e List.mem_cons_self
    rw [hs] at hanswer
    rw [ih hrest fun e' he' ↦ hes e' (List.mem_cons_of_mem e he'), L.run hanswer, after, after,
      List.foldl_cons, hs]

/-- In a transaction that applied an identity, the statements find its settings, as the statements
before them have left them. -/
theorem inForce_opened (hst : L.inForce st = none) {e e' : S.Execution}
    {settings : List (String × String)} (h : S.Runs st (e :: e' :: es) st')
    (he : e.command = .begin) (her : e.reply.failure? = none)
    (he' : e'.command = .run (settingsStatement settings)) (her' : e'.reply.failure? = none)
    (hes : ∀ e ∈ es, ∃ s, e.command = .run s) :
    L.inForce st' = L.after (some settings) es := by
  obtain ⟨-, st₁, hbegin, -, st₂, hset, hrest⟩ := h
  rw [he] at hbegin
  rw [he'] at hset
  have hsettings : L.inForce st₂ = some settings := by
    rw [L.run hset, L.begin hst hbegin her, L.set settings her']
  rw [L.inForce_runs hrest hes, hsettings]

/-- A transaction that is closed leaves no settings behind. -/
theorem inForce_closed {e : S.Execution} (h : S.Runs st (es ++ [e]) st')
    (hc : e.command = .commit ∨ e.command = .rollback) (her : e.reply.failure? = none) :
    L.inForce st' = none := by
  obtain ⟨st₁, -, -, st₂, hanswer, rfl⟩ := Server.runs_append.mp h
  exact L.close hc hanswer her

/-- Statements that leave the settings alone leave them as they were. -/
theorem after_eq_self {l : Option (List (String × String))}
    (h : ∀ e ∈ es, ∀ s, e.command = .run s → ∀ l, L.effect l s e.reply = l) :
    L.after l es = l := by
  induction es with
  | nil => rfl
  | cons e es ih =>
    have hrest := ih fun e' he' ↦ h e' (List.mem_cons_of_mem e he')
    have he := h e List.mem_cons_self
    rw [after, List.foldl_cons]
    cases hc : e.command with
    | run s =>
      simp only [he s hc]
      exact hrest
    | _ => exact hrest

end Server.Settings

namespace Exchange

variable {S : Server} {α : Type} {st : S.State} {settings : List (String × String)} {w : Work α}
  {x : Exchange S α}

/-- The connection of a request that has ended serves another one: it lives, all that was sent on it
has been executed, and a rollback that cleans up has succeeded. -/
structure Reusable (x : Exchange S α) : Prop where
  ended : x.outcome.isSome = true
  alive : x.link.alive = true
  drained : x.executed.length = x.sent.length
  cleaned : x.cleanup ≠ [] → ∀ e ∈ x.executed.getLast?, e.reply.failure? = none

namespace Sound

variable (hx : Sound st settings w x)

include hx

/-- On a connection that serves another request without a clean-up, all was heard. -/
theorem heard_reusable (hr : x.Reusable) (hcleanup : x.cleanup = []) :
    x.heard = x.executed.map (·.said) := by
  obtain ⟨hwaits, -⟩ := hx.closed_of_cleanup hr.ended hr.alive hcleanup
  have hspoken := hx.alive hr.alive
  rw [hwaits, if_neg Bool.false_ne_true, List.append_nil] at hspoken
  have hdrained := hr.drained
  rw [sent, hcleanup, List.append_nil, hspoken, List.length_map] at hdrained
  refine (hx.heard_said hr.alive).eq_of_length ?_
  rw [List.length_map, hdrained]

/-- A connection that serves another request has no transaction open. -/
theorem inForce_reusable (L : S.Settings) (hst : L.inForce st = none) (hr : x.Reusable) :
    L.inForce x.state = none := by
  have hruns := hx.runs
  rcases hx.cleanup_cases with hcleanup | hcleanup
  -- Where no rollback is on its way, the conversation has closed what it opened.
  · obtain ⟨-, hclosed⟩ := hx.closed_of_cleanup hr.ended hr.alive hcleanup
    have hheard := (hx.heard_reusable hr hcleanup).symm
    rcases hx.stage.closed (hx.heard_ne_lost hr.alive) hclosed with h | ⟨r, f, h, hf⟩ |
      ⟨h', c, r, h, hc, hf⟩
    · rw [h, List.map_eq_nil_iff] at hheard
      rw [hheard] at hruns
      exact (congrArg L.inForce hruns).trans hst
    · rw [h, List.map_eq_singleton_iff] at hheard
      obtain ⟨e, he, hsaid⟩ := hheard
      rw [he] at hruns
      obtain ⟨-, st₁, hanswer, rfl⟩ := hruns
      rw [(Prod.mk.inj hsaid).1, (Prod.mk.inj hsaid).2] at hanswer
      exact L.refused hst hanswer hf
    · rw [h, List.map_eq_append_iff] at hheard
      obtain ⟨es, es', hes, -, hlast⟩ := hheard
      obtain ⟨e, rfl, hsaid⟩ := List.map_eq_singleton_iff.mp hlast
      obtain ⟨rfl, rfl⟩ := Prod.mk.inj hsaid
      rw [hes] at hruns
      exact L.inForce_closed hruns hc hf
  -- Otherwise the rollback is what the server executes last.
  · have hcommands : x.executed.map (·.command) = x.sent :=
      hx.executed.eq_of_length ((List.length_map _).trans hr.drained)
    rw [sent, hcleanup, List.map_eq_append_iff] at hcommands
    obtain ⟨es, es', hes, -, hlast⟩ := hcommands
    obtain ⟨e, rfl, hcommand⟩ := List.map_eq_singleton_iff.mp hlast
    have hreply : e.reply.failure? = none := by
      refine hr.cleaned ?_ e ?_
      · rw [hcleanup]
        exact List.cons_ne_nil _ _
      · rw [hes, List.getLast?_concat]
        rfl
    rw [hes] at hruns
    exact L.inForce_closed hruns (.inr hcommand) hreply

end Sound

/-! ## One request after another -/

/-- The states of a server whose connection serves requests, one after another, whoever they are
for, whatever work they do and whatever happens to them. -/
inductive Served (L : S.Settings) : S.State → Prop
  | fresh {st : S.State} : L.inForce st = none → Served L st
  | next {st : S.State} {β : Type} (config : RoleConfig) (identity : Identity) (w : Work β)
    (es : List Event) : Served L st →
    Reusable ((start st (identity.settings config) w).run es) →
    Served L ((start st (identity.settings config) w).run es).state

theorem Served.inForce_eq_none {L : S.Settings} (h : Served L st) : L.inForce st = none := by
  induction h with
  | fresh h => exact h
  | next config identity w es _ hr ih => exact (sound_run _ _ w es).inForce_reusable L ih hr

/-- What a request does on a connection that serves others, too. -/
structure Isolated (L : S.Settings) (settings : List (String × String)) (w : Work α)
    (x : Exchange S α) : Prop where
  /-- The request sends a beginning of its script, and at most one rollback behind it. -/
  script : ∃ (hw : List (Statement × Reply)) (u : Task Statement (Except RunError α)) (n : Nat),
    n ≤ 1 ∧ Task.Follows (ExceptT.run w) hw u ∧
    hw.map (fun p ↦ (Command.run p.1, p.2)) <+: x.heard.drop 2 ∧
    x.spoken <+: Transaction.script settings hw u ∧
    x.sent = x.spoken ++ List.replicate n .rollback
  /-- Its statement of settings carries the settings and nothing else. -/
  carried : (settingsStatement settings).params = settings.flatMap fun p ↦ [.text p.1, .text p.2]
  /-- The work's statements, and what comes after them, wait for the settings to be applied. -/
  applied : 2 < x.spoken.length → ∃ r r', r.failure? = none ∧ r'.failure? = none ∧
    Transaction.opened settings r r' [] <+: x.heard
  /-- A transaction that may be open and is not known to be committed is rolled back at the end, if
  the connection lives. -/
  rolledBack : x.outcome.isSome = true → x.link.alive = true → x.spoken ≠ [] →
    (∀ r, (.begin, r) ∈ x.heard → r.failure? = none) →
    (∀ r, (.commit, r) ∈ x.heard → r.failure? ≠ none) → x.sent.getLast? = some .rollback
  /-- A statement of the work finds the settings of the request, as the statements of the work
  before it have left them. -/
  inForce : ∀ i e s, x.executed[i]? = some e → e.command = .run s → 2 ≤ i →
    L.inForce e.before = L.after (some settings) ((x.executed.take i).drop 2)
  /-- If those leave the settings alone, it finds exactly the settings of the request. -/
  unchanged : ∀ i e s, x.executed[i]? = some e → e.command = .run s → 2 ≤ i →
    (∀ e' ∈ (x.executed.take i).drop 2, ∀ s', e'.command = .run s' →
      ∀ l, L.effect l s' e'.reply = l) → L.inForce e.before = some settings

theorem params_settingsStatement (settings : List (String × String)) :
    (settingsStatement settings).params =
      settings.flatMap fun p ↦ [.text p.1, .text p.2] := by
  have hcall (p : String × String) : (settingCall p).values = [.text p.1, .text p.2] := by
    simp [settingCall, Fragment.values]
  simp [settingsStatement, Fragment.statement, Fragment.values, values_join, List.flatMap_map,
    hcall]

namespace Sound

variable (hx : Sound st settings w x)

include hx

/-- A request that has more to say than its opening has heard that its settings are applied. -/
theorem applied (hlength : 2 < x.spoken.length) : ∃ r r', r.failure? = none ∧ r'.failure? = none ∧
    Transaction.opened settings r r' [] <+: x.heard :=
  hx.stage.applied (Nat.lt_of_lt_of_le hlength hx.spoken.length_le)

theorem script :
    ∃ (hw : List (Statement × Reply)) (u : Task Statement (Except RunError α)) (n : Nat),
    n ≤ 1 ∧ Task.Follows (ExceptT.run w) hw u ∧
    hw.map (fun p ↦ (Command.run p.1, p.2)) <+: x.heard.drop 2 ∧
    x.spoken <+: Transaction.script settings hw u ∧
    x.sent = x.spoken ++ List.replicate n .rollback := by
  obtain ⟨hw, u, hu, hheard, hscript⟩ := hx.stage.script
  rcases hx.cleanup_cases with hcleanup | hcleanup
  · exact ⟨hw, u, 0, by decide, hu, hheard, hx.spoken.trans hscript, by rw [sent, hcleanup]; rfl⟩
  · exact ⟨hw, u, 1, by decide, hu, hheard, hx.spoken.trans hscript, by rw [sent, hcleanup]; rfl⟩

theorem rolledBack (houtcome : x.outcome.isSome = true) (halive : x.link.alive = true)
    (hspoken : x.spoken ≠ []) (hbegin : ∀ r, (.begin, r) ∈ x.heard → r.failure? = none)
    (hcommit : ∀ r, (.commit, r) ∈ x.heard → r.failure? ≠ none) :
    x.sent.getLast? = some .rollback := by
  rcases hx.cleanup_cases with hcleanup | hcleanup
  · obtain ⟨hwaits, hclosed⟩ := hx.closed_of_cleanup houtcome halive hcleanup
    have hsaid := hx.alive halive
    rw [hwaits, if_neg Bool.false_ne_true, List.append_nil] at hsaid
    rcases hx.stage.closed (hx.heard_ne_lost halive) hclosed with h | ⟨r, f, h, hf⟩ |
      ⟨h', c, r, h, hc, hf⟩
    · rw [h] at hsaid
      exact absurd hsaid hspoken
    · have hr := hbegin r (by rw [h]; exact List.mem_cons_self)
      rw [hf] at hr
      cases hr
    · have hmem : (c, r) ∈ x.heard := by
        rw [h]
        exact List.mem_append_right _ List.mem_cons_self
      rcases hc with rfl | rfl
      · exact absurd hf (hcommit r hmem)
      · rw [sent, hcleanup, List.append_nil, hsaid, h, List.map_append, List.map_singleton,
          List.getLast?_concat]
  · rw [sent, hcleanup, List.getLast?_concat]

/-- A statement that the server executes was spoken by the request. -/
theorem lt_spoken {i : Nat} {e : S.Execution} {s : Statement} (he : x.executed[i]? = some e)
    (hs : e.command = .run s) : i < x.spoken.length := by
  by_contra hle
  have hsent : x.sent[i]? = some (.run s) := by
    obtain ⟨rest, hrest⟩ := hx.executed
    have hlength : i < (x.executed.map (·.command)).length := by
      rw [List.length_map]
      exact (List.getElem?_eq_some_iff.mp he).1
    rw [← hrest, List.getElem?_append_left hlength, List.getElem?_map, he, Option.map_some, hs]
  rw [sent, List.getElem?_append_right (Nat.le_of_not_lt hle)] at hsent
  have hmem := List.mem_of_getElem? hsent
  rcases hx.cleanup_cases with hcleanup | hcleanup <;> simp [hcleanup] at hmem

/-- What the server executes before the last command of a script is its opening and statements of
the work. -/
theorem commands_take {i : Nat} (hi : i ≤ x.executed.length) (hspoken : i < x.spoken.length) :
    ∃ ss : List Statement, (x.executed.take i).map (·.command) <+:
      .begin :: .run (settingsStatement settings) :: ss.map .run := by
  obtain ⟨hw, u, -, -, -, -, hscript, -⟩ := hx.script
  have hlength : ((x.executed.take i).map (·.command)).length = i := by
    rw [List.length_map, List.length_take_of_le hi]
  have hsent : (x.executed.take i).map (·.command) <+: x.sent := by
    rw [List.map_take]
    exact (List.take_prefix i _).trans hx.executed
  have hsaid : (x.executed.take i).map (·.command) <+: x.spoken := by
    refine List.prefix_of_prefix_length_le hsent (List.prefix_append _ _) ?_
    rw [hlength]
    exact Nat.le_of_lt hspoken
  have hlast : i < (Transaction.script settings hw u).length :=
    Nat.lt_of_lt_of_le hspoken hscript.length_le
  rw [Transaction.script, List.length_append, List.length_singleton] at hlast
  refine ⟨hw.map Prod.fst, ?_⟩
  rw [List.map_map]
  refine List.prefix_of_prefix_length_le (hsaid.trans hscript) (List.prefix_append _ _) ?_
  rw [hlength]
  exact Nat.le_of_lt_succ hlast

/-- A request that has more to say than its opening has had the opening executed with success. -/
theorem executed_applied (hlength : 2 < x.spoken.length) :
    ∃ r r', r.failure? = none ∧ r'.failure? = none ∧
      Transaction.opened settings r r' [] <+: x.executed.map (·.said) := by
  obtain ⟨r, r', hr, hr', hopened⟩ := hx.applied hlength
  refine ⟨r, r', hr, hr', hx.said_of_heard hopened ?_⟩
  rintro p hp hlost
  obtain rfl : (.run (settingsStatement settings), r') = p := Option.some.inj hp
  rw [show r' = .lost from hlost] at hr'
  cases hr'

/-- The server executes the statements of the work after the settings, and nothing else between. -/
theorem executed_take {i : Nat} {e : S.Execution} {s : Statement} (he : x.executed[i]? = some e)
    (hs : e.command = .run s) (hi : 2 ≤ i) :
    ∃ e₀ e₁ es, x.executed.take i = e₀ :: e₁ :: es ∧ e₀.command = .begin ∧
      e₀.reply.failure? = none ∧ e₁.command = .run (settingsStatement settings) ∧
      e₁.reply.failure? = none ∧ ∀ e ∈ es, ∃ s, e.command = .run s := by
  have hexecuted : i < x.executed.length := (List.getElem?_eq_some_iff.mp he).1
  have hspoken : i < x.spoken.length := hx.lt_spoken he hs
  obtain ⟨ss, hcommands⟩ := hx.commands_take (Nat.le_of_lt hexecuted) hspoken
  obtain ⟨r, r', hr, hr', hreplies⟩ := hx.executed_applied (Nat.lt_of_le_of_lt hi hspoken)
  have htake : (x.executed.take i).length = i := List.length_take_of_le (Nat.le_of_lt hexecuted)
  match hes : x.executed.take i with
  | [] | [_] =>
    rw [hes] at htake
    subst htake
    simp at hi
  | e₀ :: e₁ :: es =>
    rw [← List.take_append_drop i x.executed, hes] at hreplies
    rw [hes] at hcommands
    obtain ⟨hsaid₀, hreplies⟩ := List.cons_prefix_cons.mp hreplies
    obtain ⟨hsaid₁, -⟩ := List.cons_prefix_cons.mp hreplies
    obtain ⟨hcommand₀, hcommands⟩ := List.cons_prefix_cons.mp hcommands
    obtain ⟨hcommand₁, hcommands⟩ := List.cons_prefix_cons.mp hcommands
    refine ⟨e₀, e₁, es, rfl, hcommand₀, ?_, hcommand₁, ?_, fun e he ↦ ?_⟩
    · rwa [← (Prod.mk.inj hsaid₀).2]
    · rwa [← (Prod.mk.inj hsaid₁).2]
    · obtain ⟨s, -, hs⟩ := List.mem_map.mp (hcommands.subset (List.mem_map_of_mem he))
      exact ⟨s, hs.symm⟩

/-- A statement of the work finds the settings of the request, as the work has left them. -/
theorem inForce (L : S.Settings) (hst : L.inForce st = none) {i : Nat} {e : S.Execution}
    {s : Statement} (he : x.executed[i]? = some e) (hs : e.command = .run s) (hi : 2 ≤ i) :
    L.inForce e.before = L.after (some settings) ((x.executed.take i).drop 2) := by
  obtain ⟨e₀, e₁, es, htake, he₀, hr₀, he₁, hr₁, hes⟩ := hx.executed_take he hs hi
  have hruns : S.Runs st (x.executed.take i) e.before := by
    obtain ⟨hlength, hget⟩ := List.getElem?_eq_some_iff.mp he
    have hsplit := hx.runs
    rw [← List.take_append_drop i x.executed, List.drop_eq_getElem_cons hlength, hget] at hsplit
    obtain ⟨st₁, htake, hbefore, -⟩ := Server.runs_append.mp hsplit
    rwa [hbefore]
  rw [htake] at hruns ⊢
  exact L.inForce_opened hst hruns he₀ hr₀ he₁ hr₁ hes

end Sound

/-- Requests are isolated: after any requests on the same connection, for any identity and any work,
and whatever happens when. -/
theorem Served.isolated {L : S.Settings} (h : Served L st) (config : RoleConfig)
    (identity : Identity) (w : Work α) (es : List Event) :
    Isolated L (identity.settings config) w
      ((start st (identity.settings config) w).run es) := by
  have hx := sound_run st (identity.settings config) w es
  have hst := h.inForce_eq_none
  exact
    { script := hx.script
      carried := params_settingsStatement _
      applied := hx.applied
      rolledBack := hx.rolledBack
      inForce := fun _ _ _ he hs hi ↦ hx.inForce L hst he hs hi
      unchanged := fun _ _ _ he hs hi hes ↦
        (hx.inForce L hst he hs hi).trans (L.after_eq_self hes) }

end Exchange

/-! ## A server with one session -/

/-- The pairs of texts that values are. -/
def textPairs? : List SqlValue → Option (List (String × String))
  | [] => some []
  | .text a :: .text b :: vs => (textPairs? vs).map ((a, b) :: ·)
  | _ => none

theorem textPairs?_flatMap (settings : List (String × String)) :
    textPairs? (settings.flatMap fun p ↦ [.text p.1, .text p.2]) = some settings := by
  induction settings with
  | nil => rfl
  | cons p settings ih => simp [textPairs?, ih]

/-- The settings that a statement makes for the transaction it runs in. -/
def Statement.settings? (s : Statement) : Option (List (String × String)) :=
  (textPairs? s.params).filter fun ps ↦ s = settingsStatement ps

theorem settings?_settingsStatement (settings : List (String × String)) :
    (settingsStatement settings).settings? = some settings := by
  rw [Statement.settings?, Exchange.params_settingsStatement, textPairs?_flatMap]
  simp

/-- What a statement does to the settings of the transaction, if one is open. -/
def settingsAfter (l : Option (List (String × String))) (s : Statement) (r : Reply) :
    Option (List (String × String)) :=
  match r.failure?, s.settings? with
  | none, some settings => l.map (· ++ settings)
  | _, _ => l

/-- A server that keeps the settings of one session, and takes any command. -/
def sessionServer : Server where
  State := Option (List (String × String))
  answer l c r := match c, r.failure? with
    | .run s, _ => some (settingsAfter l s r)
    | .begin, none => some (some (l.getD []))
    | .commit, none | .rollback, none => some none
    | _, some _ => some l

def sessionSettings : sessionServer.Settings where
  inForce := id
  effect := settingsAfter
  begin := by
    rintro st st' r rfl h hr
    simp only [sessionServer, hr] at h
    exact (Option.some.inj h).symm
  refused := by
    rintro st st' r f rfl h hf
    simp only [sessionServer, hf] at h
    exact (Option.some.inj h).symm
  run := by
    rintro st st' s r h
    exact (Option.some.inj h).symm
  set := by
    intro settings r hr
    rw [settingsAfter, hr, settings?_settingsStatement]
    rfl
  close := by
    rintro st st' c r (rfl | rfl) h hr
    all_goals
      simp only [sessionServer, hr] at h
      exact (Option.some.inj h).symm

def readDocs : Statement := ⟨"SELECT id FROM docs", []⟩

/-- Every command of a request with one statement is answered. -/
def allAnswered : List Event := (List.replicate 4 (Event.exchanged (.affected 0))).flatten

/-- The time is up while the first statement of the work is on its way; the server still executes
what it gets. -/
def expiresEarly : List Event :=
  Event.exchanged (.affected 0) ++ Event.exchanged (.affected 0) ++
    [Event.speak, Event.expire, Event.execute (.affected 0), Event.execute (.affected 0)]

namespace Exchange

/-- A request of a user that does not end in time. -/
def lateRequest : Exchange sessionServer (List Json) :=
  (start none ((Identity.authenticated "u1" .null {}).settings {}) (.fetchDocuments readDocs)).run
    expiresEarly

theorem reusable_lateRequest : Reusable lateRequest where
  ended := rfl
  alive := rfl
  drained := rfl
  cleaned := by
    intro _ e he
    have hlast : lateRequest.executed.getLast?.map (·.reply) = some (.affected 0) := rfl
    rw [he, Option.map_some] at hlast
    rw [Option.some.inj hlast]
    rfl

/-- A request without a user on the connection of a request that ran out of time. -/
def nextRequest : Exchange sessionServer (List Json) :=
  (start lateRequest.state ((Identity.anonymous {}).settings {}) (.fetchDocuments readDocs)).run
    allAnswered

theorem isolated_nextRequest : Served sessionSettings lateRequest.state ∧
    Isolated sessionSettings ((Identity.anonymous {}).settings {}) (.fetchDocuments readDocs)
      nextRequest ∧
    ∃ e : sessionServer.Execution, nextRequest.executed[2]? = some e ∧ e.command = .run readDocs ∧
      e.before = some ((Identity.anonymous {}).settings {}) := by
  have hserved : Served sessionSettings lateRequest.state :=
    .next {} (.authenticated "u1" .null {}) (.fetchDocuments readDocs) expiresEarly (.fresh rfl)
      reusable_lateRequest
  have hisolated : Isolated sessionSettings ((Identity.anonymous {}).settings {})
      (.fetchDocuments readDocs) nextRequest :=
    hserved.isolated {} (.anonymous {}) (.fetchDocuments readDocs) allAnswered
  refine ⟨hserved, hisolated, _, rfl, rfl, ?_⟩
  exact hisolated.inForce 2 _ readDocs rfl rfl (Nat.le_refl 2)

end Exchange

end RowGate
