import RowGate.Proofs.Session.Isolation
import RowGate.Proofs.Sql.Parts
import RowGate.Proofs.Sql.Grammar

/-! # The settings of a transaction

The settings are made by one statement with a call for each; their names and values are arguments.
The statement is read here as the server reads it, with placeholders that stand for the arguments
with their numbers: the names come together again with their values, and what is set says who the
transaction runs for.
-/

namespace RowGate

open Sql (Place Reads Token leveled members textTokens unleveled)

/-! ## Reading calls -/

/-- A setting that is made for the transaction or, if it is not local, for the whole session. -/
structure Assignment where
  name : String
  value : String
  isLocal : Bool
deriving DecidableEq, Repr

def SqlValue.text? : SqlValue → Option String
  | text s => some s
  | _ => none

/-- The argument with a number. They are counted from one. -/
def argument? (params : List SqlValue) : Nat → Option SqlValue
  | 0 => none
  | n + 1 => params[n]?

/-- The text that a token stands for in a call. -/
def Sql.Token.text? (params : List SqlValue) : Token → Option String
  | quoted .literal s => some (String.ofList s)
  | lexeme .placeholder ('$' :: s) =>
    ((Decimal.readNat? s).bind (argument? params)).bind SqlValue.text?
  | _ => none

def Sql.Token.truth? : Token → Option Bool
  | lexeme .word s =>
    if Text.lower s = "true".toList then some true
    else if Text.lower s = "false".toList then some false
    else none
  | _ => none

/-- What a call of `set_config` sets. -/
def Assignment.ofCall? (params : List SqlValue) : List Token → Option Assignment
  | [f, opening, name, comma, value, comma', isLocal, closing] =>
    if [f, opening, comma, comma', closing] =
        [.lexeme .word "set_config".toList, .mark '(', .mark ',', .mark ',', .mark ')'] then do
      return ⟨← name.text? params, ← value.text? params, ← isLocal.truth?⟩
    else none
  | _ => none

/-- What a statement sets that selects calls, and nothing else. They are made in their order. -/
def Statement.assignments? (s : Statement) : Option (List Assignment) :=
  match Sql.tokens s.sql with
  | some (.lexeme .word w :: ts) =>
    if Text.lower w = "select".toList then
      ((members (leveled 0 ts)).map unleveled).mapM (Assignment.ofCall? s.params)
    else none
  | _ => none

/-- The text of the call for the setting at a place, counted from zero. -/
def callText (i : Nat) : String :=
  "set_config($" ++ toString (2 * i + 1) ++ ", $" ++ toString (2 * i + 2) ++ ", true)"

def callTokens (i : Nat) : List Token :=
  [.lexeme .word "set_config".toList, .mark '(',
    .lexeme .placeholder ('$' :: (toString (2 * i + 1)).toList), .mark ',',
    .lexeme .placeholder ('$' :: (toString (2 * i + 2)).toList), .mark ',',
    .lexeme .word "true".toList, .mark ')']

/-- The names and values of settings, one after the other. -/
def settingArguments (ps : List (String × String)) : List SqlValue :=
  ps.flatMap fun p ↦ [.text p.1, .text p.2]

variable {ps : List (String × String)} {p : String × String} {params : List SqlValue} {i n : Nat}

/-! ## The text -/

/-- The call for a setting binds its name and its value. -/
theorem textFrom_settingCall (i : Nat) (p : String × String) :
    (settingCall p).textFrom (2 * i) = callText i := by
  have hopen : "set_config($" = "set_config(" ++ "$" := rfl
  have hcomma : ", $" = ", " ++ "$" := rfl
  unfold callText
  simp only [settingCall, Fragment.textFrom, placeholder, SqlValue.isVector, hopen, hcomma,
    Bool.false_eq_true, if_false, String.append_assoc, String.append_empty]

/-- The calls for some settings are numbered on by two each. -/
theorem textsFrom_settingCall (i : Nat) (ps : List (String × String)) :
    Fragment.textsFrom (2 * i) (ps.map settingCall) = (List.range' i ps.length).map callText := by
  induction ps generalizing i with
  | nil => rfl
  | cons p ps ih =>
    rw [List.map_cons, Fragment.textsFrom, textFrom_settingCall, List.length_cons, List.range'_succ,
      List.map_cons, ← ih (i + 1)]
    rfl

/-- Neither the names nor the values are in the text. -/
theorem sql_settingsStatement (ps : List (String × String)) : (settingsStatement ps).sql =
    "SELECT " ++ ", ".intercalate ((List.range ps.length).map callText) := by
  have hjoin : (Fragment.join ", " (ps.map settingCall)).textFrom 0 =
      ", ".intercalate ((List.range ps.length).map callText) := by
    rw [← String.toList_inj, Fragment.toList_textFrom_join, String.toList_intercalate,
      List.range_eq_range', ← textsFrom_settingCall]
  exact congrArg ("SELECT " ++ ·) hjoin

theorem settingsText_eq (n : Nat) :
    settingsText n = "SELECT " ++ ", ".intercalate ((List.range n).map callText) := by
  rw [settingsText, sql_settingsStatement, List.length_replicate]

example : settingsText 2 = "SELECT set_config($1, $2, true), set_config($3, $4, true)" := by
  decide +kernel

/-- The text of the settings depends on their number only. -/
theorem settingsStatement_eq (ps : List (String × String)) :
    settingsStatement ps = ⟨settingsText ps.length, settingArguments ps⟩ := by
  rw [settingsText_eq, ← sql_settingsStatement, settingArguments,
    ← Exchange.params_settingsStatement]

/-! ## The text read -/

/-- A call is read as its tokens, wherever tokens may begin and end. -/
theorem reads_callText (i : Nat) : Reads .free .free (callText i).toList (callTokens i) := by
  have hnumber (n : Nat) : Reads .free .settled ('$' :: (toString n).toList)
      [.lexeme .placeholder ('$' :: (toString n).toList)] :=
    Sql.reads_placeholder (Sql.isDecimal_toString n)
  have hopen : Reads .free .free "set_config(".toList _ := .of_endsAt rfl rfl
  have hcomma : Reads .settled .free ", ".toList _ := .of_endsAt rfl rfl
  have hclose : Reads .settled .free ", true)".toList _ := .of_endsAt rfl rfl
  have htext : (callText i).toList =
      "set_config(".toList ++ ('$' :: (toString (2 * i + 1)).toList) ++ ", ".toList ++
        ('$' :: (toString (2 * i + 2)).toList) ++ ", true)".toList := by
    unfold callText
    simp
  rw [htext]
  exact (((hopen.append (hnumber _)).append hcomma).append (hnumber _)).append hclose

/-- Texts between commas are read one after the other. -/
theorem reads_intercalate {ws : List (List Char)} {tss : List (List Token)}
    (h : List.Forall₂ (Reads .free .free) ws tss) :
    Reads .free .free (", ".toList.intercalate ws) ([.mark ','].intercalate tss) := by
  induction h with
  | nil => exact .nil rfl
  | @cons w ts ws tss hw hws ih =>
    cases hws with
    | nil =>
      rw [List.intercalate_singleton, List.intercalate_singleton]
      exact hw
    | cons =>
      have hcomma : Reads .free .free ", ".toList [.mark ','] := .of_endsAt rfl rfl
      rw [List.intercalate_cons_cons, List.intercalate_cons_cons]
      exact (hw.append hcomma).append ih

/-- The statement selects one call for each setting. -/
theorem tokens_settingsText (n : Nat) : Sql.tokens (settingsText n) =
    some (.lexeme .word "SELECT".toList ::
      [.mark ','].intercalate ((List.range n).map callTokens)) := by
  have hselect : Reads .free .free "SELECT ".toList [.lexeme .word "SELECT".toList] :=
    .of_endsAt rfl rfl
  have hcalls : Reads .free .free (", ".intercalate ((List.range n).map callText)).toList
      ([.mark ','].intercalate ((List.range n).map callTokens)) := by
    rw [String.toList_intercalate, List.map_map]
    refine reads_intercalate ?_
    rw [List.forall₂_map_left_iff, List.forall₂_map_right_iff, List.forall₂_same]
    exact fun i _ ↦ reads_callText i
  refine Sql.tokens_of_reads (q := .free) ?_
  rw [settingsText_eq, String.toList_append]
  exact hselect.append hcalls

/-- The commas of a call stand in its parentheses. -/
theorem unbroken_callTokens (i : Nat) : Sql.Unbroken [","] (callTokens i) := by
  have hname : Sql.Unbroken [","] [.lexeme .word "set_config".toList] :=
    (Sql.Within.of_all rfl).unbroken
  have hinner : Sql.Nested
      [.lexeme .placeholder ('$' :: (toString (2 * i + 1)).toList), .mark ',',
        .lexeme .placeholder ('$' :: (toString (2 * i + 2)).toList), .mark ',',
        .lexeme .word "true".toList] := .of_forall (by simp)
  exact hname.append (.paren hinner)

/-- The calls are cut apart at the commas between them. -/
theorem members_callTokens (hn : n ≠ 0) :
    (members (leveled 0 ([.mark ','].intercalate ((List.range n).map callTokens)))).map unleveled =
      (List.range n).map callTokens := by
  have hne : (List.range n).map callTokens ≠ [] := by simpa using hn
  rw [Sql.members_intercalate hne (List.forall_mem_map.mpr fun i _ ↦ unbroken_callTokens i),
    List.map_map]
  exact (List.map_congr_left fun ts _ ↦ Sql.unleveled_leveled ts 0).trans (List.map_id _)

/-! ## The calls made -/

/-- A placeholder stands for the argument of its number, if that is a text. -/
theorem text?_placeholder (params : List SqlValue) (n : Nat) :
    (Token.lexeme .placeholder ('$' :: (toString (n + 1)).toList)).text? params =
      params[n]?.bind SqlValue.text? := by
  rw [Token.text?, Decimal.readNat?_toString]
  rfl

/-- A call sets the name and the value that are bound for it, for its transaction. -/
theorem ofCall?_callTokens (hname : params[2 * i]? = some (.text p.1))
    (hvalue : params[2 * i + 1]? = some (.text p.2)) :
    Assignment.ofCall? params (callTokens i) = some ⟨p.1, p.2, true⟩ := by
  rw [callTokens, Assignment.ofCall?, if_pos rfl, text?_placeholder, text?_placeholder, hname,
    hvalue]
  rfl

/-- Behind the arguments that are taken, the calls find each name with its value. -/
theorem mapM_callTokens (taken : List SqlValue) (htaken : taken.length = 2 * i)
    (ps : List (String × String)) :
    ((List.range' i ps.length).map callTokens).mapM
        (Assignment.ofCall? (taken ++ settingArguments ps)) =
      some (ps.map fun p ↦ ⟨p.1, p.2, true⟩) := by
  induction ps generalizing taken i with
  | nil => rfl
  | cons p ps ih =>
    have hsplit : taken ++ settingArguments (p :: ps) =
        (taken ++ [.text p.1, .text p.2]) ++ settingArguments ps := by
      simp [settingArguments]
    have hcount : (taken ++ [SqlValue.text p.1, .text p.2]).length = 2 * (i + 1) := by
      rw [List.length_append, htaken]
      rfl
    have hcall : Assignment.ofCall? (taken ++ settingArguments (p :: ps)) (callTokens i) =
        some ⟨p.1, p.2, true⟩ := by
      refine ofCall?_callTokens ?_ ?_ <;> simp [← htaken, settingArguments]
    have hcalls := ih _ hcount
    rw [← hsplit] at hcalls
    rw [List.length_cons, List.range'_succ, List.map_cons, List.mapM_cons, hcall,
      Option.bind_eq_bind, Option.bind_some, hcalls]
    rfl

/-- The statement of settings sets each of them for the transaction. -/
theorem assignments?_settingsStatement (hne : ps ≠ []) :
    (settingsStatement ps).assignments? = some (ps.map fun p ↦ ⟨p.1, p.2, true⟩) := by
  have hlength : ps.length ≠ 0 := mt List.eq_nil_of_length_eq_zero hne
  have hcalls := mapM_callTokens [] (i := 0) rfl ps
  rw [List.nil_append, ← List.range_eq_range'] at hcalls
  rw [settingsStatement_eq, Statement.assignments?, tokens_settingsText]
  dsimp only
  rw [if_pos (by decide), members_callTokens hlength, hcalls]

/-! ## What the settings tell -/

namespace Identity

/-- Settings that tell the server of an identity what the configuration asks for. -/
structure IsToldBy (i : Identity) (config : RoleConfig) (ps : List (String × String)) : Prop where
  distinct : (ps.map Prod.fst).Nodup
  claims : ps.lookup "request.jwt.claims" = some i.claims.compact
  roleClaim : ps.lookup "request.jwt.claim.role" = some i.role
  /-- There is a user if and only if the caller is one. -/
  sub : ps.lookup "request.jwt.claim.sub" = i.userId
  timeout : ps.lookup "statement_timeout" = config.statementTimeoutMs.map toString
  /-- The role is switched if and only if this is asked for. -/
  role : ps.lookup "role" = if config.switchRole then some i.role else none
  /-- All else is set under the role of the connection. -/
  last : config.switchRole = true → ps.getLast? = some ("role", i.role)

/-- For every identity something is set. -/
theorem settings_ne_nil (i : Identity) (config : RoleConfig) : i.settings config ≠ [] := by
  simp [settings]

/-- The settings tell the server of the identity what the configuration asks for. -/
theorem isToldBy_settings (i : Identity) (config : RoleConfig) :
    i.IsToldBy config (i.settings config) := by
  obtain ⟨userId, role, claims⟩ := i
  obtain ⟨_, _, switchRole, timeout, _⟩ := config
  -- Each of the three options adds a setting or none.
  cases timeout <;> cases userId <;> cases switchRole
  all_goals exact
    { distinct := by simp [settings]
      claims := rfl
      roleClaim := rfl
      sub := rfl
      timeout := rfl
      role := rfl
      last := by simp [settings] }

/-- What is sent to apply an identity is a text that depends on nothing but the number of the
settings, with their names and values for arguments. Executed, it sets these and nothing else, in
their order and until the transaction ends; and they tell the server who the caller is. -/
theorem settings_applied (i : Identity) (config : RoleConfig) :
    settingsStatement (i.settings config) =
        ⟨settingsText (i.settings config).length, settingArguments (i.settings config)⟩ ∧
      settingsText (i.settings config).length =
        "SELECT " ++ ", ".intercalate ((List.range (i.settings config).length).map callText) ∧
      (settingsStatement (i.settings config)).assignments? =
        some ((i.settings config).map fun p ↦ ⟨p.1, p.2, true⟩) ∧
      i.IsToldBy config (i.settings config) :=
  ⟨settingsStatement_eq _, settingsText_eq _,
    assignments?_settingsStatement (i.settings_ne_nil config), i.isToldBy_settings config⟩

end Identity

end RowGate
