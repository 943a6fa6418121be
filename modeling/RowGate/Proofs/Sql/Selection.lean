import Mathlib.Data.List.Basic
import RowGate.Proofs.Sql.Lexer
import RowGate.Text.Cut

/-! # Reading a SELECT

The clauses of a SELECT as PostgreSQL's grammar cuts them: at keywords and commas outside of
parentheses. A table in parentheses is a SELECT of its own.
-/

namespace RowGate.Sql

namespace Token

/-- A word in small letters, or the comma. -/
def spelling? : Token → Option String
  | lexeme .word s => some (String.ofList (Text.lower s))
  | mark ',' => some ","
  | _ => none

def isOneOf (ws : List String) (tok : Token) : Bool := tok.spelling?.any (· ∈ ws)

end Token

/-- A token with the number of parentheses around it. Parentheses count as inside of themselves. -/
abbrev Leveled := Token × Nat

/-- The tokens with their levels, where `d` parentheses are open. -/
def leveled : Nat → List Token → List Leveled
  | _, [] => []
  | d, tok :: ts =>
    if tok = .mark '(' then (tok, d + 1) :: leveled (d + 1) ts
    else (tok, d) :: leveled (if tok = .mark ')' then d - 1 else d) ts

/-- Whether a token is one of some words and stands outside of parentheses. -/
def breaksAt (ws : List String) (x : Leveled) : Bool := x.2 = 0 && x.1.isOneOf ws

def unleveled (xs : List Leveled) : List Token := xs.map Prod.fst

/-- The clause of a keyword, up to one of the later keywords, and the rest. A clause that is missing
is empty. -/
def clause (w : String) (later : List String) : List Leveled → List Leveled × List Leveled
  | [] => ([], [])
  | x :: xs =>
    if breaksAt [w] x then
      (xs.takeWhile fun y ↦ !breaksAt later y, xs.dropWhile fun y ↦ !breaksAt later y)
    else ([], x :: xs)

/-- The members of a list that is separated by commas. -/
def members (xs : List Leveled) : List (List Leveled) := xs.splitOn (.mark ',', 0)

/-- The members of a list behind `BY`. -/
def membersBehindBy : List Leveled → List (List Leveled)
  | [] => []
  | _ :: xs => members xs

/-- An item of a select list: an expression, and the name behind `AS`. -/
structure Item where
  expr : List Token
  label : List Token
deriving DecidableEq, Repr

namespace Item

def ofTokens (xs : List Leveled) : Item where
  expr := unleveled (xs.takeWhile fun y ↦ !breaksAt ["as"] y)
  label := unleveled (xs.dropWhile fun y ↦ !breaksAt ["as"] y).tail

/-- The name of the output column. Without a name of its own a column keeps its name. -/
def name? (item : Item) : Option String :=
  match item.label, item.expr with
  | [.quoted .name s], _ | [], [.quoted .name s] => some (String.ofList s)
  | _, _ => none

end Item

/-- A term of ORDER BY: what is sorted by, and the direction with the place of nulls. -/
structure SortTerm where
  key : List Token
  direction : List Token
deriving DecidableEq, Repr

def SortTerm.ofTokens (xs : List Leveled) : SortTerm where
  key := unleveled (xs.takeWhile fun y ↦ !breaksAt ["asc", "desc", "nulls"] y)
  direction := unleveled (xs.dropWhile fun y ↦ !breaksAt ["asc", "desc", "nulls"] y)

structure Selection where
  items : List Item
  source : List Token
  condition : List Token
  groups : List (List Token)
  order : List SortTerm
  /-- LIMIT and OFFSET. -/
  page : List Token
deriving DecidableEq, Repr

namespace Selection

def ofTokens (ts : List Token) : Selection :=
  let select :=
    clause "select" ["from", "where", "group", "order", "limit", "offset"] (leveled 0 ts)
  let source := clause "from" ["where", "group", "order", "limit", "offset"] select.2
  let condition := clause "where" ["group", "order", "limit", "offset"] source.2
  let groups := clause "group" ["order", "limit", "offset"] condition.2
  let order := clause "order" ["limit", "offset"] groups.2
  { items := (members select.1).map Item.ofTokens
    source := unleveled source.1
    condition := unleveled condition.1
    groups := (membersBehindBy groups.1).map unleveled
    order := (membersBehindBy order.1).map SortTerm.ofTokens
    page := unleveled order.2 }

/-- The SELECT that a text is. -/
def ofText? (sql : String) : Option Selection := (tokens sql).map ofTokens

/-- The SELECT in parentheses that the rows are taken from, if they are not taken from a table. -/
def inner? (s : Selection) : Option Selection :=
  match s.source with
  | .mark '(' :: ts =>
    some (ofTokens (unleveled ((leveled 0 ts).takeWhile fun x ↦ x ≠ (.mark ')', 0))))
  | _ => none

/-- The expression that a term of ORDER BY sorts by. A bare name stands for the output column of
that name, if there is one. -/
def sortExpr (s : Selection) (key : List Token) : List Token :=
  match key with
  | [.quoted .name n] => match s.items.find? fun item ↦ item.name? = some (String.ofList n) with
    | some item => item.expr
    | none => key
  | _ => key

end Selection

/-! ## Parentheses that match -/

/-- Tokens whose parentheses match. -/
inductive Nested : List Token → Prop
  | nil : Nested []
  | token {tok : Token} : tok ≠ .mark '(' → tok ≠ .mark ')' → Nested [tok]
  | append {a b : List Token} : Nested a → Nested b → Nested (a ++ b)
  | paren {a : List Token} : Nested a → Nested (.mark '(' :: a ++ [.mark ')'])

section

variable {a b : List Token} {d : Nat}

theorem leveled_open (ts : List Token) (d : Nat) :
    leveled d (.mark '(' :: ts) = (.mark '(', d + 1) :: leveled (d + 1) ts := rfl

theorem leveled_close (ts : List Token) (d : Nat) :
    leveled d (.mark ')' :: ts) = (.mark ')', d) :: leveled (d - 1) ts := rfl

/-- A token that is no parenthesis stands on the level of what follows it. -/
theorem leveled_cons {tok : Token} (hopen : tok ≠ .mark '(') (hclose : tok ≠ .mark ')')
    (ts : List Token) : leveled d (tok :: ts) = (tok, d) :: leveled d ts := by
  rw [leveled, if_neg hopen, if_neg hclose]

/-- Levels are added to tokens, and taken off again. -/
theorem unleveled_leveled (ts : List Token) (d : Nat) : unleveled (leveled d ts) = ts := by
  induction ts generalizing d with
  | nil => rfl
  | cons tok ts ih =>
    rw [leveled]
    split
    · exact congrArg (tok :: ·) (ih _)
    · exact congrArg (tok :: ·) (ih _)

namespace Nested

/-- Behind matching parentheses as many are open as before. -/
theorem leveled_append (h : Nested a) (d : Nat) (b : List Token) :
    leveled d (a ++ b) = leveled d a ++ leveled d b := by
  induction h generalizing d b with
  | nil => rfl
  | token hopen hclose =>
    rw [List.singleton_append, leveled_cons hopen hclose, leveled_cons hopen hclose]
    rfl
  | append _ _ iha ihb => rw [List.append_assoc, iha, iha, ihb, List.append_assoc]
  | @paren a _ ih =>
    have hpair (ts : List Token) : leveled d (.mark '(' :: a ++ .mark ')' :: ts) =
        (.mark '(', d + 1) :: (leveled (d + 1) a ++ (.mark ')', d + 1) :: leveled d ts) := by
      rw [List.cons_append, leveled_open, ih, leveled_close, Nat.add_sub_cancel]
    rw [List.append_assoc, List.singleton_append, hpair, hpair, List.cons_append,
      List.append_assoc]
    rfl

/-- Matching parentheses close none of those around them. -/
theorem level_le (h : Nested a) {x : Leveled} (hx : x ∈ leveled d a) :
    d ≤ x.2 ∧ (x.2 = d → x.1 ∈ a ∧ x.1 ≠ .mark ')') := by
  induction h generalizing d with
  | nil => cases hx
  | @token tok hopen hclose =>
    rw [leveled_cons hopen hclose] at hx
    obtain rfl := List.mem_singleton.mp hx
    exact ⟨Nat.le_refl d, fun _ ↦ ⟨List.mem_singleton_self tok, hclose⟩⟩
  | append ha _ iha ihb =>
    rw [ha.leveled_append] at hx
    rcases List.mem_append.mp hx with hx | hx
    · obtain ⟨hle, heq⟩ := iha hx
      exact ⟨hle, fun h ↦ ⟨List.mem_append_left _ (heq h).1, (heq h).2⟩⟩
    · obtain ⟨hle, heq⟩ := ihb hx
      exact ⟨hle, fun h ↦ ⟨List.mem_append_right _ (heq h).1, (heq h).2⟩⟩
  | @paren a ha ih =>
    have hlt : d + 1 ≤ x.2 := by
      rw [List.cons_append, leveled_open, ha.leveled_append, leveled_close] at hx
      rcases List.mem_cons.mp hx with rfl | hx
      · exact Nat.le_refl _
      · rcases List.mem_append.mp hx with hx | hx
        · exact (ih hx).1
        · obtain rfl := List.mem_singleton.mp hx
          exact Nat.le_refl _
    exact ⟨by omega, fun h ↦ absurd h (by omega)⟩

/-- Tokens among which there are no parentheses. -/
theorem of_forall {ts : List Token} (h : ∀ tok ∈ ts, tok ≠ .mark '(' ∧ tok ≠ .mark ')') :
    Nested ts := by
  induction ts with
  | nil => exact nil
  | cons tok ts ih =>
    obtain ⟨htok, hts⟩ := List.forall_mem_cons.mp h
    exact append (token htok.1 htok.2) (ih hts)

theorem cons {tok : Token} (hopen : tok ≠ .mark '(') (hclose : tok ≠ .mark ')') (h : Nested a) :
    Nested (tok :: a) := append (token hopen hclose) h

end Nested

end

/-- Tokens whose parentheses match and that hold none of some words. -/
structure Within (stops : List String) (a : List Token) : Prop where
  nested : Nested a
  free : ∀ tok ∈ a, tok.isOneOf stops = false

/-- Tokens whose parentheses match, and that hold none of some words outside of them. -/
structure Unbroken (stops : List String) (a : List Token) : Prop where
  nested : Nested a
  clear : ∀ x ∈ leveled 0 a, breaksAt stops x = false

theorem Token.isOneOf_iff {ws : List String} {tok : Token} :
    tok.isOneOf ws = true ↔ ∃ w ∈ ws, tok.spelling? = some w := by
  rw [isOneOf, Option.any_eq_true]
  constructor
  · rintro ⟨w, hw, hmem⟩
    exact ⟨w, of_decide_eq_true hmem, hw⟩
  · rintro ⟨w, hmem, hw⟩
    exact ⟨w, hw, decide_eq_true hmem⟩

/-- A token that is none of more words is none of fewer. -/
theorem Token.isOneOf_mono {ws ws' : List String} (hws : ws ⊆ ws') {tok : Token}
    (h : tok.isOneOf ws' = false) : tok.isOneOf ws = false := by
  rw [Bool.eq_false_iff, Ne, isOneOf_iff] at h ⊢
  rintro ⟨w, hw, htok⟩
  exact h ⟨w, hws hw, htok⟩

theorem breaksAt_iff {ws : List String} {x : Leveled} :
    breaksAt ws x = true ↔ x.2 = 0 ∧ ∃ w ∈ ws, x.1.spelling? = some w := by
  rw [breaksAt, Bool.and_eq_true, decide_eq_true_eq, Token.isOneOf_iff]

section

variable {stops stops' : List String} {a b : List Token}

theorem Within.mono (hstops : stops ⊆ stops') (h : Within stops' a) : Within stops a :=
  ⟨h.nested, fun tok htok ↦ Token.isOneOf_mono hstops (h.free tok htok)⟩

/-- Two texts without certain words, one behind the other. -/
theorem Within.append (ha : Within stops a) (hb : Within stops b) : Within stops (a ++ b) :=
  ⟨ha.nested.append hb.nested, List.forall_mem_append.mpr ⟨ha.free, hb.free⟩⟩

/-- Parentheses are none of the words. -/
theorem Within.paren (h : Within stops a) : Within stops (.mark '(' :: a ++ [.mark ')']) := by
  refine ⟨h.nested.paren, fun tok htok ↦ ?_⟩
  rcases List.mem_append.mp htok with htok | htok
  · rcases List.mem_cons.mp htok with rfl | htok
    · rfl
    · exact h.free tok htok
  · obtain rfl := List.mem_singleton.mp htok
    rfl

/-- Words that are not there are not there outside of parentheses either. -/
theorem Within.unbroken (h : Within stops a) : Unbroken stops a := by
  refine ⟨h.nested, fun x hx ↦ ?_⟩
  rw [breaksAt, Bool.and_eq_false_imp]
  intro hlevel
  exact h.free x.1 ((h.nested.level_le hx).2 (of_decide_eq_true hlevel)).1

/-- Two texts that are not broken, one behind the other. -/
theorem Unbroken.append (ha : Unbroken stops a) (hb : Unbroken stops b) :
    Unbroken stops (a ++ b) := by
  refine ⟨ha.nested.append hb.nested, ?_⟩
  rw [ha.nested.leveled_append]
  exact List.forall_mem_append.mpr ⟨ha.clear, hb.clear⟩

/-- Nothing in parentheses stands outside of them. -/
theorem Unbroken.paren (h : Nested a) : Unbroken stops (.mark '(' :: a ++ [.mark ')']) := by
  refine ⟨h.paren, fun x hx ↦ ?_⟩
  have hlevel : x.2 ≠ 0 := by
    rw [List.cons_append, leveled_open, h.leveled_append, leveled_close] at hx
    rcases List.mem_cons.mp hx with rfl | hx
    · exact Nat.succ_ne_zero 0
    · rcases List.mem_append.mp hx with hx | hx
      · exact Nat.ne_of_gt (h.level_le hx).1
      · obtain rfl := List.mem_singleton.mp hx
        exact Nat.succ_ne_zero 0
  rw [breaksAt, decide_eq_false hlevel]
  rfl

end

/-! ## Clauses -/

/-- A text that is empty or begins with one of some keywords. -/
def Begins (ws : List String) (xs : List Leveled) : Prop :=
  ∀ x ∈ xs.head?, breaksAt ws x = true

/-- The text of a clause, with its keyword and without; no text for a clause that is missing. -/
inductive IsClause (w : String) (later : List String) : List Token → List Token → Prop
  | missing : IsClause w later [] []
  | present {s : List Char} {body : List Token} : String.ofList (Text.lower s) = w →
    Unbroken later body → IsClause w later (.lexeme .word s :: body) body

section

variable {w : String} {later : List String} {ts body rest : List Token} {xs : List Leveled}

theorem leveled_word (s : List Char) (ts : List Token) (d : Nat) :
    leveled d (.lexeme .word s :: ts) = (.lexeme .word s, d) :: leveled d ts := rfl

/-- A keyword stands outside of parentheses at the beginning of its clause. -/
theorem breaksAt_word (s : List Char) :
    breaksAt [String.ofList (Text.lower s)] (.lexeme .word s, 0) = true :=
  breaksAt_iff.mpr ⟨rfl, _, List.mem_cons_self, rfl⟩

/-- The parentheses of a clause match, with its keyword or missing. -/
theorem IsClause.nested (h : IsClause w later ts body) : Nested ts := by
  cases h with
  | missing => exact .nil
  | present _ hbody => exact .cons (fun h ↦ nomatch h) (fun h ↦ nomatch h) hbody.nested

/-- What begins with a later keyword begins with this one or a later one. -/
theorem Begins.cons (h : Begins later xs) : Begins (w :: later) xs := by
  intro x hx
  obtain ⟨hlevel, v, hv, hspelling⟩ := breaksAt_iff.mp (h x hx)
  exact breaksAt_iff.mpr ⟨hlevel, v, List.mem_cons_of_mem w hv, hspelling⟩

/-- A clause ends where the text goes on with a later keyword. -/
theorem Begins.ends (hxs : Begins later xs) :
    xs.takeWhile (fun y ↦ !breaksAt later y) = [] ∧
      xs.dropWhile (fun y ↦ !breaksAt later y) = xs := by
  cases xs with
  | nil => exact ⟨rfl, rfl⟩
  | cons x xs =>
    have hx : breaksAt later x = true := hxs x rfl
    simp [hx]

/-- Text that begins with a later keyword is not of the clause. -/
theorem Begins.clause (hw : w ∉ later) (hxs : Begins later xs) : clause w later xs = ([], xs) := by
  cases xs with
  | nil => rfl
  | cons x xs =>
    obtain ⟨-, v, hv, hspelling⟩ := breaksAt_iff.mp (hxs x rfl)
    have hother : ¬breaksAt [w] x = true := by
      intro hx
      obtain ⟨-, v', hv', hspelling'⟩ := breaksAt_iff.mp hx
      obtain rfl := Option.some.inj (hspelling.symm.trans hspelling')
      exact hw (List.mem_singleton.mp hv' ▸ hv)
    rw [Sql.clause, if_neg hother]

/-- A clause is read up to the next one, also if it is missing. -/
theorem IsClause.clause_append (h : IsClause w later ts body) (hw : w ∉ later)
    (hrest : Begins later (leveled 0 rest)) :
    clause w later (leveled 0 (ts ++ rest)) = (leveled 0 body, leveled 0 rest) ∧
      Begins (w :: later) (leveled 0 (ts ++ rest)) := by
  rw [h.nested.leveled_append]
  cases h with
  | missing => exact ⟨hrest.clause hw, hrest.cons⟩
  | @present s body hs hbody =>
    subst hs
    obtain ⟨htake, hdrop⟩ := hrest.ends
    have hclear : ∀ y ∈ leveled 0 body, (!breaksAt later y) = true := by
      intro y hy
      rw [hbody.clear y hy]
      rfl
    rw [leveled_word]
    constructor
    · rw [List.cons_append, clause, if_pos (breaksAt_word s), List.takeWhile_append_of_pos hclear,
        List.dropWhile_append_of_pos hclear, htake, hdrop, List.append_nil]
    · intro y hy
      obtain rfl := Option.some.inj hy
      exact breaksAt_iff.mpr ⟨rfl, _, List.mem_cons_self, rfl⟩

end

/-- A SELECT is read clause by clause. -/
theorem Selection.ofTokens_append {select items from' source where' condition group groups order
    terms page : List Token}
    (hselect :
      IsClause "select" ["from", "where", "group", "order", "limit", "offset"] select items)
    (hfrom : IsClause "from" ["where", "group", "order", "limit", "offset"] from' source)
    (hwhere : IsClause "where" ["group", "order", "limit", "offset"] where' condition)
    (hgroup : IsClause "group" ["order", "limit", "offset"] group groups)
    (horder : IsClause "order" ["limit", "offset"] order terms)
    (hpage : Begins ["limit", "offset"] (leveled 0 page)) :
    ofTokens (select ++ (from' ++ (where' ++ (group ++ (order ++ page))))) =
      { items := (members (leveled 0 items)).map Item.ofTokens
        source := source
        condition := condition
        groups := (membersBehindBy (leveled 0 groups)).map unleveled
        order := (membersBehindBy (leveled 0 terms)).map SortTerm.ofTokens
        page := page } := by
  obtain ⟨horder, hbegins⟩ := horder.clause_append (by decide) hpage
  obtain ⟨hgroup, hbegins⟩ := hgroup.clause_append (by decide) hbegins
  obtain ⟨hwhere, hbegins⟩ := hwhere.clause_append (by decide) hbegins
  obtain ⟨hfrom, hbegins⟩ := hfrom.clause_append (by decide) hbegins
  obtain ⟨hselect, -⟩ := hselect.clause_append (by decide) hbegins
  simp only [ofTokens, hselect, hfrom, hwhere, hgroup, horder, unleveled_leveled]

/-! ## Lists, items and terms -/

section

variable {tss : List (List Token)}

theorem leveled_comma (ts : List Token) (d : Nat) :
    leveled d (.mark ',' :: ts) = (.mark ',', d) :: leveled d ts := rfl

/-- The commas of a list stand outside of the parentheses of its members. -/
theorem leveled_intercalate (h : ∀ ts ∈ tss, Nested ts) :
    leveled 0 ([.mark ','].intercalate tss) =
      [(.mark ',', 0)].intercalate (tss.map (leveled 0)) := by
  induction tss with
  | nil => rfl
  | cons ts tss ih =>
    obtain ⟨hts, hrest⟩ := List.forall_mem_cons.mp h
    cases tss with
    | nil => simp only [List.intercalate_singleton, List.map_cons, List.map_nil]
    | cons us tss =>
      rw [List.intercalate_cons_cons, List.append_assoc, hts.leveled_append, List.singleton_append,
        leveled_comma, ih hrest]
      simp only [List.map_cons, List.intercalate_cons_cons, List.append_assoc,
        List.singleton_append]

/-- Members that hold no comma outside of parentheses are found again. -/
theorem members_intercalate (hne : tss ≠ []) (h : ∀ ts ∈ tss, Unbroken [","] ts) :
    members (leveled 0 ([.mark ','].intercalate tss)) = tss.map (leveled 0) := by
  rw [members, leveled_intercalate fun ts hts ↦ (h ts hts).nested]
  refine List.splitOn_intercalate _ (fun xs hxs hcomma ↦ ?_) (by simpa using hne)
  obtain ⟨ts, hts, rfl⟩ := List.mem_map.mp hxs
  have hclear := (h ts hts).clear _ hcomma
  revert hclear
  decide

end

section

variable {ws : List String} {a : List Token} {xs : List Leveled}

/-- A text without some words up to the first of them, and what is left. -/
theorem Unbroken.takeWhile_append (ha : Unbroken ws a) (hxs : Begins ws xs) :
    unleveled ((leveled 0 a ++ xs).takeWhile fun y ↦ !breaksAt ws y) = a ∧
      (leveled 0 a ++ xs).dropWhile (fun y ↦ !breaksAt ws y) = xs := by
  obtain ⟨htake, hdrop⟩ := hxs.ends
  have hclear : ∀ y ∈ leveled 0 a, (!breaksAt ws y) = true := by
    intro y hy
    rw [ha.clear y hy]
    rfl
  rw [List.takeWhile_append_of_pos hclear, List.dropWhile_append_of_pos hclear, htake, hdrop,
    List.append_nil, unleveled_leveled]
  exact ⟨rfl, rfl⟩

/-- An expression under a name is read as such. -/
theorem Item.ofTokens_label {expr label : List Token} (hexpr : Unbroken ["as"] expr) :
    Item.ofTokens (leveled 0 (expr ++ .lexeme .word "AS".toList :: label)) = ⟨expr, label⟩ := by
  have hname : Begins ["as"] (leveled 0 (.lexeme .word "AS".toList :: label)) := by
    intro y hy
    obtain rfl := Option.some.inj hy
    decide
  obtain ⟨htake, hdrop⟩ := hexpr.takeWhile_append hname
  rw [ofTokens, hexpr.nested.leveled_append, htake, hdrop, leveled_word, List.tail_cons,
    unleveled_leveled]

/-- An expression without a name is read as such. -/
theorem Item.ofTokens_expr {expr : List Token} (hexpr : Unbroken ["as"] expr) :
    Item.ofTokens (leveled 0 expr) = ⟨expr, []⟩ := by
  have hnil : Begins ["as"] [] := fun y hy ↦ nomatch hy
  obtain ⟨htake, hdrop⟩ := hexpr.takeWhile_append hnil
  rw [List.append_nil] at htake hdrop
  rw [ofTokens, htake, hdrop]
  rfl

/-- A term is cut where its direction begins. -/
theorem SortTerm.ofTokens_eq {key direction : List Token}
    (hkey : Unbroken ["asc", "desc", "nulls"] key)
    (hdirection : Begins ["asc", "desc", "nulls"] (leveled 0 direction)) :
    SortTerm.ofTokens (leveled 0 (key ++ direction)) = ⟨key, direction⟩ := by
  obtain ⟨htake, hdrop⟩ := hkey.takeWhile_append hdirection
  rw [ofTokens, hkey.nested.leveled_append, htake, hdrop, unleveled_leveled]

end

/-- The source in parentheses is read up to the parenthesis that closes it. -/
theorem Selection.inner?_eq {s : Selection} {ts rest : List Token} (hts : Nested ts)
    (h : s.source = .mark '(' :: (ts ++ .mark ')' :: rest)) : s.inner? = some (ofTokens ts) := by
  have hinner : ∀ x ∈ leveled 0 ts, decide (x ≠ (.mark ')', 0)) = true := by
    intro x hx
    refine decide_eq_true ?_
    rintro rfl
    exact ((hts.level_le hx).2 rfl).2 rfl
  rw [inner?, h]
  simp only [hts.leveled_append, leveled_close, List.takeWhile_append_of_pos hinner]
  simp [unleveled_leveled]

/-- The SELECT around another one is read clause by clause. -/
theorem Selection.ofTokens_around {head items inner label order terms : List Token}
    (hselect : IsClause "select" ["from", "where", "group", "order", "limit", "offset"] head items)
    (hinner : Nested inner) (hlabel : Within ["where", "group", "order", "limit", "offset"] label)
    (horder : IsClause "order" ["limit", "offset"] order terms) :
    ofTokens (head ++ (.lexeme .word "FROM".toList ::
      (.mark '(' :: inner ++ [.mark ')'] ++ label) ++ order)) =
      { items := (members (leveled 0 items)).map Item.ofTokens
        source := .mark '(' :: inner ++ [.mark ')'] ++ label
        condition := []
        groups := []
        order := (membersBehindBy (leveled 0 terms)).map SortTerm.ofTokens
        page := [] } := by
  have hsource : Unbroken ["where", "group", "order", "limit", "offset"]
      (.mark '(' :: inner ++ [.mark ')'] ++ label) := (Unbroken.paren hinner).append hlabel.unbroken
  have hfrom : IsClause "from" _ _ _ := .present (s := "FROM".toList) (by decide) hsource
  have hbegins : Begins ["limit", "offset"] (leveled 0 []) := fun x hx ↦ nomatch hx
  have hread := ofTokens_append hselect hfrom .missing .missing horder hbegins
  rw [List.append_nil, List.nil_append, List.nil_append] at hread
  exact hread

end RowGate.Sql
