import RowGate.Proofs.Sql.Agreement
import RowGate.Proofs.Sql.OrderNames
import RowGate.Proofs.Sql.Parts
import RowGate.Proofs.Sql.RowCount

/-! # Grouped select lists

A SELECT with groups shows aggregates, and besides them only what its rows are grouped by: of
anything else a group has no single value. What a query with groups shows, it also groups by, in the
same words. The one exception is a group of the name `*`, which GROUP BY takes for a column of that
name and the select list for all columns.

The select list and GROUP BY are compared as tokens and as text. Their expressions hold no blanks
outside of quotes, so the tokens give the text back.
-/

namespace RowGate

open Sql (Token Item Selection Nested textTokens)

/-! ## The text of tokens -/

namespace Sql

/-- The text of a token, in its quotes. -/
def Token.written : Token → List Char
  | lexeme _ s => s
  | quoted q s => q.mark :: (q.double s ++ [q.mark])
  | mark c => [c]

/-- The text of tokens without blanks between them. -/
def written (ts : List Token) : List Char := ts.flatMap Token.written

/-- The text of an item: an expression, and its name if it has one. -/
def Item.written (item : Item) : List Char :=
  Sql.written item.expr ++
    if item.label = [] then [] else " AS ".toList ++ Sql.written item.label

/-- The text of GROUP BY; none without groups. -/
def groupText (groups : List (List Token)) : List Char :=
  if groups = [] then []
  else " GROUP BY ".toList ++ ", ".toList.intercalate (groups.map written)

/-- The call of an aggregate: its name, and an argument in parentheses. -/
def IsAggregateCall (ts : List Token) : Prop :=
  ∃ name argument, name.isOneOf aggregateNames = true ∧ Nested argument ∧
    ts = name :: (.mark '(' :: argument ++ [.mark ')'])

namespace Selection

/-- A group has one value of the item: it is the call of an aggregate, or an expression that the
rows are grouped by. -/
def Admits (s : Selection) (item : Item) : Prop :=
  IsAggregateCall item.expr ∨ item.expr ∈ s.groups

/-- The select list and the groups stand in a text as they are read. -/
def WrittenIn (s : Selection) (sql : String) : Prop :=
  ∃ source rest : List Char, sql.toList = "SELECT ".toList ++
    ", ".toList.intercalate (s.items.map Item.written) ++ " FROM ".toList ++ source ++
      groupText s.groups ++ rest

end Selection

end Sql

/-- A fragment whose text its tokens give back. -/
structure Fragment.IsVerbatim (f : Fragment) : Prop where
  values : f.values = []
  written : Sql.written (f.tokens 0) = f.text.toList

variable {t : Target} {q : Query} {f g : Fragment}

namespace Fragment

/-- Without values the text of two fragments is that of the one and of the other. -/
theorem text_append_of_values (hf : f.values = []) (hg : g.values = []) :
    (f ++ g).text = f.text ++ g.text := by
  rw [text, textFrom_append, hf, List.length_nil, textFrom_of_values hg]
  rfl

/-- Without values the text of a join is that of its fragments between separators. -/
theorem toList_text_join {fs : List Fragment} (sep : String) (h : ∀ f ∈ fs, f.values = []) :
    (join sep fs).text.toList = sep.toList.intercalate (fs.map fun f ↦ f.text.toList) := by
  have htexts : textsFrom 0 fs = fs.map text := by
    induction fs with
    | nil => rfl
    | cons f fs ih =>
      obtain ⟨hf, hfs⟩ := List.forall_mem_cons.mp h
      rw [textsFrom, hf, List.length_nil, ih hfs, List.map_cons, text]
  rw [text, toList_textFrom_join, htexts, List.map_map]
  rfl

namespace IsVerbatim

theorem nil : IsVerbatim [] := ⟨rfl, rfl⟩

/-- Fragments whose tokens give their texts back, one behind the other. -/
theorem append (hf : f.IsVerbatim) (hg : g.IsVerbatim) : (f ++ g).IsVerbatim := by
  refine ⟨by rw [values_append, hf.values, hg.values, List.append_nil], ?_⟩
  rw [tokens_append, tokens_of_values hg.values, text_append_of_values hf.values hg.values,
    Sql.written, List.flatMap_append, String.toList_append]
  exact congrArg₂ (· ++ ·) hf.written hg.written

/-- A fixed text without blanks between its tokens is checked by computation. -/
theorem fixed {s : String} (h : Sql.written (textTokens s.toList) = s.toList) :
    IsVerbatim [.fixed s] := by
  refine ⟨rfl, ?_⟩
  rw [tokens_fixed, tokens, List.append_nil, h, text, textFrom_fixed]

/-- A quoted name is one token. -/
theorem name (i : Identifier) : IsVerbatim [.name i] := by
  refine ⟨rfl, ?_⟩
  simp [text, textFrom, toList_quoted, tokens, Piece.tokens, Sql.written, Sql.Token.written,
    Sql.Quote.mark]

theorem key (s : String) : IsVerbatim [.key s] := by
  refine ⟨rfl, ?_⟩
  simp [text, textFrom, toList_stringLiteral, tokens, Piece.tokens, Sql.written, Sql.Token.written,
    Sql.Quote.mark]

/-- A number is one token. -/
theorem number (n : Nat) : IsVerbatim [.number n] := by
  refine ⟨rfl, ?_⟩
  simp [text, textFrom, tokens, Piece.tokens, Sql.written, Sql.Token.written]

/-- A path has no blanks between its tokens. -/
theorem path (p : ColumnPath) : p.fragment.IsVerbatim := by
  have hsteps : Fragment.IsVerbatim
      (p.steps.flatMap fun step ↦ [.fixed step.accessor.sql, step.key.piece]) := by
    induction p.steps with
    | nil => exact nil
    | cons step steps ih =>
      have haccessor : IsVerbatim [.fixed step.accessor.sql] := by
        cases step.accessor <;> exact fixed (by decide)
      have hkey : IsVerbatim [step.key.piece] := by
        cases step.key with
        | name s => exact key s
        | index n => exact number n
      exact (haccessor.append hkey).append ih
  exact (name p.column).append hsteps

theorem paren (hf : f.IsVerbatim) : f.paren.IsVerbatim :=
  ((fixed (by decide)).append hf).append (fixed (by decide))

/-- The argument of a call has no blanks between its tokens. -/
theorem argument {a : Aggregation} (h : a.argument = .ok f) : f.IsVerbatim := by
  rw [Aggregation.argument] at h
  split at h
  · cases h
    exact fixed (by decide)
  · cases h
  · obtain ⟨p, -, h⟩ := bind_eq_ok_iff.mp h
    cases h
    split
    · exact (path p).paren.append (fixed (by decide))
    · exact path p

/-- A call has no blanks between its tokens. -/
theorem call {a : Aggregation} (h : a.call = .ok f) : f.IsVerbatim := by
  obtain ⟨arg, harg, h⟩ := bind_eq_ok_iff.mp h
  cases h
  have hname : IsVerbatim [.fixed a.function.sql] := by
    cases a.function <;> exact fixed (by decide)
  exact hname.append (argument harg).paren

end IsVerbatim

end Fragment

/-! ## The text of a SELECT -/

/-- An expression without a name is written as it is read. -/
theorem written_expr (h : f.IsExpression) (hf : f.IsVerbatim) : f.item.written = f.text.toList := by
  rw [h.item_eq, Item.written, if_pos rfl, List.append_nil, hf.written]

/-- An expression under a name is written as it is read. -/
theorem written_aliased {expr : Fragment} {label : String} (hexpr : expr.IsExpression)
    (hverbatim : expr.IsVerbatim) (h : aliased expr label = .ok f) :
    f.item.written = f.text.toList := by
  obtain ⟨i, -, rfl⟩ := aliased_eq_ok_iff.mp h
  have hname := (Fragment.IsVerbatim.name i).written
  have htext : Fragment.text (expr ++ [.fixed " AS ", .name i]) =
      expr.text ++ (" AS " ++ Fragment.text [.name i]) :=
    Fragment.text_append_of_values hverbatim.values rfl
  rw [(hexpr.label i).2, Item.written, if_neg (List.cons_ne_nil _ _), hverbatim.written, htext,
    String.toList_append, String.toList_append, ← hname]
  rfl

/-- A selected column stands in the text as it is read, with its name if it has one. -/
theorem written_column {c : SelectColumn} (h : c.fragment = .ok f) :
    f.item.written = f.text.toList := by
  rw [SelectColumn.fragment] at h
  split at h
  · cases h
    exact written_expr isExpression_everything (.fixed (by decide))
  · obtain ⟨p, -, h⟩ := bind_eq_ok_iff.mp h
    have hpath := Fragment.IsExpression.path p
    split at h
    · exact written_aliased hpath (.path p) h
    · split at h
      · exact written_aliased hpath (.path p) h
      · cases h
        exact written_expr hpath (.path p)

/-- An aggregate stands in the text as it is read, with its name. -/
theorem written_aggregation {a : Aggregation} (h : a.fragment = .ok f) :
    f.item.written = f.text.toList := by
  obtain ⟨call, hcall, h⟩ := bind_eq_ok_iff.mp h
  exact written_aliased (.call hcall) (.call hcall) h

/-- The groups stand in the text as they are read. -/
theorem toList_text_groups (paths : List ColumnPath) :
    (Fragment.listClause " GROUP BY " (paths.map ColumnPath.fragment)).text.toList =
      Sql.groupText (paths.map fun p ↦ p.fragment.tokens 0) := by
  have hvalues : ∀ f ∈ paths.map ColumnPath.fragment, f.values = [] := by
    intro f hf
    obtain ⟨p, -, rfl⟩ := List.mem_map.mp hf
    exact values_path p
  have hwritten : (paths.map ColumnPath.fragment).map (fun f ↦ f.text.toList) =
      (paths.map fun p ↦ p.fragment.tokens 0).map Sql.written := by
    rw [List.map_map, List.map_map]
    exact List.map_congr_left fun p _ ↦ (Fragment.IsVerbatim.path p).written.symm
  cases paths with
  | nil => rfl
  | cons p paths =>
    rw [Fragment.listClause, if_neg (by simp), Sql.groupText, if_neg (by simp), ← hwritten,
      ← Fragment.toList_text_join ", " hvalues, Fragment.text, Fragment.textFrom,
      String.toList_append]
    rfl

/-- The select list and the groups of a query stand in its text as they are read. -/
theorem writtenIn_text {c : Target.Clauses} (hc : c.Of t q) {s : Target.SelectParts}
    (hs : s.Of t q) : (c.selection q []).WrittenIn (s.fragment q []).text := by
  obtain ⟨columns, calls, hcolumns, hcalls, -, hitems⟩ := selectClause_eq_ok hs.items
  obtain rfl : columns = c.columns := eq_of_ok hcolumns hc.columns
  obtain rfl : calls = c.calls := eq_of_ok hcalls hc.calls
  obtain ⟨paths, hpaths, hgroups⟩ := groupByClause_eq_ok hs.groups
  obtain rfl : paths = c.groups := eq_of_ok hpaths hc.groups
  have hmembers : ∀ f ∈ c.columns ++ c.calls, f.values = [] ∧ f.item.written = f.text.toList := by
    intro f hf
    rcases List.mem_append.mp hf with hf | hf
    · obtain ⟨column, -, hcolumn⟩ := exists_of_mem_mapM hc.columns hf
      exact ⟨(item_column hcolumn).1.values, written_column hcolumn⟩
    · obtain ⟨a, -, ha⟩ := exists_of_mem_mapM hc.calls hf
      exact ⟨(item_aggregation ha).1.values, written_aggregation ha⟩
  have hlist : s.items.text.toList =
      ", ".toList.intercalate ((c.selection q []).items.map Item.written) := by
    rw [hitems, Fragment.toList_text_join ", " fun f hf ↦ (hmembers f hf).1,
      Target.Clauses.selection, Target.Clauses.items, List.map_nil, List.append_nil, List.map_map]
    exact congrArg _ (List.map_congr_left fun f hf ↦ (hmembers f hf).2.symm)
  have hclause : s.groups.text.toList = Sql.groupText (c.selection q []).groups := by
    rw [hgroups, toList_text_groups]
    rfl
  have hlistValues : s.items.values = [] := Target.values_selectClause hs.items
  have htable : s.table.values = [] := Target.values_fragment hs.table
  have hgroupValues : s.groups.values = [] := (isClause_groupByClause hs.groups).1
  have hfragment : s.fragment q [] = [.fixed "SELECT "] ++ (s.items ++ ([.fixed " FROM "] ++
      (s.table ++ (s.condition ++ (s.groups ++ (s.order ++ pageClause q)))))) := by
    simp [Target.SelectParts.fragment, Target.SelectParts.hiddenItems]
  refine ⟨s.table.text.toList ++ s.condition.text.toList,
    ((s.order ++ pageClause q).textFrom s.condition.values.length).toList, ?_⟩
  rw [hfragment, ← hlist, ← hclause, Fragment.text]
  simp only [Fragment.toList_textFrom_append, Fragment.textFrom_fixed, Fragment.values,
    hlistValues, htable, hgroupValues, List.length_nil, Nat.add_zero, Nat.zero_add,
    Fragment.textFrom_of_values hlistValues, Fragment.textFrom_of_values htable,
    Fragment.textFrom_of_values hgroupValues, List.append_assoc]
  rfl

/-! ## What a grouped query shows -/

/-- The call of an aggregation is the call of an aggregate function. -/
theorem isAggregateCall_call {a : Aggregation} (h : a.call = .ok f) :
    Sql.IsAggregateCall (f.tokens 0) := by
  have hvalues := (Fragment.IsExpression.call h).values
  obtain ⟨arg, harg, h⟩ := bind_eq_ok_iff.mp h
  cases h
  have hname : ∃ tok, textTokens a.function.sql.toList = [tok] ∧
      tok.isOneOf Sql.aggregateNames = true := by
    cases a.function <;> exact ⟨_, rfl, by decide⟩
  obtain ⟨tok, htokens, htok⟩ := hname
  have hargValues : arg.values = [] := (values_paren arg).symm.trans hvalues
  refine ⟨tok, arg.tokens 0, htok, ((Fragment.Within.argument harg).tokens hargValues).nested, ?_⟩
  have hclose : Fragment.tokens 0 (arg ++ [.fixed ")"]) = arg.tokens 0 ++ [.mark ')'] := by
    rw [Fragment.tokens_append, hargValues]
    rfl
  have hparen : arg.paren.tokens 0 = .mark '(' :: (arg.tokens 0 ++ [.mark ')']) := by
    rw [Fragment.paren, List.cons_append, Fragment.tokens_fixed, hclose]
    rfl
  rw [Fragment.tokens_fixed, htokens, hparen]
  rfl

/-- A query with groups shows the columns that it selects, or else its groups. -/
theorem Query.mem_shownColumns_iff (haggregate : q.isAggregate = true) {c : SelectColumn} :
    c ∈ q.shownColumns ↔
      c ∈ q.plainColumns ∨ q.plainColumns = [] ∧ c.column ∈ q.groupBy ∧ c.label = none := by
  by_cases hplain : q.plainColumns = []
  · rw [shownColumns_of_nil haggregate hplain, hplain, List.mem_map]
    constructor
    · rintro ⟨raw, hraw, rfl⟩
      exact .inr ⟨rfl, hraw, rfl⟩
    · rintro (h | ⟨-, hgroup, hlabel⟩)
      · cases h
      · exact ⟨c.column, hgroup, by rw [← hlabel]⟩
  · rw [shownColumns, if_pos haggregate, if_neg (mt List.isEmpty_iff.mp hplain)]
    constructor
    · exact .inl
    · rintro (h | ⟨hnil, -⟩)
      · exact h
      · exact absurd hnil hplain

/-- Whatever a query with groups shows it groups by. -/
theorem Query.column_mem_groupingKeys (haggregate : q.isAggregate = true) {c : SelectColumn}
    (h : c ∈ q.shownColumns) : c.column ∈ q.groupingKeys := by
  rw [mem_groupingKeys_iff]
  refine ⟨haggregate, ?_⟩
  rcases (mem_shownColumns_iff haggregate).mp h with h | ⟨-, h, -⟩
  · exact .inr ⟨c, h, rfl⟩
  · exact .inl h

/-- It shows all columns if it selects none and one of its groups is `*`. -/
theorem Query.exists_wildcard_iff (haggregate : q.isAggregate = true) :
    (∃ c ∈ q.shownColumns, c.isWildcard = true) ↔ q.plainColumns = [] ∧ "*" ∈ q.groupBy := by
  constructor
  · rintro ⟨c, hc, hwildcard⟩
    rcases (mem_shownColumns_iff haggregate).mp hc with hc | ⟨hnil, hgroup, -⟩
    · have hplain := (List.mem_filter.mp hc).2
      rw [hwildcard] at hplain
      cases hplain
    · have hstar : c.column = "*" := of_decide_eq_true hwildcard
      exact ⟨hnil, hstar ▸ hgroup⟩
  · rintro ⟨hnil, hgroup⟩
    exact ⟨{ column := "*" }, (mem_shownColumns_iff haggregate).mpr (.inr ⟨hnil, hgroup, rfl⟩), rfl⟩

/-- The star by itself is no call. -/
theorem not_isAggregateCall_everything : ¬Sql.IsAggregateCall (textTokens "*".toList) := by
  rintro ⟨name, argument, -, -, h⟩
  have hlength := congrArg List.length h
  have hone : (textTokens "*".toList).length = 1 := by decide
  rw [hone, List.length_cons, List.length_append, List.length_cons] at hlength
  omega

/-- Everything is no group: a group begins with the name of a column. -/
theorem not_admits_everything (c : Target.Clauses) :
    ¬(c.selection q []).Admits ⟨textTokens "*".toList, []⟩ := by
  rintro (h | h)
  · exact not_isAggregateCall_everything h
  · obtain ⟨p, -, hp⟩ := List.mem_map.mp h
    cases hp

section

variable {c : Target.Clauses}

/-- A shown column is everything or a group, and there are groups. -/
theorem item_shownColumn (hc : c.Of t q) (haggregate : q.isAggregate = true)
    {column : SelectColumn} (hcolumn : column ∈ q.shownColumns) (h : column.fragment = .ok f) :
    (c.selection q []).groups ≠ [] ∧
      (f.item.expr ∈ (c.selection q []).groups ∨
        column.isWildcard = true ∧ f.item = ⟨textTokens "*".toList, []⟩) := by
  obtain ⟨p, hp, hread⟩ :=
    exists_mem_of_mapM hc.groups (Query.column_mem_groupingKeys haggregate hcolumn)
  have hgroup : p.fragment.tokens 0 ∈ (c.selection q []).groups := List.mem_map_of_mem hp
  refine ⟨List.ne_nil_of_mem hgroup, ?_⟩
  rcases (item_column h).2 with hall | ⟨-, p', hp', hexpr, -⟩
  · exact .inr hall
  · obtain rfl := eq_of_ok hread hp'
    exact .inl (hexpr ▸ hgroup)

/-- The items of a grouped query are its columns and its calls. -/
theorem mem_items_iff {item : Item} : item ∈ (c.selection q []).items ↔
    (∃ f ∈ c.columns, f.item = item) ∨ ∃ f ∈ c.calls, f.item = item := by
  simp [Target.Clauses.selection, Target.Clauses.items]

/-- An item calls an aggregate, or there are groups and it is one of them or everything. -/
theorem item_cases (hc : c.Of t q) (haggregate : q.isAggregate = true) {item : Item}
    (h : item ∈ (c.selection q []).items) :
    Sql.IsAggregateCall item.expr ∨ (c.selection q []).groups ≠ [] ∧
      (item.expr ∈ (c.selection q []).groups ∨
        (∃ column ∈ q.shownColumns, column.isWildcard = true) ∧
          item = ⟨textTokens "*".toList, []⟩) := by
  rcases mem_items_iff.mp h with ⟨f, hf, rfl⟩ | ⟨f, hf, rfl⟩
  · obtain ⟨column, hcolumn, hread⟩ := exists_of_mem_mapM hc.columns hf
    obtain ⟨hgroups, hgroup | ⟨hwildcard, hall⟩⟩ :=
      item_shownColumn hc haggregate hcolumn hread
    · exact .inr ⟨hgroups, .inl hgroup⟩
    · exact .inr ⟨hgroups, .inr ⟨⟨column, hcolumn, hwildcard⟩, hall⟩⟩
  · obtain ⟨a, -, ha⟩ := exists_of_mem_mapM hc.calls hf
    obtain ⟨-, call, hcall, hitem⟩ := item_aggregation ha
    exact .inl (hitem ▸ isAggregateCall_call hcall)

/-- A query that shows all columns has the star among its items. -/
theorem everything_mem_items (hc : c.Of t q)
    (h : ∃ column ∈ q.shownColumns, column.isWildcard = true) :
    ⟨textTokens "*".toList, []⟩ ∈ (c.selection q []).items := by
  obtain ⟨column, hcolumn, hwildcard⟩ := h
  obtain ⟨f, hf, hread⟩ := exists_mem_of_mapM hc.columns hcolumn
  rcases (item_column hread).2 with ⟨-, hall⟩ | ⟨hplain, -⟩
  · exact mem_items_iff.mpr (.inl ⟨f, hf, hall⟩)
  · cases hwildcard.symm.trans hplain

end

/-- The select list of a query with groups. Its items are calls of aggregates and groups of GROUP
BY, word by word; there is a GROUP BY wherever there is an item that calls no aggregate. The one
exception is the item `*`, which stands there just if the query selects no column and groups by a
column of the name `*`. -/
theorem items_grouped_iff {page : Statement} (h : t.select q = .ok page)
    (haggregate : q.isAggregate = true) :
    ∃ f, t.selectFragment q = .ok f ∧ f.statement = page ∧ f.selection.WrittenIn page.sql ∧
      (∀ item ∈ f.selection.items,
        f.selection.Admits item ∨ item = ⟨textTokens "*".toList, []⟩) ∧
      ((∃ item ∈ f.selection.items, ¬Sql.IsAggregateCall item.expr) → f.selection.groups ≠ []) ∧
      ((∀ item ∈ f.selection.items, f.selection.Admits item) ↔
        ¬(q.plainColumns = [] ∧ "*" ∈ q.groupBy)) := by
  obtain ⟨f, hf, rfl⟩ := map_eq_ok_iff.mp h
  obtain ⟨c, hc, -, hselection⟩ := Target.selection_selectFragment hf
  obtain ⟨-, -, s, hs, rfl⟩ := Target.selectWith_eq_ok_iff.mp hf
  refine ⟨_, hf, rfl, hselection ▸ writtenIn_text hc hs, ?_, ?_, ?_⟩
  · rw [hselection]
    intro item hitem
    rcases item_cases hc haggregate hitem with hcall | ⟨-, hgroup | ⟨-, hall⟩⟩
    · exact .inl (.inl hcall)
    · exact .inl (.inr hgroup)
    · exact .inr hall
  · rw [hselection]
    rintro ⟨item, hitem, hplain⟩
    rcases item_cases hc haggregate hitem with hcall | ⟨hgroups, -⟩
    · exact absurd hcall hplain
    · exact hgroups
  · rw [hselection, ← Query.exists_wildcard_iff haggregate]
    constructor
    · intro hadmits hwildcard
      exact not_admits_everything c (hadmits _ (everything_mem_items hc hwildcard))
    · intro hnone item hitem
      rcases item_cases hc haggregate hitem with hcall | ⟨-, hgroup | ⟨hwildcard, -⟩⟩
      · exact .inl hcall
      · exact .inr hgroup
      · exact absurd hwildcard hnone

/-- The documents of each status in each city, with their number and the sum of their sizes. -/
def perStatusAndCity : Query where
  select := [{ column := "data->>city" }]
  aggregations := [{ function := .countAll }, { function := .sum, column := some "data->>size" }]
  groupBy := ["status"]

def statusAndCityText : String :=
  "SELECT \"data\"->>'city' AS \"city\", COUNT(*) AS \"count\", " ++
    "SUM((\"data\"->>'size')::numeric) AS \"sum_size\" FROM \"docs\" " ++
    "GROUP BY \"status\", \"data\"->>'city'"

theorem items_grouped_perStatusAndCity :
    ({ table := "docs" } : Target).select perStatusAndCity = .ok ⟨statusAndCityText, []⟩ ∧
    perStatusAndCity.isAggregate = true ∧
    ∃ f, ({ table := "docs" } : Target).selectFragment perStatusAndCity = .ok f ∧
      f.selection.WrittenIn statusAndCityText ∧
      ∀ item ∈ f.selection.items, f.selection.Admits item := by
  have hpage : ({ table := "docs" } : Target).select perStatusAndCity =
      .ok ⟨statusAndCityText, []⟩ := by
    decide +kernel
  have haggregate : perStatusAndCity.isAggregate = true := by decide
  obtain ⟨f, hf, -, hwritten, -, -, hgrouped⟩ := items_grouped_iff hpage haggregate
  refine ⟨hpage, haggregate, f, hf, hwritten, hgrouped.mpr ?_⟩
  rintro ⟨hplain, -⟩
  cases hplain

/-- A query with a group of the name `*`. -/
def perStar : Query := { groupBy := ["*"] }

/-- All columns are shown, and the rows are grouped by a column of the name `*`. -/
theorem items_not_grouped_perStar :
    ({ table := "t" } : Target).select perStar = .ok ⟨"SELECT * FROM \"t\" GROUP BY \"*\"", []⟩ ∧
    perStar.isAggregate = true ∧
    ∃ s, Selection.ofText? "SELECT * FROM \"t\" GROUP BY \"*\"" = some s ∧
      ∃ item ∈ s.items, ¬s.Admits item := by
  refine ⟨by decide +kernel, by decide, _, rfl, ⟨textTokens "*".toList, []⟩, by decide +kernel, ?_⟩
  rintro (h | h)
  · exact not_isAggregateCall_everything h
  · revert h
    decide +kernel

end RowGate
