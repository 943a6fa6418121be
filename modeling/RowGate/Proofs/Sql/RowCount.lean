import Mathlib.Data.List.Dedup
import RowGate.Proofs.Sql.Reading

/-! # Pages and totals

How many rows a SELECT has, and what the total of a query counts. The total is that of the page,
except where aggregates stand alone: then the page is a single row, and the total counts the rows of
the table.
-/

namespace RowGate

open Sql (Token Item Selection Nested IsClause Within textTokens)

namespace Sql

def aggregateNames : List String := ["count", "sum", "avg", "min", "max"]

/-- Whether an aggregate is called. -/
def callsAggregate : List Token → Bool
  | [] => false
  | tok :: ts =>
    (tok.isOneOf aggregateNames && ts.head? = some (.mark '(')) || callsAggregate ts

/-- Without the name of an aggregate function nothing is called. -/
theorem callsAggregate_eq_false {ts : List Token}
    (h : ∀ tok ∈ ts, tok.isOneOf aggregateNames = false) : callsAggregate ts = false := by
  induction ts with
  | nil => rfl
  | cons tok ts ih =>
    obtain ⟨htok, hts⟩ := List.forall_mem_cons.mp h
    rw [callsAggregate, htok, ih hts]
    rfl

namespace Selection

section

variable {ρ κ : Type} [DecidableEq κ]

/-- How many rows a SELECT without its order, limit and offset makes of the rows that pass its
condition: one for each group, or else a single one if an aggregate is called, or else each. -/
def rowCount (value : List Token → ρ → κ) (s : Selection) (rows : List ρ) : Nat :=
  if s.groups ≠ [] then (rows.map fun row ↦ s.groups.map fun key ↦ value key row).dedup.length
  else if s.items.any fun item ↦ callsAggregate item.expr then 1
  else rows.length

/-- Only the groups decide how many rows a SELECT with groups has. -/
theorem rowCount_of_groups (value : List Token → ρ → κ) {s s' : Selection}
    (hgroups : s.groups = s'.groups) (hne : s'.groups ≠ []) (rows : List ρ) :
    s.rowCount value rows = s'.rowCount value rows := by
  rw [rowCount, rowCount, if_pos (hgroups ▸ hne), if_pos hne, hgroups]

/-- Without groups an aggregate makes one row of all rows. -/
theorem rowCount_of_call (value : List Token → ρ → κ) {s : Selection} (hgroups : s.groups = [])
    (hcall : (s.items.any fun item ↦ callsAggregate item.expr) = true) (rows : List ρ) :
    s.rowCount value rows = 1 := by
  rw [rowCount, if_neg (not_not.mpr hgroups), if_pos hcall]

/-- Without groups and aggregates every row is shown. -/
theorem rowCount_of_plain (value : List Token → ρ → κ) {s : Selection} (hgroups : s.groups = [])
    (hplain : (s.items.any fun item ↦ callsAggregate item.expr) = false) (rows : List ρ) :
    s.rowCount value rows = rows.length := by
  rw [rowCount, if_neg (not_not.mpr hgroups), if_neg (Bool.eq_false_iff.mp hplain)]

/-- How many rows a SELECT counts: those that pass its condition, or those of the SELECT that it
takes its rows from. -/
def total (value : List Token → ρ → κ) (s : Selection) (rows : List ρ) : Nat :=
  match s.inner? with
  | some inner => inner.rowCount value rows
  | none => rows.length

/-- A total over an inner SELECT is the number of its rows. -/
theorem total_of_inner (value : List Token → ρ → κ) {s inner : Selection}
    (h : s.inner? = some inner) (rows : List ρ) :
    s.total value rows = inner.rowCount value rows := by
  rw [total, h]

end

/-- The SELECT that reads the table. -/
def reader (s : Selection) : Selection := s.inner?.getD s

/-- A SELECT that counts the rows of a table that pass a condition, or those of a SELECT of them,
and does nothing else with them. -/
structure Counts (s : Selection) (table filter : List Token) : Prop where
  items : s.items = [⟨textTokens "COUNT(*)".toList, textTokens "total".toList⟩]
  groups : s.groups = []
  page : s.page = []
  outer : s.inner?.isSome = true → s.condition = []
  source : s.reader.source = table
  condition : s.reader.condition = filter
  reader_page : s.reader.page = []

variable {s inner : Selection}

/-- A count over a table counts the rows that pass its condition. -/
theorem Counts.of_table (hinner : s.inner? = none)
    (hitems : s.items = [⟨textTokens "COUNT(*)".toList, textTokens "total".toList⟩])
    (hgroups : s.groups = []) (hpage : s.page = []) : s.Counts s.source s.condition := by
  have hreader : s.reader = s := by rw [reader, hinner, Option.getD_none]
  refine ⟨hitems, hgroups, hpage, fun hsome ↦ ?_, by rw [hreader], by rw [hreader], ?_⟩
  · rw [hinner] at hsome
    cases hsome
  · rw [hreader, hpage]

/-- A count over an inner SELECT counts the rows that it gives. -/
theorem Counts.of_inner (hinner : s.inner? = some inner)
    (hitems : s.items = [⟨textTokens "COUNT(*)".toList, textTokens "total".toList⟩])
    (hgroups : s.groups = []) (hpage : s.page = []) (hcondition : s.condition = [])
    (hinnerPage : inner.page = []) : s.Counts inner.source inner.condition := by
  have hreader : s.reader = inner := by rw [reader, hinner, Option.getD_some]
  refine ⟨hitems, hgroups, hpage, fun _ ↦ hcondition, by rw [hreader], by rw [hreader], ?_⟩
  rw [hreader, hinnerPage]

end Selection

end Sql

variable {t : Target} {q : Query} {table condition groups f : Fragment} {info : Option TableInfo}
  {cs : List Filter}

/-! ## The text of a total -/

/-- The text of a SELECT without order and page is read clause by clause. -/
theorem isSelect_reader (htable : t.fragment = .ok table)
    (hcondition : whereClause info cs = .ok condition) {head items group body : List Token}
    (hselect : IsClause "select" Sql.clauseWords head items)
    (hgroup : IsClause "group" ["order", "limit", "offset"] group body)
    (hplain : Sql.placeholders (head ++ group) = []) :
    Sql.IsSelect (head ++ (.lexeme .word "FROM".toList :: table.tokens 0 ++
        (condition.units 0 ++ group)))
      { items := (Sql.members (Sql.leveled 0 items)).map Item.ofTokens
        source := table.tokens 0
        condition := (condition.units 0).tail
        groups := (Sql.membersBehindBy (Sql.leveled 0 body)).map Sql.unleveled
        order := []
        page := [] } := by
  obtain ⟨hsource, hhead, htablePlain⟩ := unbroken_table htable
  have hwhere := isClause_whereClause hcondition
  have hbegins : Sql.Begins ["limit", "offset"] (Sql.leveled 0 []) := fun x hx ↦ nomatch hx
  have hclauses : Sql.placeholders (head ++ (table.tokens 0 ++ (group ++ ([] ++ [])))) = [] := by
    rw [Sql.placeholders_append, List.append_eq_nil_iff] at hplain
    rw [List.append_nil, List.append_nil, Sql.placeholders_append, Sql.placeholders_append,
      htablePlain, hplain.1, hplain.2]
    rfl
  have hread := Sql.IsSelect.table hselect hsource hwhere hgroup .missing .nil hbegins hhead
    hclauses
  rwa [List.append_nil, List.append_nil] at hread

/-- The select list of a total. -/
theorem isClause_countAll : IsClause "select" Sql.clauseWords
    (textTokens "SELECT COUNT(*) AS total".toList) (textTokens "COUNT(*) AS total".toList) := by
  have hcount : Within Sql.clauseWords (textTokens "COUNT".toList) := .of_all (by decide)
  have hall : Within Sql.clauseWords (textTokens "*".toList) := .of_all (by decide)
  have hname : Within Sql.clauseWords (textTokens " AS total".toList) := .of_all (by decide)
  have htext : textTokens "COUNT(*) AS total".toList = textTokens "COUNT".toList ++
      ((.mark '(' :: textTokens "*".toList ++ [.mark ')']) ++ textTokens " AS total".toList) := by
    decide +kernel
  have hselect : textTokens "SELECT COUNT(*) AS total".toList =
      .lexeme .word "SELECT".toList :: textTokens "COUNT(*) AS total".toList := by
    decide +kernel
  rw [hselect, htext]
  exact .present (by decide) (hcount.append (hall.paren.append hname)).unbroken

/-- The select list of a count is read as a count with its name. -/
theorem items_countAll :
    (Sql.members (Sql.leveled 0 (textTokens "COUNT(*) AS total".toList))).map Item.ofTokens =
      [⟨textTokens "COUNT(*)".toList, textTokens "total".toList⟩] := by
  decide +kernel

/-- A table is no SELECT in parentheses. -/
theorem inner?_eq_none {s : Selection} (h : t.fragment = .ok table)
    (hs : s.source = table.tokens 0) : s.inner? = none := by
  obtain ⟨name, -, h⟩ := bind_eq_ok_iff.mp h
  split at h
  · obtain ⟨schema, -, h⟩ := bind_eq_ok_iff.mp h
    cases h
    rw [Selection.inner?, hs]
    rfl
  · cases h
    rw [Selection.inner?, hs]
    rfl

/-- A total without groups counts the rows of the table. -/
theorem counts_rows (htable : t.fragment = .ok table)
    (hcondition : whereClause info cs = .ok condition) :
    (Target.totalFragment table condition none).IsSelect ∧
    (Target.totalFragment table condition none).selection.Counts (table.tokens 0)
      (condition.units 0).tail ∧
    (Target.totalFragment table condition none).selection.inner? = none := by
  have hread := isSelect_reader htable hcondition isClause_countAll .missing (by decide +kernel)
  have hunits : (Target.totalFragment table condition none).units 0 =
      textTokens "SELECT COUNT(*) AS total".toList ++
        (.lexeme .word "FROM".toList :: table.tokens 0 ++ (condition.units 0 ++ [])) := by
    have htext : textTokens "SELECT COUNT(*) AS total FROM ".toList =
        textTokens "SELECT COUNT(*) AS total".toList ++ [.lexeme .word "FROM".toList] := by
      decide +kernel
    rw [Target.totalFragment, List.cons_append, Fragment.units_fixed, htext,
      Fragment.units_append_left (Target.values_fragment htable), List.append_nil,
      List.append_assoc, List.singleton_append, List.cons_append]
  rw [← hunits] at hread
  have hselection : (Target.totalFragment table condition none).selection = _ := hread.ofTokens_eq
  have hsource : (Target.totalFragment table condition none).selection.source = table.tokens 0 := by
    rw [hselection]
  have hfilter : (Target.totalFragment table condition none).selection.condition =
      (condition.units 0).tail := by
    rw [hselection]
  have hgroups : (Target.totalFragment table condition none).selection.groups = [] := by
    rw [hselection]
    rfl
  have hinner := inner?_eq_none htable hsource
  have hcounts := Selection.Counts.of_table hinner (by rw [hselection, items_countAll]) hgroups
    (by rw [hselection])
  rw [hsource, hfilter] at hcounts
  exact ⟨hread.isSelect, hcounts, hinner⟩

/-- A total with groups counts the rows of a SELECT with these groups. -/
theorem counts_groups {V : Vocabulary} {columns : List String} (htable : t.fragment = .ok table)
    (hcondition : whereClause info cs = .ok condition)
    (hgroups : groupByClause columns = .ok groups) (hV : ∀ p ∈ groups, V.Has p) :
    (Target.totalFragment table condition (some groups)).IsSelect ∧
    (Target.totalFragment table condition (some groups)).selection.Counts (table.tokens 0)
      (condition.units 0).tail ∧
    ∃ paths inner, columns.mapM readPath = .ok paths ∧
      (Target.totalFragment table condition (some groups)).selection.inner? = some inner ∧
      inner.groups = (paths.map fun p ↦ p.fragment.tokens 0) ∧
      (inner.items.any fun item ↦ Sql.callsAggregate item.expr) = false := by
  obtain ⟨hvalues, paths, body, hpaths, hgroup, hbody⟩ := isClause_groupByClause hgroups
  have hone : IsClause "select" Sql.clauseWords (textTokens "SELECT 1".toList)
      (textTokens "1".toList) := by
    have hitem : Within Sql.clauseWords (textTokens "1".toList) := .of_all (by decide)
    exact .present (s := "SELECT".toList) (by decide) hitem.unbroken
  have honePlain : Sql.placeholders (textTokens "SELECT 1".toList) = [] := by decide +kernel
  have hplain : Sql.placeholders (textTokens "SELECT 1".toList ++ groups.tokens 0) = [] := by
    rw [Sql.placeholders_append, honePlain, Fragment.placeholders_of_values hV hvalues]
    rfl
  have hreader := isSelect_reader htable hcondition hone hgroup hplain
  set inner := textTokens "SELECT 1".toList ++ (.lexeme .word "FROM".toList :: table.tokens 0 ++
    (condition.units 0 ++ groups.tokens 0)) with hdef
  -- The fixed texts do not end where the two clauses end, so they are cut anew as tokens.
  have hunits : (Target.totalFragment table condition (some groups)).units 0 =
      textTokens "SELECT COUNT(*) AS total".toList ++
        (.lexeme .word "FROM".toList :: (.mark '(' :: inner ++ [.mark ')'] ++
          textTokens " AS _groups".toList)) := by
    have hend : Fragment.values [.fixed ") AS _groups"] = [] := rfl
    have hlast : (groups ++ [Piece.fixed ") AS _groups"]).values = [] := by
      rw [Fragment.values_append, hvalues, hend, List.append_nil]
    have htext : textTokens "SELECT COUNT(*) AS total FROM (SELECT 1 FROM ".toList =
        textTokens "SELECT COUNT(*) AS total".toList ++ .lexeme .word "FROM".toList ::
          .mark '(' :: (textTokens "SELECT 1".toList ++ [.lexeme .word "FROM".toList]) := by
      decide +kernel
    rw [Target.totalFragment, List.cons_append, List.cons_append, List.cons_append,
      Fragment.units_fixed, List.append_assoc, List.append_assoc,
      Fragment.units_append_left (Target.values_fragment htable),
      Fragment.units_append_right _ hlast, Fragment.tokens_append,
      Fragment.tokens_of_values hend, htext, hdef]
    simp only [List.append_assoc, List.cons_append, List.nil_append]
    rfl
  have hlabel : Within ("where" :: Sql.conditionStops) (textTokens " AS _groups".toList) :=
    .of_all (by decide)
  have hread := Sql.IsSelect.around isClause_countAll hreader hlabel .missing (by decide +kernel)
  rw [List.append_nil, ← hunits] at hread
  have hselection : (Target.totalFragment table condition (some groups)).selection = _ :=
    hread.ofTokens_eq
  have hinner : (Target.totalFragment table condition (some groups)).selection.inner? = some _ :=
    hreader.inner?_eq (by rw [hselection])
  have hcalls : (((Sql.members (Sql.leveled 0 (textTokens "1".toList))).map Item.ofTokens).any
      fun item ↦ Sql.callsAggregate item.expr) = false := by
    decide +kernel
  have hcounts := Selection.Counts.of_inner hinner (by rw [hselection, items_countAll])
    (by rw [hselection]) (by rw [hselection]) (by rw [hselection]) rfl
  exact ⟨hread.isSelect, hcounts, paths, _, hpaths, hinner, hbody, hcalls⟩

/-- A total is a SELECT. -/
theorem isSelect_countFragment (h : t.countFragment q = .ok f) : f.IsSelect := by
  have hV := (fits_fragmentOf (t := t) (r := .count q) h).has
  obtain ⟨-, -, table, htable, condition, hcondition, groups, hgroups, rfl⟩ :=
    Target.countFragment_eq_ok_iff.mp h
  split at hgroups
  · obtain ⟨clause, hclause, rfl⟩ := map_eq_ok_iff.mp hgroups
    exact (counts_groups htable hcondition hclause fun p hp ↦
      hV p (by simp [Target.totalFragment, hp])).1
  · cases hgroups
    exact (counts_rows htable hcondition).1

/-! ## The page -/

/-- A path calls nothing. -/
theorem callsAggregate_path (p : ColumnPath) :
    Sql.callsAggregate (p.fragment.tokens 0) = false := by
  have hwithin : p.fragment.Within Sql.aggregateNames :=
    .path_of_accessors (by rintro (_ | _) <;> decide) p
  exact Sql.callsAggregate_eq_false (hwithin.tokens (values_path p)).free

/-- The call of an aggregation calls an aggregate function. -/
theorem callsAggregate_call {a : Aggregation} (h : a.call = .ok f) :
    Sql.callsAggregate (f.tokens 0) = true := by
  obtain ⟨arg, -, h⟩ := bind_eq_ok_iff.mp h
  cases h
  have hname : ∃ tok, textTokens a.function.sql.toList = [tok] ∧
      tok.isOneOf Sql.aggregateNames = true := by
    cases a.function <;> exact ⟨_, rfl, by decide⟩
  obtain ⟨tok, htokens, htok⟩ := hname
  rw [Fragment.tokens_fixed, htokens, List.singleton_append, Sql.callsAggregate, htok]
  rfl

/-- A page calls an aggregate if and only if the query has one. -/
theorem any_callsAggregate_iff {c : Target.Clauses} (hc : c.Of t q) :
    ((c.selection q []).items.any fun item ↦ Sql.callsAggregate item.expr) = true ↔
      q.aggregations ≠ [] := by
  have hcolumns : ∀ f ∈ c.columns, Sql.callsAggregate f.item.expr = false := by
    intro f hf
    obtain ⟨column, -, hcolumn⟩ := exists_of_mem_mapM hc.columns hf
    rcases (item_column hcolumn).2 with ⟨-, hitem⟩ | ⟨-, p, -, hexpr, -⟩
    · rw [hitem]
      decide
    · rw [hexpr, callsAggregate_path]
  have hcalls : ∀ f ∈ c.calls, Sql.callsAggregate f.item.expr = true := by
    intro f hf
    obtain ⟨a, -, ha⟩ := exists_of_mem_mapM hc.calls hf
    obtain ⟨-, call, hcall, hitem⟩ := item_aggregation ha
    rw [hitem, callsAggregate_call hcall]
  have hne : q.aggregations ≠ [] ↔ c.calls ≠ [] := by
    rw [← List.length_pos_iff, ← List.length_pos_iff, length_eq_of_mapM hc.calls]
  rw [hne, List.any_eq_true]
  constructor
  · rintro ⟨item, hitem, hcall⟩ hnil
    obtain ⟨f, hf, rfl⟩ := List.mem_map.mp hitem
    rw [Target.Clauses.items, hnil, List.map_nil, List.append_nil, List.append_nil] at hf
    rw [hcolumns f hf] at hcall
    cases hcall
  · intro hcalls'
    obtain ⟨f, hf⟩ := List.exists_mem_of_ne_nil _ hcalls'
    refine ⟨f.item, List.mem_map_of_mem ?_, hcalls f hf⟩
    exact List.mem_append_left _ (List.mem_append_right _ hf)

/-- A SELECT has groups if its query has keys. -/
theorem groups_eq_nil_iff {c : Target.Clauses} (hc : c.Of t q) :
    (c.selection q []).groups = [] ↔ q.groupingKeys = [] := by
  rw [Target.Clauses.selection, List.map_eq_nil_iff, ← List.length_eq_zero_iff,
    length_eq_of_mapM hc.groups, List.length_eq_zero_iff]

theorem groupingKeys_eq_nil (h : q.isAggregate = false) : q.groupingKeys = [] := by
  rw [Query.groupingKeys, h, if_neg Bool.false_ne_true]

/-- What the total of a query is read as, where its page has the clauses `c`. -/
theorem selection_total {c : Target.Clauses} (hc : c.Of t q) (h : t.countFragment q = .ok f) :
    f.values = c.condition.values ∧
    f.selection.Counts (c.selection q []).source (c.selection q []).condition ∧
    ∀ {ρ κ : Type} [DecidableEq κ] (value : List Token → ρ → κ) (rows : List ρ),
      f.selection.total value rows =
        if q.groupingKeys ≠ [] then (c.selection q []).rowCount value rows else rows.length := by
  have hV := (fits_fragmentOf (t := t) (r := .count q) h).has
  obtain ⟨-, -, table, htable, condition, hcondition, groups, hgroups, rfl⟩ :=
    Target.countFragment_eq_ok_iff.mp h
  obtain rfl : table = c.table := Except.ok.inj (htable.symm.trans hc.table)
  obtain rfl : condition = c.condition := Except.ok.inj (hcondition.symm.trans hc.condition)
  have hvalues : Fragment.values c.table = [] := Target.values_fragment htable
  split at hgroups
  next haggregate =>
    obtain ⟨clause, hclause, rfl⟩ := map_eq_ok_iff.mp hgroups
    obtain ⟨-, hcounts, paths, inner, hpaths, hinner, hinnerGroups, hplain⟩ :=
      counts_groups htable hcondition hclause fun p hp ↦
        hV p (by simp [Target.totalFragment, hp])
    obtain rfl : paths = c.groups := Except.ok.inj (hpaths.symm.trans hc.groups)
    refine ⟨?_, hcounts, fun value rows ↦ ?_⟩
    · simp [Target.totalFragment, Fragment.values, hvalues, (isClause_groupByClause hclause).1]
    · have hsame : inner.groups = (c.selection q []).groups := hinnerGroups
      rw [Selection.total_of_inner value hinner]
      by_cases hkeys : q.groupingKeys = []
      · have hnone : inner.groups = [] := hsame.trans ((groups_eq_nil_iff hc).mpr hkeys)
        rw [if_neg (not_not.mpr hkeys), Selection.rowCount_of_plain value hnone hplain]
      · have hsome := mt (groups_eq_nil_iff hc).mp hkeys
        rw [if_pos hkeys, Selection.rowCount_of_groups value hsame hsome]
  next haggregate =>
    cases hgroups
    obtain ⟨-, hcounts, hinner⟩ := counts_rows htable hcondition
    have hkeys : q.groupingKeys = [] := groupingKeys_eq_nil (by simpa using haggregate)
    refine ⟨?_, hcounts, fun value rows ↦ ?_⟩
    · simp [Target.totalFragment, Fragment.values, hvalues]
    · rw [Selection.total, hinner, if_neg (not_not.mpr hkeys)]

/-- The total of a query is the number of rows of its page, without order, limit and offset, if and
only if the query has no aggregates, or it has groups, or a single row passes its condition.
Aggregates without groups make a single row of the page, but the total counts the rows that pass. -/
theorem total_eq_rowCount_iff {page count : Statement} (hpage : t.select q = .ok page)
    (hcount : t.count q = .ok count) :
    ∃ f g, t.selectFragment q = .ok f ∧ f.statement = page ∧
      t.countFragment q = .ok g ∧ g.statement = count ∧
      g.selection.Counts f.selection.source f.selection.condition ∧
      count.params = page.params ∧
      ∀ {ρ κ : Type} [DecidableEq κ] (value : List Token → ρ → κ) (rows : List ρ),
        g.selection.total value rows = f.selection.rowCount value rows ↔
          q.aggregations = [] ∨ q.groupingKeys ≠ [] ∨ rows.length = 1 := by
  obtain ⟨f, hf, rfl⟩ := map_eq_ok_iff.mp hpage
  obtain ⟨g, hg, rfl⟩ := map_eq_ok_iff.mp hcount
  obtain ⟨c, hc, hvalues, hselection⟩ := Target.selection_selectFragment hf
  obtain ⟨hparams, hcounts, htotal⟩ := selection_total hc hg
  refine ⟨f, g, hf, rfl, hg, rfl, hselection ▸ hcounts, hparams.trans hvalues.symm,
    fun value rows ↦ ?_⟩
  rw [htotal, hselection]
  by_cases hkeys : q.groupingKeys = []
  · have hgroups := (groups_eq_nil_iff hc).mpr hkeys
    rw [if_neg (not_not.mpr hkeys)]
    by_cases haggregations : q.aggregations = []
    · have hplain := mt (any_callsAggregate_iff hc).mp (not_not.mpr haggregations)
      rw [Selection.rowCount_of_plain value hgroups (Bool.eq_false_iff.mpr hplain)]
      simp [haggregations]
    · rw [Selection.rowCount_of_call value hgroups ((any_callsAggregate_iff hc).mpr haggregations)]
      simp [haggregations, hkeys]
  · simp [hkeys]

/-- How many documents there are in each city. -/
def perCity : Query := { aggregations := [{ function := .countAll }], groupBy := ["city"] }

/-- The total is the number of cities. -/
theorem total_eq_rowCount_perCity :
    ({ table := "docs" } : Target).select perCity =
      .ok ⟨"SELECT \"city\", COUNT(*) AS \"count\" FROM \"docs\" GROUP BY \"city\"", []⟩ ∧
    ({ table := "docs" } : Target).count perCity = .ok ⟨"SELECT COUNT(*) AS total FROM (" ++
      "SELECT 1 FROM \"docs\" GROUP BY \"city\") AS _groups", []⟩ ∧
    ∃ f g, ({ table := "docs" } : Target).selectFragment perCity = .ok f ∧
      ({ table := "docs" } : Target).countFragment perCity = .ok g ∧
      ∀ cities : List String, g.selection.total (fun _ city ↦ city) cities =
        f.selection.rowCount (fun _ city ↦ city) cities := by
  have hpage : ({ table := "docs" } : Target).select perCity = .ok
      ⟨"SELECT \"city\", COUNT(*) AS \"count\" FROM \"docs\" GROUP BY \"city\"", []⟩ := by
    decide +kernel
  have hcount : ({ table := "docs" } : Target).count perCity = .ok
      ⟨"SELECT COUNT(*) AS total FROM (" ++
        "SELECT 1 FROM \"docs\" GROUP BY \"city\") AS _groups", []⟩ := by
    decide +kernel
  obtain ⟨f, g, hf, -, hg, -, -, -, htotal⟩ := total_eq_rowCount_iff hpage hcount
  refine ⟨hpage, hcount, f, g, hf, hg, fun cities ↦ (htotal _ cities).mpr (.inr (.inl ?_))⟩
  decide

/-- How many documents there are. -/
def countAll : Query := { aggregations := [{ function := .countAll }] }

/-- Of two documents the page is a single row, and the total is two. -/
theorem total_ne_rowCount_countAll :
    ({ table := "docs" } : Target).select countAll =
      .ok ⟨"SELECT COUNT(*) AS \"count\" FROM \"docs\"", []⟩ ∧
    ({ table := "docs" } : Target).count countAll =
      .ok ⟨"SELECT COUNT(*) AS total FROM (SELECT 1 FROM \"docs\") AS _groups", []⟩ ∧
    (Selection.ofText? "SELECT COUNT(*) AS \"count\" FROM \"docs\"").map
      (fun s ↦ s.rowCount (fun _ _ ↦ ()) [(), ()]) = some 1 ∧
    (Selection.ofText? "SELECT COUNT(*) AS total FROM (SELECT 1 FROM \"docs\") AS _groups").map
      (fun s ↦ s.total (fun _ _ ↦ ()) [(), ()]) = some 2 := by
  decide +kernel

end RowGate
