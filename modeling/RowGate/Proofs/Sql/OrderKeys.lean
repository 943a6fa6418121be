import RowGate.Proofs.Sql.OutputNames

/-! # The keys that a page is sorted by

A page sorts the rows of its inner SELECT once more from outside, by hidden items that repeat the
keys of the inner ORDER BY. A bare name in ORDER BY is that of an output column, if there is one, so
both have to find the same expression for it. For a term that is spelled as ORDER BY has it
(`OrderTerm.Named`) they do, except for a member of a document that the query groups by and shows
without selecting it. Nothing is stated of other terms, and both may differ on them as well: an
alias that reads as a path, a name with blanks around it, the name of a hidden key.
-/

namespace RowGate

open Sql (Token Item SortTerm Selection Nested IsClause Within textTokens)

variable {t : Target} {q : Query} {f : Fragment} {name : String}

/-! ## Hidden keys -/

/-- The key of a term: the aggregate of its name, or else the selected column, or else its path. -/
theorem OrderTerm.key_cases {term : OrderTerm} (h : term.key q = .ok f) :
    (∃ a, (q.aggregations.find? fun a ↦ a.outputAlias = term.column) = some a ∧ a.call = .ok f) ∨
    ((q.aggregations.find? fun a ↦ a.outputAlias = term.column) = none ∧
      ∃ found, findOutput term.column q.plainColumns = .ok found ∧
        (found = some f ∨
          found = none ∧ ∃ p, readPath term.column = .ok p ∧ f = p.fragment)) := by
  rw [key] at h
  split at h
  next a ha => exact .inl ⟨a, ha, h⟩
  next ha =>
    obtain ⟨found, hfound, h⟩ := bind_eq_ok_iff.mp h
    refine .inr ⟨ha, found, hfound, ?_⟩
    cases found with
    | some g => exact .inl (congrArg some (pure_eq_ok_iff.mp h).symm)
    | none =>
      obtain ⟨p, hp, h⟩ := bind_eq_ok_iff.mp h
      exact .inr ⟨rfl, p, hp, pure_eq_ok_iff.mp h⟩

/-- What a name of the select list stands for is a path. -/
theorem isExpression_findOutput {columns : List SelectColumn} {f : Fragment}
    (h : findOutput name columns = .ok (some f)) : f.IsExpression := by
  induction columns with
  | nil => cases h
  | cons c columns ih =>
    obtain ⟨p, -, h⟩ := bind_eq_ok_iff.mp h
    split at h
    · cases h
      exact .path p
    · exact ih h

/-- The key of a term is an expression. -/
theorem OrderTerm.isExpression_key {term : OrderTerm} (h : term.key q = .ok f) :
    f.IsExpression := by
  rcases key_cases h with ⟨a, -, hcall⟩ | ⟨-, found, hfound, rfl | ⟨-, p, -, rfl⟩⟩
  · exact .call hcall
  · exact isExpression_findOutput hfound
  · exact .path p

/-- The hidden keys are the keys of the terms, under numbered names. -/
theorem Target.hiddenKeys_eq_ok {terms : List OrderTerm} {i : Nat} {keys : List HiddenKey}
    (h : hiddenKeys q i terms = .ok keys) :
    List.Forall₂ (fun term k ↦ term.key q = .ok k.expr) terms keys ∧
      keys.map (fun k ↦ k.name.name) =
        (List.range' i terms.length).map fun j ↦ "_order_" ++ toString j := by
  induction terms generalizing i keys with
  | nil =>
    cases h
    exact ⟨.nil, rfl⟩
  | cons term terms ih =>
    obtain ⟨expr, hexpr, h⟩ := bind_eq_ok_iff.mp h
    obtain ⟨name, hname, h⟩ := bind_eq_ok_iff.mp h
    obtain ⟨rest, hrest, h⟩ := bind_eq_ok_iff.mp h
    cases h
    obtain ⟨hkeys, hnames⟩ := ih hrest
    refine ⟨.cons hexpr hkeys, ?_⟩
    rw [List.map_cons, hnames, readName_eq_ok_iff.mp hname, List.length_cons, List.range'_succ,
      List.map_cons]

/-! ## What a term sorts by -/

/-- The name that ORDER BY has for a term, if that is a name alone. -/
def OrderTerm.bareName? (term : OrderTerm) : Option String :=
  match readPath term.column with
  | .ok p => if p.isJson then none else some p.column.name
  | .error _ => none

/-- A term that is spelled like a column that the query shows if and only if ORDER BY has the bare
name of this column for it, and that is not spelled like a hidden key. So an alias that reads as a
path is no such term, and neither is a name with blanks around it. -/
structure OrderTerm.Named (q : Query) (term : OrderTerm) : Prop where
  shown : ∀ name ∈ q.columnNames, term.column = name ↔ term.bareName? = some name
  hidden : ∀ name ∈ (Request.rows q).orderNames, term.bareName? ≠ some name

/-- Whether a name is that of a member of a document that the query groups by, and that it shows
because it selects no columns. -/
def Query.ShowsMember (q : Query) (name : String) : Prop :=
  q.plainColumns = [] ∧ ∃ raw ∈ q.groupBy, ∃ p, readPath raw = .ok p ∧ p.isJson = true ∧
    p.outputName = name

section

variable {c : Target.Clauses} {hidden : List HiddenKey}

/-- An item that is no hidden key is found among the columns or among the aggregates. -/
theorem outputExpr?_selection (hidden : List HiddenKey)
    (hname : ∀ k ∈ hidden, k.expr.IsExpression ∧ k.name.name ≠ name) :
    Sql.outputExpr? (c.selection q hidden).items name =
      (Sql.outputExpr? (c.columns.map Fragment.item) name).or
        (Sql.outputExpr? (c.calls.map Fragment.item) name) := by
  have hkeys : Sql.outputExpr? ((hidden.map HiddenKey.fragment).map Fragment.item) name = none := by
    rw [Sql.outputExpr?_eq_none_iff, List.mem_filterMap]
    rintro ⟨item, hitem, hitemName⟩
    obtain ⟨f, hf, rfl⟩ := List.mem_map.mp hitem
    obtain ⟨k, hk, rfl⟩ := List.mem_map.mp hf
    obtain ⟨hexpr, hne⟩ := hname k hk
    rw [HiddenKey.fragment, (hexpr.label k.name).2] at hitemName
    exact hne (by simpa [Item.name?] using hitemName)
  rw [Target.Clauses.selection, Target.Clauses.items, List.map_append, List.map_append,
    Sql.outputExpr?_append, Sql.outputExpr?_append, hkeys, Option.or_none]

/-- The names of the selected columns are different, as all names of the query are. -/
theorem nodup_columns (hc : c.Of t q) (hnames : q.columnNames.Nodup) :
    ((c.columns.map Fragment.item).filterMap Item.name?).Nodup := by
  rw [filterMap_columns hc.columns]
  exact hnames.sublist (List.sublist_append_left _ _)

/-- Where groups are shown, a name stands for a column of the table, unless it is that of a member
of a document. -/
theorem outputExpr?_groups_iff (hc : c.Of t q) (hnames : q.columnNames.Nodup)
    (haggregate : q.isAggregate = true) (hplain : q.plainColumns = []) :
    (Sql.outputExpr? (c.columns.map Fragment.item) name).getD [.quoted .name name.toList] =
      [.quoted .name name.toList] ↔ ¬q.ShowsMember name := by
  have hnodup := nodup_columns hc hnames
  have hcolumns := hc.columns
  rw [Query.shownColumns_of_nil haggregate hplain] at hcolumns
  constructor
  · rintro heq ⟨-, raw, hraw, p, hp, hjson, rfl⟩
    obtain ⟨f, hf, hcolumn⟩ := exists_mem_of_mapM hcolumns (List.mem_map_of_mem hraw)
    rcases (item_column hcolumn).2 with ⟨hwildcard, -⟩ | ⟨-, p', hp', hexpr, hname⟩
    · rw [isWildcard_of_isJson hp hjson] at hwildcard
      cases hwildcard
    · obtain rfl := eq_of_ok hp hp'
      have hfound := (Sql.outputExpr?_eq_some_iff hnodup).mpr
        ⟨f.item, List.mem_map_of_mem hf, hname, hexpr⟩
      have hmember : (some (p.fragment.tokens 0)).getD [.quoted .name p.outputName.toList] =
          [.quoted .name p.outputName.toList] := hfound ▸ heq
      exact p.tokens_ne_name hjson _ hmember
  · intro hmember
    cases hfound : Sql.outputExpr? (c.columns.map Fragment.item) name with
    | none => rfl
    | some expr =>
      obtain ⟨item, hitem, hitemName, rfl⟩ := (Sql.outputExpr?_eq_some_iff hnodup).mp hfound
      obtain ⟨f, hf, rfl⟩ := List.mem_map.mp hitem
      obtain ⟨column, hcolumn, hfragment⟩ := exists_of_mem_mapM hcolumns hf
      obtain ⟨raw, hraw, rfl⟩ := List.mem_map.mp hcolumn
      rcases (item_column hfragment).2 with ⟨-, hstar⟩ | ⟨-, p, hp, hexpr, hname⟩
      · rw [hstar] at hitemName
        cases hitemName
      · have hname : p.outputName = name := Option.some.inj (hname.symm.trans hitemName)
        have hbare : p.isJson = false := by
          refine Bool.eq_false_iff.mpr fun hjson ↦ ?_
          exact hmember ⟨hplain, raw, hraw, p, hp, hjson, hname⟩
        rw [Option.getD_some, hexpr, p.tokens_of_bare hbare, ← hname, p.outputName_of_bare hbare]

/-- A member that is shown is among the names of the columns. -/
theorem Query.ShowsMember.mem (h : q.ShowsMember name) :
    q.isAggregate = true ∧ name ∈ q.shownColumns.filterMap SelectColumn.outputName? := by
  obtain ⟨hplain, raw, hraw, p, hp, hjson, hname⟩ := h
  have haggregate := Query.isAggregate_of_groupBy hraw
  refine ⟨haggregate, ?_⟩
  rw [Query.shownColumns_of_nil haggregate hplain, List.filterMap_map]
  refine List.mem_filterMap.mpr ⟨raw, hraw, ?_⟩
  have hoption : (readPath raw).toOption.map ColumnPath.outputName = some name := by
    rw [hp, ← hname]
    rfl
  rw [Function.comp_apply, SelectColumn.outputName?, isWildcard_of_isJson hp hjson]
  exact hoption

/-- What the hidden key of a term is, in terms of items. -/
theorem tokens_key (hc : c.Of t q) {term : OrderTerm} {p : ColumnPath}
    (hp : readPath term.column = .ok p) {key : Fragment} (hkey : term.key q = .ok key) :
    (∃ e, Sql.outputExpr? (c.calls.map Fragment.item) term.column = some e ∧ key.tokens 0 = e) ∨
    (Sql.outputExpr? (c.calls.map Fragment.item) term.column = none ∧
      ∃ found, findOutput term.column q.plainColumns = .ok found ∧
        key.tokens 0 = (found.map (Fragment.tokens 0)).getD (p.fragment.tokens 0)) := by
  obtain ⟨hsome, hnone⟩ := outputExpr?_calls term.column hc.calls
  rcases OrderTerm.key_cases hkey with ⟨a, ha, hcall⟩ | ⟨ha, found, hfound, hkey⟩
  · obtain ⟨call, hcall', hexpr⟩ := hsome a ha
    exact .inl ⟨_, hexpr, by rw [eq_of_ok hcall hcall']⟩
  · refine .inr ⟨hnone ha, found, hfound, ?_⟩
    rcases hkey with rfl | ⟨rfl, p', hp', rfl⟩
    · rfl
    · rw [eq_of_ok hp hp']
      rfl

/-- No other names are found among the columns and the aggregates. -/
theorem outputExpr?_eq_none (hc : c.Of t q) (hname : name ∉ q.columnNames) :
    Sql.outputExpr? (c.columns.map Fragment.item) name = none ∧
      Sql.outputExpr? (c.calls.map Fragment.item) name = none := by
  rw [Sql.outputExpr?_eq_none_iff, Sql.outputExpr?_eq_none_iff, filterMap_columns hc.columns,
    filterMap_calls hc.calls]
  exact ⟨fun h ↦ hname (List.mem_append_left _ h), fun h ↦ hname (List.mem_append_right _ h)⟩

/-- Where no groups are shown, the selected column of a name is the one that is found. -/
theorem outputExpr?_selected (hc : c.Of t q)
    (h : ¬(q.isAggregate = true ∧ q.plainColumns = [])) {found : Option Fragment}
    (hfound : findOutput name q.plainColumns = .ok found) :
    Sql.outputExpr? (c.columns.map Fragment.item) name = found.map (Fragment.tokens 0) :=
  outputExpr?_columns hc.columns ((Query.filter_shownColumns h).symm ▸ hfound)

/-- A term is a bare name if it does not lead into a document. -/
theorem OrderTerm.bareName?_eq {term : OrderTerm} {p : ColumnPath}
    (hp : readPath term.column = .ok p) :
    term.bareName? = if p.isJson then none else some p.column.name := by
  rw [bareName?, hp]

/-- What a term sorts by that has a bare name. -/
theorem sortExpr_of_bare
    (hhidden : ∀ k ∈ hidden, k.expr.IsExpression ∧ k.name.name ∈ (Request.rows q).orderNames)
    {term : OrderTerm} (hterm : term.Named q) {p : ColumnPath} (hp : readPath term.column = .ok p)
    (hbare : p.isJson = false) :
    (c.selection q hidden).sortExpr (p.fragment.tokens 0) =
      ((Sql.outputExpr? (c.columns.map Fragment.item) p.column.name).or
        (Sql.outputExpr? (c.calls.map Fragment.item) p.column.name)).getD
          (p.fragment.tokens 0) := by
  have hname : term.bareName? = some p.column.name := by
    rw [OrderTerm.bareName?_eq hp, if_neg (Bool.eq_false_iff.mp hbare)]
  rw [p.tokens_of_bare hbare, Selection.sortExpr_name, outputExpr?_selection hidden]
  intro k hk
  refine ⟨(hhidden k hk).1, fun heq ↦ ?_⟩
  exact hterm.hidden _ (hhidden k hk).2 (heq ▸ hname)

/-- Where the names of the output columns differ, the name of an aggregate is that of no column. -/
theorem notMem_of_outputExpr?_calls (hc : c.Of t q) (hnames : q.columnNames.Nodup)
    {expr : List Token} (h : Sql.outputExpr? (c.calls.map Fragment.item) name = some expr) :
    name ∉ q.shownColumns.filterMap SelectColumn.outputName? := by
  intro hshown
  have halias : name ∈ q.aggregations.map Aggregation.outputAlias := by
    rw [← filterMap_calls hc.calls]
    by_contra hnone
    rw [← Sql.outputExpr?_eq_none_iff, h] at hnone
    cases hnone
  exact (List.nodup_append.mp hnames).2.2 _ hshown _ halias rfl

/-- The key of a term that is a name alone. -/
theorem key_eq_iff_of_bare (hc : c.Of t q) (hnames : q.columnNames.Nodup) {term : OrderTerm}
    {p : ColumnPath} (hp : readPath term.column = .ok p)
    (hbare : p.fragment.tokens 0 = [.quoted .name term.column.toList]) {key : Fragment}
    (hkey : term.key q = .ok key) :
    key.tokens 0 = ((Sql.outputExpr? (c.columns.map Fragment.item) term.column).or
        (Sql.outputExpr? (c.calls.map Fragment.item) term.column)).getD (p.fragment.tokens 0) ↔
      ¬q.ShowsMember term.column := by
  rcases tokens_key hc hp hkey with ⟨expr, hcalls, hexpr⟩ | ⟨hcalls, found, hfound, hexpr⟩
  · have hshown := notMem_of_outputExpr?_calls hc hnames hcalls
    have hcolumns : Sql.outputExpr? (c.columns.map Fragment.item) term.column = none := by
      rw [Sql.outputExpr?_eq_none_iff, filterMap_columns hc.columns]
      exact hshown
    rw [hcolumns, hcalls, hexpr]
    exact iff_of_true rfl fun h ↦ hshown h.mem.2
  · rw [hcalls, Option.or_none, hexpr]
    by_cases hgroups : q.isAggregate = true ∧ q.plainColumns = []
    · -- the key is looked for among the selected columns, but there are none
      have hnone : found = none := by
        rw [hgroups.2] at hfound
        exact (Except.ok.inj hfound).symm
      rw [hnone, Option.map_none, Option.getD_none, hbare, eq_comm]
      exact outputExpr?_groups_iff hc hnames hgroups.1 hgroups.2
    · rw [outputExpr?_selected hc hgroups hfound]
      exact iff_of_true rfl fun h ↦ hgroups ⟨h.mem.1, h.1⟩

/-- The key of any other term is its path. -/
theorem tokens_key_of_notMem (hc : c.Of t q) {term : OrderTerm}
    (hmem : term.column ∉ q.columnNames) {p : ColumnPath} (hp : readPath term.column = .ok p)
    {key : Fragment} (hkey : term.key q = .ok key) : key.tokens 0 = p.fragment.tokens 0 := by
  obtain ⟨hcolumns, hcalls⟩ := outputExpr?_eq_none hc hmem
  rcases tokens_key hc hp hkey with ⟨expr, hexpr, -⟩ | ⟨-, found, hfound, hexpr⟩
  · cases hcalls.symm.trans hexpr
  · by_cases hgroups : q.isAggregate = true ∧ q.plainColumns = []
    · rw [hgroups.2] at hfound
      rw [hexpr, ← Except.ok.inj hfound]
      rfl
    · rw [hexpr, ← outputExpr?_selected hc hgroups hfound, hcolumns, Option.getD_none]

/-- The hidden key of a term that is spelled as ORDER BY has it is the expression that ORDER BY
sorts by, unless the term is the name of a member of a document that is shown for its group. -/
theorem key_eq_sortExpr_iff (hc : c.Of t q) (hnames : q.columnNames.Nodup)
    (hhidden : ∀ k ∈ hidden, k.expr.IsExpression ∧ k.name.name ∈ (Request.rows q).orderNames)
    {term : OrderTerm} (hterm : term.Named q) {p : ColumnPath} (hp : readPath term.column = .ok p)
    {key : Fragment} (hkey : term.key q = .ok key) :
    key.tokens 0 = (c.selection q hidden).sortExpr (p.fragment.tokens 0) ↔
      ¬q.ShowsMember term.column := by
  by_cases hmem : term.column ∈ q.columnNames
  · -- ORDER BY has the bare name of a column or of an aggregate
    have hname : term.bareName? = some term.column := (hterm.shown _ hmem).mp rfl
    rw [OrderTerm.bareName?_eq hp, Option.ite_none_left_eq_some] at hname
    have hjson : p.isJson = false := Bool.eq_false_iff.mpr hname.1
    have hcolumn : p.column.name = term.column := Option.some.inj hname.2
    have hbare : p.fragment.tokens 0 = [.quoted .name term.column.toList] := by
      rw [p.tokens_of_bare hjson, hcolumn]
    rw [sortExpr_of_bare hhidden hterm hp hjson, hcolumn]
    exact key_eq_iff_of_bare hc hnames hp hbare hkey
  · -- ORDER BY has a path, or a bare name that is that of no output column
    have hmember : ¬q.ShowsMember term.column := fun h ↦ hmem (List.mem_append_left _ h.mem.2)
    refine iff_of_true ?_ hmember
    rw [tokens_key_of_notMem hc hmem hp hkey]
    cases hjson : p.isJson with
    | true => exact (Selection.sortExpr_of_ne _ (p.tokens_ne_name hjson)).symm
    | false =>
      have hother : p.column.name ∉ q.columnNames := by
        intro hmem'
        have hname : term.bareName? = some p.column.name := by
          rw [OrderTerm.bareName?_eq hp, if_neg (Bool.eq_false_iff.mp hjson)]
        exact hmem ((hterm.shown _ hmem').mpr hname ▸ hmem')
      obtain ⟨hcolumns, hcalls⟩ := outputExpr?_eq_none hc hother
      rw [sortExpr_of_bare hhidden hterm hp hjson, hcolumns, hcalls]
      rfl

end

/-! ## The page -/

/-- The item of a page: its rows as documents, without the hidden keys. -/
def documentItem (keys : List HiddenKey) : Fragment :=
  .fixed "to_jsonb(_rows)" :: keys.flatMap fun k ↦ [.fixed " - ", .key k.name.name]

/-- The item of a page is the document of a row without its hidden members. -/
theorem isExpression_documentItem (keys : List HiddenKey) : (documentItem keys).IsExpression := by
  have hdropped : Fragment.IsExpression
      (keys.flatMap fun k ↦ [Piece.fixed " - ", Piece.key k.name.name]) := by
    induction keys with
    | nil => exact ⟨.nil, rfl⟩
    | cons k keys ih =>
      have hkey : Fragment.Within Sql.expressionStops [.fixed " - ", .key k.name.name] :=
        (Fragment.Within.fixed (by decide)).append (.key _)
      exact ⟨hkey.append ih.within, ih.values⟩
  have hcall : textTokens "to_jsonb(_rows)".toList =
      textTokens "to_jsonb".toList ++ (.mark '(' :: textTokens "_rows".toList ++ [.mark ')']) := by
    decide +kernel
  have hname : Within Sql.expressionStops (textTokens "to_jsonb".toList) := .of_all (by decide)
  have hrows : Within Sql.expressionStops (textTokens "_rows".toList) := .of_all (by decide)
  have hdocument : Fragment.Within Sql.expressionStops [.fixed "to_jsonb(_rows)"] := by
    refine .of_piece fun n ↦ ?_
    rw [Piece.units, Piece.tokens, hcall]
    · exact hname.append hrows.paren
    · intro _ _ h
      cases h
  exact ⟨hdocument.append hdropped.within, hdropped.values⟩

/-- The list of a page, which has this item. -/
def documentList (keys : List HiddenKey) : Fragment :=
  .fixed "SELECT to_jsonb(_rows)" :: keys.flatMap fun k ↦ [.fixed " - ", .key k.name.name]

theorem isClause_documentList (keys : List HiddenKey) :
    (documentList keys).values = [] ∧ IsClause "select" Sql.clauseWords
      ((documentList keys).tokens 0) ((documentItem keys).tokens 0) := by
  have hitem := isExpression_documentItem keys
  have hselect : textTokens "SELECT to_jsonb(_rows)".toList =
      .lexeme .word "SELECT".toList :: textTokens "to_jsonb(_rows)".toList := by
    decide +kernel
  refine ⟨hitem.values, ?_⟩
  rw [documentList, Fragment.tokens_fixed, hselect]
  exact .present (by decide) (hitem.unbroken (by decide))

/-- The terms of a page: the hidden keys by their names, each in the direction of its term. -/
def outerTerms (order : List OrderTerm) (keys : List HiddenKey) : List SortTerm :=
  List.zipWith (fun term k ↦ ⟨[.quoted .name k.name.name.toList],
    textTokens term.direction.toList⟩) order keys

/-- The outer order is read as the terms of the query over the names of the hidden keys. -/
theorem isClause_outerOrder {order : List OrderTerm} {keys : List HiddenKey}
    (hlength : keys.length = order.length) :
    (Target.outerOrder order keys).values = [] ∧ ∃ body,
      IsClause "order" ["limit", "offset"] ((Target.outerOrder order keys).tokens 0) body ∧
      (Sql.membersBehindBy (Sql.leveled 0 body)).map SortTerm.ofTokens =
        outerTerms order keys := by
  have hname (i : Identifier) : Fragment.IsExpression [.name i] := ⟨.name i, rfl⟩
  have hclause : Target.outerOrder order keys = Fragment.listClause " ORDER BY "
      (List.zipWith (fun term k ↦ term.fragment [.name k.name]) order keys) := by
    rw [Target.outerOrder, Fragment.listClause]
    cases order with
    | nil => rfl
    | cons term order =>
      obtain ⟨k, keys, rfl⟩ := List.exists_cons_of_length_eq_add_one hlength
      rfl
  have hmembers : ∀ f ∈ List.zipWith (fun term k ↦ term.fragment [.name k.name]) order keys,
      f.IsMember ["limit", "offset"] := by
    intro f hf
    rw [← List.map_uncurry_zip_eq_zipWith] at hf
    obtain ⟨⟨term, k⟩, -, rfl⟩ := List.mem_map.mp hf
    exact (sortTerm_fragment term (hname k.name)).1
  obtain ⟨body, horder, hbody⟩ := isClause_listClause "order" (s := "ORDER".toList) (by decide)
    " ORDER BY " (by decide) (by decide) hmembers
  rw [hclause]
  refine ⟨Fragment.values_listClause _ fun f hf ↦ (hmembers f hf).values, body, horder, ?_⟩
  rw [hbody, List.map_map, List.map_zipWith]
  congr
  funext term k
  exact (sortTerm_fragment term (hname k.name)).2

/-- The list of a page has one member. -/
theorem members_documentItem (keys : List HiddenKey) :
    Sql.members (Sql.leveled 0 ((documentItem keys).tokens 0)) =
      [Sql.leveled 0 ((documentItem keys).tokens 0)] := by
  have hitems : ∀ g ∈ [documentItem keys], g.IsMember Sql.clauseWords :=
    List.forall_mem_singleton.mpr (isExpression_documentItem keys).isMember
  have hjoin := Fragment.members_join (List.cons_ne_nil _ _) hitems
  rwa [List.map_singleton, List.intercalate_singleton] at hjoin

/-- A page is the inner SELECT between its list and its terms. -/
theorem pageFragment_eq (keys : List HiddenKey) (inner : Fragment) :
    Target.pageFragment q keys inner = documentList keys ++
      (.fixed " FROM (" :: (inner ++ (.fixed ") AS _rows" :: Target.outerOrder q.order keys))) := by
  simp [Target.pageFragment, documentList]

/-- The parts of a page are over the vocabulary of the page. -/
theorem has_pageFragment {V : Vocabulary} {keys : List HiddenKey} {inner : Fragment}
    (h : ∀ p ∈ Target.pageFragment q keys inner, V.Has p) :
    (∀ p ∈ documentList keys, V.Has p) ∧ (∀ p ∈ inner, V.Has p) ∧
      ∀ p ∈ Target.outerOrder q.order keys, V.Has p := by
  simp only [pageFragment_eq, List.forall_mem_append, List.forall_mem_cons] at h
  exact ⟨h.1, h.2.2.1, h.2.2.2.2⟩

/-- The inner SELECT of a page stands in parentheses, between the list and the terms around it. -/
theorem units_pageFragment {keys : List HiddenKey}
    (hlist : (documentList keys).values = [])
    (horder : (Target.outerOrder q.order keys).values = []) (inner : Fragment) :
    (Target.pageFragment q keys inner).units 0 =
      (documentList keys).tokens 0 ++
        (.lexeme .word "FROM".toList ::
          (.mark '(' :: inner.units 0 ++ [.mark ')'] ++ textTokens " AS _rows".toList) ++
            (Target.outerOrder q.order keys).tokens 0) := by
  have hend : Fragment.values (.fixed ") AS _rows" :: Target.outerOrder q.order keys) = [] :=
    horder
  have hopen : textTokens " FROM (".toList = [.lexeme .word "FROM".toList, .mark '('] := by
    decide
  have hclose : Fragment.tokens 0 (.fixed ") AS _rows" :: Target.outerOrder q.order keys) =
      .mark ')' :: textTokens " AS _rows".toList ++
        (Target.outerOrder q.order keys).tokens 0 := by
    have htext : textTokens ") AS _rows".toList = .mark ')' :: textTokens " AS _rows".toList := by
      decide
    rw [Fragment.tokens_fixed, htext]
  rw [pageFragment_eq, Fragment.units_append_left hlist, Fragment.units_fixed, hopen,
    Fragment.units_append_right _ hend, hclose]
  simp only [List.append_assoc, List.cons_append, List.nil_append]

/-- A page is read as the documents of an inner SELECT, sorted by its hidden keys and shown without
them. -/
theorem selection_page (h : t.rowsFragment q = .ok f) :
    f.IsSelect ∧ ∃ c keys, Target.Clauses.Of t q c ∧ Target.hiddenKeys q 1 q.order = .ok keys ∧
      f.selection.inner? = some (c.selection q keys) ∧
      f.selection.items = [(documentItem keys).item] ∧
      f.selection.order = outerTerms q.order keys := by
  have hV := (fits_fragmentOf (t := t) (r := .rows q) h).has
  obtain ⟨keys, hkeys, inner, hinner, rfl⟩ := Target.rowsFragment_eq_ok_iff.mp h
  obtain ⟨hexprs, -⟩ := Target.hiddenKeys_eq_ok hkeys
  have hhidden : ∀ k ∈ keys, k.expr.IsExpression := by
    intro k hk
    obtain ⟨term, hterm⟩ := exists_of_forall₂ hexprs.flip hk
    exact OrderTerm.isExpression_key hterm
  obtain ⟨hlistHas, hinnerHas, horderHas⟩ := has_pageFragment hV
  obtain ⟨c, hc, -, hinnerSelect⟩ := Target.isSelect_selectWith hhidden hinnerHas hinner
  obtain ⟨hlist, hselect⟩ := isClause_documentList keys
  obtain ⟨hvalues, terms, horder, hterms⟩ := isClause_outerOrder hexprs.length_eq.symm
  have hlabel : Within ("where" :: Sql.conditionStops) (textTokens " AS _rows".toList) :=
    .of_all (by decide)
  have hlabelPlain : Sql.placeholders (textTokens " AS _rows".toList) = [] := by decide
  have hplain : Sql.placeholders ((documentList keys).tokens 0 ++ (textTokens " AS _rows".toList ++
      (Target.outerOrder q.order keys).tokens 0)) = [] := by
    rw [Sql.placeholders_append, Sql.placeholders_append, hlabelPlain,
      Fragment.placeholders_of_values hlistHas hlist,
      Fragment.placeholders_of_values horderHas hvalues]
    rfl
  have hread := Sql.IsSelect.around hselect hinnerSelect hlabel horder hplain
  rw [← units_pageFragment hlist hvalues] at hread
  have hselection : (Target.pageFragment q keys inner).selection = _ := hread.ofTokens_eq
  refine ⟨hread.isSelect, c, keys, hc, hkeys, hinnerSelect.inner?_eq (by rw [hselection]), ?_, ?_⟩
  · rw [hselection, members_documentItem]
    rfl
  · rw [hselection, hterms]

/-- Of a page that is compiled, the inner SELECT and the outer order are read. -/
theorem selection_rows (h : t.rowsFragment q = .ok f) :
    ∃ c keys, Target.Clauses.Of t q c ∧ Target.hiddenKeys q 1 q.order = .ok keys ∧
      f.selection.inner? = some (c.selection q keys) ∧
      f.selection.order = List.zipWith (fun term k ↦ ⟨[.quoted .name k.name.name.toList],
        textTokens term.direction.toList⟩) q.order keys := by
  obtain ⟨-, c, keys, hc, hkeys, hinner, -, horder⟩ := selection_page h
  exact ⟨c, keys, hc, hkeys, hinner, horder⟩

/-- The directions of the terms are read as they are written. -/
theorem direction_of_terms {order : List OrderTerm} {terms : List Fragment}
    (h : order.mapM OrderTerm.named = .ok terms) :
    (terms.map Fragment.sortTerm).map SortTerm.direction =
      order.map fun term ↦ textTokens term.direction.toList := by
  replace h := mapM_eq_ok_iff.mp h
  induction h with
  | nil => rfl
  | @cons term f _ _ hterm _ ih =>
    obtain ⟨p, -, hf⟩ := bind_eq_ok_iff.mp hterm
    cases hf
    rw [List.map_cons, List.map_cons, ih, List.map_cons,
      (sortTerm_fragment term (.path p)).2]

/-- An outer SELECT that sorts the rows of an inner one by hidden items: one for each term of the
inner ORDER BY, and in its direction. -/
structure Sql.Selection.Resorts (outer inner : Selection) (shown hidden : List Item)
    (names : List String) : Prop where
  source : outer.inner? = some inner
  items : inner.items = shown ++ hidden
  hidden_names : hidden.map Item.name? = names.map some
  order : outer.order =
    List.zipWith (fun name direction ↦ ⟨[.quoted .name name.toList], direction⟩) names
      (inner.order.map SortTerm.direction)

/-- A page sorts the rows of its inner SELECT by one hidden item for each term of the query. Where
the names of the output columns differ, the hidden item of a term that is spelled as ORDER BY has it
is just the expression that the inner ORDER BY sorts by, unless the term is the name of a member of
a document that the query groups by and shows without selecting it. Of the hidden items of terms
that are spelled otherwise nothing is said. -/
theorem hiddenKey_eq_sortExpr_iff {page : Statement} (h : t.rows q = .ok page)
    (hnames : q.columnNames.Nodup) :
    ∃ f inner shown hidden, t.rowsFragment q = .ok f ∧ f.statement = page ∧
      f.selection.Resorts inner shown hidden (Request.rows q).orderNames ∧
      shown.filterMap Item.name? = q.columnNames ∧
      inner.order.map SortTerm.direction =
        q.order.map (fun term ↦ textTokens term.direction.toList) ∧
      ∀ (i : ℕ) (term : OrderTerm), q.order[i]? = some term → term.Named q →
        ∃ (key : Item) (sortTerm : SortTerm), hidden[i]? = some key ∧
          inner.order[i]? = some sortTerm ∧
          (key.expr = inner.sortExpr sortTerm.key ↔ ¬q.ShowsMember term.column) := by
  obtain ⟨f, hf, rfl⟩ := map_eq_ok_iff.mp h
  obtain ⟨c, keys, hc, hkeys, hinner, horder⟩ := selection_rows hf
  obtain ⟨hexprs, hkeyNames⟩ := Target.hiddenKeys_eq_ok hkeys
  have hhidden : ∀ k ∈ keys, k.expr.IsExpression ∧ k.name.name ∈ (Request.rows q).orderNames := by
    intro k hk
    obtain ⟨term, hterm⟩ := exists_of_forall₂ hexprs.flip hk
    have hname : k.name.name ∈ keys.map fun k ↦ k.name.name := List.mem_map_of_mem hk
    rw [hkeyNames] at hname
    exact ⟨OrderTerm.isExpression_key hterm, hname⟩
  have hitem : ∀ k ∈ keys,
      k.fragment.item = ⟨k.expr.tokens 0, [.quoted .name k.name.name.toList]⟩ :=
    fun k hk ↦ ((hhidden k hk).1.label k.name).2
  have hdirections := direction_of_terms hc.terms
  refine ⟨f, c.selection q keys, (c.columns ++ c.calls).map Fragment.item,
    (keys.map HiddenKey.fragment).map Fragment.item, hf, rfl,
    ⟨hinner, List.map_append, ?_, ?_⟩, ?_, hdirections, fun i term hi hterm ↦ ?_⟩
  -- The outer order has the names of the hidden items, in their order and with their directions.
  · rw [Request.orderNames, ← hkeyNames, List.map_map, List.map_map, List.map_map]
    refine List.map_congr_left fun k hk ↦ ?_
    rw [Function.comp_apply, Function.comp_apply, hitem k hk]
    simp [Item.name?]
  · have hinnerDirections : (c.selection q keys).order.map SortTerm.direction =
        q.order.map fun term ↦ textTokens term.direction.toList := hdirections
    rw [horder, Request.orderNames, ← hkeyNames, hinnerDirections, List.zipWith_map,
      List.zipWith_comm]
  · rw [List.map_append, List.filterMap_append, filterMap_columns hc.columns,
      filterMap_calls hc.calls]
    rfl
  · obtain ⟨k, hk, hkey⟩ := exists_getElem?_of_forall₂ hexprs hi
    obtain ⟨g, hg, hnamed⟩ := exists_getElem?_of_forall₂ (mapM_eq_ok_iff.mp hc.terms) hi
    obtain ⟨p, hp, hpath⟩ := bind_eq_ok_iff.mp hnamed
    cases hpath
    refine ⟨k.fragment.item, (term.fragment p.fragment).sortTerm, ?_, ?_, ?_⟩
    · rw [List.map_map, List.getElem?_map, hk]
      rfl
    · rw [Target.Clauses.selection, List.getElem?_map, hg]
      rfl
    · rw [hitem k (List.mem_of_getElem? hk), (sortTerm_fragment term (.path p)).2]
      exact key_eq_sortExpr_iff hc hnames hhidden hterm hp hkey

/-- The cities of documents under a name of their own, the last ones first. -/
def byTown : Query :=
  { select := [{ column := "data->>city", label := some "town" }]
    order := [{ column := "town", descending := true }] }

def townPage : String :=
  "SELECT to_jsonb(_rows) - '_order_1' FROM (SELECT \"data\"->>'city' AS \"town\", " ++
    "\"data\"->>'city' AS \"_order_1\" FROM \"docs\" ORDER BY \"town\" DESC) AS _rows " ++
    "ORDER BY \"_order_1\" DESC"

theorem hiddenKey_eq_sortExpr_byTown :
    ({ table := "docs" } : Target).rows byTown = .ok ⟨townPage, []⟩ ∧ byTown.columnNames.Nodup ∧
    OrderTerm.Named byTown { column := "town", descending := true } ∧
    ∃ f inner sortTerm, ({ table := "docs" } : Target).rowsFragment byTown = .ok f ∧
      f.selection.inner? = some inner ∧ inner.order[0]? = some sortTerm ∧
      ∃ key ∈ inner.items, key.name? = some "_order_1" ∧
        key.expr = inner.sortExpr sortTerm.key := by
  have hpage : ({ table := "docs" } : Target).rows byTown = .ok ⟨townPage, []⟩ := by
    decide +kernel
  have hnames : byTown.columnNames.Nodup := by decide +kernel
  have hterm : OrderTerm.Named byTown { column := "town", descending := true } :=
    ⟨by decide +kernel, by decide +kernel⟩
  obtain ⟨f, inner, shown, hidden, hf, -, hresorts, -, -, hkeys⟩ :=
    hiddenKey_eq_sortExpr_iff hpage hnames
  obtain ⟨key, sortTerm, hhidden, horder, hkey⟩ := hkeys 0 _ rfl hterm
  have hmember : ¬byTown.ShowsMember "town" := fun h ↦ nomatch h.1
  have hitem : key ∈ inner.items := by
    rw [hresorts.items]
    exact List.mem_append_right _ (List.mem_of_getElem? hhidden)
  have hname : key.name? = some "_order_1" := by
    have hnumbered : (Request.rows byTown).orderNames = ["_order_1"] := by decide +kernel
    have hfirst := congrArg (·[0]?) hresorts.hidden_names
    simpa [hhidden, hnumbered] using hfirst
  exact ⟨hpage, hnames, hterm, f, inner, sortTerm, hf, hresorts.source, horder, key, hitem, hname,
    hkey.mpr hmember⟩

/-- The cities of documents, one row for each. -/
def byCity : Query := { groupBy := ["data->>city"], order := [{ column := "city" }] }

def cityPage : String :=
  "SELECT to_jsonb(_rows) - '_order_1' FROM (SELECT \"data\"->>'city' AS \"city\", " ++
    "\"city\" AS \"_order_1\" FROM \"docs\" GROUP BY \"data\"->>'city' " ++
    "ORDER BY \"city\" ASC) AS _rows ORDER BY \"_order_1\" ASC"

/-- The inner SELECT sorts by the member of the document, the page by a column of the table. -/
theorem hiddenKey_ne_sortExpr_byCity :
    ({ table := "docs" } : Target).rows byCity = .ok ⟨cityPage, []⟩ ∧ byCity.columnNames.Nodup ∧
    ((Selection.ofText? cityPage).bind Selection.inner?).map (fun inner ↦
      (inner.items.map Item.name?, inner.items[1]?.map Item.expr,
        inner.order[0]?.map fun term ↦ inner.sortExpr term.key)) =
      some ([some "city", some "_order_1"], some (textTokens "\"city\"".toList),
        some (textTokens "\"data\"->>'city'".toList)) := by
  decide +kernel

end RowGate
