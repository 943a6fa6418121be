import RowGate.Proofs.Sql.Expansion
import RowGate.Proofs.Sql.Placeholders

/-! # The SELECTs of the compiler

A query is read as a SELECT whose items, groups and terms are those that the query names, in their
order. The keys of a page follow its own items. What is read are the units of a fragment, in which a
placeholder is one token with its type; that the text of the statement is read alike is shown in
`Proofs/Sql/SelectText.lean`.
-/

namespace RowGate

open Sql (Token Item SortTerm Selection Nested IsClause leveled members membersBehindBy textTokens)

/-! ## Fragments without values -/

namespace Fragment

theorem tokens_fixed (k : Nat) (s : String) (f : Fragment) :
    tokens k (.fixed s :: f) = textTokens s.toList ++ tokens k f := rfl

/-- Where no value is bound, the number of the next placeholder does not matter. -/
theorem tokens_of_values {f : Fragment} (h : f.values = []) (k : Nat) :
    f.tokens k = f.tokens 0 := by
  induction f generalizing k with
  | nil => rfl
  | cons p ps ih =>
    cases p with
    | bound v type => cases h
    | fixed _ | name _ | key _ | number _ =>
      have hps : values ps = [] := h
      exact congrArg (_ ++ ·) (ih hps k)

/-- Text without values before another one. -/
theorem units_append_left {f : Fragment} (h : f.values = []) (g : Fragment) (k : Nat) :
    (f ++ g).units k = f.tokens 0 ++ g.units k := by
  rw [units_append, units_of_values h, h, List.length_nil, Nat.add_zero]

/-- Text without values behind another one. -/
theorem units_append_right (f : Fragment) {g : Fragment} (h : g.values = []) (k : Nat) :
    (f ++ g).units k = f.units k ++ g.tokens 0 := by
  rw [units_append, units_of_values h]

/-- Fragments without values are tokens of their own, with commas between them. -/
theorem tokens_join {fs : List Fragment} (h : ∀ f ∈ fs, f.values = []) (k : Nat) :
    (join ", " fs).tokens k = [.mark ','].intercalate (fs.map (tokens 0)) := by
  rw [join]
  induction fs generalizing k with
  | nil => rfl
  | cons f fs ih =>
    obtain ⟨hf, hfs⟩ := List.forall_mem_cons.mp h
    cases fs with
    | nil =>
      rw [List.intercalate_singleton, tokens_of_values hf, List.map_cons, List.map_nil,
        List.intercalate_singleton]
    | cons g fs =>
      rw [List.intercalate_cons_cons, tokens_append, tokens_append, ih hfs, tokens_of_values hf]
      simp only [List.map_cons, List.intercalate_cons_cons]
      rfl

/-- Without values a fragment has no types to take the tokens apart. -/
theorem Within.tokens {stops : List String} {f : Fragment} (h : f.Within stops)
    (hvalues : f.values = []) : Sql.Within stops (f.tokens 0) := units_of_values hvalues 0 ▸ h 0

/-- An expression as it stands in a list: no value is bound in it. -/
structure IsExpression (f : Fragment) : Prop where
  within : f.Within Sql.expressionStops
  values : f.values = []

namespace IsExpression

/-- An expression holds no word that ends it. -/
theorem unbroken {f : Fragment} (h : f.IsExpression) {stops : List String}
    (hstops : stops ⊆ Sql.expressionStops) : Sql.Unbroken stops (f.tokens 0) :=
  ((h.within.tokens h.values).mono hstops).unbroken

theorem path (p : ColumnPath) : p.fragment.IsExpression := ⟨.path p, values_path p⟩

/-- The call of an aggregation is an expression. -/
theorem call {a : Aggregation} {f : Fragment} (h : a.call = .ok f) : f.IsExpression := by
  refine ⟨.call h, ?_⟩
  obtain ⟨arg, harg, h⟩ := bind_eq_ok_iff.mp h
  cases h
  have hvalues : arg.values = [] := by
    rw [Aggregation.argument] at harg
    split at harg
    · cases harg
      rfl
    · cases harg
    · obtain ⟨p, -, harg⟩ := bind_eq_ok_iff.mp harg
      cases harg
      split
      · rw [values_append, values_paren, values_path]
        rfl
      · exact values_path p
  exact (values_paren arg).trans hvalues

end IsExpression

/-- What a list between commas is made of. -/
structure IsMember (stops : List String) (f : Fragment) : Prop where
  within : f.Within ("," :: stops)
  values : f.values = []

/-- A list behind its keyword; nothing without members. -/
def listClause (keyword : String) (fs : List Fragment) : Fragment :=
  if fs.isEmpty then [] else .fixed keyword :: join ", " fs

/-- The members of a list are found again between its commas. -/
theorem members_join {fs : List Fragment} (hne : fs ≠ []) {stops : List String}
    (h : ∀ f ∈ fs, f.IsMember stops) :
    members (leveled 0 ([.mark ','].intercalate (fs.map (tokens 0)))) =
      fs.map fun f ↦ leveled 0 (f.tokens 0) := by
  have hcomma : [","] ⊆ "," :: stops := List.cons_subset_cons _ (List.nil_subset _)
  rw [Sql.members_intercalate (by simpa using hne), List.map_map]
  · rfl
  · intro ts hts
    obtain ⟨f, hf, rfl⟩ := List.mem_map.mp hts
    exact (((h f hf).within.tokens (h f hf).values).mono hcomma).unbroken

theorem values_join_eq_nil {fs : List Fragment} (h : ∀ f ∈ fs, f.values = []) :
    (join ", " fs).values = [] := by
  rw [values_join, List.flatMap_eq_nil_iff]
  exact h

/-- A clause binds what its members bind, which is nothing. -/
theorem values_listClause (keyword : String) {fs : List Fragment} (h : ∀ f ∈ fs, f.values = []) :
    (listClause keyword fs).values = [] := by
  rw [listClause]
  split
  · rfl
  · exact values_join_eq_nil h

end Fragment

/-- The list behind `BY` is read as it was written. -/
theorem isClause_listClause (w : String) {later : List String} {s : List Char}
    (hs : String.ofList (Text.lower s) = w) (keyword : String)
    (hkeyword : textTokens keyword.toList = [.lexeme .word s, .lexeme .word "BY".toList])
    (hlater : Sql.isInnerText later ", " = true ∧ Sql.isInnerText later "BY" = true)
    {fs : List Fragment} (h : ∀ f ∈ fs, f.IsMember later) :
    ∃ body, IsClause w later ((Fragment.listClause keyword fs).tokens 0) body ∧
      membersBehindBy (leveled 0 body) = fs.map fun f ↦ leveled 0 (f.tokens 0) := by
  by_cases hne : fs = []
  · subst hne
    exact ⟨[], .missing, rfl⟩
  · have hvalues : ∀ f ∈ fs, f.values = [] := fun f hf ↦ (h f hf).values
    have hjoin : (Fragment.join ", " fs).Within later := by
      refine .join hlater.1 fun f hf ↦ (h f hf).within.mono (List.subset_cons_self _ _)
    have hby : Sql.Within later [.lexeme .word "BY".toList] := .of_all hlater.2
    refine ⟨.lexeme .word "BY".toList :: (Fragment.join ", " fs).tokens 0, ?_, ?_⟩
    · have htokens : (Fragment.listClause keyword fs).tokens 0 =
          .lexeme .word s :: ([.lexeme .word "BY".toList] ++ (Fragment.join ", " fs).tokens 0) := by
        rw [Fragment.listClause, if_neg (by simpa using hne), Fragment.tokens_fixed, hkeyword]
        rfl
      rw [htokens]
      exact .present hs (hby.append (hjoin.tokens (Fragment.values_join_eq_nil hvalues))).unbroken
    · rw [Sql.leveled_word, membersBehindBy, Fragment.tokens_join hvalues]
      exact Fragment.members_join hne h

/-- The SELECT that a fragment is read as. -/
def Fragment.selection (f : Fragment) : Selection := .ofTokens (f.units 0)

/-- A fragment that is a SELECT. -/
def Fragment.IsSelect (f : Fragment) : Prop := Sql.IsSelect (f.units 0) f.selection

/-- What is read from the units of a fragment is its selection. -/
theorem Sql.IsSelect.isSelect {f : Fragment} {s : Selection} (h : Sql.IsSelect (f.units 0) s) :
    f.IsSelect := by
  rw [Fragment.IsSelect, Fragment.selection, h.ofTokens_eq]
  exact h

/-! ## Items -/

/-- The item that a fragment of a select list is read as. -/
def Fragment.item (f : Fragment) : Item := .ofTokens (leveled 0 (f.tokens 0))

/-- The term that a fragment of ORDER BY is read as. -/
def Fragment.sortTerm (f : Fragment) : SortTerm := .ofTokens (leveled 0 (f.tokens 0))

namespace Fragment.IsExpression

variable {f : Fragment}

/-- An expression is a member of a select list. -/
theorem isMember (h : f.IsExpression) : f.IsMember Sql.clauseWords := by
  have hstops : "," :: Sql.clauseWords ⊆ Sql.expressionStops := by decide
  exact ⟨h.within.mono hstops, h.values⟩

/-- An expression by itself is an item without a name. -/
theorem item_eq (h : f.IsExpression) : f.item = ⟨f.tokens 0, []⟩ :=
  Item.ofTokens_expr (h.unbroken (by decide))

/-- An expression under a name. -/
theorem label (h : f.IsExpression) (i : Identifier) :
    Fragment.IsMember Sql.clauseWords (f ++ [Piece.fixed " AS ", Piece.name i]) ∧
      Fragment.item (f ++ [Piece.fixed " AS ", Piece.name i]) =
        ⟨f.tokens 0, [.quoted .name i.name.toList]⟩ := by
  have hname : Fragment.Within ("," :: Sql.clauseWords) [.fixed " AS ", .name i] :=
    (Fragment.Within.fixed (by decide)).append (.name i)
  refine ⟨⟨h.isMember.within.append hname, ?_⟩, ?_⟩
  · rw [values_append, h.values]
    rfl
  · rw [item, tokens_append]
    exact Item.ofTokens_label (h.unbroken (by decide))

end Fragment.IsExpression

theorem isExpression_everything : Fragment.IsExpression [.fixed "*"] := ⟨.fixed (by decide), rfl⟩

/-- A selected column stands for everything, or for its path under its output name. -/
theorem item_column {c : SelectColumn} {f : Fragment} (h : c.fragment = .ok f) :
    f.IsMember Sql.clauseWords ∧
      (c.isWildcard = true ∧ f.item = ⟨textTokens "*".toList, []⟩ ∨
        c.isWildcard = false ∧ ∃ p, readPath c.column = .ok p ∧ f.item.expr = p.fragment.tokens 0 ∧
          f.item.name? = some (c.label.getD p.outputName)) := by
  have haliased {p : ColumnPath} {label : String} (h : aliased p.fragment label = .ok f) :
      f.IsMember Sql.clauseWords ∧ f.item.expr = p.fragment.tokens 0 ∧
        f.item.name? = some label := by
    obtain ⟨i, hi, rfl⟩ := aliased_eq_ok_iff.mp h
    obtain ⟨hmember, hitem⟩ := (Fragment.IsExpression.path p).label i
    rw [hitem, ← readName_eq_ok_iff.mp hi]
    refine ⟨hmember, rfl, ?_⟩
    simp [Item.name?]
  rw [SelectColumn.fragment] at h
  split at h
  next hwildcard =>
    cases h
    exact ⟨isExpression_everything.isMember, .inl ⟨hwildcard, isExpression_everything.item_eq⟩⟩
  next hwildcard =>
    obtain ⟨p, hp, h⟩ := bind_eq_ok_iff.mp h
    have hplain : c.isWildcard = false := by simpa using hwildcard
    split at h
    next label hlabel =>
      obtain ⟨hmember, hexpr, hname⟩ := haliased h
      exact ⟨hmember, .inr ⟨hplain, p, hp, hexpr, by rw [hname, hlabel, Option.getD_some]⟩⟩
    next hlabel =>
      split at h
      · obtain ⟨hmember, hexpr, hname⟩ := haliased h
        exact ⟨hmember, .inr ⟨hplain, p, hp, hexpr, by rw [hname, hlabel, Option.getD_none]⟩⟩
      next hjson =>
        cases h
        have hpath := Fragment.IsExpression.path p
        have hsteps : p.steps = [] := by simpa [ColumnPath.isJson] using hjson
        refine ⟨hpath.isMember, .inr ⟨hplain, p, hp, by rw [hpath.item_eq], ?_⟩⟩
        rw [hpath.item_eq, hlabel]
        simp [ColumnPath.fragment, ColumnPath.outputName, hsteps, Fragment.tokens, Piece.tokens,
          Item.name?]

/-- An aggregate stands for its call under its output name. -/
theorem item_aggregation {a : Aggregation} {f : Fragment} (h : a.fragment = .ok f) :
    f.IsMember Sql.clauseWords ∧ ∃ call, a.call = .ok call ∧
      f.item = ⟨call.tokens 0, [.quoted .name a.outputAlias.toList]⟩ := by
  obtain ⟨call, hcall, h⟩ := bind_eq_ok_iff.mp h
  obtain ⟨i, hi, rfl⟩ := aliased_eq_ok_iff.mp h
  obtain ⟨hmember, hitem⟩ := (Fragment.IsExpression.call hcall).label i
  exact ⟨hmember, call, hcall, readName_eq_ok_iff.mp hi ▸ hitem⟩

/-- A term sorts by its key in its direction. -/
theorem sortTerm_fragment (t : OrderTerm) {key : Fragment} (h : key.IsExpression) :
    (t.fragment key).IsMember ["limit", "offset"] ∧
      (t.fragment key).sortTerm = ⟨key.tokens 0, textTokens t.direction.toList⟩ := by
  have hdirection : Sql.isInnerText [",", "limit", "offset"] t.direction = true ∧
      ∀ x ∈ (leveled 0 (textTokens t.direction.toList)).head?,
        Sql.breaksAt ["asc", "desc", "nulls"] x = true := by
    have hcases : ∀ (descending : Bool) (nulls : Option NullsOrder),
        Sql.isInnerText [",", "limit", "offset"] (OrderTerm.direction ⟨"", descending, nulls⟩) =
          true ∧
        ∀ x ∈ (leveled 0 (textTokens (OrderTerm.direction ⟨"", descending, nulls⟩).toList)).head?,
          Sql.breaksAt ["asc", "desc", "nulls"] x = true := by
      rintro (_ | _) (_ | _ | _) <;> decide
    exact hcases t.descending t.nulls
  have hstops : [",", "limit", "offset"] ⊆ Sql.expressionStops := by decide
  refine ⟨⟨(h.within.mono hstops).append (.fixed hdirection.1), ?_⟩, ?_⟩
  · rw [OrderTerm.fragment, Fragment.values_append, h.values]
    rfl
  · have htokens : (t.fragment key).tokens 0 = key.tokens 0 ++ textTokens t.direction.toList := by
      rw [OrderTerm.fragment, Fragment.tokens_append, Fragment.tokens_fixed]
      exact congrArg (_ ++ ·) (List.append_nil _)
    rw [Fragment.sortTerm, htokens]
    exact SortTerm.ofTokens_eq (h.unbroken (by decide)) hdirection.2

/-! ## Clauses -/

/-- The columns that a query shows before its aggregates. -/
def Query.shownColumns (q : Query) : List SelectColumn :=
  if q.isAggregate then
    if q.plainColumns.isEmpty then q.groupBy.map fun c ↦ { column := c } else q.plainColumns
  else if q.select.isEmpty then [{ column := "*" }]
  else q.select

/-- A term of ORDER BY as the query names it. -/
def OrderTerm.named (t : OrderTerm) : Except QueryError Fragment := do
  let p ← readPath t.column
  return t.fragment p.fragment

/-- A hidden key as it stands in a select list. -/
def HiddenKey.fragment (k : HiddenKey) : Fragment := k.expr ++ [.fixed " AS ", .name k.name]

variable {t : Target} {q : Query} {f : Fragment}

/-- Every query shows something. -/
theorem shownColumns_append_ne_nil (q : Query) :
    q.shownColumns ≠ [] ∨ q.aggregations ≠ [] := by
  by_cases haggregations : q.aggregations = []
  · refine .inl ?_
    rw [Query.shownColumns]
    split
    next haggregate =>
      split
      · have hgroupBy : q.groupBy ≠ [] := by
          simpa [Query.isAggregate, haggregations] using haggregate
        simpa using hgroupBy
      next hplain => simpa using hplain
    · split
      · exact List.cons_ne_nil _ _
      next hselect => simpa using hselect
  · exact .inr haggregations

/-- A select list has the columns that are shown, and then the aggregates. -/
theorem selectClause_eq_ok (h : selectClause q = .ok f) : ∃ columns calls,
    q.shownColumns.mapM SelectColumn.fragment = .ok columns ∧
      q.aggregations.mapM Aggregation.fragment = .ok calls ∧ columns ++ calls ≠ [] ∧
      f = Fragment.join ", " (columns ++ calls) := by
  have hne {columns calls : List Fragment}
      (hcolumns : q.shownColumns.mapM SelectColumn.fragment = .ok columns)
      (hcalls : q.aggregations.mapM Aggregation.fragment = .ok calls) : columns ++ calls ≠ [] := by
    rw [← List.length_pos_iff, List.length_append, length_eq_of_mapM hcolumns,
      length_eq_of_mapM hcalls]
    rcases shownColumns_append_ne_nil q with h | h
    · exact Nat.add_pos_left (List.length_pos_iff.mpr h) _
    · exact Nat.add_pos_right _ (List.length_pos_iff.mpr h)
  rw [selectClause] at h
  split at h
  next haggregate =>
    simp only [bind_eq_ok_iff, pure_eq_ok_iff] at h
    obtain ⟨columns, hcolumns, calls, hcalls, items, rfl, rfl⟩ := h
    have hshown : q.shownColumns.mapM SelectColumn.fragment = .ok columns := by
      rw [Query.shownColumns, if_pos haggregate]
      exact hcolumns
    have hitems := hne hshown hcalls
    exact ⟨columns, calls, hshown, hcalls, hitems, if_neg (by simpa using hitems)⟩
  next haggregate =>
    simp only [bind_eq_ok_iff, pure_eq_ok_iff] at h
    obtain ⟨items, hitems, rfl⟩ := h
    have hcalls : q.aggregations.mapM Aggregation.fragment = .ok [] := by
      have hnil : q.aggregations = [] := by
        simp only [Query.isAggregate, Bool.or_eq_true, Bool.not_eq_true', not_or,
          Bool.not_eq_false, List.isEmpty_iff] at haggregate
        exact haggregate.1
      rw [hnil]
      rfl
    -- Nothing selected stands for a wildcard.
    by_cases hselect : q.select = []
    · have hshown : q.shownColumns.mapM SelectColumn.fragment = .ok [[.fixed "*"]] := by
        rw [Query.shownColumns, if_neg haggregate, hselect]
        rfl
      rw [hselect] at hitems
      cases hitems
      exact ⟨[[.fixed "*"]], [], hshown, hcalls, hne hshown hcalls, rfl⟩
    · have hshown : q.shownColumns.mapM SelectColumn.fragment = .ok items := by
        rw [Query.shownColumns, if_neg haggregate, if_neg (by simpa using hselect)]
        exact hitems
      have hitems := hne hshown hcalls
      rw [List.append_nil] at hitems
      refine ⟨items, [], hshown, hcalls, hne hshown hcalls, ?_⟩
      rw [List.append_nil, if_neg (by simpa using hitems)]

/-- The clause names the paths that are read from its keys. -/
theorem groupByClause_eq_ok {columns : List String} (h : groupByClause columns = .ok f) :
    ∃ paths, columns.mapM readPath = .ok paths ∧
      f = Fragment.listClause " GROUP BY " (paths.map ColumnPath.fragment) := by
  rw [groupByClause] at h
  split at h
  next hcolumns =>
    cases h
    rw [List.isEmpty_iff.mp hcolumns]
    exact ⟨[], rfl, rfl⟩
  next hcolumns =>
    obtain ⟨paths, hpaths, h⟩ := bind_eq_ok_iff.mp h
    cases h
    have hne : paths ≠ [] := by
      rw [← List.length_pos_iff, length_eq_of_mapM hpaths, List.length_pos_iff]
      simpa using hcolumns
    exact ⟨paths, hpaths, (if_neg (by simpa using hne)).symm⟩

/-- The clause names its terms as they are read. -/
theorem orderByClause_eq_ok {order : List OrderTerm} (h : orderByClause order = .ok f) :
    ∃ terms, order.mapM OrderTerm.named = .ok terms ∧
      f = Fragment.listClause " ORDER BY " terms := by
  simp only [orderByClause, orderTerms, bind_eq_ok_iff, pure_eq_ok_iff] at h
  obtain ⟨_, ⟨terms, hterms, rfl⟩, rfl⟩ := h
  refine ⟨terms, hterms, ?_⟩
  have hempty : terms.isEmpty = order.isEmpty := by
    have hlength := length_eq_of_mapM hterms
    cases terms <;> cases order <;> simp_all
  rw [Fragment.listClause, hempty]

/-- A table binds nothing. -/
theorem Target.values_fragment (h : t.fragment = .ok f) : f.values = [] := by
  rcases fragment_cases h with ⟨i, rfl⟩ | ⟨s, i, rfl⟩
  · rfl
  · rfl

theorem Target.values_names (names : List Identifier) :
    (Fragment.join ", " (names.map fun i ↦ [Piece.name i])).values = [] := by
  refine Fragment.values_join_eq_nil fun f hf ↦ ?_
  obtain ⟨i, -, rfl⟩ := List.mem_map.mp hf
  rfl

/-- A table holds no keyword and no placeholder, and it is no SELECT in parentheses. -/
theorem unbroken_table (h : t.fragment = .ok f) :
    Sql.Unbroken ("where" :: Sql.conditionStops) (f.tokens 0) ∧
      (f.tokens 0).head? ≠ some (.mark '(') ∧ Sql.placeholders (f.tokens 0) = [] := by
  have hwithin := (Fragment.Within.tableFragment h).tokens (Target.values_fragment h)
  refine ⟨(hwithin.mono (by decide)).unbroken, ?_⟩
  rcases Target.fragment_cases h with ⟨i, rfl⟩ | ⟨s, i, rfl⟩
  · exact ⟨by simp [Fragment.tokens, Piece.tokens], rfl⟩
  · exact ⟨by simp [Fragment.tokens, Piece.tokens], rfl⟩

theorem tokens_from (f : Fragment) :
    Fragment.tokens 0 (.fixed " FROM " :: f) = .lexeme .word "FROM".toList :: f.tokens 0 := by
  have htext : textTokens " FROM ".toList = [.lexeme .word "FROM".toList] := by decide
  rw [Fragment.tokens_fixed, htext, List.singleton_append]

/-- A condition ends no clause but its own, and closes no parenthesis of others. -/
theorem isClause_whereClause {info : Option TableInfo} {cs : List Filter}
    (h : whereClause info cs = .ok f) :
    IsClause "where" Sql.conditionStops (f.units 0) (f.units 0).tail := by
  obtain ⟨-, rfl⟩ | ⟨condition, hcondition, rfl⟩ := whereClause_eq_ok_iff.mp h
  · exact .missing
  · exact .present (by decide) (within_whereFragment hcondition 0).unbroken

/-- GROUP BY is read as the columns that it was written for. -/
theorem isClause_groupByClause {columns : List String} (h : groupByClause columns = .ok f) :
    f.values = [] ∧ ∃ paths body, columns.mapM readPath = .ok paths ∧
      IsClause "group" ["order", "limit", "offset"] (f.tokens 0) body ∧
      (membersBehindBy (leveled 0 body)).map Sql.unleveled =
        paths.map fun p ↦ p.fragment.tokens 0 := by
  obtain ⟨paths, hpaths, rfl⟩ := groupByClause_eq_ok h
  have hmembers : ∀ f ∈ paths.map ColumnPath.fragment, f.IsMember ["order", "limit", "offset"] := by
    intro f hf
    obtain ⟨p, -, rfl⟩ := List.mem_map.mp hf
    have hstops : [",", "order", "limit", "offset"] ⊆ Sql.expressionStops := by decide
    exact ⟨(Fragment.Within.path p).mono hstops, values_path p⟩
  obtain ⟨body, hclause, hbody⟩ := isClause_listClause "group" (s := "GROUP".toList) (by decide)
    " GROUP BY " (by decide) (by decide) hmembers
  refine ⟨Fragment.values_listClause _ fun f hf ↦ (hmembers f hf).values, paths, body, hpaths,
    hclause, ?_⟩
  rw [hbody, List.map_map, List.map_map]
  exact List.map_congr_left fun p _ ↦ Sql.unleveled_leveled _ 0

/-- ORDER BY is read as the terms that it was written for. -/
theorem isClause_orderByClause {order : List OrderTerm} (h : orderByClause order = .ok f) :
    f.values = [] ∧ ∃ terms body, order.mapM OrderTerm.named = .ok terms ∧
      IsClause "order" ["limit", "offset"] (f.tokens 0) body ∧
      (membersBehindBy (leveled 0 body)).map SortTerm.ofTokens = terms.map Fragment.sortTerm := by
  obtain ⟨terms, hterms, rfl⟩ := orderByClause_eq_ok h
  have hmembers : ∀ f ∈ terms, f.IsMember ["limit", "offset"] := by
    intro f hf
    obtain ⟨term, -, hterm⟩ := exists_of_mem_mapM hterms hf
    obtain ⟨p, -, h⟩ := bind_eq_ok_iff.mp hterm
    cases h
    exact (sortTerm_fragment term (.path p)).1
  obtain ⟨body, hclause, hbody⟩ := isClause_listClause "order" (s := "ORDER".toList) (by decide)
    " ORDER BY " (by decide) (by decide) hmembers
  refine ⟨Fragment.values_listClause _ fun f hf ↦ (hmembers f hf).values, terms, body, hterms,
    hclause, ?_⟩
  rw [hbody, List.map_map]
  rfl

namespace Target

/-- The clauses of a query, member by member. -/
structure Clauses where
  columns : List Fragment
  calls : List Fragment
  table : Fragment
  condition : Fragment
  groups : List ColumnPath
  terms : List Fragment

namespace Clauses

structure Of (t : Target) (q : Query) (c : Clauses) : Prop where
  columns : q.shownColumns.mapM SelectColumn.fragment = .ok c.columns
  calls : q.aggregations.mapM Aggregation.fragment = .ok c.calls
  table : t.fragment = .ok c.table
  condition : whereClause t.info q.filters = .ok c.condition
  groups : q.groupingKeys.mapM readPath = .ok c.groups
  terms : q.order.mapM OrderTerm.named = .ok c.terms

/-- The items of a select list with hidden keys behind it. -/
def items (c : Clauses) (hidden : List HiddenKey) : List Fragment :=
  c.columns ++ c.calls ++ hidden.map HiddenKey.fragment

/-- The SELECT of a query with hidden keys. -/
def selection (c : Clauses) (q : Query) (hidden : List HiddenKey) : Selection where
  items := (c.items hidden).map Fragment.item
  source := c.table.tokens 0
  condition := (c.condition.units 0).tail
  groups := c.groups.map fun p ↦ p.fragment.tokens 0
  order := c.terms.map Fragment.sortTerm
  page := (pageClause q).tokens 0

variable {c : Clauses} {hidden : List HiddenKey}

/-- Whatever stands in a select list holds no keyword of a clause. -/
theorem Of.isMember_items (hc : c.Of t q) (hhidden : ∀ k ∈ hidden, k.expr.IsExpression) :
    ∀ f ∈ c.items hidden, f.IsMember Sql.clauseWords := by
  intro f hf
  rcases List.mem_append.mp hf with hf | hf
  · rcases List.mem_append.mp hf with hf | hf
    · obtain ⟨col, -, hcol⟩ := exists_of_mem_mapM hc.columns hf
      exact (item_column hcol).1
    · obtain ⟨a, -, ha⟩ := exists_of_mem_mapM hc.calls hf
      exact (item_aggregation ha).1
  · obtain ⟨k, hk, rfl⟩ := List.mem_map.mp hf
    exact ((hhidden k hk).label k.name).1

end Clauses

/-- LIMIT and OFFSET each stand there with a number or not at all. -/
theorem pageClause_cases (q : Query) : ∃ limit offset : Fragment, pageClause q = limit ++ offset ∧
    (limit = [] ∨ ∃ n, limit = [.fixed " LIMIT ", .number n]) ∧
    (offset = [] ∨ ∃ n, offset = [.fixed " OFFSET ", .number n]) := by
  refine ⟨_, _, rfl, ?_, ?_⟩
  · cases q.limit with
    | none => exact .inl rfl
    | some n => exact .inr ⟨_, rfl⟩
  · cases q.offset with
    | none => exact .inl rfl
    | some n =>
      simp only
      split
      · exact .inr ⟨_, rfl⟩
      · exact .inl rfl

/-- The limit and the offset stand last, and begin with their keywords. -/
theorem pageClause_spec (q : Query) : (pageClause q).values = [] ∧
    Nested ((pageClause q).tokens 0) ∧
    Sql.Begins ["limit", "offset"] (leveled 0 ((pageClause q).tokens 0)) := by
  obtain ⟨limit, offset, hpage, hlimit, hoffset⟩ := pageClause_cases q
  have hwithin : (pageClause q).Within [] := by
    rw [hpage]
    refine Fragment.Within.append ?_ ?_
    · rcases hlimit with rfl | ⟨n, rfl⟩
      · exact .nil
      · exact (Fragment.Within.fixed (by decide)).append (.number n)
    · rcases hoffset with rfl | ⟨n, rfl⟩
      · exact .nil
      · exact (Fragment.Within.fixed (by decide)).append (.number n)
  have hvalues : (pageClause q).values = [] := by
    rw [hpage]
    rcases hlimit with rfl | ⟨n, rfl⟩ <;> rcases hoffset with rfl | ⟨m, rfl⟩ <;> rfl
  refine ⟨hvalues, (hwithin.tokens hvalues).nested, fun x hx ↦ ?_⟩
  rw [hpage] at hx
  rcases hlimit with rfl | ⟨n, rfl⟩
  · rcases hoffset with rfl | ⟨m, rfl⟩
    · cases hx
    · obtain rfl := Option.some.inj hx
      decide
  · obtain rfl := Option.some.inj hx
    decide

/-- A longer list has the separator before each of the members that it has more. -/
theorem intercalate_cons_append {α : Type} (sep a : List α) (xs ys : List (List α)) :
    sep.intercalate (a :: xs ++ ys) = sep.intercalate (a :: xs) ++ ys.flatMap (sep ++ ·) := by
  have hcons (zs : List (List α)) (a : List α) :
      sep.intercalate (a :: zs) = a ++ zs.flatMap (sep ++ ·) := by
    induction zs generalizing a with
    | nil => simp
    | cons z zs ih => rw [List.intercalate_cons_cons, ih, List.flatMap_cons, List.append_assoc,
        List.append_assoc]
  rw [List.cons_append, hcons, hcons, List.flatMap_append, List.append_assoc]

/-- The hidden keys are further items. -/
theorem join_append_hiddenItems {items : List Fragment} (hne : items ≠ [])
    (hidden : List HiddenKey) : Fragment.join ", " items ++ SelectParts.hiddenItems hidden =
      Fragment.join ", " (items ++ hidden.map HiddenKey.fragment) := by
  obtain ⟨item, items, rfl⟩ := List.exists_cons_of_ne_nil hne
  rw [Fragment.join, Fragment.join, intercalate_cons_append, List.flatMap_map]
  rfl

namespace SelectParts

variable {s : SelectParts} {hidden : List HiddenKey} {items : Fragment}

/-- A SELECT is its clauses, one behind the other. -/
theorem fragment_eq_append (hitems : s.items ++ hiddenItems hidden = items) :
    s.fragment q hidden = (.fixed "SELECT " :: items) ++
      ((.fixed " FROM " :: s.table) ++
        (s.condition ++ (s.groups ++ (s.order ++ pageClause q)))) := by
  rw [fragment, ← hitems]
  simp only [List.append_assoc, List.cons_append]

/-- Only the condition of a SELECT binds values. -/
theorem units_fragment (hitems : s.items ++ hiddenItems hidden = items)
    (hitemValues : items.values = []) (htable : s.table.values = [])
    (hgroups : s.groups.values = []) (horder : s.order.values = []) :
    (s.fragment q hidden).values = s.condition.values ∧ (s.fragment q hidden).units 0 =
      Fragment.tokens 0 (.fixed "SELECT " :: items) ++
        (.lexeme .word "FROM".toList :: s.table.tokens 0 ++ (s.condition.units 0 ++
          (s.groups.tokens 0 ++ (s.order.tokens 0 ++ (pageClause q).tokens 0)))) := by
  have hselect : Fragment.values (.fixed "SELECT " :: items) = [] := hitemValues
  have hfrom : Fragment.values (.fixed " FROM " :: s.table) = [] := htable
  have hpage := (pageClause_spec q).1
  have hlast : (s.order ++ pageClause q).values = [] := by
    rw [Fragment.values_append, horder, hpage, List.append_nil]
  have hrest : (s.groups ++ (s.order ++ pageClause q)).values = [] := by
    rw [Fragment.values_append, hgroups, hlast, List.append_nil]
  rw [fragment_eq_append hitems]
  constructor
  · rw [Fragment.values_append, Fragment.values_append, Fragment.values_append, hselect, hfrom,
      hrest, List.append_nil, List.nil_append, List.nil_append]
  · rw [Fragment.units_append_left hselect, Fragment.units_append_left hfrom, tokens_from,
      Fragment.units_append_right _ hrest, Fragment.tokens_append,
      Fragment.tokens_of_values hlast, Fragment.tokens_append, Fragment.tokens_of_values hpage]

/-- The clauses around the condition have no placeholders. -/
theorem placeholders_clauses {V : Vocabulary} (hitems : s.items ++ hiddenItems hidden = items)
    (hV : ∀ p ∈ s.fragment q hidden, V.Has p) (hitemValues : items.values = [])
    (htable : s.table.values = []) (hgroups : s.groups.values = [])
    (horder : s.order.values = []) :
    Sql.placeholders (Fragment.tokens 0 (.fixed "SELECT " :: items) ++
      (s.table.tokens 0 ++ (s.groups.tokens 0 ++ (s.order.tokens 0 ++
        (pageClause q).tokens 0)))) = [] := by
  rw [fragment_eq_append hitems] at hV
  simp only [List.forall_mem_append] at hV
  obtain ⟨hselectHas, hfromHas, -, hgroupsHas, horderHas, hpageHas⟩ := hV
  have htableHas := (List.forall_mem_cons.mp hfromHas).2
  have hselect : Fragment.values (.fixed "SELECT " :: items) = [] := hitemValues
  simp only [Sql.placeholders_append, Fragment.placeholders_of_values hselectHas hselect,
    Fragment.placeholders_of_values htableHas htable,
    Fragment.placeholders_of_values hgroupsHas hgroups,
    Fragment.placeholders_of_values horderHas horder,
    Fragment.placeholders_of_values hpageHas (pageClause_spec q).1, List.append_nil]

end SelectParts

/-- The SELECT of a query with hidden keys is read clause by clause. -/
theorem isSelect_selectWith {V : Vocabulary} {hidden : List HiddenKey}
    (hhidden : ∀ k ∈ hidden, k.expr.IsExpression) (hV : ∀ p ∈ f, V.Has p)
    (h : t.selectWith q hidden = .ok f) :
    ∃ c : Clauses, c.Of t q ∧ f.values = c.condition.values ∧
      Sql.IsSelect (f.units 0) (c.selection q hidden) := by
  obtain ⟨-, -, s, hs, rfl⟩ := selectWith_eq_ok_iff.mp h
  obtain ⟨columns, calls, hcolumns, hcalls, hne, hitems⟩ := selectClause_eq_ok hs.items
  obtain ⟨hgroupValues, paths, groups, hpaths, hgroup, hgroups⟩ := isClause_groupByClause hs.groups
  obtain ⟨horderValues, terms, order, hterms, horder, hterm⟩ := isClause_orderByClause hs.order
  let c : Clauses := ⟨columns, calls, s.table, s.condition, paths, terms⟩
  have hc : c.Of t q := ⟨hcolumns, hcalls, hs.table, hs.condition, hpaths, hterms⟩
  refine ⟨c, hc, ?_⟩
  -- the select list, with the hidden keys behind it
  have hmembers := hc.isMember_items hhidden
  have hvalues : (Fragment.join ", " (c.items hidden)).values = [] :=
    Fragment.values_join_eq_nil fun f hf ↦ (hmembers f hf).values
  have hselect : IsClause "select" Sql.clauseWords
      (Fragment.tokens 0 (.fixed "SELECT " :: Fragment.join ", " (c.items hidden)))
      ((Fragment.join ", " (c.items hidden)).tokens 0) := by
    have hjoin : (Fragment.join ", " (c.items hidden)).Within Sql.clauseWords :=
      .join (by decide) fun f hf ↦ (hmembers f hf).within.mono (List.subset_cons_self _ _)
    exact .present (by decide) (hjoin.tokens hvalues).unbroken
  have hlist : members (leveled 0 ((Fragment.join ", " (c.items hidden)).tokens 0)) =
      (c.items hidden).map fun f ↦ leveled 0 (f.tokens 0) := by
    rw [Fragment.tokens_join fun f hf ↦ (hmembers f hf).values]
    exact Fragment.members_join (List.append_ne_nil_of_left_ne_nil hne _) hmembers
  have hitemTokens : s.items ++ SelectParts.hiddenItems hidden =
      Fragment.join ", " (c.items hidden) := by
    rw [hitems, join_append_hiddenItems hne]
    rfl
  -- the clauses behind it
  obtain ⟨hsource, htable, -⟩ := unbroken_table hs.table
  obtain ⟨-, hpageNested, hpage⟩ := pageClause_spec q
  have htableValues := values_fragment hs.table
  obtain ⟨hconditionValues, hunits⟩ := SelectParts.units_fragment (q := q) hitemTokens hvalues
    htableValues hgroupValues horderValues
  have hplain := SelectParts.placeholders_clauses hitemTokens hV hvalues htableValues hgroupValues
    horderValues
  have hread := Sql.IsSelect.table hselect hsource (isClause_whereClause hs.condition) hgroup horder
    hpageNested hpage htable hplain
  rw [hlist, hgroups, hterm, List.map_map, ← hunits] at hread
  exact ⟨hconditionValues, hread⟩

/-- The SELECT of a query is read clause by clause. -/
theorem selection_selectFragment (h : t.selectFragment q = .ok f) :
    ∃ c : Clauses, c.Of t q ∧ f.values = c.condition.values ∧ f.selection = c.selection q [] := by
  have hfits := fits_fragmentOf (t := t) (r := .select q) h
  obtain ⟨c, hc, hvalues, hselect⟩ := isSelect_selectWith (List.forall_mem_nil _) hfits.has h
  exact ⟨c, hc, hvalues, hselect.ofTokens_eq⟩

end Target

end RowGate
