import RowGate.Proofs.Sql.Reading

/-! # The names of output columns

ORDER BY finds an output column by its name. The items of a SELECT have the names that the query
gives its columns and aggregates, and what is found under such a name is the column or the aggregate
that the query itself finds under it.
-/

namespace RowGate

open Sql (Token Item SortTerm Selection Nested IsClause Within textTokens)

namespace Sql

/-- The expression of the first item of a name. -/
def outputExpr? (items : List Item) (name : String) : Option (List Token) :=
  (items.find? fun item ↦ item.name? = some name).map Item.expr

variable {items : List Item} {name : String}

/-- The first item of a name is what the name stands for. -/
theorem outputExpr?_cons (item : Item) (items : List Item) (name : String) :
    outputExpr? (item :: items) name =
      if item.name? = some name then some item.expr else outputExpr? items name := by
  rw [outputExpr?, List.find?_cons]
  split
  next h => rw [if_pos (of_decide_eq_true h), Option.map_some]
  next h =>
    rw [if_neg (of_decide_eq_false h)]
    rfl

theorem outputExpr?_append (items others : List Item) (name : String) :
    outputExpr? (items ++ others) name =
      (outputExpr? items name).or (outputExpr? others name) := by
  rw [outputExpr?, List.find?_append, Option.map_or]
  rfl

/-- A name stands for nothing if no item has it. -/
theorem outputExpr?_eq_none_iff :
    outputExpr? items name = none ↔ name ∉ items.filterMap Item.name? := by
  rw [outputExpr?, Option.map_eq_none_iff, List.find?_eq_none, List.mem_filterMap]
  simp

/-- A bare name sorts by the output column of that name. -/
theorem Selection.sortExpr_name (s : Selection) (name : String) :
    s.sortExpr [.quoted .name name.toList] =
      (outputExpr? s.items name).getD [.quoted .name name.toList] := by
  rw [sortExpr, outputExpr?, String.ofList_toList]
  cases s.items.find? fun item ↦ item.name? = some name with
  | none => rfl
  | some item => rfl

/-- Any other expression sorts by itself. -/
theorem Selection.sortExpr_of_ne (s : Selection) {key : List Token}
    (h : ∀ name, key ≠ [.quoted .name name]) : s.sortExpr key = key := by
  unfold sortExpr
  split
  next name => exact absurd rfl (h name)
  next => rfl

/-- Of items whose names differ, each is found by its name. -/
theorem outputExpr?_eq_some_iff (hitems : (items.filterMap Item.name?).Nodup) {expr : List Token} :
    outputExpr? items name = some expr ↔
      ∃ item ∈ items, item.name? = some name ∧ item.expr = expr := by
  constructor
  · intro h
    obtain ⟨item, hitem, hexpr⟩ := Option.map_eq_some_iff.mp h
    have hname := List.find?_some hitem
    exact ⟨item, List.mem_of_find?_eq_some hitem, of_decide_eq_true hname, hexpr⟩
  · rintro ⟨item, hitem, hname, rfl⟩
    induction items with
    | nil => cases hitem
    | cons first items ih =>
      rw [outputExpr?_cons]
      rcases List.mem_cons.mp hitem with rfl | hitem
      · rw [if_pos hname]
      · have hother : first.name? ≠ some name := by
          intro hfirst
          rw [List.filterMap_cons_some hfirst, List.nodup_cons] at hitems
          exact hitems.1 (List.mem_filterMap.mpr ⟨item, hitem, hname⟩)
        rw [if_neg hother]
        have hsublist := List.sublist_cons_self first items
        exact ih (hitems.sublist (hsublist.filterMap Item.name?)) hitem

end Sql

/-! ## The names of output columns -/

/-- The name of the output column, if it is one. -/
def SelectColumn.outputName? (c : SelectColumn) : Option String :=
  if c.isWildcard then none
  else match c.label with
    | some label => some label
    | none => (readPath c.column).toOption.map ColumnPath.outputName

/-- The names of the columns and the aggregates that a query shows. -/
def Query.columnNames (q : Query) : List String :=
  q.shownColumns.filterMap SelectColumn.outputName? ++ q.aggregations.map Aggregation.outputAlias

variable {t : Target} {q : Query} {f : Fragment} {name : String}

/-- A selected column is shown under its output name. -/
theorem SelectColumn.name?_item {c : SelectColumn} (h : c.fragment = .ok f) :
    f.item.name? = c.outputName? := by
  rw [outputName?]
  rcases (item_column h).2 with ⟨hwildcard, hitem⟩ | ⟨hplain, p, hp, -, hname⟩
  · rw [if_pos hwildcard, hitem]
    rfl
  · rw [if_neg (Bool.eq_false_iff.mp hplain), hname]
    cases c.label with
    | some label => rfl
    | none =>
      rw [hp]
      rfl

/-- The names that are read from selected columns are their output names. -/
theorem filterMap_columns {columns : List SelectColumn} {fs : List Fragment}
    (h : columns.mapM SelectColumn.fragment = .ok fs) :
    (fs.map Fragment.item).filterMap Item.name? = columns.filterMap SelectColumn.outputName? := by
  replace h := mapM_eq_ok_iff.mp h
  induction h with
  | nil => rfl
  | cons hc _ ih => rw [List.map_cons, List.filterMap_cons, SelectColumn.name?_item hc, ih,
      List.filterMap_cons]

/-- The names that are read from aggregates are their output names. -/
theorem filterMap_calls {aggregations : List Aggregation} {fs : List Fragment}
    (h : aggregations.mapM Aggregation.fragment = .ok fs) :
    (fs.map Fragment.item).filterMap Item.name? = aggregations.map Aggregation.outputAlias := by
  replace h := mapM_eq_ok_iff.mp h
  induction h with
  | nil => rfl
  | cons ha _ ih =>
    obtain ⟨-, call, -, hitem⟩ := item_aggregation ha
    rw [List.map_cons, hitem]
    simp [Item.name?, ih]

/-- The selected column of a name is found as the first item of that name. -/
theorem outputExpr?_columns {columns : List SelectColumn} {fs : List Fragment}
    (h : columns.mapM SelectColumn.fragment = .ok fs) {found : Option Fragment}
    (hfound : findOutput name (columns.filter fun c ↦ !c.isWildcard) = .ok found) :
    Sql.outputExpr? (fs.map Fragment.item) name = found.map (Fragment.tokens 0) := by
  replace h := mapM_eq_ok_iff.mp h
  induction h generalizing found with
  | nil =>
    cases hfound
    rfl
  | @cons c f columns fs hc _ ih =>
    rw [List.map_cons, Sql.outputExpr?_cons]
    rcases (item_column hc).2 with ⟨hwildcard, hitem⟩ | ⟨hplain, p, hp, hexpr, hname⟩
    · have hnone : Item.name? ⟨textTokens "*".toList, []⟩ ≠ some name := fun h ↦ nomatch h
      rw [List.filter_cons_of_neg (by simp [hwildcard])] at hfound
      rw [hitem, if_neg hnone]
      exact ih hfound
    · rw [List.filter_cons_of_pos (by simp [hplain]), findOutput] at hfound
      obtain ⟨p', hp', hfound⟩ := bind_eq_ok_iff.mp hfound
      obtain rfl := eq_of_ok hp hp'
      rw [hname, hexpr]
      split at hfound
      next heq =>
        rw [if_pos (congrArg some heq), pure_eq_ok_iff.mp hfound]
        rfl
      next hne =>
        rw [if_neg fun h ↦ hne (Option.some.inj h)]
        exact ih hfound

/-- The aggregate of a name is found as the first item of that name. -/
theorem outputExpr?_calls (name : String) {aggregations : List Aggregation} {fs : List Fragment}
    (h : aggregations.mapM Aggregation.fragment = .ok fs) :
    (∀ a, (aggregations.find? fun a ↦ a.outputAlias = name) = some a → ∃ call, a.call = .ok call ∧
      Sql.outputExpr? (fs.map Fragment.item) name = some (call.tokens 0)) ∧
    ((aggregations.find? fun a ↦ a.outputAlias = name) = none →
      Sql.outputExpr? (fs.map Fragment.item) name = none) := by
  replace h := mapM_eq_ok_iff.mp h
  induction h with
  | nil =>
    refine ⟨fun a ha ↦ ?_, fun _ ↦ rfl⟩
    cases ha
  | @cons a f aggregations fs ha _ ih =>
    obtain ⟨-, call, hcall, hitem⟩ := item_aggregation ha
    have hname : f.item.name? = some a.outputAlias := by
      rw [hitem]
      simp [Item.name?]
    by_cases heq : a.outputAlias = name
    · have hfind : (a :: aggregations).find? (fun a ↦ a.outputAlias = name) = some a :=
        List.find?_cons_of_pos (by simpa using heq)
      rw [hfind, List.map_cons, Sql.outputExpr?_cons, hname, if_pos (congrArg some heq), hitem]
      refine ⟨fun b hb ↦ ?_, fun h ↦ ?_⟩
      · obtain rfl := Option.some.inj hb
        exact ⟨call, hcall, rfl⟩
      · cases h
    · have hfind : (a :: aggregations).find? (fun a ↦ a.outputAlias = name) =
          aggregations.find? fun a ↦ a.outputAlias = name :=
        List.find?_cons_of_neg (by simpa using heq)
      rw [hfind, List.map_cons, Sql.outputExpr?_cons, hname,
        if_neg fun h ↦ heq (Option.some.inj h)]
      exact ih

/-! ## The columns that a query shows -/

/-- A query with a key has groups. -/
theorem Query.isAggregate_of_groupBy {raw : String} (h : raw ∈ q.groupBy) :
    q.isAggregate = true := by
  have hne : q.groupBy ≠ [] := List.ne_nil_of_mem h
  simp [isAggregate, hne]

/-- Where a query groups and selects no columns, it shows its groups. -/
theorem Query.shownColumns_of_nil (haggregate : q.isAggregate = true) (h : q.plainColumns = []) :
    q.shownColumns = q.groupBy.map fun raw ↦ { column := raw } := by
  rw [shownColumns, if_pos haggregate, if_pos (by rw [h]; rfl)]

/-- Otherwise it shows no columns but those that it selects. -/
theorem Query.filter_shownColumns (h : ¬(q.isAggregate = true ∧ q.plainColumns = [])) :
    (q.shownColumns.filter fun c ↦ !c.isWildcard) = q.plainColumns := by
  rw [shownColumns]
  split
  next haggregate =>
    rw [if_neg fun hempty ↦ h ⟨haggregate, List.isEmpty_iff.mp hempty⟩, plainColumns,
      List.filter_filter]
    simp only [Bool.and_self]
  next haggregate =>
    split
    next hselect =>
      rw [plainColumns, List.isEmpty_iff.mp hselect]
      rfl
    next => rfl

/-- A column by itself keeps its name. -/
theorem ColumnPath.outputName_of_bare {p : ColumnPath} (h : p.isJson = false) :
    p.outputName = p.column.name := by
  have hsteps : p.steps = [] := by simpa [isJson] using h
  rw [outputName, hsteps]
  rfl

/-- A column by itself is its quoted name. -/
theorem ColumnPath.tokens_of_bare {p : ColumnPath} (h : p.isJson = false) :
    p.fragment.tokens 0 = [.quoted .name p.column.name.toList] := by
  have hsteps : p.steps = [] := by simpa [isJson] using h
  rw [fragment, hsteps]
  rfl

/-- A path into a document is more than a quoted name. -/
theorem ColumnPath.tokens_ne_name {p : ColumnPath} (h : p.isJson = true) (s : List Char) :
    p.fragment.tokens 0 ≠ [.quoted .name s] := by
  have hne : p.steps ≠ [] := by simpa [isJson] using h
  obtain ⟨step, steps, hsteps⟩ := List.exists_cons_of_ne_nil hne
  have haccessor : textTokens step.accessor.sql.toList ≠ [] := by
    cases step.accessor <;> decide
  rw [fragment, hsteps, List.flatMap_cons]
  intro heq
  have hrest : textTokens step.accessor.sql.toList ++ _ = [] := (List.cons.inj heq).2
  exact haccessor (List.append_eq_nil_iff.mp hrest).1

/-- A path into a document is no wildcard. -/
theorem isWildcard_of_isJson {raw : String} {p : ColumnPath} (hp : readPath raw = .ok p)
    (hjson : p.isJson = true) : SelectColumn.isWildcard { column := raw } = false := by
  refine decide_eq_false ?_
  rintro rfl
  have hstar : (readPath "*").toOption.map ColumnPath.isJson = some false := by decide
  rw [hp] at hstar
  cases hjson.symm.trans (Option.some.inj hstar)

end RowGate
