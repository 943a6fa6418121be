import RowGate.Proofs.Sql.Compiler
import RowGate.Proofs.Sql.Reference

/-! # Clauses in their places

The clauses of a query are fragments over the names and the keys of the query.
-/

namespace RowGate

/-- The name of an output column: its alias, or one that its reference suggests. -/
def SelectColumn.labels (c : SelectColumn) : List String :=
  match c.label with
  | some label => [label]
  | none => defaultLabels c.column

/-- All references of a query to columns. -/
def Query.columns (q : Query) : List String :=
  q.select.map (·.column) ++ q.filters.map (·.column) ++ q.order.map (·.column) ++
    q.aggregations.filterMap (·.column) ++ q.groupBy

/-- The names that a query gives to output columns. -/
def Query.labels (q : Query) : List String :=
  q.select.flatMap SelectColumn.labels ++ q.groupBy.flatMap defaultLabels ++
    q.aggregations.map Aggregation.outputAlias

/-- The references and the output names of a query are in the vocabulary. -/
structure Vocabulary.HasQuery (V : Vocabulary) (q : Query) : Prop where
  columns : ∀ raw ∈ q.columns, V.HasReference raw
  labels : ∀ label ∈ q.labels, label ∈ V.names

variable {V : Vocabulary} {q : Query} {f : Fragment}

namespace Vocabulary.HasQuery

/-- A selected column refers to the vocabulary and is named from it. -/
theorem select (h : V.HasQuery q) {c : SelectColumn} (hc : c ∈ q.select) :
    V.HasReference c.column ∧ ∀ label ∈ c.labels, label ∈ V.names := by
  refine ⟨h.columns _ ?_, fun label hlabel ↦ h.labels _ ?_⟩
  · simp only [Query.columns, List.mem_append, List.mem_map]
    exact .inl (.inl (.inl (.inl ⟨c, hc, rfl⟩)))
  · simp only [Query.labels, List.mem_append, List.mem_flatMap]
    exact .inl (.inl ⟨c, hc, hlabel⟩)

theorem order (h : V.HasQuery q) {t : OrderTerm} (ht : t ∈ q.order) : V.HasReference t.column := by
  refine h.columns _ ?_
  simp only [Query.columns, List.mem_append, List.mem_map]
  exact .inl (.inl (.inr ⟨t, ht, rfl⟩))

theorem filters (h : V.HasQuery q) {g : Filter} (hg : g ∈ q.filters) : V.HasReference g.column := by
  refine h.columns _ ?_
  simp only [Query.columns, List.mem_append, List.mem_map]
  exact .inl (.inl (.inl (.inr ⟨g, hg, rfl⟩)))

/-- The argument of an aggregation refers to the vocabulary, and its alias is a name of it. -/
theorem aggregation (h : V.HasQuery q) {a : Aggregation} (ha : a ∈ q.aggregations) :
    (∀ raw ∈ a.column, V.HasReference raw) ∧ a.outputAlias ∈ V.names := by
  refine ⟨fun raw hraw ↦ h.columns _ ?_, h.labels _ ?_⟩
  · simp only [Query.columns, List.mem_append, List.mem_filterMap]
    exact .inl (.inr ⟨a, ha, hraw⟩)
  · simp only [Query.labels, List.mem_append, List.mem_map]
    exact .inr ⟨a, ha, rfl⟩

/-- A key refers to the vocabulary, as do the names that it suggests for its column. -/
theorem groupBy (h : V.HasQuery q) {raw : String} (hraw : raw ∈ q.groupBy) :
    V.HasReference raw ∧ ∀ label ∈ defaultLabels raw, label ∈ V.names := by
  refine ⟨h.columns _ (List.mem_append_right _ hraw), fun label hlabel ↦ h.labels _ ?_⟩
  simp only [Query.labels, List.mem_append, List.mem_flatMap]
  exact .inl (.inr ⟨raw, hraw, hlabel⟩)

end Vocabulary.HasQuery

/-! ## The select list -/

/-- An expression with a name of the vocabulary behind `AS`. -/
theorem fits_aliased {expr : Fragment} {label : String} (h : aliased expr label = .ok f)
    (hexpr : Fits V .free .outside expr) (hlabel : label ∈ V.names) : Fits V .free .outside f := by
  obtain ⟨i, hi, rfl⟩ := aliased_eq_ok_iff.mp h
  have has : Fits V .outside .free [.fixed " AS "] := .fixed (by decide)
  have hname : Fits V .free .outside [.name i] := (fits_readName hi hlabel).mono rfl rfl
  exact hexpr.append (has.append hname)

theorem fits_everything : Fits V .free .outside [.fixed "*"] := .fixed (by decide)

/-- An item of the select list is a star, a path, or a path with a name. -/
theorem fits_selectColumn {c : SelectColumn} (h : c.fragment = .ok f)
    (hc : V.HasReference c.column) (hlabels : ∀ label ∈ c.labels, label ∈ V.names) :
    Fits V .free .outside f := by
  rw [SelectColumn.fragment] at h
  split at h
  · cases h
    exact fits_everything
  · obtain ⟨p, hp, h⟩ := bind_eq_ok_iff.mp h
    have hpath : Fits V .free .outside p.fragment := (fits_path hp hc).mono rfl rfl
    rw [SelectColumn.labels] at hlabels
    split at h
    next label hlabel =>
      rw [hlabel] at hlabels
      exact fits_aliased h hpath (hlabels label List.mem_cons_self)
    next hlabel =>
      rw [hlabel] at hlabels
      split at h
      next hjson => exact fits_aliased h hpath (hlabels _ (outputName_mem hp hjson))
      next =>
        cases h
        exact hpath

/-- The cast ends in a word, which what follows has to end. -/
theorem fits_castNumeric (h : Fits V .free .outside f) :
    Fits V .outside .settled (castNumeric f) := by
  have hcast : Fits V .free .settled [.fixed "::numeric"] := .fixed (by decide)
  exact h.paren.append hcast

/-- The argument of a call is a star or a path, which arithmetic may cast to a number. -/
theorem fits_argument {a : Aggregation} (h : a.argument = .ok f)
    (ha : ∀ raw ∈ a.column, V.HasReference raw) : Fits V .free .outside f := by
  rw [Aggregation.argument] at h
  split at h
  next =>
    cases h
    exact fits_everything
  next => cases h
  next raw hraw _ =>
    obtain ⟨p, hp, h⟩ := bind_eq_ok_iff.mp h
    cases h
    have hpath : Fits V .free .outside p.fragment := (fits_path hp (ha raw hraw)).mono rfl rfl
    split
    · exact (fits_castNumeric hpath).mono rfl rfl
    · exact hpath

/-- The name of a function opens the expression, and its argument stands in parentheses. -/
theorem fits_call {a : Aggregation} (h : a.call = .ok f)
    (ha : ∀ raw ∈ a.column, V.HasReference raw) : Fits V .free .outside f := by
  obtain ⟨arg, harg, h⟩ := bind_eq_ok_iff.mp h
  cases h
  have hname : Fits V .free .outside [.fixed a.function.sql] := by
    cases a.function <;> exact .fixed (by decide)
  exact hname.append ((fits_argument harg ha).paren.mono rfl rfl)

/-- An aggregation is a call with a name. -/
theorem fits_aggregation {a : Aggregation} (h : a.fragment = .ok f)
    (ha : ∀ raw ∈ a.column, V.HasReference raw) (hlabel : a.outputAlias ∈ V.names) :
    Fits V .free .outside f := by
  obtain ⟨call, hcall, h⟩ := bind_eq_ok_iff.mp h
  exact fits_aliased h (fits_call hcall ha) hlabel

/-- The items of a query with groups. -/
theorem fits_keyColumn (hV : V.HasQuery q) {c : SelectColumn}
    (hc : c ∈ if q.plainColumns.isEmpty then q.groupBy.map fun c ↦ { column := c }
      else q.plainColumns) (h : c.fragment = .ok f) : Fits V .free .outside f := by
  split at hc
  · obtain ⟨raw, hraw, rfl⟩ := List.mem_map.mp hc
    obtain ⟨href, hlabels⟩ := hV.groupBy hraw
    exact fits_selectColumn h href hlabels
  · obtain ⟨href, hlabels⟩ := hV.select (List.mem_filter.mp hc).1
    exact fits_selectColumn h href hlabels

/-- A list with commas between its items, or a star where there are none. -/
theorem fits_items {items : List Fragment} (h : ∀ item ∈ items, Fits V .free .outside item) :
    Fits V .free .outside (if items.isEmpty then [.fixed "*"] else Fragment.join ", " items) := by
  split
  · exact fits_everything
  · exact Fits.join (by decide) h

/-- The select list of a query, whether it has groups or not. -/
theorem fits_selectClause (hV : V.HasQuery q) (h : selectClause q = .ok f) :
    Fits V .free .outside f := by
  rw [selectClause] at h
  split at h
  · simp only [bind_eq_ok_iff, pure_eq_ok_iff] at h
    obtain ⟨keys, hkeys, aggregates, haggregates, items, rfl, rfl⟩ := h
    refine fits_items fun item hitem ↦ ?_
    rcases List.mem_append.mp hitem with hitem | hitem
    · obtain ⟨c, hc, h⟩ := exists_of_mem_mapM hkeys hitem
      exact fits_keyColumn hV hc h
    · obtain ⟨a, ha, h⟩ := exists_of_mem_mapM haggregates hitem
      obtain ⟨hcolumn, hlabel⟩ := hV.aggregation ha
      exact fits_aggregation h hcolumn hlabel
  · simp only [bind_eq_ok_iff, pure_eq_ok_iff] at h
    obtain ⟨items, hitems, rfl⟩ := h
    refine fits_items fun item hitem ↦ ?_
    obtain ⟨c, hc, h⟩ := exists_of_mem_mapM hitems hitem
    obtain ⟨href, hlabels⟩ := hV.select hc
    exact fits_selectColumn h href hlabels

/-! ## Grouping, order and pages -/

/-- A path that is read from a reference of the vocabulary is an expression. -/
theorem fits_readPath {raw : String} {p : ColumnPath} (h : readPath raw = .ok p)
    (hV : V.HasReference raw) : Fits V .free .outside p.fragment := (fits_path h hV).mono rfl rfl

/-- A query with groups groups by the named columns and by those that it selects. -/
theorem mem_groupingKeys_iff {raw : String} : raw ∈ q.groupingKeys ↔
    q.isAggregate = true ∧ (raw ∈ q.groupBy ∨ ∃ c ∈ q.plainColumns, c.column = raw) := by
  have hfold : ∀ (cs : List SelectColumn) (keys : List String),
      raw ∈ cs.foldl (fun keys c ↦ if c.column ∈ keys then keys else keys ++ [c.column]) keys ↔
        raw ∈ keys ∨ ∃ c ∈ cs, c.column = raw := by
    intro cs
    induction cs with
    | nil => simp
    | cons c cs ih =>
      intro keys
      rw [List.foldl_cons, ih, List.exists_mem_cons_iff, ← or_assoc]
      refine or_congr ?_ Iff.rfl
      split
      next hmem =>
        constructor
        · exact .inl
        · rintro (h | rfl)
          · exact h
          · exact hmem
      next => rw [List.mem_append, List.mem_singleton, eq_comm (a := raw)]
  rw [Query.groupingKeys]
  split
  next haggregate => simp only [hfold, haggregate, true_and]
  next haggregate => exact ⟨(nomatch ·), fun h ↦ absurd h.1 haggregate⟩

/-- All that a query groups by refers to the vocabulary. -/
theorem hasReference_of_groupingKey (hV : V.HasQuery q) {raw : String}
    (h : raw ∈ q.groupingKeys) : V.HasReference raw := by
  rcases (mem_groupingKeys_iff.mp h).2 with h | ⟨c, hc, rfl⟩
  · exact (hV.groupBy h).1
  · exact (hV.select (List.mem_filter.mp hc).1).1

/-- The clause that names the keys of the groups, empty where there are none. -/
theorem fits_groupByClause (hV : V.HasQuery q) (h : groupByClause q.groupingKeys = .ok f) :
    Fits V .outside .outside f := by
  rw [groupByClause] at h
  split at h
  · cases h
    exact .nil rfl
  · obtain ⟨paths, hpaths, h⟩ := bind_eq_ok_iff.mp h
    cases h
    have hkeyword : Fits V .outside .free [.fixed " GROUP BY "] := .fixed (by decide)
    refine hkeyword.append (.join (by decide) fun item hitem ↦ ?_)
    obtain ⟨p, hp, rfl⟩ := List.mem_map.mp hitem
    obtain ⟨raw, hraw, h⟩ := exists_of_mem_mapM hpaths hp
    exact fits_readPath h (hasReference_of_groupingKey hV hraw)

/-- Direction and place of nulls are fixed texts, one for each of their six combinations. -/
theorem fits_direction (t : OrderTerm) : Fits V .outside .outside [.fixed t.direction] := by
  have hfits : ∀ (descending : Bool) (nulls : Option NullsOrder),
      Sql.fixedFits .outside .outside (OrderTerm.direction ⟨"", descending, nulls⟩) = true := by
    rintro (_ | _) (_ | _ | _) <;> decide
  exact .fixed (hfits t.descending t.nulls)

/-- A term of the order is an expression with a direction. -/
theorem fits_orderTerm (t : OrderTerm) (h : Fits V .free .outside f) :
    Fits V .free .outside (t.fragment f) := h.append (fits_direction t)

theorem fits_orderByKeyword : Fits V .outside .free [.fixed " ORDER BY "] := .fixed (by decide)

/-- The clause that names the terms of the order, empty where there are none. -/
theorem fits_orderByClause (hV : V.HasQuery q) (h : orderByClause q.order = .ok f) :
    Fits V .outside .outside f := by
  simp only [orderByClause, orderTerms, bind_eq_ok_iff, pure_eq_ok_iff] at h
  obtain ⟨_, ⟨terms, hterms, rfl⟩, rfl⟩ := h
  split
  · exact .nil rfl
  · refine fits_orderByKeyword.append (.join (by decide) fun item hitem ↦ ?_)
    obtain ⟨t, ht, h⟩ := exists_of_mem_mapM hterms hitem
    obtain ⟨p, hp, h⟩ := bind_eq_ok_iff.mp h
    cases h
    exact fits_orderTerm t (fits_readPath hp (hV.order ht))

/-- The limit, and an offset above zero, each as a number that is written out. -/
theorem fits_pageClause (q : Query) : Fits V .outside .outside (pageClause q) := by
  have hlimit : ∀ n, Fits V .outside .outside [.fixed " LIMIT ", .number n] := fun n ↦ by
    have hkeyword : Fits V .outside .ground [.fixed " LIMIT "] := .fixed (by decide)
    exact (hkeyword.append (.number n)).mono rfl rfl
  have hoffset : ∀ n, Fits V .outside .outside [.fixed " OFFSET ", .number n] := fun n ↦ by
    have hkeyword : Fits V .outside .ground [.fixed " OFFSET "] := .fixed (by decide)
    exact (hkeyword.append (.number n)).mono rfl rfl
  rw [pageClause]
  refine Fits.append (q := .outside) ?_ ?_
  · split
    · exact hlimit _
    · exact .nil rfl
  · split
    · split
      · exact hoffset _
      · exact .nil rfl
    · exact .nil rfl

/-! ## Keys of the order -/

/-- A name of the select list stands for the path of its column. -/
theorem fits_findOutput {name : String} {cs : List SelectColumn}
    (hcs : ∀ c ∈ cs, V.HasReference c.column) (h : findOutput name cs = .ok (some f)) :
    Fits V .free .outside f := by
  induction cs with
  | nil => cases h
  | cons c cs ih =>
    obtain ⟨p, hp, h⟩ := bind_eq_ok_iff.mp h
    split at h
    · cases h
      exact fits_readPath hp (hcs c List.mem_cons_self)
    · exact ih (fun d hd ↦ hcs d (List.mem_cons_of_mem c hd)) h

/-- The key of a term is the call of an aggregation, a selected path or the path that the term
names. -/
theorem fits_orderKey (hV : V.HasQuery q) {t : OrderTerm} (ht : t ∈ q.order)
    (h : t.key q = .ok f) : Fits V .free .outside f := by
  rw [OrderTerm.key] at h
  split at h
  next a ha => exact fits_call h (hV.aggregation (List.mem_of_find?_eq_some ha)).1
  next =>
    obtain ⟨found, hfound, h⟩ := bind_eq_ok_iff.mp h
    split at h
    next g =>
      cases h
      exact fits_findOutput (fun c hc ↦ (hV.select (List.mem_filter.mp hc).1).1) hfound
    next =>
      obtain ⟨p, hp, h⟩ := bind_eq_ok_iff.mp h
      cases h
      exact fits_readPath hp (hV.order ht)

end RowGate
