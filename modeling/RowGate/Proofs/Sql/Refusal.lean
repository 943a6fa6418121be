import RowGate.Proofs.Query.WellTyped
import RowGate.Proofs.Sql.Predicate

/-! # Refused queries

The errors of the four statements that read a table. Some of the compiler's errors are for queries
that no text says; what is read from a text is refused for the caller's faults only: names, columns,
geometries and the number of filters.
-/

namespace RowGate

/-- Any fault but a value that does not fit its operator. -/
def ValidationError.IsRefusal (v : ValidationError) : Prop :=
  ∀ column operator fault, v ≠ .invalidValue column operator fault

/-- A fault of the caller that the text of a query can have. -/
def QueryError.IsRefusal (e : QueryError) : Prop := ∃ v, e = .validation v ∧ v.IsRefusal

/-- A computation that fails, if at all, with such a fault. -/
abbrev Refuses {α : Type} (x : Except QueryError α) : Prop := FailsOnly QueryError.IsRefusal x

theorem ValidationError.isRefusal_invalidIdentifier (f : NameFault) :
    (invalidIdentifier f).IsRefusal :=
  fun _ _ _ h ↦ nomatch h

theorem ValidationError.isRefusal_unknownColumn (raw : String) : (unknownColumn raw).IsRefusal :=
  fun _ _ _ h ↦ nomatch h

theorem QueryError.isRefusal_ofName (f : NameFault) : (ofName f).IsRefusal :=
  ⟨.invalidIdentifier f, rfl, ValidationError.isRefusal_invalidIdentifier f⟩

/-- A validation that fails for refusals only refuses where a statement is compiled. -/
theorem refuses_liftValidation {α : Type} {x : Except ValidationError α}
    (hx : FailsOnly ValidationError.IsRefusal x) : Refuses (liftValidation x) := by
  cases x with
  | error v => exact .error ⟨v, rfl, hx v rfl⟩
  | ok a => exact .ok a

/-! ## Names and columns -/

/-- A reference that is no path is a fault of its name. -/
theorem refuses_readPath (raw : String) : Refuses (readPath raw) := by
  rw [readPath]
  split
  · exact .ok _
  · exact .error (QueryError.isRefusal_ofName _)

theorem refuses_readName (raw : String) : Refuses (readName raw) := by
  rw [readName]
  split
  · exact .ok _
  · exact .error (QueryError.isRefusal_ofName _)

/-- A named expression is refused for its name only. -/
theorem refuses_aliased (expr : Fragment) (label : String) : Refuses (aliased expr label) :=
  (refuses_readName label).bind fun _ ↦ .ok _

namespace TableInfo

/-- A reference is checked for its form and for a column that it names. -/
theorem refusal_checkColumn (info : TableInfo) (raw : String) :
    FailsOnly ValidationError.IsRefusal (info.checkColumn raw) := by
  rw [checkColumn]
  split
  · exact .error (ValidationError.isRefusal_invalidIdentifier _)
  · split
    · exact .ok ()
    · exact .error (ValidationError.isRefusal_unknownColumn _)

theorem refusal_checkColumns (info : TableInfo) (columns : List String) :
    FailsOnly ValidationError.IsRefusal (info.checkColumns columns) := by
  induction columns with
  | nil => exact .ok ()
  | cons c cs ih => exact (info.refusal_checkColumn c).bind fun _ ↦ ih

end TableInfo

/-- Without metadata nothing is checked, and with it only the columns are. -/
theorem Target.refuses_validate (t : Target) (q : Query) : Refuses (t.validate q) := by
  rw [validate]
  split
  · exact refuses_liftValidation (TableInfo.refusal_checkColumns _ _)
  · exact .ok ()

/-- A table is refused for its name or the name of its schema. -/
theorem Target.refuses_fragment (t : Target) : Refuses t.fragment := by
  refine (refuses_readName t.table).bind fun name ↦ ?_
  split
  · exact (refuses_readName _).bind fun _ ↦ .ok _
  · exact .ok _

/-- Too many filters are a fault of the caller. -/
theorem refuses_checkFilterCount (fs : List Filter) : Refuses (checkFilterCount fs) := by
  rw [checkFilterCount]
  split
  · refine .error ⟨_, rfl, fun _ _ _ h ↦ ?_⟩
    cases h
  · exact .ok ()

/-! ## Conditions -/

/-- Whatever is wrong with a geometry, it is a fault of the geometry. -/
theorem refusal_readGeoValue (raw : String) :
    FailsOnly ValidationError.IsRefusal (readGeoValue raw) := by
  simp only [readGeoValue]
  repeat' split
  all_goals first | exact .ok _ | exact .error fun _ _ _ h ↦ nomatch h

namespace Filter

variable {f : Filter}

/-- Nearness is refused for its geometry, whatever its value. -/
theorem refuses_geoFragment (f : Filter) (p : ColumnPath) : Refuses (f.geoFragment p) := by
  rw [geoFragment]
  split
  · split
    next e he => exact .error ⟨e, rfl, refusal_readGeoValue _ e he⟩
    · exact .ok _
  · refine .error ⟨_, rfl, fun _ _ _ h ↦ ?_⟩
    cases h

/-- The value of a well-typed filter has a form in the condition of its operator. -/
theorem WellTyped.refuses_fragment (hf : f.WellTyped) (table : Option TableInfo) :
    Refuses (f.fragment table) := by
  obtain ⟨column, op, v, group⟩ := f
  rw [fragment]
  split
  · exact .error (QueryError.isRefusal_ofName _)
  next p _ =>
    cases op with
    | is =>
      cases v with
      | null | bool _ => exact .ok _
      | string _ | number _ | strings _ => cases hf
    | oneOf =>
      cases v with
      | strings _ => exact .ok _
      | null | bool _ | string _ | number _ => cases hf
    | stDWithin => exact refuses_geoFragment _ p
    | _ =>
      cases v with
      | string _ => exact .ok _
      | null | bool _ | number _ | strings _ => cases hf

end Filter

/-- Well-typed filters are refused for their references and geometries only. -/
theorem refuses_whereFragment {fs : List Filter} (hfs : ∀ f ∈ fs, f.WellTyped)
    (table : Option TableInfo) : Refuses (whereFragment table fs) := by
  rw [whereFragment]
  split
  · exact .ok none
  · refine (FailsOnly.mapM fun part hpart ↦ ?_).bind fun _ ↦ .ok _
    have hpart : ∀ f ∈ part.filters, f.WellTyped := fun f hf ↦
      hfs f (Part.mem_of_mem_ofFilters hpart hf)
    cases part with
    | alone f => exact (hpart f (List.mem_singleton_self f)).refuses_fragment table
    | anyOf g fs =>
      exact (FailsOnly.mapM fun f hf ↦ (hpart f hf).refuses_fragment table).bind fun _ ↦ .ok _

theorem refuses_whereClause {fs : List Filter} (hfs : ∀ f ∈ fs, f.WellTyped)
    (table : Option TableInfo) : Refuses (whereClause table fs) := by
  refine (refuses_whereFragment hfs table).bind fun condition ↦ ?_
  cases condition with
  | none => exact .ok _
  | some f => exact .ok _

/-! ## The other clauses -/

/-- A selected column is refused for its path or its name. -/
theorem refuses_selectColumn (c : SelectColumn) : Refuses c.fragment := by
  rw [SelectColumn.fragment]
  split
  · exact .ok _
  · refine (refuses_readPath _).bind fun p ↦ ?_
    split
    · exact refuses_aliased _ _
    · split
      · exact refuses_aliased _ _
      · exact .ok _

namespace Aggregation

/-- An aggregate that needs a column has one. -/
theorem WellTyped.refuses_call {a : Aggregation} (ha : a.WellTyped) : Refuses a.call := by
  refine FailsOnly.bind ?_ fun _ ↦ .ok _
  rw [argument]
  split
  · exact .ok _
  next hcolumn hfunction =>
    rcases ha with ha | ha
    · exact absurd ha hfunction
    · rw [hcolumn] at ha
      cases ha
  · exact (refuses_readPath _).bind fun _ ↦ .ok _

theorem WellTyped.refuses_fragment {a : Aggregation} (ha : a.WellTyped) : Refuses a.fragment :=
  ha.refuses_call.bind fun _ ↦ refuses_aliased _ _

end Aggregation

/-- The keys of the groups are refused as paths. -/
theorem refuses_groupByClause (columns : List String) : Refuses (groupByClause columns) := by
  rw [groupByClause]
  split
  · exact .ok _
  · exact (FailsOnly.mapM fun c _ ↦ refuses_readPath c).bind fun _ ↦ .ok _

/-- The terms of the order are refused as paths. -/
theorem refuses_orderByClause (order : List OrderTerm) : Refuses (orderByClause order) := by
  refine FailsOnly.bind ?_ fun _ ↦ .ok _
  refine FailsOnly.bind (FailsOnly.mapM fun t _ ↦ ?_) fun _ ↦ .ok _
  exact (refuses_readPath t.column).bind fun _ ↦ .ok _

/-- The search for an output reads the selected paths up to the one that it finds. -/
theorem refuses_findOutput (name : String) (cs : List SelectColumn) :
    Refuses (findOutput name cs) := by
  induction cs with
  | nil => exact .ok none
  | cons c cs ih =>
    refine (refuses_readPath c.column).bind fun p ↦ ?_
    split
    · exact .ok _
    · exact ih

/-! ## Statements -/

namespace Query.WellTyped

variable {q : Query} (hq : q.WellTyped)

include hq

/-- Every aggregate of a well-typed query can be called. -/
theorem refuses_selectClause : Refuses (selectClause q) := by
  rw [selectClause]
  split
  · refine (FailsOnly.mapM fun c _ ↦ refuses_selectColumn c).bind fun _ ↦ ?_
    exact (FailsOnly.mapM fun a ha ↦ (hq.aggregations a ha).refuses_fragment).bind fun _ ↦ .ok _
  · exact (FailsOnly.mapM fun c _ ↦ refuses_selectColumn c).bind fun _ ↦ .ok _

/-- A key of the order is an aggregate of the query, or a path. -/
theorem refuses_orderKey (t : OrderTerm) : Refuses (t.key q) := by
  rw [OrderTerm.key]
  split
  next a ha => exact (hq.aggregations a (List.mem_of_find?_eq_some ha)).refuses_call
  · refine (refuses_findOutput _ _).bind fun output ↦ ?_
    split
    · exact .ok _
    · exact (refuses_readPath _).bind fun _ ↦ .ok _

theorem refuses_hiddenKeys (i : Nat) (terms : List OrderTerm) :
    Refuses (Target.hiddenKeys q i terms) := by
  induction terms generalizing i with
  | nil => exact .ok []
  | cons term terms ih =>
    refine (hq.refuses_orderKey term).bind fun expr ↦ ?_
    refine (refuses_readName _).bind fun name ↦ ?_
    exact (ih (i + 1)).bind fun _ ↦ .ok _

/-- No check and no clause of a SELECT fails for anything but a refusal. -/
theorem refuses_selectWith (t : Target) (hidden : List HiddenKey) :
    Refuses (t.selectWith q hidden) := by
  refine (refuses_checkFilterCount q.filters).bind fun _ ↦ ?_
  refine (t.refuses_validate q).bind fun _ ↦ ?_
  refine hq.refuses_selectClause.bind fun items ↦ ?_
  refine t.refuses_fragment.bind fun table ↦ ?_
  refine (refuses_whereClause hq.filters t.info).bind fun condition ↦ ?_
  refine (refuses_groupByClause q.groupingKeys).bind fun groups ↦ ?_
  exact (refuses_orderByClause q.order).bind fun order ↦ .ok _

/-- A page adds its hidden keys, which are keys of the order. -/
theorem refuses_rowsFragment (t : Target) : Refuses (t.rowsFragment q) := by
  refine (hq.refuses_hiddenKeys 1 q.order).bind fun keys ↦ ?_
  exact (hq.refuses_selectWith t keys).bind fun _ ↦ .ok _

/-- A count builds the clauses that decide which rows and groups there are. -/
theorem refuses_countFragment (t : Target) : Refuses (t.countFragment q) := by
  refine (refuses_checkFilterCount q.filters).bind fun _ ↦ ?_
  refine (t.refuses_validate q).bind fun _ ↦ ?_
  refine t.refuses_fragment.bind fun table ↦ ?_
  refine (refuses_whereClause hq.filters t.info).bind fun condition ↦ ?_
  split
  · exact (refuses_groupByClause q.groupingKeys).bind fun _ ↦ .ok _
  · exact .ok _

theorem refuses_explainFragment (t : Target) : Refuses (t.explainFragment q) := by
  have hplan : Query.WellTyped { q with order := [], limit := none, offset := none } :=
    ⟨hq.filters, hq.aggregations⟩
  exact (hplan.refuses_selectWith t []).bind fun _ ↦ .ok _

/-- None of the four statements that read a table fails for anything but a refusal. -/
theorem refuses_statement (t : Target) {compile : Target → Query → Except QueryError Statement}
    (h : compile ∈ [Target.select, Target.rows, Target.count, Target.explain]) :
    Refuses (compile t q) := by
  simp only [List.mem_cons, List.not_mem_nil, or_false] at h
  rcases h with rfl | rfl | rfl | rfl
  · exact (hq.refuses_selectWith t []).map
  · exact (hq.refuses_rowsFragment t).map
  · exact (hq.refuses_countFragment t).map
  · exact (hq.refuses_explainFragment t).map

end Query.WellTyped

/-- A query that is read from a text, under a pagination policy or none, is compiled, or refused for
a fault of the caller: none of the errors for queries that no text says is ever met. -/
theorem refused_of_parse {text : String} {q : Query} (h : Query.parse text = .ok q)
    (policy : Option PaginationPolicy) (t : Target)
    {compile : Target → Query → Except QueryError Statement}
    (hcompile : compile ∈ [Target.select, Target.rows, Target.count, Target.explain])
    {e : QueryError} (he : compile t (policy.elim q q.paginate) = .error e) :
    e.isClient = true ∧ (∀ defect, e ≠ .compile defect) ∧
      ∀ column operator fault, e ≠ .validation (.invalidValue column operator fault) := by
  have hq : (policy.elim q q.paginate).WellTyped := by
    cases policy with
    | none => exact Query.wellTyped_parse h
    | some policy => exact (Query.wellTyped_parse h).paginate policy
  obtain ⟨v, rfl, hv⟩ := hq.refuses_statement t hcompile e he
  refine ⟨rfl, fun defect hdefect ↦ (nomatch hdefect), ?_⟩
  intro column operator fault hvalue
  exact hv column operator fault (QueryError.validation.inj hvalue)

/-- A page of a table that lacks a column. -/
theorem refused_of_parse_unknownColumn :
    Query.parse "size=gt.3" = .ok { filters := [⟨"size", .gt, .string "3", none⟩] } ∧
    ({ table := "docs", info := some ⟨"public", "docs", []⟩ } : Target).rows
        (({ filters := [⟨"size", .gt, .string "3", none⟩] } : Query).paginate .standard) =
      .error (.validation (.unknownColumn "size")) ∧
    (QueryError.validation (.unknownColumn "size")).isClient = true := by
  have hparse :
      Query.parse "size=gt.3" = .ok { filters := [⟨"size", .gt, .string "3", none⟩] } := by
    decide +kernel
  have hrows : ({ table := "docs", info := some ⟨"public", "docs", []⟩ } : Target).rows
        (({ filters := [⟨"size", .gt, .string "3", none⟩] } : Query).paginate .standard) =
      .error (.validation (.unknownColumn "size")) := by
    decide +kernel
  exact ⟨hparse, hrows, (refused_of_parse hparse (some .standard) _ (by simp) hrows).1⟩

end RowGate
