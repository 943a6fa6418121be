import RowGate.Proofs.Sql.OutputNames

/-! # The names that an order may use

The metadata lets an order term pass that is a column of the table, or a name that the query gives:
an alias or the name of an aggregate. A select list carries names as well that the query does not
give, the last keys of paths into documents, and it does not carry the alias of `*`. So the check
and the select list agree on a term unless it is one of these names and nothing else.
-/

namespace RowGate

open Sql (Item Selection)

variable {info : TableInfo} {t : Target} {q : Query} {name raw : String}

/-! ## Given names and names that are made up -/

namespace Query

/-- The columns that a query names outside of its order. -/
def listedColumns (q : Query) : List String :=
  q.plainColumns.map (·.column) ++ q.filters.map (·.column) ++ q.groupBy ++
    q.aggregations.filterMap (·.column)

/-- The names that a query gives to what it shows. -/
def givenNames (q : Query) : List String :=
  q.plainColumns.filterMap (·.label) ++ q.aggregations.map Aggregation.outputAlias

/-- The aliases of `*`. -/
def wildcardLabels (q : Query) : List String :=
  (q.select.filter SelectColumn.isWildcard).filterMap (·.label)

end Query

/-- The name of a path into a document that has no alias: its last key. -/
def SelectColumn.lastKey? (c : SelectColumn) : Option String :=
  if c.isWildcard || c.label.isSome then none
  else ((readPath c.column).toOption.filter ColumnPath.isJson).map ColumnPath.outputName

/-- The last keys of the paths that are shown without an alias. -/
def Query.lastKeyNames (q : Query) : List String := q.shownColumns.filterMap SelectColumn.lastKey?

theorem Query.mem_outputNames_iff :
    name ∈ q.outputNames ↔ name ∈ q.givenNames ∨ name ∈ q.wildcardLabels := by
  have hselect : name ∈ q.select.filterMap (·.label) ↔
      name ∈ q.plainColumns.filterMap (·.label) ∨ name ∈ q.wildcardLabels := by
    simp only [plainColumns, wildcardLabels, List.mem_filterMap, List.mem_filter]
    constructor
    · rintro ⟨c, hc, hlabel⟩
      cases hwildcard : c.isWildcard with
      | true => exact .inr ⟨c, ⟨hc, hwildcard⟩, hlabel⟩
      | false => exact .inl ⟨c, ⟨hc, by rw [hwildcard]; rfl⟩, hlabel⟩
    · rintro (⟨c, ⟨hc, -⟩, hlabel⟩ | ⟨c, ⟨hc, -⟩, hlabel⟩)
      · exact ⟨c, hc, hlabel⟩
      · exact ⟨c, hc, hlabel⟩
  rw [outputNames, List.mem_append, hselect, givenNames, List.mem_append]
  tauto

/-- A selected column is shown. -/
theorem Query.mem_shownColumns {c : SelectColumn} (h : c ∈ q.plainColumns) :
    c ∈ q.shownColumns := by
  have hselected : ¬(q.isAggregate = true ∧ q.plainColumns = []) := fun hnone ↦
    List.ne_nil_of_mem h hnone.2
  rw [← q.filter_shownColumns hselected] at h
  exact (List.mem_filter.mp h).1

/-- A column that is shown is everything, or it is selected, or it is a group without an alias. -/
theorem Query.shownColumns_cases {c : SelectColumn} (h : c ∈ q.shownColumns) :
    c.isWildcard = true ∨ c ∈ q.plainColumns ∨ c.label = none ∧ c.column ∈ q.groupBy := by
  by_cases hgroups : q.isAggregate = true ∧ q.plainColumns = []
  · rw [Query.shownColumns_of_nil hgroups.1 hgroups.2] at h
    obtain ⟨raw, hraw, rfl⟩ := List.mem_map.mp h
    exact .inr (.inr ⟨rfl, hraw⟩)
  · cases hwildcard : c.isWildcard with
    | true => exact .inl rfl
    | false =>
      refine .inr (.inl ?_)
      rw [← q.filter_shownColumns hgroups]
      exact List.mem_filter.mpr ⟨h, by rw [hwildcard]; rfl⟩

theorem SelectColumn.outputName?_eq_some_iff {c : SelectColumn} :
    c.outputName? = some name ↔ c.isWildcard = false ∧ (c.label = some name ∨
      c.label = none ∧ ∃ p, readPath c.column = .ok p ∧ p.outputName = name) := by
  rw [outputName?]
  cases c.isWildcard with
  | true => simp
  | false =>
    cases c.label with
    | some label => simp
    | none =>
      cases readPath c.column with
      | error e => simp [Except.toOption]
      | ok p => simp [Except.toOption]

theorem SelectColumn.lastKey?_eq_some_iff {c : SelectColumn} :
    c.lastKey? = some name ↔ c.isWildcard = false ∧ c.label = none ∧
      ∃ p, readPath c.column = .ok p ∧ p.isJson = true ∧ p.outputName = name := by
  rw [lastKey?]
  cases c.isWildcard with
  | true => simp
  | false =>
    cases c.label with
    | some label => simp
    | none =>
      cases readPath c.column with
      | error e => simp [Except.toOption]
      | ok p => simp [Except.toOption, Option.filter]

/-- The select list carries every name that the query gives, and the last keys. -/
theorem Query.mem_columnNames (h : name ∈ q.givenNames ∨ name ∈ q.lastKeyNames) :
    name ∈ q.columnNames := by
  rcases h with hgiven | hkey
  · rcases List.mem_append.mp hgiven with hlabel | halias
    · obtain ⟨c, hc, hlabel⟩ := List.mem_filterMap.mp hlabel
      have hplain : c.isWildcard = false := by simpa using (List.mem_filter.mp hc).2
      have hname := SelectColumn.outputName?_eq_some_iff.mpr ⟨hplain, .inl hlabel⟩
      exact List.mem_append_left _ (List.mem_filterMap.mpr ⟨c, mem_shownColumns hc, hname⟩)
    · exact List.mem_append_right _ halias
  · obtain ⟨c, hc, hkey⟩ := List.mem_filterMap.mp hkey
    obtain ⟨hplain, hlabel, p, hp, -, hname⟩ := SelectColumn.lastKey?_eq_some_iff.mp hkey
    have hname := SelectColumn.outputName?_eq_some_iff.mpr ⟨hplain, .inr ⟨hlabel, p, hp, hname⟩⟩
    exact List.mem_append_left _ (List.mem_filterMap.mpr ⟨c, hc, hname⟩)

/-- Any other name that it carries is a column of the table. -/
theorem Query.checkColumn_of_mem_columnNames
    (hcolumns : ∀ raw ∈ q.listedColumns, info.checkColumn raw = .ok ())
    (h : name ∈ q.columnNames) :
    info.checkColumn name = .ok () ∨ name ∈ q.givenNames ∨ name ∈ q.lastKeyNames := by
  rcases List.mem_append.mp h with hshown | halias
  · obtain ⟨c, hc, hname⟩ := List.mem_filterMap.mp hshown
    obtain ⟨hplain, hlabel | ⟨hlabel, p, hp, hname⟩⟩ :=
      SelectColumn.outputName?_eq_some_iff.mp hname
    · rcases shownColumns_cases hc with hwildcard | hselected | ⟨hnone, -⟩
      · cases hplain.symm.trans hwildcard
      · exact .inr (.inl (List.mem_append_left _ (List.mem_filterMap.mpr ⟨c, hselected, hlabel⟩)))
      · cases hnone.symm.trans hlabel
    · cases hjson : p.isJson with
      | true =>
        have hkey := SelectColumn.lastKey?_eq_some_iff.mpr ⟨hplain, hlabel, p, hp, hjson, hname⟩
        exact .inr (.inr (List.mem_filterMap.mpr ⟨c, hc, hkey⟩))
      | false =>
        have hlisted : c.column ∈ q.listedColumns := by
          simp only [listedColumns, List.mem_append]
          rcases shownColumns_cases hc with hwildcard | hselected | ⟨-, hgroup⟩
          · cases hplain.symm.trans hwildcard
          · exact .inl (.inl (.inl (List.mem_map_of_mem hselected)))
          · exact .inl (.inr hgroup)
        have hroot : name = rootName c.column := by
          rw [← hname, p.outputName_of_bare hjson, (readPath_eq_ok hp).1]
        exact .inl (hroot ▸ TableInfo.checkColumn_rootName (hcolumns _ hlisted))
  · exact .inr (.inl (List.mem_append_right _ halias))

/-! ## The check -/

namespace TableInfo

/-- What the check lets pass as an order term. -/
def Accepts (info : TableInfo) (q : Query) (name : String) : Prop :=
  info.checkColumn name = .ok () ∨ name ∈ q.givenNames ∨ name ∈ q.wildcardLabels

/-- What an order term may stand for: a column of the table, or an output column. -/
def Resolves (info : TableInfo) (q : Query) (name : String) : Prop :=
  info.checkColumn name = .ok () ∨ name ∈ q.columnNames

/-- A name that is only the last key of a path, or only an alias of `*`. -/
def Disputes (info : TableInfo) (q : Query) (name : String) : Prop :=
  info.checkColumn name ≠ .ok () ∧ name ∉ q.givenNames ∧
    ¬(name ∈ q.lastKeyNames ↔ name ∈ q.wildcardLabels)

theorem validate_eq_ok_iff (hcolumns : ∀ raw ∈ q.listedColumns, info.checkColumn raw = .ok ()) :
    info.validate q = .ok () ↔ ∀ term ∈ q.order, info.Accepts q term.column := by
  have hreferences : q.references =
      q.listedColumns ++ (q.order.map (·.column)).filter fun c ↦ !q.outputNames.contains c := rfl
  rw [validate, checkColumns_eq_ok_iff, hreferences, List.forall_mem_append]
  constructor
  · rintro ⟨-, horder⟩ term hterm
    by_cases hname : term.column ∈ q.outputNames
    · exact .inr (Query.mem_outputNames_iff.mp hname)
    · refine .inl (horder _ (List.mem_filter.mpr ⟨List.mem_map_of_mem hterm, ?_⟩))
      simpa using hname
  · intro horder
    refine ⟨hcolumns, fun raw hraw ↦ ?_⟩
    obtain ⟨hraw, hname⟩ := List.mem_filter.mp hraw
    obtain ⟨term, hterm, rfl⟩ := List.mem_map.mp hraw
    have hname : term.column ∉ q.outputNames := by simpa using hname
    rcases horder term hterm with hcolumn | hnamed
    · exact hcolumn
    · exact absurd (Query.mem_outputNames_iff.mpr hnamed) hname

theorem resolves_iff (hcolumns : ∀ raw ∈ q.listedColumns, info.checkColumn raw = .ok ()) :
    info.Resolves q name ↔
      info.checkColumn name = .ok () ∨ name ∈ q.givenNames ∨ name ∈ q.lastKeyNames := by
  constructor
  · rintro (hcolumn | hname)
    · exact .inl hcolumn
    · exact Query.checkColumn_of_mem_columnNames hcolumns hname
  · rintro (hcolumn | hname)
    · exact .inl hcolumn
    · exact .inr (Query.mem_columnNames hname)

end TableInfo

/-- A SELECT carries the names of the columns and the aggregates that its query shows. -/
theorem filterMap_name_select {s : Statement} (h : t.select q = .ok s) :
    ∃ f, t.selectFragment q = .ok f ∧ f.statement = s ∧
      f.selection.items.filterMap Item.name? = q.columnNames := by
  obtain ⟨f, hf, hs⟩ := map_eq_ok_iff.mp h
  obtain ⟨c, hc, -, hselection⟩ := Target.selection_selectFragment hf
  refine ⟨f, hf, hs, ?_⟩
  rw [hselection, Target.Clauses.selection, Target.Clauses.items, List.map_nil, List.append_nil,
    List.map_append, List.filterMap_append, filterMap_columns hc.columns, filterMap_calls hc.calls]
  rfl

/-- Where the other columns of a query pass, the check lets just those queries pass whose order
terms it accepts, and it accepts what the table and the select list resolve, but for names that are
only the last key of a path and for aliases of `*`. -/
theorem validate_iff_resolves
    (hcolumns : ∀ raw ∈ q.listedColumns, info.checkColumn raw = .ok ()) :
    (∀ (t : Target) (s : Statement), t.select q = .ok s →
      ∃ f, t.selectFragment q = .ok f ∧ f.statement = s ∧
        f.selection.items.filterMap Item.name? = q.columnNames) ∧
    (info.validate q = .ok () ↔ ∀ term ∈ q.order, info.Accepts q term.column) ∧
    ∀ name, (info.Accepts q name ↔ info.Resolves q name) ↔ ¬info.Disputes q name := by
  refine ⟨fun t s ↦ filterMap_name_select, TableInfo.validate_eq_ok_iff hcolumns, fun name ↦ ?_⟩
  rw [TableInfo.resolves_iff hcolumns, TableInfo.Accepts, TableInfo.Disputes]
  tauto

/-- A table of documents. -/
def documentInfo : TableInfo where
  schema := "public"
  name := "docs"
  columns := [.ofType "id" "uuid", .ofType "data" "jsonb"]

def documentTarget : Target := { table := "docs", info := some documentInfo }

/-- The towns of documents, by their name and by the key of the table. -/
def townsInOrder : Query :=
  { select := [{ column := "data->>city", label := some "town" }]
    order := [{ column := "town" }, { column := "id" }] }

def townsText : String :=
  "SELECT \"data\"->>'city' AS \"town\" FROM \"docs\" ORDER BY \"town\" ASC, \"id\" ASC"

theorem validate_iff_resolves_towns :
    (∀ raw ∈ townsInOrder.listedColumns, documentInfo.checkColumn raw = .ok ()) ∧
    documentTarget.select townsInOrder = .ok ⟨townsText, []⟩ ∧
    (∃ f, documentTarget.selectFragment townsInOrder = .ok f ∧ f.statement = ⟨townsText, []⟩ ∧
      f.selection.items.filterMap Item.name? = townsInOrder.columnNames) ∧
    documentInfo.validate townsInOrder = .ok () ∧
    documentInfo.Resolves townsInOrder "town" ∧ ¬documentInfo.Disputes townsInOrder "town" := by
  have hcolumns : ∀ raw ∈ townsInOrder.listedColumns, documentInfo.checkColumn raw = .ok () := by
    decide +kernel
  have hselect : documentTarget.select townsInOrder = .ok ⟨townsText, []⟩ := by decide +kernel
  have hvalid : documentInfo.validate townsInOrder = .ok () := by decide +kernel
  obtain ⟨hread, hvalidate, hdispute⟩ := validate_iff_resolves hcolumns
  have haccepts : documentInfo.Accepts townsInOrder "town" :=
    hvalidate.mp hvalid _ List.mem_cons_self
  have hresolves : documentInfo.Resolves townsInOrder "town" := .inr (by decide +kernel)
  exact ⟨hcolumns, hselect, hread _ _ hselect, hvalid, hresolves,
    (hdispute "town").mp (iff_of_true haccepts hresolves)⟩

/-- The cities of documents, by the name that their column has without an alias. -/
def citiesInOrder : Query :=
  { select := [{ column := "data->>city" }], order := [{ column := "city" }] }

def citiesText : String :=
  "SELECT \"data\"->>'city' AS \"city\" FROM \"docs\" ORDER BY \"city\" ASC"

/-- Everything, by an alias that is written nowhere. -/
def everythingInOrder : Query :=
  { select := [{ column := "*", label := some "all" }], order := [{ column := "all" }] }

/-- The check refuses the name of an output column, and lets pass one that is the name of none. -/
theorem validate_not_iff_resolves :
    ((∀ raw ∈ citiesInOrder.listedColumns, documentInfo.checkColumn raw = .ok ()) ∧
      ({ table := "docs" } : Target).select citiesInOrder = .ok ⟨citiesText, []⟩ ∧
      (Selection.ofText? citiesText).map (fun s ↦ s.items.map Item.name?) = some [some "city"] ∧
      "city" ∈ citiesInOrder.columnNames ∧
      documentInfo.validate citiesInOrder = .error (.unknownColumn "city")) ∧
    (∀ raw ∈ everythingInOrder.listedColumns, documentInfo.checkColumn raw = .ok ()) ∧
      documentInfo.validate everythingInOrder = .ok () ∧
      documentTarget.select everythingInOrder =
        .ok ⟨"SELECT * FROM \"docs\" ORDER BY \"all\" ASC", []⟩ ∧
      documentInfo.checkColumn "all" = .error (.unknownColumn "all") ∧
      "all" ∉ everythingInOrder.columnNames := by
  refine ⟨⟨?_, ?_, ?_, ?_, ?_⟩, ?_, ?_, ?_, ?_, ?_⟩ <;> decide +kernel

end RowGate
