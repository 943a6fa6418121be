import RowGate.Proofs.Sql.Agreement
import RowGate.Proofs.Sql.Casts

/-! # What metadata adds to a statement

The metadata of a table rejects requests that refer to columns it does not know, and it annotates
the statements of all others. Main statement: a statement that is compiled with metadata is the
statement without it, with casts behind placeholders, each to the type of the column that the value
is assigned to or compared with; and metadata rejects nothing whose references pass its check.

Both kinds of statement are compiled in the same way; the step that matters is the condition of a
filter, where the metadata is read.
-/

namespace RowGate

variable {table : Option TableInfo} {f g : Fragment} {c : Filter} {p : ColumnPath}

/-! ## Conditions without metadata -/

/-- A path has no placeholders, so it has no casts either. -/
theorem untyped_path (p : ColumnPath) : p.fragment.untyped = p.fragment :=
  Fragment.untyped_of_values (values_path p)

namespace Filter

/-- Tests for null and truth values are never cast. -/
theorem isFragment_untyped (c : Filter) (p : ColumnPath) :
    c.isFragment p = (c.isFragment p).map Fragment.untyped := by
  rw [isFragment]
  split
  · exact congrArg Except.ok (by simp [untyped_path])
  · exact congrArg Except.ok (by simp [untyped_path])
  · rfl

/-- Without metadata an array is bound in the same place, and not cast. -/
theorem inFragment_untyped (c : Filter) (p : ColumnPath) (column : Option ColumnInfo) :
    c.inFragment p none = (c.inFragment p column).map Fragment.untyped := by
  rw [inFragment, inFragment]
  split
  · rfl
  · exact congrArg Except.ok (by simp [Fragment.untyped_of_values (values_listOperand p)])

/-- Distance tests are never cast. -/
theorem geoFragment_untyped (c : Filter) (p : ColumnPath) :
    c.geoFragment p = (c.geoFragment p).map Fragment.untyped := by
  rw [geoFragment]
  split
  · split
    · rfl
    · exact congrArg Except.ok (by simp [untyped_path])
  · rfl

/-- Without metadata the value of a comparison is bound in the same place, and not cast. -/
theorem binaryFragment_untyped (c : Filter) (p : ColumnPath) (column : Option ColumnInfo)
    (symbol : String) : c.binaryFragment p none symbol =
      (c.binaryFragment p column symbol).map Fragment.untyped := by
  rw [binaryFragment, binaryFragment]
  split
  · split
    · exact congrArg Except.ok (by simp [untyped_path])
    · exact congrArg Except.ok (by simp [untyped_path])
    · rfl
  · rfl
  · have hleft := values_comparisonOperands p c.operator c.value
    simp [Except.map, Fragment.untyped_of_values hleft]

/-- Without metadata the condition over a path is the same, and not cast. -/
theorem conditionOf_untyped (c : Filter) (table : Option TableInfo) (p : ColumnPath) :
    c.conditionOf none p = (c.conditionOf table p).map Fragment.untyped := by
  rw [conditionOf, conditionOf, columnOf_none]
  split
  · exact c.isFragment_untyped p
  · exact c.inFragment_untyped p _
  · exact c.geoFragment_untyped p
  · split
    · exact c.binaryFragment_untyped p _ _
    · rfl

/-- Metadata decides nothing about a filter but the types in its condition. -/
theorem fragment_untyped (table : Option TableInfo) (c : Filter) :
    c.fragment none = (c.fragment table).map Fragment.untyped := by
  rw [fragment_eq_bind, fragment_eq_bind]
  exact bind_eq_map_bind fun p _ ↦ c.conditionOf_untyped table p

end Filter

theorem Part.fragment_untyped (table : Option TableInfo) (part : Part) :
    part.fragment none = (part.fragment table).map Fragment.untyped := by
  cases part with
  | alone c => exact c.fragment_untyped table
  | anyOf n cs =>
    rw [fragment, fragment, mapM_eq_map (Filter.fragment_untyped table), map_bind_eq]
    refine bind_eq_map_bind fun fs _ ↦ congrArg Except.ok ?_
    rw [Fragment.untyped_paren, Fragment.untyped_join]

/-- Without metadata the conditions of a list are the same, and not cast. -/
theorem whereClause_untyped (table : Option TableInfo) (cs : List Filter) :
    whereClause none cs = (whereClause table cs).map Fragment.untyped := by
  rw [whereClause, whereClause, whereFragment, whereFragment]
  split
  · rfl
  · rw [mapM_eq_map (Part.fragment_untyped table), map_bind_eq, bind_assoc, bind_assoc]
    refine bind_eq_map_bind fun fs _ ↦ congrArg Except.ok ?_
    simp [Fragment.untyped_join]

/-! ## What a cast may be -/

/-- What a bound value is for. -/
inductive Slot where
  /-- It is assigned to a column. -/
  | assigned (column : String)
  /-- It is compared by a filter. -/
  | compared (c : Filter)

namespace Slot

/-- The column that the value is assigned to or compared with. -/
def column? (info : TableInfo) : Slot → Option ColumnInfo
  | assigned column => info.column? column
  | compared c => (readPath c.column).toOption.bind fun p ↦ info.column? p.column.name

/-- The type of a value for a column of some type: a list of values is an array. -/
def typeFor (type : String) : Slot → String
  | assigned _ => type
  | compared c => if c.operator = .oneOf then type ++ "[]" else type

/-- A cast to nothing else than the type of the column. -/
def Permits (table : Option TableInfo) (s : Slot) (cast : Option String) : Prop :=
  ∀ type ∈ cast, ∃ info ∈ table, ∃ column ∈ s.column? info, ∃ columnType ∈ column.castType?,
    type = s.typeFor columnType

/-- No cast is always permitted. -/
theorem permits_none (table : Option TableInfo) (s : Slot) : s.Permits table none :=
  fun _ h ↦ nomatch h

end Slot

def Filter.slots (c : Filter) : List Slot := List.replicate c.bindCount (.compared c)

/-- The slots of a condition, in the order in which it is written. -/
def filterSlots (cs : List Filter) : List Slot :=
  ((Part.ofFilters cs).flatMap Part.filters).flatMap Filter.slots

/-- A fragment whose values are for the given slots and are cast as these permit. -/
def Fragment.TypedBy (table : Option TableInfo) (slots : List Slot) (f : Fragment) : Prop :=
  List.Forall₂ (Slot.Permits table) slots f.casts

namespace Filter

/-- A type that a condition casts to is that of the column compared. -/
theorem exists_column (hp : readPath c.column = .ok p) {keep : ColumnInfo → Bool} {type : String}
    (h : type ∈ ((columnOf table p).filter keep).bind ColumnInfo.castType?) :
    ∃ info ∈ table, ∃ column ∈ (Slot.compared c).column? info, type ∈ column.castType? := by
  obtain ⟨column, hcolumn, htype⟩ := Option.bind_eq_some_iff.mp h
  obtain ⟨hcolumn, -⟩ := Option.filter_eq_some_iff.mp hcolumn
  rw [columnOf] at hcolumn
  split at hcolumn
  · cases hcolumn
  · obtain ⟨info, hinfo, hcolumn⟩ := Option.bind_eq_some_iff.mp hcolumn
    refine ⟨info, hinfo, column, ?_, htype⟩
    rw [Slot.column?, hp]
    exact hcolumn

/-- What is never cast keeps to every slot. -/
theorem permits_isFragment (h : c.isFragment p = .ok f) {s : Slot} :
    ∀ cast ∈ f.casts, s.Permits table cast := by
  rw [isFragment] at h
  split at h
  · cases h
    simp [Fragment.casts_of_values (values_path p)]
  · cases h
    simp [Fragment.casts_of_values (values_path p), Slot.permits_none]
  · cases h

theorem permits_geoFragment (h : c.geoFragment p = .ok f) {s : Slot} :
    ∀ cast ∈ f.casts, s.Permits table cast := by
  rw [geoFragment] at h
  split at h
  · split at h
    · cases h
    · cases h
      simp [Fragment.casts_of_values (values_path p), Slot.permits_none]
  · cases h

/-- An array is cast to the arrays of the type of the column that the filter names. -/
theorem permits_inFragment (hp : readPath c.column = .ok p) (hop : c.operator = .oneOf)
    (h : c.inFragment p (columnOf table p) = .ok f) :
    ∀ cast ∈ f.casts, (Slot.compared c).Permits table cast := by
  rw [inFragment] at h
  split at h
  · cases h
  · cases h
    simp only [Fragment.casts_append, Fragment.casts_of_values (values_listOperand p),
      Fragment.casts_cons, Fragment.casts_nil, Piece.casts, SqlValue.isVector, List.nil_append,
      List.append_nil, Bool.false_eq_true, if_false, List.mem_singleton, forall_eq]
    intro type htype
    obtain ⟨columnType, hcolumnType, rfl⟩ := Option.map_eq_some_iff.mp htype
    obtain ⟨info, hinfo, column, hcolumn, htype⟩ := exists_column hp hcolumnType
    exact ⟨info, hinfo, column, hcolumn, columnType, htype, (if_pos hop).symm⟩

/-- A compared value is cast to the type of the column that the filter names. -/
theorem permits_binaryFragment (hp : readPath c.column = .ok p) (hop : c.operator ≠ .oneOf)
    {symbol : String} (h : c.binaryFragment p (columnOf table p) symbol = .ok f) :
    ∀ cast ∈ f.casts, (Slot.compared c).Permits table cast := by
  rcases binaryFragment_eq_ok h with ⟨-, -, rfl⟩ | ⟨-, -, rfl⟩ | ⟨-, rfl⟩
  · simp [Fragment.casts_of_values (values_path p)]
  · simp [Fragment.casts_of_values (values_path p)]
  · simp only [Fragment.casts_append, Fragment.casts_of_values (values_comparisonOperands p _ _),
      Fragment.casts_cons, Fragment.casts_nil, Piece.casts, isVector_comparisonOperands,
      List.nil_append, List.append_nil, Bool.false_eq_true, if_false, List.mem_singleton, forall_eq]
    intro type htype
    obtain ⟨info, hinfo, column, hcolumn, htype⟩ := exists_column hp htype
    exact ⟨info, hinfo, column, hcolumn, type, htype, (if_neg hop).symm⟩

/-- The values of a filter are cast to the type of its column, if at all. -/
theorem typedBy (h : c.fragment table = .ok f) : f.TypedBy table c.slots := by
  have hpermits : ∀ cast ∈ f.casts, (Slot.compared c).Permits table cast := by
    rw [fragment_eq_bind] at h
    obtain ⟨p, hp, h⟩ := bind_eq_ok_iff.mp h
    rw [conditionOf] at h
    split at h
    next => exact permits_isFragment h
    next hop => exact permits_inFragment hp hop h
    next => exact permits_geoFragment h
    next hop _ =>
      split at h
      · exact permits_binaryFragment hp hop h
      · cases h
  rw [Fragment.TypedBy, slots, ← length_values h, ← Fragment.length_casts]
  exact forall₂_replicate hpermits

end Filter

/-! ## Typed conditions -/

namespace Fragment.TypedBy

variable {slots slots' : List Slot}

/-- A fragment without values has no slots. -/
theorem of_values (h : f.values = []) : f.TypedBy table [] := by
  rw [TypedBy, casts_of_values h]
  exact .nil

/-- The slots of two fragments follow one another as their values do. -/
theorem append (hf : f.TypedBy table slots) (hg : g.TypedBy table slots') :
    (f ++ g).TypedBy table (slots ++ slots') := by
  rw [TypedBy, casts_append]
  exact List.rel_append hf hg

/-- Items that are typed one by one are typed together. -/
theorem join {α : Type} {as : List α} {fs : List Fragment} {slots : α → List Slot}
    (h : List.Forall₂ (fun a f ↦ TypedBy table (slots a) f) as fs) (sep : String) :
    (Fragment.join sep fs).TypedBy table (as.flatMap slots) := by
  rw [TypedBy, casts_join]
  exact List.rel_flatMap h fun _ _ hf ↦ hf

end Fragment.TypedBy

/-- A fragment keeps to the slots of the part in which all of its values are. -/
theorem Fragment.BindsIn.typedBy {w : Fragment} {slots : List Slot} (h : w.BindsIn f)
    (hw : w.TypedBy table slots) : f.TypedBy table slots := by
  obtain ⟨a, b, ha, hb, rfl⟩ := h
  have htyped := (Fragment.TypedBy.of_values ha).append (hw.append (.of_values hb))
  rwa [List.nil_append, List.append_nil] at htyped

/-- The values of a part are those of its filters. -/
theorem Part.typedBy {part : Part} (h : part.fragment table = .ok f) :
    f.TypedBy table (part.filters.flatMap Filter.slots) := by
  cases part with
  | alone c =>
    rw [filters, List.flatMap_singleton]
    exact Filter.typedBy h
  | anyOf n cs =>
    obtain ⟨fs, hfs, h⟩ := bind_eq_ok_iff.mp h
    cases h
    have hfilters := (mapM_eq_ok_iff.mp hfs).imp fun _ _ ↦ Filter.typedBy
    rw [Fragment.TypedBy, Fragment.casts_paren]
    exact Fragment.TypedBy.join hfilters " OR "

/-- The values of a condition keep to the slots of its filters. -/
theorem typedBy_whereClause {cs : List Filter} (h : whereClause table cs = .ok f) :
    f.TypedBy table (filterSlots cs) := by
  obtain ⟨rfl, rfl⟩ | ⟨condition, hcondition, rfl⟩ := whereClause_eq_ok_iff.mp h
  · exact .nil
  · obtain ⟨-, fs, hfs, rfl⟩ := whereFragment_eq_some_iff.mp hcondition
    have hparts := (mapM_eq_ok_iff.mp hfs).imp fun _ _ ↦ Part.typedBy
    rw [filterSlots, List.flatMap_assoc]
    exact Fragment.TypedBy.join hparts " AND "

/-! ## Statements without metadata -/

namespace Request

/-- What the values of a statement are for, in the order of their placeholders. -/
def slots : Request → List Slot
  | select q | rows q | count q | explain q => filterSlots q.filters
  | insert row => row.map fun p ↦ .assigned p.1
  | update row fs => (row.map fun p ↦ .assigned p.1) ++ filterSlots fs
  | delete fs => filterSlots fs

/-- The references that are checked against the metadata. -/
def checkedColumns : Request → List String
  | select q | rows q | count q => q.references
  | explain q => q.unpaged.references
  | insert row => row.map (·.1)
  | update row fs => row.map (·.1) ++ fs.map (·.column)
  | delete fs => fs.map (·.column)

end Request

namespace Target

/-- A table whose metadata is not known. -/
def untyped (t : Target) : Target := { t with info := none }

variable {t : Target} {q : Query} {row : List (String × SqlValue)} {fs : List Filter}

/-- The same for the condition of a statement to a table. -/
theorem whereClause_untyped (t : Target) (fs : List Filter) :
    whereClause t.untyped.info fs = (whereClause t.info fs).map Fragment.untyped :=
  RowGate.whereClause_untyped t.info fs

/-- A SELECT whose references pass is the same without metadata, but for its casts. -/
theorem selectWith_untyped {hidden : List HiddenKey} (hhidden : ∀ k ∈ hidden, k.expr.values = [])
    (h : t.validate q = .ok ()) :
    t.untyped.selectWith q hidden = (t.selectWith q hidden).map Fragment.untyped := by
  rw [selectWith, selectWith, h]
  refine bind_eq_map_bind fun _ _ ↦ ?_
  refine bind_eq_map_bind fun _ _ ↦ ?_
  refine bind_eq_map_bind fun items hitems ↦ ?_
  refine bind_eq_map_bind fun source hsource ↦ ?_
  rw [whereClause_untyped, map_bind_eq]
  refine bind_eq_map_bind fun condition _ ↦ ?_
  refine bind_eq_map_bind fun groups hgroups ↦ ?_
  refine bind_eq_map_bind fun order horder ↦ congrArg Except.ok ?_
  have hkeys := Fragment.untyped_of_values (values_hiddenItems hhidden)
  rw [SelectParts.hiddenItems] at hkeys
  simp only [Fragment.untyped_cons, Fragment.untyped_append, Piece.untyped, hkeys,
    Fragment.untyped_of_values (values_selectClause hitems),
    Fragment.untyped_of_values (values_fragment hsource),
    Fragment.untyped_of_values (isClause_groupByClause hgroups).1,
    Fragment.untyped_of_values (isClause_orderByClause horder).1,
    Fragment.untyped_of_values (pageClause_spec q).1]

/-- A page whose references pass is the same without metadata, but for its casts. -/
theorem rowsFragment_untyped (h : t.validate q = .ok ()) :
    t.untyped.rowsFragment q = (t.rowsFragment q).map Fragment.untyped := by
  rw [rowsFragment, rowsFragment]
  refine bind_eq_map_bind fun keys hkeys ↦ ?_
  rw [selectWith_untyped (values_keys hkeys) h, map_bind_eq]
  refine bind_eq_map_bind fun inner _ ↦ congrArg Except.ok ?_
  have hlist := Fragment.untyped_of_values (isClause_documentList keys).1
  rw [documentList] at hlist
  have hlength : keys.length = q.order.length := (hiddenKeys_eq_ok hkeys).1.length_eq.symm
  have horder := Fragment.untyped_of_values (isClause_outerOrder hlength).1
  simp only [Fragment.untyped_append, hlist, Fragment.untyped_cons, Piece.untyped, horder]

/-- A count whose references pass is the same without metadata, but for its casts. -/
theorem countFragment_untyped (h : t.validate q = .ok ()) :
    t.untyped.countFragment q = (t.countFragment q).map Fragment.untyped := by
  rw [countFragment, countFragment, h]
  refine bind_eq_map_bind fun _ _ ↦ ?_
  refine bind_eq_map_bind fun _ _ ↦ ?_
  refine bind_eq_map_bind fun source hsource ↦ ?_
  have hsource := Fragment.untyped_of_values (values_fragment hsource)
  rw [whereClause_untyped, map_bind_eq]
  refine bind_eq_map_bind fun condition _ ↦ ?_
  split
  · refine bind_eq_map_bind fun groups hgroups ↦ congrArg Except.ok ?_
    have hgroups := Fragment.untyped_of_values (isClause_groupByClause hgroups).1
    simp [hsource, hgroups]
  · exact congrArg Except.ok (by simp [hsource])

/-- A plan is asked for alike without metadata, if the query without order and page passes. -/
theorem explainFragment_untyped (h : t.validate q.unpaged = .ok ()) :
    t.untyped.explainFragment q = (t.explainFragment q).map Fragment.untyped := by
  have hselect : t.untyped.selectFragment q.unpaged =
      (t.selectFragment q.unpaged).map Fragment.untyped :=
    selectWith_untyped (List.forall_mem_nil _) h
  rw [Query.unpaged] at hselect
  rw [explainFragment, explainFragment, hselect, map_bind_eq]
  exact bind_eq_map_bind fun f _ ↦ rfl

/-- Without metadata the values of a row are bound in the same places. -/
theorem untyped_assignedValues (t : Target) (row : List (String × SqlValue)) :
    (Fragment.join ", " (row.map fun p ↦ [Piece.bound p.2 (t.columnType? p.1)])).untyped =
      Fragment.join ", " (row.map fun p ↦ [Piece.bound p.2 (t.untyped.columnType? p.1)]) := by
  rw [Fragment.untyped_join, List.map_map]
  rfl

/-- An INSERT whose columns pass is the same without metadata, but for its casts. -/
theorem insertFragment_untyped (h : t.checkColumns (row.map (·.1)) = .ok ()) :
    t.untyped.insertFragment row = (t.insertFragment row).map Fragment.untyped := by
  rw [insertFragment, insertFragment, h]
  refine bind_eq_map_bind fun source hsource ↦ ?_
  have hsource := Fragment.untyped_of_values (values_fragment hsource)
  split
  · exact congrArg Except.ok (by simp [hsource])
  · refine bind_eq_map_bind fun _ _ ↦ ?_
    refine bind_eq_map_bind fun names _ ↦ congrArg Except.ok ?_
    simp [hsource, untyped_assignedValues, Fragment.untyped_of_values (values_names names)]

/-- An assignment without metadata is the same, and not cast. -/
theorem assignment_untyped (t : Target) (p : String × SqlValue) :
    t.untyped.assignment p = (t.assignment p).map Fragment.untyped := by
  rw [assignment, assignment]
  exact bind_eq_map_bind fun i _ ↦ rfl

/-- An UPDATE whose references pass is the same without metadata, but for its casts. -/
theorem updateFragment_untyped (h : t.checkColumns (row.map (·.1) ++ fs.map (·.column)) = .ok ()) :
    t.untyped.updateFragment row fs = (t.updateFragment row fs).map Fragment.untyped := by
  rw [updateFragment, updateFragment, h]
  split
  · rfl
  · refine bind_eq_map_bind fun _ _ ↦ ?_
    refine bind_eq_map_bind fun _ _ ↦ ?_
    rw [mapM_eq_map t.assignment_untyped, map_bind_eq]
    refine bind_eq_map_bind fun assignments _ ↦ ?_
    refine bind_eq_map_bind fun source hsource ↦ ?_
    rw [whereClause_untyped, map_bind_eq]
    refine bind_eq_map_bind fun condition _ ↦ congrArg Except.ok ?_
    simp [Fragment.untyped_of_values (values_fragment hsource), Fragment.untyped_join]

/-- A DELETE whose references pass is the same without metadata, but for its casts. -/
theorem deleteFragment_untyped (h : t.checkColumns (fs.map (·.column)) = .ok ()) :
    t.untyped.deleteFragment fs = (t.deleteFragment fs).map Fragment.untyped := by
  rw [deleteFragment, deleteFragment, h]
  refine bind_eq_map_bind fun _ _ ↦ ?_
  refine bind_eq_map_bind fun _ _ ↦ ?_
  refine bind_eq_map_bind fun source hsource ↦ ?_
  rw [whereClause_untyped, map_bind_eq]
  refine bind_eq_map_bind fun condition _ ↦ congrArg Except.ok ?_
  simp [Fragment.untyped_of_values (values_fragment hsource)]

variable {r : Request}

/-- If the references of a request pass, its statement is the one without metadata, but for the
types of columns. -/
theorem fragmentOf_untyped (h : t.checkColumns r.checkedColumns = .ok ()) :
    t.untyped.fragmentOf r = (t.fragmentOf r).map Fragment.untyped := by
  cases r with
  | select q => exact selectWith_untyped (List.forall_mem_nil _) h
  | rows q => exact rowsFragment_untyped h
  | count q => exact countFragment_untyped h
  | explain q => exact explainFragment_untyped h
  | insert row => exact insertFragment_untyped h
  | update row fs => exact updateFragment_untyped h
  | delete fs => exact deleteFragment_untyped h

/-- What is compiled has passed the check of its references. -/
theorem checked_of_fragmentOf (h : t.fragmentOf r = .ok f) :
    t.checkColumns r.checkedColumns = .ok () := by
  cases r with
  | select q => exact (selectWith_eq_ok_iff.mp h).2.1
  | rows q =>
    obtain ⟨keys, -, inner, hinner, -⟩ := rowsFragment_eq_ok_iff.mp h
    exact (selectWith_eq_ok_iff.mp hinner).2.1
  | count q => exact (countFragment_eq_ok_iff.mp h).2.1
  | explain q =>
    obtain ⟨g, hg, -⟩ := explainFragment_eq_ok_iff.mp h
    exact (selectWith_eq_ok_iff.mp hg).2.1
  | insert row =>
    obtain ⟨source, -, h⟩ := insertFragment_eq_ok_iff.mp h
    split at h
    next hrow =>
      rw [List.isEmpty_iff.mp hrow]
      exact checkColumns_eq_ok_iff.mpr fun _ _ ↦ List.forall_mem_nil _
    next => exact h.1
  | update row fs => exact (updateFragment_eq_ok_iff.mp h).2.2.1
  | delete fs => exact (deleteFragment_eq_ok_iff.mp h).2.1

/-! ## Typed statements -/

/-- All values of a SELECT are those of its condition. -/
theorem typedBy_selectWith {hidden : List HiddenKey} (hhidden : ∀ k ∈ hidden, k.expr.values = [])
    (h : t.selectWith q hidden = .ok f) : f.TypedBy t.info (filterSlots q.filters) := by
  obtain ⟨-, -, s, hs, rfl⟩ := selectWith_eq_ok_iff.mp h
  exact (hs.bindsIn hhidden).typedBy (typedBy_whereClause hs.condition)

/-- All values of a page are those of its inner SELECT. -/
theorem typedBy_rowsFragment (h : t.rowsFragment q = .ok f) :
    f.TypedBy t.info (filterSlots q.filters) := by
  obtain ⟨keys, hkeys, inner, hinner, rfl⟩ := rowsFragment_eq_ok_iff.mp h
  obtain ⟨-, -, s, hs, rfl⟩ := selectWith_eq_ok_iff.mp hinner
  have hlength : keys.length = q.order.length := (hiddenKeys_eq_ok hkeys).1.length_eq.symm
  exact (bindsIn_pageFragment hlength (hs.bindsIn (values_keys hkeys))).typedBy
    (typedBy_whereClause hs.condition)

/-- All values of a count are those of its condition. -/
theorem typedBy_countFragment (h : t.countFragment q = .ok f) :
    f.TypedBy t.info (filterSlots q.filters) := by
  obtain ⟨-, -, source, hsource, condition, hcondition, groups, hgroups, rfl⟩ :=
    countFragment_eq_ok_iff.mp h
  have hvalues : ∀ g ∈ groups, g.values = [] := by
    rintro g ⟨⟩
    split at hgroups
    · obtain ⟨g, hg, ⟨⟩⟩ := map_eq_ok_iff.mp hgroups
      exact (isClause_groupByClause hg).1
    · cases hgroups
  exact (bindsIn_totalFragment (values_fragment hsource) hvalues).typedBy
    (typedBy_whereClause hcondition)

theorem typedBy_explainFragment (h : t.explainFragment q = .ok f) :
    f.TypedBy t.info (filterSlots q.filters) := by
  obtain ⟨g, hg, rfl⟩ := explainFragment_eq_ok_iff.mp h
  exact typedBy_selectWith (q := q.unpaged) (f := g) (List.forall_mem_nil _) hg

/-- An assigned value is cast to the type of its column, if at all. -/
theorem typedBy_bound (t : Target) (p : String × SqlValue) :
    Fragment.TypedBy t.info [.assigned p.1] [.bound p.2 (t.columnType? p.1)] := by
  refine .cons (fun type htype ↦ ?_) .nil
  split at htype
  · cases htype
  · obtain ⟨column, hcolumn, htype⟩ := Option.bind_eq_some_iff.mp htype
    obtain ⟨info, hinfo, hcolumn⟩ := Option.bind_eq_some_iff.mp hcolumn
    exact ⟨info, hinfo, column, hcolumn, type, htype, rfl⟩

theorem flatMap_assigned (row : List (String × SqlValue)) :
    (row.flatMap fun p ↦ [Slot.assigned p.1]) = row.map fun p ↦ .assigned p.1 :=
  List.flatMap_pure_eq_map _ row

/-- The values of a row are cast to the types of their columns. -/
theorem typedBy_insertFragment (h : t.insertFragment row = .ok f) :
    f.TypedBy t.info (row.map fun p ↦ .assigned p.1) := by
  obtain ⟨source, hsource, h⟩ := insertFragment_eq_ok_iff.mp h
  have hsource := values_fragment hsource
  split at h
  next hrow =>
    rw [h, List.isEmpty_iff.mp hrow]
    exact .of_values (by simp [Fragment.values, hsource])
  next =>
    obtain ⟨-, names, -, rfl⟩ := h
    have hrow : List.Forall₂ (fun p f ↦ Fragment.TypedBy t.info [Slot.assigned p.1] f) row
        (row.map fun p ↦ [Piece.bound p.2 (t.columnType? p.1)]) := by
      rw [List.forall₂_map_right_iff, List.forall₂_same]
      exact fun p _ ↦ t.typedBy_bound p
    have hvalues := Fragment.TypedBy.join hrow ", "
    rw [flatMap_assigned] at hvalues
    refine Fragment.BindsIn.typedBy ⟨.fixed "INSERT INTO " :: source ++ .fixed " (" ::
      Fragment.join ", " (names.map fun i ↦ [Piece.name i]) ++ [.fixed ") VALUES ("],
      [.fixed ") RETURNING *"], ?_, rfl, by simp [insertText]⟩ hvalues
    simp [Fragment.values, hsource, values_names]

theorem typedBy_assignments {assignments : List Fragment}
    (h : row.mapM t.assignment = .ok assignments) :
    (Fragment.join ", " assignments).TypedBy t.info (row.map fun p ↦ .assigned p.1) := by
  rw [← flatMap_assigned]
  refine Fragment.TypedBy.join ((mapM_eq_ok_iff.mp h).imp fun p f hf ↦ ?_) ", "
  obtain ⟨i, -, rfl⟩ := assignment_eq_ok_iff.mp hf
  exact t.typedBy_bound p

/-- The assigned values come first, and those of the condition behind them. -/
theorem typedBy_updateFragment (h : t.updateFragment row fs = .ok f) :
    f.TypedBy t.info ((row.map fun p ↦ .assigned p.1) ++ filterSlots fs) := by
  obtain ⟨-, -, -, assignments, hassignments, source, hsource, condition, hcondition, rfl⟩ :=
    updateFragment_eq_ok_iff.mp h
  have hvalues := (typedBy_assignments hassignments).append (typedBy_whereClause hcondition)
  refine Fragment.BindsIn.typedBy ⟨.fixed "UPDATE " :: source ++ [.fixed " SET "],
    [.fixed " RETURNING *"], ?_, rfl, by simp [updateText]⟩ hvalues
  simp [Fragment.values, values_fragment hsource]

theorem typedBy_deleteFragment (h : t.deleteFragment fs = .ok f) :
    f.TypedBy t.info (filterSlots fs) := by
  obtain ⟨-, -, source, hsource, condition, hcondition, rfl⟩ := deleteFragment_eq_ok_iff.mp h
  refine Fragment.BindsIn.typedBy ⟨.fixed "DELETE FROM " :: source, [.fixed " RETURNING *"], ?_,
    rfl, by simp [deleteText]⟩ (typedBy_whereClause hcondition)
  simp [Fragment.values, values_fragment hsource]

/-- The casts of a statement keep to its slots, whichever statement it is. -/
theorem typedBy_fragmentOf (h : t.fragmentOf r = .ok f) : f.TypedBy t.info r.slots := by
  cases r with
  | select q => exact typedBy_selectWith (List.forall_mem_nil _) h
  | rows q => exact typedBy_rowsFragment h
  | count q => exact typedBy_countFragment h
  | explain q => exact typedBy_explainFragment h
  | insert row => exact typedBy_insertFragment h
  | update row fs => exact typedBy_updateFragment h
  | delete fs => exact typedBy_deleteFragment h

/-- A statement with metadata is the one without it, with casts behind placeholders. -/
theorem annotates_of_compile {s : Statement} (h : t.compile r = .ok s) :
    ∃ plain casts, t.untyped.compile r = .ok plain ∧
      List.Forall₂ (Slot.Permits t.info) r.slots casts ∧ s.Annotates casts plain := by
  obtain ⟨f, hf, rfl⟩ := compile_eq_ok_iff.mp h
  have huntyped : t.untyped.fragmentOf r = .ok f.untyped := by
    rw [fragmentOf_untyped (checked_of_fragmentOf hf), hf]
    rfl
  exact ⟨f.untyped.statement, f.casts, compile_eq_ok_iff.mpr ⟨_, huntyped, rfl⟩,
    typedBy_fragmentOf hf, .of_fits (fits_fragmentOf hf) (fits_fragmentOf huntyped)⟩

/-- Metadata rejects nothing whose references pass its check. -/
theorem compile_of_untyped {plain : Statement} (h : t.untyped.compile r = .ok plain)
    (hchecked : t.checkColumns r.checkedColumns = .ok ()) : ∃ s, t.compile r = .ok s := by
  obtain ⟨g, hg, -⟩ := compile_eq_ok_iff.mp h
  rw [fragmentOf_untyped hchecked] at hg
  obtain ⟨f, hf, -⟩ := map_eq_ok_iff.mp hg
  exact ⟨f.statement, compile_eq_ok_iff.mpr ⟨f, hf, rfl⟩⟩

end Target

/-- Metadata only rejects and annotates. A statement that is compiled with metadata is compiled
without it, with the same values; the two texts differ in casts behind placeholders and in nothing
else, each cast to the type of the column that the value is assigned to or compared with, or to
arrays of that type for a list of values. And what is compiled without metadata is compiled with it
if each of its references passes the check. -/
theorem metadata_rejects_or_annotates (t : Target) (r : Request) :
    (∀ s, t.compile r = .ok s → ∃ plain casts, t.untyped.compile r = .ok plain ∧
      List.Forall₂ (Slot.Permits t.info) r.slots casts ∧ s.Annotates casts plain) ∧
    ∀ plain, t.untyped.compile r = .ok plain →
      (∀ info ∈ t.info, ∀ raw ∈ r.checkedColumns, info.checkColumn raw = .ok ()) →
      ∃ s, t.compile r = .ok s :=
  ⟨fun _ h ↦ Target.annotates_of_compile h, fun _ h hchecked ↦
    Target.compile_of_untyped h (Target.checkColumns_eq_ok_iff.mpr hchecked)⟩

def untypedStatement : Statement where
  sql := "UPDATE \"t\" SET \"a\" = $1 WHERE (\"a\" = $2 OR \"c\"->>'d' <> $3) " ++
    "AND \"b\" IS NULL RETURNING *"
  params := [.integer 7, .text "x", .text "y"]

/-- Of three values two are cast: the one that is assigned to a column of a plain type, and the one
that is compared with it; a member of a document has no column type. -/
theorem metadata_rejects_or_annotates_typed :
    (typedTarget.compile (.update [("a", .integer 7)] mixedFilters) = .ok typedStatement ∧
      ∃ plain casts, typedTarget.untyped.compile (.update [("a", .integer 7)] mixedFilters) =
        .ok plain ∧ List.Forall₂ (Slot.Permits typedTarget.info)
          (Request.slots (.update [("a", .integer 7)] mixedFilters)) casts ∧
        typedStatement.Annotates casts plain) ∧
    (typedTarget.untyped.compile (.update [("a", .integer 7)] mixedFilters) =
      .ok untypedStatement ∧
      (∀ info ∈ typedTarget.info, ∀ raw ∈ ["a", "a", "b", "c->>d"],
        info.checkColumn raw = .ok ()) ∧
      ∃ s, typedTarget.compile (.update [("a", .integer 7)] mixedFilters) = .ok s) := by
  have htyped : typedTarget.compile (.update [("a", .integer 7)] mixedFilters) =
      .ok typedStatement := by
    decide +kernel
  have hplain : typedTarget.untyped.compile (.update [("a", .integer 7)] mixedFilters) =
      .ok untypedStatement := by
    decide +kernel
  have hchecked : ∀ info ∈ typedTarget.info, ∀ raw ∈ ["a", "a", "b", "c->>d"],
      info.checkColumn raw = .ok () := by
    decide +kernel
  have hmetadata :=
    metadata_rejects_or_annotates typedTarget (.update [("a", .integer 7)] mixedFilters)
  exact ⟨⟨htyped, hmetadata.1 _ htyped⟩, hplain, hchecked, hmetadata.2 _ hplain hchecked⟩

end RowGate
