import RowGate.Proofs.Outcome
import RowGate.Sql.Compiler

/-! # When a statement is compiled

A statement is compiled if and only if its checks pass and its clauses are built, and then its text
is that of the clauses.
-/

namespace RowGate

/-- A name that is read is written as it is. -/
theorem readName_eq_ok_iff {raw : String} {i : Identifier} :
    readName raw = .ok i ↔ i.name = raw := by
  rw [readName, ← Identifier.ofString_eq_ok_iff]
  split
  next j hj => simp [hj]
  next f hf => simp [hf]

/-- An expression is named if its alias is read as a name. -/
theorem aliased_eq_ok_iff {expr f : Fragment} {label : String} :
    aliased expr label = .ok f ↔
      ∃ i, readName label = .ok i ∧ f = expr ++ [Piece.fixed " AS ", Piece.name i] := by
  simp only [aliased, bind_eq_ok_iff, pure_eq_ok_iff]

/-- A list of references passes if each of them does. -/
theorem TableInfo.checkColumns_eq_ok_iff {info : TableInfo} {columns : List String} :
    info.checkColumns columns = .ok () ↔ ∀ raw ∈ columns, info.checkColumn raw = .ok () := by
  induction columns with
  | nil => simp [checkColumns]
  | cons raw columns ih =>
    rw [checkColumns, bind_eq_ok_iff, exists_check_iff, ih, List.forall_mem_cons]

namespace Target

variable {t : Target} {q : Query} {row : List (String × SqlValue)} {fs : List Filter} {f : Fragment}

/-- A table is written as its name, or as the names of its schema and of itself. -/
theorem fragment_cases (h : t.fragment = .ok f) :
    (∃ i, f = [.name i]) ∨ ∃ s i, f = [.name s, .fixed ".", .name i] := by
  obtain ⟨i, -, h⟩ := bind_eq_ok_iff.mp h
  split at h
  · obtain ⟨s, -, h⟩ := bind_eq_ok_iff.mp h
    exact .inr ⟨s, i, pure_eq_ok_iff.mp h⟩
  · exact .inl ⟨i, pure_eq_ok_iff.mp h⟩

/-- Without metadata every reference passes. -/
theorem checkColumns_eq_ok_iff {columns : List String} : t.checkColumns columns = .ok () ↔
    ∀ info ∈ t.info, ∀ raw ∈ columns, info.checkColumn raw = .ok () := by
  rw [checkColumns]
  cases t.info with
  | none => simp
  | some info =>
    have hlift : liftValidation (info.checkColumns columns) = .ok () ↔
        info.checkColumns columns = .ok () := by
      cases info.checkColumns columns <;> simp [liftValidation]
    simp [hlift, TableInfo.checkColumns_eq_ok_iff]

/-- Two lists of references pass together if each of them does. -/
theorem checkColumns_append_eq_ok_iff {columns columns' : List String} :
    t.checkColumns (columns ++ columns') = .ok () ↔
      t.checkColumns columns = .ok () ∧ t.checkColumns columns' = .ok () := by
  simp only [checkColumns_eq_ok_iff, List.forall_mem_append, ← forall_and]

theorem validate_eq (t : Target) (q : Query) : t.validate q = t.checkColumns q.references := rfl

/-- The select list, the table and the clauses of a SELECT. -/
structure SelectParts where
  items : Fragment
  table : Fragment
  condition : Fragment
  groups : Fragment
  order : Fragment

namespace SelectParts

/-- The clauses of a query to a table. -/
structure Of (t : Target) (q : Query) (s : SelectParts) : Prop where
  items : selectClause q = .ok s.items
  table : t.fragment = .ok s.table
  condition : whereClause t.info q.filters = .ok s.condition
  groups : groupByClause q.groupingKeys = .ok s.groups
  order : orderByClause q.order = .ok s.order

/-- The hidden columns behind a select list. -/
def hiddenItems (hidden : List HiddenKey) : Fragment :=
  hidden.flatMap fun h ↦ .fixed ", " :: h.expr ++ [.fixed " AS ", .name h.name]

/-- The SELECT of a query with hidden columns. -/
def fragment (s : SelectParts) (q : Query) (hidden : List HiddenKey) : Fragment :=
  .fixed "SELECT " :: s.items ++ hiddenItems hidden ++ .fixed " FROM " :: s.table ++ s.condition ++
    s.groups ++ s.order ++ pageClause q

end SelectParts

/-- A SELECT is compiled if its filters are not too many, its references pass and its clauses are
built. -/
theorem selectWith_eq_ok_iff {hidden : List HiddenKey} :
    t.selectWith q hidden = .ok f ↔ checkFilterCount q.filters = .ok () ∧ t.validate q = .ok () ∧
      ∃ s : SelectParts, s.Of t q ∧ f = s.fragment q hidden := by
  simp only [selectWith, bind_eq_ok_iff, exists_check_iff, pure_eq_ok_iff]
  constructor
  · rintro ⟨hcount, hvalid, items, hitems, table, htable, condition, hcondition, groups, hgroups,
      order, horder, rfl⟩
    exact ⟨hcount, hvalid, ⟨items, table, condition, groups, order⟩,
      ⟨hitems, htable, hcondition, hgroups, horder⟩, rfl⟩
  · rintro ⟨hcount, hvalid, s, hs, rfl⟩
    exact ⟨hcount, hvalid, _, hs.items, _, hs.table, _, hs.condition, _, hs.groups, _, hs.order,
      rfl⟩

/-- The text of a page around its SELECT. -/
def pageFragment (q : Query) (keys : List HiddenKey) (inner : Fragment) : Fragment :=
  .fixed "SELECT to_jsonb(_rows)" :: (keys.flatMap fun k ↦ [.fixed " - ", .key k.name.name]) ++
    .fixed " FROM (" :: inner ++ .fixed ") AS _rows" :: outerOrder q.order keys

/-- A page is compiled if its keys are built and the SELECT with them is. -/
theorem rowsFragment_eq_ok_iff :
    t.rowsFragment q = .ok f ↔ ∃ keys, hiddenKeys q 1 q.order = .ok keys ∧
      ∃ inner, t.selectWith q keys = .ok inner ∧ f = pageFragment q keys inner := by
  simp only [rowsFragment, bind_eq_ok_iff, pure_eq_ok_iff]
  rfl

/-- The text of a count; `groups` is GROUP BY with its keyword, if the query has groups. -/
def totalFragment (table condition : Fragment) : Option Fragment → Fragment
  | some groups => .fixed "SELECT COUNT(*) AS total FROM (SELECT 1 FROM " :: table ++ condition ++
      groups ++ [.fixed ") AS _groups"]
  | none => .fixed "SELECT COUNT(*) AS total FROM " :: table ++ condition

/-- A count has the checks of a SELECT, and of its clauses the table, the condition and the groups.
-/
theorem countFragment_eq_ok_iff :
    t.countFragment q = .ok f ↔ checkFilterCount q.filters = .ok () ∧ t.validate q = .ok () ∧
      ∃ table, t.fragment = .ok table ∧ ∃ condition, whereClause t.info q.filters = .ok condition ∧
      ∃ groups, (if q.isAggregate then (groupByClause q.groupingKeys).map some else .ok none) =
        .ok groups ∧ f = totalFragment table condition groups := by
  simp only [countFragment, bind_eq_ok_iff, exists_check_iff]
  split
  · simp only [bind_eq_ok_iff, pure_eq_ok_iff, map_eq_ok_iff, exists_exists_and_eq_and]
    rfl
  · simp only [pure_eq_ok_iff, Except.ok.injEq, exists_eq_left']
    rfl

/-- The plan is that of the query without order and page. -/
theorem explainFragment_eq_ok_iff :
    t.explainFragment q = .ok f ↔
      ∃ g, t.selectFragment { q with order := [], limit := none, offset := none } = .ok g ∧
        f = .fixed "EXPLAIN (FORMAT JSON) " :: g := by
  simp only [explainFragment, bind_eq_ok_iff, pure_eq_ok_iff]

/-- The text of an INSERT with columns. -/
def insertText (t : Target) (row : List (String × SqlValue)) (table : Fragment)
    (names : List Identifier) : Fragment :=
  .fixed "INSERT INTO " :: table ++ .fixed " (" ::
    Fragment.join ", " (names.map fun i ↦ [Piece.name i]) ++ .fixed ") VALUES (" ::
    Fragment.join ", " (row.map fun p ↦ [Piece.bound p.2 (t.columnType? p.1)]) ++
    [.fixed ") RETURNING *"]

/-- A row is inserted if it has no columns, or if they pass and are read as names. -/
theorem insertFragment_eq_ok_iff :
    t.insertFragment row = .ok f ↔ ∃ table, t.fragment = .ok table ∧
      if row.isEmpty then
        f = .fixed "INSERT INTO " :: table ++ [.fixed " DEFAULT VALUES RETURNING *"]
      else t.checkColumns (row.map (·.1)) = .ok () ∧
        ∃ names, (row.mapM fun p ↦ readName p.1) = .ok names ∧
          f = t.insertText row table names := by
  simp only [insertFragment, bind_eq_ok_iff]
  split
  · simp only [pure_eq_ok_iff]
  · simp only [bind_eq_ok_iff, exists_check_iff, pure_eq_ok_iff]
    rfl

/-- An assignment is a name and a placeholder with the type of its column. -/
theorem assignment_eq_ok_iff {p : String × SqlValue} :
    t.assignment p = .ok f ↔ ∃ i, readName p.1 = .ok i ∧
      f = [.name i, .fixed " = ", .bound p.2 (t.columnType? p.1)] := by
  simp only [assignment, bind_eq_ok_iff, pure_eq_ok_iff]

/-- The text of an UPDATE. -/
def updateText (assignments : List Fragment) (table condition : Fragment) : Fragment :=
  .fixed "UPDATE " :: table ++ .fixed " SET " :: Fragment.join ", " assignments ++ condition ++
    [.fixed " RETURNING *"]

/-- Rows are updated if something is assigned, with the checks of both the columns and the filters.
-/
theorem updateFragment_eq_ok_iff :
    t.updateFragment row fs = .ok f ↔ row ≠ [] ∧ checkFilterCount fs = .ok () ∧
      t.checkColumns (row.map (·.1) ++ fs.map (·.column)) = .ok () ∧
      ∃ assignments, row.mapM t.assignment = .ok assignments ∧ ∃ table, t.fragment = .ok table ∧
      ∃ condition, whereClause t.info fs = .ok condition ∧
        f = updateText assignments table condition := by
  rw [updateFragment]
  split
  next hrow =>
    rw [List.isEmpty_iff] at hrow
    exact ⟨(nomatch ·), fun ⟨hne, _⟩ ↦ absurd hrow hne⟩
  next hrow =>
    rw [List.isEmpty_iff] at hrow
    simp only [bind_eq_ok_iff, exists_check_iff, pure_eq_ok_iff, hrow, ne_eq, not_false_eq_true,
      true_and]
    rfl

/-- The text of a DELETE. -/
def deleteText (table condition : Fragment) : Fragment :=
  .fixed "DELETE FROM " :: table ++ condition ++ [.fixed " RETURNING *"]

/-- Rows are deleted under the checks of the filters. -/
theorem deleteFragment_eq_ok_iff :
    t.deleteFragment fs = .ok f ↔ checkFilterCount fs = .ok () ∧
      t.checkColumns (fs.map (·.column)) = .ok () ∧ ∃ table, t.fragment = .ok table ∧
      ∃ condition, whereClause t.info fs = .ok condition ∧ f = deleteText table condition := by
  simp only [deleteFragment, bind_eq_ok_iff, exists_check_iff, pure_eq_ok_iff]
  rfl

end Target

end RowGate
