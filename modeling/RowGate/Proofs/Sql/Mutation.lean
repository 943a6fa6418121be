import RowGate.Proofs.Sql.Agreement

/-! # Changes of the selected rows

The rows that a query selects are those that an UPDATE with its filters writes to and that a DELETE
with its filters removes: the three statements address one table under one condition, which is
written behind other values in an UPDATE only.
-/

namespace RowGate

/-- The query for the rows that pass the filters. -/
def Query.ofFilters (fs : List Filter) : Query := { filters := fs }

namespace Target

variable {t : Target} {fs : List Filter} {row : List (String × SqlValue)}

/-- The table and the condition of the rows that pass the filters, with the checks before them. -/
def scope (t : Target) (fs : List Filter) : Except QueryError (Fragment × Fragment) := do
  checkFilterCount fs
  t.checkColumns (fs.map (·.column))
  let source ← t.fragment
  let condition ← whereClause t.info fs
  return (source, condition)

/-- The columns may be written to: they are names, and the metadata knows them if there is any. -/
structure Assigns (t : Target) (columns : List String) : Prop where
  known : t.checkColumns columns = .ok ()
  named : ∀ c ∈ columns, nameFault? c = none

theorem scope_eq_ok_iff {source condition : Fragment} :
    t.scope fs = .ok (source, condition) ↔ checkFilterCount fs = .ok () ∧
      t.checkColumns (fs.map (·.column)) = .ok () ∧ t.fragment = .ok source ∧
      whereClause t.info fs = .ok condition := by
  simp only [scope, bind_eq_ok_iff, exists_check_iff, pure_eq_ok_iff]
  constructor
  · rintro ⟨hcount, hcolumns, _, hsource, _, hcondition, ⟨⟩⟩
    exact ⟨hcount, hcolumns, hsource, hcondition⟩
  · rintro ⟨hcount, hcolumns, hsource, hcondition⟩
    exact ⟨hcount, hcolumns, source, hsource, condition, hcondition, rfl⟩

/-- The text of a SELECT without clauses of its own. -/
def selectText (source condition : Fragment) : Fragment :=
  .fixed "SELECT " :: .fixed "*" :: .fixed " FROM " :: source ++ condition

theorem references_ofFilters (fs : List Filter) :
    (Query.ofFilters fs).references = fs.map (·.column) := by
  simp [Query.ofFilters, Query.references, Query.plainColumns]

/-- A SELECT has nothing to check and to write beside the scope of its filters. -/
theorem selectFragment_ofFilters (t : Target) (fs : List Filter) :
    t.selectFragment (.ofFilters fs) = (t.scope fs).map fun s ↦ selectText s.1 s.2 := by
  rw [selectFragment, selectWith, scope, validate_eq, references_ofFilters]
  refine bind_eq_map_bind fun _ _ ↦ bind_eq_map_bind fun _ _ ↦ ?_
  have hitems : selectClause (.ofFilters fs) = pure [.fixed "*"] := rfl
  rw [hitems, pure_bind]
  refine bind_eq_map_bind fun source _ ↦ bind_eq_map_bind fun condition _ ↦ ?_
  have hgroups : groupByClause (Query.ofFilters fs).groupingKeys = pure [] := rfl
  have horder : orderByClause (Query.ofFilters fs).order = pure [] := rfl
  have hpage : pageClause (.ofFilters fs) = [] := rfl
  rw [hgroups, horder, hpage, pure_bind, pure_bind]
  refine congrArg Except.ok ?_
  simp [selectText]

theorem deleteFragment_eq_map (t : Target) (fs : List Filter) :
    t.deleteFragment fs = (t.scope fs).map fun s ↦ deleteText s.1 s.2 := by
  rw [deleteFragment, scope]
  refine bind_eq_map_bind fun _ _ ↦ bind_eq_map_bind fun _ _ ↦ ?_
  exact bind_eq_map_bind fun source _ ↦ bind_eq_map_bind fun condition _ ↦ rfl

/-- An UPDATE has its columns to check beside the scope of its filters, and assigns to them. -/
theorem updateFragment_eq_ok_iff_scope (hrow : row ≠ []) {f : Fragment} :
    t.updateFragment row fs = .ok f ↔ t.Assigns (row.map (·.1)) ∧
      ∃ source condition, t.scope fs = .ok (source, condition) ∧
      ∃ assignments, row.mapM t.assignment = .ok assignments ∧
        f = updateText assignments source condition := by
  rw [updateFragment_eq_ok_iff, checkColumns_append_eq_ok_iff]
  constructor
  · rintro ⟨-, hcount, ⟨hknown, hcolumns⟩, assignments, hassignments, source, hsource, condition,
      hcondition, rfl⟩
    refine ⟨⟨hknown, fun c hc ↦ ?_⟩, source, condition,
      scope_eq_ok_iff.mpr ⟨hcount, hcolumns, hsource, hcondition⟩, assignments, hassignments, rfl⟩
    obtain ⟨p, hp, rfl⟩ := List.mem_map.mp hc
    obtain ⟨f, -, hf⟩ := exists_mem_of_mapM hassignments hp
    obtain ⟨i, hi, -⟩ := assignment_eq_ok_iff.mp hf
    exact readName_eq_ok_iff.mp hi ▸ i.sound
  · rintro ⟨⟨hknown, -⟩, source, condition, hscope, assignments, hassignments, rfl⟩
    obtain ⟨hcount, hcolumns, hsource, hcondition⟩ := scope_eq_ok_iff.mp hscope
    exact ⟨hrow, hcount, ⟨hknown, hcolumns⟩, assignments, hassignments, source, hsource, condition,
      hcondition, rfl⟩

theorem update_of_scope_error (hrow : row ≠ []) {e : QueryError} (h : t.scope fs = .error e) :
    ∃ e', t.update row fs = .error e' := by
  cases hupdate : t.updateFragment row fs with
  | error e' =>
    rw [update, hupdate]
    exact ⟨e', rfl⟩
  | ok f =>
    obtain ⟨-, source, condition, hscope, -⟩ := (updateFragment_eq_ok_iff_scope hrow).mp hupdate
    cases h.symm.trans hscope

/-- Every assignment to columns that may be written to has a text. -/
theorem Assigns.exists_assignments (h : t.Assigns (row.map (·.1))) :
    ∃ assignments, row.mapM t.assignment = .ok assignments := by
  refine exists_mapM fun p hp ↦ ?_
  have hname : nameFault? p.1 = none := h.named p.1 (List.mem_map_of_mem hp)
  exact ⟨_, assignment_eq_ok_iff.mpr ⟨⟨p.1, hname⟩, readName_eq_ok_iff.mpr rfl, rfl⟩⟩

/-- Assignments bind the values of the row in their order. -/
theorem values_assignments {assignments : List Fragment}
    (h : row.mapM t.assignment = .ok assignments) :
    (Fragment.join ", " assignments).values = row.map (·.2) := by
  rw [values_join]
  replace h := mapM_eq_ok_iff.mp h
  induction h with
  | nil => rfl
  | cons hp _ ih =>
    obtain ⟨i, -, rfl⟩ := assignment_eq_ok_iff.mp hp
    rw [List.flatMap_cons, ih]
    rfl

/-! ## The texts -/

section

variable {source condition : Fragment}

theorem statement_selectText (hsource : source.values = []) :
    (selectText source condition).statement =
      ⟨"SELECT * FROM " ++ source.text ++ condition.text, condition.values⟩ := by
  have hhead : "SELECT * FROM " = "SELECT " ++ "*" ++ " FROM " := rfl
  rw [hhead]
  simp only [selectText, Fragment.statement, Fragment.text, List.cons_append, Fragment.textFrom,
    Fragment.textFrom_append, Fragment.values, Fragment.values_append, hsource, List.length_nil,
    List.nil_append, Nat.add_zero, String.append_assoc]

theorem statement_deleteText (hsource : source.values = []) :
    (deleteText source condition).statement =
      ⟨"DELETE FROM " ++ source.text ++ condition.text ++ " RETURNING *", condition.values⟩ := by
  simp [deleteText, Fragment.statement, Fragment.text, Fragment.textFrom,
    Fragment.textFrom_append, Fragment.values, hsource, String.append_assoc]

/-- The condition of an UPDATE goes on counting behind the assigned values. -/
theorem statement_updateText (hsource : source.values = []) {assignments : List Fragment}
    (h : row.mapM t.assignment = .ok assignments) :
    (updateText assignments source condition).statement =
      ⟨"UPDATE " ++ source.text ++ " SET " ++ (Fragment.join ", " assignments).text ++
        condition.textFrom row.length ++ " RETURNING *", row.map (·.2) ++ condition.values⟩ := by
  simp [updateText, Fragment.statement, Fragment.text, Fragment.textFrom,
    Fragment.textFrom_append, Fragment.values, hsource, values_assignments h, String.append_assoc]

end

end Target

/-- In a condition all placeholders are greater by the number of values before it. -/
theorem renumber_whereClause {t : Target} {fs : List Filter} {condition : Fragment}
    (h : whereClause t.info fs = .ok condition) (k : Nat) :
    Sql.renumber k condition.text = condition.textFrom k := by
  have hshift := (fits_whereClause_vocabulary h).renumber_textFrom k 0
  rwa [Nat.zero_add] at hshift

/-- An UPDATE and a DELETE mean the rows that a SELECT with their filters shows. Where the SELECT is
compiled, the DELETE has its table, its condition and its values, and so has the UPDATE of columns
that may be written to, with the assigned values before them and the placeholders of the condition
counted behind these. Where it is refused, so are both. -/
theorem changes_of_select (t : Target) (fs : List Filter) {row : List (String × SqlValue)}
    (hrow : row ≠ []) :
    (∀ s, t.select (.ofFilters fs) = .ok s → ∃ source condition,
      t.fragment = .ok source ∧ whereClause t.info fs = .ok condition ∧
      s.sql = "SELECT * FROM " ++ source.text ++ condition.text ∧
      t.delete fs =
        .ok ⟨"DELETE FROM " ++ source.text ++ condition.text ++ " RETURNING *", s.params⟩ ∧
      (t.Assigns (row.map (·.1)) → ∃ assignments, row.mapM t.assignment = .ok assignments ∧
        t.update row fs = .ok
          ⟨"UPDATE " ++ source.text ++ " SET " ++ (Fragment.join ", " assignments).text ++
            Sql.renumber row.length condition.text ++ " RETURNING *",
            row.map (·.2) ++ s.params⟩)) ∧
    ∀ e, t.select (.ofFilters fs) = .error e →
      t.delete fs = .error e ∧ ∃ e', t.update row fs = .error e' := by
  rw [Target.select, Target.delete, Target.selectFragment_ofFilters, Target.deleteFragment_eq_map]
  constructor
  · intro s hs
    obtain ⟨f, hf, rfl⟩ := map_eq_ok_iff.mp hs
    obtain ⟨⟨source, condition⟩, hscope, rfl⟩ := map_eq_ok_iff.mp hf
    obtain ⟨-, -, hsource, hcondition⟩ := Target.scope_eq_ok_iff.mp hscope
    have hvalues : source.values = [] := Target.values_fragment hsource
    rw [hscope, Target.statement_selectText hvalues]
    refine ⟨source, condition, hsource, hcondition, rfl, ?_, fun hassigns ↦ ?_⟩
    · exact congrArg Except.ok (Target.statement_deleteText hvalues)
    · obtain ⟨assignments, hassignments⟩ := hassigns.exists_assignments
      have hupdate := (Target.updateFragment_eq_ok_iff_scope hrow).mpr
        ⟨hassigns, source, condition, hscope, assignments, hassignments, rfl⟩
      rw [Target.update, hupdate, renumber_whereClause hcondition]
      exact ⟨assignments, hassignments,
        congrArg Except.ok (Target.statement_updateText hvalues hassignments)⟩
  · intro e he
    cases hscope : t.scope fs with
    | ok s =>
      rw [hscope] at he
      cases he
    | error e' =>
      rw [hscope] at he
      cases he
      exact ⟨rfl, Target.update_of_scope_error hrow hscope⟩

/-- The rows that `typedStatement` changes, as a SELECT shows them. -/
def selectedStatement : Statement where
  sql := "SELECT * FROM \"t\" WHERE (\"a\" = $1::integer OR \"c\"->>'d' <> $2) AND \"b\" IS NULL"
  params := [.text "x", .text "y"]

theorem changes_of_select_typed :
    typedTarget.select (.ofFilters mixedFilters) = .ok selectedStatement ∧
    typedTarget.Assigns ["a"] ∧
    (∃ (source condition : Fragment) (assignments : List Fragment),
      selectedStatement.sql = "SELECT * FROM " ++ source.text ++ condition.text ∧
      typedTarget.delete mixedFilters =
        .ok ⟨"DELETE FROM " ++ source.text ++ condition.text ++ " RETURNING *",
          selectedStatement.params⟩ ∧
      typedTarget.update [("a", .integer 7)] mixedFilters = .ok
        ⟨"UPDATE " ++ source.text ++ " SET " ++ (Fragment.join ", " assignments).text ++
          Sql.renumber 1 condition.text ++ " RETURNING *",
            .integer 7 :: selectedStatement.params⟩) ∧
    typedTarget.select (.ofFilters refusedFilters) = .error refusal ∧
    typedTarget.delete refusedFilters = .error refusal ∧
    ∃ e, typedTarget.update [("a", .integer 7)] refusedFilters = .error e := by
  have hrow : [("a", SqlValue.integer 7)] ≠ [] := List.cons_ne_nil _ _
  have hselect : typedTarget.select (.ofFilters mixedFilters) = .ok selectedStatement := by
    decide +kernel
  have hassigns : typedTarget.Assigns ["a"] := ⟨by decide +kernel, by decide +kernel⟩
  have hrefused : typedTarget.select (.ofFilters refusedFilters) = .error refusal := by
    decide +kernel
  refine ⟨hselect, hassigns, ?_, hrefused, ?_⟩
  · obtain ⟨source, condition, -, -, hsql, hdelete, hupdate⟩ :=
      (changes_of_select typedTarget mixedFilters hrow).1 _ hselect
    obtain ⟨assignments, -, hupdate⟩ := hupdate hassigns
    exact ⟨source, condition, assignments, hsql, hdelete, hupdate⟩
  · exact (changes_of_select typedTarget refusedFilters hrow).2 _ hrefused

end RowGate
