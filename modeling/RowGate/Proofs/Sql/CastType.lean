import RowGate.Proofs.Sql.CalmText
import RowGate.Proofs.Sql.Metadata

/-! # Where the casts of a condition end

A condition is calm text: behind a bound value its term ends. So what a cast to the type of a column
takes is decided by the text of the type alone, and where this goes on behind the name of a type,
what is left of it becomes a part of the condition.
-/

namespace RowGate

open Sql (EndsTerm EndsWord Token namesType textTokens typeLength? uncast)

/-! ## Conditions -/

section

open Fragment (IsCalm)

variable {table : Option TableInfo} {f g : Fragment} {p : ColumnPath}

/-- A path binds nothing and casts nothing. -/
theorem isBare_path (p : ColumnPath) : ∀ q ∈ p.fragment, q.isBare = true := by
  intro q hq
  rcases List.mem_cons.mp hq with rfl | hq
  · rfl
  · obtain ⟨step, -, hq⟩ := List.mem_flatMap.mp hq
    have haccessor : (Piece.fixed step.accessor.sql).isBare = true := by
      cases step.accessor <;> decide
    have hkey : step.key.piece.isBare = true := by cases step.key <;> rfl
    rcases List.mem_cons.mp hq with rfl | hq
    · exact haccessor
    · exact List.mem_singleton.mp hq ▸ hkey

/-- The text of a whole document binds nothing and casts nothing. -/
theorem isBare_documentText (p : ColumnPath) :
    ∀ q ∈ documentText p.fragment, q.isBare = true := by
  have hpath : (Piece.fixed " #>> ").isBare = true := by decide
  simp only [documentText, List.cons_append, List.forall_mem_cons, List.forall_mem_append]
  exact ⟨by decide, isBare_path p, hpath, rfl, by decide, List.forall_mem_nil _⟩

/-- What is compared may be followed by an operator and a bound value. -/
theorem isCalm_comparison (p : ColumnPath) (op : Operator) (v : FilterValue) (hg : g.IsCalm)
    (hends : ∀ k, EndsWord (g.untyped.tokens k)) :
    IsCalm ((comparisonOperands p op v).1 ++ g) := by
  rw [comparisonOperands]
  split_ifs
  · have hparen : ∀ q ∈ p.fragment.paren, q.isBare = true := by
      simp only [Fragment.paren, List.cons_append, List.forall_mem_cons, List.forall_mem_append]
      exact ⟨by decide, isBare_path p, by decide, List.forall_mem_nil _⟩
    have hnumeric := IsCalm.behind hparen (hg.numeric hends)
    simpa [castNumeric] using hnumeric
  · exact .behind (isBare_documentText p) hg
  · exact .behind (isBare_path p) hg
  · exact .behind (isBare_path p) hg
  · exact .behind (isBare_path p) hg

/-- A type that a condition casts to is the text of a type. -/
theorem isTypeText_of_mem {column : Option ColumnInfo} {type : String}
    (h : type ∈ column.bind ColumnInfo.castType?) :
    ColumnInfo.isTypeText false type.toList = true := by
  obtain ⟨c, -, htype⟩ := Option.bind_eq_some_iff.mp h
  exact c.isTypeText_of_castType htype

namespace Filter

variable {c : Filter}

/-- A test for null or a truth value is never cast. -/
theorem isCalm_isFragment (h : c.isFragment p = .ok f) : f.IsCalm := by
  rw [isFragment] at h
  split at h
  · cases h
    exact .behind (isBare_path p) (.fixed (by decide) .nil)
  · cases h
    exact .behind (isBare_path p) (.fixed (by decide) (.bound_untyped _))
  · cases h

/-- The cast of an array ends with the parenthesis of `ANY`. -/
theorem isCalm_inFragment {column : Option ColumnInfo} (h : c.inFragment p column = .ok f) :
    f.IsCalm := by
  rw [inFragment] at h
  split at h
  · cases h
  · cases h
    have hleft : ∀ q ∈ if p.extractsJson then documentText p.fragment else p.fragment,
        q.isBare = true := by
      split
      · exact isBare_documentText p
      · exact isBare_path p
    refine .behind hleft (.fixed (by decide) (.append (.bound _ ?_) (.fixed (by decide) .nil)
      (IsCalm.head_fixed (by decide) _)))
    intro type htype
    obtain ⟨elem, helem, rfl⟩ := Option.map_eq_some_iff.mp htype
    rw [String.toList_append]
    exact ColumnInfo.isTypeText_array (isTypeText_of_mem helem)

/-- A distance test has no casts. -/
theorem isCalm_geoFragment (h : c.geoFragment p = .ok f) : f.IsCalm := by
  rw [geoFragment] at h
  split at h
  · split at h
    next => cases h
    next distance geometry _ =>
      cases h
      have hclose : IsCalm [.fixed ")"] := .fixed (by decide) .nil
      have hdistance := (IsCalm.bound_untyped (.float distance)).append hclose
        (IsCalm.head_fixed (by decide) _)
      have hplace := (IsCalm.bound_untyped (.text geometry)).append
        (IsCalm.fixed (s := "), ") (by decide) hdistance) (IsCalm.head_fixed (by decide) _)
      exact .fixed (by decide) (.behind (isBare_path p) (.fixed (by decide) hplace))
  · cases h

/-- The cast of a compared value ends the comparison. -/
theorem isCalm_binaryFragment {column : Option ColumnInfo} {op : Operator} {symbol : String}
    (hop : op.sql? = some symbol) (h : c.binaryFragment p column symbol = .ok f) : f.IsCalm := by
  rcases binaryFragment_eq_ok h with ⟨-, -, rfl⟩ | ⟨-, -, rfl⟩ | ⟨-, rfl⟩
  · exact .behind (isBare_path p) (.fixed (by decide) .nil)
  · exact .behind (isBare_path p) (.fixed (by decide) .nil)
  · have hsymbol : (Piece.fixed (" " ++ symbol ++ " ")).isBare = true ∧
        (textTokens (" " ++ symbol ++ " ").toList).head?.any Token.endsWord = true := by
      cases op <;> cases hop <;> decide
    have htype : ∀ type ∈ (column.filter fun _ ↦ !c.operator.isPattern).bind ColumnInfo.castType?,
        ColumnInfo.isTypeText false type.toList = true := fun _ htype ↦ isTypeText_of_mem htype
    have hvalue := IsCalm.bound (comparisonOperands p c.operator c.value).2 htype
    exact isCalm_comparison p _ _ (.fixed hsymbol.1 hvalue) (IsCalm.head_fixed hsymbol.2 _)

/-- Types may be added to the condition of a filter, whatever its operator. -/
theorem isCalm_fragment (h : c.fragment table = .ok f) : f.IsCalm := by
  rw [fragment_eq_bind] at h
  obtain ⟨p, -, h⟩ := bind_eq_ok_iff.mp h
  rw [conditionOf] at h
  split at h
  · exact isCalm_isFragment h
  · exact isCalm_inFragment h
  · exact isCalm_geoFragment h
  · split at h
    next symbol hsymbol => exact isCalm_binaryFragment hsymbol h
    next => cases h

end Filter

/-- Between the filters of a disjunction there are connectives, which end terms. -/
theorem Part.isCalm_fragment {part : Part} (h : part.fragment table = .ok f) : f.IsCalm := by
  cases part with
  | alone c => exact c.isCalm_fragment h
  | anyOf n cs =>
    obtain ⟨alternatives, halternatives, h⟩ := bind_eq_ok_iff.mp h
    cases h
    refine .paren (.join (by decide) (by decide) fun item hitem ↦ ?_)
    obtain ⟨c, -, hc⟩ := exists_of_mem_mapM halternatives hitem
    exact c.isCalm_fragment hc

/-- Between the parts of a condition there are connectives, which end terms. -/
theorem isCalm_whereClause {cs : List Filter} (h : whereClause table cs = .ok f) : f.IsCalm := by
  obtain ⟨-, rfl⟩ | ⟨condition, hcondition, rfl⟩ := whereClause_eq_ok_iff.mp h
  · exact .nil
  · obtain ⟨-, parts, hparts, rfl⟩ := whereFragment_eq_some_iff.mp hcondition
    refine .fixed (by decide) (.join (by decide) (by decide) fun item hitem ↦ ?_)
    obtain ⟨part, -, hpart⟩ := exists_of_mem_mapM hparts hitem
    exact part.isCalm_fragment hpart

/-! ## Conditions with casts and without -/

/-- Without metadata the condition is the same, and not cast. -/
theorem whereClause_plain {cs : List Filter} (h : whereClause table cs = .ok f) :
    whereClause none cs = .ok f.untyped := by
  rw [whereClause_untyped table, h]
  rfl

/-- With metadata a condition is calm text, and what it has more than the condition without metadata
is the casts behind its placeholders. -/
theorem keeps_whereClause {cs : List Filter} (h : whereClause table cs = .ok f) (k : Nat) :
    Sql.Keeps (∀ type, some type ∈ f.casts → namesType (textTokens type.toList) = true)
      ((Sql.tokens (f.untyped.textFrom k)).bind uncast)
      ((Sql.tokens (f.textFrom k)).bind uncast) := by
  have hfits := fits_whereClause_vocabulary (t := { table := "", info := table }) h
  have hplain := fits_whereClause_vocabulary (t := { table := "", info := none })
    (whereClause_plain h)
  rw [hfits.tokens_textFrom, hplain.tokens_textFrom, Fragment.tokens_eq_annotate hfits.has,
    Option.bind_some, Option.bind_some]
  exact (isCalm_whereClause h k).keeps

/-- The column that a value is for is one of the table. -/
theorem Slot.mem_columns {info : TableInfo} {s : Slot} {column : ColumnInfo}
    (h : column ∈ s.column? info) : column ∈ info.columns := by
  cases s with
  | assigned name => exact List.mem_of_find?_eq_some h
  | compared c =>
    obtain ⟨p, -, h⟩ := Option.bind_eq_some_iff.mp h
    exact List.mem_of_find?_eq_some h

/-- If the columns of a table have names of types, all casts of a condition are to names of
types. -/
theorem namesType_of_mem_casts
    (htypes : ∀ info ∈ table, ∀ c ∈ info.columns, ∀ type ∈ c.castType?,
      namesType (textTokens type.toList) = true)
    {cs : List Filter} (h : whereClause table cs = .ok f) {type : String}
    (htype : some type ∈ f.casts) : namesType (textTokens type.toList) = true := by
  obtain ⟨slot, hslot⟩ := exists_of_forall₂ (typedBy_whereClause h).flip htype
  obtain ⟨info, hinfo, column, hcolumn, columnType, hcolumnType, rfl⟩ := hslot type rfl
  have hname := htypes info hinfo column (Slot.mem_columns hcolumn) columnType hcolumnType
  cases slot with
  | assigned name => exact hname
  | compared c =>
    rw [Slot.typeFor]
    split
    · rw [String.toList_append,
        Sql.textTokens_array (column.isTypeText_of_castType hcolumnType)]
      exact Sql.namesType_openBounds hname
    · exact hname

/-- A cast to the type of a column takes nothing of what stands behind its term, and it takes all of
the text of the type exactly if this is the name of a type. So a condition with metadata is, without
its casts, the condition without metadata exactly if each cast is to the name of a type; for a table
whose columns have such names it always is. -/
theorem conditions_kept_iff (column : ColumnInfo) (table : Option TableInfo) (cs : List Filter) :
    (∀ type, column.castType? = some type → ∀ rest, EndsTerm rest →
      typeLength? (textTokens type.toList ++ rest) = typeLength? (textTokens type.toList) ∧
      (typeLength? (textTokens type.toList ++ rest) = some (textTokens type.toList).length ↔
        namesType (textTokens type.toList) = true)) ∧
    ∀ f, whereClause table cs = .ok f →
      (∃ plain, whereClause none cs = .ok plain ∧ ∀ k, ∃ us,
        (Sql.tokens (plain.textFrom k)).bind uncast = some us ∧
        ((Sql.tokens (f.textFrom k)).bind uncast = some us ↔
          ∀ type, some type ∈ f.casts → namesType (textTokens type.toList) = true)) ∧
      ((∀ info ∈ table, ∀ c ∈ info.columns, ∀ type ∈ c.castType?,
          namesType (textTokens type.toList) = true) →
        ∀ type, some type ∈ f.casts → namesType (textTokens type.toList) = true) := by
  refine ⟨fun type htype rest hrest ↦ ?_, fun f h ↦ ⟨⟨f.untyped, whereClause_plain h, fun k ↦ ?_⟩,
    fun htypes type ↦ namesType_of_mem_casts htypes h⟩⟩
  · obtain ⟨hnested, -⟩ := Sql.nested_of_isTypeText (column.isTypeText_of_castType htype)
    have hlength := Sql.typeLength?_append hnested hrest
    exact ⟨hlength, by rw [hlength, Sql.namesType_iff_typeLength]⟩
  · obtain ⟨us, hplain, -, hiff⟩ := keeps_whereClause h k
    exact ⟨us, hplain, hiff⟩

end

/-- A table whose columns have names of types. -/
def pricedTown : TableInfo where
  schema := "public"
  name := "offers"
  columns := [.ofType "price" "numeric(10, 2)", .ofType "town" "character varying(20)"]

def pricedTownFilters : List Filter :=
  [{ column := "price", operator := .gt, value := .string "3" },
    { column := "town", operator := .oneOf, value := .strings ["x"], group := some 1 },
    { column := "price", operator := .is, value := .null, group := some 1 }]

def pricedTownText : String :=
  " WHERE \"price\" > $1::numeric(10, 2) AND " ++
    "(\"town\" = ANY($2::character varying(20)[]) OR \"price\" IS NULL)"

theorem conditions_kept_pricedTown :
    (ColumnInfo.ofType "price" "numeric(10, 2)").castType? = some "numeric(10, 2)" ∧
    typeLength? (textTokens "numeric(10, 2)".toList ++ textTokens "OR true".toList) = some 6 ∧
    ∃ f plain, whereClause (some pricedTown) pricedTownFilters = .ok f ∧
      f.text = pricedTownText ∧ whereClause none pricedTownFilters = .ok plain ∧
      (Sql.tokens f.text).bind uncast = (Sql.tokens plain.text).bind uncast := by
  have hcast : (ColumnInfo.ofType "price" "numeric(10, 2)").castType? =
      some "numeric(10, 2)" := by decide +kernel
  have hends : EndsTerm (textTokens "OR true".toList) := by decide +kernel
  have htext : (whereClause (some pricedTown) pricedTownFilters).map Fragment.text =
      .ok pricedTownText := by decide +kernel
  have htypes : ∀ info ∈ some pricedTown, ∀ c ∈ info.columns, ∀ type ∈ c.castType?,
      namesType (textTokens type.toList) = true := by decide +kernel
  obtain ⟨hcasts, hconditions⟩ := conditions_kept_iff (.ofType "price" "numeric(10, 2)")
    (some pricedTown) pricedTownFilters
  obtain ⟨f, hf, htext⟩ := map_eq_ok_iff.mp htext
  obtain ⟨⟨plain, hplain, hkept⟩, hnamed⟩ := hconditions f hf
  obtain ⟨us, hus, hiff⟩ := hkept 0
  have htyped := hiff.mpr (hnamed htypes)
  refine ⟨hcast, ?_, f, plain, hf, htext, hplain, htyped.trans hus.symm⟩
  exact (hcasts _ hcast _ hends).2.mpr (by decide +kernel)

/-- A column whose type goes on with a connective. -/
def looseColumn : ColumnInfo := .ofType "c" "integer OR true"

def looseTable : TableInfo where
  schema := "public"
  name := "t"
  columns := [looseColumn, .ofType "d" "integer"]

def looseFilters : List Filter :=
  [{ column := "c", operator := .eq, value := .string "3" },
    { column := "d", operator := .eq, value := .string "4" }]

/-- What stands behind the cast becomes an alternative of the condition. -/
theorem conditions_not_kept_loose :
    looseColumn.castType? = some "integer OR true" ∧
    namesType (textTokens "integer OR true".toList) = false ∧
    (whereClause none looseFilters).map Fragment.text = .ok " WHERE \"c\" = $1 AND \"d\" = $2" ∧
    (whereClause (some looseTable) looseFilters).map Fragment.text =
      .ok " WHERE \"c\" = $1::integer OR true AND \"d\" = $2::integer" ∧
    (Sql.tokens " WHERE \"c\" = $1::integer OR true AND \"d\" = $2::integer").bind uncast =
      Sql.tokens " WHERE \"c\" = $1 OR true AND \"d\" = $2" := by
  decide +kernel

end RowGate
