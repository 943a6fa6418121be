import Mathlib.Tactic.SplitIfs
import RowGate.Proofs.Sql.Clause
import RowGate.Sql.Where

/-! # Conditions in their places

The condition of a filter list is a fragment over its references and the types of their columns.
-/

namespace RowGate

/-- The path that is written to take the text of a document. -/
def wholeDocument : String := "\x7b\x7d"

namespace Vocabulary

/-- What the filters of a table need beside their references: the types that values are cast to, and
the path of a whole document. -/
structure HasTable (V : Vocabulary) (table : Option TableInfo) : Prop where
  wholeDocument : wholeDocument ∈ V.literals
  types : ∀ info ∈ table, ∀ c ∈ info.columns, ∀ t ∈ c.castType?, t ∈ V.types ∧ t ++ "[]" ∈ V.types

end Vocabulary

variable {V : Vocabulary} {table : Option TableInfo} {f g : Fragment} {p : ColumnPath}

/-- The type of a column, and the type of its arrays, are types of the vocabulary. -/
theorem castType_of_columnOf (hV : V.HasTable table) {keep : ColumnInfo → Bool} {t : String}
    (h : t ∈ ((Filter.columnOf table p).filter keep).bind ColumnInfo.castType?) :
    t ∈ V.types ∧ t ++ "[]" ∈ V.types := by
  obtain ⟨c, hc, ht⟩ := Option.bind_eq_some_iff.mp h
  obtain ⟨hc, -⟩ := Option.filter_eq_some_iff.mp hc
  rw [Filter.columnOf] at hc
  split at hc
  · cases hc
  · obtain ⟨info, hinfo, hc⟩ := Option.bind_eq_some_iff.mp hc
    exact hV.types info hinfo c (List.mem_of_find?_eq_some hc) t ht

/-- A placeholder without a cast names no type. -/
theorem no_type : ∀ t ∈ (none : Option String), t ∈ V.types := by
  intro t ht
  cases ht

/-- The text of a whole document, taken by an operator with a path of its own. -/
theorem fits_documentText (hV : V.HasTable table) (h : Fits V .free .outside f) :
    Fits V .free .outside (documentText f) := by
  have hopen : Fits V .free .free [.fixed "("] := .fixed (by decide)
  have hpath : Fits V .outside .ground [.fixed " #>> "] := .fixed (by decide)
  have hkey : Fits V .ground .outside [.key wholeDocument] :=
    (Fits.key hV.wholeDocument).mono rfl rfl
  have hclose : Fits V .outside .outside [.fixed ")"] := .fixed (by decide)
  exact hopen.append (h.append (hpath.append (hkey.append hclose)))

/-- A bound value behind a text of the compiler's own. -/
theorem fits_bound {s : String} (hs : Sql.fixedFits .outside .free s = true)
    (h : Fits V .free .outside f) {v : SqlValue} {type : Option String}
    (htype : ∀ t ∈ type, t ∈ V.types) {rest : Fragment} (hrest : Fits V .outside .outside rest) :
    Fits V .free .outside (f ++ .fixed s :: .bound v type :: rest) := by
  have hbound : Fits V .free .outside [.bound v type] := (Fits.bound htype).mono rfl rfl
  exact h.append ((Fits.fixed hs).append (hbound.append hrest))

theorem fits_closing : Fits V .outside .outside [.fixed ")"] := .fixed (by decide)

namespace Filter

variable {c : Filter}

/-- Without metadata no column is known. -/
theorem columnOf_none (p : ColumnPath) : columnOf none p = none := by
  rw [columnOf]
  split <;> rfl

/-- A test for null, or for a truth value that is bound. -/
theorem fits_isFragment (hp : Fits V .free .outside p.fragment) (h : c.isFragment p = .ok g) :
    Fits V .free .outside g := by
  rw [isFragment] at h
  split at h
  · cases h
    exact hp.append (.fixed (by decide))
  · cases h
    exact fits_bound (by decide) hp no_type (.nil rfl)
  · cases h

/-- Membership in an array, which may be cast to the array type of the column. -/
theorem fits_inFragment (hV : V.HasTable table) (hp : Fits V .free .outside p.fragment)
    (h : c.inFragment p (columnOf table p) = .ok g) : Fits V .free .outside g := by
  rw [inFragment] at h
  split at h
  · cases h
  · cases h
    have hleft : Fits V .free .outside
        (if p.extractsJson then documentText p.fragment else p.fragment) := by
      split
      · exact fits_documentText hV hp
      · exact hp
    refine fits_bound (by decide) hleft (fun t ht ↦ ?_) fits_closing
    obtain ⟨elem, helem, rfl⟩ := Option.map_eq_some_iff.mp ht
    exact (castType_of_columnOf hV helem).2

/-- Nearness, with a geometry and a distance that are bound without casts. -/
theorem fits_geoFragment (hp : Fits V .free .outside p.fragment) (h : c.geoFragment p = .ok g) :
    Fits V .free .outside g := by
  rw [geoFragment] at h
  split at h
  · split at h
    · cases h
    · cases h
      have hopen : Fits V .free .free [.fixed "ST_DWithin("] := .fixed (by decide)
      have hcomma : Fits V .outside .free [.fixed "), "] := .fixed (by decide)
      have hdistance : ∀ v, Fits V .free .outside [.bound v none] := fun v ↦
        (Fits.bound no_type).mono rfl rfl
      exact hopen.append (fits_bound (by decide) hp no_type
        (hcomma.append ((hdistance _).append fits_closing)))
  · cases h

/-- The left side of a comparison, as it is, as a number or as a text. -/
theorem fits_comparisonOperands (hV : V.HasTable table) (hp : Fits V .free .outside p.fragment)
    (op : Operator) (v : FilterValue) :
    Fits V .free .outside (comparisonOperands p op v).1 := by
  rw [comparisonOperands]
  split_ifs
  · exact (fits_castNumeric hp).mono rfl rfl
  · exact fits_documentText hV hp
  · exact hp
  · exact hp
  · exact hp

/-- The symbol of an operator, with a blank on both sides, has a place behind an expression. -/
theorem fits_symbol {op : Operator} {symbol : String} (h : op.sql? = some symbol) :
    Sql.fixedFits .outside .free (" " ++ symbol ++ " ") = true := by
  cases op <;> cases h <;> decide

/-- A comparison with null is a test for null, any other has two operands. -/
theorem binaryFragment_eq_ok {column : Option ColumnInfo} {symbol : String}
    (h : c.binaryFragment p column symbol = .ok g) :
    c.value = .null ∧ c.operator = .eq ∧ g = p.fragment ++ [Piece.fixed " IS NULL"] ∨
    c.value = .null ∧ c.operator = .neq ∧ g = p.fragment ++ [Piece.fixed " IS NOT NULL"] ∨
    c.value ≠ .null ∧ g = (comparisonOperands p c.operator c.value).1 ++
      [Piece.fixed (" " ++ symbol ++ " "), Piece.bound (comparisonOperands p c.operator c.value).2
        ((column.filter fun _ ↦ !c.operator.isPattern).bind ColumnInfo.castType?)] := by
  rw [binaryFragment] at h
  split at h
  next hnull =>
    split at h
    next hop => exact .inl ⟨hnull, hop, (Except.ok.inj h).symm⟩
    next hop => exact .inr (.inl ⟨hnull, hop, (Except.ok.inj h).symm⟩)
    next => cases h
  next => cases h
  next hnull _ => exact .inr (.inr ⟨hnull, (Except.ok.inj h).symm⟩)

/-- A comparison, with the type of the column at the value's placeholder. -/
theorem fits_binaryFragment (hV : V.HasTable table) (hp : Fits V .free .outside p.fragment)
    {op : Operator} {symbol : String} (hop : op.sql? = some symbol)
    (h : c.binaryFragment p (columnOf table p) symbol = .ok g) : Fits V .free .outside g := by
  rcases binaryFragment_eq_ok h with ⟨-, -, rfl⟩ | ⟨-, -, rfl⟩ | ⟨-, rfl⟩
  · exact hp.append (.fixed (by decide))
  · exact hp.append (.fixed (by decide))
  · refine fits_bound (fits_symbol hop) (fits_comparisonOperands hV hp _ _) (fun t ht ↦ ?_)
      (.nil rfl)
    exact (castType_of_columnOf hV ht).1

/-- The condition of a filter whose reference is read. -/
def conditionOf (c : Filter) (table : Option TableInfo) (p : ColumnPath) :
    Except QueryError Fragment :=
  match c.operator with
  | .is => c.isFragment p
  | .oneOf => c.inFragment p (columnOf table p)
  | .stDWithin => c.geoFragment p
  | op => match op.sql? with
    | some symbol => c.binaryFragment p (columnOf table p) symbol
    | none => .error (.compile (.invariant ("operator " ++ op.keyword ++ " has no binary form")))

/-- A filter is compiled by reading its reference first. -/
theorem fragment_eq_bind (c : Filter) (table : Option TableInfo) :
    c.fragment table = readPath c.column >>= c.conditionOf table := by
  rw [fragment, readPath]
  cases ColumnPath.ofString c.column <;> rfl

/-- Whatever its operator, the condition over a path that is read is an expression. -/
theorem fits_conditionOf (hV : V.HasTable table) (hp : Fits V .free .outside p.fragment)
    (h : c.conditionOf table p = .ok g) : Fits V .free .outside g := by
  rw [conditionOf] at h
  split at h
  · exact fits_isFragment hp h
  · exact fits_inFragment hV hp h
  · exact fits_geoFragment hp h
  · split at h
    next symbol hsymbol => exact fits_binaryFragment hV hp hsymbol h
    next => cases h

theorem fits_fragment (hV : V.HasTable table) (hc : V.HasReference c.column)
    (h : c.fragment table = .ok g) : Fits V .free .outside g := by
  rw [fragment_eq_bind] at h
  obtain ⟨p, hp, h⟩ := bind_eq_ok_iff.mp h
  exact fits_conditionOf hV (fits_readPath hp hc) h

end Filter

/-! ## Lists of filters -/

namespace Part

/-- Every filter of a list is in one of its parts, and no other is. -/
theorem perm_addToGroup (n : Nat) (c : Filter) (ps : List Part) :
    ((addToGroup n c ps).flatMap filters).Perm (ps.flatMap filters ++ [c]) := by
  induction ps with
  | nil => exact .refl _
  | cons part ps ih =>
    cases part with
    | alone d => exact ih.cons d
    | anyOf m ds =>
      rw [addToGroup]
      split
      · rw [List.flatMap_cons, List.flatMap_cons, filters, filters, List.append_assoc,
          List.append_assoc]
        exact List.perm_append_comm.append_left ds
      · rw [List.flatMap_cons, List.flatMap_cons, filters, List.append_assoc]
        exact ih.append_left ds

/-- A filter that is added is one more of the filters. -/
theorem perm_add (ps : List Part) (c : Filter) :
    ((add ps c).flatMap filters).Perm (ps.flatMap filters ++ [c]) := by
  rw [add]
  split
  · rw [List.flatMap_append]
    exact .refl _
  · exact perm_addToGroup _ c ps

/-- The parts of a list hold its filters, each of them once. -/
theorem perm_ofFilters (cs : List Filter) : ((ofFilters cs).flatMap filters).Perm cs := by
  have hfold : ∀ (ps : List Part), ((cs.foldl add ps).flatMap filters).Perm
      (ps.flatMap filters ++ cs) := by
    induction cs with
    | nil => exact fun ps ↦ by rw [List.append_nil]; exact .refl _
    | cons c cs ih =>
      intro ps
      refine (ih (add ps c)).trans ?_
      rw [← List.singleton_append, ← List.append_assoc]
      exact (perm_add ps c).append_right cs
  exact hfold []

theorem mem_of_mem_ofFilters {cs : List Filter} {part : Part} (hpart : part ∈ ofFilters cs)
    {c : Filter} (hc : c ∈ part.filters) : c ∈ cs :=
  (perm_ofFilters cs).subset (List.mem_flatMap_of_mem hpart hc)

theorem fits_fragment (hV : V.HasTable table) {part : Part}
    (hpart : ∀ c ∈ part.filters, V.HasReference c.column) (h : part.fragment table = .ok g) :
    Fits V .free .outside g := by
  cases part with
  | alone c => exact Filter.fits_fragment hV (hpart c List.mem_cons_self) h
  | anyOf n cs =>
    obtain ⟨alternatives, halternatives, h⟩ := bind_eq_ok_iff.mp h
    cases h
    have hjoin : Fits V .free .outside (Fragment.join " OR " alternatives) := by
      refine .join (by decide) fun item hitem ↦ ?_
      obtain ⟨c, hc, h⟩ := exists_of_mem_mapM halternatives hitem
      exact Filter.fits_fragment hV (hpart c hc) h
    exact hjoin.paren.mono rfl rfl

end Part

/-- Only a list without filters has no condition. -/
theorem whereFragment_eq_none_iff {cs : List Filter} :
    whereFragment table cs = .ok none ↔ cs = [] := by
  cases cs with
  | nil => exact iff_of_true rfl rfl
  | cons c cs =>
    rw [whereFragment, List.isEmpty_cons, if_neg Bool.false_ne_true, bind_eq_ok_iff]
    refine iff_of_false ?_ (List.cons_ne_nil c cs)
    rintro ⟨parts, -, h⟩
    cases h

/-- A condition is made of those of its parts. -/
theorem whereFragment_eq_some_iff {cs : List Filter} :
    whereFragment table cs = .ok (some g) ↔ cs ≠ [] ∧ ∃ parts,
      (Part.ofFilters cs).mapM (Part.fragment table) = .ok parts ∧
        g = Fragment.join " AND " parts := by
  cases cs with
  | nil => simp [whereFragment]
  | cons c cs =>
    rw [whereFragment, List.isEmpty_cons, if_neg Bool.false_ne_true]
    simp only [bind_eq_ok_iff, pure_eq_ok_iff, Option.some.injEq]
    exact (and_iff_right (List.cons_ne_nil c cs)).symm

/-- A clause is written if and only if there is a condition. -/
theorem whereClause_eq_ok_iff {cs : List Filter} :
    whereClause table cs = .ok g ↔ (cs = [] ∧ g = []) ∨ ∃ condition,
      whereFragment table cs = .ok (some condition) ∧ g = .fixed " WHERE " :: condition := by
  rw [whereClause, bind_eq_ok_iff]
  constructor
  · rintro ⟨condition, hcondition, h⟩
    cases condition with
    | none => exact .inl ⟨whereFragment_eq_none_iff.mp hcondition, (Except.ok.inj h).symm⟩
    | some condition => exact .inr ⟨condition, hcondition, (Except.ok.inj h).symm⟩
  · rintro (⟨hcs, rfl⟩ | ⟨condition, hcondition, rfl⟩)
    · exact ⟨none, whereFragment_eq_none_iff.mpr hcs, rfl⟩
    · exact ⟨some condition, hcondition, rfl⟩

/-- The conditions of a list, as far as there are any, are one expression. -/
theorem fits_whereFragment (hV : V.HasTable table) {cs : List Filter}
    (hcs : ∀ c ∈ cs, V.HasReference c.column) (h : whereFragment table cs = .ok (some g)) :
    Fits V .free .outside g := by
  obtain ⟨-, parts, hparts, rfl⟩ := whereFragment_eq_some_iff.mp h
  refine .join (by decide) fun item hitem ↦ ?_
  obtain ⟨part, hpart, h⟩ := exists_of_mem_mapM hparts hitem
  exact Part.fits_fragment hV (fun c hc ↦ hcs c (Part.mem_of_mem_ofFilters hpart hc)) h

/-- The keyword and the conditions stand behind an expression, and so does no clause at all. -/
theorem fits_whereClause (hV : V.HasTable table) {cs : List Filter}
    (hcs : ∀ c ∈ cs, V.HasReference c.column) (h : whereClause table cs = .ok g) :
    Fits V .outside .outside g := by
  obtain ⟨-, rfl⟩ | ⟨condition, hcondition, rfl⟩ := whereClause_eq_ok_iff.mp h
  · exact .nil rfl
  · have hkeyword : Fits V .outside .free [.fixed " WHERE "] := .fixed (by decide)
    exact hkeyword.append (fits_whereFragment hV hcs hcondition)

end RowGate
