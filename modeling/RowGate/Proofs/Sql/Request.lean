import RowGate.Proofs.Sql.Predicate

/-! # Requests

A request asks for one of the seven statements to a table. Its text is read as tokens that come from
the names of the request, from the metadata of the table and from the compiler.
-/

namespace RowGate

open Sql (isTypeChar isTypeName)

/-- A statement to be compiled. -/
inductive Request where
  | select (q : Query)
  | rows (q : Query)
  | count (q : Query)
  | explain (q : Query)
  | insert (row : List (String × SqlValue))
  | update (row : List (String × SqlValue)) (fs : List Filter)
  | delete (fs : List Filter)

namespace Target

def fragmentOf (t : Target) : Request → Except QueryError Fragment
  | .select q => t.selectFragment q
  | .rows q => t.rowsFragment q
  | .count q => t.countFragment q
  | .explain q => t.explainFragment q
  | .insert row => t.insertFragment row
  | .update row fs => t.updateFragment row fs
  | .delete fs => t.deleteFragment fs

def compile (t : Target) : Request → Except QueryError Statement
  | .select q => t.select q
  | .rows q => t.rows q
  | .count q => t.count q
  | .explain q => t.explain q
  | .insert row => t.insert row
  | .update row fs => t.update row fs
  | .delete fs => t.delete fs

/-- A statement is the text and the values of the fragment of the request. -/
theorem compile_eq_ok_iff {t : Target} {r : Request} {s : Statement} :
    t.compile r = .ok s ↔ ∃ f, t.fragmentOf r = .ok f ∧ f.statement = s := by
  rw [← map_eq_ok_iff]
  cases r <;> rfl

end Target

/-! ## The vocabulary of a request -/

namespace Request

/-- The references to columns. -/
def references : Request → List String
  | select q | rows q | count q | explain q => q.columns
  | insert _ => []
  | update _ fs | delete fs => fs.map (·.column)

/-- The output names and the columns that are written to. -/
def labels : Request → List String
  | select q | rows q | count q | explain q => q.labels
  | insert row | update row _ => row.map (·.1)
  | delete _ => []

/-- The compiler's own names for the keys of the order. -/
def orderNames : Request → List String
  | rows q => (List.range' 1 q.order.length).map fun i ↦ "_order_" ++ toString i
  | _ => []

/-- The string literals that a statement may hold. -/
def literals (r : Request) : List String :=
  r.references.flatMap keyNames ++ wholeDocument :: r.orderNames

end Request

namespace Target

/-- The quoted identifiers that a statement may hold. -/
def names (t : Target) (r : Request) : List String :=
  t.table :: t.schema.toList ++ r.references.map rootName ++ r.labels ++ r.orderNames

/-- The types that a statement may cast to because of the metadata. -/
def types (t : Target) : List String :=
  t.info.toList.flatMap fun info ↦ info.columns.flatMap fun c ↦
    c.castType?.toList.flatMap fun type ↦ [type, type ++ "[]"]

/-- A text that is cast to has only characters of type names, in brackets and outside. -/
theorem isTypeChar_of_isTypeText {opened : Bool} {s : List Char}
    (h : ColumnInfo.isTypeText opened s = true) : ∀ c ∈ s, isTypeChar c = true := by
  induction s generalizing opened with
  | nil => exact fun c hc ↦ nomatch hc
  | cons c s ih =>
    have hhead : isTypeChar c = true ∧ ∃ opened, ColumnInfo.isTypeText opened s = true := by
      cases opened with
      | true =>
        rw [ColumnInfo.isTypeText] at h
        split at h
        next hc => exact ⟨hc ▸ rfl, false, h⟩
        next =>
          obtain ⟨hc, h⟩ := (Bool.and_eq_true ..).mp h
          refine ⟨?_, true, h⟩
          simp only [Bool.or_eq_true, beq_iff_eq] at hc
          rcases hc with (hc | rfl) | rfl
          · simp [isTypeChar, Char.isAlphanum, hc]
          · rfl
          · rfl
      | false =>
        rw [ColumnInfo.isTypeText] at h
        split at h
        next hc => exact ⟨hc ▸ rfl, true, h⟩
        next =>
          obtain ⟨hc, h⟩ := (Bool.and_eq_true ..).mp h
          refine ⟨?_, false, h⟩
          simp only [Bool.or_eq_true, beq_iff_eq] at hc
          rcases hc with ((((hc | rfl) | rfl) | rfl) | rfl) | rfl
          · simp [isTypeChar, hc]
          all_goals rfl
    obtain ⟨hc, opened, hs⟩ := hhead
    intro d hd
    rcases List.mem_cons.mp hd with rfl | hd
    · exact hc
    · exact ih hs d hd

/-- The type of a column may be cast to, and so may the type of its arrays. -/
theorem isTypeName_of_castType {c : ColumnInfo} {type : String} (h : c.castType? = some type) :
    isTypeName type = true ∧ isTypeName (type ++ "[]") = true := by
  rw [ColumnInfo.castType?] at h
  split at h
  · cases h
  next hne =>
    split at h
    next htext =>
      cases h
      have hchars := isTypeChar_of_isTypeText htext
      have hne : String.ofList c.typeText ≠ "" := fun h ↦ hne (.inl h)
      simp only [isTypeName, Bool.and_eq_true, decide_eq_true_eq, List.all_eq_true]
      refine ⟨⟨hne, fun d hd ↦ hchars d (by simpa using hd)⟩, ?_, fun d hd ↦ ?_⟩
      · simp
      · rw [String.toList_append, String.toList_ofList, List.mem_append] at hd
        rcases hd with hd | hd
        · exact hchars d hd
        · have hbrackets : "[]".toList.all isTypeChar = true := by decide
          exact List.all_eq_true.mp hbrackets d hd
    next => cases h

/-- The types of all columns that the metadata lists are types of the statement. -/
theorem mem_types {t : Target} {info : TableInfo} (hinfo : info ∈ t.info) {c : ColumnInfo}
    (hc : c ∈ info.columns) {type : String} (htype : type ∈ c.castType?) :
    type ∈ t.types ∧ type ++ "[]" ∈ t.types := by
  have hmem : ∀ u ∈ [type, type ++ "[]"], u ∈ t.types := by
    intro u hu
    rw [types, Option.mem_def.mp hinfo]
    refine List.mem_flatMap.mpr ⟨info, List.mem_cons_self, List.mem_flatMap.mpr ⟨c, hc, ?_⟩⟩
    rw [Option.mem_def.mp htype]
    exact List.mem_flatMap.mpr ⟨type, List.mem_cons_self, hu⟩
  exact ⟨hmem _ List.mem_cons_self, hmem _ (List.mem_cons_of_mem _ List.mem_cons_self)⟩

/-- What the statement of a request is made of. -/
def vocabulary (t : Target) (r : Request) : Vocabulary where
  names := t.names r
  literals := r.literals
  types := t.types
  typed := by
    intro u hu
    obtain ⟨info, -, hu⟩ := List.mem_flatMap.mp hu
    obtain ⟨c, -, hu⟩ := List.mem_flatMap.mp hu
    obtain ⟨type, htype, hu⟩ := List.mem_flatMap.mp hu
    obtain ⟨hname, harray⟩ := isTypeName_of_castType (Option.mem_toList.mp htype)
    rcases List.mem_cons.mp hu with rfl | hu
    · exact hname
    · exact List.mem_singleton.mp hu ▸ harray

end Target

/-! ## Statements in their places -/

section

variable {V : Vocabulary} {t : Target} {q : Query} {f : Fragment}

/-- A vocabulary with the names and the types of a table. -/
structure Vocabulary.HasTarget (V : Vocabulary) (t : Target) : Prop extends V.HasTable t.info where
  name : t.table ∈ V.names
  schema : ∀ s ∈ t.schema, s ∈ V.names

/-- A table, with its schema in front where it has one. -/
theorem fits_target (hV : V.HasTarget t) (h : t.fragment = .ok f) : Fits V .free .outside f := by
  rw [Target.fragment, tableFragment] at h
  obtain ⟨name, hname, h⟩ := bind_eq_ok_iff.mp h
  have htable : Fits V .free .outside [.name name] := (fits_readName hname hV.name).mono rfl rfl
  split at h
  next s hs =>
    obtain ⟨schema, hschema, h⟩ := bind_eq_ok_iff.mp h
    cases h
    have hpoint : Fits V .behindQuote .free [.fixed "."] := .fixed (by decide)
    exact (fits_readName hschema (hV.schema s hs)).append (hpoint.append htable)
  next =>
    cases h
    exact htable

/-- Each hidden key is one more item of the select list. -/
theorem fits_hiddenItems {hidden : List HiddenKey}
    (h : ∀ k ∈ hidden, Fits V .free .outside k.expr ∧ k.name.name ∈ V.names) :
    Fits V .outside .outside (Target.SelectParts.hiddenItems hidden) := by
  induction hidden with
  | nil => exact .nil rfl
  | cons k hidden ih =>
    obtain ⟨hexpr, hname⟩ := h k List.mem_cons_self
    have hcomma : Fits V .outside .free [.fixed ", "] := .fixed (by decide)
    have has : Fits V .outside .free [.fixed " AS "] := .fixed (by decide)
    have hname : Fits V .free .outside [.name k.name] := (Fits.name hname).mono rfl rfl
    have hitem := (hcomma.append hexpr).append (has.append hname)
    exact hitem.append (ih fun l hl ↦ h l (List.mem_cons_of_mem k hl))

theorem fits_from : Fits V .outside .free [.fixed " FROM "] := .fixed (by decide)

/-- A SELECT with hidden keys is its clauses one behind the other. -/
theorem fits_selectWith (hT : V.HasTarget t) (hQ : V.HasQuery q) {hidden : List HiddenKey}
    (hhidden : ∀ k ∈ hidden, Fits V .free .outside k.expr ∧ k.name.name ∈ V.names)
    (h : t.selectWith q hidden = .ok f) : Fits V .free .outside f := by
  obtain ⟨-, -, s, hs, rfl⟩ := Target.selectWith_eq_ok_iff.mp h
  have hselect : Fits V .free .free [.fixed "SELECT "] := .fixed (by decide)
  have hitems := hselect.append (fits_selectClause hQ hs.items)
  have hcondition := fits_whereClause hT.toHasTable (fun c hc ↦ hQ.filters hc) hs.condition
  exact (((((hitems.append (fits_hiddenItems hhidden)).append
    (fits_from.append (fits_target hT hs.table))).append hcondition).append
    (fits_groupByClause hQ hs.groups)).append (fits_orderByClause hQ hs.order)).append
    (fits_pageClause q)

/-- The plain SELECT hides no keys. -/
theorem fits_selectFragment (hT : V.HasTarget t) (hQ : V.HasQuery q)
    (h : t.selectFragment q = .ok f) : Fits V .free .outside f :=
  fits_selectWith hT hQ (List.forall_mem_nil _) h

/-- The hidden keys of a page are expressions of the query under numbered names. -/
theorem hiddenKeys_spec (hQ : V.HasQuery q) {terms : List OrderTerm} (hterms : terms ⊆ q.order)
    {i : Nat} {keys : List HiddenKey} (h : Target.hiddenKeys q i terms = .ok keys) :
    ∀ k ∈ keys, Fits V .free .outside k.expr ∧
      k.name.name ∈ (List.range' i terms.length).map fun j ↦ "_order_" ++ toString j := by
  induction terms generalizing i keys with
  | nil =>
    cases h
    exact fun k hk ↦ nomatch hk
  | cons term terms ih =>
    obtain ⟨expr, hexpr, h⟩ := bind_eq_ok_iff.mp h
    obtain ⟨name, hname, h⟩ := bind_eq_ok_iff.mp h
    obtain ⟨rest, hrest, h⟩ := bind_eq_ok_iff.mp h
    cases h
    intro k hk
    rw [List.length_cons, List.range'_succ, List.map_cons]
    rcases List.mem_cons.mp hk with rfl | hk
    · refine ⟨fits_orderKey hQ (hterms List.mem_cons_self) hexpr, ?_⟩
      rw [readName_eq_ok_iff.mp hname]
      exact List.mem_cons_self
    · obtain ⟨hexpr, hname⟩ := ih (fun u hu ↦ hterms (List.mem_cons_of_mem term hu)) hrest k hk
      exact ⟨hexpr, List.mem_cons_of_mem _ hname⟩

/-- The keys that are taken out of a row are string literals behind minus signs. -/
theorem fits_dropped {keys : List HiddenKey} (h : ∀ k ∈ keys, k.name.name ∈ V.literals) :
    Fits V .outside .outside (keys.flatMap fun k ↦ [.fixed " - ", .key k.name.name]) := by
  induction keys with
  | nil => exact .nil rfl
  | cons k keys ih =>
    have hminus : Fits V .outside .ground [.fixed " - "] := .fixed (by decide)
    have hkey : Fits V .ground .outside [.key k.name.name] :=
      (Fits.key (h k List.mem_cons_self)).mono rfl rfl
    exact (hminus.append hkey).append (ih fun l hl ↦ h l (List.mem_cons_of_mem k hl))

/-- A page is ordered again by the names of its hidden keys. -/
theorem fits_outerOrder {order : List OrderTerm} {keys : List HiddenKey}
    (h : ∀ k ∈ keys, k.name.name ∈ V.names) :
    Fits V .outside .outside (Target.outerOrder order keys) := by
  rw [Target.outerOrder]
  split
  · exact .nil rfl
  · refine fits_orderByKeyword.append (.join (by decide) fun item hitem ↦ ?_)
    rw [← List.map_uncurry_zip_eq_zipWith] at hitem
    obtain ⟨⟨term, k⟩, hzip, rfl⟩ := List.mem_map.mp hitem
    have hk : k ∈ keys := (List.of_mem_zip hzip).2
    exact fits_orderTerm term ((Fits.name (h k hk)).mono rfl rfl)

/-- A page has the inner SELECT in its parentheses and the numbered names outside of them too. -/
theorem fits_rowsFragment (hT : V.HasTarget t) (hQ : V.HasQuery q)
    (hnames : ∀ name ∈ (Request.rows q).orderNames, name ∈ V.names)
    (hliterals : ∀ name ∈ (Request.rows q).orderNames, name ∈ V.literals)
    (h : t.rowsFragment q = .ok f) : Fits V .free .outside f := by
  obtain ⟨keys, hkeys, inner, hinner, rfl⟩ := Target.rowsFragment_eq_ok_iff.mp h
  have hspec := hiddenKeys_spec hQ (List.Subset.refl _) hkeys
  have hdocument : Fits V .free .outside [.fixed "SELECT to_jsonb(_rows)"] := .fixed (by decide)
  have hdropped := hdocument.append (fits_dropped fun k hk ↦ hliterals _ (hspec k hk).2)
  have hopen : Fits V .outside .free [.fixed " FROM ("] := .fixed (by decide)
  have hclose : Fits V .outside .outside [.fixed ") AS _rows"] := .fixed (by decide)
  have hselect := fits_selectWith hT hQ
    (fun k hk ↦ ⟨(hspec k hk).1, hnames _ (hspec k hk).2⟩) hinner
  have horder : Fits V .outside .outside (Target.outerOrder q.order keys) :=
    fits_outerOrder fun k hk ↦ hnames _ (hspec k hk).2
  exact (hdropped.append (hopen.append hselect)).append (hclose.append horder)

/-- The count of the rows, or of the groups of an inner SELECT. -/
theorem fits_countFragment (hT : V.HasTarget t) (hQ : V.HasQuery q)
    (h : t.countFragment q = .ok f) : Fits V .free .outside f := by
  obtain ⟨-, -, table, htable, condition, hcondition, groups, hgroups, rfl⟩ :=
    Target.countFragment_eq_ok_iff.mp h
  have htable := fits_target hT htable
  have hcondition := fits_whereClause hT.toHasTable (fun c hc ↦ hQ.filters hc) hcondition
  split at hgroups
  · obtain ⟨clause, hclause, rfl⟩ := map_eq_ok_iff.mp hgroups
    have hopen : Fits V .free .free
        [.fixed "SELECT COUNT(*) AS total FROM (SELECT 1 FROM "] := .fixed (by decide +kernel)
    have hend : Fits V .outside .outside [.fixed ") AS _groups"] := .fixed (by decide)
    exact (((hopen.append htable).append hcondition).append (fits_groupByClause hQ hclause)).append
      hend
  · cases hgroups
    have hopen : Fits V .free .free [.fixed "SELECT COUNT(*) AS total FROM "] := .fixed (by decide)
    exact (hopen.append htable).append hcondition

/-- The plan is asked for a query without order and page, which has no references of its own. -/
theorem fits_explainFragment (hT : V.HasTarget t) (hQ : V.HasQuery q)
    (h : t.explainFragment q = .ok f) : Fits V .free .outside f := by
  obtain ⟨g, hg, rfl⟩ := Target.explainFragment_eq_ok_iff.mp h
  have hbare : V.HasQuery { q with order := [], limit := none, offset := none } := by
    refine ⟨fun raw hraw ↦ hQ.columns raw ?_, hQ.labels⟩
    simp only [Query.columns, List.map_nil, List.append_nil, List.mem_append] at hraw ⊢
    rcases hraw with ((hraw | hraw) | hraw) | hraw
    · exact .inl (.inl (.inl (.inl hraw)))
    · exact .inl (.inl (.inl (.inr hraw)))
    · exact .inl (.inr hraw)
    · exact .inr hraw
  have hexplain : Fits V .free .free [.fixed "EXPLAIN (FORMAT JSON) "] := .fixed (by decide)
  exact hexplain.append (fits_selectFragment hT hbare hg)

/-- The type that an assigned value is cast to is one of the metadata's. -/
theorem columnType_mem (hT : V.HasTarget t) {column : String} :
    ∀ type ∈ t.columnType? column, type ∈ V.types := by
  intro type htype
  obtain ⟨c, hc, htype⟩ := Option.bind_eq_some_iff.mp htype
  obtain ⟨info, hinfo, hc⟩ := Option.bind_eq_some_iff.mp hc
  exact (hT.types info hinfo c (List.mem_of_find?_eq_some hc) type htype).1

/-- An inserted row names its columns and binds its values, if there are any. -/
theorem fits_insertFragment (hT : V.HasTarget t) {row : List (String × SqlValue)}
    (hrow : ∀ p ∈ row, p.1 ∈ V.names) (h : t.insertFragment row = .ok f) :
    Fits V .free .outside f := by
  obtain ⟨table, htable, h⟩ := Target.insertFragment_eq_ok_iff.mp h
  have hinsert : Fits V .free .free [.fixed "INSERT INTO "] := .fixed (by decide)
  have htable := hinsert.append (fits_target hT htable)
  split at h
  · have hdefaults : Fits V .outside .outside [.fixed " DEFAULT VALUES RETURNING *"] :=
      .fixed (by decide)
    exact h ▸ htable.append hdefaults
  · obtain ⟨-, names, hnames, rfl⟩ := h
    have hopen : Fits V .outside .free [.fixed " ("] := .fixed (by decide)
    have hmiddle : Fits V .outside .free [.fixed ") VALUES ("] := .fixed (by decide)
    have hclose : Fits V .outside .outside [.fixed ") RETURNING *"] := .fixed (by decide)
    have hcolumns : Fits V .free .outside
        (Fragment.join ", " (names.map fun i ↦ [Piece.name i])) := by
      refine .join (by decide) fun item hitem ↦ ?_
      obtain ⟨i, hi, rfl⟩ := List.mem_map.mp hitem
      obtain ⟨p, hp, hname⟩ := exists_of_mem_mapM hnames hi
      exact (fits_readName hname (hrow p hp)).mono rfl rfl
    have hvalues : Fits V .free .outside
        (Fragment.join ", " (row.map fun p ↦ [Piece.bound p.2 (t.columnType? p.1)])) := by
      refine .join (by decide) fun item hitem ↦ ?_
      obtain ⟨p, hp, rfl⟩ := List.mem_map.mp hitem
      exact (Fits.bound (columnType_mem hT)).mono rfl rfl
    exact ((htable.append (hopen.append hcolumns)).append (hmiddle.append hvalues)).append hclose

theorem fits_returning : Fits V .outside .outside [.fixed " RETURNING *"] := .fixed (by decide)

/-- An assignment binds its value, cast to the type of the column that it names. -/
theorem fits_assignment (hT : V.HasTarget t) {p : String × SqlValue} (hp : p.1 ∈ V.names)
    (h : t.assignment p = .ok f) : Fits V .free .outside f := by
  obtain ⟨i, hi, rfl⟩ := Target.assignment_eq_ok_iff.mp h
  have hname : Fits V .free .outside [.name i] := (fits_readName hi hp).mono rfl rfl
  exact fits_bound (by decide) hname (columnType_mem hT) (.nil rfl)

/-- An update is its assignments and its condition. -/
theorem fits_updateFragment (hT : V.HasTarget t) {row : List (String × SqlValue)}
    {fs : List Filter} (hrow : ∀ p ∈ row, p.1 ∈ V.names)
    (hfs : ∀ c ∈ fs, V.HasReference c.column) (h : t.updateFragment row fs = .ok f) :
    Fits V .free .outside f := by
  obtain ⟨-, -, -, assignments, hassignments, table, htable, condition, hcondition, rfl⟩ :=
    Target.updateFragment_eq_ok_iff.mp h
  have hupdate : Fits V .free .free [.fixed "UPDATE "] := .fixed (by decide)
  have hset : Fits V .outside .free [.fixed " SET "] := .fixed (by decide)
  have hjoin : Fits V .free .outside (Fragment.join ", " assignments) := by
    refine .join (by decide) fun item hitem ↦ ?_
    obtain ⟨p, hp, h⟩ := exists_of_mem_mapM hassignments hitem
    exact fits_assignment hT (hrow p hp) h
  exact (((hupdate.append (fits_target hT htable)).append (hset.append hjoin)).append
    (fits_whereClause hT.toHasTable hfs hcondition)).append fits_returning

/-- A deletion has nothing but a table and a condition. -/
theorem fits_deleteFragment (hT : V.HasTarget t) {fs : List Filter}
    (hfs : ∀ c ∈ fs, V.HasReference c.column) (h : t.deleteFragment fs = .ok f) :
    Fits V .free .outside f := by
  obtain ⟨-, -, table, htable, condition, hcondition, rfl⟩ :=
    Target.deleteFragment_eq_ok_iff.mp h
  have hdelete : Fits V .free .free [.fixed "DELETE FROM "] := .fixed (by decide)
  exact ((hdelete.append (fits_target hT htable)).append
    (fits_whereClause hT.toHasTable hfs hcondition)).append fits_returning

end

/-! ## Tokens of statements -/

section

variable {t : Target} {r : Request} {f : Fragment}

/-- The vocabulary of a request has what the request refers to. -/
theorem hasReference_vocabulary {raw : String} (h : raw ∈ r.references) :
    (t.vocabulary r).HasReference raw := by
  refine ⟨?_, fun s hs ↦ ?_⟩
  · simp only [Target.vocabulary, Target.names, List.mem_append, List.mem_map]
    exact .inl (.inl (.inr ⟨raw, h, rfl⟩))
  · exact List.mem_append_left _ (List.mem_flatMap_of_mem h hs)

/-- What a request calls its columns is among the names of the statement. -/
theorem label_mem_names {label : String} (h : label ∈ r.labels) : label ∈ t.names r := by
  simp only [Target.names, List.mem_append]
  exact .inl (.inr h)

/-- A request that asks a query has the query's references and names. -/
theorem hasQuery_vocabulary {q : Query} (hreferences : r.references = q.columns)
    (hlabels : r.labels = q.labels) : (t.vocabulary r).HasQuery q where
  columns := fun _ hraw ↦ hasReference_vocabulary (hreferences ▸ hraw)
  labels := fun _ hlabel ↦ label_mem_names (hlabels ▸ hlabel)

/-- The names and the types of the table are in the vocabulary of each request. -/
theorem hasTarget_vocabulary (t : Target) (r : Request) : (t.vocabulary r).HasTarget t where
  wholeDocument := List.mem_append_right _ List.mem_cons_self
  types := fun _ hinfo _ hc _ htype ↦ Target.mem_types hinfo hc htype
  name := by
    simp only [Target.vocabulary, Target.names, List.mem_append, List.mem_cons, true_or]
  schema := fun s hs ↦ by
    simp only [Target.vocabulary, Target.names, List.mem_append, List.mem_cons, Option.mem_toList]
    exact .inl (.inl (.inl (.inr hs)))

/-- A condition stands on its own as well, in the vocabulary of the request that deletes its
rows. -/
theorem fits_whereClause_vocabulary {fs : List Filter} (h : whereClause t.info fs = .ok f) :
    Fits (t.vocabulary (.delete fs)) .free .outside f := by
  have hreferences : ∀ c ∈ fs, (t.vocabulary (.delete fs)).HasReference c.column :=
    fun c hc ↦ hasReference_vocabulary (List.mem_map_of_mem hc)
  exact (fits_whereClause (hasTarget_vocabulary t _).toHasTable hreferences h).mono rfl rfl

/-- The fragment of a request is over the vocabulary of the request. -/
theorem fits_fragmentOf (h : t.fragmentOf r = .ok f) : Fits (t.vocabulary r) .free .outside f := by
  have hT := hasTarget_vocabulary t r
  cases r with
  | select q => exact fits_selectFragment hT (hasQuery_vocabulary rfl rfl) h
  | rows q =>
    refine fits_rowsFragment hT (hasQuery_vocabulary rfl rfl) (fun name hname ↦ ?_)
      (fun name hname ↦ ?_) h
    · exact List.mem_append_right _ hname
    · exact List.mem_append_right _ (List.mem_cons_of_mem _ hname)
  | count q => exact fits_countFragment hT (hasQuery_vocabulary rfl rfl) h
  | explain q => exact fits_explainFragment hT (hasQuery_vocabulary rfl rfl) h
  | insert row =>
    exact fits_insertFragment hT (fun p hp ↦ label_mem_names (List.mem_map_of_mem hp)) h
  | update row fs =>
    exact fits_updateFragment hT (fun p hp ↦ label_mem_names (List.mem_map_of_mem hp))
      (fun c hc ↦ hasReference_vocabulary (List.mem_map_of_mem hc)) h
  | delete fs =>
    exact fits_deleteFragment hT
      (fun c hc ↦ hasReference_vocabulary (List.mem_map_of_mem hc)) h

/-- The text of a statement is read as the tokens of its fragment. -/
theorem tokens_sql {s : Statement} (h : t.compile r = .ok s) :
    ∃ f, t.fragmentOf r = .ok f ∧ f.statement = s ∧ Sql.tokens s.sql = some (f.tokens 0) := by
  obtain ⟨f, hf, rfl⟩ := Target.compile_eq_ok_iff.mp h
  exact ⟨f, hf, rfl, (fits_fragmentOf hf).tokens_textFrom 0⟩

end

/-- No request breaks out of its quotes: without metadata a statement never ends in quotes, what
its quoted tokens stand for was named by the request or is the compiler's own, and all else is the
compiler's own text, with placeholders for values. -/
theorem tokens_of_compile {t : Target} {r : Request} {s : Statement} (hinfo : t.info = none)
    (h : t.compile r = .ok s) :
    ∃ ts, Sql.tokens s.sql = some ts ∧ (∀ tok ∈ ts, tok.IsFrom (t.names r) r.literals) ∧
      Sql.castsFixed ts = true := by
  obtain ⟨f, hf, rfl, htokens⟩ := tokens_sql h
  have htypes : (t.vocabulary r).types = [] := by
    simp only [Target.vocabulary, Target.types, hinfo, Option.toList_none, List.flatMap_nil]
  have hpieces := (fits_fragmentOf hf).has
  refine ⟨f.tokens 0, htokens, fun tok htok ↦ ?_, Vocabulary.castsFixed_tokens htypes hpieces 0⟩
  rcases Vocabulary.allows_tokens hpieces 0 tok htok with hfrom | ⟨type, htype, -⟩
  · exact hfrom
  · rw [htypes] at htype
    cases htype

/-- A table and a request whose names have quotes of their own. -/
def quotedTarget : Target := { table := "o\"; --" }

def quotedRequest : Request :=
  .select {
    select := [{ column := "data->>it's" }]
    filters := [{ column := "na\"me", operator := .eq, value := .string "'" }] }

def quotedText : String :=
  "SELECT \"data\"->>'it''s' AS \"it's\" FROM \"o\"\"; --\" WHERE \"na\"\"me\" = $1"

theorem compile_quoted :
    quotedTarget.compile quotedRequest = .ok ⟨quotedText, [.text "'"]⟩ := by
  decide +kernel

theorem tokens_of_compile_quoted :
    quotedTarget.info = none ∧
    quotedTarget.compile quotedRequest = .ok ⟨quotedText, [.text "'"]⟩ ∧
    ∃ ts, Sql.tokens quotedText = some ts ∧
      (∀ tok ∈ ts, tok.IsFrom (quotedTarget.names quotedRequest) quotedRequest.literals) ∧
      Sql.castsFixed ts = true := by
  refine ⟨rfl, compile_quoted, ?_⟩
  have htokens := tokens_of_compile (t := quotedTarget) rfl compile_quoted
  exact htokens

end RowGate
