import RowGate.Proofs.Sql.OrderKeys

/-! # The statements of one query

A query is compiled to a SELECT, to a page of documents, to a total and to a plan. Main statement:
where there is a SELECT there are the other three, and all of them bind the same values in the same
condition; there is a SELECT wherever there is a page.

The four share their checks and their clauses. What a page has of its own are the keys that it is
sorted by, and those are found: the columns and calls behind them stand in the select list, and
their names are numbers behind a prefix.
-/

namespace RowGate

variable {t : Target} {q : Query} {f : Fragment}

/-! ## The condition in its statement -/

/-- A fragment that binds values in one part only. -/
def Fragment.BindsIn (w f : Fragment) : Prop :=
  ∃ a b : Fragment, a.values = [] ∧ b.values = [] ∧ f = a ++ (w ++ b)

namespace Fragment.BindsIn

variable {w : Fragment}

/-- All values are those of the part. -/
theorem values (h : w.BindsIn f) : f.values = w.values := by
  obtain ⟨a, b, ha, hb, rfl⟩ := h
  rw [values_append, values_append, ha, hb, List.nil_append, List.append_nil]

/-- The part stands in the text as it stands alone: nothing before it takes a number. -/
theorem text (h : w.BindsIn f) : ∃ a b : String, f.text = a ++ w.text ++ b := by
  obtain ⟨a, b, ha, -, rfl⟩ := h
  refine ⟨a.text, textFrom w.values.length b, ?_⟩
  simp [Fragment.text, textFrom_append, ha, String.append_assoc]

/-- Text without values may be put around a fragment. -/
theorem around (h : w.BindsIn f) {a b : Fragment} (ha : a.values = []) (hb : b.values = []) :
    w.BindsIn (a ++ (f ++ b)) := by
  obtain ⟨a', b', ha', hb', rfl⟩ := h
  refine ⟨a ++ a', b' ++ b, ?_, ?_, by simp only [List.append_assoc]⟩
  · rw [values_append, ha, ha', List.nil_append]
  · rw [values_append, hb, hb', List.nil_append]

end Fragment.BindsIn

/-- Without placeholders it does not matter which numbers are taken. -/
theorem Fragment.textFrom_of_values (h : f.values = []) (k : Nat) : f.textFrom k = f.text := by
  induction f with
  | nil => rfl
  | cons p f ih => cases p <;> simp_all [text, textFrom, values]

namespace Target

/-- The select list binds nothing. -/
theorem values_selectClause (h : selectClause q = .ok f) : f.values = [] := by
  obtain ⟨columns, calls, hcolumns, hcalls, -, rfl⟩ := selectClause_eq_ok h
  refine Fragment.values_join_eq_nil (List.forall_mem_append.mpr ⟨fun f hf ↦ ?_, fun f hf ↦ ?_⟩)
  · obtain ⟨c, -, hc⟩ := exists_of_mem_mapM hcolumns hf
    exact (item_column hc).1.values
  · obtain ⟨a, -, ha⟩ := exists_of_mem_mapM hcalls hf
    exact (item_aggregation ha).1.values

/-- The hidden keys bind nothing, as their expressions do not. -/
theorem values_hiddenItems {keys : List HiddenKey} (h : ∀ k ∈ keys, k.expr.values = []) :
    (SelectParts.hiddenItems keys).values = [] := by
  induction keys with
  | nil => rfl
  | cons k keys ih =>
    obtain ⟨hk, hkeys⟩ := List.forall_mem_cons.mp h
    simp only [SelectParts.hiddenItems, List.flatMap_cons, Fragment.values_append, List.cons_append,
      Fragment.values, hk, List.nil_append]
    exact ih hkeys

namespace SelectParts

variable {s : SelectParts}

/-- Only the condition of a SELECT binds values. -/
theorem Of.bindsIn (hs : s.Of t q) {keys : List HiddenKey} (h : ∀ k ∈ keys, k.expr.values = []) :
    s.condition.BindsIn (s.fragment q keys) := by
  have hitems := values_selectClause hs.items
  have hkeys := values_hiddenItems h
  have htable := values_fragment hs.table
  have hgroups := (isClause_groupByClause hs.groups).1
  have horder := (isClause_orderByClause hs.order).1
  have hpage := (pageClause_spec q).1
  refine ⟨.fixed "SELECT " :: (s.items ++ hiddenItems keys ++ .fixed " FROM " :: s.table),
    s.groups ++ s.order ++ pageClause q, ?_, ?_, by simp [fragment]⟩
  · simp [Fragment.values, hitems, hkeys, htable]
  · simp [hgroups, horder, hpage]

/-- What a SELECT has before its order: what the plan shows. -/
def base (s : SelectParts) : Fragment :=
  .fixed "SELECT " :: s.items ++ .fixed " FROM " :: s.table ++ s.condition ++ s.groups

/-- A SELECT without hidden keys ends in its order and its page. -/
theorem fragment_eq (s : SelectParts) (q : Query) :
    s.fragment q [] = s.base ++ (s.order ++ pageClause q) := by
  simp [fragment, base, hiddenItems]

end SelectParts

end Target

/-! ## The keys of a page -/

/-- An item that is built has a reference that is read. -/
theorem SelectColumn.readPath_of_fragment {c : SelectColumn} (h : c.fragment = .ok f)
    (hplain : c.isWildcard = false) : ∃ p, readPath c.column = .ok p := by
  rcases (item_column h).2 with ⟨hwildcard, -⟩ | ⟨-, p, hp, -⟩
  · rw [hplain] at hwildcard
    cases hwildcard
  · exact ⟨p, hp⟩

/-- The search for an output fails for references only that are not read. -/
theorem findOutput_total {columns : List SelectColumn}
    (h : ∀ c ∈ columns, ∃ p, readPath c.column = .ok p) (name : String) :
    ∃ found, findOutput name columns = .ok found := by
  induction columns with
  | nil => exact ⟨none, rfl⟩
  | cons c columns ih =>
    obtain ⟨⟨p, hp⟩, hcolumns⟩ := List.forall_mem_cons.mp h
    obtain ⟨found, hfound⟩ := ih hcolumns
    rw [findOutput, hp]
    by_cases hname : c.label.getD p.outputName = name
    · exact ⟨some p.fragment, by simp [bind, Except.bind, hname, pure, Except.pure]⟩
    · exact ⟨found, by simp [bind, Except.bind, hname, hfound]⟩

/-- A selected column is shown, so its path is read. -/
theorem readPath_of_plainColumns (h : selectClause q = .ok f) {c : SelectColumn}
    (hc : c ∈ q.plainColumns) : ∃ p, readPath c.column = .ok p := by
  obtain ⟨columns, -, hcolumns, -⟩ := selectClause_eq_ok h
  have hshown : c ∈ q.shownColumns := by
    have hne : ¬(q.isAggregate = true ∧ q.plainColumns = []) :=
      fun hnil ↦ List.ne_nil_of_mem hc hnil.2
    rw [← Query.filter_shownColumns hne] at hc
    exact (List.mem_filter.mp hc).1
  obtain ⟨g, -, hg⟩ := exists_mem_of_mapM hcolumns hshown
  exact SelectColumn.readPath_of_fragment hg (by simpa using (List.mem_filter.mp hc).2)

/-- Every term of a SELECT has a key. -/
theorem OrderTerm.key_total {s : Target.SelectParts} (hs : s.Of t q) {term : OrderTerm}
    (hterm : term ∈ q.order) : ∃ f, term.key q = .ok f := by
  rw [key]
  cases hfind : q.aggregations.find? fun a ↦ a.outputAlias = term.column with
  | some a =>
    obtain ⟨-, calls, -, hcalls, -⟩ := selectClause_eq_ok hs.items
    obtain ⟨g, -, hg⟩ := exists_mem_of_mapM hcalls (List.mem_of_find?_eq_some hfind)
    obtain ⟨call, hcall, -⟩ := (item_aggregation hg).2
    exact ⟨call, hcall⟩
  | none =>
    obtain ⟨terms, hterms, -⟩ := orderByClause_eq_ok hs.order
    obtain ⟨g, -, hg⟩ := exists_mem_of_mapM hterms hterm
    obtain ⟨p, hp, -⟩ := bind_eq_ok_iff.mp hg
    obtain ⟨found, hfound⟩ := findOutput_total (fun c hc ↦ readPath_of_plainColumns hs.items hc)
      term.column
    simp only [hfound, bind, Except.bind]
    cases found with
    | some g => exact ⟨g, rfl⟩
    | none => exact ⟨p.fragment, by simp [hp, pure, Except.pure]⟩

/-- The name of a hidden key is an identifier, unless its number has too many digits. -/
theorem readName_numbered {n : Nat} (h : n < 10 ^ 56) :
    ∃ name, readName ("_order_" ++ toString n) = .ok name := by
  have hlength : (toString n).toList.length ≤ 56 := by
    rw [Text.toList_toString]
    exact (Nat.length_toDigits_le_iff (by decide) (by decide)).mpr h
  have hsize : ("_order_" ++ toString n).utf8ByteSize ≤ maxNameBytes := by
    have hlead : "_order_".utf8ByteSize = 7 := by decide
    have hnumber : (toString n).utf8ByteSize = (toString n).toList.length := by
      rw [← Text.utf8Len_of_isDigit Text.isDigit_of_mem_toString, ← String.utf8ByteSize_ofList,
        String.ofList_toList]
    rw [String.utf8ByteSize_append, hlead, hnumber, maxNameBytes]
    omega
  have hlead : IsName "_order_" := ⟨by decide, by decide⟩
  have hsound := (hlead.append (noControl_toString n)).nameFault?_eq_none hsize
  exact ⟨⟨_, hsound⟩, readName_eq_ok_iff.mpr rfl⟩

/-- Every term that has a key has a hidden one, as long as its number is short enough for a name. -/
theorem Target.hiddenKeys_total {terms : List OrderTerm}
    (h : ∀ term ∈ terms, ∃ f, term.key q = .ok f) {i : Nat} (hi : i + terms.length ≤ 10 ^ 56) :
    ∃ keys, hiddenKeys q i terms = .ok keys := by
  induction terms generalizing i with
  | nil => exact ⟨[], rfl⟩
  | cons term terms ih =>
    obtain ⟨⟨expr, hexpr⟩, hterms⟩ := List.forall_mem_cons.mp h
    rw [List.length_cons] at hi
    obtain ⟨name, hname⟩ := readName_numbered (n := i) (by omega)
    obtain ⟨rest, hrest⟩ := ih hterms (i := i + 1) (by omega)
    refine ⟨⟨expr, name⟩ :: rest, ?_⟩
    simp only [hiddenKeys, hexpr, hname, hrest, bind, Except.bind, pure, Except.pure]

/-! ## The plan -/

/-- The query that the plan is of. -/
def Query.unpaged (q : Query) : Query := { q with order := [], limit := none, offset := none }

/-- Without its order, a query refers to nothing more. -/
theorem Query.references_unpaged (q : Query) {raw : String} (h : raw ∈ q.unpaged.references) :
    raw ∈ q.references := by
  have hreferences : q.references = q.unpaged.references ++
      (q.order.map (·.column)).filter fun c ↦ !q.outputNames.contains c := by
    simp [references, unpaged, plainColumns]
  rw [hreferences]
  exact List.mem_append_left _ h

namespace Target

/-- A query whose references pass also passes without order and page. -/
theorem validate_unpaged (h : t.validate q = .ok ()) : t.validate q.unpaged = .ok () := by
  rw [validate_eq, checkColumns_eq_ok_iff] at h ⊢
  exact fun info hinfo raw hraw ↦ h info hinfo raw (q.references_unpaged hraw)

theorem SelectParts.Of.unpaged {s : SelectParts} (hs : s.Of t q) :
    SelectParts.Of t q.unpaged { s with order := [] } :=
  ⟨hs.items, hs.table, hs.condition, hs.groups, rfl⟩

/-! ## Four statements -/

/-- What the statements of a query have in common. -/
structure Agree (t : Target) (q : Query) (select page total plan : Statement) : Prop where
  params : page.params = select.params ∧ total.params = select.params ∧
    plan.params = select.params
  /-- The condition is a stretch of each text. -/
  condition : ∃ w, whereClause t.info q.filters = .ok w ∧
    ∀ s ∈ [select, page, total, plan], ∃ a b : String, s.sql = a ++ w.text ++ b
  /-- The plan is that of the SELECT without its order, limit and offset. -/
  plan : ∃ base order, orderByClause q.order = .ok order ∧
    select.sql = base ++ order.text ++ (pageClause q).text ∧
    plan.sql = "EXPLAIN (FORMAT JSON) " ++ base

variable {st page : Statement}

/-- There is a SELECT if there is a page. -/
theorem select_of_rows (h : t.rows q = .ok page) : ∃ st, t.select q = .ok st := by
  obtain ⟨f, hf, -⟩ := map_eq_ok_iff.mp h
  obtain ⟨keys, -, inner, hinner, -⟩ := rowsFragment_eq_ok_iff.mp hf
  obtain ⟨hcount, hvalid, s, hs, -⟩ := selectWith_eq_ok_iff.mp hinner
  exact ⟨_, map_eq_ok_iff.mpr ⟨_, selectWith_eq_ok_iff.mpr ⟨hcount, hvalid, s, hs, rfl⟩, rfl⟩⟩

/-- No hidden key of a page binds a value. -/
theorem values_keys {keys : List HiddenKey} (h : hiddenKeys q 1 q.order = .ok keys) :
    ∀ k ∈ keys, k.expr.values = [] := by
  intro k hk
  obtain ⟨term, hterm⟩ := exists_of_forall₂ (hiddenKeys_eq_ok h).1.flip hk
  exact (OrderTerm.isExpression_key hterm).values

/-- What is around the inner SELECT of a page binds nothing. -/
theorem bindsIn_pageFragment {keys : List HiddenKey} {w inner : Fragment}
    (hkeys : keys.length = q.order.length) (h : w.BindsIn inner) :
    w.BindsIn (pageFragment q keys inner) := by
  have hlist := (isClause_documentList keys).1
  have horder := (isClause_outerOrder hkeys).1
  have hpage := h.around (a := documentList keys ++ [.fixed " FROM ("])
    (b := .fixed ") AS _rows" :: outerOrder q.order keys)
    (by rw [Fragment.values_append, hlist]; rfl) horder
  simpa [pageFragment, documentList] using hpage

/-- A count binds nothing but the values of its condition. -/
theorem bindsIn_totalFragment {table w : Fragment} {groups : Option Fragment}
    (htable : table.values = []) (hgroups : ∀ g ∈ groups, g.values = []) :
    w.BindsIn (totalFragment table w groups) := by
  cases groups with
  | none =>
    exact ⟨.fixed "SELECT COUNT(*) AS total FROM " :: table, [], htable, rfl, by
      simp [totalFragment]⟩
  | some g =>
    refine ⟨.fixed "SELECT COUNT(*) AS total FROM (SELECT 1 FROM " :: table,
      g ++ [.fixed ") AS _groups"], htable, ?_, by simp [totalFragment]⟩
    rw [Fragment.values_append, hgroups g rfl]
    rfl

section Parts

variable {s : SelectParts}

/-- Where a SELECT has its clauses, there is a page with the same condition. -/
theorem rowsFragment_of_parts (hkeys : q.order.length < 10 ^ 56)
    (hcount : checkFilterCount q.filters = .ok ()) (hvalid : t.validate q = .ok ())
    (hs : s.Of t q) : ∃ f, t.rowsFragment q = .ok f ∧ s.condition.BindsIn f := by
  obtain ⟨keys, hhidden⟩ := hiddenKeys_total (i := 1) (fun _ hterm ↦ OrderTerm.key_total hs hterm)
    (by omega)
  have hlength : keys.length = q.order.length := (hiddenKeys_eq_ok hhidden).1.length_eq.symm
  have hinner : t.selectWith q keys = .ok (s.fragment q keys) :=
    selectWith_eq_ok_iff.mpr ⟨hcount, hvalid, s, hs, rfl⟩
  exact ⟨_, rowsFragment_eq_ok_iff.mpr ⟨keys, hhidden, _, hinner, rfl⟩,
    bindsIn_pageFragment hlength (hs.bindsIn (values_keys hhidden))⟩

/-- Where a SELECT has its clauses, there is a count with the same condition. -/
theorem countFragment_of_parts (hcount : checkFilterCount q.filters = .ok ())
    (hvalid : t.validate q = .ok ()) (hs : s.Of t q) :
    ∃ f, t.countFragment q = .ok f ∧ s.condition.BindsIn f := by
  obtain ⟨groups, hgroups, hvalues⟩ : ∃ groups,
      (if q.isAggregate then (groupByClause q.groupingKeys).map some else .ok none) = .ok groups ∧
        ∀ g ∈ groups, g.values = [] := by
    split
    · refine ⟨some s.groups, by rw [hs.groups]; rfl, ?_⟩
      rintro g ⟨⟩
      exact (isClause_groupByClause hs.groups).1
    · exact ⟨none, rfl, fun _ h ↦ nomatch h⟩
  exact ⟨_, countFragment_eq_ok_iff.mpr
    ⟨hcount, hvalid, _, hs.table, _, hs.condition, groups, hgroups, rfl⟩,
    bindsIn_totalFragment (values_fragment hs.table) hvalues⟩

/-- Where a SELECT has its clauses, there is a plan of all that it has before its order. -/
theorem explainFragment_of_parts (hcount : checkFilterCount q.filters = .ok ())
    (hvalid : t.validate q = .ok ()) (hs : s.Of t q) :
    t.explainFragment q = .ok (.fixed "EXPLAIN (FORMAT JSON) " :: s.base) ∧
      s.condition.BindsIn (.fixed "EXPLAIN (FORMAT JSON) " :: s.base) := by
  have hbase : SelectParts.fragment { s with order := [] } q.unpaged [] = s.base := by
    simp [SelectParts.fragment, SelectParts.base, SelectParts.hiddenItems, Query.unpaged,
      pageClause]
  have hplain : t.selectFragment q.unpaged = .ok s.base :=
    selectWith_eq_ok_iff.mpr ⟨hcount, validate_unpaged hvalid, _, hs.unpaged, hbase.symm⟩
  have hbinds : s.condition.BindsIn (SelectParts.fragment { s with order := [] } q.unpaged []) :=
    hs.unpaged.bindsIn (List.forall_mem_nil _)
  rw [hbase] at hbinds
  exact ⟨explainFragment_eq_ok_iff.mpr ⟨_, hplain, rfl⟩, by
    simpa using hbinds.around (a := [.fixed "EXPLAIN (FORMAT JSON) "]) (b := []) rfl rfl⟩

/-- The text of a SELECT is its base, its order and its page. -/
theorem text_fragment (hs : s.Of t q) :
    (s.fragment q []).text = s.base.text ++ s.order.text ++ (pageClause q).text := by
  have horder := (isClause_orderByClause hs.order).1
  have hpage := (pageClause_spec q).1
  rw [SelectParts.fragment_eq, Fragment.text, Fragment.textFrom_append, Fragment.textFrom_append,
    Fragment.textFrom_of_values horder, Fragment.textFrom_of_values hpage, String.append_assoc]
  rfl

end Parts

/-- Where there is a SELECT, there are the page, the total and the plan. -/
theorem agree_of_select (hkeys : q.order.length < 10 ^ 56) (h : t.select q = .ok st) :
    ∃ page total plan, t.rows q = .ok page ∧ t.count q = .ok total ∧ t.explain q = .ok plan ∧
      t.Agree q st page total plan := by
  obtain ⟨f, hf, rfl⟩ := map_eq_ok_iff.mp h
  obtain ⟨hcount, hvalid, s, hs, rfl⟩ := selectWith_eq_ok_iff.mp hf
  have hselect : s.condition.BindsIn (s.fragment q []) := hs.bindsIn (List.forall_mem_nil _)
  obtain ⟨page, hrows, hpage⟩ := rowsFragment_of_parts hkeys hcount hvalid hs
  obtain ⟨total, hcounted, htotal⟩ := countFragment_of_parts hcount hvalid hs
  obtain ⟨hexplain, hplan⟩ := explainFragment_of_parts hcount hvalid hs
  refine ⟨page.statement, total.statement, _, map_eq_ok_iff.mpr ⟨_, hrows, rfl⟩,
    map_eq_ok_iff.mpr ⟨_, hcounted, rfl⟩, map_eq_ok_iff.mpr ⟨_, hexplain, rfl⟩, ⟨?_, ?_, ?_⟩,
    ⟨s.condition, hs.condition, ?_⟩, ⟨s.base.text, s.order, hs.order, text_fragment hs, rfl⟩⟩
  · exact hpage.values.trans hselect.values.symm
  · exact htotal.values.trans hselect.values.symm
  · exact hplan.values.trans hselect.values.symm
  · simp only [List.forall_mem_cons]
    exact ⟨hselect.text, hpage.text, htotal.text, hplan.text, List.forall_mem_nil _⟩

end Target

end RowGate
