import RowGate.Proofs.Sql.Request

/-! # Texts without values

The text of a statement depends on its values only by their kinds: two requests that differ in
nothing else than what their filters compare with and what they assign have the same text.
-/

namespace RowGate

/-! ## Requests that differ in values -/

/-- Values of the same kind. -/
inductive FilterValue.SameKind : FilterValue → FilterValue → Prop where
  | string (s t : String) : SameKind (.string s) (.string t)
  | number (m n : Json.Number) : SameKind (.number m) (.number n)
  | bool (a b : Bool) : SameKind (.bool a) (.bool b)
  | null : SameKind .null .null
  | strings (xs ys : List String) : SameKind (.strings xs) (.strings ys)

/-- Filters that differ in nothing but the contents of their values; both look numeric or none. -/
structure Filter.Alike (c d : Filter) : Prop where
  column : c.column = d.column
  operator : c.operator = d.operator
  group : c.group = d.group
  kind : c.value.SameKind d.value
  numeric : c.value.isNumeric = d.value.isNumeric

/-- Bound values of the same kind. -/
inductive SqlValue.SameKind : SqlValue → SqlValue → Prop where
  | text (s t : String) : SameKind (.text s) (.text t)
  | integer (m n : Int) : SameKind (.integer m) (.integer n)
  | float (x y : Float) : SameKind (.float x) (.float y)
  | boolean (a b : Bool) : SameKind (.boolean a) (.boolean b)
  | textArray (xs ys : List String) : SameKind (.textArray xs) (.textArray ys)
  | json (v w : Json) : SameKind (.json v) (.json w)
  | vector (s t : String) : SameKind (.vector s) (.vector t)
  | null : SameKind .null .null

/-- Values of the same kind are both vectors or neither is. -/
theorem SqlValue.SameKind.isVector_eq {v w : SqlValue} (h : v.SameKind w) :
    v.isVector = w.isVector := by
  cases h <;> rfl

/-- Rows of the same columns with values of the same kinds. -/
def AlikeRows : List (String × SqlValue) → List (String × SqlValue) → Prop :=
  List.Forall₂ fun p q ↦ p.1 = q.1 ∧ p.2.SameKind q.2

/-- Queries that differ in nothing but the values of their filters. -/
structure Query.Alike (q q' : Query) : Prop where
  rest : q' = { q with filters := q'.filters }
  filters : List.Forall₂ Filter.Alike q.filters q'.filters

/-- The second query is the first one with other filters. -/
theorem Query.Alike.exists_filters {q q' : Query} (h : q.Alike q') :
    ∃ fs, q' = { q with filters := fs } := ⟨q'.filters, h.rest⟩

/-- Requests for the same statement that differ in nothing but values. -/
inductive Request.Alike : Request → Request → Prop where
  | select {q q' : Query} (h : q.Alike q') : Alike (.select q) (.select q')
  | rows {q q' : Query} (h : q.Alike q') : Alike (.rows q) (.rows q')
  | count {q q' : Query} (h : q.Alike q') : Alike (.count q) (.count q')
  | explain {q q' : Query} (h : q.Alike q') : Alike (.explain q) (.explain q')
  | insert {row row' : List (String × SqlValue)} (h : AlikeRows row row') :
    Alike (.insert row) (.insert row')
  | update {row row' : List (String × SqlValue)} {fs fs' : List Filter} (hrow : AlikeRows row row')
    (hfs : List.Forall₂ Filter.Alike fs fs') : Alike (.update row fs) (.update row' fs')
  | delete {fs fs' : List Filter} (hfs : List.Forall₂ Filter.Alike fs fs') :
    Alike (.delete fs) (.delete fs')

/-! ## Fragments that differ in values -/

/-- Pieces that are written alike: the same, or bound values with the same cast. -/
inductive Piece.Alike : Piece → Piece → Prop where
  | refl (p : Piece) : Alike p p
  | bound {v w : SqlValue} {type type' : Option String}
    (h : castType? v type = castType? w type') : Alike (.bound v type) (.bound w type')

/-- Fragments that are written alike. -/
def Fragment.Alike : Fragment → Fragment → Prop := List.Forall₂ Piece.Alike

/-- The cast of a placeholder depends on its value only by whether it is a vector. -/
theorem castType_eq {v w : SqlValue} (h : v.isVector = w.isVector) (type : Option String) :
    castType? v type = castType? w type := by
  rw [castType?, castType?, h]

namespace Piece.Alike

variable {p q : Piece}

/-- Pieces that are written alike have the same text under each number. -/
theorem text_eq (h : Alike p q) (n : Nat) : p.text n = q.text n := by
  cases h with
  | refl => rfl
  | @bound v w type type' hcast =>
    change placeholder n v type = placeholder n w type'
    rw [placeholder_eq, placeholder_eq, hcast]

/-- Pieces that are written alike take as many numbers. -/
theorem width_eq (h : Alike p q) : p.width = q.width := by
  cases h <;> rfl

end Piece.Alike

namespace Fragment.Alike

variable {f f' g g' : Fragment}

theorem refl (f : Fragment) : Alike f f := List.forall₂_same.mpr fun p _ ↦ .refl p

/-- Fragments behind fragments that are written alike. -/
theorem append (hf : Alike f f') (hg : Alike g g') : Alike (f ++ g) (f' ++ g') :=
  List.rel_append hf hg

/-- A bound value of the same shape, in the same place. -/
theorem bound (hf : Alike f f') (s : String) {v w : SqlValue} (hvw : v.isVector = w.isVector)
    (type : Option String) (hg : Alike g g') :
    Alike (f ++ .fixed s :: .bound v type :: g) (f' ++ .fixed s :: .bound w type :: g') :=
  hf.append (.cons (.refl _) (.cons (.bound (castType_eq hvw type)) hg))

/-- Items that are written alike, between the same separators. -/
theorem join (sep : String) {fs gs : List Fragment} (h : List.Forall₂ Alike fs gs) :
    Alike (Fragment.join sep fs) (Fragment.join sep gs) := by
  induction h with
  | nil => exact .nil
  | @cons f g fs gs hfg hrest ih =>
    cases hrest with
    | nil =>
      rw [Fragment.join, List.intercalate_singleton, Fragment.join, List.intercalate_singleton]
      exact hfg
    | cons =>
      rw [Fragment.join, List.intercalate_cons_cons, Fragment.join, List.intercalate_cons_cons]
      exact (hfg.append (refl [.fixed sep])).append ih

/-- Fragments that are written alike have the same text. -/
theorem textFrom_eq (h : Alike f g) (k : Nat) : f.textFrom k = g.textFrom k := by
  induction h generalizing k with
  | nil => rfl
  | @cons p q ps qs hpq _ ih =>
    rw [textFrom_cons, textFrom_cons, hpq.text_eq, hpq.width_eq, ih]

end Fragment.Alike

/-! ## Conditions -/

/-- The left side of a comparison depends on the value only by whether it looks numeric. -/
theorem comparisonOperands_left {v w : FilterValue} (h : v.isNumeric = w.isNumeric)
    (p : ColumnPath) (op : Operator) :
    (comparisonOperands p op v).1 = (comparisonOperands p op w).1 := by
  rw [comparisonOperands, comparisonOperands, h]
  split_ifs <;> rfl

/-- Filters bind no vectors. -/
theorem isVector_ofNumber (n : Json.Number) : (SqlValue.ofNumber n).isVector = false := by
  cases n with
  | int n =>
    rw [SqlValue.ofNumber]
    split <;> rfl
  | float x => rfl

/-- What is compared as a number is an integer, a double, or the text that it was. -/
theorem isVector_asNumeric (v : FilterValue) : v.asNumeric.isVector = false := by
  have htext : ∀ s : List Char, ∀ fallback : String,
      ((SqlValue.numeric? s).getD (.text fallback)).isVector = false := by
    intro s fallback
    rw [SqlValue.numeric?]
    split
    · simp only
      split
      · rfl
      · cases Decimal.readFloat? (Text.trim s) <;> rfl
    · rfl
  unfold FilterValue.asNumeric
  split
  · exact isVector_ofNumber _
  · exact htext _ _

/-- What is compared with a column is a number, a truth value or a text. -/
theorem isVector_asScalar (v : FilterValue) : v.asScalar.isVector = false := by
  cases v with
  | number n => exact isVector_ofNumber n
  | _ => rfl

/-- No comparison binds a vector. -/
theorem isVector_comparisonOperands (p : ColumnPath) (op : Operator) (v : FilterValue) :
    (comparisonOperands p op v).2.isVector = false := by
  rw [comparisonOperands]
  split_ifs
  · exact isVector_asNumeric v
  · rfl
  · rfl
  · rfl
  · exact isVector_asScalar v

namespace Filter.Alike

variable {c d : Filter} {table : Option TableInfo} {p : ColumnPath} {f g : Fragment}

/-- Tests with values of the same kind are written alike. -/
theorem isFragment (h : c.Alike d) (hf : c.isFragment p = .ok f) (hg : d.isFragment p = .ok g) :
    Fragment.Alike f g := by
  have hkind := h.kind
  rw [Filter.isFragment] at hf hg
  generalize c.value = v at hkind hf
  generalize d.value = w at hkind hg
  cases hkind with
  | null =>
    cases hf
    cases hg
    exact .refl _
  | bool a b =>
    cases hf
    cases hg
    refine .bound (.refl _) _ ?_ none .nil
    rfl
  | _ => cases hf

/-- Arrays are bound whole, so lists of any lengths are written alike. -/
theorem inFragment (hf : c.inFragment p (columnOf table p) = .ok f)
    (hg : d.inFragment p (columnOf table p) = .ok g) : Fragment.Alike f g := by
  rw [Filter.inFragment] at hf hg
  split at hf
  · cases hf
  · split at hg
    · cases hg
    · cases hf
      cases hg
      refine .bound (.refl _) _ ?_ _ (.refl _)
      rfl

/-- A geometry and its distance have placeholders without casts. -/
theorem geoFragment (hf : c.geoFragment p = .ok f) (hg : d.geoFragment p = .ok g) :
    Fragment.Alike f g := by
  rw [Filter.geoFragment] at hf hg
  split at hf
  · split at hf
    · cases hf
    · split at hg
      · split at hg
        · cases hg
        · cases hf
          cases hg
          refine .bound (.refl (.fixed "ST_DWithin(" :: p.fragment)) _ ?_ none ?_
          · rfl
          · refine .bound .nil _ ?_ none (.refl _)
            rfl
      · cases hg
  · cases hf

/-- Of two alike filters both compare with null or neither does. -/
theorem null_iff (h : c.Alike d) : c.value = .null ↔ d.value = .null := by
  have hkind := h.kind
  generalize c.value = v at hkind
  generalize d.value = w at hkind
  cases hkind <;> simp

/-- Comparisons of alike values have the same operands but for the value itself. -/
theorem binaryFragment (h : c.Alike d) {symbol : String}
    (hf : c.binaryFragment p (columnOf table p) symbol = .ok f)
    (hg : d.binaryFragment p (columnOf table p) symbol = .ok g) : Fragment.Alike f g := by
  rcases Filter.binaryFragment_eq_ok hf with ⟨hc, hop, rfl⟩ | ⟨hc, hop, rfl⟩ | ⟨hc, rfl⟩
  · rcases Filter.binaryFragment_eq_ok hg with ⟨-, -, rfl⟩ | ⟨-, hop', -⟩ | ⟨hd, -⟩
    · exact .refl _
    · rw [h.operator, hop'] at hop
      cases hop
    · exact absurd (h.null_iff.mp hc) hd
  · rcases Filter.binaryFragment_eq_ok hg with ⟨-, hop', -⟩ | ⟨-, -, rfl⟩ | ⟨hd, -⟩
    · rw [h.operator, hop'] at hop
      cases hop
    · exact .refl _
    · exact absurd (h.null_iff.mp hc) hd
  · rcases Filter.binaryFragment_eq_ok hg with ⟨hd, -⟩ | ⟨hd, -⟩ | ⟨-, rfl⟩
    · exact absurd (h.null_iff.mpr hd) hc
    · exact absurd (h.null_iff.mpr hd) hc
    · rw [h.operator, comparisonOperands_left h.numeric]
      refine .bound (.refl _) _ ?_ _ .nil
      rw [isVector_comparisonOperands, isVector_comparisonOperands]

/-- Conditions on alike filters are written alike. -/
theorem fragment (h : c.Alike d) (hf : c.fragment table = .ok f) (hg : d.fragment table = .ok g) :
    Fragment.Alike f g := by
  rw [Filter.fragment_eq_bind] at hf hg
  obtain ⟨p, hp, hf⟩ := bind_eq_ok_iff.mp hf
  obtain ⟨p', hp', hg⟩ := bind_eq_ok_iff.mp hg
  rw [← h.column, hp] at hp'
  cases hp'
  rw [Filter.conditionOf] at hf
  rw [Filter.conditionOf, ← h.operator] at hg
  cases hop : c.operator
  all_goals rw [hop] at hf hg
  case is => exact h.isFragment hf hg
  case oneOf => exact inFragment hf hg
  case stDWithin => exact geoFragment hf hg
  all_goals exact h.binaryFragment hf hg

end Filter.Alike

/-! ## Lists of conditions -/

/-- Parts that differ in nothing but the values of their filters. -/
inductive Part.Alike : Part → Part → Prop where
  | alone {c d : Filter} (h : c.Alike d) : Alike (.alone c) (.alone d)
  | anyOf (n : Nat) {cs ds : List Filter} (h : List.Forall₂ Filter.Alike cs ds) :
    Alike (.anyOf n cs) (.anyOf n ds)

namespace Part

variable {table : Option TableInfo}

/-- The group that a filter is added to is found by its number. -/
theorem addToGroup_alike (n : Nat) {c d : Filter} (h : c.Alike d) {ps qs : List Part}
    (hps : List.Forall₂ Alike ps qs) :
    List.Forall₂ Alike (addToGroup n c ps) (addToGroup n d qs) := by
  induction hps with
  | nil => exact .cons (.anyOf n (.cons h .nil)) .nil
  | cons hpart hrest ih =>
    cases hpart with
    | alone hcd => exact .cons (.alone hcd) ih
    | anyOf m hcs =>
      rw [addToGroup, addToGroup]
      split
      · exact .cons (.anyOf m (List.rel_append hcs (.cons h .nil))) hrest
      · exact .cons (.anyOf m hcs) ih

/-- Alike filters are added in the same place. -/
theorem add_alike {c d : Filter} (h : c.Alike d) {ps qs : List Part}
    (hps : List.Forall₂ Alike ps qs) : List.Forall₂ Alike (add ps c) (add qs d) := by
  rw [add, add, h.group]
  split
  · exact List.rel_append hps (.cons (.alone h) .nil)
  · exact addToGroup_alike _ h hps

/-- Alike lists of filters have alike parts, in the same order. -/
theorem ofFilters_alike {cs ds : List Filter} (h : List.Forall₂ Filter.Alike cs ds) :
    List.Forall₂ Alike (ofFilters cs) (ofFilters ds) := by
  have hfold : ∀ ps qs, List.Forall₂ Alike ps qs →
      List.Forall₂ Alike (cs.foldl add ps) (ds.foldl add qs) := by
    induction h with
    | nil => exact fun _ _ hps ↦ hps
    | cons hcd _ ih => exact fun _ _ hps ↦ ih _ _ (add_alike hcd hps)
  exact hfold [] [] .nil

/-- Disjunctions of alike filters are written alike. -/
theorem Alike.fragment {part part' : Part} (h : part.Alike part') {f g : Fragment}
    (hf : part.fragment table = .ok f) (hg : part'.fragment table = .ok g) :
    Fragment.Alike f g := by
  cases h with
  | alone h => exact h.fragment hf hg
  | anyOf n h =>
    obtain ⟨fs, hfs, hf⟩ := bind_eq_ok_iff.mp hf
    obtain ⟨gs, hgs, hg⟩ := bind_eq_ok_iff.mp hg
    cases hf
    cases hg
    have halternatives : List.Forall₂ Fragment.Alike fs gs :=
      forall₂_of_mapM (fun _ _ _ _ hcd ↦ hcd.fragment) h hfs hgs
    exact ((Fragment.Alike.refl [.fixed "("]).append (.join " OR " halternatives)).append
      (.refl [.fixed ")"])

end Part

/-- Conditions of alike filters are written alike, with a clause for both or for neither. -/
theorem whereClause_alike {table : Option TableInfo} {cs ds : List Filter}
    (h : List.Forall₂ Filter.Alike cs ds) {f g : Fragment} (hf : whereClause table cs = .ok f)
    (hg : whereClause table ds = .ok g) : Fragment.Alike f g := by
  cases h with
  | nil =>
    cases hf
    cases hg
    exact .refl _
  | @cons c d cs ds hcd hrest =>
    simp only [whereClause, whereFragment, List.isEmpty_cons, Bool.false_eq_true, if_false,
      bind_assoc, pure_bind, bind_eq_ok_iff, pure_eq_ok_iff] at hf hg
    obtain ⟨fs, hfs, rfl⟩ := hf
    obtain ⟨gs, hgs, rfl⟩ := hg
    have hparts : List.Forall₂ Fragment.Alike fs gs :=
      forall₂_of_mapM (fun _ _ _ _ hpart ↦ hpart.fragment)
        (Part.ofFilters_alike (.cons hcd hrest)) hfs hgs
    exact (Fragment.Alike.refl [.fixed " WHERE "]).append (.join " AND " hparts)

/-! ## Statements -/

namespace Target

variable {t : Target} {q : Query} {fs : List Filter} {f g : Fragment}

/-- But for its condition, a SELECT does not depend on its filters. -/
theorem selectWith_alike (h : List.Forall₂ Filter.Alike q.filters fs) {hidden : List HiddenKey}
    (hf : t.selectWith q hidden = .ok f)
    (hg : t.selectWith { q with filters := fs } hidden = .ok g) : Fragment.Alike f g := by
  obtain ⟨-, -, s, hs, rfl⟩ := selectWith_eq_ok_iff.mp hf
  obtain ⟨-, -, s', hs', rfl⟩ := selectWith_eq_ok_iff.mp hg
  have hitems : s.items = s'.items := eq_of_ok hs.items hs'.items
  have htable : s.table = s'.table := eq_of_ok hs.table hs'.table
  have hgroups : s.groups = s'.groups := eq_of_ok hs.groups hs'.groups
  have horder : s.order = s'.order := eq_of_ok hs.order hs'.order
  have hcondition : Fragment.Alike s.condition s'.condition :=
    whereClause_alike h hs.condition hs'.condition
  rw [SelectParts.fragment, SelectParts.fragment, hitems, htable, hgroups, horder]
  exact ((((Fragment.Alike.refl _).append hcondition).append (.refl _)).append (.refl _)).append
    (.refl (pageClause q))

/-- The keys of the order do not depend on filters. -/
theorem hiddenKeys_filters (q : Query) (fs : List Filter) (i : Nat) (terms : List OrderTerm) :
    hiddenKeys { q with filters := fs } i terms = hiddenKeys q i terms := by
  induction terms generalizing i with
  | nil => rfl
  | cons term terms ih =>
    rw [hiddenKeys, hiddenKeys, ih]
    rfl

/-- The inner SELECTs of the pages are alike, and what is around them is the same. -/
theorem rowsFragment_alike (h : List.Forall₂ Filter.Alike q.filters fs)
    (hf : t.rowsFragment q = .ok f) (hg : t.rowsFragment { q with filters := fs } = .ok g) :
    Fragment.Alike f g := by
  obtain ⟨keys, hkeys, inner, hinner, rfl⟩ := rowsFragment_eq_ok_iff.mp hf
  obtain ⟨keys', hkeys', inner', hinner', rfl⟩ := rowsFragment_eq_ok_iff.mp hg
  rw [hiddenKeys_filters] at hkeys'
  have heq : keys = keys' := eq_of_ok hkeys hkeys'
  subst heq
  have hselect : Fragment.Alike inner inner' := selectWith_alike h hinner hinner'
  exact ((Fragment.Alike.refl _).append (.append (.refl [.fixed " FROM ("]) hselect)).append
    (.refl (.fixed ") AS _rows" :: outerOrder q.order keys))

/-- Only the condition of a count depends on the filters. -/
theorem countFragment_alike (h : List.Forall₂ Filter.Alike q.filters fs)
    (hf : t.countFragment q = .ok f) (hg : t.countFragment { q with filters := fs } = .ok g) :
    Fragment.Alike f g := by
  obtain ⟨-, -, table, htable, condition, hcondition, groups, hgroups, rfl⟩ :=
    countFragment_eq_ok_iff.mp hf
  obtain ⟨-, -, table', htable', condition', hcondition', groups', hgroups', rfl⟩ :=
    countFragment_eq_ok_iff.mp hg
  have htables : table = table' := eq_of_ok htable htable'
  have hgroups : groups = groups' := eq_of_ok hgroups hgroups'
  have hconditions : Fragment.Alike condition condition' :=
    whereClause_alike h hcondition hcondition'
  subst htables hgroups
  cases groups with
  | none => exact (Fragment.Alike.refl (_ :: table)).append hconditions
  | some groups =>
    exact (((Fragment.Alike.refl (_ :: table)).append hconditions).append (.refl groups)).append
      (.refl _)

/-- The plans of alike queries are asked for alike. -/
theorem explainFragment_alike (h : List.Forall₂ Filter.Alike q.filters fs)
    (hf : t.explainFragment q = .ok f) (hg : t.explainFragment { q with filters := fs } = .ok g) :
    Fragment.Alike f g := by
  obtain ⟨f', hf', rfl⟩ := explainFragment_eq_ok_iff.mp hf
  obtain ⟨g', hg', rfl⟩ := explainFragment_eq_ok_iff.mp hg
  have hselect : Fragment.Alike f' g' :=
    selectWith_alike (q := { q with order := [], limit := none, offset := none }) h hf' hg'
  exact (Fragment.Alike.refl [.fixed "EXPLAIN (FORMAT JSON) "]).append hselect

variable {row row' : List (String × SqlValue)}

/-- Alike rows have the same columns. -/
theorem columns_eq (h : AlikeRows row row') : row.map (·.1) = row'.map (·.1) := by
  induction h with
  | nil => rfl
  | cons hp _ ih => rw [List.map_cons, List.map_cons, hp.1, ih]

/-- Alike rows are inserted by the same names, their values cast alike. -/
theorem insertFragment_alike (h : AlikeRows row row') (hf : t.insertFragment row = .ok f)
    (hg : t.insertFragment row' = .ok g) : Fragment.Alike f g := by
  obtain ⟨table, htable, hf⟩ := insertFragment_eq_ok_iff.mp hf
  obtain ⟨table', htable', hg⟩ := insertFragment_eq_ok_iff.mp hg
  have htables : table = table' := eq_of_ok htable htable'
  subst htables
  have hnames : ∀ row : List (String × SqlValue),
      row.mapM (fun p ↦ readName p.1) = (row.map (·.1)).mapM readName := fun row ↦ by
    rw [List.mapM_map]
    rfl
  have hvalues : List.Forall₂ Fragment.Alike
      (row.map fun p ↦ [Piece.bound p.2 (t.columnType? p.1)])
      (row'.map fun p ↦ [Piece.bound p.2 (t.columnType? p.1)]) := by
    rw [List.forall₂_map_left_iff, List.forall₂_map_right_iff]
    refine h.imp fun p p' hp ↦ .cons (.bound ?_) .nil
    rw [hp.1]
    exact castType_eq hp.2.isVector_eq _
  split at hf
  next hrow =>
    rw [List.isEmpty_iff.mp hrow] at h
    cases h
    exact (hf.trans hg.symm) ▸ .refl _
  next hrow =>
    rw [if_neg (by cases h <;> simp_all)] at hg
    obtain ⟨-, names, hn, rfl⟩ := hf
    obtain ⟨-, names', hn', rfl⟩ := hg
    rw [hnames] at hn hn'
    rw [columns_eq h] at hn
    have heq : names = names' := eq_of_ok hn hn'
    subst heq
    exact ((Fragment.Alike.refl _).append
      (.append (.refl [.fixed ") VALUES ("]) (.join ", " hvalues))).append (.refl _)

theorem assignment_alike {p p' : String × SqlValue} (h : p.1 = p'.1 ∧ p.2.SameKind p'.2)
    (hf : t.assignment p = .ok f) (hg : t.assignment p' = .ok g) : Fragment.Alike f g := by
  obtain ⟨i, hi, rfl⟩ := assignment_eq_ok_iff.mp hf
  obtain ⟨i', hi', rfl⟩ := assignment_eq_ok_iff.mp hg
  rw [h.1] at hi ⊢
  have heq : i = i' := eq_of_ok hi hi'
  subst heq
  exact (Fragment.Alike.refl [.name i]).bound " = " h.2.isVector_eq _ .nil

theorem updateFragment_alike {fs' : List Filter} (hrow : AlikeRows row row')
    (hfs : List.Forall₂ Filter.Alike fs fs') (hf : t.updateFragment row fs = .ok f)
    (hg : t.updateFragment row' fs' = .ok g) : Fragment.Alike f g := by
  obtain ⟨-, -, -, assignments, hassignments, table, htable, condition, hcondition, rfl⟩ :=
    updateFragment_eq_ok_iff.mp hf
  obtain ⟨-, -, -, assignments', hassignments', table', htable', condition', hcondition', rfl⟩ :=
    updateFragment_eq_ok_iff.mp hg
  have htables : table = table' := eq_of_ok htable htable'
  subst htables
  have hassigned : List.Forall₂ Fragment.Alike assignments assignments' :=
    forall₂_of_mapM (fun _ _ _ _ hp ↦ assignment_alike hp) hrow hassignments hassignments'
  have hconditions : Fragment.Alike condition condition' :=
    whereClause_alike hfs hcondition hcondition'
  exact (((Fragment.Alike.refl (.fixed "UPDATE " :: table)).append
    (.append (.refl [.fixed " SET "]) (.join ", " hassigned))).append hconditions).append (.refl _)

theorem deleteFragment_alike {fs' : List Filter} (hfs : List.Forall₂ Filter.Alike fs fs')
    (hf : t.deleteFragment fs = .ok f) (hg : t.deleteFragment fs' = .ok g) :
    Fragment.Alike f g := by
  obtain ⟨-, -, table, htable, condition, hcondition, rfl⟩ := deleteFragment_eq_ok_iff.mp hf
  obtain ⟨-, -, table', htable', condition', hcondition', rfl⟩ := deleteFragment_eq_ok_iff.mp hg
  have htables : table = table' := eq_of_ok htable htable'
  subst htables
  have hconditions : Fragment.Alike condition condition' :=
    whereClause_alike hfs hcondition hcondition'
  exact ((Fragment.Alike.refl (.fixed "DELETE FROM " :: table)).append hconditions).append
    (.refl _)

/-- Requests that differ in values are written alike. -/
theorem fragmentOf_alike {r r' : Request} (h : r.Alike r') (hf : t.fragmentOf r = .ok f)
    (hg : t.fragmentOf r' = .ok g) : Fragment.Alike f g := by
  cases h with
  | select h =>
    obtain ⟨fs, rfl⟩ := h.exists_filters
    exact selectWith_alike h.filters hf hg
  | rows h =>
    obtain ⟨fs, rfl⟩ := h.exists_filters
    exact rowsFragment_alike h.filters hf hg
  | count h =>
    obtain ⟨fs, rfl⟩ := h.exists_filters
    exact countFragment_alike h.filters hf hg
  | explain h =>
    obtain ⟨fs, rfl⟩ := h.exists_filters
    exact explainFragment_alike h.filters hf hg
  | insert h => exact insertFragment_alike h hf hg
  | update hrow hfs => exact updateFragment_alike hrow hfs hf hg
  | delete hfs => exact deleteFragment_alike hfs hf hg

end Target

/-- No value is ever written into the text of a statement: requests that differ only in what their
filters compare with and in what they assign have the same text, for every table, with metadata or
without. -/
theorem sql_eq_of_alike {t : Target} {r r' : Request} (hr : r.Alike r') {s s' : Statement}
    (h : t.compile r = .ok s) (h' : t.compile r' = .ok s') : s.sql = s'.sql := by
  obtain ⟨f, hf, rfl⟩ := Target.compile_eq_ok_iff.mp h
  obtain ⟨g, hg, rfl⟩ := Target.compile_eq_ok_iff.mp h'
  exact (Target.fragmentOf_alike hr hf hg).textFrom_eq 0

def usersTarget : Target where
  table := "users"
  info := some
    { schema := "public", name := "users"
      columns := [.ofType "id" "integer", .ofType "name" "text", .ofType "tags" "text[]"] }

/-- A new name for the users that meet one of two conditions. -/
def renameUsers (name id tags : String) : Request :=
  .update [("name", .text name)]
    [{ column := "id", operator := .eq, value := .string id, group := some 1 },
      { column := "tags", operator := .oneOf, value := .string tags, group := some 1 }]

def renameText : String :=
  "UPDATE \"users\" SET \"name\" = $1::text " ++
    "WHERE (\"id\" = $2::integer OR \"tags\" = ANY($3)) RETURNING *"

theorem sql_eq_of_alike_renameUsers :
    (renameUsers "Ada" "7" "a,b").Alike (renameUsers "'; --" "42" "") ∧
    ∃ s s', usersTarget.compile (renameUsers "Ada" "7" "a,b") = .ok s ∧
      usersTarget.compile (renameUsers "'; --" "42" "") = .ok s' ∧ s.params ≠ s'.params ∧
      s.sql = s'.sql := by
  have halike : (renameUsers "Ada" "7" "a,b").Alike (renameUsers "'; --" "42" "") := by
    refine .update (.cons ⟨rfl, .text _ _⟩ .nil) ?_
    refine .cons ⟨rfl, rfl, rfl, .string _ _, by decide +kernel⟩ (.cons ?_ .nil)
    exact ⟨rfl, rfl, rfl, .string _ _, by decide +kernel⟩
  have hleft : usersTarget.compile (renameUsers "Ada" "7" "a,b") =
      .ok ⟨renameText, [.text "Ada", .text "7", .textArray ["a", "b"]]⟩ := by decide +kernel
  have hright : usersTarget.compile (renameUsers "'; --" "42" "") =
      .ok ⟨renameText, [.text "'; --", .text "42", .textArray [""]]⟩ := by decide +kernel
  exact ⟨halike, _, _, hleft, hright, by simp, sql_eq_of_alike halike hleft hright⟩

end RowGate
