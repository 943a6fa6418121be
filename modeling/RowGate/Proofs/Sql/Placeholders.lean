import Mathlib.Algebra.GroupWithZero.Nat
import RowGate.Proofs.Sql.Request

/-! # Placeholders and values

The placeholders of a statement count its values. A condition that is added to bound values goes on
counting where they end, and every filter brings the values that stand for its own, as many as its
operator needs.
-/

namespace RowGate

/-- How many values a filter binds. -/
def Filter.bindCount (c : Filter) : Nat :=
  match c.operator, c.value with
  | .is, .null | .eq, .null | .neq, .null => 0
  | .stDWithin, _ => 2
  | _, _ => 1

/-- What a filter binds for its value: nothing for null, a truth value, the items of a list as one
array, a geometry and then the distance, or what a comparison has on its right. There a document is
compared with a document, its text with a text or a number, and a column with a single value. -/
inductive Filter.Binds (c : Filter) : List SqlValue → Prop
  | nothing (hop : c.operator = .is ∨ c.operator = .eq ∨ c.operator = .neq)
    (hvalue : c.value = .null) : Binds c []
  | truth {b : Bool} (hop : c.operator = .is) (hvalue : c.value = .bool b) : Binds c [.boolean b]
  | list {items : List String} (hop : c.operator = .oneOf)
    (hitems : listItems? c.value = some items) : Binds c [.textArray items]
  | place {raw geometry : String} {distance : Float} (hop : c.operator = .stDWithin)
    (hvalue : c.value = .string raw) (hread : readGeoValue raw = .ok (distance, geometry)) :
    Binds c [.text geometry, .float distance]
  | number {p : ColumnPath} (hop : c.operator.sql?.isSome = true) (hvalue : c.value ≠ .null)
    (hp : readPath c.column = .ok p) (htext : p.extractsText = true)
    (hnumeric : c.operator.isOrdering = true ∧ c.value.isNumeric = true) :
    Binds c [c.value.asNumeric]
  | document {p : ColumnPath} (hop : c.operator.sql?.isSome = true) (hvalue : c.value ≠ .null)
    (hp : readPath c.column = .ok p) (hjson : p.extractsJson = true)
    (hpattern : c.operator.isPattern = false) : Binds c [.json c.value.document]
  | text {p : ColumnPath} (hop : c.operator.sql?.isSome = true) (hvalue : c.value ≠ .null)
    (hp : readPath c.column = .ok p) (hjson : p.isJson = true)
    (hnumber : p.extractsText = true → ¬(c.operator.isOrdering = true ∧ c.value.isNumeric = true))
    (hpattern : p.extractsJson = true → c.operator.isPattern = true) :
    Binds c [.text c.value.textOrEmpty]
  | scalar {p : ColumnPath} (hop : c.operator.sql?.isSome = true) (hvalue : c.value ≠ .null)
    (hp : readPath c.column = .ok p) (hjson : p.isJson = false) : Binds c [c.value.asScalar]

/-- The placeholders of `m` values behind `k` others. -/
def numbered (k m : Nat) : List String := (List.range' (k + 1) m).map fun i ↦ "$" ++ toString i

variable {table : Option TableInfo} {g : Fragment} {p : ColumnPath}

/-! ## The values of a filter -/

theorem values_path (p : ColumnPath) : p.fragment.values = [] := by
  rw [ColumnPath.fragment, Fragment.values]
  · induction p.steps with
    | nil => rfl
    | cons step steps ih =>
      rw [List.flatMap_cons, Fragment.values_append, ih]
      cases step.key <;> simp [PathKey.piece, Fragment.values]
  · intro _ _ h
    cases h

theorem values_paren (f : Fragment) : f.paren.values = f.values := by
  simp [Fragment.paren, Fragment.values]

/-- The text of a whole document binds what the document binds. -/
theorem values_documentText (f : Fragment) : (documentText f).values = f.values := by
  simp [documentText, Fragment.values]

/-- The left side of a comparison binds nothing. -/
theorem values_comparisonOperands (p : ColumnPath) (op : Operator) (v : FilterValue) :
    (comparisonOperands p op v).1.values = [] := by
  rw [comparisonOperands]
  split_ifs
  · simp [castNumeric, values_paren, values_path, Fragment.values]
  · rw [values_documentText, values_path]
  · exact values_path p
  · exact values_path p
  · exact values_path p

/-- The left side of a membership binds nothing. -/
theorem values_listOperand (p : ColumnPath) :
    (if p.extractsJson then documentText p.fragment else p.fragment).values = [] := by
  split
  · rw [values_documentText, values_path]
  · exact values_path p

/-- A join binds what its fragments bind, in their order. -/
theorem values_join (sep : String) (fs : List Fragment) :
    (Fragment.join sep fs).values = fs.flatMap Fragment.values := by
  match fs with
  | [] => rfl
  | [f] => simp [Fragment.join]
  | f :: g :: fs =>
    have ih := values_join sep (g :: fs)
    simp only [Fragment.join] at ih
    simp [Fragment.join, List.intercalate_cons_cons, Fragment.values, ih]

/-- A path into no document extracts no text and no document. -/
theorem ColumnPath.extracts_of_isJson (h : p.isJson = false) :
    p.extractsText = false ∧ p.extractsJson = false := by
  have hsteps : p.steps = [] := by simpa [isJson] using h
  rw [extractsText, extractsJson, hsteps]
  exact ⟨rfl, rfl⟩

namespace Filter

variable {c : Filter} {vs : List SqlValue}

/-- A test for a truth value binds it, and a test for null binds nothing. -/
theorem binds_isFragment (hop : c.operator = .is) (h : c.isFragment p = .ok g) :
    c.Binds g.values := by
  rw [isFragment] at h
  split at h
  next hvalue =>
    cases h
    rw [Fragment.values_append, values_path]
    exact .nothing (.inl hop) hvalue
  next hvalue =>
    cases h
    rw [Fragment.values_append, values_path]
    exact .truth hop hvalue
  next => cases h

/-- A membership binds its items as one array. -/
theorem binds_inFragment (hop : c.operator = .oneOf)
    (h : c.inFragment p (columnOf table p) = .ok g) : c.Binds g.values := by
  rw [inFragment] at h
  split at h
  next => cases h
  next hitems =>
    cases h
    rw [Fragment.values_append, values_listOperand]
    exact .list hop hitems

/-- A distance test binds the geometry and then the distance. -/
theorem binds_geoFragment (hop : c.operator = .stDWithin) (h : c.geoFragment p = .ok g) :
    c.Binds g.values := by
  rw [geoFragment] at h
  split at h
  next hvalue =>
    split at h
    next => cases h
    next distance geometry hread =>
      cases h
      have hvalues : Fragment.values (.fixed "ST_DWithin(" :: p.fragment ++
          [.fixed ", ST_GeomFromGeoJSON(", .bound (.text geometry) none, .fixed "), ",
            .bound (.float distance) none, .fixed ")"]) = [.text geometry, .float distance] := by
        simp [values_path, Fragment.values]
      rw [hvalues]
      exact .place hop hvalue hread
  next => cases h

/-- What a comparison has on its right, by what its path yields. -/
theorem binds_comparisonOperands (hop : c.operator.sql?.isSome = true) (hvalue : c.value ≠ .null)
    (hp : readPath c.column = .ok p) :
    c.Binds [(comparisonOperands p c.operator c.value).2] := by
  rw [comparisonOperands]
  split_ifs with hnumeric hjson hpattern hpath
  · simp only [Bool.and_eq_true] at hnumeric
    exact .number hop hvalue hp hnumeric.1.1 ⟨hnumeric.1.2, hnumeric.2⟩
  all_goals
    have hnumber (htext : p.extractsText = true) :
        ¬(c.operator.isOrdering = true ∧ c.value.isNumeric = true) := by
      simpa [htext] using hnumeric
  · have hpath : p.isJson = true := by
      by_contra hplain
      cases hjson.symm.trans (p.extracts_of_isJson (Bool.eq_false_iff.mpr hplain)).2
    exact .text hop hvalue hp hpath hnumber fun _ ↦ hpattern
  · exact .document hop hvalue hp hjson (Bool.eq_false_iff.mpr hpattern)
  · exact .text hop hvalue hp hpath hnumber fun h ↦ absurd h hjson
  · exact .scalar hop hvalue hp (Bool.eq_false_iff.mpr hpath)

/-- A comparison binds its value, and a test for null binds nothing. -/
theorem binds_binaryFragment {symbol : String} (hop : c.operator.sql? = some symbol)
    (hp : readPath c.column = .ok p)
    (h : c.binaryFragment p (columnOf table p) symbol = .ok g) : c.Binds g.values := by
  rcases binaryFragment_eq_ok h with ⟨hvalue, heq, rfl⟩ | ⟨hvalue, hneq, rfl⟩ | ⟨hvalue, rfl⟩
  · rw [Fragment.values_append, values_path]
    exact .nothing (.inr (.inl heq)) hvalue
  · rw [Fragment.values_append, values_path]
    exact .nothing (.inr (.inr hneq)) hvalue
  · rw [Fragment.values_append, values_comparisonOperands]
    exact binds_comparisonOperands (by rw [hop]; rfl) hvalue hp

/-- A filter that has a condition binds what stands for its value. -/
theorem binds_values (h : c.fragment table = .ok g) : c.Binds g.values := by
  rw [fragment_eq_bind] at h
  obtain ⟨p, hp, h⟩ := bind_eq_ok_iff.mp h
  rw [conditionOf] at h
  split at h
  next hop => exact binds_isFragment hop h
  next hop => exact binds_inFragment hop h
  next hop => exact binds_geoFragment hop h
  next =>
    split at h
    next symbol hsymbol => exact binds_binaryFragment hsymbol hp h
    next => cases h

/-- A comparison with a value counts as one. -/
theorem bindCount_of_symbol (hop : c.operator.sql?.isSome = true) (hvalue : c.value ≠ .null) :
    c.bindCount = 1 := by
  rw [bindCount]
  split
  next h => exact absurd h hvalue
  next h => exact absurd h hvalue
  next h => exact absurd h hvalue
  next h =>
    rw [h] at hop
    cases hop
  next => rfl

/-- A filter binds as many values as it counts, whichever they are. -/
theorem Binds.length_eq (h : c.Binds vs) : vs.length = c.bindCount := by
  cases h with
  | nothing hop hvalue =>
    rw [bindCount, hvalue]
    rcases hop with hop | hop | hop <;> rw [hop] <;> rfl
  | truth hop hvalue => rw [bindCount, hop, hvalue]; rfl
  | list hop hitems => rw [bindCount, hop]; rfl
  | place hop hvalue hread => rw [bindCount, hop]; rfl
  | number hop hvalue | document hop hvalue | text hop hvalue | scalar hop hvalue =>
    exact (bindCount_of_symbol hop hvalue).symm

/-- A filter binds as many values as its operator needs. -/
theorem length_values (h : c.fragment table = .ok g) : g.values.length = c.bindCount :=
  (binds_values h).length_eq

end Filter

/-! ## The values of a list of filters -/

/-- Filters that are built bind their values before later ones fail. -/
theorem valuesBeforeFailure_append {cs ds : List Filter} {gs : List Fragment}
    (h : List.Forall₂ (fun c g ↦ c.fragment table = .ok g) cs gs) :
    valuesBeforeFailure table (cs ++ ds) =
      gs.flatMap Fragment.values ++ valuesBeforeFailure table ds := by
  induction h with
  | nil => rfl
  | cons hc _ ih =>
    rw [List.cons_append, valuesBeforeFailure, hc]
    simp only [ih, List.flatMap_cons, List.append_assoc]

/-- Each filter of a list binds its values, one filter after the other. -/
theorem binds_filters {cs : List Filter} {gs : List Fragment}
    (h : List.Forall₂ (fun c g ↦ c.fragment table = .ok g) cs gs) :
    List.Forall₂ Filter.Binds cs (gs.map Fragment.values) :=
  List.forall₂_map_right_iff.mpr (h.imp fun _ _ ↦ Filter.binds_values)

/-- The values of a list of filters are as many as its filters count. -/
theorem length_flatten_of_binds {cs : List Filter} {vss : List (List SqlValue)}
    (h : List.Forall₂ Filter.Binds cs vss) :
    vss.flatten.length = (cs.map Filter.bindCount).sum := by
  induction h with
  | nil => rfl
  | cons hc _ ih =>
    rw [List.flatten_cons, List.length_append, ih, hc.length_eq, List.map_cons, List.sum_cons]

theorem length_values_filters {cs : List Filter} {gs : List Fragment}
    (h : List.Forall₂ (fun c g ↦ c.fragment table = .ok g) cs gs) :
    (gs.flatMap Fragment.values).length = (cs.map Filter.bindCount).sum := by
  rw [List.flatMap_def]
  exact length_flatten_of_binds (binds_filters h)

/-- A part binds the values of its filters in their order. -/
theorem Part.fragment_eq_ok {part : Part} (h : part.fragment table = .ok g) :
    ∃ gs, List.Forall₂ (fun c g ↦ c.fragment table = .ok g) part.filters gs ∧
      g.values = gs.flatMap Fragment.values := by
  cases part with
  | alone c => exact ⟨[g], .cons h .nil, (List.flatMap_singleton ..).symm⟩
  | anyOf n cs =>
    obtain ⟨gs, hgs, h⟩ := bind_eq_ok_iff.mp h
    cases h
    exact ⟨gs, mapM_eq_ok_iff.mp hgs, by rw [values_paren, values_join]⟩

/-- The parts of a condition bind the values of their filters in the order of the parts. -/
theorem values_parts {parts : List Part} {gs : List Fragment}
    (h : List.Forall₂ (fun part g ↦ part.fragment table = .ok g) parts gs) :
    gs.flatMap Fragment.values = valuesBeforeFailure table (parts.flatMap Part.filters) ∧
      ∃ vss, List.Forall₂ Filter.Binds (parts.flatMap Part.filters) vss ∧
        gs.flatMap Fragment.values = vss.flatten := by
  induction h with
  | nil => exact ⟨rfl, [], .nil, rfl⟩
  | @cons part g parts gs hpart _ ih =>
    obtain ⟨fs, hfs, hvalues⟩ := Part.fragment_eq_ok hpart
    obtain ⟨hrest, vss, hbinds, hflatten⟩ := ih
    refine ⟨?_, fs.map Fragment.values ++ vss, ?_, ?_⟩
    · rw [List.flatMap_cons, List.flatMap_cons, valuesBeforeFailure_append hfs, hvalues, hrest]
    · rw [List.flatMap_cons]
      exact List.rel_append (binds_filters hfs) hbinds
    · rw [List.flatMap_cons, List.flatten_append, hvalues, hflatten, List.flatMap_def]

/-- A condition binds what its filters bind, part by part. -/
theorem values_whereFragment {cs : List Filter}
    (h : whereFragment table cs = .ok (some g)) :
    g.values = valuesBeforeFailure table ((Part.ofFilters cs).flatMap Part.filters) ∧
      ∃ vss, List.Forall₂ Filter.Binds ((Part.ofFilters cs).flatMap Part.filters) vss ∧
        g.values = vss.flatten := by
  obtain ⟨-, gs, hgs, rfl⟩ := whereFragment_eq_some_iff.mp h
  rw [values_join]
  exact values_parts (mapM_eq_ok_iff.mp hgs)

/-- The filters of the parts are those of the list, so they bind as many values. -/
theorem sum_bindCount_parts (cs : List Filter) :
    (((Part.ofFilters cs).flatMap Part.filters).map Filter.bindCount).sum =
      (cs.map Filter.bindCount).sum :=
  ((Part.perm_ofFilters cs).map Filter.bindCount).sum_nat

/-- What the conditions of a filter list are made of. -/
def filterVocabulary (cs : List Filter) : Vocabulary where
  names := cs.map fun c ↦ rootName c.column
  literals := wholeDocument :: cs.flatMap fun c ↦ keyNames c.column
  typed := List.forall_mem_nil _

/-- Without metadata, the condition of a list is over the references of its filters. -/
theorem fits_condition {cs : List Filter} (h : whereFragment none cs = .ok (some g)) :
    Fits (filterVocabulary cs) .free .outside g := by
  have hV : (filterVocabulary cs).HasTable none := by
    refine ⟨List.mem_cons_self, fun info hinfo ↦ ?_⟩
    cases hinfo
  refine fits_whereFragment hV (fun c hc ↦ ⟨?_, ?_⟩) h
  · exact List.mem_map_of_mem hc
  · exact fun s hs ↦ List.mem_cons_of_mem _ (List.mem_flatMap_of_mem hc hs)

/-! ## Alignment -/

/-- The placeholders of a text are numbered on from those before it, one for each value. -/
theorem placeholders_fits {V : Vocabulary} {q : Sql.Place} (h : Fits V .free q g) (k : Nat) :
    ∃ ts, Sql.tokens (g.textFrom k) = some ts ∧
      Sql.placeholders ts = numbered k g.values.length :=
  ⟨g.tokens k, h.tokens_textFrom k, Vocabulary.placeholders_tokens h.has k⟩

/-- A condition that is added to bound values keeps them and binds its own behind them: those of its
filters, part by part. -/
theorem addWhere_spec (b : Bindings) (cs : List Filter) {text : Option String}
    (h : (b.addWhere cs).1 = .ok text) :
    ∃ vs, (b.addWhere cs).2.values = b.values ++ vs ∧
      vs.length = (cs.map Filter.bindCount).sum ∧
      (∃ vss, List.Forall₂ Filter.Binds ((Part.ofFilters cs).flatMap Part.filters) vss ∧
        vs = vss.flatten) ∧
      ∃ ts, Sql.tokens (text.getD "") = some ts ∧
        Sql.placeholders ts = numbered b.values.length vs.length := by
  obtain ⟨condition, hcondition, rfl⟩ := map_eq_ok_iff.mp h
  refine ⟨_, rfl, ?_⟩
  cases condition with
  | none =>
    rw [whereFragment_eq_none_iff.mp hcondition]
    exact ⟨rfl, ⟨[], .nil, rfl⟩, [], rfl, rfl⟩
  | some g =>
    obtain ⟨hvalues, vss, hbinds, hflatten⟩ := values_whereFragment hcondition
    have hcount : g.values.length = (cs.map Filter.bindCount).sum := by
      rw [hflatten, length_flatten_of_binds hbinds, sum_bindCount_parts]
    rw [← hvalues]
    exact ⟨hcount, ⟨vss, hbinds, hflatten⟩,
      placeholders_fits (fits_condition hcondition) b.values.length⟩

/-- Placeholders and values go together. A condition that is added to `k` values binds behind them
what its filters bind, in the order of its parts and as many values as the filters need, and its
placeholders are the numbers from `k + 1` on, each once and in order; if it fails, the `k` values
are as they were. In a statement the placeholders number all parameters. -/
theorem placeholders_aligned :
    (∀ (b : Bindings) (cs : List Filter),
      (∀ text, (b.addWhere cs).1 = .ok text →
        ∃ vs, (b.addWhere cs).2.values = b.values ++ vs ∧
          vs.length = (cs.map Filter.bindCount).sum ∧
          (∃ vss, List.Forall₂ Filter.Binds ((Part.ofFilters cs).flatMap Part.filters) vss ∧
            vs = vss.flatten) ∧
          ∃ ts, Sql.tokens (text.getD "") = some ts ∧
            Sql.placeholders ts = numbered b.values.length vs.length) ∧
      ∀ e, (b.addWhere cs).1 = .error e → b.values <+: (b.addWhere cs).2.values) ∧
    ∀ (t : Target) (r : Request) (s : Statement), t.compile r = .ok s →
      ∃ ts, Sql.tokens s.sql = some ts ∧ Sql.placeholders ts = numbered 0 s.params.length := by
  refine ⟨fun b cs ↦ ⟨fun text h ↦ addWhere_spec b cs h, fun e _ ↦ List.prefix_append _ _⟩, ?_⟩
  intro t r s h
  obtain ⟨f, hf, rfl⟩ := Target.compile_eq_ok_iff.mp h
  exact placeholders_fits (fits_fragmentOf hf) 0

/-- Filters of one group around a filter without values. -/
def mixedFilters : List Filter :=
  [{ column := "a", operator := .eq, value := .string "x", group := some 1 },
    { column := "b", operator := .is, value := .null },
    { column := "c->>d", operator := .neq, value := .string "y", group := some 1 }]

def mixedText : String := "(\"a\" = $2 OR \"c\"->>'d' <> $3) AND \"b\" IS NULL"

/-- A filter that is refused behind one that binds a value. -/
def refusedFilters : List Filter :=
  [{ column := "a", operator := .eq, value := .string "x" },
    { column := "b", operator := .is, value := .string "y" }]

def refusal : QueryError := .validation (.invalidValue "b" "is" .truthOperand)

def typedTarget : Target where
  table := "t"
  info := some
    { schema := "public", name := "t"
      columns := [.ofType "a" "integer", .ofType "b" "text", .ofType "c" "jsonb"] }

def typedStatement : Statement where
  sql := "UPDATE \"t\" SET \"a\" = $1::integer WHERE (\"a\" = $2::integer OR \"c\"->>'d' <> $3) " ++
    "AND \"b\" IS NULL RETURNING *"
  params := [.integer 7, .text "x", .text "y"]

theorem placeholders_aligned_mixed :
    (((⟨[.integer 7]⟩ : Bindings).addWhere mixedFilters).1 = .ok (some mixedText) ∧
      ∃ vs, ((⟨[.integer 7]⟩ : Bindings).addWhere mixedFilters).2.values = [.integer 7] ++ vs ∧
        vs.length = (mixedFilters.map Filter.bindCount).sum ∧
        (∃ vss, List.Forall₂ Filter.Binds
          ((Part.ofFilters mixedFilters).flatMap Part.filters) vss ∧ vs = vss.flatten) ∧
        ∃ ts, Sql.tokens mixedText = some ts ∧ Sql.placeholders ts = numbered 1 vs.length) ∧
    (((⟨[.integer 7]⟩ : Bindings).addWhere refusedFilters).1 = .error refusal ∧
      [.integer 7] <+: ((⟨[.integer 7]⟩ : Bindings).addWhere refusedFilters).2.values) ∧
    typedTarget.compile (.update [("a", .integer 7)] mixedFilters) = .ok typedStatement ∧
      ∃ ts, Sql.tokens typedStatement.sql = some ts ∧
        Sql.placeholders ts = numbered 0 typedStatement.params.length := by
  have hmixed : ((⟨[.integer 7]⟩ : Bindings).addWhere mixedFilters).1 = .ok (some mixedText) := by
    decide +kernel
  have hrefused : ((⟨[.integer 7]⟩ : Bindings).addWhere refusedFilters).1 = .error refusal := by
    decide +kernel
  have htyped : typedTarget.compile (.update [("a", .integer 7)] mixedFilters) =
      .ok typedStatement := by
    decide +kernel
  refine ⟨⟨hmixed, ?_⟩, ⟨hrefused, ?_⟩, htyped, ?_⟩
  · exact (placeholders_aligned.1 ⟨[.integer 7]⟩ mixedFilters).1 (some mixedText) hmixed
  · exact (placeholders_aligned.1 ⟨[.integer 7]⟩ refusedFilters).2 refusal hrefused
  · exact placeholders_aligned.2 typedTarget _ typedStatement htyped

end RowGate
