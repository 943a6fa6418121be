import RowGate.Proofs.Query.Numeric
import RowGate.Proofs.Sql.Agreement
import RowGate.Proofs.Sql.Condition

/-! # Text compared as a number

A path that ends in `->>` yields text. A comparison by order takes it as a number if the value looks
like one, and then a number is bound. Under any other condition the text stands as it is, beside a
text, a truth value or a list; a test of distance binds a geometry and the distance.
-/

namespace RowGate

/-- The text that a path yields, taken as a number. -/
def ColumnPath.numericText (p : ColumnPath) : String := "(" ++ p.fragment.text ++ ")::numeric"

/-- The text of a condition begins with a left side and a blank, wherever its numbers begin. -/
def Fragment.HasLeft (left : String) (g : Fragment) : Prop :=
  g.Everywhere fun s ↦ (left ++ " ").toList <+: s

namespace Filter

/-- What a filter binds when it compares no numbers: nothing for a test for null, a truth value, one
array, a geometry and a distance, or the text of its value. -/
inductive BindsPlain (c : Filter) : List SqlValue → Prop
  | nothing (hvalue : c.value = .null) : BindsPlain c []
  | truth {b : Bool} (hop : c.operator = .is) (hvalue : c.value = .bool b) :
    BindsPlain c [.boolean b]
  | list {items : List String} (hop : c.operator = .oneOf)
    (hitems : listItems? c.value = some items) : BindsPlain c [.textArray items]
  | geometry (hop : c.operator = .stDWithin) (s : String) (x : Float) :
    BindsPlain c [.text s, .float x]
  | text (hop : c.operator.sql?.isSome = true) : BindsPlain c [.text c.value.textOrEmpty]

/-- How a filter compares the text that a path yields. -/
structure ComparesText (c : Filter) (p : ColumnPath) (g : Fragment) : Prop where
  /-- The left side is taken as a number by order, and only where the value looks like one. -/
  numeric_iff : g.HasLeft p.numericText ↔
    c.operator.isOrdering = true ∧ c.value.isNumeric = true
  /-- A number is compared with one number, which is that of the value. -/
  number : g.HasLeft p.numericText →
    g.values = [c.value.asNumeric] ∧ c.value.asNumeric.IsNumber
  /-- Otherwise the left side is the text itself, but in a test of distance. -/
  plain : ¬g.HasLeft p.numericText →
    (c.operator ≠ .stDWithin → g.HasLeft p.fragment.text) ∧ c.BindsPlain g.values

end Filter

variable {table : Option TableInfo} {c : Filter} {f g rest : Fragment} {p : ColumnPath} {s : String}

/-! ## Left sides -/

/-- A fragment without placeholders is a left side, if a blank follows. -/
theorem hasLeft_append (hf : f.values = []) (hs : [' '] <+: s.toList) :
    (f ++ .fixed s :: rest).HasLeft f.text := by
  intro k
  have hblank : [' '] <+: (Fragment.textFrom (k + f.values.length) (.fixed s :: rest)).toList := by
    rw [Fragment.textFrom, String.toList_append]
    exact hs.trans (List.prefix_append _ _)
  rw [Fragment.toList_textFrom_append, Fragment.textFrom_of_values hf, String.toList_append]
  exact (List.prefix_append_right_inj _).mpr hblank

theorem values_castNumeric (p : ColumnPath) : (castNumeric p.fragment).values = [] := by
  simp [castNumeric, values_paren, values_path, Fragment.values]

/-- The text of a path in parentheses, cast to a number. -/
theorem text_castNumeric (p : ColumnPath) : (castNumeric p.fragment).text = p.numericText := by
  simp [castNumeric, Fragment.paren, Fragment.text, Fragment.textFrom, Fragment.textFrom_append,
    ColumnPath.numericText, String.append_assoc]

/-- A path that is cast is the left side of what is behind the cast. -/
theorem hasLeft_castNumeric (hs : [' '] <+: s.toList) :
    (castNumeric p.fragment ++ .fixed s :: rest).HasLeft p.numericText := by
  rw [← text_castNumeric]
  exact hasLeft_append (values_castNumeric p) hs

/-- What begins with another character than a parenthesis is not taken as a number. -/
theorem not_hasLeft_numericText {d : Char} (hd : d ≠ '(') (h : [d] <+: (g.textFrom 0).toList) :
    ¬g.HasLeft p.numericText := by
  intro hleft
  have hopen : ['('] <+: (p.numericText ++ " ").toList := by
    have hmark : "(".toList = ['('] := rfl
    simp only [ColumnPath.numericText, String.toList_append, List.append_assoc, hmark]
    exact List.prefix_append ['('] _
  have heq := List.prefix_of_prefix_length_le h (hopen.trans (hleft 0)) le_rfl
  exact hd (List.cons_prefix_cons.mp heq).1

/-- A path is written with a quote first. -/
theorem not_hasLeft_numericText_path : ¬(p.fragment ++ rest).HasLeft p.numericText := by
  refine not_hasLeft_numericText (d := '"') (by decide) ?_
  rw [Fragment.toList_textFrom_append, ColumnPath.fragment, Fragment.textFrom,
    String.toList_append, toList_quoted]
  exact ⟨_, rfl⟩

/-! ## Values -/

/-- A JSON number is bound as an integer or a double. -/
theorem isNumber_ofNumber (n : Json.Number) : (SqlValue.ofNumber n).IsNumber := by
  cases n with
  | int n =>
    rw [SqlValue.ofNumber]
    split
    · exact .integer n
    · exact .float _
  | float x => exact .float x

/-- A value that looks numeric is bound as an integer or a double. -/
theorem isNumber_asNumeric {v : FilterValue} (h : v.isNumeric = true) : v.asNumeric.IsNumber := by
  cases v with
  | number n => exact isNumber_ofNumber n
  | string s =>
    rw [FilterValue.isNumeric] at h
    obtain ⟨v, hv, hnumber⟩ := exists_numeric?_of_looksNumeric h
    have hvalue : (FilterValue.string s).asNumeric = v := by
      simp [FilterValue.asNumeric, FilterValue.textOrEmpty, FilterValue.text?, hv]
    exact hvalue ▸ hnumber
  | bool | null | strings => cases h

theorem ColumnPath.isJson_of_extractsText (h : p.extractsText = true) : p.isJson = true := by
  rw [extractsText] at h
  rw [isJson]
  cases hsteps : p.steps with
  | nil =>
    rw [hsteps] at h
    cases h
  | cons => rfl

theorem ColumnPath.extractsJson_of_extractsText (h : p.extractsText = true) :
    p.extractsJson = false := by
  rw [extractsText] at h
  rw [extractsJson]
  split at h
  next step hstep =>
    have haccessor : step.accessor = .text := of_decide_eq_true h
    exact decide_eq_false (by rw [haccessor]; decide)
  next => cases h

/-- The operands of a comparison with text. -/
theorem comparisonOperands_of_extractsText (htext : p.extractsText = true) (op : Operator)
    (v : FilterValue) : comparisonOperands p op v =
      if op.isOrdering = true ∧ v.isNumeric = true then (castNumeric p.fragment, v.asNumeric)
      else (p.fragment, .text v.textOrEmpty) := by
  rw [comparisonOperands, htext, ColumnPath.extractsJson_of_extractsText htext,
    ColumnPath.isJson_of_extractsText htext]
  simp

/-! ## Conditions -/

namespace Filter

/-- A number is taken from the path, and that of the value is bound. -/
theorem comparesText_castNumeric {type : Option String}
    (hnumeric : c.operator.isOrdering = true ∧ c.value.isNumeric = true)
    (hs : [' '] <+: s.toList) :
    c.ComparesText p (castNumeric p.fragment ++ [.fixed s, .bound c.value.asNumeric type]) where
  numeric_iff := iff_of_true (hasLeft_castNumeric hs) hnumeric
  number _ := by
    rw [Fragment.values_append, values_castNumeric]
    exact ⟨rfl, isNumber_asNumeric hnumeric.2⟩
  plain h := absurd (hasLeft_castNumeric hs) h

/-- The path stands as it is. -/
theorem comparesText_path (hplain : ¬(c.operator.isOrdering = true ∧ c.value.isNumeric = true))
    (hs : [' '] <+: s.toList) (hvalues : c.BindsPlain (Fragment.values rest)) :
    c.ComparesText p (p.fragment ++ .fixed s :: rest) where
  numeric_iff := iff_of_false not_hasLeft_numericText_path hplain
  number h := absurd h not_hasLeft_numericText_path
  plain _ := by
    rw [Fragment.values_append, values_path]
    exact ⟨fun _ ↦ hasLeft_append (values_path p) hs, hvalues⟩

/-- No other operator than those of an order compares as numbers. -/
theorem not_numeric_of_operator {op : Operator} (hop : c.operator = op)
    (hordering : op.isOrdering = false) :
    ¬(c.operator.isOrdering = true ∧ c.value.isNumeric = true) := by
  rw [hop, hordering]
  exact fun h ↦ nomatch h.1

/-- A test for null or a truth value leaves the path as it is. -/
theorem comparesText_isFragment (hop : c.operator = .is) (h : c.isFragment p = .ok g) :
    c.ComparesText p g := by
  have hplain := not_numeric_of_operator hop rfl
  rw [isFragment] at h
  split at h
  next hvalue =>
    cases h
    exact comparesText_path hplain (by decide) (.nothing hvalue)
  next b hvalue =>
    cases h
    exact comparesText_path hplain (by decide) (.truth hop hvalue)
  next => cases h

/-- A membership leaves the path as it is. -/
theorem comparesText_inFragment {column : Option ColumnInfo} (hop : c.operator = .oneOf)
    (hjson : p.extractsJson = false) (h : c.inFragment p column = .ok g) : c.ComparesText p g := by
  rw [inFragment, hjson] at h
  split at h
  next => cases h
  next items hitems =>
    cases h
    exact comparesText_path (not_numeric_of_operator hop rfl) (by decide) (.list hop hitems)

/-- A test of distance is a call, and its first value is the geometry. -/
theorem comparesText_geoFragment (hop : c.operator = .stDWithin) (h : c.geoFragment p = .ok g) :
    c.ComparesText p g := by
  rw [geoFragment] at h
  split at h
  next raw _ =>
    split at h
    next => cases h
    next distance geometry _ =>
      cases h
      have hcall : ¬Fragment.HasLeft p.numericText (.fixed "ST_DWithin(" :: p.fragment ++
          [.fixed ", ST_GeomFromGeoJSON(", .bound (.text geometry) none, .fixed "), ",
            .bound (.float distance) none, .fixed ")"]) := by
        refine not_hasLeft_numericText (d := 'S') (by decide) ?_
        rw [List.cons_append, Fragment.textFrom, String.toList_append]
        exact ⟨_, rfl⟩
      refine ⟨iff_of_false hcall (not_numeric_of_operator hop rfl), fun h ↦ absurd h hcall,
        fun _ ↦ ⟨fun hne ↦ absurd hop hne, ?_⟩⟩
      rw [List.cons_append, Fragment.values, Fragment.values_append, values_path]
      · exact .geometry hop geometry distance
      · intro _ _ h
        cases h
  next => cases h

/-- A comparison casts the path if it asks for an order of numbers, and else leaves it. -/
theorem comparesText_binaryFragment {column : Option ColumnInfo} {symbol : String}
    (hop : c.operator.sql? = some symbol) (htext : p.extractsText = true)
    (h : c.binaryFragment p column symbol = .ok g) : c.ComparesText p g := by
  rcases binaryFragment_eq_ok h with ⟨hvalue, heq, rfl⟩ | ⟨hvalue, hneq, rfl⟩ | ⟨hvalue, rfl⟩
  · exact comparesText_path (not_numeric_of_operator heq rfl) (by decide) (.nothing hvalue)
  · exact comparesText_path (not_numeric_of_operator hneq rfl) (by decide) (.nothing hvalue)
  · have hblank : [' '] <+: (" " ++ symbol ++ " ").toList := by
      rw [String.toList_append, String.toList_append, List.append_assoc]
      exact List.prefix_append [' '] _
    rw [comparisonOperands_of_extractsText htext]
    split
    next hnumeric => exact comparesText_castNumeric hnumeric hblank
    next hplain => exact comparesText_path hplain hblank (.text (hop ▸ rfl))

/-- The condition of a filter compares the text of its path, whatever its operator. -/
theorem comparesText_of_fragment (hp : ColumnPath.ofString c.column = .ok p)
    (htext : p.extractsText = true) (h : c.fragment table = .ok g) : c.ComparesText p g := by
  have hread : readPath c.column = .ok p := by rw [readPath, hp]
  rw [fragment_eq_bind, hread] at h
  change c.conditionOf table p = .ok g at h
  rw [conditionOf] at h
  split at h
  next hop => exact comparesText_isFragment hop h
  next hop =>
    exact comparesText_inFragment hop (ColumnPath.extractsJson_of_extractsText htext) h
  next hop => exact comparesText_geoFragment hop h
  next =>
    split at h
    next symbol hsymbol => exact comparesText_binaryFragment hsymbol htext h
    next => cases h

end Filter

/-- A condition on the text that a path yields compares it as a number if and only if the operator
asks for an order and the value looks numeric. Then it binds one number, that of the value, and else
no number but a distance. A text looks numeric if and only if there is a number to bind for it, and
this is the integer that the text denotes, if 64 bits with a sign hold it. -/
theorem comparesText_of_condition (table : Option TableInfo) (c : Filter) (s : List Char) :
    (∀ p g, ColumnPath.ofString c.column = .ok p → p.extractsText = true →
      c.fragment table = .ok g → c.ComparesText p g) ∧
    (SqlValue.numeric? s).isSome = looksNumeric s ∧
    ∀ n, Decimal.Denotes (Text.trim s) n → Decimal.fitsInt64 n = true →
      SqlValue.numeric? s = some (.integer n) :=
  ⟨fun _ _ hp htext h ↦ Filter.comparesText_of_fragment hp htext h, isSome_numeric? s,
    fun _ ↦ numeric?_of_denotes⟩

/-- The path `metadata->stats->>count` is compared with 10. -/
def overTen : Filter :=
  { column := "metadata->stats->>count", operator := .gt, value := .string "10" }

theorem comparesText_overTen :
    ∃ p g, ColumnPath.ofString overTen.column = .ok p ∧ p.extractsText = true ∧
      overTen.fragment none = .ok g ∧ g.HasLeft "(\"metadata\"->'stats'->>'count')::numeric" ∧
      g.values = [.integer 10] ∧ SqlValue.IsNumber (.integer 10) ∧
      SqlValue.numeric? "10".toList = some (.integer 10) := by
  obtain ⟨hcondition, hsome, hinteger⟩ := comparesText_of_condition none overTen "10".toList
  have hp : ColumnPath.ofString overTen.column = .ok ⟨⟨"metadata", by decide⟩,
      [⟨.document, .name "stats"⟩, ⟨.text, .name "count"⟩]⟩ := by decide +kernel
  have hdigits : ['1', '0'].all Char.isDigit = true := rfl
  have hdenotes : Decimal.Denotes (Text.trim "10".toList) 10 :=
    .plain (List.cons_ne_nil '1' ['0']) (List.all_eq_true.mp hdigits)
  have hten := hinteger 10 hdenotes (by decide)
  have hlooks : looksNumeric "10".toList = true := by
    rw [← hsome, hten]
    rfl
  obtain ⟨g, hg⟩ : ∃ g, overTen.fragment none = .ok g := by
    rw [Filter.fragment, hp]
    exact ⟨_, rfl⟩
  have hcompares := hcondition _ g hp rfl hg
  have hleft := hcompares.numeric_iff.mpr ⟨rfl, hlooks⟩
  have hvalue : overTen.value.asNumeric = .integer 10 :=
    congrArg (·.getD (.text "10")) hten
  obtain ⟨hvalues, hnumber⟩ := hcompares.number hleft
  rw [hvalue] at hvalues hnumber
  exact ⟨_, g, hp, rfl, hg, hleft, hvalues, hnumber, hten⟩

end RowGate
