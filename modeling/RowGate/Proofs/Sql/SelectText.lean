import RowGate.Proofs.Sql.Agreement
import RowGate.Proofs.Sql.CalmText
import RowGate.Proofs.Sql.RowCount

/-! # SELECTs as they are sent

What is shown of the SELECT that a fragment is read as is so of the text that is sent. Main
statement: the text is read as that SELECT where no value is cast to the type of a column, and else
as that SELECT with the types written out in its condition, as long as no type holds a keyword of a
clause. Names, groups, orders and pages are the same in both.
-/

namespace RowGate

open Sql (Selection textTokens)

variable {t : Target} {r : Request} {q : Query} {f : Fragment} {s : Statement}

/-! ## Requests for a SELECT -/

/-- Whether the statement of a request is a SELECT. -/
def Request.isSelect : Request → Bool
  | select _ | rows _ | count _ => true
  | explain _ | insert _ | update _ _ | delete _ => false

/-- A page, its rows as documents, and a total are SELECTs. -/
theorem isSelect_fragmentOf (hr : r.isSelect = true) (h : t.fragmentOf r = .ok f) :
    f.IsSelect := by
  cases r with
  | select q =>
    obtain ⟨c, -, -, hselect⟩ :=
      Target.isSelect_selectWith (List.forall_mem_nil _) (fits_fragmentOf h).has h
    exact hselect.isSelect
  | rows q => exact (selection_page h).1
  | count q => exact isSelect_countFragment h
  | explain | insert | update | delete => cases hr

/-- They bind the values of a condition and no others. -/
theorem bindsIn_fragmentOf (hr : r.isSelect = true) (h : t.fragmentOf r = .ok f) :
    ∃ cs condition, whereClause t.info cs = .ok condition ∧ condition.BindsIn f := by
  cases r with
  | select q =>
    obtain ⟨-, -, s, hs, rfl⟩ := Target.selectWith_eq_ok_iff.mp h
    exact ⟨_, s.condition, hs.condition, hs.bindsIn (List.forall_mem_nil _)⟩
  | rows q =>
    obtain ⟨keys, hkeys, inner, hinner, rfl⟩ := Target.rowsFragment_eq_ok_iff.mp h
    obtain ⟨-, -, s, hs, rfl⟩ := Target.selectWith_eq_ok_iff.mp hinner
    have hlength := (Target.hiddenKeys_eq_ok hkeys).1.length_eq.symm
    exact ⟨_, s.condition, hs.condition,
      Target.bindsIn_pageFragment hlength (hs.bindsIn (Target.values_keys hkeys))⟩
  | count q =>
    obtain ⟨-, -, table, htable, condition, hcondition, groups, hgroups, rfl⟩ :=
      Target.countFragment_eq_ok_iff.mp h
    refine ⟨_, condition, hcondition,
      Target.bindsIn_totalFragment (Target.values_fragment htable) fun g hg ↦ ?_⟩
    obtain rfl := Option.mem_def.mp hg
    split at hgroups
    · obtain ⟨clause, hclause, hsome⟩ := map_eq_ok_iff.mp hgroups
      obtain rfl := Option.some.inj hsome
      exact (isClause_groupByClause hclause).1
    · cases hgroups
  | explain | insert | update | delete => cases hr

/-! ## Casts to the types of columns -/

/-- No filter binds a vector. -/
theorem Filter.Binds.isVector_eq_false {c : Filter} {vs : List SqlValue} (h : c.Binds vs) :
    ∀ v ∈ vs, v.isVector = false := by
  intro v hv
  cases h with
  | nothing => cases hv
  | truth | list | document | text =>
    obtain rfl := List.mem_singleton.mp hv
    rfl
  | place =>
    rcases List.mem_pair.mp hv with rfl | rfl
    · rfl
    · rfl
  | number =>
    obtain rfl := List.mem_singleton.mp hv
    exact isVector_asNumeric c.value
  | scalar =>
    obtain rfl := List.mem_singleton.mp hv
    exact isVector_asScalar c.value

/-- A condition binds no vectors. -/
theorem isVector_whereClause {table : Option TableInfo} {cs : List Filter}
    (h : whereClause table cs = .ok f) : ∀ v ∈ f.values, v.isVector = false := by
  intro v hv
  obtain ⟨-, rfl⟩ | ⟨condition, hcondition, rfl⟩ := whereClause_eq_ok_iff.mp h
  · cases hv
  · obtain ⟨-, vss, hbinds, hvalues⟩ := values_whereFragment hcondition
    have hmem : v ∈ vss.flatten := hvalues ▸ hv
    obtain ⟨vs, hvs, hv⟩ := List.mem_flatten.mp hmem
    obtain ⟨c, hc⟩ := exists_of_forall₂ hbinds.flip hvs
    exact hc.isVector_eq_false v hv

/-- Every type of the metadata has passed the check of its text. -/
theorem Target.isTypeText_of_mem_types {type : String} (h : type ∈ t.types) :
    ColumnInfo.isTypeText false type.toList = true := by
  obtain ⟨info, -, h⟩ := List.mem_flatMap.mp h
  obtain ⟨c, -, h⟩ := List.mem_flatMap.mp h
  obtain ⟨cast, hcast, h⟩ := List.mem_flatMap.mp h
  have htext := c.isTypeText_of_castType (Option.mem_toList.mp hcast)
  rcases List.mem_pair.mp h with rfl | rfl
  · exact htext
  · rw [String.toList_append]
    exact ColumnInfo.isTypeText_array htext

namespace Fragment

theorem mem_casts {v : SqlValue} {type : Option String} (h : Piece.bound v type ∈ f) :
    (if v.isVector then none else type) ∈ f.casts :=
  List.mem_flatMap.mpr ⟨_, h, List.mem_singleton_self _⟩

/-- The types that a statement casts to stay in their places, if they hold no keyword of a
clause. -/
theorem typesWithin_units (hV : ∀ p ∈ f, (t.vocabulary r).Has p)
    (hcasts : ∀ type, some type ∈ f.casts →
      ∀ tok ∈ textTokens type.toList, tok.isOneOf Sql.clauseWords = false) (k : Nat) :
    Sql.TypesWithin Sql.clauseWords (f.units k) := by
  refine typesWithin hV (fun v type hmem ↦ ?_) k
  have hcolons : Sql.Within Sql.clauseWords [.lexeme .colons [':', ':']] := .of_all rfl
  have hcast := mem_casts hmem
  rw [castType?]
  cases hvector : v.isVector with
  | true =>
    have hown : Sql.Within Sql.clauseWords (textTokens "vector".toList) := .of_all (by decide)
    exact hcolons.append hown
  | false =>
    rw [hvector] at hcast
    cases type with
    | none => exact .nil
    | some type =>
      have htype := Target.isTypeText_of_mem_types (hV _ hmem type rfl)
      exact hcolons.append ⟨(Sql.nested_of_isTypeText htype).1, hcasts type hcast⟩

/-- Without casts the units of a fragment are its tokens. -/
theorem units_eq_tokens (hcasts : ∀ cast ∈ f.casts, cast = none)
    (hvalues : ∀ v ∈ f.values, v.isVector = false) (k : Nat) : f.units k = f.tokens k := by
  induction f generalizing k with
  | nil => rfl
  | cons p f ih =>
    rw [casts_cons, List.forall_mem_append] at hcasts
    rw [units, tokens]
    cases p with
    | bound v type =>
      obtain ⟨hv, hvs⟩ := List.forall_mem_cons.mp hvalues
      have htype : type = none := by
        have hnone := hcasts.1 _ (List.mem_singleton_self _)
        rwa [hv] at hnone
      have hplain : castType? v type = none := by
        rw [castType?, hv, htype]
        rfl
      have htext : (placeholder (k + 1) v type).toList = '$' :: (toString (k + 1)).toList := by
        rw [placeholder_eq, hplain, Sql.castText, String.append_empty, String.toList_append]
        rfl
      rw [ih hcasts.2 hvs, Piece.units, Piece.tokens, htext, hplain]
      rfl
    | fixed _ | name _ | key _ | number _ =>
      rw [ih hcasts.2 hvalues]
      rfl

end Fragment

/-- Without metadata nothing is cast to the type of a column. -/
theorem casts_eq_none (hinfo : t.info = none) (h : t.fragmentOf r = .ok f) :
    ∀ cast ∈ f.casts, cast = none := by
  intro cast hcast
  obtain ⟨p, hp, hcast⟩ := List.mem_flatMap.mp hcast
  have hhas := (fits_fragmentOf h).has p hp
  cases p with
  | bound v type =>
    obtain rfl := List.mem_singleton.mp hcast
    cases type with
    | none => exact ite_self none
    | some type =>
      have htype : type ∈ t.types := hhas type rfl
      rw [Target.types, hinfo] at htype
      cases htype
  | fixed | name | key | number => cases hcast

/-! ## The text -/

/-- The text of a page, of its rows as documents or of a total is read as the SELECT of its
fragment, with the types of columns written out where a value is cast to one: there is nothing to
write out without such casts, and none is taken for a part of another clause if no type holds a
keyword. The SELECT that the rows are taken from, if there is one, is read in the same way. -/
theorem ofText?_of_compile (hr : r.isSelect = true) (h : t.compile r = .ok s) :
    ∃ f, t.fragmentOf r = .ok f ∧ f.statement = s ∧
      ((∀ cast ∈ f.casts, cast = none) → Selection.ofText? s.sql = some f.selection) ∧
      ((∀ type, some type ∈ f.casts →
          ∀ tok ∈ textTokens type.toList, tok.isOneOf Sql.clauseWords = false) →
        Selection.ofText? s.sql = some f.selection.expand ∧
          f.selection.expand.inner? = f.selection.inner?.map Selection.expand) := by
  obtain ⟨f, hf, hstatement, htokens⟩ := tokens_sql h
  have hselect := isSelect_fragmentOf hr hf
  have hV := (fits_fragmentOf hf).has
  refine ⟨f, hf, hstatement, fun hcasts ↦ ?_, fun hcasts ↦ ?_⟩
  · obtain ⟨cs, condition, hcondition, hbinds⟩ := bindsIn_fragmentOf hr hf
    have hvalues : ∀ v ∈ f.values, v.isVector = false := by
      rw [hbinds.values]
      exact isVector_whereClause hcondition
    rw [Selection.ofText?, htokens, ← Fragment.units_eq_tokens hcasts hvalues]
    rfl
  · have htypes := Fragment.typesWithin_units hV hcasts 0
    refine ⟨?_, hselect.inner?_expand htypes⟩
    rw [Selection.ofText?, htokens, Fragment.tokens_eq_expand hV, Option.map_some,
      (hselect.expand htypes).ofTokens_eq]

/-- The towns with an offer under a price. -/
def cheapTowns : Query where
  select := [{ column := "town" }]
  filters := [{ column := "price", operator := .lt, value := .string "3" }]

def offerTable : Target where
  table := "offers"
  info := some
    { schema := "public", name := "offers"
      columns := [.ofType "price" "numeric(10, 2)", .ofType "town" "text"] }

def cheapTownsText : String :=
  "SELECT \"town\" FROM \"offers\" WHERE \"price\" < $1::numeric(10, 2)"

theorem ofText?_cheapTowns :
    offerTable.select cheapTowns = .ok ⟨cheapTownsText, [.text "3"]⟩ ∧
    ∃ f, offerTable.selectFragment cheapTowns = .ok f ∧ f.casts = [some "numeric(10, 2)"] ∧
      Selection.ofText? cheapTownsText = some f.selection.expand := by
  have hselect : offerTable.compile (.select cheapTowns) = .ok ⟨cheapTownsText, [.text "3"]⟩ := by
    decide +kernel
  have hcasts : (offerTable.selectFragment cheapTowns).map Fragment.casts =
      .ok [some "numeric(10, 2)"] := by decide +kernel
  have hfree : ∀ tok ∈ textTokens "numeric(10, 2)".toList,
      tok.isOneOf Sql.clauseWords = false := by decide
  obtain ⟨f, hf, -, -, hread⟩ := ofText?_of_compile rfl hselect
  have hf : offerTable.selectFragment cheapTowns = .ok f := hf
  rw [hf] at hcasts
  have hcasts : f.casts = [some "numeric(10, 2)"] := Except.ok.inj hcasts
  refine ⟨hselect, f, hf, hcasts, (hread fun type htype ↦ ?_).1⟩
  rw [hcasts] at htype
  obtain rfl := Option.some.inj (List.mem_singleton.mp htype)
  exact hfree

/-- Without metadata the text is read as the SELECT of its fragment. -/
theorem ofText?_of_info_none (hr : r.isSelect = true) (hinfo : t.info = none)
    (h : t.compile r = .ok s) :
    ∃ f, t.fragmentOf r = .ok f ∧ f.statement = s ∧
      Selection.ofText? s.sql = some f.selection := by
  obtain ⟨f, hf, hstatement, hplain, -⟩ := ofText?_of_compile hr h
  exact ⟨f, hf, hstatement, hplain (casts_eq_none hinfo hf)⟩

end RowGate
