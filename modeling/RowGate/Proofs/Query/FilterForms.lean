import RowGate.Proofs.Query.Balance
import RowGate.Proofs.Query.Canonical

/-! # Three forms of a condition

A condition outside of the disjunctions is written with its operator behind the name of a parameter,
before its value, or inside of a group. Main statement: the three forms are read alike.

Each form is cut at another point: behind the last one of the name, at the first one of the value,
and in a group before the first operator. They all find the same operator as long as the column
holds none, and as long as the group is not cut elsewhere.
-/

namespace RowGate

open Text LogicTree

theorem balanced_of_all {s : List Char} {top : Char → Prop} (h : s.all (· ∉ groupMarks) = true)
    (htop : ∀ c, c ≠ ',' → top c) : Brackets.Balanced top s := by
  refine .of_forall fun c hc ↦ ?_
  obtain ⟨hopen, hclose, hquote, hcomma⟩ :=
    plain_iff.mp (of_decide_eq_true (List.all_eq_true.mp h c hc))
  exact ⟨hopen, hclose, hquote, htop c hcomma⟩

/-- No word for an operator has brackets, quotes or commas. -/
theorem Operator.balanced_word {op : Operator} {word : List Char}
    (h : ofKeyword? word = some op) : Brackets.Balanced (· ≠ ',') word := by
  refine .of_forall fun c hc ↦ plain_iff.mp fun hmark ↦ ?_
  have hmarks : groupMarks.all (fun m ↦ m.toLower = m && m ∉ op.keyword.toList) = true := by
    cases op <;> decide
  have hm := List.all_eq_true.mp hmarks c hmark
  rw [Bool.and_eq_true, decide_eq_true_eq, decide_eq_true_eq] at hm
  exact notMem_of_ofKeyword? h hm.1 hm.2 hc

/-- The texts of columns that all three forms take. Quotes and brackets in them are closed, and a
comma stands in these only. -/
structure IsColumnText (c : List Char) : Prop where
  filled : c ≠ []
  trimmed : trim c = c
  whole : Brackets.Balanced (· ≠ ',') c
  ungrouped : ¬"or(".toList <+: c ∧ ¬"and(".toList <+: c
  unreserved : ReservedName.ofText? c = none
  /-- No stretch between points is a word for an operator. -/
  unworded : ∀ w ∈ pieces '.' c, Operator.ofKeyword? w = none

namespace Filter

/-- The parameters for a condition: its operator behind the name, before the value, or both in a
group. -/
def forms (column word value : List Char) : List (List Char × List Char) :=
  [(column ++ '.' :: word, value), (column, word ++ '.' :: value),
    (ReservedName.and.text.toList, '(' :: (column ++ '.' :: (word ++ '.' :: value)) ++ [')'])]

/-- The filter on a column with the value that a text stands for. -/
def withText (column : List Char) (op : Operator) (raw : List Char) : Except ParseError Filter :=
  (FilterValue.ofText op raw).map fun value ↦
    { column := String.ofList column, operator := op, value }

variable {c word value : List Char} {op : Operator}

/-- A column that is filled and trimmed is the column of the filter. -/
theorem ofParts_eq_withText (hc : IsColumnText c) (op : Operator) (raw fragment : List Char) :
    ofParts c op raw fragment = withText c op raw := by
  simp only [ofParts, hc.trimmed, if_neg hc.filled, withText]
  cases FilterValue.ofText op raw <;> rfl

/-! ## The operator in the name, and before the value -/

/-- A column with an operator behind it has no blanks to trim. -/
theorem trim_name (hc : IsColumnText c) (hword : Operator.ofKeyword? word = some op) :
    trim (c ++ '.' :: word) = c ++ '.' :: word := by
  have hlast := List.getLast?_eq_some_getLast (Operator.ne_nil_of_ofKeyword? hword)
  have hends : EndsInk word :=
    ⟨_, hlast, Operator.isBlank_of_mem_word hword (List.mem_of_mem_getLast? hlast)⟩
  exact trim_append_of_trim_eq hc.filled hc.trimmed (hends.append ['.'])

/-- The last point of a name is the one before its operator. -/
theorem ofParam_name (hc : IsColumnText c) (hword : Operator.ofKeyword? word = some op)
    (value : List Char) : ofParam (c ++ '.' :: word) value = withText c op value := by
  have hcut := cutLast_cons c (Operator.point_notMem_word hword)
  have hne : c ++ '.' :: word ≠ [] := List.append_ne_nil_of_left_ne_nil hc.filled _
  simp only [ofParam, trim_name hc hword, if_neg hne, hcut, bind, Option.bind, hword, pure]
  exact ofParts_eq_withText hc op value _

/-- Without an operator in the name, the value begins with one. -/
theorem ofParam_value (hc : IsColumnText c) (hword : Operator.ofKeyword? word = some op)
    (value : List Char) : ofParam c (word ++ '.' :: value) = withText c op value := by
  have hname : ((cutLast '.' c).bind fun p ↦ (Operator.ofKeyword? p.2).bind fun op ↦
      some (p.1, op)) = none := by
    cases hcut : cutLast '.' c with
    | none => rfl
    | some p =>
      have hnone := hc.unworded p.2 (mem_pieces_of_cutLast hcut)
      simp [hnone]
  have hvalue := cutFirst_cons (Operator.point_notMem_word hword) value
  simp only [ofParam, hc.trimmed, if_neg hc.filled, bind, pure, hname, hvalue, hword]
  exact ofParts_eq_withText hc op value _

/-! ## The condition in a group -/

/-- In a group the first operator between points is that of the condition. -/
theorem ofCondition_forms (hc : IsColumnText c) (hword : Operator.ofKeyword? word = some op)
    (value : List Char) :
    ofCondition (c ++ '.' :: (word ++ '.' :: value)) = withText c op value := by
  have hstretches : ∀ w ∈ (pieces '.' c).tail, Operator.ofKeyword? w = none :=
    fun w hw ↦ hc.unworded w (List.mem_of_mem_tail hw)
  rw [ofCondition, splitCondition?_of_unworded hstretches hword]
  exact ofParts_eq_withText hc op value _

theorem trim_condition_forms (hc : IsColumnText c) (word : List Char)
    (hvalue : trim value = value) :
    trim (c ++ '.' :: (word ++ '.' :: value)) = c ++ '.' :: (word ++ '.' :: value) := by
  have hends : EndsInk ('.' :: value) := by
    cases hlast : value.getLast? with
    | none =>
      rw [List.getLast?_eq_none_iff.mp hlast]
      exact ⟨'.', rfl, by decide⟩
    | some x =>
      have hink : EndsInk value := ⟨x, hlast, getLast_of_trim_eq hvalue x hlast⟩
      exact hink.append ['.']
  exact trim_append_of_trim_eq hc.filled hc.trimmed ((hends.append word).append ['.'])

/-- A condition is one item of its group if the value closes its brackets. -/
theorem opaque_condition_forms (hc : IsColumnText c) (hword : Operator.ofKeyword? word = some op)
    (hvalue : Brackets.Balanced (· ≠ ',') value) :
    Brackets.Opaque ',' (c ++ '.' :: (word ++ '.' :: value)) := by
  have hpoint : Brackets.Balanced (· ≠ ',') ['.'] :=
    .char rfl rfl (by decide) (by decide) .nil
  have hbalanced : Brackets.Balanced (· ≠ ',') (c ++ (['.'] ++ (word ++ (['.'] ++ value)))) :=
    hc.whole.append (hpoint.append ((Operator.balanced_word hword).append (hpoint.append hvalue)))
  exact hbalanced.isOpaque separates_comma

/-- A conjunction of a single condition is read as the condition. -/
theorem readGroup_singleton {item : List Char} (hne : item ≠ []) (htrim : trim item = item)
    (hkept : Brackets.Opaque ',' item) (hor : dropLead? "or(".toList item = none)
    (hand : dropLead? "and(".toList item = none) (last : Nat) :
    readGroup .and last ('(' :: item ++ [')']) =
      (ofCondition item).map fun f ↦ ([{ f with group := none }], last) := by
  have hwhole : trim ('(' :: item ++ [')']) = '(' :: item ++ [')'] :=
    trim_cons_append (by decide) (by decide) item
  have hsplit : Brackets.split ',' item = .ok [item] := by
    have hitems := Brackets.split_intercalate separates_comma (List.cons_ne_nil item [])
      (List.forall_mem_singleton.mpr hkept)
    simpa [List.intercalate] using hitems
  have hfull : [item].all isBlankText = false := by simp [isBlankText, htrim, hne]
  rw [readGroup, readGroupWithin]
  simp only [hwhole, enclosed?_cons_append, hsplit, bind, Except.bind, hfull, Bool.false_eq_true,
    if_false]
  rw [readItems_cons, htrim, readItem, if_neg hne, hor, hand]
  simp only [Option.isSome_none, Bool.false_eq_true, if_false]
  cases ofCondition item <;> rfl

/-- A group of one condition is read as the condition. -/
theorem readGroup_forms (hc : IsColumnText c) (hword : Operator.ofKeyword? word = some op)
    (htrim : trim value = value) (hvalue : Brackets.Balanced (· ≠ ',') value) (last : Nat) :
    readGroup .and last ('(' :: (c ++ '.' :: (word ++ '.' :: value)) ++ [')']) =
      (withText c op value).map fun f ↦ ([f], last) := by
  have hne : c ++ '.' :: (word ++ '.' :: value) ≠ [] :=
    List.append_ne_nil_of_left_ne_nil hc.filled _
  have hlead {lead : List Char} (hlead : ¬lead <+: c) (hpoint : '.' ∉ lead) :
      dropLead? lead (c ++ '.' :: (word ++ '.' :: value)) = none :=
    dropLead?_append_of_notMem (dropLead?_eq_none_iff.mpr hlead) hpoint _
  rw [readGroup_singleton hne (trim_condition_forms hc word htrim)
    (opaque_condition_forms hc hword hvalue) (hlead hc.ungrouped.1 (by decide))
    (hlead hc.ungrouped.2 (by decide)), ofCondition_forms hc hword, withText]
  cases FilterValue.ofText op value <;> rfl

end Filter

/-! ## The parameters -/

open RowGate.Filter

variable {c word value : List Char} {op : Operator}

/-- Each form adds the same filter to what was read before it, or the same fault. -/
theorem Draft.read_forms (hc : IsColumnText c) (hword : Operator.ofKeyword? word = some op)
    (htrim : trim value = value) (hvalue : Brackets.Balanced (· ≠ ',') value) (d : Draft) :
    ∀ p ∈ forms c word value,
      d.read p = (withText c op value).map fun f ↦ LogicParam.addTo d ([f], d.lastGroup) := by
  have hname : ReservedName.ofText? (c ++ '.' :: word) = none :=
    Draft.point_notMem_reserved (List.mem_append_right _ List.mem_cons_self)
  have hand : ReservedName.ofText? ReservedName.and.text.toList = some .and := by decide
  simp only [forms, List.forall_mem_cons]
  refine ⟨?_, ?_, ?_, fun _ h ↦ nomatch h⟩
  · simp only [Draft.read, hname, ofParam_name hc hword]
    cases withText c op value <;> rfl
  · simp only [Draft.read, hc.unreserved, ofParam_value hc hword]
    cases withText c op value <;> rfl
  · simp only [Draft.read, hand, Draft.readReserved, readGroup_forms hc hword htrim hvalue]
    cases withText c op value <;> rfl

/-- A query text that is one parameter is read alike in each form: all forms are refused for the
same fault, or all give the same filter, which stands in no group, and nothing else. -/
theorem Query.parse_forms (hc : IsColumnText c) (hword : Operator.ofKeyword? word = some op)
    (htrim : trim value = value) (hvalue : Brackets.Balanced (· ≠ ',') value) :
    (∃ e, ∀ p ∈ forms c word value, ∀ text : String, formPairs text.toList = [p] →
      Query.parse text = .error e) ∨
    ∃ f : Filter, f.column = String.ofList c ∧ f.operator = op ∧ f.group = none ∧
      ∀ p ∈ forms c word value, ∀ text : String, formPairs text.toList = [p] →
        Query.parse text = .ok { filters := [f] } := by
  have hparse : ∀ p ∈ forms c word value, ∀ text : String, formPairs text.toList = [p] →
      Query.parse text = (withText c op value).map fun f ↦ { filters := [f] } := by
    intro p hp text htext
    have hread := Draft.read_forms hc hword htrim hvalue {} p hp
    rw [Query.parse, htext, List.foldlM_cons, hread]
    cases withText c op value <;> rfl
  cases h : withText c op value with
  | error e =>
    rw [h] at hparse
    exact .inl ⟨e, hparse⟩
  | ok f =>
    rw [h] at hparse
    rw [withText] at h
    obtain ⟨v, -, rfl⟩ := map_eq_ok_iff.mp h
    exact .inr ⟨_, rfl, rfl, rfl, hparse⟩

/-- A column with a bracket and a point in it. -/
theorem isColumnText_tags : IsColumnText "tags[0].name".toList where
  filled := by decide
  trimmed := by decide
  whole := by
    have htags : Brackets.Balanced (· ≠ ',') "tags".toList :=
      balanced_of_all (by decide) fun _ h ↦ h
    have hname : Brackets.Balanced (· ≠ ',') ".name".toList :=
      balanced_of_all (by decide) fun _ h ↦ h
    have hindex : Brackets.Balanced (fun _ ↦ True) ['0'] :=
      balanced_of_all (by decide) fun _ _ ↦ trivial
    exact htags.append (.brackets .square hindex hname)
  ungrouped := by decide
  unreserved := by decide
  unworded := by decide

/-- A list whose items hold a comma, a bracket and an operator. -/
def markedList : List Char := "(\"x,(y\",b.eq.c)".toList

theorem balanced_markedList : Brackets.Balanced (· ≠ ',') markedList := by
  have hquotes : Brackets.InQuotes "x,(y\"".toList :=
    .char (by decide) (by decide) (.char (by decide) (by decide) (.char (by decide) (by decide)
      (.char (by decide) (by decide) .close)))
  have hitem : Brackets.Balanced (fun _ ↦ True) "b.eq.c".toList :=
    balanced_of_all (by decide) fun _ _ ↦ trivial
  have hinner : Brackets.Balanced (fun _ ↦ True) "\"x,(y\",b.eq.c".toList :=
    .quotes hquotes (.char rfl rfl (by decide) trivial hitem)
  exact .brackets .round hinner .nil

def tagsFilter : Filter where
  column := "tags[0].name"
  operator := .oneOf
  value := .strings ["x,(y", "b.eq.c"]

/-- The case of the word does not matter, nor do the marks in the list. -/
theorem Query.parse_forms_markedList :
    IsColumnText "tags[0].name".toList ∧ Operator.ofKeyword? "In".toList = some .oneOf ∧
    trim markedList = markedList ∧ Brackets.Balanced (· ≠ ',') markedList ∧
    ∀ text ∈ ["tags[0].name.In=(\"x,(y\",b.eq.c)", "tags[0].name=In.(\"x,(y\",b.eq.c)",
        "and=(tags[0].name.In.(\"x,(y\",b.eq.c))"],
      Query.parse text = .ok { filters := [tagsFilter] } := by
  have hword : Operator.ofKeyword? "In".toList = some .oneOf := by decide
  have htrim : trim markedList = markedList := by decide
  refine ⟨isColumnText_tags, hword, htrim, balanced_markedList, ?_⟩
  obtain ⟨r, hr⟩ : ∃ r, ∀ p ∈ forms "tags[0].name".toList "In".toList markedList,
      ∀ text : String, formPairs text.toList = [p] → Query.parse text = r := by
    rcases Query.parse_forms isColumnText_tags hword htrim balanced_markedList with
      ⟨e, h⟩ | ⟨f, -, -, -, h⟩
    · exact ⟨_, h⟩
    · exact ⟨_, h⟩
  simp only [forms, List.forall_mem_cons] at hr
  obtain ⟨hname, hvalue, hgroup, -⟩ := hr
  have hread : r = .ok { filters := [tagsFilter] } :=
    (hname "tags[0].name.In=(\"x,(y\",b.eq.c)" (by decide +kernel)).symm.trans (by decide +kernel)
  simp only [List.forall_mem_cons]
  refine ⟨?_, ?_, ?_, fun _ h ↦ nomatch h⟩
  · exact (hname _ (by decide +kernel)).trans hread
  · exact (hvalue _ (by decide +kernel)).trans hread
  · exact (hgroup _ (by decide +kernel)).trans hread

end RowGate
