import Mathlib.Data.List.SplitBy
import Mathlib.Tactic.MkIffOfInductiveProp
import RowGate.Proofs.Query.Spelling
import RowGate.Proofs.Text.FormData

/-! # Canonical query texts

A query whose names are plain, whose values suit their operators and whose disjunctions follow one
another in the order of their numbers has a text: a parameter for each part of the query, one for
each condition outside of the disjunctions and one for each disjunction. Main statement: the text is
read as that query.

Each kind of item is read back by itself. A list of items is cut at the commas between them, as
items hide the commas that they hold in brackets and quotes.
-/

namespace RowGate

open Text LogicTree

/-! ## Select items -/

/-- An expression behind its label, if it has one. -/
def labelled : Option String → List Char → List Char
  | none, expr => expr
  | some label, expr => label.toList ++ ':' :: expr

/-- What a label may stand before. -/
structure IsExpression (s : List Char) : Prop where
  trimmed : trim s = s
  ends : EndsInk s
  colon : ':' ∉ s
  whole : Brackets.Opaque ',' s

/-- A plain text has no colon and no comma, so it may stand behind a label. -/
theorem isExpression_of_isPlain {s : List Char} (h : isPlain s = true) : IsExpression s where
  trimmed := trim_of_isPlain h
  ends := endsInk_of_isPlain h
  colon := notMem_of_isPlain h (by decide)
  whole := opaque_of_isPlain h

section Labels

variable {label : Option String} {expr : List Char}

/-- A labelled expression has no comma of its own between the items of a list. -/
theorem opaque_labelled (hlabel : ∀ l ∈ label, isPlain l.toList = true) (h : IsExpression expr) :
    Brackets.Opaque ',' (labelled label expr) := by
  cases label with
  | none => exact h.whole
  | some l =>
    have hcolon : Brackets.Opaque ',' [':'] := opaque_of_all (by decide)
    exact (opaque_of_isPlain (hlabel l rfl)).append (hcolon.append h.whole)

/-- There are no blanks around a labelled expression. -/
theorem trim_labelled (hlabel : ∀ l ∈ label, isPlain l.toList = true) (h : IsExpression expr) :
    trim (labelled label expr) = labelled label expr := by
  cases label with
  | none => exact h.trimmed
  | some l => exact trim_append_of_endsInk (hlabel l rfl) (h.ends.append [':'])

theorem endsInk_labelled (h : IsExpression expr) : EndsInk (labelled label expr) := by
  cases label with
  | none => exact h.ends
  | some l => exact (h.ends.append [':']).append l.toList

/-- The first colon is that of the label, as neither the label nor the expression holds another. -/
theorem splitAlias_labelled (hlabel : ∀ l ∈ label, isPlain l.toList = true)
    (h : IsExpression expr) :
    splitAlias (labelled label expr) = (label.map String.toList, expr) := by
  cases label with
  | none => rw [labelled, splitAlias, cutFirst_eq_none h.colon, Option.map_none]
  | some l =>
    have hl : isPlain l.toList = true := hlabel l rfl
    have hcut := cutFirst_cons (notMem_of_isPlain hl (by decide : ':' ∈ nameMarks)) expr
    have hhead : expr.head? ≠ some ':' := fun hhead ↦ h.colon (List.mem_of_mem_head? hhead)
    rw [labelled, splitAlias, hcut]
    simp [hhead, trim_of_isPlain hl, h.trimmed]

/-- What an item adds is found behind its label. -/
theorem addSelectItem_labelled (hlabel : ∀ l ∈ label, isPlain l.toList = true)
    (h : IsExpression expr) (q : Query) :
    q.addSelectItem (labelled label expr) = (readAggregate expr).map fun
      | some a => { q with aggregations := q.aggregations ++ [{ a with label := label }] }
      | none => { q with select := q.select ++ [⟨String.ofList expr, label⟩] } := by
  have hfull : label.map String.toList ≠ some [] := by
    cases label with
    | none => exact fun h ↦ nomatch h
    | some l => exact fun h ↦ ne_nil_of_isPlain (hlabel l rfl) (Option.some.inj h)
  have hback : (label.map String.toList).map String.ofList = label := by
    cases label <;> simp
  simp only [Query.addSelectItem, trim_labelled hlabel h, if_neg (endsInk_labelled h).ne_nil,
    splitAlias_labelled hlabel h, if_neg hfull, hback]
  cases readAggregate expr with
  | error _ => rfl
  | ok a => cases a <;> rfl

end Labels

namespace SelectColumn

def spelled (c : SelectColumn) : List Char := labelled c.label c.column.toList

@[mk_iff]
structure Canonical (c : SelectColumn) : Prop where
  column : isPlain c.column.toList = true
  label : ∀ l ∈ c.label, isPlain l.toList = true

instance : DecidablePred Canonical := fun _ => decidable_of_iff _ (canonical_iff _).symm

variable {c : SelectColumn}

/-- A column holds no comma that would end its item. -/
theorem opaque_spelled (h : c.Canonical) : Brackets.Opaque ',' c.spelled :=
  opaque_labelled h.label (isExpression_of_isPlain h.column)

/-- A column is no call, so it is read as a column with its label. -/
theorem addSelectItem_spelled (h : c.Canonical) (q : Query) :
    q.addSelectItem c.spelled = .ok { q with select := q.select ++ [c] } := by
  have hcall : readAggregate c.column.toList = .ok none := by
    rw [readAggregate, cutFirst_eq_none (notMem_of_isPlain h.column (by decide))]
  rw [spelled, addSelectItem_labelled h.label (isExpression_of_isPlain h.column), hcall]
  simp [Except.map]

end SelectColumn

namespace Aggregation

/-- The function as it is called: rows are counted by the function that counts values. -/
def callee (a : Aggregation) : String :=
  match a.column with
  | none => "count"
  | some _ => a.function.name

/-- What is put in for the column; all of a row where there is none. -/
def operand (a : Aggregation) : List Char := (a.column.getD "*").toList

def callText (a : Aggregation) : List Char := a.callee.toList ++ '(' :: (a.operand ++ [')'])

def spelled (a : Aggregation) : List Char := labelled a.label a.callText

/-- Counting rows takes no column; every other function takes one, and not all of them. -/
@[mk_iff]
structure Canonical (a : Aggregation) : Prop where
  rows : a.column = none ↔ a.function = .countAll
  column : ∀ c ∈ a.column, isPlain c.toList = true ∧ c ≠ "*"
  label : ∀ l ∈ a.label, isPlain l.toList = true

instance : DecidablePred Canonical := fun _ => decidable_of_iff _ (canonical_iff _).symm

variable {a : Aggregation}

/-- The name of a function is found again, unless the function counts rows. -/
theorem ofName?_name {f : AggregateFunction} (h : f ≠ .countAll) :
    AggregateFunction.ofName? (trim f.name.toList) = some f := by
  cases f with
  | countAll => exact absurd rfl h
  | _ => decide

/-- A call is read as the function and the column that it is of. -/
theorem readAggregate_callText (h : a.Canonical) :
    readAggregate a.callText = .ok (some { a with label := none }) := by
  obtain ⟨f, column, label⟩ := a
  cases column with
  | none =>
    have hf : f = .countAll := h.rows.mp rfl
    have hcall : readAggregate ("count".toList ++ '(' :: ("*".toList ++ [')'])) =
        .ok (some { function := .countAll }) := rfl
    rw [hf]
    exact hcall
  | some c =>
    obtain ⟨hc, hstar⟩ := h.column c rfl
    have hf : f ≠ .countAll := fun hf ↦ nomatch h.rows.mpr hf
    have hparen : '(' ∉ f.name.toList := by cases f <;> decide
    have hcut : cutFirst '(' (f.name.toList ++ '(' :: (c.toList ++ [')'])) =
        some (f.name.toList, c.toList ++ [')']) := cutFirst_cons hparen _
    have hfinal : dropFinal? ')' (c.toList ++ [')']) = some c.toList := by simp [dropFinal?]
    have harg : c.toList ≠ ['*'] := fun h ↦ hstar (String.toList_inj.mp h)
    simp only [readAggregate, callText, callee, operand, Option.getD_some, hcut, ofName?_name hf,
      hfinal, trim_of_isPlain hc, if_neg (ne_nil_of_isPlain hc), if_neg harg, String.ofList_toList]

theorem isPlain_callee (a : Aggregation) : isPlain a.callee.toList = true := by
  obtain ⟨f, column, label⟩ := a
  cases column with
  | none => exact (by decide : isPlain "count".toList = true)
  | some c =>
    have hname : isPlain f.name.toList = true := by cases f <;> decide
    exact hname

/-- A column is plain, and so is the star in its place. -/
theorem isPlain_operand (h : a.Canonical) : isPlain a.operand = true := by
  obtain ⟨f, column, label⟩ := a
  cases column with
  | none => exact (by decide : isPlain "*".toList = true)
  | some c => exact (h.column c rfl).1

/-- A call may stand behind a label: its brackets enclose a plain operand. -/
theorem isExpression_callText (h : a.Canonical) : IsExpression a.callText := by
  have hcallee := isPlain_callee a
  have hoperand := isPlain_operand h
  have hend : EndsInk [')'] := ⟨')', rfl, by decide⟩
  have hcall : EndsInk ('(' :: (a.operand ++ [')'])) := hend.append ('(' :: a.operand)
  refine ⟨trim_append_of_endsInk hcallee hcall, hcall.append _, ?_, ?_⟩
  · have hcolon₁ : ':' ∉ a.callee.toList := notMem_of_isPlain hcallee (by decide)
    have hcolon₂ : ':' ∉ a.operand := notMem_of_isPlain hoperand (by decide)
    simp [callText, hcolon₁, hcolon₂]
  · have hlist : Brackets.Opaque ',' ('(' :: [','].intercalate [a.operand] ++ [')']) :=
      .parens_intercalate separates_comma
        (List.forall_mem_singleton.mpr (opaque_of_isPlain hoperand))
    rw [List.intercalate_singleton, List.cons_append] at hlist
    exact (opaque_of_isPlain hcallee).append hlist

theorem opaque_spelled (h : a.Canonical) : Brackets.Opaque ',' a.spelled :=
  opaque_labelled h.label (isExpression_callText h)

/-- An aggregate is read with its function, its column and its label. -/
theorem addSelectItem_spelled (h : a.Canonical) (q : Query) :
    q.addSelectItem a.spelled = .ok { q with aggregations := q.aggregations ++ [a] } := by
  rw [spelled, addSelectItem_labelled h.label (isExpression_callText h), readAggregate_callText h]
  rfl

end Aggregation

/-! ## Order terms -/

namespace OrderTerm

def directionWord (descending : Bool) : List Char := (if descending then "desc" else "asc").toList

def nullsWord : NullsOrder → List Char
  | .first => "nullsfirst".toList
  | .last => "nullslast".toList

/-- The words behind a column: the direction, and where nulls go if that is said. -/
def words (descending : Bool) (nulls : Option NullsOrder) : List (List Char) :=
  directionWord descending :: nulls.toList.map nullsWord

/-- Words hold no marks and no blanks. -/
theorem words_spec (descending : Bool) (nulls : Option NullsOrder) :
    ('.' :: ['.'].intercalate (words descending nulls)).all (· ∉ groupMarks) = true ∧
      ('.' :: ['.'].intercalate (words descending nulls)).getLast?.any (!isBlank ·) = true ∧
      ∀ w ∈ words descending nulls, '.' ∉ w := by
  cases descending <;> rcases nulls with - | - | - <;> decide

/-- The word of a direction sets it, the default one too. -/
theorem modify_directionWord (t : OrderTerm) (descending : Bool) :
    t.modify (directionWord descending) = .ok { t with descending } := by
  cases descending <;> rfl

theorem modify_nullsWord (t : OrderTerm) (nulls : NullsOrder) :
    t.modify (nullsWord nulls) = .ok { t with nulls := some nulls } := by
  cases nulls <;> rfl

/-- The words of a term set all of it but its column. -/
theorem foldlM_modify_words (t : OrderTerm) :
    (words t.descending t.nulls).foldlM modify { column := t.column } = .ok t := by
  obtain ⟨column, descending, nulls⟩ := t
  rw [words, List.foldlM_cons, modify_directionWord]
  cases nulls with
  | none => rfl
  | some n => exact congrArg (· >>= pure) (modify_nullsWord _ n)

def spelled (t : OrderTerm) : List Char :=
  ['.'].intercalate (t.column.toList :: words t.descending t.nulls)

variable {t : OrderTerm}

theorem spelled_eq (t : OrderTerm) :
    t.spelled = t.column.toList ++ '.' :: ['.'].intercalate (words t.descending t.nulls) := by
  rw [spelled, words, List.intercalate_cons_cons, List.append_assoc]
  rfl

theorem opaque_spelled (h : isPlain t.column.toList = true) : Brackets.Opaque ',' t.spelled := by
  rw [spelled_eq]
  exact (opaque_of_isPlain h).append (opaque_of_all (words_spec _ _).1)

theorem trim_spelled (h : isPlain t.column.toList = true) : trim t.spelled = t.spelled := by
  rw [spelled_eq]
  exact trim_append_of_endsInk h (endsInk_iff.mpr (words_spec _ _).2.1)

/-- A term is read back: the points cut its column and its words apart. -/
theorem ofText_spelled (h : isPlain t.column.toList = true) : ofText t.spelled = .ok t := by
  have hpoint : ∀ w ∈ t.column.toList :: words t.descending t.nulls, '.' ∉ w :=
    List.forall_mem_cons.mpr ⟨notMem_of_isPlain h (by decide), (words_spec _ _).2.2⟩
  have hpieces : pieces '.' t.spelled = t.column.toList :: words t.descending t.nulls :=
    pieces_intercalate (List.cons_ne_nil _ _) hpoint
  simp only [ofText, trim_spelled h, hpieces, trim_of_isPlain h, if_neg (ne_nil_of_isPlain h),
    String.ofList_toList, foldlM_modify_words]

end OrderTerm

/-! ## Conditions -/

namespace Filter

/-- Distances are left out: their reader takes no quotes off. -/
@[mk_iff]
structure Canonical (f : Filter) : Prop where
  column : isPlain f.column.toList = true
  operator : f.operator ≠ .stDWithin
  value : f.value.suits f.operator = true

instance : DecidablePred Canonical := fun _ => decidable_of_iff _ (canonical_iff _).symm

/-- The column and the operator. -/
def lead (f : Filter) : List Char := f.column.toList ++ '.' :: f.operator.keyword.toList

/-- The condition as a parameter. -/
def param (f : Filter) : List Char × List Char := (f.lead, f.value.spelled)

/-- The condition as an item of a group. -/
def condition (f : Filter) : List Char :=
  f.column.toList ++ '.' :: (f.operator.keyword.toList ++ '.' :: f.value.spelled)

variable {f : Filter}

/-- A value is read back under its operator, outside of any group. -/
theorem ofParts_spelled (h : f.Canonical) (fragment : List Char) :
    ofParts f.column.toList f.operator f.value.spelled fragment = .ok { f with group := none } := by
  rw [ofParts, trim_of_isPlain h.column]
  simp only [if_neg (ne_nil_of_isPlain h.column), FilterValue.ofText_spelled h.operator h.value,
    String.ofList_toList]
  rfl

/-- The last point of the name is the one before the operator, as no keyword holds a point. -/
theorem ofParam_param (h : f.Canonical) :
    ofParam f.param.1 f.param.2 = .ok { f with group := none } := by
  have hkeyword : EndsInk ('.' :: f.operator.keyword.toList) := by
    cases f.operator <;> exact endsInk_iff.mpr (by decide)
  have htrim : trim f.lead = f.lead := trim_append_of_endsInk h.column hkeyword
  have hne : f.lead ≠ [] := (hkeyword.append _).ne_nil
  have hcut : cutLast '.' f.lead = some (f.column.toList, f.operator.keyword.toList) :=
    cutLast_cons _ (Operator.point_notMem_word (Operator.ofKeyword?_keyword f.operator))
  simp only [ofParam, param, htrim, if_neg hne, hcut, Option.bind_eq_bind, Option.bind_some,
    Operator.ofKeyword?_keyword]
  exact ofParts_spelled h f.lead

/-- The first operator that stands between two points is that of the condition, as the column holds
no points. -/
theorem splitCondition?_condition (h : f.Canonical) :
    splitCondition? f.condition = some (f.column.toList, f.operator, f.value.spelled) := by
  have hstretch : pieces '.' f.column.toList = [f.column.toList] :=
    pieces_of_notMem (notMem_of_isPlain h.column (by decide))
  refine splitCondition?_of_unworded ?_ (Operator.ofKeyword?_keyword f.operator) f.value.spelled
  rw [hstretch]
  exact fun _ hw ↦ nomatch hw

/-- A condition is read back as an item of a group. -/
theorem ofCondition_condition (h : f.Canonical) :
    ofCondition f.condition = .ok { f with group := none } := by
  rw [ofCondition, splitCondition?_condition h]
  exact ofParts_spelled h f.condition

theorem trim_condition (h : f.Canonical) : trim f.condition = f.condition := by
  have hvalue : EndsInk f.value.spelled := FilterValue.endsInk_spelled h.value
  exact trim_append_of_endsInk h.column
    ((hvalue.append ['.']).append ('.' :: f.operator.keyword.toList))

/-- The value of a condition hides its commas in brackets and quotes. -/
theorem opaque_condition (h : f.Canonical) : Brackets.Opaque ',' f.condition := by
  have hpoint : Brackets.Opaque ',' ['.'] := opaque_of_all (by decide)
  have hkeyword : Brackets.Opaque ',' f.operator.keyword.toList :=
    opaque_of_all (by cases f.operator <;> decide)
  have hvalue : Brackets.Opaque ',' f.value.spelled := FilterValue.opaque_spelled h.value
  exact (opaque_of_isPlain h.column).append
    (hpoint.append (hkeyword.append (hpoint.append hvalue)))

theorem condition_ne_nil (f : Filter) : f.condition ≠ [] :=
  List.append_ne_nil_of_right_ne_nil _ (List.cons_ne_nil _ _)

end Filter

/-! ## Disjunctions -/

namespace LogicTree

variable {f : Filter} {fs : List Filter} {g : Nat}

/-- A condition is no group: its column is followed by a point. -/
theorem readItem_condition (h : f.Canonical) (hg : f.group = some g) (inner : GroupReader)
    (whole : List Char) (last : Nat) :
    readItem inner .or (some g) whole f.condition last = .ok ([f], last) := by
  have hparen : '(' ∉ f.column.toList := notMem_of_isPlain h.column (by decide)
  have hor : dropLead? "or(".toList f.condition = none :=
    dropLead?_append_eq_none (by decide) hparen (by decide) _
  have hand : dropLead? "and(".toList f.condition = none :=
    dropLead?_append_eq_none (by decide) hparen (by decide) _
  have hf : { f with group := some g } = f := by rw [← hg]
  rw [readItem, if_neg f.condition_ne_nil, hor, hand, Filter.ofCondition_condition h]
  exact congrArg (fun e ↦ Except.ok ([e], last)) hf

/-- Conditions of one disjunction are read back in their order. -/
theorem readItems_conditions (h : ∀ f ∈ fs, f.Canonical ∧ f.group = some g) (inner : GroupReader)
    (whole : List Char) (last : Nat) :
    readItems inner .or (some g) whole (fs.map Filter.condition) last = .ok (fs, last) := by
  induction fs with
  | nil => rfl
  | cons f fs ih =>
    obtain ⟨⟨hf, hg⟩, hfs⟩ := List.forall_mem_cons.mp h
    rw [List.map_cons, readItems_cons, Filter.trim_condition hf, readItem_condition hf hg]
    exact congrArg (· >>= fun r : Numbered ↦ pure (f :: r.1, r.2)) (ih hfs)

/-- A disjunction takes the next number. -/
theorem readGroup_conditions {last : Nat} (hne : fs ≠ [])
    (h : ∀ f ∈ fs, f.Canonical ∧ f.group = some (last + 1)) :
    readGroup .or last (listText (fs.map Filter.condition)) = .ok (fs, last + 1) := by
  have hopaque : ∀ w ∈ fs.map Filter.condition, Brackets.Opaque ',' w :=
    List.forall_mem_map.mpr fun f hf ↦ Filter.opaque_condition (h f hf).1
  have hsplit := Brackets.split_intercalate separates_comma (mt List.map_eq_nil_iff.mp hne) hopaque
  have hfull : (fs.map Filter.condition).all isBlankText = false := by
    obtain ⟨f, fs, rfl⟩ := List.exists_cons_of_ne_nil hne
    have hf : isBlankText f.condition = false := by
      rw [isBlankText, Filter.trim_condition (h f List.mem_cons_self).1]
      exact List.isEmpty_eq_false_iff.mpr f.condition_ne_nil
    simp [hf]
  rw [readGroup, readGroupWithin]
  simp only [trim_listText, enclosed?_listText, hsplit, bind, Except.bind, hfull,
    Bool.false_eq_true, if_false]
  exact readItems_conditions h _ _ _

end LogicTree

/-! ## Parameters -/

namespace Draft

/-- Reading parameters takes a draft to another. -/
def Reads (ps : List (List Char × List Char)) (d e : Draft) : Prop := ps.foldlM read d = .ok e

variable {ps qs : List (List Char × List Char)} {d e e' : Draft}

theorem Reads.nil (d : Draft) : Reads [] d d := rfl

/-- The second parameters go on from what the first ones have read. -/
theorem Reads.append (h : Reads ps d e) (h' : Reads qs e e') : Reads (ps ++ qs) d e' := by
  rw [Reads, List.foldlM_append, h]
  exact h'

theorem reads_singleton {p : List Char × List Char} : Reads [p] d e ↔ d.read p = .ok e := by
  rw [Reads, List.foldlM_cons]
  cases d.read p <;> simp [bind, Except.bind, pure, Except.pure]

/-- A parameter whose name is reserved. -/
theorem reads_reserved {name : ReservedName} {value : List Char}
    (h : d.readReserved value name = .ok e) : Reads [(name.text.toList, value)] d e := by
  have hname : ReservedName.ofText? name.text.toList = some name := by cases name <;> decide
  rw [reads_singleton, read, hname]
  exact h

end Draft

/-! ## Filters -/

namespace Filter

/-- The stretches of filters with the same group, or without one. -/
def runs (fs : List Filter) : List (List Filter) := fs.splitBy fun f g => f.group == g.group

/-- The number of the disjunction that a stretch of filters is; none if it is no disjunction. -/
def runGroup (run : List Filter) : Option Nat := run.head?.bind (·.group)

/-- The numbers of the disjunctions, one for each stretch. -/
def runGroups (fs : List Filter) : List Nat := (runs fs).filterMap runGroup

/-- A disjunction is one parameter; conditions outside of disjunctions are one each. -/
def runParams (run : List Filter) : List (List Char × List Char) :=
  match runGroup run with
  | none => run.map param
  | some _ => [(ReservedName.or.text.toList, listText (run.map condition))]

/-- Filters of one group, or of none. -/
structure IsRun (run : List Filter) : Prop where
  filled : run ≠ []
  canonical : ∀ f ∈ run, f.Canonical
  group : ∀ f ∈ run, f.group = runGroup run

/-- The stretches of a canonical list are filled, and each is of one group. -/
theorem isRun_of_mem_runs {fs run : List Filter} (hfs : ∀ f ∈ fs, f.Canonical)
    (h : run ∈ runs fs) : IsRun run where
  filled := List.ne_nil_of_mem_splitBy h
  canonical f hf := by
    have hmem : f ∈ (runs fs).flatten := List.mem_flatten.mpr ⟨run, h, hf⟩
    rw [runs, List.flatten_splitBy] at hmem
    exact hfs f hmem
  group := by
    -- neighbours are of one group, so all of the stretch is of the group of its first filter
    have : IsTrans Filter fun f g ↦ f.group = g.group := ⟨fun _ _ _ ↦ Eq.trans⟩
    have hchain : run.IsChain fun f g ↦ f.group = g.group :=
      (List.isChain_of_mem_splitBy h).imp fun _ _ ↦ beq_iff_eq.mp
    cases run with
    | nil => exact fun f hf ↦ nomatch hf
    | cons first rest =>
      have hfirst := (List.pairwise_cons.mp (List.isChain_iff_pairwise.mp hchain)).1
      exact List.forall_mem_cons.mpr ⟨rfl, fun f hf ↦ (hfirst f hf).symm⟩

end Filter

namespace Draft

open RowGate.Filter LogicParam

variable {d : Draft}

/-- No reserved name holds a point, as the name of every condition does. -/
theorem point_notMem_reserved {s : List Char} (h : '.' ∈ s) : ReservedName.ofText? s = none := by
  refine List.find?_eq_none.mpr fun name _ hname ↦ ?_
  have hs : name.text.toList = s := of_decide_eq_true hname
  rw [← hs] at h
  cases name <;> exact absurd h (by decide)

/-- Conditions outside of disjunctions are read back as one parameter each. -/
theorem reads_conditions {fs : List Filter} (h : ∀ f ∈ fs, f.Canonical ∧ f.group = none) :
    Reads (fs.map param) d (addTo d (fs, d.lastGroup)) := by
  refine foldlM_map_eq_ok (k := fun d fs ↦ addTo d (fs, d.lastGroup)) (fun d ↦ by simp [addTo])
    (fun d f fs ↦ by simp [addTo]) (fun f hf d ↦ ?_) d
  obtain ⟨hf, hg⟩ := h f hf
  have hname : ReservedName.ofText? f.param.1 = none :=
    point_notMem_reserved (List.mem_append_right _ List.mem_cons_self)
  have hnone : { f with group := none } = f := by rw [← hg]
  rw [read, hname]
  simp only [ofParam_param hf, hnone]
  rfl

/-- A disjunction has to be the next one. -/
theorem reads_run {run : List Filter} (h : IsRun run)
    (hnext : ∀ g ∈ runGroup run, g = d.lastGroup + 1) :
    Reads (runParams run) d (addTo d (run, (runGroup run).getD d.lastGroup)) := by
  rw [runParams]
  cases hg : runGroup run with
  | none => exact reads_conditions fun f hf ↦ ⟨h.canonical f hf, (h.group f hf).trans hg⟩
  | some g =>
    have hnumber : g = d.lastGroup + 1 := hnext g hg
    subst hnumber
    refine reads_reserved ?_
    rw [readReserved, readGroup_conditions h.filled fun f hf ↦
      ⟨h.canonical f hf, (h.group f hf).trans hg⟩]
    rfl

/-- Disjunctions that are numbered on from the last number in use, among other conditions. -/
theorem reads_runs {rs : List (List Filter)} (h : ∀ run ∈ rs, IsRun run) {n : Nat}
    (hnumbers : rs.filterMap runGroup = List.range' (d.lastGroup + 1) n) :
    Reads (rs.flatMap runParams) d (addTo d (rs.flatten, d.lastGroup + n)) := by
  induction rs generalizing d n with
  | nil =>
    have hn : n = 0 := by simpa using hnumbers
    simp [hn, addTo, Reads, pure, Except.pure]
  | cons run rs ih =>
    obtain ⟨hrun, hrs⟩ := List.forall_mem_cons.mp h
    obtain ⟨hnext, m, hrest, hlast⟩ : (∀ g ∈ runGroup run, g = d.lastGroup + 1) ∧
        ∃ m, rs.filterMap runGroup = List.range' ((runGroup run).getD d.lastGroup + 1) m ∧
          (runGroup run).getD d.lastGroup + m = d.lastGroup + n := by
      cases hg : runGroup run with
      | none =>
        rw [List.filterMap_cons_none hg] at hnumbers
        exact ⟨by simp, n, hnumbers, rfl⟩
      | some g =>
        rw [List.filterMap_cons_some hg] at hnumbers
        obtain ⟨rfl, hn, hrest⟩ := List.range'_eq_cons_iff.mp hnumbers.symm
        refine ⟨fun _ h ↦ (Option.some.inj h).symm, n - 1, hrest, ?_⟩
        rw [Option.getD_some]
        omega
    have hreads := (reads_run hrun hnext).append (ih (d := addTo d (run, _)) hrs hrest)
    rw [List.flatMap_cons, List.flatten_cons]
    simpa [addTo, hlast] using hreads

end Draft

/-! ## Queries -/

/-- A parameter for a list of items; none if there are no items. -/
def listParam (name : ReservedName) (items : List (List Char)) : List (List Char × List Char) :=
  if items = [] then [] else [(name.text.toList, [','].intercalate items)]

namespace Query

/-- The columns and then the aggregates. -/
def selectItems (q : Query) : List (List Char) :=
  q.select.map SelectColumn.spelled ++ q.aggregations.map Aggregation.spelled

/-- The parameters of the canonical text. -/
def params (q : Query) : List (List Char × List Char) :=
  listParam .select q.selectItems ++
  ((Filter.runs q.filters).flatMap Filter.runParams ++
  (listParam .order (q.order.map OrderTerm.spelled) ++
  ((q.limit.toList.map fun n => (ReservedName.limit.text.toList, (toString n).toList)) ++
  ((q.offset.toList.map fun n => (ReservedName.offset.text.toList, (toString n).toList)) ++
  (listParam .groupBy (q.groupBy.map String.toList) ++
  [(ReservedName.count.text.toList, q.count.name.toList)])))))

def canonicalText (q : Query) : String := String.ofList (formText q.params)

/-- Queries that have a canonical text. -/
@[mk_iff]
structure Canonical (q : Query) : Prop where
  select : ∀ c ∈ q.select, c.Canonical
  filters : ∀ f ∈ q.filters, f.Canonical
  /-- Disjunctions hang together and are numbered from one on. -/
  groups : Filter.runGroups q.filters = List.range' 1 (Filter.runGroups q.filters).length
  order : ∀ t ∈ q.order, isPlain t.column.toList = true
  limit : ∀ n ∈ q.limit, (n : Int) ≤ Decimal.maxInt64
  offset : ∀ n ∈ q.offset, Decimal.fitsInt64 n = true
  aggregations : ∀ a ∈ q.aggregations, a.Canonical
  groupBy : ∀ c ∈ q.groupBy, isPlain c.toList = true

instance : DecidablePred Canonical := fun _ => decidable_of_iff _ (canonical_iff _).symm

end Query

namespace Draft

variable {d : Draft} {q : Query}

/-- The select list adds the columns and the aggregates of the query. -/
theorem reads_select (hselect : ∀ c ∈ q.select, c.Canonical)
    (haggregations : ∀ a ∈ q.aggregations, a.Canonical) :
    Reads (listParam .select q.selectItems) d { d with query := { d.query with
      select := d.query.select ++ q.select
      aggregations := d.query.aggregations ++ q.aggregations } } := by
  rw [listParam]
  split
  next hempty =>
    obtain ⟨hc, ha⟩ := List.append_eq_nil_iff.mp hempty
    rw [List.map_eq_nil_iff.mp hc, List.map_eq_nil_iff.mp ha, List.append_nil, List.append_nil]
    exact .nil d
  next hne =>
    have hends : ∀ w ∈ q.selectItems, EndsInk w :=
      List.forall_mem_append.mpr
        ⟨List.forall_mem_map.mpr fun c hc ↦
            endsInk_labelled (isExpression_of_isPlain (hselect c hc).column),
          List.forall_mem_map.mpr fun a ha ↦
            endsInk_labelled (Aggregation.isExpression_callText (haggregations a ha))⟩
    have hopaque : ∀ w ∈ q.selectItems, Brackets.Opaque ',' w :=
      List.forall_mem_append.mpr
        ⟨List.forall_mem_map.mpr fun c hc ↦ SelectColumn.opaque_spelled (hselect c hc),
          List.forall_mem_map.mpr fun a ha ↦ Aggregation.opaque_spelled (haggregations a ha)⟩
    have hcolumns (r : Query) : (q.select.map SelectColumn.spelled).foldlM Query.addSelectItem r =
        .ok { r with select := r.select ++ q.select } :=
      foldlM_map_eq_ok (k := fun r cs ↦ { r with select := r.select ++ cs }) (fun r ↦ by simp)
        (fun r c cs ↦ by simp) (fun c hc ↦ SelectColumn.addSelectItem_spelled (hselect c hc)) r
    have hcalls (r : Query) :
        (q.aggregations.map Aggregation.spelled).foldlM Query.addSelectItem r =
        .ok { r with aggregations := r.aggregations ++ q.aggregations } :=
      foldlM_map_eq_ok (k := fun r as ↦ { r with aggregations := r.aggregations ++ as })
        (fun r ↦ by simp) (fun r a as ↦ by simp)
        (fun a ha ↦ Aggregation.addSelectItem_spelled (haggregations a ha)) r
    refine reads_reserved ?_
    simp only [readReserved, isBlankText_intercalate hne hends, Bool.false_eq_true, if_false,
      Brackets.split_intercalate separates_comma hne hopaque]
    simp only [Query.selectItems, bind, Except.bind, List.foldlM_append, hcolumns, hcalls]
    rfl

/-- All conditions are read back, with the numbers of their disjunctions from one on. -/
theorem reads_filters (h : ∀ f ∈ q.filters, f.Canonical)
    (hgroups : Filter.runGroups q.filters = List.range' 1 (Filter.runGroups q.filters).length)
    (hd : d.lastGroup = 0) :
    Reads ((Filter.runs q.filters).flatMap Filter.runParams) d
      (LogicParam.addTo d (q.filters, (Filter.runGroups q.filters).length)) := by
  have hruns : ∀ run ∈ Filter.runs q.filters, Filter.IsRun run :=
    fun _ hrun ↦ Filter.isRun_of_mem_runs h hrun
  have hnumbers : (Filter.runs q.filters).filterMap Filter.runGroup =
      List.range' (d.lastGroup + 1) (Filter.runGroups q.filters).length := by
    rw [hd]
    exact hgroups
  have hreads := reads_runs hruns hnumbers
  rwa [Filter.runs, List.flatten_splitBy, hd, Nat.zero_add] at hreads

/-- The order adds the terms of the query. -/
theorem reads_order (h : ∀ t ∈ q.order, isPlain t.column.toList = true) :
    Reads (listParam .order (q.order.map OrderTerm.spelled)) d
      { d with query := { d.query with order := d.query.order ++ q.order } } := by
  rw [listParam]
  split
  next hempty =>
    rw [List.map_eq_nil_iff.mp hempty, List.append_nil]
    exact .nil d
  next hne =>
    have hopaque : ∀ w ∈ q.order.map OrderTerm.spelled, Brackets.Opaque ',' w :=
      List.forall_mem_map.mpr fun t ht ↦ OrderTerm.opaque_spelled (h t ht)
    have hterms : (q.order.map OrderTerm.spelled).mapM OrderTerm.ofText = .ok q.order := by
      refine mapM_eq_ok_iff.mpr (List.forall₂_map_left_iff.mpr (List.forall₂_same.mpr ?_))
      exact fun t ht ↦ OrderTerm.ofText_spelled (h t ht)
    refine reads_reserved ?_
    simp only [readReserved, Brackets.split_intercalate separates_comma hne hopaque, bind,
      Except.bind, hterms]
    rfl

/-- A limit is read back, up to the greatest integer of 64 bits. -/
theorem reads_limit (h : ∀ n ∈ q.limit, (n : Int) ≤ Decimal.maxInt64) :
    Reads (q.limit.toList.map fun n ↦ (ReservedName.limit.text.toList, (toString n).toList)) d
      { d with query := { d.query with limit := q.limit.or d.query.limit } } := by
  cases hn : q.limit with
  | none => exact .nil d
  | some n =>
    have hfits : Decimal.fitsInt64 n = true := by
      have hmax := h n hn
      simp only [Decimal.fitsInt64, Bool.and_eq_true, decide_eq_true_eq]
      exact ⟨by simp only [Decimal.maxInt64]; omega, hmax⟩
    have hread : Decimal.readInt64? (trim (toString n).toList) = some (Int.ofNat n) := by
      have htext : (toString n).toList = (toString (n : Int)).toList := rfl
      rw [htext, Decimal.trim_toString, Decimal.readInt64?_toString hfits]
      rfl
    refine reads_reserved ?_
    rw [readReserved, hread]
    rfl

/-- An offset of 64 bits is read back, a negative one too. -/
theorem reads_offset (h : ∀ n ∈ q.offset, Decimal.fitsInt64 n = true) :
    Reads (q.offset.toList.map fun n ↦ (ReservedName.offset.text.toList, (toString n).toList)) d
      { d with query := { d.query with offset := q.offset.or d.query.offset } } := by
  cases hn : q.offset with
  | none => exact .nil d
  | some n =>
    refine reads_reserved ?_
    rw [readReserved, Decimal.trim_toString, Decimal.readInt64?_toString (h n hn)]
    rfl

/-- The keys of the groups are plain, so that commas alone keep them apart. -/
theorem reads_groupBy (h : ∀ c ∈ q.groupBy, isPlain c.toList = true) :
    Reads (listParam .groupBy (q.groupBy.map String.toList)) d
      { d with query := { d.query with groupBy := d.query.groupBy ++ q.groupBy } } := by
  rw [listParam]
  split
  next hempty =>
    rw [List.map_eq_nil_iff.mp hempty, List.append_nil]
    exact .nil d
  next hne =>
    have hpieces : pieces ',' ([','].intercalate (q.groupBy.map String.toList)) =
        q.groupBy.map String.toList :=
      pieces_intercalate hne
        (List.forall_mem_map.mpr fun c hc ↦ notMem_of_isPlain (h c hc) (by decide))
    have htrim : (q.groupBy.map String.toList).map trim = q.groupBy.map String.toList := by
      rw [List.map_map]
      exact List.map_congr_left fun c hc ↦ trim_of_isPlain (h c hc)
    have hfull : (q.groupBy.map String.toList).filter (fun w ↦ !w.isEmpty) =
        q.groupBy.map String.toList := by
      refine List.filter_eq_self.mpr (List.forall_mem_map.mpr fun c hc ↦ ?_)
      simpa using ne_nil_of_isPlain (h c hc)
    have hback : (q.groupBy.map String.toList).map String.ofList = q.groupBy := by
      simp [Function.comp_def]
    refine reads_reserved ?_
    simp only [readReserved, Query.addGroupBy, hpieces, htrim, hfull, hback]

theorem reads_count (d : Draft) (mode : CountMode) :
    Reads [(ReservedName.count.text.toList, mode.name.toList)] d
      { d with query := { d.query with count := mode } } := by
  have hname : CountMode.ofName? (trim mode.name.toList) = some mode := by cases mode <;> decide
  refine reads_reserved ?_
  rw [readReserved, hname]

end Draft

/-- The canonical text of a query is read as the query. -/
theorem Query.parse_canonicalText {q : Query} (h : q.Canonical) :
    Query.parse q.canonicalText = .ok q := by
  have hreads : Draft.Reads q.params {} ⟨q, (Filter.runGroups q.filters).length⟩ := by
    have hall := (Draft.reads_select h.select h.aggregations (d := {})).append
      ((Draft.reads_filters h.filters h.groups (by rfl)).append
      ((Draft.reads_order h.order).append
      ((Draft.reads_limit h.limit).append
      ((Draft.reads_offset h.offset).append
      ((Draft.reads_groupBy h.groupBy).append (Draft.reads_count _ q.count))))))
    simp only [LogicParam.addTo, List.nil_append, Option.or_none] at hall
    exact hall
  rw [parse, canonicalText, String.toList_ofList, formPairs_formText, hreads]
  rfl

/-- Two disjunctions around a condition, and values that hold every mark of the grammar. -/
def quotedSearch : Query where
  select := [⟨"*", none⟩, ⟨"data->>name", some "the name"⟩]
  filters := [⟨"name", .eq, .string "a\"b\\,(c]", none⟩,
    ⟨"id", .oneOf, .strings ["x,y", "", "\\\")"], some 1⟩, ⟨"gone at", .is, .null, some 1⟩,
    ⟨"seen", .is, .bool true, none⟩, ⟨"tags", .oneOf, .strings [], some 2⟩,
    ⟨"or", .ilike, .string "\\", some 2⟩]
  order := [⟨"age", true, some .last⟩, ⟨"id", false, none⟩]
  limit := some 10
  offset := some (-5)
  aggregations := [{ function := .countAll },
    { function := .sum, column := some "price", label := some "total" }]
  groupBy := ["city", "select"]
  count := .exact

theorem Query.parse_quotedSearch : quotedSearch.Canonical ∧
    (quotedSearch.params.map fun p ↦ (String.ofList p.1, String.ofList p.2)) =
      [("select", "*,the name:data->>name,count(*),total:sum(price)"),
        ("name.eq", "\"a\\\"b\\\\,(c]\""),
        ("or", "(id.in.(\"x,y\",\"\",\"\\\\\\\")\"),gone at.is.null)"),
        ("seen.is", "true"), ("or", "(tags.in.(),or.ilike.\"\\\\\")"),
        ("order", "age.desc.nullslast,id.asc"), ("limit", "10"), ("offset", "-5"),
        ("group_by", "city,select"), ("count", "exact")] ∧
    Query.parse quotedSearch.canonicalText = .ok quotedSearch := by
  have hcanonical : quotedSearch.Canonical := by decide +kernel
  exact ⟨hcanonical, by decide +kernel, parse_canonicalText hcanonical⟩

end RowGate
