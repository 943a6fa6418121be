import Mathlib.Tactic.SplitIfs
import RowGate.Proofs.Outcome
import RowGate.Proofs.Query.Brackets
import RowGate.Proofs.Query.LogicTree
import RowGate.Proofs.Text.Cut
import RowGate.Query.Reader

/-! # Reading logical trees

Main statement: a query text whose parameters are logical trees is read if and only if every leaf is
a condition and no conjunction stands below a disjunction, and then into the flat list of the trees.

A group is read item by item, so there is one lemma for what an item contributes and one for a list
of items; the fuel, which bounds the depth, is settled by induction.
-/

namespace RowGate

open Text

namespace LogicTree

/-! ## The text of a tree in a group -/

/-- The marks of a group are its brackets, the quote and the comma. -/
theorem plain_iff {c : Char} : c ∉ groupMarks ↔
    Brackets.opening? c = none ∧ Brackets.closing? c = none ∧ c ≠ '"' ∧ c ≠ ',' := by
  simp only [groupMarks, List.mem_cons, List.not_mem_nil, or_false, not_or]
  constructor
  · rintro ⟨h₁, h₂, h₃, h₄, h₅, h₆, h₇, h₈⟩
    refine ⟨?_, ?_, h₇, h₈⟩
    · rw [Brackets.opening?] <;> assumption
    · rw [Brackets.closing?] <;> assumption
  · rintro ⟨ho, hc, hq, hd⟩
    refine ⟨?_, ?_, ?_, ?_, ?_, ?_, hq, hd⟩ <;> rintro rfl <;>
      simp_all [Brackets.opening?, Brackets.closing?]

/-- The comma is no bracket, no quote and no backslash. -/
theorem separates_comma : Brackets.Separates ',' := ⟨rfl, rfl, by decide⟩

/-- A text without marks is not cut, and changes nothing for what follows it. -/
theorem opaque_of_all {s : List Char} (h : s.all (· ∉ groupMarks) = true) :
    Brackets.Opaque ',' s :=
  .of_forall fun c hc ↦ plain_iff.mp (of_decide_eq_true (List.all_eq_true.mp h c hc))

theorem opaque_keyword (conn : Connective) : Brackets.Opaque ',' conn.keyword.toList :=
  opaque_of_all (by cases conn <;> decide)

mutual

/-- A tree holds its commas in parentheses. -/
theorem opaque_text (t : LogicTree) : Brackets.Opaque ',' t.text := by
  match t with
  | leaf l => exact .of_forall fun c hc ↦ plain_iff.mp (l.plain c hc)
  | node conn first rest =>
    refine (opaque_keyword conn).append (.parens_intercalate separates_comma ?_)
    exact List.forall_mem_cons.mpr ⟨opaque_text first, opaque_texts rest⟩

theorem opaque_texts (ts : List LogicTree) : ∀ w ∈ texts ts, Brackets.Opaque ',' w := by
  match ts with
  | [] =>
    intro w hw
    cases hw
  | t :: ts => exact List.forall_mem_cons.mpr ⟨opaque_text t, opaque_texts ts⟩

end

/-- The items of a group are cut apart at its own commas and at none of theirs. -/
theorem split_texts (first : LogicTree) (rest : List LogicTree) :
    Brackets.split ',' ([','].intercalate (texts (first :: rest))) = .ok (texts (first :: rest)) :=
  Brackets.split_intercalate separates_comma (List.cons_ne_nil _ _) (opaque_texts _)

/-- A list in parentheses has no blanks around it. -/
theorem trim_listText (items : List (List Char)) : trim (listText items) = listText items :=
  trim_cons_append (by decide) (by decide) _

theorem enclosed?_listText (items : List (List Char)) :
    enclosed? '(' ')' (listText items) = some ([','].intercalate items) :=
  enclosed?_cons_append '(' ')' _

/-- A node begins with its keyword and ends with a parenthesis. -/
theorem trim_text_node (conn : Connective) (first : LogicTree) (rest : List LogicTree) :
    trim (node conn first rest).text = (node conn first rest).text := by
  apply trim_eq_self
  · intro c hc
    cases conn <;> cases hc <;> decide
  · intro c hc
    rw [text_node, listText, ← List.append_assoc, List.getLast?_append, Option.mem_def] at hc
    cases hc
    decide

/-- An item is shorter than its list by the two parentheses at least. -/
theorem length_le_of_mem {w : List Char} {ws : List (List Char)} (h : w ∈ ws) :
    w.length + 2 ≤ (listText ws).length := by
  have hle : w.length ≤ ([','].intercalate ws).length := (Brackets.infix_intercalate h).length_le
  simp only [listText, List.length_append, List.length_cons, List.length_nil]
  omega

/-! ## One item -/

/-- What an item of a group contributes, blanks around it left out. -/
def readItem (inner : GroupReader) (conn : Connective) (number : Option Nat)
    (whole item : List Char) (last : Nat) : Except ParseError Numbered :=
  if item = [] then .error ⟨String.ofList whole, .emptyFilter⟩
  else if (dropLead? "or(".toList item).isSome then inner .or number last (item.drop 2)
  else if (dropLead? "and(".toList item).isSome then
    if conn = .or then .error ⟨String.ofList item, .conjunctionInDisjunction⟩
    else inner .and none last (item.drop 3)
  else do
    let f ← Filter.ofCondition item
    pure ([{ f with group := number }], last)

/-- A list is read item by item, and the number of the last group is handed on. -/
theorem readItems_cons (inner : GroupReader) (conn : Connective) (number : Option Nat)
    (whole raw : List Char) (items : List (List Char)) (last : Nat) :
    readItems inner conn number whole (raw :: items) last =
      readItem inner conn number whole (trim raw) last >>= fun first ↦
        readItems inner conn number whole items first.2 >>= fun rest ↦
          pure (first.1 ++ rest.1, rest.2) := by
  simp only [readItems, readItem]
  split_ifs <;> simp only [bind_assoc]

/-- Where errors are left out, the items of a list follow one another. -/
theorem toOption_readItems_cons (inner : GroupReader) (conn : Connective) (number : Option Nat)
    (whole raw : List Char) (items : List (List Char)) (last : Nat) :
    (readItems inner conn number whole (raw :: items) last).toOption =
      followedBy (readItem inner conn number whole (trim raw) last).toOption
        fun n ↦ (readItems inner conn number whole items n).toOption := by
  rw [readItems_cons, toOption_bind, followedBy]
  congr 1
  funext first
  rw [toOption_bind]
  cases readItems inner conn number whole items first.2 <;> rfl

/-- A lead that needs a character is not there if the text does not have it. -/
theorem dropLead?_eq_none {lead s : List Char} {c : Char} (hc : c ∈ lead) (hs : c ∉ s) :
    dropLead? lead s = none := by
  induction lead generalizing s with
  | nil => cases hc
  | cons e lead ih =>
    cases s with
    | nil => rfl
    | cons f s =>
      rw [List.mem_cons, not_or] at hs
      rw [dropLead?]
      split
      · next hef =>
        rcases List.mem_cons.mp hc with rfl | hc
        · exact absurd hef hs.1
        · exact ih hc hs.2
      · rfl

/-- A lead that is not there is not there either if a text follows that begins with a character it
does not have. -/
theorem dropLead?_append_of_notMem {lead s : List Char} {d : Char} (hs : dropLead? lead s = none)
    (hd : d ∉ lead) (t : List Char) : dropLead? lead (s ++ d :: t) = none := by
  induction lead generalizing s with
  | nil => cases hs
  | cons e lead ih =>
    rw [List.mem_cons, not_or] at hd
    cases s with
    | nil => rw [List.nil_append, dropLead?, if_neg (Ne.symm hd.1)]
    | cons f s =>
      rw [dropLead?] at hs
      rw [List.cons_append, dropLead?]
      split at hs
      · next hef => rw [if_pos hef, ih hs hd.2]
      · next hef => rw [if_neg hef]

/-- A lead that needs a character is not there if a character it does not have comes before. -/
theorem dropLead?_append_eq_none {lead s : List Char} {c d : Char} (hc : c ∈ lead) (hs : c ∉ s)
    (hd : d ∉ lead) (t : List Char) : dropLead? lead (s ++ d :: t) = none :=
  dropLead?_append_of_notMem (dropLead?_eq_none hc hs) hd t

theorem paren_notMem_trim (l : ConditionText) : '(' ∉ trim l.text := by
  intro h
  obtain ⟨a, b, -, -, hl⟩ := exists_append_trim l.text
  have hmem : '(' ∈ l.text := by
    rw [hl]
    exact List.mem_append_left _ (List.mem_append_right _ h)
  exact absurd (show '(' ∈ groupMarks by decide) (l.plain _ hmem)

/-- A leaf holds no parenthesis, so it is read as a condition. -/
theorem toOption_readItem_leaf (inner : GroupReader) (conn : Connective) (number : Option Nat)
    (whole : List Char) (last : Nat) (l : ConditionText) :
    (readItem inner conn number whole (trim l.text) last).toOption =
      (leaf l).flatten number last := by
  have hor : dropLead? "or(".toList (trim l.text) = none :=
    dropLead?_eq_none (by decide) (paren_notMem_trim l)
  have hand : dropLead? "and(".toList (trim l.text) = none :=
    dropLead?_eq_none (by decide) (paren_notMem_trim l)
  rw [flatten, ConditionText.filter?, readItem]
  by_cases hempty : trim l.text = []
  · rw [if_pos hempty, hempty]
    rfl
  · rw [if_neg hempty, hor, hand]
    simp only [Option.isSome_none, Bool.false_eq_true, if_false]
    cases Filter.ofCondition (trim l.text) <;> rfl

/-- A disjunction within a group keeps the number that the group has. -/
theorem readItem_or (inner : GroupReader) (conn : Connective) (number : Option Nat)
    (whole : List Char) (last : Nat) (first : LogicTree) (rest : List LogicTree) :
    readItem inner conn number whole (node .or first rest).text last =
      inner .or number last (listText (texts (first :: rest))) := rfl

/-- A conjunction is refused in a disjunction, and has no number outside of one. -/
theorem readItem_and (inner : GroupReader) (conn : Connective) (number : Option Nat)
    (whole : List Char) (last : Nat) (first : LogicTree) (rest : List LogicTree) :
    readItem inner conn number whole (node .and first rest).text last =
      if conn = .or then
        .error ⟨String.ofList (node .and first rest).text, .conjunctionInDisjunction⟩
      else inner .and none last (listText (texts (first :: rest))) := rfl

/-! ## A list of items, and all depths -/

/-- The reader turns every node that is written in `size` characters at most into its flat form. -/
def ReadsUpTo (inner : GroupReader) (size : Nat) : Prop :=
  ∀ conn first rest enclosing last, (listText (texts (first :: rest))).length ≤ size →
    (conn = .and → enclosing = none) →
    (inner conn enclosing last (listText (texts (first :: rest)))).toOption =
      (node conn first rest).flatten enclosing last

/-- An item contributes the flat form of its tree. -/
theorem toOption_readItem {inner : GroupReader} {size : Nat} (hinner : ReadsUpTo inner size)
    (conn : Connective) (number : Option Nat) (hconn : conn = .or ↔ number.isSome)
    (whole : List Char) (last : Nat) (t : LogicTree) (ht : t.text.length ≤ size) :
    (readItem inner conn number whole (trim t.text) last).toOption = t.flatten number last := by
  match t with
  | leaf l => exact toOption_readItem_leaf inner conn number whole last l
  | node .or first rest =>
    rw [text_node, List.length_append] at ht
    rw [trim_text_node, readItem_or]
    exact hinner .or first rest number last (by omega) (fun h ↦ by cases h)
  | node .and first rest =>
    rw [text_node, List.length_append] at ht
    rw [trim_text_node, readItem_and]
    cases number with
    | none =>
      have hand : conn ≠ .or := fun h ↦ by
        rw [hconn] at h
        cases h
      rw [if_neg hand]
      exact hinner .and first rest none last (by omega) (fun _ ↦ rfl)
    | some g =>
      rw [if_pos (hconn.mpr rfl)]
      rfl

/-- A list of items contributes the flat form of the list. -/
theorem toOption_readItems {inner : GroupReader} {size : Nat} (hinner : ReadsUpTo inner size)
    (conn : Connective) (number : Option Nat) (hconn : conn = .or ↔ number.isSome)
    (whole : List Char) (ts : List LogicTree) (hts : ∀ w ∈ texts ts, w.length ≤ size) (last : Nat) :
    (readItems inner conn number whole (texts ts) last).toOption = flattenAll ts number last := by
  induction ts generalizing last with
  | nil => rfl
  | cons t ts ih =>
    obtain ⟨ht, hrest⟩ := List.forall_mem_cons.mp hts
    rw [texts, toOption_readItems_cons, toOption_readItem hinner conn number hconn whole last t ht,
      flattenAll]
    congr 1
    funext n
    exact ih hrest n

/-- A list of nothing but blanks holds no condition. -/
theorem flattenAll_eq_none_of_blank {first : LogicTree} {rest : List LogicTree}
    (h : (texts (first :: rest)).all isBlankText = true) (number : Option Nat) (last : Nat) :
    flattenAll (first :: rest) number last = none := by
  have hfirst : trim first.text = [] := by
    rw [texts, List.all_cons, Bool.and_eq_true] at h
    exact isBlankText_iff.mp h.1
  have hnone : first.flatten number last = none := by
    cases first with
    | leaf l =>
      have hl : l.filter? = none := by
        rw [ConditionText.filter?, show trim l.text = [] from hfirst]
        rfl
      rw [flatten, hl, Option.map_none]
    | node conn first rest =>
      rw [trim_text_node, text_node, listText] at hfirst
      simp at hfirst
  rw [flattenAll, hnone]
  rfl

/-- One level of nesting costs one unit of fuel, and two characters at least. -/
theorem readsUpTo_readGroupWithin (fuel : Nat) : ReadsUpTo (readGroupWithin fuel) fuel := by
  induction fuel with
  | zero =>
    intro conn first rest enclosing last hsize
    simp [listText] at hsize
  | succ fuel ih =>
    intro conn first rest enclosing last hsize henclosing
    have hitems : ∀ w ∈ texts (first :: rest), w.length ≤ fuel := by
      intro w hw
      have := length_le_of_mem hw
      omega
    simp only [readGroupWithin, trim_listText, enclosed?_listText, split_texts]
    rw [toOption_bind]
    simp only [Except.toOption, Option.bind_some]
    by_cases hblank : (texts (first :: rest)).all isBlankText = true
    · rw [if_pos hblank]
      cases conn with
      | and =>
        rw [henclosing rfl, flatten_and, flattenAll_eq_none_of_blank hblank]
      | or => rw [flatten_or, flattenAll_eq_none_of_blank hblank]
    · rw [if_neg hblank]
      cases conn with
      | and =>
        rw [henclosing rfl, flatten_and]
        exact toOption_readItems ih .and none (by simp) _ _ hitems last
      | or =>
        rw [flatten_or]
        cases enclosing with
        | some g => exact toOption_readItems ih .or (some g) (by simp) _ _ hitems last
        | none => exact toOption_readItems ih .or (some (last + 1)) (by simp) _ _ hitems (last + 1)

/-- The fuel that a group is read with is enough for all of its depths. -/
theorem toOption_readGroup (conn : Connective) (first : LogicTree) (rest : List LogicTree)
    (last : Nat) : (readGroup conn last (listText (texts (first :: rest)))).toOption =
      (node conn first rest).flatten none last :=
  readsUpTo_readGroupWithin _ conn first rest none last (Nat.le_succ _) fun _ ↦ rfl

/-- The leaves of a list of trees are those of its trees. -/
theorem allLeaves_eq_flatMap (ts : List LogicTree) : allLeaves ts = ts.flatMap leaves := by
  induction ts with
  | nil => rfl
  | cons t ts ih => rw [allLeaves, ih, List.flatMap_cons]

theorem allNoAndBelowOr_eq_all (ts : List LogicTree) (below : Bool) :
    allNoAndBelowOr ts below = ts.all fun t ↦ t.noAndBelowOr below := by
  induction ts with
  | nil => rfl
  | cons t ts ih => rw [allNoAndBelowOr, ih, List.all_cons]

end LogicTree

/-! ## Parameters -/

/-- A logical tree with a connective at its root, as a parameter of a query text. -/
structure LogicParam where
  conn : Connective
  first : LogicTree
  rest : List LogicTree

namespace LogicParam

open LogicTree

def tree (p : LogicParam) : LogicTree := .node p.conn p.first p.rest

/-- The name and the value of the parameter. -/
def pair (p : LogicParam) : List Char × List Char :=
  (p.conn.keyword.toList, listText (texts (p.first :: p.rest)))

/-- The names `and` and `or` are reserved for groups. -/
theorem ofText?_keyword (conn : Connective) : ReservedName.ofText? conn.keyword.toList =
    some (match conn with | .and => .and | .or => .or) := by
  cases conn <;> decide

/-- What reading the filters `r` behind a draft makes of it. -/
def addTo (d : Draft) (r : Numbered) : Draft :=
  ⟨{ d.query with filters := d.query.filters ++ r.1 }, r.2⟩

/-- A parameter adds the filters of its tree, numbered behind the last group. -/
theorem toOption_read (d : Draft) (p : LogicParam) :
    (d.read p.pair).toOption = (p.tree.flatten none d.lastGroup).map (addTo d) := by
  obtain ⟨conn, first, rest⟩ := p
  have hgroup := toOption_readGroup conn first rest d.lastGroup
  have hread : d.read (pair ⟨conn, first, rest⟩) =
      readGroup conn d.lastGroup (listText (texts (first :: rest))) >>= fun r ↦
        pure (addTo d r) := by
    rw [Draft.read, pair, ofText?_keyword]
    cases conn <;> rfl
  rw [hread, toOption_bind, hgroup, Option.map_eq_bind]
  rfl

/-- The trees of all parameters are read as one list. -/
theorem toOption_foldlM_read (ps : List LogicParam) (d : Draft) :
    ((ps.map pair).foldlM Draft.read d).toOption =
      (flattenAll (ps.map tree) none d.lastGroup).map (addTo d) := by
  induction ps generalizing d with
  | nil =>
    have hd : addTo d ([], d.lastGroup) = d := by simp [addTo]
    simp only [List.map_nil, List.foldlM_nil, flattenAll, Option.map_some, hd]
    rfl
  | cons p ps ih =>
    rw [List.map_cons, List.foldlM_cons, toOption_bind, toOption_read, List.map_cons, flattenAll,
      followedBy]
    cases p.tree.flatten none d.lastGroup with
    | none => rfl
    | some a =>
      simp only [Option.map_some, Option.bind_some, ih, addTo, Option.map_map]
      congr 1
      funext b
      simp [addTo, List.append_assoc]

end LogicParam

open LogicTree LogicParam

/-- A text of logical trees is read into their flat list, or is refused with it. -/
theorem toOption_parse {ps : List LogicParam} {text : String}
    (h : formPairs text.toList = ps.map pair) :
    (Query.parse text).toOption =
      (flattenAll (ps.map tree) none 0).map fun r ↦ { filters := r.1 } := by
  have hfold := toOption_foldlM_read ps {}
  rw [Query.parse, h, toOption_bind, hfold, Option.bind_map]
  simp [addTo, Function.comp_def, Except.toOption, pure, Except.pure, Option.map_eq_bind]

/-- A query text of logical trees is read if and only if every leaf is a condition and no
conjunction has a disjunction above it. It is then read into one filter for each leaf, in their
order, and whichever conditions hold, the filters without a group and one filter of each group hold
if and only if all trees do. -/
theorem parse_logicParams {ps : List LogicParam} {text : String}
    (h : formPairs text.toList = ps.map pair) :
    ((∃ q, Query.parse text = .ok q) ↔ ∀ p ∈ ps, p.tree.noAndBelowOr false = true ∧
      ∀ l ∈ p.tree.leaves, ∃ f, Filter.ofCondition l.text = .ok f) ∧
    ∀ q, Query.parse text = .ok q →
      List.Forall₂ IsFilterOf (ps.flatMap fun p ↦ p.tree.leaves) q.filters ∧
      ∀ truth, FlatHolds truth q.filters.zipIdx ↔ allHold truth (ps.map tree) 0 = true := by
  have hparse := toOption_parse h
  constructor
  · have hok : (∃ q, Query.parse text = .ok q) ↔ (Query.parse text).toOption.isSome = true := by
      cases Query.parse text <;> simp [Except.toOption]
    have hleaf (l : ConditionText) :
        l.accepted = true ↔ ∃ f, Filter.ofCondition l.text = .ok f := by
      rw [ConditionText.accepted]
      cases Filter.ofCondition l.text <;> simp [Except.isOk, Except.toBool]
    rw [hok, hparse, Option.isSome_map, isSome_flattenAll, allLeaves_eq_flatMap,
      allNoAndBelowOr_eq_all]
    -- What is asked of all leaves and of all trees is asked of each parameter.
    simp only [Bool.and_eq_true, List.all_eq_true, List.mem_flatMap, List.mem_map, hleaf,
      Option.isSome_none]
    constructor
    · rintro ⟨hleaves, hands⟩ p hp
      exact ⟨hands _ ⟨p, hp, rfl⟩, fun l hl ↦ hleaves l ⟨p.tree, ⟨p, hp, rfl⟩, hl⟩⟩
    · intro hall
      refine ⟨?_, ?_⟩
      · rintro l ⟨-, ⟨p, hp, rfl⟩, hl⟩
        exact (hall p hp).2 l hl
      · rintro - ⟨p, hp, rfl⟩
        exact (hall p hp).1
  · intro q hq
    rw [hq] at hparse
    obtain ⟨r, hr, hfilters⟩ := Option.map_eq_some_iff.mp hparse.symm
    have hq : q.filters = r.1 := by rw [← hfilters]
    have hleaves := forall₂_flattenAll _ hr
    rw [allLeaves_eq_flatMap, List.flatMap_map] at hleaves
    rw [hq]
    exact ⟨hleaves, fun truth ↦ flatHolds_flattenAll_iff _ 0 hr⟩

/-- Two parameters with disjunctions in a disjunction and in a conjunction. -/
def nestedParams : List LogicParam :=
  [⟨.or, .leaf (.ofString "a.eq.1" (by decide)),
      [.node .or (.leaf (.ofString "b.gt.2" (by decide)))
        [.leaf (.ofString " c.is.null" (by decide))]]⟩,
    ⟨.and, .node .or (.leaf (.ofString "d.eq.x" (by decide)))
        [.leaf (.ofString "e.lt.3" (by decide))],
      [.leaf (.ofString "f.like.%" (by decide))]⟩]

def nestedText : String := "or=(a.eq.1,or(b.gt.2,+c.is.null))&and=%28or(d.eq.x,e.lt.3),f.like.%)"

theorem parse_nestedText :
    ∃ q, Query.parse nestedText = .ok q ∧
      q.filters.map (·.group) = [some 1, some 1, some 1, some 2, some 2, none] ∧
      ∀ truth, FlatHolds truth q.filters.zipIdx ↔
        ((truth 0 || truth 1 || truth 2) && (truth 3 || truth 4) && truth 5) = true := by
  have htext : formPairs nestedText.toList = nestedParams.map pair := by decide
  have hgroups : (Query.parse nestedText).toOption.map (fun q ↦ q.filters.map (·.group)) =
      some [some 1, some 1, some 1, some 2, some 2, none] := by decide
  obtain ⟨q, hq, hfilters⟩ := Option.map_eq_some_iff.mp hgroups
  have hok : Query.parse nestedText = .ok q := by
    revert hq
    cases Query.parse nestedText <;> simp [Except.toOption]
  refine ⟨q, hok, hfilters, fun truth ↦ ?_⟩
  rw [((parse_logicParams htext).2 q hok).2 truth]
  simp [nestedParams, tree, allHold, anyHolds, holds, leaves, allLeaves, or_assoc, and_assoc]

end RowGate
