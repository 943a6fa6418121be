import Mathlib.Data.List.MinMax
import Mathlib.Order.Nat
import RowGate.Proofs.Query.WellTyped
import RowGate.Proofs.Text.FormData

/-! # Query texts side by side

Two query texts with an ampersand between them are read as the one and then the other: lists are
joined, single values are those of the second where it gives them, and the groups of the second are
numbered on behind those of the first.

Every step of the reader is the same step from an empty draft, put behind the draft that it starts
from. The reader's count of groups is the largest number that a filter carries, because every group
that is opened holds a filter.
-/

namespace RowGate

open Text

/-! ## Higher numbers -/

/-- The filter with its group, if it has one, numbered `n` higher. -/
def Filter.shift (n : Nat) (f : Filter) : Filter := { f with group := f.group.map (n + ·) }

/-- A filter without a group keeps its place. -/
theorem Filter.shift_of_none {f : Filter} (h : f.group = none) (n : Nat) : f.shift n = f := by
  rw [shift, h, Option.map_none, ← h]

theorem Filter.shift_shift (m n : Nat) (f : Filter) : (f.shift n).shift m = f.shift (m + n) := by
  simp [shift, Function.comp_def, Nat.add_assoc]

/-- Filters numbered `n` higher, and the last number in use with them. -/
def Numbered.shift (n : Nat) (r : Numbered) : Numbered := (r.1.map (Filter.shift n), n + r.2)

/-- A reader of groups that numbers on from wherever it starts. -/
def GroupReader.Uniform (inner : GroupReader) : Prop :=
  ∀ n conn number last body, inner conn (number.map (n + ·)) (n + last) body =
    (inner conn number last body).map (Numbered.shift n)

namespace LogicTree

variable {inner : GroupReader}

/-- An item that is read behind `n` more groups is the same item, with higher numbers. -/
theorem readItem_shift (hinner : inner.Uniform) (n : Nat) (conn : Connective)
    (number : Option Nat) (whole item : List Char) (last : Nat) :
    readItem inner conn (number.map (n + ·)) whole item (n + last) =
      (readItem inner conn number whole item last).map (Numbered.shift n) := by
  rw [readItem, readItem]
  split_ifs
  · rfl
  · exact hinner n .or number last _
  · rfl
  · exact hinner n .and none last _
  · cases Filter.ofCondition item <;> rfl

/-- A list that is read behind `n` more groups is the same list, with higher numbers. -/
theorem readItems_shift (hinner : inner.Uniform) (n : Nat) (conn : Connective)
    (number : Option Nat) (whole : List Char) (items : List (List Char)) (last : Nat) :
    readItems inner conn (number.map (n + ·)) whole items (n + last) =
      (readItems inner conn number whole items last).map (Numbered.shift n) := by
  induction items generalizing last with
  | nil => rfl
  | cons raw items ih =>
    rw [readItems_cons, readItems_cons, readItem_shift hinner, map_bind_eq]
    refine bind_eq_map_bind fun first _ ↦ ?_
    rw [Numbered.shift, ih first.2, map_bind_eq]
    refine bind_eq_map_bind fun rest _ ↦ congrArg Except.ok ?_
    simp [Numbered.shift]

/-- Groups number on from wherever they start, at every depth. -/
theorem uniform_readGroupWithin (fuel : Nat) : GroupReader.Uniform (readGroupWithin fuel) := by
  induction fuel with
  | zero => exact fun _ _ _ _ _ ↦ rfl
  | succ fuel ih =>
    intro n conn number last body
    rw [readGroupWithin, readGroupWithin]
    cases enclosed? '(' ')' (trim body) with
    | none => rfl
    | some inner =>
      refine bind_eq_map_bind fun items _ ↦ ?_
      split
      · rfl
      · cases conn with
        | and => exact readItems_shift ih n .and none _ items last
        | or =>
          cases number with
          | some g => exact readItems_shift ih n .or (some g) _ items last
          | none => exact readItems_shift ih n .or (some (last + 1)) _ items (last + 1)

/-- The numbers in use before a group are added to its own. -/
theorem readGroup_eq_map (conn : Connective) (last : Nat) (body : List Char) :
    readGroup conn last body = (readGroup conn 0 body).map (Numbered.shift last) :=
  uniform_readGroupWithin _ last conn none 0 body

end LogicTree

/-! ## Numbers and groups -/

/-- What a group that is read behind the number `last` comes to: the filters of the disjunction
`number`, if it is part of one, or else of those that it opened, each of which holds a filter. -/
structure Numbered.Carried (number : Option Nat) (last : Nat) (r : Numbered) : Prop where
  grows : last ≤ r.2
  below : ∀ f ∈ r.1, ∀ g, f.group = some g → g ≤ r.2
  held : last < r.2 → ∃ f ∈ r.1, f.group = some r.2
  same : ∀ g, number = some g → ∀ f ∈ r.1, f.group = some g

namespace Numbered.Carried

variable {number : Option Nat} {last : Nat} {a b : Numbered}

theorem nil (number : Option Nat) (last : Nat) : Carried number last ([], last) where
  grows := Nat.le_refl last
  below := fun _ hf ↦ nomatch hf
  held := fun h ↦ absurd h (Nat.lt_irrefl last)
  same := fun _ _ _ hf ↦ nomatch hf

/-- A list goes on with the numbers that its beginning has taken. -/
theorem append (ha : Carried number last a) (hb : Carried number a.2 b) :
    Carried number last (a.1 ++ b.1, b.2) where
  grows := Nat.le_trans ha.grows hb.grows
  below f hf g hg := by
    rcases List.mem_append.mp hf with hf | hf
    · exact Nat.le_trans (ha.below f hf g hg) hb.grows
    · exact hb.below f hf g hg
  held h := by
    rcases Nat.lt_or_eq_of_le hb.grows with hnew | hold
    · obtain ⟨f, hf, hg⟩ := hb.held hnew
      exact ⟨f, List.mem_append_right _ hf, hg⟩
    · have hlast : b.2 = a.2 := hold.symm
      obtain ⟨f, hf, hg⟩ := ha.held (hlast ▸ h)
      exact ⟨f, List.mem_append_left _ hf, hlast ▸ hg⟩
  same g hg f hf := by
    rcases List.mem_append.mp hf with hf | hf
    · exact ha.same g hg f hf
    · exact hb.same g hg f hf

/-- A disjunction that opens a group of its own. -/
theorem opened {r : Numbered} (h : Carried (some (last + 1)) (last + 1) r) (hne : r.1 ≠ []) :
    Carried none last r where
  grows := Nat.le_of_succ_le h.grows
  below := h.below
  held _ := by
    obtain ⟨f, hf⟩ := List.exists_mem_of_ne_nil r.1 hne
    have hgroup : f.group = some (last + 1) := h.same _ rfl f hf
    rcases Nat.lt_or_eq_of_le h.grows with hmore | hsame
    · obtain ⟨f', hf', hlast⟩ := h.held hmore
      have hgroup' : f'.group = some (last + 1) := h.same _ rfl f' hf'
      rw [hgroup'] at hlast
      exact ⟨f, hf, hlast ▸ hgroup⟩
    · exact ⟨f, hf, hsame ▸ hgroup⟩
  same := fun _ h ↦ nomatch h

end Numbered.Carried

/-- A reader of groups that reads at least one filter for each number it takes. -/
def GroupReader.Carries (inner : GroupReader) : Prop :=
  ∀ conn number last body r, (conn = .and → number = none) → (∀ g, number = some g → g ≤ last) →
    inner conn number last body = .ok r → r.1 ≠ [] ∧ r.Carried number last

namespace LogicTree

variable {inner : GroupReader} {conn : Connective} {number : Option Nat} {last : Nat}
  {whole item : List Char} {r : Numbered}

/-- An item holds a filter, and takes no number that none of its filters carries. -/
theorem carried_readItem (hinner : inner.Carries) (hconn : conn = .and ↔ number = none)
    (hnumber : ∀ g, number = some g → g ≤ last)
    (h : readItem inner conn number whole item last = .ok r) :
    r.1 ≠ [] ∧ r.Carried number last := by
  rw [readItem] at h
  split_ifs at h with _ _ _ hor
  · exact hinner .or number last _ r (by simp) hnumber h
  · have hand : conn = .and := by
      cases conn with
      | and => rfl
      | or => exact absurd rfl hor
    rw [hconn.mp hand]
    exact hinner .and none last _ r (fun _ ↦ rfl) (by simp) h
  · obtain ⟨f, -, hr⟩ := bind_eq_ok_iff.mp h
    cases hr
    refine ⟨List.cons_ne_nil _ _, Nat.le_refl last, ?_, fun h ↦ absurd h (Nat.lt_irrefl last), ?_⟩
    · intro g hg k hk
      rw [List.mem_singleton.mp hg] at hk
      exact hnumber k hk
    · intro k hk g hg
      rw [List.mem_singleton.mp hg]
      exact hk

/-- A list takes no number that none of its filters carries. -/
theorem carried_readItems (hinner : inner.Carries) (hconn : conn = .and ↔ number = none)
    (hnumber : ∀ g, number = some g → g ≤ last) {items : List (List Char)}
    (h : readItems inner conn number whole items last = .ok r) :
    (items ≠ [] → r.1 ≠ []) ∧ r.Carried number last := by
  induction items generalizing last r with
  | nil =>
    cases h
    exact ⟨fun hne ↦ absurd rfl hne, .nil number last⟩
  | cons raw items ih =>
    rw [readItems_cons] at h
    obtain ⟨first, hfirst, h⟩ := bind_eq_ok_iff.mp h
    obtain ⟨rest, hrest, hr⟩ := bind_eq_ok_iff.mp h
    cases hr
    obtain ⟨hne, hfirst⟩ := carried_readItem hinner hconn hnumber hfirst
    obtain ⟨-, hrest⟩ := ih (fun g hg ↦ Nat.le_trans (hnumber g hg) hfirst.grows) hrest
    exact ⟨fun _ ↦ List.append_ne_nil_of_left_ne_nil hne _, hfirst.append hrest⟩

/-- At every depth a group that takes a number reads a filter that carries it. -/
theorem carries_readGroupWithin (fuel : Nat) : GroupReader.Carries (readGroupWithin fuel) := by
  induction fuel with
  | zero =>
    intro conn number last body r _ _ h
    cases h
  | succ fuel ih =>
    intro conn number last body r hconn hnumber h
    rw [readGroupWithin] at h
    cases hinner : enclosed? '(' ')' (trim body) with
    | none =>
      rw [hinner] at h
      cases h
    | some inner =>
      rw [hinner] at h
      obtain ⟨items, hitems, h⟩ := bind_eq_ok_iff.mp h
      have hne : items ≠ [] := by
        rintro rfl
        rw [Brackets.split] at hitems
        split at hitems <;> cases hitems
      split at h
      · cases h
      · cases conn with
        | and =>
          rw [hconn rfl]
          obtain ⟨hfilled, hr⟩ := carried_readItems ih (by simp) (by simp) h
          exact ⟨hfilled hne, hr⟩
        -- A disjunction passes the number that it has, or else one that it takes for itself.
        | or =>
          cases number with
          | some g =>
            obtain ⟨hfilled, hr⟩ := carried_readItems ih (by simp) hnumber h
            exact ⟨hfilled hne, hr⟩
          | none =>
            obtain ⟨hfilled, hr⟩ := carried_readItems ih (by simp)
              (fun g hg ↦ Nat.le_of_eq (Option.some.inj hg).symm) h
            exact ⟨hfilled hne, hr.opened (hfilled hne)⟩

end LogicTree

/-! ## Queries behind queries -/

namespace Query

/-- The group numbers that the filters carry. -/
def groups (q : Query) : List Nat := q.filters.filterMap (·.group)

/-- The largest group number; zero without groups. -/
def lastGroup (q : Query) : Nat := q.groups.foldr max 0

/-- A query with another one behind it, whose groups are numbered `n` higher. Single values are
those of the second where it gives them; `counted` says whether it gives a way to count. -/
def join (n : Nat) (counted : Bool) (q r : Query) : Query where
  select := q.select ++ r.select
  filters := q.filters ++ r.filters.map (Filter.shift n)
  order := q.order ++ r.order
  limit := r.limit.or q.limit
  offset := r.offset.or q.offset
  aggregations := q.aggregations ++ r.aggregations
  groupBy := q.groupBy ++ r.groupBy
  count := if counted then r.count else q.count

/-- Whether a query text has a parameter for the way to count. -/
def countsRows (text : String) : Bool :=
  (formPairs text.toList).any fun p ↦ ReservedName.ofText? p.1 = some .count

/-- A query with nothing behind it stays as it is. -/
theorem join_empty (n : Nat) (q : Query) : q.join n false {} = q := by
  simp [join]

/-- Queries may be put behind one another from either end. -/
theorem join_assoc (m n : Nat) (c d : Bool) (q r s : Query) :
    (q.join m c r).join (m + n) d s = q.join m (c || d) (r.join n d s) := by
  cases d <;> simp [join, Filter.shift_shift, Function.comp_def, Option.or_assoc]

/-- Without filters there is nothing to be numbered. -/
theorem join_eq_of_filters (m n : Nat) (c : Bool) (q : Query) {r : Query} (h : r.filters = []) :
    q.join m c r = q.join n c r := by
  simp [join, h]

theorem foldr_max_append (as bs : List Nat) :
    (as ++ bs).foldr max 0 = max (as.foldr max 0) (bs.foldr max 0) := by
  induction as with
  | nil => simp
  | cons a as ih => simp [ih, Nat.max_assoc]

/-- The largest of some higher numbers is the largest of the numbers, as much higher. -/
theorem max_foldr_map_add (n : Nat) (as : List Nat) :
    max n ((as.map (n + ·)).foldr max 0) = n + as.foldr max 0 := by
  induction as with
  | nil => simp
  | cons a as ih =>
    simp only [List.map_cons, List.foldr_cons]
    omega

/-- The largest number of a query that is numbered on. -/
theorem lastGroup_join (c : Bool) (q r : Query) :
    (q.join q.lastGroup c r).lastGroup = q.lastGroup + r.lastGroup := by
  have hshift (n : Nat) : (r.filters.map (Filter.shift n)).filterMap (·.group) =
      r.groups.map (n + ·) := by
    rw [groups, List.filterMap_map, List.map_filterMap]
    rfl
  rw [lastGroup, groups, join, List.filterMap_append, hshift, foldr_max_append]
  exact max_foldr_map_add q.lastGroup r.groups

end Query

/-- A draft with another one behind it, which was read from nothing. -/
def Draft.join (counted : Bool) (d e : Draft) : Draft :=
  ⟨d.query.join d.lastGroup counted e.query, d.lastGroup + e.lastGroup⟩

/-! ## Steps of the reader -/

/-- An item is added to a query as it is to an empty one. -/
theorem Query.addSelectItem_eq_map (q : Query) (raw : List Char) :
    q.addSelectItem raw = (addSelectItem {} raw).map (q.join 0 false) := by
  simp only [addSelectItem]
  split_ifs
  · rfl
  · rfl
  · cases readAggregate (splitAlias (trim raw)).2 with
    | error _ => rfl
    | ok a => cases a <;> simp [join, Except.map]

/-- A select item adds no filters. -/
theorem Query.filters_addSelectItem {q r : Query} {raw : List Char}
    (h : q.addSelectItem raw = .ok r) : r.filters = q.filters := by
  simp only [addSelectItem] at h
  split_ifs at h
  split at h <;> cases h <;> rfl

/-- Select items add no filters. -/
theorem Query.filters_foldlM_addSelectItem {items : List (List Char)} {r : Query}
    (h : items.foldlM addSelectItem {} = .ok r) : r.filters = [] :=
  foldlM_preserves (P := fun q : Query ↦ q.filters = [])
    (fun _ _ _ hq h ↦ (filters_addSelectItem h).trans hq) rfl h

/-- The items of a list are added to a query as they are to an empty one. -/
theorem Query.foldlM_addSelectItem (n : Nat) (q : Query) (items : List (List Char)) :
    items.foldlM addSelectItem q = (items.foldlM addSelectItem {}).map (q.join n false) := by
  have hflag : items.any (fun _ ↦ false) = false := by simp
  rw [foldlM_eq_map (g := fun _ ↦ false) (k := join 0) addSelectItem_eq_map (join_empty 0)
    (fun q r s c d ↦ join_assoc 0 0 c d q r s), hflag]
  cases h : items.foldlM addSelectItem {} with
  | error _ => rfl
  | ok r =>
    exact congrArg Except.ok (join_eq_of_filters 0 n false q (filters_foldlM_addSelectItem h))

namespace Draft

/-- A reserved parameter is read behind a draft as it is read from nothing. -/
theorem readReserved_eq_map (d : Draft) (value : List Char) (name : ReservedName) :
    d.readReserved value name = (readReserved {} value name).map (d.join (name = .count)) := by
  cases name with
  | select =>
    simp only [readReserved]
    split
    · simp [Except.map, join, Query.join_empty]
    · refine bind_eq_map_bind fun items _ ↦ ?_
      rw [Query.foldlM_addSelectItem d.lastGroup, map_bind_eq]
      exact bind_eq_map_bind fun q _ ↦ rfl
  | order =>
    simp only [readReserved]
    refine bind_eq_map_bind fun items _ ↦ ?_
    refine bind_eq_map_bind fun terms _ ↦ congrArg Except.ok ?_
    simp [join, Query.join]
  | limit =>
    simp only [readReserved]
    split <;> simp [Except.map, join, Query.join]
  | offset =>
    simp only [readReserved]
    split <;> simp [Except.map, join, Query.join]
  | groupBy => simp [readReserved, Query.addGroupBy, Except.map, join, Query.join]
  | count =>
    simp only [readReserved]
    split <;> simp [Except.map, join, Query.join]
  | and | or =>
    simp only [readReserved]
    rw [LogicTree.readGroup_eq_map, map_bind_eq]
    refine bind_eq_map_bind fun r _ ↦ congrArg Except.ok ?_
    simp [Numbered.shift, join, Query.join]

/-- Whether a parameter asks for a way to count. -/
def counts (param : List Char × List Char) : Bool := ReservedName.ofText? param.1 = some .count

/-- Any parameter is read behind a draft as it is read from nothing. -/
theorem read_eq_map (d : Draft) (param : List Char × List Char) :
    d.read param = (read {} param).map (d.join (counts param)) := by
  rw [read, read, counts]
  cases ReservedName.ofText? param.1 with
  | some name => simpa using readReserved_eq_map d param.2 name
  | none =>
    refine bind_eq_map_bind fun f hf ↦ congrArg Except.ok ?_
    have hshift : f.shift d.lastGroup = f := Filter.shift_of_none (Filter.ofParam_group hf) _
    simp [join, Query.join, hshift]

/-- A list of parameters read behind a draft is the same list read from nothing and put there. -/
theorem foldlM_read (ps : List (List Char × List Char)) (d : Draft) :
    ps.foldlM read d = (ps.foldlM read {}).map (d.join (ps.any counts)) := by
  refine foldlM_eq_map read_eq_map (fun d ↦ ?_) (fun d x y c e ↦ ?_) ps d
  · simp [join, Query.join_empty]
  · simp [join, Query.join_assoc, Nat.add_assoc]

/-! ## The count of groups -/

/-- The count of groups is the largest number that a filter carries. -/
def Counted (d : Draft) : Prop := d.lastGroup = d.query.lastGroup

/-- Two drafts whose groups are counted are counted together. -/
theorem Counted.join {d e : Draft} (hd : d.Counted) (he : e.Counted) (c : Bool) :
    (d.join c e).Counted := by
  have hd : d.lastGroup = d.query.lastGroup := hd
  have he : e.lastGroup = e.query.lastGroup := he
  rw [Counted, Draft.join, hd, he, Query.lastGroup_join]

/-- Without filters no group was opened. -/
theorem counted_of_filters {d : Draft} (hlast : d.lastGroup = 0) (h : d.query.filters = []) :
    d.Counted := by
  rw [Counted, hlast, Query.lastGroup, Query.groups, h]
  rfl

end Draft

/-- The numbers that reading hands out are the numbers that filters carry. -/
theorem Numbered.Carried.lastGroup_eq {q : Query} {last : Nat}
    (h : Numbered.Carried none 0 (q.filters, last)) : q.lastGroup = last := by
  have hgroups {g : Nat} : g ∈ q.groups ↔ ∃ f ∈ q.filters, f.group = some g := List.mem_filterMap
  apply Nat.le_antisymm
  · refine List.max_le_of_forall_le q.groups last fun g hg ↦ ?_
    obtain ⟨f, hf, hg⟩ := hgroups.mp hg
    exact h.below f hf g hg
  · rcases Nat.eq_zero_or_pos last with rfl | hpos
    · exact Nat.zero_le _
    · exact List.le_max_of_le (hgroups.mpr (h.held hpos)) (Nat.le_refl last)

namespace Draft

/-- Of the reserved parameters only groups open groups, and they count them. -/
theorem counted_readReserved {d : Draft} {value : List Char} {name : ReservedName}
    (h : readReserved {} value name = .ok d) : d.Counted := by
  cases name with
  | select =>
    simp only [readReserved] at h
    split at h
    · cases h
      rfl
    · obtain ⟨items, -, h⟩ := bind_eq_ok_iff.mp h
      obtain ⟨q, hq, h⟩ := bind_eq_ok_iff.mp h
      cases h
      exact counted_of_filters rfl (Query.filters_foldlM_addSelectItem hq)
  | order =>
    obtain ⟨items, -, h⟩ := bind_eq_ok_iff.mp h
    obtain ⟨terms, -, h⟩ := bind_eq_ok_iff.mp h
    cases h
    rfl
  | limit | offset | count =>
    simp only [readReserved] at h
    split at h
    · cases h
      rfl
    · cases h
  | groupBy =>
    cases h
    rfl
  | and | or =>
    obtain ⟨⟨filters, last⟩, hr, h⟩ := bind_eq_ok_iff.mp h
    cases h
    have hcarried := LogicTree.carries_readGroupWithin _ _ none 0 _ _ (fun _ ↦ rfl) (by simp) hr
    exact hcarried.2.lastGroup_eq.symm

/-- A parameter that is read from nothing is counted: a condition of its own opens no group. -/
theorem counted_read {d : Draft} {param : List Char × List Char} (h : read {} param = .ok d) :
    d.Counted := by
  rw [read] at h
  split at h
  · exact counted_readReserved h
  · obtain ⟨f, hf, h⟩ := bind_eq_ok_iff.mp h
    cases h
    simp [Counted, Query.lastGroup, Query.groups, Filter.ofParam_group hf]

/-- What is read from nothing is counted, however many parameters it has. -/
theorem counted_foldlM_read {ps : List (List Char × List Char)} {d : Draft}
    (h : ps.foldlM read {} = .ok d) : d.Counted := by
  have hempty : Counted {} := rfl
  refine foldlM_preserves (fun d p d' hd h ↦ ?_) hempty h
  rw [read_eq_map] at h
  obtain ⟨e, he, rfl⟩ := map_eq_ok_iff.mp h
  exact hd.join (counted_read he) _

end Draft

/-- Two query texts with an ampersand between them are read if and only if both are; a fault of the
first is reported before one of the second. The query is then the first one with the second behind
it, its groups numbered on behind the largest number of the first. -/
theorem parse_append (s t : String) :
    Query.parse (s ++ "&" ++ t) = (do
      let q ← Query.parse s
      let r ← Query.parse t
      return q.join q.lastGroup (Query.countsRows t) r) := by
  have htext : (s ++ "&" ++ t).toList = s.toList ++ '&' :: t.toList := by simp
  rw [Query.parse, htext, formPairs_append, List.foldlM_append, Query.parse, Query.parse]
  cases hs : (formPairs s.toList).foldlM Draft.read {} with
  | error _ => rfl
  | ok d =>
    have hd : d.lastGroup = d.query.lastGroup := Draft.counted_foldlM_read hs
    simp only [bind, Except.bind, pure, Except.pure]
    rw [Draft.foldlM_read]
    cases (formPairs t.toList).foldlM Draft.read {} with
    | error _ => rfl
    | ok e =>
      rw [← hd]
      rfl

end RowGate
