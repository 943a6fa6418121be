import Mathlib.Data.List.Forall2
import RowGate.Proofs.Query.Condition
import RowGate.Query.Group

/-! # Logical trees

Conditions under conjunctions and disjunctions of any depth, what such a tree asks for, and the flat
list of numbered filters that stands for it. A disjunction gets one number for all that it holds,
whatever nests in it; a conjunction below a disjunction has no flat form. Main statement: the flat
list asks for what the tree asks for.

The invariant behind it is freshness: between two numbers that are handed out, a tree numbers its
filters by nothing but the numbers that were handed out meanwhile, so two trees side by side share
no group.
-/

namespace RowGate

/-- The characters that shape a group: brackets, double quotes and commas. -/
def groupMarks : List Char := ['(', ')', '[', ']', '{', '}', '"', ',']

/-- The text of a condition that shapes no group. -/
structure ConditionText where
  text : List Char
  plain : ∀ c ∈ text, c ∉ groupMarks

namespace ConditionText

def ofString (s : String) (h : s.toList.all (· ∉ groupMarks) = true) : ConditionText :=
  ⟨s.toList, fun c hc ↦ of_decide_eq_true (List.all_eq_true.mp h c hc)⟩

/-- Whether the text is a condition. -/
def accepted (l : ConditionText) : Bool := (Filter.ofCondition l.text).isOk

/-- The filter that the text stands for, without the blanks around it. -/
def filter? (l : ConditionText) : Option Filter := (Filter.ofCondition (Text.trim l.text)).toOption

/-- A condition has a filter if it is accepted, whatever blanks are around it. -/
theorem isSome_filter? (l : ConditionText) : l.filter?.isSome = l.accepted := by
  rw [accepted, ← Filter.isOk_ofCondition_trim, filter?]
  cases Filter.ofCondition (Text.trim l.text) <;> rfl

theorem ofCondition_of_filter? {l : ConditionText} {f : Filter} (h : l.filter? = some f) :
    Filter.ofCondition (Text.trim l.text) = .ok { f with group := none } := by
  rw [filter?] at h
  cases hc : Filter.ofCondition (Text.trim l.text) with
  | error e =>
    rw [hc] at h
    cases h
  | ok f' =>
    rw [hc] at h
    cases h
    have hg : f.group = none := Filter.ofCondition_group hc
    cases f with
    | mk column operator value group => rw [show group = none from hg]

end ConditionText

/-- Conditions under connectives. A node has one item at least. -/
inductive LogicTree where
  | leaf (l : ConditionText)
  | node (conn : Connective) (first : LogicTree) (rest : List LogicTree)

namespace LogicTree

/-! ## The written form -/

/-- A parenthesised list. -/
def listText (items : List (List Char)) : List Char := '(' :: [','].intercalate items ++ [')']

mutual

/-- A node is written as its connective before the list of its items. -/
def text : LogicTree → List Char
  | leaf l => l.text
  | node conn first rest => conn.keyword.toList ++ listText (first.text :: texts rest)

def texts : List LogicTree → List (List Char)
  | [] => []
  | t :: ts => t.text :: texts ts

end

/-! ## Leaves, values and shapes -/

mutual

/-- The conditions from left to right. -/
def leaves : LogicTree → List ConditionText
  | leaf l => [l]
  | node _ first rest => first.leaves ++ allLeaves rest

def allLeaves : List LogicTree → List ConditionText
  | [] => []
  | t :: ts => t.leaves ++ allLeaves ts

end

mutual

/-- Whether the tree holds, where its leaves are numbered from `n` on and `truth` says which of them
hold. -/
def holds (truth : Nat → Bool) : LogicTree → Nat → Bool
  | leaf _, n => truth n
  | node .and first rest, n =>
    first.holds truth n && allHold truth rest (n + first.leaves.length)
  | node .or first rest, n =>
    first.holds truth n || anyHolds truth rest (n + first.leaves.length)

def allHold (truth : Nat → Bool) : List LogicTree → Nat → Bool
  | [], _ => true
  | t :: ts, n => t.holds truth n && allHold truth ts (n + t.leaves.length)

def anyHolds (truth : Nat → Bool) : List LogicTree → Nat → Bool
  | [], _ => false
  | t :: ts, n => t.holds truth n || anyHolds truth ts (n + t.leaves.length)

end

mutual

/-- No conjunction has a disjunction above it; `below` says whether the tree itself has one. -/
def noAndBelowOr : LogicTree → Bool → Bool
  | leaf _, _ => true
  | node .and first rest, below => !below && first.noAndBelowOr below && allNoAndBelowOr rest below
  | node .or first rest, _ => first.noAndBelowOr true && allNoAndBelowOr rest true

def allNoAndBelowOr : List LogicTree → Bool → Bool
  | [], _ => true
  | t :: ts, below => t.noAndBelowOr below && allNoAndBelowOr ts below

end

/-! ## The flat form -/

/-- The number of a disjunction and the last number in use behind it: that of the disjunction
around it, or else the next. -/
def enterOr : Option Nat → Nat → Nat × Nat
  | some g, last => (g, last)
  | none, last => (last + 1, last + 1)

/-- Two stretches of a flat list, where the second is numbered behind the first. -/
def followedBy (x : Option Numbered) (y : Nat → Option Numbered) : Option Numbered :=
  x.bind fun a ↦ (y a.2).map fun b ↦ (a.1 ++ b.1, b.2)

mutual

/-- The flat form of a tree that stands under the disjunction `number`, if under any, where `last`
is the last number in use. -/
def flatten : LogicTree → Option Nat → Nat → Option Numbered
  | leaf l, number, last => l.filter?.map fun f ↦ ([{ f with group := number }], last)
  | node .and first rest, none, last =>
    followedBy (first.flatten none last) (flattenAll rest none)
  | node .and _ _, some _, _ => none
  | node .or first rest, number, last =>
    let g := enterOr number last
    followedBy (first.flatten (some g.1) g.2) (flattenAll rest (some g.1))

def flattenAll : List LogicTree → Option Nat → Nat → Option Numbered
  | [], _, last => some ([], last)
  | t :: ts, number, last => followedBy (t.flatten number last) (flattenAll ts number)

end

/-! ## Nodes as lists of items -/

theorem text_node (conn : Connective) (first : LogicTree) (rest : List LogicTree) :
    (node conn first rest).text = conn.keyword.toList ++ listText (texts (first :: rest)) := rfl

theorem leaves_node (conn : Connective) (first : LogicTree) (rest : List LogicTree) :
    (node conn first rest).leaves = allLeaves (first :: rest) := rfl

theorem holds_or (truth : Nat → Bool) (first : LogicTree) (rest : List LogicTree) (n : Nat) :
    (node .or first rest).holds truth n = anyHolds truth (first :: rest) n := rfl

theorem noAndBelowOr_and (first : LogicTree) (rest : List LogicTree) (below : Bool) :
    (node .and first rest).noAndBelowOr below =
      (!below && allNoAndBelowOr (first :: rest) below) := Bool.and_assoc ..

theorem noAndBelowOr_or (first : LogicTree) (rest : List LogicTree) (below : Bool) :
    (node .or first rest).noAndBelowOr below = allNoAndBelowOr (first :: rest) true := rfl

/-- Outside of disjunctions a conjunction is the list of its items. -/
theorem flatten_and (first : LogicTree) (rest : List LogicTree) (last : Nat) :
    (node .and first rest).flatten none last = flattenAll (first :: rest) none last := rfl

/-- A disjunction is the list of its items, under its number. -/
theorem flatten_or (first : LogicTree) (rest : List LogicTree) (number : Option Nat) (last : Nat) :
    (node .or first rest).flatten number last =
      flattenAll (first :: rest) (some (enterOr number last).1) (enterOr number last).2 := rfl

/-! ## When there is a flat form -/

/-- There is a flat form of both stretches if there is one of each, the second behind the first. -/
theorem followedBy_eq_some {x : Option Numbered} {y : Nat → Option Numbered} {r : Numbered} :
    followedBy x y = some r ↔ ∃ a b, x = some a ∧ y a.2 = some b ∧ r = (a.1 ++ b.1, b.2) := by
  simp only [followedBy, Option.bind_eq_some_iff, Option.map_eq_some_iff]
  constructor
  · rintro ⟨a, ha, b, hb, rfl⟩
    exact ⟨a, b, ha, hb, rfl⟩
  · rintro ⟨a, b, ha, hb, rfl⟩
    exact ⟨a, ha, b, hb, rfl⟩

/-- Whether the second stretch has a flat form does not depend on its numbers. -/
theorem isSome_followedBy {x : Option Numbered} {y : Nat → Option Numbered} {b : Bool}
    (h : ∀ n, (y n).isSome = b) : (followedBy x y).isSome = (x.isSome && b) := by
  cases x with
  | none => rfl
  | some a => simp [followedBy, h]

mutual

/-- The numbers in use do not matter for whether there is a flat form; whether the tree stands
below a disjunction does. -/
theorem isSome_flatten (t : LogicTree) (number : Option Nat) (last : Nat) :
    (t.flatten number last).isSome =
      (t.leaves.all ConditionText.accepted && t.noAndBelowOr number.isSome) := by
  match t with
  | leaf l => simp [flatten, leaves, noAndBelowOr, ConditionText.isSome_filter?]
  | node .or first rest =>
    rw [flatten_or, isSome_flattenAll, leaves_node, noAndBelowOr_or, Option.isSome_some]
  | node .and first rest =>
    rw [leaves_node, noAndBelowOr_and]
    cases number with
    | none => rw [flatten_and, isSome_flattenAll, Option.isSome_none, Bool.not_false, Bool.true_and]
    | some g => simp [flatten]

/-- A list has a flat form if its leaves are accepted and no conjunction is below a disjunction. -/
theorem isSome_flattenAll (ts : List LogicTree) (number : Option Nat) (last : Nat) :
    (flattenAll ts number last).isSome =
      ((allLeaves ts).all ConditionText.accepted && allNoAndBelowOr ts number.isSome) := by
  match ts with
  | [] => rfl
  | t :: ts =>
    rw [flattenAll, isSome_followedBy (isSome_flattenAll ts number), isSome_flatten, allLeaves,
      allNoAndBelowOr, List.all_append]
    ac_rfl

end

/-! ## Leaves and filters -/

/-- The filter is what the condition stands for, with a group of its own. -/
def IsFilterOf (l : ConditionText) (f : Filter) : Prop :=
  Filter.ofCondition (Text.trim l.text) = .ok { f with group := none }

mutual

/-- The flat list holds one filter for each leaf, in their order. -/
theorem forall₂_flatten (t : LogicTree) {number : Option Nat} {last : Nat} {r : Numbered}
    (h : t.flatten number last = some r) : List.Forall₂ IsFilterOf t.leaves r.1 := by
  match t with
  | leaf l =>
    simp only [flatten, Option.map_eq_some_iff] at h
    obtain ⟨f, hf, rfl⟩ := h
    have hl := ConditionText.ofCondition_of_filter? hf
    exact .cons hl .nil
  | node .or first rest =>
    rw [flatten_or] at h
    exact forall₂_flattenAll (first :: rest) h
  | node .and first rest =>
    cases number with
    | none => exact forall₂_flattenAll (first :: rest) h
    | some g => simp [flatten] at h

theorem forall₂_flattenAll (ts : List LogicTree) {number : Option Nat} {last : Nat} {r : Numbered}
    (h : flattenAll ts number last = some r) : List.Forall₂ IsFilterOf (allLeaves ts) r.1 := by
  match ts with
  | [] =>
    cases h
    exact .nil
  | t :: ts =>
    obtain ⟨a, b, ha, hb, rfl⟩ := followedBy_eq_some.mp h
    exact List.rel_append (forall₂_flatten t ha) (forall₂_flattenAll ts hb)

end

/-- No tree is without leaves. -/
theorem leaves_ne_nil : (t : LogicTree) → t.leaves ≠ []
  | leaf l => List.cons_ne_nil l []
  | node _ first _ => List.append_ne_nil_of_left_ne_nil first.leaves_ne_nil _

/-! ## Fresh numbers -/

mutual

/-- Below a disjunction every filter gets its number, and no new one is handed out. -/
theorem group_flatten_some (t : LogicTree) {g last : Nat} {r : Numbered}
    (h : t.flatten (some g) last = some r) :
    r.2 = last ∧ ∀ f ∈ r.1, f.group = some g := by
  match t with
  | leaf l =>
    simp only [flatten, Option.map_eq_some_iff] at h
    obtain ⟨f, -, rfl⟩ := h
    simp
  | node .or first rest => exact group_flattenAll_some (first :: rest) h
  | node .and first rest => simp [flatten] at h

theorem group_flattenAll_some (ts : List LogicTree) {g last : Nat} {r : Numbered}
    (h : flattenAll ts (some g) last = some r) :
    r.2 = last ∧ ∀ f ∈ r.1, f.group = some g := by
  match ts with
  | [] =>
    cases h
    simp
  | t :: ts =>
    obtain ⟨a, b, ha, hb, rfl⟩ := followedBy_eq_some.mp h
    obtain ⟨hlast, hfirst⟩ := group_flatten_some t ha
    obtain ⟨hlast', hrest⟩ := group_flattenAll_some ts hb
    refine ⟨hlast'.trans hlast, ?_⟩
    intro f hf
    rcases List.mem_append.mp hf with hf | hf
    · exact hfirst f hf
    · exact hrest f hf

end

/-- The invariant of numbering outside of disjunctions: all numbers are newly handed out. -/
def FreshFrom (last : Nat) (r : Numbered) : Prop :=
  last ≤ r.2 ∧ ∀ f ∈ r.1, ∀ g, f.group = some g → last < g ∧ g ≤ r.2

/-- Numbers that are handed out one stretch after the other are all new. -/
theorem FreshFrom.append {last : Nat} {a b : Numbered} (ha : FreshFrom last a)
    (hb : FreshFrom a.2 b) : FreshFrom last (a.1 ++ b.1, b.2) := by
  refine ⟨Nat.le_trans ha.1 hb.1, ?_⟩
  intro f hf g hg
  rcases List.mem_append.mp hf with hf | hf
  · have hold := ha.2 f hf g hg
    exact ⟨hold.1, Nat.le_trans hold.2 hb.1⟩
  · have hnew := hb.2 f hf g hg
    exact ⟨Nat.lt_of_le_of_lt ha.1 hnew.1, hnew.2⟩

mutual

/-- Outside of disjunctions a tree hands out new numbers only. -/
theorem freshFrom_flatten (t : LogicTree) {last : Nat} {r : Numbered}
    (h : t.flatten none last = some r) : FreshFrom last r := by
  match t with
  | leaf l =>
    simp only [flatten, Option.map_eq_some_iff] at h
    obtain ⟨f, -, rfl⟩ := h
    simp [FreshFrom]
  | node .or first rest =>
    rw [flatten_or] at h
    obtain ⟨hlast, hgroup⟩ := group_flattenAll_some (first :: rest) h
    have hlast : r.2 = last + 1 := hlast
    refine ⟨by omega, ?_⟩
    intro f hf g hg
    rw [hgroup f hf, Option.some.injEq] at hg
    have hg : last + 1 = g := hg
    omega
  | node .and first rest => exact freshFrom_flattenAll (first :: rest) h

theorem freshFrom_flattenAll (ts : List LogicTree) {last : Nat} {r : Numbered}
    (h : flattenAll ts none last = some r) : FreshFrom last r := by
  match ts with
  | [] =>
    cases h
    simp [FreshFrom]
  | t :: ts =>
    obtain ⟨a, b, ha, hb, rfl⟩ := followedBy_eq_some.mp h
    exact (freshFrom_flatten t ha).append (freshFrom_flattenAll ts hb)

end

end LogicTree

/-! ## What a flat list asks for -/

/-- Filters with the places of their conditions, where `truth` says which conditions hold: the
filters without a group hold, and of each group that occurs one filter at least. -/
def FlatHolds (truth : Nat → Bool) (ps : List (Filter × Nat)) : Prop :=
  (∀ p ∈ ps, p.1.group = none → truth p.2 = true) ∧
    ∀ g, (∃ p ∈ ps, p.1.group = some g) → ∃ p ∈ ps, p.1.group = some g ∧ truth p.2 = true

namespace FlatHolds

variable {truth : Nat → Bool} {ps qs : List (Filter × Nat)}

/-- Two flat lists hold together if each of them does. -/
theorem append (hp : FlatHolds truth ps) (hq : FlatHolds truth qs) :
    FlatHolds truth (ps ++ qs) := by
  constructor
  · intro p h hg
    rcases List.mem_append.mp h with h | h
    · exact hp.1 p h hg
    · exact hq.1 p h hg
  · rintro g ⟨p, h, hg⟩
    rcases List.mem_append.mp h with h | h
    · obtain ⟨q, hq, hqg⟩ := hp.2 g ⟨p, h, hg⟩
      exact ⟨q, List.mem_append_left _ hq, hqg⟩
    · obtain ⟨q, hq, hqg⟩ := hq.2 g ⟨p, h, hg⟩
      exact ⟨q, List.mem_append_right _ hq, hqg⟩

/-- Lists that share no group can be taken apart. -/
theorem append_iff (hapart : ∀ p ∈ ps, ∀ q ∈ qs, ∀ g, p.1.group = some g → q.1.group ≠ some g) :
    FlatHolds truth (ps ++ qs) ↔ FlatHolds truth ps ∧ FlatHolds truth qs := by
  refine ⟨fun h ↦ ⟨⟨?_, ?_⟩, ⟨?_, ?_⟩⟩, fun h ↦ h.1.append h.2⟩
  · intro p hp hg
    exact h.1 p (List.mem_append_left _ hp) hg
  · rintro g ⟨p, hp, hg⟩
    obtain ⟨q, hq, hqg, hqt⟩ := h.2 g ⟨p, List.mem_append_left _ hp, hg⟩
    rcases List.mem_append.mp hq with hq | hq
    · exact ⟨q, hq, hqg, hqt⟩
    · exact absurd hqg (hapart p hp q hq g hg)
  · intro p hp hg
    exact h.1 p (List.mem_append_right _ hp) hg
  · rintro g ⟨p, hp, hg⟩
    obtain ⟨q, hq, hqg, hqt⟩ := h.2 g ⟨p, List.mem_append_right _ hp, hg⟩
    rcases List.mem_append.mp hq with hq | hq
    · exact absurd hg (hapart q hq p hp g hqg)
    · exact ⟨q, hq, hqg, hqt⟩

/-- A single group asks for one of its filters. -/
theorem group_iff {g : Nat} (hne : ps ≠ []) (hg : ∀ p ∈ ps, p.1.group = some g) :
    FlatHolds truth ps ↔ ∃ p ∈ ps, truth p.2 = true := by
  constructor
  · intro h
    obtain ⟨p, hp⟩ := List.exists_mem_of_ne_nil ps hne
    obtain ⟨q, hq, -, hqt⟩ := h.2 g ⟨p, hp, hg p hp⟩
    exact ⟨q, hq, hqt⟩
  · rintro ⟨q, hq, hqt⟩
    constructor
    · intro p hp hnone
      rw [hg p hp] at hnone
      cases hnone
    · rintro g' ⟨p, hp, hpg⟩
      rw [hg p hp] at hpg
      exact ⟨q, hq, (hg q hq).trans hpg, hqt⟩

end FlatHolds

namespace LogicTree

variable {truth : Nat → Bool}

/-! ## The flat form asks for what the tree asks for -/

/-- The flat form has one filter for each leaf, so the places of the two agree. -/
theorem length_flatten {t : LogicTree} {number : Option Nat} {last : Nat} {r : Numbered}
    (h : t.flatten number last = some r) : r.1.length = t.leaves.length :=
  (forall₂_flatten t h).length_eq.symm

mutual

/-- Below a disjunction the tree holds if one of its conditions does. -/
theorem exists_flatten_iff (t : LogicTree) {g last : Nat} {r : Numbered} (n : Nat)
    (h : t.flatten (some g) last = some r) :
    (∃ p ∈ r.1.zipIdx n, truth p.2 = true) ↔ t.holds truth n = true := by
  match t with
  | leaf l =>
    simp only [flatten, Option.map_eq_some_iff] at h
    obtain ⟨f, -, rfl⟩ := h
    simp [holds]
  | node .or first rest => exact exists_flattenAll_iff (first :: rest) n h
  | node .and first rest => simp [flatten] at h

theorem exists_flattenAll_iff (ts : List LogicTree) {g last : Nat} {r : Numbered} (n : Nat)
    (h : flattenAll ts (some g) last = some r) :
    (∃ p ∈ r.1.zipIdx n, truth p.2 = true) ↔ anyHolds truth ts n = true := by
  match ts with
  | [] =>
    cases h
    simp [anyHolds]
  | t :: ts =>
    obtain ⟨a, b, ha, hb, rfl⟩ := followedBy_eq_some.mp h
    have hfirst := exists_flatten_iff t n ha
    have hrest := exists_flattenAll_iff ts (n + t.leaves.length) hb
    rw [anyHolds, Bool.or_eq_true, ← hfirst, ← hrest, List.zipIdx_append, length_flatten ha]
    simp only [List.mem_append, or_and_right, exists_or]

end

mutual

/-- Outside of disjunctions the flat list of a tree holds if the tree does. Two items of a
conjunction share no group, because the second is numbered behind the first. -/
theorem flatHolds_flatten_iff (t : LogicTree) {last : Nat} {r : Numbered} (n : Nat)
    (h : t.flatten none last = some r) :
    FlatHolds truth (r.1.zipIdx n) ↔ t.holds truth n = true := by
  match t with
  | leaf l =>
    simp only [flatten, Option.map_eq_some_iff] at h
    obtain ⟨f, -, rfl⟩ := h
    simp [holds, FlatHolds]
  | node .or first rest =>
    have hlength : r.1.length = (node .or first rest).leaves.length := length_flatten h
    rw [flatten_or] at h
    have hgroup := (group_flattenAll_some (first :: rest) h).2
    have hne : r.1.zipIdx n ≠ [] := by
      rw [← List.length_pos_iff, List.length_zipIdx, hlength]
      exact List.length_pos_iff.mpr (leaves_ne_nil _)
    rw [FlatHolds.group_iff hne fun p hp ↦ hgroup p.1 (List.fst_mem_of_mem_zipIdx hp), holds_or]
    exact exists_flattenAll_iff (first :: rest) n h
  | node .and first rest => exact flatHolds_flattenAll_iff (first :: rest) n h

/-- The flat form of a list holds if and only if all of its trees do. -/
theorem flatHolds_flattenAll_iff (ts : List LogicTree) {last : Nat} {r : Numbered} (n : Nat)
    (h : flattenAll ts none last = some r) :
    FlatHolds truth (r.1.zipIdx n) ↔ allHold truth ts n = true := by
  match ts with
  | [] =>
    cases h
    simp [allHold, FlatHolds]
  | t :: ts =>
    obtain ⟨a, b, ha, hb, rfl⟩ := followedBy_eq_some.mp h
    have hfirst := flatHolds_flatten_iff t n ha
    have hrest := flatHolds_flattenAll_iff ts (n + t.leaves.length) hb
    have hapart : ∀ p ∈ a.1.zipIdx n, ∀ q ∈ b.1.zipIdx (n + t.leaves.length), ∀ g,
        p.1.group = some g → q.1.group ≠ some g := by
      intro p hp q hq g hpg hqg
      have hold := (freshFrom_flatten t ha).2 p.1 (List.fst_mem_of_mem_zipIdx hp) g hpg
      have hnew := (freshFrom_flattenAll ts hb).2 q.1 (List.fst_mem_of_mem_zipIdx hq) g hqg
      omega
    rw [allHold, Bool.and_eq_true, ← hfirst, ← hrest, List.zipIdx_append, length_flatten ha]
    exact FlatHolds.append_iff hapart

end

end LogicTree

end RowGate
