import Mathlib.Data.List.Nodup
import RowGate.Proofs.Query.LogicTree
import RowGate.Proofs.Sql.Condition
import RowGate.Proofs.Sql.Placeholders

/-! # The parts of a condition

A filter list falls into its filters without a group and its groups. The condition has one part for
each, in the order in which they first appear, and it holds where the flat list holds.
-/

namespace RowGate

/-- What a part of a filter list is known by: a filter without a group, with its place, or the group
of its filters. -/
inductive PartKey where
  | alone (p : Filter × Nat)
  | group (g : Nat)
deriving DecidableEq

namespace PartKey

/-- The part that a filter is in. -/
def of (p : Filter × Nat) : PartKey :=
  match p.1.group with
  | none => alone p
  | some g => group g

/-- The filters of a part in the order of the list. -/
def members (ps : List (Filter × Nat)) : PartKey → List (Filter × Nat)
  | alone p => [p]
  | group g => ps.filter fun p ↦ p.1.group = some g

def toPart (ps : List (Filter × Nat)) : PartKey → Part
  | alone p => .alone p.1
  | group g => .anyOf g ((members ps (group g)).map Prod.fst)

/-- The text of a part, where `predicate` gives the texts of the filters by their places. -/
def text (predicate : Nat → String) (ps : List (Filter × Nat)) : PartKey → List Char
  | alone p => (predicate p.2).toList
  | group g => '(' :: (Sql.orMark.intercalate
      ((members ps (group g)).map fun p ↦ (predicate p.2).toList) ++ [')'])

end PartKey

/-- The parts of a filter list in the order in which they first appear. -/
def partKeys (ps : List (Filter × Nat)) : List PartKey := (ps.map PartKey.of).eraseDups

/-- The order in which the filters of a list are written. -/
def writingOrder (ps : List (Filter × Nat)) : List (Filter × Nat) :=
  (partKeys ps).flatMap (PartKey.members ps)

variable {ps : List (Filter × Nat)} {p : Filter × Nat} {k : PartKey} {g : Nat}

namespace PartKey

theorem of_eq_alone_iff {q : Filter × Nat} : of p = alone q ↔ p = q ∧ p.1.group = none := by
  rw [of]
  split
  next h => rw [alone.injEq, h, eq_self, and_true]
  next h => simp [h]

theorem of_eq_group_iff : of p = group g ↔ p.1.group = some g := by
  rw [of]
  split
  next h => simp [h]
  next h => rw [group.injEq, h, Option.some.injEq]

theorem mem_members_group : p ∈ members ps (group g) ↔ p ∈ ps ∧ p.1.group = some g := by
  rw [members, List.mem_filter, decide_eq_true_eq]

end PartKey

open PartKey

/-- A part is there if one of the filters is in it. -/
theorem mem_partKeys : k ∈ partKeys ps ↔ ∃ p ∈ ps, of p = k := by
  rw [partKeys, List.mem_eraseDups, List.mem_map]

/-- The filters of a part are the filters of the list that are in it. -/
theorem mem_members (hk : k ∈ partKeys ps) : p ∈ members ps k ↔ p ∈ ps ∧ of p = k := by
  cases k with
  | alone q =>
    obtain ⟨_, hq, heq⟩ := mem_partKeys.mp hk
    obtain ⟨rfl, hgroup⟩ := of_eq_alone_iff.mp heq
    rw [members, List.mem_singleton, of_eq_alone_iff]
    constructor
    · rintro rfl
      exact ⟨hq, rfl, hgroup⟩
    · exact fun h ↦ h.2.1
  | group g => rw [mem_members_group, of_eq_group_iff]

/-- One more filter opens a part, unless it is in one that is open. -/
theorem partKeys_concat : partKeys (ps ++ [p]) =
    if of p ∈ partKeys ps then partKeys ps else partKeys ps ++ [of p] := by
  rw [partKeys, partKeys, List.map_append, List.eraseDups_append]
  split
  next h =>
    rw [List.mem_eraseDups] at h
    simp [List.removeAll, h]
  next h =>
    rw [List.mem_eraseDups] at h
    simp [List.removeAll, h, List.eraseDups_cons]

/-- No part is opened twice. -/
theorem nodup_partKeys (ps : List (Filter × Nat)) : (partKeys ps).Nodup := by
  induction ps using List.reverseRecOn with
  | nil => exact List.nodup_nil
  | append_singleton ps p ih =>
    rw [partKeys_concat]
    split
    next => exact ih
    next h =>
      rw [← List.concat_eq_append]
      exact ih.concat h

/-! ## Every filter is in one part -/

/-- Part by part, every filter is written once. -/
theorem perm_writingOrder (h : ps.Nodup) : (writingOrder ps).Perm ps := by
  have hnodup : (writingOrder ps).Nodup := by
    rw [writingOrder, List.nodup_flatMap]
    refine ⟨fun k _ ↦ ?_, (nodup_partKeys ps).imp_of_mem fun {k k'} hk hk' hne ↦ ?_⟩
    · cases k with
      | alone q => exact List.nodup_singleton q
      | group g => exact h.filter _
    · rintro q hq hq'
      exact hne (((mem_members hk).mp hq).2.symm.trans ((mem_members hk').mp hq').2)
  rw [List.perm_ext_iff_of_nodup hnodup h]
  intro q
  rw [writingOrder, List.mem_flatMap]
  constructor
  · rintro ⟨k, hk, hq⟩
    exact ((mem_members hk).mp hq).1
  · intro hq
    have hk : of q ∈ partKeys ps := mem_partKeys.mpr ⟨q, hq, rfl⟩
    exact ⟨of q, hk, (mem_members hk).mpr ⟨hq, rfl⟩⟩

/-! ## The parts are filled filter by filter -/

/-- One more filter is the last member of its group. -/
theorem members_concat : members (ps ++ [p]) (group g) =
    members ps (group g) ++ if of p = group g then [p] else [] := by
  rw [members, members, List.filter_append, List.filter_singleton]
  split
  next h => rw [decide_eq_true (of_eq_group_iff.mp h), cond_true]
  next h => rw [decide_eq_false (h ∘ of_eq_group_iff.mpr), cond_false]

/-- One more filter leaves the other parts as they are. -/
theorem toPart_concat (hk : k ≠ of p) : toPart (ps ++ [p]) k = toPart ps k := by
  cases k with
  | alone q => rfl
  | group g =>
    rw [toPart, toPart, members_concat, if_neg (Ne.symm hk), List.append_nil]

/-- One more filter stands behind those of its group. -/
theorem toPart_concat_self (hp : of p = group g) : toPart (ps ++ [p]) (group g) =
    .anyOf g ((members ps (group g)).map Prod.fst ++ [p.1]) := by
  rw [toPart, members_concat, if_pos hp, List.map_append, List.map_singleton]

/-- A filter is added to the part of its group. -/
theorem addToGroup_map (hp : of p = group g) {ks : List PartKey} (hks : ks.Nodup) :
    Part.addToGroup g p.1 (ks.map (toPart ps)) = ks.map (toPart (ps ++ [p])) ++
      if group g ∈ ks then [] else [Part.anyOf g [p.1]] := by
  induction ks with
  | nil => rfl
  | cons k ks ih =>
    obtain ⟨hk, hks'⟩ := List.nodup_cons.mp hks
    cases k with
    | alone q =>
      rw [List.map_cons, toPart, Part.addToGroup, ih hks', List.map_cons, toPart, List.cons_append]
      simp
    | group h =>
      rw [List.map_cons, toPart, Part.addToGroup]
      split
      next heq =>
        subst heq
        have hrest : ks.map (toPart ps) = ks.map (toPart (ps ++ [p])) :=
          List.map_congr_left fun k' hk' ↦ (toPart_concat fun h ↦ hk (hp ▸ h ▸ hk')).symm
        rw [if_pos List.mem_cons_self, List.append_nil, List.map_cons, toPart_concat_self hp, hrest]
      next hne =>
        have hother : group h ≠ of p := fun h ↦ hne (group.inj (h.trans hp)).symm
        rw [ih hks', List.map_cons, toPart_concat hother, toPart, List.cons_append]
        simp [hne]

/-- The parts are those of the groups and of the filters without one, each with all its filters. -/
theorem ofFilters_eq (h : ps.Nodup) :
    Part.ofFilters (ps.map Prod.fst) = (partKeys ps).map (toPart ps) := by
  induction ps using List.reverseRecOn with
  | nil => rfl
  | append_singleton ps p ih =>
    rw [← List.concat_eq_append, List.nodup_concat] at h
    obtain ⟨hp, hps⟩ := h
    have hfold : Part.ofFilters ((ps ++ [p]).map Prod.fst) =
        Part.add ((partKeys ps).map (toPart ps)) p.1 := by
      rw [← ih hps, List.map_append]
      exact List.foldl_append
    rw [hfold, Part.add, partKeys_concat]
    split
    -- A filter without a group is a new part, since no filter stands at two places.
    next hgroup =>
      have hof : of p = alone p := of_eq_alone_iff.mpr ⟨rfl, hgroup⟩
      have hnew : of p ∉ partKeys ps := by
        rw [mem_partKeys, hof]
        rintro ⟨q, hq, heq⟩
        exact hp ((of_eq_alone_iff.mp heq).1 ▸ hq)
      have hsame : (partKeys ps).map (toPart (ps ++ [p])) = (partKeys ps).map (toPart ps) :=
        List.map_congr_left fun k hk ↦ toPart_concat fun heq ↦ hnew (heq ▸ hk)
      rw [if_neg hnew, List.map_append, hsame, hof]
      rfl
    -- A filter of a group joins its part, or is the first of it.
    next g hgroup =>
      have hof : of p = group g := of_eq_group_iff.mpr hgroup
      rw [addToGroup_map hof (nodup_partKeys ps), hof]
      split
      next => rw [List.append_nil]
      next hnew =>
        have hnone : members ps (group g) = [] := by
          rw [members, List.filter_eq_nil_iff]
          intro q hq hqg
          exact hnew (mem_partKeys.mpr ⟨q, hq, of_eq_group_iff.mpr (of_decide_eq_true hqg)⟩)
        rw [List.map_append, List.map_singleton, toPart_concat_self hof, hnone]
        rfl

/-! ## What the parts ask for -/

/-- Whether a part holds, by what its filters do. -/
def PartKey.holds (truth : Nat → Bool) (ps : List (Filter × Nat)) : PartKey → Bool
  | alone p => truth p.2
  | group g => (members ps (group g)).any fun p ↦ truth p.2

/-- All parts hold where the flat list does. -/
theorem all_holds_iff (truth : Nat → Bool) :
    (partKeys ps).all (PartKey.holds truth ps) = true ↔ FlatHolds truth ps := by
  simp only [List.all_eq_true, mem_partKeys]
  constructor
  · intro h
    refine ⟨fun p hp hgroup ↦ ?_, ?_⟩
    · exact h (alone p) ⟨p, hp, of_eq_alone_iff.mpr ⟨rfl, hgroup⟩⟩
    · rintro g ⟨p, hp, hgroup⟩
      have hany := h (group g) ⟨p, hp, of_eq_group_iff.mpr hgroup⟩
      obtain ⟨q, hq, htruth⟩ := List.any_eq_true.mp hany
      obtain ⟨hq, hqg⟩ := mem_members_group.mp hq
      exact ⟨q, hq, hqg, htruth⟩
  · rintro ⟨halone, hgroups⟩ k ⟨p, hp, rfl⟩
    cases hk : of p with
    | alone q =>
      obtain ⟨rfl, hgroup⟩ := of_eq_alone_iff.mp hk
      exact halone p hp hgroup
    | group g =>
      obtain ⟨q, hq, hqg, htruth⟩ := hgroups g ⟨p, hp, of_eq_group_iff.mp hk⟩
      exact List.any_eq_true.mpr ⟨q, mem_members_group.mpr ⟨hq, hqg⟩, htruth⟩

/-! ## The texts of joined fragments -/

namespace Fragment

/-- The texts of fragments whose numbers go on from one to the next. -/
def textsFrom : Nat → List Fragment → List String
  | _, [] => []
  | k, f :: fs => f.textFrom k :: textsFrom (k + f.values.length) fs

/-- The texts of a join stand between its separators. -/
theorem toList_textFrom_join (k : Nat) (sep : String) (fs : List Fragment) :
    ((join sep fs).textFrom k).toList =
      sep.toList.intercalate ((textsFrom k fs).map String.toList) := by
  induction fs generalizing k with
  | nil => rfl
  | cons f fs ih =>
    cases fs with
    | nil => simp [join, textsFrom]
    | cons g fs =>
      have hjoin : join sep (f :: g :: fs) =
          f ++ (([.fixed sep] : Fragment) ++ join sep (g :: fs)) := by
        rw [join, join, List.intercalate_cons_cons, List.append_assoc]
      rw [hjoin, toList_textFrom_append, toList_textFrom_append, textFrom_fixed, ih]
      simp [textsFrom, List.intercalate_cons_cons, values]

end Fragment

/-! ## The numbers of the parts -/

/-- How many values a list of filters binds. -/
def boundBy (ps : List (Filter × Nat)) : Nat := (ps.map fun p ↦ p.1.bindCount).sum

/-- How many values are bound before those of the filter at a place. -/
def boundBefore (order : List (Filter × Nat)) (n : Nat) : Nat :=
  boundBy (order.takeWhile fun p ↦ p.2 ≠ n)

/-- A function gives the texts of the filters by their places: each is written once, and its numbers
go on behind `k` values and behind those of the filters that are written before. -/
def Renders (k : Nat) (order : List (Filter × Nat)) (predicate : Nat → String) : Prop :=
  ∀ p ∈ order, ∃ f, p.1.fragment none = .ok f ∧
    predicate p.2 = f.textFrom (k + boundBefore order p.2)

/-- What is bound before a place is bound by the filters in front of it. -/
theorem boundBefore_eq {pre post : List (Filter × Nat)}
    (h : ((pre ++ p :: post).map Prod.snd).Nodup) :
    boundBefore (pre ++ p :: post) p.2 = boundBy pre := by
  have hpre : ∀ q ∈ pre, q.2 ≠ p.2 := by
    intro q hq heq
    rw [List.map_append, List.map_cons] at h
    exact (List.nodup_append.mp h).2.2 _ (List.mem_map_of_mem hq) _ List.mem_cons_self heq
  rw [boundBefore, List.takeWhile_append_of_pos fun q hq ↦ decide_eq_true (hpre q hq)]
  simp

/-- Two lists bind what the one and the other bind. -/
theorem boundBy_append (ps qs : List (Filter × Nat)) :
    boundBy (ps ++ qs) = boundBy ps + boundBy qs := by
  rw [boundBy, List.map_append, List.sum_append]
  rfl

section

variable {j : Nat} {order pre post : List (Filter × Nat)} {predicate : Nat → String}

/-- The alternatives of a part bind as many values as its members count. -/
theorem length_values_members {ms : List (Filter × Nat)} {fs : List Fragment}
    (h : List.Forall₂ (fun c f ↦ Filter.fragment none c = .ok f) (ms.map Prod.fst) fs) :
    (fs.flatMap Fragment.values).length = boundBy ms := by
  rw [length_values_filters h, boundBy, List.map_map]
  rfl

/-- The filters that stand together in the order are numbered on. -/
theorem textsFrom_members (hr : Renders j order predicate) (hplaces : (order.map Prod.snd).Nodup)
    {ms : List (Filter × Nat)} (horder : order = pre ++ (ms ++ post)) {fs : List Fragment}
    (h : List.Forall₂ (fun c f ↦ Filter.fragment none c = .ok f) (ms.map Prod.fst) fs) :
    Fragment.textsFrom (j + boundBy pre) fs = ms.map fun p ↦ predicate p.2 := by
  induction ms generalizing pre fs with
  | nil =>
    cases h
    rfl
  | cons p ms ih =>
    cases h with
    | @cons _ f _ fs hf hfs =>
      have hp : p ∈ order := by simp [horder]
      obtain ⟨f', hf', htext⟩ := hr p hp
      cases eq_of_ok hf hf'
      have hbefore : boundBefore order p.2 = boundBy pre := by
        rw [horder] at hplaces ⊢
        exact boundBefore_eq hplaces
      have hrest : order = (pre ++ [p]) ++ (ms ++ post) := by simp [horder]
      have hcount : j + boundBy pre + f.values.length = j + boundBy (pre ++ [p]) := by
        rw [boundBy_append, Filter.length_values hf, Nat.add_assoc]
        simp [boundBy]
      rw [Fragment.textsFrom, List.map_cons, htext, hbefore, hcount, ih hrest hfs]

theorem filters_toPart (ps : List (Filter × Nat)) (k : PartKey) :
    (toPart ps k).filters = (members ps k).map Prod.fst := by
  cases k <;> rfl

/-- A part is written as the texts of its filters ask for. -/
theorem toList_textFrom_part (hr : Renders j order predicate)
    (hplaces : (order.map Prod.snd).Nodup) (horder : order = pre ++ (members ps k ++ post))
    {f : Fragment} (h : (toPart ps k).fragment none = .ok f) :
    (f.textFrom (j + boundBy pre)).toList = k.text predicate ps := by
  cases k with
  | alone p =>
    have htexts := textsFrom_members hr hplaces horder (.cons h .nil)
    exact congrArg String.toList (List.cons.inj htexts).1
  | group g =>
    obtain ⟨fs, hfs, h⟩ := bind_eq_ok_iff.mp h
    cases h
    have htexts := textsFrom_members hr hplaces horder (mapM_eq_ok_iff.mp hfs)
    rw [Fragment.toList_textFrom_paren, Fragment.toList_textFrom_join, htexts, List.map_map]
    rfl

/-- A part binds as many values as its members count. -/
theorem length_values_part {f : Fragment} (h : (toPart ps k).fragment none = .ok f) :
    f.values.length = boundBy (members ps k) := by
  obtain ⟨fs, hfs, hvalues⟩ := Part.fragment_eq_ok h
  rw [filters_toPart] at hfs
  rw [hvalues, length_values_members hfs]

/-- The parts of a condition are written one after another. -/
theorem textsFrom_parts (hr : Renders j order predicate) (hplaces : (order.map Prod.snd).Nodup)
    {ks : List PartKey} (horder : order = pre ++ ks.flatMap (members ps)) {fs : List Fragment}
    (h : List.Forall₂ (fun k f ↦ (toPart ps k).fragment none = .ok f) ks fs) :
    (Fragment.textsFrom (j + boundBy pre) fs).map String.toList =
      ks.map (PartKey.text predicate ps) := by
  induction h generalizing pre with
  | nil => rfl
  | @cons k f ks fs hf _ ih =>
    have hrest : order = (pre ++ members ps k) ++ ks.flatMap (members ps) := by simp [horder]
    have hcount : j + boundBy pre + f.values.length = j + boundBy (pre ++ members ps k) := by
      rw [boundBy_append, length_values_part hf, Nat.add_assoc]
    rw [Fragment.textsFrom, List.map_cons, hcount, ih hrest, List.map_cons,
      toList_textFrom_part hr hplaces horder hf]

/-- Filters that have a condition have a text at their places. -/
theorem exists_renders (j : Nat) (hplaces : (order.map Prod.snd).Nodup)
    (h : ∀ p ∈ order, ∃ f, p.1.fragment none = .ok f) : ∃ predicate, Renders j order predicate := by
  have hplace : ∀ n, ∃ s, ∀ p ∈ order, p.2 = n → ∃ f, p.1.fragment none = .ok f ∧
      s = f.textFrom (j + boundBefore order n) := by
    intro n
    by_cases hn : ∃ p ∈ order, p.2 = n
    · obtain ⟨p, hp, rfl⟩ := hn
      obtain ⟨f, hf⟩ := h p hp
      refine ⟨f.textFrom (j + boundBefore order p.2), fun q hq hplace ↦ ?_⟩
      cases List.inj_on_of_nodup_map hplaces hq hp hplace
      exact ⟨f, hf, rfl⟩
    · exact ⟨"", fun p hp hplace ↦ absurd ⟨p, hp, hplace⟩ hn⟩
  choose predicate hpredicate using hplace
  exact ⟨predicate, fun p hp ↦ hpredicate p.2 p hp rfl⟩

end

/-! ## The condition of a filter list -/

section

open Sql (IsPredicate IsTerm andMark orMark splitOutside conditionHolds operandHolds)

variable {predicate : Nat → String}

/-- The alternatives of a part are terms. -/
theorem isTerm_of_mem_members (h : ∀ p ∈ ps, IsPredicate (predicate p.2).toList) {w : List Char}
    (hw : w ∈ (members ps (group g)).map fun p ↦ (predicate p.2).toList) : IsTerm w := by
  obtain ⟨p, hp, rfl⟩ := List.mem_map.mp hw
  exact (h p (mem_members_group.mp hp).1).toIsTerm

/-- The predicates and the groups of a list are the terms of its condition. -/
theorem isTerm_text (h : ∀ p ∈ ps, IsPredicate (predicate p.2).toList) (hk : k ∈ partKeys ps) :
    IsTerm (k.text predicate ps) := by
  cases k with
  | alone p => exact (h p ((mem_members hk).mp List.mem_cons_self).1).toIsTerm
  | group g => exact .paren (Sql.balanced_intercalate Sql.balanced_orMark fun w hw ↦
      (isTerm_of_mem_members h hw).balanced)

/-- A part holds, read from its text, as its filters ask for. -/
theorem operandHolds_text (truth : String → Bool)
    (h : ∀ p ∈ ps, IsPredicate (predicate p.2).toList) (hk : k ∈ partKeys ps) :
    operandHolds truth (k.text predicate ps) = k.holds (truth ∘ predicate) ps := by
  cases k with
  | alone p =>
    exact Sql.operandHolds_predicate truth (h p ((mem_members hk).mp List.mem_cons_self).1)
  | group g =>
    have hbalanced : Sql.Balanced (orMark.intercalate
        ((members ps (group g)).map fun p ↦ (predicate p.2).toList)) :=
      Sql.balanced_intercalate Sql.balanced_orMark fun w hw ↦
        (isTerm_of_mem_members h hw).balanced
    obtain ⟨p, hp, hgroup⟩ := mem_partKeys.mp hk
    have hmem : p ∈ members ps (group g) := mem_members_group.mpr ⟨hp, of_eq_group_iff.mp hgroup⟩
    have hne : (members ps (group g)).map (fun p ↦ (predicate p.2).toList) ≠ [] :=
      List.ne_nil_of_mem (List.mem_map_of_mem hmem)
    rw [PartKey.text, Sql.operandHolds_paren truth hbalanced,
      Sql.conditionHolds_or truth hne fun w hw ↦ isTerm_of_mem_members h hw, List.any_map,
      PartKey.holds, Bool.eq_iff_iff, List.any_eq_true, List.any_eq_true]
    refine exists_congr fun q ↦ and_congr_right fun hq ↦ ?_
    rw [Function.comp_apply, Function.comp_apply,
      Sql.operandHolds_predicate truth (h q (mem_members_group.mp hq).1)]

/-- No two filters stand at the same place. -/
theorem nodup_places (cs : List Filter) : (cs.zipIdx.map Prod.snd).Nodup := by
  rw [List.zipIdx_map_snd]
  exact List.nodup_range'

/-- The condition of a filter list is written part by part. -/
theorem toList_textFrom_condition {cs : List Filter} {f : Fragment} (j : Nat)
    (h : whereFragment none cs = .ok (some f)) :
    ∃ predicate, Renders j (writingOrder cs.zipIdx) predicate ∧ (f.textFrom j).toList =
      andMark.intercalate ((partKeys cs.zipIdx).map (PartKey.text predicate cs.zipIdx)) := by
  obtain ⟨-, fs, hfs, rfl⟩ := whereFragment_eq_some_iff.mp h
  have hps : cs.zipIdx.Nodup := .of_map Prod.snd (nodup_places cs)
  have hplaces : ((writingOrder cs.zipIdx).map Prod.snd).Nodup :=
    (((perm_writingOrder hps).map Prod.snd).nodup_iff).mpr (nodup_places cs)
  have hparts : List.Forall₂ (fun k f ↦ (toPart cs.zipIdx k).fragment none = .ok f)
      (partKeys cs.zipIdx) fs := by
    rw [mapM_eq_ok_iff, ← List.zipIdx_map_fst 0 cs, ofFilters_eq hps] at hfs
    exact List.forall₂_map_left_iff.mp hfs
  have hfragments : ∀ p ∈ writingOrder cs.zipIdx, ∃ f, p.1.fragment none = .ok f := by
    intro p hp
    obtain ⟨k, hk, hp⟩ := List.mem_flatMap.mp hp
    obtain ⟨f, hf⟩ := exists_of_forall₂ hparts hk
    obtain ⟨gs, hgs, -⟩ := Part.fragment_eq_ok hf
    rw [filters_toPart] at hgs
    exact exists_of_forall₂ hgs (List.mem_map_of_mem hp)
  obtain ⟨predicate, hr⟩ := exists_renders j hplaces hfragments
  have htexts : (Fragment.textsFrom (j + boundBy []) fs).map String.toList =
      (partKeys cs.zipIdx).map (PartKey.text predicate cs.zipIdx) :=
    textsFrom_parts hr hplaces rfl hparts
  refine ⟨predicate, hr, ?_⟩
  rw [Fragment.toList_textFrom_join, ← htexts]
  rfl

/-- The condition of a filter list and what it means. Each filter is written once. Cut at `AND`
outside of quotes and parentheses, the text falls into one part for each filter without a group and
one for each group, in the order in which they first appear; the part of a group has its filters
between `OR`, in their order and in parentheses. Where its predicates are read as truth values and
`AND` binds tighter than `OR`, the text holds if the filters without a group hold and one filter of
each group. -/
theorem condition_of_addWhere (b : Bindings) {cs : List Filter} (hne : cs ≠ [])
    {text : Option String} (h : (b.addWhere cs).1 = .ok text) :
    ∃ (s : String) (predicate : Nat → String), text = some s ∧
      Renders b.values.length (writingOrder cs.zipIdx) predicate ∧
      (writingOrder cs.zipIdx).Perm cs.zipIdx ∧
      splitOutside andMark s.toList =
        (partKeys cs.zipIdx).map (PartKey.text predicate cs.zipIdx) ∧
      ∀ truth : String → Bool, conditionHolds truth s.toList = true ↔
        FlatHolds (truth ∘ predicate) cs.zipIdx := by
  obtain ⟨condition, hcondition, rfl⟩ := map_eq_ok_iff.mp h
  cases condition with
  | none => exact absurd (whereFragment_eq_none_iff.mp hcondition) hne
  | some f =>
    obtain ⟨predicate, hr, htext⟩ := toList_textFrom_condition b.values.length hcondition
    have hperm := perm_writingOrder (.of_map Prod.snd (nodup_places cs))
    have hpredicate : ∀ p ∈ cs.zipIdx, IsPredicate (predicate p.2).toList := by
      intro p hp
      obtain ⟨f, hf, hp⟩ := hr p (hperm.mem_iff.mpr hp)
      rw [hp]
      exact Filter.isPredicate_fragment hf _
    have hterms : ∀ w ∈ (partKeys cs.zipIdx).map (PartKey.text predicate cs.zipIdx), IsTerm w := by
      intro w hw
      obtain ⟨k, hk, rfl⟩ := List.mem_map.mp hw
      exact isTerm_text hpredicate hk
    have hparts : (partKeys cs.zipIdx).map (PartKey.text predicate cs.zipIdx) ≠ [] := by
      obtain ⟨c, cs, rfl⟩ := List.exists_cons_of_ne_nil hne
      have hk : of (c, 0) ∈ partKeys (c :: cs).zipIdx :=
        mem_partKeys.mpr ⟨_, List.mem_cons_self, rfl⟩
      exact List.ne_nil_of_mem (List.mem_map_of_mem hk)
    refine ⟨_, predicate, rfl, hr, hperm, ?_, fun truth ↦ ?_⟩
    · rw [htext]
      exact Sql.splitOutside_intercalate (by decide) hparts fun w hw ↦
        (hterms w hw).closed (by decide)
    · rw [htext, Sql.conditionHolds_and truth hparts hterms, ← all_holds_iff, List.all_map,
        List.all_eq_true, List.all_eq_true]
      refine forall₂_congr fun k hk ↦ ?_
      rw [Function.comp_apply, operandHolds_text truth hpredicate hk]

/-- Two groups and a filter without one, each interrupted by another. -/
def interleavedFilters : List Filter :=
  [{ column := "a", operator := .eq, value := .string "x AND y", group := some 2 },
    { column := "b (AND)", operator := .is, value := .null },
    { column := "c->>d OR e", operator := .neq, value := .string "z", group := some 2 },
    { column := "f", operator := .gt, value := .string "5", group := some 1 }]

def interleavedText : String :=
  "(\"a\" = $2 OR \"c\"->>'d OR e' <> $3) AND \"b (AND)\" IS NULL AND (\"f\" > $4)"

theorem condition_of_addWhere_interleaved :
    (interleavedFilters ≠ [] ∧
      ((⟨[.integer 7]⟩ : Bindings).addWhere interleavedFilters).1 = .ok (some interleavedText)) ∧
    ∃ (s : String) (predicate : Nat → String), some interleavedText = some s ∧
      Renders 1 (writingOrder interleavedFilters.zipIdx) predicate ∧
      (writingOrder interleavedFilters.zipIdx).Perm interleavedFilters.zipIdx ∧
      splitOutside andMark s.toList = (partKeys interleavedFilters.zipIdx).map
        (PartKey.text predicate interleavedFilters.zipIdx) ∧
      ∀ truth : String → Bool, conditionHolds truth s.toList = true ↔
        FlatHolds (truth ∘ predicate) interleavedFilters.zipIdx := by
  have hne : interleavedFilters ≠ [] := List.cons_ne_nil _ _
  have htext : ((⟨[.integer 7]⟩ : Bindings).addWhere interleavedFilters).1 =
      .ok (some interleavedText) := by
    decide +kernel
  exact ⟨⟨hne, htext⟩, condition_of_addWhere ⟨[.integer 7]⟩ hne htext⟩

end

end RowGate
