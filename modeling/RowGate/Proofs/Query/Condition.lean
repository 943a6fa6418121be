import RowGate.Proofs.Text.Cut
import RowGate.Proofs.Text.Trim
import RowGate.Query.Condition

/-! # Reading a condition

A condition of a group is cut at the first word for an operator that stands between two points, so
its column is all that stands before the operator as long as the column holds no such word.

The items of a group are trimmed before they are read. Whether an item is a condition does not
depend on the blanks around it; only the value it compares with may.
-/

namespace RowGate

open Text

/-! ## Words for operators -/

theorem Text.toLower_of_isBlank {c : Char} (h : isBlank c = true) : c.toLower = c := by
  refine dif_neg ?_
  rintro ⟨hleast, hgreatest⟩
  have hleast : 65 ≤ c.toNat := UInt32.le_iff_toNat_le.mp hleast
  have hgreatest : c.toNat ≤ 90 := UInt32.le_iff_toNat_le.mp hgreatest
  simp only [isBlank] at h
  grind

namespace Operator

variable {op : Operator} {word : List Char}

/-- A word for an operator is its keyword, but for the case of the letters. -/
theorem lower_of_ofKeyword? (h : ofKeyword? word = some op) : lower word = op.keyword.toList := by
  rw [ofKeyword?] at h
  have hword := List.find?_some h
  exact (of_decide_eq_true hword).symm

/-- A word holds no character without case that its keyword does not hold. -/
theorem notMem_of_ofKeyword? (h : ofKeyword? word = some op) {c : Char} (hlower : c.toLower = c)
    (hc : c ∉ op.keyword.toList) : c ∉ word := by
  intro hmem
  have hkeyword : c.toLower ∈ lower word := List.mem_map_of_mem hmem
  rw [lower_of_ofKeyword? h, hlower] at hkeyword
  exact hc hkeyword

theorem ne_nil_of_ofKeyword? (h : ofKeyword? word = some op) : word ≠ [] := by
  rintro rfl
  have hkeyword := lower_of_ofKeyword? h
  cases op <;> exact absurd hkeyword (by decide)

theorem point_notMem_word (h : ofKeyword? word = some op) : '.' ∉ word :=
  notMem_of_ofKeyword? h rfl (by cases op <;> decide)

theorem isBlank_of_mem_word (h : ofKeyword? word = some op) {c : Char} (hc : c ∈ word) :
    isBlank c = false := by
  have hkeyword : op.keyword.toList.all (!isBlank ·) = true := by cases op <;> decide
  by_contra hblank
  rw [Bool.not_eq_false] at hblank
  refine notMem_of_ofKeyword? h (toLower_of_isBlank hblank) (fun hmem ↦ ?_) hc
  have hfull := List.all_eq_true.mp hkeyword c hmem
  rw [hblank] at hfull
  cases hfull

theorem operatorBefore?_word (h : ofKeyword? word = some op) (value : List Char) :
    Filter.operatorBefore? (word ++ '.' :: value) = some (op, value) := by
  simp [Filter.operatorBefore?, cutFirst_cons (point_notMem_word h), h]

end Operator

namespace Filter

variable {c word value : List Char} {op : Operator}

/-- No point in the column is taken for the one before the operator. -/
theorem splitCondition?_of_unworded (hc : ∀ w ∈ (pieces '.' c).tail, Operator.ofKeyword? w = none)
    (hword : Operator.ofKeyword? word = some op) (value : List Char) :
    splitCondition? (c ++ '.' :: (word ++ '.' :: value)) = some (c, op, value) := by
  induction c with
  | nil =>
    rw [List.nil_append, splitCondition?, if_pos rfl, Operator.operatorBefore?_word hword]
  | cons x c ih =>
    rw [List.cons_append, splitCondition?]
    by_cases hx : x = '.'
    · have hpieces : pieces '.' (x :: c) = [] :: pieces '.' c := by rw [pieces, if_pos hx]
      rw [hpieces, List.tail_cons] at hc
      obtain ⟨p, ps, rest, hp, hcut⟩ :=
        exists_cutFirst_append (d := '.') c (word ++ '.' :: value)
      have hfirst : Operator.ofKeyword? p = none := hc p (hp ▸ List.mem_cons_self)
      have hnone : operatorBefore? (c ++ '.' :: (word ++ '.' :: value)) = none := by
        simp [operatorBefore?, hcut, hfirst]
      rw [if_pos hx, hnone, ih fun w hw ↦ hc w (List.mem_of_mem_tail hw)]
      rfl
    · have hpieces : (pieces '.' (x :: c)).tail = (pieces '.' c).tail := by
        rw [pieces, if_neg hx]
        cases pieces '.' c <;> rfl
      rw [hpieces] at hc
      rw [if_neg hx, ih hc]
      rfl

/-- The value behind an operator is what the text ends with. -/
theorem suffix_of_operatorBefore? {s raw : List Char} (h : operatorBefore? s = some (op, raw)) :
    raw <:+ s := by
  rw [operatorBefore?] at h
  obtain ⟨⟨word, rest⟩, hcut, h⟩ := Option.bind_eq_some_iff.mp h
  obtain ⟨_, _, h⟩ := Option.bind_eq_some_iff.mp h
  cases h
  rw [eq_append_of_cutFirst hcut]
  exact (List.suffix_cons '.' raw).trans (List.suffix_append word _)

theorem suffix_of_splitCondition? {s column raw : List Char}
    (h : splitCondition? s = some (column, op, raw)) : raw <:+ s := by
  induction s generalizing column with
  | nil => cases h
  | cons c s ih =>
    have hlater : (splitCondition? s).map (fun p ↦ (c :: p.1, p.2)) = some (column, op, raw) →
        raw <:+ c :: s := by
      intro h
      obtain ⟨⟨column', _⟩, hs, hpair⟩ := Option.map_eq_some_iff.mp h
      cases hpair
      exact (ih hs).trans (List.suffix_cons c s)
    rw [splitCondition?] at h
    split at h
    · split at h
      next hbefore =>
        cases h
        exact (suffix_of_operatorBefore? hbefore).trans (List.suffix_cons c s)
      · exact hlater h
    · exact hlater h

end Filter

/-! ## Blanks around a condition -/

/-- Blanks hold no point, so they never move the place where a condition is cut. -/
theorem Text.AllBlank.point_notMem {a : List Char} (ha : AllBlank a) : '.' ∉ a := by
  intro h
  have hpoint : isBlank '.' = true := ha _ h
  exact absurd hpoint (by decide)

/-- What stands behind a separator-free tail joins what the cut leaves. -/
theorem Text.cutFirst_append {d : Char} {b : List Char} (hb : d ∉ b) (s : List Char) :
    cutFirst d (s ++ b) = (cutFirst d s).map fun p ↦ (p.1, p.2 ++ b) := by
  induction s with
  | nil =>
    induction b with
    | nil => rfl
    | cons c b ih =>
      rw [List.mem_cons, not_or] at hb
      have hc : c ≠ d := fun h ↦ hb.1 h.symm
      have hrest : cutFirst d b = none := ih hb.2
      simp [cutFirst, hc, hrest]
  | cons c s ih =>
    by_cases hc : c = d
    · simp [cutFirst, hc]
    · simp [cutFirst, hc, ih, Function.comp_def]

namespace Filter

theorem operatorBefore?_append {b : List Char} (hb : '.' ∉ b) (s : List Char) :
    operatorBefore? (s ++ b) = (operatorBefore? s).map fun p ↦ (p.1, p.2 ++ b) := by
  simp only [operatorBefore?, cutFirst_append hb]
  cases cutFirst '.' s with
  | none => rfl
  | some p => cases h : Operator.ofKeyword? p.1 <;> simp [h]

theorem splitCondition?_nil_of_notMem {b : List Char} (hb : '.' ∉ b) :
    splitCondition? b = none := by
  induction b with
  | nil => rfl
  | cons c b ih =>
    rw [List.mem_cons, not_or] at hb
    have hc : c ≠ '.' := fun h ↦ hb.1 h.symm
    simp [splitCondition?, hc, ih hb.2]

/-- A tail without points belongs to the value. -/
theorem splitCondition?_append_right {b : List Char} (hb : '.' ∉ b) (s : List Char) :
    splitCondition? (s ++ b) =
      (splitCondition? s).map fun p ↦ (p.1, p.2.1, p.2.2 ++ b) := by
  induction s with
  | nil => simpa [splitCondition?] using splitCondition?_nil_of_notMem hb
  | cons c s ih =>
    simp only [List.cons_append, splitCondition?, ih, operatorBefore?_append hb]
    by_cases hc : c = '.'
    · cases operatorBefore? s <;> simp [hc, Function.comp_def]
    · simp [hc, Function.comp_def]

/-- A lead without points belongs to the column. -/
theorem splitCondition?_append_left {a : List Char} (ha : '.' ∉ a) (s : List Char) :
    splitCondition? (a ++ s) = (splitCondition? s).map fun p ↦ (a ++ p.1, p.2) := by
  induction a with
  | nil => simp
  | cons c a ih =>
    rw [List.mem_cons, not_or] at ha
    have hc : c ≠ '.' := fun h ↦ ha.1 h.symm
    simp [splitCondition?, hc, ih ha.2, Function.comp_def]

end Filter

/-- Blanks behind a value decide over no operator: those that look at the value trim it first. -/
theorem FilterValue.isOk_ofText_append {b : List Char} (hb : AllBlank b) (op : Operator)
    (raw : List Char) : (ofText op (raw ++ b)).isOk = (ofText op raw).isOk := by
  cases op with
  | is =>
    simp only [ofText, trim_append_right hb]
    split <;> rfl
  | oneOf => simp only [ofText, trim_append_right hb]
  | stDWithin => simp only [ofText, trim_append_right hb]
  | _ => rfl

namespace Filter

theorem isOk_ofParts {column : List Char} {op : Operator} {raw fragment : List Char} :
    (ofParts column op raw fragment).isOk =
      (!(trim column).isEmpty && (FilterValue.ofText op raw).isOk) := by
  by_cases hc : trim column = []
  · simp [ofParts, hc, Except.isOk, Except.toBool]
  · have hne : (trim column).isEmpty = false := by simpa using hc
    simp only [ofParts, hc, hne, if_false]
    cases FilterValue.ofText op raw <;> rfl

/-- A condition stays one when the blanks around it are trimmed, and no other text becomes one. -/
theorem isOk_ofCondition_trim (s : List Char) :
    (ofCondition (trim s)).isOk = (ofCondition s).isOk := by
  obtain ⟨a, b, ha, hb, hs⟩ := exists_append_trim s
  generalize trim s = t at hs
  subst hs
  have hcut : splitCondition? (a ++ t ++ b) =
      (splitCondition? t).map fun p ↦ (a ++ p.1, p.2.1, p.2.2 ++ b) := by
    rw [splitCondition?_append_right hb.point_notMem, splitCondition?_append_left ha.point_notMem,
      Option.map_map]
    rfl
  simp only [ofCondition, hcut]
  cases splitCondition? t with
  | none => rfl
  | some p =>
    simp only [Option.map_some, isOk_ofParts, trim_append_left ha,
      FilterValue.isOk_ofText_append hb]

theorem ofParts_group {column : List Char} {op : Operator} {raw fragment : List Char} {f : Filter}
    (h : ofParts column op raw fragment = .ok f) : f.group = none := by
  by_cases hc : trim column = []
  · simp [ofParts, hc] at h
  · simp only [ofParts, hc, if_false] at h
    cases hv : FilterValue.ofText op raw with
    | error e =>
      rw [hv] at h
      cases h
    | ok v =>
      rw [hv] at h
      cases h
      rfl

theorem ofParam_group {name value : List Char} {f : Filter} (h : ofParam name value = .ok f) :
    f.group = none := by
  simp only [ofParam] at h
  split at h
  · cases h
  · split at h
    · exact ofParts_group h
    · split at h
      · cases h
      · split at h
        · exact ofParts_group h
        · cases h

/-- A condition names no group: the group that it stands in numbers it. -/
theorem ofCondition_group {s : List Char} {f : Filter} (h : ofCondition s = .ok f) :
    f.group = none := by
  rw [ofCondition] at h
  split at h
  · exact ofParts_group h
  · cases h

end Filter

end RowGate
