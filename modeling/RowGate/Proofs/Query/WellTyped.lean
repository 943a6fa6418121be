import RowGate.Proofs.Outcome
import RowGate.Proofs.Query.Group
import RowGate.Query.Reader

/-! # Queries of query texts

What a query text can say is less than what a query can hold: the value of a filter is of the kind
that its operator takes, and only `count(*)` is an aggregate of no column. Every step of the reader
keeps that, and so does pagination.
-/

namespace RowGate

open Text LogicTree

/-- Values of the kind that an operator takes: a truth value or null, a list, or a text. -/
def FilterValue.suits : Operator → FilterValue → Bool
  | .is, .null | .is, .bool _ => true
  | .oneOf, .strings _ => true
  | .is, _ | .oneOf, _ => false
  | _, .string _ => true
  | _, _ => false

def Filter.WellTyped (f : Filter) : Prop := f.value.suits f.operator = true

def Aggregation.WellTyped (a : Aggregation) : Prop :=
  a.function = .countAll ∨ a.column.isSome = true

structure Query.WellTyped (q : Query) : Prop where
  filters : ∀ f ∈ q.filters, f.WellTyped
  aggregations : ∀ a ∈ q.aggregations, a.WellTyped

/-! ## Filters -/

/-- A value that is read for an operator suits the operator. -/
theorem FilterValue.suits_ofText {op : Operator} {raw : List Char} {v : FilterValue}
    (h : FilterValue.ofText op raw = .ok v) : v.suits op = true := by
  cases op with
  | is =>
    simp only [ofText] at h
    split at h <;> cases h <;> rfl
  | oneOf =>
    simp only [ofText] at h
    split at h
    · cases h
      rfl
    · obtain ⟨items, -, hv⟩ := bind_eq_ok_iff.mp h
      cases hv
      rfl
  | _ =>
    cases h
    rfl

namespace Filter

variable {f : Filter}

/-- A filter is made of an operator and a value that is read for it. -/
theorem wellTyped_ofParts {column raw fragment : List Char} {op : Operator}
    (h : ofParts column op raw fragment = .ok f) : f.WellTyped := by
  rw [ofParts] at h
  split at h
  · cases h
  · obtain ⟨v, hv, hf⟩ := bind_eq_ok_iff.mp h
    cases hf
    exact FilterValue.suits_ofText hv

theorem wellTyped_ofCondition {expr : List Char} (h : ofCondition expr = .ok f) : f.WellTyped := by
  rw [ofCondition] at h
  split at h
  · exact wellTyped_ofParts h
  · cases h

/-- Whichever point of the name is the one before the operator, the filter is well typed. -/
theorem wellTyped_ofParam {name value : List Char} (h : ofParam name value = .ok f) :
    f.WellTyped := by
  simp only [ofParam] at h
  split at h
  · cases h
  · split at h
    · exact wellTyped_ofParts h
    · split at h
      · cases h
      · split at h
        · exact wellTyped_ofParts h
        · cases h

end Filter

/-! ## Groups -/

/-- Whatever a reader of groups reads is well typed. -/
def GroupReader.Sound (inner : GroupReader) : Prop :=
  ∀ conn number last body r, inner conn number last body = .ok r → ∀ f ∈ r.1, f.WellTyped

variable {inner : GroupReader} {conn : Connective} {number : Option Nat} {last : Nat}
  {r : Numbered}

/-- An item is a condition, or a group that the inner reader reads. -/
theorem wellTyped_readItem (hinner : inner.Sound) {whole item : List Char}
    (h : readItem inner conn number whole item last = .ok r) : ∀ f ∈ r.1, f.WellTyped := by
  rw [readItem] at h
  split at h
  · cases h
  · split at h
    · exact hinner _ _ _ _ _ h
    · split at h
      · split at h
        · cases h
        · exact hinner _ _ _ _ _ h
      · obtain ⟨f, hf, hr⟩ := bind_eq_ok_iff.mp h
        cases hr
        intro g hg
        rw [List.mem_singleton.mp hg]
        exact (Filter.wellTyped_ofCondition hf : f.WellTyped)

/-- The filters of a list are those of its items. -/
theorem wellTyped_readItems (hinner : inner.Sound) {whole : List Char}
    {items : List (List Char)} (h : readItems inner conn number whole items last = .ok r) :
    ∀ f ∈ r.1, f.WellTyped := by
  induction items generalizing last r with
  | nil =>
    cases h
    exact fun f hf ↦ nomatch hf
  | cons item items ih =>
    rw [readItems_cons] at h
    obtain ⟨first, hfirst, h⟩ := bind_eq_ok_iff.mp h
    obtain ⟨rest, hrest, hr⟩ := bind_eq_ok_iff.mp h
    cases hr
    intro f hf
    rcases List.mem_append.mp hf with hf | hf
    · exact wellTyped_readItem hinner hfirst f hf
    · exact ih hrest f hf

/-- Groups at every depth hold well-typed filters only, by induction on the depth that is left. -/
theorem sound_readGroupWithin (fuel : Nat) : GroupReader.Sound (readGroupWithin fuel) := by
  induction fuel with
  | zero => exact fun _ _ _ _ _ h ↦ nomatch h
  | succ fuel ih =>
    intro conn number last body r h
    simp only [readGroupWithin] at h
    split at h
    · cases h
    · obtain ⟨items, -, h⟩ := bind_eq_ok_iff.mp h
      split at h
      · cases h
      · split at h
        · exact wellTyped_readItems ih h
        · split at h
          · exact wellTyped_readItems ih h
          · exact wellTyped_readItems ih h

/-! ## Select items -/

/-- A call without a column is only read as the one that counts rows. -/
theorem wellTyped_readAggregate {expr : List Char} {a : Aggregation}
    (h : readAggregate expr = .ok (some a)) : a.WellTyped := by
  simp only [readAggregate] at h
  split at h
  · cases h
  · split at h
    · cases h
    · split at h
      · cases h
      · split at h
        · cases h
        · split at h
          · split at h
            · cases h
              exact .inl rfl
            · cases h
          · cases h
            exact .inr rfl

namespace Query

variable {q q' : Query}

/-- The filters and aggregates of a well-typed query, and some more. -/
theorem WellTyped.extend (hq : q.WellTyped) (fs : List Filter) (hfs : ∀ f ∈ fs, f.WellTyped)
    (as : List Aggregation) (has : ∀ a ∈ as, a.WellTyped)
    (hfilters : q'.filters = q.filters ++ fs)
    (haggregations : q'.aggregations = q.aggregations ++ as) : q'.WellTyped where
  filters := by
    rw [hfilters, List.forall_mem_append]
    exact ⟨hq.filters, hfs⟩
  aggregations := by
    rw [haggregations, List.forall_mem_append]
    exact ⟨hq.aggregations, has⟩

/-- A select item adds a column, or an aggregate that is well typed. -/
theorem WellTyped.addSelectItem (hq : q.WellTyped) {raw : List Char}
    (h : q.addSelectItem raw = .ok q') : q'.WellTyped := by
  simp only [Query.addSelectItem] at h
  split at h
  · cases h
  · split at h
    · cases h
    · split at h
      · cases h
      next a ha =>
        cases h
        have hwell := wellTyped_readAggregate ha
        refine hq.extend [] (List.forall_mem_nil _) [{ a with label := _ }] ?_ (by simp) rfl
        rintro b hb
        rw [List.mem_singleton.mp hb]
        exact hwell
      · cases h
        exact ⟨hq.filters, hq.aggregations⟩

/-- Pagination changes neither the filters nor the aggregates. -/
theorem WellTyped.paginate (hq : q.WellTyped) (policy : PaginationPolicy) :
    (q.paginate policy).WellTyped := ⟨hq.filters, hq.aggregations⟩

end Query

/-! ## Parameters -/

namespace Draft

variable {d d' : Draft}

/-- A reserved parameter keeps the query well typed, whichever it is. -/
theorem wellTyped_readReserved (hd : d.query.WellTyped) {value : List Char} {name : ReservedName}
    (h : d.readReserved value name = .ok d') : d'.query.WellTyped := by
  cases name with
  | select =>
    simp only [readReserved] at h
    split at h
    · cases h
      exact hd
    · obtain ⟨items, -, h⟩ := bind_eq_ok_iff.mp h
      obtain ⟨q, hq, h⟩ := bind_eq_ok_iff.mp h
      cases h
      exact foldlM_preserves (fun _ _ _ hq h ↦ hq.addSelectItem h) hd hq
  | order =>
    obtain ⟨items, -, h⟩ := bind_eq_ok_iff.mp h
    obtain ⟨terms, -, h⟩ := bind_eq_ok_iff.mp h
    cases h
    exact ⟨hd.filters, hd.aggregations⟩
  | limit | offset | count =>
    simp only [readReserved] at h
    split at h
    · cases h
      exact ⟨hd.filters, hd.aggregations⟩
    · cases h
  | groupBy =>
    cases h
    exact ⟨hd.filters, hd.aggregations⟩
  | and | or =>
    obtain ⟨⟨filters, last⟩, hr, h⟩ := bind_eq_ok_iff.mp h
    cases h
    exact hd.extend filters (sound_readGroupWithin _ _ _ _ _ _ hr) [] (List.forall_mem_nil _) rfl
      (by simp)

/-- A parameter keeps the query well typed. -/
theorem wellTyped_read (hd : d.query.WellTyped) {param : List Char × List Char}
    (h : d.read param = .ok d') : d'.query.WellTyped := by
  rw [read] at h
  split at h
  · exact wellTyped_readReserved hd h
  · obtain ⟨f, hf, h⟩ := bind_eq_ok_iff.mp h
    cases h
    refine hd.extend [f] ?_ [] (List.forall_mem_nil _) rfl (by simp)
    exact List.forall_mem_singleton.mpr (Filter.wellTyped_ofParam hf)

end Draft

/-- Queries that are read from a text are well typed. -/
theorem Query.wellTyped_parse {text : String} {q : Query} (h : Query.parse text = .ok q) :
    q.WellTyped := by
  obtain ⟨d, hd, hq⟩ := bind_eq_ok_iff.mp h
  cases hq
  refine foldlM_preserves (P := fun d : Draft ↦ d.query.WellTyped)
    (fun _ _ _ hd h ↦ Draft.wellTyped_read hd h) ?_ hd
  exact ⟨fun f hf ↦ (nomatch hf), fun a ha ↦ (nomatch ha)⟩

end RowGate
