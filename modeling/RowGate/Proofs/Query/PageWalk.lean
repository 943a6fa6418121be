import Mathlib.Algebra.Order.Group.Nat
import Mathlib.Order.WellFounded
import RowGate.Proofs.Query.PageSize

/-! # Walking through pages

A client fetches page after page, each from where the last one ended. Main statement: under a
greatest total the pages hold the rows before it, each once and in order, and from then on nothing.

Each page goes on where the last one ended, whatever the policy. What a valid policy adds is that a
page stays before the greatest total, and holds a row as long as it begins there.
-/

namespace RowGate

open PaginationPolicy

namespace PageRange

variable (p : PageRange)

/-- The number of the row behind the page. -/
def stop : Nat := p.offset + p.limit.getD 0

/-- The numbers of the rows of the page. -/
def rows : List Nat := List.range' p.offset (p.limit.getD 0)

end PageRange

/-- The pages of a client that asks for the same limit each time. -/
def walk (limit : Option Nat) (policy : PaginationPolicy) : Nat → PageRange
  | 0 => normalize limit (some 0) policy
  | i + 1 => normalize limit (some (walk limit policy i).stop) policy

variable {limit : Option Nat} {policy : PaginationPolicy}

theorem offset_walk_succ (i : Nat) :
    (walk limit policy (i + 1)).offset = (walk limit policy i).stop := rfl

/-- Each page is the one that begins where it does. -/
theorem walk_eq_normalize (i : Nat) : walk limit policy i =
    normalize limit (some (walk limit policy i).offset) policy := by
  cases i <;> rfl

theorem monotone_offset_walk (limit : Option Nat) (policy : PaginationPolicy) :
    Monotone fun i ↦ (walk limit policy i).offset :=
  monotone_nat_of_le_succ fun _ ↦ Nat.le_add_right _ _

/-- Following pages leave no row out and hold none twice. -/
theorem flatMap_rows_walk (n : Nat) : (List.range n).flatMap (fun i ↦ (walk limit policy i).rows) =
    List.range (walk limit policy n).offset := by
  induction n with
  | zero => rfl
  | succ n ih =>
    rw [List.range_succ, List.flatMap_append, ih, List.flatMap_singleton, offset_walk_succ,
      PageRange.stop, PageRange.rows, List.range_eq_range', List.range_eq_range',
      ← List.range'_append_1, Nat.zero_add]

namespace PaginationPolicy

theorem ceiling_ne_zero {n : Int} (h : n = disabled ∨ 0 < n) : ceiling n ≠ 0 := by
  rcases h with rfl | h
  · exact ENat.top_ne_zero
  · rw [ceiling_of_nonneg h.le, Nat.cast_ne_zero]
    omega

/-- A row is asked for, if anything is. -/
theorem IsValid.asked_ne_zero (hp : policy.IsValid) (hlimit : ∀ l ∈ limit, 0 < l) :
    policy.asked limit ≠ 0 := by
  have hgiven : extent (limit.or (enabled? policy.defaultPageSize)) ≠ 0 := by
    cases limit with
    | some l => exact Nat.cast_ne_zero.mpr (hlimit l rfl).ne'
    | none => exact ceiling_ne_zero hp.defaultPageSize
  rw [asked]
  cases h : limit.or (enabled? policy.defaultPageSize) with
  | none => exact ENat.top_ne_zero
  | some l =>
    rw [h, extent_some] at hgiven
    have hsize := ceiling_ne_zero hp.maxPageSize
    exact (lt_min (pos_of_ne_zero hgiven) (pos_of_ne_zero hsize)).ne'

/-- A page stays before the greatest total, and holds a row if it begins there. -/
theorem IsValid.exists_limit (hp : policy.IsValid) (htotal : 0 < policy.maxTotalResults)
    (hlimit : ∀ l ∈ limit, 0 < l) (offset : Int) :
    ∃ l, (normalize limit (some offset) policy).limit = some l ∧
      l ≤ policy.maxTotalResults.toNat - offset.toNat ∧
      (offset < policy.maxTotalResults → 0 < l) := by
  have hsize : (normalize limit (some offset) policy).size =
      min (policy.asked limit) ((policy.maxTotalResults.toNat - offset.toNat : ℕ) : ℕ∞) := by
    rw [size_normalize, ceiling_of_nonneg htotal.le, Option.getD_some, ENat.natCast_sub]
  have hle := hsize.le.trans (min_le_right _ _)
  obtain ⟨l, hl, hrest⟩ := extent_le_iff.mp hle
  refine ⟨l, hl, hrest, fun hoffset ↦ ?_⟩
  rw [PageRange.size, hl, extent_some] at hsize
  have hrest : ((policy.maxTotalResults.toNat - offset.toNat : ℕ) : ℕ∞) ≠ 0 := by
    rw [Nat.cast_ne_zero]
    omega
  have hasked := pos_of_ne_zero (hp.asked_ne_zero hlimit)
  have hpos : (0 : ℕ∞) < l := hsize ▸ lt_min hasked (pos_of_ne_zero hrest)
  exact Nat.pos_of_ne_zero (Nat.cast_ne_zero.mp hpos.ne')

end PaginationPolicy

section Total

variable (hp : policy.IsValid) (htotal : 0 < policy.maxTotalResults)
  (hlimit : ∀ l ∈ limit, 0 < l)

include hp htotal hlimit

theorem exists_limit_walk (i : Nat) : ∃ l, (walk limit policy i).limit = some l ∧
    l ≤ policy.maxTotalResults.toNat - (walk limit policy i).offset ∧
    ((walk limit policy i).offset < policy.maxTotalResults.toNat → 0 < l) := by
  obtain ⟨l, hl, hrest, hpos⟩ := hp.exists_limit htotal hlimit (walk limit policy i).offset
  rw [← walk_eq_normalize] at hl
  exact ⟨l, hl, hrest, fun h ↦ hpos (by omega)⟩

/-- No page begins behind the greatest total. -/
theorem offset_walk_le (i : Nat) :
    (walk limit policy i).offset ≤ policy.maxTotalResults.toNat := by
  induction i with
  | zero => exact Nat.zero_le _
  | succ i ih =>
    obtain ⟨l, hl, hrest, -⟩ := exists_limit_walk hp htotal hlimit i
    rw [offset_walk_succ, PageRange.stop, hl, Option.getD_some]
    omega

/-- Each page goes on by a row at least, until the greatest total is reached. -/
theorem le_offset_walk (i : Nat) :
    min i policy.maxTotalResults.toNat ≤ (walk limit policy i).offset := by
  induction i with
  | zero => simp
  | succ i ih =>
    obtain ⟨l, hl, -, hpos⟩ := exists_limit_walk hp htotal hlimit i
    rw [offset_walk_succ, PageRange.stop, hl, Option.getD_some]
    by_cases hend : (walk limit policy i).offset < policy.maxTotalResults.toNat
    · have hstep : 0 < l := hpos hend
      omega
    · omega

theorem limit_walk_eq_some {i l : Nat} (h : (walk limit policy i).limit = some l) :
    (walk limit policy i).offset + l ≤ policy.maxTotalResults.toNat ∧
      (0 < l ↔ (walk limit policy i).offset < policy.maxTotalResults.toNat) := by
  obtain ⟨l', hl, hrest, hpos⟩ := exists_limit_walk hp htotal hlimit i
  have hle := offset_walk_le hp htotal hlimit i
  obtain rfl : l = l' := Option.some.inj (h.symm.trans hl)
  exact ⟨by omega, fun h ↦ by omega, hpos⟩

/-- Under a valid policy with a greatest total, a client that begins at the first row and goes on
where each page ended gets pages with rows at first and, after finitely many, empty ones only. The
rows of these pages are the rows before the greatest total, each once and in order, and every page
that begins behind it is empty. -/
theorem walk_covers_total : ∃ n,
    (∀ i, ∃ l, (walk limit policy i).limit = some l ∧
      (walk limit policy i).offset + l ≤ policy.maxTotalResults.toNat ∧
      (walk limit policy (i + 1)).offset = (walk limit policy i).offset + l ∧
      (0 < l ↔ i < n)) ∧
    (List.range n).flatMap (fun i ↦ (walk limit policy i).rows) =
      List.range policy.maxTotalResults.toNat ∧
    ∀ offset : Int, policy.maxTotalResults ≤ offset →
      (normalize limit (some offset) policy).limit = some 0 := by
  have hreached : ∃ n, (walk limit policy n).offset = policy.maxTotalResults.toNat := by
    refine ⟨policy.maxTotalResults.toNat, ?_⟩
    have hle := le_offset_walk hp htotal hlimit policy.maxTotalResults.toNat
    rw [Nat.min_self] at hle
    exact le_antisymm (offset_walk_le hp htotal hlimit _) hle
  have hend : (walk limit policy (Nat.find hreached)).offset = policy.maxTotalResults.toNat :=
    Nat.find_spec hreached
  -- The pages with rows are those before the first one that begins at the end.
  refine ⟨Nat.find hreached, fun i ↦ ?_, ?_, fun offset hoffset ↦ ?_⟩
  · obtain ⟨l, hl, -, -⟩ := exists_limit_walk hp htotal hlimit i
    obtain ⟨hinside, hpos⟩ := limit_walk_eq_some hp htotal hlimit hl
    have hnext : (walk limit policy (i + 1)).offset = (walk limit policy i).offset + l := by
      rw [offset_walk_succ, PageRange.stop, hl, Option.getD_some]
    refine ⟨l, hl, hinside, hnext, hpos.trans ⟨fun hbefore ↦ ?_, fun hbefore ↦ ?_⟩⟩
    · by_contra hafter
      have hgrown : (walk limit policy (Nat.find hreached)).offset ≤ (walk limit policy i).offset :=
        monotone_offset_walk limit policy (Nat.le_of_not_lt hafter)
      omega
    · exact lt_of_le_of_ne (offset_walk_le hp htotal hlimit i) (Nat.find_min hreached hbefore)
  · rw [flatMap_rows_walk, hend]
  · obtain ⟨l, hl, hrest, -⟩ := hp.exists_limit htotal hlimit offset
    have hempty : l = 0 := by omega
    rw [hl, hempty]

end Total

/-- Pages of three rows at most, of eight rows in all. -/
def eightRows : PaginationPolicy := ⟨3, 8, 5⟩

/-- The last page is cut by the greatest total. -/
theorem walk_covers_eightRows : eightRows.IsValid ∧ 0 < eightRows.maxTotalResults ∧
    (∀ l ∈ (none : Option Nat), 0 < l) ∧
    (List.range 4).map (walk none eightRows) =
      [⟨some 3, 0⟩, ⟨some 3, 3⟩, ⟨some 2, 6⟩, ⟨some 0, 8⟩] ∧
    ∃ n, (∀ i, ∃ l, (walk none eightRows i).limit = some l ∧
        (walk none eightRows i).offset + l ≤ eightRows.maxTotalResults.toNat ∧
        (walk none eightRows (i + 1)).offset = (walk none eightRows i).offset + l ∧
        (0 < l ↔ i < n)) ∧
      (List.range n).flatMap (fun i ↦ (walk none eightRows i).rows) =
        List.range eightRows.maxTotalResults.toNat ∧
      ∀ offset : Int, eightRows.maxTotalResults ≤ offset →
        (normalize none (some offset) eightRows).limit = some 0 := by
  have hp : eightRows.IsValid := ⟨.inr (by decide), .inr (by decide), .inr (by decide)⟩
  have htotal : 0 < eightRows.maxTotalResults := by decide
  have hlimit : ∀ l ∈ (none : Option Nat), 0 < l := fun _ h ↦ nomatch h
  exact ⟨hp, htotal, hlimit, by decide, walk_covers_total hp htotal hlimit⟩

end RowGate
