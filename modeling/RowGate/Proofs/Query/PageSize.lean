import Mathlib.Data.ENat.Lattice
import Mathlib.Data.Int.ConditionallyCompleteOrder
import RowGate.Config.App

/-! # The size of a page

A page is as long as its limit, and without one it has no end. Its size is the smaller of two
bounds: what is asked for, which the greatest page cuts where something is asked for, and what the
greatest total leaves behind the offset. A disabled setting stands for infinity.

What a policy promises about its pages follows from this one equation: when the greatest page bounds
them, and in which of its arguments the size grows or shrinks.
-/

namespace RowGate

/-- A number of rows, where no number means that there is no bound. -/
def extent : Option Nat → ℕ∞
  | some n => n
  | none => ⊤

@[simp] theorem extent_some (n : Nat) : extent (some n) = n := rfl

@[simp] theorem extent_none : extent none = ⊤ := rfl

/-- Without a bound there is no number that is large enough. -/
theorem extent_le_iff {limit : Option Nat} {n : Nat} :
    extent limit ≤ n ↔ ∃ l, limit = some l ∧ l ≤ n := by
  cases limit with
  | none => simp
  | some l => simp

namespace PageRange

/-- How many rows the page has at most. -/
def size (p : PageRange) : ℕ∞ := extent p.limit

end PageRange

namespace PaginationPolicy

theorem enabled?_of_nonneg {n : Int} (h : 0 ≤ n) : enabled? n = some n.toNat := if_pos h

theorem enabled?_of_neg {n : Int} (h : n < 0) : enabled? n = none := if_neg (Int.not_le.mpr h)

/-- A setting is enabled if it is not negative. -/
theorem isSome_enabled? (n : Int) : (enabled? n).isSome = true ↔ 0 ≤ n := by
  rcases Int.lt_or_le n 0 with h | h
  · simp [enabled?_of_neg h, Int.not_le.mpr h]
  · simp [enabled?_of_nonneg h, h]

/-- What a setting allows. -/
def ceiling (n : Int) : ℕ∞ := extent (enabled? n)

theorem ceiling_of_nonneg {n : Int} (h : 0 ≤ n) : ceiling n = n.toNat := by
  rw [ceiling, enabled?_of_nonneg h, extent_some]

/-- A disabled setting allows any number. -/
theorem ceiling_of_neg {n : Int} (h : n < 0) : ceiling n = ⊤ := by
  rw [ceiling, enabled?_of_neg h, extent_none]

/-- A setting that is in force allows more when it is raised or disabled. -/
theorem ceiling_le_ceiling {m n : Int} (hm : 0 ≤ m) (h : m ≤ n ∨ n < 0) :
    ceiling m ≤ ceiling n := by
  rcases Int.lt_or_le n 0 with hn | hn
  · rw [ceiling_of_neg hn]
    exact le_top
  · have hmn : m ≤ n := h.resolve_right (Int.not_lt.mpr hn)
    rw [ceiling_of_nonneg hm, ceiling_of_nonneg hn]
    exact Nat.cast_le.mpr (Int.toNat_le_toNat hmn)

variable (policy : PaginationPolicy)

/-- What is asked for, by the request or else by the default, up to the greatest page. -/
noncomputable def asked (limit : Option Nat) : ℕ∞ :=
  match limit.or (enabled? policy.defaultPageSize) with
  | some l => min l (ceiling policy.maxPageSize)
  | none => ⊤

/-- A limit is cut to the greatest page. -/
theorem asked_some (l : Nat) : policy.asked (some l) = min (l : ℕ∞) (ceiling policy.maxPageSize) :=
  rfl

variable {policy}

/-- The greatest page bounds nothing where nothing is asked for. -/
theorem asked_le_iff (hsize : 0 ≤ policy.maxPageSize) (limit : Option Nat) :
    policy.asked limit ≤ ceiling policy.maxPageSize ↔
      limit.isSome = true ∨ 0 ≤ policy.defaultPageSize := by
  have hasked : (limit.or (enabled? policy.defaultPageSize)).isSome = true ↔
      limit.isSome = true ∨ 0 ≤ policy.defaultPageSize := by
    rw [Option.isSome_or, Bool.or_eq_true, isSome_enabled?]
  rw [← hasked, asked]
  cases limit.or (enabled? policy.defaultPageSize) with
  | some l => simp
  | none => simp [ceiling_of_nonneg hsize]

/-- A greater page lets no limit ask for less. -/
theorem asked_le_asked {policy' : PaginationPolicy}
    (hdefault : policy.defaultPageSize = policy'.defaultPageSize)
    (hsize : ceiling policy.maxPageSize ≤ ceiling policy'.maxPageSize) (limit : Option Nat) :
    policy.asked limit ≤ policy'.asked limit := by
  rw [asked, asked, hdefault]
  cases limit.or (enabled? policy'.defaultPageSize) with
  | some l => exact min_le_min_left _ hsize
  | none => exact le_top

end PaginationPolicy

open PaginationPolicy

variable {limit : Option Nat} {offset : Option Int} {policy policy' : PaginationPolicy}

theorem offset_normalize : (normalize limit offset policy).offset = (offset.getD 0).toNat := rfl

/-- A page has what is asked for, up to the end of the total. -/
theorem size_normalize : (normalize limit offset policy).size =
    min (policy.asked limit) (ceiling policy.maxTotalResults - (offset.getD 0).toNat) := by
  rw [PageRange.size, normalize, asked, ceiling, ceiling]
  cases limit.or (enabled? policy.defaultPageSize) <;> cases enabled? policy.maxPageSize <;>
    cases enabled? policy.maxTotalResults <;>
      simp [capLimit, Nat.mono_cast.map_min, min_assoc]

/-- A policy that allows more gives pages that are no smaller. -/
theorem size_normalize_le (hdefault : policy.defaultPageSize = policy'.defaultPageSize)
    (hsize : ceiling policy.maxPageSize ≤ ceiling policy'.maxPageSize)
    (htotal : ceiling policy.maxTotalResults ≤ ceiling policy'.maxTotalResults) :
    (normalize limit offset policy).size ≤ (normalize limit offset policy').size := by
  rw [size_normalize, size_normalize]
  exact min_le_min (asked_le_asked hdefault hsize limit) (tsub_le_tsub_right htotal _)

/-! ## The greatest page -/

/-- Each setting is disabled or positive. -/
structure PaginationPolicy.IsValid (policy : PaginationPolicy) : Prop where
  maxPageSize : policy.maxPageSize = disabled ∨ 0 < policy.maxPageSize
  maxTotalResults : policy.maxTotalResults = disabled ∨ 0 < policy.maxTotalResults
  defaultPageSize : policy.defaultPageSize = disabled ∨ 0 < policy.defaultPageSize

namespace Config

/-- A policy without a fault is valid. -/
theorem isValid_of_paginationFault? (h : paginationFault? policy = none) : policy.IsValid := by
  have hsetting {n : Int} (hn : ¬(n = 0 ∨ n < -1)) : n = disabled ∨ 0 < n := by
    simp only [disabled]
    omega
  simp only [paginationFault?, List.findSome?_cons, List.findSome?_nil] at h
  split_ifs at h with hsize htotal hdefault
  exact ⟨hsetting hsize, hsetting htotal, hsetting hdefault⟩

/-- A configuration that passes its checks has a valid policy. -/
theorem isValid_pagination {c : AppConfig} (h : fault? c = none) : c.pagination.IsValid := by
  simp only [fault?, Option.or_eq_none_iff] at h
  exact isValid_of_paginationFault? h.2.1

end Config

/-- In a configuration with a greatest page, a page is bounded by it exactly if a limit is requested
or given by default, or the rest of the greatest total is no longer. -/
theorem limit_le_maxPageSize_iff {c : AppConfig} (hc : Config.fault? c = none)
    (hsize : 0 < c.pagination.maxPageSize) (limit : Option Nat) (offset : Option Int) :
    (∃ l, (normalize limit offset c.pagination).limit = some l ∧
        (l : Int) ≤ c.pagination.maxPageSize) ↔
      limit.isSome = true ∨ 0 < c.pagination.defaultPageSize ∨
        0 < c.pagination.maxTotalResults ∧
          c.pagination.maxTotalResults - max 0 (offset.getD 0) ≤ c.pagination.maxPageSize := by
  obtain ⟨-, htotal, hdefault⟩ := Config.isValid_pagination hc
  generalize c.pagination = policy at hsize htotal hdefault ⊢
  simp only [disabled] at htotal hdefault
  have hgiven : 0 ≤ policy.defaultPageSize ↔ 0 < policy.defaultPageSize := by omega
  have hbound : (∃ l, (normalize limit offset policy).limit = some l ∧
      (l : Int) ≤ policy.maxPageSize) ↔
        (normalize limit offset policy).size ≤ ceiling policy.maxPageSize := by
    rw [PageRange.size, ceiling_of_nonneg hsize.le, extent_le_iff]
    refine exists_congr fun l ↦ and_congr_right fun _ ↦ ?_
    omega
  have hrest : ceiling policy.maxTotalResults - (offset.getD 0).toNat ≤
      ceiling policy.maxPageSize ↔ 0 < policy.maxTotalResults ∧
        policy.maxTotalResults - max 0 (offset.getD 0) ≤ policy.maxPageSize := by
    rw [ceiling_of_nonneg hsize.le]
    rcases htotal with htotal | htotal
    · rw [ceiling_of_neg (by omega), ENat.top_sub_natCast]
      simp [htotal]
    · rw [ceiling_of_nonneg htotal.le, ← ENat.natCast_sub, Nat.cast_le]
      omega
  rw [hbound, size_normalize, min_le_iff, asked_le_iff hsize.le, hrest, hgiven, or_assoc]

/-- A configuration that bounds the page and the total, and has no default. -/
def boundedTotal : AppConfig := { pagination := ⟨50, 1000, -1⟩ }

/-- Without a limit, the last page before the greatest total is still bounded by the greatest
page. -/
theorem limit_le_maxPageSize_lastPage : Config.fault? boundedTotal = none ∧
    0 < boundedTotal.pagination.maxPageSize ∧
    ∃ l, (normalize none (some 970) boundedTotal.pagination).limit = some l ∧
      (l : Int) ≤ boundedTotal.pagination.maxPageSize := by
  have hc : Config.fault? boundedTotal = none := by decide +kernel
  have hsize : 0 < boundedTotal.pagination.maxPageSize := by decide
  refine ⟨hc, hsize, ?_⟩
  rw [limit_le_maxPageSize_iff hc hsize]
  exact .inr (.inr ⟨by decide, by decide⟩)

/-- The greatest page bounds nothing where there is neither a limit nor a default: the page is as
long as the greatest total, and without one it has no end. -/
theorem limit_not_le_maxPageSize :
    (Config.fault? boundedTotal = none ∧ 0 < boundedTotal.pagination.maxPageSize ∧
      normalize none none boundedTotal.pagination = ⟨some 1000, 0⟩ ∧
      ¬∃ l, (normalize none none boundedTotal.pagination).limit = some l ∧
        (l : Int) ≤ boundedTotal.pagination.maxPageSize) ∧
    Config.fault? { pagination := ⟨50, -1, -1⟩ } = none ∧
      normalize none none ⟨50, -1, -1⟩ = ⟨none, 0⟩ := by
  refine ⟨⟨by decide +kernel, by decide, by decide, ?_⟩, by decide +kernel, by decide⟩
  rintro ⟨l, hl, hle⟩
  cases hl
  exact absurd hle (by decide)

/-! ## Smaller and larger pages -/

section Monotone

variable (limit) (offset) (policy)

/-- A later page is no larger. -/
theorem antitone_size_offset :
    Antitone fun o : Int ↦ (normalize limit (some o) policy).size := by
  intro o o' ho
  simp only [size_normalize, Option.getD_some]
  refine min_le_min_left _ (tsub_le_tsub_left ?_ _)
  exact Nat.cast_le.mpr (Int.toNat_le_toNat ho)

/-- A higher limit makes no smaller page. -/
theorem monotone_size_limit :
    Monotone fun l : Nat ↦ (normalize (some l) offset policy).size := by
  intro l l' hl
  simp only [size_normalize, asked_some]
  have hcast : (l : ℕ∞) ≤ l' := Nat.cast_le.mpr hl
  exact min_le_min_right _ (min_le_min_right _ hcast)

/-- No page reaches past the greatest total, unless it begins there. -/
theorem offset_add_size_le (htotal : 0 ≤ policy.maxTotalResults) :
    (normalize limit offset policy).offset + (normalize limit offset policy).size ≤
      max (policy.maxTotalResults.toNat : ℕ∞) (normalize limit offset policy).offset := by
  rw [size_normalize, offset_normalize, ceiling_of_nonneg htotal]
  generalize (offset.getD 0).toNat = o
  generalize policy.maxTotalResults.toNat = total
  calc (o : ℕ∞) + min (policy.asked limit) (total - o)
      ≤ o + (total - o : ℕ) := by
        rw [ENat.natCast_sub]
        exact add_le_add_right (min_le_right _ _) _
    _ ≤ max (total : ℕ∞) o := by
        rw [← Nat.cast_add, ← Nat.mono_cast.map_max, Nat.cast_le]
        omega

end Monotone

/-- A page shrinks as its offset grows; it grows with the limit that is requested, and as a setting
is raised or disabled. It ends where the greatest total does, if not before. -/
theorem size_normalize_monotone (policy : PaginationPolicy) :
    (∀ limit, Antitone fun o : Int ↦ (normalize limit (some o) policy).size) ∧
    (∀ offset, Monotone fun l : Nat ↦ (normalize (some l) offset policy).size) ∧
    (0 ≤ policy.maxPageSize → ∀ n, policy.maxPageSize ≤ n ∨ n < 0 → ∀ limit offset,
      (normalize limit offset policy).size ≤
        (normalize limit offset { policy with maxPageSize := n }).size) ∧
    (0 ≤ policy.maxTotalResults → ∀ n, policy.maxTotalResults ≤ n ∨ n < 0 → ∀ limit offset,
      (normalize limit offset policy).size ≤
        (normalize limit offset { policy with maxTotalResults := n }).size) ∧
    (0 ≤ policy.maxTotalResults → ∀ limit offset,
      (normalize limit offset policy).offset + (normalize limit offset policy).size ≤
        max (policy.maxTotalResults.toNat : ℕ∞) (normalize limit offset policy).offset) := by
  refine ⟨fun limit ↦ antitone_size_offset limit policy,
    fun offset ↦ monotone_size_limit offset policy, ?_, ?_, ?_⟩
  · intro hsize n hn limit offset
    exact size_normalize_le rfl (ceiling_le_ceiling hsize hn) le_rfl
  · intro htotal n hn limit offset
    exact size_normalize_le rfl le_rfl (ceiling_le_ceiling htotal hn)
  · intro htotal limit offset
    exact offset_add_size_le limit offset policy htotal

/-- A policy whose pages are empty as long as it has a greatest page. -/
def emptyPages : PaginationPolicy := ⟨0, 20, 5⟩

/-- An offset before the first row counts as the first, and lifting the greatest page or the
greatest total makes no page smaller. -/
theorem size_normalize_monotone_emptyPages :
    0 ≤ emptyPages.maxPageSize ∧ 0 ≤ emptyPages.maxTotalResults ∧
    (normalize (some 8) (some 15) emptyPages).size ≤
      (normalize (some 8) (some (-9223372036854775808)) emptyPages).size ∧
    (normalize none (some (-3)) emptyPages).size ≤
      (normalize none (some (-3)) { emptyPages with maxPageSize := 7 }).size ∧
    (normalize none (some 12) emptyPages).size ≤
      (normalize none (some 12) { emptyPages with maxTotalResults := -1 }).size ∧
    (normalize none (some 25) emptyPages).offset + (normalize none (some 25) emptyPages).size ≤
      max (emptyPages.maxTotalResults.toNat : ℕ∞) (normalize none (some 25) emptyPages).offset := by
  have hsize : 0 ≤ emptyPages.maxPageSize := by decide
  have htotal : 0 ≤ emptyPages.maxTotalResults := by decide
  obtain ⟨hoffset, -, hraise, hlift, hend⟩ := size_normalize_monotone emptyPages
  refine ⟨hsize, htotal, hoffset (some 8) (by decide), ?_, ?_, hend htotal none (some 25)⟩
  · exact hraise hsize 7 (.inl (by decide)) none (some (-3))
  · exact hlift htotal (-1) (.inr (by decide)) none (some 12)

end RowGate
