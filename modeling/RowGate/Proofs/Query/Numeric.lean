import Mathlib.Data.List.Basic
import Mathlib.Data.List.TakeDrop
import Mathlib.Data.List.TakeWhile
import RowGate.Proofs.Decimal.Finite
import RowGate.Proofs.Text.Digit
import RowGate.Query.Filter

/-! # Texts that look numeric

A text looks numeric if it has the characters of a number and is read as a finite double, and it is
then bound as an integer where it is read as one. The two readings agree on decimal integers.
-/

namespace RowGate

namespace Decimal

/-- Decimal digits behind an optional sign, and the integer that they denote. -/
inductive Denotes : List Char → ℤ → Prop
  | plain {ds : List Char} (hne : ds ≠ []) (hds : ∀ c ∈ ds, c.isDigit = true) :
    Denotes ds (Nat.ofDigitChars 10 ds 0)
  | plus {ds : List Char} (hne : ds ≠ []) (hds : ∀ c ∈ ds, c.isDigit = true) :
    Denotes ('+' :: ds) (Nat.ofDigitChars 10 ds 0)
  | minus {ds : List Char} (hne : ds ≠ []) (hds : ∀ c ∈ ds, c.isDigit = true) :
    Denotes ('-' :: ds) (-Nat.ofDigitChars 10 ds 0)

/-! ## Digits -/

section

variable {s ds : List Char} {negative : Bool}

/-- Digits are read as the number that they denote. -/
theorem readNat?_of_digits (hne : ds ≠ []) (hds : ∀ c ∈ ds, c.isDigit = true) :
    readNat? ds = some (Nat.ofDigitChars 10 ds 0) := by
  rw [readNat?, List.all_eq_true.mpr hds, List.isEmpty_eq_false_iff.mpr hne]
  rfl

/-- Digits by themselves have no sign. -/
theorem readSign_of_digits (hds : ∀ c ∈ ds, c.isDigit = true) : readSign ds = (false, ds) := by
  unfold readSign
  split
  next s => exact absurd (hds '-' List.mem_cons_self) (by decide)
  next s => exact absurd (hds '+' List.mem_cons_self) (by decide)
  next => rfl

/-- Digits without a sign are read as a number that is not negative. -/
theorem readInt?_of_digits (hne : ds ≠ []) (hds : ∀ c ∈ ds, c.isDigit = true) :
    readInt? ds = some (Nat.ofDigitChars 10 ds 0) := by
  unfold readInt?
  split
  next s => exact absurd (hds '+' List.mem_cons_self) (by decide)
  next s => exact absurd (hds '-' List.mem_cons_self) (by decide)
  next =>
    rw [readNat?_of_digits hne hds]
    rfl

/-- Nothing follows digits that are all of the text. -/
theorem spanDigits_of_digits (hds : ∀ c ∈ ds, c.isDigit = true) : spanDigits ds = (ds, []) := by
  rw [spanDigits, List.span_eq_takeWhile_dropWhile, List.takeWhile_eq_self_iff.mpr hds,
    List.dropWhile_eq_nil_iff.mpr hds]

theorem toLower_of_isDigit {c : Char} (h : c.isDigit = true) : c.toLower = c := by
  have hrange := Text.toNat_of_isDigit h
  unfold Char.toLower
  split
  next hupper =>
    have hmin : 65 ≤ c.toNat := UInt32.le_iff_toNat_le.mp hupper.1
    omega
  next => rfl

/-- Digits are no word, as the names of infinity and NaN are. -/
theorem ne_word_of_digits (hne : ds ≠ []) (hds : ∀ c ∈ ds, c.isDigit = true) {w : String} {d : Char}
    {t : List Char} (hw : w.toList = d :: t) (hd : d.isDigit = false) :
    String.ofList (ds.map Char.toLower) ≠ w := by
  rintro rfl
  obtain ⟨c, rest, rfl⟩ := List.exists_cons_of_ne_nil hne
  have hc := hds c List.mem_cons_self
  rw [String.toList_ofList, List.map_cons, toLower_of_isDigit hc] at hw
  obtain ⟨rfl, -⟩ := List.cons.inj hw
  exact absurd hc (Bool.eq_false_iff.mp hd)

/-- Digits behind a sign, or without one, are read as a number with no exponent. -/
theorem readScientific?_of_readSign (hsign : readSign s = (negative, ds)) (hne : ds ≠ [])
    (hds : ∀ c ∈ ds, c.isDigit = true) :
    readScientific? s = some ⟨negative, Nat.ofDigitChars 10 ds 0, 0⟩ := by
  have hwhole : ds.isEmpty = false := List.isEmpty_eq_false_iff.mpr hne
  rw [readScientific?, hsign]
  simp only [spanDigits_of_digits hds, readFraction, readExponent?, hwhole, Bool.false_and,
    List.append_nil]
  rfl

/-- Digits are no word, so the number that they are read as is made a double. -/
theorem readFloat?_of_readSign (hsign : readSign s = (negative, ds)) (hne : ds ≠ [])
    (hds : ∀ c ∈ ds, c.isDigit = true) :
    readFloat? s = some (Scientific.toFloat ⟨negative, Nat.ofDigitChars 10 ds 0, 0⟩) := by
  rw [readFloat?, readScientific?_of_readSign hsign hne hds, hsign]
  simp only
  split
  next h => exact absurd h (ne_word_of_digits hne hds rfl rfl)
  next h => exact absurd h (ne_word_of_digits hne hds rfl rfl)
  next h => exact absurd h (ne_word_of_digits hne hds rfl rfl)
  next => rfl

end

/-! ## Integers -/

variable {s : List Char} {n : ℤ}

/-- A decimal integer is read as what it denotes. -/
theorem readInt?_of_denotes (h : Denotes s n) : readInt? s = some n := by
  cases h with
  | plain hne hds => exact readInt?_of_digits hne hds
  | plus hne hds =>
    rw [readInt?, readNat?_of_digits hne hds]
    rfl
  | minus hne hds =>
    rw [readInt?, readNat?_of_digits hne hds]
    rfl

/-- The other reading of an integer, as a double. -/
theorem readFloat?_of_denotes (h : Denotes s n) :
    ∃ negative, readFloat? s = some (Scientific.toFloat ⟨negative, n.natAbs, 0⟩) := by
  cases h with
  | plain hne hds =>
    exact ⟨false, readFloat?_of_readSign (readSign_of_digits hds) hne hds⟩
  | plus hne hds => exact ⟨false, readFloat?_of_readSign rfl hne hds⟩
  | minus hne hds =>
    rw [Int.natAbs_neg]
    exact ⟨true, readFloat?_of_readSign rfl hne hds⟩

theorem any_isDigit_of_denotes (h : Denotes s n) : s.any Char.isDigit = true := by
  have hdigits {ds : List Char} (hne : ds ≠ []) (hds : ∀ c ∈ ds, c.isDigit = true) :
      ds.any Char.isDigit = true := by
    obtain ⟨c, hc⟩ := List.exists_mem_of_ne_nil ds hne
    exact List.any_eq_true.mpr ⟨c, hc, hds c hc⟩
  cases h with
  | plain hne hds => exact hdigits hne hds
  | plus hne hds | minus hne hds =>
    rw [List.any_cons, hdigits hne hds]
    exact Bool.or_true _

/-- A decimal integer has no characters but digits and signs. -/
theorem isDigit_or_sign_of_denotes (h : Denotes s n) :
    ∀ c ∈ s, c.isDigit = true ∨ c = '+' ∨ c = '-' := by
  intro c hc
  cases h with
  | plain _ hds => exact .inl (hds c hc)
  | plus _ hds =>
    rcases List.mem_cons.mp hc with rfl | hc
    · exact .inr (.inl rfl)
    · exact .inl (hds c hc)
  | minus _ hds =>
    rcases List.mem_cons.mp hc with rfl | hc
    · exact .inr (.inr rfl)
    · exact .inl (hds c hc)

end Decimal

variable {s : List Char} {n : ℤ}

/-- A text that looks numeric is read as a double. -/
theorem exists_readFloat?_of_looksNumeric {s : List Char} (h : looksNumeric s = true) :
    ∃ x, Decimal.readFloat? (Text.trim s) = some x := by
  rw [looksNumeric, Bool.and_eq_true] at h
  obtain ⟨-, hfinite⟩ := h
  split at hfinite
  next x hx => exact ⟨x, hx⟩
  next => cases hfinite

/-- A bound integer or double. -/
inductive SqlValue.IsNumber : SqlValue → Prop
  | integer (n : ℤ) : IsNumber (.integer n)
  | float (x : Float) : IsNumber (.float x)

/-- A text that looks numeric is bound as a number. -/
theorem exists_numeric?_of_looksNumeric {s : List Char} (h : looksNumeric s = true) :
    ∃ v, SqlValue.numeric? s = some v ∧ v.IsNumber := by
  obtain ⟨x, hx⟩ := exists_readFloat?_of_looksNumeric h
  rw [SqlValue.numeric?, if_pos h]
  simp only [hx]
  split
  next n hn => exact ⟨_, rfl, .integer n⟩
  next => exact ⟨_, rfl, .float x⟩

/-- What looks numeric is bound as a number, and nothing else is. -/
theorem isSome_numeric? (s : List Char) : (SqlValue.numeric? s).isSome = looksNumeric s := by
  cases h : looksNumeric s with
  | true =>
    obtain ⟨v, hv, -⟩ := exists_numeric?_of_looksNumeric h
    rw [hv]
    rfl
  | false =>
    rw [SqlValue.numeric?, if_neg (Bool.eq_false_iff.mp h)]
    rfl

/-- A decimal integer of 64 bits looks numeric, as its double is finite. -/
theorem looksNumeric_of_denotes (h : Decimal.Denotes (Text.trim s) n)
    (hfits : Decimal.fitsInt64 n = true) : looksNumeric s = true := by
  obtain ⟨negative, hfloat⟩ := Decimal.readFloat?_of_denotes h
  have hfinite : (Decimal.Scientific.toFloat ⟨negative, n.natAbs, 0⟩).isFinite = true := by
    rw [Decimal.fitsInt64, Bool.and_eq_true, decide_eq_true_eq, decide_eq_true_eq,
      Decimal.maxInt64] at hfits
    exact Decimal.isFinite_toFloat negative (by omega)
  rw [looksNumeric, Bool.and_eq_true, Bool.and_eq_true, List.all_eq_true, hfloat]
  refine ⟨⟨Decimal.any_isDigit_of_denotes h, fun c hc ↦ ?_⟩, hfinite⟩
  rcases Decimal.isDigit_or_sign_of_denotes h c hc with hdigit | rfl | rfl
  · rw [hdigit]
    rfl
  · rfl
  · rfl

/-- An integer in the range of 64 bits is bound as itself. -/
theorem numeric?_of_denotes (h : Decimal.Denotes (Text.trim s) n)
    (hfits : Decimal.fitsInt64 n = true) : SqlValue.numeric? s = some (.integer n) := by
  rw [SqlValue.numeric?, if_pos (looksNumeric_of_denotes h hfits)]
  simp only [Decimal.readInt64?, Decimal.readInt?_of_denotes h, Option.filter, hfits, if_true]

end RowGate
