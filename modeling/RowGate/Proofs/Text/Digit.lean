import Mathlib.Data.String.Basic
import RowGate.Decimal.Integer
import RowGate.Text.Blank
import RowGate.Text.Printable

/-! # Decimal digits

Whole numbers are written in decimal digits and read back from them, and what digits are not:
blanks, control characters, or characters of more than one byte.
-/

namespace RowGate.Text

/-- The digits are the characters from 48 to 57. -/
theorem toNat_of_isDigit {c : Char} (h : c.isDigit = true) : 48 ≤ c.toNat ∧ c.toNat ≤ 57 := by
  simpa [Char.isDigit, UInt32.le_iff_toNat_le] using h

theorem isBlank_of_isDigit {c : Char} (h : c.isDigit = true) : isBlank c = false := by
  have hrange := toNat_of_isDigit h
  simp only [isBlank]
  grind

theorem isControl_of_isDigit {c : Char} (h : c.isDigit = true) : isControl c = false := by
  have hrange := toNat_of_isDigit h
  simp only [isControl]
  grind

/-- Digits take one byte each. -/
theorem utf8Len_of_isDigit {s : List Char} (h : ∀ c ∈ s, c.isDigit = true) :
    String.utf8Len s = s.length := by
  induction s with
  | nil => rfl
  | cons c s ih =>
    obtain ⟨hc, hs⟩ := List.forall_mem_cons.mp h
    have hsize : c.utf8Size = 1 := by
      rw [Char.utf8Size_eq_one_iff, UInt32.le_iff_toNat_le]
      exact (toNat_of_isDigit hc).2.trans (by decide)
    rw [String.utf8Len_cons, ih hs, hsize, List.length_cons]

/-- A natural number is written in its decimal digits. -/
theorem toList_toString (n : Nat) : (toString n).toList = Nat.toDigits 10 n := Nat.toList_repr

theorem isDigit_of_mem_toString {n : Nat} : ∀ c ∈ (toString n).toList, c.isDigit = true := by
  rw [toList_toString]
  exact fun c hc ↦ Nat.isDigit_of_mem_toDigits (by decide) (by decide) hc

/-- A negative number has a sign in front of its digits. -/
theorem toList_toString_negSucc (n : Nat) :
    (toString (Int.negSucc n)).toList = '-' :: (toString (n + 1)).toList := by
  simp [toString, Int.repr]

end RowGate.Text

namespace RowGate.Decimal

open Text

/-- The digits of a number are read as the number. -/
theorem readNat?_toString (n : Nat) : readNat? (toString n).toList = some n := by
  have hfilled : (toString n).toList.isEmpty = false := by simp
  have hall : (toString n).toList.all Char.isDigit = true :=
    List.all_eq_true.mpr isDigit_of_mem_toString
  have hvalue : digitsValue (toString n).toList = n := by
    rw [toList_toString]
    exact Nat.ofDigitChars_toDigits (by decide) (by decide)
  rw [readNat?, hfilled, hall, hvalue]
  rfl

end RowGate.Decimal
