import RowGate.Sql.Value

/-! # The values of a row

The members of a row object are bound as values, and a value has a form in JSON again. On the way
only one kind of member changes: an integer that needs all 64 bits, because integers are bound with
a sign.
-/

namespace RowGate

namespace Json

/-- What a reader of documents makes of a number: an integer of 64 bits, with or without a sign, or
a double that is neither infinite nor NaN. -/
def Number.IsRead : Number → Prop
  | .int n => -Decimal.maxInt64 - 1 ≤ n ∧ n ≤ Decimal.maxUInt64
  | .float x => x.isFinite = true

/-- If the document is a number, it is one that a reader makes. -/
def IsRead (v : Json) : Prop := ∀ n, v = .number n → n.IsRead

/-- An integer beyond the integers with a sign. -/
def ExceedsInt64 (v : Json) : Prop := ∃ n, Decimal.maxInt64 < n ∧ v = .ofInt n

end Json

variable {v : Json} {members : List (String × Json)}

theorem Json.ofFloat_ne_ofInt (x : Float) (n : Int) : ofFloat x ≠ ofInt n := by
  rw [ofFloat]
  split
  · exact fun h ↦ nomatch h
  · exact fun h ↦ nomatch h

namespace SqlValue

/-- An integer comes back if 64 bits with a sign hold it; else it is bound as a double. -/
theorem toJson_ofJson_ofInt_iff (n : Int) :
    (ofJson (.ofInt n)).toJson = .ofInt n ↔ Decimal.fitsInt64 n = true := by
  rw [Json.ofInt, ofJson, ofNumber]
  split
  next h => exact iff_of_true rfl h
  next h => exact iff_of_false (Json.ofFloat_ne_ofInt _ n) h

theorem toJson_ofJson_float {x : Float} (h : x.isFinite = true) :
    (ofJson (.number (.float x))).toJson = .number (.float x) := by
  rw [ofJson, ofNumber, toJson, Json.ofFloat, if_pos h]

/-- A document that is no number is bound as it is. -/
theorem toJson_ofJson_of_ne_number (h : ∀ n, v ≠ .number n) : (ofJson v).toJson = v := by
  cases v with
  | number n => exact absurd rfl (h n)
  | null | bool | string | array | object => rfl

theorem toJson_ofJson_iff (h : v.IsRead) : (ofJson v).toJson = v ↔ ¬v.ExceedsInt64 := by
  by_cases hnumber : ∃ n, v = .number n
  · obtain ⟨n, rfl⟩ := hnumber
    have hread := h n rfl
    cases n with
    | float x =>
      refine iff_of_true (toJson_ofJson_float hread) ?_
      rintro ⟨n, -, ⟨⟩⟩
    | int n =>
      rw [← Json.ofInt, toJson_ofJson_ofInt_iff, Decimal.fitsInt64, Bool.and_eq_true,
        decide_eq_true_eq, decide_eq_true_eq]
      constructor
      · rintro ⟨-, hle⟩ ⟨m, hm, ⟨⟩⟩
        exact absurd hle (Int.not_le.mpr hm)
      · exact fun hexceeds ↦ ⟨hread.1, Int.not_lt.mp fun hlt ↦ hexceeds ⟨n, hlt, rfl⟩⟩
  · rw [not_exists] at hnumber
    refine iff_of_true (toJson_ofJson_of_ne_number hnumber) ?_
    rintro ⟨n, -, rfl⟩
    exact hnumber _ rfl

/-- The members of a row come back if each of them does. -/
theorem map_toJson_rowValues_iff : (rowValues members).map (fun m ↦ (m.1, m.2.toJson)) = members ↔
    ∀ m ∈ members, (ofJson m.2).toJson = m.2 := by
  induction members with
  | nil => simp [rowValues]
  | cons m members ih =>
    rw [rowValues] at ih ⊢
    rw [List.map_cons, List.map_cons, List.cons.injEq, ih, List.forall_mem_cons, Prod.ext_iff]
    simp

end SqlValue

/-- A value survives being bound, and a row object comes back with all its members, unless the value
or a member is an integer beyond the integers with a sign. -/
theorem bound_survives_iff (v : Json) (members : List (String × Json)) :
    (v.IsRead → ((SqlValue.ofJson v).toJson = v ↔ ¬v.ExceedsInt64)) ∧
    ((∀ m ∈ members, m.2.IsRead) →
      ((rowValues members).map (fun m ↦ (m.1, m.2.toJson)) = members ↔
        ∀ m ∈ members, ¬m.2.ExceedsInt64)) := by
  refine ⟨SqlValue.toJson_ofJson_iff, fun hread ↦ ?_⟩
  rw [SqlValue.map_toJson_rowValues_iff]
  exact forall₂_congr fun m hm ↦ SqlValue.toJson_ofJson_iff (hread m hm)

/-- The least integer with a sign, and an integer without one inside a list. -/
def counterRow : List (String × Json) :=
  [("low", .ofInt (-9223372036854775808)), ("name", .string "x"),
    ("seen", .array [.ofInt 18446744073709551615])]

theorem bound_survives_counterRow :
    (∀ m ∈ counterRow, m.2.IsRead) ∧
      (rowValues counterRow).map (fun m ↦ (m.1, m.2.toJson)) = counterRow ∧
      (SqlValue.ofJson (.object counterRow)).toJson = .object counterRow := by
  have hread : ∀ m ∈ counterRow, m.2.IsRead := by
    simp only [counterRow, List.forall_mem_cons, List.not_mem_nil, false_imp_iff, implies_true,
      and_true]
    refine ⟨?_, (nomatch ·, ·), (nomatch ·, ·)⟩
    rintro n ⟨⟩
    exact ⟨by decide, by decide⟩
  have hsigned : ∀ m ∈ counterRow, ¬m.2.ExceedsInt64 := by
    simp only [counterRow, List.forall_mem_cons, List.not_mem_nil, false_imp_iff, implies_true,
      and_true]
    refine ⟨?_, (nomatch ·), (nomatch ·)⟩
    rintro ⟨n, hn, ⟨⟩⟩
    exact absurd hn (by decide)
  obtain ⟨hobject, hrow⟩ := bound_survives_iff (.object counterRow) counterRow
  exact ⟨hread, (hrow hread).mpr hsigned, (hobject (nomatch ·, ·)).mpr (nomatch ·)⟩

/-- The greatest integer without a sign is one that a reader makes, and does not come back. -/
theorem maxUInt64_not_survives :
    (Json.ofInt 18446744073709551615).IsRead ∧
      (SqlValue.ofJson (.ofInt 18446744073709551615)).toJson ≠ .ofInt 18446744073709551615 := by
  refine ⟨?_, ?_⟩
  · rintro n ⟨⟩
    exact ⟨by decide, by decide⟩
  · exact mt (SqlValue.toJson_ofJson_ofInt_iff _).mp (by decide)

end RowGate
