import RowGate.Proofs.Sql.PathText

/-! # Positions that the server takes

An accessor of the server takes the name of a member, which is a string, or a position, which is
an integer of four bytes. A decimal integer beyond these is a number of another type, for which
there is no accessor. Main statement: the keys of a path keep to that unless one of them is a number
above the integers of four bytes and not above the natural numbers of four bytes.
-/

namespace RowGate

open Sql (Token)

/-- The greatest integer of four bytes. -/
def maxPosition : ℕ := 2147483647

/-- What an accessor of the server takes as a key: a string, or a decimal integer of four bytes. -/
def Sql.Token.isAccessKey : Token → Bool
  | quoted .literal _ => true
  | lexeme .number s => (Decimal.readNat? s).any (· ≤ maxPosition)
  | _ => false

/-- How a key is written: digits of a natural number of four bytes as this number, and all else as a
string. -/
def keyToken (s : List Char) : Token :=
  match Decimal.readNat? s with
  | some n =>
    if n ≤ Decimal.maxUInt32 then .lexeme .number (toString n).toList else .quoted .literal s
  | none => .quoted .literal s

/-- Digits of a number between the two bounds. -/
def isWide (s : List Char) : Bool :=
  (Decimal.readNat? s).any fun n ↦ maxPosition < n && n ≤ Decimal.maxUInt32

theorem isAccessKey_keyToken (s : List Char) : (keyToken s).isAccessKey = !isWide s := by
  rw [keyToken, isWide]
  cases Decimal.readNat? s with
  | none => rfl
  | some n =>
    by_cases hfits : n ≤ Decimal.maxUInt32
    · simp only [if_pos hfits, Token.isAccessKey, Decimal.readNat?_toString, Option.any_some]
      simp [hfits, ← decide_not]
    · simp [hfits, Token.isAccessKey]

/-- A key that is read is written as its text demands. -/
theorem PathKey.token_ofText {s : List Char} {k : PathKey} (h : PathKey.ofText s = .ok k) :
    k.token = keyToken s := by
  have hfits (n : ℕ) : Decimal.fitsUInt32 n = decide (n ≤ Decimal.maxUInt32) := by
    simp [Decimal.fitsUInt32]
  rw [PathKey.ofText] at h
  split at h
  · cases h
  · rw [keyToken]
    split at h
    next n hn =>
      obtain ⟨hread, hn⟩ := Option.filter_eq_some_iff.mp hn
      rw [hfits, decide_eq_true_eq] at hn
      cases h
      rw [hread]
      exact (if_pos hn).symm
    next hn =>
      simp only at h
      split at h
      · cases h
      · cases h
        rw [token, String.toList_ofList]
        cases hread : Decimal.readNat? s with
        | none => rfl
        | some n =>
          have hlarge : ¬n ≤ Decimal.maxUInt32 := fun hle ↦ by
            rw [hread, Option.filter_some, hfits, decide_eq_true hle] at hn
            cases hn
          exact (if_neg hlarge).symm

theorem map_token_of_forall₂ {ss : List (List Char)} {steps : List PathStep}
    (h : List.Forall₂ (fun s step ↦ PathKey.ofText s = .ok step.key) ss steps) :
    (steps.map fun step ↦ step.key.token) = ss.map keyToken := by
  induction h with
  | nil => rfl
  | cons hkey _ ih => rw [List.map_cons, List.map_cons, PathKey.token_ofText hkey, ih]

/-- The text of a path that is read is its root and, for each step, an accessor and a key. The keys
are written as decimal integers without quotes or as strings, as their texts demand. The server's
accessors take all of them exactly if none is a number between the two bounds of four bytes. -/
theorem keys_taken_iff {raw : String} {p : ColumnPath} (h : ColumnPath.ofString raw = .ok p) :
    Sql.tokens p.fragment.text = some (.quoted .name p.column.name.toList ::
      p.steps.flatMap fun step ↦ [step.accessor.token, step.key.token]) ∧
    (p.steps.map fun step ↦ step.key.token) = (keyTexts raw).map keyToken ∧
    ((∀ step ∈ p.steps, step.key.token.isAccessKey = true) ↔
      ∀ s ∈ keyTexts raw, isWide s = false) := by
  have hread : readPath raw = .ok p := by rw [readPath, h]
  have hkeys : (p.steps.map fun step ↦ step.key.token) = (keyTexts raw).map keyToken :=
    map_token_of_forall₂ (readPath_eq_ok hread).2
  refine ⟨?_, hkeys, ?_⟩
  · rw [tokens_text_of_readPath hread, p.tokens_fragment]
    rfl
  · calc (∀ step ∈ p.steps, step.key.token.isAccessKey = true)
        ↔ ∀ t ∈ p.steps.map fun step ↦ step.key.token, t.isAccessKey = true := by simp
      _ ↔ ∀ t ∈ (keyTexts raw).map keyToken, t.isAccessKey = true := by rw [hkeys]
      _ ↔ ∀ s ∈ keyTexts raw, isWide s = false := by simp [isAccessKey_keyToken]

/-- The greatest position, one with zeros before it, and digits beyond both bounds. -/
theorem keys_taken_bounds :
    ∃ p, ColumnPath.ofString "t->007->2147483647->>4294967296" = .ok p ∧
      p.fragment.text = "\"t\"->7->2147483647->>'4294967296'" ∧
      ∀ step ∈ p.steps, step.key.token.isAccessKey = true := by
  have hread : ColumnPath.ofString "t->007->2147483647->>4294967296" =
      .ok ⟨⟨"t", by decide⟩, [⟨.document, .index 7⟩, ⟨.document, .index 2147483647⟩,
        ⟨.text, .name "4294967296"⟩]⟩ := by
    decide +kernel
  exact ⟨_, hread, by decide +kernel, (keys_taken_iff hread).2.2.mpr (by decide +kernel)⟩

/-- A natural number of four bytes that is no integer of four bytes. -/
theorem key_not_taken :
    ∃ p, ColumnPath.ofString "data->2147483648" = .ok p ∧
      p.fragment.text = "\"data\"->2147483648" ∧
      ∃ step ∈ p.steps, step.key.token.isAccessKey = false := by
  have hread : ColumnPath.ofString "data->2147483648" =
      .ok ⟨⟨"data", by decide⟩, [⟨.document, .index 2147483648⟩]⟩ := by
    decide +kernel
  exact ⟨_, hread, by decide +kernel, _, List.mem_cons_self, by decide +kernel⟩

end RowGate
