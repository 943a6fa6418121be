import RowGate.Proofs.Query.Balance
import RowGate.Proofs.Query.Group
import RowGate.Proofs.Query.WellTyped
import RowGate.Proofs.Text.Digit

/-! # Spelling names, numbers and values

How the words of a query text are written so that they are read back: plain names as they are,
numbers in decimal digits, and texts in double quotes, where a backslash stands before each quote
and each backslash. The reader undoes the two escapes one after the other; that this is the same as
undoing both at once is the point of `unquote_quoted`.
-/

namespace RowGate

open Text LogicTree

/-! ## Names -/

/-- The characters that have a meaning around names. -/
def nameMarks : List Char := '.' :: ':' :: groupMarks

/-- A name that is written as it is: it is not empty, begins and ends with no blank, and holds no
mark. -/
def isPlain (s : List Char) : Bool :=
  !s.isEmpty && s.head?.all (!isBlank ·) && s.getLast?.all (!isBlank ·) && s.all (· ∉ nameMarks)

section Names

variable {s : List Char}

theorem ne_nil_of_isPlain (h : isPlain s = true) : s ≠ [] := by
  rintro rfl
  cases h

/-- A plain name holds none of the marks. -/
theorem notMem_of_isPlain (h : isPlain s = true) {d : Char} (hd : d ∈ nameMarks) : d ∉ s := by
  simp only [isPlain, Bool.and_eq_true, List.all_eq_true, decide_eq_true_eq] at h
  exact fun hs ↦ h.2 d hs hd

theorem head_of_isPlain (h : isPlain s = true) : ∀ c ∈ s.head?, isBlank c = false := by
  simp only [isPlain, Bool.and_eq_true, Option.all_eq_true, Bool.not_eq_true'] at h
  exact h.1.1.2

theorem getLast_of_isPlain (h : isPlain s = true) : ∀ c ∈ s.getLast?, isBlank c = false := by
  simp only [isPlain, Bool.and_eq_true, Option.all_eq_true, Bool.not_eq_true'] at h
  exact h.1.2

/-- There are no blanks to trim from a plain name. -/
theorem trim_of_isPlain (h : isPlain s = true) : trim s = s :=
  trim_eq_self (head_of_isPlain h) (getLast_of_isPlain h)

/-- A plain name is not cut at commas, as it holds none. -/
theorem opaque_of_isPlain (h : isPlain s = true) : Brackets.Opaque ',' s :=
  .of_forall fun _ hc ↦ plain_iff.mp fun hd ↦
    notMem_of_isPlain h (List.mem_cons_of_mem _ (List.mem_cons_of_mem _ hd)) hc

/-- The last character is there and is no blank. -/
def EndsInk (s : List Char) : Prop := ∃ c, s.getLast? = some c ∧ isBlank c = false

theorem endsInk_iff : EndsInk s ↔ s.getLast?.any (!isBlank ·) = true := by
  simp [EndsInk, Option.any_eq_true]

/-- Whatever stands in front, the end is the same. -/
theorem EndsInk.append {t : List Char} (ht : EndsInk t) (s : List Char) : EndsInk (s ++ t) := by
  obtain ⟨c, hc, hblank⟩ := ht
  exact ⟨c, by rw [List.getLast?_append, hc, Option.some_or], hblank⟩

theorem EndsInk.ne_nil (h : EndsInk s) : s ≠ [] := by
  rintro rfl
  obtain ⟨c, hc, -⟩ := h
  cases hc

theorem endsInk_of_isPlain (h : isPlain s = true) : EndsInk s := by
  have hlast := List.getLast?_eq_some_getLast (ne_nil_of_isPlain h)
  exact ⟨_, hlast, getLast_of_isPlain h _ hlast⟩

/-- A text that begins with a trimmed one begins with no blank. -/
theorem trim_append_of_trim_eq (hne : s ≠ []) (h : trim s = s) {t : List Char} (ht : EndsInk t) :
    trim (s ++ t) = s ++ t := by
  obtain ⟨c, hc, hblank⟩ := ht.append s
  refine trim_eq_self ?_ fun d hd ↦ ?_
  · rw [List.head?_append_of_ne_nil s hne]
    exact head_of_trim_eq h
  · rw [hc] at hd
    cases hd
    exact hblank

/-- A plain name before a text that ends with no blank has no blanks to trim. -/
theorem trim_append_of_endsInk (h : isPlain s = true) {t : List Char} (ht : EndsInk t) :
    trim (s ++ t) = s ++ t :=
  trim_append_of_trim_eq (ne_nil_of_isPlain h) (trim_of_isPlain h) ht

/-- A list of items that are not blank is not blank. -/
theorem isBlankText_intercalate {items : List (List Char)} (hne : items ≠ [])
    (h : ∀ w ∈ items, EndsInk w) : isBlankText ([','].intercalate items) = false := by
  obtain ⟨w, ws, rfl⟩ := List.exists_cons_of_ne_nil hne
  obtain ⟨c, hc, hblank⟩ := h w List.mem_cons_self
  have hmem : c ∈ w := List.mem_of_mem_getLast? hc
  refine isBlankText_eq_false (c := c) ?_ hblank
  cases ws <;> simp [List.intercalate, hmem]

end Names

/-! ## Numbers -/

namespace Decimal

/-- Digits are read as a number without a sign. -/
theorem readInt?_of_isDigit {c : Char} (hc : c.isDigit = true) (s : List Char) :
    readInt? (c :: s) = (readNat? (c :: s)).map Int.ofNat := by
  rw [readInt?]
  · intro t h
    cases h
    exact absurd hc (by decide)
  · intro t h
    cases h
    exact absurd hc (by decide)

/-- An integer is read back from its decimal digits and its sign. -/
theorem readInt?_toString (n : Int) : readInt? (toString n).toList = some n := by
  cases n with
  | ofNat n =>
    have hread := readNat?_toString n
    have htext : (toString (Int.ofNat n)).toList = (toString n).toList := rfl
    rw [htext]
    cases hs : (toString n).toList with
    | nil =>
      rw [hs] at hread
      cases hread
    | cons c s =>
      rw [hs] at hread
      have hc : c.isDigit = true := by
        simp only [readNat?, List.all_cons] at hread
        grind
      rw [readInt?_of_isDigit hc, hread]
      rfl
  | negSucc n =>
    rw [toList_toString_negSucc, readInt?, readNat?_toString]
    rfl

/-- The text of a number holds no blanks. -/
theorem trim_toString (n : Int) : trim (toString n).toList = (toString n).toList := by
  have hdigits (n : Nat) : ∀ c ∈ (toString n).toList, isBlank c = false :=
    fun c hc ↦ isBlank_of_isDigit (isDigit_of_mem_toString c hc)
  have hall : ∀ c ∈ (toString n).toList, isBlank c = false := by
    cases n with
    | ofNat n => exact hdigits n
    | negSucc n =>
      rw [toList_toString_negSucc]
      exact List.forall_mem_cons.mpr ⟨by decide, hdigits (n + 1)⟩
  exact trim_eq_self (fun c hc ↦ hall c (List.mem_of_mem_head? hc))
    fun c hc ↦ hall c (List.mem_of_mem_getLast? hc)

/-- An integer of 64 bits is read back as one. -/
theorem readInt64?_toString {n : Int} (h : fitsInt64 n = true) :
    readInt64? (toString n).toList = some n := by
  rw [readInt64?, readInt?_toString, Option.filter_some_pos h]

end Decimal

/-! ## Quotes -/

/-- A backslash before each quote and each backslash. -/
def escaped (s : List Char) : List Char :=
  s.flatMap fun c => if c = '"' ∨ c = '\\' then ['\\', c] else [c]

/-- A text in double quotes. -/
def quoted (s : List Char) : List Char := '"' :: escaped s ++ ['"']

section Quotes

theorem escaped_cons_mark {c : Char} (hc : c = '"' ∨ c = '\\') (s : List Char) :
    escaped (c :: s) = '\\' :: c :: escaped s := by
  simp [escaped, hc]

theorem escaped_cons {c : Char} (hc : ¬(c = '"' ∨ c = '\\')) (s : List Char) :
    escaped (c :: s) = c :: escaped s := by
  simp [escaped, hc]

/-- No escaped text begins with a quote. -/
theorem head?_escaped (s : List Char) : (escaped s).head? ≠ some '"' := by
  cases s with
  | nil => exact fun h ↦ nomatch h
  | cons c s =>
    by_cases hc : c = '"' ∨ c = '\\'
    · rw [escaped_cons_mark hc]
      simp
    · rw [escaped_cons hc]
      simp [not_or.mp hc]

/-- Undoing the escapes of quotes leaves those of backslashes: a quote stands nowhere but behind the
backslash that escapes it. -/
theorem replacePair_escaped (s : List Char) :
    replacePair '\\' '"' '"' (escaped s) = replaceChar '\\' ['\\', '\\'] s := by
  induction s with
  | nil => rfl
  | cons c s ih =>
    rw [replaceChar, List.flatMap_cons, ← replaceChar, ← ih]
    by_cases hc : c = '"' ∨ c = '\\'
    · rw [escaped_cons_mark hc]
      rcases hc with rfl | rfl
      · simp [replacePair]
      · have hfirst : ¬('\\' = '\\' ∧ '\\' = '"') := by decide
        have hsecond : ¬('\\' = '\\' ∧ (escaped s).head? = some '"') :=
          fun h ↦ head?_escaped s h.2
        rw [replacePair, if_neg hfirst, replacePair_cons hsecond]
        simp
    · rw [escaped_cons hc, replacePair_cons fun h ↦ hc (.inr h.1), if_neg fun h ↦ hc (.inr h)]
      rfl

/-- Characters that are written twice are read back as one. -/
theorem replacePair_replaceChar (c : Char) (s : List Char) :
    replacePair c c c (replaceChar c [c, c] s) = s := by
  induction s with
  | nil => rfl
  | cons d s ih =>
    rw [replaceChar, List.flatMap_cons, ← replaceChar]
    by_cases hd : d = c
    · simp [hd, replacePair, ih]
    · rw [if_neg hd, List.singleton_append, replacePair_cons fun h ↦ hd h.1, ih]

/-- A quoted text is read back. -/
theorem unquote_quoted (s : List Char) : unquote (quoted s) = s := by
  rw [unquote, quoted, enclosed?_cons_append]
  dsimp only
  rw [replacePair_escaped, replacePair_replaceChar]

theorem endsInk_quoted (s : List Char) : EndsInk (quoted s) :=
  ⟨'"', List.getLast?_concat .., by decide⟩

/-- Blanks in quotes are not trimmed. -/
theorem trim_quoted (s : List Char) : trim (quoted s) = quoted s :=
  trim_cons_append (by decide) (by decide) _

end Quotes

namespace Brackets

/-- An escaped text ends at the quote behind it. -/
theorem inQuotes_escaped (s : List Char) : InQuotes (escaped s ++ ['"']) := by
  induction s with
  | nil => exact .close
  | cons c s ih =>
    by_cases hc : c = '"' ∨ c = '\\'
    · rw [escaped_cons_mark hc]
      exact .escape c ih
    · rw [escaped_cons hc]
      exact .char (not_or.mp hc).1 (not_or.mp hc).2 ih

/-- A quoted text is not cut, whatever it holds. -/
theorem Opaque.quoted {d : Char} (hd : d ≠ '"') (s : List Char) : Opaque d (quoted s) :=
  fun _ ↦ .quotes hd (inQuotes_escaped s)

end Brackets

/-! ## Values -/

namespace FilterValue

/-- How a value is written beside its operator. -/
def spelled : FilterValue → List Char
  | string s => quoted s.toList
  | number n => n.text.toList
  | bool b => (if b then "true" else "false").toList
  | null => "null".toList
  | strings items => listText (items.map fun s => quoted s.toList)

variable {op : Operator} {v : FilterValue}

/-- A list of quoted items is read back, also one with no items. -/
theorem ofText_strings (items : List String) :
    ofText .oneOf (strings items).spelled = .ok (strings items) := by
  have hlist : stripParens (trim (strings items).spelled) =
      [','].intercalate (items.map fun s ↦ quoted s.toList) := by
    rw [spelled, trim_listText, stripParens, enclosed?_listText, Option.getD_some]
  simp only [ofText, hlist]
  cases items with
  | nil => rfl
  | cons s items =>
    have hfull : isBlankText ([','].intercalate ((s :: items).map fun s ↦ quoted s.toList)) =
        false :=
      isBlankText_intercalate (by simp) (List.forall_mem_map.mpr fun s _ ↦ endsInk_quoted s.toList)
    have hopaque : ∀ w ∈ (s :: items).map (fun s ↦ quoted s.toList), Brackets.Opaque ',' w :=
      List.forall_mem_map.mpr fun s _ ↦ .quoted (by decide) s.toList
    have hitem (s : String) : String.ofList (unquote (trim (quoted s.toList))) = s := by
      rw [trim_quoted, unquote_quoted, String.ofList_toList]
    rw [hfull, Brackets.split_intercalate separates_comma (by simp) hopaque]
    simp [bind, Except.bind, pure, Except.pure, Function.comp_def, hitem]

/-- A value that suits its operator is read back. -/
theorem ofText_spelled (hop : op ≠ .stDWithin) (h : v.suits op = true) :
    ofText op v.spelled = .ok v := by
  cases op with
  | is =>
    cases v with
    | null => rfl
    | bool b => cases b <;> rfl
    | _ => cases h
  | oneOf =>
    cases v with
    | strings items => exact ofText_strings items
    | _ => cases h
  | stDWithin => exact absurd rfl hop
  | _ =>
    cases v with
    | string s => simp [ofText, spelled, unquote_quoted]
    | _ => cases h

/-- A value hides its commas in quotes and parentheses. -/
theorem opaque_spelled (h : v.suits op = true) : Brackets.Opaque ',' v.spelled := by
  match v with
  | .string s => exact .quoted (by decide) s.toList
  | .number n => cases op <;> cases h
  | .bool true | .bool false | .null => exact opaque_of_all (by decide)
  | .strings items =>
    exact .parens_intercalate separates_comma
      (List.forall_mem_map.mpr fun s _ ↦ .quoted (by decide) s.toList)

/-- Values are not empty, and end with no blank. -/
theorem endsInk_spelled (h : v.suits op = true) : EndsInk v.spelled := by
  match v with
  | .string s => exact endsInk_quoted s.toList
  | .number n => cases op <;> cases h
  | .bool true | .bool false => exact ⟨'e', by decide, by decide⟩
  | .null => exact ⟨'l', by decide, by decide⟩
  | .strings items => exact ⟨')', List.getLast?_concat .., by decide⟩

end FilterValue

end RowGate
