import RowGate.Query.Brackets

/-! # Texts that a cut leaves whole

A text is *opaque* if no cut falls inside it and everything it opens it closes again, so the scan
goes on behind it as it stood before it. Main statement: opaque texts that are joined with the
separator are cut into the same texts again.
-/

namespace RowGate.Brackets

variable {d : Char}

/-! ## What a cut gives -/

/-- The faults of a text that is cut at separators. -/
def IsFault (f : ParseFault) : Prop := f = .unbalanced ∨ f = .unterminatedQuote

theorem IsFault.ne {f g : ParseFault} (h : IsFault f) (hg : ¬IsFault g) : f ≠ g := by
  rintro rfl
  exact hg h

theorem IsFault.ne_isOperand {f : ParseFault} (h : IsFault f) : f ≠ .isOperand :=
  h.ne (by simp [IsFault])

/-- A text that cannot be cut has a bracket or a quote too many. -/
theorem isFault_of_splitFrom {st : State} {s : List Char} {f : ParseFault}
    (h : splitFrom d st s = .error f) : IsFault f := by
  induction s generalizing st with
  | nil => grind [splitFrom, State.fault?, IsFault]
  | cons c s ih => grind [splitFrom, IsFault]

/-- A text that cannot be cut is not empty, and all of it is reported. -/
theorem split_eq_error {s : List Char} {e : ParseError} (h : split d s = .error e) :
    e.fragment = String.ofList s ∧ s ≠ [] ∧ IsFault e.fault := by
  rw [split] at h
  split at h
  · cases h
  next f hf =>
    cases h
    refine ⟨rfl, ?_, isFault_of_splitFrom hf⟩
    rintro rfl
    cases hf

theorem infix_intercalate {p : List Char} {ps : List (List Char)} (h : p ∈ ps) :
    p <:+: [d].intercalate ps := by
  induction ps with
  | nil => cases h
  | cons q ps ih =>
    cases ps with
    | nil =>
      rw [List.mem_singleton.mp h]
      simp [List.intercalate]
    | cons r ps =>
      rw [List.intercalate_cons_cons]
      rcases List.mem_cons.mp h with rfl | h
      · rw [List.append_assoc]
        exact (List.prefix_append p _).isInfix
      · exact (ih h).trans (List.suffix_append (q ++ [d]) _).isInfix

/-- A part is a stretch of the text. -/
theorem infix_of_split {s p : List Char} {ps : List (List Char)} (h : split d s = .ok ps)
    (hp : p ∈ ps) : p <:+: s :=
  intercalate_split h ▸ infix_intercalate hp

/-! ## Opaque texts -/

/-- A character that separates, and neither opens, closes nor quotes. -/
structure Separates (d : Char) : Prop where
  opening : opening? d = none
  closing : closing? d = none
  quote : d ≠ '"'

/-- The text is read as it stands, with no cut in it, from the brackets `bs` on. -/
def KeptIn (d : Char) (bs : List Shape) (w : List Char) : Prop :=
  ∀ rest, splitFrom d ⟨.outside, bs⟩ (w ++ rest) =
    (splitFrom d ⟨.outside, bs⟩ rest).map fun p ↦ (w ++ p.1, p.2)

/-- Kept in any brackets and outside of all. -/
def Opaque (d : Char) (w : List Char) : Prop := ∀ bs, KeptIn d bs w

variable {bs : List Shape} {w v : List Char}

theorem KeptIn.nil : KeptIn d bs [] := fun rest ↦ by
  rw [List.nil_append]
  cases splitFrom d ⟨.outside, bs⟩ rest <;> rfl

/-- Texts that are kept are kept one behind the other. -/
theorem KeptIn.append (hw : KeptIn d bs w) (hv : KeptIn d bs v) : KeptIn d bs (w ++ v) := by
  intro rest
  rw [List.append_assoc, hw, hv]
  cases splitFrom d ⟨.outside, bs⟩ rest <;> simp [Except.map]

/-- A character that neither opens, closes, quotes nor separates is kept. -/
theorem KeptIn.plain {c : Char} (ho : opening? c = none) (hc : closing? c = none)
    (hq : c ≠ '"') (hd : c ≠ d) : KeptIn d bs [c] := by
  intro rest
  simp only [List.cons_append, List.nil_append, splitFrom, State.step, ho, hc, hq, if_false]
  cases splitFrom d ⟨.outside, bs⟩ rest <;> simp [Except.map, hd]

/-- Inside brackets a separator is a character like any other. -/
theorem KeptIn.separator (hd : Separates d) (b : Shape) : KeptIn d (b :: bs) [d] := by
  intro rest
  simp only [List.cons_append, List.nil_append, splitFrom, State.step, hd.opening, hd.closing,
    hd.quote, if_false]
  cases splitFrom d ⟨.outside, b :: bs⟩ rest <;> simp [Except.map, State.isTop]

def Shape.left : Shape → Char
  | round => '('
  | square => '['
  | curly => '{'

def Shape.right : Shape → Char
  | round => ')'
  | square => ']'
  | curly => '}'

/-- A bracket outside of quotes is opened. -/
theorem step_left (b : Shape) (bs : List Shape) :
    State.step ⟨.outside, bs⟩ b.left = some ⟨.outside, b :: bs⟩ := by
  cases b <;> rfl

/-- A bracket outside of quotes closes the last one that is open. -/
theorem step_right (b : Shape) (bs : List Shape) :
    State.step ⟨.outside, b :: bs⟩ b.right = some ⟨.outside, bs⟩ := by
  cases b <;> rfl

/-- What is kept in one more bracket is kept together with it. -/
theorem KeptIn.brackets (hd : Separates d) {b : Shape} (hw : KeptIn d (b :: bs) w) :
    KeptIn d bs (b.left :: w ++ [b.right]) := by
  intro rest
  have hopen : b.left ≠ d := by
    rintro rfl
    cases b <;> exact absurd hd.opening (by decide)
  have hclose : b.right ≠ d := by
    rintro rfl
    cases b <;> exact absurd hd.closing (by decide)
  have hin : splitFrom d ⟨.outside, b :: bs⟩ (b.right :: rest) =
      (splitFrom d ⟨.outside, bs⟩ rest).map fun p ↦ (b.right :: p.1, p.2) := by
    simp only [splitFrom, step_right]
    cases splitFrom d ⟨.outside, bs⟩ rest <;> simp [Except.map, hclose]
  have htext : b.left :: w ++ [b.right] ++ rest = b.left :: (w ++ b.right :: rest) := by simp
  rw [htext, splitFrom, step_left]
  simp only [hw _, hin]
  cases splitFrom d ⟨.outside, bs⟩ rest <;> simp [Except.map, hopen]

/-- In brackets, texts that are kept stay so when separators join them. -/
theorem KeptIn.intercalate (hd : Separates d) {b : Shape} {ws : List (List Char)}
    (h : ∀ w ∈ ws, KeptIn d (b :: bs) w) : KeptIn d (b :: bs) ([d].intercalate ws) := by
  induction ws with
  | nil => exact .nil
  | cons w ws ih =>
    have hw : KeptIn d (b :: bs) w := h w List.mem_cons_self
    cases ws with
    | nil => simpa [List.intercalate] using hw
    | cons v ws =>
      have hrest := ih fun u hu ↦ h u (List.mem_cons_of_mem _ hu)
      rw [List.intercalate_cons_cons, List.append_assoc]
      exact hw.append ((KeptIn.separator hd b).append hrest)

/-- Opaque texts are opaque one behind the other. -/
theorem Opaque.append (hw : Opaque d w) (hv : Opaque d v) : Opaque d (w ++ v) :=
  fun bs ↦ (hw bs).append (hv bs)

/-- A text of characters that neither open, close, quote nor separate. -/
theorem Opaque.of_forall (h : ∀ c ∈ w, opening? c = none ∧ closing? c = none ∧ c ≠ '"' ∧ c ≠ d) :
    Opaque d w := by
  induction w with
  | nil => exact fun _ ↦ .nil
  | cons c w ih =>
    obtain ⟨ho, hc, hq, hne⟩ := h c List.mem_cons_self
    have hw : Opaque d w := ih fun e he ↦ h e (List.mem_cons_of_mem _ he)
    intro bs
    exact (KeptIn.plain ho hc hq hne).append (hw bs)

/-- Parentheses hide the separators between opaque texts. -/
theorem Opaque.parens_intercalate (hd : Separates d) {ws : List (List Char)}
    (h : ∀ w ∈ ws, Opaque d w) : Opaque d ('(' :: [d].intercalate ws ++ [')']) :=
  fun _ ↦ .brackets hd (b := .round) (.intercalate hd fun w hw ↦ h w hw _)

/-- The first of the joined texts is the part at the beginning, and the others follow. -/
theorem splitFrom_intercalate (hd : Separates d) {ws : List (List Char)} (hw : Opaque d w)
    (h : ∀ v ∈ ws, Opaque d v) : splitFrom d {} ([d].intercalate (w :: ws)) = .ok (w, ws) := by
  induction ws generalizing w with
  | nil =>
    have hjoin : [d].intercalate [w] = w ++ [] := by simp [List.intercalate]
    rw [hjoin, hw []]
    simp [splitFrom, State.fault?, Except.map]
  | cons v ws ih =>
    have hrest := ih (h v List.mem_cons_self) fun u hu ↦ h u (List.mem_cons_of_mem _ hu)
    rw [List.intercalate_cons_cons, List.append_assoc, List.singleton_append, hw []]
    simp [splitFrom, State.step, State.isTop, hd.opening, hd.closing, hd.quote, hrest, Except.map]

/-- Opaque texts that separators join are cut into the same texts again. -/
theorem split_intercalate (hd : Separates d) {ws : List (List Char)} (hne : ws ≠ [])
    (h : ∀ w ∈ ws, Opaque d w) : split d ([d].intercalate ws) = .ok ws := by
  cases ws with
  | nil => exact absurd rfl hne
  | cons w ws =>
    rw [split, splitFrom_intercalate hd (h w List.mem_cons_self) fun v hv ↦
      h v (List.mem_cons_of_mem _ hv)]

end RowGate.Brackets
