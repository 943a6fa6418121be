import RowGate.Proofs.Query.Brackets

/-! # Balanced texts

A text is balanced if its quotes and brackets are closed in the order in which they were opened. The
grammar says which characters may stand outside of all of them. Main statement: a balanced text that
has no separator outside of them is never cut.
-/

namespace RowGate.Brackets

/-- The rest of a text in quotes, up to the quote that ends it. A backslash takes the character
behind it as it is. -/
inductive InQuotes : List Char → Prop
  | close : InQuotes ['"']
  | escape (c : Char) {s : List Char} (hs : InQuotes s) : InQuotes ('\\' :: c :: s)
  | char {c : Char} {s : List Char} (hquote : c ≠ '"') (hescape : c ≠ '\\') (hs : InQuotes s) :
    InQuotes (c :: s)

/-- Quotes and brackets are closed in their order, and every character outside of them is one of
`top`. -/
inductive Balanced : (Char → Prop) → List Char → Prop
  | nil {top : Char → Prop} : Balanced top []
  | char {top : Char → Prop} {c : Char} {s : List Char} (hopen : opening? c = none)
    (hclose : closing? c = none) (hquote : c ≠ '"') (hc : top c) (hs : Balanced top s) :
    Balanced top (c :: s)
  | quotes {top : Char → Prop} {q s : List Char} (hq : InQuotes q) (hs : Balanced top s) :
    Balanced top ('"' :: (q ++ s))
  | brackets {top : Char → Prop} {inner s : List Char} (b : Shape)
    (hinner : Balanced (fun _ ↦ True) inner) (hs : Balanced top s) :
    Balanced top (b.left :: (inner ++ b.right :: s))

variable {d c : Char} {bs : List Shape} {w q s : List Char} {top : Char → Prop}

/-- A text of plain characters. -/
theorem Balanced.of_forall (h : ∀ c ∈ w, opening? c = none ∧ closing? c = none ∧ c ≠ '"' ∧ top c) :
    Balanced top w := by
  induction w with
  | nil => exact .nil
  | cons c w ih =>
    obtain ⟨⟨hopen, hclose, hquote, hc⟩, hw⟩ := List.forall_mem_cons.mp h
    exact .char hopen hclose hquote hc (ih hw)

theorem Balanced.append (hw : Balanced top w) (hs : Balanced top s) : Balanced top (w ++ s) := by
  induction hw with
  | nil => exact hs
  | char hopen hclose hquote hc _ ih => exact .char hopen hclose hquote hc (ih hs)
  | quotes hq _ ih =>
    rw [List.cons_append, List.append_assoc]
    exact .quotes hq (ih hs)
  | brackets b hinner _ _ ih =>
    rw [List.cons_append, List.append_assoc, List.cons_append]
    exact .brackets b hinner (ih hs)

/-! ## Scanning quotes -/

/-- In quotes nothing is cut. -/
theorem splitFrom_quoting {st st' : State} (h : st.quoting ≠ .outside)
    (hstep : st.step c = some st') (s : List Char) :
    splitFrom d st (c :: s) = (splitFrom d st' s).map fun p ↦ (c :: p.1, p.2) := by
  have htop : st.isTop = false := by simp [State.isTop, h]
  rw [splitFrom, hstep]
  dsimp only
  cases splitFrom d st' s <;> simp [Except.map, htop]

/-- The scan of what is in quotes ends behind them, in the brackets where it began. -/
theorem InQuotes.splitFrom (hq : InQuotes q) (rest : List Char) :
    splitFrom d ⟨.inside, bs⟩ (q ++ rest) =
      (Brackets.splitFrom d ⟨.outside, bs⟩ rest).map fun p ↦ (q ++ p.1, p.2) := by
  induction hq with
  | close => exact splitFrom_quoting (by simp) rfl rest
  | escape c _ ih =>
    have hmark : State.step ⟨.inside, bs⟩ '\\' = some ⟨.escaped, bs⟩ := rfl
    have hescaped : State.step ⟨.escaped, bs⟩ c = some ⟨.inside, bs⟩ := rfl
    rw [List.cons_append, List.cons_append, splitFrom_quoting (by simp) hmark,
      splitFrom_quoting (by simp) hescaped, ih]
    cases Brackets.splitFrom d ⟨.outside, bs⟩ rest <;> rfl
  | @char c _ hquote hescape _ ih =>
    have hstep : State.step ⟨.inside, bs⟩ c = some ⟨.inside, bs⟩ := by
      simp [State.step, hquote, hescape]
    rw [List.cons_append, splitFrom_quoting (by simp) hstep, ih]
    cases Brackets.splitFrom d ⟨.outside, bs⟩ rest <;> rfl

theorem KeptIn.quotes (hd : d ≠ '"') (hq : InQuotes q) : KeptIn d bs ('"' :: q) := by
  intro rest
  have hopen : State.step ⟨.outside, bs⟩ '"' = some ⟨.inside, bs⟩ := rfl
  rw [List.cons_append, splitFrom, hopen]
  simp only [hq.splitFrom]
  cases splitFrom d ⟨.outside, bs⟩ rest <;> simp [Except.map, hd.symm]

/-! ## Scanning balanced texts -/

/-- A balanced text is kept: outside of all brackets if no separator stands there, and in brackets
anyway. -/
theorem Balanced.keptIn (hd : Separates d) (hs : Balanced top s)
    (htop : bs = [] → ∀ c, top c → c ≠ d) : KeptIn d bs s := by
  induction hs generalizing bs with
  | nil => exact .nil
  | @char top c s hopen hclose hquote hc _ ih =>
    have hfirst : KeptIn d bs [c] := by
      by_cases hcd : c = d
      · cases bs with
        | nil => exact absurd hcd (htop rfl c hc)
        | cons b bs =>
          rw [hcd]
          exact .separator hd b
      · exact .plain hopen hclose hquote hcd
    exact hfirst.append (ih htop)
  | quotes hq _ ih => exact (KeptIn.quotes hd.quote hq).append (ih htop)
  | @brackets top inner s b _ _ ihinner ih =>
    have hinner : KeptIn d (b :: bs) inner := ihinner fun h ↦ nomatch h
    have htext : b.left :: (inner ++ b.right :: s) = b.left :: inner ++ [b.right] ++ s := by simp
    rw [htext]
    exact (KeptIn.brackets hd hinner).append (ih htop)

/-- A balanced text without a separator outside of its quotes and brackets is never cut. -/
theorem Balanced.isOpaque (hd : Separates d) (hs : Balanced (· ≠ d) s) : Opaque d s :=
  fun _ ↦ hs.keptIn hd fun _ _ hc ↦ hc

end RowGate.Brackets
