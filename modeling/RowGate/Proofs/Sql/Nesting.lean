import RowGate.Proofs.Sql.Pieces
import RowGate.Text.Cut

/-! # SQL text outside of quotes and parentheses

Where a character of a text stands, the parts of a text between separators that stand outside of
quotes and parentheses, and the truth of a condition that is read from its text. Main statement:
texts that no separator cuts are found again when separators join them.
-/

namespace RowGate.Sql

/-- Where a character stands: in quotes or not, and below how many parentheses. A quote that is
written twice ends a quoted token and begins it anew, with nothing between. -/
structure Nesting where
  quote : Option Quote := none
  depth : Nat := 0
deriving DecidableEq, Repr

namespace Nesting

/-- The place behind a character. -/
def step (n : Nesting) (c : Char) : Nesting :=
  match n.quote with
  | some q => if c = q.mark then { n with quote := none } else n
  | none => match Quote.ofMark? c with
    | some q => { n with quote := some q }
    | none =>
      if c = '(' then { n with depth := n.depth + 1 }
      else if c = ')' then { n with depth := n.depth - 1 }
      else n

/-- The place behind a text. -/
def after (n : Nesting) (s : List Char) : Nesting := s.foldl step n

end Nesting

/-- A character that neither quotes nor brackets. -/
def isPlainChar (c : Char) : Bool := c ∉ ['"', '\'', '(', ')']

namespace Nesting

/-- A character that neither quotes nor brackets is passed without a change outside of quotes. -/
theorem step_plain {c : Char} (h : isPlainChar c = true) (d : Nat) :
    step { depth := d } c = { depth := d } := by
  simp only [isPlainChar, List.mem_cons, List.not_mem_nil, or_false, not_or,
    decide_eq_true_eq] at h
  obtain ⟨hname, hliteral, hopen, hclose⟩ := h
  have hquote : Quote.ofMark? c = none := by
    rw [Quote.ofMark?, if_neg hname, if_neg hliteral]
  rw [step]
  simp only [hquote, if_neg hopen, if_neg hclose]

/-- A quote outside of quotes opens a quoted token, below as many parentheses as before. -/
theorem step_open (q : Quote) (d : Nat) :
    step { depth := d } q.mark = { quote := some q, depth := d } := by
  cases q <;> rfl

/-- The quote that opened a quoted token closes it. -/
theorem step_close (q : Quote) (d : Nat) :
    step { quote := some q, depth := d } q.mark = { depth := d } := by
  cases q <;> rfl

end Nesting

/-! ## Parts of a text -/

/-- The part that a text begins with, and the parts after it. Of a separator that was found, `skip`
characters are still to be passed over. -/
def splitFrom (sep : List Char) : Nesting → Nat → List Char → List Char × List (List Char)
  | _, _, [] => ([], [])
  | n, skip + 1, _ :: s => splitFrom sep n skip s
  | n, 0, c :: s =>
    if n = {} ∧ sep <+: c :: s then
      ([], (splitFrom sep n (sep.length - 1) s).1 :: (splitFrom sep n (sep.length - 1) s).2)
    else (c :: (splitFrom sep (n.step c) 0 s).1, (splitFrom sep (n.step c) 0 s).2)

/-- The parts of a text between the separators outside of quotes and parentheses. -/
def splitOutside (sep s : List Char) : List (List Char) :=
  (splitFrom sep {} 0 s).1 :: (splitFrom sep {} 0 s).2

/-- Whether a text leads from below one parenthesis back to there without leaving it. -/
def staysInside : Nesting → List Char → Bool
  | n, [] => n = { depth := 1 }
  | n, c :: s => 0 < n.depth && staysInside (n.step c) s

/-- What stands in parentheses that enclose a text as a whole. -/
def inParens? (s : List Char) : Option (List Char) :=
  (Text.enclosed? '(' ')' s).filter (staysInside { depth := 1 })

/-- No part is longer than the text that it is cut from. -/
theorem length_splitFrom (sep : List Char) (n : Nesting) (skip : Nat) (s : List Char) :
    (splitFrom sep n skip s).1.length ≤ s.length ∧
      ∀ p ∈ (splitFrom sep n skip s).2, p.length ≤ s.length := by
  induction s generalizing n skip with
  | nil => simp [splitFrom]
  | cons c s ih =>
    match skip with
    | skip + 1 =>
      obtain ⟨hfirst, hrest⟩ := ih n skip
      rw [splitFrom, List.length_cons]
      exact ⟨Nat.le_succ_of_le hfirst, fun p hp ↦ Nat.le_succ_of_le (hrest p hp)⟩
    | 0 =>
      rw [splitFrom, List.length_cons]
      split
      · obtain ⟨hfirst, hrest⟩ := ih n (sep.length - 1)
        refine ⟨Nat.zero_le _, fun p hp ↦ Nat.le_succ_of_le ?_⟩
        rcases List.mem_cons.mp hp with rfl | hp
        · exact hfirst
        · exact hrest p hp
      · obtain ⟨hfirst, hrest⟩ := ih (n.step c) 0
        exact ⟨Nat.succ_le_succ hfirst, fun p hp ↦ Nat.le_succ_of_le (hrest p hp)⟩

/-- The parts of a text are no longer than the text. -/
theorem length_le_of_mem_splitOutside {sep s p : List Char} (h : p ∈ splitOutside sep s) :
    p.length ≤ s.length := by
  obtain ⟨hfirst, hrest⟩ := length_splitFrom sep {} 0 s
  rcases List.mem_cons.mp h with rfl | h
  · exact hfirst
  · exact hrest p h

/-- What stands in parentheses is shorter, so that a condition can be read by recursion. -/
theorem length_inParens?_lt {s t : List Char} (h : inParens? s = some t) :
    t.length < s.length :=
  Text.length_enclosed?_lt (Option.filter_eq_some_iff.mp h).1

/-! ## The truth of a condition -/

def andMark : List Char := " AND ".toList

def orMark : List Char := " OR ".toList

/-- Whether the condition with a text holds, where `truth` says which predicates do. `AND` binds
tighter than `OR`, and parentheses around the whole of an operand group. -/
def conditionHolds (truth : String → Bool) (s : List Char) : Bool :=
  (splitOutside orMark s).attach.any fun d ↦ (splitOutside andMark d.1).attach.all fun a ↦
    match _h : inParens? a.1 with
    | some t => conditionHolds truth t
    | none => truth (String.ofList a.1)
termination_by s.length
decreasing_by
  have ha := length_le_of_mem_splitOutside a.2
  exact Nat.lt_of_lt_of_le (length_inParens?_lt _h)
    (Nat.le_trans ha (length_le_of_mem_splitOutside d.2))

/-- Whether an operand holds. -/
def operandHolds (truth : String → Bool) (a : List Char) : Bool :=
  match inParens? a with
  | some t => conditionHolds truth t
  | none => truth (String.ofList a)

/-- A condition is a disjunction of conjunctions of operands. -/
theorem conditionHolds_eq (truth : String → Bool) (s : List Char) :
    conditionHolds truth s =
      (splitOutside orMark s).any fun d ↦ (splitOutside andMark d).all (operandHolds truth) := by
  have hoperand (a : List Char) : (match _h : inParens? a with
      | some t => conditionHolds truth t
      | none => truth (String.ofList a)) = operandHolds truth a := by
    rw [operandHolds]
    split <;> simp only [*]
  rw [conditionHolds]
  simp only [hoperand, List.all_subtype, List.any_subtype, List.unattach_attach]

/-! ## Texts that a separator does not cut -/

/-- In front of `rest` no separator begins in a text that stands at `n`. -/
def Uncut (sep : List Char) : Nesting → List Char → List Char → Prop
  | _, [], _ => True
  | n, c :: w, rest => (n = {} → ¬ sep <+: c :: (w ++ rest)) ∧ Uncut sep (n.step c) w rest

/-- Whether a text differs from a separator before either of them ends. -/
def differs (sep w : List Char) : Bool := !sep.isPrefixOf w && !w.isPrefixOf sep

/-- Whether each separator that may begin in a text is ruled out by the text and what is next. -/
def isUncut (sep next : List Char) : Nesting → List Char → Bool
  | _, [] => true
  | n, c :: w => (n ≠ {} || differs sep (c :: (w ++ next))) && isUncut sep next (n.step c) w

section

variable {sep u v w rest : List Char} {n : Nesting}

/-- A separator that a text already differs from does not begin there, whatever follows. -/
theorem not_prefix_of_differs (h : differs sep w = true) : ¬ sep <+: w ++ rest := by
  intro hprefix
  simp only [differs, Bool.and_eq_true, Bool.not_eq_true', ← Bool.not_eq_true,
    List.isPrefixOf_iff_prefix] at h
  rcases List.prefix_or_prefix_of_prefix hprefix (List.prefix_append w rest) with hw | hw
  · exact h.1 hw
  · exact h.2 hw

/-- The check needs no more of what follows than the text that is next. -/
theorem Uncut.of_isUncut {next : List Char} (h : isUncut sep next n w = true) :
    Uncut sep n w (next ++ rest) := by
  induction w generalizing n with
  | nil => trivial
  | cons c w ih =>
    obtain ⟨hhere, htail⟩ := (Bool.and_eq_true ..).mp h
    refine ⟨fun hn ↦ ?_, ih htail⟩
    have hdiffers : differs sep (c :: (w ++ next)) = true := by simpa [hn] using hhere
    have hcut : ¬ sep <+: c :: (w ++ next) ++ rest := not_prefix_of_differs hdiffers
    rwa [List.cons_append, List.append_assoc] at hcut

/-- The second text is read from where the first one leads to. -/
theorem Uncut.append_iff : Uncut sep n (u ++ v) rest ↔
    Uncut sep n u (v ++ rest) ∧ Uncut sep (n.after u) v rest := by
  induction u generalizing n with
  | nil => simp [Uncut, Nesting.after]
  | cons c u ih =>
    rw [List.cons_append, Uncut, Uncut, ih, List.append_assoc, and_assoc]
    rfl

/-- A text that no separator cuts belongs to the first part. -/
theorem splitFrom_append (h : Uncut sep n w rest) :
    splitFrom sep n 0 (w ++ rest) = (w ++ (splitFrom sep (n.after w) 0 rest).1,
      (splitFrom sep (n.after w) 0 rest).2) := by
  induction w generalizing n with
  | nil => rfl
  | cons c w ih =>
    rw [List.cons_append, splitFrom, if_neg fun hcut ↦ h.1 hcut.1 hcut.2, ih h.2]
    rfl

/-- What is left of a separator is passed over. -/
theorem splitFrom_skip (w : List Char) :
    splitFrom sep n w.length (w ++ rest) = splitFrom sep n 0 rest := by
  induction w with
  | nil => rfl
  | cons c w ih => exact ih

/-- A separator outside of quotes and parentheses ends an empty part. -/
theorem splitFrom_separator (hsep : sep ≠ []) : splitFrom sep {} 0 (sep ++ rest) =
    ([], (splitFrom sep {} 0 rest).1 :: (splitFrom sep {} 0 rest).2) := by
  match sep, hsep with
  | c :: sep, _ =>
    have hcut : c :: sep <+: c :: (sep ++ rest) := List.prefix_append (c :: sep) rest
    rw [List.cons_append, splitFrom, if_pos ⟨rfl, hcut⟩, List.length_cons, Nat.add_sub_cancel,
      splitFrom_skip]

/-- A text that no separator cuts is its only part. -/
theorem splitOutside_eq_self (h : Uncut sep {} w []) : splitOutside sep w = [w] := by
  have hsplit := splitFrom_append h
  rw [List.append_nil] at hsplit
  rw [splitOutside, hsplit]
  simp [splitFrom]

end

/-- A text that leads from outside back to outside, and that no separator cuts. -/
structure Closed (sep w : List Char) : Prop where
  outside : ({} : Nesting).after w = {}
  uncut : ∀ rest, Uncut sep {} w rest

/-- The first of the joined texts is the part at the beginning, and the others follow. -/
theorem splitFrom_intercalate {sep w : List Char} (hsep : sep ≠ []) (hw : Closed sep w)
    {ws : List (List Char)} (h : ∀ v ∈ ws, Closed sep v) :
    splitFrom sep {} 0 (sep.intercalate (w :: ws)) = (w, ws) := by
  induction ws generalizing w with
  | nil =>
    have hjoin : sep.intercalate [w] = w ++ [] := by simp [List.intercalate]
    rw [hjoin, splitFrom_append (hw.uncut _), hw.outside]
    simp [splitFrom]
  | cons v ws ih =>
    have hrest := ih (h v List.mem_cons_self) fun u hu ↦ h u (List.mem_cons_of_mem _ hu)
    rw [List.intercalate_cons_cons, List.append_assoc, splitFrom_append (hw.uncut _), hw.outside,
      splitFrom_separator hsep, hrest, List.append_nil]

/-- Texts that no separator cuts are the parts of their join. -/
theorem splitOutside_intercalate {sep : List Char} (hsep : sep ≠ []) {ws : List (List Char)}
    (hne : ws ≠ []) (h : ∀ w ∈ ws, Closed sep w) :
    splitOutside sep (sep.intercalate ws) = ws := by
  match ws, hne with
  | w :: ws, _ =>
    rw [splitOutside, splitFrom_intercalate hsep (h w List.mem_cons_self) fun v hv ↦
      h v (List.mem_cons_of_mem w hv)]

/-! ## Reading a text from place to place -/

/-- A text leads from one place to another, and each of its characters stands where `P` allows. -/
def Passes (P : Nesting → Char → Prop) : Nesting → List Char → Nesting → Prop
  | n, [], m => n = m
  | n, c :: s, m => P n c ∧ Passes P (n.step c) s m

namespace Passes

variable {P Q : Nesting → Char → Prop} {n m k : Nesting} {s t : List Char} {d : Nat}

/-- A text from one place to a second, and one from there to a third. -/
theorem append (hs : Passes P n s m) (ht : Passes P m t k) : Passes P n (s ++ t) k := by
  induction s generalizing n with
  | nil => exact hs.symm ▸ ht
  | cons c s ih => exact ⟨hs.1, ih hs.2⟩

/-- Where more is allowed, the same text passes. -/
theorem mono (h : ∀ n c, P n c → Q n c) (hs : Passes P n s m) : Passes Q n s m := by
  induction s generalizing n with
  | nil => exact hs
  | cons c s ih => exact ⟨h _ _ hs.1, ih hs.2⟩

/-- The place that a text leads to is the one behind it. -/
theorem after_eq (hs : Passes P n s m) : n.after s = m := by
  induction s generalizing n with
  | nil => exact hs
  | cons c s ih => exact ih hs.2

/-- A separator whose first character is not allowed outside cuts nothing. -/
theorem uncut {sep rest : List Char} (hs : Passes P n s m)
    (h : ∀ c, P {} c → sep.head? ≠ some c) (hsep : sep ≠ []) : Uncut sep n s rest := by
  induction s generalizing n with
  | nil => trivial
  | cons c s ih =>
    refine ⟨fun hn hcut ↦ ?_, ih hs.2⟩
    subst hn
    match sep, hsep with
    | d :: sep, _ =>
      have hhead : d = c := (List.cons_prefix_cons.mp hcut).1
      exact h c hs.1 (congrArg some hhead)

/-- Characters that neither quote nor bracket leave the place as it is. -/
theorem plain (h : ∀ c ∈ s, isPlainChar c = true ∧ P { depth := d } c) :
    Passes P { depth := d } s { depth := d } := by
  induction s with
  | nil => rfl
  | cons c s ih =>
    obtain ⟨hplain, hc⟩ := h c List.mem_cons_self
    refine ⟨hc, ?_⟩
    rw [Nesting.step_plain hplain]
    exact ih fun e he ↦ h e (List.mem_cons_of_mem c he)

/-- A quoted text leads back to where it was opened, as each quote in it is doubled. -/
theorem quoted (q : Quote) (hmark : P { depth := d } q.mark)
    (hin : ∀ c, P { quote := some q, depth := d } c) (t : List Char) :
    Passes P { depth := d } (q.mark :: (q.double t ++ [q.mark])) { depth := d } := by
  have hdouble : Passes P { quote := some q, depth := d } (q.double t)
      { quote := some q, depth := d } := by
    induction t with
    | nil => rfl
    | cons c t ih =>
      refine append ?_ ih
      beta_reduce
      split
      next => exact ⟨hin _, by rw [Nesting.step_close]; exact ⟨hmark, Nesting.step_open q d⟩⟩
      next hc => exact ⟨hin _, if_neg hc⟩
  refine ⟨hmark, ?_⟩
  rw [Nesting.step_open]
  exact hdouble.append ⟨hin _, Nesting.step_close q d⟩

/-- Parentheses around a text that leads from inside them back to there. -/
theorem paren (hopen : P { depth := d } '(') (hclose : P { depth := d + 1 } ')')
    (hs : Passes P { depth := d + 1 } s { depth := d + 1 }) :
    Passes P { depth := d } ('(' :: (s ++ [')'])) { depth := d } :=
  ⟨hopen, hs.append ⟨hclose, rfl⟩⟩

end Passes

/-- Quotes and parentheses that a text opens it closes, and it closes no others. -/
structure Balanced (s : List Char) : Prop where
  passes : ∀ d, Passes (fun n _ ↦ d ≤ n.depth) { depth := d } s { depth := d }

/-- A balanced text with no blank outside of its quotes and parentheses. -/
structure Tight (s : List Char) : Prop where
  passes : ∀ d, Passes (fun n c ↦ d ≤ n.depth ∧ (n = {} → c ≠ ' ')) { depth := d } s { depth := d }

section

variable {s t : List Char}

/-- A tight text is balanced, whatever its blanks. -/
theorem Tight.balanced (h : Tight s) : Balanced s :=
  ⟨fun d ↦ (h.passes d).mono fun _ _ hn ↦ hn.1⟩

theorem Tight.append (hs : Tight s) (ht : Tight t) : Tight (s ++ t) :=
  ⟨fun d ↦ (hs.passes d).append (ht.passes d)⟩

theorem Balanced.append (hs : Balanced s) (ht : Balanced t) : Balanced (s ++ t) :=
  ⟨fun d ↦ (hs.passes d).append (ht.passes d)⟩

theorem Tight.nil : Tight [] := ⟨fun _ ↦ rfl⟩

theorem Balanced.plain (h : s.all isPlainChar = true) : Balanced s :=
  ⟨fun _ ↦ Passes.plain fun c hc ↦ ⟨List.all_eq_true.mp h c hc, Nat.le_refl _⟩⟩

/-- A plain character that is no blank. -/
def isTightChar (c : Char) : Bool := isPlainChar c && c != ' '

theorem Tight.plain (h : s.all isTightChar = true) : Tight s := by
  refine ⟨fun _ ↦ Passes.plain fun c hc ↦ ?_⟩
  obtain ⟨hplain, hblank⟩ := (Bool.and_eq_true ..).mp (List.all_eq_true.mp h c hc)
  exact ⟨hplain, Nat.le_refl _, fun _ ↦ bne_iff_ne.mp hblank⟩

/-- A quoted text is tight, as its blanks stand in quotes. -/
theorem Tight.quoted (q : Quote) (t : List Char) : Tight (q.mark :: (q.double t ++ [q.mark])) := by
  refine ⟨fun d ↦ Passes.quoted q ⟨Nat.le_refl d, fun _ ↦ ?_⟩ (fun c ↦ ⟨Nat.le_refl d, ?_⟩) t⟩
  · cases q <;> decide
  · exact fun h ↦ nomatch congrArg Nesting.quote h

/-- Parentheses hide the blanks of a balanced text. -/
theorem Balanced.paren (h : Balanced s) : Tight ('(' :: (s ++ [')'])) := by
  refine ⟨fun d ↦ Passes.paren ⟨Nat.le_refl d, fun _ ↦ by decide⟩
    ⟨Nat.le_succ d, fun _ ↦ by decide⟩ ?_⟩
  refine (h.passes (d + 1)).mono fun n c hn ↦ ⟨Nat.le_of_succ_le hn, fun hout ↦ ?_⟩
  subst hout
  exact absurd hn (Nat.not_succ_le_zero d)

/-- A separator that begins with a blank does not cut a tight text. -/
theorem Tight.uncut (h : Tight s) {sep : List Char} (hsep : sep.head? = some ' ')
    (rest : List Char) : Uncut sep {} s rest := by
  refine (h.passes 0).uncut (fun c hc hhead ↦ ?_) fun hnil ↦ ?_
  · rw [hsep] at hhead
    exact hc.2 rfl (Option.some.inj hhead).symm
  · rw [hnil] at hsep
    cases hsep

/-- A text that does not leave its parentheses may be passed over. -/
theorem staysInside_append {n m : Nesting} (h : Passes (fun n _ ↦ 1 ≤ n.depth) n s m) :
    staysInside n (s ++ t) = staysInside m t := by
  induction s generalizing n with
  | nil => rw [List.nil_append, show n = m from h]
  | cons c s ih =>
    have hdepth : decide (0 < n.depth) = true := decide_eq_true h.1
    rw [List.cons_append, staysInside, ih h.2, hdepth, Bool.true_and]

/-- A balanced text is found again within its parentheses. -/
theorem inParens?_paren (h : Balanced s) : inParens? ('(' :: (s ++ [')'])) = some s := by
  have hin : staysInside { depth := 1 } s = true := by
    have := staysInside_append (t := []) (h.passes 1)
    rwa [List.append_nil] at this
  rw [inParens?, Text.enclosed?, if_pos rfl, Text.dropFinal?, if_pos List.getLast?_concat,
    List.dropLast_concat, Option.filter_some, if_pos hin]

theorem inParens?_eq_none_of_ne {c : Char} (h : c ≠ '(') : inParens? (c :: s) = none := by
  rw [inParens?, Text.enclosed?, if_neg h, Option.filter_none]

/-- Parentheses that close before the end of a text do not enclose it. -/
theorem inParens?_eq_none (hs : Balanced s) (ht : t ≠ []) :
    inParens? ('(' :: (s ++ ')' :: t)) = none := by
  rw [inParens?, Text.enclosed?, if_pos rfl, Text.dropFinal?]
  split
  · have hlast : (s ++ ')' :: t).dropLast = s ++ ')' :: t.dropLast := by
      rw [List.dropLast_append_of_ne_nil (List.cons_ne_nil _ _), List.dropLast_cons_of_ne_nil ht]
    have hout : staysInside { depth := 1 } (s ++ ')' :: t.dropLast) = false := by
      rw [staysInside_append (hs.passes 1)]
      cases t.dropLast <;> rfl
    rw [hlast, Option.filter_some, hout]
    rfl
  · rfl

end

end RowGate.Sql
