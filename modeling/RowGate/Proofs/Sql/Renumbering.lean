import RowGate.Proofs.Sql.Pieces

/-! # Placeholders under other numbers

A text is rewritten while it is scanned: every character goes out as it is read, except that a
placeholder outside of quotes is held back until it ends, and then goes out replaced.
-/

namespace RowGate.Sql

variable {f : List Char → List Char}

/-! ## Rewriting a text -/

namespace Mode

/-- Whether a scan stands in a placeholder. -/
def inPlaceholder : Mode → Bool
  | reading k _ => k = .placeholder
  | free | inside _ _ | closing _ _ => false

/-- What goes out for the token at hand if it ends here: a placeholder is replaced by `f`, of all
other tokens nothing was held back. -/
def held (f : List Char → List Char) : Mode → List Char
  | reading k s => if k = .placeholder then f s else []
  | free | inside _ _ | closing _ _ => []

end Mode

/-- What goes out when a character is read. -/
def output (f : List Char → List Char) (m : Mode) (c : Char) : List Char :=
  (if m.joins c then [] else m.held f) ++ if (step m c).2.inPlaceholder then [] else [c]

/-- What goes out when a text is read. -/
def emitted (f : List Char → List Char) : Mode → List Char → List Char
  | _, [] => []
  | m, c :: s => output f m c ++ emitted f (step m c).2 s

/-- The text with its placeholders outside of quotes replaced. -/
def mapPlaceholders (f : List Char → List Char) (s : List Char) : List Char :=
  emitted f .free s ++ (scan .free s).2.held f

/-- The placeholder whose number is greater by `k`. -/
def shiftPlaceholder (k : Nat) : List Char → List Char
  | '$' :: s => match Decimal.readNat? s with
    | some n => '$' :: (toString (n + k)).toList
    | none => '$' :: s
  | s => s

/-- The text with all placeholders outside of quotes greater by `k`. -/
def renumber (k : Nat) (s : String) : String :=
  String.ofList (mapPlaceholders (shiftPlaceholder k) s.toList)

example : renumber 2 "a = $1 AND \"$1\" = '$1' OR b = $12::text" =
    "a = $3 AND \"$1\" = '$1' OR b = $14::text" := by
  decide +kernel

theorem shiftPlaceholder_toString (k n : Nat) :
    shiftPlaceholder k ('$' :: (toString n).toList) = '$' :: (toString (n + k)).toList := by
  rw [shiftPlaceholder, Decimal.readNat?_toString]

theorem emitted_append (m : Mode) (a b : List Char) :
    emitted f m (a ++ b) = emitted f m a ++ emitted f (scan m a).2 b := by
  induction a generalizing m with
  | nil => rfl
  | cons c a ih =>
    rw [List.cons_append, emitted, ih, emitted, scan, List.append_assoc]

/-- Where the token at hand ends, what was held back goes out first. -/
theorem emitted_of_joins_eq_false {m : Mode} {c : Char} (h : m.joins c = false) (s : List Char) :
    emitted f m (c :: s) = m.held f ++ emitted f .free (c :: s) := by
  have hstep : (step m c).2 = (step .free c).2 := by
    rw [step_of_joins_eq_false h, step_of_joins_eq_false rfl]
  have hfree : output f .free c = if (step m c).2.inPlaceholder then [] else [c] := by
    rw [hstep]
    rfl
  have houtput : output f m c = m.held f ++ output f .free c := by
    rw [hfree, output, h, if_neg Bool.false_ne_true]
  rw [emitted, emitted, houtput, hstep, List.append_assoc]

/-- A placeholder is held back as long as it goes on. -/
theorem emitted_placeholder {s t : List Char} (h : ∀ c ∈ t, Lexeme.placeholder.goesOn c = true) :
    emitted f (.reading .placeholder s) t = [] := by
  induction t generalizing s with
  | nil => rfl
  | cons c t ih =>
    obtain ⟨hc, ht⟩ := List.forall_mem_cons.mp h
    have hjoins : (Mode.reading .placeholder s).joins c = true := hc
    have hstep : step (.reading .placeholder s) c = ([], .reading .placeholder (s ++ [c])) := by
      rw [step, if_pos hjoins]
      rfl
    rw [emitted, output, if_pos hjoins, hstep, ih ht]
    rfl

/-! ## Texts whose placeholders are kept -/

/-- A character that begins a token goes out, or is held back as the beginning of a placeholder. -/
theorem output_start (c : Char) :
    (if (start c).2.inPlaceholder then [] else [c]) ++ (start c).2.held id = [c] := by
  rw [start]
  split
  · rfl
  · cases Quote.ofMark? c with
    | some q => rfl
    | none =>
      cases Lexeme.ofStart? c with
      | none => rfl
      | some k => cases k <;> rfl

/-- Where the placeholders that end are kept, nothing is lost of what is read. -/
theorem output_append_held {m : Mode} {c : Char}
    (h : ∀ s, .lexeme .placeholder s ∈ (step m c).1 → f s = s) :
    output f m c ++ (step m c).2.held id = m.held id ++ [c] := by
  by_cases hjoins : m.joins c = true
  · rw [output, step, if_pos hjoins, if_pos hjoins]
    cases m with
    | free => cases hjoins
    | reading k s => cases k <;> rfl
    | inside q s =>
      rw [Mode.grow]
      split <;> rfl
    | closing _ _ => rfl
  · have hjoins : m.joins c = false := Bool.eq_false_iff.mpr hjoins
    rw [step_of_joins_eq_false hjoins] at h
    have hheld : m.held f = m.held id := by
      cases m with
      | free | inside _ _ | closing _ _ => rfl
      | reading k s =>
        rw [Mode.held, Mode.held]
        split
        next hk => exact h s (by simp [Mode.pending, hk])
        next => rfl
    rw [output, hjoins, if_neg Bool.false_ne_true, step_of_joins_eq_false hjoins, hheld,
      List.append_assoc, output_start]

/-- A text whose placeholders are kept goes out as it is. -/
theorem emitted_append_held {m : Mode} {s : List Char}
    (h : ∀ t, .lexeme .placeholder t ∈ (scan m s).1 ++ (scan m s).2.pending → f t = t) :
    emitted f m s ++ (scan m s).2.held f = m.held id ++ s := by
  induction s generalizing m with
  | nil =>
    cases m with
    | free | inside _ _ | closing _ _ => rfl
    | reading k t =>
      rw [emitted, scan, List.append_nil, List.nil_append, Mode.held, Mode.held]
      split
      next hk => exact h t (by simp [scan, Mode.pending, hk])
      next => rfl
  | cons c s ih =>
    have hhead : ∀ t, .lexeme .placeholder t ∈ (step m c).1 → f t = t := fun t ht ↦
      h t (List.mem_append_left _ (List.mem_append_left _ ht))
    have htail := ih (m := (step m c).2) fun t ht ↦ h t (by
      rw [scan, List.append_assoc]
      exact List.mem_append_right _ ht)
    rw [emitted, scan, List.append_assoc, htail, ← List.append_assoc, output_append_held hhead,
      List.append_assoc, List.singleton_append]

/-! ## Rewriting from place to place -/

/-- From wherever a scan stands at the place `p`, the text `s` goes out as `t`, behind what was held
back before it. -/
def Rewrites (f : List Char → List Char) (p : Place) (s t : List Char) : Prop :=
  ∀ m, p.holds m = true → emitted f m s ++ (scan m s).2.held f = m.held f ++ t

namespace Rewrites

variable {p q : Place} {a b s t : List Char} {ts : List Token}

theorem nil : Rewrites f p [] [] := fun m _ ↦ (List.append_nil (m.held f)).symm

/-- Stretches of a text are rewritten one after the other. -/
theorem append (hread : Reads p q a ts) (ha : Rewrites f p a s) (hb : Rewrites f q b t) :
    Rewrites f p (a ++ b) (s ++ t) := by
  intro m hm
  obtain ⟨hq, -⟩ := hread m hm
  rw [emitted_append, scan_append, List.append_assoc, hb _ hq, ← List.append_assoc, ha m hm,
    List.append_assoc]

theorem mono {p' : Place} (hp : p'.le p = true) (h : Rewrites f p s t) : Rewrites f p' s t :=
  fun m hm ↦ h m (Place.holds_of_le hp hm)

/-- A text without placeholders whose first character ends every token stays as it is. -/
theorem of_reads (hread : Reads p q s ts) (hend : ∀ c ∈ s.head?, p.endsAt c = true)
    (hts : ∀ t, .lexeme .placeholder t ∉ ts) : Rewrites f p s s := by
  intro m hm
  cases s with
  | nil => exact nil m hm
  | cons c s =>
    have hfree : (scan .free (c :: s)).1 ++ (scan .free (c :: s)).2.pending = ts :=
      (hread .free (by cases p <;> rfl)).2
    have hjoins : m.joins c = false := Place.joins_eq_false hm (hend c rfl)
    have hkept : emitted f .free (c :: s) ++ (scan .free (c :: s)).2.held f = c :: s :=
      emitted_append_held fun t ht ↦ absurd (hfree ▸ ht) (hts t)
    rw [emitted_of_joins_eq_false hjoins, scan_of_joins_eq_false hjoins, List.append_assoc, hkept]

/-- A numbered placeholder between tokens goes out replaced. -/
theorem placeholder {s : List Char} (h : isDecimal s = true) :
    Rewrites f .free ('$' :: s) (f ('$' :: s)) := by
  intro m hm
  have hm : m = .free := by
    cases m with
    | free => rfl
    | reading _ _ | inside _ _ | closing _ _ => cases hm
  have hs : ∀ c ∈ s, Lexeme.placeholder.goesOn c = true := fun c hc ↦ by
    simp [Lexeme.goesOn, List.all_eq_true.mp ((Bool.and_eq_true ..).mp h).2 c hc]
  have hheld : emitted f .free ('$' :: s) = [] := emitted_placeholder hs
  rw [hm, hheld, scan_placeholder h]
  rfl

end Rewrites

end RowGate.Sql
