import RowGate.Proofs.Sql.Lexer
import RowGate.Proofs.Text.Digit
import RowGate.Sql.Fragment

/-! # Reading the pieces of a statement

What the lexical rules make of a quoted text, a number, a placeholder and a cast.
-/

namespace RowGate.Sql

/-! ## Quoted tokens -/

/-- A text with the quotes inside written twice. -/
def Quote.double (q : Quote) (s : List Char) : List Char :=
  s.flatMap fun c ↦ if c = q.mark then [q.mark, q.mark] else [c]

/-- Two quotes read in quotes stand for one. -/
theorem scan_inside_quotes (q : Quote) (s : List Char) :
    scan (.inside q s) [q.mark, q.mark] = ([], .inside q (s ++ [q.mark])) := by
  have hopen : step (.inside q s) q.mark = ([], .closing q s) := by
    simp [step, Mode.joins, Mode.grow]
  have hclose : step (.closing q s) q.mark = ([], .inside q (s ++ [q.mark])) := by
    simp [step, Mode.joins, Mode.grow]
  simp only [scan, hopen, hclose, List.append_nil]

/-- In quotes, a text with its quotes doubled is read as the text. -/
theorem scan_inside_double (q : Quote) (s t : List Char) :
    scan (.inside q s) (q.double t) = ([], .inside q (s ++ t)) := by
  induction t generalizing s with
  | nil => simp [Quote.double, scan]
  | cons c t ih =>
    have hcons : q.double (c :: t) =
        (if c = q.mark then [q.mark, q.mark] else [c]) ++ q.double t := rfl
    rw [hcons, scan_append]
    split
    next hc =>
      rw [scan_inside_quotes, ih, ← hc]
      simp
    next hc =>
      have hstep : scan (.inside q s) [c] = ([], .inside q (s ++ [c])) := by
        simp only [scan, step, Mode.joins, if_true, Mode.grow, if_neg hc, List.append_nil]
      rw [hstep, ih]
      simp

/-- A quote between tokens opens a quoted token. -/
theorem start_mark (q : Quote) : start q.mark = ([], .inside q []) := by
  cases q <;> rfl

/-- A text in quotes is read as one token that stands for the text. -/
theorem reads_quoted {p : Place} (q : Quote) (hp : p.endsAt q.mark = true) (t : List Char) :
    Reads p .behindQuote (q.mark :: (q.double t ++ [q.mark])) [.quoted q t] := by
  have hopen : step .free q.mark = ([], .inside q []) := by
    rw [step_of_joins_eq_false rfl, start_mark]
    rfl
  have hclose : step (.inside q t) q.mark = ([], .closing q t) := by
    simp [step, Mode.joins, Mode.grow]
  have hscan : scan .free (q.mark :: (q.double t ++ [q.mark])) = ([], .closing q t) := by
    simp only [scan, hopen, scan_append, scan_inside_double, List.nil_append, hclose]
  have hts : textTokens (q.mark :: (q.double t ++ [q.mark])) = [.quoted q t] := by
    rw [textTokens, hscan]
    rfl
  rw [← hts]
  exact Reads.of_endsAt hp (by rw [hscan]; rfl)

/-! ## Numbers and placeholders -/

/-- The characters that a token goes on with stay in the token. -/
theorem scan_reading {k : Lexeme} (s : List Char) {t : List Char}
    (h : ∀ c ∈ t, k.goesOn c = true) : scan (.reading k s) t = ([], .reading k (s ++ t)) := by
  induction t generalizing s with
  | nil => simp [scan]
  | cons c t ih =>
    have hc : (Mode.reading k s).joins c = true := h c List.mem_cons_self
    rw [scan, step, if_pos hc, Mode.grow, ih _ fun d hd ↦ h d (List.mem_cons_of_mem c hd)]
    simp

/-- Digits of a decimal number. -/
def isDecimal (s : List Char) : Bool := !s.isEmpty && s.all Char.isDigit

/-- A natural number is written in decimal digits. -/
theorem isDecimal_toString (n : Nat) : isDecimal (toString n).toList = true := by
  rw [isDecimal, Bool.and_eq_true, List.all_eq_true]
  exact ⟨by simp, Text.isDigit_of_mem_toString⟩

/-- A character of a class is none that is not in the class. -/
theorem ne_of_class {f : Char → Bool} {c d : Char} (hc : f c = true) (hd : f d = false) :
    c ≠ d := by
  rintro rfl
  rw [hc] at hd
  cases hd

theorem not_isWordStart_of_isDigit {c : Char} (h : c.isDigit = true) : isWordStart c = false := by
  have hc := Text.toNat_of_isDigit h
  have halpha : c.isAlpha = false := by
    delta Char.isAlpha Char.isUpper Char.isLower
    simp only [ge_iff_le, UInt32.le_iff_toNat_le, Bool.or_eq_false_iff, Bool.and_eq_false_iff,
      decide_eq_false_iff_not]
    have hc' : c.val.toNat = c.toNat := rfl
    have hA : 'A'.val.toNat = 65 := rfl
    have ha : 'a'.val.toNat = 97 := rfl
    omega
  have hunder : c ≠ '_' := ne_of_class h rfl
  simp only [isWordStart, halpha, hunder, decide_false, Bool.or_false, Bool.false_or,
    decide_eq_false_iff_not]
  omega

/-- No operator is made of characters of a class that has none of theirs. -/
theorem not_isOperatorChar {f : Char → Bool} (hf : operatorChars.all (fun d ↦ !f d) = true)
    {c : Char} (hc : f c = true) : isOperatorChar c = false := by
  rw [Bool.eq_false_iff]
  intro hop
  have hnot := List.all_eq_true.mp hf c (of_decide_eq_true hop)
  rw [hc] at hnot
  cases hnot

theorem Quote.ofMark?_eq_none {f : Char → Bool} {c : Char} (hc : f c = true)
    (hname : f '"' = false) (hliteral : f '\'' = false) : ofMark? c = none := by
  rw [ofMark?, if_neg (ne_of_class hc hname), if_neg (ne_of_class hc hliteral)]

/-- A digit between tokens begins a number. -/
theorem start_of_isDigit {c : Char} (h : c.isDigit = true) :
    start c = ([], .reading .number [c]) := by
  have hblank : c ≠ ' ' := ne_of_class h rfl
  have hquote : Quote.ofMark? c = none := Quote.ofMark?_eq_none h rfl rfl
  have hlex : Lexeme.ofStart? c = some .number := by
    rw [Lexeme.ofStart?, not_isWordStart_of_isDigit h, if_neg Bool.false_ne_true, if_pos h]
  rw [start, if_neg hblank, hquote, hlex]

/-- Decimal digits are read as one number. -/
theorem scan_decimal {s : List Char} (h : isDecimal s = true) :
    scan .free s = ([], .reading .number s) := by
  obtain ⟨hne, hs⟩ := (Bool.and_eq_true ..).mp h
  match s with
  | [] => cases hne
  | c :: s =>
    have hs : ∀ d ∈ c :: s, d.isDigit = true := List.all_eq_true.mp hs
    have hrest : ∀ d ∈ s, Lexeme.number.goesOn d = true := fun d hd ↦ by
      simp [Lexeme.goesOn, hs d (List.mem_cons_of_mem c hd)]
    rw [scan, step_of_joins_eq_false rfl, start_of_isDigit (hs c List.mem_cons_self),
      scan_reading [c] hrest]
    rfl

/-- A number may stand wherever a digit ends the token at hand. -/
theorem reads_decimal {p : Place} (hp : ∀ c, c.isDigit = true → p.endsAt c = true) {s : List Char}
    (h : isDecimal s = true) : Reads p .settled s [.lexeme .number s] := by
  obtain ⟨hne, hs⟩ := (Bool.and_eq_true ..).mp h
  have hts : textTokens s = [.lexeme .number s] := by
    rw [textTokens, scan_decimal h]
    rfl
  match s with
  | [] => cases hne
  | c :: s =>
    rw [← hts]
    refine Reads.of_endsAt (hp c (List.all_eq_true.mp hs c List.mem_cons_self)) ?_
    rw [scan_decimal h]
    rfl

theorem scan_placeholder {s : List Char} (h : isDecimal s = true) :
    scan .free ('$' :: s) = ([], .reading .placeholder ('$' :: s)) := by
  have hs : ∀ d ∈ s, Lexeme.placeholder.goesOn d = true := fun d hd ↦ by
    simp [Lexeme.goesOn, List.all_eq_true.mp ((Bool.and_eq_true ..).mp h).2 d hd]
  rw [scan, show step .free '$' = ([], .reading .placeholder ['$']) from rfl, scan_reading _ hs]
  rfl

/-- A dollar sign and a number are one placeholder. -/
theorem reads_placeholder {s : List Char} (h : isDecimal s = true) :
    Reads .free .settled ('$' :: s) [.lexeme .placeholder ('$' :: s)] := by
  have hts : textTokens ('$' :: s) = [.lexeme .placeholder ('$' :: s)] := by
    rw [textTokens, scan_placeholder h]
    rfl
  rw [← hts]
  exact Reads.of_endsAt rfl (by rw [scan_placeholder h]; rfl)

/-! ## Casts

The text of a type has no quote, no operator and no placeholder. -/

/-- The characters of the text of a type. -/
def isTypeChar (c : Char) : Bool := c.isAlphanum || c ∈ ['_', ' ', '.', '[', ']', '(', ')', ',']

/-- What may stand behind a cast. -/
def isTypeName (t : String) : Bool := t ≠ "" && t.toList.all isTypeChar

namespace Token

/-- A word, a number or a mark. -/
def isPlain : Token → Bool
  | lexeme k _ => k = .word || k = .number
  | quoted _ _ => false
  | mark _ => true

end Token

/-- A scan between tokens, in a word or in a number. -/
def Mode.isPlain : Mode → Bool
  | free => true
  | reading k _ => k = .word || k = .number
  | inside _ _ | closing _ _ => false

/-- Where no quotes are open, the token at hand is plain. -/
theorem Mode.isPlain_pending {m : Mode} (h : m.isPlain = true) :
    ∀ tok ∈ m.pending, tok.isPlain = true := by
  intro tok htok
  match m with
  | .free => cases htok
  | .reading k s =>
    rw [List.mem_singleton.mp htok]
    exact h
  | .inside _ _ | .closing _ _ => cases h

/-- No character of the text of a type opens quotes. -/
theorem isPlain_start {c : Char} (h : isTypeChar c = true) :
    (∀ tok ∈ (start c).1, tok.isPlain = true) ∧ (start c).2.isPlain = true := by
  have hquote : Quote.ofMark? c = none := Quote.ofMark?_eq_none h rfl rfl
  have hlex : ∀ k, Lexeme.ofStart? c = some k → (Mode.reading k [c]).isPlain = true := by
    intro k hk
    have hdollar : c ≠ '$' := ne_of_class h rfl
    have hcolon : c ≠ ':' := ne_of_class h rfl
    have hoperator : isOperatorChar c = false := not_isOperatorChar (by decide) h
    rw [Lexeme.ofStart?, if_neg hdollar, hoperator, if_neg hcolon] at hk
    split at hk
    · cases hk
      rfl
    · split at hk
      · cases hk
        rfl
      · cases hk
  rw [start]
  split
  · simp [Mode.isPlain]
  · rw [hquote]
    cases hk : Lexeme.ofStart? c with
    | none => simp [Token.isPlain, Mode.isPlain]
    | some k => simpa using hlex k hk

/-- Behind plain tokens, a character of the text of a type is read as part of one. -/
theorem isPlain_step {m : Mode} {c : Char} (hm : m.isPlain = true) (hc : isTypeChar c = true) :
    (∀ tok ∈ (step m c).1, tok.isPlain = true) ∧ (step m c).2.isPlain = true := by
  rw [step]
  split
  · cases m with
    | free => simp [Mode.grow, Mode.isPlain]
    | reading k s => exact ⟨by simp, hm⟩
    | inside => cases hm
    | closing => cases hm
  · obtain ⟨hts, hstart⟩ := isPlain_start hc
    refine ⟨fun tok htok ↦ ?_, hstart⟩
    rcases List.mem_append.mp htok with htok | htok
    · exact Mode.isPlain_pending hm tok htok
    · exact hts tok htok

/-- Behind plain tokens, the text of a type is read as plain tokens. -/
theorem isPlain_scan {m : Mode} {s : List Char} (hm : m.isPlain = true)
    (hs : ∀ c ∈ s, isTypeChar c = true) :
    (∀ tok ∈ (scan m s).1, tok.isPlain = true) ∧ (scan m s).2.isPlain = true := by
  induction s generalizing m with
  | nil => exact ⟨by simp [scan], hm⟩
  | cons c s ih =>
    obtain ⟨hts, hstep⟩ := isPlain_step hm (hs c List.mem_cons_self)
    obtain ⟨hts', hscan⟩ := ih hstep fun d hd ↦ hs d (List.mem_cons_of_mem c hd)
    refine ⟨fun tok htok ↦ ?_, hscan⟩
    rcases List.mem_append.mp htok with htok | htok
    · exact hts tok htok
    · exact hts' tok htok

/-- The tokens of the text of a type are words, numbers and marks. -/
theorem isPlain_of_mem_textTokens {t : String} (h : isTypeName t = true) {tok : Token}
    (htok : tok ∈ textTokens t.toList) : tok.isPlain = true := by
  have ht := List.all_eq_true.mp ((Bool.and_eq_true ..).mp h).2
  obtain ⟨hts, hscan⟩ := isPlain_scan (m := .free) rfl ht
  rcases List.mem_append.mp htok with htok | htok
  · exact hts tok htok
  · exact Mode.isPlain_pending hscan tok htok

/-- A cast is read as colons and the tokens of its type. -/
theorem reads_cast {t : String} (h : isTypeName t = true) :
    Reads .settled .settled (':' :: ':' :: t.toList)
      (.lexeme .colons [':', ':'] :: textTokens t.toList) := by
  obtain ⟨hne, ht⟩ := (Bool.and_eq_true ..).mp h
  have ht := List.all_eq_true.mp ht
  have hscan : scan .free (':' :: ':' :: t.toList) =
      (.lexeme .colons [':', ':'] :: (scan .free t.toList).1, (scan .free t.toList).2) := by
    have hcolons : scan .free (':' :: ':' :: t.toList) =
        scan (.reading .colons [':', ':']) t.toList := rfl
    rw [hcolons]
    cases hs : t.toList with
    | nil =>
      have hempty : t = "" := String.toList_eq_nil_iff.mp hs
      exact absurd hempty (of_decide_eq_true hne)
    | cons c s =>
      have hc : c ≠ ':' := ne_of_class (ht c (by rw [hs]; exact List.mem_cons_self)) rfl
      exact scan_of_joins_eq_false (by simpa [Mode.joins, Lexeme.goesOn] using hc) s
  have hts : textTokens (':' :: ':' :: t.toList) =
      .lexeme .colons [':', ':'] :: textTokens t.toList := by
    rw [textTokens, hscan]
    rfl
  rw [← hts]
  refine Reads.of_endsAt rfl ?_
  have hplain := (isPlain_scan (m := .free) rfl ht).2
  rw [hscan]
  revert hplain
  cases (scan .free t.toList).2 with
  | free => exact fun _ ↦ rfl
  | reading k s =>
    cases k <;> simp [Mode.isPlain, Place.holds, Place.allows]
  | inside => simp [Mode.isPlain]
  | closing => simp [Mode.isPlain]

end RowGate.Sql
