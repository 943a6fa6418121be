import Mathlib.Data.List.Basic

/-! # The tokens of SQL text

PostgreSQL's lexical rules, as far as the text of a statement needs them: quoted identifiers and
string literals, in which the quote is written twice (`standard_conforming_strings` is on, so a
backslash is a character like any other), and between them words, numbers, placeholders, operators,
casts and single marks. Only a blank separates tokens silently; any other space is a mark.

Lexemes are as long as possible, also where the server's are not, so that no trick of the grammar
goes unseen: `--` and `/*`, which begin comments, show in an operator, `1e5` and `0x1F` are numbers
that are no digits, `$tag$` is a placeholder without a number, and in `E'…'` a word stands directly
before the literal.
-/

namespace RowGate.Sql

/-- The two kinds of quoted tokens. -/
inductive Quote where
  /-- An identifier. -/
  | name
  /-- A string. -/
  | literal
deriving DecidableEq, Repr

namespace Quote

def mark : Quote → Char
  | name => '"'
  | literal => '\''

def ofMark? (c : Char) : Option Quote :=
  if c = '"' then some name else if c = '\'' then some literal else none

end Quote

/-- The kinds of unquoted tokens that may have several characters. -/
inductive Lexeme where
  | word
  | number
  | placeholder
  | operator
  /-- Colons; two of them are a cast. -/
  | colons
deriving DecidableEq, Repr

/-- Letters, among them all characters beyond ASCII, and the underscore. -/
def isWordStart (c : Char) : Bool := c.isAlpha || c = '_' || 128 ≤ c.toNat

def operatorChars : List Char :=
  ['+', '-', '*', '/', '<', '>', '=', '~', '!', '@', '#', '%', '^', '&', '|', '\x60', '?']

def isOperatorChar (c : Char) : Bool := c ∈ operatorChars

namespace Lexeme

/-- The token that begins with a character. -/
def ofStart? (c : Char) : Option Lexeme :=
  if isWordStart c then some word
  else if c.isDigit then some number
  else if c = '$' then some placeholder
  else if isOperatorChar c then some operator
  else if c = ':' then some colons
  else none

/-- Whether a token goes on with a character. -/
def goesOn : Lexeme → Char → Bool
  | word, c => isWordStart c || c.isDigit || c = '$'
  | number, c => isWordStart c || c.isDigit || c = '.'
  | placeholder, c => isWordStart c || c.isDigit || c = '$'
  | operator, c => isOperatorChar c
  | colons, c => c = ':'

end Lexeme

inductive Token where
  | lexeme (k : Lexeme) (s : List Char)
  /-- What a quoted token stands for. -/
  | quoted (q : Quote) (s : List Char)
  | mark (c : Char)
deriving DecidableEq, Repr

/-- Where a scan stands, with what it has read of the token at hand. -/
inductive Mode where
  /-- Between tokens. -/
  | free
  | reading (k : Lexeme) (s : List Char)
  /-- In quotes. -/
  | inside (q : Quote) (s : List Char)
  /-- Behind a quote that ends the token, unless another quote follows. -/
  | closing (q : Quote) (s : List Char)
deriving DecidableEq, Repr

/-- The token that ends where a scan stands. -/
def Mode.pending : Mode → List Token
  | free => []
  | reading k s => [.lexeme k s]
  | inside _ _ => []
  | closing q s => [.quoted q s]

/-- Whether the token at hand goes on with a character. -/
def Mode.joins : Mode → Char → Bool
  | free, _ => false
  | reading k _, c => k.goesOn c
  | inside _ _, _ => true
  | closing q _, c => c = q.mark

/-- The token at hand with one more character. -/
def Mode.grow : Mode → Char → Mode
  | free, _ => free
  | reading k s, c => reading k (s ++ [c])
  | inside q s, c => if c = q.mark then closing q s else inside q (s ++ [c])
  | closing q s, c => inside q (s ++ [c])

/-- A character read between tokens. -/
def start (c : Char) : List Token × Mode :=
  if c = ' ' then ([], .free)
  else match Quote.ofMark? c with
    | some q => ([], .inside q [])
    | none => match Lexeme.ofStart? c with
      | some k => ([], .reading k [c])
      | none => ([.mark c], .free)

/-- A character read: the tokens that it ends, and where the scan stands behind it. -/
def step (m : Mode) (c : Char) : List Token × Mode :=
  if m.joins c then ([], m.grow c) else (m.pending ++ (start c).1, (start c).2)

def scan : Mode → List Char → List Token × Mode
  | m, [] => ([], m)
  | m, c :: s => ((step m c).1 ++ (scan (step m c).2 s).1, (scan (step m c).2 s).2)

/-- The tokens of a text; none if it ends in quotes. -/
def tokens (s : String) : Option (List Token) :=
  match scan .free s.toList with
  | (_, .inside _ _) => none
  | (ts, m) => some (ts ++ m.pending)

/-- The tokens of a text that does not end in quotes. -/
def textTokens (s : List Char) : List Token := (scan .free s).1 ++ (scan .free s).2.pending

/-! ## Reading in stretches -/

/-- A text may be scanned in two stretches. -/
theorem scan_append (m : Mode) (a b : List Char) :
    scan m (a ++ b) = ((scan m a).1 ++ (scan (scan m a).2 b).1, (scan (scan m a).2 b).2) := by
  induction a generalizing m with
  | nil => rfl
  | cons c a ih => simp only [List.cons_append, scan, ih, List.append_assoc]

/-- A character that does not belong to the token at hand ends it. -/
theorem step_of_joins_eq_false {m : Mode} {c : Char} (h : m.joins c = false) :
    step m c = (m.pending ++ (start c).1, (start c).2) := by
  rw [step, if_neg (by simp [h])]

/-- A character that the token at hand does not go on with is read as between tokens. -/
theorem scan_of_joins_eq_false {m : Mode} {c : Char} (h : m.joins c = false) (s : List Char) :
    scan m (c :: s) = (m.pending ++ (scan .free (c :: s)).1, (scan .free (c :: s)).2) := by
  have hfree : step .free c = start c := by
    rw [step_of_joins_eq_false rfl]
    rfl
  simp only [scan, step_of_joins_eq_false h, hfree, List.append_assoc]

/-! ## Places between pieces of text -/

/-- What is known of where a scan stands outside of quotes. -/
inductive Place where
  /-- Between tokens. -/
  | free
  /-- Between tokens or in an operator. -/
  | ground
  /-- Between tokens or directly behind a quoted token. -/
  | behindQuote
  /-- Anywhere but in an operator or in colons. -/
  | settled
  /-- Anywhere but in colons. -/
  | outside
deriving DecidableEq, Repr

namespace Place

/-- The lexemes that a scan may be in the middle of. -/
def allows : Place → Lexeme → Bool
  | ground, k => k = .operator
  | settled, k => k = .word || k = .number || k = .placeholder
  | outside, k => k ≠ .colons
  | free, _ | behindQuote, _ => false

/-- Whether a quoted token may have ended just before. -/
def followsQuote : Place → Bool
  | behindQuote | settled | outside => true
  | free | ground => false

/-- Whether a scan stands there. -/
def holds (p : Place) : Mode → Bool
  | .free => true
  | .reading k _ => p.allows k
  | .inside _ _ => false
  | .closing _ _ => p.followsQuote

/-- The characters that end every token outside of quotes. -/
def breaks : List Char := [' ', ',', '(', ')']

/-- Whether a character ends the token at hand, whichever it is there. -/
def endsAt : Place → Char → Bool
  | free, _ => true
  | ground, c => !isOperatorChar c
  | behindQuote, c => c ≠ '"' && c ≠ '\''
  | settled, c => c ∈ '-' :: ':' :: breaks
  | outside, c => c ∈ breaks

def le : Place → Place → Bool
  | free, _ => true
  | behindQuote, settled => true
  | _, outside => true
  | p, q => p = q

/-- A scan that stands at a place stands at every place of which less is known. -/
theorem holds_of_le {p q : Place} (hle : p.le q = true) {m : Mode} (h : p.holds m = true) :
    q.holds m = true := by
  match m with
  | .free => rfl
  | .inside _ _ => cases h
  | .closing _ _ =>
    have hp : p.followsQuote = true := h
    have hq : q.followsQuote = true := by
      revert hp
      cases p <;> cases q <;> revert hle <;> decide
    exact hq
  | .reading k _ =>
    have hk : p.allows k = true := h
    have hq : q.allows k = true := by
      revert hk
      cases p <;> cases q <;> revert hle <;> cases k <;> decide
    exact hq

/-- No lexeme that a place allows goes on with a character that ends tokens there. -/
theorem goesOn_eq_false {p : Place} {k : Lexeme} (h : p.allows k = true) {c : Char}
    (hc : p.endsAt c = true) : k.goesOn c = false := by
  cases p
  case free | behindQuote => cases h
  case ground =>
    have hk : k = .operator := by simpa [allows] using h
    subst hk
    exact (Bool.not_eq_true' _).mp hc
  case settled =>
    simp only [endsAt, breaks, List.mem_cons, List.not_mem_nil, or_false, decide_eq_true_eq] at hc
    cases k
    case operator | colons => cases h
    all_goals rcases hc with rfl | rfl | rfl | rfl | rfl | rfl <;> rfl
  case outside =>
    simp only [endsAt, breaks, List.mem_cons, List.not_mem_nil, or_false, decide_eq_true_eq] at hc
    cases k
    case colons => cases h
    all_goals rcases hc with rfl | rfl | rfl | rfl <;> rfl

/-- No token at hand goes on with a character that ends tokens at its place. -/
theorem joins_eq_false {p : Place} {m : Mode} (h : p.holds m = true) {c : Char}
    (hc : p.endsAt c = true) : m.joins c = false := by
  match m with
  | .free => rfl
  | .inside _ _ => cases h
  | .reading _ _ => exact goesOn_eq_false h hc
  | .closing q _ =>
    have hp : p.followsQuote = true := h
    have hq : c ≠ q.mark := by
      rintro rfl
      revert hp hc
      cases p <;> cases q <;> decide
    simpa [Mode.joins] using hq

end Place

/-- From wherever a scan stands at the place `p`, the text adds the tokens `ts` and leads to the
place `q`. -/
def Reads (p q : Place) (s : List Char) (ts : List Token) : Prop :=
  ∀ m, p.holds m = true → q.holds (scan m s).2 = true ∧
    (scan m s).1 ++ (scan m s).2.pending = m.pending ++ ts

namespace Reads

variable {p q r : Place} {a b s : List Char} {ta tb ts : List Token}

/-- Stretches may be read one after the other if they meet at a place. -/
theorem append (ha : Reads p q a ta) (hb : Reads q r b tb) : Reads p r (a ++ b) (ta ++ tb) := by
  intro m hm
  obtain ⟨hq, hta⟩ := ha m hm
  obtain ⟨hr, htb⟩ := hb _ hq
  rw [scan_append]
  refine ⟨hr, ?_⟩
  rw [List.append_assoc, htb, ← List.append_assoc, hta, List.append_assoc]

/-- A stretch may begin where more is known, and less may be known of where it ends. -/
theorem mono {p' q' : Place} (hp : p'.le p = true) (hq : q.le q' = true) (h : Reads p q s ts) :
    Reads p' q' s ts :=
  fun m hm ↦ ⟨Place.holds_of_le hq (h m (Place.holds_of_le hp hm)).1,
    (h m (Place.holds_of_le hp hm)).2⟩

theorem nil (h : p.le q = true) : Reads p q [] [] :=
  fun _ hm ↦ ⟨Place.holds_of_le h hm, by simp [scan]⟩

/-- A text whose first character ends every token is read as between tokens. -/
theorem of_endsAt {c : Char} (hp : p.endsAt c = true)
    (hq : q.holds (scan .free (c :: s)).2 = true) :
    Reads p q (c :: s) (textTokens (c :: s)) := by
  intro m hm
  rw [scan_of_joins_eq_false (Place.joins_eq_false hm hp)]
  exact ⟨hq, List.append_assoc ..⟩

end Reads

/-- A text that is read to a place outside of quotes ends none of its quotes too late. -/
theorem tokens_of_reads {s : String} {ts : List Token} {q : Place}
    (h : Reads .free q s.toList ts) : tokens s = some ts := by
  obtain ⟨hout, hts⟩ := h .free rfl
  rw [tokens]
  generalize scan .free s.toList = r at hout hts
  obtain ⟨us, m⟩ := r
  match m with
  | .inside _ _ => cases q <;> cases hout
  | .free | .reading _ _ | .closing _ _ => exact congrArg some hts

end RowGate.Sql
