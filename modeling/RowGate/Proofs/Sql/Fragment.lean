import RowGate.Proofs.Sql.Renumbering

/-! # The tokens of fragments

A fragment is read piece by piece: its tokens are those of its pieces, wherever its text stands in a
statement, and other numbers for its placeholders change nothing else in its text. What the pieces
are taken from is its vocabulary.
-/

namespace RowGate.Sql

/-! ## The compiler's own tokens -/

def keywords : List String :=
  ["SELECT", "FROM", "AS", "WHERE", "AND", "OR", "GROUP", "BY", "ORDER", "ASC", "DESC", "NULLS",
    "FIRST", "LAST", "LIMIT", "OFFSET", "COUNT", "SUM", "AVG", "MIN", "MAX", "IS", "NOT", "NULL",
    "DISTINCT", "LIKE", "ILIKE", "ANY", "ST_DWithin", "ST_GeomFromGeoJSON", "INSERT", "INTO",
    "DEFAULT", "VALUES", "RETURNING", "UPDATE", "SET", "DELETE", "EXPLAIN", "FORMAT", "JSON",
    "to_jsonb", "total", "_rows", "_groups"]

/-- The types that the compiler casts to where it knows no column. -/
def castTypes : List String := ["numeric", "vector"]

def operators : List String := ["*", "-", "=", "<>", "<", "<=", ">", ">=", "->", "->>", "#>>"]

def punctuation : List Char := ['(', ')', ',', '.']

namespace Token

/-- Tokens of the compiler's own: keywords, operators, punctuation, decimal integers and casts. -/
def isFixed : Token → Bool
  | lexeme .word s => String.ofList s ∈ keywords || String.ofList s ∈ castTypes
  | lexeme .number s => isDecimal s
  | lexeme .placeholder _ => false
  | lexeme .operator s => String.ofList s ∈ operators
  | lexeme .colons s => s = [':', ':']
  | quoted _ _ => false
  | mark c => c ∈ punctuation

/-- Placeholders `$n`. -/
def isNumbered : Token → Bool
  | lexeme .placeholder ('$' :: s) => isDecimal s
  | _ => false

/-- Quoted tokens stand for one of the given texts; all others are the compiler's own or
placeholders. -/
def IsFrom (names literals : List String) : Token → Prop
  | quoted .name s => String.ofList s ∈ names
  | quoted .literal s => String.ofList s ∈ literals
  | tok => tok.isFixed = true ∨ tok.isNumbered = true

theorem isFrom_of_isFixed {names literals : List String} {tok : Token}
    (h : tok.isFixed = true) : tok.IsFrom names literals := by
  match tok with
  | quoted _ _ => cases h
  | lexeme _ _ | mark _ => exact .inl h

def placeholder? : Token → Option String
  | lexeme .placeholder s => some (String.ofList s)
  | _ => none

end Token

/-- The placeholders outside of quotes, from left to right. -/
def placeholders (ts : List Token) : List String := ts.filterMap Token.placeholder?

/-- Whether every cast is directly followed by one of the compiler's own types. -/
def castsFixed : List Token → Bool
  | [] => true
  | .lexeme .colons _ :: .lexeme .word s :: ts => String.ofList s ∈ castTypes && castsFixed ts
  | .lexeme .colons _ :: _ => false
  | _ :: ts => castsFixed ts

/-- Casts are looked at one by one, so both texts may be looked at by themselves. -/
theorem castsFixed_append {a b : List Token} (ha : castsFixed a = true)
    (hb : castsFixed b = true) : castsFixed (a ++ b) = true := by
  induction a using castsFixed.induct with
  | case1 => exact hb
  | case2 s t ts ih =>
    obtain ⟨ht, hts⟩ := (Bool.and_eq_true ..).mp ha
    exact (Bool.and_eq_true ..).mpr ⟨ht, ih hts⟩
  | case3 s ts hword =>
    rw [castsFixed] at ha
    · cases ha
    · exact hword
  | case4 tok ts hcast hcolons ih =>
    have htail : ∀ us : List Token, castsFixed (tok :: us) = castsFixed us := by
      intro us
      cases tok with
      | lexeme k s => cases k <;> simp_all [castsFixed]
      | quoted q s => rfl
      | mark c => rfl
    rw [htail] at ha
    rw [List.cons_append, htail]
    exact ih ha

theorem placeholders_append (a b : List Token) :
    placeholders (a ++ b) = placeholders a ++ placeholders b := List.filterMap_append

/-- Whether a text has only tokens of the compiler's own. -/
def isFixedText (s : String) : Bool :=
  (textTokens s.toList).all Token.isFixed && castsFixed (textTokens s.toList)

/-- Whether a text of the compiler's own is read from one place to another. -/
def fixedFits (p q : Place) (s : String) : Bool :=
  match s.toList with
  | [] => false
  | c :: cs => p.endsAt c && q.holds (scan .free (c :: cs)).2 && isFixedText s

/-- Tokens of the compiler's own and quoted ones are no placeholders. -/
theorem placeholders_eq_nil {ts : List Token}
    (h : ∀ tok ∈ ts, tok.isFixed = true ∨ tok.isPlain = true) : placeholders ts = [] := by
  refine List.filterMap_eq_nil_iff.mpr fun tok htok ↦ ?_
  have := h tok htok
  match tok with
  | .lexeme .placeholder s => simp [Token.isFixed, Token.isPlain] at this
  | .lexeme .word _ | .lexeme .number _ | .lexeme .operator _ | .lexeme .colons _ => rfl
  | .quoted _ _ | .mark _ => rfl

/-- The text of a cast. -/
def castText : Option String → String
  | some type => "::" ++ type
  | none => ""

/-- A text without placeholders whose first character ends every token is rewritten to itself. -/
theorem rewrites_self {f : List Char → List Char} {p q : Place} {s : List Char} {ts : List Token}
    (hread : Reads p q s ts) (hend : ∀ c ∈ s.head?, p.endsAt c = true)
    (hts : placeholders ts = []) : Rewrites f p s s := by
  refine .of_reads hread hend fun t ht ↦ ?_
  cases List.filterMap_eq_nil_iff.mp hts _ ht

end RowGate.Sql

namespace RowGate

open Sql (Place Token castText isTypeName isDecimal textTokens)

/-! ## Tokens of pieces -/

/-- The type that a placeholder is cast to. -/
def castType? (v : SqlValue) (type : Option String) : Option String :=
  if v.isVector then some "vector" else type

def castTokens : Option String → List Token
  | some t => .lexeme .colons [':', ':'] :: textTokens t.toList
  | none => []

/-- The name of a type holds no placeholders. -/
theorem placeholders_castTokens {type : Option String}
    (h : ∀ t, type = some t → isTypeName t = true) : Sql.placeholders (castTokens type) = [] := by
  cases type with
  | none => rfl
  | some t =>
    refine Sql.placeholders_eq_nil fun tok htok ↦ ?_
    rcases List.mem_cons.mp htok with rfl | htok
    · exact .inl rfl
    · exact .inr (Sql.isPlain_of_mem_textTokens (h t rfl) htok)

/-- A placeholder is a dollar sign, its number and its cast. -/
theorem placeholder_eq (n : Nat) (v : SqlValue) (type : Option String) :
    placeholder n v type = "$" ++ toString n ++ castText (castType? v type) := by
  change (match castType? v type with
    | some t => "$" ++ toString n ++ "::" ++ t
    | none => "$" ++ toString n) = _
  cases castType? v type with
  | none => exact String.append_empty.symm
  | some t => exact String.append_assoc ..

/-- The tokens of a piece; a bound value takes the number `n`. -/
def Piece.tokens (n : Nat) : Piece → List Token
  | fixed s => textTokens s.toList
  | name i => [.quoted .name i.name.toList]
  | key s => [.quoted .literal s.toList]
  | number n => [.lexeme .number (toString n).toList]
  | bound v type =>
    .lexeme .placeholder ('$' :: (toString n).toList) :: castTokens (castType? v type)

/-- How many placeholders a piece takes. -/
def Piece.width : Piece → Nat
  | bound _ _ => 1
  | _ => 0

/-- The text of a piece; a bound value takes the number `n`. -/
def Piece.text (n : Nat) : Piece → String
  | fixed s => s
  | name i => i.quoted
  | key s => stringLiteral s
  | number n => toString n
  | bound v type => placeholder n v type

namespace Fragment

/-- The tokens, with placeholders numbered after the `k` that are taken. -/
def tokens : Nat → Fragment → List Token
  | _, [] => []
  | k, p :: ps => p.tokens (k + 1) ++ tokens (k + p.width) ps

theorem textFrom_cons (k : Nat) (p : Piece) (ps : Fragment) :
    textFrom k (p :: ps) = p.text (k + 1) ++ textFrom (k + p.width) ps := by
  cases p <;> rfl

/-- A piece takes a placeholder for each value that it binds. -/
theorem length_values_cons (p : Piece) (ps : Fragment) :
    (values (p :: ps)).length = p.width + (values ps).length := by
  cases p <;> simp [values, Piece.width, Nat.add_comm]

/-- The placeholders of the second fragment go on from those of the first. -/
theorem tokens_append (k : Nat) (f g : Fragment) :
    tokens k (f ++ g) = tokens k f ++ tokens (k + (values f).length) g := by
  induction f generalizing k with
  | nil => rfl
  | cons p ps ih =>
    rw [List.cons_append, tokens, ih, tokens, List.append_assoc, length_values_cons, Nat.add_assoc]

end Fragment

/-! ## Vocabularies -/

/-- What the pieces of a fragment are taken from, beside the compiler's own text. -/
structure Vocabulary where
  names : List String
  literals : List String
  /-- The types of columns that the metadata knows. -/
  types : List String := []
  typed : ∀ t ∈ types, isTypeName t = true

namespace Vocabulary

variable (V : Vocabulary)

def Has : Piece → Prop
  | .fixed s => Sql.isFixedText s = true
  | .name i => i.name ∈ V.names
  | .key s => s ∈ V.literals
  | .number _ => True
  | .bound _ type => ∀ t ∈ type, t ∈ V.types

/-- What a token may come from. -/
def Allows (tok : Token) : Prop :=
  tok.IsFrom V.names V.literals ∨ ∃ t ∈ V.types, tok ∈ textTokens t.toList

variable {V}

/-- A cast is to one of the compiler's own types or to the type of a column. -/
theorem castType_mem {v : SqlValue} {type : Option String} (h : V.Has (.bound v type)) {t : String}
    (ht : castType? v type = some t) : t = "vector" ∨ t ∈ V.types := by
  rw [castType?] at ht
  split at ht
  · exact .inl (Option.some.inj ht).symm
  · exact .inr (h t ht)

/-- Every type that a placeholder is cast to is written like the name of a type. -/
theorem isTypeName_castType {v : SqlValue} {type : Option String} (h : V.Has (.bound v type))
    {t : String} (ht : castType? v type = some t) : isTypeName t = true := by
  rcases castType_mem h ht with rfl | hmem
  · decide
  · exact V.typed t hmem

/-- The tokens of a cast are the compiler's own, or those of a type of the vocabulary. -/
theorem allows_castTokens {v : SqlValue} {type : Option String} (h : V.Has (.bound v type)) :
    ∀ tok ∈ castTokens (castType? v type), V.Allows tok := by
  intro tok htok
  cases ht : castType? v type with
  | none =>
    rw [ht] at htok
    cases htok
  | some t =>
    rw [ht] at htok
    rcases List.mem_cons.mp htok with rfl | htok
    · exact .inl (Token.isFrom_of_isFixed rfl)
    · rcases castType_mem h ht with rfl | hmem
      · have hvector : (textTokens "vector".toList).all Token.isFixed = true := by decide
        exact .inl (Token.isFrom_of_isFixed (List.all_eq_true.mp hvector tok htok))
      · exact .inr ⟨t, hmem, htok⟩

/-- Every token of a piece comes from the vocabulary or from the compiler. -/
theorem allows_piece {p : Piece} (h : V.Has p) (n : Nat) : ∀ tok ∈ p.tokens n, V.Allows tok := by
  intro tok htok
  match p with
  | .fixed s =>
    have hs := List.all_eq_true.mp ((Bool.and_eq_true ..).mp h).1
    exact .inl (Token.isFrom_of_isFixed (hs tok htok))
  | .name i =>
    have hname : String.ofList i.name.toList ∈ V.names := by simpa [Has] using h
    exact .inl (List.mem_singleton.mp htok ▸ hname)
  | .key s =>
    have hkey : String.ofList s.toList ∈ V.literals := by simpa [Has] using h
    exact .inl (List.mem_singleton.mp htok ▸ hkey)
  | .number n =>
    rw [List.mem_singleton.mp htok]
    exact .inl (Token.isFrom_of_isFixed (Sql.isDecimal_toString n))
  | .bound v type =>
    rcases List.mem_cons.mp htok with rfl | htok
    · exact .inl (.inr (Sql.isDecimal_toString n))
    · exact allows_castTokens h tok htok

/-- Every token of a fragment comes from the vocabulary of its pieces. -/
theorem allows_tokens {f : Fragment} (h : ∀ p ∈ f, V.Has p) (k : Nat) :
    ∀ tok ∈ f.tokens k, V.Allows tok := by
  induction f generalizing k with
  | nil => exact fun tok htok ↦ nomatch htok
  | cons p ps ih =>
    intro tok htok
    rcases List.mem_append.mp htok with htok | htok
    · exact allows_piece (h p List.mem_cons_self) (k + 1) tok htok
    · exact ih (fun q hq ↦ h q (List.mem_cons_of_mem p hq)) (k + p.width) tok htok

/-- Without metadata every cast is to one of the compiler's own types. -/
theorem castsFixed_tokens (hV : V.types = []) {f : Fragment} (h : ∀ p ∈ f, V.Has p) (k : Nat) :
    Sql.castsFixed (f.tokens k) = true := by
  induction f generalizing k with
  | nil => rfl
  | cons p ps ih =>
    refine Sql.castsFixed_append ?_ (ih (fun q hq ↦ h q (List.mem_cons_of_mem p hq)) _)
    have hp : V.Has p := h p List.mem_cons_self
    match p with
    | .fixed s => exact ((Bool.and_eq_true ..).mp hp).2
    | .name _ | .key _ | .number _ => rfl
    | .bound v type =>
      cases ht : castType? v type with
      | none => simp [Piece.tokens, ht, castTokens, Sql.castsFixed]
      | some t =>
        rcases castType_mem hp ht with rfl | hmem
        · have hvector : Sql.castsFixed (castTokens (some "vector")) = true := by decide
          simpa [Piece.tokens, ht, Sql.castsFixed] using hvector
        · rw [hV] at hmem
          cases hmem

/-- A piece has one placeholder for each of its values. -/
theorem placeholders_piece {p : Piece} (h : V.Has p) (n : Nat) :
    Sql.placeholders (p.tokens n) =
      (List.range' n p.width).map fun i ↦ "$" ++ toString i := by
  match p with
  | .fixed s =>
    have hs := List.all_eq_true.mp ((Bool.and_eq_true ..).mp h).1
    exact Sql.placeholders_eq_nil fun tok htok ↦ .inl (hs tok htok)
  | .name _ | .key _ | .number _ => rfl
  | .bound v type =>
    have hcast : Sql.placeholders (castTokens (castType? v type)) = [] :=
      placeholders_castTokens fun _ ht ↦ isTypeName_castType h ht
    have hnumber : String.ofList ('$' :: (toString n).toList) = "$" ++ toString n := by
      rw [String.ofList_cons, String.ofList_toList]
      rfl
    have hhead : (Token.lexeme .placeholder ('$' :: (toString n).toList)).placeholder? =
        some ("$" ++ toString n) := congrArg some hnumber
    rw [Piece.tokens, Sql.placeholders, List.filterMap_cons_some hhead]
    exact congrArg (List.cons _) hcast

/-- The placeholders of a fragment count its values from left to right. -/
theorem placeholders_tokens {f : Fragment} (h : ∀ p ∈ f, V.Has p) (k : Nat) :
    Sql.placeholders (f.tokens k) =
      (List.range' (k + 1) f.values.length).map fun i ↦ "$" ++ toString i := by
  induction f generalizing k with
  | nil => rfl
  | cons p ps ih =>
    rw [Fragment.tokens, Sql.placeholders_append, placeholders_piece (h p List.mem_cons_self),
      ih (fun q hq ↦ h q (List.mem_cons_of_mem p hq)), Fragment.length_values_cons,
      ← List.map_append, Nat.add_right_comm, List.range'_append_1]

end Vocabulary

/-! ## Fragments in their places -/

/-- A quoted name has its quotes doubled, and one more on each side. -/
theorem toList_quoted (i : Identifier) :
    i.quoted.toList = '"' :: (Sql.Quote.name.double i.name.toList ++ ['"']) := by
  simp [Identifier.quoted, Sql.Quote.double, Sql.Quote.mark]
  rfl

/-- A literal has its quotes doubled, and one more on each side. -/
theorem toList_stringLiteral (s : String) :
    (stringLiteral s).toList = '\'' :: (Sql.Quote.literal.double s.toList ++ ['\'']) := by
  simp [stringLiteral, Sql.Quote.double, Sql.Quote.mark]
  rfl

/-- A name is one quoted token, wherever tokens may begin. -/
theorem reads_name (i : Identifier) (n : Nat) :
    Sql.Reads .free .behindQuote ((Piece.name i).text n).toList ((Piece.name i).tokens n) := by
  rw [Piece.text, toList_quoted]
  exact Sql.reads_quoted .name rfl i.name.toList

/-- A key is one quoted token, also right behind an operator. -/
theorem reads_key (s : String) (n : Nat) :
    Sql.Reads .ground .behindQuote ((Piece.key s).text n).toList ((Piece.key s).tokens n) := by
  rw [Piece.text, toList_stringLiteral]
  exact Sql.reads_quoted .literal rfl s.toList

/-- A digit ends an operator. -/
theorem endsAt_ground_of_isDigit {c : Char} (hc : c.isDigit = true) :
    Place.ground.endsAt c = true := by
  have hop : Sql.isOperatorChar c = false := Sql.not_isOperatorChar (by decide) hc
  rw [Place.endsAt, hop]
  rfl

/-- A number is one token, also right behind an operator. -/
theorem reads_number (m n : Nat) :
    Sql.Reads .ground .settled ((Piece.number m).text n).toList ((Piece.number m).tokens n) := by
  exact Sql.reads_decimal (fun _ hc ↦ endsAt_ground_of_isDigit hc) (Sql.isDecimal_toString m)

theorem toList_bound (v : SqlValue) (type : Option String) (n : Nat) :
    ((Piece.bound v type).text n).toList =
      ('$' :: (toString n).toList) ++ (castText (castType? v type)).toList := by
  rw [Piece.text, placeholder_eq, String.toList_append, String.toList_append]
  rfl

/-- A cast goes on behind a number, as colons do not belong to it. -/
theorem reads_castText {type : Option String} (h : ∀ t, type = some t → isTypeName t = true) :
    Sql.Reads .settled .settled (castText type).toList (castTokens type) := by
  cases type with
  | none => exact .nil rfl
  | some t =>
    have htext : (castText (some t)).toList = ':' :: ':' :: t.toList := String.toList_append
    rw [htext]
    exact Sql.reads_cast (h t rfl)

/-- A cast has no numbers that could be rewritten. -/
theorem rewrites_castText {type : Option String} (h : ∀ t, type = some t → isTypeName t = true)
    {f : List Char → List Char} :
    Sql.Rewrites f .settled (castText type).toList (castText type).toList := by
  refine Sql.rewrites_self (reads_castText h) (fun c hc ↦ ?_) (placeholders_castTokens h)
  cases type with
  | none => cases hc
  | some t =>
    rw [castText, String.toList_append] at hc
    cases hc
    rfl

section

variable {v : SqlValue} {type : Option String}

/-- A bound value is a placeholder with its cast. -/
theorem reads_bound (h : ∀ t, castType? v type = some t → isTypeName t = true) (n : Nat) :
    Sql.Reads .free .settled ((Piece.bound v type).text n).toList
      ((Piece.bound v type).tokens n) := by
  rw [toList_bound]
  exact (Sql.reads_placeholder (Sql.isDecimal_toString n)).append (reads_castText h)

/-- The text of a bound value goes over into its text under another number. -/
theorem rewrites_bound (h : ∀ t, castType? v type = some t → isTypeName t = true) (k n : Nat) :
    Sql.Rewrites (Sql.shiftPlaceholder k) .free ((Piece.bound v type).text n).toList
      ((Piece.bound v type).text (n + k)).toList := by
  have hnumber : Sql.Rewrites (Sql.shiftPlaceholder k) .free ('$' :: (toString n).toList)
      ('$' :: (toString (n + k)).toList) := by
    rw [← Sql.shiftPlaceholder_toString]
    exact .placeholder (Sql.isDecimal_toString n)
  rw [toList_bound, toList_bound]
  exact .append (Sql.reads_placeholder (Sql.isDecimal_toString n)) hnumber (rewrites_castText h)

end

/-- A fragment whose pieces are from the vocabulary, whose text is read from one place to another as
the tokens of its pieces, and in whose text nothing but the numbers of its placeholders depends on
how many are taken before it. -/
structure Fits (V : Vocabulary) (p q : Place) (f : Fragment) : Prop where
  reads : ∀ k, Sql.Reads p q (f.textFrom k).toList (f.tokens k)
  has : ∀ piece ∈ f, V.Has piece
  renumbers : ∀ j k, Sql.Rewrites (Sql.shiftPlaceholder j) p (f.textFrom k).toList
    (f.textFrom (k + j)).toList

namespace Fits

variable {V : Vocabulary} {p q r : Place} {f g : Fragment}

theorem nil (h : p.le q = true) : Fits V p q [] :=
  ⟨fun _ ↦ .nil h, List.forall_mem_nil _, fun _ _ ↦ .nil⟩

/-- A fragment may follow where the first one ends. -/
theorem append (hf : Fits V p q f) (hg : Fits V q r g) : Fits V p r (f ++ g) := by
  refine ⟨fun k ↦ ?_, fun piece hp ↦ ?_, fun j k ↦ ?_⟩
  · rw [Fragment.textFrom_append, Fragment.tokens_append, String.toList_append]
    exact (hf.reads k).append (hg.reads _)
  · rcases List.mem_append.mp hp with hp | hp
    · exact hf.has piece hp
    · exact hg.has piece hp
  · rw [Fragment.textFrom_append, Fragment.textFrom_append, String.toList_append,
      String.toList_append, Nat.add_right_comm]
    exact .append (hf.reads k) (hf.renumbers j k) (hg.renumbers j _)

/-- Less may be known of where a fragment ends, and more of where it begins. -/
theorem mono {p' q' : Place} (h : Fits V p q f) (hp : p'.le p = true) (hq : q.le q' = true) :
    Fits V p' q' f :=
  ⟨fun k ↦ (h.reads k).mono hp hq, h.has, fun j k ↦ (h.renumbers j k).mono hp⟩

/-- A piece by itself fits if it does under every number. -/
theorem of_piece {piece : Piece}
    (h : ∀ n, Sql.Reads p q (piece.text n).toList (piece.tokens n)) (hp : V.Has piece)
    (hnumber : ∀ j n, Sql.Rewrites (Sql.shiftPlaceholder j) p (piece.text n).toList
      (piece.text (n + j)).toList) : Fits V p q [piece] := by
  have htext : ∀ k, Fragment.textFrom k [piece] = piece.text (k + 1) := fun k ↦ by
    rw [Fragment.textFrom_cons, Fragment.textFrom, String.append_empty]
  refine ⟨fun k ↦ ?_, fun piece' hp' ↦ List.mem_singleton.mp hp' ▸ hp, fun j k ↦ ?_⟩
  · rw [htext, Fragment.tokens, Fragment.tokens, List.append_nil]
    exact h (k + 1)
  · rw [htext, htext, Nat.add_right_comm]
    exact hnumber j (k + 1)

/-- A piece without a placeholder has one text under all numbers. -/
theorem of_unnumbered {piece : Piece} (hwidth : piece.width = 0)
    (h : ∀ n, Sql.Reads p q (piece.text n).toList (piece.tokens n)) (hp : V.Has piece)
    (hend : ∀ c ∈ (piece.text 0).toList.head?, p.endsAt c = true) : Fits V p q [piece] := by
  refine of_piece h hp fun j n ↦ ?_
  have htext : ∀ n, piece.text n = piece.text 0 := by
    intro n
    cases piece with
    | bound _ _ => cases hwidth
    | fixed _ | name _ | key _ | number _ => rfl
  have hnone : Sql.placeholders (piece.tokens n) = [] := by
    rw [Vocabulary.placeholders_piece hp, hwidth]
    rfl
  rw [htext (n + j), ← htext n]
  exact Sql.rewrites_self (h n) (htext n ▸ hend) hnone

/-- A fixed text is checked by computation. -/
theorem fixed {s : String} (h : Sql.fixedFits p q s = true) : Fits V p q [.fixed s] := by
  rw [Sql.fixedFits] at h
  cases hs : s.toList with
  | nil =>
    rw [hs] at h
    cases h
  | cons c cs =>
    rw [hs] at h
    simp only [Bool.and_eq_true] at h
    obtain ⟨⟨hp, hq⟩, hown⟩ := h
    refine of_unnumbered rfl (fun n ↦ ?_) hown fun d hd ↦ ?_
    · rw [Piece.text, Piece.tokens, hs]
      exact Sql.Reads.of_endsAt hp hq
    · rw [Piece.text, hs] at hd
      exact Option.some.inj hd ▸ hp

/-- A name of the vocabulary fits wherever tokens may begin. -/
theorem name {i : Identifier} (h : i.name ∈ V.names) : Fits V .free .behindQuote [.name i] :=
  of_unnumbered rfl (reads_name i) h fun _ _ ↦ rfl

/-- A literal of the vocabulary may follow an operator. -/
theorem key {s : String} (h : s ∈ V.literals) : Fits V .ground .behindQuote [.key s] := by
  refine of_unnumbered rfl (reads_key s) h fun c hc ↦ ?_
  rw [Piece.text, toList_stringLiteral] at hc
  cases hc
  rfl

theorem number (n : Nat) : Fits V .ground .settled [.number n] := by
  refine of_unnumbered rfl (reads_number n) trivial fun c hc ↦ ?_
  exact endsAt_ground_of_isDigit (Text.isDigit_of_mem_toString c (List.mem_of_mem_head? hc))

/-- A value whose cast is from the vocabulary fits wherever tokens may begin. -/
theorem bound {v : SqlValue} {type : Option String} (h : ∀ t ∈ type, t ∈ V.types) :
    Fits V .free .settled [.bound v type] := by
  have htype : ∀ t, castType? v type = some t → isTypeName t = true := fun _ ht ↦
    Vocabulary.isTypeName_castType (V := V) h ht
  exact of_piece (reads_bound htype) h (rewrites_bound htype)

/-- Items with a separator between them. -/
theorem join {sep : String} (hsep : Sql.fixedFits .outside .free sep = true) {fs : List Fragment}
    (h : ∀ f ∈ fs, Fits V .free .outside f) : Fits V .free .outside (Fragment.join sep fs) := by
  match fs with
  | [] => exact nil rfl
  | [f] =>
    have hone : Fragment.join sep [f] = f := List.append_nil f
    rw [hone]
    exact h f List.mem_cons_self
  | f :: g :: fs =>
    have hcons : Fragment.join sep (f :: g :: fs) =
        f ++ ([.fixed sep] ++ Fragment.join sep (g :: fs)) := by
      simp [Fragment.join, List.intercalate]
    rw [hcons]
    refine (h f List.mem_cons_self).append ((fixed hsep).append ?_)
    exact join hsep fun k hk ↦ h k (List.mem_cons_of_mem f hk)

/-- Behind its closing parenthesis a fragment leaves no token open. -/
theorem paren (h : Fits V .free .outside f) : Fits V .outside .free f.paren := by
  have hopen : Fits V .outside .free [.fixed "("] := fixed (by decide)
  have hclose : Fits V .outside .free [.fixed ")"] := fixed (by decide)
  exact hopen.append (h.append hclose)

/-- The text of a fragment that fits has just the tokens of its pieces. -/
theorem tokens_textFrom (h : Fits V .free q f) (k : Nat) :
    Sql.tokens (f.textFrom k) = some (f.tokens k) := Sql.tokens_of_reads (h.reads k)

/-- The text behind `j` more values is the text with all placeholders greater by `j`. -/
theorem renumber_textFrom (h : Fits V .free q f) (j k : Nat) :
    Sql.renumber j (f.textFrom k) = f.textFrom (k + j) := by
  have hmap : Sql.mapPlaceholders (Sql.shiftPlaceholder j) (f.textFrom k).toList =
      (f.textFrom (k + j)).toList := h.renumbers j k .free rfl
  rw [Sql.renumber, hmap, String.ofList_toList]

end Fits

end RowGate
