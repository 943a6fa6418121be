import RowGate.Proofs.Sql.Nesting
import RowGate.Proofs.Sql.Predicate

/-! # The text of a condition

What a predicate looks like that stands between `AND` and `OR`, that every filter is written as
such a predicate, and how the truth of a condition follows from the truth of its predicates.
-/

namespace RowGate.Sql

/-! ## Predicates -/

/-- The marks between predicates. -/
def marks : List (List Char) := [andMark, orMark]

/-- Both marks begin with a blank. -/
theorem head_of_mem_marks {sep : List Char} (h : sep ∈ marks) : sep.head? = some ' ' := by
  have hall : ∀ sep ∈ marks, sep.head? = some ' ' := by decide
  exact hall sep h

/-- What a term of a condition may begin with. -/
def termStarts : List Char := ['"', '(', 'S']

/-- The text of a term of a condition: no mark cuts it. -/
structure IsTerm (s : List Char) : Prop where
  starts : ∃ c ∈ termStarts, [c] <+: s
  balanced : Balanced s
  uncut : ∀ sep ∈ marks, ∀ rest, Uncut sep {} s rest

/-- The text of a predicate: a term that no parentheses enclose as a whole. -/
structure IsPredicate (s : List Char) : Prop extends IsTerm s where
  bare : inParens? s = none

/-- The text of an operand, which is no condition by itself: with a name in front, or with
parentheses that do not enclose it together with what is behind. -/
structure IsOperand (s : List Char) : Prop where
  tight : Tight s
  starts : (∃ t, s = '"' :: t) ∨ ∃ t u, Balanced t ∧ s = '(' :: (t ++ ')' :: u)

/-- Whether a text of operators, in front of `next`, begins no mark. -/
def isOperators (next s : List Char) : Bool :=
  !s.isEmpty && s.all isPlainChar && marks.all fun sep ↦ isUncut sep next {} s

/-- A tight text is not cut by marks, which begin with blanks. -/
theorem IsTerm.of_tight {s : List Char} (h : Tight s) (hs : ∃ c ∈ termStarts, [c] <+: s) :
    IsTerm s where
  starts := hs
  balanced := h.balanced
  uncut _ hsep := h.uncut (head_of_mem_marks hsep)

/-- Parentheses make a term of a balanced text. -/
theorem IsTerm.paren {s : List Char} (h : Balanced s) : IsTerm ('(' :: (s ++ [')'])) :=
  .of_tight h.paren ⟨'(', by decide, List.prefix_append ['('] _⟩

/-- A call is tight, and its name is in front of its parentheses. -/
theorem IsPredicate.call {s : List Char} (h : Tight s) (hs : ['S'] <+: s) : IsPredicate s where
  toIsTerm := .of_tight h ⟨'S', by decide, hs⟩
  bare := by
    obtain ⟨t, rfl⟩ := hs
    exact inParens?_eq_none_of_ne (by decide)

/-- An operand, operators, and what they need on the right. -/
theorem IsPredicate.operand {left operators right next : List Char} (hleft : IsOperand left)
    (hoperators : isOperators next operators = true) (hright : Tight right)
    (hnext : next <+: right) : IsPredicate (left ++ (operators ++ right)) := by
  simp only [isOperators, Bool.and_eq_true, Bool.not_eq_true', List.isEmpty_eq_false_iff,
    List.all_eq_true] at hoperators
  obtain ⟨⟨hne, hplain⟩, hmarks⟩ := hoperators
  have hmiddle : Balanced operators := .plain (List.all_eq_true.mpr hplain)
  have htail : operators ++ right ≠ [] := List.append_ne_nil_of_left_ne_nil hne right
  constructor
  case toIsTerm =>
    constructor
    case starts =>
      rcases hleft.starts with ⟨t, rfl⟩ | ⟨t, u, -, rfl⟩
      · exact ⟨'"', by decide, List.prefix_append ['"'] _⟩
      · exact ⟨'(', by decide, List.prefix_append ['('] _⟩
    case balanced => exact hleft.tight.balanced.append (hmiddle.append hright.balanced)
    case uncut =>
      intro sep hsep rest
      have hhead := head_of_mem_marks hsep
      obtain ⟨right', rfl⟩ := hnext
      rw [Uncut.append_iff, Uncut.append_iff, (hleft.tight.passes 0).after_eq,
        (hmiddle.passes 0).after_eq]
      refine ⟨hleft.tight.uncut hhead _, ?_, hright.uncut hhead _⟩
      rw [List.append_assoc]
      exact .of_isUncut (hmarks sep hsep)
  case bare =>
    rcases hleft.starts with ⟨t, rfl⟩ | ⟨t, u, ht, rfl⟩
    · exact inParens?_eq_none_of_ne (by decide)
    · have hjoin : '(' :: (t ++ ')' :: u) ++ (operators ++ right) =
          '(' :: (t ++ ')' :: (u ++ (operators ++ right))) := by simp
      rw [hjoin]
      exact inParens?_eq_none ht (List.append_ne_nil_of_right_ne_nil u htail)

/-! ## The truth of joined terms -/

section

variable {ws : List (List Char)}

/-- A term may be joined to others by either mark. -/
theorem IsTerm.closed {w sep : List Char} (h : IsTerm w) (hsep : sep ∈ marks) : Closed sep w :=
  ⟨(h.balanced.passes 0).after_eq, h.uncut sep hsep⟩

/-- Balanced texts are balanced together, as their separators are. -/
theorem balanced_intercalate {sep : List Char} (hsep : Balanced sep)
    (h : ∀ w ∈ ws, Balanced w) : Balanced (sep.intercalate ws) := by
  induction ws with
  | nil => exact Tight.nil.balanced
  | cons w ws ih =>
    have hw := h w List.mem_cons_self
    have hws := ih fun v hv ↦ h v (List.mem_cons_of_mem w hv)
    cases ws with
    | nil => simpa using hw
    | cons v ws =>
      rw [List.intercalate_cons_cons]
      exact (hw.append hsep).append hws

theorem balanced_orMark : Balanced orMark := .plain (by decide)

/-- The terms around an `AND` leave nothing that an `OR` cuts. -/
theorem uncut_intercalate (h : ∀ w ∈ ws, IsTerm w) (rest : List Char) :
    Uncut orMark {} (andMark.intercalate ws) rest := by
  induction ws with
  | nil => trivial
  | cons w ws ih =>
    have hw := h w List.mem_cons_self
    have hws := ih fun v hv ↦ h v (List.mem_cons_of_mem w hv)
    cases ws with
    | nil => simpa using hw.uncut orMark (by decide) rest
    | cons v ws =>
      have hbetween : termStarts.all (isUncut orMark [·] {} andMark) = true := rfl
      obtain ⟨c, hc, hstart⟩ := (h v (by simp)).starts
      have hjoin : [c] <+: andMark.intercalate (v :: ws) := by
        cases ws with
        | nil => simpa using hstart
        | cons u ws =>
          rw [List.intercalate_cons_cons, List.append_assoc]
          exact hstart.trans (List.prefix_append v _)
      have hmark : ({} : Nesting).after andMark = {} := rfl
      rw [List.intercalate_cons_cons, List.append_assoc, Uncut.append_iff, Uncut.append_iff,
        (hw.balanced.passes 0).after_eq, hmark]
      refine ⟨hw.uncut orMark (by decide) _, ?_, hws⟩
      obtain ⟨t, ht⟩ := hjoin
      rw [← ht, List.append_assoc]
      exact .of_isUncut (List.all_eq_true.mp hbetween c hc)

/-- A conjunction of terms holds if they all do. -/
theorem conditionHolds_and (truth : String → Bool) (hne : ws ≠ []) (h : ∀ w ∈ ws, IsTerm w) :
    conditionHolds truth (andMark.intercalate ws) = ws.all (operandHolds truth) := by
  have hor : splitOutside orMark (andMark.intercalate ws) = [andMark.intercalate ws] :=
    splitOutside_eq_self (uncut_intercalate h [])
  have hand : splitOutside andMark (andMark.intercalate ws) = ws :=
    splitOutside_intercalate (by decide) hne fun w hw ↦ (h w hw).closed (by decide)
  rw [conditionHolds_eq, hor, List.any_cons, List.any_nil, Bool.or_false, hand]

/-- A disjunction of terms holds if one of them does. -/
theorem conditionHolds_or (truth : String → Bool) (hne : ws ≠ []) (h : ∀ w ∈ ws, IsTerm w) :
    conditionHolds truth (orMark.intercalate ws) = ws.any (operandHolds truth) := by
  have hor : splitOutside orMark (orMark.intercalate ws) = ws :=
    splitOutside_intercalate (by decide) hne fun w hw ↦ (h w hw).closed (by decide)
  have hand : ∀ w ∈ ws, (splitOutside andMark w).all (operandHolds truth) =
      operandHolds truth w := by
    intro w hw
    have hself : splitOutside andMark w = [w] :=
      splitOutside_eq_self ((h w hw).uncut andMark (by decide) [])
    rw [hself, List.all_cons, List.all_nil, Bool.and_true]
  rw [conditionHolds_eq, hor, Bool.eq_iff_iff, List.any_eq_true, List.any_eq_true]
  exact exists_congr fun w ↦ and_congr_right fun hw ↦ by rw [hand w hw]

/-- A predicate is looked up as a whole. -/
theorem operandHolds_predicate (truth : String → Bool) {s : String}
    (h : IsPredicate s.toList) : operandHolds truth s.toList = truth s := by
  rw [operandHolds, h.bare]
  simp only [String.ofList_toList]

/-- Parentheses are taken off a condition that they enclose. -/
theorem operandHolds_paren (truth : String → Bool) {s : List Char} (h : Balanced s) :
    operandHolds truth ('(' :: (s ++ [')'])) = conditionHolds truth s := by
  rw [operandHolds, inParens?_paren h]

end

end RowGate.Sql

namespace RowGate

open Sql (Balanced Tight IsOperand IsPredicate isOperators)

variable {f g : Fragment} {p : ColumnPath}

/-! ## The text of a fragment -/

namespace Fragment

/-- The text of a fragment has a property, wherever its numbers begin. -/
def Everywhere (P : List Char → Prop) (f : Fragment) : Prop := ∀ k, P (f.textFrom k).toList

/-- The second fragment is numbered on behind the values of the first. -/
theorem toList_textFrom_append (k : Nat) (f g : Fragment) : ((f ++ g).textFrom k).toList =
    (f.textFrom k).toList ++ (g.textFrom (k + f.values.length)).toList := by
  rw [textFrom_append, String.toList_append]

theorem textFrom_fixed (k : Nat) (s : String) : textFrom k [.fixed s] = s := by
  simp [textFrom]

/-- The text of a fragment in parentheses. -/
theorem toList_textFrom_paren (k : Nat) (f : Fragment) :
    (f.paren.textFrom k).toList = '(' :: ((f.textFrom k).toList ++ [')']) := by
  rw [paren, ← List.singleton_append, toList_textFrom_append, toList_textFrom_append,
    textFrom_fixed, textFrom_fixed]
  rfl

/-- Tight fragments are tight together. -/
theorem Everywhere.tight_append (hf : f.Everywhere Tight) (hg : g.Everywhere Tight) :
    (f ++ g).Everywhere Tight := by
  intro k
  rw [toList_textFrom_append]
  exact (hf k).append (hg _)

/-- Balanced fragments are balanced together. -/
theorem Everywhere.balanced_append (hf : f.Everywhere Balanced) (hg : g.Everywhere Balanced) :
    (f ++ g).Everywhere Balanced := by
  intro k
  rw [toList_textFrom_append]
  exact (hf k).append (hg _)

/-- The blanks of a balanced fragment are hidden by parentheses around it. -/
theorem Everywhere.paren (hf : f.Everywhere Balanced) : f.paren.Everywhere Tight := by
  intro k
  rw [toList_textFrom_paren]
  exact (hf k).paren

theorem Everywhere.balanced (hf : f.Everywhere Tight) : f.Everywhere Balanced := fun k ↦
  (hf k).balanced

/-- A fixed text without quotes and parentheses is balanced. -/
theorem balanced_fixed {s : String} (h : s.toList.all Sql.isPlainChar = true) :
    Everywhere Balanced [.fixed s] := by
  intro k
  rw [textFrom_fixed]
  exact .plain h

/-- A fixed text without quotes, parentheses and blanks is tight. -/
theorem tight_fixed {s : String} (h : s.toList.all Sql.isTightChar = true) :
    Everywhere Tight [.fixed s] := by
  intro k
  rw [textFrom_fixed]
  exact .plain h

/-- A literal is tight, as its blanks stand in quotes. -/
theorem tight_key (s : String) : Everywhere Tight [.key s] := by
  intro k
  rw [textFrom, textFrom, String.append_empty, toList_stringLiteral]
  exact .quoted .literal s.toList

theorem isTightChar_of_isDigit {c : Char} (h : c.isDigit = true) : Sql.isTightChar c = true := by
  have hmarks : ['"', '\'', '(', ')'].all (fun d ↦ !d.isDigit) = true := rfl
  have hplain : Sql.isPlainChar c = true := by
    refine decide_eq_true fun hc ↦ ?_
    simpa [h] using List.all_eq_true.mp hmarks c hc
  rw [Sql.isTightChar, hplain, Bool.true_and, bne_iff_ne]
  exact Sql.ne_of_class h rfl

/-- Numbers are written without blanks. -/
theorem tight_toString (n : Nat) : Tight (toString n).toList := by
  obtain ⟨-, hdigits⟩ := (Bool.and_eq_true ..).mp (Sql.isDecimal_toString n)
  exact .plain (List.all_eq_true.mpr fun c hc ↦
    isTightChar_of_isDigit (List.all_eq_true.mp hdigits c hc))

theorem tight_number (n : Nat) : Everywhere Tight [.number n] := by
  intro k
  rw [textFrom, textFrom, String.append_empty]
  exact tight_toString n

/-- A placeholder without a type of a column is a number, with the cast of a vector. -/
theorem toList_textFrom_bound (k : Nat) (v : SqlValue) : ∃ cast : List Char, Tight cast ∧
    (textFrom k [.bound v none]).toList = '$' :: ((toString (k + 1)).toList ++ cast) := by
  rw [textFrom, textFrom, String.append_empty, placeholder]
  cases v.isVector with
  | true => exact ⟨"::vector".toList, .plain (by decide), by simp⟩
  | false => exact ⟨[], .nil, by simp⟩

/-- A placeholder is a dollar sign, a number and perhaps the cast of a vector. -/
theorem tight_bound (v : SqlValue) : Everywhere Tight [.bound v none] := by
  intro k
  have hdollar : Tight ['$'] := .plain (by decide)
  obtain ⟨cast, hcast, htext⟩ := toList_textFrom_bound k v
  rw [htext]
  exact hdollar.append ((tight_toString _).append hcast)

/-- A placeholder begins with a dollar sign. -/
theorem dollar_prefix_bound (k : Nat) (v : SqlValue) :
    ['$'] <+: (textFrom k [.bound v none]).toList := by
  obtain ⟨cast, -, htext⟩ := toList_textFrom_bound k v
  rw [htext]
  exact List.prefix_append ['$'] _

end Fragment

open Fragment (Everywhere)

/-! ## Operands -/

/-- The steps of a path are arrows without blanks, with keys or numbers behind them. -/
theorem tight_steps (steps : List PathStep) : Everywhere Tight
    (steps.flatMap fun step ↦ [.fixed step.accessor.sql, step.key.piece]) := by
  induction steps with
  | nil => exact fun _ ↦ .nil
  | cons step steps ih =>
    have haccessor : Everywhere Tight [.fixed step.accessor.sql] := by
      cases step.accessor <;> exact Fragment.tight_fixed (by decide)
    have hkey : Everywhere Tight [step.key.piece] := by
      cases step.key with
      | name s => exact Fragment.tight_key s
      | index n => exact Fragment.tight_number n
    exact (haccessor.tight_append hkey).tight_append ih

/-- A path begins with a quoted name. -/
theorem isOperand_path (p : ColumnPath) : p.fragment.Everywhere IsOperand := by
  intro k
  rw [ColumnPath.fragment, Fragment.textFrom, String.toList_append, toList_quoted]
  exact ⟨(Tight.quoted .name _).append (tight_steps _ k), .inl ⟨_, rfl⟩⟩

theorem balanced_path (p : ColumnPath) : p.fragment.Everywhere Balanced := fun k ↦
  (isOperand_path p k).tight.balanced

/-- The text of a whole document stands in parentheses as a whole. -/
theorem isOperand_documentText (hf : f.Everywhere Balanced) :
    (documentText f).Everywhere IsOperand := by
  have heq : documentText f =
      Fragment.paren (f ++ ([Piece.fixed " #>> "] ++ [Piece.key wholeDocument])) := by
    simp [documentText, Fragment.paren, wholeDocument]
  have hin : Everywhere Balanced (f ++ ([Piece.fixed " #>> "] ++ [Piece.key wholeDocument])) :=
    hf.balanced_append ((Fragment.balanced_fixed (by decide)).balanced_append
      (Fragment.tight_key _).balanced)
  intro k
  rw [heq, Fragment.toList_textFrom_paren]
  exact ⟨(hin k).paren, .inr ⟨_, [], hin k, rfl⟩⟩

/-- What is cast to a number stands in parentheses, with the cast behind them. -/
theorem isOperand_castNumeric (hf : f.Everywhere Balanced) :
    (castNumeric f).Everywhere IsOperand := by
  intro k
  have hcast : Tight "::numeric".toList := .plain (by decide)
  rw [castNumeric, Fragment.toList_textFrom_append, Fragment.toList_textFrom_paren,
    Fragment.textFrom_fixed]
  refine ⟨(hf k).paren.append hcast, .inr ⟨_, "::numeric".toList, hf k, ?_⟩⟩
  rw [List.cons_append, List.append_assoc]
  rfl

/-- The left side of a comparison is an operand in each of its forms. -/
theorem isOperand_comparisonOperands (p : ColumnPath) (op : Operator) (v : FilterValue) :
    (comparisonOperands p op v).1.Everywhere IsOperand := by
  rw [comparisonOperands]
  split_ifs
  · exact isOperand_castNumeric (balanced_path p)
  · exact isOperand_documentText (balanced_path p)
  · exact isOperand_path p
  · exact isOperand_path p
  · exact isOperand_path p

/-- A test of distance, with the parentheses of its calls apart from their names. -/
def distanceTest (f : Fragment) (geometry distance : SqlValue) : Fragment :=
  let place : Fragment :=
    Piece.fixed ", ST_GeomFromGeoJSON" :: Fragment.paren [.bound geometry none]
  Piece.fixed "ST_DWithin" ::
    Fragment.paren (f ++ (place ++ [Piece.fixed ", ", Piece.bound distance none]))

/-- All blanks of a distance test stand in the parentheses of its calls. -/
theorem tight_distanceTest (hf : f.Everywhere Balanced) (geometry distance : SqlValue) :
    (distanceTest f geometry distance).Everywhere Tight := by
  have hname : Everywhere Tight [.fixed "ST_DWithin"] := Fragment.tight_fixed (by decide)
  have hplace : Everywhere Balanced
      (Piece.fixed ", ST_GeomFromGeoJSON" :: Fragment.paren [.bound geometry none]) :=
    (Fragment.balanced_fixed (by decide)).balanced_append
      (Fragment.tight_bound geometry).balanced.paren.balanced
  have hdistance : Everywhere Balanced [.fixed ", ", .bound distance none] :=
    (Fragment.balanced_fixed (by decide)).balanced_append (Fragment.tight_bound distance).balanced
  exact hname.tight_append (hf.balanced_append (hplace.balanced_append hdistance)).paren

/-- The compiler writes the parentheses of a distance test as parts of its fixed texts. -/
theorem textFrom_distanceTest (k : Nat) (f : Fragment) (geometry distance : SqlValue) :
    (distanceTest f geometry distance).textFrom k =
      Fragment.textFrom k (Piece.fixed "ST_DWithin(" :: f ++
        [Piece.fixed ", ST_GeomFromGeoJSON(", Piece.bound geometry none, Piece.fixed "), ",
          Piece.bound distance none, Piece.fixed ")"]) := by
  simp [distanceTest, Fragment.textFrom, Fragment.textFrom_append, Fragment.paren,
    ← String.append_assoc]

/-! ## Filters as predicates -/

/-- A test of an operand. -/
theorem isPredicate_test (hf : f.Everywhere IsOperand) {s : String}
    (hs : isOperators [] s.toList = true) : (f ++ [Piece.fixed s]).Everywhere IsPredicate := by
  intro k
  rw [Fragment.toList_textFrom_append, Fragment.textFrom_fixed, ← List.append_nil s.toList]
  exact .operand (hf k) hs .nil List.nil_prefix

/-- A comparison of an operand with a bound value. -/
theorem isPredicate_comparison (hf : f.Everywhere IsOperand) {s : String}
    (hs : isOperators ['$'] s.toList = true) (v : SqlValue) :
    (f ++ ([Piece.fixed s] ++ [Piece.bound v none])).Everywhere IsPredicate := by
  intro k
  rw [Fragment.toList_textFrom_append, Fragment.toList_textFrom_append, Fragment.textFrom_fixed]
  exact .operand (hf k) hs (Fragment.tight_bound v _) (Fragment.dollar_prefix_bound _ v)

namespace Filter

variable {c : Filter}

/-- A test for null or a truth value is a predicate. -/
theorem isPredicate_isFragment (h : c.isFragment p = .ok g) : g.Everywhere IsPredicate := by
  rw [isFragment] at h
  split at h
  · cases h
    exact isPredicate_test (isOperand_path p) (by decide)
  · cases h
    exact isPredicate_comparison (isOperand_path p) (by decide) _
  · cases h

/-- Membership in an array is a predicate. -/
theorem isPredicate_inFragment (h : c.inFragment p none = .ok g) : g.Everywhere IsPredicate := by
  have hleft : (if p.extractsJson then documentText p.fragment
      else p.fragment).Everywhere IsOperand := by
    split
    · exact isOperand_documentText (balanced_path p)
    · exact isOperand_path p
  rw [inFragment] at h
  split at h
  · cases h
  next items _ =>
    cases h
    intro k
    have hany (j : Nat) : (Fragment.textFrom j
        [.fixed " = ANY(", .bound (.textArray items) none, .fixed ")"]).toList = " = ANY".toList ++
          '(' :: ((Fragment.textFrom j [.bound (.textArray items) none]).toList ++ [')']) := by
      simp [Fragment.textFrom]
    have hoperator : isOperators ['('] " = ANY".toList = true := by decide
    have hlist := (Fragment.tight_bound (.textArray items)).balanced
    rw [Option.filter_none, Option.bind_none, Option.map_none, Fragment.toList_textFrom_append,
      hany]
    exact .operand (hleft k) hoperator (hlist _).paren (List.prefix_append ['('] _)

/-- A distance test is a predicate by its call. -/
theorem isPredicate_geoFragment (h : c.geoFragment p = .ok g) : g.Everywhere IsPredicate := by
  rw [geoFragment] at h
  split at h
  · split at h
    · cases h
    next distance geometry _ =>
      cases h
      intro k
      have hstart : ['S'] <+: "ST_DWithin".toList := by decide
      rw [← textFrom_distanceTest]
      refine .call (tight_distanceTest (balanced_path p) _ _ k) ?_
      rw [distanceTest, Fragment.textFrom, String.toList_append]
      exact hstart.trans (List.prefix_append _ _)
  · cases h

/-- No symbol of an operator begins a mark. -/
theorem isOperators_symbol {op : Operator} {symbol : String} (h : op.sql? = some symbol) :
    isOperators ['$'] (" " ++ symbol ++ " ").toList = true := by
  cases op <;> cases h <;> decide

/-- A comparison is a predicate, under every operator that has a symbol. -/
theorem isPredicate_binaryFragment {op : Operator} {symbol : String} (hop : op.sql? = some symbol)
    (h : c.binaryFragment p none symbol = .ok g) : g.Everywhere IsPredicate := by
  rcases binaryFragment_eq_ok h with ⟨-, -, rfl⟩ | ⟨-, -, rfl⟩ | ⟨-, rfl⟩
  · exact isPredicate_test (isOperand_path p) (by decide)
  · exact isPredicate_test (isOperand_path p) (by decide)
  · exact isPredicate_comparison (isOperand_comparisonOperands p _ _) (isOperators_symbol hop) _

/-- Every filter is written as one predicate. -/
theorem isPredicate_fragment (h : c.fragment none = .ok g) : g.Everywhere IsPredicate := by
  rw [fragment_eq_bind] at h
  obtain ⟨p, -, h⟩ := bind_eq_ok_iff.mp h
  rw [conditionOf, columnOf_none] at h
  split at h
  · exact isPredicate_isFragment h
  · exact isPredicate_inFragment h
  · exact isPredicate_geoFragment h
  · split at h
    next symbol hsymbol => exact isPredicate_binaryFragment hsymbol h
    next => cases h

end Filter

end RowGate
