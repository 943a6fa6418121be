import RowGate.Proofs.Query.Condition
import RowGate.Proofs.Query.Group

/-! # What the errors of a group report

An error reports a stretch of the text that was read, blanks around it left out, and that is no
empty stretch. The operand of a condition is the exception: one that is no word its operator takes
is reported as it stands, and if nothing stands there, nothing is reported. Main statement: a group
that is not blank is read only if none of its conditions has such an operand, and otherwise the
error reports the first of them or another stretch of the text.

What is known of the outcome is one predicate, `Accounts`, kept by the sequence of two readings; the
fuel, which bounds the depth, is settled by induction.
-/

namespace RowGate

open Text

/-! ## Stretches of a text -/

/-- The error reports a stretch of the text, and not an empty one. -/
def ParseError.Names (e : ParseError) (s : List Char) : Prop :=
  e.fragment.toList ≠ [] ∧ e.fragment.toList <:+: s

namespace ParseError.Names

variable {e : ParseError} {s t : List Char}

/-- A stretch of a text is a stretch of every text that the text is a stretch of. -/
theorem mono (h : e.Names s) (hst : s <:+: t) : e.Names t := ⟨h.1, h.2.trans hst⟩

/-- An error may report the whole of a text that is not empty. -/
theorem whole (h : s ≠ []) (f : ParseFault) : Names ⟨String.ofList s, f⟩ s := by
  rw [Names, String.toList_ofList]
  exact ⟨h, List.infix_rfl⟩

/-- Where a text cannot be cut, the error reports a stretch of it. -/
theorem of_split {d : Char} (h : Brackets.split d s = .error e) : e.Names s := by
  obtain ⟨hfragment, hne, -⟩ := Brackets.split_eq_error h
  rw [Names, hfragment, String.toList_ofList]
  exact ⟨hne, List.infix_rfl⟩

end ParseError.Names

/-! ## Operands -/

namespace FilterValue

variable {op : Operator} {raw : List Char}

/-- The operand behind an operator, if the operator takes a word and this is none. -/
def misused? (op : Operator) (raw : List Char) : Option (List Char) :=
  if op = .is ∧ (ofText op raw).isOk = false then some raw else none

/-- An operand that is read is not misused. -/
theorem misused?_of_isOk (h : (ofText op raw).isOk = true) : misused? op raw = none := by
  rw [misused?, h, if_neg]
  exact fun hop ↦ Bool.noConfusion hop.2

/-- What stands in parentheses is a stretch of the text. -/
theorem isInfix_stripParens (s : List Char) : stripParens s <:+: s := by
  rw [stripParens]
  cases h : enclosed? '(' ')' s with
  | none => exact List.infix_rfl
  | some t => exact infix_of_enclosed? h

/-- A value is refused because its operator takes a word, or for its brackets and quotes. -/
theorem ofText_eq_error {e : ParseError} (h : ofText op raw = .error e) :
    (e = ⟨String.ofList raw, .isOperand⟩ ∧ misused? op raw = some raw) ∨
      (Brackets.IsFault e.fault ∧ e.Names (trim raw)) := by
  cases op with
  | is =>
    refine .inl ⟨?_, if_pos ⟨rfl, ?_⟩⟩
    · simp only [ofText] at h
      split at h <;> cases h
      rfl
    · rw [h]
      rfl
  | oneOf =>
    refine .inr ?_
    simp only [ofText] at h
    split at h
    · cases h
    · have h := bind_pure_eq_error_iff.mp h
      exact ⟨(Brackets.split_eq_error h).2.2,
        (ParseError.Names.of_split h).mono (isInfix_stripParens _)⟩
  | _ => cases h

end FilterValue

/-! ## Conditions -/

namespace Filter

variable {e : ParseError}

/-- A condition is refused for a column that is not there, or for its value. -/
theorem ofParts_eq_error {column raw fragment : List Char} {op : Operator}
    (h : ofParts column op raw fragment = .error e) :
    (trim column = [] ∧ e = ⟨String.ofList fragment, .missingColumn⟩) ∨
      FilterValue.ofText op raw = .error e := by
  simp only [ofParts] at h
  split at h
  next hcolumn =>
    cases h
    exact .inl ⟨hcolumn, rfl⟩
  · exact .inr (bind_pure_eq_error_iff.mp h)

/-- The operand of a condition of a group, if its operator takes a word and this is none. -/
def misusedOperand? (expr : List Char) : Option (List Char) :=
  (splitCondition? expr).bind fun p ↦ FilterValue.misused? p.2.1 p.2.2

/-- A condition that is read has no misused operand. -/
theorem misusedOperand?_of_ofCondition {expr : List Char} {f : Filter}
    (h : ofCondition expr = .ok f) : misusedOperand? expr = none := by
  rw [ofCondition] at h
  rw [misusedOperand?]
  split at h
  next column op raw hsplit =>
    have hok : (ofParts column op raw expr).isOk = true := by
      rw [h]
      rfl
    rw [isOk_ofParts, Bool.and_eq_true] at hok
    rw [hsplit, Option.bind_some, FilterValue.misused?_of_isOk hok.2]
  · cases h

/-- A refused condition reports its misused operand, or a stretch of itself that is not empty. -/
theorem ofCondition_eq_error {expr : List Char} (hne : expr ≠ [])
    (h : ofCondition expr = .error e) :
    (∃ raw, e = ⟨String.ofList raw, .isOperand⟩ ∧ misusedOperand? expr = some raw ∧
      raw <:+: expr) ∨ (e.fault ≠ .isOperand ∧ e.Names expr) := by
  rw [ofCondition] at h
  split at h
  next column op raw hsplit =>
    have hraw : raw <:+: expr := (suffix_of_splitCondition? hsplit).isInfix
    obtain ⟨-, rfl⟩ | h := ofParts_eq_error h
    · exact .inr ⟨by simp, .whole hne _⟩
    obtain ⟨rfl, hmisused⟩ | ⟨hfault, hnames⟩ := FilterValue.ofText_eq_error h
    · exact .inl ⟨raw, rfl, by rw [misusedOperand?, hsplit, Option.bind_some, hmisused], hraw⟩
    · exact .inr ⟨hfault.ne_isOperand, hnames.mono ((isInfix_trim raw).trans hraw)⟩
  · cases h
    exact .inr ⟨by simp, .whole hne _⟩

end Filter

/-! ## Outcomes -/

/-- What the outcome of reading a part of a group tells about its text and its conditions: no
operand is misused, or the error reports the first that is, or another stretch of the text. -/
def Accounts {α : Type} (s : List Char) (conditions : List (List Char)) :
    Except ParseError α → Prop
  | .ok _ => conditions.findSome? Filter.misusedOperand? = none
  | .error e => e.fragment.toList <:+: s ∧
    if e.fault = .isOperand then
      conditions.findSome? Filter.misusedOperand? = some e.fragment.toList
    else e.fragment.toList ≠ []

namespace Accounts

variable {α β : Type} {s t : List Char} {cs cs' : List (List Char)} {x : Except ParseError α}

theorem mono (h : Accounts s cs x) (hst : s <:+: t) : Accounts t cs x := by
  cases x with
  | ok a => exact h
  | error e => exact ⟨h.1.trans hst, h.2⟩

/-- An error of another kind than that of an operand. -/
theorem error {e : ParseError} (hfault : e.fault ≠ .isOperand) (h : e.Names s) :
    Accounts s cs (.error e : Except ParseError α) := by
  refine ⟨h.2, ?_⟩
  rw [if_neg hfault]
  exact h.1

/-- The conditions of what is read second come behind those of what is read first, so the first
misused operand is still that of the error. -/
theorem bind {f : α → Except ParseError β} (hx : Accounts s cs x)
    (hf : ∀ a, x = .ok a → Accounts s cs' (f a)) : Accounts s (cs ++ cs') (x >>= f) := by
  cases x with
  | error e =>
    obtain ⟨hpart, hx⟩ := hx
    refine ⟨hpart, ?_⟩
    split
    next hfault =>
      rw [if_pos hfault] at hx
      rw [List.findSome?_append, hx, Option.some_or]
    next hfault => rwa [if_neg hfault] at hx
  | ok a =>
    have hnone : cs.findSome? Filter.misusedOperand? = none := hx
    have hfa := hf a rfl
    change Accounts s (cs ++ cs') (f a)
    generalize f a = y at hfa
    cases y <;> simpa only [Accounts, List.findSome?_append, hnone, Option.none_or] using hfa

/-- What cannot fail has no conditions to account for. -/
theorem pure (s : List Char) (a : α) : Accounts s [] (Pure.pure a : Except ParseError α) :=
  List.findSome?_nil

/-- An outcome is accounted for if it is only put into another form. -/
theorem bind_pure {f : α → β} (hx : Accounts s cs x) :
    Accounts s cs (x >>= fun a ↦ Pure.pure (f a)) := by
  simpa only [List.append_nil] using hx.bind fun a _ ↦ pure s (f a)

end Accounts

/-- A condition accounts for itself. -/
theorem accounts_ofCondition {expr : List Char} (hne : expr ≠ []) :
    Accounts expr [expr] (Filter.ofCondition expr) := by
  cases h : Filter.ofCondition expr with
  | ok f => simp [Accounts, Filter.misusedOperand?_of_ofCondition h]
  | error e =>
    obtain ⟨raw, rfl, hmisused, hraw⟩ | ⟨hfault, hnames⟩ := Filter.ofCondition_eq_error hne h
    · simp [Accounts, hmisused, hraw]
    · exact .error hfault hnames

/-! ## Groups -/

/-- The items of a list, none if it cannot be cut into items. -/
def listItems (s : List Char) : List (List Char) := (Brackets.split ',' s).toOption.getD []

/-- The items of a list that can be cut. -/
theorem listItems_of_split {s : List Char} {items : List (List Char)}
    (h : Brackets.split ',' s = .ok items) : listItems s = items := by
  rw [listItems, h]
  rfl

/-- The conditions that an item of a group comes to; `inner` tells those of a group. -/
def itemConditions (inner : List Char → List (List Char)) (item : List Char) :
    List (List Char) :=
  if (dropLead? "or(".toList item).isSome then inner (item.drop 2)
  else if (dropLead? "and(".toList item).isSome then inner (item.drop 3)
  else [item]

/-- The conditions of a group that nests less deep than the fuel, in their order. -/
def conditionsWithin : ℕ → List Char → List (List Char)
  | 0, _ => []
  | fuel + 1, body => match enclosed? '(' ')' (trim body) with
    | none => []
    | some inner =>
      (listItems inner).flatMap fun raw ↦ itemConditions (conditionsWithin fuel) (trim raw)

/-- The conditions of a group and of the groups in it. -/
def groupConditions (body : List Char) : List (List Char) :=
  conditionsWithin (body.length + 1) body

example : groupConditions "(a.eq.1,or(b.is.x,\"c,d\"),e)".toList =
    ["a.eq.1".toList, "b.is.x".toList, "\"c,d\"".toList, "e".toList] := by decide

/-- The reader accounts for the groups that are shorter than a bound. -/
def GroupReader.AccountsBelow (inner : GroupReader) (conditions : List Char → List (List Char))
    (n : ℕ) : Prop :=
  ∀ conn number last body, body.length < n → trim body ≠ [] →
    Accounts (trim body) (conditions body) (inner conn number last body)

section Items

variable {inner : GroupReader} {conditions : List Char → List (List Char)} {n : ℕ}

/-- A group within an item begins with its parenthesis, so it is not blank. -/
theorem accounts_inner (hinner : inner.AccountsBelow conditions n) {item t : List Char} {k : ℕ}
    (hdrop : item.drop k = '(' :: t) (hlength : item.length < n) (conn : Connective)
    (number : Option Nat) (last : Nat) :
    Accounts item (conditions (item.drop k)) (inner conn number last (item.drop k)) := by
  have hblank : trim (item.drop k) ≠ [] := by
    rw [Ne, ← isBlankText_iff, hdrop, Bool.not_eq_true]
    exact isBlankText_eq_false List.mem_cons_self (by decide)
  have hshort : (item.drop k).length < n := by
    rw [List.length_drop]
    omega
  exact (hinner conn number last _ hshort hblank).mono
    ((isInfix_trim _).trans (List.drop_suffix k item).isInfix)

/-- An item accounts for its condition, or for those of the group that it is. -/
theorem accounts_readItem (hinner : inner.AccountsBelow conditions n) (conn : Connective)
    (number : Option Nat) {whole item : List Char} (hwhole : whole ≠ []) (hitem : item <:+: whole)
    (hlength : item.length < n) (last : Nat) :
    Accounts whole (itemConditions conditions item)
      (LogicTree.readItem inner conn number whole item last) := by
  rw [LogicTree.readItem]
  by_cases hne : item = []
  · rw [if_pos hne]
    exact .error (by simp) (.whole hwhole _)
  rw [if_neg hne, itemConditions]
  split
  next hor =>
    obtain ⟨t, ht⟩ := prefix_of_dropLead? hor
    have hdrop : item.drop 2 = '(' :: t := by rw [← ht]; rfl
    exact (accounts_inner hinner hdrop hlength .or number last).mono hitem
  split
  next hand =>
    obtain ⟨t, ht⟩ := prefix_of_dropLead? hand
    have hdrop : item.drop 3 = '(' :: t := by rw [← ht]; rfl
    split
    · exact .error (by simp) ((ParseError.Names.whole hne _).mono hitem)
    · exact (accounts_inner hinner hdrop hlength .and none last).mono hitem
  · exact ((accounts_ofCondition hne).mono hitem).bind_pure

/-- A list accounts for the conditions of its items, of which the first that fails is reported. -/
theorem accounts_readItems (hinner : inner.AccountsBelow conditions n) (conn : Connective)
    (number : Option Nat) {whole : List Char} (hwhole : whole ≠ []) {items : List (List Char)}
    (hitems : ∀ raw ∈ items, raw <:+: whole ∧ raw.length < n) (last : Nat) :
    Accounts whole (items.flatMap fun raw ↦ itemConditions conditions (trim raw))
      (readItems inner conn number whole items last) := by
  induction items generalizing last with
  | nil => exact .pure whole ([], last)
  | cons raw items ih =>
    obtain ⟨⟨hraw, hlength⟩, hrest⟩ := List.forall_mem_cons.mp hitems
    have hitem : trim raw <:+: whole := (isInfix_trim raw).trans hraw
    have htrim : (trim raw).length < n := (length_trim_le raw).trans_lt hlength
    rw [LogicTree.readItems_cons, List.flatMap_cons]
    exact (accounts_readItem hinner conn number hwhole hitem htrim last).bind
      fun first _ ↦ (ih hrest first.2).bind_pure

end Items

/-- One level of nesting costs one unit of fuel. -/
theorem accountsBelow_readGroupWithin (fuel : ℕ) :
    GroupReader.AccountsBelow (readGroupWithin fuel) (conditionsWithin fuel) fuel := by
  induction fuel with
  | zero => exact fun _ _ _ _ hlength ↦ absurd hlength (Nat.not_lt_zero _)
  | succ fuel ih =>
    intro conn enclosing last body hlength hbody
    rw [readGroupWithin, conditionsWithin]
    cases hinner : enclosed? '(' ')' (trim body) with
    | none => exact .error (by simp) (.whole hbody _)
    | some inner =>
      have hinfix : inner <:+: trim body := infix_of_enclosed? hinner
      simp only [listItems]
      cases hsplit : Brackets.split ',' inner with
      | error e =>
        have hfault : Brackets.IsFault e.fault := (Brackets.split_eq_error hsplit).2.2
        exact .error hfault.ne_isOperand ((ParseError.Names.of_split hsplit).mono hinfix)
      | ok items =>
        have hitems : ∀ raw ∈ items, raw <:+: trim body ∧ raw.length < fuel := by
          intro raw hraw
          have hpart : raw <:+: inner := Brackets.infix_of_split hsplit hraw
          have hle : raw.length ≤ inner.length := hpart.length_le
          have hlt : inner.length < (trim body).length := length_enclosed?_lt hinner
          have htrim : (trim body).length ≤ body.length := length_trim_le body
          exact ⟨hpart.trans hinfix, by omega⟩
        change Accounts _ _ (if _ then _ else _)
        split
        · exact .error (by simp) (.whole hbody _)
        · cases conn with
          | and => exact accounts_readItems ih .and none hbody hitems last
          | or =>
            cases enclosing with
            | some g => exact accounts_readItems ih .or (some g) hbody hitems last
            | none => exact accounts_readItems ih .or (some (last + 1)) hbody hitems (last + 1)

/-- A group that is not blank is read only if none of its conditions has a misused operand, and its
error reports the first of these or another stretch of the text. -/
theorem accounts_readGroup (conn : Connective) (last : ℕ) {body : List Char}
    (hbody : trim body ≠ []) :
    Accounts (trim body) (groupConditions body) (readGroup conn last body) :=
  accountsBelow_readGroupWithin _ conn none last body (Nat.lt_succ_self _) hbody

end RowGate
