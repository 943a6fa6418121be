import RowGate.Proofs.Query.GroupErrors

/-! # What the errors of a query text report

A query text that is no query fails at its first parameter that cannot be read. Main statement: the
error reports a stretch of that parameter, its name without the blanks around it. The stretch is
empty only where nothing at all stands at the place that is at fault, and it is a stretch of the
parameter with a trimmed value unless a text is reported that keeps the blanks around it.

Each reader has one lemma for its errors. What these say about a parameter is put together by the
lemmas of `Locates`: an error reports all of the value, an item or an operand as it stands, a
stretch of the trimmed value, or the name.
-/

namespace RowGate

open Text

variable {name value raw : List Char} {e : ParseError}

/-! ## Select items -/

/-- A call that cannot be read is reported as a stretch of its item. -/
theorem readAggregate_eq_error {expr : List Char} (h : readAggregate expr = .error e) :
    e.Names expr ∧ e.fault ≠ .emptySelectItem ∧ ¬Brackets.IsFault e.fault := by
  simp only [readAggregate] at h
  split at h
  · cases h
  next cut =>
    have hne : expr ≠ [] := by
      rw [eq_append_of_cutFirst cut]
      simp
    split at h
    · cases h
    split at h
    · cases h
      exact ⟨.whole hne _, by simp, by simp [Brackets.IsFault]⟩
    split at h
    · cases h
      exact ⟨.whole hne _, by simp, by simp [Brackets.IsFault]⟩
    split at h
    · split at h <;> cases h
      exact ⟨.whole hne _, by simp, by simp [Brackets.IsFault]⟩
    · cases h

/-- What stands behind a label is a stretch of the item. -/
theorem isInfix_splitAlias (item : List Char) : (splitAlias item).2 <:+: item := by
  rw [splitAlias]
  split
  next label expr cut =>
    split
    · exact List.infix_rfl
    · rw [eq_append_of_cutFirst cut]
      exact (isInfix_trim expr).trans ((List.suffix_cons ':' expr).trans
        (List.suffix_append label _)).isInfix
  · exact List.infix_rfl

/-- A select item fails because it is blank, or for what its trimmed text holds. -/
theorem Query.addSelectItem_eq_error {q : Query} (h : q.addSelectItem raw = .error e) :
    (isBlankText raw = true ∧ e = ⟨String.ofList raw, .emptySelectItem⟩) ∨
      (e.Names (trim raw) ∧ e.fault ≠ .emptySelectItem ∧ ¬Brackets.IsFault e.fault) := by
  simp only [addSelectItem] at h
  split at h
  next hblank =>
    cases h
    exact .inl ⟨isBlankText_iff.mpr hblank, rfl⟩
  next hne =>
    refine .inr ?_
    split at h
    · cases h
      exact ⟨.whole hne _, by simp, by simp [Brackets.IsFault]⟩
    split at h
    next haggregate =>
      cases h
      obtain ⟨hnames, hfault⟩ := readAggregate_eq_error haggregate
      exact ⟨hnames.mono (isInfix_splitAlias _), hfault⟩
    · cases h
    · cases h

/-- A blank item is not read. -/
theorem Query.isBlankText_of_addSelectItem {q r : Query} (h : q.addSelectItem raw = .ok r) :
    isBlankText raw = false := by
  rw [Bool.eq_false_iff, Ne, isBlankText_iff]
  intro hblank
  rw [addSelectItem, if_pos hblank] at h
  cases h

/-! ## Order terms -/

/-- Whether an item of an order names no column. -/
def isNameless (raw : List Char) : Bool := isBlankText ((pieces '.' (trim raw)).headD [])

/-- A word that modifies nothing is no lack of a column. -/
theorem OrderTerm.modify_eq_error {t : OrderTerm} {word : List Char} {f : ParseFault}
    (h : t.modify word = .error f) : f ≠ .emptyOrder ∧ ¬Brackets.IsFault f := by
  rw [modify] at h
  split at h <;> cases h
  exact ⟨by simp, by simp [Brackets.IsFault]⟩

/-- A term is reported as a whole, and as empty only if it names no column. -/
theorem OrderTerm.ofText_eq_error (h : OrderTerm.ofText raw = .error e) :
    e.fragment = String.ofList (trim raw) ∧ ¬Brackets.IsFault e.fault ∧
      (e.fault = .emptyOrder ↔ isNameless raw = true) := by
  simp only [OrderTerm.ofText] at h
  split at h
  next hpieces => exact absurd hpieces (pieces_ne_nil _ _)
  next column words hpieces =>
    have hname : isNameless raw = true ↔ trim column = [] := by
      rw [isNameless, hpieces, List.headD_cons, isBlankText_iff]
    split at h
    next hcolumn =>
      cases h
      exact ⟨rfl, by simp [Brackets.IsFault], iff_of_true rfl (hname.mpr hcolumn)⟩
    next hcolumn =>
      split at h
      · cases h
      next f hwords =>
        cases h
        obtain ⟨_, _, _, _, -, -, hmodify⟩ := exists_of_foldlM_eq_error hwords
        obtain ⟨hempty, hsplit⟩ := modify_eq_error hmodify
        exact ⟨rfl, hsplit, iff_of_false hempty fun h ↦ hcolumn (hname.mp h)⟩

/-- A term that is read names a column. -/
theorem OrderTerm.isNameless_of_ofText {t : OrderTerm} (h : OrderTerm.ofText raw = .ok t) :
    isNameless raw = false := by
  simp only [OrderTerm.ofText] at h
  split at h
  · cases h
  next column words hpieces =>
    rw [isNameless, hpieces, List.headD_cons, Bool.eq_false_iff, Ne, isBlankText_iff]
    intro hcolumn
    rw [if_pos hcolumn] at h
    cases h

/-! ## Filters -/

/-- The text of a parameter, the blanks around its name left out. -/
def paramText (name value : List Char) : List Char := trim name ++ '=' :: value

/-- The operator of a filter parameter and what follows it. -/
def Filter.operation? (name value : List Char) : Option (Operator × List Char) :=
  match (cutLast '.' (trim name)).bind fun p ↦ Operator.ofKeyword? p.2 with
  | some op => some (op, value)
  | none => operatorBefore? value

/-- The faults of a parameter that is no filter in either of its forms. -/
def ParseFault.OfForm (f : ParseFault) : Prop :=
  f = .emptyFilter ∨ f = .missingOperator ∨ ∃ keyword, f = .unknownOperator keyword

/-- A filter is refused for its form, for its column, or for the operand of its operator. -/
theorem Filter.ofParam_eq_error (h : ofParam name value = .error e) :
    (e.fragment = String.ofList (paramText name value) ∧ e.fault.OfForm) ∨
      (e = ⟨String.ofList (trim name), .missingColumn⟩ ∧ trim name ≠ []) ∨
      ∃ op raw, operation? name value = some (op, raw) ∧ raw <:+ value ∧
        FilterValue.ofText op raw = .error e := by
  simp only [ofParam] at h
  split at h
  · cases h
    exact .inl ⟨rfl, .inl rfl⟩
  next hne =>
    split at h
    -- The name has an operator behind its last dot.
    next column op hname =>
      obtain ⟨⟨column', word⟩, hcut, hword⟩ := Option.bind_eq_some_iff.mp hname
      obtain ⟨op', hop, hpair⟩ := Option.bind_eq_some_iff.mp hword
      cases hpair
      obtain ⟨-, rfl⟩ | h := ofParts_eq_error h
      · exact .inr (.inl ⟨rfl, hne⟩)
      · refine .inr (.inr ⟨op, value, ?_, List.suffix_rfl, h⟩)
        rw [operation?, hcut, Option.bind_some, hop]
    -- It has none, so the operator stands before the first dot of the value.
    next hname =>
      have hform : operation? name value = operatorBefore? value := by
        rw [operation?]
        cases hcut : cutLast '.' (trim name) with
        | none => rfl
        | some p =>
          cases hop : Operator.ofKeyword? p.2 with
          | none => rw [Option.bind_some, hop]
          | some op =>
            rw [hcut] at hname
            simp [hop] at hname
      split at h
      · cases h
        exact .inl ⟨rfl, .inr (.inl rfl)⟩
      next word rest hcut =>
        split at h
        next op hop =>
          have hbefore : operatorBefore? value = some (op, rest) := by
            simp [operatorBefore?, hcut, hop]
          obtain ⟨hcolumn, -⟩ | h := ofParts_eq_error h
          · rw [trim_trim] at hcolumn
            exact absurd hcolumn hne
          · exact .inr (.inr ⟨op, rest, hform.trans hbefore, suffix_of_operatorBefore? hbefore, h⟩)
        · cases h
          exact .inl ⟨rfl, .inr (.inr ⟨_, rfl⟩)⟩

/-! ## Reports -/

/-- The item or the operand at fault that is reported with the blanks around it. -/
def culprit? (name value : List Char) (fault : ParseFault) : Option (List Char) :=
  match ReservedName.ofText? name, fault with
  | some .select, .emptySelectItem => (listItems value).find? isBlankText
  | some .and, .isOperand | some .or, .isOperand =>
    (groupConditions value).findSome? Filter.misusedOperand?
  | none, .isOperand => (Filter.operation? name value).bind fun p ↦ FilterValue.misused? p.1 p.2
  | _, _ => none

/-- Whether a fault is reported with all of the value and the blanks around it. -/
def ReportsValue (name : List Char) (fault : ParseFault) : Prop :=
  match ReservedName.ofText? name with
  | some .select | some .order => Brackets.IsFault fault
  | some .limit | some .offset | some .count => True
  | some .groupBy | some .and | some .or => False
  | none => fault.OfForm

/-- Whether nothing at all stands where the fault is, so that there is no text to report. -/
def Omits (name value : List Char) (fault : ParseFault) : Prop :=
  match ReservedName.ofText? name with
  | some .limit | some .offset => value = []
  | some .order => fault = .emptyOrder ∧
    ∃ raw, (listItems value).find? isNameless = some raw ∧ isBlankText raw = true
  | some .and | some .or => isBlankText value = true ∨ culprit? name value fault = some []
  | _ => culprit? name value fault = some []

/-- Whether what is reported keeps blanks that trimming takes from the value. -/
def Overhangs (name value : List Char) (fault : ParseFault) : Prop :=
  (ReportsValue name fault ∧ trim value ≠ value) ∨
    ∃ raw, culprit? name value fault = some raw ∧ ¬raw <:+: paramText name (trim value)

/-- What an error tells of the parameter that it is about. -/
structure Locates (name value : List Char) (e : ParseError) : Prop where
  part : e.fragment.toList <:+: paramText name value
  empty_iff : e.fragment.toList = [] ↔ Omits name value e.fault
  trimmed_iff : e.fragment.toList <:+: paramText name (trim value) ↔
    ¬Overhangs name value e.fault

/-- The value ends the text of its parameter. -/
theorem suffix_paramText (name value : List Char) : value <:+ paramText name value :=
  (List.suffix_cons '=' value).trans (List.suffix_append (trim name) _)

namespace Locates

/-- All of the value is reported, behind a text with as many blanks as the name. Blanks around the
value are too many for a stretch of the parameter with the trimmed value. -/
theorem of_value (lead : List Char) (hreports : ReportsValue name e.fault)
    (hculprit : culprit? name value e.fault = none) (hfragment : e.fragment.toList = lead ++ value)
    (hlead : lead.countP isBlank = (trim name).countP isBlank)
    (hpart : lead ++ value <:+: paramText name value)
    (hempty : e.fragment.toList = [] ↔ Omits name value e.fault) : Locates name value e where
  part := hfragment ▸ hpart
  empty_iff := hempty
  trimmed_iff := by
    have hoverhangs : Overhangs name value e.fault ↔ trim value ≠ value := by
      simp [Overhangs, hreports, hculprit]
    have htext : (paramText name (trim value)).countP isBlank =
        (trim name).countP isBlank + (trim value).countP isBlank := by
      rw [paramText, List.countP_append, List.countP_cons_of_neg (by decide)]
    rw [hoverhangs, not_not, hfragment]
    constructor
    · intro h
      have hblanks := h.sublist.countP_le (p := isBlank)
      rw [List.countP_append, htext] at hblanks
      exact trim_eq_self_of_countP_le (by omega)
    · intro h
      rwa [h]

/-- An item or an operand is reported as it stands. -/
theorem of_culprit (hreports : ¬ReportsValue name e.fault)
    (hculprit : culprit? name value e.fault = some e.fragment.toList)
    (hpart : e.fragment.toList <:+: value)
    (hempty : e.fragment.toList = [] ↔ Omits name value e.fault) : Locates name value e where
  part := hpart.trans (suffix_paramText name value).isInfix
  empty_iff := hempty
  trimmed_iff := by simp [Overhangs, hreports, hculprit]

/-- A stretch of the trimmed value is reported. -/
theorem of_part (hreports : ¬ReportsValue name e.fault)
    (hculprit : culprit? name value e.fault = none) (hpart : e.fragment.toList <:+: trim value)
    (hempty : e.fragment.toList = [] ↔ Omits name value e.fault) : Locates name value e where
  part := (hpart.trans (isInfix_trim value)).trans (suffix_paramText name value).isInfix
  empty_iff := hempty
  trimmed_iff := by
    refine iff_of_true ?_ (by simp [Overhangs, hreports, hculprit])
    exact hpart.trans (suffix_paramText name (trim value)).isInfix

/-- The name is reported. -/
theorem of_name (hreports : ¬ReportsValue name e.fault)
    (hculprit : culprit? name value e.fault = none) (hfragment : e.fragment.toList = trim name)
    (hempty : e.fragment.toList = [] ↔ Omits name value e.fault) : Locates name value e where
  part := hfragment ▸ (List.prefix_append (trim name) _).isInfix
  empty_iff := hempty
  trimmed_iff := by
    refine iff_of_true ?_ (by simp [Overhangs, hreports, hculprit])
    exact hfragment ▸ (List.prefix_append (trim name) _).isInfix

end Locates

/-! ## Reserved names -/

namespace ReservedName

variable {r : ReservedName}

/-- Only its own text is read as a reserved name. -/
theorem eq_text_of_ofText? (h : ofText? name = some r) : name = r.text.toList := by
  rw [ofText?] at h
  have htext := List.find?_some h
  exact (of_decide_eq_true htext).symm

/-- Reserved names hold no blanks. -/
theorem countP_isBlank (h : ofText? name = some r) : (trim name).countP isBlank = 0 := by
  rw [eq_text_of_ofText? h]
  cases r <;> decide

end ReservedName

/-- A reserved name has no blanks, so those of a value that is reported are its own. -/
theorem Locates.of_reserved {r : ReservedName} (hname : ReservedName.ofText? name = some r)
    (hfragment : e.fragment = String.ofList value) (hreports : ReportsValue name e.fault)
    (hculprit : culprit? name value e.fault = none)
    (hempty : value = [] ↔ Omits name value e.fault) : Locates name value e := by
  have hblanks : (trim name).countP isBlank = 0 := ReservedName.countP_isBlank hname
  have hlist : e.fragment.toList = value := by rw [hfragment, String.toList_ofList]
  exact .of_value [] hreports hculprit hlist hblanks.symm
    (suffix_paramText name value).isInfix (hlist ▸ hempty)

section Reserved

variable {d : Draft}

/-- An item is reported, or all of a list that cannot be cut into items. -/
theorem locates_select (hname : ReservedName.ofText? name = some .select)
    (h : d.readReserved value .select = .error e) : Locates name value e := by
  have hreports : ReportsValue name e.fault ↔ Brackets.IsFault e.fault := by
    simp only [ReportsValue, hname]
  have homits : Omits name value e.fault ↔ culprit? name value e.fault = some [] := by
    simp only [Omits, hname]
  have hculprit (hfault : e.fault ≠ .emptySelectItem) : culprit? name value e.fault = none := by
    simp only [culprit?, hname]
    split <;> simp_all
  simp only [Draft.readReserved] at h
  split at h
  · cases h
  obtain h | ⟨items, hitems, h⟩ := bind_eq_error_iff.mp h
  · obtain ⟨hfragment, hne, hfault⟩ := Brackets.split_eq_error h
    have hnone := hculprit (hfault.ne (by simp [Brackets.IsFault]))
    refine .of_reserved hname hfragment (hreports.mpr hfault) hnone ?_
    rw [homits, hnone]
    exact iff_of_false hne (by simp)
  · obtain ⟨before, raw, after, q, rfl, hbefore, hraw⟩ :=
      exists_of_foldlM_eq_error (bind_pure_eq_error_iff.mp h)
    have hpart : raw <:+: value := Brackets.infix_of_split hitems (by simp)
    obtain ⟨hblank, rfl⟩ | ⟨hnames, hfault, hsplit⟩ := Query.addSelectItem_eq_error hraw
    · have hfirst : culprit? name value .emptySelectItem = some raw := by
        simp only [culprit?, hname, listItems_of_split hitems]
        refine List.find?_eq_some_iff_append.mpr ⟨hblank, before, after, rfl, fun item hitem ↦ ?_⟩
        obtain ⟨_, _, hok⟩ := exists_ok_of_mem_foldlM hbefore hitem
        rw [Query.isBlankText_of_addSelectItem hok]
        rfl
      refine .of_culprit (mt hreports.mp (by simp [Brackets.IsFault])) ?_ ?_ ?_
      · rw [hfirst, String.toList_ofList]
      · rwa [String.toList_ofList]
      · rw [homits, hfirst, String.toList_ofList, Option.some_inj]
    · have hnone := hculprit hfault
      refine .of_part (mt hreports.mp hsplit) hnone (hnames.2.trans (trim_infix_trim hpart)) ?_
      rw [homits, hnone]
      exact iff_of_false hnames.1 (by simp)

/-- A term is reported, or all of a list that cannot be cut into terms. -/
theorem locates_order (hname : ReservedName.ofText? name = some .order)
    (h : d.readReserved value .order = .error e) : Locates name value e := by
  have hreports : ReportsValue name e.fault ↔ Brackets.IsFault e.fault := by
    simp only [ReportsValue, hname]
  have hculprit : culprit? name value e.fault = none := by
    simp only [culprit?, hname]
  simp only [Draft.readReserved] at h
  obtain h | ⟨items, hitems, h⟩ := bind_eq_error_iff.mp h
  · obtain ⟨hfragment, hne, hfault⟩ := Brackets.split_eq_error h
    refine .of_reserved hname hfragment (hreports.mpr hfault) hculprit (iff_of_false hne ?_)
    have hempty : e.fault ≠ .emptyOrder := hfault.ne (by simp [Brackets.IsFault])
    simp only [Omits, hname]
    exact fun homits ↦ hempty homits.1
  · obtain ⟨before, raw, after, rfl, hbefore, hraw⟩ :=
      exists_of_mapM_eq_error (bind_pure_eq_error_iff.mp h)
    obtain ⟨hfragment, hsplit, hnameless⟩ := OrderTerm.ofText_eq_error hraw
    have hlist : e.fragment.toList = trim raw := by rw [hfragment, String.toList_ofList]
    have hpart : trim raw <:+: trim value :=
      trim_infix_trim (Brackets.infix_of_split hitems (by simp))
    have hfirst (hraw : isNameless raw = true) :
        (before ++ raw :: after).find? isNameless = some raw := by
      refine List.find?_eq_some_iff_append.mpr ⟨hraw, before, after, rfl, fun item hitem ↦ ?_⟩
      obtain ⟨_, hok⟩ := hbefore item hitem
      rw [OrderTerm.isNameless_of_ofText hok]
      rfl
    refine .of_part (mt hreports.mp hsplit) hculprit (hlist ▸ hpart) ?_
    simp only [Omits, hname, listItems_of_split hitems]
    rw [hlist, ← isBlankText_iff]
    constructor
    · intro hblank
      have hraw : isNameless raw = true := by
        rw [isNameless, isBlankText_iff.mp hblank]
        rfl
      exact ⟨hnameless.mpr hraw, raw, hfirst hraw, hblank⟩
    · rintro ⟨hfault, raw', hfind, hblank⟩
      rw [hfirst (hnameless.mp hfault)] at hfind
      cases hfind
      exact hblank

/-- A number or a mode of counting is reported with all of its value. No mode at all is one. -/
theorem locates_word {r : ReservedName} (hr : r = .limit ∨ r = .offset ∨ r = .count)
    (hname : ReservedName.ofText? name = some r) (h : d.readReserved value r = .error e) :
    Locates name value e := by
  rcases hr with rfl | rfl | rfl
  · simp only [Draft.readReserved] at h
    split at h <;> cases h
    refine .of_reserved hname rfl ?_ ?_ ?_ <;> simp [ReportsValue, culprit?, Omits, hname]
  · simp only [Draft.readReserved] at h
    split at h <;> cases h
    refine .of_reserved hname rfl ?_ ?_ ?_ <;> simp [ReportsValue, culprit?, Omits, hname]
  · simp only [Draft.readReserved] at h
    split at h <;> cases h
    next hmode =>
      have hne : value ≠ [] := by
        rintro rfl
        cases hmode
      refine .of_reserved hname rfl ?_ ?_ ?_ <;> simp [ReportsValue, culprit?, Omits, hname, hne]

/-- A group is reported by its conditions, or as a stretch that is not empty. -/
theorem locates_group {r : ReservedName} {conn : Connective} {last : ℕ}
    (hr : r = .and ∨ r = .or) (hname : ReservedName.ofText? name = some r)
    (h : readGroup conn last value = .error e) : Locates name value e := by
  have hreports : ¬ReportsValue name e.fault := by
    rcases hr with rfl | rfl <;> simp [ReportsValue, hname]
  have homits : Omits name value e.fault ↔
      isBlankText value = true ∨ culprit? name value e.fault = some [] := by
    rcases hr with rfl | rfl <;> simp only [Omits, hname]
  have hculprit : culprit? name value e.fault = if e.fault = .isOperand then
      (groupConditions value).findSome? Filter.misusedOperand? else none := by
    rcases hr with rfl | rfl <;> simp only [culprit?, hname] <;> split <;> simp_all
  by_cases hblank : trim value = []
  · have he : e = ⟨"", .groupParentheses conn.keyword⟩ := by
      rw [readGroup, readGroupWithin, hblank] at h
      cases h
      rfl
    subst he
    refine .of_part hreports ?_ List.nil_infix ?_
    · simp [hculprit]
    · rw [homits, isBlankText_iff]
      exact iff_of_true rfl (.inl hblank)
  · have haccounts := accounts_readGroup conn last hblank
    rw [h] at haccounts
    obtain ⟨hpart, hfault⟩ := haccounts
    split at hfault
    next hoperand =>
      have hfirst : culprit? name value e.fault = some e.fragment.toList := by
        rw [hculprit, if_pos hoperand, hfault]
      refine .of_culprit hreports hfirst (hpart.trans (isInfix_trim value)) ?_
      rw [homits, hfirst, isBlankText_iff, Option.some_inj]
      exact (or_iff_right hblank).symm
    next hoperand =>
      have hnone : culprit? name value e.fault = none := by rw [hculprit, if_neg hoperand]
      refine .of_part hreports hnone hpart ?_
      rw [homits, hnone, isBlankText_iff]
      exact iff_of_false hfault (by simp [hblank])

/-- Every error of a reserved parameter is located in it. -/
theorem locates_readReserved {r : ReservedName} (hname : ReservedName.ofText? name = some r)
    (h : d.readReserved value r = .error e) : Locates name value e := by
  cases r with
  | select => exact locates_select hname h
  | order => exact locates_order hname h
  | limit => exact locates_word (.inl rfl) hname h
  | offset => exact locates_word (.inr (.inl rfl)) hname h
  | groupBy => cases h
  | count => exact locates_word (.inr (.inr rfl)) hname h
  | and =>
    obtain h | ⟨_, _, h⟩ := bind_eq_error_iff.mp h
    · exact locates_group (.inl rfl) hname h
    · cases h
  | or =>
    obtain h | ⟨_, _, h⟩ := bind_eq_error_iff.mp h
    · exact locates_group (.inr rfl) hname h
    · cases h

end Reserved

/-! ## Filter parameters -/

theorem ParseFault.OfForm.ne_isOperand {f : ParseFault} (h : f.OfForm) : f ≠ .isOperand := by
  rcases h with rfl | rfl | ⟨_, rfl⟩ <;> simp

theorem ParseFault.not_ofForm_of_isFault {f : ParseFault} (h : Brackets.IsFault f) :
    ¬f.OfForm := by
  rcases h with rfl | rfl <;> simp [OfForm]

section Filters

variable (hname : ReservedName.ofText? name = none)

include hname

/-- A filter that has neither form is reported with all of its value. -/
theorem reportsValue_iff_ofForm {fault : ParseFault} : ReportsValue name fault ↔ fault.OfForm := by
  simp only [ReportsValue, hname]

/-- Of a filter there is nothing to report only where its operand is empty. -/
theorem omits_iff_culprit? {fault : ParseFault} :
    Omits name value fault ↔ culprit? name value fault = some [] := by
  simp only [Omits, hname]

/-- The operand at fault is the one behind the operator that takes a word. -/
theorem culprit?_eq_ite {fault : ParseFault} : culprit? name value fault =
    if fault = .isOperand then
      (Filter.operation? name value).bind fun p ↦ FilterValue.misused? p.1 p.2
    else none := by
  simp only [culprit?, hname]
  split <;> simp_all

/-- A parameter that is no filter is reported as a whole. -/
theorem locates_form (hfragment : e.fragment = String.ofList (paramText name value))
    (hfault : e.fault.OfForm) : Locates name value e := by
  have hlist : e.fragment.toList = trim name ++ ['='] ++ value := by
    rw [hfragment, String.toList_ofList, paramText, List.append_assoc, List.singleton_append]
  have hnone : culprit? name value e.fault = none := by
    rw [culprit?_eq_ite hname, if_neg hfault.ne_isOperand]
  refine .of_value (trim name ++ ['=']) ((reportsValue_iff_ofForm hname).mpr hfault) hnone hlist
    ?_ ?_ ?_
  · rw [List.countP_append]
    rfl
  · rw [paramText, List.append_assoc]
    exact List.infix_rfl
  · rw [omits_iff_culprit? hname, hnone, hlist]
    exact iff_of_false (by simp) (by simp)

/-- A filter without a column is reported by its name. -/
theorem locates_missingColumn (hne : trim name ≠ []) :
    Locates name value ⟨String.ofList (trim name), .missingColumn⟩ := by
  have hnone : culprit? name value .missingColumn = none := by
    simp [culprit?_eq_ite hname]
  refine .of_name (mt (reportsValue_iff_ofForm hname).mp ?_) hnone String.toList_ofList ?_
  · simp [ParseFault.OfForm]
  · rw [omits_iff_culprit? hname, hnone, String.toList_ofList]
    exact iff_of_false hne (by simp)

/-- A refused operand is reported as it stands, or a stretch of it is. -/
theorem locates_operand {op : Operator} (hoperation : Filter.operation? name value = some (op, raw))
    (hraw : raw <:+: value) (h : FilterValue.ofText op raw = .error e) : Locates name value e := by
  obtain ⟨rfl, hmisused⟩ | ⟨hfault, hnames⟩ := FilterValue.ofText_eq_error h
  · have hfirst : culprit? name value .isOperand = some raw := by
      rw [culprit?_eq_ite hname, if_pos rfl, hoperation, Option.bind_some, hmisused]
    refine .of_culprit (mt (reportsValue_iff_ofForm hname).mp ?_) ?_ ?_ ?_
    · simp [ParseFault.OfForm]
    · rw [hfirst, String.toList_ofList]
    · rwa [String.toList_ofList]
    · rw [omits_iff_culprit? hname, hfirst, String.toList_ofList, Option.some_inj]
  · have hnone : culprit? name value e.fault = none := by
      rw [culprit?_eq_ite hname, if_neg hfault.ne_isOperand]
    have hreports : ¬ReportsValue name e.fault :=
      mt (reportsValue_iff_ofForm hname).mp (ParseFault.not_ofForm_of_isFault hfault)
    refine .of_part hreports hnone (hnames.2.trans (trim_infix_trim hraw)) ?_
    rw [omits_iff_culprit? hname, hnone]
    exact iff_of_false hnames.1 (by simp)

/-- Every error of a filter parameter is located in it. -/
theorem locates_ofParam (h : Filter.ofParam name value = .error e) : Locates name value e := by
  obtain ⟨hfragment, hfault⟩ | ⟨rfl, hne⟩ | ⟨op, raw, hoperation, hraw, h⟩ :=
    Filter.ofParam_eq_error h
  · exact locates_form hname hfragment hfault
  · exact locates_missingColumn hname hne
  · exact locates_operand hname hoperation hraw.isInfix h

end Filters

/-- The parameter that cannot be read is reported. -/
theorem locates_read {d : Draft} (h : d.read (name, value) = .error e) : Locates name value e := by
  rw [Draft.read] at h
  cases hname : ReservedName.ofText? name with
  | some r =>
    simp only [hname] at h
    exact locates_readReserved hname h
  | none =>
    simp only [hname] at h
    exact locates_ofParam hname (bind_pure_eq_error_iff.mp h)

namespace Query

/-- A text that is no query has a first parameter that cannot be read, and the error is about this
one. It reports a stretch of it, its name without the blanks around it: an empty stretch exactly
where nothing stands at the place that is at fault, and a stretch of the parameter with its value
trimmed exactly unless what is reported keeps blanks that trimming takes away. -/
theorem fragment_of_parse {text : String} (h : parse text = .error e) :
    ∃ before name value after d, formPairs text.toList = before ++ (name, value) :: after ∧
      before.foldlM Draft.read {} = .ok d ∧ d.read (name, value) = .error e ∧
      e.fragment.toList <:+: paramText name value ∧
      (e.fragment = "" ↔ Omits name value e.fault) ∧
      (e.fragment.toList <:+: paramText name (trim value) ↔ ¬Overhangs name value e.fault) := by
  obtain ⟨before, ⟨name, value⟩, after, d, hparams, hbefore, hread⟩ :=
    exists_of_foldlM_eq_error (bind_pure_eq_error_iff.mp h)
  have hlocates : Locates name value e := locates_read hread
  refine ⟨before, name, value, after, d, hparams, hbefore, hread, hlocates.part, ?_,
    hlocates.trimmed_iff⟩
  rw [← String.toList_eq_nil_iff]
  exact hlocates.empty_iff

/-- The second condition of a group in a second parameter is no condition. -/
theorem fragment_of_parse_condition :
    parse "limit=5&or=(a.eq.1,b)" = .error ⟨"b", .condition⟩ ∧
    ∃ before name value after d,
      formPairs "limit=5&or=(a.eq.1,b)".toList = before ++ (name, value) :: after ∧
      before.foldlM Draft.read {} = .ok d ∧
      d.read (name, value) = .error ⟨"b", .condition⟩ ∧
      "b".toList <:+: paramText name value ∧
      ("b" = "" ↔ Omits name value .condition) ∧
      ("b".toList <:+: paramText name (trim value) ↔ ¬Overhangs name value .condition) := by
  have hparse : parse "limit=5&or=(a.eq.1,b)" = .error ⟨"b", .condition⟩ := by decide +kernel
  exact ⟨hparse, fragment_of_parse hparse⟩

/-- A limit without a value is reported with nothing, and one between blanks with the blanks. -/
theorem fragment_not_in_parameter :
    (∃ e, parse "limit=" = .error e ∧ e.fragment = "") ∧
    ∃ e, parse "limit=+x" = .error e ∧ ∀ p ∈ formPairs "limit=+x".toList,
      ¬e.fragment.toList <:+: paramText p.1 (trim p.2) :=
  ⟨⟨⟨"", .limit⟩, by decide +kernel, rfl⟩, ⟨" x", .limit⟩, by decide +kernel, by decide +kernel⟩

end Query

end RowGate
