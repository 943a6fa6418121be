import RowGate.Proofs.Sql.Grammar

/-! # Names of types

What PostgreSQL's grammar takes as the type of a cast, and a text without its casts. The grammar
takes as much as it can: behind `timestamp` it goes on with `(3)`, with `without time zone` and with
`[]`, and whatever it does not go on with belongs to the expression around the cast. Main statement:
a cast takes nothing of an expression that goes on with a connective or ends, so a condition without
its casts is the same, whatever they are to, as long as the text behind `::` is the name of a type.
-/

namespace RowGate.Sql

/-! ## The grammar -/

/-- The words between the terms of a condition. They are reserved: none of them names a type. -/
def connectives : List String := ["and", "or"]

/-- The parts of a time that an interval may be restricted to. -/
def intervalFields : List (List String) :=
  [["year"], ["month"], ["day"], ["hour"], ["minute"], ["second"], ["year", "to", "month"],
    ["day", "to", "hour"], ["day", "to", "minute"], ["day", "to", "second"],
    ["hour", "to", "minute"], ["hour", "to", "second"], ["minute", "to", "second"]]

/-- The type names of several words: the words in front of a modifier, and those behind it. -/
def phrases : List (List String × List String) :=
  [(["double", "precision"], []), (["character", "varying"], []), (["bit", "varying"], []),
    (["national", "character", "varying"], []), (["time"], ["with", "time", "zone"]),
    (["time"], ["without", "time", "zone"]), (["timestamp"], ["with", "time", "zone"]),
    (["timestamp"], ["without", "time", "zone"])] ++
  intervalFields.map fun fields ↦ ("interval" :: fields, [])

/-- The tokens behind some words. -/
def dropWords? : List String → List Token → Option (List Token)
  | [], ts => some ts
  | _ :: _, [] => none
  | w :: ws, tok :: ts => if tok.spelling? = some w then dropWords? ws ts else none

/-- The tokens behind a word, or behind several words with points between them. -/
def dropName? : List Token → Option (List Token)
  | .lexeme .word s :: .mark '.' :: ts =>
    if (Token.lexeme .word s).isOneOf connectives then none else dropName? ts
  | .lexeme .word s :: ts => if (Token.lexeme .word s).isOneOf connectives then none else some ts
  | _ => none

/-- The tokens behind integers that a parenthesis closes. -/
def dropIntegers? : List Token → Option (List Token)
  | .lexeme .number n :: .mark ',' :: ts => if isDecimal n then dropIntegers? ts else none
  | .lexeme .number n :: .mark ')' :: ts => if isDecimal n then some ts else none
  | _ => none

/-- The tokens behind a modifier, if there is one. -/
def dropModifier? : List Token → Option (List Token)
  | .mark '(' :: ts => dropIntegers? ts
  | ts => some ts

/-- The bounds of an array, written or left open. -/
def areBounds : List Token → Bool
  | [] => true
  | .mark '[' :: .mark ']' :: ts => areBounds ts
  | .mark '[' :: .lexeme .number n :: .mark ']' :: ts => isDecimal n && areBounds ts
  | _ => false

/-- What stands in front of the bounds of an array: a name with its modifier, or a phrase. -/
def elementRests (ts : List Token) : List (List Token) :=
  ((dropName? ts).bind dropModifier?).toList ++ phrases.filterMap fun p ↦
    ((dropWords? p.1 ts).bind dropModifier?).bind (dropWords? p.2)

/-- Whether tokens are the name of a type. -/
def namesType (ts : List Token) : Bool := (elementRests ts).any areBounds

example : (["double precision", "timestamp(3) with time zone", "public.mood[]",
    "INTERVAL day to second(3)", "numeric(10, 2)[4][]"].all fun t ↦
      namesType (textTokens t.toList)) = true := by decide +kernel

/-- The length of the longest type name that a text begins with. -/
def typeLength? (ts : List Token) : Option Nat :=
  ((List.range (ts.length + 1)).filter fun n ↦ namesType (ts.take n)).max?

/-- The mark of a cast. -/
def castMark : Token := .lexeme .colons [':', ':']

/-- The tokens without their casts, where `skip` of them still belong to a type; none if no type
stands behind the mark of a cast. -/
def uncastFrom : Nat → List Token → Option (List Token)
  | _, [] => some []
  | skip + 1, _ :: ts => uncastFrom skip ts
  | 0, tok :: ts =>
    if tok = castMark then (typeLength? ts).bind fun n ↦ uncastFrom n ts
    else (uncastFrom 0 ts).map (tok :: ·)

/-- The tokens without their casts. -/
def uncast (ts : List Token) : Option (List Token) := uncastFrom 0 ts

/-! ## What a type name is made of -/

variable {ts rest us : List Token}

/-- What a reader has taken of a text is words and marks with matching parentheses, without a
connective. -/
def Took (ts rest : List Token) : Prop := ∃ taken, ts = taken ++ rest ∧ Within connectives taken

theorem Took.refl (ts : List Token) : Took ts ts := ⟨[], rfl, .nil⟩

/-- Readers may take from a text one after the other. -/
theorem Took.trans (h : Took ts rest) (h' : Took rest us) : Took ts us := by
  obtain ⟨a, rfl, ha⟩ := h
  obtain ⟨b, rfl, hb⟩ := h'
  exact ⟨a ++ b, (List.append_assoc ..).symm, ha.append hb⟩

theorem Took.cons {tok : Token} (htok : Token.isInner connectives tok = true)
    (h : Took ts rest) : Took (tok :: ts) rest := by
  obtain ⟨taken, rfl, htaken⟩ := h
  have htok : Within connectives [tok] := .of_all (by rw [List.all_cons, htok]; rfl)
  exact ⟨tok :: taken, rfl, htok.append htaken⟩

/-- A word that is no connective may be taken. -/
theorem isInner_word {s : List Char} (h : ¬(Token.lexeme .word s).isOneOf connectives = true) :
    Token.isInner connectives (.lexeme .word s) = true := by
  rw [Bool.not_eq_true] at h
  simp [Token.isInner, h]

/-- A name is words with points between them, and none is a connective. -/
theorem took_dropName (h : dropName? ts = some rest) : Took ts rest := by
  induction ts using dropName?.induct with
  | case1 s ts hs => simp [dropName?, hs] at h
  | case2 s ts hs ih =>
    rw [dropName?, if_neg hs] at h
    exact .cons (isInner_word hs) (.cons rfl (ih h))
  | case3 s ts hpoint hs => simp [dropName?, hs] at h
  | case4 s ts hpoint hs =>
    rw [dropName?, if_neg hs] at h
    · cases h
      exact .cons (isInner_word hs) (.refl _)
    · exact hpoint
  | case5 ts hpoint hword => simp [dropName?] at h

/-- Given words are taken if none of them is a connective. -/
theorem took_dropWords {ws : List String} (hws : ∀ w ∈ ws, w ∉ connectives)
    (h : dropWords? ws ts = some rest) : Took ts rest := by
  induction ws generalizing ts with
  | nil =>
    cases h
    exact .refl _
  | cons w ws ih =>
    obtain ⟨hw, hws⟩ := List.forall_mem_cons.mp hws
    cases ts with
    | nil => cases h
    | cons tok ts =>
      obtain ⟨htok, h⟩ := Option.ite_none_right_eq_some.mp h
      refine .cons ?_ (ih hws h)
      have hopen : tok ≠ .mark '(' := by rintro rfl; cases htok
      have hclose : tok ≠ .mark ')' := by rintro rfl; cases htok
      simp [Token.isInner, hopen, hclose, Token.isOneOf, htok, hw]

/-- The integers of a modifier, and the parenthesis that closes it. -/
theorem took_dropIntegers (h : dropIntegers? ts = some rest) :
    ∃ taken, ts = taken ++ .mark ')' :: rest ∧ Within connectives taken := by
  have hnumber (n : List Char) : Token.isInner connectives (.lexeme .number n) = true := rfl
  change Took ts (.mark ')' :: rest)
  induction ts using dropIntegers?.induct with
  | case1 n ts hn ih =>
    rw [dropIntegers?, if_pos hn] at h
    exact .cons (hnumber n) (.cons rfl (ih h))
  | case2 n ts hn =>
    rw [dropIntegers?, if_neg hn] at h
    cases h
  | case3 n ts hn =>
    rw [dropIntegers?, if_pos hn] at h
    cases h
    exact .cons (hnumber n) (.refl _)
  | case4 n ts hn =>
    rw [dropIntegers?, if_neg hn] at h
    cases h
  | case5 ts hcomma hclose => simp [dropIntegers?] at h

/-- A modifier closes the parenthesis that it opens. -/
theorem took_dropModifier (h : dropModifier? ts = some rest) : Took ts rest := by
  rw [dropModifier?.eq_def] at h
  split at h
  · obtain ⟨taken, rfl, htaken⟩ := took_dropIntegers h
    exact ⟨.mark '(' :: taken ++ [.mark ')'], by simp, htaken.paren⟩
  · cases h
    exact .refl _

/-- The bounds of an array are marks and numbers. -/
theorem took_of_areBounds (h : areBounds ts = true) : Took ts [] := by
  induction ts using areBounds.induct with
  | case1 => exact .refl _
  | case2 ts ih => exact .cons rfl (.cons rfl (ih h))
  | case3 n ts ih =>
    obtain ⟨-, hts⟩ := (Bool.and_eq_true ..).mp h
    exact .cons rfl (.cons rfl (.cons rfl (ih hts)))
  | case4 ts hnil hopen hsized => simp [areBounds] at h

/-- The bounds of an array stand behind a name with its modifier, or behind a phrase with one. -/
theorem mem_elementRests_iff : rest ∈ elementRests ts ↔
    (∃ us, dropName? ts = some us ∧ dropModifier? us = some rest) ∨
    ∃ p ∈ phrases, ∃ us vs, dropWords? p.1 ts = some us ∧ dropModifier? us = some vs ∧
      dropWords? p.2 vs = some rest := by
  simp only [elementRests, List.mem_append, Option.mem_toList, List.mem_filterMap,
    Option.bind_eq_some_iff]
  grind

/-- The name of a type has no connective in it, and it opens and closes its parentheses. -/
theorem within_of_namesType (h : namesType ts = true) : Within connectives ts := by
  obtain ⟨bounds, hbounds, h⟩ := List.any_eq_true.mp h
  suffices hrest : Took ts bounds by
    obtain ⟨taken, rfl, htaken⟩ := hrest.trans (took_of_areBounds h)
    rwa [List.append_nil]
  rcases mem_elementRests_iff.mp hbounds with ⟨us, hname, hmodifier⟩ |
    ⟨p, hp, us, vs, hfront, hmodifier, hback⟩
  · exact (took_dropName hname).trans (took_dropModifier hmodifier)
  · have hwords : ∀ p ∈ phrases, (∀ w ∈ p.1, w ∉ connectives) ∧ ∀ w ∈ p.2, w ∉ connectives := by
      decide
    obtain ⟨hfronts, hbacks⟩ := hwords p hp
    exact ((took_dropWords hfronts hfront).trans (took_dropModifier hmodifier)).trans
      (took_dropWords hbacks hback)

/-! ## Arrays -/

/-- The open bounds of an array. -/
def openBounds : List Token := [.mark '[', .mark ']']

/-- What follows the rest of a text does not change the words in front. -/
theorem dropWords_append {ws : List String} (h : dropWords? ws ts = some rest) (us : List Token) :
    dropWords? ws (ts ++ us) = some (rest ++ us) := by
  induction ws generalizing ts with
  | nil =>
    cases h
    rfl
  | cons w ws ih => cases ts with
    | nil => cases h
    | cons tok ts =>
      obtain ⟨htok, h⟩ := Option.ite_none_right_eq_some.mp h
      rw [List.cons_append, dropWords?, if_pos htok]
      exact ih h

/-- What follows the rest of a text does not change the integers in front. -/
theorem dropIntegers_append (h : dropIntegers? ts = some rest) (us : List Token) :
    dropIntegers? (ts ++ us) = some (rest ++ us) := by
  induction ts using dropIntegers?.induct with
  | case1 n ts hn ih =>
    rw [dropIntegers?, if_pos hn] at h
    simpa [dropIntegers?, hn] using ih h
  | case3 n ts hn =>
    rw [dropIntegers?, if_pos hn] at h
    cases h
    simp [dropIntegers?, hn]
  | case2 n ts hn | case4 n ts hn => simp [dropIntegers?, hn] at h
  | case5 ts hcomma hclose => simp [dropIntegers?] at h

/-- Bounds are no part of a name. -/
theorem dropName_openBounds (h : dropName? ts = some rest) :
    dropName? (ts ++ openBounds) = some (rest ++ openBounds) := by
  induction ts using dropName?.induct with
  | case1 s ts hs | case3 s ts hpoint hs => simp [dropName?, hs] at h
  | case2 s ts hs ih =>
    rw [dropName?, if_neg hs] at h
    simpa [dropName?, hs] using ih h
  | case4 s ts hpoint hs =>
    rw [dropName?, if_neg hs] at h
    · cases h
      cases rest with
      | nil => simp [dropName?, hs, openBounds]
      | cons tok rest =>
        have htok : tok ≠ .mark '.' := by
          rintro rfl
          exact hpoint rest rfl
        simp [dropName?, hs, htok]
    · exact hpoint
  | case5 ts hpoint hword => simp [dropName?] at h

/-- Nor are they a modifier. -/
theorem dropModifier_openBounds (h : dropModifier? ts = some rest) :
    dropModifier? (ts ++ openBounds) = some (rest ++ openBounds) := by
  cases ts with
  | nil =>
    cases h
    rfl
  | cons tok ts =>
    by_cases htok : tok = .mark '('
    · subst htok
      exact dropIntegers_append h _
    · have hnone (us : List Token) : dropModifier? (tok :: us) = some (tok :: us) := by
        simp [dropModifier?, htok]
      rw [hnone] at h
      cases h
      exact hnone _

/-- Bounds may be followed by open ones. -/
theorem areBounds_openBounds (h : areBounds ts = true) : areBounds (ts ++ openBounds) = true := by
  induction ts using areBounds.induct with
  | case1 => rfl
  | case2 ts ih => exact ih h
  | case3 n ts ih =>
    obtain ⟨hn, hts⟩ := (Bool.and_eq_true ..).mp h
    exact (Bool.and_eq_true ..).mpr ⟨hn, ih hts⟩
  | case4 ts hnil hopen hsized => simp [areBounds] at h

/-- An array of a type has a type name. -/
theorem namesType_openBounds (h : namesType ts = true) : namesType (ts ++ openBounds) = true := by
  obtain ⟨bounds, hbounds, h⟩ := List.any_eq_true.mp h
  refine List.any_eq_true.mpr ⟨bounds ++ openBounds, ?_, areBounds_openBounds h⟩
  refine mem_elementRests_iff.mpr ?_
  rcases mem_elementRests_iff.mp hbounds with ⟨us, hname, hmodifier⟩ |
    ⟨p, hp, us, vs, hfront, hmodifier, hback⟩
  · exact .inl ⟨_, dropName_openBounds hname, dropModifier_openBounds hmodifier⟩
  · exact .inr ⟨p, hp, _, _, dropWords_append hfront _, dropModifier_openBounds hmodifier,
      dropWords_append hback _⟩

/-! ## Where a cast ends -/

/-- A connective, or the end of a parenthesis. -/
def Token.endsTerm (tok : Token) : Bool := tok = .mark ')' || tok.isOneOf connectives

/-- What stands behind a term of a condition. -/
def EndsTerm (ts : List Token) : Prop := ∀ tok ∈ ts.head?, tok.endsTerm = true

instance (ts : List Token) : Decidable (EndsTerm ts) :=
  inferInstanceAs (Decidable (∀ tok ∈ ts.head?, tok.endsTerm = true))

variable {type : List Token} {n : Nat}

/-- No type name reaches beyond the end of a term. -/
theorem length_le_of_namesType (htype : Nested type) (hrest : EndsTerm rest)
    (h : namesType ((type ++ rest).take n) = true) (hn : n ≤ (type ++ rest).length) :
    n ≤ type.length := by
  by_contra hlt
  rw [not_le] at hlt
  have hwithin := within_of_namesType h
  obtain ⟨m, rfl⟩ := Nat.exists_eq_add_of_lt hlt
  cases rest with
  | nil =>
    rw [List.append_nil] at hn
    omega
  | cons tok rest =>
    have htake : (type ++ tok :: rest).take (type.length + m + 1) =
        type ++ tok :: rest.take m := by
      rw [Nat.add_assoc, List.take_length_add_append, List.take_succ_cons]
    rw [htake] at hwithin
    have hends : tok = .mark ')' ∨ tok.isOneOf connectives = true := by
      simpa [Token.endsTerm] using hrest tok rfl
    -- The name would close a parenthesis that it does not open, or have a connective in it.
    rcases hends with rfl | htok
    · have hlevel := hwithin.nested.level_le (d := 0) (x := (.mark ')', 0)) (by
        rw [htype.leveled_append, leveled_close]
        exact List.mem_append_right _ List.mem_cons_self)
      exact (hlevel.2 rfl).2 rfl
    · have hfree := hwithin.free tok (List.mem_append_right _ List.mem_cons_self)
      rw [htok] at hfree
      cases hfree

/-- The length of a type name is that of the longest one. -/
theorem typeLength?_eq_some_iff : typeLength? ts = some n ↔ (n ≤ ts.length ∧
    namesType (ts.take n) = true) ∧ ∀ m ≤ ts.length, namesType (ts.take m) = true → m ≤ n := by
  rw [typeLength?, List.max?_eq_some_iff]
  simp only [List.mem_filter, List.mem_range, Nat.lt_succ_iff, and_imp]

/-- A cast takes what it takes of the text of its type, whatever stands behind the term. -/
theorem typeLength?_append (htype : Nested type) (hrest : EndsTerm rest) :
    typeLength? (type ++ rest) = typeLength? type := by
  have htake {m : Nat} (hm : m ≤ type.length) : (type ++ rest).take m = type.take m :=
    List.take_append_of_le_length hm
  have hlength {m : Nat} (hm : m ≤ type.length) : m ≤ (type ++ rest).length := by
    rw [List.length_append]
    omega
  ext n
  rw [typeLength?_eq_some_iff, typeLength?_eq_some_iff]
  constructor
  · rintro ⟨⟨hn, h⟩, hmax⟩
    have hle := length_le_of_namesType htype hrest h hn
    refine ⟨⟨hle, htake hle ▸ h⟩, fun m hm hnames ↦ hmax m (hlength hm) ?_⟩
    rwa [htake hm]
  · rintro ⟨⟨hn, h⟩, hmax⟩
    refine ⟨⟨hlength hn, (htake hn).symm ▸ h⟩, fun m hm hnames ↦ ?_⟩
    have hle := length_le_of_namesType htype hrest hnames hm
    exact hmax m hle (htake hle ▸ hnames)

/-- A text is the name of a type if the longest one in it is all of it. -/
theorem namesType_iff_typeLength : namesType type = true ↔ typeLength? type = some type.length := by
  rw [typeLength?_eq_some_iff, List.take_length]
  exact ⟨fun h ↦ ⟨⟨Nat.le_refl _, h⟩, fun m hm _ ↦ hm⟩, fun h ↦ h.1.2⟩

/-- Whether a type that is one word does not go on with a token. -/
def Token.endsWord (tok : Token) : Bool := tok ∉ [.mark '.', .mark '(', .mark '[']

def EndsWord (ts : List Token) : Prop := ∀ tok ∈ ts.head?, tok.endsWord = true

/-- What ends a term ends a word. -/
theorem EndsTerm.endsWord (h : EndsTerm ts) : EndsWord ts := by
  intro tok htok
  have hends := h tok htok
  rw [Token.endsWord, decide_eq_true_eq]
  intro hmem
  have hall : [Token.mark '.', .mark '(', .mark '['].all (fun t ↦ !t.endsTerm) = true := by decide
  have hnot := List.all_eq_true.mp hall tok hmem
  rw [hends] at hnot
  cases hnot

/-- No phrase begins with a type of the compiler's own. -/
theorem elementRests_word {s : List Char} (hs : String.ofList (Text.lower s) ∈ castTypes)
    (ts : List Token) : elementRests (.lexeme .word s :: ts) =
      ((dropName? (.lexeme .word s :: ts)).bind dropModifier?).toList := by
  have hheads : ∀ p ∈ phrases, p.1 ≠ [] ∧ ∀ w ∈ p.1.head?, w ∉ castTypes := by decide
  have hnone : ∀ p ∈ phrases, dropWords? p.1 (.lexeme .word s :: ts) = none := by
    intro p hp
    obtain ⟨hne, hhead⟩ := hheads p hp
    cases hws : p.1 with
    | nil => exact absurd hws hne
    | cons w ws =>
      have hw : w ∉ castTypes := hhead w (by rw [hws]; rfl)
      have hspelling : (Token.lexeme .word s).spelling? ≠ some w := by
        intro h
        exact hw (Option.some.inj h ▸ hs)
      rw [dropWords?, if_neg hspelling]
  rw [elementRests, List.filterMap_eq_nil_iff.mpr, List.append_nil]
  intro p hp
  rw [hnone p hp]
  rfl

/-- A type of the compiler's own is one word, and no longer name begins with it. -/
theorem namesType_word {s : List Char} (hs : String.ofList (Text.lower s) ∈ castTypes)
    (hts : EndsWord ts) : namesType (.lexeme .word s :: ts) = true ↔ ts = [] := by
  have hwords : ∀ w ∈ castTypes, w ∉ connectives := by decide
  have hword : ¬(Token.lexeme .word s).isOneOf connectives = true := by
    simpa [Token.isOneOf, Token.spelling?] using hwords _ hs
  rw [namesType, elementRests_word hs]
  cases ts with
  | nil => simp [dropName?, hword, dropModifier?, areBounds]
  | cons tok ts =>
    have hends := hts tok rfl
    simp only [Token.endsWord, List.mem_cons, List.not_mem_nil, or_false, not_or,
      decide_eq_true_eq] at hends
    obtain ⟨hpoint, hopen, hbracket⟩ := hends
    simp [dropName?, hword, dropModifier?, areBounds, hpoint, hopen, hbracket]

/-- The compiler's own types are one word each. -/
theorem typeLength?_word {s : List Char} (hs : String.ofList (Text.lower s) ∈ castTypes)
    (hts : EndsWord ts) : typeLength? (.lexeme .word s :: ts) = some 1 := by
  rw [typeLength?_eq_some_iff]
  refine ⟨⟨by simp, (namesType_word hs (by simp [EndsWord])).mpr rfl⟩, fun m hm h ↦ ?_⟩
  cases m with
  | zero => exact Nat.zero_le 1
  | succ m =>
    have htake : EndsWord (ts.take m) := by
      intro tok htok
      rw [List.head?_take] at htok
      split at htok
      · cases htok
      · exact hts tok htok
    rw [List.take_succ_cons, namesType_word hs htake, List.take_eq_nil_iff] at h
    rcases h with rfl | rfl
    · exact Nat.le_refl 1
    · exact hm

/-! ## Texts without casts -/

/-- The tokens that belong to a type are passed over. -/
theorem uncastFrom_eq_drop (skip : Nat) (ts : List Token) :
    uncastFrom skip ts = uncast (ts.drop skip) := by
  induction ts generalizing skip with
  | nil => rw [List.drop_nil, uncast, uncastFrom, uncastFrom]
  | cons tok ts ih => cases skip with
    | zero => rfl
    | succ skip => exact ih skip

/-- A token that is no mark of a cast stays. -/
theorem uncast_cons {tok : Token} (h : tok ≠ castMark) (ts : List Token) :
    uncast (tok :: ts) = (uncast ts).map (tok :: ·) := by
  rw [uncast, uncastFrom, if_neg h]
  rfl

/-- The mark of a cast goes, and the longest type name behind it. -/
theorem uncast_castMark (ts : List Token) :
    uncast (castMark :: ts) = (typeLength? ts).bind fun n ↦ uncast (ts.drop n) := by
  rw [uncast, uncastFrom, if_pos rfl]
  simp only [uncastFrom_eq_drop]

/-- Tokens among which there is no mark of a cast stay. -/
theorem uncast_append (h : castMark ∉ ts) (rest : List Token) :
    uncast (ts ++ rest) = (uncast rest).map (ts ++ ·) := by
  induction ts with
  | nil => exact (Option.map_id' (x := uncast rest)).symm
  | cons tok ts ih =>
    rw [List.mem_cons, not_or] at h
    rw [List.cons_append, uncast_cons (Ne.symm h.1), ih h.2, Option.map_map]
    rfl

/-- Of a cast at the end of a term a text keeps what does not belong to the name of a type. -/
theorem uncast_cast (htype : Nested type) (hmark : castMark ∉ type) (hrest : EndsTerm rest) :
    uncast (castMark :: (type ++ rest)) = (typeLength? type).bind fun n ↦
      (uncast rest).map (type.drop n ++ ·) := by
  rw [uncast_castMark, typeLength?_append htype hrest]
  refine Option.bind_congr fun n hn ↦ ?_
  have hle := (typeLength?_eq_some_iff.mp hn).1.1
  rw [List.drop_append_of_le_length hle]
  exact uncast_append (fun h ↦ hmark (List.mem_of_mem_drop h)) rest

end RowGate.Sql
