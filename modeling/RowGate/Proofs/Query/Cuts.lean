import RowGate.Proofs.Query.Balance

/-! # The cuts of a text

Main statement: a text is split if and only if it is balanced, and then exactly at the separators
that stand outside of its quotes and brackets.

That balanced texts are split is known from their grammar. For the converse, the state of a scan is
read as a promise: `Closes` says what has to follow for all that is open to be closed in its order.
A step of the scan takes the promise back over one character, and a whole scan ends where nothing is
promised any more.
-/

namespace RowGate.Brackets

variable {d c : Char} {b : Shape} {bs : List Shape} {st st' : State} {p s w u v : List Char}
  {ps : List (List Char)} {top : Char → Prop}

/-! ## What a step can do -/

/-- A character that opens is the left bracket of its shape. -/
theorem eq_left_of_opening? (h : opening? c = some b) : c = b.left := by
  unfold opening? at h
  split at h <;> cases h <;> rfl

/-- A character that closes is the right bracket of its shape. -/
theorem eq_right_of_closing? (h : closing? c = some b) : c = b.right := by
  unfold closing? at h
  split at h <;> cases h <;> rfl

/-- In quotes only a backslash and a quote change where a scan stands. -/
theorem step_inside_cases (h : State.step ⟨.inside, bs⟩ c = some st') :
    (c = '\\' ∧ st' = ⟨.escaped, bs⟩) ∨ (c = '"' ∧ st' = ⟨.outside, bs⟩) ∨
      (c ≠ '\\' ∧ c ≠ '"' ∧ st' = ⟨.inside, bs⟩) := by
  simp only [State.step] at h
  split at h
  next hescape => exact .inl ⟨hescape, (Option.some.inj h).symm⟩
  next hescape =>
    split at h
    next hquote => exact .inr (.inl ⟨hquote, (Option.some.inj h).symm⟩)
    next hquote => exact .inr (.inr ⟨hescape, hquote, (Option.some.inj h).symm⟩)

/-- Outside of quotes a scan meets a quote, a bracket, or a character that changes nothing. -/
theorem step_outside_cases (h : State.step ⟨.outside, bs⟩ c = some st') :
    (c = '"' ∧ st' = ⟨.inside, bs⟩) ∨ (∃ b : Shape, c = b.left ∧ st' = ⟨.outside, b :: bs⟩) ∨
      (∃ (b : Shape) (bs' : List Shape), bs = b :: bs' ∧ c = b.right ∧ st' = ⟨.outside, bs'⟩) ∨
      (opening? c = none ∧ closing? c = none ∧ c ≠ '"' ∧ st' = ⟨.outside, bs⟩) := by
  simp only [State.step] at h
  split at h
  next hquote => exact .inl ⟨hquote, (Option.some.inj h).symm⟩
  next hquote =>
    split at h
    next b hopen =>
      exact .inr (.inl ⟨b, eq_left_of_opening? hopen, (Option.some.inj h).symm⟩)
    next hopen =>
      split at h
      next hclose =>
        exact .inr (.inr (.inr ⟨hopen, hclose, hquote, (Option.some.inj h).symm⟩))
      next b hclose =>
        split at h
        next => cases h
        next b' bs' =>
          split at h
          next hb =>
            have hc : c = b'.right := hb ▸ eq_right_of_closing? hclose
            exact .inr (.inr (.inl ⟨b', bs', rfl, hc, (Option.some.inj h).symm⟩))
          next => cases h

/-! ## What closes what is open -/

/-- What has to follow where a scan stands: the rest of the quotes, then for each open bracket a
balanced text and the bracket that closes it, then a balanced text with characters of `top`. -/
inductive Closes (top : Char → Prop) : State → List Char → Prop
  | outside {s : List Char} (hs : Balanced top s) : Closes top ⟨.outside, []⟩ s
  | bracket {b : Shape} {bs : List Shape} {inner s : List Char}
    (hinner : Balanced (fun _ ↦ True) inner) (hs : Closes top ⟨.outside, bs⟩ s) :
    Closes top ⟨.outside, b :: bs⟩ (inner ++ b.right :: s)
  | inside {bs : List Shape} {q s : List Char} (hq : InQuotes q)
    (hs : Closes top ⟨.outside, bs⟩ s) : Closes top ⟨.inside, bs⟩ (q ++ s)
  | escaped {bs : List Shape} {s : List Char} (c : Char) (hs : Closes top ⟨.inside, bs⟩ s) :
    Closes top ⟨.escaped, bs⟩ (c :: s)

namespace Closes

/-- A balanced text may come first: outside of all brackets if it keeps to `top`. -/
theorem append (hw : Balanced (fun _ ↦ True) w) (htop : bs = [] → Balanced top w)
    (hs : Closes top ⟨.outside, bs⟩ s) : Closes top ⟨.outside, bs⟩ (w ++ s) := by
  cases hs with
  | outside hs => exact .outside ((htop rfl).append hs)
  | bracket hinner hs =>
    rw [← List.append_assoc]
    exact .bracket (hw.append hinner) hs

/-- A quote opens what the rest closes. -/
theorem quote (hs : Closes top ⟨.inside, bs⟩ s) : Closes top ⟨.outside, bs⟩ ('"' :: s) := by
  cases hs with
  | @inside _ q s hq hs =>
    have hw (top : Char → Prop) : Balanced top ('"' :: (q ++ [])) := .quotes hq .nil
    rw [List.append_nil] at hw
    exact append (hw _) (fun _ ↦ hw top) hs

/-- A bracket opens what the rest closes. -/
theorem left (hs : Closes top ⟨.outside, b :: bs⟩ s) : Closes top ⟨.outside, bs⟩ (b.left :: s) := by
  cases hs with
  | @bracket _ _ inner s hinner hs =>
    have hw (top : Char → Prop) : Balanced top (b.left :: (inner ++ [b.right])) :=
      .brackets b hinner .nil
    have htext : b.left :: (inner ++ b.right :: s) = b.left :: (inner ++ [b.right]) ++ s := by simp
    rw [htext]
    exact append (hw _) (fun _ ↦ hw top) hs

/-- In quotes every character but the last quote is part of what is closed. -/
theorem inQuotes (hstep : State.step ⟨.inside, bs⟩ c = some st') (hs : Closes top st' s) :
    Closes top ⟨.inside, bs⟩ (c :: s) := by
  rcases step_inside_cases hstep with ⟨rfl, rfl⟩ | ⟨rfl, rfl⟩ | ⟨hescape, hquote, rfl⟩
  · cases hs with
    | escaped c hs =>
      cases hs with
      | inside hq hs => exact .inside (.escape c hq) hs
  · exact .inside .close hs
  · cases hs with
    | inside hq hs => exact .inside (.char hquote hescape hq) hs

/-- What is closed behind a character is closed with it. -/
theorem cons (hstep : st.step c = some st') (hc : st.isTop = true → top c)
    (hs : Closes top st' s) : Closes top st (c :: s) := by
  obtain ⟨quoting, bs⟩ := st
  cases quoting with
  | escaped =>
    cases hstep
    exact .escaped c hs
  | inside => exact inQuotes hstep hs
  | outside =>
    rcases step_outside_cases hstep with
      ⟨rfl, rfl⟩ | ⟨b, rfl, rfl⟩ | ⟨b, bs, rfl, rfl, rfl⟩ | ⟨hopen, hclose, hquote, rfl⟩
    · exact hs.quote
    · exact hs.left
    · exact .bracket .nil hs
    · refine append (w := [c]) (.char hopen hclose hquote trivial .nil) (fun hbs ↦ ?_) hs
      exact .char hopen hclose hquote (hc (by simp [State.isTop, hbs])) .nil

end Closes

/-- At the end of a text without a fault nothing is open. -/
theorem eq_of_fault? (h : st.fault? = none) : st = ⟨.outside, []⟩ := by
  obtain ⟨quoting, bs⟩ := st
  simp only [State.fault?] at h
  split at h
  · cases h
  next hquoting =>
    split at h
    next hbs => rw [Decidable.not_not.mp hquoting, List.isEmpty_iff.mp hbs]
    · cases h

theorem eq_of_isTop (h : st.isTop = true) : st = ⟨.outside, []⟩ := by
  obtain ⟨quoting, bs⟩ := st
  simp only [State.isTop, Bool.and_eq_true, decide_eq_true_eq, List.isEmpty_iff] at h
  rw [h.1, h.2]

/-- The first part closes what is open where the scan begins. The others are balanced. -/
theorem closes_splitFrom (hd : Separates d) (h : splitFrom d st s = .ok (p, ps)) :
    Closes (· ≠ d) st p ∧ ∀ w ∈ ps, Balanced (· ≠ d) w := by
  induction s generalizing st p ps with
  | nil =>
    rw [splitFrom] at h
    split at h
    · cases h
    next hfault =>
      cases h
      rw [eq_of_fault? hfault]
      exact ⟨.outside .nil, List.forall_mem_nil _⟩
  | cons c s ih =>
    rw [splitFrom] at h
    split at h
    · cases h
    next st' hstep =>
      split at h
      · cases h
      next q qs hrest =>
        obtain ⟨hq, hqs⟩ := ih hrest
        split at h
        next hcut =>
          obtain ⟨rfl, htop⟩ := hcut
          cases h
          -- A separator is no bracket, quote or backslash, so the scan goes on as it began.
          have hstay : st' = ⟨.outside, []⟩ := by
            rw [eq_of_isTop htop] at hstep
            simpa [State.step, hd.opening, hd.closing, hd.quote, eq_comm] using hstep
          rw [hstay] at hq
          rw [eq_of_isTop htop]
          cases hq with
          | outside hq => exact ⟨.outside .nil, List.forall_mem_cons.mpr ⟨hq, hqs⟩⟩
        next hcut =>
          cases h
          exact ⟨hq.cons hstep fun htop hc ↦ hcut ⟨hc, htop⟩, hqs⟩

/-! ## Parts -/

/-- A balanced text is made of balanced texts without a separator outside of quotes and brackets. -/
theorem Balanced.exists_parts (d : Char) (hs : Balanced top s) :
    ∃ p ps, [d].intercalate (p :: ps) = s ∧ ∀ w ∈ p :: ps, Balanced (· ≠ d) w := by
  have hgrow {w s : List Char} (hw : Balanced (· ≠ d) w)
      (hs : ∃ p ps, [d].intercalate (p :: ps) = s ∧ ∀ w ∈ p :: ps, Balanced (· ≠ d) w) :
      ∃ p ps, [d].intercalate (p :: ps) = w ++ s ∧ ∀ w ∈ p :: ps, Balanced (· ≠ d) w := by
    obtain ⟨p, ps, rfl, hparts⟩ := hs
    obtain ⟨hp, hps⟩ := List.forall_mem_cons.mp hparts
    exact ⟨w ++ p, ps, intercalate_append_cons d w p ps,
      List.forall_mem_cons.mpr ⟨hw.append hp, hps⟩⟩
  induction hs with
  | nil => exact ⟨[], [], rfl, List.forall_mem_singleton.mpr .nil⟩
  | @char top c s hopen hclose hquote _ _ ih =>
    by_cases hc : c = d
    · obtain ⟨p, ps, rfl, hparts⟩ := ih
      rw [hc]
      exact ⟨[], p :: ps, intercalate_nil_cons d p ps, List.forall_mem_cons.mpr ⟨.nil, hparts⟩⟩
    · exact hgrow (.char hopen hclose hquote hc .nil) ih
  | @quotes top q s hq _ ih =>
    have hw : Balanced (· ≠ d) ('"' :: (q ++ [])) := .quotes hq .nil
    rw [List.append_nil] at hw
    exact hgrow hw ih
  | @brackets top inner s b hinner _ _ ih =>
    have hw : Balanced (· ≠ d) (b.left :: (inner ++ [b.right])) := .brackets b hinner .nil
    have htext : b.left :: (inner ++ b.right :: s) = b.left :: (inner ++ [b.right]) ++ s := by simp
    rw [htext]
    exact hgrow hw ih

/-- A text is balanced too if more may stand outside of its brackets and quotes. -/
theorem Balanced.mono {top' : Char → Prop} (hs : Balanced top s) (h : ∀ c, top c → top' c) :
    Balanced top' s := by
  induction hs with
  | nil => exact .nil
  | char hopen hclose hquote hc _ ih => exact .char hopen hclose hquote (h _ hc) (ih h)
  | quotes hq _ ih => exact .quotes hq (ih h)
  | brackets b hinner _ _ ih => exact .brackets b hinner (ih h)

/-- Balanced parts are balanced together, between separators. -/
theorem balanced_intercalate (hd : Separates d) (h : ∀ w ∈ ps, Balanced (· ≠ d) w) :
    Balanced (fun _ ↦ True) ([d].intercalate ps) := by
  induction ps with
  | nil => exact .nil
  | cons p ps ih =>
    obtain ⟨hp, hps⟩ := List.forall_mem_cons.mp h
    have hp : Balanced (fun _ ↦ True) p := hp.mono fun _ _ ↦ trivial
    cases ps with
    | nil => simpa [List.intercalate] using hp
    | cons q ps =>
      rw [List.intercalate_cons_cons, List.append_assoc]
      exact hp.append (.char hd.opening hd.closing hd.quote trivial (ih hps))

/-- The parts of a text are told by what they are: balanced texts, without a separator outside of
quotes and brackets, that are the text when separators join them. -/
theorem split_eq_ok_iff (hd : Separates d) : split d s = .ok ps ↔
    ps ≠ [] ∧ [d].intercalate ps = s ∧ ∀ w ∈ ps, Balanced (· ≠ d) w := by
  constructor
  · intro h
    refine ⟨?_, intercalate_split h, ?_⟩ <;> rw [split] at h <;> split at h <;> cases h
    next p qs hparts => exact List.cons_ne_nil p qs
    next p qs hparts =>
      obtain ⟨hp, hqs⟩ := closes_splitFrom hd hparts
      cases hp with
      | outside hp => exact List.forall_mem_cons.mpr ⟨hp, hqs⟩
  · rintro ⟨hne, rfl, hparts⟩
    exact split_intercalate hd hne fun w hw ↦ (hparts w hw).isOpaque hd

/-- A text is cut into parts if and only if it is balanced. -/
theorem exists_split_iff (hd : Separates d) :
    (∃ ps, split d s = .ok ps) ↔ Balanced (fun _ ↦ True) s := by
  constructor
  · rintro ⟨ps, h⟩
    obtain ⟨-, rfl, hparts⟩ := (split_eq_ok_iff hd).mp h
    exact balanced_intercalate hd hparts
  · intro h
    obtain ⟨p, ps, hs, hparts⟩ := h.exists_parts d
    exact ⟨p :: ps, (split_eq_ok_iff hd).mpr ⟨List.cons_ne_nil p ps, hs, hparts⟩⟩

/-! ## Cuts -/

/-- The parts before and behind a cut, joined again, are what stands before and behind it. -/
def CutAt (d : Char) (ps : List (List Char)) (u v : List Char) : Prop :=
  ∃ us vs, ps = us ++ vs ∧ us ≠ [] ∧ vs ≠ [] ∧ [d].intercalate us = u ∧ [d].intercalate vs = v

/-- Behind the parts of a text and a separator, the scan begins anew. -/
theorem splitFrom_intercalate_append (hd : Separates d) (hp : Balanced (· ≠ d) p)
    (hps : ∀ w ∈ ps, Balanced (· ≠ d) w) (v : List Char) :
    splitFrom d {} ([d].intercalate (p :: ps) ++ d :: v) =
      (splitFrom d {} v).map fun r ↦ (p, ps ++ r.1 :: r.2) := by
  have hcut (v : List Char) :
      splitFrom d {} (d :: v) = (splitFrom d {} v).map fun r ↦ ([], r.1 :: r.2) := by
    simp only [splitFrom, State.step, hd.opening, hd.closing, hd.quote, if_false]
    cases splitFrom d {} v <;> simp [Except.map, State.isTop]
  induction ps generalizing p with
  | nil =>
    have hjoin : [d].intercalate [p] = p := by simp [List.intercalate]
    rw [hjoin, hp.isOpaque hd [] _, hcut]
    cases splitFrom d {} v <;> simp [Except.map]
  | cons q ps ih =>
    obtain ⟨hq, hps⟩ := List.forall_mem_cons.mp hps
    rw [List.intercalate_cons_cons, List.append_assoc, List.append_assoc, hp.isOpaque hd [] _,
      List.singleton_append, hcut, ih hq hps]
    cases splitFrom d {} v <;> simp [Except.map]

/-- A separator of a text is where it is cut if and only if what stands before it is balanced. -/
theorem cutAt_iff_balanced (hd : Separates d) (h : split d (u ++ d :: v) = .ok ps) :
    CutAt d ps u v ↔ Balanced (fun _ ↦ True) u := by
  have hparts := ((split_eq_ok_iff hd).mp h).2.2
  constructor
  · rintro ⟨us, vs, rfl, -, -, rfl, -⟩
    exact balanced_intercalate hd fun w hw ↦ hparts w (List.mem_append_left vs hw)
  · intro hu
    obtain ⟨p, us, rfl, hus⟩ := hu.exists_parts d
    obtain ⟨hp, hus⟩ := List.forall_mem_cons.mp hus
    rw [split, splitFrom_intercalate_append hd hp hus] at h
    cases hv : splitFrom d {} v with
    | error f =>
      rw [hv] at h
      cases h
    | ok r =>
      rw [hv] at h
      cases h
      exact ⟨p :: us, r.1 :: r.2, rfl, List.cons_ne_nil p us, List.cons_ne_nil r.1 r.2, rfl,
        intercalate_splitFrom hv⟩

/-- A text is split exactly if it is balanced. Then its parts, joined with the separator, are the
text; the cuts between them are exactly the separators outside of quotes and brackets, those behind
a balanced text; and each part is split in its turn, into itself, and has no such separator. -/
theorem split_iff_balanced (hd : Separates d) (s : List Char) :
    ((∃ ps, split d s = .ok ps) ↔ Balanced (fun _ ↦ True) s) ∧
    ∀ ps, split d s = .ok ps →
      [d].intercalate ps = s ∧
      (∀ u v, s = u ++ d :: v → (CutAt d ps u v ↔ Balanced (fun _ ↦ True) u)) ∧
      ∀ w ∈ ps, split d w = .ok [w] ∧ Balanced (· ≠ d) w := by
  refine ⟨exists_split_iff hd, fun ps h ↦ ?_⟩
  obtain ⟨-, hjoin, hparts⟩ := (split_eq_ok_iff hd).mp h
  refine ⟨hjoin, ?_, fun w hw ↦ ⟨?_, hparts w hw⟩⟩
  · rintro u v rfl
    exact cutAt_iff_balanced hd h
  · refine (split_eq_ok_iff hd).mpr ⟨List.cons_ne_nil w [], by simp [List.intercalate], ?_⟩
    exact List.forall_mem_singleton.mpr (hparts w hw)

/-- A separator in brackets and one in quotes, where a bracket and an escaped quote are characters
like any other, and an empty last part. -/
theorem split_iff_balanced_marks :
    Separates ',' ∧
    split ',' "a,(b,\",)\\\"\"),".toList = .ok ["a".toList, "(b,\",)\\\"\")".toList, []] ∧
    Balanced (fun _ ↦ True) "a,(b,\",)\\\"\"),".toList ∧
    split ',' "(b,\",)\\\"\")".toList = .ok ["(b,\",)\\\"\")".toList] := by
  have hd : Separates ',' := ⟨rfl, rfl, by decide⟩
  have hsplit : split ',' "a,(b,\",)\\\"\"),".toList =
      .ok ["a".toList, "(b,\",)\\\"\")".toList, []] := rfl
  obtain ⟨hbalanced, hparts⟩ := split_iff_balanced hd "a,(b,\",)\\\"\"),".toList
  obtain ⟨-, -, hwhole⟩ := hparts _ hsplit
  exact ⟨hd, hsplit, hbalanced.mp ⟨_, hsplit⟩, (hwhole "(b,\",)\\\"\")".toList (by simp)).1⟩

end RowGate.Brackets
