import Mathlib.Data.List.Forall2

/-! # Computations that may fail -/

namespace RowGate

variable {ε α β : Type}

theorem toOption_bind (x : Except ε α) (f : α → Except ε β) :
    (x >>= f).toOption = x.toOption.bind fun a ↦ (f a).toOption := by
  cases x <;> rfl

/-- A sequence succeeds if both of its parts do. -/
theorem bind_eq_ok_iff {x : Except ε α} {f : α → Except ε β} {b : β} :
    x >>= f = .ok b ↔ ∃ a, x = .ok a ∧ f a = .ok b := by
  cases x with
  | error e => exact ⟨(nomatch ·), fun ⟨_, h, _⟩ ↦ nomatch h⟩
  | ok a => exact ⟨fun h ↦ ⟨a, rfl, h⟩, fun ⟨_, ha, h⟩ ↦ Except.ok.inj ha ▸ h⟩

/-- A sequence fails with its first part, or with the second behind a first that succeeds. -/
theorem bind_eq_error_iff {x : Except ε α} {f : α → Except ε β} {e : ε} :
    x >>= f = .error e ↔ x = .error e ∨ ∃ a, x = .ok a ∧ f a = .error e := by
  cases x with
  | error e' =>
    constructor
    · intro h
      cases h
      exact .inl rfl
    · rintro (h | ⟨_, h, _⟩)
      · cases h
        rfl
      · cases h
  | ok a =>
    refine ⟨fun h ↦ .inr ⟨a, rfl, h⟩, ?_⟩
    rintro (h | ⟨_, ha, h⟩)
    · cases h
    · exact Except.ok.inj ha ▸ h

/-- What is made of a result adds no failure. -/
theorem bind_pure_eq_error_iff {x : Except ε α} {f : α → β} {e : ε} :
    (x >>= fun a ↦ pure (f a)) = .error e ↔ x = .error e := by
  rw [bind_eq_error_iff]
  exact or_iff_left fun ⟨_, _, h⟩ ↦ nomatch h

/-- A check has no result to speak of. -/
theorem exists_check_iff {x : Except ε Unit} {P : Unit → Prop} :
    (∃ a, x = .ok a ∧ P a) ↔ x = .ok () ∧ P () :=
  ⟨fun ⟨(), h⟩ ↦ h, fun h ↦ ⟨(), h⟩⟩

theorem pure_eq_ok_iff {a b : α} : (pure a : Except ε α) = .ok b ↔ b = a :=
  ⟨fun h ↦ (Except.ok.inj h).symm, fun h ↦ h ▸ rfl⟩

theorem exists_eq_ok_iff {x : Except ε α} : (∃ a, x = .ok a) ↔ x.isOk = true := by
  cases x with
  | error e => exact ⟨fun ⟨_, h⟩ ↦ (nomatch h), (nomatch ·)⟩
  | ok a => exact ⟨fun _ ↦ rfl, fun _ ↦ ⟨a, rfl⟩⟩

theorem map_eq_ok_iff {x : Except ε α} {f : α → β} {b : β} :
    x.map f = .ok b ↔ ∃ a, x = .ok a ∧ f a = b := by
  cases x with
  | error e => exact ⟨(nomatch ·), fun ⟨_, h, _⟩ ↦ nomatch h⟩
  | ok a => exact ⟨fun h ↦ ⟨a, rfl, Except.ok.inj h⟩, fun ⟨_, ha, h⟩ ↦ Except.ok.inj ha ▸ h ▸ rfl⟩

/-- Computations that go on alike have related results. -/
theorem bind_eq_map_bind {γ : Type} {x : Except ε α} {f : α → Except ε γ} {g : α → Except ε β}
    {h : β → γ} (hfg : ∀ a, x = .ok a → f a = (g a).map h) : x >>= f = (x >>= g).map h := by
  cases x with
  | error _ => rfl
  | ok a => exact hfg a rfl

/-- What is put into another form and then used is used in that form. -/
theorem map_bind_eq {γ : Type} (x : Except ε α) (f : α → β) (g : β → Except ε γ) :
    x.map f >>= g = x >>= fun a ↦ g (f a) := by
  cases x <;> rfl

theorem eq_of_ok {x : Except ε α} {a b : α} (h : x = .ok a) (h' : x = .ok b) : a = b :=
  Except.ok.inj (h.symm.trans h')

/-- A list of computations succeeds with the results of its members. -/
theorem mapM_eq_ok_iff {f : α → Except ε β} {as : List α} {bs : List β} :
    as.mapM f = .ok bs ↔ List.Forall₂ (fun a b ↦ f a = .ok b) as bs := by
  induction as generalizing bs with
  | nil =>
    rw [List.mapM_nil, List.forall₂_nil_left_iff]
    exact ⟨fun h ↦ (Except.ok.inj h).symm, fun h ↦ h ▸ rfl⟩
  | cons a as ih =>
    rw [List.mapM_cons, bind_eq_ok_iff, List.forall₂_cons_left_iff]
    constructor
    · rintro ⟨b, hb, h⟩
      obtain ⟨bs', hbs, h⟩ := bind_eq_ok_iff.mp h
      exact ⟨b, bs', hb, ih.mp hbs, (Except.ok.inj h).symm⟩
    · rintro ⟨b, bs', hb, hbs, rfl⟩
      exact ⟨b, hb, bind_eq_ok_iff.mpr ⟨bs', ih.mpr hbs, rfl⟩⟩

/-- Where each result is an image, so is the list of results. -/
theorem mapM_eq_map {γ : Type} {f : α → Except ε γ} {g : α → Except ε β} {h : β → γ}
    (hfg : ∀ a, f a = (g a).map h) (as : List α) : as.mapM f = (as.mapM g).map (List.map h) := by
  induction as with
  | nil => rfl
  | cons a as ih =>
    rw [List.mapM_cons, List.mapM_cons, hfg, ih, map_bind_eq]
    refine bind_eq_map_bind fun b _ ↦ ?_
    rw [map_bind_eq]
    exact bind_eq_map_bind fun bs _ ↦ rfl

theorem length_eq_of_mapM {f : α → Except ε β} {as : List α} {bs : List β}
    (h : as.mapM f = .ok bs) : bs.length = as.length := (mapM_eq_ok_iff.mp h).length_eq.symm

/-- A computation that succeeds for each member succeeds for the list. -/
theorem exists_mapM {f : α → Except ε β} {as : List α} (h : ∀ a ∈ as, ∃ b, f a = .ok b) :
    ∃ bs, as.mapM f = .ok bs := by
  induction as with
  | nil => exact ⟨[], rfl⟩
  | cons a as ih =>
    obtain ⟨⟨b, hb⟩, has⟩ := List.forall_mem_cons.mp h
    obtain ⟨bs, hbs⟩ := ih has
    exact ⟨b :: bs, mapM_eq_ok_iff.mpr (.cons hb (mapM_eq_ok_iff.mp hbs))⟩

/-- Every result is the result of a member. -/
theorem exists_of_mem_mapM {f : α → Except ε β} {as : List α} {bs : List β}
    (h : as.mapM f = .ok bs) {b : β} (hb : b ∈ bs) : ∃ a ∈ as, f a = .ok b := by
  replace h := mapM_eq_ok_iff.mp h
  induction h with
  | nil => cases hb
  | cons hhead _ ih =>
    rcases List.mem_cons.mp hb with rfl | hb
    · exact ⟨_, List.mem_cons_self, hhead⟩
    · obtain ⟨a, ha, h⟩ := ih hb
      exact ⟨a, List.mem_cons_of_mem _ ha, h⟩

/-- Every member has a result. -/
theorem exists_mem_of_mapM {f : α → Except ε β} {as : List α} {bs : List β}
    (h : as.mapM f = .ok bs) {a : α} (ha : a ∈ as) : ∃ b ∈ bs, f a = .ok b := by
  replace h := mapM_eq_ok_iff.mp h
  induction h with
  | nil => cases ha
  | cons hhead _ ih =>
    rcases List.mem_cons.mp ha with rfl | ha
    · exact ⟨_, List.mem_cons_self, hhead⟩
    · obtain ⟨b, hb, h⟩ := ih ha
      exact ⟨b, List.mem_cons_of_mem _ hb, h⟩

/-- A list of computations fails with the first member that fails. -/
theorem exists_of_mapM_eq_error {f : α → Except ε β} {as : List α} {e : ε}
    (h : as.mapM f = .error e) : ∃ before a after, as = before ++ a :: after ∧
      (∀ b ∈ before, ∃ c, f b = .ok c) ∧ f a = .error e := by
  induction as with
  | nil => cases h
  | cons a as ih =>
    rw [List.mapM_cons] at h
    obtain h | ⟨b, hb, h⟩ := bind_eq_error_iff.mp h
    · exact ⟨[], a, as, rfl, fun _ hmem ↦ (nomatch hmem), h⟩
    · obtain h | ⟨_, _, h⟩ := bind_eq_error_iff.mp h
      · obtain ⟨before, a', after, rfl, hbefore, ha'⟩ := ih h
        exact ⟨a :: before, a', after, rfl, List.forall_mem_cons.mpr ⟨⟨b, hb⟩, hbefore⟩, ha'⟩
      · cases h

theorem forall₂_replicate {R : α → β → Prop} {a : α} {bs : List β} (h : ∀ b ∈ bs, R a b) :
    List.Forall₂ R (List.replicate bs.length a) bs := by
  induction bs with
  | nil => exact .nil
  | cons b bs ih =>
    obtain ⟨hb, hbs⟩ := List.forall_mem_cons.mp h
    exact .cons hb (ih hbs)

/-- A member of the left list is related to some member of the right one. -/
theorem exists_of_forall₂ {R : α → β → Prop} {as : List α} {bs : List β}
    (h : List.Forall₂ R as bs) {a : α} (ha : a ∈ as) : ∃ b, R a b := by
  induction h with
  | nil => cases ha
  | cons hab _ ih =>
    rcases List.mem_cons.mp ha with rfl | ha
    · exact ⟨_, hab⟩
    · exact ih ha

/-- Related lists have related members in the same places. -/
theorem exists_getElem?_of_forall₂ {R : α → β → Prop} {as : List α} {bs : List β}
    (h : List.Forall₂ R as bs) {i : ℕ} {a : α} (ha : as[i]? = some a) :
    ∃ b, bs[i]? = some b ∧ R a b := by
  induction h generalizing i with
  | nil => cases ha
  | cons hab _ ih =>
    cases i with
    | zero => exact ⟨_, rfl, Option.some.inj ha ▸ hab⟩
    | succ i => exact ih ha

/-- Related lists have related last members. -/
theorem exists_getLast?_of_forall₂ {R : α → β → Prop} {as : List α} {bs : List β}
    (h : List.Forall₂ R as bs) {b : β} (hb : bs.getLast? = some b) :
    ∃ a, as.getLast? = some a ∧ R a b := by
  rw [← List.head?_reverse] at hb
  obtain ⟨rest, hrest⟩ := List.head?_eq_some_iff.mp hb
  have hrel := List.rel_reverse h
  rw [hrest] at hrel
  obtain ⟨a, has, hab, -, hreverse⟩ := List.forall₂_cons_right_iff.mp hrel
  refine ⟨a, ?_, hab⟩
  rw [← List.head?_reverse, hreverse, List.head?_cons]

/-- Related members have related results, as far as both have results. -/
theorem forall₂_of_mapM {R : α → α → Prop} {S : β → β → Prop} {f : α → Except ε β}
    (hf : ∀ a a' b b', R a a' → f a = .ok b → f a' = .ok b' → S b b') {as as' : List α}
    (hR : List.Forall₂ R as as') {bs bs' : List β} (h : as.mapM f = .ok bs)
    (h' : as'.mapM f = .ok bs') : List.Forall₂ S bs bs' := by
  replace h := mapM_eq_ok_iff.mp h
  replace h' := mapM_eq_ok_iff.mp h'
  induction hR generalizing bs bs' with
  | nil =>
    cases h
    cases h'
    exact .nil
  | cons hab _ ih =>
    cases h with
    | cons hb hbs =>
      cases h' with
      | cons hb' hbs' => exact .cons (hf _ _ _ _ hab hb hb') (ih hbs hbs')

/-- What each step keeps, a list of steps keeps. -/
theorem foldlM_preserves {P : β → Prop} {f : β → α → Except ε β}
    (hf : ∀ a b b', P b → f b a = .ok b' → P b') {as : List α} {b b' : β} (hb : P b)
    (h : as.foldlM f b = .ok b') : P b' := by
  induction as generalizing b with
  | nil => exact Except.ok.inj h ▸ hb
  | cons a as ih =>
    rw [List.foldlM_cons] at h
    obtain ⟨b₁, hfirst, hrest⟩ := bind_eq_ok_iff.mp h
    exact ih (hf a b b₁ hb hfirst) hrest

/-- A list of steps fails with the first step that fails, after those before it. -/
theorem exists_of_foldlM_eq_error {f : β → α → Except ε β} {as : List α} {b : β} {e : ε}
    (h : as.foldlM f b = .error e) : ∃ before a after b', as = before ++ a :: after ∧
      before.foldlM f b = .ok b' ∧ f b' a = .error e := by
  induction as generalizing b with
  | nil => cases h
  | cons a as ih =>
    rw [List.foldlM_cons] at h
    obtain h | ⟨b₁, hb₁, h⟩ := bind_eq_error_iff.mp h
    · exact ⟨[], a, as, b, rfl, rfl, h⟩
    · obtain ⟨before, a', after, b', rfl, hbefore, ha'⟩ := ih h
      refine ⟨a :: before, a', after, b', rfl, ?_, ha'⟩
      rw [List.foldlM_cons]
      exact bind_eq_ok_iff.mpr ⟨b₁, hb₁, hbefore⟩

/-- In a list of steps that succeeds, each step does. -/
theorem exists_ok_of_mem_foldlM {f : β → α → Except ε β} {as : List α} {b b' : β}
    (h : as.foldlM f b = .ok b') {a : α} (ha : a ∈ as) : ∃ c c', f c a = .ok c' := by
  induction as generalizing b with
  | nil => cases ha
  | cons x as ih =>
    rw [List.foldlM_cons] at h
    obtain ⟨b₁, hfirst, hrest⟩ := bind_eq_ok_iff.mp h
    rcases List.mem_cons.mp ha with rfl | ha
    · exact ⟨b, b₁, hfirst⟩
    · exact ih hrest ha

/-- Where each step makes its own result from nothing and puts it behind what there is by `k`, so
does a list of steps; `g` tells the steps apart whose results are put there in another way. -/
theorem foldlM_eq_map {f : β → α → Except ε β} {e : β} {g : α → Bool} {k : Bool → β → β → β}
    (hstep : ∀ b a, f b a = (f e a).map (k (g a) b)) (hempty : ∀ b, k false b e = b)
    (hassoc : ∀ b x y c d, k d (k c b x) y = k (c || d) b (k d x y)) (as : List α) (b : β) :
    as.foldlM f b = (as.foldlM f e).map (k (as.any g) b) := by
  induction as generalizing b with
  | nil => exact congrArg Except.ok (hempty b).symm
  | cons a as ih =>
    rw [List.foldlM_cons, List.foldlM_cons, hstep b a, List.any_cons]
    cases f e a with
    | error _ => rfl
    | ok x =>
      change as.foldlM f (k (g a) b x) = (as.foldlM f x).map _
      rw [ih (k (g a) b x), ih x]
      cases as.foldlM f e with
      | error _ => rfl
      | ok y => exact congrArg Except.ok (hassoc b x y (g a) (as.any g))

/-- Steps of which each puts one more member behind what there is by `k` put all of them there. -/
theorem foldlM_map_eq_ok {γ : Type} {f : β → γ → Except ε β} {g : α → γ} {k : β → List α → β}
    (hnil : ∀ b, k b [] = b) (hcons : ∀ b a as, k (k b [a]) as = k b (a :: as)) {as : List α}
    (hstep : ∀ a ∈ as, ∀ b, f b (g a) = .ok (k b [a])) (b : β) :
    (as.map g).foldlM f b = .ok (k b as) := by
  induction as generalizing b with
  | nil => exact congrArg Except.ok (hnil b).symm
  | cons a as ih =>
    obtain ⟨ha, has⟩ := List.forall_mem_cons.mp hstep
    rw [List.map_cons, List.foldlM_cons, ha b, ← hcons b a as]
    exact ih has _

/-- A computation fails, if at all, with an error of a kind. -/
def FailsOnly (P : ε → Prop) (x : Except ε α) : Prop := ∀ e, x = .error e → P e

namespace FailsOnly

variable {P : ε → Prop} {x : Except ε α}

theorem ok (a : α) : FailsOnly P (.ok a) := fun _ h ↦ nomatch h

theorem error {e : ε} (h : P e) : FailsOnly P (.error e : Except ε α) := by
  rintro _ ⟨⟩
  exact h

/-- A sequence fails only as its parts do. -/
theorem bind {f : α → Except ε β} (hx : FailsOnly P x) (hf : ∀ a, FailsOnly P (f a)) :
    FailsOnly P (x >>= f) := by
  cases x with
  | error e => exact error (hx e rfl)
  | ok a => exact hf a

theorem map {f : α → β} (hx : FailsOnly P x) : FailsOnly P (x.map f) := by
  cases x with
  | error e => exact error (hx e rfl)
  | ok a => exact ok (f a)

/-- A list fails only as its members do. -/
theorem mapM {f : α → Except ε β} {as : List α} (hf : ∀ a ∈ as, FailsOnly P (f a)) :
    FailsOnly P (as.mapM f) := by
  induction as with
  | nil => exact ok []
  | cons a as ih =>
    obtain ⟨ha, has⟩ := List.forall_mem_cons.mp hf
    rw [List.mapM_cons]
    exact ha.bind fun b ↦ (ih has).bind fun bs ↦ ok (b :: bs)

end FailsOnly

end RowGate
