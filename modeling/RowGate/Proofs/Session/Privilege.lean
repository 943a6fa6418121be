import RowGate.Proofs.Session.Settings

/-! # The role of callers without a user

Claims are read twice: `sub` says who the user is, and `role` which role a transaction has. The role
of anonymous callers is given only where there are no claims. Where claims say neither, there is no
user, and yet the role is that of authenticated callers.
-/

namespace RowGate

namespace Json

variable {claims : Json} {role : String}

/-- A role that claims name. An empty name is none. -/
def NamesRole (claims : Json) (role : String) : Prop :=
  claims.get? "role" = some (.string role) ∧ role ≠ ""

/-- Claims that name neither a user nor a role. -/
structure Silent (claims : Json) : Prop where
  sub : ∀ user, claims.get? "sub" ≠ some (.string user)
  role : ∀ role, ¬claims.NamesRole role

theorem string?_eq_some_iff {v : Json} {s : String} : v.string? = some s ↔ v = .string s := by
  cases v <;> simp [string?]

end Json

section

variable {claims : Json} {config : RoleConfig} {role : String}

/-- A role that the claims name is taken. -/
theorem roleOfClaims_of_names (h : claims.NamesRole role) : roleOfClaims claims config = role := by
  obtain ⟨hget, hne⟩ := h
  rw [roleOfClaims, hget]
  exact if_neg hne

/-- Claims that name no role have the role of authenticated callers. -/
theorem roleOfClaims_of_not_names (h : ∀ role, ¬claims.NamesRole role) :
    roleOfClaims claims config = config.authenticatedRole := by
  rw [roleOfClaims]
  split
  next role hrole =>
    obtain ⟨v, hget, hv⟩ := Option.bind_eq_some_iff.mp hrole
    rw [Json.string?_eq_some_iff.mp hv] at hget
    exact if_pos (by_contra fun hne ↦ h role ⟨hget, hne⟩)
  next => rfl

end

namespace Identity

variable {claims : Json} {config : RoleConfig}

/-- Claims are anonymous if their `sub` is no text. -/
theorem isAnonymous_ofClaims_iff : (ofClaims (some claims) config).isAnonymous = true ↔
    ∀ user, claims.get? "sub" ≠ some (.string user) := by
  rw [isAnonymous, Option.isNone_iff_eq_none, ofClaims, Option.eq_none_iff_forall_ne_some]
  refine forall_congr' fun user ↦ not_congr ?_
  simp only [Option.bind_eq_some_iff, Json.string?_eq_some_iff, exists_eq_right]

/-- Callers whose claims say nothing have no user, and the role of those who have one. -/
theorem ofClaims_of_silent (h : claims.Silent) (config : RoleConfig) :
    (ofClaims (some claims) config).isAnonymous = true ∧
      (ofClaims (some claims) config).role = config.authenticatedRole :=
  ⟨isAnonymous_ofClaims_iff.mpr h.sub, roleOfClaims_of_not_names h.role⟩

/-- A caller without a user has the role of anonymous callers or one that the claims name, unless
there are claims that say nothing. With these, the caller has no user, and the transaction is run
under the role of authenticated callers. -/
theorem role_of_anonymous_iff (hroles : config.anonRole ≠ config.authenticatedRole)
    (claims : Option Json) :
    (((ofClaims claims config).isAnonymous = true →
          (ofClaims claims config).role = config.anonRole ∨
            ∃ c ∈ claims, c.NamesRole (ofClaims claims config).role) ↔
        ∀ c ∈ claims, ¬c.Silent) ∧
      ∀ c ∈ claims, c.Silent → (ofClaims claims config).isAnonymous = true ∧
        (ofClaims claims config).role = config.authenticatedRole ∧
        (config.switchRole = true → ((ofClaims claims config).settings config).getLast? =
          some ("role", config.authenticatedRole)) := by
  cases claims with
  | none =>
    exact ⟨iff_of_true (fun _ ↦ .inl rfl) nofun, nofun⟩
  | some claims =>
    simp only [Option.mem_some_iff, forall_eq', exists_eq_left']
    refine ⟨⟨fun h hsilent ↦ ?_, fun hspoken hanonymous ↦ ?_⟩, fun hsilent ↦ ?_⟩
    · obtain ⟨hanonymous, hrole⟩ := ofClaims_of_silent hsilent config
      rcases h hanonymous with h | h
      · exact hroles (h.symm.trans hrole)
      · exact hsilent.role _ h
    · have hnamed : ∃ role, claims.NamesRole role := by
        by_contra hnone
        exact hspoken ⟨isAnonymous_ofClaims_iff.mp hanonymous, not_exists.mp hnone⟩
      obtain ⟨role, hrole⟩ := hnamed
      have heq : (ofClaims (some claims) config).role = role := roleOfClaims_of_names hrole
      exact .inr (heq ▸ hrole)
    · obtain ⟨hanonymous, hrole⟩ := ofClaims_of_silent hsilent config
      refine ⟨hanonymous, hrole, fun hswitch ↦ ?_⟩
      rw [(isToldBy_settings _ config).last hswitch, hrole]

/-- A user that is no text, and a role without a name. -/
def wordlessClaims : Json := .object [("role", .string ""), ("sub", .number (.int 7))]

/-- A user that is a number is none, and an empty role is none. -/
theorem silent_wordlessClaims : wordlessClaims.Silent := by
  refine ⟨fun user h ↦ ?_, fun role hrole ↦ ?_⟩
  · cases h
  · obtain ⟨hget, hne⟩ := hrole
    cases hget
    exact hne rfl

theorem role_of_anonymous_wordless :
    ({} : RoleConfig).anonRole ≠ ({} : RoleConfig).authenticatedRole ∧
      (ofClaims (some wordlessClaims) {}).isAnonymous = true ∧
      (ofClaims (some wordlessClaims) {}).role = "authenticated" ∧
      ((ofClaims (some wordlessClaims) {}).settings {}).getLast? =
        some ("role", "authenticated") := by
  have hroles : ({} : RoleConfig).anonRole ≠ ({} : RoleConfig).authenticatedRole := by decide
  obtain ⟨-, hsilent⟩ := role_of_anonymous_iff hroles (some wordlessClaims)
  obtain ⟨hanonymous, hrole, hlast⟩ := hsilent wordlessClaims rfl silent_wordlessClaims
  exact ⟨hroles, hanonymous, hrole, hlast rfl⟩

/-- Claims that are empty make a caller without a user an authenticated one. -/
theorem authenticated_of_empty_claims :
    (ofClaims (some (.object [])) {}).isAnonymous = true ∧
      (ofClaims (some (.object [])) {}).role = "authenticated" ∧
      (ofClaims (some (.object [])) {}).role ≠ ({} : RoleConfig).anonRole ∧
      ∀ role, ¬(Json.object []).NamesRole role :=
  ⟨rfl, rfl, by decide, fun _ h ↦ nomatch h.1⟩

end Identity

end RowGate
