import IssueFlow.Proofs.PermissionSource

/-!
# Precedence of sources

The sources of permission are declared in order of precedence (`GrantSource.Precedes`). A resolver
asks sources one after the other and names the first that holds. Where those that hold are asked in
ascending order, that is the least of them (`Decision.first_isLeast`). In a project sources are
asked in ascending order. Global roles are asked before groups, although groups precede them.
-/

namespace IssueFlow

namespace GrantSource

/-- A source is declared before another. -/
def Precedes (a b : GrantSource) : Prop :=
  compare a b = .lt

instance (a b : GrantSource) : Decidable (a.Precedes b) :=
  inferInstanceAs (Decidable (compare a b = .lt))

/-- A source holds, and precedes all others that do. -/
def IsLeast (holds : GrantSource → Bool) (source : GrantSource) : Prop :=
  holds source = true ∧ ∀ other, holds other = true → other = source ∨ source.Precedes other

private theorem systemAdmin_precedes (other : GrantSource) :
    other = .systemAdmin ∨ systemAdmin.Precedes other := by
  cases other <;> decide

/-- The sources of global permission in the order in which they are asked. -/
def inInstallation : List GrantSource :=
  [.systemAdmin, .globalRole, .group, .anyone]

end GrantSource

/-- The source that is named is the least that holds, where those that hold are asked in ascending
order. -/
theorem Decision.first_isLeast {order : List GrantSource} {holds : GrantSource → Bool}
    {source : GrantSource} (asked : ∀ other, holds other = true → other ∈ order)
    (ascending : (order.filter holds).Pairwise GrantSource.Precedes)
    (named : first (order.map fun source => (source, holds source)) = .granted source) :
    GrantSource.IsLeast holds source := by
  obtain ⟨earlier, later, rfl, holding, none⟩ := first_eq_granted_iff.1 named
  refine ⟨holding, ?_⟩
  intro other held
  rw [List.filter_append, List.filter_cons_of_pos holding] at ascending
  have behind := (List.pairwise_cons.1 (List.pairwise_append.1 ascending).2.1).1
  rcases List.mem_append.1 (asked other held) with before | after
  · cases held.symm.trans (none other before)
  · rcases List.mem_cons.1 after with same | after
    · exact .inl same
    · exact .inr (behind other (List.mem_filter.2 ⟨after, held⟩))

/-- In a project the least source that holds is named. -/
private theorem ProjectPrincipal.isLeast_of_resolve {principal : ProjectPrincipal}
    {grantees : List Grantee} {source : GrantSource}
    (granted : principal.resolve grantees = .granted source) :
    GrantSource.IsLeast (principal.holds grantees) source := by
  have ascending : GrantSource.inProjects.Pairwise GrantSource.Precedes := by decide
  rw [resolve_eq] at granted
  refine Decision.first_isLeast ?_ (ascending.filter _) granted
  intro other held
  cases other with
  | globalRole => cases held
  | _ => decide

namespace GlobalPrincipal

variable (principal : GlobalPrincipal) (grants : List GlobalGrant)

/-- Whether a source of global permission holds for a principal. -/
def holds : GrantSource → Bool
  | .systemAdmin => principal.isSystemAdmin
  | .group => principal.isInGroup grants
  | .globalRole => principal.isInRole grants
  | .anyone => grants.any (·.isOpen)
  | .legacyAdmin | .directUser | .projectRole => false

private theorem resolve_eq : principal.resolve grants =
    .first (GrantSource.inInstallation.map fun source => (source, principal.holds grants source)) :=
  rfl

variable {principal grants}

private theorem mem_inInstallation_of_holds {source : GrantSource}
    (held : principal.holds grants source = true) : source ∈ GrantSource.inInstallation := by
  cases source with
  | legacyAdmin | directUser | projectRole => cases held
  | _ => decide

/-- A principal is granted what one of the sources gives. -/
private theorem resolve_granted_iff : (∃ source, principal.resolve grants = .granted source) ↔
    ∃ source, principal.holds grants source = true := by
  rw [← Decision.isGranted_iff, resolve_eq, Decision.isGranted_first, List.any_map,
    List.any_eq_true]
  constructor
  · rintro ⟨source, -, held⟩
    exact ⟨source, held⟩
  · rintro ⟨source, held⟩
    exact ⟨source, mem_inInstallation_of_holds held, held⟩

private theorem resolve_of_systemAdmin (admin : principal.isSystemAdmin = true) :
    principal.resolve grants = .granted .systemAdmin := by
  rw [resolve_eq, Decision.first_eq_granted_iff]
  exact ⟨[], _, rfl, admin, List.forall_mem_nil _⟩

/-- The role is named, although the group precedes it. -/
private theorem resolve_of_role_and_group (ordinary : principal.isSystemAdmin = false)
    (inRole : principal.isInRole grants = true) :
    principal.resolve grants = .granted .globalRole := by
  rw [resolve_eq, Decision.first_eq_granted_iff]
  refine ⟨[.systemAdmin], _, rfl, inRole, ?_⟩
  intro other before
  rw [List.mem_singleton.1 before]
  exact ordinary

/-- A source that does not hold may stand out of order. -/
private theorem ascending_of_not_holds {idle : GrantSource}
    (absent : principal.holds grants idle = false)
    (ascending : (GrantSource.inInstallation.filter (· ≠ idle)).Pairwise GrantSource.Precedes) :
    (GrantSource.inInstallation.filter (principal.holds grants)).Pairwise
      GrantSource.Precedes := by
  have passed : GrantSource.inInstallation.filter (principal.holds grants) =
      (GrantSource.inInstallation.filter (· ≠ idle)).filter (principal.holds grants) := by
    rw [List.filter_filter]
    refine List.filter_congr fun source _ => ?_
    by_cases same : source = idle
    · rw [same, absent, Bool.false_and]
    · simp [same]
  rw [passed]
  exact ascending.filter _

/-- Only a group behind a role stands out of order. -/
private theorem ascending_of_not_both
    (single : ¬ (principal.isInRole grants = true ∧ principal.isInGroup grants = true)) :
    (GrantSource.inInstallation.filter (principal.holds grants)).Pairwise
      GrantSource.Precedes := by
  by_cases inRole : principal.isInRole grants = true
  · have noGroup : principal.holds grants .group = false :=
      Bool.eq_false_iff.2 fun inGroup => single ⟨inRole, inGroup⟩
    exact ascending_of_not_holds noGroup (by decide)
  · have noRole : principal.holds grants .globalRole = false := Bool.eq_false_iff.2 inRole
    exact ascending_of_not_holds noRole (by decide)

end GlobalPrincipal

/-- A principal is granted a global permission when one of its sources holds. The least that holds
is named in every project, and for global permissions of all principals but those who are no system
administrators and are reached both through a global role and through a group. For these the role
is named, although the group is the least. -/
theorem least_source_named_iff (principal : GlobalPrincipal) (grants : List GlobalGrant) :
    ((∃ source, principal.resolve grants = .granted source) ↔
      ∃ source, principal.holds grants source = true) ∧
    ((∀ source, principal.resolve grants = .granted source →
        GrantSource.IsLeast (principal.holds grants) source) ↔
      ¬ (principal.isSystemAdmin = false ∧ principal.isInRole grants = true ∧
        principal.isInGroup grants = true)) ∧
    (principal.isSystemAdmin = false → principal.isInRole grants = true →
      principal.isInGroup grants = true → principal.resolve grants = .granted .globalRole ∧
        GrantSource.IsLeast (principal.holds grants) .group) ∧
    ∀ (member : ProjectPrincipal) (grantees : List Grantee) (source : GrantSource),
      member.resolve grantees = .granted source →
        GrantSource.IsLeast (member.holds grantees) source := by
  refine ⟨GlobalPrincipal.resolve_granted_iff, ⟨?_, ?_⟩, ?_, ?_⟩
  · rintro least ⟨ordinary, inRole, inGroup⟩
    have named := GlobalPrincipal.resolve_of_role_and_group ordinary inRole
    have misplaced := (least .globalRole named).2 .group inGroup
    revert misplaced
    decide
  · intro single source granted
    by_cases admin : principal.isSystemAdmin = true
    · rw [GlobalPrincipal.resolve_of_systemAdmin admin] at granted
      cases granted
      exact ⟨admin, fun other _ => other.systemAdmin_precedes⟩
    · refine Decision.first_isLeast (fun _ => GlobalPrincipal.mem_inInstallation_of_holds)
        (GlobalPrincipal.ascending_of_not_both ?_) granted
      rintro ⟨inRole, inGroup⟩
      exact single ⟨Bool.eq_false_iff.2 admin, inRole, inGroup⟩
  · intro ordinary inRole inGroup
    refine ⟨GlobalPrincipal.resolve_of_role_and_group ordinary inRole, inGroup, ?_⟩
    intro other held
    cases other with
    | systemAdmin => cases held.symm.trans ordinary
    | legacyAdmin | directUser | projectRole => cases held
    | group => exact .inl rfl
    | globalRole | anyone => exact .inr (by decide)
  · intro member grantees source granted
    exact ProjectPrincipal.isLeast_of_resolve granted

namespace Sample

/-- A user with a global role, in a group. -/
def operator : GlobalPrincipal :=
  { userId := ⟨"u"⟩, globalRoles := [⟨"admins"⟩], groups := [⟨"ops"⟩] }

/-- One permission is granted to the role and to the group. -/
def doubleGrants : List GlobalGrant :=
  [⟨⟨"GG1"⟩, .createProjects, some ⟨"admins"⟩, none, ⟨0, 0⟩⟩,
    ⟨⟨"GG2"⟩, .createProjects, none, some ⟨"ops"⟩, ⟨0, 0⟩⟩]

end Sample

/-- The role is named although the group holds and precedes it. -/
theorem role_named_before_group :
    Sample.operator.resolve Sample.doubleGrants = .granted .globalRole ∧
      Sample.operator.holds Sample.doubleGrants .group = true ∧
      GrantSource.group.Precedes .globalRole ∧
      ¬ GrantSource.IsLeast (Sample.operator.holds Sample.doubleGrants) .globalRole := by
  refine ⟨by decide, by decide, by decide, ?_⟩
  rintro ⟨-, least⟩
  have misplaced := least .group (by decide)
  revert misplaced
  decide

end IssueFlow
