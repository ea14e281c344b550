import IssueFlow.Proofs.PermissionMeaning
import IssueFlow.Proofs.Reachable
import IssueFlow.Proofs.TableLaws

/-!
# Global roles

What the operations of the store do to the global roles and their members (`Membership.Changes`),
and that every member belongs to a role that is there. Nobody becomes a system administrator but by
joining the role of that kind, or when that role is created under the key of a role that the user
is a member of.
-/

namespace IssueFlow

namespace Membership

/-- How an operation changes the global roles and their members. -/
inductive Changes (t after : Membership) : Membership.Operation → Prop where
  | kept (op : Membership.Operation) (roles : after.globalRoles = t.globalRoles)
      (members : after.globalMembers = t.globalMembers) : Changes t after op
  | created (role : GlobalRole) (apart : ∀ other ∈ t.globalRoles.rows, other.kind ≠ role.kind)
      (roles : after.globalRoles = t.globalRoles.put role)
      (members : after.globalMembers = t.globalMembers) : Changes t after (.createGlobalRole role)
  | joined (role : GlobalRoleId) (user : UserId) (stored : t.globalRoles.contains role = true)
      (roles : after.globalRoles = t.globalRoles)
      (members : after.globalMembers = t.globalMembers.put (role, user)) :
      Changes t after (.addGlobalMember role user)
  | left (role : GlobalRoleId) (user : UserId) (roles : after.globalRoles = t.globalRoles)
      (members : after.globalMembers = t.globalMembers.erase (role, user)) :
      Changes t after (.removeGlobalMember role user)

theorem changes_of_apply {now : Timestamp} {op : Membership.Operation} {t after : Membership}
    {answer : Answer} (done : (op.apply now).run t = (.ok answer, after)) : t.Changes after op := by
  cases op <;> rw [Operation.apply, answering_eq_ok_iff] at done <;> obtain ⟨said, made, -⟩ := done
  case createRole role =>
    obtain ⟨-, made⟩ := require_bind_eq_ok_iff.1 (looked made)
    cases made
    exact .kept _ rfl rfl
  case addActor project role actor =>
    obtain ⟨-, made⟩ := require_bind_eq_ok_iff.1 (looked made)
    split at made <;> cases made <;> exact .kept _ rfl rfl
  case addDefault role actor =>
    obtain ⟨-, made⟩ := require_bind_eq_ok_iff.1 (looked made)
    split at made <;> cases made <;> exact .kept _ rfl rfl
  case removeActor | removeDefault | copyDefaults =>
    cases made
    exact .kept _ rfl rfl
  case createGlobalRole role =>
    obtain ⟨apart, made⟩ := require_bind_eq_ok_iff.1 (looked made)
    cases made
    exact .created role (by simpa using apart) rfl rfl
  case addGlobalMember role user =>
    obtain ⟨stored, made⟩ := require_bind_eq_ok_iff.1 (looked made)
    cases made
    exact .joined role user stored rfl rfl
  case removeGlobalMember role user =>
    cases made
    exact .left role user rfl rfl

/-- Every member of a global role belongs to a role that is there. -/
def Rostered (t : Membership) : Prop :=
  ∀ member ∈ t.globalMembers.rows, t.globalRoles.contains member.1 = true

private theorem rostered_empty : Rostered {} :=
  List.forall_mem_nil _

theorem rostered_of_changes {t after : Membership} {op : Membership.Operation}
    (changes : t.Changes after op) (rostered : t.Rostered) : after.Rostered := by
  intro member listed
  cases changes with
  | kept op roles members =>
    rw [roles]
    exact rostered member (members ▸ listed)
  | created role apart roles members =>
    rw [roles, Table.contains_put]
    exact .inr (rostered member (members ▸ listed))
  | joined role user stored roles members =>
    rw [roles]
    rw [members, Table.mem_put] at listed
    rcases listed with rfl | ⟨earlier, -⟩
    · exact stored
    · exact rostered member earlier
  | left role user roles members =>
    rw [roles]
    rw [members, Table.mem_erase] at listed
    exact rostered member listed.1

end Membership

/-- In a reachable store every member of a global role belongs to a role that is there. -/
theorem Store.Reachable.rostered {store : Store} (reached : store.Reachable) :
    store.tables.membership.Rostered := by
  have step_keeps : ∀ (store : Store) (step : Store.Step),
      store.tables.membership.Rostered → (store.step step).tables.membership.Rostered := by
    intro store step rostered
    rcases Store.step_cases store step with same | ⟨op, answer, -, done⟩
    · rw [same]
      exact rostered
    · rcases Tables.Operation.membership_cases done with same | ⟨inner, -, applied⟩
      · rw [same]
        exact rostered
      · exact Membership.rostered_of_changes (Membership.changes_of_apply applied) rostered
  exact Store.Leads.preserves step_keeps reached Membership.rostered_empty

section Becoming

variable {t after : Tables} {user : UserId}

/-- A user who becomes a system administrator has joined the role, or was a member of the role whose
key it was created under. -/
theorem systemAdmin_cases {op : Membership.Operation}
    (changes : t.membership.Changes after.membership op) (before : ¬ t.IsSystemAdmin user)
    (becomes : after.IsSystemAdmin user) :
    (∃ role ∈ t.membership.globalRoles.rows, role.kind = .systemAdmin ∧
      op = .addGlobalMember role.id user) ∨
    ∃ role : GlobalRole, role.kind = .systemAdmin ∧
      (∀ other ∈ t.membership.globalRoles.rows, other.kind ≠ role.kind) ∧
      (role.id, user) ∈ t.membership.globalMembers.rows ∧ op = .createGlobalRole role := by
  obtain ⟨held, listed, kind, member⟩ := becomes
  cases changes with
  | kept op roles members =>
    rw [roles] at listed
    rw [members] at member
    exact absurd ⟨held, listed, kind, member⟩ before
  | created role apart roles members =>
    rw [roles, Table.mem_put] at listed
    rw [members] at member
    rcases listed with rfl | ⟨earlier, -⟩
    · exact .inr ⟨held, kind, apart, member, rfl⟩
    · exact absurd ⟨held, earlier, kind, member⟩ before
  | joined role joiner stored roles members =>
    rw [roles] at listed
    rw [members, Table.mem_put] at member
    rcases member with new | ⟨earlier, -⟩
    · cases new
      exact .inl ⟨held, listed, kind, rfl⟩
    · exact absurd ⟨held, listed, kind, earlier⟩ before
  | left role leaver roles members =>
    rw [roles] at listed
    rw [members, Table.mem_erase] at member
    exact absurd ⟨held, listed, kind, member.1⟩ before

end Becoming

end IssueFlow
