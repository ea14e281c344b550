import IssueFlow.Proofs.NaturalKeys
import IssueFlow.Proofs.PermissionMeaning

/-!
# Holders of project roles

Whether a user holds a role in a project is asked in three ways: for one role, for the keys of all
roles, and for the roles themselves. The three go by the same rows (`Membership.IsActor`). The first
stops early, and the third looks each role up; that it misses none rests on the actors, those who
are to be copied into projects included, having roles that are there (`Membership.Assigned`).
-/

namespace IssueFlow

namespace Membership

/-- A user or a group is an actor of the role in the project. -/
def IsActor (t : Membership) (project : ProjectId) (role : RoleId) (actor : Actor) : Prop :=
  ∃ row ∈ t.actors, row.seat = (project, role, actor)

/-- All actors and all default actors are of roles that are there. -/
structure Assigned (t : Membership) : Prop where
  actor : ∀ row ∈ t.actors, t.roles.contains row.roleId = true
  default : ∀ row ∈ t.defaults, t.roles.contains row.roleId = true

private theorem assigned_empty : Assigned {} :=
  ⟨List.forall_mem_nil _, List.forall_mem_nil _⟩

/-- Default actors have roles, and so do their copies. -/
private theorem Assigned.copyDefaults {t : Membership} (assigned : t.Assigned) (project : ProjectId)
    (now : Timestamp) :
    ∀ row ∈ t.actors ++ t.missingDefaults project now, t.roles.contains row.roleId = true := by
  intro row listed
  rcases List.mem_append.1 listed with stored | copied
  · exact assigned.actor row stored
  · obtain ⟨d, missing, rfl⟩ := List.mem_map.1 copied
    exact assigned.default d (List.mem_filter.1 missing).1

private theorem Assigned.apply {now : Timestamp} {t after : Membership} (assigned : t.Assigned)
    {op : Membership.Operation} {answer : Answer}
    (done : (op.apply now).run t = (.ok answer, after)) :
    after.Assigned := by
  cases op <;> rw [Operation.apply, answering_eq_ok_iff] at done <;> obtain ⟨said, made, -⟩ := done
  case createRole role =>
    obtain ⟨-, made⟩ := require_bind_eq_ok_iff.1 (looked made)
    cases made
    exact {
      actor := fun row stored => Table.contains_put.2 (.inr (assigned.actor row stored))
      default := fun row stored => Table.contains_put.2 (.inr (assigned.default row stored)) }
  case addActor project role actor =>
    obtain ⟨owned, made⟩ := require_bind_eq_ok_iff.1 (looked made)
    split at made
    · cases made
      exact assigned
    · cases made
      exact { assigned with
        actor := List.forall_mem_append.2 ⟨assigned.actor, List.forall_mem_singleton.2 owned⟩ }
  case addDefault role actor =>
    obtain ⟨owned, made⟩ := require_bind_eq_ok_iff.1 (looked made)
    split at made
    · cases made
      exact assigned
    · cases made
      exact { assigned with
        default := List.forall_mem_append.2 ⟨assigned.default, List.forall_mem_singleton.2 owned⟩ }
  case removeActor project role actor =>
    cases made
    exact { assigned with actor := fun row kept => assigned.actor row (List.mem_filter.1 kept).1 }
  case removeDefault role actor =>
    cases made
    exact { assigned with
      default := fun row kept => assigned.default row (List.mem_filter.1 kept).1 }
  case copyDefaults project =>
    cases made
    exact { assigned with actor := assigned.copyDefaults project now }
  case createGlobalRole | addGlobalMember =>
    obtain ⟨-, made⟩ := require_bind_eq_ok_iff.1 (looked made)
    cases made
    exact { assigned with }
  case removeGlobalMember =>
    cases made
    exact { assigned with }

end Membership

theorem Store.Reachable.assigned {store : Store} (reached : store.Reachable) :
    store.tables.membership.Assigned := by
  have stepped : ∀ (store : Store) (step : Step), store.tables.membership.Assigned →
      (store.step step).tables.membership.Assigned := by
    intro store step assigned
    rcases step_cases store step with same | ⟨op, answer, -, done⟩
    · rwa [same]
    · rcases Tables.Operation.membership_cases done with same | ⟨inner, -, applied⟩
      · rwa [same]
      · exact assigned.apply applied
  exact Leads.preserves stepped reached Membership.assigned_empty

section Holding

variable {t : Tables} {project : ProjectId} {role : RoleId} {user : UserId}

/-- A role is held by its actors, and by the members of the groups among them. -/
private theorem holdsRole_iff_isActor : t.HoldsRole project role user ↔
    t.membership.IsActor project role (.user user) ∨
      ∃ group, t.membership.IsActor project role (.group group) ∧ t.IsMember user group := by
  constructor
  · rintro ⟨row, stored, rfl, rfl, stands⟩
    cases named : row.actor with
    | user id =>
      rw [named] at stands
      have same : id = user := stands
      subst same
      exact .inl ⟨row, stored, by rw [RoleActor.seat, named]⟩
    | group id =>
      rw [named] at stands
      exact .inr ⟨id, ⟨row, stored, by rw [RoleActor.seat, named]⟩, stands⟩
  · rintro (⟨⟨_, _, _, _⟩, stored, seat⟩ | ⟨group, ⟨⟨_, _, _, _⟩, stored, seat⟩, member⟩)
    · cases seat
      exact ⟨_, stored, rfl, rfl, rfl⟩
    · cases seat
      exact ⟨_, stored, rfl, rfl, member⟩

private theorem Membership.Assigned.contains_of_holdsRole (assigned : t.membership.Assigned)
    (holds : t.HoldsRole project role user) : t.membership.roles.contains role = true := by
  obtain ⟨row, stored, -, rfl, -⟩ := holds
  exact assigned.actor row stored

end Holding

namespace Query

variable {ε α β : Type} [OfStorage ε]

/-- A query ends at its first reading while the store is out of reach. -/
theorem look_bind_run_of_unavailable {store : Store} (unavailable : store.unavailable = true)
    (f : Tables → α) (next : α → Query ε β) :
    (look f >>= next).run store = .error (OfStorage.ofStorage .outage) := by
  rw [run_bind, run_look, Store.read, if_pos unavailable]
  rfl

end Query

section Roles

variable {store : Store}

private theorem storedRoles_run (available : store.unavailable = false) (ids : List RoleId) :
    (RoleHolding.storedRoles ids).run store =
      .ok (ids.filterMap store.tables.membership.roles.get?) := by
  induction ids with
  | nil => rfl
  | cons id ids ih =>
    rw [RoleHolding.storedRoles, Query.bind_run_of_ok (Query.look_run available _),
      Query.bind_run_of_ok ih, Query.run_pure, List.filterMap_cons]
    cases store.tables.membership.roles.get? id <;> rfl

/-- Rows under distinct keys are distinct. -/
private theorem nodup_filterMap_get? {α κ : Type} [Keyed α κ] [DecidableEq κ] (table : Table α)
    {keys : List κ} (distinct : keys.Nodup) : (keys.filterMap table.get?).Nodup := by
  refine distinct.filterMap ?_
  intro first second row found foundToo
  rw [← Table.key_of_get? found, ← Table.key_of_get? foundToo]

/-- The roles of a user in a project are those that the user holds, in strictly ascending order of
their names. -/
private theorem projectRolesForUser_run (keys : store.tables.membership.NaturalKeys)
    (available : store.unavailable = false) (project : ProjectId) (user : UserId) :
    ∃ roles, (RoleHolding.projectRolesForUser project user).run store = .ok roles ∧
      (∀ row, row ∈ roles ↔ row ∈ store.tables.membership.roles.rows ∧
        store.tables.HoldsRole project row.id user) ∧
      roles.Pairwise fun a b => a.name < b.name := by
  rw [RoleHolding.projectRolesForUser, Query.bind_run_of_ok (Query.look_run available _),
    Query.bind_run_of_ok (roleIdsForUser_run available ..),
    Query.bind_run_of_ok (storedRoles_run available _)]
  have found : ∀ row, row ∈ (sortedSet (((store.tables.membership.projectActors project).filter
      (·.actor.isMatchedBy user (store.tables.accounts.groupsOf user))).map
        (·.roleId))).filterMap store.tables.membership.roles.get? ↔
      row ∈ store.tables.membership.roles.rows ∧ store.tables.HoldsRole project row.id user := by
    intro row
    rw [List.mem_filterMap]
    constructor
    · rintro ⟨id, held, looked⟩
      have same : row.id = id := Table.key_of_get? looked
      subst same
      exact ⟨Table.mem_of_get? looked, mem_roles_iff.1 held⟩
    · rintro ⟨stored, holds⟩
      exact ⟨row.id, mem_roles_iff.2 holds, Table.get?_of_mem stored⟩
  refine ⟨_, rfl, fun row => mem_sortBy.trans (found row), ?_⟩
  have transitive : Std.TransCmp fun a b : ProjectRole => compare a.name b.name :=
    inferInstanceAs (Std.TransCmp (compareOn ProjectRole.name))
  refine (pairwise_lt_sortBy ?_).imp text_lt_of_compare
  refine (nodup_filterMap_get? _ (nodup_sortedSet _)).imp_of_mem ?_
  intro a b first second differ same
  have named := Std.LawfulEqCmp.eq_of_compare same
  exact differ (Table.nodup_map_iff.1 keys.roleName a ((found a).1 first).1 b
    ((found b).1 second).1 named)

end Roles

/-- In a reachable store the three questions agree. A user is in a role of a project as an actor of
it there or as a member of a group that is one; just then the key of the role is among those of the
user's roles, and the stored role among the roles listed, which are there once each in strictly
ascending order of their names. While the store is out of reach no question is answered. -/
theorem role_questions_agree {store : Store} (reached : store.Reachable) (project : ProjectId)
    (role : RoleId) (user : UserId) :
    (store.unavailable = true →
      (RoleHolding.isUserInRole project role user).run store = .error (.resolution .outage) ∧
      (∀ groups, (RoleHolding.roleIdsForUser project user groups).run store =
        .error (.resolution .outage)) ∧
      (RoleHolding.projectRolesForUser project user).run store =
        .error (.resolution .outage)) ∧
    (store.unavailable = false → ∃ held ids roles,
      (RoleHolding.isUserInRole project role user).run store = .ok held ∧
      (RoleHolding.roleIdsForUser project user (store.tables.accounts.groupsOf user)).run store =
        .ok ids ∧
      (RoleHolding.projectRolesForUser project user).run store = .ok roles ∧
      (held = true ↔ store.tables.membership.IsActor project role (.user user) ∨
        ∃ group, store.tables.membership.IsActor project role (.group group) ∧
          store.tables.IsMember user group) ∧
      (held = true ↔ role ∈ ids) ∧
      (held = true ↔ ∃ row, store.tables.membership.roles.get? role = some row ∧ row ∈ roles) ∧
      roles.Nodup ∧ roles.Pairwise fun a b => a.name < b.name) := by
  refine ⟨?_, ?_⟩
  · intro unavailable
    refine ⟨?_, ?_, ?_⟩
    · exact Query.look_bind_run_of_unavailable unavailable _ _
    · exact fun groups => Query.look_bind_run_of_unavailable unavailable _ _
    · exact Query.look_bind_run_of_unavailable unavailable _ _
  · intro available
    obtain ⟨held, answered, meaning⟩ := isUserInRole_run available project role user
    obtain ⟨roles, listed, mem_roles, ascending⟩ :=
      projectRolesForUser_run reached.naturalKeys.membership available project user
    refine ⟨held, _, roles, answered, roleIdsForUser_run available .., listed, ?_, ?_, ?_, ?_,
      ascending⟩
    · exact meaning.trans holdsRole_iff_isActor
    · exact meaning.trans mem_roles_iff.symm
    · rw [meaning]
      constructor
      · intro holds
        obtain ⟨row, stored, rfl⟩ :=
          Table.contains_iff.1 (reached.assigned.contains_of_holdsRole holds)
        exact ⟨row, Table.get?_of_mem stored, (mem_roles row).2 ⟨stored, holds⟩⟩
      · rintro ⟨row, looked, member⟩
        have same : row.id = role := Table.key_of_get? looked
        exact same ▸ ((mem_roles row).1 member).2
    · refine ascending.imp ?_
      intro a b before same
      rw [same] at before
      exact absurd before (String.lt_irrefl b.name)

/-- Of three roles a user holds one as a member of a group and one in person, the latter added
last but first by name. -/
def Sample.casting : Store :=
  Sample.store.after [
    .operation (.onAccounts (.putUser ⟨⟨"bob"⟩, "bob", "Bob", true, true, ⟨0, 0⟩⟩)),
    .operation (.onAccounts (.createGroup ⟨⟨"G"⟩, "guests", none, ⟨0, 0⟩⟩)),
    .operation (.onAccounts (.addMember ⟨"G"⟩ ⟨"bob"⟩)),
    .operation (.onMembership (.createRole ⟨⟨"R1"⟩, "Writers", none, ⟨0, 0⟩⟩)),
    .operation (.onMembership (.createRole ⟨⟨"R2"⟩, "Editors", none, ⟨0, 0⟩⟩)),
    .operation (.onMembership (.createRole ⟨⟨"R3"⟩, "Readers", none, ⟨0, 0⟩⟩)),
    .operation (.onMembership (.addActor ⟨"P1"⟩ ⟨"R1"⟩ (.group ⟨"G"⟩))),
    .operation (.onMembership (.addActor ⟨"P1"⟩ ⟨"R2"⟩ (.user ⟨"bob"⟩))),
    .operation (.onMembership (.addActor ⟨"P1"⟩ ⟨"R3"⟩ (.user ⟨"alice"⟩)))]

/-- The two roles of the user are listed, and not the third. -/
theorem sample_role_questions :
    Sample.casting.Reachable ∧ Sample.casting.unavailable = false ∧ ∃ roles,
      (RoleHolding.projectRolesForUser ⟨"P1"⟩ ⟨"bob"⟩).run Sample.casting = .ok roles ∧
      ⟨⟨"R1"⟩, "Writers", none, ⟨0, 0⟩⟩ ∈ roles ∧ ⟨⟨"R2"⟩, "Editors", none, ⟨0, 0⟩⟩ ∈ roles ∧
      ⟨⟨"R3"⟩, "Readers", none, ⟨0, 0⟩⟩ ∉ roles ∧ roles.Pairwise fun a b => a.name < b.name := by
  have reached : Sample.casting.Reachable :=
    IsTrans.trans (r := Store.Leads) _ _ _ ⟨Sample.steps, rfl⟩ ⟨_, rfl⟩
  have available : Sample.casting.unavailable = false := by decide +kernel
  have agree : ∀ row answer, Sample.casting.tables.membership.roles.get? row.id = some row →
      ((RoleHolding.isUserInRole ⟨"P1"⟩ row.id ⟨"bob"⟩).run Sample.casting).toOption =
        some answer → ∃ roles,
      (RoleHolding.projectRolesForUser ⟨"P1"⟩ ⟨"bob"⟩).run Sample.casting = .ok roles ∧
      (answer = true ↔ row ∈ roles) ∧ roles.Pairwise fun a b => a.name < b.name := by
    intro row answer stored answers
    obtain ⟨held, -, roles, asked, -, listed, -, -, among, -, ascending⟩ :=
      (role_questions_agree reached ⟨"P1"⟩ row.id ⟨"bob"⟩).2 available
    rw [asked] at answers
    cases Option.some.inj answers
    refine ⟨roles, listed, among.trans ?_, ascending⟩
    simp only [stored, Option.some.injEq, exists_eq_left']
  obtain ⟨roles, listed, first, ascending⟩ :=
    agree ⟨⟨"R1"⟩, "Writers", none, ⟨0, 0⟩⟩ true (by decide +kernel) (by decide +kernel)
  obtain ⟨_, listed₂, second, -⟩ :=
    agree ⟨⟨"R2"⟩, "Editors", none, ⟨0, 0⟩⟩ true (by decide +kernel) (by decide +kernel)
  obtain ⟨_, listed₃, third, -⟩ :=
    agree ⟨⟨"R3"⟩, "Readers", none, ⟨0, 0⟩⟩ false (by decide +kernel) (by decide +kernel)
  cases listed.symm.trans listed₂
  cases listed.symm.trans listed₃
  exact ⟨reached, available, roles, listed, first.1 rfl, second.1 rfl,
    fun other => Bool.false_ne_true (third.2 other), ascending⟩

end IssueFlow
