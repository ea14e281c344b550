import IssueFlow.Proofs.Creation
import IssueFlow.Proofs.GraphIntegrity

/-!
# Natural keys

Beside the identifiers of its rows, each table has something else that tells its rows apart: a name,
a key, or the columns that say what the row is about. Every operation keeps these distinct
(`Tables.NaturalKeys`), so that a look-up by such a key answers all rows that fit, of which there is
at most one.
-/

namespace IssueFlow

/-- No two groups have one name. -/
def Accounts.NaturalKeys (t : Accounts) : Prop :=
  (t.groups.rows.map (·.name)).Nodup

/-- No two projects have one key. -/
def Projects.NaturalKeys (t : Projects) : Prop :=
  (t.rows.map (·.key)).Nodup

theorem Accounts.NaturalKeys.apply {t after : Accounts} (keys : t.NaturalKeys)
    {op : Accounts.Operation} {answer : Answer} (done : op.apply.run t = (.ok answer, after)) :
    after.NaturalKeys := by
  cases op <;> rw [Operation.apply, answering_eq_ok_iff] at done <;> obtain ⟨said, made, -⟩ := done
  case createGroup group =>
    obtain ⟨fresh, made⟩ := require_bind_eq_ok_iff.1 (looked made)
    obtain ⟨-, made⟩ := require_bind_eq_ok_iff.1 made
    cases made
    exact Table.nodup_map_put_of_fresh keys (by simpa using fresh)
  case addMember group user =>
    obtain ⟨-, made⟩ := require_bind_eq_ok_iff.1 (looked made)
    cases made
    exact keys
  case putUser | removeMember =>
    cases made
    exact keys

private theorem Projects.NaturalKeys.alter {t after : Projects} (keys : t.NaturalKeys)
    {id : ProjectId} {change : Project → Project}
    (named : ∀ project, (change project).key = project.key) {u : Unit}
    (done : (Projects.alter id change).run t = (.ok u, after)) : after.NaturalKeys := by
  replace done := looked done
  split at done
  · next project found =>
    cases done
    obtain ⟨stored, same⟩ := Table.get?_eq_some_iff.1 found
    refine Table.nodup_map_put keys fun other member agrees => ?_
    have agrees : other.key = project.key := agrees.trans (named project)
    rw [Table.nodup_map_iff.1 keys other member project stored agrees]
    exact same
  · cases done

theorem Projects.NaturalKeys.apply {t after : Projects} (keys : t.NaturalKeys)
    {op : Projects.Operation} {answer : Answer} (done : op.apply.run t = (.ok answer, after)) :
    after.NaturalKeys := by
  cases op <;> rw [Operation.apply, answering_eq_ok_iff] at done <;> obtain ⟨said, made, -⟩ := done
  case create project =>
    obtain ⟨-, made⟩ := require_bind_eq_ok_iff.1 (looked made)
    obtain ⟨fresh, made⟩ := require_bind_eq_ok_iff.1 made
    cases made
    exact Table.nodup_map_put_of_fresh keys (by simpa using fresh)
  case setPermissionScheme id scheme =>
    rw [setPermissionScheme] at made
    refine keys.alter ?_ made
    exact fun _ => rfl
  case setWorkflowScheme id scheme =>
    rw [setWorkflowScheme] at made
    refine keys.alter ?_ made
    exact fun _ => rfl

/-- What a grant says, without the row that says it. -/
def SchemeGrant.fact (grant : SchemeGrant) : PermissionSchemeId × Permission × Grantee :=
  (grant.schemeId, grant.permission, grant.grantee)

def GlobalGrant.fact (grant : GlobalGrant) :
    GlobalPermission × Option GlobalRoleId × Option GroupId :=
  (grant.permission, grant.globalRoleId, grant.groupId)

theorem SchemeGrant.isFor_iff {grant : SchemeGrant} {scheme : PermissionSchemeId}
    {permission : Permission} {grantee : Grantee} :
    grant.isFor scheme permission grantee = true ↔ grant.fact = (scheme, permission, grantee) := by
  simp [isFor, fact, and_assoc]

theorem GlobalGrant.isFor_iff {grant : GlobalGrant} {permission : GlobalPermission}
    {role : Option GlobalRoleId} {group : Option GroupId} :
    grant.isFor permission role group = true ↔ grant.fact = (permission, role, group) := by
  simp [isFor, fact, and_assoc]

/-- No two schemes have one name, at most one is the default, and nothing is granted twice. -/
structure Grants.NaturalKeys (t : Grants) : Prop where
  schemeName : (t.schemes.rows.map (·.name)).Nodup
  default : (t.schemes.rows.filter (·.isDefault)).length ≤ 1
  grant : (t.grants.map SchemeGrant.fact).Nodup
  globalGrant : (t.globalGrants.map GlobalGrant.fact).Nodup

private theorem Grants.NaturalKeys.createScheme {t after : Grants} (keys : t.NaturalKeys)
    {scheme : PermissionScheme} {u : Unit}
    (done : (Grants.createScheme scheme).run t = (.ok u, after)) : after.NaturalKeys := by
  obtain ⟨unused, done⟩ := require_bind_eq_ok_iff.1 (looked done)
  obtain ⟨fresh, done⟩ := require_bind_eq_ok_iff.1 done
  obtain ⟨sole, done⟩ := require_bind_eq_ok_iff.1 done
  cases done
  refine { keys with schemeName := ?_, default := ?_ }
  · exact Table.nodup_map_put_of_fresh keys.schemeName (by simpa using fresh)
  · have unused : t.schemes.contains scheme.id = false := by simpa using unused
    have gains : t.schemes.Gains scheme (t.schemes.put scheme) := Table.gains_put unused
    show ((t.schemes.put scheme).rows.filter (·.isDefault)).length ≤ 1
    rw [gains.rows, List.filter_append, List.length_append]
    cases byDefault : scheme.isDefault with
    | false => simpa [byDefault] using keys.default
    | true =>
      have none : t.schemes.rows.filter (·.isDefault) = [] := by
        simpa [byDefault, List.filter_eq_nil_iff] using sole
      simp [none, byDefault]

theorem Grants.NaturalKeys.apply {now : Timestamp} {t after : Grants} (keys : t.NaturalKeys)
    {op : Grants.Operation} {answer : Answer} (done : (op.apply now).run t = (.ok answer, after)) :
    after.NaturalKeys := by
  cases op <;> rw [Operation.apply, answering_eq_ok_iff] at done <;> obtain ⟨said, made, -⟩ := done
  case createScheme scheme => exact keys.createScheme made
  case grant scheme permission grantee =>
    obtain ⟨-, made⟩ := require_bind_eq_ok_iff.1 (looked made)
    split at made
    · cases made
      exact keys
    · next absent =>
      cases made
      refine { keys with grant := nodup_map_concat keys.grant fun row stored same => ?_ }
      exact List.find?_eq_none.1 absent row stored (SchemeGrant.isFor_iff.2 same)
  case revoke scheme permission grantee =>
    cases made
    exact { keys with grant := nodup_map_filter _ keys.grant }
  case grantGlobal permission role group =>
    replace made := looked made
    split at made
    · cases made
      exact keys
    · next absent =>
      cases made
      refine { keys with
        globalGrant := nodup_map_concat keys.globalGrant fun row stored same => ?_ }
      exact List.find?_eq_none.1 absent row stored (GlobalGrant.isFor_iff.2 same)
  case revokeGlobal id =>
    cases made
    exact { keys with globalGrant := nodup_map_filter _ keys.globalGrant }

/-- Who holds a role where, without the time since when. -/
def RoleActor.seat (row : RoleActor) : ProjectId × RoleId × Actor :=
  (row.projectId, row.roleId, row.actor)

def DefaultActor.seat (row : DefaultActor) : RoleId × Actor :=
  (row.roleId, row.actor)

theorem RoleActor.isFor_iff {row : RoleActor} {project : ProjectId} {role : RoleId}
    {actor : Actor} : row.isFor project role actor = true ↔ row.seat = (project, role, actor) := by
  simp [isFor, seat, and_assoc]

private theorem DefaultActor.isFor_iff {row : DefaultActor} {role : RoleId} {actor : Actor} :
    row.isFor role actor = true ↔ row.seat = (role, actor) := by
  simp [isFor, seat]

/-- No two roles have one name, no two global roles one kind, and nobody is an actor twice. -/
structure Membership.NaturalKeys (t : Membership) : Prop where
  roleName : (t.roles.rows.map (·.name)).Nodup
  actor : (t.actors.map RoleActor.seat).Nodup
  default : (t.defaults.map DefaultActor.seat).Nodup
  globalRole : (t.globalRoles.rows.map (·.kind)).Nodup

/-- The default actors that a project lacks are new to it, and each is copied once. -/
theorem Membership.NaturalKeys.copyDefaults {t : Membership} (keys : t.NaturalKeys)
    (project : ProjectId) (now : Timestamp) :
    ((t.actors ++ t.missingDefaults project now).map RoleActor.seat).Nodup := by
  rw [List.map_append]
  refine keys.actor.append ?_ ?_
  · rw [missingDefaults, List.map_map]
    have copied : (RoleActor.seat ∘ fun d : DefaultActor =>
        (⟨project, d.roleId, d.actor, now⟩ : RoleActor)) =
          (fun seat => (project, seat)) ∘ DefaultActor.seat := rfl
    rw [copied, ← List.map_map]
    exact (nodup_map_filter _ keys.default).map fun a b same => (Prod.mk.inj same).2
  · intro seat held missing
    obtain ⟨row, stored, rfl⟩ := List.mem_map.1 held
    obtain ⟨copy, lacking, same⟩ := List.mem_map.1 missing
    obtain ⟨d, missed, rfl⟩ := List.mem_map.1 lacking
    have absent : t.hasActor project d.roleId d.actor = false := by
      simpa using (List.mem_filter.1 missed).2
    have there : t.hasActor project d.roleId d.actor = true :=
      List.any_eq_true.2 ⟨row, stored, RoleActor.isFor_iff.2 same.symm⟩
    cases there.symm.trans absent

theorem Membership.NaturalKeys.apply {now : Timestamp} {t after : Membership}
    (keys : t.NaturalKeys) {op : Membership.Operation} {answer : Answer}
    (done : (op.apply now).run t = (.ok answer, after)) : after.NaturalKeys := by
  cases op <;> rw [Operation.apply, answering_eq_ok_iff] at done <;> obtain ⟨said, made, -⟩ := done
  case createRole role =>
    obtain ⟨fresh, made⟩ := require_bind_eq_ok_iff.1 (looked made)
    cases made
    have fresh : ∀ other ∈ t.roles.rows, other.name ≠ role.name := by
      simp only [Bool.not_or, Bool.and_eq_true, Bool.not_eq_true', List.any_eq_false,
        beq_iff_eq] at fresh
      exact fresh.2
    exact { keys with roleName := Table.nodup_map_put_of_fresh keys.roleName fresh }
  case addActor project role actor =>
    obtain ⟨-, made⟩ := require_bind_eq_ok_iff.1 (looked made)
    split at made
    · cases made
      exact keys
    · next absent =>
      cases made
      refine { keys with actor := nodup_map_concat keys.actor fun row stored same => absent ?_ }
      exact List.any_eq_true.2 ⟨row, stored, RoleActor.isFor_iff.2 same⟩
  case removeActor project role actor =>
    cases made
    exact { keys with actor := nodup_map_filter _ keys.actor }
  case addDefault role actor =>
    obtain ⟨-, made⟩ := require_bind_eq_ok_iff.1 (looked made)
    split at made
    · cases made
      exact keys
    · next absent =>
      cases made
      refine { keys with default := nodup_map_concat keys.default fun row stored same => absent ?_ }
      exact List.any_eq_true.2 ⟨row, stored, DefaultActor.isFor_iff.2 same⟩
  case removeDefault role actor =>
    cases made
    exact { keys with default := nodup_map_filter _ keys.default }
  case copyDefaults project =>
    cases made
    exact { keys with actor := keys.copyDefaults project now }
  case createGlobalRole role =>
    obtain ⟨fresh, made⟩ := require_bind_eq_ok_iff.1 (looked made)
    cases made
    exact { keys with
      globalRole := Table.nodup_map_put_of_fresh keys.globalRole (by simpa using fresh) }
  case addGlobalMember role user =>
    obtain ⟨-, made⟩ := require_bind_eq_ok_iff.1 (looked made)
    cases made
    exact { keys with }
  case removeGlobalMember role user =>
    cases made
    exact { keys with }

/-- The fields of all screens are told apart by screen and field. -/
instance : Keyed ScreenField (ScreenId × FieldRef) := ⟨fun row => (row.screenId, row.field)⟩

/-- Transitions and mappings are told apart by what they lead from, and no screen has a field
twice. -/
structure Graph.NaturalKeys (t : Graph) : Prop where
  edge : (t.transitions.rows.map edgeKey).Nodup
  mapping : (t.mappings.map mappingKey).Nodup
  screenField : (t.screenFields.map Keyed.key).Nodup

theorem Graph.putScreenFieldRow_eq (field : ScreenField) (rows : List ScreenField) :
    putScreenFieldRow field rows = Table.putRow field rows := by
  induction rows with
  | nil => rfl
  | cons first rest ih =>
    have same : (first.screenId == field.screenId && first.field == field.field) = true ↔
        Keyed.key first = Keyed.key field := by
      simp [Keyed.key]
    simp only [putScreenFieldRow, Table.putRow, same, ih]

theorem Graph.screenField_of_changes {op : Graph.Operation} {t after : Graph}
    (distinct : (t.screenFields.map Keyed.key).Nodup) (changes : Changes t after op) :
    (after.screenFields.map Keyed.key).Nodup := by
  cases changes with
  | putScreenField field owned =>
    show ((putScreenFieldRow field t.screenFields).map Keyed.key).Nodup
    rw [putScreenFieldRow_eq]
    exact Table.nodup_putRow distinct
  | removedScreenField screen field => exact nodup_map_filter _ distinct
  | _ => exact distinct

theorem Graph.NaturalKeys.apply {t after : Graph} (keys : t.NaturalKeys) {op : Graph.Operation}
    {answer : Answer} (done : op.apply.run t = (.ok answer, after)) : after.NaturalKeys := by
  have changes := changes_of_apply done
  have distinct : t.Distinct := ⟨Table.nodup_map_iff.1 keys.edge, keys.mapping⟩
  have still := distinct_of_changes distinct changes
  exact ⟨Table.nodup_map_iff.2 still.edge, still.mapping,
    screenField_of_changes keys.screenField changes⟩

/-- The natural keys of all tables are distinct. -/
structure Tables.NaturalKeys (t : Tables) : Prop where
  accounts : t.accounts.NaturalKeys
  projects : Projects.NaturalKeys t.projects
  grants : t.grants.NaturalKeys
  membership : t.membership.NaturalKeys
  graph : t.graph.NaturalKeys

private theorem Tables.naturalKeys_empty : Tables.NaturalKeys {} where
  accounts := List.nodup_nil
  projects := List.nodup_nil
  grants := ⟨List.nodup_nil, Nat.zero_le 1, List.nodup_nil, List.nodup_nil⟩
  membership := ⟨List.nodup_nil, List.nodup_nil, List.nodup_nil, List.nodup_nil⟩
  graph := ⟨List.nodup_nil, List.nodup_nil, List.nodup_nil⟩

theorem Tables.NaturalKeys.apply {now : Timestamp} {t after : Tables} (keys : t.NaturalKeys)
    {op : Tables.Operation} {answer : Answer} (done : (op.apply now).run t = (.ok answer, after)) :
    after.NaturalKeys := by
  cases changes_of_apply done with
  | onAccounts applied => exact { keys with accounts := keys.accounts.apply applied }
  | onProjects applied => exact { keys with projects := keys.projects.apply applied }
  | onGrants applied => exact { keys with grants := keys.grants.apply applied }
  | onMembership applied => exact { keys with membership := keys.membership.apply applied }
  | onGraph applied => exact { keys with graph := keys.graph.apply applied }
  | onIssueLog applied => exact { keys with }

theorem Store.Reachable.naturalKeys {store : Store} (reached : store.Reachable) :
    store.tables.NaturalKeys := by
  have stepped : ∀ (store : Store) (step : Step), store.tables.NaturalKeys →
      (store.step step).tables.NaturalKeys := by
    intro store step keys
    rcases step_cases store step with same | ⟨op, answer, -, done⟩
    · rwa [same]
    · exact keys.apply done
  exact Leads.preserves stepped reached Tables.naturalKeys_empty

private theorem Graph.NaturalKeys.toList_edge? {t : Graph} (keys : t.NaturalKeys)
    (workflow : WorkflowId) (source target : StatusId) : (t.edge? workflow source target).toList =
      t.transitions.rows.filter fun e =>
        e.workflowId == workflow && e.fromStatus == source && e.toStatus == target := by
  have fits : ∀ e : Transition,
      (e.workflowId == workflow && e.fromStatus == source && e.toStatus == target) = true →
        edgeKey e = (workflow, source, target) := by
    intro e
    simp [edgeKey, and_assoc]
  exact toList_find? (length_filter_le_one keys.edge fits)

/-- A scheme has at most one mapping for an issue type, and at most one for all others. -/
private theorem Graph.NaturalKeys.sole_mapping {t : Graph} (keys : t.NaturalKeys)
    (scheme : WorkflowSchemeId) (issueType : Option IssueTypeId) :
    ((t.mappingsOf scheme).filter (·.issueTypeId == issueType)).length ≤ 1 := by
  have fits : ∀ m : SchemeMapping, (m.issueTypeId == issueType && m.schemeId == scheme) = true →
      mappingKey m = (scheme, issueType) := by
    intro m fits
    simpa [mappingKey, and_comm] using fits
  rw [mappingsOf, List.filter_filter]
  exact length_filter_le_one keys.mapping fits

/-- The mapping that is selected is the only one for the issue type, or where there is none the only
default. -/
private theorem Graph.NaturalKeys.toList_selectMapping? {t : Graph} (keys : t.NaturalKeys)
    (scheme : WorkflowSchemeId) (issueType : IssueTypeId) :
    (selectMapping? (t.mappingsOf scheme) issueType).toList =
      if (t.mappingsOf scheme).filter (·.issueTypeId == some issueType) = [] then
        (t.mappingsOf scheme).filter (·.isDefault)
      else (t.mappingsOf scheme).filter (·.issueTypeId == some issueType) := by
  have default : (fun m : SchemeMapping => m.isDefault) = fun m => m.issueTypeId == none := by
    funext m
    cases kind : m.issueTypeId <;> simp [SchemeMapping.isDefault, kind]
  have own := toList_find? (keys.sole_mapping scheme (some issueType))
  have others := toList_find? (keys.sole_mapping scheme none)
  rw [selectMapping?, default, ← own, ← others]
  cases (t.mappingsOf scheme).find? (·.issueTypeId == some issueType) with
  | none => rfl
  | some mapping => rfl

/-- In a reachable store natural keys are distinct. So the default scheme, the global role of a
kind, the transition between two statuses and the mapping for an issue type are all the rows that
fit. -/
theorem natural_keys_distinct {store : Store} (reached : store.Reachable) :
    store.tables.NaturalKeys ∧
    store.tables.grants.defaultScheme?.toList =
      store.tables.grants.schemes.rows.filter (·.isDefault) ∧
    (∀ kind, (store.tables.membership.globalRole? kind).toList =
      store.tables.membership.globalRoles.rows.filter (·.kind == kind)) ∧
    (∀ workflow source target, (store.tables.graph.edge? workflow source target).toList =
      store.tables.graph.transitions.rows.filter fun e =>
        e.workflowId == workflow && e.fromStatus == source && e.toStatus == target) ∧
    ∀ scheme issueType,
      (selectMapping? (store.tables.graph.mappingsOf scheme) issueType).toList =
        if (store.tables.graph.mappingsOf scheme).filter
            (·.issueTypeId == some issueType) = [] then
          (store.tables.graph.mappingsOf scheme).filter (·.isDefault)
        else (store.tables.graph.mappingsOf scheme).filter (·.issueTypeId == some issueType) := by
  have keys := reached.naturalKeys
  refine ⟨keys, ?_, ?_, ?_, ?_⟩
  · exact toList_find? keys.grants.default
  · intro kind
    exact toList_find? (length_filter_le_one keys.membership.globalRole fun row => beq_iff_eq.1)
  · exact keys.graph.toList_edge?
  · exact keys.graph.toList_selectMapping?

/-- What the sample store holds is asked for again, and so is a global role. -/
def Sample.repeated : Store :=
  store.after [
    .operation (.onGrants (.createScheme ⟨⟨"PS2"⟩, "more rights", none, true, ⟨0, 0⟩⟩)),
    .operation (.onGrants (.grant ⟨"PS"⟩ .transitionIssues (.user reporter.id))),
    .operation (.onMembership (.createGlobalRole (.ofKind ⟨"staff"⟩ .user))),
    .operation (.onMembership (.createGlobalRole (.ofKind ⟨"people"⟩ .user))),
    .operation (.onGraph (.putTransition ⟨⟨"W"⟩, ⟨"open"⟩, ⟨"done"⟩, "Close", none⟩)),
    .operation (.onGraph (.putMapping ⟨⟨"WS"⟩, none, ⟨"W"⟩⟩))]

/-- Every row of the sample store is there once, the edge under its new name. -/
theorem sample_natural_keys :
    Sample.repeated.Reachable ∧
      Sample.repeated.tables.grants.grants.length = 1 ∧
      (Sample.repeated.tables.grants.grants.map SchemeGrant.fact).Nodup ∧
      (Sample.repeated.tables.grants.schemes.rows.filter (·.isDefault)).map (·.id) = [⟨"PS"⟩] ∧
      Sample.repeated.tables.membership.globalRoles.rows.filter (·.kind == .user) =
        [.ofKind ⟨"staff"⟩ .user] ∧
      (Sample.repeated.tables.graph.transitions.rows.filter fun e =>
        e.workflowId == ⟨"W"⟩ && e.fromStatus == ⟨"open"⟩ && e.toStatus == ⟨"done"⟩) =
          [⟨⟨"T1"⟩, ⟨"W"⟩, ⟨"open"⟩, ⟨"done"⟩, "Close", none⟩] := by
  have reached : Sample.repeated.Reachable :=
    IsTrans.trans (r := Store.Leads) _ _ _ ⟨Sample.steps, rfl⟩ ⟨_, rfl⟩
  obtain ⟨keys, default, role, edge, -⟩ := natural_keys_distinct reached
  refine ⟨reached, by decide +kernel, keys.grants.grant, ?_, ?_, ?_⟩
  · rw [← default]
    decide +kernel
  · rw [← role]
    decide +kernel
  · rw [← edge]
    decide +kernel

end IssueFlow
