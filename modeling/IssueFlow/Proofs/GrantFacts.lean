import IssueFlow.Proofs.NaturalKeys
import Mathlib.Data.List.Induction

/-!
# Grants as facts

The grant tables answer by what they were last told. A call that does not fail is kept with its
answer (`Store.grantCalls`). A row of a scheme is there when the last call about its fact is a grant
that answered it (`Store.mem_grants_iff`), and a global grant when the last call that granted its
fact or revoked its key is one that answered it (`Store.mem_globalGrants_iff`). A call is followed
at one row; that a repeated grant brings in no second row rests on the facts in a table being
distinct, and that a key revokes one fact on the numbers that rows get as keys.
-/

namespace IssueFlow

/-- A call of the grant tables that did not fail. -/
structure GrantCall where
  op : Grants.Operation
  answer : Answer

namespace Grants.Operation

/-- Whether an operation grants or revokes a fact of a scheme. -/
def isAbout (fact : PermissionSchemeId × Permission × Grantee) : Grants.Operation → Bool
  | .grant scheme permission grantee | .revoke scheme permission grantee =>
    fact == (scheme, permission, grantee)
  | .createScheme _ | .grantGlobal .. | .revokeGlobal _ => false

/-- Whether an operation grants the fact of a global grant or revokes its key. -/
def concerns (row : GlobalGrant) : Grants.Operation → Bool
  | .grantGlobal permission role group => row.fact == (permission, role, group)
  | .revokeGlobal id => row.id == id
  | .createScheme _ | .grant .. | .revoke .. => false

end Grants.Operation

/-- The call that answers with a row of a scheme. -/
def SchemeGrant.call (row : SchemeGrant) : GrantCall :=
  ⟨.grant row.schemeId row.permission row.grantee, .grant row⟩

/-- The call that answers with a row of the global grants. -/
def GlobalGrant.call (row : GlobalGrant) : GrantCall :=
  ⟨.grantGlobal row.permission row.globalRoleId row.groupId, .globalGrant row⟩

private theorem SchemeGrant.call_injective {a b : SchemeGrant} (same : a.call = b.call) :
    a = b := by
  cases (congrArg GrantCall.answer same : Answer.grant a = .grant b)
  rfl

private theorem GlobalGrant.call_injective {a b : GlobalGrant} (same : a.call = b.call) :
    a = b := by
  cases (congrArg GrantCall.answer same : Answer.globalGrant a = .globalGrant b)
  rfl

/-- The last of the calls of a kind. -/
def lastCall? (kind : Grants.Operation → Bool) (calls : List GrantCall) : Option GrantCall :=
  (calls.filter fun call => kind call.op).getLast?

private theorem lastCall?_concat (kind : Grants.Operation → Bool) (calls : List GrantCall)
    (call : GrantCall) : lastCall? kind (calls ++ [call]) =
      if kind call.op then some call else lastCall? kind calls := by
  rw [lastCall?, List.filter_append, List.filter_singleton]
  cases kind call.op with
  | true => exact List.getLast?_concat
  | false => rw [cond_false, List.append_nil, if_neg Bool.false_ne_true, lastCall?]

namespace Store

/-- The call of the grant tables that a step makes, unless it fails. -/
def grantCall? (store : Store) : Step → Option GrantCall
  | .operation (.onGrants op) =>
    match (store.update (Tables.onGrants (op.apply store.now))).1 with
    | .ok answer => some ⟨op, answer⟩
    | .error _ => none
  | _ => none

/-- The calls of the grant tables along a run that do not fail, in order. -/
def grantCalls : Store → List Step → List GrantCall
  | _, [] => []
  | store, step :: steps => (store.grantCall? step).toList ++ grantCalls (store.step step) steps

private theorem grantCalls_concat (store : Store) (steps : List Step) (step : Step) :
    store.grantCalls (steps ++ [step]) =
      store.grantCalls steps ++ ((store.after steps).grantCall? step).toList := by
  induction steps generalizing store with
  | nil => exact List.append_nil _
  | cons first steps ih =>
    rw [List.cons_append, grantCalls, ih, grantCalls, List.append_assoc]
    rfl

/-- A step leaves the grant tables, or makes a call that changes them. -/
private theorem grantCall?_cases (store : Store) (step : Step) :
    (store.grantCall? step = none ∧ (store.step step).tables.grants = store.tables.grants) ∨
      ∃ call, store.grantCall? step = some call ∧
        (call.op.apply store.now).run store.tables.grants =
        (.ok call.answer, (store.step step).tables.grants) := by
  cases step with
  | switch | tick => exact .inl ⟨rfl, rfl⟩
  | operation op =>
    rcases store.update_cases (op.failsClean store.now) with
      ⟨e, refused⟩ | ⟨answer, tables, -, done, updated⟩
    · have same : store.step (.operation op) = store := congrArg Prod.snd refused
      refine .inl ⟨?_, by rw [same]⟩
      cases op with
      | onGrants op =>
        have refused : store.update (Tables.onGrants (op.apply store.now)) = _ := refused
        rw [grantCall?, refused]
      | _ => rfl
    · have next : store.step (.operation op) = { store with tables } := congrArg Prod.snd updated
      rw [next]
      cases Tables.changes_of_apply done with
      | onGrants applied =>
        have updated : store.update (Tables.onGrants _) = _ := updated
        exact .inr ⟨⟨_, answer⟩, by rw [grantCall?, updated], applied⟩
      | onAccounts | onProjects | onMembership | onGraph | onIssueLog => exact .inl ⟨rfl, rfl⟩

/-- What a call of some kind decides and all other calls leave is decided along a run by the last
call of that kind. -/
private theorem holds_iff_lastCall {P : Grants → Prop} {kind : Grants.Operation → Bool}
    {maker : GrantCall} (empty : ¬ P {})
    (stepped : ∀ {now : Timestamp} {t after : Grants} {call : GrantCall}, t.NaturalKeys →
      (call.op.apply now).run t = (.ok call.answer, after) →
        (P after ↔ if kind call.op then call = maker else P t)) (steps : List Step) :
    P (({} : Store).after steps).tables.grants ↔
      lastCall? kind (grantCalls {} steps) = some maker := by
  -- The last step comes last in the calls too, so the induction takes it off the end of the run.
  induction steps using List.reverseRecOn with
  | nil => exact iff_of_false empty (by rintro ⟨⟩)
  | append_singleton steps step ih =>
    have keys := (show (({} : Store).after steps).Reachable from ⟨steps, rfl⟩).naturalKeys.grants
    rw [after_append, grantCalls_concat]
    show P ((({} : Store).after steps).step step).tables.grants ↔ _
    rcases (({} : Store).after steps).grantCall?_cases step with
      ⟨silent, same⟩ | ⟨call, made, applied⟩
    · rw [silent, same]
      simpa using ih
    · rw [made, Option.toList_some, lastCall?_concat, stepped keys applied]
      split
      · exact Option.some_inj.symm
      · exact ih

end Store

/-- A row is there and nothing changes, or it is new under its key and is appended. -/
def Brings {α β : Type} (key : α → β) (rows : List α) (made : α) (after : List α) : Prop :=
  (made ∈ rows ∧ after = rows) ∨ (∀ row ∈ rows, key row ≠ key made) ∧ after = rows ++ [made]

section Brings

variable {α β : Type} {key : α → β} {rows after : List α} {made row : α}

/-- Under the key of the row that is brought in stands that row, and nothing else changes. -/
private theorem Brings.mem_iff [DecidableEq β] (brings : Brings key rows made after)
    (distinct : (rows.map key).Nodup) :
    row ∈ after ↔ if key row = key made then row = made else row ∈ rows := by
  rcases brings with ⟨stored, rfl⟩ | ⟨fresh, rfl⟩
  · split
    · next same =>
      constructor
      · intro member
        exact List.inj_on_of_nodup_map distinct member stored same
      · rintro rfl
        exact stored
    · exact Iff.rfl
  · rw [List.mem_append, List.mem_singleton]
    split
    · next same => exact or_iff_right fun member => fresh row member same
    · next differs => exact or_iff_left fun same => differs (congrArg key same)

end Brings

namespace Grants

variable {t after : Grants} {now : Timestamp}

private theorem eq_of_createScheme {scheme : PermissionScheme} {u : Unit}
    (done : (Grants.createScheme scheme).run t = (.ok u, after)) :
    after = { t with schemes := t.schemes.put scheme } := by
  obtain ⟨-, done⟩ := require_bind_eq_ok_iff.1 (looked done)
  obtain ⟨-, done⟩ := require_bind_eq_ok_iff.1 done
  obtain ⟨-, done⟩ := require_bind_eq_ok_iff.1 done
  cases done
  rfl

/-- A grant answers a row with its fact, which is there already or comes in under a new number. -/
private theorem grant_cases {scheme : PermissionSchemeId} {permission : Permission}
    {grantee : Grantee} {made : SchemeGrant}
    (done : (Grants.grant scheme permission grantee now).run t = (.ok made, after)) :
    made.fact = (scheme, permission, grantee) ∧ ((made ∈ t.grants ∧ after = t) ∨
      (∀ row ∈ t.grants, row.fact ≠ made.fact) ∧ made.id.text = "G" ++ toString (t.grantCount + 1) ∧
        after = { t with grants := t.grants ++ [made], grantCount := t.grantCount + 1 }) := by
  obtain ⟨-, done⟩ := require_bind_eq_ok_iff.1 (looked done)
  split at done
  · next existing found =>
    cases done
    have fits := List.find?_some found
    exact ⟨SchemeGrant.isFor_iff.1 fits, .inl ⟨List.mem_of_find?_eq_some found, rfl⟩⟩
  · next absent =>
    cases done
    refine ⟨rfl, .inr ⟨fun row stored same => ?_, rfl, rfl⟩⟩
    exact List.find?_eq_none.1 absent row stored (SchemeGrant.isFor_iff.2 same)

private theorem grantGlobal_cases {permission : GlobalPermission} {role : Option GlobalRoleId}
    {group : Option GroupId} {made : GlobalGrant}
    (done : (Grants.grantGlobal permission role group now).run t = (.ok made, after)) :
    made.fact = (permission, role, group) ∧ ((made ∈ t.globalGrants ∧ after = t) ∨
      (∀ row ∈ t.globalGrants, row.fact ≠ made.fact) ∧
        made.id.text = "GG" ++ toString (t.globalGrantCount + 1) ∧
        after = { t with
          globalGrants := t.globalGrants ++ [made]
          globalGrantCount := t.globalGrantCount + 1 }) := by
  replace done := looked done
  split at done
  · next existing found =>
    cases done
    have fits := List.find?_some found
    exact ⟨GlobalGrant.isFor_iff.1 fits, .inl ⟨List.mem_of_find?_eq_some found, rfl⟩⟩
  · next absent =>
    cases done
    refine ⟨rfl, .inr ⟨fun row stored same => ?_, rfl, rfl⟩⟩
    exact List.find?_eq_none.1 absent row stored (GlobalGrant.isFor_iff.2 same)

/-- What is granted already is answered, and nothing changes. -/
private theorem grant_of_mem (keys : t.NaturalKeys) {row : SchemeGrant} (stored : row ∈ t.grants)
    (there : t.schemes.contains row.schemeId = true) :
    (Grants.grant row.schemeId row.permission row.grantee now).run t = (.ok row, t) := by
  have found : t.grants.find? (·.isFor row.schemeId row.permission row.grantee) = some row :=
    find?_of_mem keys.grant stored fun other => SchemeGrant.isFor_iff
  rw [grant, run_get_bind, there, found]
  rfl

private theorem grantGlobal_of_mem (keys : t.NaturalKeys) {row : GlobalGrant}
    (stored : row ∈ t.globalGrants) :
    (Grants.grantGlobal row.permission row.globalRoleId row.groupId now).run t = (.ok row, t) := by
  have found : t.globalGrants.find? (·.isFor row.permission row.globalRoleId row.groupId) =
      some row := find?_of_mem keys.globalGrant stored fun other => GlobalGrant.isFor_iff
  rw [grantGlobal, run_get_bind, found]
  rfl

private theorem grant_brings {scheme : PermissionSchemeId} {permission : Permission}
    {grantee : Grantee} {made : SchemeGrant}
    (done : (Grants.grant scheme permission grantee now).run t = (.ok made, after)) :
    Brings SchemeGrant.fact t.grants made after.grants ∧ after.globalGrants = t.globalGrants := by
  rcases (grant_cases done).2 with ⟨stored, rfl⟩ | ⟨fresh, -, rfl⟩
  · exact ⟨.inl ⟨stored, rfl⟩, rfl⟩
  · exact ⟨.inr ⟨fresh, rfl⟩, rfl⟩

private theorem grantGlobal_brings {permission : GlobalPermission} {role : Option GlobalRoleId}
    {group : Option GroupId} {made : GlobalGrant}
    (done : (Grants.grantGlobal permission role group now).run t = (.ok made, after)) :
    Brings GlobalGrant.fact t.globalGrants made after.globalGrants ∧ after.grants = t.grants := by
  rcases (grantGlobal_cases done).2 with ⟨stored, rfl⟩ | ⟨fresh, -, rfl⟩
  · exact ⟨.inl ⟨stored, rfl⟩, rfl⟩
  · exact ⟨.inr ⟨fresh, rfl⟩, rfl⟩

private theorem mem_grants_apply (keys : t.NaturalKeys) {call : GrantCall}
    (done : (call.op.apply now).run t = (.ok call.answer, after)) (row : SchemeGrant) :
    row ∈ after.grants ↔
      if call.op.isAbout row.fact then call = row.call else row ∈ t.grants := by
  obtain ⟨op, answer⟩ := call
  cases op <;> rw [Operation.apply, answering_eq_ok_iff] at done <;>
    obtain ⟨said, made, rfl⟩ := done
  case grant scheme permission grantee =>
    obtain ⟨fact, -⟩ := grant_cases made
    obtain ⟨brings, -⟩ := grant_brings made
    cases fact
    have told : row = said ↔ said.call = row.call :=
      ⟨fun same => same ▸ rfl, fun same => (SchemeGrant.call_injective same).symm⟩
    rw [brings.mem_iff keys.grant, told]
    simp only [Operation.isAbout, beq_iff_eq]
    exact Iff.rfl
  case revoke scheme permission grantee =>
    cases made
    have kept : row ∈ t.grants.filter (fun g => !g.isFor scheme permission grantee) ↔
        row ∈ t.grants ∧ row.fact ≠ (scheme, permission, grantee) := by
      rw [List.mem_filter, Bool.not_eq_true', ← Bool.not_eq_true, SchemeGrant.isFor_iff]
    refine kept.trans ?_
    simp only [Operation.isAbout, beq_iff_eq]
    split
    · next same => exact iff_of_false (fun kept => kept.2 same) (by rintro ⟨⟩)
    · next differs => exact and_iff_left differs
  case createScheme scheme =>
    obtain rfl := eq_of_createScheme made
    exact Iff.rfl
  case grantGlobal =>
    rw [(grantGlobal_brings made).2]
    exact Iff.rfl
  case revokeGlobal =>
    cases made
    exact Iff.rfl

private theorem mem_globalGrants_apply (keys : t.NaturalKeys) {call : GrantCall}
    (done : (call.op.apply now).run t = (.ok call.answer, after)) (row : GlobalGrant) :
    row ∈ after.globalGrants ↔
      if call.op.concerns row then call = row.call else row ∈ t.globalGrants := by
  obtain ⟨op, answer⟩ := call
  cases op <;> rw [Operation.apply, answering_eq_ok_iff] at done <;>
    obtain ⟨said, made, rfl⟩ := done
  case grantGlobal permission role group =>
    obtain ⟨fact, -⟩ := grantGlobal_cases made
    obtain ⟨brings, -⟩ := grantGlobal_brings made
    cases fact
    have told : row = said ↔ said.call = row.call :=
      ⟨fun same => same ▸ rfl, fun same => (GlobalGrant.call_injective same).symm⟩
    rw [brings.mem_iff keys.globalGrant, told]
    simp only [Operation.concerns, beq_iff_eq]
    exact Iff.rfl
  case revokeGlobal id =>
    cases made
    have kept : row ∈ t.globalGrants.filter (fun g => !g.id == id) ↔
        row ∈ t.globalGrants ∧ row.id ≠ id := by
      rw [List.mem_filter, Bool.not_eq_true', beq_eq_false_iff_ne]
    refine kept.trans ?_
    simp only [Operation.concerns, beq_iff_eq]
    split
    · next same => exact iff_of_false (fun kept => kept.2 same) (by rintro ⟨⟩)
    · next differs => exact and_iff_left differs
  case createScheme scheme =>
    obtain rfl := eq_of_createScheme made
    exact Iff.rfl
  case grant =>
    rw [(grant_brings made).2]
    exact Iff.rfl
  case revoke =>
    cases made
    exact Iff.rfl

end Grants

/-! ## Numbered keys -/

/-- The keys bear a label with distinct numbers up to a count. -/
def Numbered (label : String) (count : Nat) (keys : List String) : Prop :=
  keys.Nodup ∧ ∀ key ∈ keys, ∃ number ≤ count, key = label ++ toString number

section Numbered

variable {label : String} {count : Nat} {keys : List String}

private theorem numbered_nil (label : String) (count : Nat) : Numbered label count [] :=
  ⟨List.nodup_nil, List.forall_mem_nil _⟩

private theorem Numbered.sublist (numbered : Numbered label count keys) {fewer : List String}
    (sub : fewer.Sublist keys) : Numbered label count fewer :=
  ⟨sub.nodup numbered.1, fun key kept => numbered.2 key (sub.subset kept)⟩

/-- The next number is a new one. -/
private theorem Numbered.concat (numbered : Numbered label count keys) :
    Numbered label (count + 1) (keys ++ [label ++ toString (count + 1)]) := by
  refine ⟨?_, ?_⟩
  · rw [← List.concat_eq_append]
    refine numbered.1.concat fun member => ?_
    obtain ⟨number, bound, same⟩ := numbered.2 _ member
    have equal : count + 1 = number := number_eq_of_key_eq same
    omega
  · refine List.forall_mem_append.2 ⟨fun key member => ?_, List.forall_mem_singleton.2 ?_⟩
    · obtain ⟨number, bound, same⟩ := numbered.2 key member
      exact ⟨number, Nat.le_succ_of_le bound, same⟩
    · exact ⟨count + 1, Nat.le_refl _, rfl⟩

end Numbered

/-- The rows of both grant tables are numbered as they came in. -/
structure Grants.Numbers (t : Grants) : Prop where
  grant : Numbered "G" t.grantCount (t.grants.map (·.id.text))
  globalGrant : Numbered "GG" t.globalGrantCount (t.globalGrants.map (·.id.text))

private theorem Grants.Numbers.apply {now : Timestamp} {t after : Grants} (numbers : t.Numbers)
    {op : Grants.Operation} {answer : Answer} (done : (op.apply now).run t = (.ok answer, after)) :
    after.Numbers := by
  cases op <;> rw [Operation.apply, answering_eq_ok_iff] at done <;> obtain ⟨said, made, -⟩ := done
  case createScheme scheme =>
    obtain rfl := eq_of_createScheme made
    exact { numbers with }
  case grant scheme permission grantee =>
    rcases (grant_cases made).2 with ⟨-, rfl⟩ | ⟨-, named, rfl⟩
    · exact numbers
    · refine { numbers with grant := ?_ }
      rw [List.map_append, List.map_singleton, named]
      exact numbers.grant.concat
  case grantGlobal permission role group =>
    rcases (grantGlobal_cases made).2 with ⟨-, rfl⟩ | ⟨-, named, rfl⟩
    · exact numbers
    · refine { numbers with globalGrant := ?_ }
      rw [List.map_append, List.map_singleton, named]
      exact numbers.globalGrant.concat
  case revoke scheme permission grantee =>
    cases made
    exact { numbers with grant := numbers.grant.sublist (List.filter_sublist.map _) }
  case revokeGlobal id =>
    cases made
    exact { numbers with globalGrant := numbers.globalGrant.sublist (List.filter_sublist.map _) }

theorem Store.Reachable.grantNumbers {store : Store} (reached : store.Reachable) :
    store.tables.grants.Numbers := by
  have stepped : ∀ (store : Store) (step : Step), store.tables.grants.Numbers →
      (store.step step).tables.grants.Numbers := by
    intro store step numbers
    rcases store.grantCall?_cases step with ⟨-, same⟩ | ⟨call, -, done⟩
    · rwa [same]
    · exact numbers.apply done
  exact Leads.preserves stepped reached ⟨numbered_nil _ _, numbered_nil _ _⟩

namespace Grants

variable {t : Grants} {scheme : PermissionSchemeId}

private theorem mem_grantsOf {row : SchemeGrant} :
    row ∈ t.grantsOf scheme ↔ row ∈ t.grants ∧ row.schemeId = scheme := by
  rw [grantsOf, mem_sortBy, List.mem_filter, beq_iff_eq]

private theorem mem_granteesOf_iff {permission : Permission} {grantee : Grantee} :
    grantee ∈ t.granteesOf scheme permission ↔
      ∃ row ∈ t.grants, row.fact = (scheme, permission, grantee) := by
  simp [granteesOf, SchemeGrant.fact, and_assoc]

private theorem any_isFor (t : Grants) (scheme : PermissionSchemeId) (permission : Permission)
    (grantee : Grantee) : t.grants.any (·.isFor scheme permission grantee) =
      decide (grantee ∈ t.granteesOf scheme permission) := by
  rw [Bool.eq_iff_iff, List.any_eq_true, decide_eq_true_iff, mem_granteesOf_iff]
  simp only [SchemeGrant.isFor_iff]

private theorem NaturalKeys.nodup_grantsOf (keys : t.NaturalKeys) (scheme : PermissionSchemeId) :
    ((t.grantsOf scheme).map SchemeGrant.fact).Nodup := by
  rw [grantsOf, ((sortBy_perm _ _).map _).nodup_iff]
  exact nodup_map_filter _ keys.grant

private theorem NaturalKeys.nodup_granteesOf (keys : t.NaturalKeys) (scheme : PermissionSchemeId)
    (permission : Permission) : (t.granteesOf scheme permission).Nodup := by
  refine nodup_map_of_rest keys.grant fun a b first second same => ?_
  simp only [Bool.and_eq_true, beq_iff_eq] at first second
  rw [SchemeGrant.fact, SchemeGrant.fact, first.1, first.2, second.1, second.2, same]

/-- The rows of a scheme are in strictly ascending order of the names of their permissions, and
where these agree of their grantees. -/
private theorem NaturalKeys.pairwise_grantsOf (keys : t.NaturalKeys) (scheme : PermissionSchemeId) :
    (t.grantsOf scheme).Pairwise fun a b => a.permission.name < b.permission.name ∨
      a.permission = b.permission ∧ compare a.grantee b.grantee = .lt := by
  have transitive : Std.TransCmp fun a b : SchemeGrant =>
      (compare a.permission.name b.permission.name).then (compare a.grantee b.grantee) :=
    inferInstanceAs (Std.TransCmp (compareLex (compareOn fun row : SchemeGrant =>
      row.permission.name) (compareOn SchemeGrant.grantee)))
  have named : ∀ {a b : Permission}, compare a.name b.name = .eq → a = b :=
    fun same => Enumeration.name_injective (Std.LawfulEqCmp.eq_of_compare same)
  refine (pairwise_lt_sortBy ?_).imp ?_
  · refine (keys.grant.of_map.filter _).imp_of_mem ?_
    intro a b first second differ same
    obtain ⟨samePermission, sameGrantee⟩ := Ordering.then_eq_eq.1 same
    obtain ⟨storedFirst, fitsFirst⟩ := List.mem_filter.1 first
    obtain ⟨storedSecond, fitsSecond⟩ := List.mem_filter.1 second
    refine differ (List.inj_on_of_nodup_map keys.grant storedFirst storedSecond ?_)
    rw [SchemeGrant.fact, SchemeGrant.fact, beq_iff_eq.1 fitsFirst, beq_iff_eq.1 fitsSecond,
      named samePermission, Std.LawfulEqCmp.eq_of_compare sameGrantee]
  · intro a b less
    rcases Ordering.then_eq_lt.1 less with first | ⟨same, second⟩
    · exact .inl (text_lt_of_compare first)
    · exact .inr ⟨named same, second⟩

private theorem mem_globalGrantsOf {permission : GlobalPermission} {row : GlobalGrant} :
    row ∈ t.globalGrantsOf permission ↔ row ∈ t.globalGrants ∧ row.permission = permission := by
  rw [globalGrantsOf, List.mem_filter, beq_iff_eq]

end Grants

/-- The last call about a fact that did not fail granted it. -/
def LastGrants (calls : List GrantCall)
    (fact : PermissionSchemeId × Permission × Grantee) : Prop :=
  ∃ answer, lastCall? (·.isAbout fact) calls = some ⟨.grant fact.1 fact.2.1 fact.2.2, answer⟩

namespace Store

/-- Each call along a run was carried out by the grant tables of some store. -/
private theorem applied_of_mem_grantCalls {store : Store} {steps : List Step} {call : GrantCall}
    (made : call ∈ store.grantCalls steps) :
    ∃ now t after, (call.op.apply now).run t = (.ok call.answer, after) := by
  induction steps generalizing store with
  | nil => cases made
  | cons step steps ih =>
    rcases List.mem_append.1 made with here | later
    · rcases store.grantCall?_cases step with ⟨silent, -⟩ | ⟨other, named, applied⟩
      · rw [silent] at here
        cases here
      · rw [named, Option.toList_some, List.mem_singleton] at here
        cases here
        exact ⟨_, _, _, applied⟩
    · exact ih later

variable (steps : List Step)

/-- The last call about its fact answered each row of a scheme that is there. -/
theorem mem_grants_iff (row : SchemeGrant) :
    row ∈ (({} : Store).after steps).tables.grants.grants ↔
      lastCall? (·.isAbout row.fact) (grantCalls {} steps) = some row.call :=
  holds_iff_lastCall (P := fun t => row ∈ t.grants) List.not_mem_nil
    (fun keys done => Grants.mem_grants_apply keys done row) steps

/-- The last call that granted its fact or revoked its key answered each global grant that is
there. -/
theorem mem_globalGrants_iff (row : GlobalGrant) :
    row ∈ (({} : Store).after steps).tables.grants.globalGrants ↔
      lastCall? (·.concerns row) (grantCalls {} steps) = some row.call :=
  holds_iff_lastCall (P := fun t => row ∈ t.globalGrants) List.not_mem_nil
    (fun keys done => Grants.mem_globalGrants_apply keys done row) steps

private theorem lastGrants_iff (fact : PermissionSchemeId × Permission × Grantee) :
    LastGrants (grantCalls {} steps) fact ↔
      ∃ row ∈ (({} : Store).after steps).tables.grants.grants, row.fact = fact := by
  constructor
  · obtain ⟨scheme, permission, grantee⟩ := fact
    rintro ⟨answer, last⟩
    have made := (List.mem_filter.1 (List.mem_of_getLast? last)).1
    obtain ⟨now, t, after, applied⟩ := applied_of_mem_grantCalls made
    obtain ⟨row, granted, rfl⟩ := answering_eq_ok_iff.1 applied
    obtain ⟨same, -⟩ := Grants.grant_cases granted
    cases same
    exact ⟨row, (mem_grants_iff steps row).2 last, rfl⟩
  · rintro ⟨row, stored, rfl⟩
    exact ⟨_, (mem_grants_iff steps row).1 stored⟩

end Store

/-! ## Sets of facts -/

namespace Store

/-- The listings of a scheme are those of the set of facts that were granted last, with the row
that was answered for each. What is there is granted again without change, and revoking tells
whether it was there. -/
structure SchemeFacts (store : Store) (calls : List GrantCall) (scheme : PermissionSchemeId) :
    Prop where
  granteesOnce : ∀ permission, (store.tables.grants.granteesOf scheme permission).Nodup
  grantees : ∀ permission grantee,
    grantee ∈ store.tables.grants.granteesOf scheme permission ↔
      LastGrants calls (scheme, permission, grantee)
  factsOnce : ((store.tables.grants.grantsOf scheme).map SchemeGrant.fact).Nodup
  facts : ∀ fact, fact ∈ (store.tables.grants.grantsOf scheme).map SchemeGrant.fact ↔
    fact.1 = scheme ∧ LastGrants calls fact
  rows : ∀ row, row ∈ store.tables.grants.grantsOf scheme ↔
    row.schemeId = scheme ∧ lastCall? (·.isAbout row.fact) calls = some row.call
  keysOnce : ((store.tables.grants.grantsOf scheme).map (·.id)).Nodup
  ascending : (store.tables.grants.grantsOf scheme).Pairwise fun a b =>
    a.permission.name < b.permission.name ∨
      a.permission = b.permission ∧ compare a.grantee b.grantee = .lt
  again : store.unavailable = false → ∀ row ∈ store.tables.grants.grantsOf scheme,
    store.update (Tables.onGrants
      (Grants.grant scheme row.permission row.grantee store.now)) = (.ok row, store)
  revoking : store.unavailable = false → ∀ permission grantee, ∃ later,
    store.update (Tables.onGrants (Grants.revoke scheme permission grantee)) =
      (.ok (decide (grantee ∈ store.tables.grants.granteesOf scheme permission)), later)

/-- The listings of global grants are those of the set of facts whose row, as the last call that
granted the fact answered it, was not revoked since. A key belongs to one row. -/
structure GlobalFacts (store : Store) (calls : List GrantCall) : Prop where
  factsOnce : ∀ permission,
    ((store.tables.grants.globalGrantsOf permission).map GlobalGrant.fact).Nodup
  facts : ∀ permission fact,
    fact ∈ (store.tables.grants.globalGrantsOf permission).map GlobalGrant.fact ↔
      fact.1 = permission ∧ ∃ row : GlobalGrant, row.fact = fact ∧
        lastCall? (·.concerns row) calls = some row.call
  rows : ∀ permission row, row ∈ store.tables.grants.globalGrantsOf permission ↔
    row.permission = permission ∧ lastCall? (·.concerns row) calls = some row.call
  keysOnce : (store.tables.grants.globalGrants.map (·.id)).Nodup
  again : store.unavailable = false → ∀ permission,
    ∀ row ∈ store.tables.grants.globalGrantsOf permission,
      store.update (Tables.onGrants
        (Grants.grantGlobal permission row.globalRoleId row.groupId store.now)) = (.ok row, store)
  revoking : store.unavailable = false → ∀ id, ∃ found later,
    store.update (Tables.onGrants (Grants.revokeGlobal id)) = (.ok found, later) ∧
      (found = true ↔ ∃ permission, ∃ row ∈ store.tables.grants.globalGrantsOf permission,
        row.id = id)

variable (steps : List Step)

private theorem schemeFacts_after {scheme : PermissionSchemeId}
    (there : (({} : Store).after steps).tables.grants.schemes.contains scheme = true) :
    (({} : Store).after steps).SchemeFacts (grantCalls {} steps) scheme := by
  have reached : (({} : Store).after steps).Reachable := ⟨steps, rfl⟩
  have keys := reached.naturalKeys.grants
  exact {
    granteesOnce := keys.nodup_granteesOf scheme
    grantees := fun permission grantee =>
      Grants.mem_granteesOf_iff.trans (lastGrants_iff steps _).symm
    factsOnce := keys.nodup_grantsOf scheme
    facts := by
      intro fact
      rw [lastGrants_iff, List.mem_map]
      constructor
      · rintro ⟨row, listed, rfl⟩
        obtain ⟨stored, inScheme⟩ := Grants.mem_grantsOf.1 listed
        exact ⟨inScheme, row, stored, rfl⟩
      · rintro ⟨inScheme, row, stored, rfl⟩
        exact ⟨row, Grants.mem_grantsOf.2 ⟨stored, inScheme⟩, rfl⟩
    rows := fun row =>
      Grants.mem_grantsOf.trans (and_comm.trans (and_congr_right' (mem_grants_iff steps row)))
    keysOnce := by
      rw [Grants.grantsOf, ((sortBy_perm _ _).map _).nodup_iff]
      refine nodup_map_filter _ (List.Nodup.of_map Ident.text ?_)
      rw [List.map_map]
      exact reached.grantNumbers.grant.1
    ascending := keys.pairwise_grantsOf scheme
    again := by
      intro available row listed
      obtain ⟨stored, rfl⟩ := Grants.mem_grantsOf.1 listed
      exact update_onGrants available (Grants.grant_of_mem keys stored there)
    revoking := by
      intro available permission grantee
      rw [← Grants.any_isFor]
      exact ⟨_, update_onGrants available rfl⟩ }

private theorem globalFacts_after :
    (({} : Store).after steps).GlobalFacts (grantCalls {} steps) := by
  have reached : (({} : Store).after steps).Reachable := ⟨steps, rfl⟩
  have keys := reached.naturalKeys.grants
  exact {
    factsOnce := fun permission => nodup_map_filter _ keys.globalGrant
    facts := by
      intro permission fact
      rw [List.mem_map]
      constructor
      · rintro ⟨row, listed, rfl⟩
        obtain ⟨stored, same⟩ := Grants.mem_globalGrantsOf.1 listed
        exact ⟨same, row, rfl, (mem_globalGrants_iff steps row).1 stored⟩
      · rintro ⟨same, row, rfl, last⟩
        have stored := (mem_globalGrants_iff steps row).2 last
        exact ⟨row, Grants.mem_globalGrantsOf.2 ⟨stored, same⟩, rfl⟩
    rows := fun permission row => Grants.mem_globalGrantsOf.trans
      (and_comm.trans (and_congr_right' (mem_globalGrants_iff steps row)))
    keysOnce := by
      refine List.Nodup.of_map Ident.text ?_
      rw [List.map_map]
      exact reached.grantNumbers.globalGrant.1
    again := by
      intro available permission row listed
      obtain ⟨stored, rfl⟩ := Grants.mem_globalGrantsOf.1 listed
      exact update_onGrants available (Grants.grantGlobal_of_mem keys stored)
    revoking := by
      intro available id
      refine ⟨_, _, update_onGrants available rfl, ?_⟩
      simp only [List.any_eq_true, beq_iff_eq, Grants.mem_globalGrantsOf]
      constructor
      · rintro ⟨row, stored, named⟩
        exact ⟨row.permission, row, ⟨stored, rfl⟩, named⟩
      · rintro ⟨permission, row, ⟨stored, -⟩, named⟩
        exact ⟨row, stored, named⟩ }

end Store

/-- After every run the grant tables hold sets of facts. What is listed for a scheme that is there
was granted by the last call about it, each fact is listed once with the row that was answered, in
order, to grant it again changes nothing, and to revoke it tells whether it was there. So it is with
global grants, which are revoked by the keys of their rows. -/
theorem grants_are_facts (steps : List Store.Step) :
    (∀ scheme, (({} : Store).after steps).tables.grants.schemes.contains scheme = true →
      (({} : Store).after steps).SchemeFacts (Store.grantCalls {} steps) scheme) ∧
    (({} : Store).after steps).GlobalFacts (Store.grantCalls {} steps) :=
  ⟨fun _ there => Store.schemeFacts_after steps there, Store.globalFacts_after steps⟩

/-- A grant is made, revoked, made anew and repeated, and one in a scheme that is not there fails.
So it goes for a global grant, of which the first key is revoked once more at the end. -/
def Sample.granting : List Store.Step := [
  .operation (.onGrants (.createScheme ⟨⟨"PS"⟩, "rights", none, true, ⟨0, 0⟩⟩)),
  .operation (.onGrants (.grant ⟨"PS"⟩ .editIssues .anyone)),
  .operation (.onGrants (.revoke ⟨"PS"⟩ .editIssues .anyone)),
  .operation (.onGrants (.grant ⟨"PS"⟩ .editIssues .anyone)),
  .operation (.onGrants (.grant ⟨"PS"⟩ .editIssues .anyone)),
  .operation (.onGrants (.grant ⟨"PT"⟩ .editIssues .anyone)),
  .operation (.onGrants (.grantGlobal .createProjects none none)),
  .operation (.onGrants (.revokeGlobal ⟨"GG1"⟩)),
  .operation (.onGrants (.grantGlobal .createProjects none none)),
  .operation (.onGrants (.revokeGlobal ⟨"GG1"⟩))]

/-- Both facts are there in the end, in rows of the second number. -/
theorem sample_grants :
    LastGrants (Store.grantCalls {} Sample.granting) (⟨"PS"⟩, .editIssues, .anyone) ∧
      ((({} : Store).after Sample.granting).tables.grants.grantsOf ⟨"PS"⟩).map (·.id) =
        [⟨"G2"⟩] ∧
      ∃ row : GlobalGrant, row.fact = (.createProjects, none, none) ∧
        lastCall? (·.concerns row) (Store.grantCalls {} Sample.granting) = some row.call := by
  obtain ⟨schemes, globals⟩ := grants_are_facts Sample.granting
  have scheme := schemes ⟨"PS"⟩ (by decide +kernel)
  have granted := (scheme.grantees .editIssues .anyone).1 (by decide +kernel)
  have given := ((globals.facts .createProjects (.createProjects, none, none)).1
    (by decide +kernel)).2
  exact ⟨granted, by decide +kernel, given⟩

end IssueFlow
