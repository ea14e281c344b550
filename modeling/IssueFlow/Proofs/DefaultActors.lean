import Mathlib.Data.Set.Card
import IssueFlow.Authority.RoleChange
import IssueFlow.Proofs.RoleHolders

/-!
# Default actors

A project is given the default actors that it lacks. What comes of it is the union of the project's
actors with the default actors (`Membership.Joined`). Nobody comes in twice, since no two default
actors have one role and one user or group. The copies are rows of their own: what becomes of the
default actors afterwards is nothing to them.
-/

namespace IssueFlow

namespace Membership

variable {t : Membership} {project other : ProjectId} {role : RoleId} {actor : Actor}
  {now : Timestamp}

/-- A user or a group is to be an actor of the role in new projects. -/
def IsDefault (t : Membership) (role : RoleId) (actor : Actor) : Prop :=
  ∃ row ∈ t.defaults, row.seat = (role, actor)

/-- The default actors that a project lacks, with their roles. -/
def lacking (t : Membership) (project : ProjectId) : Set (RoleId × Actor) :=
  {seat | t.IsDefault seat.1 seat.2 ∧ ¬ t.IsActor project seat.1 seat.2}

theorem hasActor_iff : t.hasActor project role actor = true ↔ t.IsActor project role actor := by
  simp only [hasActor, List.any_eq_true, RoleActor.isFor_iff, IsActor]

private theorem mem_actorsOf : actor ∈ t.actorsOf project role ↔ t.IsActor project role actor := by
  rw [actorsOf, mem_sortBy, List.mem_map]
  constructor
  · rintro ⟨row, listed, rfl⟩
    obtain ⟨stored, fits⟩ := List.mem_filter.1 listed
    rw [Bool.and_eq_true, beq_iff_eq, beq_iff_eq] at fits
    obtain ⟨rfl, rfl⟩ := fits
    exact ⟨row, stored, rfl⟩
  · rintro ⟨⟨_, _, _, _⟩, stored, seat⟩
    cases seat
    exact ⟨_, List.mem_filter.2 ⟨stored, by simp⟩, rfl⟩

/-- No actor of a role is listed twice. -/
private theorem NaturalKeys.nodup_actorsOf (keys : t.NaturalKeys) (project : ProjectId)
    (role : RoleId) :
    (t.actorsOf project role).Nodup := by
  rw [actorsOf, (sortBy_perm _ _).nodup_iff]
  refine nodup_map_of_rest keys.actor fun a b first second same => ?_
  simp only [Bool.and_eq_true, beq_iff_eq] at first second
  rw [RoleActor.seat, RoleActor.seat, first.1, first.2, second.1, second.2, same]

private theorem mem_missingDefaults {row : RoleActor} : row ∈ t.missingDefaults project now ↔
    (row.projectId = project ∧ row.createdAt = now) ∧
      t.IsDefault row.roleId row.actor ∧ ¬ t.IsActor project row.roleId row.actor := by
  rw [missingDefaults, List.mem_map]
  constructor
  · rintro ⟨d, lacked, rfl⟩
    obtain ⟨stored, absent⟩ := List.mem_filter.1 lacked
    refine ⟨⟨rfl, rfl⟩, ⟨d, stored, rfl⟩, ?_⟩
    rw [← hasActor_iff]
    simpa using absent
  · obtain ⟨place, role, actor, time⟩ := row
    rintro ⟨⟨rfl, rfl⟩, ⟨⟨_, _, _⟩, stored, seat⟩, absent⟩
    cases seat
    rw [← hasActor_iff, Bool.not_eq_true] at absent
    exact ⟨_, List.mem_filter.2 ⟨stored, by simp [absent]⟩, rfl⟩

/-- There are as many copies as default actors that the project lacks. -/
private theorem NaturalKeys.length_missingDefaults (keys : t.NaturalKeys) (project : ProjectId)
    (now : Timestamp) : (t.missingDefaults project now).length = (t.lacking project).ncard := by
  classical
  have distinct : ((t.defaults.filter fun d => !t.hasActor project d.roleId d.actor).map
      DefaultActor.seat).Nodup := nodup_map_filter _ keys.default
  have lacked : t.lacking project = ↑((t.defaults.filter fun d =>
      !t.hasActor project d.roleId d.actor).map DefaultActor.seat).toFinset := by
    ext ⟨role, actor⟩
    simp only [lacking, Set.mem_ofPred_eq, List.coe_toFinset, List.mem_map, List.mem_filter,
      Bool.not_eq_true', ← hasActor_iff, Bool.not_eq_true]
    constructor
    · rintro ⟨⟨d, stored, seat⟩, absent⟩
      cases seat
      exact ⟨d, ⟨stored, absent⟩, rfl⟩
    · rintro ⟨d, ⟨stored, absent⟩, seat⟩
      cases seat
      exact ⟨⟨d, stored, rfl⟩, absent⟩
  rw [lacked, Set.ncard_coe_finset, List.toFinset_card_of_nodup distinct, List.length_map,
    missingDefaults, List.length_map]

/-- The role tables once a project has been given the default actors that it lacks. -/
def withDefaults (t : Membership) (project : ProjectId) (now : Timestamp) : Membership :=
  { t with actors := t.actors ++ t.missingDefaults project now }

private theorem isActor_withDefaults : (t.withDefaults project now).IsActor project role actor ↔
    t.IsActor project role actor ∨ t.IsDefault role actor := by
  constructor
  · rintro ⟨row, listed, seat⟩
    rcases List.mem_append.1 listed with stored | copied
    · exact .inl ⟨row, stored, seat⟩
    · obtain ⟨-, byDefault, -⟩ := mem_missingDefaults.1 copied
      cases seat
      exact .inr byDefault
  · intro either
    by_cases held : t.IsActor project role actor
    · obtain ⟨row, stored, seat⟩ := held
      exact ⟨row, List.mem_append_left _ stored, seat⟩
    · have copied : (⟨project, role, actor, now⟩ : RoleActor) ∈ t.missingDefaults project now :=
        mem_missingDefaults.2 ⟨⟨rfl, rfl⟩, either.resolve_left held, held⟩
      exact ⟨_, List.mem_append_right _ copied, rfl⟩

private theorem projectActors_withDefaults_of_ne (elsewhere : other ≠ project) :
    (t.withDefaults project now).projectActors other = t.projectActors other := by
  have none : (t.missingDefaults project now).filter (·.projectId == other) = [] := by
    refine List.filter_eq_nil_iff.2 fun row copied => ?_
    obtain ⟨⟨rfl, -⟩, -⟩ := mem_missingDefaults.1 copied
    simpa using elsewhere.symm
  rw [projectActors, withDefaults, List.filter_append, none, List.append_nil, projectActors]

/-- A project that has been given the default actors lacks none. -/
private theorem missingDefaults_withDefaults (later : Timestamp) :
    (t.withDefaults project now).missingDefaults project later = [] := by
  refine List.eq_nil_iff_forall_not_mem.2 fun row copied => ?_
  obtain ⟨-, byDefault, absent⟩ := mem_missingDefaults.1 copied
  exact absent (isActor_withDefaults.2 (.inr byDefault))

/-- The actors of a project are joined with the default actors: rows are added for as many as were
not there, all of them of that project, and nothing else is touched. -/
structure Joined (t : Membership) (project : ProjectId) (number : Nat) (later : Membership) :
    Prop where
  union : ∀ role actor, actor ∈ later.actorsOf project role ↔
    actor ∈ t.actorsOf project role ∨ t.IsDefault role actor
  once : ∀ role, (later.actorsOf project role).Nodup
  count : number = (t.lacking project).ncard
  added : ∃ new, new.length = number ∧ (∀ row ∈ new, row.projectId = project) ∧
    later = { t with actors := t.actors ++ new }
  elsewhere : ∀ other, other ≠ project → later.projectActors other = t.projectActors other

private theorem NaturalKeys.joined (keys : t.NaturalKeys) (project : ProjectId) (now : Timestamp) :
    t.Joined project (t.missingDefaults project now).length (t.withDefaults project now) where
  union role actor := by
    rw [mem_actorsOf, mem_actorsOf]
    exact isActor_withDefaults
  once role := by
    have later : (t.withDefaults project now).NaturalKeys :=
      { keys with actor := keys.copyDefaults project now }
    exact later.nodup_actorsOf project role
  count := keys.length_missingDefaults project now
  added := ⟨_, rfl, fun row copied => (mem_missingDefaults.1 copied).1.1, rfl⟩
  elsewhere other := projectActors_withDefaults_of_ne

end Membership

/-- The operation adds a default actor or removes one. -/
inductive Membership.Operation.OnDefaults : Membership.Operation → Prop where
  | add (role : RoleId) (actor : Actor) : OnDefaults (.addDefault role actor)
  | remove (role : RoleId) (actor : Actor) : OnDefaults (.removeDefault role actor)

private theorem Membership.Operation.OnDefaults.actors_eq {op : Membership.Operation}
    (changes : op.OnDefaults) {now : Timestamp} {t after : Membership} {answer : Answer}
    (done : (op.apply now).run t = (.ok answer, after)) : after.actors = t.actors := by
  cases changes <;> rw [Operation.apply, answering_eq_ok_iff] at done <;>
    obtain ⟨said, made, -⟩ := done
  case add role actor =>
    obtain ⟨-, made⟩ := require_bind_eq_ok_iff.1 (looked made)
    split at made <;>
    · cases made
      rfl
  case remove role actor =>
    cases made
    rfl

/-- The step changes the default actors, throws the switch or lets time pass. -/
inductive Store.Step.OnDefaults : Store.Step → Prop where
  | change (op : Membership.Operation) (changes : op.OnDefaults) :
      OnDefaults (.operation (.onMembership op))
  | switch (unavailable : Bool) : OnDefaults (.switch unavailable)
  | tick (now : Timestamp) : OnDefaults (.tick now)

/-- The same users and groups are actors in both stores. -/
def Store.SameActors (store later : Store) : Prop :=
  later.tables.membership.actors = store.tables.membership.actors

instance : IsPreorder Store Store.SameActors where
  refl _ := rfl
  trans _ _ _ first second := Eq.trans second first

private theorem Store.Step.OnDefaults.sameActors {step : Store.Step} (changes : step.OnDefaults)
    (store : Store) : store.SameActors (store.step step) := by
  rcases store.step_cases step with same | ⟨op, answer, named, done⟩
  · rw [SameActors, same]
  · cases changes with
    | switch | tick => cases named
    | change op onDefaults =>
      cases named
      rcases Tables.Operation.membership_cases done with same | ⟨inner, placed, applied⟩
      · rw [SameActors, same]
      · cases placed
        exact onDefaults.actors_eq applied

private theorem Program.write_run {ε α : Type} [OfStorage ε] {store later : Store}
    {op : Timestamp → Change Tables α} {a : α}
    (updated : store.update (op store.now) = (.ok a, later)) :
    (write op : Program ε α).run store = (.ok a, later) := by
  show (Except.mapError OfStorage.ofStorage (store.update (op store.now)).1,
    (store.update (op store.now)).2) = _
  rw [updated]
  rfl

/-- The project is looked up first. -/
private theorem copyDefaultsToProject_run {store : Store} (available : store.unavailable = false)
    (project : ProjectId) :
    (RoleHolding.copyDefaultsToProject project).run store =
      if store.tables.projects.contains project then
        (.ok (store.tables.membership.missingDefaults project store.now).length,
          { store with tables.membership :=
              store.tables.membership.withDefaults project store.now })
      else (.error (.notFound s!"project {project.text}"), store) := by
  have looked : (Program.ask (Query.lookFor (fun t => t.projects.get? project)
      (AccessError.notFound s!"project {project.text}"))).run store = _ :=
    congrArg (·, store) (Query.lookFor_run available _ _)
  rw [RoleHolding.copyDefaultsToProject, run_bind, looked, Table.contains]
  cases store.tables.projects.get? project with
  | none => rfl
  | some row => exact Program.write_run (Store.update_onMembership available rfl)

/-- A project that lacks no default actor is left as it is. -/
private theorem copyDefaultsToProject_run_of_complete {store : Store}
    (available : store.unavailable = false) {project : ProjectId}
    (stored : store.tables.projects.contains project = true)
    (complete : store.tables.membership.missingDefaults project store.now = []) :
    (RoleHolding.copyDefaultsToProject project).run store = (.ok 0, store) := by
  rw [copyDefaultsToProject_run available, if_pos stored, Membership.withDefaults, complete,
    List.append_nil]
  rfl

/-- In a reachable store, a project that is there is joined with the default actors, and the answer
is how many of them it lacked. Another call, at whatever time, answers that it lacks none and leaves
the store; so do later changes of the default actors leave who is an actor. A project that is not
there is named as missing, and the store stays, as it does while the tables are out of reach. -/
theorem default_actors_joined {store : Store} (reached : store.Reachable) (project : ProjectId) :
    (store.unavailable = true → (RoleHolding.copyDefaultsToProject project).run store =
      (.error (.resolution .outage), store)) ∧
    (store.unavailable = false → store.tables.projects.contains project = false →
      (RoleHolding.copyDefaultsToProject project).run store =
        (.error (.notFound s!"project {project.text}"), store)) ∧
    (store.unavailable = false → store.tables.projects.contains project = true →
      ∃ number membership later,
        (RoleHolding.copyDefaultsToProject project).run store = (.ok number, later) ∧
        later = { store with tables.membership := membership } ∧
        store.tables.membership.Joined project number membership ∧
        (∀ now, (RoleHolding.copyDefaultsToProject project).run { later with now } =
          (.ok 0, { later with now })) ∧
        ∀ final, Store.LeadsBy Store.Step.OnDefaults later final →
          final.tables.membership.actors = membership.actors) := by
  refine ⟨?_, ?_, ?_⟩
  · intro unavailable
    have asked : (Program.ask (Query.lookFor (fun t => t.projects.get? project)
        (AccessError.notFound s!"project {project.text}"))).run store =
          (.error (.resolution .outage), store) :=
      congrArg (·, store) (Query.look_bind_run_of_unavailable unavailable _ _)
    rw [RoleHolding.copyDefaultsToProject, run_bind, asked]
  · intro available absent
    rw [copyDefaultsToProject_run available, absent]
    rfl
  · intro available stored
    refine ⟨_, _, _, ?_, rfl, reached.naturalKeys.membership.joined project store.now, ?_, ?_⟩
    · rw [copyDefaultsToProject_run available, if_pos stored]
    · intro now
      refine copyDefaultsToProject_run_of_complete ?_ ?_ ?_
      · exact available
      · exact stored
      · exact Membership.missingDefaults_withDefaults now
    · intro final led
      have same : Store.SameActors _ final :=
        led.related fun store step changes => changes.sameActors store
      exact same

/-- The sample store with two default actors of a role, one of them an actor in the project. -/
def Sample.seeded : Store :=
  Sample.store.after [
    .operation (.onMembership (.createRole ⟨⟨"R"⟩, "Editors", none, ⟨0, 0⟩⟩)),
    .operation (.onMembership (.addActor ⟨"P1"⟩ ⟨"R"⟩ (.user ⟨"ann"⟩))),
    .operation (.onMembership (.addDefault ⟨"R"⟩ (.user ⟨"ann"⟩))),
    .operation (.onMembership (.addDefault ⟨"R"⟩ (.group ⟨"G"⟩)))]

/-- The project lacks one of the default actors. -/
theorem sample_default_actors :
    Sample.seeded.Reachable ∧ Sample.seeded.unavailable = false ∧
      Sample.seeded.tables.projects.contains ⟨"P1"⟩ = true ∧
      ∃ membership later,
        (RoleHolding.copyDefaultsToProject ⟨"P1"⟩).run Sample.seeded = (.ok 1, later) ∧
        Sample.seeded.tables.membership.Joined ⟨"P1"⟩ 1 membership ∧
        .group ⟨"G"⟩ ∈ membership.actorsOf ⟨"P1"⟩ ⟨"R"⟩ ∧
        (RoleHolding.copyDefaultsToProject ⟨"P1"⟩).run later = (.ok 0, later) := by
  have reached : Sample.seeded.Reachable :=
    IsTrans.trans (r := Store.Leads) _ _ _ ⟨Sample.steps, rfl⟩ ⟨_, rfl⟩
  have available : Sample.seeded.unavailable = false := by decide +kernel
  have stored : Sample.seeded.tables.projects.contains ⟨"P1"⟩ = true := by decide +kernel
  have answer : ((RoleHolding.copyDefaultsToProject ⟨"P1"⟩).run Sample.seeded).1.toOption =
      some 1 := by
    decide +kernel
  obtain ⟨number, membership, later, copied, -, joined, again, -⟩ :=
    (default_actors_joined reached ⟨"P1"⟩).2.2 available stored
  rw [copied] at answer
  have one : number = 1 := Option.some.inj answer
  subst one
  have byDefault : Sample.seeded.tables.membership.IsDefault ⟨"R"⟩ (.group ⟨"G"⟩) :=
    ⟨⟨⟨"R"⟩, .group ⟨"G"⟩, Sample.seeded.now⟩, by decide +kernel, rfl⟩
  exact ⟨reached, available, stored, membership, later, copied, joined,
    (joined.union _ _).2 (.inr byDefault), again later.now⟩

end IssueFlow
