import IssueFlow.Proofs.Stages

/-!
# Post-functions

What follows a commit never commits a status (`Step.Quiet`), and a post-function of the library that
fails has changed nothing (`apply_failsClean`). A run of post-functions is a chain of visits, one
for each rule that was reached.
-/

namespace IssueFlow

/-- A notification gets into the outbox, or nothing happens. -/
theorem send_run (notification : Notification) (world : World) :
    (Run.send notification).run world =
      match world.outbox.send notification with
      | .ok outbox => (.ok (), { world with outbox })
      | .error refusal => (.error (.dispatch refusal), world) := rfl

/-- A write fails and leaves the world, or carries out its operation. -/
theorem write_cases {α : Type} {op : Timestamp → Change Tables α}
    (clean : ∀ now, FailsClean (op now)) (world : World) :
    (∃ e, (Run.write op).run world = (.error e, world)) ∨
      ∃ a tables, (op world.store.now).run world.store.tables = (.ok a, tables) ∧
        (Run.write op).run world = (.ok a, { world with store.tables := tables }) := by
  have executed : (Run.write op).run world =
      ((world.store.update (op world.store.now)).1.mapError OfStorage.ofStorage,
        { world with store := (world.store.update (op world.store.now)).2 }) := rfl
  rw [executed]
  rcases world.store.update_cases (clean world.store.now) with
    ⟨e, failed⟩ | ⟨a, tables, -, done, updated⟩
  · rw [failed]
    exact .inl ⟨_, rfl⟩
  · rw [updated]
    exact .inr ⟨a, tables, done, rfl⟩

section FailsClean

variable {α β : Type}

private theorem failsClean_write {op : Timestamp → Change Tables α}
    (clean : ∀ now, FailsClean (op now)) :
    FailsClean (Run.write op) := by
  intro world after e failed
  rcases write_cases clean world with ⟨cause, refused⟩ | ⟨a, tables, -, executed⟩
  · cases refused.symm.trans failed
    rfl
  · cases executed.symm.trans failed

private theorem failsClean_send (notification : Notification) :
    FailsClean (Run.send notification) := by
  intro world after e failed
  rw [send_run] at failed
  cases sent : world.outbox.send notification with
  | ok outbox =>
    rw [sent] at failed
    cases failed
  | error refusal =>
    rw [sent] at failed
    cases failed
    rfl

/-- A query changes nothing, so what comes after it decides. -/
private theorem FailsClean.ask_bind {query : Query TransitionError α} {next : α → Run β}
    (clean : ∀ a, FailsClean (next a)) : FailsClean (Run.ask query >>= next) := by
  intro world after e failed
  rw [run_bind, Query.run_ask] at failed
  cases answered : query.run world.store with
  | ok a =>
    rw [answered] at failed
    exact clean a _ _ _ failed
  | error cause =>
    rw [answered] at failed
    cases failed
    rfl

end FailsClean

theorem writeField_failsClean (issue : IssueId) (field : FieldRef) (value : Json) :
    FailsClean (writeField issue field value) :=
  failsClean_write fun _ => (IssueLog.updateFields_failsClean _ _ _).onIssueLog

theorem writeParentField_failsClean (attempt : Attempt) (field : FieldRef) (value : Json) :
    FailsClean (writeParentField attempt field value) :=
  FailsClean.ask_bind fun _ => (writeField_failsClean _ _ _).bind_pure _

/-- A post-function of the library that fails has changed nothing. -/
theorem apply_failsClean (attempt : Attempt) (postFunction : PostFunction) :
    FailsClean (postFunction.apply attempt) := by
  cases postFunction with
  | updateField field value => exact writeField_failsClean _ _ _
  | assignToReporter => exact writeField_failsClean _ _ _
  | assignToLead => exact FailsClean.ask_bind fun _ => writeField_failsClean _ _ _
  | clearField field => exact writeField_failsClean _ _ _
  | copyFieldValue source target copyTarget =>
    cases copyTarget with
    | thisIssue => exact writeField_failsClean _ _ _
    | parent => exact writeParentField_failsClean _ _ _
  | addComment body =>
    have clean := fun now => (IssueLog.addComment_failsClean attempt.issue.id attempt.actor body
      now).onIssueLog
    exact (failsClean_write clean).bind_pure _
  | sendNotification event recipients =>
    exact FailsClean.ask_bind fun _ => (failsClean_send _).bind_pure _
  | triggerWebhook url => exact (failsClean_send _).bind_pure _
  | updateParent field value =>
    rw [PostFunction.apply]
    by_cases orphan : attempt.issue.parentId.isNone
    · rw [if_pos orphan]
      exact (answers_pure _).failsClean
    · rw [if_neg orphan]
      exact writeParentField_failsClean _ _ _

namespace Store

/-- A step of the kinds that post-functions take: it writes fields of an issue, or a comment. -/
inductive Step.Quiet : Step → Prop where
  | updateFields (id : IssueId) (updates : List FieldUpdate) :
      Quiet (.operation (.onIssueLog (.updateFields id updates)))
  | addComment (issue : IssueId) (author : UserId) (body : String) (time : Timestamp) :
      Quiet (.operation (.onIssueLog (.addComment issue author body time)))

private theorem Step.Quiet.not_commits {step : Step} (quiet : step.Quiet) (id : IssueId) :
    ¬ step.Commits id := by
  rintro ⟨commit, -, rfl⟩
  cases quiet

theorem keepsStatus_of_quiet {store later : Store} (led : LeadsBy Step.Quiet store later)
    (id : IssueId) : KeepsStatus id store later :=
  led.related fun store _ quiet => step_keepsStatus (quiet.not_commits id) store

end Store

/-- A write is a step of the store. -/
private theorem keeps_write {α : Type} {op : Timestamp → Change Tables α}
    {Allowed : Store.Step → Prop} (stepped : ∀ store : Store, ∃ step, Allowed step ∧
      (store.update (op store.now)).2 = store.step step) :
    Keeps (World.Along (Store.LeadsBy Allowed)) (Run.write op).run := by
  intro world
  obtain ⟨step, allowed, same⟩ := stepped world.store
  exact ⟨[step], List.forall_mem_singleton.2 allowed, same⟩

private theorem writeField_quiet (issue : IssueId) (field : FieldRef) (value : Json) :
    Keeps (World.Along (Store.LeadsBy Store.Step.Quiet)) (writeField issue field value).run := by
  refine keeps_write fun store => ⟨_, .updateFields issue [⟨field, value⟩], ?_⟩
  exact (Store.update_answering store Answer.issue _).symm

private theorem writeParentField_quiet (attempt : Attempt) (field : FieldRef) (value : Json) :
    Keeps (World.Along (Store.LeadsBy Store.Step.Quiet))
      (writeParentField attempt field value).run := by
  refine Keeps.run_bind (keeps_ask _) fun parent => ?_
  refine Keeps.run_bind (writeField_quiet _ _ _) fun _ => ?_
  exact keeps_return _

private theorem send_keeps_store {R : Store → Store → Prop} [IsPreorder Store R]
    (notification : Notification) : Keeps (World.Along R) (Run.send notification).run := by
  intro world
  have same : ((Run.send notification).run world).2.store = world.store := by
    rw [send_run]
    cases world.outbox.send notification <;> rfl
  show R world.store ((Run.send notification).run world).2.store
  rw [same]
  exact Std.Refl.refl _

/-- A post-function of the library takes quiet steps only. -/
private theorem apply_quiet (attempt : Attempt) (postFunction : PostFunction) :
    Keeps (World.Along (Store.LeadsBy Store.Step.Quiet)) (postFunction.apply attempt).run := by
  cases postFunction with
  | updateField field value => exact writeField_quiet _ _ _
  | assignToReporter => exact writeField_quiet _ _ _
  | assignToLead => exact Keeps.run_bind (keeps_ask _) fun _ => writeField_quiet _ _ _
  | clearField field => exact writeField_quiet _ _ _
  | copyFieldValue source target copyTarget =>
    cases copyTarget with
    | thisIssue => exact writeField_quiet _ _ _
    | parent => exact writeParentField_quiet _ _ _
  | addComment body =>
    have written : Keeps (World.Along (Store.LeadsBy Store.Step.Quiet)) (Run.write fun now =>
        Tables.onIssueLog (IssueLog.addComment attempt.issue.id attempt.actor body now)).run := by
      refine keeps_write fun store =>
        ⟨_, .addComment attempt.issue.id attempt.actor body store.now, ?_⟩
      exact (Store.update_answering store (fun _ => .done) _).symm
    exact Keeps.run_bind written fun _ => keeps_return _
  | sendNotification event recipients =>
    refine Keeps.run_bind (keeps_ask _) fun users => ?_
    exact Keeps.run_bind (send_keeps_store _) fun _ => keeps_return _
  | triggerWebhook url => exact Keeps.run_bind (send_keeps_store _) fun _ => keeps_return _
  | updateParent field value =>
    rw [PostFunction.apply]
    by_cases orphan : attempt.issue.parentId.isNone
    · rw [if_pos orphan]
      exact keeps_return _
    · rw [if_neg orphan]
      exact writeParentField_quiet _ _ _

theorem evaluatePostFunction_quiet (attempt : Attempt) (postFunction : PostFunction) :
    Keeps (World.Along (Store.LeadsBy Store.Step.Quiet))
      (evaluatePostFunction attempt postFunction) :=
  apply_quiet attempt postFunction

theorem Registry.builtIn_quiet {matcher : Matcher} :
    (builtIn matcher).PostFunctionsKeep (World.Along (Store.LeadsBy Store.Step.Quiet)) := by
  rintro type evaluate ⟨⟩ attempt postFunction
  exact evaluatePostFunction_quiet attempt postFunction

namespace Executor

variable (executor : Executor)

section Keeps

variable {executor} {R : World → World → Prop} [IsPreorder World R]
  (kept : executor.registry.PostFunctionsKeep R)

include kept

private theorem runPostFunction_keeps (attempt : Attempt) (postFunction : PostFunction) :
    Keeps R (executor.runPostFunction attempt postFunction) := by
  rw [runPostFunction]
  cases found : executor.registry.postFunction postFunction.type with
  | error e => exact keeps_pure _
  | ok evaluate =>
    refine Keeps.bind (kept (Registry.find_eq_ok_iff.1 found) _ _) fun reaction => ?_
    exact keeps_pure _

private theorem runPostFunctions_keeps (attempt : Attempt) (rules : List PostFunctionRule) :
    Keeps R (executor.runPostFunctions attempt rules) := by
  induction rules generalizing attempt with
  | nil => exact keeps_pure _
  | cons rule rules ih =>
    refine Keeps.bind (runPostFunction_keeps kept _ _) ?_
    rintro (_ | ⟨left, failure⟩)
    · exact keeps_pure _
    · exact Keeps.bind (ih left) fun _ => keeps_pure _

theorem followUp_keeps (attempt : Attempt) (rules : List PostFunctionRule) :
    Keeps R (executor.followUp attempt rules) :=
  Keeps.bind (runPostFunctions_keeps kept attempt rules) fun _ => keeps_pure _

variable (gates : executor.registry.GatesKeep R)
  (commits : ∀ attempt target, Keeps R (commit attempt target).run)

include gates commits

/-- What evaluators and commits keep, an attempt keeps. -/
theorem take_keeps (issue : Issue) (target : StatusId) (actor : UserId) (submission : Submission) :
    Keeps R (executor.take issue target actor submission).run := by
  rw [take_eq]
  refine Keeps.run_bind (prepare_keeps gates _ _ _ _) ?_
  rintro ⟨attempt, plan⟩
  refine Keeps.run_bind (commits attempt target) fun row => ?_
  refine Keeps.run_bind (followUp_keeps kept _ _).lift fun followed => ?_
  exact keeps_return _

theorem transition_keeps (id : IssueId) (target : StatusId) (actor : UserId)
    (submission : Submission) :
    Keeps R (Service.transition executor id target actor submission).run := by
  intro world
  rcases Service.transition_cases executor id target actor submission world with
    ⟨e, refused⟩ | ⟨issue, -, -, served⟩
  · rw [refused]
    exact Std.Refl.refl world
  · rw [served]
    exact take_keeps kept gates commits issue target actor submission world

end Keeps

/-- A post-function that was run: its rule, the world that it found, what came of it and the world
that it left. -/
structure Visit where
  rule : PostFunctionRule
  before : World
  outcome : Option (Attempt × Option String)
  after : World

/-- A visit fails with a message, or it panics. -/
def Visit.Failed (visit : Visit) : Prop :=
  ∀ left, visit.outcome ≠ some (left, none)

/-- The visits that a run of post-functions makes. -/
def visits (attempt : Attempt) : List PostFunctionRule → World → List Visit
  | [], _ => []
  | rule :: rules, world =>
    let (outcome, after) := executor.runPostFunction attempt rule.content world
    ⟨rule, world, outcome, after⟩ :: match outcome with
      | none => []
      | some (left, _) => visits left rules after

theorem visits_cons (attempt : Attempt) (rule : PostFunctionRule)
    (rules : List PostFunctionRule) (world : World) :
    executor.visits attempt (rule :: rules) world =
      match executor.runPostFunction attempt rule.content world with
      | (none, after) => [⟨rule, world, none, after⟩]
      | (some (left, failure), after) =>
        ⟨rule, world, some (left, failure), after⟩ :: executor.visits left rules after := by
  rw [visits]
  rcases executor.runPostFunction attempt rule.content world with ⟨_ | _, after⟩ <;> rfl

/-- Visits lead from one world to another, each from where the one before it ended. -/
def Chained : World → List Visit → World → Prop
  | world, [], final => final = world
  | world, visit :: visits, final => visit.before = world ∧ Chained visit.after visits final

/-- What a failure adds to the warnings. -/
def warningsOf (rule : PostFunctionRule) (failure : Option String) : List Warning :=
  (failure.map (warningOf rule)).toList

theorem runPostFunctions_cons (attempt : Attempt) (rule : PostFunctionRule)
    (rules : List PostFunctionRule) (world : World) :
    executor.runPostFunctions attempt (rule :: rules) world =
      match executor.runPostFunction attempt rule.content world with
      | (none, after) => (none, after)
      | (some (left, failure), after) =>
        let rest := executor.runPostFunctions left rules after
        (rest.1.map fun (issue, warnings) => (issue, warningsOf rule failure ++ warnings),
          rest.2) := by
  rw [runPostFunctions]
  show (match executor.runPostFunction attempt rule.content world with
    | (outcome, after) => (match outcome with
      | none => pure none
      | some (left, failure) => do
        let rest ← executor.runPostFunctions left rules
        return rest.map fun (issue, warnings) => (issue, warningsOf rule failure ++ warnings) :
          StateM World (Option (Issue × List Warning))) after) = _
  rcases executor.runPostFunction attempt rule.content world with ⟨_ | _, after⟩ <;> rfl

/-- A run of post-functions goes from visit to visit. -/
theorem visits_chained (attempt : Attempt) (rules : List PostFunctionRule) (world : World) :
    Chained world (executor.visits attempt rules world)
      (executor.runPostFunctions attempt rules world).2 := by
  induction rules generalizing attempt world with
  | nil => rfl
  | cons rule rules ih =>
    rw [visits_cons, runPostFunctions_cons]
    rcases executor.runPostFunction attempt rule.content world with ⟨_ | ⟨left, failure⟩, after⟩
    · exact ⟨rfl, rfl⟩
    · exact ⟨rfl, ih left after⟩

/-- The warning of a visit that failed with a message. -/
def Visit.warning? (visit : Visit) : Option Warning :=
  visit.outcome.bind fun outcome => outcome.2.map (warningOf visit.rule)

/-- Unless one of them panics, the warnings are those of the visits that failed. -/
theorem runPostFunctions_warnings (attempt : Attempt) (rules : List PostFunctionRule)
    (world : World)
    (ended : ∀ visit ∈ executor.visits attempt rules world, visit.outcome ≠ none) :
    (executor.runPostFunctions attempt rules world).1.map Prod.snd =
      some ((executor.visits attempt rules world).filterMap Visit.warning?) := by
  induction rules generalizing attempt world with
  | nil => rfl
  | cons rule rules ih =>
    rw [visits_cons] at ended ⊢
    rw [runPostFunctions_cons]
    rcases run : executor.runPostFunction attempt rule.content world with
      ⟨_ | ⟨left, failure⟩, after⟩ <;> rw [run] at ended
    · exact absurd rfl (ended _ List.mem_cons_self)
    · have rest := ih left after fun visit member => ended visit (List.mem_cons_of_mem _ member)
      obtain ⟨⟨issue, warnings⟩, answered, same⟩ := Option.map_eq_some_iff.1 rest
      simp only [answered, Option.map_some, List.filterMap_cons, Visit.warning?, Option.bind_some]
      rw [← same]
      cases failure <;> rfl

/-- Unless one of them panics, every rule is visited. -/
theorem visits_rules_of_ended (attempt : Attempt) (rules : List PostFunctionRule) (world : World)
    (ended : ∀ visit ∈ executor.visits attempt rules world, visit.outcome ≠ none) :
    (executor.visits attempt rules world).map Visit.rule = rules := by
  induction rules generalizing attempt world with
  | nil => rfl
  | cons rule rules ih =>
    rw [visits_cons] at ended ⊢
    rcases run : executor.runPostFunction attempt rule.content world with
      ⟨_ | ⟨left, failure⟩, after⟩ <;> rw [run] at ended
    · exact absurd rfl (ended _ List.mem_cons_self)
    · exact congrArg (rule :: ·) (ih left after fun visit member =>
        ended visit (List.mem_cons_of_mem _ member))

/-- What holds of every run of one post-function holds of every visit. -/
theorem forall_visits {Holds : Visit → Prop}
    (each : ∀ attempt (rule : PostFunctionRule) world outcome after,
      executor.runPostFunction attempt rule.content world = (outcome, after) →
        Holds ⟨rule, world, outcome, after⟩)
    (attempt : Attempt) (rules : List PostFunctionRule) (world : World) :
    ∀ visit ∈ executor.visits attempt rules world, Holds visit := by
  induction rules generalizing attempt world with
  | nil => exact List.forall_mem_nil _
  | cons rule rules ih =>
    rw [visits_cons]
    rcases run : executor.runPostFunction attempt rule.content world with
      ⟨_ | ⟨left, failure⟩, after⟩ <;> have first := each attempt rule world _ after run
    · exact List.forall_mem_singleton.2 first
    · exact List.forall_mem_cons.2 ⟨first, ih left after⟩

end Executor

end IssueFlow
