import IssueFlow.Proofs.PostFunctions

/-!
# The history of statuses

The history of every stored issue in a reachable store tells how it came to its status. Operations
and attempts only append to it, so that the validator `previousStatus` finds in it just the statuses
that the issue has been in.
-/

namespace IssueFlow

/-- Evaluators reach the store only by its operations. -/
structure Registry.ThroughStore (registry : Registry) : Prop where
  gates : registry.GatesKeep (World.Along Store.Leads)
  postFunctions : registry.PostFunctionsKeep (World.Along Store.Leads)

private theorem Registry.ThroughStore.builtIn {matcher : Matcher} :
    (Registry.builtIn matcher).ThroughStore := by
  refine ⟨builtIn_gatesKeep, ?_⟩
  exact builtIn_quiet.mono Store.LeadsBy.leads

namespace Executor

private theorem commit_leads (attempt : Attempt) (target : StatusId) :
    Keeps (World.Along Store.Leads) (commit attempt target).run := by
  intro world
  let commitment := commitOf attempt target world.store.now
  refine ⟨[.operation (.onIssueLog (.commitTransition commitment))], ?_⟩
  show (world.store.update (Tables.onIssueLog (IssueLog.commitTransition commitment))).2 =
    (world.store.update
      (Tables.onIssueLog (answering .issue (IssueLog.commitTransition commitment)))).2
  exact (Store.update_answering world.store Answer.issue _).symm

variable {executor : Executor}

/-- An attempt takes the store through some of its steps. -/
private theorem take_leads (through : executor.registry.ThroughStore) (issue : Issue)
    (target : StatusId) (actor : UserId) (submission : Submission) :
    Keeps (World.Along Store.Leads) (executor.take issue target actor submission).run :=
  take_keeps through.postFunctions through.gates commit_leads issue target actor submission

private theorem transition_leads (through : executor.registry.ThroughStore) (id : IssueId)
    (target : StatusId) (actor : UserId) (submission : Submission) :
    Keeps (World.Along Store.Leads)
      (Service.transition executor id target actor submission).run :=
  transition_keeps through.postFunctions through.gates commit_leads id target actor submission

end Executor

/-- The validator passes when the status is in the history. -/
private theorem previousStatus_run {matcher : Matcher} {store : Store}
    (available : store.unavailable = false) (attempt : Attempt) (status : StatusId) :
    ((Validator.previousStatus status).judge matcher attempt).run store = .ok .pass ↔
      ∃ entry ∈ store.tables.issueLog.historyOf attempt.issue.id, entry.toStatus = status := by
  rw [Validator.judge, Query.bind_run_of_ok (Query.look_run available _), Query.run_pure,
    Except.ok.injEq, Verdict.check_eq_pass_iff, List.any_eq_true]
  simp only [beq_iff_eq]

/-- The history of a stored issue is faithful in every reachable store. Steps of the store, attempts
and transitions through the service only append to histories, and leave the issue as it was created.
So the validator `previousStatus` passes exactly for the statuses that the issue has been in at some
point of the run. -/
theorem status_history_faithful (executor : Executor) (through : executor.registry.ThroughStore) :
    (∀ store : Store, store.Reachable → ∀ id issue,
      store.tables.issueLog.issues.get? id = some issue →
        IssueLog.Faithful (store.tables.issueLog.historyOf id) issue.statusId) ∧
    (∀ (store : Store) step, store.Grows (store.step step)) ∧
    (∀ (world : World) issue target actor submission, world.store.Grows
      ((executor.take issue target actor submission).run world).2.store) ∧
    (∀ (world : World) id target actor submission, world.store.Grows
      ((Service.transition executor id target actor submission).run world).2.store) ∧
    ∀ (matcher : Matcher) steps (attempt : Attempt) status,
      (({} : Store).after steps).unavailable = false →
        (((Validator.previousStatus status).judge matcher attempt).run (({} : Store).after steps) =
            .ok .pass ↔
          ∃ past later, steps = past ++ later ∧
            (({} : Store).after past).IsIn attempt.issue.id status) := by
  refine ⟨?_, Store.step_grows, ?_, ?_, ?_⟩
  · intro store reached id issue stored
    exact reached.logged.stored stored
  · intro world issue target actor submission
    exact Store.Leads.grows (Executor.take_leads through issue target actor submission world)
  · intro world id target actor submission
    exact Store.Leads.grows (Executor.transition_leads through id target actor submission world)
  · intro matcher steps attempt status available
    rw [previousStatus_run available]
    exact Store.mem_history_iff_past steps attempt.issue.id status

/-- The sample issue is finished. -/
def Sample.finishedSteps : List Store.Step :=
  steps ++ [.operation (.onIssueLog (.commitTransition
    (Executor.commitOf ⟨issue, reporter.id, edge, submission⟩ ⟨"done"⟩ ⟨7, 0⟩)))]

/-- The finished issue is in its second status and has been in its first one. The history tells so,
and the validator knows. -/
theorem sample_history :
    Registry.builtIn.ThroughStore ∧
    let store := ({} : Store).after Sample.finishedSteps
    ∃ issue, store.tables.issueLog.issues.get? Sample.issue.id = some issue ∧
      issue.statusId = ⟨"done"⟩ ∧
      IssueLog.Faithful (store.tables.issueLog.historyOf Sample.issue.id) issue.statusId ∧
      store.tables.issueLog.historyOf Sample.issue.id = [
        ⟨Sample.issue.id, none, ⟨"open"⟩, Sample.reporter.id, ⟨0, 0⟩⟩,
        ⟨Sample.issue.id, some ⟨"open"⟩, ⟨"done"⟩, Sample.reporter.id, ⟨7, 0⟩⟩] ∧
      ∀ status ∈ [⟨"open"⟩, ⟨"done"⟩], ∃ past later, Sample.finishedSteps = past ++ later ∧
        (({} : Store).after past).IsIn Sample.issue.id status := by
  obtain ⟨faithful, -, -, -, passes⟩ := status_history_faithful {} .builtIn
  have moved : ((({} : Store).after Sample.finishedSteps).tables.issueLog.issues.get?
      Sample.issue.id).map (·.statusId) = some ⟨"done"⟩ := by
    decide +kernel
  have logged : (({} : Store).after Sample.finishedSteps).tables.issueLog.historyOf
      Sample.issue.id = [
        ⟨Sample.issue.id, none, ⟨"open"⟩, Sample.reporter.id, ⟨0, 0⟩⟩,
        ⟨Sample.issue.id, some ⟨"open"⟩, ⟨"done"⟩, Sample.reporter.id, ⟨7, 0⟩⟩] := by
    decide +kernel
  have passed : ∀ status ∈ [⟨"open"⟩, ⟨"done"⟩], ((Validator.previousStatus status).judge
      .builtIn ⟨Sample.issue, Sample.reporter.id, Sample.edge, {}⟩).run
        (({} : Store).after Sample.finishedSteps) = .ok .pass := by
    decide +kernel
  obtain ⟨issue, stored, status⟩ := Option.map_eq_some_iff.1 moved
  refine ⟨.builtIn, issue, stored, status, ?_, logged, fun status listed => ?_⟩
  · exact faithful _ ⟨Sample.finishedSteps, rfl⟩ _ _ stored
  · exact (passes .builtIn Sample.finishedSteps _ _ (by decide +kernel)).1 (passed status listed)

end IssueFlow
