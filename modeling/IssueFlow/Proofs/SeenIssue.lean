import IssueFlow.Proofs.Legs

/-!
# The issue that post-functions see

With the evaluators of the library, post-functions see the issue as it is stored, before and after
each of them, whether it succeeds or fails (`Store.Has`). An issue that is its own parent is left
out: what a rule writes to the parent is then written behind the back of the next one.
-/

namespace IssueFlow

private theorem Issue.parentId_of_origin {a b : Issue} (same : a.origin = b.origin) :
    a.parentId = b.parentId :=
  congrArg (·.2.2.2.2.1) same

/-- The store can be read and has this issue as the row of the one that was created so, in the
status. -/
structure Store.Has (store : Store) (created : Issue) (status : StatusId) (issue : Issue) :
    Prop where
  available : store.unavailable = false
  stored : store.tables.issueLog.issues.get? created.id = some issue
  origin : issue.origin = created.origin
  status : issue.statusId = status

namespace Store.Has

variable {store : Store} {created issue : Issue} {status : StatusId}
  (has : store.Has created status issue)

include has

private theorem read :
    store.read (fun t => t.issueLog.issues.get? created.id) = .ok (some issue) := by
  rw [Store.read_of_available has.available, has.stored]

private theorem own : store.tables.issueLog.issues.get? issue.id = some issue := by
  rw [Issue.id_of_origin has.origin]
  exact has.stored

end Store.Has

section Effect

variable {attempt : Attempt} {postFunction : PostFunction} {world after : World}
  {answer : Except TransitionError Issue}
  (effect : PostFunction.Effect attempt world postFunction answer after)

include effect

/-- No post-function moves the issue that it finds stored. -/
private theorem PostFunction.Effect.status
    (stored : world.store.tables.issueLog.issues.get? attempt.issue.id = some attempt.issue) :
    (answer.toOption.getD attempt.issue).statusId = attempt.issue.statusId := by
  cases effect with
  | wrote _ field value current written names storedToo taken =>
    cases stored.symm.trans storedToo
    exact (Issue.setField_fixed taken).2
  | failed | refused | sent | wroteParent | orphan | commented => rfl

/-- A post-function that finds the issue stored leaves it stored, as the next one will see it. -/
private theorem PostFunction.Effect.has {created : Issue} {status : StatusId}
    (apart : created.parentId ≠ some created.id)
    (before : world.store.Has created status attempt.issue) :
    after.store.Has created status (answer.toOption.getD attempt.issue) := by
  have shown := Store.shows_of_stored before.own
  have origin := (effect.origin shown).trans before.origin
  have id := Issue.id_of_origin origin
  refine ⟨effect.unavailable.trans before.available, ?_, origin,
    (effect.status before.own).trans before.status⟩
  rw [← id]
  refine (effect.shows shown).current ?_
  rw [Issue.parentId_of_origin origin, id]
  exact apart

end Effect

namespace Executor

variable {executor : Executor}

/-- The row that a commit answers is stored, in the target. -/
private theorem has_of_commit {attempt : Attempt} {target : StatusId} {world committed : World}
    {row stored : Issue}
    (found : world.store.tables.issueLog.issues.get? attempt.issue.id = some stored)
    (done : (commit attempt target).run world = (.ok row, committed)) :
    committed.store.Has stored target row := by
  have written := committed_of_commit done
  obtain ⟨-, known, foundToo, origin⟩ := shows_of_commit done
  cases found.symm.trans foundToo
  have available : committed.store.unavailable = false := by
    rcases commit_cases attempt target world with ⟨e, failed⟩ | ⟨_, log, available, -, executed⟩
    · cases failed.symm.trans done
    · cases executed.symm.trans done
      exact available
  have id : stored.id = attempt.issue.id := Table.key_of_get? found
  exact ⟨available, id ▸ written.stored, origin, written.status⟩

private theorem Leg.Runs.has {leg : Leg} (runs : leg.Runs executor) {matcher : Matcher}
    (standard : executor.registry = .builtIn matcher) {created : Issue} {status : StatusId}
    (apart : created.parentId ≠ some created.id)
    (before : leg.before.store.Has created status leg.seen.issue) :
    leg.after.store.Has created status leg.left.issue := by
  obtain ⟨answer, -, left, effect⟩ := runs.effect (usual_of_standard standard _)
  rw [left]
  exact effect.has apart before

/-- Post-functions see the stored issue and return it. The issue is not its own parent. Behind a
transition that was taken with the evaluators of the library, the store answers before each leg the
issue that the rule of the leg sees, and after it, whether or not the rule succeeded, the issue that
the next rule will see; so each rule reads what those before it wrote. The issue of the result is
what the store answers in the end, and it is in the target. -/
theorem post_functions_see_stored_issue (executor : Executor) {matcher : Matcher}
    (standard : executor.registry = .builtIn matcher) (issue stored : Issue) (target : StatusId)
    (actor : UserId) (submission : Submission) (world after : World) (taken : Taken)
    (found : world.store.tables.issueLog.issues.get? issue.id = some stored)
    (apart : stored.parentId ≠ some stored.id)
    (run : (executor.take issue target actor submission).run world = (.ok taken, after)) :
    let answered (store : Store) := store.read fun t => t.issueLog.issues.get? issue.id
    ∃ row committed legs,
      executor.Finished issue target actor submission world taken after row committed legs ∧
      (∀ leg ∈ legs, answered leg.before.store = .ok (some leg.seen.issue) ∧
        answered leg.after.store = .ok (some leg.left.issue)) ∧
      answered after.store = .ok (some taken.issue) ∧
      taken.issue.statusId = target := by
  intro answered
  obtain ⟨row, committed, legs, finished⟩ := finished_of_take (calm_of_standard standard) run
  have kept : executor.registry.GatesKeep Eq := standard ▸ Registry.builtIn_gatesKeep
  have done := finished.commit
  rw [readied_of_gatesKeep kept] at done
  have id : stored.id = issue.id := Table.key_of_get? found
  obtain ⟨last, follow, same⟩ := finished.follow
  obtain ⟨around, ended⟩ := follow.throughout
    (fun seen world => world.store.Has stored target seen.issue)
    (fun leg member => (finished.ran leg member).has standard apart) (has_of_commit found done)
  have reads {store : Store} {seen : Issue} (has : store.Has stored target seen) :
      answered store = .ok (some seen) := by
    have read := has.read
    rwa [id] at read
  rw [← same] at ended
  refine ⟨row, committed, legs, finished, ?_, reads ended, ended.status⟩
  intro leg member
  exact ⟨reads (around leg member).1, reads (around leg member).2⟩

end Executor

namespace Sample

/-- Behind the edge of the sample the assignment still fails. Then a rule raises the priority, and
another one copies it to the description. -/
def copying : World where
  store := store.after [
    .operation (.onGraph (.addPostFunction ⟨⟨"R11"⟩, ⟨"T1"⟩,
      .updateField (.standard .priority) (.string "high"), position 1⟩)),
    .operation (.onGraph (.addPostFunction ⟨⟨"R12"⟩, ⟨"T1"⟩,
      .copyFieldValue (.standard .priority) (.standard .description) .thisIssue, position 2⟩))]
  outbox := .ofCapacity 4

def copyingRules : List PostFunctionRule := [
  ⟨⟨"R3"⟩, ⟨"T1"⟩, .assignToLead, position 0⟩,
  ⟨⟨"R11"⟩, ⟨"T1"⟩, .updateField (.standard .priority) (.string "high"), position 1⟩,
  ⟨⟨"R12"⟩, ⟨"T1"⟩,
    .copyFieldValue (.standard .priority) (.standard .description) .thisIssue, position 2⟩]

end Sample

/-- The copy sees what the update wrote, and so does the reader of the store. -/
theorem sample_seen :
    ({} : Executor).registry = .builtIn ∧
    Sample.copying.store.tables.issueLog.issues.get? Sample.issue.id = some Sample.issue ∧
    Sample.issue.parentId ≠ some Sample.issue.id ∧
    ∃ taken after, (({} : Executor).take Sample.issue ⟨"done"⟩ Sample.reporter.id
        Sample.submission).run Sample.copying = (.ok taken, after) ∧
      after.store.read (fun t => t.issueLog.issues.get? Sample.issue.id) =
        .ok (some taken.issue) ∧
      taken.issue.description = some "high" ∧ taken.issue.statusId = ⟨"done"⟩ ∧
      taken.warnings.length = 1 := by
  have stored : Sample.copying.store.tables.issueLog.issues.get? Sample.issue.id =
      some Sample.issue := by
    decide +kernel
  have apart : Sample.issue.parentId ≠ some Sample.issue.id := by decide
  have answered : ((({} : Executor).take Sample.issue ⟨"done"⟩ Sample.reporter.id
      Sample.submission).run Sample.copying).1.toOption.map (·.transition) = some Sample.edge := by
    decide +kernel
  have sorted : Sample.copying.store.tables.graph.postFunctionsOf Sample.edge.id =
      Sample.copyingRules :=
    byPosition_eq (by decide +kernel)
  have followed : ((({} : Executor).finish ⟨Sample.issue, Sample.reporter.id, Sample.edge,
      Sample.submission⟩ ⟨Sample.edge, [], [], Sample.copyingRules, none, []⟩ ⟨"done"⟩).run
        Sample.copying).1.toOption.map (fun taken => (taken.issue.description,
          taken.warnings.length)) = some (some "high", 1) := by
    decide +kernel
  obtain ⟨taken, after, run, along⟩ := ok_of_answer answered
  obtain ⟨row, committed, legs, -, -, reads, status⟩ :=
    Executor.post_functions_see_stored_issue {} rfl Sample.issue Sample.issue ⟨"done"⟩
      Sample.reporter.id Sample.submission Sample.copying after taken stored apart run
  rw [Executor.finish_of_take Registry.builtIn_gatesKeep run along sorted.symm] at followed
  obtain ⟨copied, warned⟩ := Prod.mk.inj (Option.some.inj followed)
  exact ⟨rfl, stored, apart, taken, after, run, reads, copied, status, warned⟩

end IssueFlow
