import IssueFlow.Proofs.JudgedValues

/-!
# Attempts with the library's evaluators

Where all evaluators are those of the library, gates change nothing and post-functions neither sleep
nor panic. So an attempt that goes through commits in the world that it found and then visits every
rule of its edge (`Executor.Trail`). A visit has one of a few effects (`PostFunction.Effect`). What
the rules see of the issue changes from visit to visit, but it stays the issue that is stored
(`Store.Shows`).
-/

namespace IssueFlow

/-- The world once a row was put in the place of the issue with its key. -/
def World.over (world : World) (row : Issue) : World :=
  { world with
    store.tables.issueLog.issues := world.store.tables.issueLog.issues.put row }

namespace PostFunction

/-- The field of the issue itself that a post-function writes. -/
def ownField? : PostFunction → Option FieldRef
  | updateField field _ | clearField field | copyFieldValue _ field .thisIssue => some field
  | assignToReporter | assignToLead => some (.standard .assignee)
  | _ => none

/-- The field of the parent that a post-function writes. -/
def parentField? : PostFunction → Option FieldRef
  | updateParent field _ | copyFieldValue _ field .parent => some field
  | _ => none

/-- Whether a post-function puts something into the outbox. -/
def dispatches : PostFunction → Bool
  | sendNotification _ _ | triggerWebhook _ => true
  | _ => false

/-- What a post-function that dispatches says of an attempt; it has to find the recipients. -/
def notification? (attempt : Attempt) (store : Store) : PostFunction → Option Notification
  | sendNotification event recipients =>
    ((resolveRecipients attempt recipients).run store).toOption.map
      (.event event attempt.issue.id attempt.issue.key attempt.transition.id attempt.actor)
  | triggerWebhook url => some (.webhook url attempt.payload)
  | _ => none

/-- What a post-function of the library does: its answer and the world that it leaves. -/
inductive Effect (attempt : Attempt) (world : World) :
    PostFunction → Except TransitionError Issue → World → Prop where
  | failed (postFunction : PostFunction) (e : TransitionError)
      (reason : postFunction.dispatches = true → world.store.unavailable = true) :
      Effect attempt world postFunction (.error e) world
  | refused (postFunction : PostFunction) (notification : Notification) (refusal : DispatchError)
      (tells : postFunction.notification? attempt world.store = some notification)
      (full : world.outbox.send notification = .error refusal) :
      Effect attempt world postFunction (.error (.dispatch refusal)) world
  | sent (postFunction : PostFunction) (notification : Notification) (outbox : Outbox)
      (tells : postFunction.notification? attempt world.store = some notification)
      (queued : world.outbox.send notification = .ok outbox) :
      Effect attempt world postFunction (.ok attempt.issue) { world with outbox }
  | wrote (postFunction : PostFunction) (field : FieldRef) (value : Json) (current written : Issue)
      (names : postFunction.ownField? = some field)
      (stored : world.store.tables.issueLog.issues.get? attempt.issue.id = some current)
      (taken : current.setField field value = .ok written) :
      Effect attempt world postFunction (.ok { written with updatedAt := world.store.now })
        (world.over { written with updatedAt := world.store.now })
  | wroteParent (postFunction : PostFunction) (field : FieldRef) (value : Json)
      (parent written : Issue) (names : postFunction.parentField? = some field)
      (child : attempt.issue.parentId = some parent.id)
      (stored : world.store.tables.issueLog.issues.get? parent.id = some parent)
      (taken : parent.setField field value = .ok written) :
      Effect attempt world postFunction (.ok attempt.issue)
        (world.over { written with updatedAt := world.store.now })
  | orphan (field : FieldRef) (value : Json) :
      Effect attempt world (updateParent field value) (.ok attempt.issue) world
  | commented (body : String) :
      Effect attempt world (addComment body) (.ok attempt.issue)
        { world with
          store.tables.issueLog := world.store.tables.issueLog.pushComment attempt.issue.id
            attempt.actor body world.store.now }

end PostFunction

theorem writeField_cases (id : IssueId) (field : FieldRef) (value : Json) (world : World) :
    (∃ e, (writeField id field value).run world = (.error e, world)) ∨
      ∃ current written : Issue, world.store.tables.issueLog.issues.get? id = some current ∧
        current.setField field value = .ok written ∧
        (writeField id field value).run world =
          (.ok { written with updatedAt := world.store.now },
            world.over { written with updatedAt := world.store.now }) := by
  have clean := IssueLog.updateFields_failsClean id [⟨field, value⟩]
  rcases write_cases (fun now => (clean now).onIssueLog) world with
    failed | ⟨row, tables, done, executed⟩
  · exact .inl failed
  · obtain ⟨log, updated, rfl⟩ := within_eq_ok_iff.1 done
    obtain ⟨current, written, stored, wrote, rfl, rfl⟩ := IssueLog.updateFields_eq_ok updated
    obtain ⟨first, taken, rest⟩ := ok_of_bind wrote
    cases rest
    exact .inr ⟨current, written, stored, taken, executed⟩

namespace PostFunction

private theorem effect_of_writeField {attempt : Attempt} {postFunction : PostFunction}
    {field : FieldRef} {value : Json} (names : postFunction.ownField? = some field)
    (silent : postFunction.dispatches = false) (world : World) :
    Effect attempt world postFunction ((writeField attempt.issue.id field value).run world).1
      ((writeField attempt.issue.id field value).run world).2 := by
  rcases writeField_cases attempt.issue.id field value world with
    ⟨e, failed⟩ | ⟨current, written, stored, taken, executed⟩
  · rw [failed]
    exact .failed _ e fun loud => by cases silent.symm.trans loud
  · rw [executed]
    exact .wrote _ field value current written names stored taken

/-- The parent that is found is the stored row that the issue names. -/
private theorem parent_run_ok {attempt : Attempt} {store : Store} {parent : Issue}
    (found : attempt.parent.run store = .ok parent) :
    attempt.issue.parentId = some parent.id ∧
      store.tables.issueLog.issues.get? parent.id = some parent := by
  rw [Attempt.parent] at found
  cases child : attempt.issue.parentId with
  | none =>
    rw [child] at found
    cases found
  | some parentId =>
    rw [child] at found
    have stored := (Query.lookFor_run_ok found).2
    obtain rfl : parent.id = parentId := Table.key_of_get? stored
    exact ⟨rfl, stored⟩

private theorem effect_of_writeParentField {attempt : Attempt} {postFunction : PostFunction}
    {field : FieldRef} {value : Json} (names : postFunction.parentField? = some field)
    (silent : postFunction.dispatches = false) (world : World) :
    Effect attempt world postFunction ((writeParentField attempt field value).run world).1
      ((writeParentField attempt field value).run world).2 := by
  have quiet : postFunction.dispatches = true → world.store.unavailable = true := by
    intro loud
    cases silent.symm.trans loud
  rw [writeParentField, run_bind, Query.run_ask]
  cases found : attempt.parent.run world.store with
  | error e => exact .failed _ e quiet
  | ok parent =>
    obtain ⟨child, stored⟩ := parent_run_ok found
    dsimp only
    rw [run_bind]
    rcases writeField_cases parent.id field value world with
      ⟨e, failed⟩ | ⟨current, written, storedToo, taken, executed⟩
    · rw [failed]
      exact .failed _ e quiet
    · cases stored.symm.trans storedToo
      rw [executed]
      exact .wroteParent _ field value parent written names child stored taken

/-- A notification that is told is put into the outbox, or refused. -/
private theorem effect_of_send {attempt : Attempt} {postFunction : PostFunction}
    {notification : Notification} {world : World}
    (tells : postFunction.notification? attempt world.store = some notification) :
    Effect attempt world postFunction
      ((Run.send notification >>= fun _ => pure attempt.issue : Run Issue).run world).1
      ((Run.send notification >>= fun _ => pure attempt.issue : Run Issue).run world).2 := by
  rw [run_bind, send_run]
  cases queued : world.outbox.send notification with
  | ok outbox => exact .sent _ notification outbox tells queued
  | error refusal => exact .refused _ notification refusal tells queued

/-- A query that fails on an available store is not one for recipients. -/
private theorem resolveRecipients_run {store : Store} (available : store.unavailable = false)
    (attempt : Attempt) (recipients : List Recipient) :
    ∃ users, (resolveRecipients attempt recipients).run store = .ok users := by
  have all : ∃ users, (recipientUsers attempt recipients).run store = .ok users := by
    induction recipients with
    | nil => exact ⟨[], rfl⟩
    | cons recipient recipients ih =>
      obtain ⟨users, resolved⟩ := ih
      have first : ∃ user, (recipient.user? attempt).run store = .ok user := by
        cases recipient with
        | projectLead => exact ⟨_, Query.look_run available _⟩
        | reporter | assignee | user => exact ⟨_, rfl⟩
      obtain ⟨user, found⟩ := first
      rw [recipientUsers, Query.bind_run_of_ok found, Query.bind_run_of_ok resolved]
      exact ⟨_, rfl⟩
  obtain ⟨users, resolved⟩ := all
  rw [resolveRecipients, Query.bind_run_of_ok resolved]
  exact ⟨_, rfl⟩

/-- A post-function of the library has one of these effects. -/
theorem effect_of_apply (attempt : Attempt) (postFunction : PostFunction) (world : World) :
    Effect attempt world postFunction ((postFunction.apply attempt).run world).1
      ((postFunction.apply attempt).run world).2 := by
  cases postFunction with
  | updateField | clearField | assignToReporter => exact effect_of_writeField rfl rfl world
  | assignToLead =>
    rw [apply, run_bind, Query.run_ask]
    cases attempt.lead.run world.store with
    | error e => exact .failed _ e (by rintro ⟨⟩)
    | ok lead => exact effect_of_writeField rfl rfl world
  | copyFieldValue source target copyTarget =>
    cases copyTarget with
    | thisIssue => exact effect_of_writeField rfl rfl world
    | parent => exact effect_of_writeParentField rfl rfl world
  | addComment body =>
    rw [apply, run_bind]
    rcases write_cases (fun now => (IssueLog.addComment_failsClean attempt.issue.id attempt.actor
        body now).onIssueLog) world with
      ⟨e, failed⟩ | ⟨_, tables, done, executed⟩
    · rw [failed]
      exact .failed _ e (by rintro ⟨⟩)
    · rw [executed]
      obtain ⟨log, added, rfl⟩ := within_eq_ok_iff.1 done
      obtain ⟨_, -, pushed⟩ := ok_of_check (looked added)
      cases pushed
      exact .commented body
  | sendNotification event recipients =>
    rw [apply, run_bind, Query.run_ask]
    cases resolved : (resolveRecipients attempt recipients).run world.store with
    | error e =>
      refine .failed _ e fun _ => ?_
      by_contra switch
      obtain ⟨users, answered⟩ :=
        resolveRecipients_run (Bool.eq_false_iff.2 switch) attempt recipients
      cases resolved.symm.trans answered
    | ok users =>
      refine effect_of_send ?_
      rw [notification?, resolved]
      rfl
  | triggerWebhook url => exact effect_of_send rfl
  | updateParent field value =>
    rw [apply]
    by_cases single : attempt.issue.parentId.isNone
    · rw [if_pos single]
      exact .orphan field value
    · rw [if_neg single]
      exact effect_of_writeParentField rfl rfl world

end PostFunction

/-- The issue is the stored one. A rule that writes to an issue that is its own parent leaves what
the rules see behind, but for the columns of the creation. -/
structure Store.Shows (store : Store) (issue : Issue) : Prop where
  known : ∃ row, store.tables.issueLog.issues.get? issue.id = some row ∧
    row.origin = issue.origin
  current : issue.parentId ≠ some issue.id →
    store.tables.issueLog.issues.get? issue.id = some issue

theorem Store.shows_of_stored {store : Store} {issue : Issue}
    (stored : store.tables.issueLog.issues.get? issue.id = some issue) : store.Shows issue :=
  ⟨⟨issue, stored, rfl⟩, fun _ => stored⟩

theorem World.get?_over (world : World) (row : Issue) (id : IssueId) :
    (world.over row).store.tables.issueLog.issues.get? id =
      if row.id = id then some row else world.store.tables.issueLog.issues.get? id :=
  Table.get?_put _ _ _

section Effect

variable {attempt : Attempt} {postFunction : PostFunction} {world after : World}
  {answer : Except TransitionError Issue}
  (effect : PostFunction.Effect attempt world postFunction answer after)

include effect

theorem PostFunction.Effect.unavailable :
    after.store.unavailable = world.store.unavailable := by
  cases effect <;> rfl

/-- The next rule sees an issue that was created as the one was that this rule saw. -/
theorem PostFunction.Effect.origin (shown : world.store.Shows attempt.issue) :
    (answer.toOption.getD attempt.issue).origin = attempt.issue.origin := by
  cases effect with
  | wrote _ field value current written names stored taken =>
    obtain ⟨row, storedToo, created⟩ := shown.known
    cases stored.symm.trans storedToo
    exact (Issue.setField_fixed taken).1.trans created
  | failed | refused | sent | wroteParent | orphan | commented => rfl

/-- The next rule sees the issue that is stored by then. -/
theorem PostFunction.Effect.shows (shown : world.store.Shows attempt.issue) :
    after.store.Shows (answer.toOption.getD attempt.issue) := by
  cases effect with
  | wrote _ field value current written names stored taken =>
    refine Store.shows_of_stored ?_
    rw [World.get?_over]
    exact if_pos rfl
  | wroteParent _ field value parent written names child stored taken =>
    have id : written.id = parent.id := Issue.id_of_origin (Issue.setField_fixed taken).1
    obtain ⟨row, storedToo, created⟩ := shown.known
    refine ⟨?_, fun other => ?_⟩
    · rw [World.get?_over]
      split
      · next own =>
        obtain rfl : parent = row := by
          have same : parent.id = attempt.issue.id := id.symm.trans own
          rw [same, storedToo] at stored
          exact (Option.some.inj stored).symm
        exact ⟨_, rfl, (Issue.setField_fixed taken).1.trans created⟩
      · exact ⟨row, storedToo, created⟩
    · rw [World.get?_over, if_neg]
      · exact shown.current other
      · intro own
        exact other (child.trans (congrArg some (id.symm.trans own)))
  | failed | refused | sent | orphan => exact shown
  | commented body => exact ⟨shown.known, shown.current⟩

end Effect

/-! ## Runs -/

namespace Executor

variable {executor : Executor}

/-- The row that a commit answers is stored, and it was created as the one that it was written
over. -/
theorem shows_of_commit {attempt : Attempt} {target : StatusId} {world committed : World}
    {row : Issue} (done : (commit attempt target).run world = (.ok row, committed)) :
    committed.store.Shows row ∧
      ∃ stored, world.store.tables.issueLog.issues.get? attempt.issue.id = some stored ∧
        row.origin = stored.origin := by
  rcases commit_cases attempt target world with ⟨e, failed⟩ | ⟨next, log, -, logged, executed⟩
  · cases failed.symm.trans done
  · cases executed.symm.trans done
    obtain ⟨stored, found, -, overwrote, issues, -⟩ := IssueLog.commitTransition_eq_ok logged
    obtain ⟨written, wrote, rfl⟩ := IssueLog.rowOver_eq_ok_iff.1 overwrote
    refine ⟨Store.shows_of_stored ?_, stored, found, (Issue.applyUpdates_fixed wrote).1⟩
    exact (IssueLog.get?_of_put issues _).trans (if_pos rfl)

/-- Visits that each lead to a related world lead to one all together. -/
theorem related_of_chained {R : World → World → Prop} [IsPreorder World R] {visits : List Visit}
    {world final : World} (chained : Chained world visits final)
    (each : ∀ visit ∈ visits, R visit.before visit.after) : R world final := by
  induction visits generalizing world with
  | nil =>
    obtain rfl : final = world := chained
    exact Std.Refl.refl final
  | cons visit visits ih =>
    obtain ⟨rfl, chained⟩ := chained
    obtain ⟨first, rest⟩ := List.forall_mem_cons.1 each
    exact IsTrans.trans _ _ _ first (ih chained rest)

/-- What comes of a post-function of the library: the issue that it answers is seen from then on,
and an error leaves the attempt as it was. -/
def ended (attempt : Attempt) : Except TransitionError Issue → Attempt × Option String
  | .ok issue => ({ attempt with issue }, none)
  | .error e => (attempt, some e.message)

theorem ended_fst (attempt : Attempt) (answer : Except TransitionError Issue) :
    (ended attempt answer).1 =
      { attempt with issue := answer.toOption.getD attempt.issue } := by
  cases answer <;> rfl

/-- An answer without sleep comes in time. -/
theorem outcome_ofExcept (attempt : Attempt) (answer : Except TransitionError Issue) :
    executor.outcome (.ofExcept attempt answer) = some (ended attempt answer) := by
  have inTime : ¬ executor.timeout < 0 := Nat.not_lt_zero _
  cases answer with
  | ok issue => rw [Reaction.ofExcept, outcome, if_neg inTime]; rfl
  | error e => rw [Reaction.ofExcept, outcome, if_neg inTime]; rfl

/-- A post-function that the library evaluates ends with its answer. -/
theorem runPostFunction_usual {postFunction : PostFunction}
    (usual : executor.registry.postFunction? postFunction.type = some evaluatePostFunction)
    (attempt : Attempt) (world : World) :
    executor.runPostFunction attempt postFunction world =
      (some (ended attempt ((postFunction.apply attempt).run world).1),
        ((postFunction.apply attempt).run world).2) := by
  rw [runPostFunction, Registry.postFunction, usual, ← outcome_ofExcept]
  rfl

section Standard

variable {matcher : Matcher} (standard : executor.registry = .builtIn matcher)

include standard

theorem usual_of_standard (type : PostFunctionType) :
    executor.registry.postFunction? type = some evaluatePostFunction := by
  rw [standard]
  rfl

private theorem runPostFunction_standard (attempt : Attempt) (postFunction : PostFunction)
    (world : World) :
    executor.runPostFunction attempt postFunction world =
      (some (ended attempt ((postFunction.apply attempt).run world).1),
        ((postFunction.apply attempt).run world).2) :=
  runPostFunction_usual (usual_of_standard standard _) attempt world

private theorem visits_ended (attempt : Attempt) (rules : List PostFunctionRule) (world : World) :
    ∀ visit ∈ executor.visits attempt rules world, visit.outcome ≠ none := by
  refine forall_visits executor ?_ attempt rules world
  intro attempt rule world outcome after run
  rw [runPostFunction_standard standard] at run
  cases run
  rintro ⟨⟩

/-- What holds of an effect on a good world holds of every visit, when effects on good worlds leave
good ones: good for the issue that the next rule sees. -/
theorem forall_visits_standard (Good : Issue → World → Prop) {Holds : Visit → Prop}
    {attempt : Attempt} {rules : List PostFunctionRule}
    (each : ∀ seen world answer after, Good seen world → ∀ rule ∈ rules,
      PostFunction.Effect { attempt with issue := seen } world rule.content answer after →
        Holds ⟨rule, world, some (ended { attempt with issue := seen } answer), after⟩ ∧
          Good (answer.toOption.getD seen) after)
    {world : World} (good : Good attempt.issue world) :
    ∀ visit ∈ executor.visits attempt rules world, Holds visit := by
  induction rules generalizing attempt world with
  | nil => exact List.forall_mem_nil _
  | cons rule rules ih =>
    have effect := PostFunction.effect_of_apply attempt rule.content world
    have first := each attempt.issue world _ _ good rule List.mem_cons_self effect
    have later : ∀ {seen world}, Good seen world →
        ∀ visit ∈ executor.visits { attempt with issue := seen } rules world, Holds visit := by
      intro seen world good
      refine ih ?_ good
      intro seen world answer after good rule member
      exact each seen world answer after good rule (List.mem_cons_of_mem _ member)
    rw [visits_cons, runPostFunction_standard standard]
    cases answered : ((rule.content.apply attempt).run world).1 with
    | ok issue =>
      rw [answered] at first
      exact List.forall_mem_cons.2 ⟨first.1, later first.2⟩
    | error e =>
      rw [answered] at first
      exact List.forall_mem_cons.2 ⟨first.1, later first.2⟩

theorem untouched_of_take_error {issue : Issue} {target : StatusId} {actor : UserId}
    {submission : Submission} {world after : World} {e : TransitionError}
    (failed : (executor.take issue target actor submission).run world = (.error e, after)) :
    world.Untouched after := by
  have harmless : executor.registry.Harmless := standard ▸ .builtIn
  have untouched := take_landed_or_untouched harmless issue target actor submission world
  rw [failed] at untouched
  exact untouched

end Standard

/-- What lies behind a transition that was taken: a commit in the world as it was found, and a visit
of every post-function of the edge, one after the other, with a warning for each that failed. -/
structure Trail (executor : Executor) (issue : Issue) (target : StatusId) (actor : UserId)
    (submission : Submission) (world : World) (taken : Taken) (after : World) (row : Issue)
    (committed : World) : Prop where
  available : world.store.unavailable = false
  commit : (commit ⟨issue, actor, taken.transition, submission⟩ target).run world =
    (.ok row, committed)
  followers : executor.followers issue target actor submission world =
    executor.visits ⟨row, actor, taken.transition, submission⟩
      (world.store.tables.graph.postFunctionsOf taken.transition.id) committed
  chained : Chained committed (executor.followers issue target actor submission world) after
  rules : (executor.followers issue target actor submission world).map Visit.rule =
    world.store.tables.graph.postFunctionsOf taken.transition.id
  warnings : taken.warnings =
    (executor.followers issue target actor submission world).filterMap Visit.warning?

theorem trail_of_take {matcher : Matcher} (standard : executor.registry = .builtIn matcher)
    {issue : Issue} {target : StatusId} {actor : UserId} {submission : Submission}
    {world after : World} {taken : Taken}
    (run : (executor.take issue target actor submission).run world = (.ok taken, after)) :
    ∃ row committed,
      executor.Trail issue target actor submission world taken after row committed := by
  have harmless : executor.registry.Harmless := standard ▸ .builtIn
  have kept : executor.registry.GatesKeep Eq := standard ▸ Registry.builtIn_gatesKeep
  have judged := prepare_keeps kept issue target actor submission world
  have landed := take_landed_or_untouched harmless issue target actor submission world
  rw [run] at landed
  cases executor.course_of_take run with
  | taken attempt plan ready row committed after followed prepared done behind =>
    rw [prepared] at judged
    cases (show world = ready from judged)
    obtain ⟨planned, -⟩ := gates_of_prepare prepared
    have available := available_of_prepare executor prepared
    obtain rfl := planOf_of_plan available planned
    obtain ⟨rfl, rfl, rfl⟩ := prepare_ok executor prepared
    have followers : executor.followers attempt.issue target attempt.actor attempt.submission
        world = executor.visits { attempt with issue := row }
          (world.store.tables.graph.postFunctionsOf attempt.transition.id) committed :=
      followers_of_commit prepared done
    have ended := visits_ended standard { attempt with issue := row }
      (world.store.tables.graph.postFunctionsOf attempt.transition.id) committed
    refine ⟨row, committed, available, done, followers, ?_, ?_, landed.warned (followers ▸ ended)⟩
    · rw [followers]
      rw [followUp_eq] at behind
      cases behind
      exact visits_chained executor _ _ _
    · rw [followers]
      exact visits_rules_of_ended executor _ _ _ ended

end Executor

end IssueFlow
