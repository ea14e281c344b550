import IssueFlow.Proofs.Legs

/-!
# Runs that are given up

A post-function that panics ends the run: the rules behind it are not visited, the result has the
issue as it was committed, and every rule of the edge is warned about (`Executor.Aborted`). What the
rules before it wrote stays written. So the result tells the truth only where none of them has
completed.
-/

namespace IssueFlow

namespace Executor

variable {executor : Executor}

/-- The library evaluates post-functions of the type. -/
def Usual (executor : Executor) (type : PostFunctionType) : Prop :=
  executor.registry.postFunction? type = some evaluatePostFunction

/-- One visit that panics, and the run has no result. -/
private theorem runPostFunctions_of_panicked {attempt : Attempt} {rules : List PostFunctionRule}
    {world : World}
    (breaks : ∃ visit ∈ executor.visits attempt rules world, visit.outcome = none) :
    (executor.runPostFunctions attempt rules world).1 = none := by
  induction rules generalizing attempt world with
  | nil =>
    obtain ⟨visit, member, -⟩ := breaks
    cases member
  | cons rule rules ih =>
    rw [visits_cons] at breaks
    rw [runPostFunctions_cons]
    rcases run : executor.runPostFunction attempt rule.content world with
      ⟨_ | ⟨left, failure⟩, after⟩
    · rfl
    · rw [run] at breaks
      rcases (List.exists_mem_cons_iff ..).1 breaks with panicked | later
      · cases panicked
      · exact Option.map_eq_none_iff.2 (ih later)

/-- A run without a result ends with the visit that panicked; the rules behind it are left. -/
private theorem visits_of_none {attempt : Attempt} {rules : List PostFunctionRule} {world : World}
    (given : (executor.runPostFunctions attempt rules world).1 = none) :
    ∃ front broken rest, executor.visits attempt rules world = front ++ [broken] ∧
      (∀ visit ∈ front, visit.outcome ≠ none) ∧ broken.outcome = none ∧
      rules = (front ++ [broken]).map Visit.rule ++ rest := by
  induction rules generalizing attempt world with
  | nil => cases given
  | cons rule rules ih =>
    rw [runPostFunctions_cons] at given
    rw [visits_cons]
    rcases run : executor.runPostFunction attempt rule.content world with ⟨outcome, after⟩
    rw [run] at given
    rcases outcome with _ | ⟨left, failure⟩
    · exact ⟨[], ⟨rule, world, none, after⟩, rules, rfl, List.forall_mem_nil _, rfl, rfl⟩
    · obtain ⟨front, broken, rest, visited, ended, panicked, same⟩ :=
        ih (Option.map_eq_none_iff.1 given)
      exact ⟨⟨rule, world, some (left, failure), after⟩ :: front, broken, rest,
        congrArg (_ :: ·) visited, List.forall_mem_cons.2 ⟨Option.some_ne_none _, ended⟩, panicked,
        congrArg (rule :: ·) same⟩

/-- Legs go as far as some of them, and on from there. -/
private theorem Follow.split {seen last : Attempt} {world final : World} {front back : List Leg}
    (follow : Follow seen world (front ++ back) last final) :
    ∃ middle mid, Follow seen world front middle mid ∧ Follow middle mid back last final := by
  induction front generalizing seen world with
  | nil => exact ⟨seen, world, .nil seen world, follow⟩
  | cons leg front ih =>
    cases follow with
    | cons _ rest =>
      obtain ⟨middle, mid, before, behind⟩ := ih rest
      exact ⟨middle, mid, .cons leg before, behind⟩

private theorem Follow.of_nil {seen last : Attempt} {world final : World}
    (follow : Follow seen world [] last final) : last = seen ∧ final = world := by
  cases follow
  exact ⟨rfl, rfl⟩

private theorem Follow.single {seen last : Attempt} {world final : World} {leg : Leg}
    (follow : Follow seen world [leg] last final) :
    seen = leg.seen ∧ world = leg.before ∧ last = leg.left ∧ final = leg.after := by
  cases follow with
  | cons _ rest => exact ⟨rfl, rfl, rest.of_nil⟩

/-- What lies behind a transition that was taken and whose post-functions were given up: a commit,
the legs up to the one that panicked, and rules that were never run. The result is what it would
have been had none of them run, with a warning for each. -/
structure Aborted (executor : Executor) (issue : Issue) (target : StatusId) (actor : UserId)
    (submission : Submission) (world : World) (taken : Taken) (after : World) (row : Issue)
    (committed : World) (legs : List Leg) (broken : Leg) (rest : List PostFunctionRule) :
    Prop where
  commit : (commit ⟨issue, actor, taken.transition, submission⟩ target).run
    (executor.readied issue target actor submission world) = (.ok row, committed)
  visits : (legs ++ [broken]).map Leg.toVisit =
    executor.followers issue target actor submission world
  rules : world.store.tables.graph.postFunctionsOf taken.transition.id =
    (legs ++ [broken]).map (·.rule) ++ rest
  ran : ∀ leg ∈ legs ++ [broken], leg.Runs executor
  ended : ∀ leg ∈ legs, leg.outcome ≠ none
  panicked : broken.outcome = none
  follow : Follow ⟨row, actor, taken.transition, submission⟩ committed (legs ++ [broken])
    broken.seen after
  issue : taken.issue = row
  warnings : taken.warnings =
    (world.store.tables.graph.postFunctionsOf taken.transition.id).map
      (warningOf · "post-function pipeline aborted")

private theorem aborted_of_take {issue : Issue} {target : StatusId} {actor : UserId}
    {submission : Submission} {world after : World} {taken : Taken}
    (run : (executor.take issue target actor submission).run world = (.ok taken, after))
    (breaks : ∃ visit ∈ executor.followers issue target actor submission world,
      visit.outcome = none) :
    ∃ row committed legs broken rest,
      executor.Aborted issue target actor submission world taken after row committed legs broken
        rest := by
  obtain ⟨row, committed, done, behind, followers, -⟩ := followed_of_take run
  rw [followers] at breaks
  have given := runPostFunctions_of_panicked breaks
  obtain ⟨legs, last, visited, ran, follow, -⟩ := executor.exists_legs
    ⟨row, actor, taken.transition, submission⟩
    (world.store.tables.graph.postFunctionsOf taken.transition.id) committed
  obtain ⟨front, visit, rest, split, ended, panicked, rules⟩ := visits_of_none given
  rw [followUp_eq, given] at behind
  obtain ⟨result, rfl⟩ := Prod.mk.inj behind
  obtain ⟨issued, warned⟩ := Prod.mk.inj result
  rw [← followers] at visited
  have parts := visited.trans (followers.trans split)
  obtain ⟨legs, tail, rfl, rfl, single⟩ := List.map_eq_append_iff.1 parts
  obtain ⟨broken, rfl, rfl⟩ := List.map_eq_singleton_iff.1 single
  have stayed : broken.left = broken.seen := by
    rw [Leg.left, panicked]
    rfl
  obtain ⟨_, _, -, lastLeg⟩ := follow.split
  have seen : last = broken.seen := lastLeg.single.2.2.1.trans stayed
  refine ⟨row, committed, legs, broken, rest, done, visited, ?_, ran, ?_, panicked, seen ▸ follow,
    issued.symm, warned.symm⟩
  · rw [rules]
    simp
  · intro leg member
    exact ended leg.toVisit (List.mem_map_of_mem member)

/-- A leg on which the library's evaluator did not complete has changed nothing. -/
private theorem Leg.Runs.idle {leg : Leg} (runs : leg.Runs executor)
    (usual : executor.Usual leg.rule.content.type) (fails : leg.completes = false) :
    leg.left = leg.seen ∧ leg.after = leg.before := by
  obtain ⟨answer, outcome, left, effect⟩ := runs.effect usual
  cases answer with
  | ok issue =>
    rw [completes, outcome] at fails
    cases fails
  | error e =>
    refine ⟨left, ?_⟩
    generalize leg.rule.content = postFunction, leg.after = after at effect
    cases effect with
    | failed | refused => rfl

/-- As long as no leg completes the world and the attempt stay as they were. -/
private theorem Follow.idle {seen last : Attempt} {world final : World} {legs : List Leg}
    (follow : Follow seen world legs last final)
    (idle : ∀ leg ∈ legs, leg.left = leg.seen ∧ leg.after = leg.before) :
    last = seen ∧ final = world := by
  induction follow with
  | nil seen world => exact ⟨rfl, rfl⟩
  | cons leg rest ih =>
    obtain ⟨⟨left, after⟩, others⟩ := List.forall_mem_cons.1 idle
    obtain ⟨last, final⟩ := ih others
    exact ⟨last.trans left, final.trans after⟩

/-- The rules of an aborted run whose work did not complete: those of the legs that failed or
panicked, and those that were never run. -/
def unfinished (legs : List Leg) (rest : List PostFunctionRule) : List PostFunctionRule :=
  (legs.filter fun leg => !leg.completes).map (·.rule) ++ rest

/-- Warnings name rules, by type and position, and none of them twice. -/
def Warns (warnings : List Warning) (rules : List PostFunctionRule) : Prop :=
  (warnings.map fun warning => (warning.type, warning.position)).Sublist
    (rules.map fun rule => (rule.content.type, rule.position))

/-- Warnings for all rules are warnings for the unfinished ones only where nothing completed. -/
private theorem warns_unfinished_iff (legs : List Leg) (rest : List PostFunctionRule)
    (message : String) :
    Warns ((legs.map (·.rule) ++ rest).map (warningOf · message)) (unfinished legs rest) ↔
      ∀ leg ∈ legs, leg.completes = false := by
  constructor
  · intro warns
    have count := warns.length_le
    simp only [unfinished, List.length_map, List.length_append, Nat.add_le_add_iff_right] at count
    have all := List.length_filter_eq_length_iff.1
      (Nat.le_antisymm (List.length_filter_le _ _) count)
    intro leg member
    simpa using all leg member
  · intro none
    have all : legs.filter (fun leg => !leg.completes) = legs :=
      List.filter_eq_self.2 fun leg member => by simp [none leg member]
    rw [Warns, unfinished, all, List.map_map]
    exact List.Sublist.refl _

/-- When a post-function panics, and those that ran before it are the library's, the issue of the
result is the stored one and only rules that did not complete are warned about, exactly when all
rules before the one that panicked failed and that one left the row of the issue as it was. -/
theorem aborted_result_true_iff (executor : Executor) (issue : Issue) (target : StatusId)
    (actor : UserId) (submission : Submission) (world after : World) (taken : Taken)
    (run : (executor.take issue target actor submission).run world = (.ok taken, after))
    (breaks : ∃ visit ∈ executor.followers issue target actor submission world,
      visit.outcome = none)
    (others : ∀ visit ∈ executor.followers issue target actor submission world,
      visit.outcome = none ∨ executor.Usual visit.rule.content.type) :
    ∃ row committed legs broken rest,
      executor.Aborted issue target actor submission world taken after row committed legs broken
        rest ∧
      (after.store.tables.issueLog.issues.get? issue.id = some taken.issue ∧
          Warns taken.warnings (unfinished (legs ++ [broken]) rest) ↔
        (∀ leg ∈ legs, leg.completes = false) ∧
          after.store.tables.issueLog.issues.get? issue.id =
            broken.before.store.tables.issueLog.issues.get? issue.id) := by
  obtain ⟨row, committed, legs, broken, rest, aborted⟩ := aborted_of_take run breaks
  refine ⟨row, committed, legs, broken, rest, aborted, ?_⟩
  have given : broken.completes = false := by
    rw [Leg.completes, aborted.panicked]
    rfl
  have warned : Warns taken.warnings (unfinished (legs ++ [broken]) rest) ↔
      ∀ leg ∈ legs, leg.completes = false := by
    rw [aborted.warnings, aborted.rules, warns_unfinished_iff, List.forall_mem_append]
    simp [given]
  rw [warned, and_comm]
  refine and_congr_right fun fails => ?_
  have idle : ∀ leg ∈ legs, leg.left = leg.seen ∧ leg.after = leg.before := by
    intro leg member
    have listed : leg ∈ legs ++ [broken] := List.mem_append_left _ member
    have usual := (others leg.toVisit (aborted.visits ▸ List.mem_map_of_mem listed)).resolve_left
      (aborted.ended leg member)
    exact (aborted.ran leg listed).idle usual (fails leg member)
  obtain ⟨middle, mid, before, behind⟩ := aborted.follow.split
  obtain ⟨-, mid_eq, -, -⟩ := behind.single
  rw [← mid_eq, (before.idle idle).2, (committed_of_commit aborted.commit).stored, aborted.issue]

end Executor

namespace Sample

/-- Webhooks panic at once, and the other post-functions are the library's. -/
def breaking : Executor where
  registry := Registry.builtIn.withPostFunction .triggerWebhook fun attempt _ =>
    return ⟨attempt, .panicked, 0⟩

def lead : PostFunctionRule :=
  ⟨⟨"R3"⟩, ⟨"T1"⟩, .assignToLead, position 0⟩

def raise : PostFunctionRule :=
  ⟨⟨"R11"⟩, ⟨"T1"⟩, .updateField (.standard .priority) (.string "high"), position 0⟩

def webhook (place : Int) : PostFunctionRule :=
  ⟨⟨"R13"⟩, ⟨"T1"⟩, .triggerWebhook "hook", position place⟩

/-- The webhook comes before the assignment. -/
def brokenFirst : World where
  store := store.after [.operation (.onGraph (.addPostFunction (webhook (-1))))]
  outbox := .ofCapacity 4

/-- The webhook comes after a rule that raises the priority. -/
def brokenLast : World where
  store := store.after [
    .operation (.onGraph (.deletePostFunction lead.id)),
    .operation (.onGraph (.addPostFunction raise)),
    .operation (.onGraph (.addPostFunction (webhook 1)))]
  outbox := .ofCapacity 4

/-- What is left of the plan of the edge behind its gates, the rules in the order in which they
run. -/
def brokenLastPlan : Plan :=
  ⟨edge, [], [], [raise, webhook 1], none, []⟩

end Sample

/-- With the webhook first nothing is written behind the commit, and the result is true. -/
theorem sample_aborted_true :
    ∃ taken after, (Sample.breaking.take Sample.issue ⟨"done"⟩ Sample.reporter.id
        Sample.submission).run Sample.brokenFirst = (.ok taken, after) ∧
      (∃ visit ∈ Sample.breaking.followers Sample.issue ⟨"done"⟩ Sample.reporter.id
        Sample.submission Sample.brokenFirst, visit.outcome = none) ∧
      (∀ visit ∈ Sample.breaking.followers Sample.issue ⟨"done"⟩ Sample.reporter.id
        Sample.submission Sample.brokenFirst,
          visit.outcome = none ∨ Sample.breaking.Usual visit.rule.content.type) ∧
      after.store.tables.issueLog.issues.get? Sample.issue.id = some taken.issue ∧
      Executor.Warns taken.warnings [Sample.webhook (-1), Sample.lead] := by
  have answered : ((Sample.breaking.take Sample.issue ⟨"done"⟩ Sample.reporter.id
      Sample.submission).run Sample.brokenFirst).1.toOption.map (·.transition) =
        some Sample.edge := by
    decide +kernel
  have sorted : Sample.brokenFirst.store.tables.graph.postFunctionsOf Sample.edge.id =
      [Sample.webhook (-1), Sample.lead] :=
    byPosition_eq (by decide +kernel)
  obtain ⟨taken, after, run, along⟩ := ok_of_answer answered
  obtain ⟨row, committed, -, -, only, -⟩ := Executor.followed_of_take run
  rw [along, sorted] at only
  have only : Sample.breaking.followers Sample.issue ⟨"done"⟩ Sample.reporter.id
      Sample.submission Sample.brokenFirst =
        [⟨Sample.webhook (-1), committed, none, committed⟩] := only
  have breaks : ∃ visit ∈ Sample.breaking.followers Sample.issue ⟨"done"⟩ Sample.reporter.id
      Sample.submission Sample.brokenFirst, visit.outcome = none :=
    ⟨_, only ▸ List.mem_singleton_self _, rfl⟩
  have others : ∀ visit ∈ Sample.breaking.followers Sample.issue ⟨"done"⟩ Sample.reporter.id
      Sample.submission Sample.brokenFirst,
        visit.outcome = none ∨ Sample.breaking.Usual visit.rule.content.type := by
    rw [only]
    exact List.forall_mem_singleton.2 (.inl rfl)
  obtain ⟨row, committed, legs, broken, rest, aborted, true_iff⟩ :=
    Executor.aborted_result_true_iff Sample.breaking Sample.issue ⟨"done"⟩ Sample.reporter.id
      Sample.submission Sample.brokenFirst after taken run breaks others
  have none_before : legs = [] := by
    have count := congrArg List.length (aborted.visits.trans only)
    simpa using count
  subst none_before
  have rules := aborted.rules
  rw [along, sorted] at rules
  have first : Sample.webhook (-1) = broken.rule := (List.cons.inj rules).1
  have behind : [Sample.lead] = rest := (List.cons.inj rules).2
  have runs := aborted.ran broken List.mem_cons_self
  rw [Executor.Leg.Runs, ← first] at runs
  have idle : broken.before = broken.after := congrArg Prod.snd runs
  have left : after = broken.after := aborted.follow.single.2.2.2
  obtain ⟨stored, warned⟩ := true_iff.2 ⟨List.forall_mem_nil _, by rw [left, idle]⟩
  have given : broken.completes = false := by
    rw [Executor.Leg.completes, aborted.panicked]
    rfl
  have all : Executor.unfinished ([] ++ [broken]) rest =
      [Sample.webhook (-1), Sample.lead] := by
    simp [Executor.unfinished, given, ← first, ← behind]
  rw [all] at warned
  exact ⟨taken, after, run, breaks, others, stored, warned⟩

/-- The priority is raised in the store and not in the result, and the rule that raised it is warned
about as well as the webhook that panicked. -/
theorem panic_hides_write :
    let run := (Sample.breaking.take Sample.issue ⟨"done"⟩ Sample.reporter.id
      Sample.submission).run Sample.brokenLast
    (Sample.breaking.followers Sample.issue ⟨"done"⟩ Sample.reporter.id Sample.submission
        Sample.brokenLast).map (fun visit => (visit.rule, visit.outcome.isNone)) =
      [(Sample.raise, false), (Sample.webhook 1, true)] ∧
    Sample.breaking.Usual Sample.raise.content.type ∧
    (run.2.store.tables.issueLog.issues.get? Sample.issue.id).map (·.priority) =
      some (some "high") ∧
    run.1.toOption.map (fun taken => (taken.issue.priority, taken.warnings)) =
      some (none, [
        ⟨.updateField, Sample.position 0, "post-function pipeline aborted"⟩,
        ⟨.triggerWebhook, Sample.position 1, "post-function pipeline aborted"⟩]) := by
  have answered : ((Sample.breaking.take Sample.issue ⟨"done"⟩ Sample.reporter.id
      Sample.submission).run Sample.brokenLast).1.toOption.map (·.transition) =
        some Sample.edge := by
    decide +kernel
  have sorted : Sample.brokenLast.store.tables.graph.postFunctionsOf Sample.edge.id =
      [Sample.raise, Sample.webhook 1] :=
    byPosition_eq (by decide +kernel)
  obtain ⟨taken, after, run, along⟩ := ok_of_answer answered
  have kept : Sample.breaking.registry.GatesKeep Eq :=
    Registry.builtIn_gatesKeep.withPostFunctions _
  have finished : (Sample.breaking.finish (Sample.finishing Sample.submission)
      Sample.brokenLastPlan ⟨"done"⟩).run Sample.brokenLast = (.ok taken, after) :=
    Executor.finish_of_take kept run along sorted.symm
  obtain ⟨row, committed, done, -, followers, -⟩ := Executor.followed_of_take run
  rw [Executor.readied_of_gatesKeep kept, along] at done
  have done : (Executor.commit (Sample.finishing Sample.submission) ⟨"done"⟩).run
      Sample.brokenLast = (.ok row, committed) := done
  have visited : ((Executor.commit (Sample.finishing Sample.submission) ⟨"done"⟩).run
      Sample.brokenLast).1.toOption.map (fun row =>
        (Sample.breaking.visits { Sample.finishing Sample.submission with issue := row }
          Sample.brokenLastPlan.postFunctions ((Executor.commit
            (Sample.finishing Sample.submission) ⟨"done"⟩).run Sample.brokenLast).2).map
              fun visit => (visit.rule, visit.outcome.isNone)) =
      some [(Sample.raise, false), (Sample.webhook 1, true)] := by
    decide +kernel
  have raised : (((Sample.breaking.finish (Sample.finishing Sample.submission)
      Sample.brokenLastPlan ⟨"done"⟩).run Sample.brokenLast).2.store.tables.issueLog.issues.get?
        Sample.issue.id).map (·.priority) = some (some "high") := by
    decide +kernel
  have told : ((Sample.breaking.finish (Sample.finishing Sample.submission)
      Sample.brokenLastPlan ⟨"done"⟩).run Sample.brokenLast).1.toOption.map
        (fun taken => (taken.issue.priority, taken.warnings)) = some (none, [
          ⟨.updateField, Sample.position 0, "post-function pipeline aborted"⟩,
          ⟨.triggerWebhook, Sample.position 1, "post-function pipeline aborted"⟩]) := by
    decide +kernel
  rw [done] at visited
  rw [finished] at raised told
  rw [run, followers, along, sorted]
  exact ⟨Option.some.inj visited, rfl, raised, told⟩

end IssueFlow
