import IssueFlow.Proofs.Observation
import IssueFlow.Proofs.OfferedTransitions
import IssueFlow.Proofs.RunningOrder

/-!
# First failure

The gates judge an attempt one by one: the conditions of the edge, its validators, the required
fields of its screen. The first that fails decides (`Passage`). No evaluator behind it is called,
and post-functions are called only behind a commit (`Executor.Calls`).
-/

namespace IssueFlow

/-- A rule of a list before which all others pass. -/
structure StopsAt {ρ : Type} (Passes : ρ → Prop) (rules passed : List ρ) (rule : ρ) : Prop where
  split : ∃ later, rules = passed ++ rule :: later
  before : ∀ r ∈ passed, Passes r

theorem StopsAt.mem {ρ : Type} {Passes : ρ → Prop} {rules passed : List ρ} {rule : ρ}
    (stops : StopsAt Passes rules passed rule) : rule ∈ rules := by
  obtain ⟨later, rfl⟩ := stops.split
  exact List.mem_append_right _ List.mem_cons_self

private theorem passes_or_stops {ρ : Type} (Passes : ρ → Prop) (rules : List ρ) :
    (∀ rule ∈ rules, Passes rule) ∨
      ∃ passed rule, StopsAt Passes rules passed rule ∧ ¬ Passes rule := by
  induction rules with
  | nil => exact .inl (List.forall_mem_nil _)
  | cons rule rules ih =>
    by_cases passes : Passes rule
    · rcases ih with all | ⟨passed, stop, ⟨⟨later, rfl⟩, before⟩, fails⟩
      · exact .inl (List.forall_mem_cons.2 ⟨passes, all⟩)
      · exact .inr ⟨rule :: passed, stop,
          ⟨⟨later, rfl⟩, List.forall_mem_cons.2 ⟨passes, before⟩⟩, fails⟩
    · exact .inr ⟨[], rule, ⟨⟨rules, rfl⟩, List.forall_mem_nil _⟩, passes⟩

def ConditionRule.call (rule : ConditionRule) : RuleCall :=
  .condition rule.content

def ValidatorRule.call (rule : ValidatorRule) : RuleCall :=
  .validator rule.content.validator

def PostFunctionRule.call (rule : PostFunctionRule) : RuleCall :=
  .postFunction rule.content

section Answers

variable (registry : Registry) (world : World) (attempt : Attempt)

/-- What the evaluator of a condition answers, if its type has one. -/
def conditionAnswer? (rule : ConditionRule) : Option (Except TransitionError Bool) :=
  (registry.condition? rule.content.type).map fun evaluate =>
    ((evaluate attempt rule.content).run world).1

/-- What the evaluator of a validator answers, if its type has one. -/
def validatorAnswer? (rule : ValidatorRule) : Option (Except TransitionError Verdict) :=
  (registry.validator? rule.content.validator.type).map fun evaluate =>
    ((evaluate attempt rule.content.validator).run world).1

def IsMet (rule : ConditionRule) : Prop :=
  conditionAnswer? registry world attempt rule = some (.ok true)

def IsPassed (rule : ValidatorRule) : Prop :=
  validatorAnswer? registry world attempt rule = some (.ok .pass)

/-- A field of the screen is not required, or the attempt fills it in. -/
def IsFilled (row : ScreenField) : Prop :=
  row.isRequired = true → attempt.submission.Supplies attempt.issue row.field

/-- How an attempt goes through the gates of a plan: the calls that are made and the answer. -/
inductive Passage (plan : Plan) : List RuleCall → Except TransitionError Unit → Prop where
  | conditionUnregistered (passed : List ConditionRule) (rule : ConditionRule)
      (stops : StopsAt (IsMet registry world attempt) plan.conditions passed rule)
      (absent : conditionAnswer? registry world attempt rule = none) :
      Passage plan (passed.map ConditionRule.call)
        (.error (Registry.unregistered "condition" rule.content.type.name))
  | conditionErred (passed : List ConditionRule) (rule : ConditionRule) (e : TransitionError)
      (stops : StopsAt (IsMet registry world attempt) plan.conditions passed rule)
      (erred : conditionAnswer? registry world attempt rule = some (.error e)) :
      Passage plan ((passed ++ [rule]).map ConditionRule.call) (.error e)
  | conditionNotMet (passed : List ConditionRule) (rule : ConditionRule)
      (stops : StopsAt (IsMet registry world attempt) plan.conditions passed rule)
      (notMet : conditionAnswer? registry world attempt rule = some (.ok false)) :
      Passage plan ((passed ++ [rule]).map ConditionRule.call)
        (.error (.rejected (.conditionNotMet rule.content.type rule.position)))
  | validatorUnregistered (passed : List ValidatorRule) (rule : ValidatorRule)
      (met : ∀ rule ∈ plan.conditions, IsMet registry world attempt rule)
      (stops : StopsAt (IsPassed registry world attempt) plan.validators passed rule)
      (absent : validatorAnswer? registry world attempt rule = none) :
      Passage plan (plan.conditions.map ConditionRule.call ++ passed.map ValidatorRule.call)
        (.error (Registry.unregistered "validator" rule.content.validator.type.name))
  | validatorErred (passed : List ValidatorRule) (rule : ValidatorRule) (e : TransitionError)
      (met : ∀ rule ∈ plan.conditions, IsMet registry world attempt rule)
      (stops : StopsAt (IsPassed registry world attempt) plan.validators passed rule)
      (erred : validatorAnswer? registry world attempt rule = some (.error e)) :
      Passage plan
        (plan.conditions.map ConditionRule.call ++ (passed ++ [rule]).map ValidatorRule.call)
        (.error e)
  | validatorFailed (passed : List ValidatorRule) (rule : ValidatorRule) (reason : String)
      (met : ∀ rule ∈ plan.conditions, IsMet registry world attempt rule)
      (stops : StopsAt (IsPassed registry world attempt) plan.validators passed rule)
      (failed : validatorAnswer? registry world attempt rule = some (.ok (.fail reason))) :
      Passage plan
        (plan.conditions.map ConditionRule.call ++ (passed ++ [rule]).map ValidatorRule.call)
        (.error (.rejected (.validationFailed rule.content.validator.type.name
          (rule.content.errorMessage.getD reason))))
  | screenOpen (filled : List ScreenField) (row : ScreenField)
      (met : ∀ rule ∈ plan.conditions, IsMet registry world attempt rule)
      (passed : ∀ rule ∈ plan.validators, IsPassed registry world attempt rule)
      (stops : StopsAt (IsFilled attempt) plan.screenFields filled row)
      (leftOpen : ¬ IsFilled attempt row) :
      Passage plan
        (plan.conditions.map ConditionRule.call ++ plan.validators.map ValidatorRule.call)
        (.error (.rejected (.validationFailed "screen_required"
          s!"{row.field.display} is required")))
  | through (met : ∀ rule ∈ plan.conditions, IsMet registry world attempt rule)
      (passed : ∀ rule ∈ plan.validators, IsPassed registry world attempt rule)
      (filled : ∀ row ∈ plan.screenFields, IsFilled attempt row) :
      Passage plan
        (plan.conditions.map ConditionRule.call ++ plan.validators.map ValidatorRule.call) (.ok ())

end Answers

/-! ## Observed gates -/

private theorem flatMap_concat {ρ : Type} (call : ρ → RuleCall) (note : RuleCall → List String)
    (tags : List String) (passed : List ρ) (rule : ρ) :
    tags ++ (passed.map call).flatMap note ++ note (call rule) =
      tags ++ ((passed ++ [rule]).map call).flatMap note := by
  simp

/-- A run over rules goes on behind those that pass, with their calls on record. -/
private theorem run_behind {ρ α : Type} {Passes : ρ → Prop} {call : ρ → RuleCall}
    {note : RuleCall → List String} {run : List ρ → Run α} {world : World}
    (step : ∀ rule rules tags, Passes rule → (run (rule :: rules)).run (world.noted tags) =
      (run rules).run (world.noted (tags ++ note (call rule))))
    {passed : List ρ} (passing : ∀ rule ∈ passed, Passes rule) (rules : List ρ)
    (tags : List String) :
    (run (passed ++ rules)).run (world.noted tags) =
      (run rules).run (world.noted (tags ++ (passed.map call).flatMap note)) := by
  induction passed generalizing tags with
  | nil => rw [List.nil_append, List.map_nil, List.flatMap_nil, List.append_nil]
  | cons rule passed ih =>
    obtain ⟨first, others⟩ := List.forall_mem_cons.1 passing
    rw [List.cons_append, step _ _ _ first, ih others, List.map_cons, List.flatMap_cons,
      List.append_assoc]

private theorem openField?_of_stops {attempt : Attempt} {plan : Plan} {filled : List ScreenField}
    {row : ScreenField} (stops : StopsAt (IsFilled attempt) plan.screenFields filled row)
    (leftOpen : ¬ IsFilled attempt row) : attempt.openField? plan = some row := by
  have isOpen_iff : ∀ row : ScreenField,
      decide (row.isRequired = true ∧ (!attempt.fillsIn row) = true) = true ↔
        ¬ IsFilled attempt row := by
    intro row
    rw [IsFilled, decide_eq_true_eq, Bool.not_eq_true', ← Bool.not_eq_true, fillsIn_iff,
      Classical.not_imp]
  obtain ⟨⟨later, split⟩, before⟩ := stops
  rw [Attempt.openField?, Plan.requiredFields, List.find?_filter, List.find?_eq_some_iff_append]
  refine ⟨(isOpen_iff row).2 leftOpen, filled, later, split, ?_⟩
  intro other member
  rw [Bool.not_eq_true', ← Bool.not_eq_true, isOpen_iff, not_not]
  exact before other member

namespace Executor

section Silent

variable {executor : Executor} (silent : executor.registry.Silent) (note : RuleCall → List String)
  (attempt : Attempt) (world : World) (tags : List String)

include silent

/-- What a condition answers decides how its run goes on. -/
private theorem observed_failedCondition?_cons (rule : ConditionRule) (rules : List ConditionRule) :
    ((executor.observed note).failedCondition? attempt (rule :: rules)).run (world.noted tags) =
      match conditionAnswer? executor.registry world attempt rule with
      | none => (.error (Registry.unregistered "condition" rule.content.type.name),
        world.noted tags)
      | some (.error e) => (.error e, world.noted (tags ++ note (ConditionRule.call rule)))
      | some (.ok false) => (.ok (some rule), world.noted (tags ++ note (ConditionRule.call rule)))
      | some (.ok true) => ((executor.observed note).failedCondition? attempt rules).run
        (world.noted (tags ++ note (ConditionRule.call rule))) := by
  rw [failedCondition?, Registry.condition, conditionAnswer?]
  cases found : executor.registry.condition? rule.content.type with
  | none =>
    have absent : (executor.observed note).registry.condition? rule.content.type = none :=
      congrArg (Option.map _) found
    rw [absent]
    rfl
  | some evaluate =>
    obtain ⟨observer, named, answered⟩ := silent.observed_condition note found
    have named : (executor.observed note).registry.condition? rule.content.type = some observer :=
      named
    rw [named, Registry.find, run_lift_ok_bind, run_bind, answered, Option.map_some,
      ConditionRule.call]
    rcases ((evaluate attempt rule.content).run world).1 with e | _ | _ <;> rfl

private theorem observed_validate_cons (rule : ValidatorRule) (rules : List ValidatorRule) :
    ((executor.observed note).validate attempt (rule :: rules)).run (world.noted tags) =
      match validatorAnswer? executor.registry world attempt rule with
      | none => (.error (Registry.unregistered "validator" rule.content.validator.type.name),
        world.noted tags)
      | some (.error e) => (.error e, world.noted (tags ++ note (ValidatorRule.call rule)))
      | some (.ok (.fail reason)) =>
        (.error (.rejected (.validationFailed rule.content.validator.type.name
          (rule.content.errorMessage.getD reason))),
          world.noted (tags ++ note (ValidatorRule.call rule)))
      | some (.ok .pass) => ((executor.observed note).validate attempt rules).run
        (world.noted (tags ++ note (ValidatorRule.call rule))) := by
  rw [validate, Registry.validator, validatorAnswer?]
  cases found : executor.registry.validator? rule.content.validator.type with
  | none =>
    have absent : (executor.observed note).registry.validator? rule.content.validator.type = none :=
      congrArg (Option.map _) found
    rw [absent]
    rfl
  | some evaluate =>
    obtain ⟨observer, named, answered⟩ := silent.observed_validator note found
    have named : (executor.observed note).registry.validator? rule.content.validator.type =
      some observer := named
    rw [named, Registry.find, run_lift_ok_bind, run_bind, answered, Option.map_some,
      ValidatorRule.call]
    rcases ((evaluate attempt rule.content.validator).run world).1 with e | _ | reason <;> rfl

/-- Behind conditions that are met the run goes on, with their calls on record. -/
private theorem observed_failedCondition?_append {passed : List ConditionRule}
    (met : ∀ rule ∈ passed, IsMet executor.registry world attempt rule)
    (rules : List ConditionRule) :
    ((executor.observed note).failedCondition? attempt (passed ++ rules)).run (world.noted tags) =
      ((executor.observed note).failedCondition? attempt rules).run
        (world.noted (tags ++ (passed.map ConditionRule.call).flatMap note)) := by
  refine run_behind ?_ met rules tags
  intro rule rules tags isMet
  rw [IsMet] at isMet
  rw [observed_failedCondition?_cons silent, isMet]

private theorem observed_validate_append {passed : List ValidatorRule}
    (valid : ∀ rule ∈ passed, IsPassed executor.registry world attempt rule)
    (rules : List ValidatorRule) :
    ((executor.observed note).validate attempt (passed ++ rules)).run (world.noted tags) =
      ((executor.observed note).validate attempt rules).run
        (world.noted (tags ++ (passed.map ValidatorRule.call).flatMap note)) := by
  refine run_behind ?_ valid rules tags
  intro rule rules tags isPassed
  rw [IsPassed] at isPassed
  rw [observed_validate_cons silent, isPassed]

variable {world attempt} {plan : Plan}

/-- A run of the gates of a plan: whoever observes it learns of these calls and gets this answer. -/
def GatesRun (executor : Executor) (world : World) (attempt : Attempt) (plan : Plan)
    (calls : List RuleCall) (answer : Except TransitionError Unit) : Prop :=
  ∀ note tags, ((executor.observed note).passGates attempt plan).run (world.noted tags) =
    (answer, world.noted (tags ++ calls.flatMap note))

private theorem gatesRun_of_conditionStop {passed : List ConditionRule} {rule : ConditionRule}
    (stops : StopsAt (IsMet executor.registry world attempt) plan.conditions passed rule)
    (fails : ¬ IsMet executor.registry world attempt rule) :
    ∃ calls answer, Passage executor.registry world attempt plan calls answer ∧
      executor.GatesRun world attempt plan calls answer := by
  obtain ⟨later, split⟩ := stops.split
  have start : ∀ note tags,
      ((executor.observed note).failedCondition? attempt plan.conditions).run (world.noted tags) =
        ((executor.observed note).failedCondition? attempt (rule :: later)).run
          (world.noted (tags ++ (passed.map ConditionRule.call).flatMap note)) := by
    intro note tags
    rw [split]
    exact observed_failedCondition?_append silent note attempt world tags stops.before _
  rcases answer : conditionAnswer? executor.registry world attempt rule with _ | e | _ | _
  · refine ⟨_, _, .conditionUnregistered passed rule stops answer, fun note tags => ?_⟩
    rw [passGates, run_bind, start, observed_failedCondition?_cons silent, answer]
  · refine ⟨_, _, .conditionErred passed rule e stops answer, fun note tags => ?_⟩
    rw [passGates, run_bind, start, observed_failedCondition?_cons silent, answer,
      ← flatMap_concat ConditionRule.call]
  · refine ⟨_, _, .conditionNotMet passed rule stops answer, fun note tags => ?_⟩
    rw [passGates, run_bind, start, observed_failedCondition?_cons silent, answer,
      ← flatMap_concat ConditionRule.call]
    rfl
  · exact absurd answer fails

/-- Behind conditions that are all met the validators are run. -/
private theorem passGates_of_met
    (met : ∀ rule ∈ plan.conditions, IsMet executor.registry world attempt rule)
    (note : RuleCall → List String) (tags : List String) :
    ((executor.observed note).passGates attempt plan).run (world.noted tags) =
      ((executor.observed note).validate attempt plan.validators >>= fun _ =>
        checkScreen attempt plan).run
          (world.noted (tags ++ (plan.conditions.map ConditionRule.call).flatMap note)) := by
  have none := observed_failedCondition?_append silent note attempt world tags met []
  rw [List.append_nil] at none
  rw [passGates, run_bind, none]
  rfl

private theorem gatesRun_of_validatorStop
    (met : ∀ rule ∈ plan.conditions, IsMet executor.registry world attempt rule)
    {passed : List ValidatorRule} {rule : ValidatorRule}
    (stops : StopsAt (IsPassed executor.registry world attempt) plan.validators passed rule)
    (fails : ¬ IsPassed executor.registry world attempt rule) :
    ∃ calls answer, Passage executor.registry world attempt plan calls answer ∧
      executor.GatesRun world attempt plan calls answer := by
  obtain ⟨later, split⟩ := stops.split
  have start : ∀ note tags,
      ((executor.observed note).validate attempt plan.validators).run (world.noted tags) =
        ((executor.observed note).validate attempt (rule :: later)).run
          (world.noted (tags ++ (passed.map ValidatorRule.call).flatMap note)) := by
    intro note tags
    rw [split]
    exact observed_validate_append silent note attempt world tags stops.before _
  rcases answer : validatorAnswer? executor.registry world attempt rule with _ | e | _ | reason
  · refine ⟨_, _, .validatorUnregistered passed rule met stops answer, fun note tags => ?_⟩
    rw [passGates_of_met silent met, run_bind, start, observed_validate_cons silent, answer,
      List.flatMap_append, List.append_assoc]
  · refine ⟨_, _, .validatorErred passed rule e met stops answer, fun note tags => ?_⟩
    rw [passGates_of_met silent met, run_bind, start, observed_validate_cons silent, answer,
      List.flatMap_append, ← List.append_assoc, ← flatMap_concat ValidatorRule.call]
  · exact absurd answer fails
  · refine ⟨_, _, .validatorFailed passed rule reason met stops answer, fun note tags => ?_⟩
    rw [passGates_of_met silent met, run_bind, start, observed_validate_cons silent, answer,
      List.flatMap_append, ← List.append_assoc, ← flatMap_concat ValidatorRule.call]

/-- Behind validators that are all passed the screen is checked. -/
private theorem passGates_of_passed
    (met : ∀ rule ∈ plan.conditions, IsMet executor.registry world attempt rule)
    (passed : ∀ rule ∈ plan.validators, IsPassed executor.registry world attempt rule)
    (note : RuleCall → List String) (tags : List String) :
    ((executor.observed note).passGates attempt plan).run (world.noted tags) =
      (checkScreen attempt plan).run (world.noted (tags ++
        (plan.conditions.map ConditionRule.call ++
          plan.validators.map ValidatorRule.call).flatMap note)) := by
  have done := observed_validate_append silent note attempt world
    (tags ++ (plan.conditions.map ConditionRule.call).flatMap note) passed []
  rw [List.append_nil] at done
  rw [passGates_of_met silent met, run_bind, done, List.flatMap_append, List.append_assoc]
  rfl

/-- Every attempt goes through the gates in one of the ways that there are. -/
private theorem exists_passage (attempt : Attempt) (plan : Plan) (world : World) :
    ∃ calls answer, Passage executor.registry world attempt plan calls answer ∧
      executor.GatesRun world attempt plan calls answer := by
  rcases passes_or_stops (IsMet executor.registry world attempt) plan.conditions with
    met | ⟨_, _, stops, fails⟩
  swap
  · exact gatesRun_of_conditionStop silent stops fails
  rcases passes_or_stops (IsPassed executor.registry world attempt) plan.validators with
    passed | ⟨_, _, stops, fails⟩
  swap
  · exact gatesRun_of_validatorStop silent met stops fails
  rcases passes_or_stops (IsFilled attempt) plan.screenFields with
    filled | ⟨_, row, stops, leftOpen⟩
  · refine ⟨_, _, .through met passed filled, fun note tags => ?_⟩
    rw [passGates_of_passed silent met passed]
    exact checkScreen_ok_iff.2 filled
  · refine ⟨_, _, .screenOpen _ row met passed stops leftOpen, fun note tags => ?_⟩
    rw [passGates_of_passed silent met passed, checkScreen, openField?_of_stops stops leftOpen]
    rfl

/-- A rule of a post-function whose type has an evaluator. -/
def isRegistered (executor : Executor) (rule : PostFunctionRule) : Bool :=
  (executor.registry.postFunction? rule.content.type).isSome

private theorem observed_runPostFunction (note : RuleCall → List String) (attempt : Attempt)
    (rule : PostFunctionRule) (world : World) (tags : List String) :
    (executor.observed note).runPostFunction attempt rule.content (world.noted tags) =
      ((executor.runPostFunction attempt rule.content world).1,
        (executor.runPostFunction attempt rule.content world).2.noted
          (tags ++ (([rule].filter executor.isRegistered).map PostFunctionRule.call).flatMap
            note)) := by
  rw [runPostFunction, runPostFunction, Registry.postFunction, Registry.postFunction,
    List.filter_singleton, isRegistered]
  cases found : executor.registry.postFunction? rule.content.type with
  | none =>
    have absent : (executor.observed note).registry.postFunction? rule.content.type = none :=
      congrArg (Option.map _) found
    rw [absent]
    show _ = (_, world.noted (tags ++ []))
    rw [List.append_nil]
    rfl
  | some evaluate =>
    have named : (executor.observed note).registry.postFunction? rule.content.type =
        some fun attempt postFunction => afterNote (note (.postFunction postFunction))
          (evaluate attempt postFunction) := congrArg (Option.map _) found
    have unseen := silent.postFunction found attempt rule.content world
      (tags ++ note (PostFunctionRule.call rule))
    have called : afterNote (note (.postFunction rule.content))
        (evaluate attempt rule.content) (world.noted tags) = _ :=
      (congrArg _ (World.noted_noted ..)).trans unseen
    rw [named]
    show ((executor.observed note).outcome (afterNote (note (.postFunction rule.content))
      (evaluate attempt rule.content) (world.noted tags)).1, (afterNote
        (note (.postFunction rule.content)) (evaluate attempt rule.content)
          (world.noted tags)).2) = _
    rw [called]
    show _ = (_, (evaluate attempt rule.content world).2.noted
      (tags ++ ([PostFunctionRule.call rule].flatMap note)))
    rw [List.flatMap_singleton]
    rfl

/-- Behind a commit the post-functions whose types have evaluators are called in order; only a panic
cuts them short. -/
private theorem observed_runPostFunctions (attempt : Attempt) (rules : List PostFunctionRule)
    (world : World) :
    ∃ ran, ran <+: rules.filter executor.isRegistered ∧
      ((executor.runPostFunctions attempt rules world).1 ≠ none →
        ran = rules.filter executor.isRegistered) ∧
      ∀ note tags, (executor.observed note).runPostFunctions attempt rules (world.noted tags) =
        ((executor.runPostFunctions attempt rules world).1,
          (executor.runPostFunctions attempt rules world).2.noted
            (tags ++ (ran.map PostFunctionRule.call).flatMap note)) := by
  induction rules generalizing attempt world with
  | nil =>
    refine ⟨[], List.nil_prefix, fun _ => rfl, fun note tags => ?_⟩
    show _ = (_, world.noted (tags ++ []))
    rw [List.append_nil]
    rfl
  | cons rule rules ih =>
    have split : (rule :: rules).filter executor.isRegistered =
      [rule].filter executor.isRegistered ++ rules.filter executor.isRegistered :=
        List.filter_append [rule] rules
    have called := fun note => observed_runPostFunction silent note attempt rule world
    rw [runPostFunctions_cons, split]
    rcases run : executor.runPostFunction attempt rule.content world with
      ⟨_ | ⟨left, failure⟩, after⟩ <;> simp only [run] at called
    · refine ⟨[rule].filter executor.isRegistered, List.prefix_append .., ?_, fun note tags => ?_⟩
      · exact fun ended => absurd rfl ended
      · rw [runPostFunctions_cons, called]
    · obtain ⟨ran, part, whole, rest⟩ := ih left after
      refine ⟨[rule].filter executor.isRegistered ++ ran, (List.prefix_append_right_inj _).2 part,
        ?_, fun note tags => ?_⟩
      · intro ended
        rw [whole fun none => ended (congrArg (Option.map _) none)]
      · rw [runPostFunctions_cons, called, List.map_append, List.flatMap_append,
          ← List.append_assoc]
        dsimp only
        rw [rest]

end Silent

/-! ## Calls of an attempt -/

/-- How an attempt goes: the calls that are made, the answer and the world that is left. -/
inductive Calls (executor : Executor) (world : World) (issue : Issue) (target : StatusId)
    (actor : UserId) (submission : Submission) :
    List RuleCall → Except TransitionError Taken → World → Prop where
  /-- No transition leads to the target, or the tables are out of reach. -/
  | lost (e : TransitionError)
      (nowhere : world.store.unavailable = true ∨
        ∀ edge, world.store.tables.Leaves issue edge → edge.toStatus ≠ target)
      (kind : e.rejection? = none ∨ e = .rejected (.noSuchTransition issue.statusId target)) :
      Calls executor world issue target actor submission [] (.error e) world
  | stopped (edge : Transition) (leaves : world.store.tables.Leaves issue edge)
      (arrives : edge.toStatus = target) (calls : List RuleCall) (e : TransitionError)
      (passage : Passage executor.registry world ⟨issue, actor, edge, submission⟩
        (world.store.tables.graph.planOf edge) calls (.error e)) :
      Calls executor world issue target actor submission calls (.error e) world
  | refused (edge : Transition) (leaves : world.store.tables.Leaves issue edge)
      (arrives : edge.toStatus = target) (calls : List RuleCall) (e : TransitionError)
      (passage : Passage executor.registry world ⟨issue, actor, edge, submission⟩
        (world.store.tables.graph.planOf edge) calls (.ok ()))
      (commitRefused : (commit ⟨issue, actor, edge, submission⟩ target).run world =
        (.error e, world)) :
      Calls executor world issue target actor submission calls (.error e) world
  | taken (edge : Transition) (leaves : world.store.tables.Leaves issue edge)
      (arrives : edge.toStatus = target) (calls : List RuleCall)
      (passage : Passage executor.registry world ⟨issue, actor, edge, submission⟩
        (world.store.tables.graph.planOf edge) calls (.ok ()))
      (row : Issue) (committed after : World)
      (done : (commit ⟨issue, actor, edge, submission⟩ target).run world = (.ok row, committed))
      (ran : List PostFunctionRule) (followed : Issue × List Warning)
      (part : ran <+: (world.store.tables.graph.planOf edge).postFunctions.filter
        executor.isRegistered)
      (whole : (executor.runPostFunctions ⟨row, actor, edge, submission⟩
          (world.store.tables.graph.planOf edge).postFunctions committed).1 ≠ none →
        ran = (world.store.tables.graph.planOf edge).postFunctions.filter executor.isRegistered)
      (behind : executor.followUp ⟨row, actor, edge, submission⟩
        (world.store.tables.graph.planOf edge).postFunctions committed = (followed, after)) :
      Calls executor world issue target actor submission (calls ++ ran.map PostFunctionRule.call)
        (.ok (takenOf ⟨issue, actor, edge, submission⟩ target followed)) after

private theorem workflowForProject_onlyFaults (projectId : ProjectId) (issueType : IssueTypeId) :
    (Route.workflowForProject projectId issueType).OnlyFaults := by
  refine (Query.onlyFaults_lookFor rfl).bind fun project => ?_
  cases project.workflowSchemeId with
  | none =>
    rintro store e ⟨⟩
    rfl
  | some scheme => exact (Query.onlyFaults_lookFor rfl).bind fun _ => Query.onlyFaults_lookFor rfl

/-- How an attempt goes, once its workflow is known. -/
private theorem take_run (executor : Executor) {world : World}
    (available : world.store.unavailable = false) (linked : world.store.tables.graph.Linked)
    {issue : Issue} {workflow : Workflow}
    (routed : (Route.workflowForProject issue.projectId issue.issueTypeId).run world.store =
      .ok workflow) (target : StatusId) (actor : UserId) (submission : Submission) :
    (executor.take issue target actor submission).run world =
      match world.store.tables.graph.edge? workflow.id issue.statusId target with
      | none => (.error (.rejected (.noSuchTransition issue.statusId target)), world)
      | some edge =>
        (executor.passGates ⟨issue, actor, edge, submission⟩
            (world.store.tables.graph.planOf edge) >>= fun _ =>
          executor.finish ⟨issue, actor, edge, submission⟩
            (world.store.tables.graph.planOf edge) target).run world := by
  rw [take, run_bind_of_ok (ask_run_eq_ok_iff.2 routed), Route.edge?,
    run_bind_of_ok (ask_run_eq_ok_iff.2 (Query.look_run available _))]
  cases joined : world.store.tables.graph.edge? workflow.id issue.statusId target with
  | none => rfl
  | some edge =>
    have stored : edge ∈ world.store.tables.graph.transitions.rows :=
      List.mem_of_find?_eq_some joined
    dsimp only
    rw [run_bind_of_ok (ask_run_eq_ok_iff.2 (plan_run_eq available linked stored))]
    rfl

/-- A commit does not look at the record. -/
private theorem commit_blind (attempt : Attempt) (target : StatusId) :
    Blind (commit attempt target).run :=
  fun _ _ => rfl

section Silent

variable {executor : Executor} (silent : executor.registry.Silent)

include silent

/-- How an attempt goes on once its edge is known. -/
private theorem calls_along_edge {world : World} {issue : Issue} {target : StatusId}
    {actor : UserId} {submission : Submission} {edge : Transition}
    (leaves : world.store.tables.Leaves issue edge) (arrives : edge.toStatus = target) :
    ∃ calls answer after,
      executor.Calls world issue target actor submission calls answer after ∧
      ∀ note, ((executor.observed note).passGates ⟨issue, actor, edge, submission⟩
          (world.store.tables.graph.planOf edge) >>= fun _ =>
        (executor.observed note).finish ⟨issue, actor, edge, submission⟩
          (world.store.tables.graph.planOf edge) target).run world =
        (answer, after.noted (calls.flatMap note)) := by
  obtain ⟨calls, answer, passage, gates⟩ := exists_passage silent
    ⟨issue, actor, edge, submission⟩ (world.store.tables.graph.planOf edge) world
  have gates : ∀ note, ((executor.observed note).passGates ⟨issue, actor, edge, submission⟩
      (world.store.tables.graph.planOf edge)).run world =
        (answer, world.noted (calls.flatMap note)) := by
    intro note
    have run := gates note []
    rwa [World.noted_nil, List.nil_append] at run
  cases answer with
  | error e =>
    refine ⟨calls, _, world, .stopped edge leaves arrives calls e passage, fun note => ?_⟩
    rw [run_bind, gates]
  | ok _ =>
    have unseen : ∀ tags, (commit ⟨issue, actor, edge, submission⟩ target).run (world.noted tags) =
        (((commit ⟨issue, actor, edge, submission⟩ target).run world).1,
          ((commit ⟨issue, actor, edge, submission⟩ target).run world).2.noted tags) :=
      commit_blind _ _ world
    rcases commit_cases ⟨issue, actor, edge, submission⟩ target world with
      ⟨e, failed⟩ | ⟨row, log, -, -, done⟩
    · refine ⟨calls, _, world, .refused edge leaves arrives calls e passage failed, fun note => ?_⟩
      rw [run_bind, gates]
      dsimp only
      rw [finish_run, unseen, failed]
    · obtain ⟨ran, part, whole, run⟩ := observed_runPostFunctions silent
        ⟨row, actor, edge, submission⟩ (world.store.tables.graph.planOf edge).postFunctions
        { world with store.tables.issueLog := log }
      refine ⟨_, _, _, .taken edge leaves arrives calls passage row _ _ done ran _ part whole rfl,
        fun note => ?_⟩
      rw [run_bind, gates]
      dsimp only
      rw [finish_run, unseen, done]
      dsimp only
      rw [followUp_eq, run, List.flatMap_append]

/-- An attempt makes the calls that it should, and gives the answer, whoever observes it. -/
theorem take_calls {world : World} (linked : world.store.tables.graph.Linked)
    (distinct : world.store.tables.graph.Distinct) (issue : Issue) (target : StatusId)
    (actor : UserId) (submission : Submission) :
    ∃ calls answer after,
      executor.Calls world issue target actor submission calls answer after ∧
      ∀ note, ((executor.observed note).take issue target actor submission).run world =
        (answer, after.noted (calls.flatMap note)) := by
  cases routed : (Route.workflowForProject issue.projectId issue.issueTypeId).run world.store with
  | error e =>
    have fault : e.rejection? = none := workflowForProject_onlyFaults _ _ _ _ routed
    refine ⟨[], _, world, .lost e ?_ (.inl fault), fun note => ?_⟩
    · cases switch : world.store.unavailable with
      | true => exact .inl rfl
      | false =>
        refine .inr fun edge leaves _ => ?_
        obtain ⟨workflow, found, -⟩ :=
          (workflowForProject_run_iff switch linked distinct).2 leaves.mapped
        rw [routed] at found
        cases found
    · rw [take, run_bind, Query.run_ask, routed]
      show _ = (_, world.noted [])
      rw [World.noted_nil]
  | ok workflow =>
    have available : world.store.unavailable = false := by
      obtain ⟨project, found, -⟩ := Query.bind_run_eq_ok_iff.1 routed
      exact (Query.lookFor_run_ok found).1
    cases joined : world.store.tables.graph.edge? workflow.id issue.statusId target with
    | none =>
      refine ⟨[], _, world, .lost _ (.inr fun edge leaves arrives => ?_) (.inr rfl),
        fun note => ?_⟩
      · obtain ⟨stored, ofWorkflow, source⟩ :=
          (leaves_iff available linked distinct routed).1 leaves
        refine Graph.edge?_eq_none joined edge stored ?_
        rw [Graph.edgeKey, ofWorkflow, source, arrives]
      · rw [take_run _ available linked routed, joined]
        show _ = (_, world.noted [])
        rw [World.noted_nil]
    | some edge =>
      obtain ⟨stored, ofWorkflow, source, arrives⟩ := distinct.edge?_eq_some_iff.1 joined
      have leaves := (leaves_iff available linked distinct routed).2 ⟨stored, ofWorkflow, source⟩
      obtain ⟨calls, answer, after, course, run⟩ := calls_along_edge silent leaves arrives
      refine ⟨calls, answer, after, course, fun note => ?_⟩
      rw [take_run _ available linked routed, joined]
      exact run note

end Silent

/-- A commit is never refused for the screen. -/
private theorem commit_not_screen {attempt : Attempt} {target : StatusId} {world after : World}
    {message : String} :
    (commit attempt target).run world ≠
      (.error (.rejected (.validationFailed "screen_required" message)), after) := by
  intro failed
  obtain ⟨-, ⟨-, ⟨⟩⟩ | ⟨cause, -, -, same⟩⟩ := commit_eq_error failed
  obtain ⟨tag, -⟩ := commitFailure_eq_validationFailed_iff.1 same.symm
  exact absurd tag (by decide)

/-- An evaluator of one of the gates of a plan ends with an error. -/
def GateErrs (executor : Executor) (world : World) (attempt : Attempt) (plan : Plan)
    (e : TransitionError) : Prop :=
  (∃ rule ∈ plan.conditions,
      conditionAnswer? executor.registry world attempt rule = some (.error e)) ∨
    ∃ rule ∈ plan.validators,
      validatorAnswer? executor.registry world attempt rule = some (.error e)

/-- Only rules that all agree let the screen be asked for. -/
structure ScreenAsked (executor : Executor) (world : World) (attempt : Attempt) (plan : Plan)
    (message : String) : Prop where
  met : ∀ rule ∈ plan.conditions, IsMet executor.registry world attempt rule
  passed : ∀ rule ∈ plan.validators, IsPassed executor.registry world attempt rule
  first : ∃ filled row, StopsAt (IsFilled attempt) plan.screenFields filled row ∧
    ¬ IsFilled attempt row ∧ message = s!"{row.field.display} is required"

/-- The screen is asked for behind all rules, unless an evaluator says so itself. -/
private theorem screenAsked_of_passage {executor : Executor} {world : World} {attempt : Attempt}
    {plan : Plan} {calls : List RuleCall} {answer : Except TransitionError Unit} {message : String}
    (passage : Passage executor.registry world attempt plan calls answer)
    (asked : answer = .error (.rejected (.validationFailed "screen_required" message))) :
    executor.ScreenAsked world attempt plan message ∨ executor.GateErrs world attempt plan
      (.rejected (.validationFailed "screen_required" message)) := by
  cases passage with
  | conditionUnregistered passed rule stops absent => cases asked
  | conditionErred passed rule e stops erred =>
    cases asked
    exact .inr (.inl ⟨rule, stops.mem, erred⟩)
  | conditionNotMet passed rule stops notMet => cases asked
  | validatorUnregistered passed rule met stops absent => cases asked
  | validatorErred passed rule e met stops erred =>
    cases asked
    exact .inr (.inr ⟨rule, stops.mem, erred⟩)
  | validatorFailed passed rule reason met stops failed =>
    injection asked with asked
    injection asked with asked
    injection asked with tag
    -- No type of validators has that tag.
    revert tag
    cases rule.content.validator.type <;> exact fun tag => absurd tag (by decide)
  | screenOpen filled row met passed stops leftOpen =>
    cases asked
    exact .inl ⟨met, passed, filled, row, stops, leftOpen, rfl⟩
  | through met passed filled => cases asked

private theorem screenAsked_of_calls {executor : Executor} {world after : World} {issue : Issue}
    {target : StatusId} {actor : UserId} {submission : Submission} {calls : List RuleCall}
    {answer : Except TransitionError Taken} {message : String}
    (course : executor.Calls world issue target actor submission calls answer after)
    (asked : answer = .error (.rejected (.validationFailed "screen_required" message))) :
    ∃ edge, world.store.tables.Leaves issue edge ∧ edge.toStatus = target ∧
      (executor.ScreenAsked world ⟨issue, actor, edge, submission⟩
          (world.store.tables.graph.planOf edge) message ∨
        executor.GateErrs world ⟨issue, actor, edge, submission⟩
          (world.store.tables.graph.planOf edge)
          (.rejected (.validationFailed "screen_required" message))) := by
  cases course with
  | lost e nowhere kind =>
    cases asked
    rcases kind with fault | same
    · cases fault
    · cases same
  | stopped edge leaves arrives calls e passage =>
    cases asked
    exact ⟨edge, leaves, arrives, screenAsked_of_passage passage rfl⟩
  | refused edge leaves arrives calls e passage commitRefused =>
    cases asked
    exact absurd commitRefused commit_not_screen
  | taken => cases asked

end Executor

/-- A plan has the rules of a transition and the fields of its screen in running order. -/
structure Plan.IsRanked (plan : Plan) (t : Graph) (edge : Transition) : Prop where
  conditions : Ranked Rule.position (t.conditions.filter (·.transitionId == edge.id))
    plan.conditions
  validators : Ranked Rule.position (t.validators.filter (·.transitionId == edge.id))
    plan.validators
  postFunctions : Ranked Rule.position (t.postFunctions.filter (·.transitionId == edge.id))
    plan.postFunctions
  screenFields : Ranked ScreenField.position
    (t.screenFields.filter fun row => edge.screenId == some row.screenId) plan.screenFields

theorem Graph.planOf_isRanked (t : Graph) (edge : Transition) :
    (t.planOf edge).IsRanked t edge := by
  have screenFields : (t.planOf edge).screenFields = byPosition ScreenField.position
      (t.screenFields.filter fun row => edge.screenId == some row.screenId) := by
    rw [planOf]
    cases edge.screenId with
    | none =>
      have nothing : t.screenFields.filter (fun row => none == some row.screenId) = [] :=
        List.filter_eq_nil_iff.2 fun _ _ => Bool.false_ne_true
      rw [nothing]
      exact (byPosition_ranked _ []).perm.eq_nil.symm
    | some id =>
      simp only [Option.map_some, Option.getD_some, screenFieldsOf, Option.some_beq_some,
        BEq.comm (a := id)]
  refine ⟨byPosition_ranked .., byPosition_ranked .., byPosition_ranked .., ?_⟩
  rw [screenFields]
  exact byPosition_ranked ..

/-! ## First failures -/

/-- The first gate that fails decides, and no evaluator behind it is called: neither by an attempt
with an issue as it was read at some time, nor by the service, which calls none at all for an actor
without the permission. -/
theorem first_failure_decides (executor : Executor) (silent : executor.registry.Silent)
    (world : World) (reached : world.store.Reachable) :
    (∀ issue target actor submission, ∃ calls answer after,
      executor.Calls world issue target actor submission calls answer after ∧
      (executor.take issue target actor submission).run world = (answer, after) ∧
      (∀ note, ((executor.observed note).take issue target actor submission).run world =
        (answer, after.noted (calls.flatMap note))) ∧
      ∀ message, answer = .error (.rejected (.validationFailed "screen_required" message)) →
        ∃ edge, world.store.tables.Leaves issue edge ∧ edge.toStatus = target ∧
          (executor.ScreenAsked world ⟨issue, actor, edge, submission⟩
              (world.store.tables.graph.planOf edge) message ∨
            executor.GateErrs world ⟨issue, actor, edge, submission⟩
              (world.store.tables.graph.planOf edge)
              (.rejected (.validationFailed "screen_required" message)))) ∧
    (∀ edge, (world.store.tables.graph.planOf edge).IsRanked world.store.tables.graph edge) ∧
    ∀ id target actor submission,
      (∀ issue, world.store.tables.issueLog.issues.get? id = some issue →
        (Authority.requireProject actor issue.projectId .transitionIssues).run world.store ≠
          .ok ()) →
      ∀ note, ∃ e, (Service.transition (executor.observed note) id target actor submission).run
        world = (.error e, world) := by
  refine ⟨?_, Graph.planOf_isRanked _, ?_⟩
  · intro issue target actor submission
    obtain ⟨calls, answer, after, course, run⟩ :=
      Executor.take_calls silent reached.linked reached.distinct issue target actor submission
    refine ⟨calls, answer, after, course, ?_, run, fun message asked => ?_⟩
    · have plain := run fun _ => []
      rwa [Executor.observed_nothing, List.flatMap_eq_nil_iff.2 fun _ _ => rfl, World.noted_nil]
        at plain
    · exact Executor.screenAsked_of_calls course asked
  · intro id target actor submission denied note
    rcases Service.transition_cases (executor.observed note) id target actor submission world with
      refused | ⟨issue, stored, permitted, -⟩
    · exact refused
    · exact absurd permitted (denied issue stored)

/-- Rules of three more conditions stand at the sample edge, and were added out of order: one before
the first, one beside it and one behind. -/
def Sample.gated : World where
  store := Sample.store.after [
    .operation (.onGraph (.addCondition
      ⟨⟨"R5"⟩, ⟨"T1"⟩, .userInGroup ⟨"staff"⟩, position 1⟩)),
    .operation (.onGraph (.addCondition ⟨⟨"R6"⟩, ⟨"T1"⟩, .subtasksResolved, position 0⟩)),
    .operation (.onGraph (.addCondition ⟨⟨"R7"⟩, ⟨"T1"⟩, .onlyAssignee, position (-1)⟩))]
  outbox := .ofCapacity 4

/-- The conditions in the order in which they are judged. -/
def Sample.gatedConditions : List ConditionRule := [
  ⟨⟨"R7"⟩, ⟨"T1"⟩, .onlyAssignee, position (-1)⟩,
  ⟨⟨"R1"⟩, ⟨"T1"⟩, .onlyReporter, position 0⟩,
  ⟨⟨"R6"⟩, ⟨"T1"⟩, .subtasksResolved, position 0⟩,
  ⟨⟨"R5"⟩, ⟨"T1"⟩, .userInGroup ⟨"staff"⟩, position 1⟩]

/-- The library's evaluators but for three conditions: one that is always met, one that never is and
one that is not registered. -/
def Sample.judges : Registry where
  condition?
    | .onlyAssignee => some fun _ _ => pure true
    | .subtasksResolved => some fun _ _ => pure false
    | .userInGroup => none
    | _ => some evaluateCondition
  validator? _ := some (evaluateValidator .builtIn)
  postFunction? _ := some evaluatePostFunction

private theorem Sample.judges_silent : Sample.judges.Silent := by
  have answers : ∀ {type evaluate}, Sample.judges.condition? type = some evaluate →
      evaluate = evaluateCondition ∨ ∃ answer, evaluate = fun _ _ => pure answer := by
    intro type evaluate found
    cases type <;> cases found
    case onlyAssignee => exact .inr ⟨true, rfl⟩
    case subtasksResolved => exact .inr ⟨false, rfl⟩
    all_goals exact .inl rfl
  refine ⟨⟨?_, ?_⟩, ?_, ?_, ?_⟩
  · intro type evaluate found attempt condition
    rcases answers found with rfl | ⟨answer, rfl⟩
    · exact keeps_ask _
    · exact keeps_return answer
  · rintro type evaluate ⟨⟩ attempt validator
    exact keeps_ask _
  · intro type evaluate found attempt condition
    rcases answers found with rfl | ⟨answer, rfl⟩
    · exact blind_ask _
    · exact blind_return answer
  · rintro type evaluate ⟨⟩ attempt validator
    exact blind_ask _
  · rintro type evaluate ⟨⟩ attempt postFunction
    exact (apply_blind attempt postFunction).map _

/-- The condition that is never met comes third and decides. -/
theorem sample_first_failure :
    Sample.judges.Silent ∧ Sample.gated.store.Reachable ∧ ∃ calls after,
      Executor.Calls { registry := Sample.judges } Sample.gated Sample.issue ⟨"done"⟩
        Sample.reporter.id Sample.submission calls
        (.error (.rejected (.conditionNotMet .subtasksResolved (Sample.position 0)))) after ∧
      calls.map RuleCall.tag = ["only_assignee", "only_reporter", "subtasks_resolved"] := by
  have reached : Sample.gated.store.Reachable :=
    IsTrans.trans (r := Store.Leads) _ _ _ ⟨Sample.steps, rfl⟩ ⟨_, rfl⟩
  have routed : (Route.workflowForProject Sample.issue.projectId Sample.issue.issueTypeId).run
      Sample.gated.store = .ok ⟨⟨"W"⟩, "flow", none, true, ⟨0, 0⟩⟩ := by
    decide +kernel
  have joined : Sample.gated.store.tables.graph.edge? ⟨"W"⟩ Sample.issue.statusId ⟨"done"⟩ =
      some Sample.edge := by
    decide +kernel
  have sorted : Sample.gated.store.tables.graph.conditionsOf Sample.edge.id =
      Sample.gatedConditions :=
    byPosition_eq (by decide +kernel)
  have seen : let run := ((Executor.observed (fun call => [call.tag])
        { registry := Sample.judges }).take Sample.issue ⟨"done"⟩ Sample.reporter.id
          Sample.submission).run Sample.gated
      run.1 = .error (.rejected (.conditionNotMet .subtasksResolved (Sample.position 0))) ∧
        run.2.calls = ["only_assignee", "only_reporter", "subtasks_resolved"] := by
    rw [Executor.take_run _ rfl reached.linked routed, joined]
    dsimp only
    rw [Executor.passGates, Graph.planOf, sorted]
    decide +kernel
  obtain ⟨calls, answer, after, course, -, observed, -⟩ :=
    (first_failure_decides { registry := Sample.judges } Sample.judges_silent Sample.gated
      reached).1 Sample.issue ⟨"done"⟩ Sample.reporter.id Sample.submission
  rw [observed] at seen
  obtain ⟨rfl, tags⟩ := seen
  have left : after = Sample.gated := by
    cases course <;> rfl
  rw [left] at tags
  refine ⟨Sample.judges_silent, reached, calls, after, course, ?_⟩
  rw [List.map_eq_flatMap]
  exact tags

end IssueFlow
