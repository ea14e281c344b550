import IssueFlow.Proofs.PostFunctions

/-!
# Observation

An executor is observed by notes that are put on record before each call of an evaluator. Observing
changes nothing else where no evaluator looks at the record, and those of the library do not.
-/

namespace IssueFlow

/-- A call of an evaluator, by what it is to evaluate. -/
inductive RuleCall where
  | condition (condition : Condition)
  | validator (validator : Validator)
  | postFunction (postFunction : PostFunction)
  deriving DecidableEq

/-- The tag of the type whose evaluator is called. -/
def RuleCall.tag : RuleCall → String
  | condition c => c.type.name
  | validator v => v.type.name
  | postFunction f => f.type.name

namespace World

/-- The world with more tags on record. -/
def noted (world : World) (tags : List String) : World :=
  { world with calls := world.calls ++ tags }

@[simp] theorem noted_store (world : World) (tags : List String) :
    (world.noted tags).store = world.store := rfl

@[simp] theorem noted_nil (world : World) : world.noted [] = world := by
  rw [noted, List.append_nil]

@[simp] theorem noted_noted (world : World) (tags more : List String) :
    (world.noted tags).noted more = world.noted (tags ++ more) := by
  rw [noted, noted, noted, List.append_assoc]

end World

/-- Lets a computation run once there are more tags on record. -/
def afterNote {α : Type} (tags : List String) (computation : StateM World α) : StateM World α :=
  fun world => computation (world.noted tags)

private theorem afterNote_nil {α : Type} (computation : StateM World α) :
    afterNote [] computation = computation := by
  funext world
  rw [afterNote, World.noted_nil]

/-- A computation neither looks at what is on record nor puts anything there. -/
def Blind {α : Type} (computation : StateM World α) : Prop :=
  ∀ world tags, computation (world.noted tags) =
    ((computation world).1, (computation world).2.noted tags)

section Blind

variable {α β : Type}

theorem Blind.map {computation : StateM World α} (blind : Blind computation) (f : α → β) :
    Blind (f <$> computation) := by
  intro world tags
  show (f (computation (world.noted tags)).1, (computation (world.noted tags)).2) = _
  rw [blind world tags]
  rfl

theorem blind_return (a : α) : Blind (pure a : Run α).run :=
  fun _ _ => rfl

theorem blind_ask (query : Query TransitionError α) : Blind (Run.ask query).run :=
  fun _ _ => rfl

private theorem blind_write (op : Timestamp → Change Tables α) :
    Blind (Run.write op).run :=
  fun _ _ => rfl

private theorem blind_send (notification : Notification) : Blind (Run.send notification).run := by
  intro world tags
  have unseen : (world.noted tags).outbox = world.outbox := rfl
  rw [send_run, send_run, unseen]
  cases world.outbox.send notification <;> rfl

private theorem Blind.run_bind {first : Run α} {next : α → Run β} (before : Blind first.run)
    (after : ∀ a, Blind (next a).run) : Blind (first >>= next).run := by
  intro world tags
  have unseen : first.run (world.noted tags) = _ := before world tags
  rw [IssueFlow.run_bind, IssueFlow.run_bind, unseen]
  rcases first.run world with ⟨e | a, later⟩
  · rfl
  · exact after a later tags

/-- What a computation answers that changes nothing and does not look at the record. -/
private theorem run_noted {computation : StateM World α} (kept : Keeps Eq computation)
    (blind : Blind computation) (world : World) (tags : List String) :
    computation (world.noted tags) = ((computation world).1, world.noted tags) := by
  rw [blind world tags, ← kept world]

end Blind

private theorem writeField_blind (issue : IssueId) (field : FieldRef) (value : Json) :
    Blind (writeField issue field value).run :=
  blind_write _

private theorem writeParentField_blind (attempt : Attempt) (field : FieldRef) (value : Json) :
    Blind (writeParentField attempt field value).run :=
  (blind_ask _).run_bind fun _ => (writeField_blind _ _ _).run_bind fun _ => blind_return _

/-- The post-functions of the library do not look at the record. -/
theorem apply_blind (attempt : Attempt) (postFunction : PostFunction) :
    Blind (postFunction.apply attempt).run := by
  cases postFunction with
  | updateField field value => exact writeField_blind _ _ _
  | assignToReporter => exact writeField_blind _ _ _
  | assignToLead => exact (blind_ask _).run_bind fun _ => writeField_blind _ _ _
  | clearField field => exact writeField_blind _ _ _
  | copyFieldValue source target copyTarget =>
    cases copyTarget with
    | thisIssue => exact writeField_blind _ _ _
    | parent => exact writeParentField_blind _ _ _
  | addComment body => exact (blind_write _).run_bind fun _ => blind_return _
  | sendNotification event recipients =>
    exact (blind_ask _).run_bind fun _ => (blind_send _).run_bind fun _ => blind_return _
  | triggerWebhook url => exact (blind_send _).run_bind fun _ => blind_return _
  | updateParent field value =>
    rw [PostFunction.apply]
    by_cases orphan : attempt.issue.parentId.isNone
    · rw [if_pos orphan]
      exact blind_return _
    · rw [if_neg orphan]
      exact writeParentField_blind _ _ _

namespace Registry

/-- The evaluators of a registry, each called once notes of the call are on record. -/
def observed (note : RuleCall → List String) (registry : Registry) : Registry where
  condition? type := (registry.condition? type).map fun evaluate attempt condition =>
    ExceptT.mk (afterNote (note (.condition condition)) (evaluate attempt condition).run)
  validator? type := (registry.validator? type).map fun evaluate attempt validator =>
    ExceptT.mk (afterNote (note (.validator validator)) (evaluate attempt validator).run)
  postFunction? type := (registry.postFunction? type).map fun evaluate attempt postFunction =>
    afterNote (note (.postFunction postFunction)) (evaluate attempt postFunction)

/-- Conditions and validators write nothing, and no evaluator looks at the record. -/
structure Silent (registry : Registry) : Prop where
  gates : registry.GatesKeep Eq
  condition : ∀ {type evaluate}, registry.condition? type = some evaluate →
    ∀ attempt condition, Blind (evaluate attempt condition).run
  validator : ∀ {type evaluate}, registry.validator? type = some evaluate →
    ∀ attempt validator, Blind (evaluate attempt validator).run
  postFunction : ∀ {type evaluate}, registry.postFunction? type = some evaluate →
    ∀ attempt postFunction, Blind (evaluate attempt postFunction)

/-- Whoever notes nothing observes nothing. -/
private theorem observed_nothing (registry : Registry) :
    registry.observed (fun _ => []) = registry := by
  obtain ⟨condition?, validator?, postFunction?⟩ := registry
  simp only [observed, afterNote_nil, mk.injEq]
  exact ⟨funext fun _ => Option.map_id', funext fun _ => Option.map_id',
    funext fun _ => Option.map_id'⟩

section Silent

variable {registry : Registry} (silent : registry.Silent) (note : RuleCall → List String)

include silent

/-- A condition that is observed answers as ever, and the call is on record. -/
theorem Silent.observed_condition {type : ConditionType} {evaluate : ConditionEvaluator}
    (found : registry.condition? type = some evaluate) :
    ∃ observer, (registry.observed note).condition? type = some observer ∧
      ∀ attempt condition world tags, (observer attempt condition).run (world.noted tags) =
        (((evaluate attempt condition).run world).1,
          world.noted (tags ++ note (.condition condition))) := by
  refine ⟨_, congrArg (Option.map _) found, ?_⟩
  intro attempt condition world tags
  exact (congrArg _ (World.noted_noted ..)).trans
    (run_noted (silent.gates.condition found attempt condition)
      (silent.condition found attempt condition) world _)

/-- A validator that is observed answers as ever, and the call is on record. -/
theorem Silent.observed_validator {type : ValidatorType} {evaluate : ValidatorEvaluator}
    (found : registry.validator? type = some evaluate) :
    ∃ observer, (registry.observed note).validator? type = some observer ∧
      ∀ attempt validator world tags, (observer attempt validator).run (world.noted tags) =
        (((evaluate attempt validator).run world).1,
          world.noted (tags ++ note (.validator validator))) := by
  refine ⟨_, congrArg (Option.map _) found, ?_⟩
  intro attempt validator world tags
  exact (congrArg _ (World.noted_noted ..)).trans
    (run_noted (silent.gates.validator found attempt validator)
      (silent.validator found attempt validator) world _)

end Silent

theorem builtIn_silent {matcher : Matcher} : (builtIn matcher).Silent := by
  refine ⟨builtIn_gatesKeep, ?_, ?_, ?_⟩
  · rintro type evaluate ⟨⟩ attempt condition
    exact blind_ask _
  · rintro type evaluate ⟨⟩ attempt validator
    exact blind_ask _
  · rintro type evaluate ⟨⟩ attempt postFunction
    exact (apply_blind attempt postFunction).map _

end Registry

/-- The executor with its evaluators observed. -/
def Executor.observed (note : RuleCall → List String) (executor : Executor) : Executor :=
  { executor with registry := executor.registry.observed note }

theorem Executor.observed_nothing (executor : Executor) :
    executor.observed (fun _ => []) = executor := by
  rw [observed, Registry.observed_nothing]

end IssueFlow
