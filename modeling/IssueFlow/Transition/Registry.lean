import IssueFlow.Regex.Reader
import IssueFlow.Transition.Effect
import IssueFlow.Transition.Gate

/-!
# Evaluators

A registry assigns an evaluator to the types of rules. A rule whose type has none cannot be
evaluated, and its transition is misconfigured.
-/

namespace IssueFlow

abbrev ConditionEvaluator := Attempt → Condition → Run Bool

abbrev ValidatorEvaluator := Attempt → Validator → Run Verdict

/-- How the work of a post-function ended. -/
inductive Ending where
  | done
  | failed (error : TransitionError)
  /-- All post-functions of the transition are given up. -/
  | panicked
  deriving DecidableEq

/-- The work of a post-function: the attempt as it left it, how it ended, and how many milliseconds
it slept before that. What it did to the world and to the attempt it did before it slept. -/
structure Reaction where
  /-- The attempt that the post-functions behind it see. One that fails or comes too late may have
  changed it all the same. -/
  left : Attempt
  ending : Ending
  slept : Nat := 0
  deriving DecidableEq

abbrev PostFunctionEvaluator := Attempt → PostFunction → StateM World Reaction

structure Registry where
  condition? : ConditionType → Option ConditionEvaluator
  validator? : ValidatorType → Option ValidatorEvaluator
  postFunction? : PostFunctionType → Option PostFunctionEvaluator

/-- Evaluates a condition as its kind says. -/
def evaluateCondition : ConditionEvaluator := fun attempt condition =>
  Run.ask (condition.isMet attempt)

/-- The matcher that comes with the library. -/
def Matcher.builtIn : Matcher where
  compile pattern := match Regex.parse pattern with
    | .ok compiled => .ok compiled.isMatch
    | .error refusal => .error refusal.diagnostic

/-- Evaluates a validator as its kind says. -/
def evaluateValidator (matcher : Matcher) : ValidatorEvaluator := fun attempt validator =>
  Run.ask (validator.judge matcher attempt)

/-- The reaction of a computation that ends with the issue or an error, without sleep. On an error
the attempt is left as it was. -/
def Reaction.ofExcept (attempt : Attempt) : Except TransitionError Issue → Reaction
  | .ok issue => ⟨{ attempt with issue }, .done, 0⟩
  | .error e => ⟨attempt, .failed e, 0⟩

/-- Carries out a post-function as its kind says. -/
def evaluatePostFunction : PostFunctionEvaluator := fun attempt postFunction =>
  Reaction.ofExcept attempt <$> (postFunction.apply attempt).run

namespace Registry

def empty : Registry :=
  ⟨fun _ => none, fun _ => none, fun _ => none⟩

/-- The registry of the library, which leaves patterns to a matcher. -/
def builtIn (matcher : Matcher := .builtIn) : Registry :=
  ⟨fun _ => some evaluateCondition, fun _ => some (evaluateValidator matcher),
    fun _ => some evaluatePostFunction⟩

def withCondition (registry : Registry) (type : ConditionType) (evaluator : ConditionEvaluator) :
    Registry :=
  { registry with
    condition? := fun t => if t = type then some evaluator else registry.condition? t }

def withValidator (registry : Registry) (type : ValidatorType) (evaluator : ValidatorEvaluator) :
    Registry :=
  { registry with
    validator? := fun t => if t = type then some evaluator else registry.validator? t }

def withPostFunction (registry : Registry) (type : PostFunctionType)
    (evaluator : PostFunctionEvaluator) : Registry :=
  { registry with
    postFunction? := fun t => if t = type then some evaluator else registry.postFunction? t }

/-- What is wrong with a rule whose type has no evaluator. -/
def unregistered (family tag : String) : TransitionError :=
  .misconfigured s!"no {family} registered for type {tag}"

/-- The evaluator of a type, which must be there. -/
def find {ε : Type} (evaluator : Option ε) (family tag : String) : Except TransitionError ε :=
  match evaluator with
  | some evaluator => .ok evaluator
  | none => .error (unregistered family tag)

def condition (registry : Registry) (type : ConditionType) :
    Except TransitionError ConditionEvaluator :=
  find (registry.condition? type) "condition" type.name

def validator (registry : Registry) (type : ValidatorType) :
    Except TransitionError ValidatorEvaluator :=
  find (registry.validator? type) "validator" type.name

def postFunction (registry : Registry) (type : PostFunctionType) :
    Except TransitionError PostFunctionEvaluator :=
  find (registry.postFunction? type) "post-function" type.name

end Registry

end IssueFlow
