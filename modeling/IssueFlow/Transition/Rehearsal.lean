import IssueFlow.Transition.Registry

/-!
# Rehearsals

A stand-in takes the place of an evaluator. It puts the tag of its type on record and then plays a
part, so that a pipeline can be tried out with evaluators that fail, hang or interfere.
-/

namespace IssueFlow

inductive Part where
  /-- Leaves the work to the evaluator of the library. -/
  | itself
  | succeed
  | fail
  | error
  | panic
  /-- Switches the store off. -/
  | outage
  | sleep (milliseconds : Nat)
  /-- Takes the issue to another status behind the back of the attempt. -/
  | moveTo (status : StatusId)
  deriving DecidableEq, Repr

namespace Part

def stubError : TransitionError :=
  .misconfigured "stub error"

/-- Commits a status on an issue as it is stored now, if it is stored. -/
def moveIssue (attempt : Attempt) (status : StatusId) : Run Unit := do
  let stored ← Run.ask (Query.look fun t => t.issueLog.issues.get? attempt.issue.id)
  match stored with
  | none => return ()
  | some issue =>
    let _ ← Run.write fun _ => Tables.onIssueLog (IssueLog.commitTransition
      { issueId := issue.id, expectedStatus := issue.statusId, newStatus := status
        actor := attempt.actor, fieldUpdates := [], resolution := none, comment := none
        committedAt := ⟨7, 0⟩ })
    return ()

/-- What a part does to the world. -/
def interfere (attempt : Attempt) : Part → Run Unit
  | outage => modify fun world => { world with store := { world.store with unavailable := true } }
  | moveTo status => moveIssue attempt status
  | _ => pure ()

def condition (part : Part) : ConditionEvaluator := fun attempt condition => do
  Run.record condition.type.name
  match part with
  | itself => evaluateCondition attempt condition
  | fail => return false
  | error | panic => throw stubError
  | part =>
    part.interfere attempt
    return true

def validator (part : Part) : ValidatorEvaluator := fun attempt validator => do
  Run.record validator.type.name
  match part with
  | itself => evaluateValidator .builtIn attempt validator
  | fail => return .fail "stub refused"
  | error | panic => throw stubError
  | part =>
    part.interfere attempt
    return .pass

/-- The ending of a part in a post-function; one that succeeds leaves the issue as it is. -/
def apply (part : Part) (attempt : Attempt) (postFunction : PostFunction) : Run Issue :=
  match part with
  | itself => postFunction.apply attempt
  | fail => throw (.notFound "stub target")
  | error => throw stubError
  | part => do
    part.interfere attempt
    return attempt.issue

def postFunction (part : Part) : PostFunctionEvaluator := fun attempt postFunction => do
  let _ ← (Run.record postFunction.type.name).run
  match part with
  | panic => return ⟨attempt, .panicked, 0⟩
  | sleep milliseconds => return ⟨attempt, .done, milliseconds⟩
  | part => return Reaction.ofExcept attempt (← (part.apply attempt postFunction).run)

/-- The part that a script names. -/
def ofJson? : Json → Option Part
  | .string "trace" => some itself
  | .string "ok" => some succeed
  | .string "fail" => some fail
  | .string "error" => some error
  | .string "panic" => some panic
  | .string "outage" => some outage
  | .object [("sleep_ms", .number (.whole (.ofNat n)))] => some (sleep n)
  | .object [("move_to", .string status)] => some (moveTo ⟨status⟩)
  | _ => none

/-- Gives parts to the types that the fields of an object name. -/
def assign {τ : Type} [Enumeration τ] (replace : Registry → τ → Part → Registry)
    (registry : Registry) (parts : Option Json) : Option Registry :=
  match parts with
  | none | some .null => some registry
  | some (.object fields) => fields.foldlM (fun registry (tag, part) => do
    return replace registry (← Enumeration.ofName? tag) (← ofJson? part)) registry
  | some _ => none

end Part

/-- The registry that a script describes: the evaluators that it starts from, and the parts that
replace some of them. -/
def Registry.ofScript? (script : Json) : Option Registry := do
  let base ← match script.get? "base" with
    | none | some .null | some (.string "builtins") => some builtIn
    | some (.string "empty") => some empty
    | some _ => none
  let base ← Part.assign (fun r type part => r.withCondition type part.condition) base
    (script.get? "conditions")
  let base ← Part.assign (fun r type part => r.withValidator type part.validator) base
    (script.get? "validators")
  Part.assign (fun r type part => r.withPostFunction type part.postFunction) base
    (script.get? "post_functions")

end IssueFlow
