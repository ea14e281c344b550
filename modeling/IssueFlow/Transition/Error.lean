import IssueFlow.Authority.Error
import IssueFlow.Outbox
import IssueFlow.Rule

/-!
# Transition errors

A rejection is an answer to the user: the edge is missing, a condition is not met, or what was
submitted will not do. All other errors are faults of the data, the store or the configuration.
-/

namespace IssueFlow

/-- Why a transition was turned away. -/
inductive Rejection where
  /-- There is no edge from the issue's status, or the status has moved on. -/
  | noSuchTransition (fromStatus toStatus : StatusId)
  | conditionNotMet (type : ConditionType) (position : Position)
  /-- What found fault: the tag of a validator, the screen, or the writing of the fields. -/
  | validationFailed (validator message : String)
  deriving DecidableEq, Repr

namespace Rejection

def reason : Rejection → String
  | noSuchTransition _ _ => "no_such_transition"
  | conditionNotMet _ _ => "condition_not_met"
  | validationFailed _ _ => "validation_failed"

def message : Rejection → String
  | noSuchTransition source target => s!"no transition from status {source} to {target}"
  | conditionNotMet type position => s!"condition {type.name} at position {position} was not met"
  | validationFailed validator message => s!"{validator}: {message}"

end Rejection

inductive TransitionError where
  | notFound (what : String)
  | rejected (rejection : Rejection)
  /-- A rule whose settings cannot be evaluated, or whose type has no evaluator. -/
  | misconfigured (what : String)
  | storage (cause : StorageError)
  | access (cause : AccessError)
  | dispatch (cause : DispatchError)
  deriving DecidableEq, Repr

namespace TransitionError

def message : TransitionError → String
  | notFound what => s!"not found: {what}"
  | rejected rejection => s!"transition rejected: {rejection.message}"
  | misconfigured what => s!"misconfigured pipeline: {what}"
  | storage cause => s!"storage error: {cause.message}"
  | access cause => s!"permission check failed: {cause.message}"
  | dispatch cause => s!"dispatch failed: {cause.message}"

def rejection? : TransitionError → Option Rejection
  | rejected rejection => some rejection
  | _ => none

/-- What a user may be told: rejections by their rule, faults in general terms. -/
def userMessage : TransitionError → String
  | notFound what => s!"{what} not found"
  | rejected rejection => rejection.message
  | misconfigured _ => "workflow is misconfigured"
  | access cause => cause.userMessage
  | storage _ | dispatch _ => "internal storage error"

instance : OfStorage TransitionError := ⟨storage⟩

end TransitionError

/-- A post-function that failed; the transition it follows stands. -/
structure Warning where
  type : PostFunctionType
  position : Position
  message : String
  deriving DecidableEq, Repr

end IssueFlow
