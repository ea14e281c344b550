import IssueFlow.Transition.Execution
import IssueFlow.Wire.Rule
import IssueFlow.Wire.Workflow

/-!
# Wire forms of what comes out of a transition
-/

namespace IssueFlow

open Wire

/-- A plan is written with the names of the fields that must be filled in. -/
def Plan.toJson (plan : Plan) : Json :=
  .ofFields [
    ("transition", encode plan.transition),
    ("conditions", encode plan.conditions),
    ("validators", encode plan.validators),
    ("post_functions", encode plan.postFunctions),
    ("screen", encode plan.screen),
    ("screen_fields", encode plan.screenFields),
    ("required", encode (plan.requiredFields.map (·.field.display)))]

/-- A decision is written with its source, if it has one. -/
def Decision.toJson (decision : Decision) : Json :=
  .ofFields [
    ("granted", encode decision.isGranted),
    ("source", encode (decision.source?.map GrantSource.name))]

/-- A verdict is written with the reason of a failure. -/
def Verdict.toJson : Verdict → Json
  | .pass => .ofFields [("verdict", .string "pass")]
  | .fail reason => .ofFields [("verdict", .string "fail"), ("reason", .string reason)]

/-- A notification is written with its parts beside its kind. -/
instance : Wire Notification where
  encode
    | .event event issueId issueKey transitionId actor recipients => .ofFields [
      ("kind", .string "event"),
      ("event", encode event),
      ("issue_id", encode issueId),
      ("issue_key", encode issueKey),
      ("transition_id", encode transitionId),
      ("actor", encode actor),
      ("recipients", encode recipients)]
    | .webhook url payload => .ofFields [
      ("kind", .string "webhook"),
      ("url", encode url),
      ("payload", payload)]
  decode json := do
    let (tag, parts) ← taggedParts? "kind" ["event", "webhook"] false json
    match tag with
    | "event" =>
      let parts ← parts.upTo 6
      return .event (← parts.required 0 "event") (← parts.required 1 "issue_id")
        (← parts.required 2 "issue_key") (← parts.required 3 "transition_id")
        (← parts.required 4 "actor") (← parts.required 5 "recipients")
    | "webhook" =>
      let parts ← parts.upTo 2
      return .webhook (← parts.required 0 "url") (← parts.required 1 "payload")
    | _ => none

/-- A rejection is written with its parts beside its reason. -/
instance : Wire Rejection where
  encode rejection := .ofFields <| ("reason", .string rejection.reason) :: match rejection with
    | .noSuchTransition source target => [
      ("from_status", encode source),
      ("to_status", encode target)]
    | .conditionNotMet type position => [
      ("condition_type", encode type),
      ("position", encode position)]
    | .validationFailed validator message => [
      ("validator", encode validator),
      ("message", encode message)]
  decode json := do
    let (tag, parts) ← taggedParts? "reason"
      ["no_such_transition", "condition_not_met", "validation_failed"] false json
    let parts ← parts.upTo 2
    match tag with
    | "no_such_transition" =>
      return .noSuchTransition (← parts.required 0 "from_status") (← parts.required 1 "to_status")
    | "condition_not_met" =>
      return .conditionNotMet (← named? true (← parts.find? 0 "condition_type"))
        (← parts.required 1 "position")
    | "validation_failed" =>
      return .validationFailed (← parts.required 0 "validator") (← parts.required 1 "message")
    | _ => none

instance : Wire Warning where
  encode warning := .ofFields [
    ("post_function_type", encode warning.type),
    ("position", encode warning.position),
    ("message", encode warning.message)]
  decode json := do
    let parts ← parts? 3 json
    return {
      type := ← parts.required 0 "post_function_type"
      position := ← parts.required 1 "position"
      message := ← parts.required 2 "message" }

instance : Wire Taken where
  encode taken := .ofFields [
    ("issue", encode taken.issue),
    ("transition", encode taken.transition),
    ("from_status", encode taken.fromStatus),
    ("to_status", encode taken.toStatus),
    ("warnings", encode taken.warnings)]
  decode json := do
    let parts ← parts? 5 json
    return {
      issue := ← parts.required 0 "issue"
      transition := ← parts.required 1 "transition"
      fromStatus := ← parts.required 2 "from_status"
      toStatus := ← parts.required 3 "to_status"
      warnings := ← parts.required 4 "warnings" }

end IssueFlow
