import IssueFlow.Store.Graph

/-!
# Rule tables

The rules of a transition are listed by position; rules at one position keep the order in which
they were added.
-/

namespace IssueFlow

/-- Rows by position; rows at one position keep their order. -/
def byPosition {α : Type} (position : α → Position) (rows : List α) : List α :=
  sortBy (fun a b => compare (position a) (position b)) rows

/-- The rules of a transition in the order in which they run. -/
def rulesOf {κ : Type} (rules : List (Rule κ)) (transition : TransitionId) : List (Rule κ) :=
  byPosition Rule.position (rules.filter (·.transitionId == transition))

namespace Graph

def addCondition (rule : ConditionRule) : Change Graph Unit := do
  let t ← get
  t.requireTransition rule.transitionId
  set { t with conditions := t.conditions ++ [rule] }

def conditionsOf (t : Graph) (transition : TransitionId) : List ConditionRule :=
  rulesOf t.conditions transition

def deleteCondition (id : RuleId) : Change Graph Bool := do
  let t ← get
  let (found, rest) := removeWhere (fun rule : ConditionRule => rule.id == id) t.conditions
  set { t with conditions := rest }
  return found

def addValidator (rule : ValidatorRule) : Change Graph Unit := do
  let t ← get
  t.requireTransition rule.transitionId
  set { t with validators := t.validators ++ [rule] }

def validatorsOf (t : Graph) (transition : TransitionId) : List ValidatorRule :=
  rulesOf t.validators transition

def deleteValidator (id : RuleId) : Change Graph Bool := do
  let t ← get
  let (found, rest) := removeWhere (fun rule : ValidatorRule => rule.id == id) t.validators
  set { t with validators := rest }
  return found

def addPostFunction (rule : PostFunctionRule) : Change Graph Unit := do
  let t ← get
  t.requireTransition rule.transitionId
  set { t with postFunctions := t.postFunctions ++ [rule] }

def postFunctionsOf (t : Graph) (transition : TransitionId) : List PostFunctionRule :=
  rulesOf t.postFunctions transition

def deletePostFunction (id : RuleId) : Change Graph Bool := do
  let t ← get
  let (found, rest) := removeWhere (fun rule : PostFunctionRule => rule.id == id) t.postFunctions
  set { t with postFunctions := rest }
  return found

end Graph

end IssueFlow
