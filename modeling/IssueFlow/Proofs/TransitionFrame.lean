import IssueFlow.Proofs.AllOrNothing

/-!
# The frame of transitions

Transitions write to the issue tables and to no others (`Store.SharesRest`), and the listings of
transitions that may be taken write nothing themselves: what the evaluators keep, they keep.
-/

namespace IssueFlow

namespace Store

/-- All tables but those of the issues are the same. -/
def SharesRest (store later : Store) : Prop :=
  later.tables = { store.tables with issueLog := later.tables.issueLog }

instance : IsPreorder Store SharesRest where
  refl _ := rfl
  trans first second third before later := by
    rw [SharesRest] at *
    rw [later, before]

private theorem sharesRest_of_issueLog {α : Type} (store : Store) (op : Change IssueLog α) :
    SharesRest store (store.update (Tables.onIssueLog op)).2 := by
  rcases Bool.eq_false_or_eq_true store.unavailable with unavailable | available
  · rw [update, if_pos unavailable]
    exact Std.Refl.refl store
  · rw [update_of_available available]
    rfl

private theorem sharesRest_of_quiet {store later : Store} (led : LeadsBy Step.Quiet store later) :
    SharesRest store later := by
  refine led.related ?_
  rintro store step (⟨id, updates⟩ | ⟨issue, author, body, time⟩)
  · exact sharesRest_of_issueLog store _
  · exact sharesRest_of_issueLog store _

end Store

theorem commit_sharesRest (attempt : Attempt) (target : StatusId) :
    Keeps (World.Along Store.SharesRest) (Executor.commit attempt target).run :=
  fun world => Store.sharesRest_of_issueLog world.store _

private theorem sharesRest_of_untouched {world later : World} (untouched : world.Untouched later) :
    World.Along Store.SharesRest world later := by
  rw [World.Along, Store.SharesRest, untouched.tables]

namespace Registry.Harmless

variable {registry : Registry} (harmless : registry.Harmless)

include harmless

theorem gatesShareRest : registry.GatesKeep (World.Along Store.SharesRest) :=
  harmless.gatesKeep.mono sharesRest_of_untouched

theorem postFunctionsShareRest : registry.PostFunctionsKeep (World.Along Store.SharesRest) := by
  intro type evaluate found attempt postFunction
  rcases harmless.postFunction found with rfl | kept
  · exact (evaluatePostFunction_quiet attempt postFunction).mono Store.sharesRest_of_quiet
  · exact (kept attempt postFunction).mono sharesRest_of_untouched

end Registry.Harmless

namespace Executor

variable {executor : Executor} {R : World → World → Prop} [IsPreorder World R]
  (gates : executor.registry.GatesKeep R)

include gates

private theorem offered_keeps (issue : Issue) (actor : UserId) (transitions : List Transition) :
    Keeps R (executor.offered issue actor transitions).run := by
  induction transitions with
  | nil => exact keeps_return []
  | cons transition transitions ih =>
    refine Keeps.run_bind (keeps_ask _) fun conditions => ?_
    refine Keeps.run_bind (failedCondition?_keeps gates _ _) fun failed => ?_
    exact Keeps.run_bind ih fun others => keeps_return _

theorem available_keeps (issue : Issue) (actor : UserId) :
    Keeps R (executor.available issue actor).run := by
  refine Keeps.run_bind (keeps_ask _) fun workflow => ?_
  exact Keeps.run_bind (keeps_ask _) fun edges => offered_keeps gates issue actor edges

theorem serviceAvailable_keeps (id : IssueId) (actor : UserId) :
    Keeps R (Service.available executor id actor).run := by
  refine Keeps.run_bind (keeps_of_same fun _ => rfl) fun issue => ?_
  refine Keeps.run_bind (keeps_of_same fun _ => rfl) ?_
  rintro (_ | _)
  · exact keeps_return []
  · exact available_keeps gates issue actor

end Executor

end IssueFlow
