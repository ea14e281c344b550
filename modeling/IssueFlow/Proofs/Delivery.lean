import IssueFlow.Proofs.LibraryRuns

/-!
# Delivery

What an attempt puts into the outbox. A post-function that dispatches and is not warned about adds
its one notification behind those that wait; any other leaves the outbox alone (`Visit.Delivers`).
There is a warning just where the outbox had no place left. So the notifications of a run stand in
the outbox in the order of its rules (`gains_of_chained`).
-/

namespace IssueFlow

namespace Outbox

/-- Some notifications were put behind those that wait, and none was taken out. -/
structure Gains (outbox : Outbox) (sent : List Notification) (later : Outbox) : Prop where
  capacity : later.capacity = outbox.capacity
  isOpen : later.isOpen = outbox.isOpen
  queue : later.queue = outbox.queue ++ sent

private theorem gains_nil (outbox : Outbox) : outbox.Gains [] outbox :=
  ⟨rfl, rfl, (List.append_nil _).symm⟩

private theorem Gains.append {outbox middle later : Outbox} {first second : List Notification}
    (before : outbox.Gains first middle) (behind : middle.Gains second later) :
    outbox.Gains (first ++ second) later where
  capacity := behind.capacity.trans before.capacity
  isOpen := behind.isOpen.trans before.isOpen
  queue := by rw [behind.queue, before.queue, List.append_assoc]

/-- A notification finds no place: nobody reads the outbox, or it is full. -/
def Rejects (outbox : Outbox) : Prop :=
  outbox.isOpen = false ∨ outbox.queue.length = outbox.capacity

/-- A notification is refused where it finds no place, and put behind the others elsewhere. -/
private theorem send_cases (outbox : Outbox) (notification : Notification) :
    (outbox.Rejects ∧ ∃ refusal, outbox.send notification = .error refusal) ∨
      ¬ outbox.Rejects ∧ ∃ next, outbox.send notification = .ok next ∧
        outbox.Gains [notification] next := by
  rw [send]
  cases isOpen : outbox.isOpen with
  | false => exact .inl ⟨.inl isOpen, .closed, rfl⟩
  | true =>
    by_cases room : outbox.queue.length < outbox.capacity
    · refine .inr ⟨?_, _, dif_pos room, ⟨rfl, isOpen.symm, rfl⟩⟩
      rintro (closed | full)
      · cases isOpen.symm.trans closed
      · omega
    · have full := Nat.le_antisymm outbox.bounded.2 (Nat.le_of_not_lt room)
      exact .inl ⟨.inr full, .outboxFull, dif_neg room⟩

private theorem gains_of_send {outbox next : Outbox} {notification : Notification}
    (sent : outbox.send notification = .ok next) :
    ¬ outbox.Rejects ∧ outbox.Gains [notification] next := by
  rcases outbox.send_cases notification with
    ⟨-, refusal, refused⟩ | ⟨room, later, sentToo, gained⟩
  · cases sent.symm.trans refused
  · cases sent.symm.trans sentToo
    exact ⟨room, gained⟩

private theorem rejects_of_send {outbox : Outbox} {notification : Notification}
    {refusal : DispatchError} (refused : outbox.send notification = .error refusal) :
    outbox.Rejects := by
  rcases outbox.send_cases notification with ⟨rejects, -⟩ | ⟨-, later, sent, -⟩
  · exact rejects
  · cases refused.symm.trans sent

end Outbox

namespace PostFunction

private theorem dispatches_of_notification? {postFunction : PostFunction} {attempt : Attempt}
    {store : Store} {notification : Notification}
    (tells : postFunction.notification? attempt store = some notification) :
    postFunction.dispatches = true := by
  cases postFunction with
  | sendNotification | triggerWebhook => rfl
  | _ => cases tells

/-- A post-function that writes a field dispatches nothing. -/
private theorem silent_of_field {postFunction : PostFunction} {field : FieldRef}
    (names : postFunction.ownField? = some field ∨ postFunction.parentField? = some field) :
    postFunction.dispatches = false := by
  cases postFunction with
  | sendNotification | triggerWebhook => rcases names with (names | names) <;> cases names
  | _ => rfl

end PostFunction

namespace Executor

namespace Visit

/-- The post-function is of a kind that dispatches, and there is no warning for it. -/
def delivers (visit : Visit) : Bool :=
  visit.rule.content.dispatches && visit.warning?.isNone

/-- The notification is what the post-function says of the issue of the attempt, as it was stored
when the post-function ran. -/
def Tells (attempt : Attempt) (visit : Visit) (notification : Notification) : Prop :=
  ∃ seen : Issue, seen.origin = attempt.issue.origin ∧ visit.before.store.Shows seen ∧
    visit.rule.content.notification? { attempt with issue := seen } visit.before.store =
      some notification

/-- What a visit does to an outbox that is as wide and as open as the given one. -/
structure Delivers (attempt : Attempt) (outbox : Outbox) (visit : Visit) : Prop where
  sent : visit.delivers = true → ∃ notification, visit.Tells attempt notification ∧
    visit.before.outbox.Gains [notification] visit.after.outbox
  unsent : visit.delivers = false → visit.after.outbox = visit.before.outbox
  warned : visit.rule.content.dispatches = true →
    (visit.warning?.isSome = true ↔
      outbox.isOpen = false ∨ visit.before.outbox.queue.length = outbox.capacity)
  bounded : visit.after.outbox.queue.length ≤ outbox.capacity

private theorem Delivers.gains {attempt : Attempt} {outbox : Outbox} {visit : Visit}
    (delivered : visit.Delivers attempt outbox) :
    ∃ sent, visit.before.outbox.Gains sent visit.after.outbox ∧
      List.Forall₂ (Tells attempt) ([visit].filter delivers) sent := by
  cases outcome : visit.delivers with
  | true =>
    obtain ⟨notification, tells, gained⟩ := delivered.sent outcome
    refine ⟨[notification], gained, ?_⟩
    rw [List.filter_cons_of_pos outcome]
    exact .cons tells .nil
  | false =>
    refine ⟨[], ?_, ?_⟩
    · rw [delivered.unsent outcome]
      exact Outbox.gains_nil _
    · rw [List.filter_cons_of_neg (Bool.eq_false_iff.1 outcome)]
      exact .nil

end Visit

/-- What the rules behind a commit find when they run: a store that answers, the issue of the
attempt in it, and an outbox as wide and as open as the given one. -/
structure Finds (attempt : Attempt) (outbox : Outbox) (seen : Issue) (world : World) : Prop where
  available : world.store.unavailable = false
  origin : seen.origin = attempt.issue.origin
  shows : world.store.Shows seen
  capacity : world.outbox.capacity = outbox.capacity
  isOpen : world.outbox.isOpen = outbox.isOpen

section Step

variable {attempt : Attempt} {outbox : Outbox} {seen : Issue} {world after : World}
  (found : Finds attempt outbox seen world)

include found

private theorem Finds.rejects_iff : world.outbox.Rejects ↔
    outbox.isOpen = false ∨ world.outbox.queue.length = outbox.capacity := by
  rw [Outbox.Rejects, found.isOpen, found.capacity]

/-- A rule that dispatches nothing delivers nothing. -/
private theorem delivers_of_silent {rule : PostFunctionRule}
    {outcome : Option (Attempt × Option String)} (silent : rule.content.dispatches = false)
    (same : after.outbox = world.outbox) :
    Visit.Delivers attempt outbox ⟨rule, world, outcome, after⟩ := by
  refine ⟨fun delivers => ?_, fun _ => same, fun loud => ?_, ?_⟩
  · rw [Visit.delivers, silent] at delivers
    cases delivers
  · cases silent.symm.trans loud
  · show after.outbox.queue.length ≤ _
    rw [same, ← found.capacity]
    exact world.outbox.bounded.2

/-- A rule delivers, and the next one finds what it found. -/
private theorem delivers_of_effect {rule : PostFunctionRule} {answer : Except TransitionError Issue}
    (effect : PostFunction.Effect { attempt with issue := seen } world rule.content answer after) :
    Visit.Delivers attempt outbox
        ⟨rule, world, some (ended { attempt with issue := seen } answer), after⟩ ∧
      Finds attempt outbox (answer.toOption.getD seen) after := by
  have delivered : Visit.Delivers attempt outbox
      ⟨rule, world, some (ended { attempt with issue := seen } answer), after⟩ := by
    generalize content : rule.content = postFunction at effect
    cases effect with
    | failed _ e reason =>
      -- What dispatches fails without the outbox only where the store is out of reach.
      refine delivers_of_silent found ?_ rfl
      rw [content, Bool.eq_false_iff]
      intro loud
      cases found.available.symm.trans (reason loud)
    | refused _ notification refusal tells full =>
      refine ⟨fun delivers => ?_, fun _ => rfl, fun _ => ?_, ?_⟩
      · cases (Bool.and_eq_true_iff.1 delivers).2
      · exact ⟨fun _ => found.rejects_iff.1 (Outbox.rejects_of_send full), fun _ => rfl⟩
      · rw [← found.capacity]
        exact world.outbox.bounded.2
    | sent _ notification next tells queued =>
      have loud := PostFunction.dispatches_of_notification? tells
      obtain ⟨room, gained⟩ := Outbox.gains_of_send queued
      refine ⟨fun _ => ?_, fun unsent => ?_, fun _ => ?_, ?_⟩
      · exact ⟨notification, ⟨seen, found.origin, found.shows, content ▸ tells⟩, gained⟩
      · rw [Visit.delivers, content, loud] at unsent
        cases unsent
      · rw [← found.rejects_iff]
        exact ⟨nofun, fun rejects => absurd rejects room⟩
      · rw [← found.capacity, ← gained.capacity]
        exact next.bounded.2
    | wrote _ _ _ _ _ names _ _ =>
      exact delivers_of_silent found (content ▸ PostFunction.silent_of_field (.inl names)) rfl
    | wroteParent _ _ _ _ _ names _ _ _ =>
      exact delivers_of_silent found (content ▸ PostFunction.silent_of_field (.inr names)) rfl
    | orphan | commented => exact delivers_of_silent found (by rw [content]; rfl) rfl
  obtain ⟨sent, gained, -⟩ := delivered.gains
  exact ⟨delivered, {
    available := effect.unavailable.trans found.available
    origin := (effect.origin found.shows).trans found.origin
    shows := effect.shows found.shows
    capacity := gained.capacity.trans found.capacity
    isOpen := gained.isOpen.trans found.isOpen }⟩

end Step

/-- The outbox behind a run holds what its visits delivered, in their order. -/
theorem gains_of_chained {attempt : Attempt} {outbox : Outbox} {visits : List Visit}
    {world final : World} (chained : Chained world visits final)
    (each : ∀ visit ∈ visits, visit.Delivers attempt outbox) :
    ∃ sent, world.outbox.Gains sent final.outbox ∧
      List.Forall₂ (Visit.Tells attempt) (visits.filter Visit.delivers) sent := by
  induction visits generalizing world with
  | nil =>
    obtain rfl : final = world := chained
    exact ⟨[], Outbox.gains_nil _, .nil⟩
  | cons visit visits ih =>
    obtain ⟨rfl, chained⟩ := chained
    obtain ⟨first, rest⟩ := List.forall_mem_cons.1 each
    obtain ⟨own, gained, told⟩ := first.gains
    obtain ⟨others, gainedToo, toldToo⟩ := ih chained rest
    refine ⟨own ++ others, gained.append gainedToo, ?_⟩
    rw [← List.singleton_append, List.filter_append]
    exact List.rel_append told toldToo

end Executor

/-- Behind the edge of the sample nothing is done but to tell its event. -/
def Sample.announcing (outbox : Outbox) : World where
  store := store.after [
    .operation (.onGraph (.deletePostFunction ⟨"R3"⟩)),
    .operation (.onGraph (.addPostFunction
      ⟨⟨"R7"⟩, ⟨"T1"⟩, .sendNotification "finished" [.reporter, .user ⟨"bob"⟩], position 0⟩))]
  outbox := outbox

/-- An outbox with room for one notification, which is taken. -/
def Sample.fullOutbox : Outbox :=
  { capacity := 1, queue := [.webhook "https://example.org/done" .null], bounded := by decide }

end IssueFlow
