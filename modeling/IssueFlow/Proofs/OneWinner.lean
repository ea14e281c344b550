import IssueFlow.Proofs.PostFunctions

/-!
# One winner for each snapshot

Attempts that all hold one snapshot of an issue are played one after the other, with other steps of
the store in between. A commit asks for the status of the snapshot, so only the first one goes
through: from then on the issue has moved on, and attempts are turned away at their commit
(`play_of_moved`). Until then nothing has changed for the next attempt (`play_of_current`).
-/

namespace IssueFlow

/-- An issue stays in its status with its history, and an available store stays available. -/
structure Store.KeepsPlace (id : IssueId) (store later : Store) : Prop where
  status : KeepsStatus id store later
  available : store.unavailable = false → later.unavailable = false

instance (id : IssueId) : IsPreorder Store (Store.KeepsPlace id) where
  refl store := ⟨Std.Refl.refl store, fun available => available⟩
  trans _ _ _ before later :=
    ⟨IsTrans.trans _ _ _ before.status later.status,
      fun available => later.available (before.available available)⟩

/-- No evaluator commits a status of the issue, and gates do not switch the store off. -/
structure Registry.Steady (id : IssueId) (registry : Registry) : Prop where
  gates : registry.GatesKeep (World.Along (Store.KeepsPlace id))
  postFunctions : registry.PostFunctionsKeep (World.Along (Store.KeepsStatus id))

private theorem Registry.Steady.builtIn {matcher : Matcher} (id : IssueId) :
    (Registry.builtIn matcher).Steady id := by
  refine ⟨builtIn_gatesKeep, ?_⟩
  exact builtIn_quiet.mono fun led => Store.keepsStatus_of_quiet led id

namespace Executor

structure Call where
  target : StatusId
  actor : UserId
  submission : Submission

inductive Event where
  | call (call : Call)
  /-- Something else happens to the store. -/
  | step (step : Store.Step)
  /-- Whoever reads the outbox leaves another one. -/
  | delivery (outbox : Outbox)

/-- A call goes for another status than that of the snapshot, and nothing else commits a status of
the issue. -/
def Event.Fair (snapshot : Issue) : Event → Prop
  | .call made => made.target ≠ snapshot.statusId
  | .step other => ¬ other.Commits snapshot.id
  | .delivery _ => True

/-- A call that was made: the world that it found, its answer and the world that it left. -/
structure Turn where
  call : Call
  before : World
  answer : Except TransitionError Taken
  after : World

def Turn.hasWon (turn : Turn) : Bool :=
  turn.answer.isOk

/-- Lets events happen in order, the calls all with one snapshot of an issue. -/
def play (executor : Executor) (snapshot : Issue) : List Event → World → List Turn × World
  | [], world => ([], world)
  | .call call :: events, world =>
    let (answer, after) :=
      (executor.take snapshot call.target call.actor call.submission).run world
    let (turns, final) := play executor snapshot events after
    (⟨call, world, answer, after⟩ :: turns, final)
  | .step step :: events, world =>
    play executor snapshot events { world with store := world.store.step step }
  | .delivery outbox :: events, world => play executor snapshot events { world with outbox }

private theorem play_call {executor : Executor} {snapshot : Issue} {call : Call}
    {events : List Event} {world final : World} {turns : List Turn}
    (played : executor.play snapshot (.call call :: events) world = (turns, final)) :
    ∃ answer after later,
      (executor.take snapshot call.target call.actor call.submission).run world = (answer, after) ∧
      executor.play snapshot events after = (later, final) ∧
      turns = ⟨call, world, answer, after⟩ :: later := by
  rw [play] at played
  cases played
  exact ⟨_, _, _, rfl, rfl, rfl⟩

/-- The call gets through all gates in the world that it finds. -/
def Turn.PassesGates (executor : Executor) (snapshot : Issue) (turn : Turn) : Prop :=
  ∃ made ready, (executor.prepare snapshot turn.call.target turn.call.actor
    turn.call.submission).run turn.before = (.ok made, ready)

/-- The issue accepts every value that the call submits. -/
def Turn.Fits (snapshot : Issue) (turn : Turn) : Prop :=
  ∀ update ∈ turn.call.submission.updates, snapshot.Accepts update

/-- The answer that a call gets whose issue has moved on. -/
def Turn.Rejected (snapshot : Issue) (turn : Turn) : Prop :=
  turn.answer = .error (.rejected (.noSuchTransition snapshot.statusId turn.call.target))

variable {executor : Executor} {snapshot : Issue}

/-- How calls with one snapshot have ended, when the issue was in that status before them. -/
structure Settled (executor : Executor) (snapshot : Issue) (status : StatusId) (world : World)
    (turns : List Turn) (final : World) : Prop where
  atMostOne : (turns.filter Turn.hasWon).length ≤ 1
  exactlyOne : status = snapshot.statusId →
    (∃ turn ∈ turns, turn.PassesGates executor snapshot ∧ turn.Fits snapshot) →
      (turns.filter Turn.hasWon).length = 1
  landed : ∀ turn ∈ turns, turn.hasWon = true → final.store.IsIn snapshot.id turn.call.target
  unchanged : (∀ turn ∈ turns, turn.hasWon = false) → final.store.IsIn snapshot.id status
  logged : (final.store.tables.issueLog.historyOf snapshot.id).length =
    (world.store.tables.issueLog.historyOf snapshot.id).length + (turns.filter Turn.hasWon).length
  /-- After the winner, every call that gets through its gates is rejected. -/
  rejected : turns.Pairwise fun earlier later => earlier.hasWon = true →
    later.PassesGates executor snapshot → later.Rejected snapshot

private theorem settled_nil {status : StatusId} {world : World}
    (stands : world.store.IsIn snapshot.id status) :
    Settled executor snapshot status world [] world where
  atMostOne := Nat.zero_le 1
  exactlyOne := by
    rintro - ⟨turn, member, -⟩
    cases member
  landed := List.forall_mem_nil _
  unchanged _ := stands
  logged := rfl
  rejected := .nil

/-- Something that leaves the issue in its status makes no difference. -/
private theorem Settled.after_kept {status : StatusId} {world after final : World}
    {turns : List Turn} (settled : Settled executor snapshot status after turns final)
    (history : after.store.tables.issueLog.historyOf snapshot.id =
      world.store.tables.issueLog.historyOf snapshot.id) :
    Settled executor snapshot status world turns final :=
  { settled with logged := by rw [settled.logged, history] }

/-- A call that loses changes nothing for those after it. -/
private theorem Settled.cons_lost {status : StatusId} {world final : World} {turn : Turn}
    {turns : List Turn} (settled : Settled executor snapshot status world turns final)
    (lost : turn.hasWon = false)
    (shut : status = snapshot.statusId →
      ¬ (turn.PassesGates executor snapshot ∧ turn.Fits snapshot)) :
    Settled executor snapshot status world (turn :: turns) final := by
  have same : (turn :: turns).filter Turn.hasWon = turns.filter Turn.hasWon := by
    simp [lost]
  refine ⟨?_, ?_, ?_, ?_, ?_, ?_⟩
  · rw [same]
    exact settled.atMostOne
  · rw [same]
    rintro current ⟨fit, member, passes⟩
    rcases List.mem_cons.1 member with rfl | later
    · exact absurd passes (shut current)
    · exact settled.exactlyOne current ⟨fit, later, passes⟩
  · refine List.forall_mem_cons.2 ⟨fun won => ?_, settled.landed⟩
    rw [lost] at won
    cases won
  · intro none
    exact settled.unchanged (List.forall_mem_cons.1 none).2
  · rw [same]
    exact settled.logged
  · refine List.pairwise_cons.2 ⟨fun later _ won => ?_, settled.rejected⟩
    rw [lost] at won
    cases won

/-- All calls behind the winner lose. -/
private theorem settled_cons_won {status : StatusId} {world final : World} {turn : Turn}
    {turns : List Turn} (won : turn.hasWon = true)
    (landed : final.store.IsIn snapshot.id turn.call.target)
    (logged : (final.store.tables.issueLog.historyOf snapshot.id).length =
      (world.store.tables.issueLog.historyOf snapshot.id).length + 1)
    (none : ∀ turn ∈ turns, turn.hasWon = false)
    (rejected : ∀ turn ∈ turns, turn.PassesGates executor snapshot → turn.Rejected snapshot) :
    Settled executor snapshot status world (turn :: turns) final := by
  have one : (turn :: turns).filter Turn.hasWon = [turn] := by
    rw [List.filter_cons_of_pos won, List.filter_eq_nil_iff.2]
    intro later member
    simp [none later member]
  refine ⟨?_, ?_, ?_, ?_, ?_, ?_⟩
  · rw [one]
    exact Nat.le_refl 1
  · intro _ _
    rw [one]
    rfl
  · refine List.forall_mem_cons.2 ⟨fun _ => landed, ?_⟩
    intro later member wonToo
    rw [none later member] at wonToo
    cases wonToo
  · intro all
    have lost := (List.forall_mem_cons.1 all).1
    rw [won] at lost
    cases lost
  · rw [one]
    exact logged
  · refine List.pairwise_cons.2 ⟨fun later member _ => rejected later member, ?_⟩
    exact List.pairwise_of_forall_mem_list fun _ _ later member _ => rejected later member

variable (steady : executor.registry.Steady snapshot.id)

include steady

section Turns

variable {call : Call} {world after : World} {answer : Except TransitionError Taken}
  (run : (executor.take snapshot call.target call.actor call.submission).run world =
    (answer, after))

include run

/-- A call that loses leaves the issue in its status. -/
private theorem keeps_of_lost (lost : answer.isOk = false) :
    Store.KeepsStatus snapshot.id world.store after.store := by
  have judged := prepare_keeps steady.gates snapshot call.target call.actor call.submission world
  cases executor.course_of_take run with
  | turnedAway e later prepared =>
    rw [prepared] at judged
    exact judged.status
  | refused attempt plan ready e prepared commitRefused =>
    rw [prepared] at judged
    exact judged.status
  | taken => cases lost

/-- A call that wins found the issue in the status of its snapshot. It leaves the issue in its
target, with one more entry in the history. -/
private theorem landed_of_won {status : StatusId} (stands : world.store.IsIn snapshot.id status)
    (won : answer.isOk = true) :
    status = snapshot.statusId ∧ after.store.IsIn snapshot.id call.target ∧
      (after.store.tables.issueLog.historyOf snapshot.id).length =
        (world.store.tables.issueLog.historyOf snapshot.id).length + 1 := by
  have judged := prepare_keeps steady.gates snapshot call.target call.actor call.submission world
  cases executor.course_of_take run with
  | turnedAway => cases won
  | refused => cases won
  | taken attempt plan ready row committed after followed prepared done behind =>
    rw [prepared] at judged
    obtain ⟨same, -, -⟩ := prepare_ok executor prepared
    have written := committed_of_commit done
    have history := written.historyOf
    have stood := written.stood
    have stored := written.stored
    rw [same] at history stood stored
    obtain ⟨standsReady, sameHistory⟩ := judged.status status stands
    have kept := followUp_keeps steady.postFunctions { attempt with issue := row }
      plan.postFunctions committed
    rw [behind] at kept
    obtain ⟨landed, later⟩ := kept call.target ⟨row, stored, written.status⟩
    refine ⟨standsReady.unique stood, landed, ?_⟩
    rw [later, history, List.length_append, sameHistory]
    rfl

omit run in
/-- What a call that gets through its gates finds at its commit. -/
private theorem ready_of_passes {status : StatusId} (stands : world.store.IsIn snapshot.id status)
    (passes : Turn.PassesGates executor snapshot ⟨call, world, answer, after⟩) :
    ∃ attempt plan ready, (executor.prepare snapshot call.target call.actor call.submission).run
        world = (.ok (attempt, plan), ready) ∧
      ready.store.unavailable = false ∧ ready.store.IsIn snapshot.id status ∧
      attempt.issue = snapshot ∧ attempt.submission = call.submission := by
  obtain ⟨⟨attempt, plan⟩, ready, prepared⟩ := passes
  have judged := prepare_keeps steady.gates snapshot call.target call.actor call.submission world
  have prepared : (executor.prepare snapshot call.target call.actor call.submission).run world =
    (.ok (attempt, plan), ready) := prepared
  rw [prepared] at judged
  obtain ⟨same, -, handed⟩ := prepare_ok executor prepared
  exact ⟨attempt, plan, ready, prepared,
    judged.available (available_of_prepare executor prepared), (judged.status _ stands).1, same,
    handed⟩

/-- A call that gets through its gates is rejected when the issue has moved on. -/
private theorem rejected_of_moved {status : StatusId} (stands : world.store.IsIn snapshot.id status)
    (moved : status ≠ snapshot.statusId)
    (passes : Turn.PassesGates executor snapshot ⟨call, world, answer, after⟩) :
    Turn.Rejected snapshot ⟨call, world, answer, after⟩ := by
  obtain ⟨attempt, plan, ready, prepared, available, standsReady, same, -⟩ :=
    ready_of_passes steady stands passes
  subst same
  rw [take_eq, run_bind_of_ok prepared] at run
  have run : (executor.finish attempt plan call.target).run ready = (answer, after) := run
  rw [finish_run, commit_of_moved available standsReady moved] at run
  cases run
  rfl

/-- A call that gets through its gates and whose values fit wins when its snapshot is current. -/
private theorem won_of_current (stands : world.store.IsIn snapshot.id snapshot.statusId)
    (passes : Turn.PassesGates executor snapshot ⟨call, world, answer, after⟩)
    (fits : Turn.Fits snapshot ⟨call, world, answer, after⟩) : answer.isOk = true := by
  obtain ⟨attempt, plan, ready, prepared, available, standsReady, same, handed⟩ :=
    ready_of_passes steady stands passes
  subst same
  have accepted : ∀ update ∈ attempt.submission.updates, attempt.issue.Accepts update := by
    rw [handed]
    exact fits
  obtain ⟨row, committed, done⟩ := commit_of_current available standsReady accepted
  rw [take_eq, run_bind_of_ok prepared] at run
  have run : (executor.finish attempt plan call.target).run ready = (answer, after) := run
  rw [finish_run, done] at run
  cases run
  rfl

end Turns

/-- Once the issue has moved on it stays where it is, and no call wins. -/
theorem play_of_moved {events : List Event} (fair : ∀ event ∈ events, event.Fair snapshot)
    {world final : World} {turns : List Turn} {status : StatusId}
    (stands : world.store.IsIn snapshot.id status) (moved : status ≠ snapshot.statusId)
    (played : executor.play snapshot events world = (turns, final)) :
    Store.KeepsStatus snapshot.id world.store final.store ∧
      (∀ turn ∈ turns, turn.hasWon = false) ∧
      ∀ turn ∈ turns, turn.PassesGates executor snapshot → turn.Rejected snapshot := by
  induction events generalizing world turns with
  | nil =>
    cases played
    exact ⟨Std.Refl.refl _, List.forall_mem_nil _, List.forall_mem_nil _⟩
  | cons event events ih =>
    obtain ⟨first, rest⟩ := List.forall_mem_cons.1 fair
    cases event with
    | step other =>
      have kept := Store.step_keepsStatus first world.store
      obtain ⟨stays, none, rejected⟩ := ih rest (kept _ stands).1 played
      exact ⟨IsTrans.trans _ _ _ kept stays, none, rejected⟩
    | delivery outbox =>
      rw [play] at played
      have held := ih rest (by exact stands) played
      exact held
    | call call =>
      obtain ⟨answer, after, later, run, more, rfl⟩ := play_call played
      have lost : answer.isOk = false := by
        by_contra won
        exact moved (landed_of_won steady run stands (by simpa using won)).1
      have kept := keeps_of_lost steady run lost
      obtain ⟨stays, none, rejected⟩ := ih rest (kept _ stands).1 more
      refine ⟨IsTrans.trans _ _ _ kept stays, ?_, ?_⟩
      · exact List.forall_mem_cons.2 ⟨lost, none⟩
      · exact List.forall_mem_cons.2 ⟨rejected_of_moved steady run stands moved, rejected⟩

private theorem play_settled {events : List Event} (fair : ∀ event ∈ events, event.Fair snapshot)
    {world final : World} {turns : List Turn} {status : StatusId}
    (stands : world.store.IsIn snapshot.id status)
    (played : executor.play snapshot events world = (turns, final)) :
    Settled executor snapshot status world turns final := by
  induction events generalizing world turns with
  | nil =>
    cases played
    exact settled_nil stands
  | cons event events ih =>
    obtain ⟨first, rest⟩ := List.forall_mem_cons.1 fair
    cases event with
    | step other =>
      obtain ⟨stays, same⟩ := Store.step_keepsStatus first world.store _ stands
      exact (ih rest stays played).after_kept same
    | delivery outbox =>
      rw [play] at played
      have settled := ih rest (by exact stands) played
      exact settled.after_kept rfl
    | call call =>
      obtain ⟨answer, after, later, run, more, rfl⟩ := play_call played
      cases won : answer.isOk with
      | false =>
        obtain ⟨stays, same⟩ := keeps_of_lost steady run won _ stands
        refine ((ih rest stays more).after_kept same).cons_lost won ?_
        rintro rfl ⟨passes, fits⟩
        rw [won_of_current steady run stands passes fits] at won
        cases won
      | true =>
        obtain ⟨current, landed, logged⟩ := landed_of_won steady run stands won
        obtain ⟨stays, none, rejected⟩ := play_of_moved steady rest landed first more
        obtain ⟨final, same⟩ := stays _ landed
        exact settled_cons_won won final (by rw [same]; exact logged) none rejected

end Executor

/-- One winner for each snapshot. Calls that all hold one snapshot of a stored issue, and go for
other statuses than it has there, are settled by at most one winner, in whatever order they are made
and whatever else happens in between, as long as nobody else commits a status of the issue. -/
theorem one_winner_per_snapshot (executor : Executor) (snapshot : Issue)
    (steady : executor.registry.Steady snapshot.id) (events : List Executor.Event)
    (fair : ∀ event ∈ events, event.Fair snapshot) (world : World) (status : StatusId)
    (stands : world.store.IsIn snapshot.id status) :
    let (turns, final) := executor.play snapshot events world
    executor.Settled snapshot status world turns final := by
  rcases played : executor.play snapshot events world with ⟨turns, final⟩
  exact Executor.play_settled steady fair stands played

/-- Two calls for the edge of the sample issue, some time apart. -/
def Sample.race : List Executor.Event :=
  let call : Executor.Call := ⟨⟨"done"⟩, reporter.id, submission⟩
  [.call call, .step (.tick ⟨1, 0⟩), .call call]

theorem sample_one_winner :
    Registry.builtIn.Steady Sample.issue.id ∧
      (∀ event ∈ Sample.race, event.Fair Sample.issue) ∧
      Sample.store.IsIn Sample.issue.id ⟨"open"⟩ ∧
      ((Executor.play {} Sample.issue Sample.race Sample.world).1.map Executor.Turn.hasWon =
        [true, false]) ∧
      let (turns, final) := Executor.play {} Sample.issue Sample.race Sample.world
      Executor.Settled {} Sample.issue ⟨"open"⟩ Sample.world turns final := by
  have other : (⟨"done"⟩ : StatusId) ≠ Sample.issue.statusId := by decide
  have fair : ∀ event ∈ Sample.race, event.Fair Sample.issue := by
    refine List.forall_mem_cons.2 ⟨other, List.forall_mem_cons.2 ⟨?_, ?_⟩⟩
    · rintro ⟨commit, -, ⟨⟩⟩
    · exact List.forall_mem_singleton.2 other
  have stands : Sample.store.IsIn Sample.issue.id ⟨"open"⟩ :=
    ⟨Sample.issue, by decide +kernel, rfl⟩
  refine ⟨.builtIn _, fair, stands, by decide +kernel, ?_⟩
  exact one_winner_per_snapshot {} Sample.issue (.builtIn _) Sample.race fair Sample.world _ stands

end IssueFlow
