import IssueFlow.Service.Authorized
import Mathlib.Order.Defs.Unbundled

/-!
# Computations

How computations on the store and the world run: in sequence, up to the first error. `Keeps` says
that a computation leads from every state only to related ones, whatever it answers. Relations that
are preorders carry over from the parts of a computation to the whole.
-/

namespace IssueFlow

variable {ε ε' σ α β : Type}

theorem Except.bind_eq_ok_iff {answer : Except ε α} {next : α → Except ε β} {b : β} :
    answer.bind next = .ok b ↔ ∃ a, answer = .ok a ∧ next a = .ok b := by
  cases answer <;> simp [Except.bind]

theorem Except.mapError_eq_ok_iff {answer : Except ε α} {f : ε → ε'} {a : α} :
    answer.mapError f = .ok a ↔ answer = .ok a := by
  cases answer with
  | ok b =>
    show Except.ok b = Except.ok a ↔ _
    rw [Except.ok.injEq, Except.ok.injEq]
  | error e => exact iff_of_false (by rintro ⟨⟩) (by rintro ⟨⟩)

theorem Except.map_eq_ok_iff {answer : Except ε α} {f : α → β} {b : β} :
    answer.map f = .ok b ↔ ∃ a, answer = .ok a ∧ f a = b := by
  cases answer <;> simp [Except.map]

/-- An answer of which something reads so is there. -/
theorem Except.ok_of_toOption_map {answer : Except ε α} {f : α → β} {b : β}
    (reads : answer.toOption.map f = some b) : ∃ a, answer = .ok a ∧ f a = b := by
  cases answer with
  | ok a => exact ⟨a, rfl, Option.some.inj reads⟩
  | error e => cases reads

theorem ok_of_bind {answer : Except ε α} {next : α → Except ε β} {b : β}
    (done : (answer >>= next) = .ok b) : ∃ a, answer = .ok a ∧ next a = .ok b :=
  Except.bind_eq_ok_iff.1 done

theorem Except.bind_eq_error_iff {answer : Except ε α} {next : α → Except ε β} {e : ε} :
    (answer >>= next) = .error e ↔
      answer = .error e ∨ ∃ a, answer = .ok a ∧ next a = .error e := by
  cases answer with
  | ok a =>
    show next a = _ ↔ _
    simp
  | error e' =>
    show Except.error e' = _ ↔ _
    simp

@[simp] theorem require_eq_ok_iff {condition : Bool} {error : StorageError} {u : Unit} :
    require condition error = .ok u ↔ condition = true := by
  cases condition <;> simp [require]

/-- A computation runs its parts in sequence; an error ends it. -/
theorem run_bind (first : ExceptT ε (StateM σ) α) (next : α → ExceptT ε (StateM σ) β) (state : σ) :
    (first >>= next).run state = match first.run state with
      | (.ok a, later) => (next a).run later
      | (.error e, later) => (.error e, later) := by
  show (ExceptT.bind first next).run state = _
  simp only [ExceptT.bind, ExceptT.run_mk]
  show (match first.run state with | (answer, later) => (ExceptT.bindCont next answer) later) = _
  rcases first.run state with ⟨a | a, later⟩ <;> rfl

/-- A computation that answers has passed each of its parts. -/
theorem ok_of_run_bind {first : ExceptT ε (StateM σ) α} {next : α → ExceptT ε (StateM σ) β}
    {state final : σ} {b : β} (done : (first >>= next).run state = (.ok b, final)) :
    ∃ a later, first.run state = (.ok a, later) ∧ (next a).run later = (.ok b, final) := by
  rw [run_bind] at done
  split at done
  · next a later executed => exact ⟨a, later, executed, done⟩
  · cases done

theorem run_bind_of_ok {first : ExceptT ε (StateM σ) α} {next : α → ExceptT ε (StateM σ) β}
    {state later : σ} {a : α} (executed : first.run state = (.ok a, later)) :
    (first >>= next).run state = (next a).run later := by
  rw [run_bind, executed]

/-- A run of whose answer something reads so has answered. -/
theorem ok_of_answer {result : Except ε α × σ} {f : α → β} {b : β}
    (reads : result.1.toOption.map f = some b) :
    ∃ a later, result = (.ok a, later) ∧ f a = b := by
  obtain ⟨a, answered, same⟩ := Except.ok_of_toOption_map reads
  exact ⟨a, result.2, Prod.ext answered rfl, same⟩

/-- An answer that is there already lets the rest run. -/
theorem run_lift_ok_bind (a : α) (next : α → ExceptT ε (StateM σ) β) (state : σ) :
    ((liftM (.ok a : Except ε α) : ExceptT ε (StateM σ) α) >>= next).run state =
      (next a).run state := rfl

/-- What looks at the state goes on with it. -/
theorem looked {next : σ → ExceptT ε (StateM σ) α} {state : σ} {result : Except ε α × σ}
    (done : (get >>= next).run state = result) : (next state).run state = result :=
  done

/-- A computation that answers has passed the check in front of it. -/
theorem ok_of_check {answer : Except ε α} {next : α → ExceptT ε (StateM σ) β} {state final : σ}
    {b : β}
    (done : ((liftM answer : ExceptT ε (StateM σ) α) >>= next).run state = (.ok b, final)) :
    ∃ a, answer = .ok a ∧ (next a).run state = (.ok b, final) := by
  cases answer with
  | ok a => exact ⟨a, rfl, done⟩
  | error e => cases done

theorem require_bind_run (condition : Bool) (error : StorageError) (next : Unit → Change σ β)
    (state : σ) : ((liftM (require condition error) : Change σ Unit) >>= next).run state =
      if condition then (next ()).run state else (.error error, state) := by
  cases condition <;> rfl

theorem require_bind_eq_ok_iff {condition : Bool} {error : StorageError}
    {next : Unit → Change σ β} {state final : σ} {b : β} :
    ((liftM (require condition error) : Change σ Unit) >>= next).run state = (.ok b, final) ↔
      condition = true ∧ (next ()).run state = (.ok b, final) := by
  cases condition
  · exact iff_of_false (by rintro ⟨⟩) (by rintro ⟨⟨⟩, -⟩)
  · exact (and_iff_right rfl).symm

theorem run_get_bind {next : σ → ExceptT ε (StateM σ) α} {state : σ} :
    (get >>= next).run state = (next state).run state := rfl

theorem set_run_eq_ok_iff {state next final : σ} {u : PUnit} :
    (set next : ExceptT ε (StateM σ) PUnit).run state = (.ok u, final) ↔ next = final := by
  constructor <;>
  · rintro ⟨⟩
    rfl

theorem checkSome_bind_run {option : Option α} {check : α → Except ε PUnit}
    (passed : ∀ {a}, option = some a → check a = .ok ⟨⟩) (next : PUnit → ExceptT ε (StateM σ) β)
    (state : σ) :
    (option.forM (fun a => (liftM (check a) : ExceptT ε (StateM σ) PUnit)) >>= next).run state =
      (next ⟨⟩).run state := by
  cases option with
  | none => rfl
  | some a =>
    show ((liftM (check a) : ExceptT ε (StateM σ) PUnit) >>= next).run state = _
    rw [passed rfl]
    rfl

/-- Only what is there has passed the check. -/
theorem ok_of_checkSome {option : Option α} {check : α → Except ε PUnit}
    {next : PUnit → ExceptT ε (StateM σ) β} {state final : σ} {b : β}
    (done : (option.forM (fun a => (liftM (check a) : ExceptT ε (StateM σ) PUnit)) >>= next).run
      state = (.ok b, final)) :
    (∀ {a}, option = some a → check a = .ok ⟨⟩) ∧ (next ⟨⟩).run state = (.ok b, final) := by
  cases option with
  | none => exact ⟨nofun, done⟩
  | some a =>
    obtain ⟨_, passed, rest⟩ := ok_of_check done
    refine ⟨?_, rest⟩
    rintro _ ⟨⟩
    exact passed

theorem map_run (computation : ExceptT ε (StateM σ) α) (f : α → β) (state : σ) :
    (f <$> computation).run state =
      ((computation.run state).1.map f, (computation.run state).2) := by
  rw [map_eq_pure_bind, run_bind]
  rcases computation.run state with ⟨a | a, later⟩ <;> rfl

theorem map_run_eq_ok_iff {computation : ExceptT ε (StateM σ) α} {f : α → β} {state final : σ}
    {b : β} : (f <$> computation).run state = (.ok b, final) ↔
      ∃ a, computation.run state = (.ok a, final) ∧ f a = b := by
  rw [map_run, Prod.mk.injEq, Except.map_eq_ok_iff]
  constructor
  · rintro ⟨⟨a, answered, same⟩, left⟩
    exact ⟨a, Prod.ext answered left, same⟩
  · rintro ⟨a, done, same⟩
    rw [done]
    exact ⟨⟨a, rfl, same⟩, rfl⟩

/-! ## Failures -/

/-- A computation that fails leaves the state in which it was started. -/
def FailsClean (computation : ExceptT ε (StateM σ) α) : Prop :=
  ∀ state after : σ, ∀ e : ε, computation.run state = (.error e, after) → after = state

/-- A computation answers from every state. -/
def Answers (computation : ExceptT ε (StateM σ) α) : Prop :=
  ∀ state, ∃ a after, computation.run state = (.ok a, after)

theorem answers_pure (a : α) : Answers (pure a : ExceptT ε (StateM σ) α) :=
  fun state => ⟨a, state, rfl⟩

theorem answers_set (state : σ) : Answers (set state : ExceptT ε (StateM σ) PUnit) :=
  fun _ => ⟨(), state, rfl⟩

theorem answers_modify (f : σ → σ) : Answers (modify f : ExceptT ε (StateM σ) PUnit) :=
  fun state => ⟨(), f state, rfl⟩

theorem Answers.bind {first : ExceptT ε (StateM σ) α} {next : α → ExceptT ε (StateM σ) β}
    (before : Answers first) (after : ∀ a, Answers (next a)) : Answers (first >>= next) := by
  intro state
  obtain ⟨a, later, executed⟩ := before state
  obtain ⟨b, final, rest⟩ := after a later
  exact ⟨b, final, (run_bind_of_ok executed).trans rest⟩

theorem answers_forM {option : Option α} {f : α → ExceptT ε (StateM σ) PUnit}
    (each : ∀ a, Answers (f a)) : Answers (option.forM f) := by
  cases option with
  | none => exact answers_pure _
  | some a => exact each a

theorem Answers.failsClean {computation : ExceptT ε (StateM σ) α} (answers : Answers computation) :
    FailsClean computation := by
  intro state after e failed
  obtain ⟨a, later, executed⟩ := answers state
  cases executed.symm.trans failed

theorem failsClean_throw (e : ε) : FailsClean (throw e : ExceptT ε (StateM σ) α) := by
  intro state after cause failed
  cases failed
  rfl

/-- What comes after the last part that can fail makes no difference. -/
theorem FailsClean.bind {first : ExceptT ε (StateM σ) α} {next : α → ExceptT ε (StateM σ) β}
    (clean : FailsClean first) (answers : ∀ a, Answers (next a)) : FailsClean (first >>= next) := by
  intro state after e failed
  rw [run_bind] at failed
  split at failed
  · next a later executed =>
    obtain ⟨b, final, rest⟩ := answers a later
    cases rest.symm.trans failed
  · next cause later executed =>
    cases failed
    exact clean _ _ _ executed

theorem FailsClean.bind_pure {first : ExceptT ε (StateM σ) α} (clean : FailsClean first)
    (f : α → β) : FailsClean (first >>= fun a => pure (f a)) :=
  clean.bind fun a => answers_pure (f a)

theorem FailsClean.map {computation : ExceptT ε (StateM σ) α} (clean : FailsClean computation)
    (f : α → β) : FailsClean (f <$> computation) := by
  rw [map_eq_pure_bind]
  exact clean.bind_pure f

theorem FailsClean.look {next : σ → ExceptT ε (StateM σ) α}
    (clean : ∀ state, FailsClean (next state)) : FailsClean (get >>= next) :=
  fun state => clean state state

/-- A check changes nothing, so what comes after it decides. -/
theorem FailsClean.check {answer : Except ε α} {next : α → ExceptT ε (StateM σ) β}
    (clean : ∀ a, FailsClean (next a)) :
    FailsClean ((liftM answer : ExceptT ε (StateM σ) α) >>= next) := by
  intro state after e failed
  cases answer with
  | ok a => exact clean a _ _ _ failed
  | error cause =>
    cases failed
    rfl

/-- Only what is there is checked. -/
theorem FailsClean.checkSome {option : Option α} {check : α → Except ε PUnit}
    {next : PUnit → ExceptT ε (StateM σ) β} (clean : ∀ u, FailsClean (next u)) : FailsClean
      (option.forM (fun a => (liftM (check a) : ExceptT ε (StateM σ) PUnit)) >>= next) := by
  cases option with
  | none => exact clean ⟨⟩
  | some a => exact FailsClean.check clean

/-! ## Frames -/

/-- From every state a computation leads only to related ones. -/
def Keeps (R : σ → σ → Prop) (computation : StateM σ α) : Prop :=
  ∀ state, R state (computation state).2

theorem Keeps.mono {R S : σ → σ → Prop} {computation : StateM σ α} (kept : Keeps S computation)
    (weaker : ∀ {a b}, S a b → R a b) : Keeps R computation :=
  fun state => weaker (kept state)

theorem Keeps.lift {R : σ → σ → Prop} {computation : StateM σ α} (kept : Keeps R computation) :
    Keeps R (liftM computation : ExceptT ε (StateM σ) α).run :=
  kept

section Frames

variable {R : σ → σ → Prop} [IsPreorder σ R]

theorem keeps_of_same {computation : StateM σ α}
    (same : ∀ state, (computation state).2 = state) : Keeps R computation := by
  intro state
  rw [same state]
  exact Std.Refl.refl state

theorem keeps_pure (a : α) : Keeps R (pure a : StateM σ α) :=
  fun state => Std.Refl.refl (r := R) state

theorem Keeps.bind {first : StateM σ α} {next : α → StateM σ β} (before : Keeps R first)
    (after : ∀ a, Keeps R (next a)) : Keeps R (first >>= next) := by
  intro state
  exact IsTrans.trans _ _ _ (before state) (after (first state).1 (first state).2)

theorem keeps_throw (e : ε) : Keeps R (throw e : ExceptT ε (StateM σ) α).run :=
  fun state => Std.Refl.refl (r := R) state

theorem keeps_return (a : α) : Keeps R (pure a : ExceptT ε (StateM σ) α).run :=
  fun state => Std.Refl.refl (r := R) state

theorem Keeps.run_bind {first : ExceptT ε (StateM σ) α} {next : α → ExceptT ε (StateM σ) β}
    (before : Keeps R first.run) (after : ∀ a, Keeps R (next a).run) :
    Keeps R (first >>= next).run := by
  intro state
  have led := before state
  rw [IssueFlow.run_bind]
  split
  · next a later executed =>
    have executed : first.run state = (.ok a, later) := executed
    rw [executed] at led
    exact IsTrans.trans _ _ _ led (after a later)
  · next e later executed =>
    have executed : first.run state = (.error e, later) := executed
    rwa [executed] at led

/-- An answer that is there already lets the rest run, or ends it. -/
theorem keeps_lift_bind {answer : Except ε α} {next : α → ExceptT ε (StateM σ) β}
    (after : ∀ a, answer = .ok a → Keeps R (next a).run) :
    Keeps R ((liftM answer : ExceptT ε (StateM σ) α) >>= next).run := by
  cases answer with
  | ok a => exact after a rfl
  | error e => exact keeps_throw e

end Frames

/-- After a part that changes nothing the rest runs in the same state. -/
theorem run_bind_eq_ok_iff {first : ExceptT ε (StateM σ) α} {next : α → ExceptT ε (StateM σ) β}
    (kept : Keeps Eq first.run) {state final : σ} {b : β} :
    (first >>= next).run state = (.ok b, final) ↔
      ∃ a, first.run state = (.ok a, state) ∧ (next a).run state = (.ok b, final) := by
  constructor
  · intro done
    obtain ⟨a, later, executed, rest⟩ := ok_of_run_bind done
    have same : state = (first.run state).2 := kept state
    rw [executed] at same
    cases same
    exact ⟨a, executed, rest⟩
  · rintro ⟨a, executed, rest⟩
    rw [run_bind_of_ok executed]
    exact rest

namespace Query

/-- A query never changes the world that it is run in. -/
theorem run_ask (query : Query TransitionError α) (world : World) :
    (Run.ask query).run world = (query.run world.store, world) := rfl

section Available

variable {store : Store} (available : store.unavailable = false)

include available

theorem look_run [OfStorage ε] (f : Tables → α) :
    (look f : Query ε α).run store = .ok (f store.tables) := by
  rw [run_look, Store.read_of_available available]
  rfl

theorem lookFor_run [OfStorage ε] (find : Tables → Option α) (missing : ε) :
    (lookFor find missing : Query ε α).run store =
      match find store.tables with
      | some a => .ok a
      | none => .error missing := by
  rw [lookFor, run_bind, look_run available]
  show (match find store.tables with
    | some a => pure a
    | none => fail missing : Query ε α).run store = _
  cases find store.tables <;> rfl

theorem lookFor_run_eq_ok_iff [OfStorage ε] {find : Tables → Option α} {missing : ε} {a : α} :
    (lookFor find missing : Query ε α).run store = .ok a ↔ find store.tables = some a := by
  rw [lookFor_run available]
  cases find store.tables <;> simp

end Available

/-- Only an available store has what a query looks for. -/
theorem lookFor_run_ok [OfStorage ε] {store : Store} {find : Tables → Option α} {missing : ε}
    {a : α} (found : (lookFor find missing : Query ε α).run store = .ok a) :
    store.unavailable = false ∧ find store.tables = some a := by
  cases available : store.unavailable with
  | false => exact ⟨rfl, (lookFor_run_eq_ok_iff available).1 found⟩
  | true =>
    rw [lookFor, run_bind, run_look, Store.read, if_pos available] at found
    cases found

/-- A query that answers has passed each of its parts. -/
theorem bind_run_eq_ok_iff {store : Store} {query : Query ε α} {next : α → Query ε β} {b : β} :
    (query >>= next).run store = .ok b ↔
      ∃ a, query.run store = .ok a ∧ (next a).run store = .ok b := by
  rw [run_bind]
  exact Except.bind_eq_ok_iff

theorem bind_run_of_ok {store : Store} {query : Query ε α} {next : α → Query ε β} {a : α}
    (answered : query.run store = .ok a) : (query >>= next).run store = (next a).run store := by
  rw [run_bind, answered]
  rfl

theorem mapError_run (f : ε → ε') (store : Store) (query : Query ε α) :
    (query.mapError f).run store = (query.run store).mapError f := by
  induction query with
  | done result => rfl
  | reading look refused next ih =>
    simp only [mapError, run]
    cases store.read look with
    | ok b => exact ih b
    | error e => rfl

end Query

end IssueFlow
