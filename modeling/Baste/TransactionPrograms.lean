import Mathlib.Logic.Function.Basic

/-!
# Concurrent programs over a transactional store

A program is a sequence of statements, some of them grouped in transactions.
A system runs any number of programs against one committed state, one
statement at a time in any order:

* outside a transaction a statement acts on the committed state at once;
* inside a transaction a statement reads the committed state through the
  transaction's own pending changes, locks the rows it reads for update or
  writes, and adds its change to the pending ones;
* a commit applies all pending changes at once, and a commit or a rollback
  releases every lock of the call;
* a statement whose rows are locked by another call waits;
* a call may be lost at any moment, which drops its open transaction.

Key generators are the exception to buffering: a statement that reserves an id
advances the generator at once, and no rollback takes that back.
-/

namespace Transaction

/-- What one statement does: the rows it locks, its immediate effect on the
key generators, and its change to the rows. -/
structure Action (State Key : Type) where
  rows : List Key
  reserve : State → State
  effect : State → State

/-- Programs.  What a statement does and how the program goes on both depend
on the state the statement sees. -/
inductive Program (State Key Result : Type) where
  | done (result : Result)
  | lost
  | statement (action : State → Action State Key)
      (next : State → Program State Key Result)
  | begin (next : Program State Key Result)
  | commit (next : Program State Key Result)
  | rollback (next : Program State Key Result)

namespace Program

variable {State Key Result : Type}

/-- A plain read. -/
def select (next : State → Program State Key Result) :
    Program State Key Result :=
  .statement (fun _ => ⟨[], id, id⟩) next

/-- A read that locks the rows it returns. -/
def selectForUpdate (rows : State → List Key)
    (next : State → Program State Key Result) : Program State Key Result :=
  .statement (fun state => ⟨rows state, id, id⟩) next

/-- An update or a deletion of the given rows. -/
def write (rows : State → List Key) (effect : State → State → State)
    (next : Program State Key Result) : Program State Key Result :=
  .statement (fun state => ⟨rows state, id, effect state⟩) fun _ => next

/-- Run a program with no other call in between. -/
def runAlone : Program State Key Result → Option (State → State) → State →
    State × Option Result
  | .done result, _, state => (state, some result)
  | .lost, _, state => (state, none)
  | .statement action next, none, state =>
      runAlone (next state) none
        ((action state).effect ((action state).reserve state))
  | .statement action next, some pending, state =>
      runAlone (next (pending state))
        (some fun later => (action (pending state)).effect (pending later))
        ((action (pending state)).reserve state)
  | .begin next, none, state => runAlone next (some id) state
  | .commit next, some pending, state => runAlone next none (pending state)
  | .rollback next, some _, state => runAlone next none state
  | .begin _, some _, state => (state, none)
  | .commit _, none, state => (state, none)
  | .rollback _, none, state => (state, none)

section Alone

variable {result : Result} {rest : Program State Key Result}
variable {next : State → Program State Key Result} {state : State}
variable {pending : State → State}

@[simp]
theorem runAlone_done :
    (done result : Program State Key Result).runAlone none state =
      (state, some result) :=
  rfl

@[simp]
theorem runAlone_select :
    (select next).runAlone none state = (next state).runAlone none state :=
  rfl

@[simp]
theorem runAlone_selectForUpdate {rows : State → List Key} :
    (selectForUpdate rows next).runAlone (some pending) state =
      (next (pending state)).runAlone (some pending) state :=
  rfl

@[simp]
theorem runAlone_begin :
    (begin rest).runAlone none state = rest.runAlone (some id) state :=
  rfl

@[simp]
theorem runAlone_commit :
    (commit rest).runAlone (some pending) state =
      rest.runAlone none (pending state) :=
  rfl

@[simp]
theorem runAlone_rollback :
    (rollback rest).runAlone (some pending) state =
      rest.runAlone none state :=
  rfl

end Alone

end Program

/-- A running call: the rest of its program and the pending changes of its
open transaction, if there is one. -/
structure Process (State Key Result : Type) where
  program : Program State Key Result
  pending : Option (State → State)

/-- Any number of calls running against one committed state. -/
structure System (Call State Key Result : Type) where
  state : State
  locks : List (Key × Call)
  process : Call → Process State Key Result

/-- The scheduler lets a call execute its next statement, or the call is
lost. -/
inductive Event (Call : Type) where
  | advance (call : Call)
  | lose (call : Call)

namespace Event

/-- The call an event is about. -/
def call {Call : Type} : Event Call → Call
  | .advance call => call
  | .lose call => call

end Event

section Locks

variable {Call Key : Type} [DecidableEq Call]

/-- The rows a call has locked. -/
def heldBy (locks : List (Key × Call)) (call : Call) : List Key :=
  (locks.filter fun held => held.2 = call).map Prod.fst

/-- The lock table without the locks of a call. -/
def release (locks : List (Key × Call)) (call : Call) : List (Key × Call) :=
  locks.filter fun held => held.2 ≠ call

variable {locks : List (Key × Call)} {call other : Call}

theorem mem_heldBy {key : Key} :
    key ∈ heldBy locks call ↔ (key, call) ∈ locks := by
  simp [heldBy]

@[simp]
theorem heldBy_nil : heldBy ([] : List (Key × Call)) call = [] :=
  rfl

theorem heldBy_append_self (rows : List Key) :
    heldBy (rows.map (·, call) ++ locks) call = rows ++ heldBy locks call := by
  have onlyOwn : (rows.map (·, call)).filter (fun held => held.2 = call) =
      rows.map (·, call) := by
    simp
  simp [heldBy, List.filter_append, onlyOwn, Function.comp_def]

theorem heldBy_append_ne (different : other ≠ call) (rows : List Key) :
    heldBy (rows.map (·, call) ++ locks) other = heldBy locks other := by
  have noneOther : (rows.map (·, call)).filter (fun held => held.2 = other) =
      [] := by
    simp [different.symm]
  simp [heldBy, List.filter_append, noneOther]

theorem heldBy_release_self : heldBy (release locks call) call = [] := by
  simp [heldBy, release, List.filter_filter]

theorem heldBy_release_ne (different : other ≠ call) :
    heldBy (release locks call) other = heldBy locks other := by
  rw [heldBy, release, List.filter_filter]
  congr 1
  refine List.filter_congr fun held _ => ?_
  by_cases own : held.2 = other <;> simp [own, different]

end Locks

namespace System

variable {Call State Key Result : Type}

/-- All calls at their beginning. -/
def start (state : State) (programs : Call → Program State Key Result) :
    System Call State Key Result where
  state := state
  locks := []
  process call := ⟨programs call, none⟩

/-- No other call holds a lock on one of the rows. -/
def Free (system : System Call State Key Result) (call : Call)
    (rows : List Key) : Prop :=
  ∀ held ∈ system.locks, held.1 ∈ rows → held.2 = call

/-- The event lets its call execute the commit of an open transaction. -/
def Commits (system : System Call State Key Result) (event : Event Call) :
    Prop :=
  ∃ call next pending, event = .advance call ∧
    system.process call = ⟨.commit next, some pending⟩

/-- The check for a commit. -/
def commitsNow (system : System Call State Key Result) : Event Call → Bool
  | .advance call =>
      match system.process call with
      | ⟨.commit _, some _⟩ => true
      | _ => false
  | .lose _ => false

theorem commitsNow_iff {system : System Call State Key Result}
    {event : Event Call} :
    system.commitsNow event = true ↔ system.Commits event := by
  constructor
  · intro now
    cases event with
    | lose call => simp [commitsNow] at now
    | advance call =>
        rcases found : system.process call with ⟨program, pending⟩
        cases program <;> cases pending <;> simp [commitsNow, found] at now
        exact ⟨call, _, _, rfl, found⟩
  · rintro ⟨call, next, pending, rfl, atCommit⟩
    simp [commitsNow, atCommit]

instance (system : System Call State Key Result) (event : Event Call) :
    Decidable (system.Commits event) :=
  decidable_of_iff _ commitsNow_iff

/-- The event lets its call execute a statement that writes rows outside a
transaction. -/
def Writes (system : System Call State Key Result) (event : Event Call) :
    Prop :=
  ∃ call action next, event = .advance call ∧
    system.process call = ⟨.statement action next, none⟩ ∧
    system.Free call (action system.state).rows ∧
    (action system.state).rows ≠ []

variable [DecidableEq Call] [DecidableEq Key]

instance (system : System Call State Key Result) (call : Call)
    (rows : List Key) : Decidable (system.Free call rows) :=
  inferInstanceAs (Decidable (∀ held ∈ system.locks, _))

/-- Replace the rest of one call. -/
def resume (system : System Call State Key Result) (call : Call)
    (rest : Process State Key Result) : Call → Process State Key Result :=
  Function.update system.process call rest

/-- One scheduling decision.  A call that has to wait, or that has ended,
leaves the system as it is. -/
def step (system : System Call State Key Result) :
    Event Call → System Call State Key Result
  | .advance call =>
      match system.process call with
      | ⟨.statement action next, none⟩ =>
          let act := action system.state
          if system.Free call act.rows then
            { state := act.effect (act.reserve system.state)
              locks := system.locks
              process := system.resume call ⟨next system.state, none⟩ }
          else system
      | ⟨.statement action next, some pending⟩ =>
          let act := action (pending system.state)
          if system.Free call act.rows then
            { state := act.reserve system.state
              locks := act.rows.map (·, call) ++ system.locks
              process := system.resume call ⟨next (pending system.state),
                some fun later => act.effect (pending later)⟩ }
          else system
      | ⟨.begin next, none⟩ =>
          { system with process := system.resume call ⟨next, some id⟩ }
      | ⟨.commit next, some pending⟩ =>
          { state := pending system.state
            locks := release system.locks call
            process := system.resume call ⟨next, none⟩ }
      | ⟨.rollback next, some _⟩ =>
          { state := system.state
            locks := release system.locks call
            process := system.resume call ⟨next, none⟩ }
      | _ => system
  | .lose call =>
      match (system.process call).program with
      | .done _ => system
      | .lost => system
      | _ =>
          { state := system.state
            locks := release system.locks call
            process := system.resume call ⟨.lost, none⟩ }

section Steps

variable {system : System Call State Key Result} {call : Call}
variable {action : State → Action State Key}
variable {next : State → Program State Key Result}
variable {rest : Program State Key Result} {pending : State → State}

theorem step_statement
    (found : system.process call = ⟨.statement action next, none⟩)
    (free : system.Free call (action system.state).rows) :
    system.step (.advance call) =
      { state := (action system.state).effect
          ((action system.state).reserve system.state)
        locks := system.locks
        process := system.resume call ⟨next system.state, none⟩ } := by
  simp [step, found, free]

theorem step_pending_statement
    (found : system.process call = ⟨.statement action next, some pending⟩)
    (free : system.Free call (action (pending system.state)).rows) :
    system.step (.advance call) =
      { state := (action (pending system.state)).reserve system.state
        locks := (action (pending system.state)).rows.map (·, call) ++
          system.locks
        process := system.resume call ⟨next (pending system.state),
          some fun later =>
            (action (pending system.state)).effect (pending later)⟩ } := by
  simp [step, found, free]

theorem step_waiting
    (found : system.process call = ⟨.statement action next, none⟩)
    (waits : ¬ system.Free call (action system.state).rows) :
    system.step (.advance call) = system := by
  simp [step, found, waits]

theorem step_pending_waiting
    (found : system.process call = ⟨.statement action next, some pending⟩)
    (waits : ¬ system.Free call (action (pending system.state)).rows) :
    system.step (.advance call) = system := by
  simp [step, found, waits]

theorem step_begin (found : system.process call = ⟨.begin rest, none⟩) :
    system.step (.advance call) =
      { system with process := system.resume call ⟨rest, some id⟩ } := by
  simp [step, found]

theorem step_commit
    (found : system.process call = ⟨.commit rest, some pending⟩) :
    system.step (.advance call) =
      { state := pending system.state
        locks := release system.locks call
        process := system.resume call ⟨rest, none⟩ } := by
  simp [step, found]

theorem step_rollback
    (found : system.process call = ⟨.rollback rest, some pending⟩) :
    system.step (.advance call) =
      { state := system.state
        locks := release system.locks call
        process := system.resume call ⟨rest, none⟩ } := by
  simp [step, found]

/-- A step replaces the rest of no call but its own. -/
theorem step_resumes (system : System Call State Key Result)
    (event : Event Call) :
    ∃ rest, (system.step event).process = system.resume event.call rest := by
  have stays : system.process =
      system.resume event.call (system.process event.call) := by
    rw [resume, Function.update_eq_self]
  cases event with
  | advance call =>
      simp only [step]
      split <;> (try split) <;> first | exact ⟨_, rfl⟩ | exact ⟨_, stays⟩
  | lose call =>
      simp only [step]
      split <;> first | exact ⟨_, rfl⟩ | exact ⟨_, stays⟩

theorem process_step_of_ne {event : Event Call} {other : Call}
    (different : other ≠ event.call) :
    (system.step event).process other = system.process other := by
  obtain ⟨rest, resumes⟩ := system.step_resumes event
  rw [resumes, resume, Function.update_of_ne different]

/-- The loss of a call leaves the committed state as it is. -/
theorem state_step_lose (call : Call) :
    (system.step (.lose call)).state = system.state := by
  simp only [step]
  split <;> rfl

end Steps

end System

end Transaction
