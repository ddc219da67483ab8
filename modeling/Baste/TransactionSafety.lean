import Baste.TransactionPrograms
import Baste.StepRuns
import Mathlib.Order.Basic

/-!
# What a program may rely on while others run

Between two statements of a call the other calls may change the committed
state, but not the rows the call has locked.  This file turns that into a
proof rule.  The obligation `Safe` of a program is defined by recursion on the
program: at each statement the committed state may be any state that agrees
with the last one on the locked rows, and the program has to

* touch only rows it has locked, and
* make, at each commit and at each statement outside a transaction, a change
  that its `Guarantee` describes.

`Sound.step` shows that programs checked one by one may be run together: in
every system all of whose calls are safe, every step is quiet or a change that
its call guarantees.
-/

namespace Transaction

/-- How a state is divided into rows, and its key generators. -/
structure View (State Key : Type) where
  Cell : Key → Type
  cell : (key : Key) → State → Cell key
  Generator : Type
  nextId : Generator → State → Nat

namespace View

variable {State Key : Type}

/-- The rows with these keys are the same in both states, and no key generator
has gone back. -/
structure Keeps (view : View State Key) (keys : Key → Prop)
    (before after : State) : Prop where
  cell_eq : ∀ key, keys key → view.cell key before = view.cell key after
  grown : ∀ generator,
    view.nextId generator before ≤ view.nextId generator after

/-- What the holder of the locks may rely on. -/
abbrev Rely (view : View State Key) (held : List Key) :
    State → State → Prop :=
  view.Keeps (· ∈ held)

/-- What the holder of the locks may change. -/
abbrev Frame (view : View State Key) (held : List Key) :
    State → State → Prop :=
  view.Keeps (· ∉ held)

/-- No row changes. -/
abbrev Quiet (view : View State Key) : State → State → Prop :=
  view.Keeps fun _ => True

variable {view : View State Key}

theorem Keeps.refl {keys : Key → Prop} (state : State) :
    view.Keeps keys state state :=
  ⟨fun _ _ => rfl, fun _ => Nat.le_refl _⟩

theorem Keeps.trans {keys : Key → Prop} {first second third : State}
    (left : view.Keeps keys first second)
    (right : view.Keeps keys second third) : view.Keeps keys first third where
  cell_eq key member :=
    (left.cell_eq key member).trans (right.cell_eq key member)
  grown generator :=
    Nat.le_trans (left.grown generator) (right.grown generator)

theorem Keeps.mono {keys fewer : Key → Prop} {before after : State}
    (kept : view.Keeps keys before after)
    (subset : ∀ key, fewer key → keys key) : view.Keeps fewer before after :=
  ⟨fun key member => kept.cell_eq key (subset key member), kept.grown⟩

/-- The rely of more locks implies that of fewer. -/
theorem rely_subset {more held : List Key} {before after : State}
    (relies : view.Rely more before after) (subset : held ⊆ more) :
    view.Rely held before after :=
  relies.mono fun _ member => subset member

theorem rely_of_quiet {held : List Key} {before after : State}
    (quiet : view.Quiet before after) : view.Rely held before after :=
  quiet.mono fun _ _ => trivial

end View

/-- What the calls of a program may do to the committed state: by one statement
outside a transaction, and by the commit of a transaction. -/
structure Guarantee (State : Type) where
  writes : State → State → Prop
  commits : State → State → Prop

namespace Program

variable {State Key Result : Type}

/-- The obligation of a program whose transaction has the given pending
changes and locks, when the committed state was last seen as `state`. -/
def Safe (view : View State Key) (invariant : State → Prop)
    (guarantee : Guarantee State) :
    Program State Key Result → Option (State → State) → List Key → State →
      Prop
  | .done _, _, _, _ => True
  | .lost, _, _, _ => True
  | .statement action next, none, held, state =>
      ∀ now, view.Rely held state now → invariant now →
        let act := action now
        let after := act.effect (act.reserve now)
        (view.Quiet now after ∨
          view.Frame act.rows now after ∧ guarantee.writes now after) ∧
        Safe view invariant guarantee (next now) none held after
  | .statement action next, some pending, held, state =>
      ∀ now, view.Rely held state now → invariant now →
        let act := action (pending now)
        view.Quiet now (act.reserve now) ∧
        Safe view invariant guarantee (next (pending now))
          (some fun later => act.effect (pending later))
          (act.rows ++ held) (act.reserve now)
  | .begin next, none, held, state =>
      Safe view invariant guarantee next (some id) held state
  | .commit next, some pending, held, state =>
      (∀ now, view.Rely held state now → invariant now →
        view.Frame held now (pending now) ∧
        guarantee.commits now (pending now)) ∧
      ∀ now, Safe view invariant guarantee next none [] now
  | .rollback next, some _, _, _ =>
      ∀ now, Safe view invariant guarantee next none [] now
  | .begin _, some _, _, _ => True
  | .commit _, none, _, _ => True
  | .rollback _, none, _, _ => True

theorem Safe.of_rely {view : View State Key} {invariant : State → Prop}
    {guarantee : Guarantee State} {program : Program State Key Result}
    {pending : Option (State → State)} {held : List Key}
    {before after : State} (kept : view.Rely held before after)
    (safe : Safe view invariant guarantee program pending held before) :
    Safe view invariant guarantee program pending held after := by
  induction program generalizing pending held before after with
  | done result => trivial
  | lost => trivial
  | statement action next ih =>
      cases pending with
      | none => exact fun now relies => safe now (kept.trans relies)
      | some changes => exact fun now relies => safe now (kept.trans relies)
  | begin next ih =>
      cases pending with
      | none => exact ih kept safe
      | some changes => trivial
  | commit next ih =>
      cases pending with
      | none => trivial
      | some changes =>
          exact ⟨fun now relies => safe.1 now (kept.trans relies), safe.2⟩
  | rollback next ih =>
      cases pending with
      | none => trivial
      | some changes => exact safe

/-- A program that is safe with some locks is safe with more of them. -/
theorem Safe.of_subset {view : View State Key} {invariant : State → Prop}
    {guarantee : Guarantee State} {program : Program State Key Result}
    {pending : Option (State → State)} {held more : List Key} {state : State}
    (subset : held ⊆ more)
    (safe : Safe view invariant guarantee program pending held state) :
    Safe view invariant guarantee program pending more state := by
  induction program generalizing pending held more state with
  | done result => trivial
  | lost => trivial
  | statement action next ih =>
      cases pending with
      | none =>
          intro now relies holds
          obtain ⟨change, rest⟩ :=
            safe now (View.rely_subset relies subset) holds
          exact ⟨change, ih _ subset rest⟩
      | some changes =>
          intro now relies holds
          obtain ⟨quiet, rest⟩ :=
            safe now (View.rely_subset relies subset) holds
          have stillSubset : ∀ rows : List Key, rows ++ held ⊆ rows ++ more :=
            fun rows => List.append_subset.mpr
              ⟨List.subset_append_left rows more,
                List.subset_append_of_subset_right rows subset⟩
          exact ⟨quiet, ih _ (stillSubset _) rest⟩
  | begin next ih =>
      cases pending with
      | none => exact ih subset safe
      | some changes => trivial
  | commit next ih =>
      cases pending with
      | none => trivial
      | some changes =>
          refine ⟨fun now relies holds => ?_, safe.2⟩
          obtain ⟨frame, commits⟩ :=
            safe.1 now (View.rely_subset relies subset) holds
          exact ⟨frame.mono fun key out held => out (subset held), commits⟩
  | rollback next ih =>
      cases pending with
      | none => trivial
      | some changes => exact safe

/-- A way to check the programs of open transactions: a statement is checked
by looking at the states in which it may be executed. -/
structure ChecksPending (view : View State Key) (invariant : State → Prop)
    (checked : Program State Key Result → (State → State) → List Key →
      State → Prop) : Prop where
  statement : ∀ {action : State → Action State Key}
      {next : State → Program State Key Result} {pending : State → State}
      {held : List Key} {state : State},
    (∀ now, view.Rely held state now → invariant now →
      let act := action (pending now)
      view.Quiet now (act.reserve now) ∧
      checked (next (pending now)) (fun later => act.effect (pending later))
        (act.rows ++ held) (act.reserve now)) →
    checked (.statement action next) pending held state

section Rules

variable {view : View State Key} {invariant : State → Prop}
variable {guarantee : Guarantee State} {held : List Key} {state : State}
variable {pending : State → State}

theorem Safe.checksPending :
    ChecksPending view invariant
      fun (program : Program State Key Result) pending held state =>
        program.Safe view invariant guarantee (some pending) held state :=
  ⟨fun checked => checked⟩

theorem ChecksPending.selectForUpdate
    {checked : Program State Key Result → (State → State) → List Key →
      State → Prop}
    (rules : ChecksPending view invariant checked) {rows : State → List Key}
    {next : State → Program State Key Result}
    (rest : ∀ now, view.Rely held state now → invariant now →
      checked (next (pending now)) pending (rows (pending now) ++ held) now) :
    checked (Program.selectForUpdate rows next) pending held state :=
  rules.statement fun now relies holds =>
    ⟨.refl now, rest now relies holds⟩

theorem Safe.done {result : Result} {open_ : Option (State → State)} :
    (Program.done result : Program State Key Result).Safe view invariant
      guarantee open_ held state :=
  trivial

theorem Safe.select {next : State → Program State Key Result}
    (safe : ∀ now, view.Rely held state now → invariant now →
      (next now).Safe view invariant guarantee none held now) :
    (Program.select next).Safe view invariant guarantee none held state :=
  fun now relies holds => ⟨.inl (.refl now), safe now relies holds⟩

theorem Safe.selectForUpdate {rows : State → List Key}
    {next : State → Program State Key Result}
    (safe : ∀ now, view.Rely held state now → invariant now →
      (next (pending now)).Safe view invariant guarantee (some pending)
        (rows (pending now) ++ held) now) :
    (Program.selectForUpdate rows next).Safe view invariant guarantee
      (some pending) held state :=
  Safe.checksPending.selectForUpdate safe

theorem Safe.begin {next : Program State Key Result}
    (safe : next.Safe view invariant guarantee (some id) held state) :
    (Program.begin next).Safe view invariant guarantee none held state :=
  safe

theorem Safe.commit {next : Program State Key Result}
    (change : ∀ now, view.Rely held state now → invariant now →
      view.Frame held now (pending now) ∧
        guarantee.commits now (pending now))
    (safe : ∀ now, next.Safe view invariant guarantee none [] now) :
    (Program.commit next).Safe view invariant guarantee (some pending) held
      state :=
  ⟨change, safe⟩

theorem Safe.rollback {next : Program State Key Result}
    (safe : ∀ now, next.Safe view invariant guarantee none [] now) :
    (Program.rollback next).Safe view invariant guarantee (some pending) held
      state :=
  safe

end Rules

end Program

namespace System

variable {Call State Key Result : Type} [DecidableEq Call]

/-- Every call is safe from where it is, no row is locked by two calls, and
the committed state satisfies the invariant. -/
structure Sound (view : View State Key) (invariant : State → Prop)
    (guarantee : Call → Guarantee State)
    (system : System Call State Key Result) : Prop where
  holds : invariant system.state
  exclusive : ∀ key first second, (key, first) ∈ system.locks →
    (key, second) ∈ system.locks → first = second
  safe : ∀ call, (system.process call).program.Safe view invariant
    (guarantee call) (system.process call).pending (heldBy system.locks call)
    system.state

/-- The invariant survives everything that the guarantees allow. -/
structure Preserves (view : View State Key) (invariant : State → Prop)
    (guarantee : Call → Guarantee State) : Prop where
  quiet : ∀ before after, invariant before → view.Quiet before after →
    invariant after
  writes : ∀ call before after, invariant before →
    (guarantee call).writes before after → invariant after
  commits : ∀ call before after, invariant before →
    (guarantee call).commits before after → invariant after

omit [DecidableEq Call] in
/-- Where nothing is invariant, nothing can break. -/
theorem Preserves.of_true (view : View State Key)
    (guarantee : Call → Guarantee State) :
    Preserves view (fun _ => True) guarantee where
  quiet _ _ _ _ := trivial
  writes _ _ _ _ _ := trivial
  commits _ _ _ _ _ := trivial

section Soundness

variable {view : View State Key} {invariant : State → Prop}
variable {guarantee : Call → Guarantee State}
variable {system : System Call State Key Result}

/-- Calls that are safe from a state may all start there. -/
theorem Sound.start {state : State}
    {programs : Call → Program State Key Result} (holds : invariant state)
    (safe : ∀ call, (programs call).Safe view invariant (guarantee call) none
      [] state) :
    Sound view invariant guarantee (start state programs) where
  holds := holds
  exclusive := by
    intro key first second firstHeld
    simp [System.start] at firstHeld
  safe call := safe call

/-- One call goes on while all others stay where they are. -/
theorem Sound.resume (sound : Sound view invariant guarantee system)
    {call : Call} {state : State} {locks : List (Key × Call)}
    {rest : Process State Key Result} (holds : invariant state)
    (exclusive : ∀ key first second, (key, first) ∈ locks →
      (key, second) ∈ locks → first = second)
    (others : ∀ other, other ≠ call →
      heldBy locks other = heldBy system.locks other)
    (relies : ∀ other, other ≠ call →
      view.Rely (heldBy system.locks other) system.state state)
    (safe : rest.program.Safe view invariant (guarantee call) rest.pending
      (heldBy locks call) state) :
    Sound view invariant guarantee
      ⟨state, locks, system.resume call rest⟩ where
  holds := holds
  exclusive := exclusive
  safe other := by
    by_cases same : other = call
    · subst same
      simpa [System.resume] using safe
    · have unchanged : system.resume call rest other = system.process other :=
        Function.update_of_ne same _ _
      simp only [unchanged, others other same]
      exact (sound.safe other).of_rely (relies other same)

/-- Rows that no other call has locked may change. -/
theorem rely_of_frame {call other : Call} {rows : List Key}
    {before after : State} (free : system.Free call rows)
    (different : other ≠ call) (frame : view.Frame rows before after) :
    view.Rely (heldBy system.locks other) before after := by
  refine frame.mono fun key held inRows => ?_
  exact different (free (key, other) (mem_heldBy.mp held) inRows)

theorem free_own
    (exclusive : ∀ key first second, (key, first) ∈ system.locks →
      (key, second) ∈ system.locks → first = second)
    (call : Call) : system.Free call (heldBy system.locks call) := by
  intro held member own
  exact exclusive held.1 held.2 call member (mem_heldBy.mp own)

theorem exclusive_release
    (exclusive : ∀ key first second, (key, first) ∈ system.locks →
      (key, second) ∈ system.locks → first = second) (call : Call) :
    ∀ key first second, (key, first) ∈ release system.locks call →
      (key, second) ∈ release system.locks call → first = second := by
  intro key first second firstHeld secondHeld
  exact exclusive key first second
    (List.mem_filter.mp firstHeld).1 (List.mem_filter.mp secondHeld).1

omit [DecidableEq Call] in
theorem exclusive_lock
    (exclusive : ∀ key first second, (key, first) ∈ system.locks →
      (key, second) ∈ system.locks → first = second)
    {call : Call} {rows : List Key} (free : system.Free call rows) :
    ∀ key first second, (key, first) ∈ rows.map (·, call) ++ system.locks →
      (key, second) ∈ rows.map (·, call) ++ system.locks →
      first = second := by
  have owner : ∀ key holder, key ∈ rows →
      (key, holder) ∈ system.locks → holder = call :=
    fun key holder inRows held => free (key, holder) held inRows
  intro key first second firstHeld secondHeld
  simp only [List.mem_append, List.mem_map, Prod.mk.injEq] at firstHeld secondHeld
  rcases firstHeld with ⟨_, inRows, rfl, rfl⟩ | firstHeld
  · rcases secondHeld with ⟨_, _, _, rfl⟩ | secondHeld
    · rfl
    · exact (owner _ second inRows secondHeld).symm
  · rcases secondHeld with ⟨_, inRows, rfl, rfl⟩ | secondHeld
    · exact owner _ first inRows firstHeld
    · exact exclusive key first second firstHeld secondHeld

end Soundness

section Steps

variable [DecidableEq Key]

/-- What one step may do to the committed state: leave all rows as they are,
commit a transaction, or execute a statement outside a transaction. -/
inductive Change (view : View State Key) (guarantee : Call → Guarantee State)
    (system : System Call State Key Result) (event : Event Call) : Prop where
  | quiet (noCommit : ¬ system.Commits event)
      (quiet : view.Quiet system.state (system.step event).state)
  | written (noCommit : ¬ system.Commits event)
      (isWrite : system.Writes event)
      (writes : (guarantee event.call).writes system.state
        (system.step event).state)
  | committed (isCommit : system.Commits event)
      (commits : (guarantee event.call).commits system.state
        (system.step event).state)

variable {view : View State Key} {invariant : State → Prop}
variable {guarantee : Call → Guarantee State}
variable {system : System Call State Key Result}

omit [DecidableEq Call] [DecidableEq Key] in
theorem not_commits_of_process {call : Call}
    {rest : Process State Key Result} (found : system.process call = rest)
    (other : ∀ next, rest.program ≠ .commit next) :
    ¬ system.Commits (.advance call) := by
  rintro ⟨_, next, pending, same, atCommit⟩
  cases same
  rw [found] at atCommit
  exact other next (congrArg Process.program atCommit)

theorem Sound.step_advance (sound : Sound view invariant guarantee system)
    (preserves : Preserves view invariant guarantee) (call : Call) :
    Sound view invariant guarantee (system.step (.advance call)) ∧
      Change view guarantee system (.advance call) := by
  have safe := sound.safe call
  have stays : system.step (.advance call) = system →
      ¬ system.Commits (.advance call) →
      Sound view invariant guarantee (system.step (.advance call)) ∧
        Change view guarantee system (.advance call) := by
    intro same noCommit
    refine ⟨same.symm ▸ sound, .quiet noCommit ?_⟩
    rw [same]
    exact View.Keeps.refl _
  cases found : system.process call with
  | mk program pending =>
      rw [found] at safe
      cases program with
      | done result =>
          exact stays (by simp [step, found])
            (not_commits_of_process found (by simp))
      | lost =>
          exact stays (by simp [step, found])
            (not_commits_of_process found (by simp))
      | statement action next =>
          have noCommit := not_commits_of_process found (by simp)
          cases pending with
          | none =>
              by_cases free : system.Free call (action system.state).rows
              · obtain ⟨change, rest⟩ := safe system.state (.refl _) sound.holds
                have stepped := step_statement found free
                refine ⟨?_, ?_⟩
                · rw [stepped]
                  refine sound.resume ?_ sound.exclusive (fun _ _ => rfl) ?_
                    rest
                  · exact change.elim (preserves.quiet _ _ sound.holds)
                      fun frame =>
                        preserves.writes call _ _ sound.holds frame.2
                  · intro other different
                    exact change.elim View.rely_of_quiet
                      fun frame => rely_of_frame free different frame.1
                · rcases change with quiet | ⟨frame, writes⟩
                  · exact .quiet noCommit (stepped ▸ quiet)
                  · by_cases nothing : (action system.state).rows = []
                    · refine .quiet noCommit (stepped ▸ ?_)
                      exact frame.mono fun key _ => by simp [nothing]
                    · exact .written noCommit
                        ⟨call, action, next, rfl, found, free, nothing⟩
                        (stepped ▸ writes)
              · exact stays (step_waiting found free) noCommit
          | some pending =>
              by_cases free :
                  system.Free call (action (pending system.state)).rows
              · obtain ⟨quiet, rest⟩ := safe system.state (.refl _) sound.holds
                have stepped := step_pending_statement found free
                refine ⟨?_, .quiet noCommit ?_⟩
                · rw [stepped]
                  refine sound.resume (preserves.quiet _ _ sound.holds quiet)
                    (exclusive_lock sound.exclusive free) ?_
                    (fun _ _ => View.rely_of_quiet quiet) ?_
                  · exact fun other different =>
                      heldBy_append_ne different _
                  · rw [heldBy_append_self]
                    exact rest
                · rw [stepped]
                  exact quiet
              · exact stays (step_pending_waiting found free) noCommit
      | begin next =>
          have noCommit := not_commits_of_process found (by simp)
          cases pending with
          | none =>
              have stepped := step_begin found
              refine ⟨?_, .quiet noCommit ?_⟩
              · rw [stepped]
                exact sound.resume sound.holds sound.exclusive
                  (fun _ _ => rfl) (fun _ _ => .refl _) safe
              · rw [stepped]
                exact View.Keeps.refl _
          | some pending => exact stays (by simp [step, found]) noCommit
      | commit next =>
          cases pending with
          | none =>
              refine stays (by simp [step, found]) ?_
              rintro ⟨_, _, _, same, atCommit⟩
              cases same
              simp [found] at atCommit
          | some pending =>
              obtain ⟨change, rest⟩ := safe
              obtain ⟨frame, commits⟩ :=
                change system.state (.refl _) sound.holds
              have stepped := step_commit found
              refine ⟨?_, .committed ⟨call, next, pending, rfl, found⟩ ?_⟩
              · rw [stepped]
                refine sound.resume
                  (preserves.commits call _ _ sound.holds commits)
                  (exclusive_release sound.exclusive call)
                  (fun _ different => heldBy_release_ne different)
                  (fun other different =>
                    rely_of_frame (free_own sound.exclusive call) different frame) ?_
                rw [heldBy_release_self]
                exact rest _
              · rw [stepped]
                exact commits
      | rollback next =>
          have noCommit := not_commits_of_process found (by simp)
          cases pending with
          | none => exact stays (by simp [step, found]) noCommit
          | some pending =>
              have stepped := step_rollback found
              refine ⟨?_, .quiet noCommit ?_⟩
              · rw [stepped]
                refine sound.resume sound.holds (exclusive_release sound.exclusive call)
                  (fun _ different => heldBy_release_ne different)
                  (fun _ _ => .refl _) ?_
                rw [heldBy_release_self]
                exact safe _
              · rw [stepped]
                exact View.Keeps.refl _

theorem Sound.step_lose (sound : Sound view invariant guarantee system)
    (call : Call) :
    Sound view invariant guarantee (system.step (.lose call)) ∧
      Change view guarantee system (.lose call) := by
  have noCommit : ¬ system.Commits (.lose call) := by
    rintro ⟨_, _, _, impossible, _⟩
    cases impossible
  have dropped : Sound view invariant guarantee
      ⟨system.state, release system.locks call,
        system.resume call ⟨.lost, none⟩⟩ :=
    sound.resume sound.holds (exclusive_release sound.exclusive call)
      (fun _ different => heldBy_release_ne different)
      (fun _ _ => .refl _) trivial
  have stepped : system.step (.lose call) = system ∨
      system.step (.lose call) =
        ⟨system.state, release system.locks call,
          system.resume call ⟨.lost, none⟩⟩ := by
    cases found : (system.process call).program <;> simp [step, found]
  rcases stepped with stepped | stepped <;>
    refine ⟨by rw [stepped]; assumption, .quiet noCommit ?_⟩ <;>
    rw [stepped] <;> exact View.Keeps.refl _

/-- Calls that are safe on their own stay safe together, and every step
changes the committed state only as the guarantee of its call says. -/
theorem Sound.step (sound : Sound view invariant guarantee system)
    (preserves : Preserves view invariant guarantee) (event : Event Call) :
    Sound view invariant guarantee (system.step event) ∧
      Change view guarantee system event := by
  cases event with
  | advance call => exact sound.step_advance preserves call
  | lose call => exact sound.step_lose call

end Steps

end System

end Transaction
