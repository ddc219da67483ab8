import Baste.TransactionSafety

/-!
# Programs that fail at a command

A program that runs alone until one of its commands fails: the commands before
it have taken effect, and the open transaction is dropped.  The system in which
the only call is lost at that point reaches the same committed state, and what
a safe program may do is all that it can have done when it fails.
-/

namespace Transaction

namespace Program

variable {State Key Result : Type}

/-- The committed state after a number of commands, and the result if the
program has ended by then. -/
def interrupt : Program State Key Result → Nat → Option (State → State) →
    State → State × Option Result
  | .done result, _, _, state => (state, some result)
  | .lost, _, _, state => (state, none)
  | .statement _ _, 0, _, state => (state, none)
  | .statement action next, executed + 1, none, state =>
      interrupt (next state) executed none
        ((action state).effect ((action state).reserve state))
  | .statement action next, executed + 1, some pending, state =>
      interrupt (next (pending state)) executed
        (some fun later => (action (pending state)).effect (pending later))
        ((action (pending state)).reserve state)
  | .begin _, 0, _, state => (state, none)
  | .begin next, executed + 1, none, state =>
      interrupt next executed (some id) state
  | .commit _, 0, _, state => (state, none)
  | .commit next, executed + 1, some pending, state =>
      interrupt next executed none (pending state)
  | .rollback _, 0, _, state => (state, none)
  | .rollback next, executed + 1, some _, state =>
      interrupt next executed none state
  | .begin _, _ + 1, some _, state => (state, none)
  | .commit _, _ + 1, none, state => (state, none)
  | .rollback _, _ + 1, none, state => (state, none)

section Commands

variable {executed : Nat} {rest : Program State Key Result}
variable {next : State → Program State Key Result} {state : State}
variable {pending : State → State}

@[simp]
theorem interrupt_select :
    (select next).interrupt (executed + 1) none state =
      (next state).interrupt executed none state :=
  rfl

@[simp]
theorem interrupt_selectForUpdate {rows : State → List Key} :
    (selectForUpdate rows next).interrupt (executed + 1) (some pending) state =
      (next (pending state)).interrupt executed (some pending) state :=
  rfl

@[simp]
theorem interrupt_begin :
    (begin rest).interrupt (executed + 1) none state =
      rest.interrupt executed (some id) state :=
  rfl

@[simp]
theorem interrupt_commit :
    (commit rest).interrupt (executed + 1) (some pending) state =
      rest.interrupt executed none (pending state) :=
  rfl

end Commands

/-- What a safe program keeps when it runs to its end is kept when it fails. -/
theorem Safe.interrupt {view : View State Key} {invariant : State → Prop}
    {guarantee : Guarantee State} {program : Program State Key Result}
    {pending : Option (State → State)} {held : List Key} {state : State}
    (quietKept : ∀ before after, invariant before →
      view.Quiet before after → invariant after)
    (writesKept : ∀ before after, invariant before →
      guarantee.writes before after → invariant after)
    (commitsKept : ∀ before after, invariant before →
      guarantee.commits before after → invariant after)
    (safe : program.Safe view invariant guarantee pending held state)
    (holds : invariant state) (executed : Nat) :
    invariant (program.interrupt executed pending state).1 := by
  induction program generalizing pending held state executed with
  | done result => exact holds
  | lost => exact holds
  | statement action next ih =>
      cases executed with
      | zero => cases pending <;> exact holds
      | succ executed =>
          cases pending with
          | none =>
              obtain ⟨change, rest⟩ := safe state (.refl _) holds
              refine ih _ rest ?_ executed
              rcases change with quiet | ⟨-, writes⟩
              · exact quietKept _ _ holds quiet
              · exact writesKept _ _ holds writes
          | some changes =>
              obtain ⟨quiet, rest⟩ := safe state (.refl _) holds
              exact ih _ rest (quietKept _ _ holds quiet) executed
  | begin next ih =>
      cases executed with
      | zero => cases pending <;> exact holds
      | succ executed =>
          cases pending with
          | none => exact ih safe holds executed
          | some changes => exact holds
  | commit next ih =>
      cases executed with
      | zero => cases pending <;> exact holds
      | succ executed =>
          cases pending with
          | none => exact holds
          | some changes =>
              obtain ⟨-, commits⟩ := safe.1 state (.refl _) holds
              exact ih (safe.2 _) (commitsKept _ _ holds commits) executed
  | rollback next ih =>
      cases executed with
      | zero => cases pending <;> exact holds
      | succ executed =>
          cases pending with
          | none => exact holds
          | some changes => exact ih (safe state) holds executed

/-- One command more than for the rest of the program. -/
theorem interrupt_of_next {program rest : Program State Key Result}
    {pending later : Option (State → State)} {state after : State}
    {result : State × Option Result} (enough : Nat)
    (first : ∀ executed, program.interrupt (executed + 1) pending state =
      rest.interrupt executed later after)
    (complete : ∀ executed, enough ≤ executed →
      rest.interrupt executed later after = result) :
    ∃ enough, ∀ executed, enough ≤ executed →
      program.interrupt executed pending state = result := by
  refine ⟨enough + 1, fun executed reached => ?_⟩
  obtain ⟨before, rfl⟩ := Nat.exists_eq_add_of_le' (Nat.one_le_of_lt reached)
  rw [first]
  exact complete before (Nat.le_of_succ_le_succ reached)

theorem interrupt_stuck {program : Program State Key Result}
    {pending : Option (State → State)} {state : State}
    {result : State × Option Result}
    (stuck : ∀ executed, program.interrupt (executed + 1) pending state =
      result) (executed : Nat) (started : 1 ≤ executed) :
    program.interrupt executed pending state = result := by
  obtain ⟨before, rfl⟩ := Nat.exists_eq_add_of_le' started
  exact stuck before

/-- After enough commands the program has run to its end. -/
theorem exists_interrupt_eq_runAlone (program : Program State Key Result)
    (pending : Option (State → State)) (state : State) :
    ∃ enough, ∀ executed, enough ≤ executed →
      program.interrupt executed pending state =
        program.runAlone pending state := by
  induction program generalizing pending state with
  | done result => exact ⟨0, fun _ _ => by cases pending <;> rfl⟩
  | lost => exact ⟨0, fun _ _ => by cases pending <;> rfl⟩
  | statement action next ih =>
      cases pending with
      | none =>
          obtain ⟨enough, complete⟩ := ih state none _
          exact interrupt_of_next enough (fun _ => rfl) complete
      | some changes =>
          obtain ⟨enough, complete⟩ := ih (changes state) (some _) _
          exact interrupt_of_next enough (fun _ => rfl) complete
  | begin next ih =>
      cases pending with
      | none =>
          obtain ⟨enough, complete⟩ := ih (some id) state
          exact interrupt_of_next enough (fun _ => rfl) complete
      | some changes => exact ⟨1, interrupt_stuck fun _ => rfl⟩
  | commit next ih =>
      cases pending with
      | none => exact ⟨1, interrupt_stuck fun _ => rfl⟩
      | some changes =>
          obtain ⟨enough, complete⟩ := ih none (changes state)
          exact interrupt_of_next enough (fun _ => rfl) complete
  | rollback next ih =>
      cases pending with
      | none => exact ⟨1, interrupt_stuck fun _ => rfl⟩
      | some changes =>
          obtain ⟨enough, complete⟩ := ih none state
          exact interrupt_of_next enough (fun _ => rfl) complete

/-- What a safe program keeps is kept when it runs alone. -/
theorem Safe.runAlone {view : View State Key} {invariant : State → Prop}
    {guarantee : Guarantee State} {program : Program State Key Result}
    {pending : Option (State → State)} {held : List Key} {state : State}
    (preserves : System.Preserves view invariant fun _ : Unit => guarantee)
    (safe : program.Safe view invariant guarantee pending held state)
    (holds : invariant state) :
    invariant (program.runAlone pending state).1 := by
  obtain ⟨enough, complete⟩ :=
    exists_interrupt_eq_runAlone program pending state
  rw [← complete enough le_rfl]
  exact safe.interrupt preserves.quiet (preserves.writes ())
    (preserves.commits ()) holds enough

end Program

namespace System

variable {State Key Result : Type} [DecidableEq Key]

omit [DecidableEq Key] in
/-- The only call never waits. -/
theorem free_of_unit (system : System Unit State Key Result)
    (rows : List Key) : system.Free () rows :=
  fun _ _ _ => rfl

omit [DecidableEq Key] in
theorem resume_unit (system : System Unit State Key Result)
    (rest : Process State Key Result) :
    system.resume () rest = fun _ => rest :=
  funext fun _ => Function.update_self _ _ _

theorem state_lose (system : System Unit State Key Result) :
    (system.step (.lose ())).state = system.state := by
  cases found : (system.process ()).program <;> simp only [step, found]

/-- A call that cannot go on changes nothing more. -/
theorem final_of_stuck {system : System Unit State Key Result}
    (stuck : system.step (.advance ()) = system) (executed : Nat) :
    (StepRuns.final System.step system
        (List.replicate executed (.advance ()) ++ [.lose ()])).state =
      system.state := by
  induction executed with
  | zero => exact state_lose system
  | succ executed ih =>
      rw [List.replicate_succ, List.cons_append, StepRuns.final_cons, stuck]
      exact ih

/-- The only call of a system is lost after a number of commands. -/
theorem interrupt_eq_final (program : Program State Key Result)
    (executed : Nat) (pending : Option (State → State)) (state : State)
    (locks : List (Key × Unit)) :
    (StepRuns.final System.step
        (⟨state, locks, fun _ => ⟨program, pending⟩⟩ :
          System Unit State Key Result)
        (List.replicate executed (.advance ()) ++ [.lose ()])).state =
      (program.interrupt executed pending state).1 := by
  induction program generalizing executed pending state locks with
  | done result => exact final_of_stuck rfl executed
  | lost => exact final_of_stuck rfl executed
  | statement action next ih =>
      cases executed with
      | zero => cases pending <;> rfl
      | succ executed =>
          rw [List.replicate_succ, List.cons_append, StepRuns.final_cons]
          cases pending with
          | none =>
              rw [step_statement rfl (free_of_unit _ _), resume_unit]
              exact ih _ executed _ _ _
          | some changes =>
              rw [step_pending_statement rfl (free_of_unit _ _), resume_unit]
              exact ih _ executed _ _ _
  | begin next ih =>
      cases executed with
      | zero => cases pending <;> rfl
      | succ executed =>
          cases pending with
          | none =>
              rw [List.replicate_succ, List.cons_append, StepRuns.final_cons,
                step_begin rfl, resume_unit]
              exact ih executed _ _ _
          | some changes => exact final_of_stuck rfl _
  | commit next ih =>
      cases executed with
      | zero => cases pending <;> rfl
      | succ executed =>
          cases pending with
          | none => exact final_of_stuck rfl _
          | some changes =>
              rw [List.replicate_succ, List.cons_append, StepRuns.final_cons,
                step_commit rfl, resume_unit]
              exact ih executed _ _ _
  | rollback next ih =>
      cases executed with
      | zero => cases pending <;> rfl
      | succ executed =>
          cases pending with
          | none => exact final_of_stuck rfl _
          | some changes =>
              rw [List.replicate_succ, List.cons_append, StepRuns.final_cons,
                step_rollback rfl, resume_unit]
              exact ih executed _ _ _

end System

end Transaction
