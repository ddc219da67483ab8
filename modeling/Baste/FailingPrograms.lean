import Mathlib.Control.Monad.Basic
import Mathlib.Order.Defs.Unbundled

/-!
# Programs that change a state and may fail

A program runs on a state and ends, with a value or with an error, in another
state; what it did before an error stays done.  Its contracts say what holds
at each of the two ends.
-/

/-- A program that may fail. -/
abbrev Failing (Error State Result : Type) :=
  ExceptT Error (StateM State) Result

namespace Failing

variable {Error State Result Next Item : Type}

/-- Run a program. -/
def runOn (program : Failing Error State Result) (state : State) :
    Except Error Result × State :=
  StateT.run (ExceptT.run program) state

@[simp]
theorem runOn_pure (value : Result) (state : State) :
    (pure value : Failing Error State Result).runOn state =
      (.ok value, state) :=
  rfl

@[simp]
theorem runOn_throw (error : Error) (state : State) :
    (throw error : Failing Error State Result).runOn state =
      (.error error, state) :=
  rfl

@[simp]
theorem runOn_get (state : State) :
    (get : Failing Error State State).runOn state = (.ok state, state) :=
  rfl

@[simp]
theorem runOn_set (new state : State) :
    (set new : Failing Error State PUnit).runOn state = (.ok ⟨⟩, new) :=
  rfl

@[simp]
theorem runOn_modify (change : State → State) (state : State) :
    (modify change : Failing Error State PUnit).runOn state =
      (.ok ⟨⟩, change state) :=
  rfl

theorem runOn_bind (program : Failing Error State Result)
    (next : Result → Failing Error State Next) (state : State) :
    (program >>= next).runOn state =
      match program.runOn state with
      | (.ok value, state) => (next value).runOn state
      | (.error error, state) => (.error error, state) := by
  simp only [runOn, ExceptT.run_bind, StateT.run_bind]
  cases StateT.run (ExceptT.run program) state with
  | mk result state => cases result <;> rfl

/-- The first step of a loop. -/
theorem forM_cons (item : Item) (items : List Item)
    (body : Item → Failing Error State PUnit) :
    (item :: items).forM body = body item >>= fun _ => items.forM body :=
  rfl

/-- From a state that satisfies the precondition, the program ends well with
the postcondition, or fails with the other one. -/
def Ensures (before : State → Prop) (program : Failing Error State Result)
    (after : Result → State → Prop) (failure : Error → State → Prop) :
    Prop :=
  ∀ state, before state →
    match program.runOn state with
    | (.ok value, state) => after value state
    | (.error error, state) => failure error state

variable {before : State → Prop} {failure : Error → State → Prop}

theorem Ensures.of_pure {after : Result → State → Prop} (value : Result)
    (holds : ∀ state, before state → after value state) :
    Ensures before (pure value : Failing Error State Result) after failure :=
  holds

theorem Ensures.of_get {after : State → State → Prop}
    (holds : ∀ state, before state → after state state) :
    Ensures before (get : Failing Error State State) after failure :=
  holds

theorem Ensures.of_throw {after : Result → State → Prop} (error : Error)
    (holds : ∀ state, before state → failure error state) :
    Ensures before (throw error : Failing Error State Result) after
      failure :=
  holds

theorem Ensures.bind {program : Failing Error State Result}
    {next : Result → Failing Error State Next}
    {middle : Result → State → Prop} {after : Next → State → Prop}
    (first : Ensures before program middle failure)
    (second : ∀ value, Ensures (middle value) (next value) after failure) :
    Ensures before (program >>= next) after failure := by
  intro state holds
  have middleHolds := first state holds
  rw [runOn_bind]
  split at middleHolds
  · exact second _ _ middleHolds
  · exact middleHolds

theorem runOn_tryCatch (program : Failing Error State Result)
    (handler : Error → Failing Error State Result) (state : State) :
    (tryCatch program handler).runOn state =
      match program.runOn state with
      | (.ok value, state) => (.ok value, state)
      | (.error error, state) => (handler error).runOn state := by
  simp only [runOn, ExceptT.run_tryCatch, StateT.run_bind]
  cases StateT.run (ExceptT.run program) state with
  | mk result state => cases result <;> rfl

/-- The handler starts where the program has failed. -/
theorem Ensures.tryCatch {program : Failing Error State Result}
    {handler : Error → Failing Error State Result}
    {after : Result → State → Prop} {middle : Error → State → Prop}
    (first : Ensures before program after middle)
    (second : ∀ error, Ensures (middle error) (handler error) after
      failure) :
    Ensures before (tryCatch program handler) after failure := by
  intro state holds
  have ends := first state holds
  rw [runOn_tryCatch]
  split at ends
  · exact ends
  · exact second _ _ ends

theorem Ensures.weaken {program : Failing Error State Result}
    {weaker : State → Prop} {after stronger : Result → State → Prop}
    {other : Error → State → Prop}
    (ensures : Ensures before program stronger other)
    (start : ∀ state, weaker state → before state)
    (stop : ∀ value state, stronger value state → after value state)
    (fail : ∀ error state, other error state → failure error state) :
    Ensures weaker program after failure := by
  intro state holds
  have ends := ensures state (start state holds)
  split at ends
  · exact stop _ _ ends
  · exact fail _ _ ends

/-- A fact in the precondition that does not speak of the state. -/
theorem Ensures.assuming {program : Failing Error State Result} {fact : Prop}
    {after : Result → State → Prop}
    (ensures : fact → Ensures before program after failure) :
    Ensures (fun state => fact ∧ before state) program after failure :=
  fun state holds => ensures holds.1 state holds.2

/-- A loop keeps an invariant that speaks of the items still to come. -/
theorem Ensures.forM {body : Item → Failing Error State PUnit}
    {invariant : List Item → State → Prop} (items : List Item)
    (step : ∀ item ∈ items, ∀ rest, Ensures (invariant (item :: rest))
      (body item) (fun _ => invariant rest) failure) :
    Ensures (invariant items) (items.forM body) (fun _ => invariant [])
      failure := by
  induction items with
  | nil => exact .of_pure _ fun _ holds => holds
  | cons item items ih =>
      have first := step item (by simp) items
      exact first.bind fun _ =>
        ih fun item member => step item (List.mem_cons_of_mem _ member)

/-- The condition holds where the program ends well. -/
def WhenDone (program : Failing Error State Result)
    (condition : State → Prop) (state : State) : Prop :=
  ∀ value reached, program.runOn state = (.ok value, reached) →
    condition reached

/-- The condition holds at every turn of the loop that is reached. -/
def AtTurns (body : Item → Failing Error State PUnit)
    (condition : Item → State → Prop) : List Item → State → Prop
  | [], _ => True
  | item :: items, state =>
      condition item state ∧
        (body item).WhenDone (AtTurns body condition items) state

section Conditions

variable {body : Item → Failing Error State PUnit}
variable {condition : Item → State → Prop} {items : List Item}

theorem atTurns_of_forall
    (all : ∀ item ∈ items, ∀ state, condition item state) (state : State) :
    AtTurns body condition items state := by
  induction items generalizing state with
  | nil => trivial
  | cons item items ih =>
      exact ⟨all item List.mem_cons_self state, fun _ reached _ =>
        ih (fun other member => all other (List.mem_cons_of_mem _ member))
          reached⟩

/-- A condition on the end of a program is there for what comes next. -/
theorem Ensures.whenDone {program : Failing Error State Result}
    {after : Result → State → Prop} {later : State → Prop}
    (ensures : Ensures before program after failure) :
    Ensures (fun state => before state ∧ program.WhenDone later state) program
      (fun value state => after value state ∧ later state) failure := by
  rintro state ⟨holds, done⟩
  have ends := ensures state holds
  revert ends done
  unfold WhenDone
  rcases program.runOn state with ⟨error | value, reached⟩
  · exact fun _ ends => ends
  · exact fun done ends => ⟨ends, done value reached rfl⟩

theorem Ensures.bind_whenDone {program : Failing Error State Result}
    {next : Result → Failing Error State Next}
    {middle : Result → State → Prop} {after : Next → State → Prop}
    {later : State → Prop} (first : Ensures before program middle failure)
    (second : ∀ value, Ensures (fun state => middle value state ∧ later state)
      (next value) after failure) :
    Ensures (fun state => before state ∧ program.WhenDone later state)
      (program >>= next) after failure :=
  first.whenDone.bind second

/-- A loop keeps an invariant if its body does under the condition. -/
theorem Ensures.forM_atTurns {invariant : State → Prop}
    (step : ∀ item ∈ items, Ensures
      (fun state => invariant state ∧ condition item state) (body item)
      (fun _ => invariant) failure) :
    Ensures (fun state => invariant state ∧ AtTurns body condition items state)
      (items.forM body) (fun _ => invariant) failure := by
  let guarded := fun rest state =>
    invariant state ∧ AtTurns body condition rest state
  refine (@Ensures.forM _ _ _ failure body guarded items ?_).weaken
    (fun _ holds => holds) (fun _ _ holds => holds.1) fun _ _ holds => holds
  intro item member rest
  exact (step item member).whenDone.weaken
    (fun _ holds => ⟨⟨holds.1, holds.2.1⟩, holds.2.2⟩)
    (fun _ _ holds => holds) fun _ _ holds => holds

end Conditions

/-- Whatever becomes of the program, it does not change what is observed. -/
def Keeps {Seen : Type} (observe : State → Seen)
    (program : Failing Error State Result) : Prop :=
  ∀ state, observe (program.runOn state).2 = observe state

section Keeping

variable {Seen : Type} {observe : State → Seen}

theorem keeps_pure (value : Result) :
    Keeps observe (pure value : Failing Error State Result) :=
  fun _ => rfl

theorem keeps_throw (error : Error) :
    Keeps observe (throw error : Failing Error State Result) :=
  fun _ => rfl

theorem keeps_get : Keeps observe (get : Failing Error State State) :=
  fun _ => rfl

theorem keeps_modify {change : State → State}
    (keeps : ∀ state, observe (change state) = observe state) :
    Keeps observe (modify change : Failing Error State PUnit) :=
  keeps

theorem Keeps.bind {program : Failing Error State Result}
    {next : Result → Failing Error State Next}
    (first : Keeps observe program)
    (second : ∀ value, Keeps observe (next value)) :
    Keeps observe (program >>= next) := by
  intro state
  rw [runOn_bind, ← first state]
  rcases program.runOn state with ⟨error | value, reached⟩
  · rfl
  · exact second value reached

theorem Keeps.forM {body : Item → Failing Error State PUnit}
    {items : List Item} (keeps : ∀ item ∈ items, Keeps observe (body item)) :
    Keeps observe (items.forM body) := by
  induction items with
  | nil => exact keeps_pure _
  | cons item items ih =>
      have first := keeps item List.mem_cons_self
      rw [forM_cons]
      exact first.bind fun _ =>
        ih fun other member => keeps other (List.mem_cons_of_mem _ member)

/-- What keeps the observation does not matter for it at the end. -/
theorem observe_bind_of_keeps {program : Failing Error State Result}
    {next : Result → Failing Error State Next}
    (keeps : ∀ value, Keeps observe (next value)) (state : State) :
    observe ((program >>= next).runOn state).2 =
      observe (program.runOn state).2 := by
  rw [runOn_bind]
  rcases program.runOn state with ⟨error | value, reached⟩
  · rfl
  · exact keeps value reached

end Keeping

/-- Whatever becomes of the program, what is observed at the end is related to
what is observed at the beginning. -/
def Moves {Seen : Type} (observe : State → Seen)
    (relation : Seen → Seen → Prop)
    (program : Failing Error State Result) : Prop :=
  ∀ state, relation (observe state) (observe (program.runOn state).2)

section Moving

variable {Seen : Type} {observe : State → Seen}
variable {relation : Seen → Seen → Prop}

theorem Keeps.moves [Std.Refl relation]
    {program : Failing Error State Result} (keeps : Keeps observe program) :
    Moves observe relation program := by
  intro state
  rw [keeps state]
  exact Std.Refl.refl _

theorem moves_modify {change : State → State}
    (moves : ∀ state, relation (observe state) (observe (change state))) :
    Moves observe relation (modify change : Failing Error State PUnit) :=
  moves

theorem Moves.bind [IsTrans Seen relation]
    {program : Failing Error State Result}
    {next : Result → Failing Error State Next}
    (first : Moves observe relation program)
    (second : ∀ value, Moves observe relation (next value)) :
    Moves observe relation (program >>= next) := by
  intro state
  have start := first state
  rw [runOn_bind]
  revert start
  rcases program.runOn state with ⟨error | value, reached⟩
  · intro start
    exact start
  · intro start
    exact IsTrans.trans _ _ _ start (second value reached)

end Moving

/-- From this state the program fails. -/
def Fails (program : Failing Error State Result) (state : State) : Prop :=
  ∃ error, (program.runOn state).1 = .error error

/-- From no state does the program fail. -/
def NeverFails (program : Failing Error State Result) : Prop :=
  ∀ state, ¬ program.Fails state

/-- Where one program fails, the other one does. -/
def FailsLike {Other : Type} (first : Failing Error State Result)
    (second : Failing Error State Other) : Prop :=
  ∀ state, first.Fails state → second.Fails state

section Failures

variable {Other Last : Type} {state : State}

theorem fails_bind_iff {program : Failing Error State Result}
    {next : Result → Failing Error State Next} :
    (program >>= next).Fails state ↔
      program.Fails state ∨
        ∃ value, (program.runOn state).1 = .ok value ∧
          (next value).Fails (program.runOn state).2 := by
  unfold Fails
  rw [runOn_bind]
  rcases program.runOn state with ⟨error | value, reached⟩
  · simp
  · simp

theorem neverFails_pure (value : Result) :
    (pure value : Failing Error State Result).NeverFails := by
  rintro state ⟨error, failed⟩
  cases failed

theorem neverFails_modify (change : State → State) :
    (modify change : Failing Error State PUnit).NeverFails := by
  rintro state ⟨error, failed⟩
  cases failed

theorem NeverFails.bind {program : Failing Error State Result}
    {next : Result → Failing Error State Next} (first : program.NeverFails)
    (second : ∀ value, (next value).NeverFails) :
    (program >>= next).NeverFails := by
  intro state fails
  rcases fails_bind_iff.mp fails with early | ⟨value, -, late⟩
  · exact first state early
  · exact second value _ late

/-- What follows decides whether the whole fails. -/
theorem NeverFails.fails_bind {program : Failing Error State Result}
    {next : Result → Failing Error State Next} {lacking : Prop}
    (first : program.NeverFails)
    (rest : ∀ value reached, (next value).Fails reached ↔ lacking) :
    (program >>= next).Fails state ↔ lacking := by
  rw [fails_bind_iff, or_iff_right (first state)]
  cases ended : (program.runOn state).1 with
  | error error => exact absurd ⟨error, ended⟩ (first state)
  | ok value =>
      constructor
      · rintro ⟨other, _, fails⟩
        exact (rest other _).mp fails
      · exact fun lacks => ⟨value, rfl, (rest value _).mpr lacks⟩

theorem neverFails_ite {test : Prop} [Decidable test]
    {yes no : Failing Error State Result} (first : yes.NeverFails)
    (second : no.NeverFails) : (if test then yes else no).NeverFails := by
  split
  · exact first
  · exact second

/-- After the same beginning. -/
theorem FailsLike.bind {program : Failing Error State Result}
    {next : Result → Failing Error State Next}
    {other : Result → Failing Error State Other}
    (like : ∀ value, FailsLike (next value) (other value)) :
    FailsLike (program >>= next) (program >>= other) := by
  intro state fails
  rw [fails_bind_iff] at fails ⊢
  rcases fails with early | ⟨value, reached, late⟩
  · exact .inl early
  · exact .inr ⟨value, reached, like value _ late⟩

/-- Before an end that does not fail. -/
theorem FailsLike.bind_neverFails {first : Failing Error State Result}
    {second : Failing Error State Next}
    {next : Result → Failing Error State Other}
    {other : Next → Failing Error State Last} (like : FailsLike first second)
    (ends : ∀ value, (next value).NeverFails) :
    FailsLike (first >>= next) (second >>= other) := by
  intro state fails
  rw [fails_bind_iff] at fails ⊢
  rcases fails with early | ⟨value, -, late⟩
  · exact .inl (like state early)
  · exact absurd late (ends value _)

theorem NeverFails.failsLike {first : Failing Error State Result}
    {second : Failing Error State Next} (never : first.NeverFails) :
    FailsLike first second :=
  fun state fails => absurd fails (never state)

end Failures

end Failing
