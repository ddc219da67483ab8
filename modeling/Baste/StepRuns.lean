import Mathlib.Algebra.Group.Basic
import Mathlib.Algebra.Order.Monoid.Unbundled.Basic
import Mathlib.Tactic.GCongr

/-!
# Runs of a total step function

A system with a total step function is driven by a list of events.  This file
collects the rules used for all runs: an invariant of single steps holds at
the end of every run, a property of single steps holds along every run, two
properties of single steps are equivalent along a run when they are
equivalent at every step, and the total of a step observable telescopes.
-/

namespace StepRuns

variable {State Event : Type*} (step : State → Event → State)

/-- The state in which the events leave the system. -/
def final (state : State) (events : List Event) : State :=
  events.foldl step state

/-- A property of single steps holds at every step of a run. -/
def Along (holds : State → Event → Prop) : State → List Event → Prop
  | _, [] => True
  | state, event :: events =>
      holds state event ∧ Along holds (step state event) events

instance decidableAlong {holds : State → Event → Prop}
    [∀ state event, Decidable (holds state event)] (state : State) :
    (events : List Event) → Decidable (Along step holds state events)
  | [] => inferInstanceAs (Decidable True)
  | event :: events =>
      have _rest : Decidable (Along step holds (step state event) events) :=
        decidableAlong (step state event) events
      inferInstanceAs (Decidable (_ ∧ _))

/-- The total of a step observable over a run. -/
def tally {Total : Type*} [AddMonoid Total]
    (observe : State → Event → Total) : State → List Event → Total
  | _, [] => 0
  | state, event :: events =>
      observe state event + tally observe (step state event) events

@[simp]
theorem final_nil (state : State) : final step state [] = state :=
  rfl

@[simp]
theorem final_cons (state : State) (event : Event) (events : List Event) :
    final step state (event :: events) =
      final step (step state event) events :=
  rfl

variable {step}

theorem final_append (state : State) (first second : List Event) :
    final step state (first ++ second) =
      final step (final step state first) second :=
  List.foldl_append

theorem along_append {holds : State → Event → Prop} {state : State}
    {first second : List Event} :
    Along step holds state (first ++ second) ↔
      Along step holds state first ∧
        Along step holds (final step state first) second := by
  induction first generalizing state with
  | nil => simp [Along]
  | cons event first ih => simp [Along, ih, and_assoc]

/-- Two properties hold along a run when both do. -/
theorem along_and {first second : State → Event → Prop} {state : State}
    {events : List Event} (holdsFirst : Along step first state events)
    (holdsSecond : Along step second state events) :
    Along step (fun now event => first now event ∧ second now event) state
      events := by
  induction events generalizing state with
  | nil => trivial
  | cons event events ih =>
      exact ⟨⟨holdsFirst.1, holdsSecond.1⟩, ih holdsFirst.2 holdsSecond.2⟩

/-- An invariant of single steps holds at the end of every run. -/
theorem final_of_invariant (invariant : State → Prop)
    (preserved : ∀ state event, invariant state → invariant (step state event))
    {state : State} (initial : invariant state) (events : List Event) :
    invariant (final step state events) := by
  induction events generalizing state with
  | nil => exact initial
  | cons event events ih => exact ih (preserved state event initial)

/-- Whatever an invariant implies for one step holds along every run. -/
theorem along_of_invariant {invariant : State → Prop}
    {holds : State → Event → Prop}
    (preserved : ∀ state event, invariant state → invariant (step state event))
    (implied : ∀ state event, invariant state → holds state event)
    {state : State} (initial : invariant state) (events : List Event) :
    Along step holds state events := by
  induction events generalizing state with
  | nil => trivial
  | cons event events ih =>
      exact ⟨implied state event initial, ih (preserved state event initial)⟩

/-- Every run is unguarded. -/
theorem along_true {state : State} (events : List Event) :
    Along step (fun _ _ => True) state events := by
  induction events generalizing state with
  | nil => trivial
  | cons event events ih => exact ⟨trivial, ih⟩

/-- An invariant that a step keeps when its guard holds gives the properties
it implies along every run whose steps all meet their guards. -/
theorem along_of_guarded (invariant : State → Prop)
    {guard : State → Event → Prop} (holds : State → Event → Prop)
    (kept : ∀ state event, invariant state → guard state event →
      holds state event ∧ invariant (step state event))
    {state : State} (initial : invariant state) {events : List Event}
    (guarded : Along step guard state events) :
    Along step holds state events ∧
      invariant (final step state events) := by
  induction events generalizing state with
  | nil => exact ⟨trivial, initial⟩
  | cons event events ih =>
      obtain ⟨holdsHere, keptHere⟩ := kept state event initial guarded.1
      obtain ⟨holdsLater, keptLater⟩ := ih keptHere guarded.2
      exact ⟨⟨holdsHere, holdsLater⟩, keptLater⟩

/-- When an invariant makes two step properties equivalent and survives every
step with the second, the two are equivalent along every run. -/
theorem along_iff (invariant : State → Prop)
    {holds guard : State → Event → Prop}
    (equivalent : ∀ state event, invariant state →
      (holds state event ↔ guard state event))
    (kept : ∀ state event, invariant state → guard state event →
      invariant (step state event))
    {state : State} (initial : invariant state) (events : List Event) :
    Along step holds state events ↔ Along step guard state events := by
  induction events generalizing state with
  | nil => exact Iff.rfl
  | cons event events ih =>
      constructor
      · rintro ⟨holdsHere, holdsLater⟩
        have guardHere := (equivalent state event initial).mp holdsHere
        exact ⟨guardHere,
          (ih (kept state event initial guardHere)).mp holdsLater⟩
      · rintro ⟨guardHere, guardLater⟩
        exact ⟨(equivalent state event initial).mpr guardHere,
          (ih (kept state event initial guardHere)).mpr guardLater⟩

/-- A step observable that is the increase of a measure at every guarded step
adds up to the increase of the measure over every guarded run. -/
theorem tally_telescopes {Total : Type*} [AddMonoid Total]
    (invariant : State → Prop) {guard : State → Event → Prop}
    {observe : State → Event → Total} (measure : State → Total)
    (kept : ∀ state event, invariant state → guard state event →
      invariant (step state event))
    (increase : ∀ state event, invariant state → guard state event →
      measure state + observe state event = measure (step state event))
    {state : State} (initial : invariant state) {events : List Event}
    (guarded : Along step guard state events) :
    measure state + tally step observe state events =
      measure (final step state events) := by
  induction events generalizing state with
  | nil => simp [tally]
  | cons event events ih =>
      rw [tally, ← add_assoc, increase state event initial guarded.1]
      exact ih (kept state event initial guarded.1) guarded.2

/-- A step observable that is at most the increase of a measure at every
guarded step adds up to at most the increase over every guarded run. -/
theorem tally_le_increase {Total : Type*} [AddMonoid Total] [Preorder Total]
    [AddLeftMono Total] [AddRightMono Total] (invariant : State → Prop)
    {guard : State → Event → Prop} {observe : State → Event → Total}
    (measure : State → Total)
    (kept : ∀ state event, invariant state → guard state event →
      invariant (step state event))
    (increase : ∀ state event, invariant state → guard state event →
      measure state + observe state event ≤ measure (step state event))
    {state : State} (initial : invariant state) {events : List Event}
    (guarded : Along step guard state events) :
    measure state + tally step observe state events ≤
      measure (final step state events) := by
  induction events generalizing state with
  | nil => simp [tally]
  | cons event events ih =>
      rw [tally, ← add_assoc]
      calc
        measure state + observe state event +
              tally step observe (step state event) events ≤
            measure (step state event) +
              tally step observe (step state event) events := by
          gcongr
          exact increase state event initial guarded.1
        _ ≤ measure (final step (step state event) events) :=
          ih (kept state event initial guarded.1) guarded.2

end StepRuns
