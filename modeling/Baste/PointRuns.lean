import Baste.StepRuns
import Baste.TransactionPrograms

/-!
# Runs of programs without transactions

A program that opens no transaction acts on the committed state with each of
its statements, and it never makes another one wait.  Such a program is laid
out by its points: what is left of it at each of them, and what its next
statement does.  A run of points is then the same as a run of the programs,
and invariants are found on points.
-/

namespace Transaction

/-- A program without transactions, laid out by its points. -/
structure Layout (Point State Key Result : Type) where
  /-- The statements that are left. -/
  program : Point → Program State Key Result
  /-- What the next statement does. -/
  advance : Point → State → State × Point
  lost : Point

variable {Point State Key Result : Type}

namespace Layout

/-- The layout describes the program at a point where a statement is next. -/
def DescribesStatement (layout : Layout Point State Key Result)
    (point : Point) : Prop :=
  ∃ action next, layout.program point = .statement action next ∧
    ∀ state,
      (action state).effect ((action state).reserve state) =
          (layout.advance point state).1 ∧
        next state = layout.program (layout.advance point state).2

/-- The layout describes the program at a point where it is over. -/
def DescribesEnd (layout : Layout Point State Key Result)
    (point : Point) : Prop :=
  ((∃ result, layout.program point = .done result) ∨
      layout.program point = .lost) ∧
    ∀ state, layout.advance point state = (state, point)

/-- The layout describes its program. -/
structure Faithful (layout : Layout Point State Key Result) : Prop where
  describes : ∀ point,
    layout.DescribesStatement point ∨ layout.DescribesEnd point
  lost : layout.program layout.lost = .lost

end Layout

/-- Any number of programs without transactions that run on one state. -/
structure PointRun (Caller Point State : Type) where
  state : State
  point : Caller → Point

namespace PointRun

variable {Caller : Type}

/-- The programs as they stand. -/
def system (layouts : Caller → Layout Point State Key Result)
    (run : PointRun Caller Point State) : System Caller State Key Result where
  state := run.state
  locks := []
  process caller := ⟨(layouts caller).program (run.point caller), none⟩

variable [DecidableEq Caller]

/-- The program is over. -/
def isOver (program : Program State Key Result) : Bool :=
  match program with
  | .done _ | .lost => true
  | _ => false

/-- One scheduling decision. -/
def step (layouts : Caller → Layout Point State Key Result)
    (run : PointRun Caller Point State) :
    Event Caller → PointRun Caller Point State
  | .advance caller =>
      let (state, point) :=
        (layouts caller).advance (run.point caller) run.state
      ⟨state, Function.update run.point caller point⟩
  | .lose caller =>
      if isOver ((layouts caller).program (run.point caller)) then run
      else { run with
        point := Function.update run.point caller (layouts caller).lost }

section Refinement

variable {layouts : Caller → Layout Point State Key Result}
variable {run : PointRun Caller Point State}

theorem system_update (state : State) (caller : Caller) (point : Point) :
    system layouts ⟨state, Function.update run.point caller point⟩ =
      { state := state
        locks := []
        process := (run.system layouts).resume caller
          ⟨(layouts caller).program point, none⟩ } := by
  unfold system System.resume
  congr 1
  funext other
  by_cases same : other = caller
  · subst same
    dsimp only
    rw [Function.update_self, Function.update_self]
  · dsimp only
    rw [Function.update_of_ne same, Function.update_of_ne same]

variable [DecidableEq Key]

theorem system_advance {caller : Caller}
    (faithful : (layouts caller).Faithful) :
    (run.step layouts (.advance caller)).system layouts =
      (run.system layouts).step (.advance caller) := by
  have isAt : (run.system layouts).process caller =
      ⟨(layouts caller).program (run.point caller), none⟩ := rfl
  rcases faithful.describes (run.point caller) with
    ⟨action, next, isNext, does⟩ | ⟨ended, stays⟩
  · rw [isNext] at isAt
    have free : (run.system layouts).Free caller
        (action (run.system layouts).state).rows :=
      fun _ held => absurd held List.not_mem_nil
    rw [System.step_statement isAt free]
    obtain ⟨effect, rest⟩ := does run.state
    refine (system_update _ _ _).trans ?_
    rw [← effect, ← rest]
    rfl
  · have still : run.step layouts (.advance caller) = run := by
      simp only [step, stays run.state, Function.update_eq_self]
    rw [still]
    rcases ended with ⟨result, isDone⟩ | isLost
    · rw [isDone] at isAt
      simp [System.step, isAt]
    · rw [isLost] at isAt
      simp [System.step, isAt]

theorem system_lose {caller : Caller}
    (faithful : (layouts caller).Faithful) :
    (run.step layouts (.lose caller)).system layouts =
      (run.system layouts).step (.lose caller) := by
  have isAt : (run.system layouts).process caller =
      ⟨(layouts caller).program (run.point caller), none⟩ := rfl
  unfold step
  dsimp only
  rcases faithful.describes (run.point caller) with
    ⟨action, next, isNext, -⟩ | ⟨ended, -⟩
  · have goesOn : isOver (.statement action next :
        Program State Key Result) = false := rfl
    rw [isNext] at isAt ⊢
    rw [goesOn, if_neg Bool.false_ne_true, system_update, faithful.lost]
    simp only [System.step, isAt]
    rfl
  · rcases ended with ⟨result, isDone⟩ | isLost
    · rw [isDone] at isAt ⊢
      simp [System.step, isAt, PointRun.isOver]
    · rw [isLost] at isAt ⊢
      simp [System.step, isAt, PointRun.isOver]

/-- A run of points is a run of the programs. -/
theorem system_final (faithful : ∀ caller, (layouts caller).Faithful)
    (events : List (Event Caller)) :
    (StepRuns.final (step layouts) run events).system layouts =
      StepRuns.final System.step (run.system layouts) events := by
  induction events generalizing run with
  | nil => rfl
  | cons event events ih =>
      have stepped : (run.step layouts event).system layouts =
          (run.system layouts).step event := by
        cases event with
        | advance caller => exact system_advance (faithful caller)
        | lose caller => exact system_lose (faithful caller)
      rw [StepRuns.final_cons, StepRuns.final_cons, ih, stepped]

end Refinement

end PointRun

end Transaction
