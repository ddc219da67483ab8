import Mathlib.Data.List.Defs
import Mathlib.Data.Option.Basic

/-!
# Dispatchers

A dispatcher offers an update to its handlers in order.  The first that takes
it gets it, and no other handler sees it.  Which handlers take an update may
depend on the context in which it comes.
-/

/-- A handler: the updates that it takes, and what it does with them. -/
structure Handler (Context Update Action : Type) where
  takes : Context → Update → Bool
  action : Update → Action

namespace Handler

variable {Context Update Action : Type}

/-- What the first handler that takes the update does with it. -/
def dispatch (handlers : List (Handler Context Update Action))
    (context : Context) (update : Update) : Option Action :=
  (handlers.find? (·.takes context update)).map (·.action update)

variable {handlers first second : List (Handler Context Update Action)}
variable {handler : Handler Context Update Action} {context : Context}
variable {update : Update} {action : Action}

@[simp]
theorem dispatch_nil :
    dispatch ([] : List (Handler Context Update Action)) context update =
      none :=
  rfl

theorem dispatch_cons_of_takes (takes : handler.takes context update = true) :
    dispatch (handler :: handlers) context update =
      some (handler.action update) := by
  simp [dispatch, takes]

theorem dispatch_cons_of_not_takes
    (passes : handler.takes context update = false) :
    dispatch (handler :: handlers) context update =
      dispatch handlers context update := by
  simp [dispatch, passes]

/-- An update that no handler of the first list takes goes to the second. -/
theorem dispatch_append_of_none
    (none : dispatch first context update = none) :
    dispatch (first ++ second) context update =
      dispatch second context update := by
  have noneTakes := Option.map_eq_none_iff.mp none
  simp [dispatch, List.find?_append, noneTakes]

theorem dispatch_append_of_some
    (found : dispatch first context update = some action) :
    dispatch (first ++ second) context update = some action := by
  obtain ⟨handler, isFirst, rfl⟩ := Option.map_eq_some_iff.mp found
  simp [dispatch, List.find?_append, isFirst]

theorem dispatch_eq_none_iff :
    dispatch handlers context update = none ↔
      ∀ handler ∈ handlers, handler.takes context update = false := by
  simp [dispatch]

/-- What is done with an update is done by one of the handlers that take
it. -/
theorem exists_of_dispatch
    (found : dispatch handlers context update = some action) :
    ∃ handler ∈ handlers, handler.takes context update = true ∧
      handler.action update = action := by
  obtain ⟨handler, isFirst, rfl⟩ := Option.map_eq_some_iff.mp found
  have takes : handler.takes context update = true := by
    simpa using List.find?_some isFirst
  exact ⟨handler, List.mem_of_find?_eq_some isFirst, takes, rfl⟩

/-- A property of what each handler does with the updates that it takes is a
property of what is done. -/
theorem of_dispatch {property : Action → Prop}
    (all : ∀ handler ∈ handlers, handler.takes context update = true →
      property (handler.action update))
    (found : dispatch handlers context update = some action) :
    property action := by
  obtain ⟨handler, member, takes, rfl⟩ := exists_of_dispatch found
  exact all handler member takes

end Handler
