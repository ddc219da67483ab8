import Baste.Dispatchers
import Mathlib.Data.List.Forall2
import Mathlib.Data.List.Infix
import Mathlib.Data.List.Perm.Basic

/-!
# Routes by text

A handler takes the updates with its own text, or those whose text has its own
beginning.  Whether two routes share a text can be computed from the routes
alone.  Handlers whose routes are pairwise apart never compete for an update,
so that their order does not matter.
-/

/-- The texts that a handler takes. -/
inductive TextRoute (Letter : Type) where
  | nothing
  | exactly (text : List Letter)
  | starting (start : List Letter)

namespace TextRoute

variable {Letter : Type} [DecidableEq Letter]
variable {first second : TextRoute Letter} {found : List Letter}

def takes : TextRoute Letter → List Letter → Bool
  | nothing, _ => false
  | exactly text, found => found = text
  | starting start, found => start.isPrefixOf found

/-- No text is on both routes. -/
def apart : TextRoute Letter → TextRoute Letter → Bool
  | nothing, _ | _, nothing => true
  | exactly first, exactly second => first ≠ second
  | exactly text, starting start | starting start, exactly text =>
      !start.isPrefixOf text
  | starting first, starting second =>
      !first.isPrefixOf second && !second.isPrefixOf first

theorem takes_exactly {text : List Letter} :
    (exactly text).takes found = true ↔ found = text := by
  simp [takes]

theorem takes_starting {start : List Letter} :
    (starting start).takes found = true ↔ start <+: found := by
  simp [takes]

theorem not_prefix_of_apart_exactly {text start : List Letter}
    (areApart : (exactly text).apart (starting start) = true) :
    ¬ start <+: text := by
  simpa [apart, ← List.isPrefixOf_iff_prefix] using areApart

theorem not_prefix_of_apart_starting {one other : List Letter}
    (areApart : (starting one).apart (starting other) = true) :
    ¬ one <+: other ∧ ¬ other <+: one := by
  simpa [apart, ← List.isPrefixOf_iff_prefix] using areApart

theorem apart_comm (areApart : first.apart second = true) :
    second.apart first = true := by
  cases first with
  | nothing => cases second <;> rfl
  | exactly text =>
      cases second with
      | nothing => rfl
      | exactly other =>
          have different : text ≠ other := by simpa [apart] using areApart
          simpa [apart] using different.symm
      | starting start => exact areApart
  | starting start =>
      cases second with
      | nothing => rfl
      | exactly text => exact areApart
      | starting other => simpa [apart, and_comm] using areApart

/-- Two beginnings of a text are beginnings of one another. -/
theorem not_takes_of_apart (areApart : first.apart second = true)
    (takesFirst : first.takes found = true) :
    second.takes found = false := by
  rw [← Bool.not_eq_true]
  intro takesSecond
  cases first with
  | nothing => cases takesFirst
  | exactly text =>
      cases takes_exactly.mp takesFirst
      cases second with
      | nothing => cases takesSecond
      | exactly other =>
          have same := takes_exactly.mp takesSecond
          simp [apart, same] at areApart
      | starting start =>
          exact not_prefix_of_apart_exactly areApart
            (takes_starting.mp takesSecond)
  | starting start =>
      have begins := takes_starting.mp takesFirst
      cases second with
      | nothing => cases takesSecond
      | exactly text =>
          cases takes_exactly.mp takesSecond
          exact not_prefix_of_apart_exactly (apart_comm areApart) begins
      | starting other =>
          have neither := not_prefix_of_apart_starting areApart
          rcases List.prefix_or_prefix_of_prefix begins
            (takes_starting.mp takesSecond) with inside | inside
          · exact neither.1 inside
          · exact neither.2 inside

end TextRoute

namespace Handler

variable {Context Update Action : Type}
variable {handlers other : List (Handler Context Update Action)}
variable {handler : Handler Context Update Action} {context : Context}
variable {update : Update}

/-- No two handlers take the update. -/
def Unambiguous (handlers : List (Handler Context Update Action))
    (context : Context) (update : Update) : Prop :=
  handlers.Pairwise fun first second =>
    first.takes context update = true → second.takes context update = false

/-- Without a second handler that takes the update it does not matter where
the handler stands. -/
theorem dispatch_of_unambiguous
    (unambiguous : Unambiguous handlers context update)
    (member : handler ∈ handlers)
    (takes : handler.takes context update = true) :
    dispatch handlers context update = some (handler.action update) := by
  induction handlers with
  | nil => cases member
  | cons first rest ih =>
      obtain ⟨againstRest, unambiguousRest⟩ :=
        List.pairwise_cons.mp unambiguous
      rcases List.mem_cons.mp member with rfl | later
      · exact dispatch_cons_of_takes takes
      · have passes : first.takes context update = false := by
          rw [← Bool.not_eq_true]
          intro takesFirst
          rw [againstRest handler later takesFirst] at takes
          cases takes
        rw [dispatch_cons_of_not_takes passes]
        exact ih unambiguousRest later

theorem Unambiguous.perm (unambiguous : Unambiguous handlers context update)
    (reordered : handlers.Perm other) : Unambiguous other context update := by
  refine (reordered.pairwise_iff ?_).mp unambiguous
  intro first second passes takesSecond
  rw [← Bool.not_eq_true]
  intro takesFirst
  rw [passes takesFirst] at takesSecond
  cases takesSecond

/-- Handlers that never compete may stand in any order. -/
theorem dispatch_perm (unambiguous : Unambiguous handlers context update)
    (reordered : handlers.Perm other) :
    dispatch other context update = dispatch handlers context update := by
  cases found : dispatch handlers context update with
  | some action =>
      obtain ⟨handler, member, takes, rfl⟩ := exists_of_dispatch found
      exact dispatch_of_unambiguous (unambiguous.perm reordered)
        (reordered.mem_iff.mp member) takes
  | none =>
      rw [dispatch_eq_none_iff] at found ⊢
      intro handler member
      exact found handler (reordered.mem_iff.mpr member)

variable {Letter : Type} [DecidableEq Letter]

/-- If the handler takes the update, the text of the update is on the route. -/
def Follows (context : Context) (update : Update) (text : List Letter)
    (handler : Handler Context Update Action) (route : TextRoute Letter) :
    Prop :=
  handler.takes context update = true → route.takes text = true

variable {text : List Letter} {routes : List (TextRoute Letter)}

theorem exists_follows
    (follow : List.Forall₂ (Follows context update text) handlers routes)
    (member : handler ∈ handlers) :
    ∃ route ∈ routes, Follows context update text handler route := by
  induction follow with
  | nil => cases member
  | cons follows _ ih =>
      rcases List.mem_cons.mp member with rfl | later
      · exact ⟨_, List.mem_cons_self, follows⟩
      · obtain ⟨route, isRoute, followsLater⟩ := ih later
        exact ⟨route, List.mem_cons_of_mem _ isRoute, followsLater⟩

/-- A text that is on none of the routes is left alone. -/
theorem dispatch_eq_none_of_follows
    (follow : List.Forall₂ (Follows context update text) handlers routes)
    (onNone : ∀ route ∈ routes, route.takes text = false) :
    dispatch handlers context update = none := by
  rw [dispatch_eq_none_iff]
  intro handler member
  obtain ⟨route, isRoute, follows⟩ := exists_follows follow member
  rw [← Bool.not_eq_true]
  intro takes
  have passes := onNone route isRoute
  rw [follows takes] at passes
  cases passes

/-- Handlers that follow routes which are pairwise apart never compete. -/
theorem unambiguous_of_follows
    (follow : List.Forall₂ (Follows context update text) handlers routes)
    (areApart : routes.Pairwise fun first second =>
      first.apart second = true) :
    Unambiguous handlers context update := by
  induction follow with
  | nil => exact List.Pairwise.nil
  | cons follows rest ih =>
      obtain ⟨apartFromRest, apartRest⟩ := List.pairwise_cons.mp areApart
      refine List.pairwise_cons.mpr ⟨?_, ih apartRest⟩
      intro second member takes
      obtain ⟨route, isRoute, followsSecond⟩ := exists_follows rest member
      have passes := TextRoute.not_takes_of_apart
        (apartFromRest route isRoute) (follows takes)
      rw [← Bool.not_eq_true]
      intro takesSecond
      rw [followsSecond takesSecond] at passes
      cases passes

/-- The handlers stand in another order, which comes from swapping neighbours
that may be swapped. -/
inductive Reordered
    (mayPass : Handler Context Update Action → Handler Context Update Action →
      Prop) :
    List (Handler Context Update Action) →
      List (Handler Context Update Action) → Prop where
  | nil : Reordered mayPass [] []
  | cons (handler : Handler Context Update Action)
      {handlers other : List (Handler Context Update Action)}
      (rest : Reordered mayPass handlers other) :
      Reordered mayPass (handler :: handlers) (handler :: other)
  | swap {first second : Handler Context Update Action}
      (passes : mayPass first second)
      (rest : List (Handler Context Update Action)) :
      Reordered mayPass (first :: second :: rest) (second :: first :: rest)
  | trans {handlers between other : List (Handler Context Update Action)}
      (start : Reordered mayPass handlers between)
      (rest : Reordered mayPass between other) :
      Reordered mayPass handlers other

namespace Reordered

variable {mayPass : Handler Context Update Action →
  Handler Context Update Action → Prop}

theorem refl (handlers : List (Handler Context Update Action)) :
    Reordered mayPass handlers handlers := by
  induction handlers with
  | nil => exact .nil
  | cons handler _ ih => exact .cons handler ih

theorem perm (reordered : Reordered mayPass handlers other) :
    handlers.Perm other := by
  induction reordered with
  | nil => exact .nil
  | cons handler _ ih => exact ih.cons handler
  | swap _ rest => exact .swap _ _ rest
  | trans _ _ first second => exact first.trans second

theorem append_left (front : List (Handler Context Update Action))
    (reordered : Reordered mayPass handlers other) :
    Reordered mayPass (front ++ handlers) (front ++ other) := by
  induction front with
  | nil => exact reordered
  | cons handler _ ih => exact .cons handler ih

/-- A handler that may pass all handlers of a block moves behind it. -/
theorem move {block : List (Handler Context Update Action)}
    (passes : ∀ other ∈ block, mayPass handler other)
    (rest : List (Handler Context Update Action)) :
    Reordered mayPass (handler :: (block ++ rest))
      (block ++ handler :: rest) := by
  induction block with
  | nil => exact .refl _
  | cons first block ih =>
      obtain ⟨passesFirst, passesRest⟩ := List.forall_mem_cons.mp passes
      exact (Reordered.swap passesFirst _).trans (.cons first (ih passesRest))

/-- If handlers that may be swapped never compete for an update, the order
does not matter to it. -/
theorem dispatch_eq (reordered : Reordered mayPass handlers other)
    (never : ∀ first second, mayPass first second →
      first.takes context update = true →
        second.takes context update = false) :
    dispatch other context update = dispatch handlers context update := by
  induction reordered with
  | nil => rfl
  | cons handler _ ih =>
      cases takes : handler.takes context update with
      | true => rw [dispatch_cons_of_takes takes, dispatch_cons_of_takes takes]
      | false =>
          rw [dispatch_cons_of_not_takes takes, ih,
            dispatch_cons_of_not_takes takes]
  | @swap first second passes rest =>
      cases takes : first.takes context update with
      | true =>
          have gives := never first second passes takes
          rw [dispatch_cons_of_not_takes gives, dispatch_cons_of_takes takes,
            dispatch_cons_of_takes takes]
      | false =>
          rw [dispatch_cons_of_not_takes takes]
          cases takesSecond : second.takes context update with
          | true =>
              rw [dispatch_cons_of_takes takesSecond,
                dispatch_cons_of_takes takesSecond]
          | false =>
              rw [dispatch_cons_of_not_takes takesSecond,
                dispatch_cons_of_not_takes takesSecond,
                dispatch_cons_of_not_takes takes]
  | trans _ _ start rest => exact rest.trans start

end Reordered

end Handler
