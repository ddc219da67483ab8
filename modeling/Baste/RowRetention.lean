import Baste.DatabaseFrames

/-!
# Rows that stay

A policy says which rows of a table are never deleted, and what of them never
changes again.  Two databases follow the policies of their tables when every
row that should stay is still there, as it may be.
-/

namespace Database

/-- Which rows of a table stay for good, what of them stays as it is, and what
stays as it is once it is settled. -/
structure RowPolicy (Row : Type) where
  {Permanent : Type}
  {Fact : Type}
  stays : Row → Prop
  permanent : Row → Permanent
  settled : Row → Option Fact
  stays_of_permanent : ∀ {old new : Row}, permanent new = permanent old →
    stays old → stays new

namespace RowPolicy

variable {Row : Type} {old new : Row}

/-- The old row may become the new one. -/
structure Allows (policy : RowPolicy Row) (old new : Row) : Prop where
  permanent : policy.permanent new = policy.permanent old
  settled : ∀ fact, policy.settled old = some fact →
    policy.settled new = some fact

/-- Rows may be changed and deleted. -/
def free : RowPolicy Row where
  Fact := Unit
  stays _ := False
  permanent _ := ()
  settled _ := none
  stays_of_permanent _ gone := gone

/-- Rows stay, with what is permanent, and with what has been settled. -/
def keeping {Permanent Fact : Type} (permanent : Row → Permanent)
    (settled : Row → Option Fact) : RowPolicy Row where
  stays _ := True
  permanent := permanent
  settled := settled
  stays_of_permanent _ _ := trivial

/-- Rows stay as they are. -/
def fixed : RowPolicy Row :=
  keeping id fun _ => (none : Option Unit)

/-- Such rows stay as they are. -/
def fixing (stays : Row → Prop) : RowPolicy Row where
  Fact := Unit
  stays := stays
  permanent := id
  settled _ := none
  stays_of_permanent {old new} same stayed := by
    have unchanged : new = old := same
    rw [unchanged]
    exact stayed

variable {policy : RowPolicy Row}

theorem Allows.refl (row : Row) : policy.Allows row row :=
  ⟨rfl, fun _ isSettled => isSettled⟩

theorem Allows.trans {first second third : Row}
    (start : policy.Allows first second) (rest : policy.Allows second third) :
    policy.Allows first third :=
  ⟨rest.permanent.trans start.permanent, fun fact isSettled =>
    rest.settled fact (start.settled fact isSettled)⟩

theorem not_stays_free {row : Row} : ¬ (free : RowPolicy Row).stays row :=
  not_false

theorem eq_of_allows_fixed (allows : fixed.Allows old new) : new = old :=
  allows.permanent

/-- What the second policy asks for follows from the first. -/
structure Refines (policy weaker : RowPolicy Row) : Prop where
  stays : ∀ row, weaker.stays row → policy.stays row
  allows : ∀ old new, weaker.stays old → policy.Allows old new →
    weaker.Allows old new

theorem Refines.refl : policy.Refines policy :=
  ⟨fun _ stays => stays, fun _ _ _ allows => allows⟩

theorem refines_free : policy.Refines free :=
  ⟨fun _ gone => gone.elim, fun _ _ gone => gone.elim⟩

end RowPolicy

variable {Table : Type} {Row : Table → Type}

/-- Every row that should stay is there, as it may be. -/
def Retains (policy : ∀ name, RowPolicy (Row name))
    (before after : Database Table Row) : Prop :=
  ∀ name id old, before.row name id = some old → (policy name).stays old →
    ∃ new, after.row name id = some new ∧ (policy name).Allows old new

namespace Retains

variable {policy weaker : ∀ name, RowPolicy (Row name)}
variable {first second third : Database Table Row}

theorem refl (db : Database Table Row) : Retains policy db db :=
  fun _ _ old found _ => ⟨old, found, .refl old⟩

theorem trans (start : Retains policy first second)
    (rest : Retains policy second third) : Retains policy first third := by
  intro name id old found stays
  obtain ⟨mid, isMid, toMid⟩ := start name id old found stays
  obtain ⟨new, isNew, toNew⟩ := rest name id mid isMid
    ((policy name).stays_of_permanent toMid.permanent stays)
  exact ⟨new, isNew, toMid.trans toNew⟩

instance : Std.Refl (Retains policy) := ⟨refl⟩

instance : IsTrans (Database Table Row) (Retains policy) :=
  ⟨fun _ _ _ => trans⟩

theorem weaken (retains : Retains policy first second)
    (refines : ∀ name, (policy name).Refines (weaker name)) :
    Retains weaker first second := by
  intro name id old found stays
  obtain ⟨new, isNew, allows⟩ :=
    retains name id old found ((refines name).stays old stays)
  exact ⟨new, isNew, (refines name).allows old new stays allows⟩

/-- Only tables whose rows need not stay have changed. -/
theorem of_sameOutside {tables : List Table}
    (same : SameOutside tables first second)
    (free : ∀ name ∈ tables, ∀ row, ¬ (policy name).stays row) :
    Retains policy first second := by
  intro name id old found stays
  by_cases inside : name ∈ tables
  · exact absurd stays (free name inside old)
  · exact ⟨old, by rw [same.rows name inside, found], .refl old⟩

theorem of_quiet {Entry : Type} (quiet : (view Entry).Quiet first second) :
    Retains policy first second :=
  of_sameOutside (.of_quiet quiet) fun _ none => absurd none List.not_mem_nil

/-- Steps of a loop that follow the policies follow them together. -/
theorem foldl {Item : Type}
    {step : Database Table Row → Item → Database Table Row}
    (steps : ∀ db item, Retains policy db (step db item))
    (items : List Item) (db : Database Table Row) :
    Retains policy db (items.foldl step db) := by
  induction items generalizing db with
  | nil => exact .refl db
  | cons item items ih => exact (steps db item).trans (ih (step db item))

variable [DecidableEq Table] {db : Database Table Row} {name : Table}

theorem reserve : Retains policy db (db.reserve name) :=
  @of_sameOutside _ _ _ _ _ [] .reserve fun _ none =>
    absurd none List.not_mem_nil

/-- A new row takes the place of no other. -/
theorem put {id : Nat} {new : Row name} (absent : db.row name id = none) :
    Retains policy db (db.put name id new) := by
  intro other key old found _
  refine ⟨old, ?_, .refl old⟩
  by_cases same : other = name
  · subst same
    have elsewhere : key ≠ id := by
      rintro rfl
      cases absent.symm.trans found
    rw [row_put_ne elsewhere, found]
  · rw [row_put_of_ne same, found]

/-- The new row of a statement. -/
theorem insert {new : Row name} :
    Retains policy db ((db.reserve name).put name (db.nextId name) new) :=
  reserve.trans (put (by rw [row_reserve, row_nextId]))

theorem modify {id : Nat} {change : Row name → Row name}
    (allowed : ∀ old, db.row name id = some old → (policy name).stays old →
      (policy name).Allows old (change old)) :
    Retains policy db (db.modify name id change) := by
  intro other key old found stays
  by_cases same : other = name
  · subst same
    by_cases here : key = id
    · subst here
      refine ⟨change old, ?_, allowed old found stays⟩
      rw [row_modify_self, found, Option.map_some]
    · exact ⟨old, by rw [row_modify_ne here, found], .refl old⟩
  · exact ⟨old, by rw [row_modify_of_ne same, found], .refl old⟩

/-- Rows that need not stay are deleted. -/
theorem erase {ids : List Nat}
    (free : ∀ id ∈ ids, ∀ old, db.row name id = some old →
      ¬ (policy name).stays old) :
    Retains policy db (db.erase name ids) := by
  intro other key old found stays
  refine ⟨old, ?_, .refl old⟩
  by_cases same : other = name
  · subst same
    by_cases gone : key ∈ ids
    · exact absurd stays (free key gone old found)
    · rw [row_erase_of_notMem gone, found]
  · rw [row_erase_of_ne same, found]

end Retains

end Database

namespace Transaction.System

variable {Call State Key Result : Type} [DecidableEq Call] [DecidableEq Key]
variable {view : View State Key} {invariant : State → Prop}
variable {guarantee : Call → Guarantee State}
variable {system : System Call State Key Result}

/-- What relates the states before and after everything that the guarantees
allow relates the beginning of a run and its end. -/
theorem Sound.related_final (related : State → State → Prop)
    [Std.Refl related] [IsTrans State related]
    (quiet : ∀ before after, view.Quiet before after → related before after)
    (writes : ∀ call before after, (guarantee call).writes before after →
      related before after)
    (commits : ∀ call before after, (guarantee call).commits before after →
      related before after)
    (preserves : Preserves view invariant guarantee)
    (sound : Sound view invariant guarantee system)
    (events : List (Event Call)) :
    related system.state (StepRuns.final System.step system events).state := by
  induction events generalizing system with
  | nil => exact Std.Refl.refl _
  | cons event events ih =>
      obtain ⟨next, change⟩ := sound.step preserves event
      have first : related system.state (system.step event).state := by
        cases change with
        | quiet _ same => exact quiet _ _ same
        | written _ _ wrote => exact writes _ _ _ wrote
        | committed _ committed => exact commits _ _ _ committed
      exact IsTrans.trans _ _ _ first (ih next)

end Transaction.System
