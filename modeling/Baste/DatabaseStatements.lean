import Baste.CallHistories
import Baste.KeyedDatabase

/-!
# Statements on databases of keyed tables

The updates, deletions and insertions that programs over a database are made
of.  Each statement comes with its effect when its program runs alone and with
the rule for checking it among other calls, outside and inside a transaction.

An insertion takes the next id of its table, locks the new row and the entries
of the unique indexes it adds, and is refused when the constraints of the
table are not met.
-/

namespace Database

open Transaction

variable {Table Entry Result : Type} {Row : Table → Type} [DecidableEq Table]

/-- Update the row with the given id. -/
def updateRow (name : Table) (id : Nat) (change : Row name → Row name)
    (next : Program (Database Table Row) (Key Table Entry) Result) :
    Program (Database Table Row) (Key Table Entry) Result :=
  .write (fun _ => [.row name id]) (fun _ db => db.modify name id change) next

/-- Delete the rows with the ids found. -/
def deleteRows (name : Table) (ids : Database Table Row → List Nat)
    (next : Program (Database Table Row) (Key Table Entry) Result) :
    Program (Database Table Row) (Key Table Entry) Result :=
  .write (fun db => (ids db).map (.row name))
    (fun db later => later.erase name (ids db)) next

/-- Insert a row, and continue with its id if the constraints allow it. -/
def insertRow (name : Table) (entries : List Entry)
    (allowed : Database Table Row → Bool) (new : Row name)
    (next : Option Nat → Program (Database Table Row) (Key Table Entry) Result) :
    Program (Database Table Row) (Key Table Entry) Result :=
  .statement
    (fun db =>
      { rows := .row name (db.nextId name) :: entries.map .entry
        reserve := (·.reserve name)
        effect := fun later =>
          if allowed db then later.put name (db.nextId name) new else later })
    fun db => next (if allowed db then some (db.nextId name) else none)

section Alone

variable {name : Table} {id : Nat} {change : Row name → Row name}
variable {ids : Database Table Row → List Nat} {entries : List Entry}
variable {allowed : Database Table Row → Bool} {new : Row name}
variable {next : Program (Database Table Row) (Key Table Entry) Result}
variable {inserted : Option Nat →
  Program (Database Table Row) (Key Table Entry) Result}
variable {db : Database Table Row}
variable {pending : Database Table Row → Database Table Row}

@[simp]
theorem runAlone_updateRow :
    (updateRow name id change next).runAlone none db =
      next.runAlone none (db.modify name id change) :=
  rfl

@[simp]
theorem runAlone_updateRow_pending :
    (updateRow name id change next).runAlone (some pending) db =
      next.runAlone
        (some fun later => (pending later).modify name id change) db :=
  rfl

@[simp]
theorem runAlone_deleteRows :
    (deleteRows name ids next).runAlone none db =
      next.runAlone none (db.erase name (ids db)) :=
  rfl

theorem runAlone_insertRow (accepted : allowed db) :
    (insertRow name entries allowed new inserted).runAlone none db =
      (inserted (some (db.nextId name))).runAlone none
        ((db.reserve name).put name (db.nextId name) new) := by
  simp [insertRow, Program.runAlone, accepted]

theorem runAlone_insertRow_refused (refused : ¬ allowed db) :
    (insertRow name entries allowed new inserted).runAlone none db =
      (inserted none).runAlone none (db.reserve name) := by
  simp [insertRow, Program.runAlone, refused]

theorem runAlone_insertRow_pending (accepted : allowed (pending db)) :
    (insertRow name entries allowed new inserted).runAlone (some pending) db =
      (inserted (some ((pending db).nextId name))).runAlone
        (some fun later =>
          (pending later).put name ((pending db).nextId name) new)
        (db.reserve name) := by
  simp [insertRow, Program.runAlone, accepted]

theorem runAlone_insertRow_pending_refused (refused : ¬ allowed (pending db)) :
    (insertRow name entries allowed new inserted).runAlone (some pending) db =
      (inserted none).runAlone (some pending) (db.reserve name) := by
  simp [insertRow, Program.runAlone, refused]

end Alone

section Rules

variable {invariant : Database Table Row → Prop}
variable {guarantee : Guarantee (Database Table Row)}
variable {held : List (Key Table Entry)} {state : Database Table Row}
variable {name : Table} {id : Nat} {change : Row name → Row name}
variable {ids : Database Table Row → List Nat} {entries : List Entry}
variable {allowed : Database Table Row → Bool} {new : Row name}
variable {next : Program (Database Table Row) (Key Table Entry) Result}
variable {inserted : Option Nat →
  Program (Database Table Row) (Key Table Entry) Result}
variable {pending : Database Table Row → Database Table Row}

theorem safe_update
    (safe : ∀ now, (view Entry).Rely held state now → invariant now →
      guarantee.writes now (now.modify name id change) ∧
      next.Safe (view Entry) invariant guarantee none held
        (now.modify name id change)) :
    (updateRow name id change next).Safe (view Entry) invariant guarantee none
      held state := by
  intro now relies holds
  obtain ⟨writes, rest⟩ := safe now relies holds
  exact ⟨.inr ⟨frame_modify (.refl now) (by simp) change, writes⟩, rest⟩

theorem checks_update_pending
    {checked : Program (Database Table Row) (Key Table Entry) Result →
      (Database Table Row → Database Table Row) → List (Key Table Entry) →
        Database Table Row → Prop}
    (rules : Program.ChecksPending (view Entry) invariant checked)
    (rest : ∀ now, (view Entry).Rely held state now → invariant now →
      checked next (fun later => (pending later).modify name id change)
        (.row name id :: held) now) :
    checked (updateRow name id change next) pending held state :=
  rules.statement fun now relies holds =>
    ⟨.refl now, rest now relies holds⟩

theorem safe_update_pending
    (safe : ∀ now, (view Entry).Rely held state now → invariant now →
      next.Safe (view Entry) invariant guarantee
        (some fun later => (pending later).modify name id change)
        (.row name id :: held) now) :
    (updateRow name id change next).Safe (view Entry) invariant guarantee
      (some pending) held state :=
  checks_update_pending Program.Safe.checksPending safe

theorem safe_delete
    (safe : ∀ now, (view Entry).Rely held state now → invariant now →
      guarantee.writes now (now.erase name (ids now)) ∧
      next.Safe (view Entry) invariant guarantee none held
        (now.erase name (ids now))) :
    (deleteRows name ids next).Safe (view Entry) invariant guarantee none held
      state := by
  intro now relies holds
  obtain ⟨writes, rest⟩ := safe now relies holds
  refine ⟨.inr ⟨frame_erase (.refl now) fun id member => ?_, writes⟩, rest⟩
  exact List.mem_map_of_mem member

theorem safe_insert
    (accepted : ∀ now, (view Entry).Rely held state now → invariant now →
      allowed now = true →
      guarantee.writes now
        ((now.reserve name).put name (now.nextId name) new) ∧
      (inserted (some (now.nextId name))).Safe (view Entry) invariant
        guarantee none held
        ((now.reserve name).put name (now.nextId name) new))
    (refused : ∀ now, (inserted none).Safe (view Entry) invariant guarantee
      none held now) :
    (insertRow name entries allowed new inserted).Safe (view Entry) invariant
      guarantee none held state := by
  intro now relies holds
  by_cases isAllowed : allowed now = true
  · obtain ⟨writes, rest⟩ := accepted now relies holds isAllowed
    simp only [isAllowed, if_true]
    refine ⟨.inr ⟨?_, writes⟩, rest⟩
    exact frame_put ((quiet_reserve now).mono fun _ _ => trivial)
      (by simp) new
  · simp only [isAllowed]
    exact ⟨.inl (quiet_reserve now), refused _⟩

/-- An insertion inside a transaction leaves the committed state as it is; the
id it has reserved stays unused by others. -/
theorem checks_insert_pending
    {checked : Program (Database Table Row) (Key Table Entry) Result →
      (Database Table Row → Database Table Row) → List (Key Table Entry) →
        Database Table Row → Prop}
    (rules : Program.ChecksPending (view Entry) invariant checked)
    (accepted : ∀ now, (view Entry).Rely held state now → invariant now →
      allowed (pending now) = true →
      checked (inserted (some ((pending now).nextId name)))
        (fun later =>
          (pending later).put name ((pending now).nextId name) new)
        (.row name ((pending now).nextId name) ::
          (entries.map .entry ++ held))
        (now.reserve name))
    (refused : ∀ locks now, checked (inserted none) pending locks now) :
    checked (insertRow name entries allowed new inserted) pending held
      state := by
  apply rules.statement
  intro now relies holds
  by_cases isAllowed : allowed (pending now) = true
  · simp only [isAllowed, if_true]
    exact ⟨quiet_reserve now, accepted now relies holds isAllowed⟩
  · simp only [isAllowed]
    exact ⟨quiet_reserve now, refused _ _⟩

theorem safe_insert_pending
    (accepted : ∀ now, (view Entry).Rely held state now → invariant now →
      allowed (pending now) = true →
      (inserted (some ((pending now).nextId name))).Safe (view Entry)
        invariant guarantee
        (some fun later =>
          (pending later).put name ((pending now).nextId name) new)
        (.row name ((pending now).nextId name) ::
          (entries.map .entry ++ held))
        (now.reserve name))
    (refused : ∀ locks now, (inserted none).Safe (view Entry) invariant
      guarantee (some pending) locks now) :
    (insertRow name entries allowed new inserted).Safe (view Entry) invariant
      guarantee (some pending) held state :=
  checks_insert_pending Program.Safe.checksPending accepted refused

end Rules

section Histories

variable {environment : Environment (@view Table Row Entry)}
variable {allowed : Database Table Row →
  List (Recorded (Database Table Row) (Key Table Entry)) →
    Option Result → Prop}
variable {held : List (Key Table Entry)} {state : Database Table Row}
variable {past : List (Recorded (Database Table Row) (Key Table Entry))}
variable {name : Table} {id : Nat} {change : Row name → Row name}
variable {entries : List Entry} {insertable : Database Table Row → Bool}
variable {new : Row name}
variable {next : Program (Database Table Row) (Key Table Entry) Result}
variable {inserted : Option Nat →
  Program (Database Table Row) (Key Table Entry) Result}

theorem leads_update (soFar : allowed state past none)
    (leads : ∀ now, environment.Relies held state now →
      environment.stable now (now.modify name id change) →
      environment.invariant (now.modify name id change) ∧
      next.Leads environment allowed none held (now.modify name id change)
        (past ++ [⟨now, now.modify name id change, [.row name id]⟩])) :
    (updateRow name id change next).Leads environment allowed none held state
      past := by
  refine ⟨soFar, fun now relies => ?_⟩
  dsimp only
  rw [if_neg (by simp)]
  exact ⟨frame_modify (.refl now) (by simp) change, leads now relies⟩

theorem leads_insert (soFar : allowed state past none)
    (accepted : ∀ now, environment.Relies held state now →
      insertable now = true →
      environment.stable now
        ((now.reserve name).put name (now.nextId name) new) →
      environment.invariant
        ((now.reserve name).put name (now.nextId name) new) ∧
      (inserted (some (now.nextId name))).Leads environment allowed none held
        ((now.reserve name).put name (now.nextId name) new)
        (past ++ [⟨now, (now.reserve name).put name (now.nextId name) new,
          .row name (now.nextId name) :: entries.map .entry⟩]))
    (refused : ∀ now, environment.Relies held state now →
      insertable now = false →
      (inserted none).Leads environment allowed none held
        (now.reserve name) (past ++ [⟨now, now.reserve name,
          .row name (now.nextId name) :: entries.map .entry⟩])) :
    (insertRow name entries insertable new inserted).Leads environment allowed
      none held state past := by
  refine ⟨soFar, fun now relies => ?_⟩
  dsimp only
  rw [if_neg (by simp)]
  by_cases isAllowed : insertable now = true
  · have rest := accepted now relies isAllowed
    simp only [isAllowed, if_true]
    refine ⟨?_, rest⟩
    exact frame_put ((quiet_reserve now).mono fun _ _ => trivial)
      (by simp) new
  · have rest := refused now relies (by simpa using isAllowed)
    simp only [isAllowed]
    refine ⟨(quiet_reserve now).mono fun _ _ => trivial, fun _ => ⟨?_, rest⟩⟩
    exact environment.invariant_of_quiet relies.holds (quiet_reserve now)

end Histories

end Database
