import Baste.KeyedDatabase

/-!
# Frames of databases

What a change leaves alone: the tables besides those that it may write to keep
their rows.  Key generators may advance everywhere.  A property of all rows
survives what leaves the rows alone and what writes rows with the property.
-/

namespace Database

variable {Table : Type} {Row : Table → Type}

/-- Outside the tables, both databases have the same rows, and no key
generator has gone back. -/
structure SameOutside (tables : List Table)
    (before after : Database Table Row) : Prop where
  rows : ∀ name ∉ tables, ∀ id, after.row name id = before.row name id
  grown : ∀ name, before.nextId name ≤ after.nextId name

namespace SameOutside

variable {tables more : List Table}
variable {first second third : Database Table Row}

theorem refl (db : Database Table Row) : SameOutside tables db db where
  rows _ _ _ := rfl
  grown _ := Nat.le_refl _

theorem trans (start : SameOutside tables first second)
    (rest : SameOutside tables second third) :
    SameOutside tables first third where
  rows name outside id :=
    (rest.rows name outside id).trans (start.rows name outside id)
  grown name := (start.grown name).trans (rest.grown name)

theorem mono (same : SameOutside tables first second)
    (subset : tables ⊆ more) : SameOutside more first second where
  rows name outside := same.rows name fun inside => outside (subset inside)
  grown := same.grown

theorem of_quiet {Entry : Type}
    (quiet : (view Entry).Quiet first second) :
    SameOutside tables first second where
  rows name _ id := (quiet_row quiet name id).symm
  grown := quiet.grown

/-- Steps of a loop that leave the tables alone leave them alone together. -/
theorem foldl {Item : Type}
    {step : Database Table Row → Item → Database Table Row}
    (steps : ∀ db item, SameOutside tables db (step db item))
    (items : List Item) (db : Database Table Row) :
    SameOutside tables db (items.foldl step db) := by
  induction items generalizing db with
  | nil => exact .refl db
  | cons item items ih => exact (steps db item).trans (ih (step db item))

/-- A test finds the same rows, whatever the key generators are. -/
theorem idsWhere_eq (same : SameOutside tables first second) {name : Table}
    (outside : name ∉ tables) (test : Row name → Bool) :
    second.idsWhere name test = first.idsWhere name test :=
  KeyedTable.idsWhere_congr (same.rows name outside) test

variable [DecidableEq Table] {db : Database Table Row} {name : Table}

theorem reserve : SameOutside tables db (db.reserve name) where
  rows _ _ _ := row_reserve
  grown _ := nextId_le_reserve

theorem put {id : Nat} {new : Row name} (inside : name ∈ tables) :
    SameOutside tables db (db.put name id new) where
  rows _ outside _ :=
    row_put_of_ne (ne_of_mem_of_not_mem inside outside).symm
  grown _ := nextId_put.ge

theorem modify {id : Nat} {change : Row name → Row name}
    (inside : name ∈ tables) :
    SameOutside tables db (db.modify name id change) where
  rows _ outside _ :=
    row_modify_of_ne (ne_of_mem_of_not_mem inside outside).symm
  grown _ := nextId_modify.ge

theorem erase {ids : List Nat} (inside : name ∈ tables) :
    SameOutside tables db (db.erase name ids) where
  rows _ outside _ :=
    row_erase_of_ne (ne_of_mem_of_not_mem inside outside).symm
  grown _ := nextId_erase.ge

end SameOutside

section Rows

/-- Every row has the property of its table. -/
def AllRows (property : ∀ name, Row name → Prop) (db : Database Table Row) :
    Prop :=
  ∀ name id row, db.row name id = some row → property name row

namespace AllRows

variable {property : ∀ name, Row name → Prop} {db after : Database Table Row}

theorem of_rows (all : AllRows property db)
    (same : ∀ name id, after.row name id = db.row name id) :
    AllRows property after :=
  fun name id row found => all name id row ((same name id).symm.trans found)

/-- In the tables that may change, the property asks for nothing. -/
theorem of_sameOutside {tables : List Table} (all : AllRows property db)
    (same : SameOutside tables db after)
    (free : ∀ name ∈ tables, ∀ row, property name row) :
    AllRows property after := by
  intro name id row found
  by_cases inside : name ∈ tables
  · exact free name inside row
  · rw [same.rows name inside id] at found
    exact all name id row found

variable [DecidableEq Table] {name : Table}

theorem reserve (all : AllRows property db) :
    AllRows property (db.reserve name) :=
  all.of_rows fun _ _ => row_reserve

theorem put {id : Nat} {new : Row name} (all : AllRows property db)
    (holds : property name new) : AllRows property (db.put name id new) := by
  intro other key row found
  by_cases same : other = name
  · subst same
    by_cases here : key = id
    · subst here
      by_cases reserved : key < db.nextId other
      · rw [row_put_self reserved] at found
        cases found
        exact holds
      · have present := lt_nextId_of_row found
        rw [nextId_put] at present
        exact absurd present reserved
    · rw [row_put_ne here] at found
      exact all other key row found
  · rw [row_put_of_ne same] at found
    exact all other key row found

theorem modify {id : Nat} {change : Row name → Row name}
    (all : AllRows property db)
    (kept : ∀ row, property name row → property name (change row)) :
    AllRows property (db.modify name id change) := by
  intro other key row found
  by_cases same : other = name
  · subst same
    rw [row_modify] at found
    split_ifs at found
    · obtain ⟨old, isOld, rfl⟩ := Option.map_eq_some_iff.mp found
      exact kept old (all other key old isOld)
    · exact all other key row found
  · rw [row_modify_of_ne same] at found
    exact all other key row found

theorem erase {ids : List Nat} (all : AllRows property db) :
    AllRows property (db.erase name ids) := by
  intro other key row found
  by_cases same : other = name
  · subst same
    by_cases gone : key ∈ ids
    · rw [row_erase_of_mem gone] at found
      cases found
    · rw [row_erase_of_notMem gone] at found
      exact all other key row found
  · rw [row_erase_of_ne same] at found
    exact all other key row found

end AllRows

end Rows

end Database
