import Baste.KeyedTable
import Baste.TransactionSafety

/-!
# Databases of keyed tables

A database has a keyed table for each of its table names.  This file gives the
row operations on a database, the division of a database into rows and unique
index entries that statements lock, the statements themselves, and for each of
them what it does when it runs alone and what has to be checked when it runs
among other calls.
-/

/-- A keyed table under each table name. -/
structure Database (Table : Type) (Row : Table → Type) where
  table : (name : Table) → KeyedTable (Row name)

namespace Database

variable {Table : Type} {Row : Table → Type}

/-- The row with the given id. -/
def row (db : Database Table Row) (name : Table) (id : Nat) :
    Option (Row name) :=
  (db.table name).row id

/-- The id that the next inserted row will get. -/
def nextId (db : Database Table Row) (name : Table) : Nat :=
  (db.table name).nextId

/-- The ids of the rows that pass a test, in increasing order. -/
def idsWhere (db : Database Table Row) (name : Table)
    (test : Row name → Bool) : List Nat :=
  (db.table name).idsWhere test

/-- The total of a value over all rows of a table. -/
def total {Total : Type} [AddCommMonoid Total] (db : Database Table Row)
    (name : Table) (value : Row name → Total) : Total :=
  (db.table name).total value

/-- The number of rows of a table that pass a test. -/
def count (db : Database Table Row) (name : Table) (test : Row name → Bool) :
    Nat :=
  db.total name fun row => if test row then 1 else 0

/-- The id has been handed out, and no row is stored under it. -/
def Reserved (db : Database Table Row) (name : Table) (id : Nat) : Prop :=
  db.row name id = none ∧ id < db.nextId name

/-- The row has been found in a state that satisfies the invariant. -/
def Seen (invariant : Database Table Row → Prop) (name : Table) (id : Nat)
    (found : Row name) : Prop :=
  ∃ past : Database Table Row, invariant past ∧ past.row name id = some found

section Reading

variable {db : Database Table Row} {name : Table} {id : Nat}

theorem row_nextId : db.row name (db.nextId name) = none :=
  (db.table name).row_nextId

theorem lt_nextId_of_row {found : Row name}
    (present : db.row name id = some found) : id < db.nextId name :=
  (db.table name).lt_nextId_of_row present

theorem mem_idsWhere {test : Row name → Bool} :
    id ∈ db.idsWhere name test ↔
      ∃ found, db.row name id = some found ∧ test found = true :=
  (db.table name).mem_idsWhere

/-- Totals depend on the rows only. -/
theorem total_congr {Total : Type} [AddCommMonoid Total]
    {first second : Database Table Row} (value : Row name → Total)
    (sameRows : ∀ id, first.row name id = second.row name id) :
    first.total name value = second.total name value :=
  KeyedTable.total_congr value sameRows

/-- Rows that pass one test pass the other, perhaps in a later database. -/
theorem count_le_count {first second : Database Table Row}
    {test otherTest : Row name → Bool}
    (implies : ∀ id found, first.row name id = some found →
      test found = true → ∃ later, second.row name id = some later ∧
        otherTest later = true) :
    first.count name test ≤ second.count name otherTest := by
  apply KeyedTable.total_le_total
  intro id
  change (first.row name id).elim 0 _ ≤ (second.row name id).elim 0 _
  cases found : first.row name id with
  | none => exact Nat.zero_le _
  | some row =>
      by_cases passes : test row = true
      · obtain ⟨later, foundLater, passesLater⟩ := implies id row found passes
        simp [foundLater, passes, passesLater]
      · simp [passes]

/-- Rows that pass a test are no more than those that are counted. -/
theorem card_le_count {test : Row name → Bool} {ids : Finset Nat}
    (pass : ∀ id ∈ ids, ∃ found, db.row name id = some found ∧
      test found = true) :
    ids.card ≤ db.count name test := by
  have used : ids ⊆ Finset.range (db.nextId name) := by
    intro id member
    obtain ⟨found, row, -⟩ := pass id member
    exact Finset.mem_range.mpr (lt_nextId_of_row row)
  have ones : ids.card = ∑ id ∈ ids,
      (db.row name id).elim 0 fun found => if test found then 1 else 0 := by
    rw [Finset.card_eq_sum_ones]
    refine Finset.sum_congr rfl fun id member => ?_
    obtain ⟨found, row, passes⟩ := pass id member
    simp [row, passes]
  rw [ones]
  exact Finset.sum_le_sum_of_subset used

end Reading

section Operations

variable [DecidableEq Table] (db : Database Table Row) (name : Table)

/-- Change one table. -/
def on (change : KeyedTable (Row name) → KeyedTable (Row name)) :
    Database Table Row :=
  ⟨Function.update db.table name (change (db.table name))⟩

/-- Advance the key generator of a table. -/
def reserve : Database Table Row :=
  db.on name .reserve

/-- Store a row under a reserved id. -/
def put (id : Nat) (new : Row name) : Database Table Row :=
  db.on name (·.put id new)

/-- Change the row with the given id, if there is one. -/
def modify (id : Nat) (change : Row name → Row name) : Database Table Row :=
  db.on name (·.modify id change)

/-- Delete the rows with the given ids. -/
def erase (ids : List Nat) : Database Table Row :=
  db.on name (·.erase ids)

variable {db} {name} {other : Table}

@[simp]
theorem table_on_self
    (change : KeyedTable (Row name) → KeyedTable (Row name)) :
    (db.on name change).table name = change (db.table name) :=
  Function.update_self _ _ _

theorem table_on_ne (different : other ≠ name)
    (change : KeyedTable (Row name) → KeyedTable (Row name)) :
    (db.on name change).table other = db.table other :=
  Function.update_of_ne different _ _

end Operations

section Rows

variable [DecidableEq Table] {db : Database Table Row} {name other : Table}
variable {id key : Nat} {ids : List Nat} {new : Row name}
variable {change : Row name → Row name}

theorem row_on_ne (different : other ≠ name)
    (change : KeyedTable (Row name) → KeyedTable (Row name)) :
    (db.on name change).row other key = db.row other key := by
  rw [row, table_on_ne different, row]

theorem nextId_on_ne (different : other ≠ name)
    (change : KeyedTable (Row name) → KeyedTable (Row name)) :
    (db.on name change).nextId other = db.nextId other := by
  rw [nextId, table_on_ne different, nextId]

@[simp]
theorem row_reserve : (db.reserve name).row other key = db.row other key := by
  by_cases same : other = name
  · subst same
    simp [row, reserve]
  · exact row_on_ne same _

@[simp]
theorem row_put_of_ne (different : other ≠ name) :
    (db.put name id new).row other key = db.row other key :=
  row_on_ne different _

@[simp]
theorem row_modify_of_ne (different : other ≠ name) :
    (db.modify name id change).row other key = db.row other key :=
  row_on_ne different _

@[simp]
theorem row_erase_of_ne (different : other ≠ name) :
    (db.erase name ids).row other key = db.row other key :=
  row_on_ne different _

theorem row_put_self (reserved : id < db.nextId name) :
    (db.put name id new).row name id = some new := by
  simpa [row, put] using (db.table name).row_put_self reserved new

theorem row_put_ne (elsewhere : key ≠ id) :
    (db.put name id new).row name key = db.row name key := by
  simpa [row, put] using (db.table name).row_put_ne elsewhere new

@[simp]
theorem row_modify_self :
    (db.modify name id change).row name id = (db.row name id).map change := by
  simp [row, modify]

theorem row_modify_ne (elsewhere : key ≠ id) :
    (db.modify name id change).row name key = db.row name key := by
  simpa [row, modify] using (db.table name).row_modify_ne elsewhere change

theorem row_erase_of_mem (deleted : key ∈ ids) :
    (db.erase name ids).row name key = none := by
  simpa [row, erase] using (db.table name).row_erase_of_mem deleted

theorem row_erase_of_notMem (kept : key ∉ ids) :
    (db.erase name ids).row name key = db.row name key := by
  simpa [row, erase] using (db.table name).row_erase_of_notMem kept

/-- A row after one row has been changed. -/
theorem row_modify :
    (db.modify name id change).row name key =
      if key = id then (db.row name key).map change else db.row name key := by
  by_cases same : key = id
  · subst same
    simp
  · rw [if_neg same, row_modify_ne same]

@[simp]
theorem nextId_reserve_self :
    (db.reserve name).nextId name = db.nextId name + 1 := by
  simp [nextId, reserve]

theorem nextId_le_reserve :
    db.nextId other ≤ (db.reserve name).nextId other := by
  by_cases same : other = name
  · subst same
    simp
  · exact (nextId_on_ne same _).symm.le

@[simp]
theorem nextId_put : (db.put name id new).nextId other = db.nextId other := by
  by_cases same : other = name
  · subst same
    simp [nextId, put]
  · exact nextId_on_ne same _

@[simp]
theorem nextId_modify :
    (db.modify name id change).nextId other = db.nextId other := by
  by_cases same : other = name
  · subst same
    simp [nextId, modify]
  · exact nextId_on_ne same _

@[simp]
theorem nextId_erase : (db.erase name ids).nextId other = db.nextId other := by
  by_cases same : other = name
  · subst same
    simp [nextId, erase]
  · exact nextId_on_ne same _

/-- Changing a row that is not there changes nothing. -/
theorem row_modify_absent (absent : db.row name id = none) :
    (db.modify name id change).row other key = db.row other key := by
  by_cases same : other = name
  · subst same
    rw [row_modify]
    split_ifs with sameKey
    · subst sameKey
      simp [absent]
    · rfl
  · exact row_modify_of_ne same

end Rows

section Totals

variable [DecidableEq Table] {db : Database Table Row} {name other : Table}
variable {Total : Type} [AddCommMonoid Total]
variable {id : Nat} {ids : List Nat} {new : Row name}
variable {change : Row name → Row name}

@[simp]
theorem total_reserve (value : Row other → Total) :
    (db.reserve name).total other value = db.total other value :=
  total_congr value fun _ => row_reserve

@[simp]
theorem total_put_of_ne (different : other ≠ name) (value : Row other → Total) :
    (db.put name id new).total other value = db.total other value :=
  total_congr value fun _ => row_put_of_ne different

@[simp]
theorem total_modify_of_ne (different : other ≠ name)
    (value : Row other → Total) :
    (db.modify name id change).total other value = db.total other value :=
  total_congr value fun _ => row_modify_of_ne different

@[simp]
theorem total_erase_of_ne (different : other ≠ name)
    (value : Row other → Total) :
    (db.erase name ids).total other value = db.total other value :=
  total_congr value fun _ => row_erase_of_ne different

/-- Filling a reserved id adds the value of the new row. -/
theorem total_put (reserved : db.Reserved name id)
    (value : Row name → Total) :
    (db.put name id new).total name value =
      db.total name value + value new := by
  simpa [total, put] using
    (db.table name).total_put value reserved.2 reserved.1 new

/-- Changing one row replaces its value in the total. -/
theorem total_modify {old : Row name} (present : db.row name id = some old)
    (change : Row name → Row name) (value : Row name → Total) :
    (db.modify name id change).total name value + value old =
      db.total name value + value (change old) := by
  simpa [total, modify] using (db.table name).total_modify value present change

/-- Changing a row in a way that keeps its value keeps the total. -/
theorem total_modify_of_value_eq (value : Row name → Total)
    (keeps : ∀ old, db.row name id = some old →
      value (change old) = value old) :
    (db.modify name id change).total name value = db.total name value := by
  simpa [total, modify] using
    (db.table name).total_modify_of_value_eq value keeps

end Totals

/-- What a statement locks: a row, or an entry of a unique index. -/
inductive Key (Table Entry : Type) where
  | row (name : Table) (id : Nat)
  | entry (value : Entry)
  deriving DecidableEq

variable (Entry : Type)

/-- A database as a collection of rows and key generators.  Index entries are
locks without content. -/
def view : Transaction.View (Database Table Row) (Key Table Entry) where
  Cell
    | .row name _ => Option (Row name)
    | .entry _ => Unit
  cell
    | .row name id => fun db => db.row name id
    | .entry _ => fun _ => ()
  Generator := Table
  nextId name db := db.nextId name

variable {Entry}

section Frames

open Transaction

variable {before mid after : Database Table Row}
variable {held : List (Key Table Entry)} {name : Table} {id : Nat}

theorem rely_row (relies : (view Entry).Rely held before after)
    (member : .row name id ∈ held) :
    before.row name id = after.row name id :=
  relies.cell_eq (.row name id) member

theorem rely_nextId (relies : (view Entry).Rely held before after) :
    before.nextId name ≤ after.nextId name :=
  relies.grown name

/-- A reserved id whose key is locked stays reserved. -/
theorem rely_reserved (relies : (view Entry).Rely held before after)
    (member : .row name id ∈ held) (reserved : before.Reserved name id) :
    after.Reserved name id :=
  ⟨(rely_row relies member).symm.trans reserved.1,
    reserved.2.trans_le (rely_nextId relies)⟩

theorem quiet_row (quiet : (view Entry).Quiet before after)
    (name : Table) (id : Nat) : before.row name id = after.row name id :=
  quiet.cell_eq (.row name id) trivial

variable [DecidableEq Table]

theorem reserved_reserve (db : Database Table Row) (name : Table) :
    (db.reserve name).Reserved name (db.nextId name) :=
  ⟨row_reserve.trans row_nextId, by simp⟩

theorem quiet_reserve (db : Database Table Row) :
    (view Entry).Quiet db (db.reserve name) where
  cell_eq
    | .row _ _, _ => row_reserve.symm
    | .entry _, _ => rfl
  grown _ := nextId_le_reserve

theorem frame_put (frame : (view Entry).Frame held before mid)
    (member : .row name id ∈ held) (new : Row name) :
    (view Entry).Frame held before (mid.put name id new) := by
  refine frame.trans ⟨?_, fun _ => nextId_put.ge⟩
  rintro (⟨other, key⟩ | entry) free
  · by_cases same : other = name
    · subst same
      refine (row_put_ne fun sameKey => free ?_).symm
      exact sameKey ▸ member
    · exact (row_put_of_ne same).symm
  · rfl

theorem frame_modify (frame : (view Entry).Frame held before mid)
    (member : .row name id ∈ held) (change : Row name → Row name) :
    (view Entry).Frame held before (mid.modify name id change) := by
  refine frame.trans ⟨?_, fun _ => nextId_modify.ge⟩
  rintro (⟨other, key⟩ | entry) free
  · by_cases same : other = name
    · subst same
      refine (row_modify_ne fun sameKey => free ?_).symm
      exact sameKey ▸ member
    · exact (row_modify_of_ne same).symm
  · rfl

theorem frame_erase (frame : (view Entry).Frame held before mid)
    {ids : List Nat} (members : ∀ id ∈ ids, .row name id ∈ held) :
    (view Entry).Frame held before (mid.erase name ids) := by
  refine frame.trans ⟨?_, fun _ => nextId_erase.ge⟩
  rintro (⟨other, key⟩ | entry) free
  · by_cases same : other = name
    · subst same
      exact (row_erase_of_notMem fun deleted =>
        free (members key deleted)).symm
    · exact (row_erase_of_ne same).symm
  · rfl

end Frames

end Database
