import Mathlib.Algebra.BigOperators.Group.Finset.Basic
import Mathlib.Algebra.Order.BigOperators.Group.Finset
import Mathlib.Data.List.Range
import Mathlib.Tactic.Abel

/-!
# Tables with a generated primary key

A table assigns a row to finitely many ids and remembers the next id its
counter will hand out.  Ids are unique by construction, and the bound on the
used ids is a field of the table, so that every listing and every total is a
finite computation over the ids below the counter.

The counter and the rows move separately: `reserve` only advances the counter,
and `put` fills an id that was reserved earlier.
-/

/-- Rows keyed by an id, together with the next id of the key generator. -/
structure KeyedTable (Row : Type*) where
  row : Nat → Option Row
  nextId : Nat
  row_of_nextId_le : ∀ id, nextId ≤ id → row id = none

namespace KeyedTable

variable {Row : Type*}

/-- The table whose rows are the listed ones, numbered from one. -/
def ofRows (rows : List Row) : KeyedTable Row where
  row id := if id = 0 then none else rows[id - 1]?
  nextId := rows.length + 1
  row_of_nextId_le := by
    intro id bound
    rw [if_neg (by omega)]
    exact List.getElem?_eq_none (by omega)

theorem mem_of_row_ofRows {rows : List Row} {id : Nat} {row : Row}
    (found : (ofRows rows).row id = some row) : row ∈ rows := by
  change (if id = 0 then none else rows[id - 1]?) = some row at found
  split_ifs at found
  exact List.mem_of_getElem? found

/-- Advance the key generator. -/
def reserve (table : KeyedTable Row) : KeyedTable Row where
  row := table.row
  nextId := table.nextId + 1
  row_of_nextId_le id bound :=
    table.row_of_nextId_le id (Nat.le_of_succ_le bound)

/-- Store a row under a reserved id. -/
def put (table : KeyedTable Row) (id : Nat) (new : Row) : KeyedTable Row where
  row key := if key = id ∧ id < table.nextId then some new else table.row key
  nextId := table.nextId
  row_of_nextId_le := by
    intro key bound
    rw [if_neg (by omega)]
    exact table.row_of_nextId_le key bound

/-- Change the row with the given id, if there is one. -/
def modify (table : KeyedTable Row) (id : Nat) (change : Row → Row) :
    KeyedTable Row where
  row key := if key = id then (table.row key).map change else table.row key
  nextId := table.nextId
  row_of_nextId_le := by
    intro key bound
    simp [table.row_of_nextId_le key bound]

/-- Delete the rows with the given ids. -/
def erase (table : KeyedTable Row) (ids : List Nat) : KeyedTable Row where
  row key := if key ∈ ids then none else table.row key
  nextId := table.nextId
  row_of_nextId_le := by
    intro key bound
    simp [table.row_of_nextId_le key bound]

/-- The ids of the rows that pass a test, in increasing order. -/
def idsWhere (table : KeyedTable Row) (test : Row → Bool) : List Nat :=
  (List.range table.nextId).filter fun id => (table.row id).any test

/-- The total of a value over all rows. -/
def total {Total : Type*} [AddCommMonoid Total] (table : KeyedTable Row)
    (value : Row → Total) : Total :=
  ∑ id ∈ Finset.range table.nextId, (table.row id).elim 0 value

section Rows

variable (table : KeyedTable Row)

@[simp]
theorem row_nextId : table.row table.nextId = none :=
  table.row_of_nextId_le _ le_rfl

theorem lt_nextId_of_row {id : Nat} {found : Row}
    (present : table.row id = some found) : id < table.nextId := by
  by_contra beyond
  rw [table.row_of_nextId_le id (Nat.le_of_not_lt beyond)] at present
  simp at present

@[simp]
theorem row_reserve : table.reserve.row = table.row :=
  rfl

@[simp]
theorem nextId_reserve : table.reserve.nextId = table.nextId + 1 :=
  rfl

@[simp]
theorem nextId_put (id : Nat) (new : Row) :
    (table.put id new).nextId = table.nextId :=
  rfl

@[simp]
theorem nextId_modify (id : Nat) (change : Row → Row) :
    (table.modify id change).nextId = table.nextId :=
  rfl

@[simp]
theorem nextId_erase (ids : List Nat) :
    (table.erase ids).nextId = table.nextId :=
  rfl

theorem row_put_self {id : Nat} (reserved : id < table.nextId) (new : Row) :
    (table.put id new).row id = some new := by
  simp [put, reserved]

theorem row_put_ne {id key : Nat} (other : key ≠ id) (new : Row) :
    (table.put id new).row key = table.row key := by
  simp [put, other]

@[simp]
theorem row_modify_self (id : Nat) (change : Row → Row) :
    (table.modify id change).row id = (table.row id).map change := by
  simp [modify]

theorem row_modify_ne {id key : Nat} (other : key ≠ id)
    (change : Row → Row) :
    (table.modify id change).row key = table.row key := by
  simp [modify, other]

theorem row_erase_of_mem {ids : List Nat} {key : Nat} (deleted : key ∈ ids) :
    (table.erase ids).row key = none := by
  simp [erase, deleted]

theorem row_erase_of_notMem {ids : List Nat} {key : Nat}
    (kept : key ∉ ids) : (table.erase ids).row key = table.row key := by
  simp [erase, kept]

theorem mem_idsWhere {test : Row → Bool} {id : Nat} :
    id ∈ table.idsWhere test ↔
      ∃ found, table.row id = some found ∧ test found = true := by
  constructor
  · intro member
    obtain ⟨_, passes⟩ := List.mem_filter.mp member
    exact Option.any_eq_true _ _ |>.mp passes
  · rintro ⟨found, present, passes⟩
    refine List.mem_filter.mpr
      ⟨List.mem_range.mpr (table.lt_nextId_of_row present), ?_⟩
    simp [present, passes]

theorem idsWhere_eq_of_le {other : KeyedTable Row}
    (rows : ∀ id, other.row id = table.row id)
    (le : table.nextId ≤ other.nextId) (test : Row → Bool) :
    other.idsWhere test = table.idsWhere test := by
  obtain ⟨more, grown⟩ := Nat.exists_eq_add_of_le le
  have beyond : ((List.range more).map (table.nextId + ·)).filter
      (fun id => (table.row id).any test) = [] := by
    rw [List.filter_eq_nil_iff]
    intro id member
    obtain ⟨offset, -, rfl⟩ := List.mem_map.mp member
    rw [table.row_of_nextId_le _ (Nat.le_add_right _ _)]
    simp
  simp only [idsWhere, grown, rows, List.range_add, List.filter_append]
  rw [beyond, List.append_nil]

/-- The rows that pass a test do not depend on the key generator. -/
theorem idsWhere_congr {table other : KeyedTable Row}
    (rows : ∀ id, other.row id = table.row id) (test : Row → Bool) :
    other.idsWhere test = table.idsWhere test := by
  rcases Nat.le_total table.nextId other.nextId with le | le
  · exact table.idsWhere_eq_of_le rows le test
  · exact (other.idsWhere_eq_of_le (fun id => (rows id).symm) le test).symm

theorem idsWhere_nodup (test : Row → Bool) : (table.idsWhere test).Nodup :=
  List.nodup_range.filter _

end Rows

section Totals

variable {Total : Type*} [AddCommMonoid Total]
variable (table : KeyedTable Row) (value : Row → Total)

/-- A total may be taken over any range that covers the used ids. -/
theorem total_eq_sum_range {bound : Nat} (covers : table.nextId ≤ bound) :
    table.total value =
      ∑ id ∈ Finset.range bound, (table.row id).elim 0 value := by
  refine Finset.sum_subset (Finset.range_mono covers) ?_
  intro id _ unused
  have beyond : table.nextId ≤ id := by
    simpa using unused
  simp [table.row_of_nextId_le id beyond]

/-- Totals depend on the rows only, not on the key generator. -/
theorem total_congr {table other : KeyedTable Row}
    (sameRows : ∀ id, table.row id = other.row id) :
    table.total value = other.total value := by
  let bound := max table.nextId other.nextId
  rw [table.total_eq_sum_range value (le_max_left _ other.nextId),
    other.total_eq_sum_range value (le_max_right table.nextId _)]
  exact Finset.sum_congr rfl fun id _ => by rw [sameRows id]

/-- A total is monotone in the values of the ids. -/
theorem total_le_total [PartialOrder Total] [IsOrderedAddMonoid Total]
    {table other : KeyedTable Row} {value otherValue : Row → Total}
    (le : ∀ id, (table.row id).elim 0 value ≤
      (other.row id).elim 0 otherValue) :
    table.total value ≤ other.total otherValue := by
  let bound := max table.nextId other.nextId
  rw [table.total_eq_sum_range value (le_max_left _ other.nextId),
    other.total_eq_sum_range otherValue (le_max_right table.nextId _)]
  exact Finset.sum_le_sum fun id _ => le id

/-- Two tables that agree away from one id have totals that differ by the
rows under that id. -/
theorem total_change (table other : KeyedTable Row) (id : Nat)
    (elsewhere : ∀ key, key ≠ id → other.row key = table.row key) :
    other.total value + (table.row id).elim 0 value =
      table.total value + (other.row id).elim 0 value := by
  let bound := max (id + 1) (max table.nextId other.nextId)
  have idMem : id ∈ Finset.range bound := by
    simp [bound]
  have tableCovered : table.nextId ≤ bound := by
    simp [bound]
  have otherCovered : other.nextId ≤ bound := by
    simp [bound]
  rw [table.total_eq_sum_range value tableCovered,
    other.total_eq_sum_range value otherCovered,
    ← Finset.add_sum_erase _ _ idMem, ← Finset.add_sum_erase _ _ idMem]
  have rest :
      ∑ key ∈ (Finset.range bound).erase id, (other.row key).elim 0 value =
        ∑ key ∈ (Finset.range bound).erase id,
          (table.row key).elim 0 value := by
    refine Finset.sum_congr rfl fun key member => ?_
    rw [elsewhere key (Finset.ne_of_mem_erase member)]
  rw [rest]
  abel

@[simp]
theorem total_reserve : table.reserve.total value = table.total value :=
  total_congr value fun _ => rfl

/-- Filling a reserved, unused id adds the value of the new row. -/
theorem total_put {id : Nat} (reserved : id < table.nextId)
    (unused : table.row id = none) (new : Row) :
    (table.put id new).total value = table.total value + value new := by
  have change := total_change value table (table.put id new) id
    fun key other => table.row_put_ne other new
  rw [unused, table.row_put_self reserved] at change
  simpa using change

/-- Changing one row replaces its value in the total. -/
theorem total_modify {id : Nat} {old : Row} (present : table.row id = some old)
    (change : Row → Row) :
    (table.modify id change).total value + value old =
      table.total value + value (change old) := by
  have difference := total_change value table (table.modify id change) id
    fun key other => table.row_modify_ne other change
  rw [present, table.row_modify_self, present] at difference
  simpa using difference

/-- Changing a row in a way that keeps its value keeps the total. -/
theorem total_modify_of_value_eq {id : Nat} {change : Row → Row}
    (keeps : ∀ old, table.row id = some old → value (change old) = value old) :
    (table.modify id change).total value = table.total value := by
  refine Finset.sum_congr rfl fun key _ => ?_
  by_cases same : key = id
  · subst same
    rw [table.row_modify_self]
    cases present : table.row key with
    | none => rfl
    | some old => exact keeps old present
  · rw [table.row_modify_ne same]

end Totals

end KeyedTable
