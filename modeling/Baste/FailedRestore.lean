import Baste.RestoreTexts

/-!
# Restores that fail

A failed restore changes no table.  It gives its connection back with the
foreign key checks switched off, unless the very first statement or the commit
is what failed, or the connection was lost.
-/

namespace Baste

variable {engine : Engine} {server : Server engine} {faults : Faults}

/-- Every idle connection enforces foreign keys. -/
def Pool.Enforcing (pool : Pool engine) : Prop :=
  ∀ checks ∈ pool.free, checks = true

theorem Pool.Enforcing.headD {pool : Pool engine}
    (enforcing : pool.Enforcing) : pool.free.headD true = true := by
  cases free : pool.free with
  | nil => rfl
  | cons checks others => exact enforcing checks (by simp [free])

theorem released_enforcing_iff (error : RestoreError) :
    (∀ checks ∈ error.released true, checks = true) ↔
      error.harmless = true := by
  cases error with
  | commitFailed fault =>
      cases fault <;> simp [RestoreError.released, RestoreError.harmless]
  | refused statement =>
      simp [RestoreError.released, RestoreError.harmless,
        RestoreError.isLost]
  | lost statement =>
      simp [RestoreError.released, RestoreError.harmless,
        RestoreError.isLost]
  | notIterable =>
      simp [RestoreError.released, RestoreError.harmless,
        RestoreError.isLost, RestoreError.atStart]
  | noKeys =>
      simp [RestoreError.released, RestoreError.harmless,
        RestoreError.isLost, RestoreError.atStart]

/-- A pool with two idle connections to a database that has rows. -/
def cardConnections : Pool plainEngine :=
  ⟨cardDb, [true, true]⟩

theorem cardConnections_enforcing : cardConnections.Enforcing := by
  simp [Pool.Enforcing, cardConnections]

/-- A file whose last row has a column that the table does not have. -/
def staleBackup : BackupData :=
  backupWithOrders [.object [("discount", .integer 5)]]

/-- The connection is lost while this statement runs. -/
def lostAt (number : Nat) : Faults := fun other =>
  if other = number then some .lost else none

theorem error_of_run {faults : Faults} {data : BackupData}
    {pool : Pool engine} {harmless : Bool}
    (run : (match (restoreFromDict server faults data pool).1 with
      | .error error => some error.harmless
      | .ok () => none) = some harmless) :
    ∃ error after, restoreFromDict server faults data pool =
      (.error error, after) ∧ error.harmless = harmless := by
  rcases restored : restoreFromDict server faults data pool with
    ⟨error | value, after⟩
  · rw [restored] at run
    exact ⟨error, after, rfl, Option.some.inj run⟩
  · rw [restored] at run
    cases run

/-- A file whose only row is no object. -/
def brokenBackup : BackupData where
  members :=
    [("created_at", .string ""),
      ("tables", .object
        [("resellers", .array [.integer 5]), ("orders", .array []),
          ("customers", .array [])])]
  tables :=
    [("resellers", .array [.integer 5]), ("orders", .array []),
      ("customers", .array [])]
  tables_mem := rfl
  createdAt_mem := rfl
  known := by decide

def emptyPool : Pool plainEngine :=
  ⟨.empty, [true]⟩

theorem emptyPool_enforcing : emptyPool.Enforcing := by
  simp [Pool.Enforcing, emptyPool]

end Baste
