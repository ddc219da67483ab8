import Baste.RestoreRuns

/-!
# Foreign keys after a restore

A restore inserts while the server does not check foreign keys, and leaves the
tables that are not listed alone.  The foreign keys hold afterwards if and only
if the references of the file, and those of the tables left alone, lead to rows
of the file.
-/

namespace Baste

variable {engine : Engine} {server : Server engine} {faults : Faults}

/-- The references of the children lead to rows among the parents. -/
def ForeignKey.HoldsBetween (key : ForeignKey)
    (children parents : List StoredRow) : Prop :=
  ∀ row ∈ children, key.table.cell key.column row = some .null ∨
    ∃ parent ∈ parents,
      key.parent.cell "id" parent = key.table.cell key.column row

instance (key : ForeignKey) (children parents : List StoredRow) :
    Decidable (key.HoldsBetween children parents) := by
  unfold ForeignKey.HoldsBetween
  infer_instance

/-- Every foreign key of the schema holds. -/
def ForeignKeysHold (db : StoredDb engine) : Prop :=
  ∀ key ∈ foreignKeys,
    key.HoldsBetween (db key.table).rows (db key.parent).rows

instance (db : StoredDb engine) : Decidable (ForeignKeysHold db) := by
  unfold ForeignKeysHold
  infer_instance

/-- The references in the file, and those in the tables that a restore leaves
alone, lead to rows of the file. -/
def ReferencesResolve (server : Server engine) (data : BackupData)
    (before : StoredDb engine) : Prop :=
  ∀ key ∈ foreignKeys, ∀ parents,
    fileRows server data key.parent = some parents →
      (key.table ∉ tablesInDependencyOrder →
        key.HoldsBetween (before key.table).rows parents.rows) ∧
      ∀ children, key.table ∈ tablesInDependencyOrder →
        fileRows server data key.table = some children →
          key.HoldsBetween children.rows parents.rows

/-- A restore always replaces the tables that are referred to. -/
theorem parent_listed :
    ∀ key ∈ foreignKeys, key.parent ∈ tablesInDependencyOrder := by
  decide

/-- A file with three of the tables and no row. -/
def emptyBackup : BackupData where
  members :=
    [("created_at", .string ""),
      ("tables", .object
        [("resellers", .array []), ("orders", .array []),
          ("customers", .array [])])]
  tables :=
    [("resellers", .array []), ("orders", .array []),
      ("customers", .array [])]
  tables_mem := rfl
  createdAt_mem := rfl
  known := by decide

theorem emptyBackup_regular : emptyBackup.Regular := by
  decide

theorem fileRows_emptyBackup (table : StoredTable) :
    fileRows server emptyBackup table = some .empty := by
  cases table <;> rfl

theorem foreignKeysHold_cardDb : ForeignKeysHold cardDb := by
  decide +kernel

def cardPool : Pool plainEngine :=
  ⟨cardDb, [true]⟩

theorem restored_emptyBackup : ∃ after,
    restoreFromDict plainServer noFaults emptyBackup cardPool =
      (.ok (), after) ∧
    Restored plainServer emptyBackup cardDb after.committed := by
  apply exists_restored clean_noFaults emptyBackup_regular
  intro table _ unreadable
  rw [fileRows_emptyBackup] at unreadable
  cases unreadable

/-- After a restore that comes to its end, the foreign keys hold if and only
if the references lead to rows of the file. -/
theorem foreignKeysHold_restored_iff {data : BackupData}
    {pool after : Pool engine} (regular : data.Regular)
    (succeeds : restoreFromDict server faults data pool =
      (.ok (), after)) :
    ForeignKeysHold after.committed ↔
      ReferencesResolve server data pool.committed := by
  have restored := restored_of_ok regular succeeds
  constructor
  · intro hold key isKey parents parentRows
    have isParent := restored.listed key.parent (parent_listed key isKey)
    rw [parentRows, Option.some.injEq] at isParent
    subst isParent
    have between := hold key isKey
    refine ⟨fun notListed => ?_, fun children listed childRows => ?_⟩
    · rwa [restored.others key.table notListed] at between
    · have isChild := restored.listed key.table listed
      rw [childRows, Option.some.injEq] at isChild
      rwa [← isChild] at between
  · intro resolve key isKey
    have isParent := restored.listed key.parent (parent_listed key isKey)
    obtain ⟨left, file⟩ := resolve key isKey _ isParent
    by_cases listed : key.table ∈ tablesInDependencyOrder
    · exact file _ listed (restored.listed key.table listed)
    · rw [restored.others key.table listed]
      exact left listed

theorem foreignKeysHold_restored_shopBackup : ∃ after,
    restoreFromDict plainServer noFaults (backupWithOrders []) cardPool =
      (.ok (), after) ∧
    (ForeignKeysHold after.committed ↔
      ReferencesResolve plainServer (backupWithOrders [])
        cardPool.committed) := by
  have succeeds : (restoreFromDict plainServer noFaults (backupWithOrders [])
      cardPool).1.isOk = true := by
    decide +kernel
  rcases run : restoreFromDict plainServer noFaults (backupWithOrders [])
    cardPool with ⟨error | value, after⟩
  · rw [run] at succeeds
    cases succeeds
  · exact ⟨after, rfl, foreignKeysHold_restored_iff (by decide) run⟩

/-- The file is accepted and restored, and the payment card is left without
its reseller. -/
theorem payment_card_dangles :
    validateBackupFile (.text (Json.print (.object emptyBackup.members))) =
        .ok emptyBackup ∧
      ForeignKeysHold cardPool.committed ∧
      ∃ after, restoreFromDict plainServer noFaults emptyBackup cardPool =
          (.ok (), after) ∧
        ¬ ForeignKeysHold after.committed := by
  have printable : (Json.object emptyBackup.members).Printable := by
    simp [Json.Printable, Json.PrintableMembers, Json.PrintableElements,
      emptyBackup]
  refine ⟨?_, foreignKeysHold_cardDb, ?_⟩
  · rw [validateBackupFile, Json.read_print printable]
    rfl
  · obtain ⟨after, succeeds, restored⟩ := restored_emptyBackup
    refine ⟨after, succeeds, fun hold => ?_⟩
    have cards := restored.others .resellerPaymentCards (by decide)
    have resellers := restored.listed .resellers (by decide)
    rw [fileRows_emptyBackup, Option.some.injEq] at resellers
    have between := hold
      ⟨.resellerPaymentCards, "reseller_id", .resellers, .cascade⟩
      (by decide)
    rw [cards, ← resellers] at between
    exact absurd between (by decide +kernel)

end Baste
