import Baste.BackupRoundTrip
import Baste.RestoreTexts
import Baste.RestoredReferences

/-!
# Safe restores

A safe restore can be undone: restoring the safety backup brings every table
back, those of the backup because it has their rows, and the others because
neither restore touches them.  A safe restore that raises has changed no table.

This is so as long as the server runs no text of the file's own that commits or
touches the other tables.
-/

namespace Baste

variable {engine : Engine} {server : Server engine}

/-- Restoring the file at the path brings every table back to the state. -/
def BringsBack (server : Server engine) (host : Host engine) (path : String)
    (db : StoredDb engine) : Prop :=
  ∃ data restored, validateBackupFile (host.file path) = .ok data ∧
    restoreFromDict server noFaults data host.pool = (.ok (), restored) ∧
    ∀ table, SameRows (restored.committed table) (db table)

/-- What a safe restore that began in a state promises when it ends. -/
structure Undoable (server : Server engine) (db : StoredDb engine)
    (result : Except SafeRestoreError String × Host engine) : Prop where
  bringsBack : ∀ path host, result = (.ok path, host) →
    BringsBack server host path db
  unchanged : ∀ error host, result = (.error error, host) →
    host.pool.committed = db

theorem Undoable.of_ok {db : StoredDb engine} {path : String}
    {host : Host engine} (back : BringsBack server host path db) :
    Undoable server db (.ok path, host) where
  bringsBack _ _ same := by
    cases same
    exact back
  unchanged _ _ same := by cases same

theorem Undoable.of_error {db : StoredDb engine} {error : SafeRestoreError}
    {host : Host engine} (same : host.pool.committed = db) :
    Undoable server db (.error error, host) where
  bringsBack _ _ same := by cases same
  unchanged _ _ isHost := by
    cases isHost
    exact same

/-- The text of a document in the one file that there is. -/
def hostWith (document : Json) (db : StoredDb engine) : Host engine where
  pool := ⟨db, [true]⟩
  file path :=
    if path = "upload.json" then .text (Json.print document) else .missing

theorem validate_hostWith {data : BackupData}
    (printable : (Json.object data.members).Printable)
    (db : StoredDb engine) :
    validateBackupFile ((hostWith (.object data.members) db).file
      "upload.json") = .ok data := by
  simp only [hostWith, if_true, validateBackupFile, Json.read_print printable]
  exact validateDocument_members data

theorem printable_backupWithOrders {orders : List Json}
    (printable : (Json.array orders).Printable) :
    (Json.object (backupWithOrders orders).members).Printable := by
  simpa [Json.Printable, Json.PrintableMembers, Json.PrintableElements,
    backupWithOrders, shopRows] using printable

/-- The file is uploaded when there is a reseller with a payment card. -/
def shopHost (orders : List Json) : Host plainEngine :=
  hostWith (.object (backupWithOrders orders).members) cardDb

/-- A name that ends the insertion and begins a statement of its own. -/
def injectedName : String :=
  "setting_key, setting_value) VALUES (1, 2); " ++
    "DELETE FROM reseller_payment_cards; -- "

/-- A file with a row that has the name. -/
def injectedBackup : BackupData where
  members :=
    [("created_at", .string ""),
      ("tables", .object
        [("resellers", .array []), ("orders", .array []),
          ("global_settings", .array
            [.object [(injectedName, .integer 0)]])])]
  tables :=
    [("resellers", .array []), ("orders", .array []),
      ("global_settings", .array [.object [(injectedName, .integer 0)]])]
  tables_mem := rfl
  createdAt_mem := rfl
  known := by decide

/-- A server that runs both statements of the text. -/
def scriptingServer : Server plainEngine where
  convert := plainServer.convert
  generate := plainServer.generate
  now := plainServer.now
  arrange := plainServer.arrange
  other text _ session :=
    if text = "INSERT INTO global_settings " ++
        "(setting_key, setting_value) VALUES (1, 2); " ++
        "DELETE FROM reseller_payment_cards; -- ) VALUES (%s)" then
      ((session.db .globalSettings).add [.text "1", .text "2"]).map
        fun stored =>
          { session with
            db := (session.db.withRows .globalSettings stored).withRows
              .resellerPaymentCards .empty }
    else none

theorem scriptingServer_readsBack : scriptingServer.ReadsBack where
  integer := plainServer_readsBack.integer
  decimal := plainServer_readsBack.decimal
  text := plainServer_readsBack.text
  datetime := plainServer_readsBack.datetime
  arrange_perm := plainServer_readsBack.arrange_perm

def injectedHost : Host plainEngine :=
  hostWith (.object injectedBackup.members) cardDb

theorem restore_injectedBackup : ∃ pool,
    restoreFromDict scriptingServer noFaults injectedBackup
        injectedHost.pool = (.ok (), pool) ∧
      (pool.committed .resellerPaymentCards).rows = [] := by
  have succeeds : (restoreFromDict scriptingServer noFaults injectedBackup
      injectedHost.pool).1.isOk = true := by
    decide +kernel
  have noCards : ((restoreFromDict scriptingServer noFaults injectedBackup
      injectedHost.pool).2.committed .resellerPaymentCards).rows = [] := by
    decide +kernel
  generalize restoreFromDict scriptingServer noFaults injectedBackup
    injectedHost.pool = run at succeeds noCards ⊢
  obtain ⟨result, pool⟩ := run
  cases result with
  | error error => cases succeeds
  | ok value => exact ⟨pool, rfl, noCards⟩

end Baste
