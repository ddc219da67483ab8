import Baste.FailingPrograms
import Baste.StoredDatabase

/-!
# Backups

A backup is the text of a document with the rows of the listed tables.  A
restore checks a file, and then deletes and inserts rows in one transaction
while the server does not check foreign keys.

Any statement may fail, because the server refuses it or because the
connection is lost.  The pool drops a lost connection and keeps every other
one, with the session variables that it has.
-/

namespace Baste

def tablesInDependencyOrder : List StoredTable :=
  [.resellers, .resellerOperators, .walletTransactions, .categories,
    .packages, .customers, .orders, .disputes, .activityLogs,
    .categoryPriceFloors, .discountCodes, .referrals, .referralLinks,
    .forcedJoinChannels, .blacklist, .cryptoSettings, .broadcasts,
    .globalSettings, .chargeCodes, .backupLogs]

section Saving

/-- `_json_default`, and what the encoder knows by itself. -/
def jsonDefault : ColumnValue → Json
  | .null => .null
  | .integer value => .integer value
  | .text value => .string value
  | .datetime value => .string value.isoformat
  | .decimal cents => .string (formatDecimal cents)

/-- A row as a dictionary cursor gives it. -/
def rowDict (table : StoredTable) (row : StoredRow) :
    List (String × ColumnValue) :=
  (table.columns.map Column.name).zip row

structure BackupDict where
  createdAt : String
  tables : List (String × List (List (String × ColumnValue)))

/-- A backup of the rows that the tables have when each is read. -/
def createBackupDict (createdAt : String)
    (read : StoredTable → List StoredRow) : BackupDict where
  createdAt := createdAt
  tables := tablesInDependencyOrder.map fun table =>
    (table.name, (read table).map (rowDict table))

def rowJson (row : List (String × ColumnValue)) : Json :=
  .object (row.map fun (name, value) => (name, jsonDefault value))

def BackupDict.json (backup : BackupDict) : Json :=
  .object
    [("created_at", .string backup.createdAt),
      ("tables", .object (backup.tables.map fun (name, rows) =>
        (name, .array (rows.map rowJson))))]

/-- The text that is written and its number of bytes. -/
def saveBackupToFile (backup : BackupDict) : List Char × Nat :=
  let text := backup.json.print
  (text, (String.ofList text).utf8ByteSize)

end Saving

section Validation

/-- What opening a path for reading may find. -/
inductive FileContent where
  | missing
  | undecodable
  | text (chars : List Char)

inductive BackupValidationError where
  | unreadable (file : FileContent)
  | missingKeys
  | tablesNotObject
  | tooFewTables

/-- The message, given the message of the error of opening or decoding. -/
def BackupValidationError.message (detail : FileContent → String) :
    BackupValidationError → String
  | .unreadable file =>
      s!"فایل بک‌آپ معتبر نیست (JSON خراب است): {detail file}"
  | .missingKeys =>
      "ساختار فایل بک‌آپ صحیح نیست (کلیدهای الزامی موجود نیست)."
  | .tablesNotObject => "بخش tables باید یک آبجکت شامل جدول‌ها باشد."
  | .tooFewTables =>
      "این فایل شبیه بک‌آپ معتبر این پروژه نیست (جدول‌های شناخته‌شده‌ی کافی پیدا نشد)."

def knownTablesFound (tables : List (String × Json)) : List String :=
  (tables.map Prod.fst).filter fun name =>
    name ∈ tablesInDependencyOrder.map StoredTable.name

/-- A document that was validated. -/
structure BackupData where
  members : List (String × Json)
  tables : List (String × Json)
  tables_mem : members.lookup "tables" = some (.object tables)
  createdAt_mem : (members.lookup "created_at").isSome = true
  known : 3 ≤ (knownTablesFound tables).length

def validateDocument : Json → Except BackupValidationError BackupData
  | .object members =>
      if createdAt : (members.lookup "created_at").isSome = true then
        match found : members.lookup "tables" with
        | none => .error .missingKeys
        | some (.object tables) =>
            if known : 3 ≤ (knownTablesFound tables).length then
              .ok ⟨members, tables, found, createdAt, known⟩
            else .error .tooFewTables
        | some _ => .error .tablesNotObject
      else .error .missingKeys
  | _ => .error .missingKeys

def validateBackupFile (file : FileContent) :
    Except BackupValidationError BackupData :=
  match file with
  | .text chars =>
      match Json.read chars with
      | some document => validateDocument document
      | none => .error (.unreadable file)
  | _ => .error (.unreadable file)

end Validation

section Scripts

inductive Fault where
  | refused
  | lost
  deriving DecidableEq, Repr

inductive RestoreError where
  /-- The server refuses a statement. -/
  | refused (statement : Statement)
  /-- The connection is lost while a statement runs. -/
  | lost (statement : Statement)
  | commitFailed (fault : Fault)
  /-- `TypeError`: the value of a table is no iterable. -/
  | notIterable
  /-- `AttributeError`: a row is no dictionary. -/
  | noKeys

variable {engine : Engine}

/-- A connection in use. -/
structure Connection (engine : Engine) where
  session : Session engine
  /-- The number of statements so far. -/
  executed : Nat := 0
  lost : Bool := false

/-- A program that executes statements on a connection. -/
abbrev Script (engine : Engine) (Result : Type) :=
  Failing RestoreError (Connection engine) Result

/-- The statements that fail for a reason of their own, by their number. -/
abbrev Faults := Nat → Option Fault

/-- `cur.execute`. -/
def execute (server : Server engine) (faults : Faults)
    (statement : Statement) : Script engine Unit := do
  let connection ← get
  let after := { connection with executed := connection.executed + 1 }
  match faults connection.executed with
  | some .lost =>
      set { after with lost := true }
      throw (.lost statement)
  | some .refused =>
      set after
      throw (.refused statement)
  | none =>
      match statement.perform server connection.session with
      | none =>
          set after
          throw (.refused statement)
      | some session => set { after with session := session }

/-- The idle connections by their `FOREIGN_KEY_CHECKS`, and the database. -/
structure Pool (engine : Engine) where
  committed : StoredDb engine
  free : List Bool

/-- `transaction`, with the first idle connection or a new one. -/
def transaction (faults : Faults) (script : Script engine Unit)
    (pool : Pool engine) : Except RestoreError Unit × Pool engine :=
  let (result, connection) := script.runOn
    { session := ⟨pool.committed, pool.committed, pool.free.headD true⟩ }
  let release (committed : StoredDb engine) (lost : Bool) : Pool engine :=
    { committed := committed
      free := pool.free.tail ++
        if lost then [] else [connection.session.foreignKeyChecks] }
  match result with
  | .error error =>
      (.error error, release connection.session.durable connection.lost)
  | .ok () =>
      match faults connection.executed with
      | some fault =>
          (.error (.commitFailed fault),
            release connection.session.durable (fault = .lost))
      | none => (.ok (), release connection.session.db false)

end Scripts

section Restoring

variable {engine : Engine} (server : Server engine) (faults : Faults)

/-- The literal is read as a float that equals zero. -/
def roundsToZero (literal : String) : Bool :=
  let isMark := fun char => char = 'e' || char = 'E'
  let mantissa := literal.toList.takeWhile fun char => !isMark char
  let exponent := (literal.toList.dropWhile fun char => !isMark char).tail
  let digits := Nat.ofDigitChars 10 (mantissa.filter Char.isDigit) 0
  let power := Nat.ofDigitChars 10 (exponent.filter Char.isDigit) 0
  let places := ((mantissa.dropWhile fun char => char ≠ '.').tail).length
  let isNumber := mantissa.any Char.isDigit
  -- The numbers up to half of the least positive float round to zero.
  isNumber &&
    if exponent.head? = some '-' then
      digits * 2 ^ 1075 ≤ 10 ^ (places + power)
    else digits * 10 ^ power * 2 ^ 1075 ≤ 10 ^ places

/-- `not row`. -/
def isFalsy : Json → Bool
  | .null => true
  | .bool value => !value
  | .integer value => value = 0
  | .real literal => roundsToZero literal
  | .string value => value = ""
  | .array elements => elements.isEmpty
  | .object members => members.isEmpty

/-- What `for row in rows` goes through. -/
def iterate : Json → Option (List Json)
  | .array elements => some elements
  | .object members => some (members.map fun member => .string member.1)
  | .string value =>
      some (value.toList.map fun char => .string (String.singleton char))
  | _ => none

def restoreRow (table : StoredTable) (row : Json) : Script engine Unit :=
  if isFalsy row then pure ()
  else
    match row with
    | .object members => execute server faults (.insertInto table members)
    | _ => throw .noKeys

/-- `data["tables"].get(table, [])`. -/
def BackupData.get (data : BackupData) (table : StoredTable) : Json :=
  (data.tables.lookup table.name).getD (.array [])

def restoreTable (data : BackupData) (table : StoredTable) :
    Script engine Unit :=
  match iterate (data.get table) with
  | none => throw .notIterable
  | some rows => rows.forM (restoreRow server faults table)

def restoreScript (data : BackupData) : Script engine Unit := do
  execute server faults (.setForeignKeyChecks false)
  tablesInDependencyOrder.reverse.forM fun table =>
    execute server faults (.deleteFrom table)
  tablesInDependencyOrder.forM (restoreTable server faults data)
  execute server faults (.setForeignKeyChecks true)

def restoreFromDict (data : BackupData) (pool : Pool engine) :
    Except RestoreError Unit × Pool engine :=
  transaction faults (restoreScript server faults data) pool

end Restoring

section SafeRestore

variable {engine : Engine}

/-- The pool and the files. -/
structure Host (engine : Engine) where
  pool : Pool engine
  file : String → FileContent

inductive SafeRestoreError where
  | invalid (error : BackupValidationError)
  /-- The safety backup cannot be read or written. -/
  | backupFailed
  | failed (error : RestoreError)

/-- The moment of a call, as `isoformat` and `strftime` give it. -/
structure Moment where
  iso : String
  stamp : String

def readAll (server : Server engine) (db : StoredDb engine)
    (table : StoredTable) : List StoredRow :=
  server.arrange table (db table).rows

def performSafeRestore (server : Server engine) (faults : Faults)
    (backupFails : Bool) (moment : Moment) (uploadedFilepath : String)
    (safetyBackupDir : String) (host : Host engine) :
    Except SafeRestoreError String × Host engine :=
  match validateBackupFile (host.file uploadedFilepath) with
  | .error error => (.error (.invalid error), host)
  | .ok data =>
      let safetyPath :=
        s!"{safetyBackupDir}/safety_before_restore_{moment.stamp}.json"
      if backupFails then (.error .backupFailed, host)
      else
        let backup := createBackupDict moment.iso
          (readAll server host.pool.committed)
        let files := Function.update host.file safetyPath
          (.text (saveBackupToFile backup).1)
        match restoreFromDict server faults data host.pool with
        | (.error error, pool) => (.error (.failed error), ⟨pool, files⟩)
        | (.ok (), pool) => (.ok safetyPath, ⟨pool, files⟩)

end SafeRestore

end Baste
