import Baste.JsonText
import Baste.StoredSchema
import Mathlib.Data.List.Forall2
import Mathlib.Logic.Function.Basic

/-!
# Stored databases

Databases with every column of every table, and the statements of a session on
one connection.  What a value becomes in a column, the order in which rows
come, and what a text does that is no plain insertion is up to the server.

Foreign keys are never consulted here: the sessions of this file insert and
delete only while the server does not check them.
-/

namespace Baste

/-- The values of a row in the order of the columns. -/
abbrev StoredRow := List ColumnValue

/-- How a server compares texts in keys and gives back documents. -/
structure Engine where
  collate : String → String
  normalizeJson : String → Option String

namespace Engine

variable (engine : Engine)

/-- A column of the type can hold the value. -/
def holds : ColumnType → ColumnValue → Bool
  | .boolean, .integer value => -2 ^ 7 ≤ value ∧ value < 2 ^ 7
  | .int, .integer value => -2 ^ 31 ≤ value ∧ value < 2 ^ 31
  | .bigint, .integer value => -2 ^ 63 ≤ value ∧ value < 2 ^ 63
  | .decimal digits, .decimal cents => Int.natAbs cents < 10 ^ digits
  | .varchar limit, .text value => value.length ≤ limit
  | .text, .text value => value.utf8ByteSize < 2 ^ 16
  | .enum values, .text value => value ∈ values
  | .json, .text value => engine.normalizeJson value = some value
  | .datetime, .datetime _ => true
  | _, _ => false

/-- The column can hold the value.  A generated key is never zero. -/
def accepts (column : Column) : ColumnValue → Bool
  | .null => column.presence = .nullable
  | value =>
      engine.holds column.type value &&
        !(column.presence = .autoIncrement && value = .integer 0)

/-- The columns can hold the values of the row. -/
def fits : List Column → StoredRow → Bool
  | [], [] => true
  | column :: columns, value :: row =>
      engine.accepts column value && fits columns row
  | _, _ => false

/-- A value as keys compare it. -/
def keyValue : ColumnValue → ColumnValue
  | .text value => .text (engine.collate value)
  | value => value

end Engine

/-- The value of the named column. -/
def StoredTable.cell (table : StoredTable) (name : String)
    (row : StoredRow) : Option ColumnValue :=
  ((table.columns.map Column.name).zip row).lookup name

/-- The rows agree on a key. -/
def Engine.clash (engine : Engine) (table : StoredTable)
    (first second : StoredRow) : Bool :=
  table.keys.any fun key => key.all fun name =>
    (table.cell name first).map engine.keyValue =
      (table.cell name second).map engine.keyValue

theorem Engine.clash_comm (engine : Engine) (table : StoredTable)
    (first second : StoredRow) :
    engine.clash table first second = engine.clash table second first := by
  simp only [Engine.clash, eq_comm]

/-- The rows of a table, which fit its columns and agree on no key. -/
@[ext]
structure StoredRows (engine : Engine) (table : StoredTable) where
  rows : List StoredRow
  fits : ∀ row ∈ rows, engine.fits table.columns row = true
  distinct : rows.Pairwise fun first second =>
    engine.clash table first second = false

namespace StoredRows

variable {engine : Engine} {table : StoredTable}

def empty : StoredRows engine table :=
  ⟨[], by simp, .nil⟩

/-- Add a row, unless it does not fit or another row has one of its keys. -/
def add (stored : StoredRows engine table) (row : StoredRow) :
    Option (StoredRows engine table) :=
  if fresh : engine.fits table.columns row = true ∧
      ∀ other ∈ stored.rows, engine.clash table other row = false then
    some
      { rows := stored.rows ++ [row]
        fits := by
          intro other member
          rcases List.mem_append.mp member with member | member
          · exact stored.fits other member
          · simp only [List.mem_singleton] at member
            exact member ▸ fresh.1
        distinct := by
          refine List.pairwise_append.mpr
            ⟨stored.distinct, List.pairwise_singleton _ _, ?_⟩
          intro other member new isRow
          simp only [List.mem_singleton] at isRow
          exact isRow ▸ fresh.2 other member }
  else none

/-- Keep the rows that pass a test. -/
def filter (stored : StoredRows engine table) (test : StoredRow → Bool) :
    StoredRows engine table where
  rows := stored.rows.filter test
  fits row member := stored.fits row (List.mem_of_mem_filter member)
  distinct := stored.distinct.filter _

theorem rows_of_add {stored next : StoredRows engine table} {row : StoredRow}
    (added : stored.add row = some next) :
    next.rows = stored.rows ++ [row] := by
  unfold add at added
  split at added
  · cases added
    rfl
  · cases added

end StoredRows

/-- The rows of every table. -/
abbrev StoredDb (engine : Engine) :=
  (table : StoredTable) → StoredRows engine table

/-- What a session sees, what a rollback would bring back, and the session
variable `FOREIGN_KEY_CHECKS`. -/
structure Session (engine : Engine) where
  db : StoredDb engine
  durable : StoredDb engine
  foreignKeyChecks : Bool

/-- The text of an insertion. -/
def insertText (table : StoredTable) (names : List String) : String :=
  let colNames := ", ".intercalate names
  let placeholders := ", ".intercalate (names.map fun _ => "%s")
  s!"INSERT INTO {table.name} ({colNames}) VALUES ({placeholders})"

/-- What is left to the server. -/
structure Server (engine : Engine) where
  /-- The value that a column gets from a parameter. -/
  convert : ColumnType → Json → Option ColumnValue
  /-- The next key of a table whose keys are generated. -/
  generate : StoredTable → List StoredRow → Int
  now : Datetime
  /-- The order in which `SELECT *` gives the rows. -/
  arrange : StoredTable → List StoredRow → List StoredRow
  /-- What a text does that is no insertion into named columns. -/
  other : String → List Json → Session engine → Option (Session engine)

namespace Server

variable {engine : Engine} (server : Server engine)

/-- A key that is missing or zero is generated. -/
def generated (table : StoredTable) (rows : List StoredRow) :
    Option ColumnValue → Option ColumnValue
  | some .null | some (.integer 0) | none =>
      some (.integer (server.generate table rows))
  | some value => some value

/-- The value that a parameter becomes. -/
def converted (type : ColumnType) : Json → Option ColumnValue
  | .null => some .null
  | given => server.convert type given

/-- The value of a column in a new row. -/
def valueFor (table : StoredTable) (rows : List StoredRow)
    (members : List (String × Json)) (column : Column) :
    Option ColumnValue :=
  match members.lookup column.name with
  | none =>
      match column.presence with
      | .autoIncrement => server.generated table rows none
      | .required => none
      | .nullable => some .null
      | .defaultValue value => some value
      | .currentTimestamp => some (.datetime server.now)
  | some given => do
      let value ← server.converted column.type given
      if column.presence = .autoIncrement then
        server.generated table rows (some value)
      else some value

/-- Insert a row that gives values to some columns of the table. -/
def insert {table : StoredTable} (stored : StoredRows engine table)
    (members : List (String × Json)) : Option (StoredRows engine table) := do
  let row ← table.columns.mapM
    (server.valueFor table stored.rows members)
  stored.add row

end Server

/-- The statements that a restore executes. -/
inductive Statement where
  | setForeignKeyChecks (on : Bool)
  | deleteFrom (table : StoredTable)
  | insertInto (table : StoredTable) (members : List (String × Json))

/-- Every name is the name of a column. -/
def StoredTable.NamesColumns (table : StoredTable)
    (members : List (String × Json)) : Prop :=
  ∀ member ∈ members, member.1 ∈ table.columns.map Column.name

instance (table : StoredTable) (members : List (String × Json)) :
    Decidable (table.NamesColumns members) := by
  unfold StoredTable.NamesColumns
  infer_instance

/-- What a statement does, unless the server refuses it. -/
def Statement.perform {engine : Engine} (server : Server engine)
    (session : Session engine) : Statement → Option (Session engine)
  | .setForeignKeyChecks on => some { session with foreignKeyChecks := on }
  | .deleteFrom table =>
      some { session with
        db := Function.update session.db table .empty }
  | .insertInto table members =>
      if table.NamesColumns members then
        (server.insert (session.db table) members).map fun stored =>
          { session with db := Function.update session.db table stored }
      else
        server.other (insertText table (members.map Prod.fst))
          (members.map Prod.snd) session

section Plain

/-- A server that compares texts as they are. -/
def plainEngine : Engine where
  collate := id
  normalizeJson := some

/-- A server that converts nothing but what its own values are written as. -/
def plainServer : Server plainEngine where
  convert
    | .boolean, .integer value => some (.integer value)
    | .int, .integer value => some (.integer value)
    | .bigint, .integer value => some (.integer value)
    | .decimal _, .string text => (readDecimal text).map .decimal
    | .datetime, .string text => (readIsoformat text).map .datetime
    | .varchar _, .string text => some (.text text)
    | .text, .string text => some (.text text)
    | .enum _, .string text => some (.text text)
    | .json, .string text => some (.text text)
    | _, _ => none
  generate _ rows := rows.length + 1
  now := ⟨2024, 7, 18, 15, 32, 0, by decide, by decide, by decide⟩
  arrange _ rows := rows
  other _ _ _ := none

def StoredDb.empty {engine : Engine} : StoredDb engine :=
  fun _ => .empty

/-- The database with the given rows in one of its tables. -/
def StoredDb.withRows {engine : Engine} (db : StoredDb engine)
    (table : StoredTable) (rows : StoredRows engine table) :
    StoredDb engine :=
  Function.update db table rows

/-- A reseller with a payment card. -/
def cardDb : StoredDb plainEngine :=
  (StoredDb.empty.withRows .resellers
    { rows := [[.integer 1, .text "token", .text "shop", .integer 77,
        .decimal 500, .decimal 0, .decimal 0, .text "active", .text "AR",
        .null, .null, .null, .integer 0, .integer 0, .integer 0,
        .datetime plainServer.now]]
      fits := by decide
      distinct := by simp }).withRows .resellerPaymentCards
    { rows := [[.integer 1, .integer 1, .text "6037", .text "owner", .null,
        .integer 1, .datetime plainServer.now]]
      fits := by decide
      distinct := by simp }

end Plain

end Baste
