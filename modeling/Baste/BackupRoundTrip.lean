import Baste.RestoreRuns

/-!
# Backups that are restored

A saved backup is a valid file, and restoring it gives the listed tables the
rows that were read, in whatever state the database is by then.  The tables
that are not listed keep the rows that they have.
-/

namespace Baste

variable {engine : Engine}

/-- What a restore relies on: columns take back what their values are written
as, and reading a table gives its rows in some order. -/
structure Server.ReadsBack (server : Server engine) : Prop where
  integer : ∀ type value, engine.holds type (.integer value) = true →
    server.convert type (.integer value) = some (.integer value)
  decimal : ∀ type cents, engine.holds type (.decimal cents) = true →
    server.convert type (.string (formatDecimal cents)) =
      some (.decimal cents)
  text : ∀ type value, engine.holds type (.text value) = true →
    server.convert type (.string value) = some (.text value)
  datetime : ∀ type value, engine.holds type (.datetime value) = true →
    server.convert type (.string value.isoformat) = some (.datetime value)
  arrange_perm : ∀ table rows, (server.arrange table rows).Perm rows

section Values

variable {server : Server engine}

theorem converted_jsonDefault (readsBack : server.ReadsBack)
    {column : Column} {value : ColumnValue}
    (accepted : engine.accepts column value = true) :
    server.converted column.type (jsonDefault value) = some value := by
  cases value with
  | null => rfl
  | integer value =>
      exact readsBack.integer _ value (by simp_all [Engine.accepts])
  | decimal cents =>
      exact readsBack.decimal _ cents (by simp_all [Engine.accepts])
  | text value =>
      exact readsBack.text _ value (by simp_all [Engine.accepts])
  | datetime value =>
      exact readsBack.datetime _ value (by simp_all [Engine.accepts])

/-- A key that is there and not zero is kept. -/
theorem generated_some {table : StoredTable} {rows : List StoredRow}
    {value : ColumnValue} (notNull : value ≠ .null)
    (notZero : value ≠ .integer 0) :
    server.generated table rows (some value) = some value := by
  unfold Server.generated
  split <;> simp_all

theorem valueFor_of_lookup (readsBack : server.ReadsBack)
    (table : StoredTable) (rows : List StoredRow)
    {members : List (String × Json)} {column : Column} {value : ColumnValue}
    (accepted : engine.accepts column value = true)
    (given : members.lookup column.name = some (jsonDefault value)) :
    server.valueFor table rows members column = some value := by
  have converted := converted_jsonDefault readsBack accepted
  simp only [Server.valueFor, given, converted, Option.bind_eq_bind,
    Option.bind_some]
  split_ifs with increments
  · apply generated_some
    · rintro rfl
      simp [Engine.accepts, increments] at accepted
    · rintro rfl
      simp [Engine.accepts, increments] at accepted
  · rfl

end Values

/-- The document of a validated file is validated as it was. -/
theorem validateDocument_members (data : BackupData) :
    validateDocument (.object data.members) = .ok data := by
  obtain ⟨members, tables, tablesMem, createdAtMem, known⟩ := data
  simp only [validateDocument, createdAtMem, dif_pos]
  split
  next missing => simp [tablesMem] at missing
  next object found =>
    have same : object = tables := by simpa [found] using tablesMem
    subst same
    rw [dif_pos known]
  next value notObject found =>
    rw [tablesMem, Option.some.injEq] at found
    exact absurd found.symm (notObject tables)

/-- A value of the first column of the list that has a name. -/
theorem lookup_of_mem {Name Value : Type} [BEq Name] [LawfulBEq Name]
    {list : List (Name × Value)} (distinct : (list.map Prod.fst).Nodup)
    {name : Name} {value : Value} (member : (name, value) ∈ list) :
    list.lookup name = some value := by
  induction list with
  | nil => cases member
  | cons head list ih =>
      obtain ⟨other, first⟩ := head
      simp only [List.map_cons, List.nodup_cons] at distinct
      rcases List.mem_cons.mp member with same | later
      · cases same
        simp
      · have different : name ≠ other := by
          rintro rfl
          exact distinct.1 (List.mem_map_of_mem later)
        rw [List.lookup_cons, beq_false_of_ne different]
        exact ih distinct.2 later

section Rows

variable {server : Server engine}

theorem length_of_fits : ∀ {columns : List Column} {row : StoredRow},
    engine.fits columns row = true → columns.length = row.length
  | [], [], _ => rfl
  | _ :: columns, _ :: row, fits => by
      simp only [Engine.fits, Bool.and_eq_true] at fits
      simp [length_of_fits fits.2]
  | [], _ :: _, fits => by simp [Engine.fits] at fits
  | _ :: _, [], fits => by simp [Engine.fits] at fits

/-- A function that gives each column its value gives the row. -/
theorem mapM_of_zip {value : Column → Option ColumnValue} :
    ∀ {columns : List Column} {row : StoredRow},
      engine.fits columns row = true →
        (∀ pair ∈ columns.zip row, engine.accepts pair.1 pair.2 = true →
          value pair.1 = some pair.2) →
          columns.mapM value = some row
  | [], [], _, _ => rfl
  | column :: columns, first :: row, fits, gives => by
      simp only [Engine.fits, Bool.and_eq_true] at fits
      have one := gives (column, first) (by simp) fits.1
      have others := mapM_of_zip fits.2 fun pair member =>
        gives pair (List.mem_cons_of_mem _ member)
      simp [List.mapM_cons, one, others]
  | [], _ :: _, fits, _ => by simp [Engine.fits] at fits
  | _ :: _, [], fits, _ => by simp [Engine.fits] at fits

/-- The members of the object that a row is written as. -/
def rowMembers (table : StoredTable) (row : StoredRow) :
    List (String × Json) :=
  (rowDict table row).map fun (name, value) => (name, jsonDefault value)

theorem rowJson_rowDict (table : StoredTable) (row : StoredRow) :
    rowJson (rowDict table row) = .object (rowMembers table row) :=
  rfl

theorem map_fst_rowMembers {table : StoredTable} {row : StoredRow}
    (fits : engine.fits table.columns row = true) :
    (rowMembers table row).map Prod.fst =
      table.columns.map Column.name := by
  have sameLength := length_of_fits fits
  rw [rowMembers, List.map_map, rowDict]
  exact List.map_fst_zip (by simp [sameLength])

theorem lookup_rowMembers {table : StoredTable} {row : StoredRow}
    (fits : engine.fits table.columns row = true) {column : Column}
    {value : ColumnValue} (member : (column, value) ∈ table.columns.zip row) :
    (rowMembers table row).lookup column.name = some (jsonDefault value) := by
  apply lookup_of_mem
  · rw [map_fst_rowMembers fits]
    exact table.nodup_columns
  · have named : (column.name, value) ∈
        (table.columns.map Column.name).zip row := by
      rw [List.zip_map_left]
      exact List.mem_map.mpr ⟨(column, value), member, rfl⟩
    exact List.mem_map.mpr ⟨(column.name, value), named, rfl⟩

theorem insert_rowMembers (readsBack : server.ReadsBack)
    {table : StoredTable} (stored : StoredRows engine table)
    {row : StoredRow} (fits : engine.fits table.columns row = true) :
    server.insert stored (rowMembers table row) = stored.add row := by
  have mapped : table.columns.mapM
      (server.valueFor table stored.rows (rowMembers table row)) =
        some row :=
    mapM_of_zip fits fun _ member accepted =>
      valueFor_of_lookup readsBack table stored.rows accepted
        (lookup_rowMembers fits member)
  rw [Server.insert, mapped]
  rfl

theorem columns_ne_nil (table : StoredTable) : table.columns ≠ [] := by
  cases table <;> simp [StoredTable.columns]

theorem rowMembers_ne_nil {table : StoredTable} {row : StoredRow}
    (fits : engine.fits table.columns row = true) :
    rowMembers table row ≠ [] := by
  intro empty
  have names := map_fst_rowMembers fits
  rw [empty] at names
  exact columns_ne_nil table (List.map_eq_nil_iff.mp names.symm)

/-- Reading rows that were written adds them one after the other. -/
theorem rowsInto_rowJson (readsBack : server.ReadsBack)
    {table : StoredTable} (rows : List StoredRow)
    (stored : StoredRows engine table)
    (fits : ∀ row ∈ rows, engine.fits table.columns row = true)
    (distinct : (stored.rows ++ rows).Pairwise fun first second =>
      engine.clash table first second = false) :
    ∃ next, rowsInto server stored
        (rows.map fun row => rowJson (rowDict table row)) = some next ∧
      next.rows = stored.rows ++ rows := by
  induction rows generalizing stored with
  | nil => exact ⟨stored, rfl, by simp⟩
  | cons row rows ih =>
      have rowFits := fits row (by simp)
      have notEmpty := rowMembers_ne_nil rowFits
      have truthy : ¬ isFalsy (.object (rowMembers table row)) = true := by
        simpa [isFalsy] using notEmpty
      have fresh : ∀ other ∈ stored.rows,
          engine.clash table other row = false := fun other member =>
        (List.pairwise_append.mp distinct).2.2 other member row (by simp)
      have added : ∃ next, stored.add row = some next := by
        unfold StoredRows.add
        rw [dif_pos ⟨rowFits, fresh⟩]
        exact ⟨_, rfl⟩
      obtain ⟨next, add⟩ := added
      have nextRows := StoredRows.rows_of_add add
      obtain ⟨last, into, lastRows⟩ := ih next
        (fun other member => fits other (List.mem_cons_of_mem _ member))
        (by rw [nextRows]; simpa using distinct)
      refine ⟨last, ?_, by rw [lastRows, nextRows]; simp⟩
      rw [List.map_cons, rowsInto_cons, rowJson_rowDict,
        insertJson_object server _ truthy,
        insert_rowMembers readsBack stored rowFits, add]
      exact into

end Rows

section Files

variable {server : Server engine}

/-- The rows are rows that the columns can hold. -/
def RowsFit (engine : Engine) (read : StoredTable → List StoredRow) : Prop :=
  ∀ table, ∀ row ∈ read table, engine.fits table.columns row = true

/-- The rows of a table in a saved document. -/
def savedRows (read : StoredTable → List StoredRow) (table : StoredTable) :
    List Json :=
  (read table).map fun row => rowJson (rowDict table row)

def savedTables (read : StoredTable → List StoredRow) :
    List (String × Json) :=
  tablesInDependencyOrder.map fun table =>
    (table.name, .array (savedRows read table))

theorem map_fst_savedTables (read : StoredTable → List StoredRow) :
    (savedTables read).map Prod.fst =
      tablesInDependencyOrder.map StoredTable.name := by
  rw [savedTables, List.map_map]
  rfl

/-- A saved document is a valid one. -/
def savedBackup (createdAt : String)
    (read : StoredTable → List StoredRow) : BackupData where
  members :=
    [("created_at", .string createdAt), ("tables", .object (savedTables read))]
  tables := savedTables read
  tables_mem := rfl
  createdAt_mem := rfl
  known := by
    rw [knownTablesFound, map_fst_savedTables]
    decide

theorem json_createBackupDict (createdAt : String)
    (read : StoredTable → List StoredRow) :
    (createBackupDict createdAt read).json =
      .object (savedBackup createdAt read).members := by
  simp [BackupDict.json, createBackupDict, savedBackup, savedTables,
    savedRows, Function.comp_def]

theorem get_savedBackup (createdAt : String)
    (read : StoredTable → List StoredRow) {table : StoredTable}
    (listed : table ∈ tablesInDependencyOrder) :
    (savedBackup createdAt read).get table =
      .array (savedRows read table) := by
  have found : (savedTables read).lookup table.name =
      some (.array (savedRows read table)) := by
    apply lookup_of_mem
    · rw [map_fst_savedTables]
      decide
    · exact List.mem_map.mpr ⟨table, listed, rfl⟩
  rw [BackupData.get]
  exact congrArg (Option.getD · _) found

theorem printable_jsonDefault (value : ColumnValue) :
    (jsonDefault value).Printable := by
  cases value <;> simp [jsonDefault, Json.Printable]

theorem printableElements_of_forall {elements : List Json}
    (all : ∀ element ∈ elements, element.Printable) :
    Json.PrintableElements elements := by
  induction elements with
  | nil => trivial
  | cons element elements ih =>
      exact ⟨all element (by simp),
        ih fun other member => all other (List.mem_cons_of_mem _ member)⟩

theorem printableMembers_of_forall {members : List (String × Json)}
    (all : ∀ member ∈ members, member.2.Printable) :
    Json.PrintableMembers members := by
  induction members with
  | nil => trivial
  | cons member members ih =>
      exact ⟨all member (by simp),
        ih fun other isMember => all other (List.mem_cons_of_mem _ isMember)⟩

theorem printable_rowJson {table : StoredTable} {row : StoredRow}
    (fits : engine.fits table.columns row = true) :
    (rowJson (rowDict table row)).Printable := by
  refine ⟨?_, printableMembers_of_forall fun member isMember => ?_⟩
  · exact (map_fst_rowMembers fits).symm ▸ table.nodup_columns
  · obtain ⟨pair, -, rfl⟩ := List.mem_map.mp isMember
    exact printable_jsonDefault _

theorem printable_savedBackup (createdAt : String)
    {read : StoredTable → List StoredRow} (fit : RowsFit engine read) :
    (Json.object (savedBackup createdAt read).members).Printable := by
  refine ⟨by simp [savedBackup], trivial, ⟨?_, ?_⟩, trivial⟩
  · rw [map_fst_savedTables]
    decide
  · apply printableMembers_of_forall
    intro member isMember
    obtain ⟨table, -, rfl⟩ := List.mem_map.mp isMember
    apply printableElements_of_forall
    intro element isElement
    obtain ⟨row, isRow, rfl⟩ := List.mem_map.mp isElement
    exact printable_rowJson (fit table row isRow)

/-- The text that is written is accepted, and read as the document. -/
theorem validateBackupFile_saved (createdAt : String)
    {read : StoredTable → List StoredRow} (fit : RowsFit engine read) :
    validateBackupFile
      (.text (saveBackupToFile (createBackupDict createdAt read)).1) =
        .ok (savedBackup createdAt read) := by
  have text : Json.read (createBackupDict createdAt read).json.print =
      some (.object (savedBackup createdAt read).members) := by
    rw [json_createBackupDict]
    exact Json.read_print (printable_savedBackup createdAt fit)
  simp only [validateBackupFile, saveBackupToFile, text]
  exact validateDocument_members _

theorem regular_savedBackup (createdAt : String)
    {read : StoredTable → List StoredRow} (fit : RowsFit engine read) :
    (savedBackup createdAt read).Regular := by
  intro table listed row isRow
  rw [get_savedBackup createdAt read listed] at isRow
  obtain ⟨stored, isStored, rfl⟩ := List.mem_map.mp isRow
  intro member isMember
  rw [← map_fst_rowMembers (fit table stored isStored)]
  exact List.mem_map_of_mem isMember

/-- The rows that a saved file has for a listed table are those that were
read. -/
theorem fileRows_savedBackup (readsBack : server.ReadsBack)
    (createdAt : String) {read : StoredTable → List StoredRow}
    (fit : RowsFit engine read) {table : StoredTable}
    (listed : table ∈ tablesInDependencyOrder)
    (distinct : (read table).Pairwise fun first second =>
      engine.clash table first second = false) :
    ∃ stored, fileRows server (savedBackup createdAt read) table =
      some stored ∧ stored.rows = read table := by
  obtain ⟨stored, into, rows⟩ := rowsInto_rowJson readsBack (read table)
    .empty (fit table) (by simpa [StoredRows.empty] using distinct)
  refine ⟨stored, ?_, by simpa [StoredRows.empty] using rows⟩
  rw [fileRows, get_savedBackup createdAt read listed]
  exact into

end Files

/-- The tables hold the same rows. -/
def SameRows {table : StoredTable}
    (first second : StoredRows engine table) : Prop :=
  first.rows.Perm second.rows

section RoundTrip

variable {server : Server engine}

theorem rowsFit_readAll (readsBack : server.ReadsBack)
    (db : StoredDb engine) : RowsFit engine (readAll server db) :=
  fun table row member => (db table).fits row
    ((readsBack.arrange_perm table _).mem_iff.mp member)

theorem distinct_readAll (readsBack : server.ReadsBack)
    (db : StoredDb engine) (table : StoredTable) :
    (readAll server db table).Pairwise fun first second =>
      engine.clash table first second = false :=
  ((readsBack.arrange_perm table _).pairwise_iff fun {first second} clash => by
    rwa [engine.clash_comm]).mpr (db table).distinct

/-- Restoring a backup of one state in another gives the listed tables the
rows of the first, and leaves the others as they are in the second. -/
theorem restore_saved (readsBack : server.ReadsBack) {faults : Faults}
    (clean : Clean faults) (createdAt : String) (saved : StoredDb engine)
    (pool : Pool engine) :
    ∃ after, restoreFromDict server faults
        (savedBackup createdAt (readAll server saved)) pool =
          (.ok (), after) ∧
      (∀ table ∈ tablesInDependencyOrder,
        SameRows (after.committed table) (saved table)) ∧
      ∀ table ∉ tablesInDependencyOrder,
        after.committed table = pool.committed table := by
  have fit := rowsFit_readAll readsBack saved
  have rows : ∀ table ∈ tablesInDependencyOrder, ∃ stored,
      fileRows server (savedBackup createdAt (readAll server saved)) table =
        some stored ∧ stored.rows = readAll server saved table :=
    fun table listed => fileRows_savedBackup readsBack createdAt fit listed
      (distinct_readAll readsBack saved table)
  have readable : ∀ table ∈ tablesInDependencyOrder,
      fileRows server (savedBackup createdAt (readAll server saved)) table ≠
        none := by
    intro table listed unreadable
    obtain ⟨stored, found, -⟩ := rows table listed
    rw [unreadable] at found
    cases found
  obtain ⟨after, succeeds, restored⟩ := exists_restored clean
    (regular_savedBackup createdAt fit) readable pool
  refine ⟨after, succeeds, fun table listed => ?_, restored.others⟩
  obtain ⟨stored, found, same⟩ := rows table listed
  have isAfter := restored.listed table listed
  rw [found, Option.some.injEq] at isAfter
  rw [SameRows, ← isAfter, same]
  exact readsBack.arrange_perm table _

/-- The tables of the program's statements: those of a backup and two more. -/
def applicationTables : List StoredTable :=
  tablesInDependencyOrder ++ [.customerWalletTopups, .resellerPaymentCards]

theorem plainServer_readsBack : plainServer.ReadsBack where
  integer type value holds := by
    cases type <;> first | rfl | simp [Engine.holds] at holds
  decimal type cents holds := by
    cases type with
    | decimal digits =>
        exact congrArg (Option.map ColumnValue.decimal)
          (readDecimal_formatDecimal cents)
    | _ => simp [Engine.holds] at holds
  text type value holds := by
    cases type <;> first | rfl | simp [Engine.holds] at holds
  datetime type value holds := by
    cases type with
    | datetime =>
        exact congrArg (Option.map ColumnValue.datetime)
          (readIsoformat_isoformat value)
    | _ => simp [Engine.holds] at holds
  arrange_perm _ rows := .refl rows

/-- `remove_card`, with the answer whether there was such a card. -/
def removeCard (cardId resellerId : Int) (db : StoredDb engine) :
    Bool × StoredDb engine :=
  let table := StoredTable.resellerPaymentCards
  let isCard := fun row => table.cell "id" row = some (.integer cardId)
  let isOwn := fun row =>
    table.cell "reseller_id" row = some (.integer resellerId)
  if (db table).rows.any fun row => isCard row && isOwn row then
    (true, db.withRows table ((db table).filter fun row => !isCard row))
  else (false, db)

/-- A backup that is saved in one state is accepted, and restoring it in
another brings every application table back to the first state if and only if
the two tables that no backup has are already as they were in it. -/
theorem applicationTables_restored_iff (readsBack : server.ReadsBack)
    (createdAt : String) (saved : StoredDb engine) (pool : Pool engine) :
    ∃ data after,
      validateBackupFile (.text (saveBackupToFile
        (createBackupDict createdAt (readAll server saved))).1) = .ok data ∧
      restoreFromDict server noFaults data pool = (.ok (), after) ∧
      ((∀ table ∈ applicationTables,
          SameRows (after.committed table) (saved table)) ↔
        SameRows (pool.committed .customerWalletTopups)
            (saved .customerWalletTopups) ∧
          SameRows (pool.committed .resellerPaymentCards)
            (saved .resellerPaymentCards)) := by
  obtain ⟨after, succeeds, listed, others⟩ :=
    restore_saved readsBack clean_noFaults createdAt saved pool
  refine ⟨_, after, validateBackupFile_saved createdAt
    (rowsFit_readAll readsBack saved), succeeds, ?_⟩
  have topups := others .customerWalletTopups (by decide)
  have cards := others .resellerPaymentCards (by decide)
  constructor
  · intro all
    have topupsBack := all .customerWalletTopups (by decide)
    have cardsBack := all .resellerPaymentCards (by decide)
    rw [topups] at topupsBack
    rw [cards] at cardsBack
    exact ⟨topupsBack, cardsBack⟩
  · rintro ⟨topupsSame, cardsSame⟩ table member
    rcases List.mem_append.mp member with isListed | isOther
    · exact listed table isListed
    · simp only [List.mem_cons, List.not_mem_nil, or_false] at isOther
      rcases isOther with rfl | rfl
      · rwa [topups]
      · rwa [cards]

theorem applicationTables_restored_cardDb : ∃ data after,
    validateBackupFile (.text (saveBackupToFile
      (createBackupDict "" (readAll plainServer cardDb))).1) = .ok data ∧
    restoreFromDict plainServer noFaults data ⟨cardDb, [true]⟩ =
      (.ok (), after) ∧
    ((∀ table ∈ applicationTables,
        SameRows (after.committed table) (cardDb table)) ↔
      SameRows (cardDb .customerWalletTopups)
          (cardDb .customerWalletTopups) ∧
        SameRows (cardDb .resellerPaymentCards)
          (cardDb .resellerPaymentCards)) :=
  applicationTables_restored_iff plainServer_readsBack "" cardDb
    ⟨cardDb, [true]⟩

/-- A payment card that is removed after the backup does not come back. -/
theorem removed_card_stays_away :
    (removeCard 1 1 cardDb).1 = true ∧
    ∃ data after,
      validateBackupFile (.text (saveBackupToFile
        (createBackupDict "" (readAll plainServer cardDb))).1) = .ok data ∧
      restoreFromDict plainServer noFaults data
        ⟨(removeCard 1 1 cardDb).2, [true]⟩ = (.ok (), after) ∧
      ¬ ∀ table ∈ applicationTables,
        SameRows (after.committed table) (cardDb table) := by
  obtain ⟨after, succeeds, -, others⟩ := restore_saved plainServer_readsBack
    clean_noFaults "" cardDb ⟨(removeCard 1 1 cardDb).2, [true]⟩
  refine ⟨by decide +kernel, _, after, validateBackupFile_saved ""
    (rowsFit_readAll plainServer_readsBack cardDb), succeeds, fun all => ?_⟩
  have cards := all .resellerPaymentCards (by decide)
  rw [SameRows, others .resellerPaymentCards (by decide)] at cards
  have sameNumber := cards.length_eq
  exact absurd sameNumber (by decide +kernel)

end RoundTrip

end Baste
