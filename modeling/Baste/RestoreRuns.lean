import Baste.BackupService

/-!
# What a restore does

A file is regular if it gives values to columns only.  A restore from a
regular file that comes to its end has put the rows of the file in the listed
tables and left the others alone; one that fails has left everything to the
rollback, and may leave its connection without foreign key checks.
-/

namespace Baste

variable {engine : Engine}

section Contents

variable (server : Server engine) {table : StoredTable}

/-- What a row of a file does to the rows before it. -/
def insertJson (stored : StoredRows engine table) (row : Json) :
    Option (StoredRows engine table) :=
  if isFalsy row then some stored
  else
    match row with
    | .object members => server.insert stored members
    | _ => none

theorem insertJson_of_falsy (stored : StoredRows engine table) {row : Json}
    (falsy : isFalsy row = true) :
    insertJson server stored row = some stored := by
  unfold insertJson
  exact if_pos falsy

theorem insertJson_object (stored : StoredRows engine table)
    {members : List (String × Json)}
    (truthy : ¬ isFalsy (.object members) = true) :
    insertJson server stored (.object members) =
      server.insert stored members := by
  unfold insertJson
  exact if_neg truthy

theorem insertJson_of_ne_object (stored : StoredRows engine table)
    {row : Json} (truthy : ¬ isFalsy row = true)
    (notObject : ∀ members, row ≠ .object members) :
    insertJson server stored row = none := by
  unfold insertJson
  rw [if_neg truthy]
  split
  · exact absurd rfl (notObject _)
  · rfl

def rowsInto (stored : StoredRows engine table) (rows : List Json) :
    Option (StoredRows engine table) :=
  rows.foldlM (insertJson server) stored

theorem rowsInto_cons (stored : StoredRows engine table) (row : Json)
    (rest : List Json) :
    rowsInto server stored (row :: rest) =
      (insertJson server stored row).bind (rowsInto server · rest) :=
  rfl

/-- The rows that a file has for a table. -/
def fileRows (data : BackupData) (table : StoredTable) :
    Option (StoredRows engine table) :=
  (iterate (data.get table)).bind (rowsInto server .empty)

end Contents

/-- An object among the rows gives values to columns of the table. -/
def RegularRow (table : StoredTable) : Json → Prop
  | .object members => table.NamesColumns members
  | _ => True

instance (table : StoredTable) (row : Json) :
    Decidable (RegularRow table row) := by
  cases row <;> unfold RegularRow <;> infer_instance

/-- Every row of a listed table gives values to columns of this table. -/
def BackupData.Regular (data : BackupData) : Prop :=
  ∀ table ∈ tablesInDependencyOrder, ∀ row ∈ (iterate (data.get table)).getD [],
    RegularRow table row

instance (data : BackupData) : Decidable data.Regular := by
  unfold BackupData.Regular
  infer_instance

def RestoreError.isLost : RestoreError → Bool
  | .lost _ => true
  | _ => false

/-- The first statement of a restore is the one that raised. -/
def RestoreError.atStart : RestoreError → Bool
  | .refused (.setForeignKeyChecks false) => true
  | .lost (.setForeignKeyChecks false) => true
  | _ => false

section Contracts

variable {server : Server engine} {faults : Faults}

/-- What executing a statement comes to. -/
theorem runOn_execute (statement : Statement)
    (connection : Connection engine) :
    (execute server faults statement).runOn connection =
      match faults connection.executed with
      | some .lost =>
          (.error (.lost statement),
            ⟨connection.session, connection.executed + 1, true⟩)
      | some .refused =>
          (.error (.refused statement), ⟨connection.session,
            connection.executed + 1, connection.lost⟩)
      | none =>
          match statement.perform server connection.session with
          | none =>
              (.error (.refused statement), ⟨connection.session,
                connection.executed + 1, connection.lost⟩)
          | some session =>
              (.ok (), ⟨session, connection.executed + 1,
                connection.lost⟩) := by
  rw [execute, Failing.runOn_bind]
  change Failing.runOn (match faults connection.executed with
    | some .lost => _ | some .refused => _ | none => _) connection = _
  split
  · rfl
  · rfl
  · cases statement.perform server connection.session <;> rfl

/-- The contract of a statement: one case for each way it can end. -/
theorem ensures_execute {statement : Statement}
    {before : Connection engine → Prop}
    {after : Unit → Connection engine → Prop}
    {failure : RestoreError → Connection engine → Prop}
    (works : ∀ connection session, before connection →
      statement.perform server connection.session = some session →
        after () ⟨session, connection.executed + 1, connection.lost⟩)
    (refused : ∀ connection, before connection →
      (faults connection.executed = none →
        statement.perform server connection.session = none) →
        failure (.refused statement)
          ⟨connection.session, connection.executed + 1, connection.lost⟩)
    (lost : ∀ connection, before connection →
      faults connection.executed ≠ none →
        failure (.lost statement)
          ⟨connection.session, connection.executed + 1, true⟩) :
    Failing.Ensures before (execute server faults statement) after
      failure := by
  intro connection holds
  rw [runOn_execute]
  cases fault : faults connection.executed with
  | none =>
      cases performed : statement.perform server connection.session with
      | none => exact refused connection holds fun _ => performed
      | some session => exact works connection session holds performed
  | some reason =>
      cases reason with
      | refused => exact refused connection holds (by simp [fault])
      | lost => exact lost connection holds (by simp [fault])

/-- A script failed after the checks were switched off: the rollback has the
tables, and nothing has switched the checks on again. -/
structure Abandoned (durable : StoredDb engine) (error : RestoreError)
    (connection : Connection engine) : Prop where
  durable : connection.session.durable = durable
  checks : connection.session.foreignKeyChecks = false
  lost : connection.lost = error.isLost
  late : error.atStart = false
  notCommit : ∀ fault, error ≠ .commitFailed fault

/-- The script runs with the checks switched off. -/
structure Unchecked (durable : StoredDb engine)
    (connection : Connection engine) : Prop where
  durable : connection.session.durable = durable
  checks : connection.session.foreignKeyChecks = false
  lost : connection.lost = false

/-- A statement that changes one table, and is not one that switches the
checks, keeps what a failure has to leave. -/
theorem Unchecked.refused {durable : StoredDb engine}
    {connection : Connection engine}
    (unchecked : Unchecked durable connection) {statement : Statement}
    (notSwitch : statement ≠ .setForeignKeyChecks false) :
    Abandoned durable (.refused statement)
      ⟨connection.session, connection.executed + 1, connection.lost⟩ where
  durable := unchecked.durable
  checks := unchecked.checks
  lost := unchecked.lost
  late := by
    unfold RestoreError.atStart
    split <;> simp_all
  notCommit := by simp

theorem Unchecked.disconnected {durable : StoredDb engine}
    {connection : Connection engine}
    (unchecked : Unchecked durable connection) {statement : Statement}
    (notSwitch : statement ≠ .setForeignKeyChecks false) :
    Abandoned durable (.lost statement)
      ⟨connection.session, connection.executed + 1, true⟩ where
  durable := unchecked.durable
  checks := unchecked.checks
  lost := rfl
  late := by
    unfold RestoreError.atStart
    split <;> simp_all
  notCommit := by simp

/-- No statement fails for a reason of its own. -/
def Clean (faults : Faults) : Prop :=
  ∀ number, faults number = none

def noFaults : Faults :=
  fun _ => none

theorem clean_noFaults : Clean noFaults :=
  fun _ => rfl

/-- Reading the rest of a table's rows leads to the goal, and the other tables
are as they were. -/
structure Filling (server : Server engine) (durable others : StoredDb engine)
    (table : StoredTable) (goal : Option (StoredRows engine table))
    (rest : List Json) (connection : Connection engine) : Prop
    extends Unchecked durable connection where
  leads : rowsInto server (connection.session.db table) rest = goal
  others : ∀ other ≠ table, connection.session.db other = others other

theorem ensures_restoreRow {durable others : StoredDb engine}
    {table : StoredTable} {goal : Option (StoredRows engine table)}
    (row : Json) (rest : List Json) (regular : RegularRow table row) :
    Failing.Ensures (Filling server durable others table goal (row :: rest))
      (restoreRow server faults table row)
      (fun _ => Filling server durable others table goal rest)
      (fun error connection => Abandoned durable error connection ∧
        (Clean faults → goal = none)) := by
  unfold restoreRow
  split
  case isTrue falsy =>
    refine .of_pure _ fun connection filling => ?_
    have leads := filling.leads
    rw [rowsInto_cons, insertJson_of_falsy server _ falsy] at leads
    exact { filling with leads := leads }
  case isFalse truthy =>
    cases row with
    | object members =>
        have perform : ∀ session : Session engine,
            (Statement.insertInto table members).perform server session =
              (server.insert (session.db table) members).map fun stored =>
                { session with
                  db := Function.update session.db table stored } :=
          fun session => if_pos regular
        apply ensures_execute
        · intro connection session filling performed
          rw [perform, Option.map_eq_some_iff] at performed
          obtain ⟨stored, inserted, rfl⟩ := performed
          have leads := filling.leads
          rw [rowsInto_cons, insertJson_object server _ truthy, inserted]
            at leads
          exact
            { durable := filling.durable
              checks := filling.checks
              lost := filling.lost
              leads := by simpa using leads
              others := fun other different => by
                simpa [different] using filling.others other different }
        · intro connection filling refused
          refine ⟨filling.refused (by simp), fun clean => ?_⟩
          have notInserted := refused (clean _)
          rw [perform, Option.map_eq_none_iff] at notInserted
          rw [← filling.leads, rowsInto_cons,
            insertJson_object server _ truthy, notInserted]
          rfl
        · intro connection filling fault
          exact ⟨filling.disconnected (by simp),
            fun clean => absurd (clean _) fault⟩
    | _ =>
        refine .of_throw _ fun connection filling => ⟨?_, fun _ => ?_⟩
        · exact ⟨filling.durable, filling.checks, filling.lost, rfl, by simp⟩
        · rw [← filling.leads, rowsInto_cons,
            insertJson_of_ne_object server _ truthy (by simp)]
          rfl

/-- The deletions before those of the rest have left their tables empty. -/
structure Emptying (durable before : StoredDb engine)
    (rest : List StoredTable) (connection : Connection engine) : Prop
    extends Unchecked durable connection where
  emptied : ∀ table ∈ tablesInDependencyOrder, table ∉ rest →
    connection.session.db table = .empty
  others : ∀ table ∉ tablesInDependencyOrder,
    connection.session.db table = before table

theorem ensures_deletions (durable before : StoredDb engine) :
    Failing.Ensures
      (Emptying durable before tablesInDependencyOrder.reverse)
      (tablesInDependencyOrder.reverse.forM fun table =>
        execute server faults (.deleteFrom table))
      (fun _ => Emptying durable before [])
      (fun error connection => Abandoned durable error connection ∧
        ¬ Clean faults) := by
  apply Failing.Ensures.forM
  intro table member rest
  apply ensures_execute
  · intro connection session emptying performed
    cases performed
    exact
      { durable := emptying.durable
        checks := emptying.checks
        lost := emptying.lost
        emptied := fun other listed notRest => by
          rcases eq_or_ne other table with rfl | different
          · simp
          · simpa [different] using
              emptying.emptied other listed (by simp [different, notRest])
        others := fun other notListed => by
          have different : other ≠ table := fun same =>
            notListed (same ▸ List.mem_reverse.mp member)
          simpa [different] using emptying.others other notListed }
  · intro connection emptying refused
    exact ⟨emptying.refused (by simp),
      fun clean => by simpa [Statement.perform] using refused (clean _)⟩
  · intro connection emptying fault
    exact ⟨emptying.disconnected (by simp), fun clean => fault (clean _)⟩

/-- The tables before those of the rest have the rows of the file, and the
rest is still empty. -/
structure Refilling (server : Server engine) (data : BackupData)
    (durable before : StoredDb engine) (rest : List StoredTable)
    (connection : Connection engine) : Prop
    extends Unchecked durable connection where
  filled : ∀ table ∈ tablesInDependencyOrder, table ∉ rest →
    fileRows server data table = some (connection.session.db table)
  pending : ∀ table ∈ rest, connection.session.db table = .empty
  others : ∀ table ∉ tablesInDependencyOrder,
    connection.session.db table = before table
  nodup : rest.Nodup

theorem ensures_restoreTable {data : BackupData} (regular : data.Regular)
    (durable before : StoredDb engine) (table : StoredTable)
    (listed : table ∈ tablesInDependencyOrder) (rest : List StoredTable) :
    Failing.Ensures (Refilling server data durable before (table :: rest))
      (restoreTable server faults data table)
      (fun _ => Refilling server data durable before rest)
      (fun error connection => Abandoned durable error connection ∧
        (Clean faults → ∃ table ∈ tablesInDependencyOrder,
          fileRows server data table = none)) := by
  intro connection refilling
  have notRest := (List.nodup_cons.mp refilling.nodup).1
  unfold restoreTable
  cases iterated : iterate (data.get table) with
  | none =>
      have nothing : fileRows server data table = none := by
        simp [fileRows, iterated]
      exact ⟨⟨refilling.durable, refilling.checks, refilling.lost, rfl,
        by simp⟩, fun _ => ⟨table, listed, nothing⟩⟩
  | some rows =>
      have goal : fileRows server data table =
          rowsInto server (connection.session.db table) rows := by
        simp [fileRows, iterated, refilling.pending table (by simp)]
      have allRegular : ∀ row ∈ rows, RegularRow table row := by
        simpa [iterated] using regular table listed
      have filling : Filling server durable connection.session.db table
          (fileRows server data table) rows connection :=
        { refilling.toUnchecked with
          leads := goal.symm
          others := fun _ _ => rfl }
      refine (Failing.Ensures.forM rows fun row member rest =>
        ensures_restoreRow row rest (allRegular row member)).weaken
          (fun _ holds => holds) (fun _ after filled => ?_)
          (fun _ _ failed => ⟨failed.1, fun clean =>
            ⟨table, listed, failed.2 clean⟩⟩) connection filling
      have same : ∀ other, other ≠ table →
          after.session.db other = connection.session.db other :=
        filled.others
      exact
        { filled.toUnchecked with
          filled := fun other otherListed notLater => by
            rcases eq_or_ne other table with rfl | different
            · exact filled.leads.symm
            · rw [same other different]
              exact refilling.filled other otherListed
                (by simp [different, notLater])
          pending := fun other member => by
            have different : other ≠ table := fun isTable =>
              notRest (isTable ▸ member)
            rw [same other different]
            exact refilling.pending other (List.mem_cons_of_mem _ member)
          others := fun other notListed => by
            have different : other ≠ table := fun isTable =>
              notListed (isTable ▸ listed)
            rw [same other different]
            exact refilling.others other notListed
          nodup := (List.nodup_cons.mp refilling.nodup).2 }

/-- What a restore leaves when it comes to its end. -/
structure Restored (server : Server engine) (data : BackupData)
    (before after : StoredDb engine) : Prop where
  listed : ∀ table ∈ tablesInDependencyOrder,
    fileRows server data table = some (after table)
  others : ∀ table ∉ tablesInDependencyOrder, after table = before table

/-- What a restore leaves when an exception is raised.  Nothing but the very
first statement fails while the checks are still on. -/
structure Interrupted (durable : StoredDb engine) (checks : Bool)
    (error : RestoreError) (connection : Connection engine) : Prop where
  durable : connection.session.durable = durable
  checks : connection.session.foreignKeyChecks =
    if error.atStart then checks else false
  lost : connection.lost = error.isLost
  notCommit : ∀ fault, error ≠ .commitFailed fault

theorem Abandoned.interrupted {durable : StoredDb engine} {checks : Bool}
    {error : RestoreError} {connection : Connection engine}
    (abandoned : Abandoned durable error connection) :
    Interrupted durable checks error connection where
  durable := abandoned.durable
  checks := by simp [abandoned.late, abandoned.checks]
  lost := abandoned.lost
  notCommit := abandoned.notCommit

theorem ensures_restoreScript (server : Server engine) (faults : Faults)
    {data : BackupData} (regular : data.Regular) (start : Session engine)
    (committed : start.durable = start.db) :
    Failing.Ensures
      (fun connection : Connection engine =>
        connection.session = start ∧ connection.lost = false)
      (restoreScript server faults data)
      (fun _ connection => connection.session.durable = start.db ∧
        connection.session.foreignKeyChecks = true ∧
        connection.lost = false ∧
        Restored server data start.db connection.session.db)
      (fun error connection =>
        Interrupted start.db start.foreignKeyChecks error connection ∧
        (Clean faults → ∃ table ∈ tablesInDependencyOrder,
          fileRows server data table = none)) := by
  have switchOff : Failing.Ensures
      (fun connection : Connection engine =>
        connection.session = start ∧ connection.lost = false)
      (execute server faults (.setForeignKeyChecks false))
      (fun _ => Emptying start.db start.db tablesInDependencyOrder.reverse)
      (fun error connection =>
        Interrupted start.db start.foreignKeyChecks error connection ∧
        ¬ Clean faults) := by
    apply ensures_execute
    · rintro connection session ⟨rfl, alive⟩ performed
      cases performed
      exact
        { durable := committed
          checks := rfl
          lost := alive
          emptied := fun table listed notRest =>
            absurd (List.mem_reverse.mpr listed) notRest
          others := fun _ _ => rfl }
    · rintro connection ⟨rfl, alive⟩ refused
      exact ⟨⟨committed, rfl, alive, by simp⟩, fun clean => by
        simpa [Statement.perform] using refused (clean _)⟩
    · rintro connection ⟨rfl, alive⟩ fault
      exact ⟨⟨committed, rfl, rfl, by simp⟩, fun clean => fault (clean _)⟩
  have refill : Failing.Ensures
      (Refilling server data start.db start.db tablesInDependencyOrder)
      (tablesInDependencyOrder.forM (restoreTable server faults data))
      (fun _ => Refilling server data start.db start.db [])
      (fun error connection => Abandoned start.db error connection ∧
        (Clean faults → ∃ table ∈ tablesInDependencyOrder,
          fileRows server data table = none)) :=
    .forM _ fun table listed rest =>
      ensures_restoreTable regular start.db start.db table listed rest
  have switchOn : Failing.Ensures
      (Refilling server data start.db start.db [])
      (execute server faults (.setForeignKeyChecks true))
      (fun _ connection => connection.session.durable = start.db ∧
        connection.session.foreignKeyChecks = true ∧
        connection.lost = false ∧
        Restored server data start.db connection.session.db)
      (fun error connection => Abandoned start.db error connection ∧
        ¬ Clean faults) := by
    apply ensures_execute
    · intro connection session refilled performed
      cases performed
      exact ⟨refilled.durable, rfl, refilled.lost,
        ⟨fun table listed => refilled.filled table listed (by simp),
          refilled.others⟩⟩
    · intro connection refilled refused
      exact ⟨refilled.refused (by simp),
        fun clean => by simpa [Statement.perform] using refused (clean _)⟩
    · intro connection refilled fault
      exact ⟨refilled.disconnected (by simp), fun clean => fault (clean _)⟩
  unfold restoreScript
  refine (switchOff.weaken (fun _ holds => holds) (fun _ _ holds => holds)
    fun _ _ failed => ⟨failed.1, fun clean => absurd clean failed.2⟩).bind
      fun _ => ?_
  refine ((ensures_deletions start.db start.db).weaken
    (fun _ holds => holds) (fun _ _ holds => holds) fun _ _ failed =>
      ⟨failed.1.interrupted, fun clean => absurd clean failed.2⟩).bind
        fun _ => ?_
  refine (refill.weaken (fun _ emptied => ?_) (fun _ _ holds => holds)
    fun _ _ failed => ⟨failed.1.interrupted, failed.2⟩).bind fun _ => ?_
  · exact
      { emptied.toUnchecked with
        filled := fun table listed notRest => absurd listed notRest
        pending := fun table listed => emptied.emptied table listed (by simp)
        others := emptied.others
        nodup := by decide }
  · exact switchOn.weaken (fun _ holds => holds) (fun _ _ holds => holds)
      fun _ _ failed =>
        ⟨failed.1.interrupted, fun clean => absurd clean failed.2⟩

end Contracts

section Outcomes

/-- The raised error leaves no idle connection without checks. -/
def RestoreError.harmless : RestoreError → Bool
  | .commitFailed _ => true
  | error => error.atStart || error.isLost

/-- The checks of the connection that a failed restore gives back, if it gives
one back. -/
def RestoreError.released (checks : Bool) : RestoreError → List Bool
  | .commitFailed fault => if fault = .lost then [] else [true]
  | error =>
      if error.isLost then [] else [if error.atStart then checks else false]

variable {server : Server engine} {faults : Faults} {data : BackupData}

/-- The connection on which a transaction begins. -/
def Pool.connection (pool : Pool engine) : Connection engine where
  session := ⟨pool.committed, pool.committed, pool.free.headD true⟩

/-- A transaction commits what its script has done, or gives its connection
back as the error says. -/
theorem transaction_ends {script : Script engine Unit} {pool : Pool engine}
    {done : StoredDb engine → Prop} {cause : Prop}
    (contract : Failing.Ensures (· = pool.connection) script
      (fun _ connection => connection.session.durable = pool.committed ∧
        connection.session.foreignKeyChecks = true ∧
        done connection.session.db)
      (fun error connection =>
        Interrupted pool.committed (pool.free.headD true) error connection ∧
          (Clean faults → cause))) :
    match transaction faults script pool with
    | (.ok (), after) =>
        done after.committed ∧ after.free = pool.free.tail ++ [true]
    | (.error error, after) => after.committed = pool.committed ∧
        after.free = pool.free.tail ++
          error.released (pool.free.headD true) ∧
        (Clean faults → cause) := by
  have ends := contract pool.connection rfl
  unfold Pool.connection at ends
  unfold transaction
  generalize script.runOn _ = run at ends ⊢
  obtain ⟨result, connection⟩ := run
  cases result with
  | error error =>
      obtain ⟨interrupted, causes⟩ := ends
      refine ⟨interrupted.durable, ?_, causes⟩
      have notCommit := interrupted.notCommit
      have lost := interrupted.lost
      have checks := interrupted.checks
      unfold RestoreError.released
      split
      · exact absurd rfl (notCommit _)
      · simp [lost, checks]
  | ok value =>
      obtain ⟨durable, checks, isDone⟩ := ends
      cases fault : faults connection.executed with
      | none => simpa [fault, checks] using isDone
      | some reason =>
          have notClean : ¬ Clean faults := fun clean => by
            simp [clean connection.executed] at fault
          simp [fault, durable, checks, RestoreError.released, notClean]

/-- The two ends of a restore from a regular file. -/
theorem restoreFromDict_ends (server : Server engine) (faults : Faults)
    (regular : data.Regular) (pool : Pool engine) :
    match restoreFromDict server faults data pool with
    | (.ok (), after) => Restored server data pool.committed after.committed ∧
        after.free = pool.free.tail ++ [true]
    | (.error error, after) => after.committed = pool.committed ∧
        after.free = pool.free.tail ++
          error.released (pool.free.headD true) ∧
        (Clean faults → ∃ table ∈ tablesInDependencyOrder,
          fileRows server data table = none) := by
  refine transaction_ends ((ensures_restoreScript server faults regular
    pool.connection.session rfl).weaken ?_ ?_ fun _ _ holds => holds)
  · rintro _ rfl
    exact ⟨rfl, rfl⟩
  · exact fun _ _ ends => ⟨ends.1, ends.2.1, ends.2.2.2⟩

variable {pool after : Pool engine}

theorem restored_of_ok (regular : data.Regular)
    (succeeds : restoreFromDict server faults data pool =
      (.ok (), after)) :
    Restored server data pool.committed after.committed := by
  have ends := restoreFromDict_ends server faults regular pool
  rw [succeeds] at ends
  exact ends.1

/-- Nothing but an unreadable table keeps a restore from its end when no
statement fails for a reason of its own. -/
theorem exists_restored (clean : Clean faults) (regular : data.Regular)
    (readable : ∀ table ∈ tablesInDependencyOrder,
      fileRows server data table ≠ none)
    (pool : Pool engine) :
    ∃ after, restoreFromDict server faults data pool = (.ok (), after) ∧
      Restored server data pool.committed after.committed := by
  have ends := restoreFromDict_ends server faults regular pool
  cases run : restoreFromDict server faults data pool with
  | mk result after =>
      rw [run] at ends
      cases result with
      | ok value => exact ⟨after, rfl, ends.1⟩
      | error error =>
          obtain ⟨table, listed, unreadable⟩ := ends.2.2 clean
          exact absurd unreadable (readable table listed)

end Outcomes

section Files

/-- The rows of a reseller and a customer, with the columns that need a
value. -/
def shopRows : List (String × Json) :=
  [("resellers", .array
      [.object
        [("id", .integer 1), ("bot_token_encrypted", .string "token"),
          ("bot_username", .string "shop"),
          ("telegram_numeric_id", .integer 77),
          ("order_prefix", .string "AR")]]),
    ("customers", .array
      [.object
        [("id", .integer 1), ("reseller_id", .integer 1),
          ("telegram_user_id", .integer 7)]])]

/-- A file with the rows and others for the orders. -/
def backupWithOrders (orders : List Json) : BackupData where
  members :=
    [("created_at", .string ""),
      ("tables", .object (shopRows ++ [("orders", .array orders)]))]
  tables := shopRows ++ [("orders", .array orders)]
  tables_mem := rfl
  createdAt_mem := rfl
  known := by
    simp [knownTablesFound, shopRows, tablesInDependencyOrder,
      StoredTable.name]

end Files

end Baste
