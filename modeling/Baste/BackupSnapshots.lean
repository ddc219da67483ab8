import Baste.BackupRoundTrip
import Baste.RestoredReferences
import Baste.StepRuns
import Mathlib.Data.List.Infix

/-!
# Backups taken while others write

A backup reads one listed table after the other, each in a transaction of its
own, and other operations commit in between.  The backup is what one instant
of the run held if some instant parts the commits: those before it change no
table that has been read, and those after it change none that is still to be
read.
-/

namespace Baste

open StepRuns

variable {engine : Engine}

/-- The database, the tables that a backup has still to read, and the rows
that it has read. -/
structure BackupRun (engine : Engine) where
  db : StoredDb engine
  pending : List StoredTable
  rows : StoredTable → List StoredRow

inductive BackupEvent (engine : Engine) where
  /-- Another operation commits. -/
  | commit (db : StoredDb engine)
  /-- The backup reads its next table. -/
  | fetchAll

namespace BackupRun

def start (db : StoredDb engine) : BackupRun engine :=
  ⟨db, tablesInDependencyOrder, fun _ => []⟩

/-- Read the next table in a transaction of its own. -/
def fetchAll (server : Server engine) (run : BackupRun engine) :
    BackupRun engine :=
  match run.pending with
  | [] => run
  | table :: pending =>
      { run with
        pending := pending
        rows := Function.update run.rows table
          (server.arrange table (run.db table).rows) }

def step (server : Server engine) (run : BackupRun engine) :
    BackupEvent engine → BackupRun engine
  | .commit db => { run with db := db }
  | .fetchAll => run.fetchAll server

/-- The backup of a run that has read every table. -/
def backup (createdAt : String) (run : BackupRun engine) : BackupDict :=
  createBackupDict createdAt run.rows

/-- The table is listed and has been read. -/
def Read (run : BackupRun engine) (table : StoredTable) : Prop :=
  table ∈ tablesInDependencyOrder ∧ table ∉ run.pending

/-- A commit changes no table that has been read. -/
def SparesRead (run : BackupRun engine) : BackupEvent engine → Prop
  | .commit db => ∀ table, run.Read table → db table = run.db table
  | .fetchAll => True

/-- A commit changes no table that is still to be read. -/
def SparesPending (run : BackupRun engine) : BackupEvent engine → Prop
  | .commit db => ∀ table ∈ run.pending, db table = run.db table
  | .fetchAll => True

/-- The rows that have been read are those of the database, as far as tables
have been read. -/
structure Agrees (db : StoredDb engine) (run : BackupRun engine) : Prop where
  nodup : run.pending.Nodup
  read : ∀ table, run.Read table → (run.rows table).Perm (db table).rows

variable {server : Server engine}

theorem db_fetchAll (server : Server engine) (run : BackupRun engine) :
    (run.fetchAll server).db = run.db := by
  unfold fetchAll
  split <;> rfl

theorem pending_fetchAll_subset (run : BackupRun engine) :
    ∀ table ∈ (run.fetchAll server).pending, table ∈ run.pending := by
  unfold fetchAll
  split
  · exact fun _ member => member
  next head pending isPending =>
    intro table member
    rw [isPending]
    exact List.mem_cons_of_mem _ member

theorem Agrees.fetchAll (readsBack : server.ReadsBack)
    {db : StoredDb engine} {run : BackupRun engine} (agrees : Agrees db run)
    (current : ∀ table ∈ run.pending, run.db table = db table) :
    Agrees db (run.fetchAll server) := by
  unfold BackupRun.fetchAll
  split
  · exact agrees
  next table pending isPending =>
    have nodup := agrees.nodup
    rw [isPending] at nodup
    refine ⟨(List.nodup_cons.mp nodup).2, fun other isRead => ?_⟩
    rcases eq_or_ne other table with rfl | different
    · simp only [Function.update_self]
      rw [current other (by simp [isPending])]
      exact readsBack.arrange_perm other _
    · simp only [Function.update_of_ne different]
      refine agrees.read other ⟨isRead.1, ?_⟩
      simpa [isPending, different] using isRead.2

theorem agrees_start (db : StoredDb engine) : Agrees db (start db) where
  nodup := by
    change tablesInDependencyOrder.Nodup
    decide
  read _ read := absurd read.1 read.2

/-- Before the instant, what has been read is what the database holds. -/
theorem agrees_final_early (readsBack : server.ReadsBack)
    (db : StoredDb engine) {events : List (BackupEvent engine)}
    (spares : Along (step server) SparesRead (start db) events) :
    Agrees (final (step server) (start db) events).db
      (final (step server) (start db) events) := by
  refine (along_of_guarded (fun run => Agrees run.db run)
    (fun _ _ => True) (fun run event agrees spared => ⟨trivial, ?_⟩)
    (agrees_start db) spares).2
  cases event with
  | fetchAll =>
      have kept := agrees.fetchAll readsBack fun _ _ => rfl
      rwa [← db_fetchAll server run] at kept
  | commit committed =>
      refine ⟨agrees.nodup, fun table read => ?_⟩
      change ((run.rows table).Perm (committed table).rows)
      rw [spared table read]
      exact agrees.read table read

/-- After the instant, what is read is what the database held at it. -/
theorem agrees_final_late (readsBack : server.ReadsBack)
    {run : BackupRun engine} (agrees : Agrees run.db run)
    {events : List (BackupEvent engine)}
    (spares : Along (step server) SparesPending run events) :
    Agrees run.db (final (step server) run events) := by
  refine (along_of_guarded
    (fun later => Agrees run.db later ∧
      ∀ table ∈ later.pending, later.db table = run.db table)
    (fun _ _ => True) (fun later event held spared => ⟨trivial, ?_⟩)
    ⟨agrees, fun _ _ => rfl⟩ spares).2.1
  obtain ⟨laterAgrees, current⟩ := held
  cases event with
  | fetchAll =>
      refine ⟨laterAgrees.fetchAll readsBack current, fun table member => ?_⟩
      change (later.fetchAll server).db table = run.db table
      rw [db_fetchAll]
      exact current table (pending_fetchAll_subset later table member)
  | commit committed =>
      refine ⟨⟨laterAgrees.nodup, laterAgrees.read⟩, fun table member => ?_⟩
      exact (spared table member).trans (current table member)

end BackupRun

/-- The backup has the rows of the listed tables. -/
def IsSnapshot (backup : BackupDict) (db : StoredDb engine) : Prop :=
  ∃ read, backup = createBackupDict backup.createdAt read ∧
    ∀ table ∈ tablesInDependencyOrder, (read table).Perm (db table).rows

/-- A relation between the rows of listed tables, in whatever order. -/
def OfListedRows (relation : (StoredTable → List StoredRow) → Prop) : Prop :=
  ∀ first second, (∀ table ∈ tablesInDependencyOrder,
    (first table).Perm (second table)) → relation first → relation second

/-- The backup of a run has what the listed tables hold at one instant of it,
and every relation that holds at all of them. -/
def AtOneInstant (server : Server engine) (db : StoredDb engine)
    (events : List (BackupEvent engine)) : Prop :=
  let run := final (BackupRun.step server) (.start db) events
  let held := fun past : List (BackupEvent engine) =>
    (final (BackupRun.step server) (.start db) past).db
  (∃ past, past <+: events ∧
      ∀ createdAt, IsSnapshot (run.backup createdAt) (held past)) ∧
    ∀ relation, OfListedRows relation →
      (∀ past, past <+: events →
        relation fun table => (held past table).rows) → relation run.rows

/-- A backup has what one instant of its run held if the commits before the
instant change no table that has been read, and those after it change none
that is still to be read. -/
theorem atOneInstant_of_spares {server : Server engine}
    (readsBack : server.ReadsBack) (db : StoredDb engine)
    {early late : List (BackupEvent engine)}
    (sparesRead : Along (BackupRun.step server) BackupRun.SparesRead
      (.start db) early)
    (sparesPending : Along (BackupRun.step server) BackupRun.SparesPending
      (final (BackupRun.step server) (.start db) early) late)
    (finished : (final (BackupRun.step server) (.start db)
      (early ++ late)).pending = []) :
    AtOneInstant server db (early ++ late) := by
  have agrees := BackupRun.agrees_final_late readsBack
    (BackupRun.agrees_final_early readsBack db sparesRead) sparesPending
  rw [← final_append] at agrees
  have same : ∀ table ∈ tablesInDependencyOrder,
      ((final (BackupRun.step server) (.start db)
          (early ++ late)).rows table).Perm
        ((final (BackupRun.step server) (.start db) early).db table).rows :=
    fun table listed => agrees.read table ⟨listed, by simp [finished]⟩
  have isPrefix : early <+: early ++ late := List.prefix_append _ _
  refine ⟨⟨early, isPrefix, fun createdAt => ⟨_, rfl, same⟩⟩,
    fun relation ofRows always => ?_⟩
  exact ofRows _ _ (fun table listed => (same table listed).symm)
    (always early isPrefix)

/-- A reseller who sells one package, and has no customer yet. -/
def catalogDb : StoredDb plainEngine :=
  (cardDb.withRows .categories
    { rows := [[.integer 1, .integer 1, .text "operator", .null,
        .text "monthly", .text "package"]]
      fits := by decide
      distinct := by simp }).withRows .packages
    { rows := [[.integer 1, .integer 1, .integer 1, .text "package",
        .decimal 10000, .null, .integer 1]]
      fits := by decide
      distinct := by simp }

/-- The first customer comes. -/
def customerDb : StoredDb plainEngine :=
  catalogDb.withRows .customers
    { rows := [[.integer 1, .integer 1, .integer 55, .null, .integer 0,
        .decimal 0, .decimal 0]]
      fits := by decide
      distinct := by simp }

/-- The customer orders the package. -/
def firstOrderDb : StoredDb plainEngine :=
  customerDb.withRows .orders
    { rows := [[.integer 1, .text "AR-240718-1532", .integer 1, .integer 1,
        .integer 1, .text "awaiting_payment", .null, .null, .decimal 10000,
        .decimal 0, .integer 0, .datetime plainServer.now, .null, .null,
        .integer 0, .text "package", .null]]
      fits := by decide
      distinct := by simp }

/-- The backup has read the customers, but not the orders, when the two
commits come. -/
def customerDuringBackup : List (BackupEvent plainEngine) :=
  List.replicate 6 .fetchAll ++
    .commit customerDb :: .commit firstOrderDb :: List.replicate 14 .fetchAll

theorem quiet_atOneInstant :
    AtOneInstant plainServer catalogDb
      (List.replicate 20 .fetchAll ++ [.commit customerDb]) := by
  apply atOneInstant_of_spares plainServer_readsBack
  · repeat constructor
  · have nothingPending : (final (BackupRun.step plainServer)
        (.start catalogDb) (List.replicate 20 .fetchAll)).pending = [] := by
      decide +kernel
    refine ⟨fun table member => ?_, trivial⟩
    rw [nothingPending] at member
    cases member
  · decide +kernel

theorem length_of_createBackupDict_eq {createdAt : String}
    {first second : StoredTable → List StoredRow}
    (same : createBackupDict createdAt first =
      createBackupDict createdAt second) {table : StoredTable}
    (listed : table ∈ tablesInDependencyOrder) :
    (first table).length = (second table).length := by
  have tables : tablesInDependencyOrder.map (fun table =>
        (table.name, (first table).map (rowDict table))) =
      tablesInDependencyOrder.map fun table =>
        (table.name, (second table).map (rowDict table)) :=
    congrArg BackupDict.tables same
  have one := List.map_inj_left.mp tables table listed
  simpa using congrArg (fun pair => pair.2.length) one

/-- The foreign keys hold in every committed state, and the backup has an
order of a customer that it has not. -/
theorem order_without_customer :
    ForeignKeysHold catalogDb ∧ ForeignKeysHold customerDb ∧
      ForeignKeysHold firstOrderDb ∧
      (final (BackupRun.step plainServer) (.start catalogDb)
        customerDuringBackup).pending = [] ∧
      ¬ AtOneInstant plainServer catalogDb customerDuringBackup := by
  refine ⟨by decide +kernel, by decide +kernel, by decide +kernel,
    by decide +kernel, ?_⟩
  rintro ⟨⟨past, isPrefix, snapshot⟩, -⟩
  obtain ⟨read, same, held⟩ := snapshot ""
  have orders := length_of_createBackupDict_eq same
    (show StoredTable.orders ∈ tablesInDependencyOrder by decide)
  have customers := length_of_createBackupDict_eq same
    (show StoredTable.customers ∈ tablesInDependencyOrder by decide)
  rw [(held .orders (by decide)).length_eq] at orders
  rw [(held .customers (by decide)).length_eq] at customers
  have noCustomer : ((final (BackupRun.step plainServer) (.start catalogDb)
      customerDuringBackup).rows .customers).length = 0 := by
    decide +kernel
  have oneOrder : ((final (BackupRun.step plainServer) (.start catalogDb)
      customerDuringBackup).rows .orders).length = 1 := by
    decide +kernel
  have together : ∀ past ∈ customerDuringBackup.inits,
      ((final (BackupRun.step plainServer) (.start catalogDb)
        past).db .orders).rows.length = 1 →
      ((final (BackupRun.step plainServer) (.start catalogDb)
        past).db .customers).rows.length ≠ 0 := by
    decide +kernel
  exact together past ((List.mem_inits _ _).mpr isPrefix)
    (orders.symm.trans oneOrder) (customers.symm.trans noCustomer)

end Baste
