import Baste.MigrationStarts
import Baste.ShippedMigrations
import Baste.StoredSchema

/-!
# The schema after migrations

The first start of a process records all files of the directory and executes
none of them.  The two files with which a database is built leave out what the
second shipped file creates, so after this start the record is wrong, until
a later file creates the same.  What the server makes of a statement is a
parameter.
-/

namespace Baste

open Migrator

/-- A table, or a column of a table. -/
inductive SchemaObject where
  | table (name : String)
  | column (table name : String)
  deriving DecidableEq, Repr

/-- What the server makes of a statement: the tables and columns that it is
there to create, and the schema after its execution. -/
structure SchemaServer where
  creates : String → List SchemaObject
  execute : String → List SchemaObject → List SchemaObject

/-- The columns of a table that the schema files do not have. -/
def phase4Columns : StoredTable → List String
  | .categories => ["catalog_type"]
  | .orders => ["order_type", "delivered_charge_code"]
  | _ => []

/-- The schema that `schema.sql` and `schema_phase3.sql` create, with the
table of the migrations. -/
def builtSchema : List SchemaObject :=
  (StoredTable.all.filter (· ≠ .chargeCodes)).flatMap fun table =>
    .table table.name ::
      ((table.columns.map (·.name)).filter (· ∉ phase4Columns table)).map
        (.column table.name)

/-- The statement of a file at a place. -/
def MigrationsDir.statementAt (directory : MigrationsDir) (place : Place) :
    Option String := do
  let file ← directory.files.find? (·.name = place.1)
  file.statements[place.2]?

namespace SchemaServer

variable (server : SchemaServer)

/-- The schema after some statements. -/
def executeAll (statements : List String) (schema : List SchemaObject) :
    List SchemaObject :=
  statements.foldl (fun schema statement => server.execute statement schema)
    schema

/-- What a file is there to create. -/
def createsIn (file : MigrationFile) : List SchemaObject :=
  file.statements.flatMap server.creates

/-- The schema of the database: what is left of the built schema when the
statements that have taken effect are through. -/
def schema (deployment : Deployment) : List SchemaObject :=
  server.executeAll
    (deployment.ledger.effects.filterMap deployment.directory.statementAt)
    builtSchema

/-- The server reads this statement as its manual says. -/
def AddsCatalogType : Prop :=
  .column "categories" "catalog_type" ∈ server.creates addCatalogType

/-- Everything that a recorded file creates is there. -/
def RecordedPresent (deployment : Deployment) : Prop :=
  ∀ file ∈ deployment.directory.files,
    file.name ∈ deployment.ledger.recorded →
      ∀ object ∈ server.createsIn file, object ∈ server.schema deployment

end SchemaServer

/-- `run_migrations` returns. -/
def ProcessStart.Returns (implicitlyCommits : String → Bool)
    (deployment : Deployment) (start : ProcessStart) : Prop :=
  ((runMigrations implicitlyCommits start.faults
    (deployment.found start)).runOn
      ⟨deployment.ledger, deployment.ledger⟩).1.isOk = true

/-- Whenever a start gets through its migrations, the record is right. -/
def ProcessStart.LeavesRecordRight (server : SchemaServer)
    (implicitlyCommits : String → Bool) (deployment : Deployment)
    (start : ProcessStart) : Prop :=
  start.Returns implicitlyCommits deployment →
    server.RecordedPresent (deployment.step implicitlyCommits start)

/-- A start that returns is not the first one, and the files that it finds
pending, executed on the schema, make up for everything that a file of the
directory creates and that is not there. -/
def ProcessStart.MakesUp (server : SchemaServer)
    (implicitlyCommits : String → Bool) (deployment : Deployment)
    (start : ProcessStart) : Prop :=
  start.Returns implicitlyCommits deployment →
    deployment.ledger.recorded ≠ [] ∧
      ∀ file ∈ (deployment.found start).files,
        ∀ object ∈ server.createsIn file, object ∈
          server.executeAll
            (((deployment.found start).pending deployment.ledger).flatMap
              MigrationFile.statements)
            (server.schema deployment)

namespace Migrator

/-- The command can be sent by a start that finds this directory. -/
def Command.IsOf (directory : MigrationsDir) : Command → Prop
  | .statement place _ => ∃ file ∈ directory.files, place.1 = file.name
  | _ => True

/-- It holds of what is committed, and of what the transaction sees. -/
def Conn.Both (holds : Ledger → Prop) (connection : Conn) : Prop :=
  holds connection.durable ∧ holds connection.current

section Ledgers

variable {implicitlyCommits : String → Bool} {faults : CommandFaults}
variable {directory : MigrationsDir} {holds : Ledger → Prop}

theorem ensures_send_both {command : Command}
    (kept : ∀ ledger, holds ledger → holds (command.effect ledger)) :
    Failing.Ensures (Conn.Both holds)
      (send implicitlyCommits faults command)
      (fun _ => Conn.Both holds) (fun _ => Conn.Both holds) := by
  apply ensures_oneCommand
  · intro connection both _
    have after := kept _ both.2
    split
    · exact ⟨after, after⟩
    · exact ⟨both.1, after⟩
  · exact fun connection fault both _ _ => both
  · exact fun connection both _ _ => ⟨both.2, both.2⟩

theorem isOf_of_mem_commands {file : MigrationFile}
    (member : file ∈ directory.files) {command : Command}
    (sent : command ∈ file.commands) : command.IsOf directory := by
  rw [MigrationFile.commands] at sent
  rcases List.mem_append.mp sent with statement | last
  · obtain ⟨index, _, rfl⟩ := List.mem_mapIdx.mp statement
    exact ⟨file, member, rfl⟩
  · simp only [List.mem_cons, List.not_mem_nil, or_false] at last
    rcases last with rfl | rfl
    · trivial
    · trivial

/-- What every command keeps is kept by a start, whatever becomes of it. -/
theorem ensures_both
    (kept : ∀ command : Command, command.IsOf directory →
      ∀ ledger, holds ledger → holds (command.effect ledger)) :
    Failing.Ensures (Conn.Both holds)
      (runMigrations implicitlyCommits faults directory)
      (fun _ => Conn.Both holds) (fun _ => Conn.Both holds) := by
  have sent (command : Command) (isOf : command.IsOf directory) :=
    @ensures_send_both implicitlyCommits faults holds command
      (kept command isOf)
  have seen : Failing.Ensures (Conn.Both holds) (get : MigrationScript Conn)
      (fun _ => Conn.Both holds) (fun _ => Conn.Both holds) :=
    .of_get fun _ both => both
  have baseline : Failing.Ensures (Conn.Both holds)
      (recordBaseline implicitlyCommits faults directory.sorted)
      (fun _ => Conn.Both holds) (fun _ => Conn.Both holds) := by
    have rows := @Failing.Ensures.forM Command Conn MigrationFile
      (fun _ => Conn.Both holds)
      (fun file => send implicitlyCommits faults (.baseline file.name))
      (fun _ => Conn.Both holds) directory.sorted
      fun file _ _ => sent (.baseline file.name) trivial
    exact rows.bind fun _ => sent .commitBaseline trivial
  have migrated (file : MigrationFile) (member : file ∈ directory.files) :
      Failing.Ensures (Conn.Both holds)
        (migrate implicitlyCommits faults file)
        (fun _ => Conn.Both holds) (fun _ => Conn.Both holds) := by
    have commands := @Failing.Ensures.forM Command Conn Command
      (fun _ => Conn.Both holds) (send implicitlyCommits faults)
      (fun _ => Conn.Both holds) file.commands
      fun command inFile _ =>
        sent command (isOf_of_mem_commands member inFile)
    refine (sent (.read file.name) trivial).bind fun _ =>
      commands.tryCatch fun command => ?_
    intro connection both
    exact ⟨both.1, both.1⟩
  have pending (applied : List String) :=
    @Failing.Ensures.forM Command Conn MigrationFile
      (fun _ => Conn.Both holds) (migrate implicitlyCommits faults)
      (fun _ => Conn.Both holds) (directory.sorted.filter (·.name ∉ applied))
      fun file isPending _ => migrated file
        (MigrationsDir.mem_sorted.mp (List.mem_filter.mp isPending).1)
  refine (sent .createTable trivial).bind fun _ => ?_
  refine (sent .countRecorded trivial).bind fun _ => seen.bind fun _ => ?_
  refine (sent .commitCount trivial).bind fun _ => ?_
  dsimp only
  split_ifs
  · exact .of_pure _ fun _ both => both
  · exact baseline
  · exact (sent .listRecorded trivial).bind fun _ =>
      seen.bind fun connection => pending connection.current.recorded

end Ledgers

end Migrator

section Statements

variable {directory : MigrationsDir} {file : MigrationFile} {place : Place}

theorem statementAt_of_mem (member : file ∈ directory.files)
    (named : place.1 = file.name) :
    directory.statementAt place = file.statements[place.2]? := by
  have found : directory.files.find? (·.name = place.1) = some file := by
    cases found : directory.files.find? (·.name = place.1) with
    | none =>
        have other := List.find?_eq_none.mp found file member
        simp [named] at other
    | some other =>
        have sameName : other.name = place.1 := by
          simpa using List.find?_some found
        rw [MigrationsDir.eq_of_name_eq (List.mem_of_find?_eq_some found)
          member (sameName.trans named)]
  rw [MigrationsDir.statementAt, found]
  rfl

/-- A place keeps its statement when files are added. -/
theorem statementAt_found (appeared : List MigrationFile)
    (member : file ∈ directory.files) (named : place.1 = file.name) :
    (appeared.foldl MigrationsDir.add directory).statementAt place =
      directory.statementAt place := by
  rw [statementAt_of_mem member named,
    statementAt_of_mem (MigrationsDir.mem_found appeared member) named]

/-- The statements of a file, read off their places. -/
theorem statementAt_effects (member : file ∈ directory.files) :
    file.effects.filterMap directory.statementAt = file.statements := by
  have read : ∀ index, directory.statementAt (file.name, index) =
      file.statements[index]? :=
    fun index => statementAt_of_mem member rfl
  have all : (List.range file.statements.length).map
      (file.statements[·]?) = file.statements.map some := by
    apply List.ext_getElem
    · simp
    · intro index inside _
      simp
  have composed : directory.statementAt ∘ (fun index => (file.name, index)) =
      id ∘ (file.statements[·]?) :=
    funext read
  rw [MigrationFile.effects, List.filterMap_map, composed,
    ← List.filterMap_map, all, List.filterMap_map]
  exact List.filterMap_some

end Statements

/-- What holds of a deployment whose database was built from the schema
files. -/
structure Deployment.Built (deployment : Deployment) : Prop where
  phase4 : phase4File ∈ deployment.directory.files
  known : ∀ place ∈ deployment.ledger.effects,
    ∃ file ∈ deployment.directory.files, place.1 = file.name
  untouched : deployment.ledger.recorded = [] → deployment.ledger = .empty

section Starts

variable {server : SchemaServer} {implicitlyCommits : String → Bool}
variable {deployment : Deployment} {start : ProcessStart}

theorem Deployment.Built.step (built : deployment.Built) :
    (deployment.step implicitlyCommits start).Built := by
  have kept (holds : Ledger → Prop) (initial : holds deployment.ledger)
      (keeps : ∀ command : Command, command.IsOf (deployment.found start) →
        ∀ ledger, holds ledger → holds (command.effect ledger)) :
      holds (deployment.step implicitlyCommits start).ledger := by
    have both := @ensures_both implicitlyCommits start.faults
      (deployment.found start) holds keeps
      ⟨deployment.ledger, deployment.ledger⟩ ⟨initial, initial⟩
    rw [Deployment.step]
    split at both
    next connection ran =>
      rw [ran]
      exact both.1
    next command connection ran =>
      rw [ran]
      exact both.1
  refine ⟨MigrationsDir.mem_found _ built.phase4, ?_, ?_⟩
  · apply kept fun ledger => ∀ place ∈ ledger.effects,
      ∃ file ∈ (deployment.found start).files, place.1 = file.name
    · intro place member
      obtain ⟨file, isFile, named⟩ := built.known place member
      exact ⟨file, MigrationsDir.mem_found _ isFile, named⟩
    · intro command isOf ledger known place member
      cases command with
      | statement sentPlace text =>
          rcases List.mem_append.mp member with old | new
          · exact known place old
          · rw [List.mem_singleton.mp new]
            exact isOf
      | _ => exact known place member
  · intro none
    by_cases started : deployment.ledger.recorded = []
    · have some : (deployment.found start).files ≠ [] :=
        List.ne_nil_of_mem (MigrationsDir.mem_found _ built.phase4)
      rcases @atBaseline_step implicitlyCommits _ _ (built.untouched started)
        some with untouched | recorded
      · exact untouched
      · exact absurd none recorded.recorded_ne_nil
    · refine absurd none (kept (·.recorded ≠ []) started ?_)
      intro command _ ledger filled
      cases command with
      | baseline name | record name =>
          exact List.append_ne_nil_of_right_ne_nil _ (List.cons_ne_nil _ _)
      | _ => exact filled

/-- A later start that returns has executed the pending files. -/
theorem ledger_of_returns (started : deployment.ledger.recorded ≠ [])
    (returns : start.Returns implicitlyCommits deployment) :
    (deployment.step implicitlyCommits start).ledger =
      deployment.ledger.withFiles
        ((deployment.found start).pending deployment.ledger) := by
  have ends := @ensures_runMigrations implicitlyCommits start.faults
    (deployment.found start) _ started _ rfl
  rw [ProcessStart.Returns] at returns
  rw [Deployment.step]
  split at ends
  next connection ran =>
    rw [ran]
    exact ends
  next command connection ran =>
    rw [ran] at returns
    cases returns

/-- The first start that returns has executed nothing. -/
theorem ledger_of_first (untouched : deployment.ledger = .empty)
    (returns : start.Returns implicitlyCommits deployment) :
    (deployment.step implicitlyCommits start).ledger =
      .atBaseline (deployment.found start).sorted := by
  have ends := @ensures_firstMigrations implicitlyCommits start.faults
    (deployment.found start) ⟨deployment.ledger, deployment.ledger⟩
    (by rw [untouched])
  rw [ProcessStart.Returns] at returns
  rw [Deployment.step]
  split at ends
  next connection ran =>
    rw [ran]
    exact ends
  next command connection ran =>
    rw [ran] at returns
    cases returns

/-- The built schema leaves out what the second file creates. -/
theorem not_recordedPresent_of_first (adds : server.AddsCatalogType)
    (built : deployment.Built) (untouched : deployment.ledger = .empty)
    (returns : start.Returns implicitlyCommits deployment) :
    ¬ server.RecordedPresent (deployment.step implicitlyCommits start) := by
  intro present
  have ledger := ledger_of_first untouched returns
  have isFile : phase4File ∈ (deployment.found start).files :=
    MigrationsDir.mem_found _ built.phase4
  have recorded : phase4File.name ∈
      (deployment.step implicitlyCommits start).ledger.recorded := by
    rw [ledger]
    exact List.mem_map_of_mem (MigrationsDir.mem_sorted.mpr isFile)
  have creates : .column "categories" "catalog_type" ∈
      server.createsIn phase4File :=
    List.mem_flatMap.mpr ⟨addCatalogType, addCatalogType_mem, adds⟩
  have there := present phase4File isFile recorded _ creates
  have schema : server.schema (deployment.step implicitlyCommits start) =
      builtSchema := by
    rw [SchemaServer.schema, ledger]
    rfl
  rw [schema] at there
  revert there
  decide +kernel

theorem recordedPresent_iff (built : deployment.Built)
    (started : deployment.ledger.recorded ≠ [])
    (returns : start.Returns implicitlyCommits deployment) :
    server.RecordedPresent (deployment.step implicitlyCommits start) ↔
      ∀ file ∈ (deployment.found start).files,
        ∀ object ∈ server.createsIn file, object ∈
          server.executeAll
            (((deployment.found start).pending deployment.ledger).flatMap
              MigrationFile.statements)
            (server.schema deployment) := by
  have ledger := ledger_of_returns started returns
  have schema : server.schema (deployment.step implicitlyCommits start) =
      server.executeAll
        (((deployment.found start).pending deployment.ledger).flatMap
          MigrationFile.statements)
        (server.schema deployment) := by
    have earlier : deployment.ledger.effects.filterMap
          (deployment.found start).statementAt =
        deployment.ledger.effects.filterMap
          deployment.directory.statementAt := by
      apply List.filterMap_congr
      intro place member
      obtain ⟨file, isFile, named⟩ := built.known place member
      exact statementAt_found start.appeared isFile named
    have later : (((deployment.found start).pending
          deployment.ledger).flatMap MigrationFile.effects).filterMap
          (deployment.found start).statementAt =
        ((deployment.found start).pending deployment.ledger).flatMap
          MigrationFile.statements := by
      rw [List.filterMap_flatMap]
      apply List.flatMap_congr
      intro file isPending
      exact statementAt_effects (MigrationsDir.mem_pending.mp isPending).1
    rw [SchemaServer.schema, ledger]
    simp only [Ledger.withFiles, List.filterMap_append]
    have directory : (deployment.step implicitlyCommits start).directory =
        deployment.found start := rfl
    rw [directory, earlier, later, SchemaServer.executeAll,
      List.foldl_append]
    rfl
  have recorded : ∀ file ∈ (deployment.found start).files, file.name ∈
      (deployment.step implicitlyCommits start).ledger.recorded := by
    intro file isFile
    rw [ledger]
    by_cases earlier : file.name ∈ deployment.ledger.recorded
    · exact List.mem_append_left _ earlier
    · exact List.mem_append_right _ (List.mem_map_of_mem
        (MigrationsDir.mem_pending.mpr ⟨isFile, earlier⟩))
  rw [← schema]
  constructor
  · intro present file isFile
    exact present file isFile (recorded file isFile)
  · intro all file isFile _
    exact all file isFile

end Starts

/-- In every run that starts with the shipped files, and with a database built
from the schema files, the record is right after each start that returns if
and only if no start returns as the first one, and each one makes up for what
the earlier ones have recorded and not executed. -/
theorem leavesRecordRight_iff (server : SchemaServer)
    (adds : server.AddsCatalogType) (implicitlyCommits : String → Bool)
    (directory : MigrationsDir)
    (shipped : ∀ file ∈ shippedFiles, file ∈ directory.files)
    (starts : List ProcessStart) :
    StepRuns.Along (Deployment.step implicitlyCommits)
        (fun deployment start =>
          start.LeavesRecordRight server implicitlyCommits deployment)
        ⟨directory, .empty⟩ starts ↔
      StepRuns.Along (Deployment.step implicitlyCommits)
        (fun deployment start =>
          start.MakesUp server implicitlyCommits deployment)
        ⟨directory, .empty⟩ starts := by
  apply StepRuns.along_iff Deployment.Built
  · intro deployment start built
    refine forall_congr' fun returns => ?_
    by_cases started : deployment.ledger.recorded = []
    · refine iff_of_false ?_ fun makesUp => makesUp.1 started
      exact not_recordedPresent_of_first adds built (built.untouched started)
        returns
    · rw [recordedPresent_iff built started returns]
      exact (and_iff_right started).symm
  · exact fun _ _ built _ => built.step
  · refine ⟨shipped _ (by simp [shippedFiles]), ?_, fun _ => rfl⟩
    intro place member
    cases member

/-- The words of a statement. -/
def statementWords (statement : String) : List String :=
  ((statement.toList.splitOnP ChargeService.isSpace).filter (· ≠ [])).map
    String.ofList

/-- The columns in the lines of a table definition: names are written in small
letters, and everything else is not. -/
def definedColumns (statement : String) : List String :=
  ((ChargeService.splitLines [] statement.toList).drop 1).filterMap
    fun line =>
      match (statementWords (String.ofList line)).head? with
      | some word =>
          if (word.toList.head?.any Char.isLower) then some word else none
      | none => none

/-- What the shipped files do to the schema. -/
inductive SchemaChange where
  | addColumn (table column : String)
  | createTable (table : String) (columns : List String)
  deriving DecidableEq, Repr

def SchemaChange.objects : SchemaChange → List SchemaObject
  | .addColumn table column => [.column table column]
  | .createTable table columns =>
      .table table :: columns.map (.column table)

def readChange (statement : String) : Option SchemaChange :=
  match statementWords statement with
  | "ALTER" :: "TABLE" :: table :: "ADD" :: "COLUMN" :: "IF" :: "NOT" ::
      "EXISTS" :: column :: _ => some (.addColumn table column)
  | "CREATE" :: "TABLE" :: "IF" :: "NOT" :: "EXISTS" :: table :: _ =>
      some (.createTable table (definedColumns statement))
  | _ => none

/-- A server that knows the statements of the shipped files.  Nothing of what
they drop is in the built schema. -/
def addingServer : SchemaServer where
  creates statement :=
    ((readChange statement).map SchemaChange.objects).getD []
  execute statement schema :=
    match readChange statement with
    | none => schema
    | some change =>
        if change.objects.head?.any (· ∈ schema) then schema
        else schema ++ change.objects

theorem addsCatalogType_addingServer : addingServer.AddsCatalogType := by
  have read : readChange addCatalogType =
      some (.addColumn "categories" "catalog_type") := by
    decide +kernel
  rw [SchemaServer.AddsCatalogType, addingServer]
  simp [read, SchemaChange.objects]

/-- The directory as it is shipped. -/
def shippedDirectory : MigrationsDir where
  files := shippedFiles
  distinct := by decide

/-- The files are there, and no command fails. -/
def plainStart : ProcessStart where
  appeared := []
  faults _ := none

theorem returns_plainStart :
    plainStart.Returns definesTable ⟨shippedDirectory, .empty⟩ := by
  rw [ProcessStart.Returns]
  decide +kernel

theorem leavesRecordRight_iff_shipped :
    ¬ StepRuns.Along (Deployment.step definesTable)
        (fun deployment start =>
          start.LeavesRecordRight addingServer definesTable deployment)
        ⟨shippedDirectory, .empty⟩ [plainStart] := by
  rw [leavesRecordRight_iff addingServer addsCatalogType_addingServer
    definesTable shippedDirectory (fun _ member => member)]
  rintro ⟨makesUp, -⟩
  exact (makesUp returns_plainStart).1 rfl

/-- After the first start, `categories` has no kinds of catalogs although the
file that adds them is recorded. -/
theorem first_start_executes_nothing :
    let after := Deployment.step definesTable ⟨shippedDirectory, .empty⟩
      plainStart
    plainStart.Returns definesTable ⟨shippedDirectory, .empty⟩ ∧
      phase4File.name ∈ after.ledger.recorded ∧
      .column "categories" "catalog_type" ∈ addingServer.createsIn phase4File ∧
      .column "categories" "catalog_type" ∉ addingServer.schema after ∧
      ¬ StepRuns.Along (Deployment.step definesTable)
          (fun deployment start =>
            start.LeavesRecordRight addingServer definesTable deployment)
          ⟨shippedDirectory, .empty⟩ [plainStart] := by
  intro after
  have ledger : after.ledger = .atBaseline shippedDirectory.sorted :=
    ledger_of_first rfl returns_plainStart
  have isFile : phase4File ∈ shippedDirectory.files := by
    simp [shippedDirectory, shippedFiles]
  have recorded : phase4File.name ∈ after.ledger.recorded := by
    rw [ledger]
    exact List.mem_map_of_mem (MigrationsDir.mem_sorted.mpr isFile)
  have creates : .column "categories" "catalog_type" ∈
      addingServer.createsIn phase4File :=
    List.mem_flatMap.mpr
      ⟨addCatalogType, addCatalogType_mem, addsCatalogType_addingServer⟩
  have schema : addingServer.schema after = builtSchema := by
    rw [SchemaServer.schema, ledger]
    rfl
  have missing : .column "categories" "catalog_type" ∉
      addingServer.schema after := by
    rw [schema]
    decide +kernel
  refine ⟨returns_plainStart, recorded, creates, missing, ?_⟩
  rintro ⟨right, -⟩
  exact missing (right returns_plainStart phase4File isFile recorded _ creates)

end Baste
