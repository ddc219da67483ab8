import Baste.FailingPrograms
import Baste.TypedText
import Mathlib.Data.List.Sort
import Mathlib.Data.String.Basic

/-!
# Migrations

At its start the process executes the files of the migrations directory that
`schema_migrations` does not have yet, in the order of their names.  Each file
is a list of statements on one connection, and the server commits what the
connection has done so far before and after a statement that changes the
schema, whatever becomes of the rest of the file.
-/

namespace Baste

/-- A file of the migrations directory. -/
structure MigrationFile where
  name : String
  text : String
  deriving DecidableEq

/-- The migrations directory. -/
structure MigrationsDir where
  files : List MigrationFile
  distinct : (files.map MigrationFile.name).Nodup

/-- The directory with another file.  A name that is there already is not
new. -/
def MigrationsDir.add (directory : MigrationsDir) (file : MigrationFile) :
    MigrationsDir :=
  if known : file.name ∈ directory.files.map MigrationFile.name then directory
  else
    { files := file :: directory.files
      distinct := List.nodup_cons.mpr ⟨known, directory.distinct⟩ }

namespace Migrator

open ChargeService (splitLines strip)

/-- `_split_statements` -/
def splitStatements (sqlText : String) : List String :=
  let lines := (splitLines [] sqlText.toList).filter fun line =>
    let stripped := strip line
    !(['-', '-'].isPrefixOf stripped || stripped.isEmpty)
  let cleaned := (['\n'] : List Char).intercalate lines
  let statements := (cleaned.splitOn ';').map strip
  (statements.filter (!·.isEmpty)).map String.ofList

/-- Where a statement stands: its file and its position in it. -/
abbrev Place := String × Nat

/-- What the migrations have left in the database: the rows of
`schema_migrations`, and the statements of the files that have taken effect,
in this order. -/
structure Ledger where
  recorded : List String
  effects : List Place

/-- What the process asks of the server, or of the file system. -/
inductive Command where
  | createTable
  | countRecorded
  | commitCount
  | baseline (name : String)
  | commitBaseline
  | listRecorded
  | read (name : String)
  | statement (place : Place) (text : String)
  | record (name : String)
  | commit (name : String)
  deriving DecidableEq

/-- How a command fails: the server may have committed before that, and only
its answer is an error. -/
inductive CommandFault where
  | undone
  | committed
  deriving DecidableEq

abbrev CommandFaults := Command → Option CommandFault

/-- A connection: what is committed, and what its transaction sees. -/
structure Conn where
  durable : Ledger
  current : Ledger

def Conn.commit (connection : Conn) : Conn :=
  { connection with durable := connection.current }

def Conn.rollback (connection : Conn) : Conn :=
  { connection with current := connection.durable }

/-- A program that uses the connection.  It fails at some command. -/
abbrev MigrationScript := Failing Command Conn

namespace Command

/-- What a command does to the ledger. -/
def effect (ledger : Ledger) : Command → Ledger
  | .baseline name | .record name =>
      { ledger with recorded := ledger.recorded ++ [name] }
  | .statement place _ =>
      { ledger with effects := ledger.effects ++ [place] }
  | _ => ledger

/-- The server commits the open transaction with the command.  For a
statement of a file it depends on its text. -/
def commits (implicitlyCommits : String → Bool) : Command → Bool
  | .createTable | .commitCount | .commitBaseline | .commit _ => true
  | .statement _ text => implicitlyCommits text
  | _ => false

end Command

section Running

variable (implicitlyCommits : String → Bool) (faults : CommandFaults)

/-- `cur.execute`, and the other commands. -/
def send (command : Command) : MigrationScript Unit := do
  match faults command with
  | none =>
      modify fun connection =>
        let after := command.effect connection.current
        if command.commits implicitlyCommits then ⟨after, after⟩
        else { connection with current := after }
  | some .undone => throw command
  | some .committed =>
      if command.commits implicitlyCommits then modify (·.commit)
      throw command

end Running

end Migrator

/-- The statements of a file. -/
def MigrationFile.statements (file : MigrationFile) : List String :=
  Migrator.splitStatements file.text

/-- The commands that execute a file: its statements, its row in
`schema_migrations`, and the commit. -/
@[irreducible]
def MigrationFile.commands (file : MigrationFile) : List Migrator.Command :=
  (file.statements.mapIdx fun index text =>
    .statement (file.name, index) text) ++
      [.record file.name, .commit file.name]

/-- `sorted(MIGRATIONS_DIR.glob("*.sql"))` -/
def MigrationsDir.sorted (directory : MigrationsDir) : List MigrationFile :=
  directory.files.insertionSort fun first second => first.name ≤ second.name

namespace Migrator

section Running

variable (implicitlyCommits : String → Bool) (faults : CommandFaults)

/-- One turn of the loop over the pending files. -/
def migrate (file : MigrationFile) : MigrationScript Unit := do
  send implicitlyCommits faults (.read file.name)
  try
    file.commands.forM (send implicitlyCommits faults)
  catch command =>
    modify Conn.rollback
    throw command

/-- Record the existing files without executing them. -/
def recordBaseline (allFiles : List MigrationFile) : MigrationScript Unit := do
  allFiles.forM fun file =>
    send implicitlyCommits faults (.baseline file.name)
  send implicitlyCommits faults .commitBaseline

def runMigrations (directory : MigrationsDir) : MigrationScript Unit := do
  send implicitlyCommits faults .createTable
  send implicitlyCommits faults .countRecorded
  let alreadyAppliedCount := (← get).current.recorded.length
  send implicitlyCommits faults .commitCount
  let allFiles := directory.sorted
  if allFiles = [] then pure ()
  else if alreadyAppliedCount = 0 then
    recordBaseline implicitlyCommits faults allFiles
  else
    send implicitlyCommits faults .listRecorded
    let applied := (← get).current.recorded
    let pending := allFiles.filter (·.name ∉ applied)
    pending.forM (migrate implicitlyCommits faults)

end Running

end Migrator

/-- The directory and the database between two starts of the process. -/
structure Deployment where
  directory : MigrationsDir
  ledger : Migrator.Ledger

/-- A start of the process: the files that have appeared since the last one,
and the commands that fail.  A crash is the failure of the next command. -/
structure ProcessStart where
  appeared : List MigrationFile
  faults : Migrator.CommandFaults

namespace Deployment

/-- The directory that a start finds. -/
def found (deployment : Deployment) (start : ProcessStart) : MigrationsDir :=
  start.appeared.foldl MigrationsDir.add deployment.directory

/-- What a start leaves.  When the process stops, the server rolls back what
it has not committed. -/
def step (implicitlyCommits : String → Bool) (deployment : Deployment)
    (start : ProcessStart) : Deployment where
  directory := deployment.found start
  ledger := ((Migrator.runMigrations implicitlyCommits start.faults
    (deployment.found start)).runOn
      ⟨deployment.ledger, deployment.ledger⟩).2.durable

end Deployment

end Baste
