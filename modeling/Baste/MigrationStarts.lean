import Baste.Migrator
import Baste.StepRuns

/-!
# Starts with migrations

A file whose execution fails is executed again from its beginning at the next
start, although the server may have committed some of its statements.  As long
as no file is cut in two like this, and new files come after those that have
taken effect, each file is executed exactly once.
-/

namespace Baste

open Migrator

/-- The statements of the file, as they take effect. -/
def MigrationFile.effects (file : MigrationFile) : List Place :=
  (List.range file.statements.length).map fun index => (file.name, index)

@[simp]
theorem MigrationFile.mem_effects {file : MigrationFile} {place : Place} :
    place ∈ file.effects ↔
      place.1 = file.name ∧ place.2 < file.statements.length := by
  obtain ⟨name, index⟩ := place
  simp only [effects, List.mem_map, List.mem_range, Prod.mk.injEq]
  constructor
  · rintro ⟨_, small, rfl, rfl⟩
    exact ⟨rfl, small⟩
  · rintro ⟨rfl, small⟩
    exact ⟨index, small, rfl, rfl⟩

theorem MigrationFile.nodup_effects (file : MigrationFile) :
    file.effects.Nodup := by
  refine List.nodup_range.map ?_
  intro first second same
  simpa using same

namespace Migrator.Ledger

/-- The ledger after the execution of a file. -/
def withFile (ledger : Ledger) (file : MigrationFile) : Ledger where
  recorded := ledger.recorded ++ [file.name]
  effects := ledger.effects ++ file.effects

/-- The ledger after the execution of some files. -/
def withFiles (ledger : Ledger) (files : List MigrationFile) : Ledger where
  recorded := ledger.recorded ++ files.map MigrationFile.name
  effects := ledger.effects ++ files.flatMap MigrationFile.effects

@[simp]
theorem withFiles_nil (ledger : Ledger) : ledger.withFiles [] = ledger := by
  simp [withFiles]

theorem withFiles_append (ledger : Ledger)
    (first second : List MigrationFile) :
    ledger.withFiles (first ++ second) =
      (ledger.withFiles first).withFiles second := by
  simp [withFiles]

theorem withFiles_concat (ledger : Ledger) (files : List MigrationFile)
    (file : MigrationFile) :
    ledger.withFiles (files ++ [file]) =
      (ledger.withFiles files).withFile file := by
  simp [withFiles, withFile]

end Migrator.Ledger

namespace Migrator

/-- The ledger after some commands. -/
def after (commands : List Command) (ledger : Ledger) : Ledger :=
  commands.foldl Command.effect ledger

theorem after_concat (commands : List Command) (command : Command)
    (ledger : Ledger) :
    after (commands ++ [command]) ledger =
      command.effect (after commands ledger) := by
  simp [after, List.foldl_append]

theorem after_statements (name : String) (statements : List String)
    (ledger : Ledger) :
    after (statements.mapIdx fun index text => .statement (name, index) text)
        ledger =
      { ledger with
        effects := ledger.effects ++
          (List.range statements.length).map fun index => (name, index) } := by
  induction statements using List.reverseRecOn with
  | nil => simp [after]
  | append_singleton statements text ih =>
      rw [List.mapIdx_concat, after_concat, ih]
      simp [Command.effect, List.range_succ]

theorem after_commands (file : MigrationFile) (ledger : Ledger) :
    after file.commands ledger = ledger.withFile file := by
  have recorded := after_statements file.name file.statements ledger
  rw [after] at recorded
  rw [MigrationFile.commands, after, List.foldl_append, recorded]
  rfl

/-- Nothing comes after the commit of a file. -/
theorem eq_nil_of_commit {file : MigrationFile} {done rest : List Command}
    (split : file.commands = done ++ .commit file.name :: rest) :
    rest = [] := by
  cases rest using List.reverseRecOn with
  | nil => rfl
  | append_singleton rest last =>
      have sameLength : file.statements.mapIdx
            (fun index text => Command.statement (file.name, index) text) ++
              [.record file.name] ++ [.commit file.name] =
          (done ++ .commit file.name :: rest) ++ [last] := by
        simpa [MigrationFile.commands] using split
      obtain ⟨initial, _⟩ := List.append_inj' sameLength rfl
      have member : Command.commit file.name ∈
          done ++ .commit file.name :: rest := by
        simp
      rw [← initial] at member
      simp [List.mem_mapIdx] at member

end Migrator

section Contracts

variable {implicitlyCommits : String → Bool} {faults : CommandFaults}

/-- The contract of a command: one case for each way it can end. -/
theorem ensures_oneCommand {command : Command} {before : Conn → Prop}
    {next : Unit → Conn → Prop} {failure : Command → Conn → Prop}
    (works : ∀ connection, before connection → faults command = none →
      next () (if command.commits implicitlyCommits then
          ⟨command.effect connection.current,
            command.effect connection.current⟩
        else ⟨connection.durable, command.effect connection.current⟩))
    (undone : ∀ connection fault, before connection →
      faults command = some fault →
      (fault = .committed → command.commits implicitlyCommits = false) →
        failure command connection)
    (committed : ∀ connection, before connection →
      faults command = some .committed →
      command.commits implicitlyCommits = true →
        failure command connection.commit) :
    Failing.Ensures before (send implicitlyCommits faults command) next
      failure := by
  intro connection holds
  unfold send
  cases fault : faults command with
  | none => exact works connection holds fault
  | some kind =>
      cases kind with
      | undone => exact undone connection _ holds fault (by simp)
      | committed =>
          cases commits : command.commits implicitlyCommits with
          | false =>
              exact undone connection _ holds fault fun _ => commits
          | true => exact committed connection holds fault commits

/-- Some of the commands have been executed. -/
structure Underway (implicitlyCommits : String → Bool) (faults : CommandFaults)
    (commands : List Command) (ledger : Ledger) (rest : List Command)
    (done : List Command) (connection : Conn) : Prop where
  split : commands = done ++ rest
  worked : ∀ command ∈ done, faults command = none
  current : connection.current = after done ledger
  /-- Nothing is committed before the first command that commits. -/
  uncommitted : (∀ command ∈ done,
      command.commits implicitlyCommits = false) →
    connection.durable = ledger
  /-- Everything is committed after a command that commits. -/
  committed : ∀ last, done.getLast? = some last →
    last.commits implicitlyCommits = true →
      connection.durable = connection.current

/-- What holds when a command fails. -/
structure Halted (implicitlyCommits : String → Bool) (faults : CommandFaults)
    (commands : List Command) (ledger : Ledger) (command : Command)
    (fault : CommandFault) (done : List Command) (connection : Conn) :
    Prop where
  fails : faults command = some fault
  split : ∃ rest, commands = done ++ command :: rest
  worked : ∀ earlier ∈ done, faults earlier = none
  durable_undone :
    (fault = .committed → command.commits implicitlyCommits = false) →
      (∀ earlier ∈ done, earlier.commits implicitlyCommits = false) →
        connection.durable = ledger
  durable_committed : fault = .committed →
    command.commits implicitlyCommits = true →
      connection.durable = after done ledger

/-- The rest of the commands is still to be executed. -/
def CommandsLeft (implicitlyCommits : String → Bool) (faults : CommandFaults)
    (commands : List Command) (ledger : Ledger) (rest : List Command)
    (connection : Conn) : Prop :=
  ∃ done, Underway implicitlyCommits faults commands ledger rest done
    connection

/-- Some command has failed. -/
def CommandFailed (implicitlyCommits : String → Bool) (faults : CommandFaults)
    (commands : List Command) (ledger : Ledger) (connection : Conn) :
    Prop :=
  ∃ command fault done, Halted implicitlyCommits faults commands ledger
    command fault done connection

theorem ensures_rest (commands : List Command) (ledger : Ledger) :
    Failing.Ensures
      (CommandsLeft implicitlyCommits faults commands ledger commands)
      (commands.forM (send implicitlyCommits faults))
      (fun _ => CommandsLeft implicitlyCommits faults commands ledger [])
      (fun _ =>
        CommandFailed implicitlyCommits faults commands ledger) := by
  apply Failing.Ensures.forM
  intro command _ rest
  apply ensures_oneCommand
  · rintro connection ⟨done, underway⟩ works
    refine ⟨done ++ [command], by simp [underway.split], ?_, ?_, ?_, ?_⟩
    · intro earlier member
      rcases List.mem_append.mp member with member | last
      · exact underway.worked earlier member
      · exact List.mem_singleton.mp last ▸ works
    · rw [after_concat, ← underway.current]
      split <;> rfl
    · intro none
      have noCommit := none command (by simp)
      simp only [noCommit, Bool.false_eq_true, if_false]
      exact underway.uncommitted fun earlier member =>
        none earlier (by simp [member])
    · intro last isLast commits
      obtain rfl : command = last := by simpa using isLast
      simp [commits]
  · rintro connection fault ⟨done, underway⟩ fails noCommit
    refine ⟨command, fault, done, fails, ⟨rest, underway.split⟩,
      underway.worked, fun _ => underway.uncommitted, ?_⟩
    intro committed commits
    simp [noCommit committed] at commits
  · rintro connection ⟨done, underway⟩ fails commits
    refine ⟨command, .committed, done, fails, ⟨rest, underway.split⟩,
      underway.worked, ?_, fun _ _ => underway.current⟩
    intro noCommit
    simp [noCommit rfl] at commits

theorem ensures_commands (commands : List Command) (ledger : Ledger) :
    Failing.Ensures (fun connection => connection = ⟨ledger, ledger⟩)
      (commands.forM (send implicitlyCommits faults))
      (fun _ => Underway implicitlyCommits faults commands ledger [] commands)
      (fun _ =>
        CommandFailed implicitlyCommits faults commands ledger) := by
  refine (ensures_rest commands ledger).weaken ?_ ?_ ?_
  · rintro connection rfl
    exact ⟨[], rfl, by simp, rfl, fun _ => rfl, by simp⟩
  · rintro _ connection ⟨done, underway⟩
    have all := underway.split
    rw [List.append_nil] at all
    exact all ▸ underway
  · exact fun _ _ failed => failed

/-- The file does not fail when a part of it has been committed: before its
failure nothing was committed, or its last commit was all that failed, and
only to answer. -/
def MigrationFile.NotCut (implicitlyCommits : String → Bool)
    (faults : CommandFaults) (file : MigrationFile) : Prop :=
  ∀ done command rest fault, file.commands = done ++ command :: rest →
    (∀ earlier ∈ done, faults earlier = none) →
    faults command = some fault →
      (command = .commit file.name ∧ fault = .committed) ∨
        ((∀ earlier ∈ done, earlier.commits implicitlyCommits = false) ∧
          (fault = .committed → command.commits implicitlyCommits = true →
            done = []))

/-- No command of the file fails. -/
def MigrationFile.Works (faults : CommandFaults) (file : MigrationFile) :
    Prop :=
  faults (.read file.name) = none ∧
    ∀ command ∈ file.commands, faults command = none

/-- The file is read and recorded, if it has no statements. -/
def MigrationFile.IsRecorded (faults : CommandFaults)
    (file : MigrationFile) : Prop :=
  faults (.read file.name) = none ∧ faults (.record file.name) = none ∧
    faults (.commit file.name) ≠ some .undone

/-- A file that is not cut is executed as a whole or not at all. -/
theorem durable_of_notCut {file : MigrationFile} {ledger : Ledger}
    {command : Command} {fault : CommandFault} {done : List Command}
    {connection : Conn}
    (interrupted : Halted implicitlyCommits faults file.commands ledger
      command fault done connection)
    (notCut : file.NotCut implicitlyCommits faults) :
    connection.durable = ledger ∨
      connection.durable = ledger.withFile file := by
  obtain ⟨rest, split⟩ := interrupted.split
  rcases notCut done command rest fault split interrupted.worked
    interrupted.fails with ⟨isCommit, committed⟩ | ⟨uncommitted, atStart⟩
  · subst isCommit
    have last := eq_nil_of_commit split
    subst last
    right
    rw [interrupted.durable_committed committed rfl, ← after_commands,
      split, after_concat]
    rfl
  · by_cases commits : fault = .committed →
        command.commits implicitlyCommits = false
    · exact .inl (interrupted.durable_undone commits uncommitted)
    · obtain ⟨committed, commits⟩ := Classical.not_imp.mp commits
      rw [Bool.not_eq_false] at commits
      have durable := interrupted.durable_committed committed commits
      rw [atStart committed commits] at durable
      exact .inl durable

/-- A file without statements that is recorded is executed as a whole. -/
theorem durable_of_isRecorded {file : MigrationFile} {ledger : Ledger}
    {command : Command} {fault : CommandFault} {done : List Command}
    {connection : Conn}
    (interrupted : Halted implicitlyCommits faults file.commands ledger
      command fault done connection)
    (empty : file.statements = []) (recorded : file.IsRecorded faults) :
    connection.durable = ledger.withFile file := by
  obtain ⟨_, noRecordFault, commitAnswers⟩ := recorded
  have commands : file.commands =
      [.record file.name, .commit file.name] := by
    simp [MigrationFile.commands, empty]
  obtain ⟨rest, split⟩ := interrupted.split
  have member : command ∈ file.commands := by simp [split]
  have fails := interrupted.fails
  simp only [commands, List.mem_cons, List.not_mem_nil, or_false] at member
  rcases member with rfl | rfl
  · simp [noRecordFault] at fails
  · have last := eq_nil_of_commit split
    subst last
    have committed : fault = .committed := by
      cases fault with
      | undone => exact absurd fails commitAnswers
      | committed => rfl
    rw [interrupted.durable_committed committed rfl, ← after_commands,
      split, after_concat]
    rfl

/-- What holds when the execution of a file has failed. -/
structure FileFailed (implicitlyCommits : String → Bool)
    (faults : CommandFaults) (ledger : Ledger) (file : MigrationFile)
    (connection : Conn) : Prop where
  not_works : ¬ file.Works faults
  durable : file.NotCut implicitlyCommits faults →
    connection.durable = ledger ∨ connection.durable = ledger.withFile file
  durable_empty : file.statements = [] → file.IsRecorded faults →
    connection.durable = ledger.withFile file

/-- A command that only reads. -/
theorem ensures_quietCommand {command : Command} (ledger : Ledger)
    (quiet : ∀ ledger, command.effect ledger = ledger) :
    Failing.Ensures (fun connection => connection = ⟨ledger, ledger⟩)
      (send implicitlyCommits faults command)
      (fun _ connection =>
        faults command = none ∧ connection = ⟨ledger, ledger⟩)
      (fun _ connection =>
        faults command ≠ none ∧ connection = ⟨ledger, ledger⟩) := by
  apply ensures_oneCommand
  · rintro connection rfl works
    simp [works, quiet]
  · rintro connection fault rfl fails _
    simp [fails]
  · rintro connection rfl fails _
    simp [fails, Conn.commit]

/-- The statements of a file with their rollback. -/
theorem ensures_tryCommands (file : MigrationFile) (ledger : Ledger)
    (readable : faults (.read file.name) = none) :
    Failing.Ensures (fun connection => connection = ⟨ledger, ledger⟩)
      (try
        file.commands.forM (send implicitlyCommits faults)
      catch command =>
        modify Conn.rollback
        throw command)
      (fun _ connection => file.Works faults ∧
        connection = ⟨ledger.withFile file, ledger.withFile file⟩)
      (fun _ => FileFailed implicitlyCommits faults ledger file) := by
  have works : Failing.Ensures
      (fun connection => connection = ⟨ledger, ledger⟩)
      (file.commands.forM (send implicitlyCommits faults))
      (fun _ connection => file.Works faults ∧
        connection = ⟨ledger.withFile file, ledger.withFile file⟩)
      (fun _ => CommandFailed implicitlyCommits faults file.commands
        ledger) := by
    refine (ensures_commands file.commands ledger).weaken ?_ ?_ ?_
    · exact fun _ holds => holds
    · intro _ connection underway
      refine ⟨⟨readable, underway.worked⟩, ?_⟩
      obtain ⟨durable, current⟩ := connection
      obtain rfl : current = ledger.withFile file :=
        underway.current.trans (after_commands file ledger)
      obtain rfl : durable = ledger.withFile file :=
        underway.committed (.commit file.name)
          (by simp [MigrationFile.commands]) rfl
      rfl
    · exact fun _ _ failed => failed
  refine works.tryCatch ?_
  rintro error connection ⟨command, fault, done, interrupted⟩
  have durable := durable_of_notCut interrupted
  have durableEmpty := durable_of_isRecorded interrupted
  refine ⟨?_, durable, durableEmpty⟩
  intro works
  obtain ⟨rest, split⟩ := interrupted.split
  have noFault := works.2 command (by simp [split])
  simp [interrupted.fails] at noFault

theorem ensures_migrate (file : MigrationFile) (ledger : Ledger) :
    Failing.Ensures (fun connection => connection = ⟨ledger, ledger⟩)
      (migrate implicitlyCommits faults file)
      (fun _ connection => file.Works faults ∧
        connection = ⟨ledger.withFile file, ledger.withFile file⟩)
      (fun _ => FileFailed implicitlyCommits faults ledger file) := by
  have read : Failing.Ensures
      (fun connection => connection = ⟨ledger, ledger⟩)
      (send implicitlyCommits faults (.read file.name))
      (fun _ connection =>
        faults (.read file.name) = none ∧ connection = ⟨ledger, ledger⟩)
      (fun _ => FileFailed implicitlyCommits faults ledger file) := by
    refine (ensures_quietCommand ledger fun _ => rfl).weaken ?_ ?_ ?_
    · exact fun _ holds => holds
    · exact fun _ _ holds => holds
    · rintro _ connection ⟨fails, rfl⟩
      exact ⟨fun works => fails works.1, fun _ => .inl rfl,
        fun _ recorded => absurd recorded.1 fails⟩
  refine read.bind ?_
  rintro _ connection ⟨readable, same⟩
  exact ensures_tryCommands file ledger readable connection same

/-- No command of a start fails before the first file. -/
def MainWorks (faults : CommandFaults) : Prop :=
  faults .createTable = none ∧ faults .countRecorded = none ∧
    faults .commitCount = none ∧ faults .listRecorded = none

/-- The files that a start finds and that are not recorded, in the order in
which they are executed. -/
def MigrationsDir.pending (directory : MigrationsDir) (ledger : Ledger) :
    List MigrationFile :=
  directory.sorted.filter (·.name ∉ ledger.recorded)

/-- What a start that fails has done to the ledger. -/
inductive StartFailed (implicitlyCommits : String → Bool)
    (faults : CommandFaults) (ledger : Ledger) (pending : List MigrationFile)
    (connection : Conn) : Prop where
  | early (fails : ¬ MainWorks faults)
      (durable : connection.durable = ledger)
  | inFile (done : List MigrationFile) (file : MigrationFile)
      (rest : List MigrationFile) (main : MainWorks faults)
      (split : pending = done ++ file :: rest)
      (worked : ∀ earlier ∈ done, earlier.Works faults)
      (failed : FileFailed implicitlyCommits faults
        (ledger.withFiles done) file connection)

/-- The rest of the pending files is still to be executed. -/
structure FilesLeft (faults : CommandFaults) (pending : List MigrationFile)
    (ledger : Ledger) (rest : List MigrationFile) (connection : Conn) :
    Prop where
  progress : ∃ done, pending = done ++ rest ∧
    (∀ earlier ∈ done, earlier.Works faults) ∧
      connection = ⟨ledger.withFiles done, ledger.withFiles done⟩

theorem ensures_pending (main : MainWorks faults)
    (pending : List MigrationFile) (ledger : Ledger) :
    Failing.Ensures (FilesLeft faults pending ledger pending)
      (pending.forM (migrate implicitlyCommits faults))
      (fun _ => FilesLeft faults pending ledger [])
      (fun _ => StartFailed implicitlyCommits faults ledger pending) := by
  apply Failing.Ensures.forM
  rintro file _ rest connection ⟨done, split, worked, rfl⟩
  have migrated : Failing.Ensures (fun connection => connection =
        ⟨ledger.withFiles done, ledger.withFiles done⟩)
      (migrate implicitlyCommits faults file)
      (fun _ => FilesLeft faults pending ledger rest)
      (fun _ => StartFailed implicitlyCommits faults ledger pending) := by
    refine (ensures_migrate file (ledger.withFiles done)).weaken ?_ ?_ ?_
    · exact fun _ holds => holds
    · rintro _ connection ⟨works, rfl⟩
      refine ⟨done ++ [file], by simp [split], ?_, ?_⟩
      · intro earlier member
        rcases List.mem_append.mp member with member | last
        · exact worked earlier member
        · exact List.mem_singleton.mp last ▸ works
      · rw [Ledger.withFiles_concat]
    · exact fun _ connection failed =>
        .inFile done file rest main split worked failed
  exact migrated _ rfl

/-- A command before the first file. -/
theorem ensures_mainCommand {command : Command} (ledger : Ledger)
    (pending : List MigrationFile)
    (quiet : ∀ ledger, command.effect ledger = ledger)
    (main : MainWorks faults → faults command = none) :
    Failing.Ensures (fun connection => connection = ⟨ledger, ledger⟩)
      (send implicitlyCommits faults command)
      (fun _ connection =>
        faults command = none ∧ connection = ⟨ledger, ledger⟩)
      (fun _ => StartFailed implicitlyCommits faults ledger pending) := by
  refine (ensures_quietCommand ledger quiet).weaken ?_ ?_ ?_
  · exact fun _ holds => holds
  · exact fun _ _ holds => holds
  · rintro _ connection ⟨fails, rfl⟩
    exact .early (fun works => fails (main works)) rfl

/-- The loop over the pending files, after `listRecorded`. -/
theorem ensures_loop (main : MainWorks faults) (directory : MigrationsDir)
    (ledger : Ledger) :
    Failing.Ensures (fun connection => connection = ⟨ledger, ledger⟩)
      (do
        let applied := (← get).current.recorded
        let pending := directory.sorted.filter (·.name ∉ applied)
        pending.forM (migrate implicitlyCommits faults))
      (fun _ connection =>
        connection.durable = ledger.withFiles (directory.pending ledger))
      (fun _ => StartFailed implicitlyCommits faults ledger
        (directory.pending ledger)) := by
  have seen : Failing.Ensures (fun connection => connection = ⟨ledger, ledger⟩)
      (get : MigrationScript Conn)
      (fun seen connection => seen.current = ledger ∧
        FilesLeft faults (directory.pending ledger) ledger
          (directory.pending ledger) connection)
      (fun _ => StartFailed implicitlyCommits faults ledger
        (directory.pending ledger)) := by
    apply Failing.Ensures.of_get
    rintro connection rfl
    exact ⟨rfl, [], rfl, by simp, by simp⟩
  refine seen.bind fun connection => .assuming ?_
  rintro current
  rw [current]
  refine (ensures_pending main (directory.pending ledger) ledger).weaken
    ?_ ?_ ?_
  · exact fun _ holds => holds
  · rintro _ connection ⟨done, split, _, rfl⟩
    simp [split]
  · exact fun _ _ failed => failed

theorem ensures_runMigrations (directory : MigrationsDir) {ledger : Ledger}
    (started : ledger.recorded ≠ []) :
    Failing.Ensures (fun connection => connection = ⟨ledger, ledger⟩)
      (runMigrations implicitlyCommits faults directory)
      (fun _ connection =>
        connection.durable = ledger.withFiles (directory.pending ledger))
      (fun _ => StartFailed implicitlyCommits faults ledger
        (directory.pending ledger)) := by
  have command : ∀ command : Command,
      (∀ ledger, command.effect ledger = ledger) →
      (MainWorks faults → faults command = none) →
      Failing.Ensures (fun connection => connection = ⟨ledger, ledger⟩)
        (send implicitlyCommits faults command)
        (fun _ connection =>
          faults command = none ∧ connection = ⟨ledger, ledger⟩)
        (fun _ => StartFailed implicitlyCommits faults ledger
          (directory.pending ledger)) :=
    fun command quiet main => ensures_mainCommand ledger _ quiet main
  have seen : Failing.Ensures (fun connection => connection = ⟨ledger, ledger⟩)
      (get : MigrationScript Conn)
      (fun seen connection =>
        seen.current = ledger ∧ connection = ⟨ledger, ledger⟩)
      (fun _ => StartFailed implicitlyCommits faults ledger
        (directory.pending ledger)) := by
    apply Failing.Ensures.of_get
    rintro connection rfl
    exact ⟨rfl, rfl⟩
  refine (command .createTable (fun _ => rfl) (·.1)).bind fun _ =>
    .assuming fun created => ?_
  refine (command .countRecorded (fun _ => rfl) (·.2.1)).bind fun _ =>
    .assuming fun counted => ?_
  refine seen.bind fun connection => .assuming fun current => ?_
  refine (command .commitCount (fun _ => rfl) (·.2.2.1)).bind fun _ =>
    .assuming fun committed => ?_
  have someRecorded : connection.current.recorded.length ≠ 0 := by
    simpa [current] using started
  simp only [someRecorded, if_false]
  split
  next none =>
    apply Failing.Ensures.of_pure
    rintro connection rfl
    simp [MigrationsDir.pending, none]
  next =>
    refine (command .listRecorded (fun _ => rfl) (·.2.2.2)).bind fun _ =>
      .assuming fun listed => ?_
    exact ensures_loop ⟨created, counted, committed, listed⟩ directory ledger

end Contracts

namespace MigrationsDir

variable {directory : MigrationsDir} {ledger : Ledger} {file : MigrationFile}

instance : Std.Total fun first second : MigrationFile =>
    first.name ≤ second.name :=
  ⟨fun first second => le_total first.name second.name⟩

instance : IsTrans MigrationFile fun first second =>
    first.name ≤ second.name :=
  ⟨fun _ _ _ => le_trans⟩

@[simp]
theorem mem_sorted : file ∈ directory.sorted ↔ file ∈ directory.files := by
  simp [sorted]

@[simp]
theorem sorted_eq_nil : directory.sorted = [] ↔ directory.files = [] := by
  simp [List.eq_nil_iff_forall_not_mem]

theorem mem_pending : file ∈ directory.pending ledger ↔
    file ∈ directory.files ∧ file.name ∉ ledger.recorded := by
  simp [pending]

theorem eq_of_name_eq {other : MigrationFile} (member : file ∈ directory.files)
    (otherMember : other ∈ directory.files) (same : file.name = other.name) :
    file = other :=
  List.inj_on_of_nodup_map directory.distinct member otherMember same

/-- The files are executed in the order of their names. -/
theorem pending_ascending (directory : MigrationsDir) (ledger : Ledger) :
    (directory.pending ledger).Pairwise fun first second =>
      first.name < second.name := by
  have ordered : directory.sorted.Pairwise fun first second =>
      first.name ≤ second.name :=
    List.pairwise_insertionSort _ directory.files
  have permuted : directory.sorted.Perm directory.files :=
    List.perm_insertionSort _ directory.files
  have distinct : directory.sorted.Pairwise fun first second =>
      first.name ≠ second.name := by
    have names := (permuted.map MigrationFile.name).nodup_iff.mpr
      directory.distinct
    exact List.pairwise_map.mp names
  refine List.Pairwise.filter _ ((ordered.and distinct).imp ?_)
  rintro first second ⟨le, ne⟩
  exact lt_of_le_of_ne le ne

theorem mem_add {added : MigrationFile} (member : file ∈ directory.files) :
    file ∈ (directory.add added).files := by
  unfold add
  split
  · exact member
  · exact List.mem_cons_of_mem _ member

theorem mem_found (appeared : List MigrationFile)
    (member : file ∈ directory.files) :
    file ∈ (appeared.foldl add directory).files := by
  induction appeared generalizing directory with
  | nil => exact member
  | cons added appeared ih => exact ih (mem_add member)

end MigrationsDir

namespace ProcessStart

/-- The start comes to the execution of the file. -/
def Reaches (deployment : Deployment) (start : ProcessStart)
    (file : MigrationFile) : Prop :=
  MainWorks start.faults ∧
    ∀ earlier ∈ (deployment.found start).pending deployment.ledger,
      earlier.name < file.name → earlier.Works start.faults

/-- The condition under which a start executes every file once. -/
structure Orderly (implicitlyCommits : String → Bool)
    (deployment : Deployment) (start : ProcessStart) : Prop where
  /-- The names of new files come after the names of those that have taken
  effect. -/
  ascending : ∀ file ∈ (deployment.found start).pending deployment.ledger,
    ∀ place ∈ deployment.ledger.effects, place.1 ≤ file.name
  /-- The file in which the start fails is not cut in two. -/
  notCut : ∀ file ∈ (deployment.found start).pending deployment.ledger,
    start.Reaches deployment file →
      file.NotCut implicitlyCommits start.faults
  /-- No file without statements is left over. -/
  recorded : ∀ file ∈ (deployment.found start).pending deployment.ledger,
    file.statements = [] →
      start.Reaches deployment file ∧ file.IsRecorded start.faults

end ProcessStart

section Starts

variable {implicitlyCommits : String → Bool} {deployment : Deployment}
variable {start : ProcessStart} {baseline : List String}

theorem withFile_ne (ledger : Ledger) (file : MigrationFile) :
    ledger.withFile file ≠ ledger := by
  intro same
  have lengths := congrArg (fun ledger => ledger.recorded.length) same
  simp [Ledger.withFile] at lengths

/-- The file in which a start fails was reached, and no later one. -/
theorem reaches_failed {done rest : List MigrationFile} {file : MigrationFile}
    (main : MainWorks start.faults)
    (split : (deployment.found start).pending deployment.ledger =
      done ++ file :: rest)
    (worked : ∀ earlier ∈ done, earlier.Works start.faults) :
    start.Reaches deployment file := by
  refine ⟨main, fun earlier member before => ?_⟩
  have ascending := (deployment.found start).pending_ascending
    deployment.ledger
  rw [split, List.pairwise_append, List.pairwise_cons] at ascending
  rw [split] at member
  rcases List.mem_append.mp member with member | member
  · exact worked earlier member
  · rcases List.mem_cons.mp member with rfl | later
    · exact absurd before (lt_irrefl _)
    · exact absurd before (lt_asymm (ascending.2.1.1 earlier later))

theorem works_of_reaches_later {done rest : List MigrationFile}
    {file later : MigrationFile}
    (split : (deployment.found start).pending deployment.ledger =
      done ++ file :: rest)
    (member : later ∈ rest) (reaches : start.Reaches deployment later) :
    file.Works start.faults := by
  have ascending := (deployment.found start).pending_ascending
    deployment.ledger
  rw [split, List.pairwise_append, List.pairwise_cons] at ascending
  exact reaches.2 file (by simp [split]) (ascending.2.1.1 later member)

/-- An orderly start executes the first pending files and leaves the others
alone. -/
theorem ledger_step (started : deployment.ledger.recorded ≠ [])
    (orderly : start.Orderly implicitlyCommits deployment) :
    ∃ done rest,
      (deployment.found start).pending deployment.ledger = done ++ rest ∧
      (deployment.step implicitlyCommits start).ledger =
        deployment.ledger.withFiles done ∧
      ∀ file ∈ rest, file.statements ≠ [] := by
  have contract : Failing.Ensures
      (fun connection => connection = ⟨deployment.ledger, deployment.ledger⟩)
      (runMigrations implicitlyCommits start.faults (deployment.found start))
      _ _ :=
    ensures_runMigrations (deployment.found start) started
  have ends := contract _ rfl
  change ∃ done rest, _ ∧ ((runMigrations implicitlyCommits start.faults
    (deployment.found start)).runOn
      ⟨deployment.ledger, deployment.ledger⟩).2.durable = _ ∧ _
  split at ends
  next connection ran =>
    rw [ran]
    exact ⟨_, [], (List.append_nil _).symm, ends, by simp⟩
  next command connection ran =>
    rw [ran]
    cases ends with
    | early fails durable =>
        refine ⟨[], _, rfl, by simpa using durable, ?_⟩
        intro file member empty
        exact fails (orderly.recorded file member empty).1.1
    | inFile done file rest main split worked failed =>
        have listed : file ∈
            (deployment.found start).pending deployment.ledger := by
          simp [split]
        have laterFull : ∀ later ∈ rest, later.statements ≠ [] := by
          intro later member empty
          obtain ⟨reaches, _⟩ :=
            orderly.recorded later (by simp [split, member]) empty
          exact failed.not_works (works_of_reaches_later split member reaches)
        rcases failed.durable (orderly.notCut file listed
          (reaches_failed main split worked)) with untouched | whole
        · refine ⟨done, file :: rest, split, untouched, ?_⟩
          intro other member
          rcases List.mem_cons.mp member with rfl | later
          · intro empty
            have executed := failed.durable_empty empty
              (orderly.recorded other listed empty).2
            exact withFile_ne _ _ (executed.symm.trans untouched)
          · exact laterFull other later
        · refine ⟨done ++ [file], rest, by simp [split], ?_, laterFull⟩
          rw [Ledger.withFiles_concat]
          exact whole

/-- The state after the baseline: all files are recorded, none is executed. -/
structure AtBaseline (deployment : Deployment) : Prop where
  recorded_ne_nil : deployment.ledger.recorded ≠ []
  effects_eq_nil : deployment.ledger.effects = []
  all_recorded : ∀ file ∈ deployment.directory.files,
    file.name ∈ deployment.ledger.recorded

/-- Every statement has taken effect at most once, the files took effect in
the order of their names, and the new files that are recorded are those whose
statements have all taken effect. -/
structure EachFileOnce (baseline : List String) (deployment : Deployment) :
    Prop where
  nodup : deployment.ledger.effects.Nodup
  ascending : (deployment.ledger.effects.map Prod.fst).Pairwise (· ≤ ·)
  recorded_iff : ∀ file ∈ deployment.directory.files, file.name ∉ baseline →
    (file.name ∈ deployment.ledger.recorded ↔
      ∀ index < file.statements.length,
        (file.name, index) ∈ deployment.ledger.effects)

/-- The files that have been executed since the baseline account for the
ledger. -/
structure Executed (baseline : List String) (deployment : Deployment)
    (done : List MigrationFile) : Prop where
  ledger : deployment.ledger = Ledger.withFiles ⟨baseline, []⟩ done
  members : ∀ file ∈ done, file ∈ deployment.directory.files
  fresh : ∀ file ∈ done, file.name ∉ baseline
  distinct : (done.map MigrationFile.name).Nodup
  ascending : (deployment.ledger.effects.map Prod.fst).Pairwise (· ≤ ·)
  waiting : ∀ file ∈ deployment.directory.files,
    file.name ∉ deployment.ledger.recorded → file.statements ≠ []

variable {done : List MigrationFile}

theorem Executed.nodup (executed : Executed baseline deployment done) :
    deployment.ledger.effects.Nodup := by
  rw [executed.ledger]
  simp only [Ledger.withFiles, List.nil_append, List.nodup_flatMap]
  refine ⟨fun file _ => file.nodup_effects, ?_⟩
  refine (List.pairwise_map.mp executed.distinct).imp ?_
  intro first second different place inFirst inSecond
  have firstName := (MigrationFile.mem_effects.mp inFirst).1
  have secondName := (MigrationFile.mem_effects.mp inSecond).1
  exact different (firstName.symm.trans secondName)

theorem Executed.mem_recorded (executed : Executed baseline deployment done)
    {file : MigrationFile} (member : file ∈ deployment.directory.files)
    (new : file.name ∉ baseline) :
    file.name ∈ deployment.ledger.recorded ↔ file ∈ done := by
  rw [executed.ledger]
  simp only [Ledger.withFiles, List.mem_append, new, false_or, List.mem_map]
  constructor
  · rintro ⟨other, otherDone, same⟩
    have isFile := MigrationsDir.eq_of_name_eq
      (executed.members other otherDone) member same
    exact isFile ▸ otherDone
  · exact fun isDone => ⟨file, isDone, rfl⟩

theorem Executed.mem_effects (executed : Executed baseline deployment done)
    {place : Place} : place ∈ deployment.ledger.effects ↔
      ∃ file ∈ done, place.1 = file.name ∧
        place.2 < file.statements.length := by
  rw [executed.ledger]
  simp [Ledger.withFiles]

theorem Executed.eachFileOnce (executed : Executed baseline deployment done) :
    EachFileOnce baseline deployment where
  nodup := executed.nodup
  ascending := executed.ascending
  recorded_iff := by
    intro file member new
    rw [executed.mem_recorded member new]
    constructor
    · intro isDone index small
      exact executed.mem_effects.mpr ⟨file, isDone, rfl, small⟩
    · intro all
      by_contra notDone
      have notRecorded := notDone ∘ (executed.mem_recorded member new).mp
      have some := executed.waiting file member notRecorded
      obtain ⟨other, otherDone, same, _⟩ := executed.mem_effects.mp
        (all 0 (List.length_pos_of_ne_nil some))
      have isFile := MigrationsDir.eq_of_name_eq member
        (executed.members other otherDone) same
      exact notDone (isFile ▸ otherDone)

theorem Executed.atBaseline (atBaseline : AtBaseline deployment) :
    Executed deployment.ledger.recorded deployment [] where
  ledger := by
    rw [Ledger.withFiles_nil, ← atBaseline.effects_eq_nil]
  members := by simp
  fresh := by simp
  distinct := by simp
  ascending := by simp [atBaseline.effects_eq_nil]
  waiting file member notRecorded :=
    absurd (atBaseline.all_recorded file member) notRecorded

/-- The places of some files stand in the order of the files. -/
theorem ascending_effects {files : List MigrationFile}
    (ascending : files.Pairwise fun first second =>
      first.name < second.name) :
    ((files.flatMap MigrationFile.effects).map Prod.fst).Pairwise
      (· ≤ ·) := by
  rw [List.pairwise_map, List.pairwise_flatMap]
  constructor
  · intro file _
    apply List.pairwise_of_forall_mem_list
    intro first firstMember second secondMember
    rw [(MigrationFile.mem_effects.mp firstMember).1,
      (MigrationFile.mem_effects.mp secondMember).1]
  · refine ascending.imp ?_
    intro first second before place inFirst other inSecond
    rw [(MigrationFile.mem_effects.mp inFirst).1,
      (MigrationFile.mem_effects.mp inSecond).1]
    exact before.le

theorem Executed.step (executed : Executed baseline deployment done)
    (started : baseline ≠ [])
    (orderly : start.Orderly implicitlyCommits deployment) :
    ∃ next, Executed baseline (deployment.step implicitlyCommits start)
      (done ++ next) := by
  have recorded : deployment.ledger.recorded =
      baseline ++ done.map MigrationFile.name := by
    rw [executed.ledger]
    rfl
  obtain ⟨next, rest, split, ledger, full⟩ := ledger_step
    (by simp [recorded, started]) orderly
  have nextMember : ∀ file ∈ next, file ∈ (deployment.found start).files ∧
      file.name ∉ deployment.ledger.recorded := by
    intro file member
    exact MigrationsDir.mem_pending.mp (by simp [split, member])
  have nextAscending : next.Pairwise fun first second =>
      first.name < second.name := by
    have ascending := (deployment.found start).pending_ascending
      deployment.ledger
    rw [split] at ascending
    exact (List.pairwise_append.mp ascending).1
  refine ⟨next, ?_, ?_, ?_, ?_, ?_, ?_⟩
  · rw [ledger, executed.ledger, Ledger.withFiles_append]
  · intro file member
    rcases List.mem_append.mp member with old | new
    · exact MigrationsDir.mem_found _ (executed.members file old)
    · exact (nextMember file new).1
  · intro file member
    rcases List.mem_append.mp member with old | new
    · exact executed.fresh file old
    · intro inBaseline
      exact (nextMember file new).2 (by simp [recorded, inBaseline])
  · rw [List.map_append, List.nodup_append]
    refine ⟨executed.distinct, ?_, ?_⟩
    · exact List.pairwise_map.mpr (nextAscending.imp ne_of_lt)
    · intro name isDone other isNext
      obtain ⟨file, member, rfl⟩ := List.mem_map.mp isNext
      rintro rfl
      exact (nextMember file member).2 (by simp [recorded, isDone])
  · rw [ledger]
    simp only [Ledger.withFiles, List.map_append, List.pairwise_append]
    refine ⟨executed.ascending, ascending_effects nextAscending, ?_⟩
    intro name earlier other later
    obtain ⟨place, placed, rfl⟩ := List.mem_map.mp earlier
    obtain ⟨newPlace, newPlaced, rfl⟩ := List.mem_map.mp later
    obtain ⟨file, member, inFile⟩ := List.mem_flatMap.mp newPlaced
    rw [(MigrationFile.mem_effects.mp inFile).1]
    exact orderly.ascending file (by simp [split, member]) place placed
  · intro file member notRecorded
    rw [ledger] at notRecorded
    simp only [Ledger.withFiles, List.mem_append, not_or] at notRecorded
    have pending : file ∈
        (deployment.found start).pending deployment.ledger :=
      MigrationsDir.mem_pending.mpr ⟨member, notRecorded.1⟩
    rw [split] at pending
    rcases List.mem_append.mp pending with inNext | inRest
    · exact absurd (List.mem_map_of_mem inNext) notRecorded.2
    · exact full file inRest

end Starts

section Baseline

variable {implicitlyCommits : String → Bool} {faults : CommandFaults}

/-- The ledger of a database that no start has seen. -/
def Migrator.Ledger.empty : Ledger := ⟨[], []⟩

/-- The ledger in which the files are recorded and nothing is executed. -/
def Migrator.Ledger.atBaseline (files : List MigrationFile) : Ledger :=
  ⟨files.map MigrationFile.name, []⟩

/-- The rest of the files is still to be recorded, and nothing is
committed. -/
def BaselineLeft (files rest : List MigrationFile) (connection : Conn) :
    Prop :=
  ∃ done, files = done ++ rest ∧
    connection = ⟨.empty, .atBaseline done⟩

theorem ensures_baselineRows (files : List MigrationFile) :
    Failing.Ensures (BaselineLeft files files)
      (files.forM fun file =>
        send implicitlyCommits faults (.baseline file.name))
      (fun _ => BaselineLeft files [])
      (fun _ connection => connection.durable = .empty) := by
  apply Failing.Ensures.forM
  intro file _ rest
  apply ensures_oneCommand
  · rintro connection ⟨done, split, rfl⟩ _
    refine ⟨done ++ [file], by simp [split], ?_⟩
    simp [Command.commits, Command.effect, Ledger.atBaseline]
  · rintro connection fault ⟨done, _, rfl⟩ _ _
    rfl
  · rintro connection ⟨done, _, rfl⟩ _ commits
    simp [Command.commits] at commits

theorem ensures_recordBaseline (files : List MigrationFile) :
    Failing.Ensures (fun connection => connection = ⟨.empty, .empty⟩)
      (recordBaseline implicitlyCommits faults files)
      (fun _ connection => connection.durable = .atBaseline files)
      (fun _ connection => connection.durable = .empty ∨
        connection.durable = .atBaseline files) := by
  have rows : Failing.Ensures
      (fun connection => connection = ⟨.empty, .empty⟩)
      (files.forM fun file =>
        send implicitlyCommits faults (.baseline file.name))
      (fun _ => BaselineLeft files [])
      (fun _ connection => connection.durable = .empty ∨
        connection.durable = .atBaseline files) := by
    refine (ensures_baselineRows files).weaken ?_ ?_ ?_
    · rintro connection rfl
      exact ⟨[], rfl, rfl⟩
    · exact fun _ _ left => left
    · exact fun _ _ empty => .inl empty
  refine rows.bind fun _ => ?_
  apply ensures_oneCommand
  · rintro connection ⟨done, split, rfl⟩ _
    simp [Command.commits, Command.effect, split]
  · rintro connection fault ⟨done, _, rfl⟩ _ _
    exact .inl rfl
  · rintro connection ⟨done, split, rfl⟩ _ _
    simp [Conn.commit, split]

theorem ensures_firstMigrations (directory : MigrationsDir) :
    Failing.Ensures (fun connection => connection = ⟨.empty, .empty⟩)
      (runMigrations implicitlyCommits faults directory)
      (fun _ connection => connection.durable = .atBaseline directory.sorted)
      (fun _ connection => connection.durable = .empty ∨
        connection.durable = .atBaseline directory.sorted) := by
  have command : ∀ command : Command,
      (∀ ledger, command.effect ledger = ledger) →
      Failing.Ensures (fun connection => connection = ⟨.empty, .empty⟩)
        (send implicitlyCommits faults command)
        (fun _ connection => connection = ⟨.empty, .empty⟩)
        (fun _ connection => connection.durable = .empty ∨
          connection.durable = .atBaseline directory.sorted) := by
    intro command quiet
    refine (ensures_quietCommand .empty quiet).weaken ?_ ?_ ?_
    · exact fun _ holds => holds
    · exact fun _ _ holds => holds.2
    · rintro _ connection ⟨_, rfl⟩
      exact .inl rfl
  have seen : Failing.Ensures
      (fun connection => connection = ⟨.empty, .empty⟩)
      (get : MigrationScript Conn)
      (fun seen connection =>
        seen.current = .empty ∧ connection = ⟨.empty, .empty⟩)
      (fun _ connection => connection.durable = .empty ∨
        connection.durable = .atBaseline directory.sorted) := by
    apply Failing.Ensures.of_get
    rintro connection rfl
    exact ⟨rfl, rfl⟩
  refine (command .createTable fun _ => rfl).bind fun _ => ?_
  refine (command .countRecorded fun _ => rfl).bind fun _ => ?_
  refine seen.bind fun connection => .assuming fun current => ?_
  refine (command .commitCount fun _ => rfl).bind fun _ => ?_
  have noneRecorded : connection.current.recorded.length = 0 := by
    rw [current]
    rfl
  simp only [noneRecorded, if_true]
  split
  next none =>
    apply Failing.Ensures.of_pure
    rintro connection rfl
    rw [none]
    rfl
  next => exact ensures_recordBaseline directory.sorted

/-- The first start records all files, or fails and records none. -/
theorem atBaseline_step {deployment : Deployment} {start : ProcessStart}
    (unseen : deployment.ledger = .empty)
    (some : (deployment.found start).files ≠ []) :
    (deployment.step implicitlyCommits start).ledger = .empty ∨
      AtBaseline (deployment.step implicitlyCommits start) := by
  have contract : Failing.Ensures
      (fun connection => connection = ⟨.empty, .empty⟩)
      (runMigrations implicitlyCommits start.faults (deployment.found start))
      _ _ :=
    ensures_firstMigrations (deployment.found start)
  have ends := contract ⟨.empty, .empty⟩ rfl
  have recorded : (deployment.step implicitlyCommits start).ledger =
        .atBaseline (deployment.found start).sorted →
      AtBaseline (deployment.step implicitlyCommits start) := by
    intro ledger
    refine ⟨?_, ?_, ?_⟩
    · simpa [ledger, Ledger.atBaseline] using some
    · rw [ledger]
      rfl
    · intro file member
      rw [ledger]
      exact List.mem_map_of_mem (MigrationsDir.mem_sorted.mpr member)
  have reached : (deployment.step implicitlyCommits start).ledger =
      ((runMigrations implicitlyCommits start.faults
        (deployment.found start)).runOn ⟨.empty, .empty⟩).2.durable := by
    rw [← unseen]
    rfl
  rw [reached] at recorded ⊢
  split at ends
  next connection ran =>
    rw [ran] at recorded ⊢
    exact .inr (recorded ends)
  next command connection ran =>
    rw [ran] at recorded ⊢
    exact ends.imp_right recorded

end Baseline

/-- As long as every start is orderly, each new file is executed exactly
once. -/
theorem files_executed_once (implicitlyCommits : String → Bool)
    (deployment : Deployment) (atBaseline : AtBaseline deployment)
    (starts : List ProcessStart)
    (orderly : StepRuns.Along (Deployment.step implicitlyCommits)
      (fun deployment start => start.Orderly implicitlyCommits deployment)
      deployment starts) :
    StepRuns.Along (Deployment.step implicitlyCommits)
      (fun before start => EachFileOnce deployment.ledger.recorded
        (before.step implicitlyCommits start)) deployment starts := by
  refine (StepRuns.along_of_guarded (fun before => ∃ done,
    Executed deployment.ledger.recorded before done) _ ?_
      ⟨[], .atBaseline atBaseline⟩ orderly).1
  rintro before start ⟨done, executed⟩ orderly
  obtain ⟨next, executed⟩ :=
    executed.step atBaseline.recorded_ne_nil orderly
  exact ⟨executed.eachFileOnce, _, executed⟩

/-- The statements that define tables commit. -/
def definesTable (text : String) : Bool :=
  "CREATE".toList.isPrefixOf text.toList ||
    "ALTER".toList.isPrefixOf text.toList

/-- A file that moves the payment cards into a table of their own. -/
def cardsFile : MigrationFile where
  name := "0004_payment_methods.sql"
  text := "CREATE TABLE IF NOT EXISTS cards (number INT);\n" ++
    "INSERT INTO cards SELECT card FROM resellers;\n" ++
    "ALTER TABLE resellers DROP card;"

def phoneFile : MigrationFile where
  name := "0005_order_phone_number.sql"
  text := "ALTER TABLE orders ADD phone_number INT;"

/-- A deployment with one file, at its baseline. -/
def oneFileDeployment : Deployment where
  directory := ⟨[⟨"0003_customer_wallet.sql", ""⟩], by simp⟩
  ledger := ⟨["0003_customer_wallet.sql"], []⟩

theorem atBaseline_oneFileDeployment : AtBaseline oneFileDeployment where
  recorded_ne_nil := by decide
  effects_eq_nil := rfl
  all_recorded := by decide

/-- The file appears, and no command fails. -/
def startWith (file : MigrationFile) : ProcessStart where
  appeared := [file]
  faults _ := none

theorem orderly_startWith {file : MigrationFile} {deployment : Deployment}
    (latest : ∀ other ∈ ((deployment.found (startWith file)).pending
        deployment.ledger), ∀ place ∈ deployment.ledger.effects,
      place.1 ≤ other.name) (implicitlyCommits : String → Bool) :
    (startWith file).Orderly implicitlyCommits deployment where
  ascending := latest
  notCut other _ _ done command rest fault _ _ fails := by
    simp [startWith] at fails
  recorded other _ _ := by
    simp [ProcessStart.Reaches, MainWorks, MigrationFile.Works,
      MigrationFile.IsRecorded, startWith]

/-- The removal of the old column fails after the server has committed the
copies of the cards. -/
def interruptedStart : ProcessStart where
  appeared := [cardsFile]
  faults
    | .statement place _ =>
        if place = (cardsFile.name, 2) then some .committed else none
    | _ => none

theorem files_executed_once_twoFiles :
    StepRuns.Along (Deployment.step definesTable)
      (fun before start => EachFileOnce ["0003_customer_wallet.sql"]
        (before.step definesTable start)) oneFileDeployment
      [startWith cardsFile, startWith phoneFile] :=
  files_executed_once definesTable oneFileDeployment
    atBaseline_oneFileDeployment [startWith cardsFile, startWith phoneFile]
    ⟨orderly_startWith (by decide +kernel) _,
      orderly_startWith (by decide +kernel) _, trivial⟩

/-- A start at which nothing appears and no command fails. -/
def quietStart : ProcessStart where
  appeared := []
  faults _ := none

/-- The next start finds the table and copies the cards again.  A file that
comes late takes effect after those with greater names. -/
theorem cards_copied_twice :
    AtBaseline oneFileDeployment ∧
      (StepRuns.final (Deployment.step definesTable) oneFileDeployment
        [interruptedStart, quietStart]).ledger.effects.count
          (cardsFile.name, 1) = 2 ∧
      ¬ StepRuns.Along (Deployment.step definesTable)
        (fun before start => EachFileOnce ["0003_customer_wallet.sql"]
          (before.step definesTable start)) oneFileDeployment
        [interruptedStart, quietStart] ∧
      (StepRuns.final (Deployment.step definesTable) oneFileDeployment
        [startWith phoneFile, startWith cardsFile]).ledger.effects.map
          Prod.fst =
        [phoneFile.name, cardsFile.name, cardsFile.name, cardsFile.name] ∧
      ¬ StepRuns.Along (Deployment.step definesTable)
        (fun before start => EachFileOnce ["0003_customer_wallet.sql"]
          (before.step definesTable start)) oneFileDeployment
        [startWith phoneFile, startWith cardsFile] := by
  have twice : (StepRuns.final (Deployment.step definesTable)
      oneFileDeployment [interruptedStart, quietStart]).ledger.effects.count
        (cardsFile.name, 1) = 2 := by
    decide +kernel
  have late : (StepRuns.final (Deployment.step definesTable)
      oneFileDeployment
        [startWith phoneFile, startWith cardsFile]).ledger.effects.map
          Prod.fst =
        [phoneFile.name, cardsFile.name, cardsFile.name, cardsFile.name] := by
    decide +kernel
  refine ⟨atBaseline_oneFileDeployment, twice, ?_, late, ?_⟩
  · rintro ⟨_, once, _⟩
    have atMostOne := List.nodup_iff_count_le_one.mp once.nodup
      (cardsFile.name, 1)
    exact absurd (twice.symm.trans_le atMostOne) (by decide)
  · rintro ⟨_, once, _⟩
    have ascending := once.ascending
    change (((StepRuns.final (Deployment.step definesTable)
      oneFileDeployment
        [startWith phoneFile, startWith cardsFile]).ledger.effects.map
          Prod.fst).Pairwise (· ≤ ·)) at ascending
    rw [late, List.pairwise_cons] at ascending
    exact absurd (ascending.1 cardsFile.name List.mem_cons_self)
      (by decide)

end Baste
