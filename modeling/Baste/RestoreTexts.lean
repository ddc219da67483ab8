import Baste.RestoreRuns

/-!
# Texts in a file

The keys of a row go into the text of its insertion as they are.  If they are
no columns, the server refuses the text or does what it says.  This file
follows a restore from any file whose texts, where the restore comes to them,
leave alone what an insertion would leave alone.
-/

namespace Baste

variable {engine : Engine} {server : Server engine} {faults : Faults}

namespace Session

/-- The committed rows and the foreign key checks are the same. -/
structure SameSettings (before after : Session engine) : Prop where
  durable : after.durable = before.durable
  foreignKeyChecks : after.foreignKeyChecks = before.foreignKeyChecks

/-- The committed rows and the tables that no backup has are the same. -/
structure SameOthers (before after : Session engine) : Prop where
  durable : after.durable = before.durable
  others : ∀ table ∉ tablesInDependencyOrder, after.db table = before.db table

variable {first second third : Session engine}

theorem SameOthers.trans (start : first.SameOthers second)
    (rest : second.SameOthers third) : first.SameOthers third where
  durable := rest.durable.trans start.durable
  others table notListed :=
    (rest.others table notListed).trans (start.others table notListed)

/-- Changing a table of the backup changes neither. -/
theorem same_update {session : Session engine} {table : StoredTable}
    (listed : table ∈ tablesInDependencyOrder)
    (stored : StoredRows engine table) :
    let after := { session with
      db := Function.update session.db table stored }
    session.SameSettings after ∧ session.SameOthers after := by
  refine ⟨⟨rfl, rfl⟩, ⟨rfl, fun other notListed => ?_⟩⟩
  have different : other ≠ table := fun same => notListed (same ▸ listed)
  exact Function.update_of_ne different _ _

end Session

section Conditions

variable (server faults)
variable (Keep : Session engine → Session engine → Prop)

/-- If the server runs the text of a row whose keys are no columns, what it
does keeps the relation. -/
def TextKeeps (table : StoredTable) (row : Json)
    (connection : Connection engine) : Prop :=
  ∀ members session, row = .object members → ¬ table.NamesColumns members →
    faults connection.executed = none →
    (Statement.insertInto table members).perform server connection.session =
      some session →
    Keep connection.session session

/-- So do the texts of all rows of a table that are reached. -/
def TableTextsKeep (data : BackupData) (table : StoredTable)
    (connection : Connection engine) : Prop :=
  ∀ rows, iterate (data.get table) = some rows →
    Failing.AtTurns (restoreRow server faults table)
      (TextKeeps server faults Keep table) rows connection

/-- So do the texts of all rows of the file that a restore reaches. -/
def BackupData.TextsKeep (data : BackupData) (pool : Pool engine) : Prop :=
  Failing.WhenDone (execute server faults (.setForeignKeyChecks false))
    (Failing.WhenDone
      (tablesInDependencyOrder.reverse.forM fun table =>
        execute server faults (.deleteFrom table))
      (Failing.AtTurns (restoreTable server faults data)
        (TableTextsKeep server faults Keep data) tablesInDependencyOrder))
    pool.connection

end Conditions

/-- A regular file has no texts of its own. -/
theorem textsKeep_of_regular {data : BackupData} (regular : data.Regular)
    (Keep : Session engine → Session engine → Prop) (pool : Pool engine) :
    data.TextsKeep server faults Keep pool := by
  intro _ _ _ _ reached _
  refine Failing.atTurns_of_forall (fun table listed connection rows same =>
    Failing.atTurns_of_forall (fun row member connection => ?_) _) reached
  rintro members session rfl notColumns
  have isRegular := regular table listed (.object members)
  rw [same] at isRegular
  exact absurd (isRegular member) notColumns

/-- A server that refuses all texts of its own lets every file keep. -/
theorem textsKeep_of_refused
    (refused : ∀ text values session, server.other text values session = none)
    (data : BackupData) (Keep : Session engine → Session engine → Prop)
    (pool : Pool engine) : data.TextsKeep server faults Keep pool := by
  intro _ _ _ _ reached _
  refine Failing.atTurns_of_forall (fun table listed connection rows same =>
    Failing.atTurns_of_forall (fun row member connection => ?_) _) reached
  rintro members session rfl notColumns - performed
  rw [Statement.perform, if_neg notColumns, refused] at performed
  cases performed

section Guards

variable {Keep : Session engine → Session engine → Prop}
variable {inside : Connection engine → Prop}
variable {failed : RestoreError → Connection engine → Prop}

/-- What holds between the two switches of the checks, and what holds after an
error there, if the statements in between keep a relation. -/
structure Guard (Keep : Session engine → Session engine → Prop)
    (inside : Connection engine → Prop)
    (failed : RestoreError → Connection engine → Prop) : Prop where
  allows : ∀ {before after : Session engine}, before.SameSettings after →
    before.SameOthers after → Keep before after
  keeps : ∀ {connection : Connection engine} {session : Session engine},
    inside connection → Keep connection.session session →
      inside ⟨session, connection.executed + 1, connection.lost⟩
  refused : ∀ {connection : Connection engine} {statement : Statement},
    inside connection → statement ≠ .setForeignKeyChecks false →
      failed (.refused statement)
        ⟨connection.session, connection.executed + 1, connection.lost⟩
  lost : ∀ {connection : Connection engine} {statement : Statement},
    inside connection → statement ≠ .setForeignKeyChecks false →
      failed (.lost statement)
        ⟨connection.session, connection.executed + 1, true⟩
  raised : ∀ {connection : Connection engine}, inside connection →
    failed .notIterable connection ∧ failed .noKeys connection

/-- A statement that keeps the relation wherever it is executed. -/
theorem Guard.ensures_execute (guard : Guard Keep inside failed)
    {statement : Statement} (notSwitch : statement ≠ .setForeignKeyChecks false)
    {condition : Connection engine → Prop}
    (keeps : ∀ connection session, condition connection →
      faults connection.executed = none →
      statement.perform server connection.session = some session →
        Keep connection.session session) :
    Failing.Ensures (fun connection => inside connection ∧ condition connection)
      (execute server faults statement) (fun _ => inside) failed := by
  rintro connection ⟨within, holds⟩
  rw [runOn_execute]
  cases fault : faults connection.executed with
  | none =>
      cases performed : statement.perform server connection.session with
      | none => exact guard.refused within notSwitch
      | some session =>
          exact guard.keeps within
            (keeps connection session holds fault performed)
  | some reason =>
      cases reason with
      | refused => exact guard.refused within notSwitch
      | lost => exact guard.lost within notSwitch

theorem Guard.ensures_delete (guard : Guard Keep inside failed)
    {table : StoredTable} (listed : table ∈ tablesInDependencyOrder) :
    Failing.Ensures inside (execute server faults (.deleteFrom table))
      (fun _ => inside) failed := by
  refine (guard.ensures_execute (by simp)
    fun connection session (_ : True) _ performed => ?_).weaken
      (fun _ within => ⟨within, trivial⟩) (fun _ _ holds => holds)
      fun _ _ holds => holds
  cases performed
  obtain ⟨settings, others⟩ := Session.same_update listed .empty
  exact guard.allows settings others

theorem Guard.ensures_restoreRow (guard : Guard Keep inside failed)
    {table : StoredTable} (listed : table ∈ tablesInDependencyOrder)
    (row : Json) :
    Failing.Ensures (fun connection => inside connection ∧
        TextKeeps server faults Keep table row connection)
      (restoreRow server faults table row) (fun _ => inside) failed := by
  unfold restoreRow
  split
  case isTrue => exact .of_pure _ fun _ holds => holds.1
  case isFalse =>
    cases row with
    | object members =>
        refine guard.ensures_execute (by simp)
          fun connection session texts working performed => ?_
        by_cases columns : table.NamesColumns members
        · rw [Statement.perform, if_pos columns, Option.map_eq_some_iff]
            at performed
          obtain ⟨stored, -, rfl⟩ := performed
          obtain ⟨settings, others⟩ := Session.same_update listed stored
          exact guard.allows settings others
        · exact texts members session rfl columns working performed
    | _ => exact .of_throw _ fun _ holds => (guard.raised holds.1).2

theorem Guard.ensures_restoreTable (guard : Guard Keep inside failed)
    (data : BackupData) {table : StoredTable}
    (listed : table ∈ tablesInDependencyOrder) :
    Failing.Ensures (fun connection => inside connection ∧
        TableTextsKeep server faults Keep data table connection)
      (restoreTable server faults data table) (fun _ => inside) failed := by
  unfold restoreTable
  cases iterated : iterate (data.get table) with
  | none => exact .of_throw _ fun _ holds => (guard.raised holds.1).1
  | some rows =>
      refine (Failing.Ensures.forM_atTurns fun row _ =>
        guard.ensures_restoreRow listed row).weaken
          (fun _ holds => ⟨holds.1, holds.2 rows iterated⟩)
          (fun _ _ holds => holds) fun _ _ holds => holds

/-- The whole restore, given what the two switches do. -/
theorem Guard.ensures_restoreScript (guard : Guard Keep inside failed)
    (data : BackupData) (pool : Pool engine)
    {after : Unit → Connection engine → Prop}
    (switchOff : Failing.Ensures (· = pool.connection)
      (execute server faults (.setForeignKeyChecks false)) (fun _ => inside)
      failed)
    (switchOn : Failing.Ensures inside
      (execute server faults (.setForeignKeyChecks true)) after failed)
    (texts : data.TextsKeep server faults Keep pool) :
    Failing.Ensures (· = pool.connection) (restoreScript server faults data)
      after failed := by
  have delete : Failing.Ensures inside
      (tablesInDependencyOrder.reverse.forM fun table =>
        execute server faults (.deleteFrom table)) (fun _ => inside)
      failed :=
    @Failing.Ensures.forM _ _ _ failed _ (fun _ => inside) _
      fun _ member _ => guard.ensures_delete (List.mem_reverse.mp member)
  have refill : Failing.Ensures (fun connection => inside connection ∧
        Failing.AtTurns (restoreTable server faults data)
          (TableTextsKeep server faults Keep data) tablesInDependencyOrder
          connection)
      (tablesInDependencyOrder.forM (restoreTable server faults data))
      (fun _ => inside) failed :=
    .forM_atTurns fun _ listed => guard.ensures_restoreTable data listed
  have whole : Failing.Ensures (fun connection =>
        connection = pool.connection ∧
          Failing.WhenDone (execute server faults (.setForeignKeyChecks false))
            _ connection)
      (restoreScript server faults data) after failed :=
    switchOff.bind_whenDone fun _ => delete.bind_whenDone fun _ =>
      refill.bind fun _ => switchOn
  rintro _ rfl
  exact whole pool.connection ⟨rfl, texts⟩

end Guards

section Outcomes

variable {data : BackupData} {pool after : Pool engine}

/-- While the checks are off, nothing is committed and nothing switches them
on. -/
theorem guard_unchecked (durable : StoredDb engine) (checks : Bool) :
    Guard Session.SameSettings (Unchecked durable)
      (Interrupted durable checks) where
  allows settings _ := settings
  keeps unchecked same :=
    ⟨same.durable.trans unchecked.durable,
      same.foreignKeyChecks.trans unchecked.checks, unchecked.lost⟩
  refused unchecked notSwitch := (unchecked.refused notSwitch).interrupted
  lost unchecked notSwitch := (unchecked.disconnected notSwitch).interrupted
  raised unchecked :=
    ⟨⟨unchecked.durable, unchecked.checks, unchecked.lost, by simp⟩,
      ⟨unchecked.durable, unchecked.checks, unchecked.lost, by simp⟩⟩

/-- Nothing is committed and no table is touched that the backup does not
have. -/
theorem guard_others (start : Session engine) :
    Guard Session.SameOthers
      (fun connection => start.SameOthers connection.session)
      (fun _ connection => connection.session.durable = start.durable) where
  allows _ others := others
  keeps within same := within.trans same
  refused within _ := within.durable
  lost within _ := within.durable
  raised within := ⟨within.durable, within.durable⟩

/-- A failed restore leaves the tables as they were, and gives back its
connection as its error says. -/
theorem committed_of_error
    (texts : data.TextsKeep server faults Session.SameSettings pool)
    {error : RestoreError}
    (fails : restoreFromDict server faults data pool =
      (.error error, after)) :
    after.committed = pool.committed ∧
      after.free = pool.free.tail ++
        error.released (pool.free.headD true) := by
  have switchOff : Failing.Ensures (· = pool.connection)
      (execute server faults (.setForeignKeyChecks false))
      (fun _ => Unchecked pool.committed)
      (Interrupted pool.committed (pool.free.headD true)) := by
    apply ensures_execute
    · rintro _ session rfl performed
      cases performed
      exact ⟨rfl, rfl, rfl⟩
    · rintro _ rfl -
      exact ⟨rfl, rfl, rfl, by simp⟩
    · rintro _ rfl -
      exact ⟨rfl, rfl, rfl, by simp⟩
  have switchOn : Failing.Ensures (Unchecked pool.committed)
      (execute server faults (.setForeignKeyChecks true))
      (fun _ connection => connection.session.durable = pool.committed ∧
        connection.session.foreignKeyChecks = true)
      (Interrupted pool.committed (pool.free.headD true)) := by
    apply ensures_execute
    · intro connection session unchecked performed
      cases performed
      exact ⟨unchecked.durable, rfl⟩
    · intro connection unchecked _
      exact (unchecked.refused (by simp)).interrupted
    · intro connection unchecked _
      exact (unchecked.disconnected (by simp)).interrupted
  have ends := @transaction_ends _ faults _ pool (fun _ => True) True
    (((guard_unchecked pool.committed
      (pool.free.headD true)).ensures_restoreScript data pool switchOff
        switchOn texts).weaken (fun _ holds => holds)
          (fun _ _ ends => ⟨ends.1, ends.2, trivial⟩)
          fun _ _ interrupted => ⟨interrupted, fun _ => trivial⟩)
  unfold restoreFromDict at fails
  rw [fails] at ends
  exact ⟨ends.1, ends.2.1⟩

/-- What a transaction commits, when its script commits nothing itself. -/
theorem transaction_keeps {script : Script engine Unit}
    {done : StoredDb engine → Prop}
    (contract : Failing.Ensures (· = pool.connection) script
      (fun _ connection => connection.session.durable = pool.committed ∧
        done connection.session.db)
      (fun _ connection => connection.session.durable = pool.committed)) :
    match transaction faults script pool with
    | (.ok (), after) => done after.committed
    | (.error _, after) => after.committed = pool.committed := by
  have ends := contract pool.connection rfl
  unfold Pool.connection at ends
  unfold transaction
  generalize script.runOn _ = run at ends ⊢
  obtain ⟨result, connection⟩ := run
  cases result with
  | error error => exact ends
  | ok value =>
      cases fault : faults connection.executed with
      | none => simpa [fault] using ends.2
      | some reason => simpa [fault] using ends.1

/-- A failed restore leaves the tables as they were, and one that comes to its
end leaves those that the backup does not have. -/
theorem others_of_texts
    (texts : data.TextsKeep server faults Session.SameOthers pool) :
    match restoreFromDict server faults data pool with
    | (.ok (), after) => ∀ table ∉ tablesInDependencyOrder,
        after.committed table = pool.committed table
    | (.error _, after) => after.committed = pool.committed := by
  have switch : ∀ on, Failing.Ensures
      (fun connection : Connection engine =>
        pool.connection.session.SameOthers connection.session)
      (execute server faults (.setForeignKeyChecks on))
      (fun _ connection =>
        pool.connection.session.SameOthers connection.session)
      (fun _ connection => connection.session.durable = pool.committed) := by
    intro on
    apply ensures_execute
    · intro connection session within performed
      cases performed
      exact ⟨within.durable, within.others⟩
    · exact fun _ within _ => within.durable
    · exact fun _ within _ => within.durable
  have start : Failing.Ensures (· = pool.connection)
      (execute server faults (.setForeignKeyChecks false))
      (fun _ connection =>
        pool.connection.session.SameOthers connection.session)
      (fun _ connection => connection.session.durable = pool.committed) :=
    (switch false).weaken (by rintro _ rfl; exact ⟨rfl, fun _ _ => rfl⟩)
      (fun _ _ holds => holds) fun _ _ holds => holds
  have contract := (guard_others pool.connection.session).ensures_restoreScript
    data pool start (switch true) texts
  let others := fun db : StoredDb engine =>
    ∀ table ∉ tablesInDependencyOrder, db table = pool.committed table
  exact @transaction_keeps _ faults pool _ others
    (contract.weaken (fun _ holds => holds)
      (fun _ _ within => ⟨within.durable, within.others⟩)
      fun _ _ holds => holds)

end Outcomes

end Baste
