import Baste.AdminBot
import Baste.SafeRestore

/-!
# What a validated backup may contain

The check of a file looks at the names of its tables and never at their
values.  The statements of a restore are laid out as a plan: the statements
that are executed when none fails, and what is raised by the shape of the
document after the last of them.
-/

namespace Baste

section Plans

/-- The statements of a script, and what it raises by itself after them. -/
structure StatementPlan where
  statements : List Statement := []
  raises : Option RestoreError := none

namespace StatementPlan

variable {engine : Engine} (server : Server engine) (faults : Faults)

def script (plan : StatementPlan) : Script engine Unit := do
  plan.statements.forM (execute server faults)
  match plan.raises with
  | none => pure ()
  | some error => throw error

def single (statement : Statement) : StatementPlan where
  statements := [statement]

/-- Nothing follows what is raised. -/
def andThen (first second : StatementPlan) : StatementPlan :=
  match first.raises with
  | none => ⟨first.statements ++ second.statements, second.raises⟩
  | some _ => first

def sequence (plans : List StatementPlan) : StatementPlan :=
  plans.foldr andThen {}

theorem script_single (statement : Statement) :
    (single statement).script server faults =
      execute server faults statement := by
  unfold script single
  simp

theorem script_andThen (first second : StatementPlan) :
    (first.andThen second).script server faults =
      first.script server faults >>= fun _ =>
        second.script server faults := by
  obtain ⟨statements, raises⟩ := first
  cases raises with
  | none => simp [script, andThen]
  | some error =>
      unfold script andThen
      rw [bind_assoc]
      rfl

theorem script_sequence {Item : Type} (items : List Item)
    (plan : Item → StatementPlan) :
    (sequence (items.map plan)).script server faults =
      items.forM fun item => (plan item).script server faults := by
  induction items with
  | nil => rfl
  | cons item items ih =>
      rw [Failing.forM_cons, ← ih]
      exact script_andThen server faults _ _

end StatementPlan

end Plans

section RestorePlan

def rowPlan (table : StoredTable) (row : Json) : StatementPlan :=
  if isFalsy row then {}
  else
    match row with
    | .object members => .single (.insertInto table members)
    | _ => { raises := some .noKeys }

def tablePlan (data : BackupData) (table : StoredTable) : StatementPlan :=
  match iterate (data.get table) with
  | none => { raises := some .notIterable }
  | some rows => .sequence (rows.map (rowPlan table))

/-- What a restore executes when no statement fails. -/
def BackupData.plan (data : BackupData) : StatementPlan :=
  (StatementPlan.single (.setForeignKeyChecks false)).andThen
    ((StatementPlan.sequence (tablesInDependencyOrder.reverse.map fun table =>
        .single (.deleteFrom table))).andThen
      ((StatementPlan.sequence
          (tablesInDependencyOrder.map (tablePlan data))).andThen
        (.single (.setForeignKeyChecks true))))

variable {engine : Engine} (server : Server engine) (faults : Faults)

theorem restoreRow_eq_script (table : StoredTable) (row : Json) :
    restoreRow server faults table row =
      (rowPlan table row).script server faults := by
  unfold restoreRow rowPlan
  split
  · rfl
  · cases row with
    | object members =>
        exact (StatementPlan.script_single server faults _).symm
    | _ => rfl

theorem restoreTable_eq_script (data : BackupData) (table : StoredTable) :
    restoreTable server faults data table =
      (tablePlan data table).script server faults := by
  unfold restoreTable tablePlan
  cases iterate (data.get table) with
  | none => rfl
  | some rows =>
      have each : restoreRow server faults table = fun row =>
          (rowPlan table row).script server faults :=
        funext (restoreRow_eq_script server faults table)
      rw [StatementPlan.script_sequence, ← each]

/-- The restore executes its plan. -/
theorem restoreScript_eq_script (data : BackupData) :
    restoreScript server faults data = data.plan.script server faults := by
  have deletions := StatementPlan.script_sequence server faults
    tablesInDependencyOrder.reverse fun table => .single (.deleteFrom table)
  have insertions := StatementPlan.script_sequence server faults
    tablesInDependencyOrder (tablePlan data)
  simp only [StatementPlan.script_single] at deletions
  simp only [← restoreTable_eq_script] at insertions
  unfold BackupData.plan restoreScript
  rw [StatementPlan.script_andThen, StatementPlan.script_andThen,
    StatementPlan.script_andThen, deletions, insertions,
    StatementPlan.script_single, StatementPlan.script_single]

end RestorePlan

section Shapes

/-- What is raised because of the shape of a document. -/
def RestoreError.ofShape : RestoreError → Bool
  | .notIterable | .noKeys => true
  | _ => false

variable {engine : Engine} {server : Server engine} {faults : Faults}

/-- Statements raise nothing by themselves. -/
theorem ensures_script {plan : StatementPlan} (quiet : plan.raises = none) :
    Failing.Ensures (fun _ => True) (plan.script server faults)
      (fun _ _ => True) (fun error _ => error.ofShape = false) := by
  have statements : Failing.Ensures (fun _ => True)
      (plan.statements.forM (execute server faults)) (fun _ _ => True)
      (fun error _ => error.ofShape = false) :=
    @Failing.Ensures.forM _ _ _ _ _ (fun _ _ => True) plan.statements
      fun statement _ _ => ensures_execute (fun _ _ _ _ => trivial)
        (fun _ _ _ => rfl) (fun _ _ _ => rfl)
  unfold StatementPlan.script
  rw [quiet]
  exact statements.bind fun _ => .of_pure () fun _ _ => trivial

theorem ofShape_restoreFromDict {data : BackupData} {pool : Pool engine}
    {error : RestoreError} (quiet : data.plan.raises = none)
    (fails : (restoreFromDict server faults data pool).1 = .error error) :
    error.ofShape = false := by
  have ends := @ensures_script _ server faults _ quiet
    { session := ⟨pool.committed, pool.committed, pool.free.headD true⟩ }
    trivial
  unfold restoreFromDict transaction at fails
  rw [restoreScript_eq_script] at fails
  generalize (data.plan.script server faults).runOn _ = run at ends fails
  obtain ⟨result, connection⟩ := run
  cases result with
  | error raised =>
      cases fails
      exact ends
  | ok value =>
      cases fault : faults connection.executed with
      | none => simp [fault] at fails
      | some reason =>
          simp only [fault, Except.error.injEq] at fails
          exact fails ▸ rfl

end Shapes

section Texts

/-- The text that is executed. -/
def Statement.text : Statement → String
  | .setForeignKeyChecks on =>
      s!"SET FOREIGN_KEY_CHECKS = {if on then 1 else 0}"
  | .deleteFrom table => s!"DELETE FROM {table.name}"
  | .insertInto table members =>
      insertText table (members.map Prod.fst)

/-- What the text has beside its key words and placeholders. -/
def Statement.identifiers : Statement → List String
  | .setForeignKeyChecks _ => []
  | .deleteFrom table => [table.name]
  | .insertInto table members => table.name :: members.map Prod.fst

def IsSchemaName (name : String) : Prop :=
  ∃ table : StoredTable, name = table.name ∨
    name ∈ table.columns.map Column.name

namespace StatementPlan

/-- The plan comes to its end and names nothing that is not in the schema. -/
structure Sound (plan : StatementPlan) : Prop where
  quiet : plan.raises = none
  names : ∀ statement ∈ plan.statements, ∀ name ∈ statement.identifiers,
    IsSchemaName name

theorem sound_empty : Sound {} :=
  ⟨rfl, by simp⟩

theorem sound_single {statement : Statement}
    (names : ∀ name ∈ statement.identifiers, IsSchemaName name) :
    (single statement).Sound :=
  ⟨rfl, by simpa [single] using names⟩

theorem Sound.andThen {first second : StatementPlan} (one : first.Sound)
    (other : second.Sound) : (first.andThen second).Sound := by
  unfold StatementPlan.andThen
  rw [one.quiet]
  refine ⟨other.quiet, fun statement member => ?_⟩
  rcases List.mem_append.mp member with member | member
  · exact one.names statement member
  · exact other.names statement member

theorem sound_sequence {Item : Type} {items : List Item}
    {plan : Item → StatementPlan} (all : ∀ item ∈ items, (plan item).Sound) :
    (sequence (items.map plan)).Sound := by
  induction items with
  | nil => exact sound_empty
  | cons item items ih =>
      have first := all item List.mem_cons_self
      have rest := ih fun other member =>
        all other (List.mem_cons_of_mem _ member)
      exact first.andThen rest

end StatementPlan

end Texts

section Values

/-- A row that gives values to columns of the table. -/
def isRowOf (table : StoredTable) : Json → Bool
  | .object members => table.NamesColumns members
  | _ => false

def isTableOf (table : StoredTable) : Json → Bool
  | .array rows => rows.all (isRowOf table)
  | _ => false

def knownTable (name : String) : Option StoredTable :=
  tablesInDependencyOrder.find? fun table => table.name = name

/-- What is read under a name: the rows of a table that is known, or anything
that has a length. -/
def fitsName (name : String) (value : Json) : Bool :=
  match knownTable name with
  | some table => isTableOf table value
  | none => AdminBot.hasLength value

theorem knownTable_name :
    ∀ table ∈ tablesInDependencyOrder,
      knownTable table.name = some table := by
  decide

theorem isTableOf_iff {table : StoredTable} {value : Json} :
    isTableOf table value = true ↔
      ∃ rows : List (List (String × Json)),
        value = .array (rows.map .object) ∧
          ∀ row ∈ rows, table.NamesColumns row := by
  constructor
  · intro fits
    cases value with
    | array elements =>
        change elements.all (isRowOf table) = true at fits
        induction elements with
        | nil => exact ⟨[], rfl, by simp⟩
        | cons element elements ih =>
            rw [List.all_cons, Bool.and_eq_true] at fits
            obtain ⟨rows, same, named⟩ := ih fits.2
            cases element with
            | object members =>
                have first : table.NamesColumns members := by
                  simpa [isRowOf] using fits.1
                refine ⟨members :: rows, ?_, ?_⟩
                · simpa using same
                · exact List.forall_mem_cons.mpr ⟨first, named⟩
            | _ => simp [isRowOf] at fits
    | _ => simp [isTableOf] at fits
  · rintro ⟨rows, rfl, named⟩
    simpa [isTableOf, isRowOf] using named

theorem hasLength_of_isTableOf {table : StoredTable} {value : Json}
    (fits : isTableOf table value = true) :
    AdminBot.hasLength value = true := by
  cases value with
  | array elements => rfl
  | _ => simp [isTableOf] at fits

theorem hasLength_of_fitsName {name : String} {value : Json}
    (fits : fitsName name value = true) :
    AdminBot.hasLength value = true := by
  unfold fitsName at fits
  split at fits
  · exact hasLength_of_isTableOf fits
  · exact fits

end Values

section Reading

variable {file : FileContent} {data : BackupData}

/-- What those who read a validated document rely on. -/
structure BackupData.Trustworthy (file : FileContent) (data : BackupData) :
    Prop where
  rows : ∀ table ∈ tablesInDependencyOrder, ∀ value,
    (table.name, value) ∈ data.tables →
      ∃ rows : List (List (String × Json)),
        value = .array (rows.map .object) ∧
          ∀ row ∈ rows, table.NamesColumns row
  summary : ∀ (environment : AdminEnvironment) (message : Message)
    (document : String) (visit : Visit AdminState AdminData),
    message.document = some document →
    environment.download document = file →
      (((AdminBot.receiveRestoreFile environment).action
        (.message message)).runOn visit).1.isOk = true
  restore : ∀ (engine : Engine) (server : Server engine) (faults : Faults)
    (pool : Pool engine) (error : RestoreError),
    (restoreFromDict server faults data pool).1 = .error error →
      error.ofShape = false
  identifiers : ∀ statement ∈ data.plan.statements,
    ∀ name ∈ statement.identifiers, IsSchemaName name

/-- The summary of an uploaded file needs the length of every value. -/
theorem isOk_receiveRestoreFile
    (accepted : validateBackupFile file = .ok data)
    {environment : AdminEnvironment} {message : Message} {document : String}
    (visit : Visit AdminState AdminData)
    (carries : message.document = some document)
    (downloads : environment.download document = file) :
    (((AdminBot.receiveRestoreFile environment).action
        (.message message)).runOn visit).1.isOk =
      data.tables.all fun entry => AdminBot.hasLength entry.2 := by
  cases lengths : data.tables.all fun entry => AdminBot.hasLength entry.2 <;>
    simp [AdminBot.receiveRestoreFile, BotScripts.onMessage, carries,
      downloads, accepted, lengths, BotScripts.required,
      AdminBot.setPendingRestore, BotScripts.updateData,
      BotScripts.setState, Failing.runOn_bind, Except.isOk, Except.toBool]

theorem isTableOf_get
    (fits : ∀ entry ∈ data.tables, fitsName entry.1 entry.2 = true)
    {table : StoredTable} (listed : table ∈ tablesInDependencyOrder) :
    isTableOf table (data.get table) = true := by
  unfold BackupData.get
  cases found : data.tables.lookup table.name with
  | none => rfl
  | some value =>
      obtain ⟨before, after, split, -⟩ := List.lookup_eq_some_iff.mp found
      have fit := fits (table.name, value) (by simp [split])
      simpa [fitsName, knownTable_name table listed] using fit

theorem sound_rowPlan {table : StoredTable} {row : Json}
    (fits : isRowOf table row = true) : (rowPlan table row).Sound := by
  unfold rowPlan
  split
  · exact StatementPlan.sound_empty
  · cases row with
    | object members =>
        apply StatementPlan.sound_single
        have columns : table.NamesColumns members := by
          simpa [isRowOf] using fits
        intro name member
        rcases List.mem_cons.mp member with rfl | member
        · exact ⟨table, .inl rfl⟩
        · obtain ⟨pair, isMember, rfl⟩ := List.mem_map.mp member
          exact ⟨table, .inr (columns pair isMember)⟩
    | _ => simp [isRowOf] at fits

theorem sound_tablePlan {table : StoredTable}
    (fits : isTableOf table (data.get table) = true) :
    (tablePlan data table).Sound := by
  unfold tablePlan
  cases found : data.get table with
  | array rows =>
      rw [found] at fits
      have all : ∀ row ∈ rows, isRowOf table row = true :=
        List.all_eq_true.mp fits
      exact StatementPlan.sound_sequence fun row member =>
        sound_rowPlan (all row member)
  | _ => simp [found, isTableOf] at fits

theorem sound_plan
    (fits : ∀ entry ∈ data.tables, fitsName entry.1 entry.2 = true) :
    data.plan.Sound := by
  have checks (on : Bool) :
      (StatementPlan.single (.setForeignKeyChecks on)).Sound :=
    StatementPlan.sound_single (by simp [Statement.identifiers])
  have deletion (table : StoredTable) :
      (StatementPlan.single (.deleteFrom table)).Sound := by
    apply StatementPlan.sound_single
    intro name member
    exact ⟨table, .inl (List.mem_singleton.mp member)⟩
  have deletions := @StatementPlan.sound_sequence StoredTable
    tablesInDependencyOrder.reverse _ fun table _ => deletion table
  have insertions := StatementPlan.sound_sequence fun table listed =>
    sound_tablePlan (isTableOf_get fits listed)
  exact (checks false).andThen
    (deletions.andThen (insertions.andThen (checks true)))

/-- The readers of a validated document can rely on it if and only if its
values fit their names. -/
theorem trustworthy_iff (accepted : validateBackupFile file = .ok data) :
    data.Trustworthy file ↔
      ∀ entry ∈ data.tables, fitsName entry.1 entry.2 = true := by
  constructor
  · rintro trust ⟨name, value⟩ member
    unfold fitsName
    cases known : knownTable name with
    | some table =>
        have isName : table.name = name := by
          simpa using List.find?_some known
        have listed := List.mem_of_find?_eq_some known
        exact isTableOf_iff.mpr
          (trust.rows table listed value (isName ▸ member))
    | none =>
        let environment : AdminEnvironment :=
          ⟨fun _ => none, id, fun _ => file, fun _ => 0, fun _ db => .ok db⟩
        have summary := trust.summary environment
          { sender := 0, chat := 0, document := some "" } ""
          ⟨{ db := .empty }, { data := ∅ }⟩ rfl rfl
        rw [isOk_receiveRestoreFile accepted _ rfl rfl] at summary
        exact List.all_eq_true.mp summary (name, value) member
  · intro fits
    have sound := sound_plan fits
    exact
      { rows := fun table listed value member => by
          have fit := fits (table.name, value) member
          simp only [fitsName, knownTable_name table listed] at fit
          exact isTableOf_iff.mp fit
        summary := fun environment message document visit carries
            downloads => by
          rw [isOk_receiveRestoreFile accepted visit carries downloads]
          exact List.all_eq_true.mpr fun entry member =>
            hasLength_of_fitsName (fits entry member)
        restore := fun _ _ _ _ _ fails =>
          ofShape_restoreFromDict sound.quiet fails
        identifiers := sound.names }

theorem trustworthy_shopBackup :
    (backupWithOrders []).Trustworthy ((shopHost []).file "upload.json") ↔
      ∀ entry ∈ (backupWithOrders []).tables,
        fitsName entry.1 entry.2 = true :=
  trustworthy_iff (validate_hostWith (printable_backupWithOrders
    (by simp [Json.Printable, Json.PrintableElements])) cardDb)

/-- The file is accepted, and the key of its row becomes a part of the text
that is executed. -/
theorem injected_text_accepted :
    validateBackupFile (injectedHost.file "upload.json") =
        .ok injectedBackup ∧
      "INSERT INTO global_settings " ++
          "(setting_key, setting_value) VALUES (1, 2); " ++
          "DELETE FROM reseller_payment_cards; -- ) VALUES (%s)" ∈
        injectedBackup.plan.statements.map Statement.text ∧
      ¬ injectedBackup.Trustworthy (injectedHost.file "upload.json") := by
  have accepted : validateBackupFile (injectedHost.file "upload.json") =
      .ok injectedBackup :=
    validate_hostWith (by
      simp [Json.Printable, Json.PrintableMembers, Json.PrintableElements,
        injectedBackup]) cardDb
  refine ⟨accepted, by decide +kernel, fun trust => ?_⟩
  obtain ⟨rows, same, named⟩ := trust.rows .globalSettings (by decide)
    (.array [.object [(injectedName, .integer 0)]])
    (by simp [injectedBackup, StoredTable.name])
  cases rows with
  | nil => simp at same
  | cons members rows =>
      have isRow : members = [(injectedName, .integer 0)] := by
        simpa using (List.cons.inj (Json.array.inj same)).1.symm
      have columns := named members List.mem_cons_self
      rw [isRow] at columns
      revert columns
      decide

end Reading

end Baste
