import Baste.DatabaseStatements
import Baste.PointRuns
import Baste.ServiceCalls

/-!
# Look-ups that insert what they do not find

A customer, the referral settings of a reseller and the setting of a coin are
looked up and inserted when they are missing, in two statements.  Two calls
that both find nothing insert twice: a unique key refuses the second row of a
customer or of referral settings, and nothing refuses that of a coin.
-/

namespace Baste

open Database Transaction

/-- What a call looks up. -/
inductive LookupKey where
  | customer (resellerId : Nat) (telegramUserId : Int)
  | settings (resellerId : Nat)
  | coin (coinName : String)
  deriving DecidableEq

namespace LookupKey

/-- The ids of the rows with the key. -/
def ids : LookupKey → Db → List Nat
  | customer resellerId telegramUserId, db =>
      db.idsWhere .customers fun row =>
        row.resellerId = resellerId && row.telegramUserId = telegramUserId
  | settings resellerId, db =>
      db.idsWhere .referrals (·.resellerId = resellerId)
  | coin coinName, db => db.idsWhere .cryptoSettings (·.coinName = coinName)

def table : LookupKey → TableName
  | customer _ _ => .customers
  | settings _ => .referrals
  | coin _ => .cryptoSettings

/-- The key that a row has. -/
def ofRow : (name : TableName) → RowOf name → Option LookupKey
  | .customers, row => some (.customer row.resellerId row.telegramUserId)
  | .referrals, row => some (.settings row.resellerId)
  | .cryptoSettings, row => some (.coin row.coinName)
  | _, _ => none

/-- The row with the id has the key. -/
def At (key : LookupKey) (db : Db) (id : Nat) : Prop :=
  ∃ row, db.row key.table id = some row ∧ ofRow key.table row = some key

theorem mem_ids {key : LookupKey} {db : Db} {id : Nat} :
    id ∈ key.ids db ↔ key.At db id := by
  cases key <;>
    simp only [ids, At, table, ofRow, mem_idsWhere, Bool.and_eq_true,
      decide_eq_true_eq, Option.some.injEq, customer.injEq, settings.injEq,
      coin.injEq]

theorem table_of_ofRow {key : LookupKey} {name : TableName}
    {row : RowOf name} (has : ofRow name row = some key) :
    key.table = name := by
  cases name <;> cases has <;> rfl

end LookupKey

/-- The setting of a coin, with values that their columns can hold. -/
structure CoinSetting where
  row : CryptoSettingRow
  fits : row.coinName.length ≤ 32 ∧ row.address.length ≤ 128 ∧
    row.network.length ≤ 32 ∧ row.price.natAbs < 10 ^ 18

/-- A row that is returned, with its id. -/
inductive FetchedRow where
  | customer (id : Nat) (row : CustomerRow)
  | settings (id : Nat) (row : ReferralRow)
  deriving DecidableEq

abbrev LookupResult := Except ServiceError (Option FetchedRow)

/-- The row with the address, the network and the price of another one. -/
def CryptoSettingRow.withValues (new row : CryptoSettingRow) :
    CryptoSettingRow :=
  { row with
    address := new.address, network := new.network, price := new.price }

inductive LookupCall where
  | customer (resellerId : Nat) (telegramUserId : Int)
  | settings (resellerId : Nat)
  | coin (setting : CoinSetting)

namespace LookupCall

section Programs

variable (resellerId : Nat) (telegramUserId : Int) (setting : CoinSetting)

/-- Look up a row; if there is none, insert one. -/
def lookUpOrInsert (key : LookupKey)
    (found : Nat → Db → Program LookupResult)
    (missing : Program LookupResult) : Program LookupResult :=
  .select fun db =>
    match key.ids db with
    | id :: _ => found id db
    | [] => missing

def fetchCustomer (id : Nat) (db : Db) : LookupResult :=
  .ok ((db.row .customers id).map (.customer id))

def insertCustomer : Program LookupResult :=
  insertRow .customers []
    (fun db => (LookupKey.customer resellerId telegramUserId).ids db = [])
    ⟨resellerId, telegramUserId, 0⟩ fun
    | none => .done (.error .integrityError)
    | some id => .select fun db => .done (fetchCustomer id db)

def getOrCreateCustomer : Program LookupResult :=
  lookUpOrInsert (.customer resellerId telegramUserId)
    (fun id db => .done (fetchCustomer id db))
    (insertCustomer resellerId telegramUserId)

/-- The first row of the reseller. -/
def fetchSettings (db : Db) : LookupResult :=
  .ok (((LookupKey.settings resellerId).ids db).head?.bind fun id =>
    (db.row .referrals id).map (.settings id))

def insertSettings : Program LookupResult :=
  insertRow .referrals []
    (fun db => (LookupKey.settings resellerId).ids db = [] &&
      (db.row .resellers resellerId).isSome)
    { resellerId := resellerId } fun
    | none => .done (.error .integrityError)
    | some _ => .select fun db => .done (fetchSettings resellerId db)

def getReferralSettings : Program LookupResult :=
  lookUpOrInsert (.settings resellerId)
    (fun _ db => .done (fetchSettings resellerId db))
    (insertSettings resellerId)

def updateCoin (id : Nat) : Program LookupResult :=
  updateRow .cryptoSettings id (setting.row.withValues ·) (.done (.ok none))

def insertCoin : Program LookupResult :=
  insertRow .cryptoSettings [] (fun _ => true) setting.row fun
    | none => .done (.error .integrityError)
    | some _ => .done (.ok none)

def upsertCryptoSetting : Program LookupResult :=
  lookUpOrInsert (.coin setting.row.coinName)
    (fun id _ => updateCoin setting id) (insertCoin setting)

end Programs

def key : LookupCall → LookupKey
  | customer resellerId telegramUserId => .customer resellerId telegramUserId
  | settings resellerId => .settings resellerId
  | coin setting => .coin setting.row.coinName

def program : LookupCall → Program LookupResult
  | customer resellerId telegramUserId =>
      getOrCreateCustomer resellerId telegramUserId
  | settings resellerId => getReferralSettings resellerId
  | coin setting => upsertCryptoSetting setting

end LookupCall

/-- How far a call has come. -/
inductive LookupPoint where
  | started
  /-- Nothing has been found. -/
  | missing
  /-- The row of a coin has been found. -/
  | existing (id : Nat)
  /-- A row has been inserted that is still to be fetched. -/
  | inserted (id : Nat)
  | ended (result : LookupResult)
  | lost
  deriving DecidableEq

namespace LookupCall

/-- The statements that are left at a point. -/
def rest : LookupCall → LookupPoint → Program LookupResult
  | call, .started => call.program
  | customer resellerId telegramUserId, .missing =>
      insertCustomer resellerId telegramUserId
  | settings resellerId, .missing => insertSettings resellerId
  | coin setting, .missing => insertCoin setting
  | coin setting, .existing id => updateCoin setting id
  | customer _ _, .inserted id => .select fun db => .done (fetchCustomer id db)
  | settings resellerId, .inserted _ =>
      .select fun db => .done (fetchSettings resellerId db)
  | _, .ended result => .done result
  | _, _ => .lost

/-- Where a call goes that has found a row. -/
def afterFound : LookupCall → Nat → Db → LookupPoint
  | customer _ _, id, db => .ended (fetchCustomer id db)
  | settings resellerId, _, db => .ended (fetchSettings resellerId db)
  | coin _, id, _ => .existing id

/-- Where a call goes that has found these rows. -/
def afterLookup (call : LookupCall) (db : Db) : List Nat → LookupPoint
  | id :: _ => call.afterFound id db
  | [] => .missing

/-- The row is inserted, unless the table refuses it. -/
def insert (allowed : Bool) (name : TableName) (row : RowOf name)
    (next : LookupPoint) (db : Db) : Db × LookupPoint :=
  if allowed then
    ((db.reserve name).put name (db.nextId name) row, next)
  else (db.reserve name, .ended (.error .integrityError))

/-- The next statement. -/
def advance : LookupCall → LookupPoint → Db → Db × LookupPoint
  | call, .started, db => (db, call.afterLookup db (call.key.ids db))
  | customer resellerId telegramUserId, .missing, db =>
      insert ((LookupKey.customer resellerId telegramUserId).ids db = [])
        .customers ⟨resellerId, telegramUserId, 0⟩
        (.inserted (db.nextId .customers)) db
  | settings resellerId, .missing, db =>
      insert ((LookupKey.settings resellerId).ids db = [] &&
          (db.row .resellers resellerId).isSome)
        .referrals { resellerId := resellerId }
        (.inserted (db.nextId .referrals)) db
  | coin setting, .missing, db =>
      insert true .cryptoSettings setting.row (.ended (.ok none)) db
  | coin setting, .existing id, db =>
      (db.modify .cryptoSettings id (setting.row.withValues ·),
        .ended (.ok none))
  | customer _ _, .inserted id, db => (db, .ended (fetchCustomer id db))
  | settings resellerId, .inserted _, db =>
      (db, .ended (fetchSettings resellerId db))
  | _, point, db => (db, point)

def layout (call : LookupCall) : Layout LookupPoint Db RowKey LookupResult where
  program := call.rest
  advance := call.advance
  lost := .lost

theorem rest_afterLookup (call : LookupCall) (db : Db) (ids : List Nat) :
    call.rest (call.afterLookup db ids) =
      match ids with
      | id :: _ => call.rest (call.afterFound id db)
      | [] => call.rest .missing := by
  cases ids <;> rfl

/-- A call begins with its look-up. -/
theorem describesStatement_started (call : LookupCall) :
    call.layout.DescribesStatement .started := by
  have goesOn := rest_afterLookup call
  cases call <;> exact ⟨_, _, rfl, fun db => ⟨rfl, (goesOn db _).symm⟩⟩

theorem describes_over {call : LookupCall} {point : LookupPoint}
    (ended : (∃ result, call.rest point = .done result) ∨
      call.rest point = .lost)
    (stays : ∀ db, call.advance point db = (db, point)) :
    call.layout.DescribesStatement point ∨ call.layout.DescribesEnd point :=
  .inr ⟨ended, stays⟩

theorem faithful (call : LookupCall) : call.layout.Faithful where
  lost := by cases call <;> rfl
  describes point := by
    cases point with
    | started => exact .inl call.describesStatement_started
    | missing =>
        refine .inl ?_
        cases call <;> refine ⟨_, _, rfl, fun db => ?_⟩ <;>
          dsimp only [layout, advance, insert] <;> split <;>
          simp_all [rest]
    | existing id =>
        cases call with
        | coin setting => exact .inl ⟨_, _, rfl, fun db => ⟨rfl, rfl⟩⟩
        | _ => exact describes_over (.inr rfl) fun _ => rfl
    | inserted id =>
        cases call with
        | coin setting => exact describes_over (.inr rfl) fun _ => rfl
        | _ => exact .inl ⟨_, _, rfl, fun db => ⟨rfl, rfl⟩⟩
    | ended result =>
        cases call <;> exact describes_over (.inl ⟨result, rfl⟩) fun _ => rfl
    | lost => cases call <;> exact describes_over (.inr rfl) fun _ => rfl

end LookupCall

section Tables

namespace LookupKey

variable {key : LookupKey} {db : Db} {id : Nat}

/-- At most one row has the key. -/
def Single (key : LookupKey) (db : Db) : Prop :=
  ∀ first second, key.At db first → key.At db second → first = second

/-- What a call for a key may do to the tables: it adds no row for another key
and no second one for its own. -/
structure Extends (key : LookupKey) (before after : Db) : Prop where
  kept : ∀ (other : LookupKey) id, other.At before id → other.At after id
  others : ∀ other : LookupKey, other ≠ key → ∀ id, other.At after id →
    other.At before id
  single : (∀ other : LookupKey, other.Single before) →
    ∀ other : LookupKey, other.Single after
  rows : ∀ name, name ≠ .cryptoSettings → ∀ id row,
    before.row name id = some row → after.row name id = some row

theorem Extends.refl (db : Db) : key.Extends db db where
  kept _ _ is := is
  others _ _ _ is := is
  single singles := singles
  rows _ _ _ _ found := found

/-- The row of a coin gets new values. -/
theorem extends_modify {new : CryptoSettingRow} :
    key.Extends db
      (db.modify .cryptoSettings id (new.withValues ·)) := by
  have same : ∀ (other : LookupKey) (row : Nat),
      other.At (db.modify .cryptoSettings id (new.withValues ·)) row ↔
        other.At db row := by
    intro other row
    unfold At
    cases other with
    | customer | settings => rw [row_modify_of_ne (by simp [table])]
    | coin coinName =>
        by_cases isRow : row = id
        · subst isRow
          rw [table, row_modify_self]
          cases db.row .cryptoSettings row <;>
            simp [ofRow, CryptoSettingRow.withValues]
        · rw [table, row_modify_ne isRow]
  exact
    { kept := fun other row is => (same other row).mpr is
      others := fun other _ row is => (same other row).mp is
      single := fun singles other first second isFirst isSecond =>
        singles other first second ((same other first).mp isFirst)
          ((same other second).mp isSecond)
      rows := fun _ different _ _ found => by
        rw [row_modify_of_ne different, found] }

/-- A row is inserted for a key that no row has. -/
theorem extends_insert {name : TableName} {row : RowOf name}
    (has : ofRow name row = some key) (absent : ∀ id, ¬ key.At db id) :
    key.Extends db
        ((db.reserve name).put name (db.nextId name) row) ∧
      key.At ((db.reserve name).put name (db.nextId name) row)
        (db.nextId name) := by
  have isTable := table_of_ofRow has
  subst isTable
  generalize isAfter :
    (db.reserve key.table).put key.table (db.nextId key.table) row = after
  have stored : after.row key.table (db.nextId key.table) = some row := by
    rw [← isAfter]
    exact row_put_self (by simp)
  have old : ∀ (name : TableName) (id : Nat),
      ¬ (name = key.table ∧ id = db.nextId key.table) →
        after.row name id = db.row name id := by
    intro name id other
    rw [← isAfter]
    by_cases same : name = key.table
    · subst same
      rw [row_put_ne fun isNew => other ⟨rfl, isNew⟩, row_reserve]
    · rw [row_put_of_ne same, row_reserve]
  have isKey : ∀ (other : LookupKey) (name : TableName) (found : RowOf name),
      name = key.table → after.row name (db.nextId key.table) = some found →
        ofRow name found = some other → other = key := by
    rintro other name found rfl isFound hasOther
    cases stored.symm.trans isFound
    exact Option.some.inj (hasOther.symm.trans has)
  have split : ∀ (other : LookupKey) (id : Nat), other.At after id →
      other.At db id ∨ other = key ∧ id = db.nextId key.table := by
    rintro other id ⟨found, isFound, hasOther⟩
    by_cases isNew : other.table = key.table ∧ id = db.nextId key.table
    · obtain ⟨sameTable, rfl⟩ := isNew
      exact .inr ⟨isKey other _ found sameTable isFound hasOther, rfl⟩
    · rw [old _ _ isNew] at isFound
      exact .inl ⟨found, isFound, hasOther⟩
  have kept : ∀ name id row, db.row name id = some row →
      after.row name id = some row := by
    intro name id found isFound
    rw [old, isFound]
    rintro ⟨rfl, rfl⟩
    cases row_nextId.symm.trans isFound
  refine ⟨⟨?_, ?_, ?_, fun name _ => kept name⟩, row, stored, has⟩
  · rintro other id ⟨found, isFound, hasOther⟩
    exact ⟨found, kept _ _ _ isFound, hasOther⟩
  · intro other different id is
    exact (split other id is).resolve_right fun isNew => different isNew.1
  · intro singles other first second isFirst isSecond
    rcases split other first isFirst with oldFirst | ⟨rfl, rfl⟩
    · rcases split other second isSecond with oldSecond | ⟨rfl, -⟩
      · exact singles other first second oldFirst oldSecond
      · exact absurd oldFirst (absent first)
    · rcases split other second isSecond with oldSecond | ⟨-, rfl⟩
      · exact absurd oldSecond (absent second)
      · rfl

end LookupKey

end Tables

namespace LookupCall

section Steps

variable {call other : LookupCall} {db after : Db} {point : LookupPoint}

/-- What a call that looks for a row returns: the row. -/
def Returns (db : Db) : LookupCall → Option FetchedRow → Prop
  | customer resellerId telegramUserId, found =>
      ∃ id row, found = some (.customer id row) ∧
        db.row .customers id = some row ∧ row.resellerId = resellerId ∧
        row.telegramUserId = telegramUserId
  | settings resellerId, found =>
      ∃ id row, found = some (.settings id row) ∧
        db.row .referrals id = some row ∧ row.resellerId = resellerId
  | coin _, found => found = none

/-- What a call knows at a point. -/
def Knows (call : LookupCall) (db : Db) : LookupPoint → Prop
  | .started | .lost => True
  | .missing => ∀ id, ¬ call.key.At db id
  | .existing id | .inserted id => call.key.At db id
  | .ended result => ∃ found, result = .ok found ∧ call.Returns db found

/-- The reseller whose settings are asked for is there. -/
def HasReseller (db : Db) : LookupCall → Prop
  | settings resellerId => (db.row .resellers resellerId).isSome = true
  | _ => True

theorem returns_fetchCustomer {resellerId id : Nat} {telegramUserId : Int}
    (is : (LookupKey.customer resellerId telegramUserId).At db id) :
    ∃ found, fetchCustomer id db = .ok found ∧
      (customer resellerId telegramUserId).Returns db found := by
  obtain ⟨row, isRow, has⟩ := is
  change db.row .customers id = some row at isRow
  obtain ⟨ofReseller, ofUser⟩ :=
    LookupKey.customer.inj (Option.some.inj has)
  rw [fetchCustomer, isRow]
  exact ⟨_, rfl, id, row, rfl, isRow, ofReseller, ofUser⟩

theorem returns_fetchSettings {resellerId id : Nat}
    (is : (LookupKey.settings resellerId).At db id) :
    ∃ found, fetchSettings resellerId db = .ok found ∧
      (settings resellerId).Returns db found := by
  rw [fetchSettings]
  cases listed : (LookupKey.settings resellerId).ids db with
  | nil =>
      rw [← LookupKey.mem_ids, listed] at is
      cases is
  | cons first rest =>
      have isFirst : first ∈ (LookupKey.settings resellerId).ids db := by
        rw [listed]
        exact List.mem_cons_self
      obtain ⟨row, isRow, has⟩ := LookupKey.mem_ids.mp isFirst
      change db.row .referrals first = some row at isRow
      rw [List.head?_cons, Option.bind_some, isRow]
      exact ⟨_, rfl, first, row, rfl, isRow,
        LookupKey.settings.inj (Option.some.inj has)⟩

theorem knows_afterFound {id : Nat} (is : call.key.At db id) :
    call.Knows db (call.afterFound id db) := by
  cases call with
  | customer => exact returns_fetchCustomer is
  | settings => exact returns_fetchSettings is
  | coin => exact is

/-- The look-up of a call. -/
theorem knows_afterLookup :
    call.Knows db (call.afterLookup db (call.key.ids db)) := by
  cases listed : call.key.ids db with
  | nil =>
      intro id is
      rw [← LookupKey.mem_ids, listed] at is
      cases is
  | cons first rest =>
      apply knows_afterFound
      rw [← LookupKey.mem_ids, listed]
      exact List.mem_cons_self

theorem ids_eq_nil (absent : ∀ id, ¬ call.key.At db id) :
    call.key.ids db = [] :=
  List.eq_nil_iff_forall_not_mem.mpr fun id member =>
    absent id (LookupKey.mem_ids.mp member)

/-- The insertion of a call that the table allows. -/
theorem extends_inserted {name : TableName} {row : RowOf name}
    {allowed : Bool} {next : LookupPoint} (isAllowed : allowed = true)
    (has : LookupKey.ofRow name row = some call.key)
    (absent : ∀ id, ¬ call.key.At db id)
    (knows : ∀ after, call.key.At after (db.nextId name) →
      call.Knows after next) :
    call.key.Extends db (insert allowed name row next db).1 ∧
      call.Knows (insert allowed name row next db).1
        (insert allowed name row next db).2 := by
  obtain ⟨grows, isNew⟩ := LookupKey.extends_insert has absent
  rw [insert, if_pos isAllowed]
  exact ⟨grows, knows _ isNew⟩

/-- The next statement of a call extends the tables, and the call knows what
it has to know after it. -/
theorem extends_advance (knows : call.Knows db point)
    (hasReseller : call.HasReseller db) :
    call.key.Extends db (call.advance point db).1 ∧
      call.Knows (call.advance point db).1 (call.advance point db).2 := by
  cases point with
  | started => exact ⟨.refl db, knows_afterLookup⟩
  | missing =>
      have nothing := ids_eq_nil knows
      cases call with
      | customer resellerId telegramUserId =>
          exact extends_inserted (decide_eq_true nothing) rfl knows
            fun _ is => is
      | settings resellerId =>
          have allowed : (decide ((LookupKey.settings resellerId).ids db =
              []) && (db.row .resellers resellerId).isSome) = true := by
            rw [Bool.and_eq_true, decide_eq_true_eq]
            exact ⟨nothing, hasReseller⟩
          exact extends_inserted allowed rfl knows fun _ is => is
      | coin setting =>
          exact extends_inserted rfl rfl knows fun _ _ => ⟨none, rfl, rfl⟩
  | existing id =>
      cases call with
      | coin setting => exact ⟨LookupKey.extends_modify, none, rfl, rfl⟩
      | _ => exact ⟨.refl db, knows⟩
  | inserted id =>
      cases call with
      | customer => exact ⟨.refl db, returns_fetchCustomer knows⟩
      | settings => exact ⟨.refl db, returns_fetchSettings knows⟩
      | coin => exact ⟨.refl db, knows⟩
  | ended result => cases call <;> exact ⟨.refl db, knows⟩
  | lost => cases call <;> exact ⟨.refl db, knows⟩

/-- The returned row stays as it is. -/
theorem Returns.extends {key : LookupKey} {found : Option FetchedRow}
    (returns : call.Returns db found) (grows : key.Extends db after) :
    call.Returns after found := by
  cases call with
  | customer =>
      obtain ⟨id, row, isFound, isRow, rest⟩ := returns
      exact ⟨id, row, isFound, grows.rows .customers (by decide) id row isRow,
        rest⟩
  | settings =>
      obtain ⟨id, row, isFound, isRow, rest⟩ := returns
      exact ⟨id, row, isFound, grows.rows .referrals (by decide) id row isRow,
        rest⟩
  | coin => exact returns

/-- What a call knows outlasts the statements of the others, if none of them
inserts the row that it has not found. -/
theorem Knows.extends {key : LookupKey} (knows : call.Knows db point)
    (grows : key.Extends db after)
    (apart : point = .missing → call.key ≠ key) : call.Knows after point := by
  cases point with
  | started | lost => trivial
  | missing =>
      exact fun id is => knows id (grows.others _ (apart rfl) id is)
  | existing id => exact grows.kept _ id knows
  | inserted id => exact grows.kept _ id knows
  | ended result =>
      obtain ⟨found, isFound, returns⟩ := knows
      exact ⟨found, isFound, returns.extends grows⟩

/-- A call inserts in one step and updates in another one. -/
theorem state_advance (notMissing : point ≠ .missing)
    (notExisting : ∀ id, point ≠ .existing id) :
    (call.advance point db).1 = db := by
  cases point with
  | missing => exact absurd rfl notMissing
  | existing id => exact absurd rfl (notExisting id)
  | started => rfl
  | inserted id => cases call <;> rfl
  | ended result => cases call <;> rfl
  | lost => cases call <;> rfl

/-- An insertion leaves the rows that are there alone. -/
theorem row_insert {allowed : Bool} {name table : TableName}
    {row : RowOf name} {next : LookupPoint} {id : Nat} {found : RowOf table}
    (isFound : db.row table id = some found) :
    (insert allowed name row next db).1.row table id = some found := by
  unfold insert
  split
  · by_cases same : table = name
    · subst same
      have old := lt_nextId_of_row isFound
      rw [row_put_ne (by omega), row_reserve, isFound]
    · rw [row_put_of_ne same, row_reserve, isFound]
  · rw [row_reserve, isFound]

/-- Only a look-up leads to an insertion. -/
theorem started_of_missing
    (isMissing : (call.advance point db).2 = .missing) :
    point = .started ∧ call.key.ids db = [] := by
  have refuses : ∀ {allowed : Bool} {name : TableName} {row : RowOf name}
      {next : LookupPoint}, next ≠ .missing →
        (insert allowed name row next db).2 ≠ .missing := by
    intro allowed name row next different
    unfold insert
    split
    · exact different
    · exact LookupPoint.noConfusion
  cases point with
  | started =>
      refine ⟨rfl, ?_⟩
      change call.afterLookup db (call.key.ids db) = .missing at isMissing
      cases listed : call.key.ids db with
      | nil => rfl
      | cons first rest =>
          rw [listed] at isMissing
          cases call <;> cases isMissing
  | missing =>
      cases call <;>
        exact absurd isMissing (refuses LookupPoint.noConfusion)
  | existing id => cases call <;> cases isMissing
  | inserted id => cases call <;> cases isMissing
  | ended result => cases call <;> cases isMissing
  | lost => cases call <;> cases isMissing

/-- What a call knows outlasts the next statement of another call, unless both
are about to insert the same row. -/
theorem Knows.advance {own : LookupPoint} (knows : other.Knows db point)
    (ownKnows : call.Knows db own) (hasReseller : call.HasReseller db)
    (apart : point = .missing → own = .missing → other.key ≠ call.key) :
    other.Knows (call.advance own db).1 point := by
  by_cases clash : point = .missing ∧ other.key = call.key
  · obtain ⟨rfl, same⟩ := clash
    rw [state_advance]
    · exact knows
    · exact fun inserts => apart rfl inserts same
    · rintro id rfl
      exact knows id (same ▸ ownKnows)
  · exact knows.extends (extends_advance ownKnows hasReseller).1
      fun isMissing same => clash ⟨isMissing, same⟩

end Steps

end LookupCall

abbrev LookupRun (Caller : Type) := PointRun Caller LookupPoint Db

namespace LookupRun

variable {Caller : Type}

def start (db : Db) : LookupRun Caller where
  state := db
  point _ := .started

variable [DecidableEq Caller] (calls : Caller → LookupCall)

def step : LookupRun Caller → Event Caller → LookupRun Caller :=
  PointRun.step fun caller => (calls caller).layout

/-- The calls at their beginning, as programs over the transactional store. -/
def programs (db : Db) : System Caller Db RowKey LookupResult :=
  System.start db fun caller => (calls caller).program

/-- A look-up that finds nothing does not fall between such a look-up of
another call for the same key and its insertion. -/
def FindsAlone (run : LookupRun Caller) : Event Caller → Prop
  | .advance caller =>
      run.point caller = .started → (calls caller).key.ids run.state = [] →
        ∀ other, (calls other).key = (calls caller).key →
          run.point other ≠ .missing
  | .lose _ => True

/-- A row of the coin has the values of one of the calls. -/
def HasSetting (db : Db) (coinName : String) : Prop :=
  ∃ id caller setting, db.row .cryptoSettings id = some setting.row ∧
    calls caller = .coin setting ∧ setting.row.coinName = coinName

/-- What holds as long as look-ups find nothing alone. -/
structure Orderly (run : LookupRun Caller) : Prop where
  single : ∀ key : LookupKey, key.Single run.state
  resellers : ∀ caller, (calls caller).HasReseller run.state
  knows : ∀ caller, (calls caller).Knows run.state (run.point caller)
  alone : ∀ first second, (calls first).key = (calls second).key →
    run.point first = .missing → run.point second = .missing → first = second
  written : ∀ caller setting result, calls caller = .coin setting →
    run.point caller = .ended result →
      HasSetting calls run.state setting.row.coinName

section Settings

variable {calls} {caller : Caller} {db : Db} {coinName : String}
variable {point : LookupPoint} {setting : CoinSetting}

theorem withValues_eq {new row : CryptoSettingRow}
    (same : row.coinName = new.coinName) : new.withValues row = new := by
  unfold CryptoSettingRow.withValues
  rw [same]

omit [DecidableEq Caller] in
/-- Whatever statement comes next, the coin has the values of a call. -/
theorem HasSetting.advance (has : HasSetting calls db coinName)
    (knows : (calls caller).Knows db point) :
    HasSetting calls ((calls caller).advance point db).1 coinName := by
  obtain ⟨id, writer, setting, isRow, writes, isCoin⟩ := has
  cases point with
  | missing =>
      refine ⟨id, writer, setting, ?_, writes, isCoin⟩
      cases calls caller <;> exact LookupCall.row_insert isRow
  | existing found =>
      cases isCall : calls caller with
      | coin new =>
          rw [isCall] at knows
          obtain ⟨row, isFound, hasKey⟩ := knows
          change db.row .cryptoSettings found = some row at isFound
          have sameCoin : row.coinName = new.row.coinName :=
            LookupKey.coin.inj (Option.some.inj hasKey)
          change HasSetting calls (db.modify .cryptoSettings found _) coinName
          by_cases same : id = found
          · subst same
            cases isRow.symm.trans isFound
            refine ⟨id, caller, new, ?_, isCall, sameCoin.symm.trans isCoin⟩
            rw [row_modify_self, isRow, Option.map_some,
              withValues_eq sameCoin]
          · exact ⟨id, writer, setting, by rw [row_modify_ne same, isRow],
              writes, isCoin⟩
      | _ => exact ⟨id, writer, setting, isRow, writes, isCoin⟩
  | _ =>
      rw [LookupCall.state_advance LookupPoint.noConfusion
        fun _ => LookupPoint.noConfusion]
      exact ⟨id, writer, setting, isRow, writes, isCoin⟩

omit [DecidableEq Caller] in
/-- A call for a coin that ends has written its values. -/
theorem hasSetting_of_ended {result : LookupResult}
    (isCall : calls caller = .coin setting)
    (knows : (calls caller).Knows db point)
    (going : ∀ result, point ≠ .ended result)
    (ended : ((calls caller).advance point db).2 = .ended result) :
    HasSetting calls ((calls caller).advance point db).1
      setting.row.coinName := by
  have written := isCall
  rw [isCall] at ended knows ⊢
  cases point with
  | started =>
      change (LookupCall.coin setting).afterLookup db
        ((LookupCall.coin setting).key.ids db) = _ at ended
      cases listed : (LookupCall.coin setting).key.ids db with
      | nil =>
          rw [listed] at ended
          cases ended
      | cons first rest =>
          rw [listed] at ended
          cases ended
  | missing =>
      exact ⟨db.nextId .cryptoSettings, caller, setting,
        row_put_self (by simp), written, rfl⟩
  | existing found =>
      obtain ⟨row, isFound, hasKey⟩ := knows
      change db.row .cryptoSettings found = some row at isFound
      have sameCoin : row.coinName = setting.row.coinName :=
        LookupKey.coin.inj (Option.some.inj hasKey)
      have replaced : (db.row .cryptoSettings found).map
          (setting.row.withValues ·) = some setting.row := by
        rw [isFound]
        exact congrArg some (withValues_eq sameCoin)
      refine ⟨found, caller, setting, ?_, written, rfl⟩
      change (db.modify .cryptoSettings found _).row .cryptoSettings found = _
      rw [row_modify_self, replaced]
  | inserted id => cases ended
  | ended result => exact absurd rfl (going result)
  | lost => cases ended

end Settings

section Steps

variable {calls} {run : LookupRun Caller}

theorem step_advance (caller : Caller) :
    run.step calls (.advance caller) =
      ⟨((calls caller).advance (run.point caller) run.state).1,
        Function.update run.point caller
          ((calls caller).advance (run.point caller) run.state).2⟩ :=
  rfl

theorem Orderly.advance (orderly : Orderly calls run) {caller : Caller}
    (alone : FindsAlone calls run (.advance caller)) :
    Orderly calls (run.step calls (.advance caller)) := by
  have own := orderly.knows caller
  obtain ⟨grows, knowsNext⟩ :=
    LookupCall.extends_advance own (orderly.resellers caller)
  rw [step_advance]
  refine ⟨grows.single orderly.single, fun other => ?_, fun other => ?_,
    ?_, ?_⟩
  · have before := orderly.resellers other
    cases isCall : calls other with
    | settings resellerId =>
        rw [isCall] at before
        obtain ⟨reseller, found⟩ := Option.isSome_iff_exists.mp before
        exact Option.isSome_iff_exists.mpr
          ⟨reseller, grows.rows .resellers (by decide) _ _ found⟩
    | _ => trivial
  · by_cases same : other = caller
    · subst same
      dsimp only
      rw [Function.update_self]
      exact knowsNext
    · dsimp only
      rw [Function.update_of_ne same]
      refine (orderly.knows other).advance own (orderly.resellers caller) ?_
      exact fun isMissing ownMissing sameKey =>
        same (orderly.alone other caller sameKey isMissing ownMissing)
  · have noOther : ∀ other, other ≠ caller →
        (calls other).key = (calls caller).key →
          ((calls caller).advance (run.point caller) run.state).2 =
            .missing → run.point other ≠ .missing := by
      intro other _ sameKey isMissing
      obtain ⟨isStarted, nothing⟩ := LookupCall.started_of_missing isMissing
      exact alone isStarted nothing other sameKey
    intro first second sameKey
    dsimp only
    by_cases isFirst : first = caller <;> by_cases isSecond : second = caller
    · exact fun _ _ => isFirst.trans isSecond.symm
    · subst isFirst
      rw [Function.update_self, Function.update_of_ne isSecond]
      intro firstMissing secondMissing
      exact absurd secondMissing
        (noOther second isSecond sameKey.symm firstMissing)
    · subst isSecond
      rw [Function.update_self, Function.update_of_ne isFirst]
      intro firstMissing secondMissing
      exact absurd firstMissing
        (noOther first isFirst sameKey secondMissing)
    · rw [Function.update_of_ne isFirst, Function.update_of_ne isSecond]
      exact orderly.alone first second sameKey
  · intro other setting result isCall
    dsimp only
    by_cases same : other = caller
    · subst same
      rw [Function.update_self]
      intro ended
      by_cases wasOver : ∃ result, run.point other = .ended result
      · obtain ⟨before, wasEnded⟩ := wasOver
        exact (orderly.written other setting before isCall wasEnded).advance
          own
      · exact hasSetting_of_ended isCall own (not_exists.mp wasOver) ended
    · rw [Function.update_of_ne same]
      intro ended
      exact (orderly.written other setting result isCall ended).advance own

/-- A call whose connection is lost leaves the tables as they are. -/
theorem Orderly.lose (orderly : Orderly calls run) (caller : Caller) :
    Orderly calls (run.step calls (.lose caller)) := by
  unfold step PointRun.step
  dsimp only
  split
  · exact orderly
  · have before : ∀ {other point}, point ≠ .lost →
        Function.update run.point caller .lost other = point →
          run.point other = point := by
      intro other point notLost isAt
      by_cases same : other = caller
      · subst same
        rw [Function.update_self] at isAt
        exact absurd isAt.symm notLost
      · rwa [Function.update_of_ne same] at isAt
    refine ⟨orderly.single, orderly.resellers, fun other => ?_, ?_, ?_⟩
    · change (calls other).Knows run.state
        (Function.update run.point caller .lost other)
      by_cases same : other = caller
      · subst same
        rw [Function.update_self]
        trivial
      · rw [Function.update_of_ne same]
        exact orderly.knows other
    · intro first second sameKey isFirst isSecond
      exact orderly.alone first second sameKey
        (before LookupPoint.noConfusion isFirst)
        (before LookupPoint.noConfusion isSecond)
    · intro other setting result isCall ended
      exact orderly.written other setting result isCall
        (before LookupPoint.noConfusion ended)

theorem Orderly.step (orderly : Orderly calls run) {event : Event Caller}
    (alone : FindsAlone calls run event) :
    Orderly calls (run.step calls event) := by
  cases event with
  | advance caller => exact orderly.advance alone
  | lose caller => exact orderly.lose caller

omit [DecidableEq Caller] in
theorem Orderly.start {db : Db} (single : ∀ key : LookupKey, key.Single db)
    (resellers : ∀ caller, (calls caller).HasReseller db) :
    Orderly calls (start db) where
  single := single
  resellers := resellers
  knows _ := trivial
  alone _ _ _ isMissing := LookupPoint.noConfusion isMissing
  written _ _ _ _ ended := LookupPoint.noConfusion ended

end Steps

/-- No call has raised, the calls that look for the same row have returned the
same one, no key has two rows, and the row of a coin has the values of a
call. -/
structure LookupsRight (system : System Caller Db RowKey LookupResult) :
    Prop where
  returned : ∀ caller result,
    (system.process caller).program = .done result →
      ∃ found, result = .ok found ∧ (calls caller).Returns system.state found
  same : ∀ first second firstResult secondResult,
    (calls first).key = (calls second).key →
      (system.process first).program = .done firstResult →
        (system.process second).program = .done secondResult →
          firstResult = secondResult
  single : ∀ key : LookupKey, key.Single system.state
  written : ∀ caller setting result, calls caller = .coin setting →
    (system.process caller).program = .done result →
      HasSetting calls system.state setting.row.coinName

section Runs

variable {calls}

/-- Two calls for the same row return the same. -/
theorem returns_unique {db : Db} {first second : LookupCall}
    {firstFound secondFound : Option FetchedRow}
    (sameKey : first.key = second.key)
    (single : ∀ key : LookupKey, key.Single db)
    (isFirst : first.Returns db firstFound)
    (isSecond : second.Returns db secondFound) :
    firstFound = secondFound := by
  cases first with
  | customer resellerId telegramUserId =>
      cases second <;> cases sameKey
      obtain ⟨firstId, firstRow, rfl, atFirst, rfl, rfl⟩ := isFirst
      obtain ⟨secondId, secondRow, rfl, atSecond, ofReseller, ofUser⟩ :=
        isSecond
      have sameId : firstId = secondId :=
        single (.customer _ _) firstId secondId ⟨firstRow, atFirst, rfl⟩
          ⟨secondRow, atSecond, by
            rw [← ofReseller, ← ofUser]
            rfl⟩
      subst sameId
      cases atFirst.symm.trans atSecond
      rfl
  | settings resellerId =>
      cases second <;> cases sameKey
      obtain ⟨firstId, firstRow, rfl, atFirst, rfl⟩ := isFirst
      obtain ⟨secondId, secondRow, rfl, atSecond, ofReseller⟩ := isSecond
      have sameId : firstId = secondId :=
        single (.settings _) firstId secondId ⟨firstRow, atFirst, rfl⟩
          ⟨secondRow, atSecond, by
            rw [← ofReseller]
            rfl⟩
      subst sameId
      cases atFirst.symm.trans atSecond
      rfl
  | coin setting =>
      cases second with
      | coin => exact isFirst.trans isSecond.symm
      | customer | settings => cases sameKey

/-- A call has a result only at its end. -/
theorem ended_of_done {call : LookupCall} {point : LookupPoint}
    {result : LookupResult} (isDone : call.rest point = .done result) :
    point = .ended result := by
  cases call <;> cases point <;> cases isDone <;> rfl

omit [DecidableEq Caller] in
theorem Orderly.lookupsRight {run : LookupRun Caller}
    (orderly : Orderly calls run) :
    LookupsRight calls
      (run.system fun caller => (calls caller).layout) := by
  have knows : ∀ caller result,
      (calls caller).rest (run.point caller) = .done result →
        ∃ found, result = .ok found ∧
          (calls caller).Returns run.state found := by
    intro caller result isDone
    have known := orderly.knows caller
    rwa [ended_of_done isDone] at known
  refine ⟨knows, ?_, orderly.single, ?_⟩
  · intro first second firstResult secondResult sameKey isFirst isSecond
    obtain ⟨firstFound, rfl, firstReturns⟩ := knows first _ isFirst
    obtain ⟨secondFound, rfl, secondReturns⟩ := knows second _ isSecond
    rw [returns_unique sameKey orderly.single firstReturns secondReturns]
  · intro caller setting result isCall isDone
    exact orderly.written caller setting result isCall (ended_of_done isDone)

omit [DecidableEq Caller] in
theorem system_start (db : Db) :
    (start db).system (fun caller : Caller => (calls caller).layout) =
      programs calls db := by
  have program : ∀ call : LookupCall, call.rest .started = call.program := by
    intro call
    cases call <;> rfl
  unfold programs System.start PointRun.system
  exact congrArg (System.mk db [] ·)
    (funext fun caller => congrArg (Process.mk · none)
      (program (calls caller)))

/-- A run of the programs is a run of points. -/
theorem final_programs (db : Db) (events : List (Event Caller)) :
    StepRuns.final System.step (programs calls db) events =
      (StepRuns.final (step calls) (start db) events).system
        fun caller => (calls caller).layout := by
  have isSystem := @PointRun.system_final _ _ _ _ _ _
    (fun caller => (calls caller).layout) (start db) _
    (fun caller => (calls caller).faithful) events
  rw [← system_start, ← isSystem]
  rfl

/-- Look-ups are right along every run in which they find nothing alone. -/
theorem lookupsRight_of_findsAlone {db : Db}
    (single : ∀ key : LookupKey, key.Single db)
    (resellers : ∀ caller, (calls caller).HasReseller db)
    {events : List (Event Caller)}
    (alone : StepRuns.Along (step calls) (FindsAlone calls) (start db)
      events) :
    LookupsRight calls
      (StepRuns.final System.step (programs calls db) events) := by
  have orderly :=
    (StepRuns.along_of_guarded (Orderly calls) (fun _ _ => True)
      (fun run event orderly alone => ⟨trivial, orderly.step alone⟩)
      (Orderly.start single resellers) alone).2
  rw [final_programs]
  exact orderly.lookupsRight

end Runs

section Examples

instance decidableHasReseller (db : Db) :
    (call : LookupCall) → Decidable (call.HasReseller db)
  | .settings resellerId =>
      inferInstanceAs (Decidable ((db.row .resellers resellerId).isSome = true))
  | .customer _ _ | .coin _ => inferInstanceAs (Decidable True)

instance decidableFindsAlone [Fintype Caller] (run : LookupRun Caller) :
    (event : Event Caller) → Decidable (FindsAlone calls run event)
  | .advance caller =>
      inferInstanceAs (Decidable (run.point caller = .started →
        (calls caller).key.ids run.state = [] →
          ∀ other, (calls other).key = (calls caller).key →
            run.point other ≠ .missing))
  | .lose _ => inferInstanceAs (Decidable True)

/-- A user comes to a shop, the settings of its reseller are asked for and a
coin is set, each twice. -/
def inPairs : Fin 6 → LookupCall
  | 0 | 1 => .customer 1 7
  | 2 | 3 => .settings 1
  | 4 => .coin ⟨⟨"USDT", "T1", "TRC20", 9000000⟩, by decide⟩
  | 5 => .coin ⟨⟨"USDT", "T2", "TRC20", 9500000⟩, by decide⟩

/-- The calls come one after the other. -/
def inTurns : List (Event (Fin 6)) :=
  [0, 0, 0, 1, 2, 2, 2, 3, 4, 4, 5, 5].map .advance

/-- Both calls of a pair look for their row before one of them inserts it. -/
def overlapping (first second : Fin 6) : List (Event (Fin 6)) :=
  [first, second, first, second].map .advance

/-- A shop that nobody has come to. -/
def unvisitedDb : Db :=
  .filled fun
    | .resellers => [shopReseller]
    | _ => []

theorem single_unvisitedDb (key : LookupKey) : key.Single unvisitedDb := by
  rintro first second ⟨row, isRow, -⟩
  have member := KeyedTable.mem_of_row_ofRows isRow
  cases key <;> cases member

theorem lookupsRight_inTurns :
    LookupsRight inPairs
      (StepRuns.final System.step (programs inPairs unvisitedDb)
        inTurns) :=
  lookupsRight_of_findsAlone single_unvisitedDb (by decide +kernel)
    (by decide +kernel)

/-- Of two look-ups for a customer, and of two for the settings of a reseller,
one raises.  Two look-ups for a coin leave two rows. -/
theorem overlapping_lookups :
    ¬ LookupsRight inPairs
        (StepRuns.final System.step (programs inPairs unvisitedDb)
          (overlapping 0 1)) ∧
      ¬ LookupsRight inPairs
        (StepRuns.final System.step (programs inPairs unvisitedDb)
          (overlapping 2 3)) ∧
      ¬ LookupsRight inPairs
        (StepRuns.final System.step (programs inPairs unvisitedDb)
          (overlapping 4 5)) := by
  rw [final_programs, final_programs, final_programs]
  have raises : ∀ (caller : Fin 6) (run : LookupRun (Fin 6)),
      run.point caller = .ended (.error .integrityError) →
        ¬ LookupsRight inPairs
          (run.system fun caller => (inPairs caller).layout) := by
    intro caller run isEnded right
    have isDone : (inPairs caller).rest (run.point caller) =
        .done (.error .integrityError) := by
      rw [isEnded]
      cases inPairs caller <;> rfl
    obtain ⟨found, isFound, -⟩ := right.returned caller _ isDone
    cases isFound
  refine ⟨raises 1 _ (by decide +kernel), raises 3 _ (by decide +kernel), ?_⟩
  intro right
  have first : (StepRuns.final (step inPairs) (start unvisitedDb)
      (overlapping 4 5)).state.row .cryptoSettings 1 =
        some ⟨"USDT", "T1", "TRC20", 9000000⟩ := by
    decide +kernel
  have second : (StepRuns.final (step inPairs) (start unvisitedDb)
      (overlapping 4 5)).state.row .cryptoSettings 2 =
        some ⟨"USDT", "T2", "TRC20", 9500000⟩ := by
    decide +kernel
  have same : (1 : Nat) = 2 :=
    right.single (.coin "USDT") 1 2 ⟨_, first, rfl⟩ ⟨_, second, rfl⟩
  exact absurd same (by decide)

end Examples

end LookupRun

end Baste
