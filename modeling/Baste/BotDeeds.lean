import Baste.CatalogDeletions
import Baste.ShopMoves
import Mathlib.Logic.Relation

/-!
# What the bots do to the database

Between two updates nothing happens to the database.  During an update a
handler calls service functions, inserts a row of a few kinds, or changes
settings; only a restore does more.  What every such deed does to the database
every handler does.
-/

namespace Baste

open BotScripts Database

/-- The tables that handlers write to as they please: the settings, and the
folders of the catalog. -/
def settingTables : List TableName :=
  [.resellerOperators, .resellerPaymentCards, .categories,
    .discountCodes, .referrals, .forcedJoinChannels, .categoryPriceFloors,
    .cryptoSettings, .backupLogs]

/-- The rows that handlers insert themselves: nothing has happened to them. -/
def IsNewRow : (name : TableName) → RowOf name → Prop
  | .resellers, reseller => reseller.walletCreditBalance = 0
  | .customers, customer => customer.walletBalance = 0
  | .customerWalletTopups, topup =>
      topup.status = .pending ∧ topup.receiptImage = none
  | .orders, _ | .walletTransactions, _ | .disputes, _
  | .chargeCodes, _ => False
  | _, _ => True

/-- The reseller without what the panels change. -/
def ResellerRow.account (reseller : ResellerRow) : ResellerRow :=
  { reseller with
    status := .active
    supportContact := none
    zarinpalMerchantId := none
    commissionPercent := 0 }

/-- A part of the catalog is deleted, with the codes of its packages.  A
package that has orders stays and keeps its codes. -/
structure ClearsCatalog (before after : Db) : Prop where
  rows : SameOutside [.categories, .packages, .chargeCodes] before after
  codes : ShopBot.ResellerCatalog.CodesOnlyGo before after
  spares : ∀ id code, before.row .chargeCodes id = some code →
    ShopBot.ResellerCatalog.Ordered [code.packageId] before →
      after.row .chargeCodes id = some code
  ordered : ∀ id, ShopBot.ResellerCatalog.Ordered [id] before →
    after.row .packages id = before.row .packages id

namespace ClearsCatalog

variable {first second third : Db}

theorem still_ordered {packageIds : List Nat}
    (clears : ClearsCatalog first second)
    (ordered : ShopBot.ResellerCatalog.Ordered packageIds first) :
    ShopBot.ResellerCatalog.Ordered packageIds second := by
  obtain ⟨orderId, order, isOrder, refers⟩ := ordered
  refine ⟨orderId, order, ?_, refers⟩
  rw [clears.rows.rows .orders (by decide), isOrder]

theorem trans (start : ClearsCatalog first second)
    (rest : ClearsCatalog second third) : ClearsCatalog first third where
  rows := start.rows.trans rest.rows
  codes id code found := start.codes id code (rest.codes id code found)
  spares id code found ordered :=
    rest.spares id code (start.spares id code found ordered)
      (start.still_ordered ordered)
  ordered id ordered :=
    (rest.ordered id (start.still_ordered ordered)).trans
      (start.ordered id ordered)

end ClearsCatalog

/-- One change of the database by a handler. -/
inductive BotDeed : Db → Db → Prop where
  | service {db : Db} (call : ServiceCall) : BotDeed db (call.runAlone db)
  | insert {db : Db} {name : TableName} {row : RowOf name}
      (isNew : IsNewRow name row) :
      BotDeed db ((db.reserve name).put name (db.nextId name) row)
  | settings {before after : Db} {tables : List TableName}
      (same : SameOutside tables before after)
      (inside : tables ⊆ settingTables) : BotDeed before after
  | package {db : Db} {id : Nat} {change : PackageRow → PackageRow} :
      BotDeed db (db.modify .packages id change)
  | deletion {before after : Db} (clears : ClearsCatalog before after) :
      BotDeed before after
  | discount {db : Db} {orderId : Nat} {price : Cents} :
      BotDeed db (db.modify .orders orderId fun order =>
        { order with packagePrice := price })
  | disputed {db : Db} {orderId : Nat} :
      BotDeed db (db.modify .orders orderId (·.withStatus .refundPending))
  | receipt {db : Db} {topupId : Nat} {receiptFileId : String} :
      BotDeed db (db.modify .customerWalletTopups topupId fun topup =>
        { topup with receiptImage := some receiptFileId })
  | reseller {db : Db} {id : Nat} {change : ResellerRow → ResellerRow}
      (kept : ∀ reseller, (change reseller).account = reseller.account) :
      BotDeed db (db.modify .resellers id change)

/-- Several deeds, one after the other. -/
abbrev BotDeeds : Db → Db → Prop :=
  Relation.ReflTransGen BotDeed

/-- What all deeds have in common all handlers have in common. -/
theorem related_of_botDeeds {related : Db → Db → Prop} [Std.Refl related]
    [IsTrans Db related] {before after : Db}
    (deed : ∀ first second, BotDeed first second → related first second)
    (deeds : BotDeeds before after) : related before after := by
  induction deeds with
  | refl => exact Std.Refl.refl _
  | tail _ last ih => exact IsTrans.trans _ _ _ ih (deed _ _ last)

namespace BotScripts

section Rules

variable {State Data Result Next : Type}

/-- Whatever becomes of the script, it has only done such deeds. -/
abbrev Does (script : BotScript State Data Result) : Prop :=
  script.Moves (fun visit => visit.platform.db) BotDeeds

theorem does_of_keeps {script : BotScript State Data Result}
    (keeps : KeepsPlatform (fun platform => platform.db) script) :
    Does script :=
  keeps.moves

theorem does_pure (value : Result) :
    Does (pure value : BotScript State Data Result) :=
  does_of_keeps (Failing.keeps_pure value)

theorem does_throw (error : HandlerError) :
    Does (throw error : BotScript State Data Result) :=
  does_of_keeps (Failing.keeps_throw error)

theorem does_clear [EmptyCollection Data] :
    Does (clear : BotScript State Data Unit) :=
  does_of_keeps keeps_clear

/-- What comes before a deed leaves the database alone. -/
theorem does_after {script : BotScript State Data Result}
    {next : Result → BotScript State Data Next}
    (keeps : KeepsPlatform (fun platform => platform.db) script)
    (rest : ∀ value, Does (next value)) : Does (script >>= next) :=
  (does_of_keeps keeps).bind rest

theorem does_ite {test : Prop} [Decidable test]
    {yes no : BotScript State Data Result} (first : Does yes)
    (second : Does no) : Does (if test then yes else no) := by
  split
  · exact first
  · exact second

theorem does_attempt (service : ServiceCall) :
    Does (attempt service : BotScript State Data Outcome) := by
  intro visit
  dsimp only
  rw [db_attempt]
  exact .single (.service service)

theorem does_call (service : ServiceCall) :
    Does (call service : BotScript State Data Reply) := by
  intro visit
  dsimp only
  rw [db_call]
  exact .single (.service service)

theorem does_executeWrite {change : Db → Db}
    (deed : ∀ db, BotDeed db (change db)) :
    Does (executeWrite change : BotScript State Data Unit) :=
  fun _ => .single (deed _)

theorem does_executeInsert {name : TableName} {allowed : Db → Bool}
    {row : RowOf name} (isNew : IsNewRow name row) :
    Does (executeInsert name allowed row : BotScript State Data Nat) := by
  intro visit
  dsimp only
  rw [db_executeInsert]
  dsimp only
  split
  · exact .single (.insert isNew)
  · exact .single (.settings .reserve (List.nil_subset _))

theorem does_executeUpdate {name : TableName} {id : Nat} {held : Bool}
    {change : RowOf name → RowOf name}
    (deed : ∀ db, BotDeed db (db.modify name id change)) :
    Does (executeUpdate name id held change : BotScript State Data Unit) := by
  intro visit
  dsimp only
  rw [db_executeUpdate]
  split
  · exact .single (deed _)
  · exact .refl

theorem does_within [EmptyCollection Data] {footprint : Footprint State Data}
    {script : BotScript State Data Result} (within : footprint.Within script)
    (inside : footprint.tables ⊆ settingTables) : Does script :=
  fun visit => .single (.settings (within visit).rows inside)

/-- The handler does such deeds only. -/
def DoesDeeds (handler : BotHandler State Data) : Prop :=
  ∀ update, Does (handler.action update)

theorem doesDeeds_of_admits [EmptyCollection Data]
    {footprint : Footprint State Data} {handler : BotHandler State Data}
    (admits : footprint.Admits handler)
    (inside : footprint.tables ⊆ settingTables) : DoesDeeds handler :=
  fun update => does_within (admits update) inside

theorem doesDeeds_onMessage {test : Option State → Message → Bool}
    {action : Message → BotScript State Data Unit}
    (does : ∀ message, Does (action message)) :
    DoesDeeds (onMessage test action) := by
  intro update
  cases update with
  | message message => exact does message
  | callback _ => exact does_pure ()

theorem doesDeeds_onCallback {test : Option State → String → Bool}
    {action : Callback → BotScript State Data Unit}
    (does : ∀ callback, Does (action callback)) :
    DoesDeeds (onCallback test action) := by
  intro update
  cases update with
  | message _ => exact does_pure ()
  | callback callback => exact does callback

/-- A service function is called with the id in the callback data. -/
theorem does_numberedCall {callback : Callback} {service : Nat → ServiceCall} :
    Does (do
      let number ← integerField callback 1
      let _ ← call (service (rowId number)) : BotScript State Data Unit) :=
  does_after (keeps_integerField _ _) fun _ =>
    (does_call _).bind fun _ => does_pure ()

end Rules

end BotScripts

namespace BotWorld

variable {State Data : Type} {handlers : List (BotHandler State Data)}

/-- If the handler of the update does such deeds only, the bot does. -/
theorem botDeeds_receive {world : BotWorld State Data} {update : Update}
    (does : ∀ handler ∈ handlers,
      handler.takes (world.conversationOf update).state update = true →
        Does (handler.action update)) :
    BotDeeds world.platform.db
      (world.receive handlers update).platform.db := by
  cases found : Handler.dispatch handlers (world.conversationOf update).state
      update with
  | none =>
      rw [receive_of_none found]
  | some script =>
      rw [platform_receive found]
      exact Handler.of_dispatch does found ⟨world.platform, _⟩

end BotWorld

end Baste
