import Baste.AdminDeeds
import Baste.RecordHistory
import Baste.ShopDeeds
import Baste.SoldCodes
import Baste.TypedNumbers

/-!
# The records that the bots leave

What is left of the records of all shops after any run of all bots in which
nobody confirms a restore.
-/

namespace Baste

open BotScripts Database ShopBot.ResellerCatalog

/-- The order without its price either, which a discount code changes. -/
def OrderRow.agreement (order : OrderRow) : OrderRow :=
  { order.asOrdered with packagePrice := 0 }

/-- What the bots may change.  The account of a reseller stays but for its
balance and its test mode. -/
def botRecordPolicy : ∀ name, RowPolicy (RowOf name)
  | .resellers => .keeping (fun reseller : ResellerRow =>
      { reseller.account with
        walletCreditBalance := 0
        testModeEnabled := false
        testModeOrdersUsed := 0 }) fun _ => (none : Option Unit)
  | .orders => .keeping OrderRow.agreement fun order : OrderRow =>
      order.receiptImage.map fun _ => ()
  | .customerWalletTopups => .keeping
      (fun topup : CustomerWalletTopupRow =>
        { topup with status := .pending, receiptImage := none })
      CustomerWalletTopupRow.decided
  | .customers => recordPolicy .customers
  | .walletTransactions => recordPolicy .walletTransactions
  | .disputes => recordPolicy .disputes
  | .chargeCodes => soldCodePolicy
  | .blacklist | .referralLinks => .fixed
  | _ => .free

section Deeds

theorem recordPolicy_refines :
    ∀ name, (recordPolicy name).Refines (botRecordPolicy name) := by
  intro name
  cases name with
  | customers | walletTransactions | disputes | chargeCodes => exact .refl
  | blacklist | referralLinks => exact .refl
  | resellers =>
      refine ⟨fun _ stays => stays, ?_⟩
      intro old new _ allows
      refine ⟨?_, fun _ isSettled => by cases isSettled⟩
      exact congrArg ResellerRow.account allows.permanent
  | orders =>
      refine ⟨fun _ stays => stays, ?_⟩
      intro old new _ allows
      exact ⟨congrArg (fun order : OrderRow =>
        { order with packagePrice := 0 }) allows.permanent, allows.settled⟩
  | customerWalletTopups =>
      refine ⟨fun _ stays => stays, ?_⟩
      intro old new _ allows
      exact ⟨congrArg (fun topup : CustomerWalletTopupRow =>
        { topup with receiptImage := none }) allows.permanent,
        allows.settled⟩
  | _ => exact RowPolicy.refines_free

/-- Settings and the catalog need not stay. -/
theorem not_stays_of_setting {name : TableName} (setting : name ∈ settingTables)
    (row : RowOf name) : ¬ (botRecordPolicy name).stays row := by
  cases name with
  | resellerOperators | resellerPaymentCards | categories | discountCodes
  | referrals | forcedJoinChannels | categoryPriceFloors | cryptoSettings
  | backupLogs => exact RowPolicy.not_stays_free
  | _ => exact absurd setting (by decide)

/-- A deletion in the catalog spares the sold codes. -/
theorem retains_of_clearsCatalog {before after : Db}
    (clears : ClearsCatalog before after) (sold : SoldHaveOrders before) :
    Retains botRecordPolicy before after := by
  intro name id old found stays
  refine ⟨old, ?_, .refl old⟩
  cases name with
  | chargeCodes => exact clears.spares id old found (sold id old found stays)
  | packages | categories => exact absurd stays RowPolicy.not_stays_free
  | _ => rw [clears.rows.rows _ (by decide), found]

/-- Sold codes go on having orders, and the records are kept. -/
def KeepsRecords (before after : Db) : Prop :=
  SoldHaveOrders before →
    SoldHaveOrders after ∧ Retains botRecordPolicy before after

instance : Std.Refl KeepsRecords :=
  ⟨fun db sold => ⟨sold, .refl db⟩⟩

instance : IsTrans Db KeepsRecords where
  trans _ _ _ start rest sold := by
    obtain ⟨between, first⟩ := start sold
    obtain ⟨later, second⟩ := rest between
    exact ⟨later, first.trans second⟩

theorem keepsRecords_of_rows {tables : List TableName} {before after : Db}
    (same : SameOutside tables before after) (noOrders : .orders ∉ tables)
    (noCodes : .chargeCodes ∉ tables)
    (retains : Retains botRecordPolicy before after) :
    KeepsRecords before after :=
  fun sold => ⟨(KeepsSales.of_sameOutside same noOrders noCodes).soldHaveOrders
    sold, retains⟩

theorem keepsRecords_order {db : Db} {id : Nat} {change : OrderRow → OrderRow}
    (agreed : ∀ order, (change order).agreement = order.agreement)
    (receipt : ∀ order, (change order).receiptImage = order.receiptImage) :
    KeepsRecords db (db.modify .orders id change) := by
  intro sold
  have samePackage (order : OrderRow) :
      (change order).packageId = order.packageId := by
    have same := congrArg OrderRow.packageId (agreed order)
    exact same
  refine ⟨(KeepsSales.modify_order samePackage).soldHaveOrders sold, ?_⟩
  refine .modify fun old _ _ => ⟨agreed old, fun fact isSettled => ?_⟩
  rw [← isSettled]
  exact congrArg (Option.map fun _ => ()) (receipt old)

theorem keepsRecords_insert {db : Db} {name : TableName} {row : RowOf name}
    (isNew : IsNewRow name row) :
    KeepsRecords db ((db.reserve name).put name (db.nextId name) row) := by
  have same : SameOutside [name] db
      ((db.reserve name).put name (db.nextId name) row) :=
    SameOutside.reserve.trans (.put List.mem_cons_self)
  cases name with
  | orders | chargeCodes => exact isNew.elim
  | _ => exact keepsRecords_of_rows same (by decide) (by decide) .insert

theorem keepsRecords_of_botDeed {before after : Db}
    (deed : BotDeed before after) : KeepsRecords before after := by
  cases deed with
  | service call =>
      exact fun sold =>
        ⟨(call.keepsSales_runAlone before).soldHaveOrders sold,
          (call.retains_runAlone before).weaken recordPolicy_refines⟩
  | insert isNew => exact keepsRecords_insert isNew
  | settings same inside =>
      apply keepsRecords_of_rows same
      · exact fun member => absurd (inside member) (by decide)
      · exact fun member => absurd (inside member) (by decide)
      · exact .of_sameOutside same fun _ member =>
          not_stays_of_setting (inside member)
  | package =>
      exact @keepsRecords_of_rows [.packages] _ _ (.modify (by decide))
        (by decide) (by decide) (.modify fun old _ stays =>
          absurd stays RowPolicy.not_stays_free)
  | deletion clears =>
      intro sold
      have sales : KeepsSales before after :=
        .of_codesOnlyGo (clears.rows.rows .orders (by decide)) clears.codes
      exact ⟨sales.soldHaveOrders sold, retains_of_clearsCatalog clears sold⟩
  | discount => exact keepsRecords_order (fun _ => rfl) fun _ => rfl
  | disputed => exact keepsRecords_order (fun _ => rfl) fun _ => rfl
  | receipt =>
      apply @keepsRecords_of_rows [.customerWalletTopups] _ _
        (.modify (by decide)) (by decide) (by decide)
      exact .modify fun _ _ _ => ⟨rfl, fun _ same => same⟩
  | reseller kept =>
      apply @keepsRecords_of_rows [.resellers] _ _ (.modify (by decide))
        (by decide) (by decide)
      refine .modify fun old _ _ => ⟨?_, fun _ isSettled => by
        cases isSettled⟩
      exact congrArg (fun reseller : ResellerRow =>
        { reseller with
          walletCreditBalance := 0
          testModeEnabled := false
          testModeOrdersUsed := 0 }) (kept old)

end Deeds

namespace BotsWorld

/-- The event is the confirmation of a restore. -/
def Restores (world : BotsWorld) : BotsEvent → Prop
  | .admin environment update =>
      (AdminBot.confirmRestoreCb environment).takes
        (world.adminBot.conversationOf update).state update = true
  | .shop _ => False

instance (world : BotsWorld) : DecidablePred world.Restores
  | .admin .. => inferInstanceAs (Decidable (_ = true))
  | .shop _ => inferInstanceAs (Decidable False)

variable {world : BotsWorld} {event : BotsEvent}

theorem botDeeds_step (noRestore : ¬ world.Restores event) :
    BotDeeds world.platform.db (world.step event).platform.db := by
  cases event with
  | admin environment update =>
      refine @BotWorld.botDeeds_receive _ _ _ world.adminBot update ?_
      intro handler member takes
      rcases AdminBot.restores_or_doesDeeds environment handler member with
        rfl | does
      · exact absurd takes noRestore
      · exact does update
  | shop received =>
      refine @BotWorld.botDeeds_receive _ _ _
        (world.shopBots.bot received.shop.resellerId) received.update ?_
      intro handler member _
      exact ShopBot.doesDeeds_handlers received.shop _ handler member
        received.update

theorem keepsRecords_step (noRestore : ¬ world.Restores event) :
    KeepsRecords world.platform.db (world.step event).platform.db :=
  related_of_botDeeds (fun _ _ => keepsRecords_of_botDeed)
    (botDeeds_step noRestore)

/-- In a run of all bots without a restore, whoever sends what, no record of an
order, a customer, a ledger entry, a top-up, a dispute, a reseller, a sold
code, a referral or a ban is lost, and what was agreed stays agreed. -/
theorem records_kept (world : BotsWorld)
    (sold : SoldHaveOrders world.platform.db) (events : List BotsEvent)
    (noRestore : StepRuns.Along step
      (fun world event => ¬ world.Restores event) world events) :
    Retains botRecordPolicy world.platform.db
      (StepRuns.final step world events).platform.db := by
  have kept := StepRuns.along_of_guarded
    (fun now : BotsWorld => KeepsRecords world.platform.db now.platform.db)
    (fun _ _ => True)
    (fun _ _ soFar noRestore =>
      ⟨trivial, IsTrans.trans _ _ _ soFar (keepsRecords_step noRestore)⟩)
    (Std.Refl.refl world.platform.db) noRestore
  exact (kept.2 sold).2

/-- The commission and the referrals are changed, and the top-up of a customer
is confirmed. -/
def confirmsTopup : List BotsEvent :=
  entersPercents "10" ++
    [.shop (ownerTaps "wallet_topup_confirm:1")]

theorem records_kept_confirmsTopup :
    Retains botRecordPolicy soldCodeDb
      (StepRuns.final step (newBotsWorld soldCodeDb)
        confirmsTopup).platform.db := by
  apply records_kept (newBotsWorld soldCodeDb) soldHaveOrders_soldCodeDb
  exact ⟨by decide +kernel, by decide +kernel, not_false, not_false,
    not_false, trivial⟩

end BotsWorld

end Baste
