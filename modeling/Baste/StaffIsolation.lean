import Baste.ShopRuns
import Baste.StepRuns

/-!
# The staff of one reseller and the rows of another

The middleware of the order actions looks at the reseller of the bot, and the
actions write the row that the callback data names, whoever it belongs to.
This file says exactly which of them leave everything alone that belongs to a
given reseller.
-/

namespace Baste

open Database Transaction BotScripts

/-- What belongs to a reseller: the orders, disputes and top-ups, the balances
of the customers, and the commission credit. -/
@[ext]
structure ResellerPart where
  orders : Nat → Option OrderRow
  disputes : Nat → Option DisputeRow
  topups : Nat → Option CustomerWalletTopupRow
  balances : Nat → Option Cents
  credit : Option Cents

def partOf (resellerId : Nat) (db : Db) : ResellerPart where
  orders id := (db.row .orders id).filter (·.resellerId = resellerId)
  disputes id := (db.row .disputes id).filter (·.resellerId = resellerId)
  topups id :=
    (db.row .customerWalletTopups id).filter (·.resellerId = resellerId)
  balances id :=
    ((db.row .customers id).filter (·.resellerId = resellerId)).map
      (·.walletBalance)
  credit := (db.row .resellers resellerId).map (·.walletCreditBalance)

/-- The order actions that callback data may ask for. -/
inductive OrderAction where
  | approveReceipt
  | rejectReceipt
  | activateOrder
  | confirmTopup
  | rejectTopup
  | openDispute
  deriving DecidableEq, Repr

namespace OrderAction

def start : OrderAction → String
  | approveReceipt => "approve_receipt:"
  | rejectReceipt => "reject_receipt:"
  | activateOrder => "activate_order:"
  | confirmTopup => "wallet_topup_confirm:"
  | rejectTopup => "wallet_topup_reject:"
  | openDispute => "open_dispute:"

def handler (shop : Shop) : OrderAction → ShopHandler
  | approveReceipt => ShopBot.ResellerOrders.approveReceipt shop
  | rejectReceipt => ShopBot.ResellerOrders.rejectReceipt shop
  | activateOrder => ShopBot.ResellerOrders.activate shop
  | confirmTopup => ShopBot.ResellerOrders.confirmWalletTopup shop
  | rejectTopup => ShopBot.ResellerOrders.rejectWalletTopup shop
  | openDispute => ShopBot.ResellerOrders.openDispute shop

/-- What an action on a row leaves behind. -/
def effect (id : Nat) (db : Db) : OrderAction → Db
  | approveReceipt => db.modify .orders id (·.withStatus .confirmed)
  | rejectReceipt => db.modify .orders id (·.withStatus .rejected)
  | activateOrder => OrderService.orderActivated id db
  | confirmTopup => CustomerWalletService.topupConfirmed id db
  | rejectTopup =>
      db.modify .customerWalletTopups id (·.withStatus .rejected)
  | openDispute => db

/-- If the row is an order of the reseller, it has the status. -/
def OrderHasStatus (resellerId : Nat) (db : Db) (id : Nat)
    (status : OrderStatus) : Prop :=
  ∀ order, db.row .orders id = some order → order.resellerId = resellerId →
    order.status = status

/-- The action writes nothing that belongs to the reseller. -/
def Spares (resellerId : Nat) (db : Db) (id : Nat) : OrderAction → Prop
  | approveReceipt => OrderHasStatus resellerId db id .confirmed
  | rejectReceipt => OrderHasStatus resellerId db id .rejected
  | activateOrder => OrderHasStatus resellerId db id .activated
  | confirmTopup => ∀ topup, db.row .customerWalletTopups id = some topup →
      topup.status = .pending →
      (db.row .resellers topup.resellerId).isSome = true →
        topup.resellerId ≠ resellerId ∧
          ∀ customer, db.row .customers topup.customerId = some customer →
            customer.resellerId = resellerId → topup.amount = 0
  | rejectTopup => ∀ topup, db.row .customerWalletTopups id = some topup →
      topup.resellerId = resellerId → topup.status = .rejected
  | openDispute => True

end OrderAction

section Parts

variable {resellerId id : Nat} {db : Db}

/-- Changing a row that stays where it belongs leaves the rows with a property
alone exactly if it leaves this row alone. -/
theorem filter_modify_eq_iff (db : Db) (name : TableName) (id : Nat)
    (change : RowOf name → RowOf name) (test : RowOf name → Bool)
    (keeps : ∀ row, test (change row) = test row) :
    (∀ key, ((db.modify name id change).row name key).filter test =
        (db.row name key).filter test) ↔
      ∀ row, db.row name id = some row → test row = true →
        change row = row := by
  constructor
  · intro same row found passes
    have here := same id
    rw [row_modify_self, found, Option.map_some,
      Option.filter_some_pos (by rw [keeps, passes]),
      Option.filter_some_pos passes] at here
    exact Option.some.inj here
  · intro unchanged key
    rw [row_modify]
    split_ifs with same
    · subst same
      cases found : db.row name key with
      | none => rfl
      | some row =>
          rw [Option.map_some, Option.filter_some, Option.filter_some, keeps]
          split_ifs with passes
          · rw [unchanged row found passes]
          · rfl
    · rfl

theorem partOf_eq_iff {first second : Db} :
    partOf resellerId first = partOf resellerId second ↔
      (∀ key, (partOf resellerId first).orders key =
        (partOf resellerId second).orders key) ∧
      (∀ key, (partOf resellerId first).disputes key =
        (partOf resellerId second).disputes key) ∧
      (∀ key, (partOf resellerId first).topups key =
        (partOf resellerId second).topups key) ∧
      (∀ key, (partOf resellerId first).balances key =
        (partOf resellerId second).balances key) ∧
      (partOf resellerId first).credit =
        (partOf resellerId second).credit := by
  rw [ResellerPart.ext_iff]
  simp only [funext_iff]

theorem withStatus_eq_self {order : OrderRow} {status : OrderStatus} :
    order.withStatus status = order ↔ order.status = status := by
  cases order
  simp [OrderRow.withStatus, eq_comm]

theorem topup_withStatus_eq_self {topup : CustomerWalletTopupRow}
    {status : TopupStatus} :
    topup.withStatus status = topup ↔ topup.status = status := by
  cases topup
  simp [CustomerWalletTopupRow.withStatus, eq_comm]

/-- A new status of an order. -/
theorem partOf_setOrderStatus_iff (resellerId id : Nat) (db : Db)
    (status : OrderStatus) :
    partOf resellerId (db.modify .orders id (·.withStatus status)) =
        partOf resellerId db ↔
      OrderAction.OrderHasStatus resellerId db id status := by
  have orders := filter_modify_eq_iff db .orders id (·.withStatus status)
    (·.resellerId = resellerId) fun _ => rfl
  rw [partOf_eq_iff]
  simp only [partOf]
  rw [orders]
  simp [OrderAction.OrderHasStatus, withStatus_eq_self]

/-- A new status of a top-up. -/
theorem partOf_setTopupStatus_iff {status : TopupStatus} :
    partOf resellerId
        (db.modify .customerWalletTopups id (·.withStatus status)) =
        partOf resellerId db ↔
      ∀ topup, db.row .customerWalletTopups id = some topup →
        topup.resellerId = resellerId → topup.status = status := by
  have topups := filter_modify_eq_iff db .customerWalletTopups id
    (·.withStatus status) (·.resellerId = resellerId) fun _ => rfl
  rw [partOf_eq_iff]
  simp only [partOf]
  rw [topups]
  simp [topup_withStatus_eq_self]

/-- The counter of test orders is no part of what is looked at. -/
theorem partOf_withTestOrderUsed {other : Nat} :
    partOf resellerId (db.modify .resellers other (·.withTestOrderUsed)) =
      partOf resellerId db := by
  have credit : (partOf resellerId
      (db.modify .resellers other (·.withTestOrderUsed))).credit =
        (partOf resellerId db).credit := by
    simp only [partOf, row_modify]
    split_ifs
    · rw [Option.map_map]
      rfl
    · rfl
  rw [partOf_eq_iff, credit]
  simp [partOf]

theorem partOf_orderActivated :
    partOf resellerId (OrderService.orderActivated id db) =
      partOf resellerId (db.modify .orders id (·.withStatus .activated)) := by
  unfold OrderService.orderActivated
  dsimp only
  split
  · rfl
  · split_ifs
    · exact partOf_withTestOrderUsed
    · rfl

/-- A credit to a customer leaves the balances of a reseller's customers alone
exactly if it goes to another customer or is zero. -/
theorem balances_credited_iff {topup : CustomerWalletTopupRow} :
    (∀ key, (partOf resellerId
        (CustomerWalletService.credited topup db)).balances key =
          (partOf resellerId db).balances key) ↔
      ∀ customer, db.row .customers topup.customerId = some customer →
        customer.resellerId = resellerId → topup.amount = 0 := by
  simp only [partOf, CustomerWalletService.credited, row_modify]
  constructor
  · intro same customer found belongs
    have here := same topup.customerId
    simpa [found, CustomerRow.withBalance, Option.filter_some, belongs]
      using here
  · intro zero key
    split_ifs with isCustomer
    · subst isCustomer
      cases found : db.row .customers topup.customerId with
      | none => rfl
      | some customer =>
          by_cases belongs : customer.resellerId = resellerId
          · simp [CustomerRow.withBalance, Option.filter_some, belongs,
              zero customer found belongs]
          · simp [CustomerRow.withBalance, Option.filter_some, belongs]
    · rfl

/-- What a decision on a pending top-up leaves behind: the new status of the
top-up, the credit to the customer, and a charge to the reseller. -/
structure TopupDecided (topup : CustomerWalletTopupRow) (id : Nat)
    (status : TopupStatus) (db after : Db) : Prop where
  orders : ∀ key, after.row .orders key = db.row .orders key
  disputes : ∀ key, after.row .disputes key = db.row .disputes key
  topups : ∀ key, after.row .customerWalletTopups key =
    (db.modify .customerWalletTopups id (·.withStatus status)).row
      .customerWalletTopups key
  customers : ∀ key, after.row .customers key =
    (CustomerWalletService.credited topup db).row .customers key
  resellers : ∀ key, key ≠ topup.resellerId →
    after.row .resellers key = db.row .resellers key

theorem TopupDecided.partOf_eq_iff {topup : CustomerWalletTopupRow}
    {status : TopupStatus} {after : Db}
    (decided : TopupDecided topup id status db after)
    (found : db.row .customerWalletTopups id = some topup)
    (isNew : topup.status ≠ status) :
    partOf resellerId after = partOf resellerId db ↔
      topup.resellerId ≠ resellerId ∧
        ∀ customer, db.row .customers topup.customerId = some customer →
          customer.resellerId = resellerId → topup.amount = 0 := by
  have topups := filter_modify_eq_iff db .customerWalletTopups id
    (·.withStatus status) (·.resellerId = resellerId) fun _ => rfl
  have balances : (partOf resellerId after).balances =
      (partOf resellerId (CustomerWalletService.credited topup db)).balances := by
    funext key
    simp only [partOf, decided.customers]
  rw [Baste.partOf_eq_iff, balances, balances_credited_iff]
  simp only [partOf, decided.orders, decided.disputes, decided.topups,
    implies_true, true_and]
  rw [topups]
  constructor
  · rintro ⟨sameTopup, sameBalances, -⟩
    refine ⟨fun belongs => ?_, sameBalances⟩
    exact isNew (topup_withStatus_eq_self.mp
      (sameTopup topup found (by simpa using belongs)))
  · rintro ⟨foreign, sameBalances⟩
    refine ⟨fun row isRow belongs => ?_, sameBalances, ?_⟩
    · obtain rfl := Option.some.inj (found.symm.trans isRow)
      exact absurd (by simpa using belongs) foreign
    · rw [decided.resellers resellerId foreign.symm]

theorem topupDecided_exceeded {topup : CustomerWalletTopupRow}
    {status : TopupStatus} :
    TopupDecided topup id status db
      ((CustomerWalletService.credited topup db).modify .customerWalletTopups
        id (·.withStatus status)) where
  orders key := by simp [CustomerWalletService.credited]
  disputes key := by simp [CustomerWalletService.credited]
  topups key := by simp [CustomerWalletService.credited, row_modify]
  customers key := by simp
  resellers key _ := by simp [CustomerWalletService.credited]

theorem topupDecided_charged {topup : CustomerWalletTopupRow}
    {status : TopupStatus} {balance : Cents} {commission : Rat}
    {reference : String} {entryId : Nat} :
    TopupDecided topup id status db
      ((WalletService.deducted balance topup.resellerId commission reference
        entryId (CustomerWalletService.credited topup
          (db.reserve .walletTransactions))).modify .customerWalletTopups id
            (·.withStatus status)) where
  orders key := by
    simp [WalletService.deducted, CustomerWalletService.credited]
  disputes key := by
    simp [WalletService.deducted, CustomerWalletService.credited]
  topups key := by
    simp [WalletService.deducted, CustomerWalletService.credited, row_modify]
  customers key := by
    simp [WalletService.deducted, CustomerWalletService.credited, row_modify]
  resellers key other := by
    simp [WalletService.deducted, CustomerWalletService.credited,
      row_resellers_withLedgerEntry, other]

theorem partOf_topupConfirmed_iff :
    partOf resellerId (CustomerWalletService.topupConfirmed id db) =
        partOf resellerId db ↔
      OrderAction.Spares resellerId db id .confirmTopup := by
  unfold CustomerWalletService.topupConfirmed
  cases found : db.row .customerWalletTopups id with
  | none => simp [OrderAction.Spares, found]
  | some topup =>
      by_cases pending : topup.status = .pending
      · cases resellerFound : db.row .resellers topup.resellerId with
        | none => simp [OrderAction.Spares, found, pending, resellerFound]
        | some reseller =>
            have spares : OrderAction.Spares resellerId db id .confirmTopup ↔
                topup.resellerId ≠ resellerId ∧ ∀ customer,
                  db.row .customers topup.customerId = some customer →
                    customer.resellerId = resellerId → topup.amount = 0 := by
              simp [OrderAction.Spares, found, pending, resellerFound]
            rw [spares]
            dsimp only
            rw [if_neg (not_not.mpr pending), resellerFound]
            dsimp only
            split_ifs
            · exact topupDecided_exceeded.partOf_eq_iff found
                (by simp [pending])
            · exact topupDecided_charged.partOf_eq_iff found
                (by simp [pending])
      · simp [OrderAction.Spares, found, pending]

/-- An action changes what belongs to a reseller unless it spares it. -/
theorem partOf_effect_iff (action : OrderAction) :
    partOf resellerId (action.effect id db) = partOf resellerId db ↔
      action.Spares resellerId db id := by
  cases action with
  | approveReceipt => exact partOf_setOrderStatus_iff resellerId id db _
  | rejectReceipt => exact partOf_setOrderStatus_iff resellerId id db _
  | activateOrder =>
      rw [OrderAction.effect, partOf_orderActivated]
      exact partOf_setOrderStatus_iff resellerId id db _
  | confirmTopup => exact partOf_topupConfirmed_iff
  | rejectTopup => exact partOf_setTopupStatus_iff
  | openDispute => exact iff_of_true rfl trivial

theorem partOf_reserve {name : TableName} :
    partOf resellerId (db.reserve name) = partOf resellerId db := by
  rw [partOf_eq_iff]
  simp [partOf]

/-- A new dispute belongs to the reseller that it names. -/
theorem disputes_put_iff (resellerId : Nat) (db : Db) (dispute : DisputeRow) :
    (∀ key, ((db.reserve .disputes).put .disputes (db.nextId .disputes)
        dispute |>.row .disputes key).filter
          (·.resellerId = resellerId) =
        (db.row .disputes key).filter (·.resellerId = resellerId)) ↔
      dispute.resellerId ≠ resellerId := by
  have reserved : db.nextId .disputes < (db.reserve .disputes).nextId
      .disputes := by
    simp
  constructor
  · intro same belongs
    have here := same (db.nextId .disputes)
    rw [row_put_self reserved, row_nextId, Option.filter_some, belongs]
      at here
    simp at here
  · intro foreign key
    by_cases isNew : key = db.nextId .disputes
    · subst isNew
      rw [row_put_self reserved, row_nextId, Option.filter_some]
      simp [foreign]
    · rw [row_put_ne isNew, row_reserve]

/-- A new dispute about an order leaves a reseller's part alone unless the
order belongs to the reseller. -/
theorem partOf_disputeCreated_iff {order : OrderRow} {reason : String}
    (found : db.row .orders id = some order) :
    partOf resellerId
        (DisputeService.disputeCreated id order.resellerId reason db) =
        partOf resellerId db ↔
      (order.resellerId = resellerId → order.status = .refundPending ∧
        db.row .resellers resellerId = none) := by
  have marked : OrderAction.OrderHasStatus resellerId db id .refundPending ↔
      (order.resellerId = resellerId → order.status = .refundPending) := by
    simp [OrderAction.OrderHasStatus, found]
  unfold DisputeService.disputeCreated
  cases known : db.row .resellers order.resellerId with
  | none =>
      simp only [Option.isSome_none, Bool.false_eq_true, and_false, if_false]
      rw [partOf_reserve, partOf_setOrderStatus_iff, marked]
      constructor
      · intro same belongs
        exact ⟨same belongs, belongs ▸ known⟩
      · intro same belongs
        exact (same belongs).1
  | some reseller =>
      have isKnown : (db.row .orders id).isSome = true ∧
          (some reseller).isSome = true := by
        simp [found]
      have orders := filter_modify_eq_iff db .orders id
        (·.withStatus .refundPending) (·.resellerId = resellerId) fun _ => rfl
      have disputes := disputes_put_iff resellerId
        (db.modify .orders id (·.withStatus .refundPending))
        (DisputeService.newDispute id order.resellerId reason)
      rw [if_pos isKnown, Baste.partOf_eq_iff]
      simp only [partOf, nextId_modify] at disputes ⊢
      constructor
      · rintro ⟨-, sameDisputes, -⟩ belongs
        exact absurd belongs (disputes.mp (by simpa using sameDisputes))
      · intro spared
        have foreign : order.resellerId ≠ resellerId := by
          intro belongs
          rw [belongs, (spared belongs).2] at known
          cases known
        refine ⟨fun key => ?_, by simpa using disputes.mpr foreign, ?_⟩
        · rw [row_put_of_ne (by decide), row_reserve]
          exact orders.mpr (by simp [found, foreign]) key
        · simp

end Parts

section Actions

variable {shop : Shop} {visit : Visit ShopState ShopData}
variable {callback : Callback}

/-- The middleware lets only the staff through. -/
theorem db_onPermitted {test : Option ShopState → String → Bool}
    {action : Callback → ShopScript Unit} :
    (((ShopBot.ResellerOrders.onPermitted shop test action).action
        (.callback callback)).runOn visit).2.platform.db =
      if ShopBot.isStaff shop.resellerId callback.sender visit.platform.db then
        ((action callback).runOn visit).2.platform.db
      else visit.platform.db := by
  simp only [ShopBot.ResellerOrders.onPermitted, onCallback,
    Failing.runOn_bind, runOn_query]
  split_ifs <;> rfl

/-- A script that passes the number in the callback data to a service. -/
theorem db_numberedCall {service : Nat → ServiceCall} :
    ((do
        let number ← integerField callback 1
        let _ ← call (service (rowId number)) : ShopScript Unit).runOn
          visit).2.platform.db =
      match fieldNumber callback.data 1 with
      | none => visit.platform.db
      | some number =>
          (service (rowId number)).runAlone visit.platform.db := by
  rw [db_integerField_bind]
  cases fieldNumber callback.data 1 with
  | none => rfl
  | some number =>
      exact (db_bind_of_keeps fun _ => Failing.keeps_pure _).trans db_call

/-- What the handler of an action does to the database. -/
theorem db_action (action : OrderAction) :
    (((action.handler shop).action (.callback callback)).runOn
        visit).2.platform.db =
      if ShopBot.isStaff shop.resellerId callback.sender visit.platform.db then
        match fieldNumber callback.data 1 with
        | none => visit.platform.db
        | some number => action.effect (rowId number) visit.platform.db
      else visit.platform.db := by
  unfold OrderAction.handler
  cases action with
  | approveReceipt =>
      unfold ShopBot.ResellerOrders.approveReceipt
      rw [db_onPermitted, db_numberedCall]
      rfl
  | rejectReceipt =>
      unfold ShopBot.ResellerOrders.rejectReceipt
      rw [db_onPermitted, db_numberedCall]
      rfl
  | activateOrder =>
      unfold ShopBot.ResellerOrders.activate
      rw [db_onPermitted, db_numberedCall]
      cases fieldNumber callback.data 1 with
      | none => rfl
      | some number =>
          exact congrArg (ite _ · _) OrderService.runAlone_activateOrder
  | confirmTopup =>
      unfold ShopBot.ResellerOrders.confirmWalletTopup
      rw [db_onPermitted, db_integerField_bind]
      cases fieldNumber callback.data 1 with
      | none => rfl
      | some number =>
          have alone : ((attempt (.confirmCustomerTopup (rowId number)) :
              ShopScript Outcome).runOn visit).2.platform.db =
                CustomerWalletService.topupConfirmed (rowId number)
                  visit.platform.db :=
            db_attempt.trans CustomerWalletService.runAlone_confirmTopup
          apply congrArg (ite _ · _)
          apply Eq.trans _ alone
          apply db_bind_of_keeps
          intro outcome
          split
          all_goals first
            | exact Failing.keeps_pure ()
            | exact Failing.keeps_throw _
  | rejectTopup =>
      unfold ShopBot.ResellerOrders.rejectWalletTopup
      rw [db_onPermitted, db_numberedCall]
      rfl
  | openDispute =>
      unfold ShopBot.ResellerOrders.openDispute
      rw [db_onPermitted, db_integerField_bind]
      rfl

/-- What a message with a reason does to an order and its disputes. -/
def reasonGiven (orderId resellerId : Nat) : Option String → Db → Db
  | some reason => DisputeService.disputeCreated orderId resellerId reason
  | none => (·.modify .orders orderId (·.withStatus .refundPending))

theorem partOf_reasonGiven_iff (resellerId : Nat) {id : Nat} {db : Db}
    {order : OrderRow} {text : Option String}
    (found : db.row .orders id = some order) :
    partOf resellerId (reasonGiven id order.resellerId text db) =
        partOf resellerId db ↔
      (order.resellerId = resellerId →
        order.status = .refundPending ∧
          (text = none ∨ db.row .resellers resellerId = none)) := by
  cases text with
  | none =>
      simpa [reasonGiven, OrderAction.OrderHasStatus, found] using
        partOf_setOrderStatus_iff resellerId id db .refundPending
  | some reason => simpa [reasonGiven] using partOf_disputeCreated_iff found

theorem db_createDispute {orderId resellerId : Nat} {text : Option String} :
    ((ShopBot.ResellerOrders.createDispute orderId resellerId text).runOn
        visit).2.platform.db =
      reasonGiven orderId resellerId text visit.platform.db := by
  cases text with
  | none => rfl
  | some reason =>
      have alone : ((call (.createDispute orderId resellerId reason) :
          ShopScript Reply).runOn visit).2.platform.db =
            DisputeService.disputeCreated orderId resellerId reason
              visit.platform.db :=
        db_call.trans DisputeService.runAlone_createDispute
      exact (db_bind_of_keeps fun _ => Failing.keeps_pure _).trans alone

/-- What the handler of a reason does to the database. -/
theorem db_submitDisputeReason {message : Message} :
    ((ShopBot.ResellerOrders.submitDisputeReason.action
        (.message message)).runOn visit).2.platform.db =
      match visit.conversation.data.disputeOrderId with
      | none => visit.platform.db
      | some number =>
          match visit.platform.db.row .orders (rowId number) with
          | none => visit.platform.db
          | some order =>
              reasonGiven (rowId number) order.resellerId message.text
                visit.platform.db := by
  simp only [ShopBot.ResellerOrders.submitDisputeReason, onMessage, getData,
    Failing.runOn_bind, Failing.runOn_get, Failing.runOn_pure]
  cases visit.conversation.data.disputeOrderId with
  | none => rfl
  | some number =>
      simp only [required, Failing.runOn_pure, runOn_query]
      cases visit.platform.db.row .orders (rowId number) with
      | none => rfl
      | some order =>
          simp only [Failing.runOn_pure]
          rw [← Failing.runOn_bind, ← db_createDispute]
          have keeps : Failing.Keeps
              (fun visit : Visit ShopState ShopData => visit.platform.db)
              (clear : ShopScript Unit) :=
            Failing.keeps_modify fun _ => rfl
          exact db_bind_of_keeps fun _ => keeps

end Actions

section Dispatch

variable {shop : Shop} {isOwner : Int → Bool} {state : Option ShopState}

/-- No start of callback data continues another. -/
theorem OrderAction.start_apart {first second : OrderAction}
    (different : first ≠ second) :
    ¬ first.start.toList <+: second.start.toList := by
  cases first <;> cases second <;> first
    | exact absurd rfl different
    | decide

theorem dataStarts_action {action : OrderAction} (other : OrderAction)
    {data : String}
    (starts : dataStarts action.start state data = true) :
    dataStarts other.start state data = decide (other = action) := by
  by_cases same : other = action
  · simpa [same] using starts
  · rw [decide_eq_false same, Bool.eq_false_iff]
    intro alsoStarts
    rcases List.prefix_or_prefix_of_prefix
        (List.isPrefixOf_iff_prefix.mp starts)
        (List.isPrefixOf_iff_prefix.mp alsoStarts) with
      continued | continued
    · exact OrderAction.start_apart (Ne.symm same) continued
    · exact OrderAction.start_apart same continued

/-- Callback data that starts as an action's is not the data of a menu. -/
theorem dataIs_menu {action : OrderAction} {data menu : String}
    (starts : dataStarts action.start state data = true)
    (other : action.start.toList.isPrefixOf menu.toList = false) :
    dataIs menu state data = false := by
  rw [dataIs, decide_eq_false_iff_not]
  rintro rfl
  exact absurd starts (by simp [dataStarts, other])

/-- Callback data that starts as an action's goes to the action's handler. -/
theorem dispatch_action {action : OrderAction} {callback : Callback}
    (starts : dataStarts action.start state callback.data = true) :
    Handler.dispatch (ShopBot.handlers shop isOwner) state
        (.callback callback) =
      some ((action.handler shop).action (.callback callback)) := by
  have home : dataIs "rmenu:home" state callback.data = false :=
    dataIs_menu starts (by cases action <;> decide)
  have menu : dataIs "rmenu:orders" state callback.data = false :=
    dataIs_menu starts (by cases action <;> decide)
  have takes : ∀ other : OrderAction,
      (other.handler shop).takes state (.callback callback) =
        decide (other = action) := by
    intro other
    have byStart : (other.handler shop).takes state (.callback callback) =
        dataStarts other.start state callback.data := by
      cases other <;> rfl
    rw [byStart, dataStarts_action other starts]
  have inStart : Handler.dispatch (ShopBot.ResellerStart.router isOwner) state
      (.callback callback) = none := by
    simp [Handler.dispatch_eq_none_iff, ShopBot.ResellerStart.router,
      ShopBot.ResellerStart.resellerStart,
      ShopBot.ResellerStart.resellerCancel,
      ShopBot.ResellerStart.onOwnerMessage, ShopBot.ResellerStart.backHome,
      onMessage, onCallback, home]
  have actions : Handler.dispatch
      ([.approveReceipt, .rejectReceipt, .activateOrder, .confirmTopup,
        .rejectTopup, .openDispute].map (OrderAction.handler shop)) state
          (.callback callback) =
        some ((action.handler shop).action (.callback callback)) := by
    simp only [Handler.dispatch, List.find?_map, Function.comp_def, takes]
    cases action <;> rfl
  have inOrders : Handler.dispatch (ShopBot.ResellerStart.router isOwner ++
      ShopBot.ResellerOrders.router shop) state (.callback callback) =
        some ((action.handler shop).action (.callback callback)) := by
    rw [Handler.dispatch_append_of_none inStart]
    exact (Handler.dispatch_cons_of_not_takes menu).trans
      (Handler.dispatch_append_of_some actions)
  unfold ShopBot.handlers
  iterate 11 apply Handler.dispatch_append_of_some
  exact inOrders

/-- The message is a command of the owner, which the panel takes in every
state. -/
def isOwnerCommand (resellerId : Nat) (db : Db) (message : Message) : Bool :=
  (ShopBot.textStarts "/start" none message ||
      textIs "/cancel" (none : Option ShopState) message) &&
    ShopBot.isResellerOwner resellerId message.sender db

/-- In the state for a reason every other message is the reason. -/
theorem dispatch_reason {db : Db} {message : Message}
    (other : isOwnerCommand shop.resellerId db message = false) :
    Handler.dispatch (ShopBot.handlers shop fun userId =>
        ShopBot.isResellerOwner shop.resellerId userId db)
        (some .enteringReason) (.message message) =
      some (ShopBot.ResellerOrders.submitDisputeReason.action
        (.message message)) := by
  rw [isOwnerCommand, Bool.and_or_distrib_right, Bool.or_eq_false_iff] at other
  have inStart : Handler.dispatch
      (ShopBot.ResellerStart.router fun userId =>
        ShopBot.isResellerOwner shop.resellerId userId db)
      (some .enteringReason) (.message message) = none := by
    rw [Handler.dispatch_eq_none_iff]
    simp only [ShopBot.ResellerStart.router, List.forall_mem_cons]
    exact ⟨other.1, other.2, rfl, fun _ member => by cases member⟩
  have inOrders : Handler.dispatch ((ShopBot.ResellerStart.router
      fun userId => ShopBot.isResellerOwner shop.resellerId userId db) ++
        ShopBot.ResellerOrders.router shop) (some .enteringReason)
        (.message message) =
      some (ShopBot.ResellerOrders.submitDisputeReason.action
        (.message message)) := by
    rw [Handler.dispatch_append_of_none inStart]
    rfl
  unfold ShopBot.handlers
  iterate 11 apply Handler.dispatch_append_of_some
  exact inOrders

end Dispatch

namespace ShopWorld

/-- The update asks for an order action, or it is the message with the reason
that follows one. -/
def AsksForAction (world : ShopWorld) (resellerId : Nat) :
    Update → Prop
  | .callback callback =>
      ∃ action : OrderAction,
        dataStarts action.start (none : Option ShopState) callback.data = true
  | .message message =>
      (world.conversationOf (.message message)).state =
          some .enteringReason ∧
        isOwnerCommand resellerId world.platform.db message = false

/-- The row that the update names, or that the conversation remembers, is not
one of the reseller's that the action would change. -/
def Spares (world : ShopWorld) (resellerId : Nat) : Update → Prop
  | .callback callback =>
      ∀ (action : OrderAction) (number : Int),
        dataStarts action.start (none : Option ShopState) callback.data =
            true →
          fieldNumber callback.data 1 = some number →
            action.Spares resellerId world.platform.db (rowId number)
  | .message message =>
      let data := (world.conversationOf (.message message)).data
      ∀ order, (data.disputeOrderId.bind fun number =>
          world.platform.db.row .orders (rowId number)) = some order →
        order.resellerId = resellerId →
          order.status = .refundPending ∧
            (message.text = none ∨
              world.platform.db.row .resellers resellerId = none)

variable {world : ShopWorld} {shop : Shop} {resellerId : Nat}

theorem partOf_handle_callback_iff {callback : Callback}
    (staff : ShopBot.isStaff shop.resellerId callback.sender
      world.platform.db = true)
    (asks : world.AsksForAction shop.resellerId (.callback callback)) :
    partOf resellerId (world.handle shop (.callback callback)).platform.db =
        partOf resellerId world.platform.db ↔
      world.Spares resellerId (.callback callback) := by
  obtain ⟨action, starts⟩ := asks
  have db_handle : (world.handle shop (.callback callback)).platform.db =
      match fieldNumber callback.data 1 with
      | none => world.platform.db
      | some number => action.effect (rowId number) world.platform.db := by
    rw [handle, BotWorld.platform_receive (dispatch_action starts), db_action,
      if_pos staff]
  have spares : world.Spares resellerId (.callback callback) ↔
      ∀ number, fieldNumber callback.data 1 = some number →
        action.Spares resellerId world.platform.db (rowId number) := by
    constructor
    · intro all number isNumber
      exact all action number starts isNumber
    · intro here other number alsoStarts isNumber
      have same := dataStarts_action other starts
      rw [alsoStarts, eq_comm, decide_eq_true_iff] at same
      exact same ▸ here number isNumber
  rw [db_handle, spares]
  cases fieldNumber callback.data 1 with
  | none => simp
  | some number => simpa using partOf_effect_iff action

theorem partOf_handle_message_iff {message : Message}
    (asks : world.AsksForAction shop.resellerId (.message message)) :
    partOf resellerId (world.handle shop (.message message)).platform.db =
        partOf resellerId world.platform.db ↔
      world.Spares resellerId (.message message) := by
  obtain ⟨isReason, other⟩ := asks
  have found := dispatch_reason other
  rw [← isReason] at found
  rw [handle, BotWorld.platform_receive found, db_submitDisputeReason]
  dsimp only [Spares]
  cases (world.conversationOf (.message message)).data.disputeOrderId with
  | none => simp
  | some number =>
      cases isOrder : world.platform.db.row .orders (rowId number) with
      | none => simp [isOrder]
      | some order =>
          simpa [isOrder] using partOf_reasonGiven_iff resellerId isOrder

end ShopWorld

namespace ShopEvent

/-- An order action of somebody who decides about the orders of this reseller
only leaves everything alone that belongs to the other. -/
def Isolated (settings : ShopSettings) (other : Nat) (world : ShopWorld) :
    ShopEvent → Prop
  | .received surroundings update =>
      ShopBot.isStaff settings.resellerId update.sender world.platform.db →
        ¬ ShopBot.isStaff other update.sender world.platform.db →
        world.AsksForAction settings.resellerId update →
          partOf other (world.handle ⟨settings, surroundings⟩
            update).platform.db = partOf other world.platform.db
  | .elsewhere _ => True

/-- Such an action spares what belongs to the other. -/
def SparesOther (settings : ShopSettings) (other : Nat) (world : ShopWorld) :
    ShopEvent → Prop
  | .received _ update =>
      ShopBot.isStaff settings.resellerId update.sender world.platform.db →
        ¬ ShopBot.isStaff other update.sender world.platform.db →
        world.AsksForAction settings.resellerId update →
          world.Spares other update
  | .elsewhere _ => True

end ShopEvent

/-- Along every run the staff of one reseller leaves alone what belongs to
another exactly if every action spares it. -/
theorem staff_isolated_iff (settings : ShopSettings) (other : Nat)
    (world : ShopWorld) (events : List ShopEvent) :
    StepRuns.Along (ShopEvent.step settings)
        (ShopEvent.Isolated settings other) world events ↔
      StepRuns.Along (ShopEvent.step settings)
        (ShopEvent.SparesOther settings other) world events := by
  have oneStep : ∀ (world : ShopWorld) (event : ShopEvent), True →
      (ShopEvent.Isolated settings other world event ↔
        ShopEvent.SparesOther settings other world event) := by
    intro world event _
    cases event with
    | elsewhere change => exact Iff.rfl
    | received surroundings update =>
        apply forall_congr'
        intro staff
        apply forall_congr'
        intro foreign
        apply forall_congr'
        intro asks
        cases update with
        | callback callback =>
            exact ShopWorld.partOf_handle_callback_iff staff asks
        | message message => exact ShopWorld.partOf_handle_message_iff asks
  exact StepRuns.along_iff (fun _ => True) oneStep (fun _ _ _ _ => trivial)
    trivial events

section Examples

/-- A second shop with an order that waits for a decision. -/
def neighbourDb : Db :=
  .filled fun
    | .resellers => [shopReseller,
        { shopReseller with
          botUsername := "other_bot"
          telegramNumericId := 2002 }]
    | .customers => [{ shopCustomer with resellerId := 2 }]
    | .orders =>
        [{ orderCode := "BR-1"
           resellerId := 2
           packageId := 1
           customerId := 1
           status := .awaitingReceiptReview
           packagePrice := 800 }]
    | _ => []

/-- The owner of the first shop confirms the order of the second. -/
theorem owner_confirms_foreign_order :
    let world := newShopWorld neighbourDb
    let update := Update.callback ⟨1001, 1001, "approve_receipt:1"⟩
    let after := (world.handle ⟨shopSettings, shopSurroundings⟩
      update).platform.db
    ShopBot.isStaff 1 1001 neighbourDb = true ∧
      ShopBot.isStaff 2 1001 neighbourDb = false ∧
      ((partOf 2 neighbourDb).orders 1).map (·.status) =
        some .awaitingReceiptReview ∧
      ((partOf 2 after).orders 1).map (·.status) = some .confirmed ∧
      ¬ ShopEvent.Isolated shopSettings 2 world
        (.received shopSurroundings update) := by
  intro world update after
  have staff : ShopBot.isStaff 1 1001 neighbourDb = true := by
    decide +kernel
  have foreign : ShopBot.isStaff 2 1001 neighbourDb = false := by
    decide +kernel
  have before : ((partOf 2 neighbourDb).orders 1).map (·.status) =
      some .awaitingReceiptReview := by
    decide +kernel
  have confirmed : ((partOf 2 after).orders 1).map (·.status) =
      some .confirmed := by
    decide +kernel
  refine ⟨staff, foreign, before, confirmed, ?_⟩
  intro isolated
  have asks : world.AsksForAction 1 update :=
    ⟨.approveReceipt, by decide⟩
  have same : partOf 2 after = partOf 2 neighbourDb :=
    isolated staff (Bool.eq_false_iff.mp foreign) asks
  rw [same, before] at confirmed
  exact absurd confirmed (by decide)

end Examples

end Baste
