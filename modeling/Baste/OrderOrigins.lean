import Baste.BulkPurchases
import Baste.ShopMoves

/-!
# Where orders come from

An order is created by one of two messages: the phone number for a package, or
the quantity of charge codes.  Every other handler of a shop works on orders
that are there already.
-/

namespace Baste

open BotScripts Database Transaction

/-- No order is created. -/
def OrdersRemain (before after : Db) : Prop :=
  ∀ id, before.row .orders id = none → after.row .orders id = none

namespace OrdersRemain

variable {first second third : Db}

theorem refl (db : Db) : OrdersRemain db db :=
  fun _ absent => absent

theorem trans (start : OrdersRemain first second)
    (rest : OrdersRemain second third) : OrdersRemain first third :=
  fun id absent => rest id (start id absent)

theorem of_sameOutside {tables : List TableName}
    (same : SameOutside tables first second) (outside : .orders ∉ tables) :
    OrdersRemain first second := by
  intro id absent
  rw [same.rows _ outside, absent]

theorem modify {id : Nat} {change : OrderRow → OrderRow} :
    OrdersRemain first (first.modify .orders id change) := by
  intro other absent
  by_cases same : other = id
  · subst same
    rw [row_modify_self, absent]
    rfl
  · rw [row_modify_ne same, absent]

instance : Std.Refl OrdersRemain := ⟨refl⟩

instance : IsTrans Db OrdersRemain := ⟨fun _ _ _ => trans⟩

end OrdersRemain

namespace ServiceCall

variable {invariant : Db → Prop} {call : ServiceCall} {before after : Db}

theorem ordersRemain_of_writes (existing : call.createsOrders = false)
    (writes : (call.guarantee invariant).writes before after) :
    OrdersRemain before after := by
  have outside : .orders ∉ call.tables → OrdersRemain before after :=
    OrdersRemain.of_sameOutside (sameOutside_of_writes writes)
  cases call with
  | createOrder | createOrderPaidByWallet | purchaseCharge
  | purchaseChargeBulk => cases existing
  | confirmOrder | rejectOrder =>
      cases writes
      exact .modify
  | activateOrder =>
      rcases writes with rfl | ⟨_, -, rfl⟩
      · exact .modify
      · exact @OrdersRemain.of_sameOutside _ _ [.resellers]
          (.modify (by decide)) (by decide)
  | createDispute =>
      rcases writes with rfl | rfl
      · exact .modify
      · exact @OrdersRemain.of_sameOutside _ _ [.disputes]
          (SameOutside.reserve.trans (.put (by decide))) (by decide)
  | approveDispute =>
      obtain ⟨_, _, -, -, rfl | rfl | ⟨_, rfl⟩⟩ := writes
      · exact @OrdersRemain.of_sameOutside _ _ [.disputes]
          (.modify (by decide)) (by decide)
      · exact .modify
      · exact @OrdersRemain.of_sameOutside _ _ [.blacklist]
          (SameOutside.reserve.trans (.put (by decide))) (by decide)
  | submitReceipt => exact writes.elim
  | _ => exact outside (by simp [tables])

theorem ordersRemain_withLedgerEntry {resellerId id : Nat} {balance : Cents}
    {entry : WalletTransactionRow} :
    OrdersRemain before (before.withLedgerEntry resellerId balance id entry) :=
  @OrdersRemain.of_sameOutside _ _ [.resellers, .walletTransactions]
    (sameOutside_withLedgerEntry (by decide) (by decide)) (by decide)

theorem ordersRemain_of_commits (existing : call.createsOrders = false)
    (commits : (call.guarantee invariant).commits before after) :
    OrdersRemain before after := by
  have outside : .orders ∉ call.tables → OrdersRemain before after :=
    OrdersRemain.of_sameOutside (sameOutside_of_commits commits)
  cases call with
  | createOrder | createOrderPaidByWallet | purchaseCharge
  | purchaseChargeBulk => cases existing
  | submitReceipt =>
      cases commits with
      | testOrder | failed => exact .modify
      | charged => exact ordersRemain_withLedgerEntry.trans .modify
  | approveDispute =>
      obtain ⟨_, _, -, -, _, -, -, -, rfl⟩ := commits
      exact ordersRemain_withLedgerEntry
  | confirmOrder | rejectOrder | activateOrder | createDispute =>
      exact commits.elim
  | _ => exact outside (by simp [tables])

/-- A service function that works on orders which are there creates none. -/
theorem ordersRemain_runAlone (existing : call.createsOrders = false)
    (db : Db) : OrdersRemain db (call.runAlone db) := by
  let invariant : Db → Prop := OrdersRemain db
  have preserves : System.Preserves dbView invariant
      fun _ : Unit => call.guarantee invariant :=
    { quiet := fun _ _ holds quiet =>
        holds.trans (@OrdersRemain.of_sameOutside _ _ []
          (.of_quiet quiet) (by decide))
      writes := fun _ _ _ holds writes =>
        holds.trans (ordersRemain_of_writes existing writes)
      commits := fun _ _ _ holds commits =>
        holds.trans (ordersRemain_of_commits existing commits) }
  exact (call.safe_program invariant db).runAlone preserves (.refl db)

end ServiceCall

/-- A row of a customer of the reseller, for the user. -/
def IsCustomer (resellerId : Nat) (telegramUserId : Int) (db : Db)
    (customerId : Nat) : Prop :=
  ∃ customer, db.row .customers customerId = some customer ∧
    customer.resellerId = resellerId ∧
    customer.telegramUserId = telegramUserId

/-- Every customer stays the customer of the same reseller and user. -/
def CustomersStay (before after : Db) : Prop :=
  ∀ resellerId telegramUserId customerId,
    IsCustomer resellerId telegramUserId before customerId →
      IsCustomer resellerId telegramUserId after customerId

namespace CustomersStay

variable {first second third : Db}

theorem refl (db : Db) : CustomersStay db db :=
  fun _ _ _ is => is

theorem trans (start : CustomersStay first second)
    (rest : CustomersStay second third) : CustomersStay first third :=
  fun _ _ _ is => rest _ _ _ (start _ _ _ is)

theorem of_sameOutside {tables : List TableName}
    (same : SameOutside tables first second) (outside : .customers ∉ tables) :
    CustomersStay first second := by
  intro resellerId telegramUserId customerId is
  rw [IsCustomer, same.rows _ outside]
  exact is

/-- A change of the balance. -/
theorem modify {id : Nat} {balance : CustomerRow → Cents} :
    CustomersStay first (first.modify .customers id fun customer =>
      customer.withBalance (balance customer)) := by
  rintro _ _ customerId ⟨customer, found, rfl, rfl⟩
  by_cases same : customerId = id
  · subst same
    refine ⟨customer.withBalance (balance customer), ?_, rfl, rfl⟩
    rw [row_modify_self, found, Option.map_some]
  · exact ⟨customer, by rw [row_modify_ne same, found], rfl, rfl⟩

end CustomersStay

namespace ServiceCall

variable {invariant : Db → Prop} {call : ServiceCall} {before after : Db}

theorem customersStay_of_writes
    (writes : (call.guarantee invariant).writes before after) :
    CustomersStay before after := by
  have outside : .customers ∉ call.tables → CustomersStay before after :=
    CustomersStay.of_sameOutside (sameOutside_of_writes writes)
  cases call with
  | createOrderPaidByWallet | confirmCustomerTopup => exact writes.elim
  | purchaseCharge | purchaseChargeBulk =>
      obtain ⟨_, _, rfl⟩ := writes
      exact @CustomersStay.of_sameOutside _ _ [.chargeCodes]
        (.modify (by decide)) (by decide)
  | _ => exact outside (by simp [tables])

theorem customersStay_purchase (purchase : ChargeService.Purchase)
    (quantity : Int) (sales : List ChargeService.Sale) :
    CustomersStay before
      (sales.foldl purchase.deliver (purchase.debited quantity before)) := by
  have paid : CustomersStay before (purchase.debited quantity before) :=
    .modify
  have delivered : SameOutside [.orders, .chargeCodes]
      (purchase.debited quantity before)
      (sales.foldl purchase.deliver (purchase.debited quantity before)) :=
    SameOutside.foldl (fun _ _ =>
      (SameOutside.put (by decide)).trans (.modify (by decide))) sales _
  exact paid.trans (.of_sameOutside delivered (by decide))

theorem customersStay_of_commits
    (commits : (call.guarantee invariant).commits before after) :
    CustomersStay before after := by
  have outside : .customers ∉ call.tables → CustomersStay before after :=
    CustomersStay.of_sameOutside (sameOutside_of_commits commits)
  have ledger : ∀ {resellerId id : Nat} {balance : Cents}
      {entry : WalletTransactionRow} {db : Db},
      CustomersStay db (db.withLedgerEntry resellerId balance id entry) :=
    @fun _ _ _ _ _ => @CustomersStay.of_sameOutside _ _
      [.resellers, .walletTransactions]
      (sameOutside_withLedgerEntry (by decide) (by decide)) (by decide)
  cases call with
  | createOrderPaidByWallet =>
      obtain ⟨_, _, _, _, _, _, _, rfl⟩ := commits
      exact CustomersStay.modify.trans (@CustomersStay.of_sameOutside _ _
        [.orders] (.put (by decide)) (by decide))
  | confirmCustomerTopup topupId =>
      have decided : ∀ {id : Nat} {status : TopupStatus} {db : Db},
          CustomersStay db
            (db.modify .customerWalletTopups id (·.withStatus status)) :=
        @fun _ _ _ => @CustomersStay.of_sameOutside _ _
          [.customerWalletTopups] (.modify (by decide)) (by decide)
      cases commits with
      | confirmed =>
          exact (CustomersStay.modify.trans ledger).trans decided
      | insufficientCredit => exact CustomersStay.modify.trans decided
  | purchaseCharge | purchaseChargeBulk =>
      obtain ⟨_, sales, _, _, _, _, rfl⟩ := commits
      exact customersStay_purchase _ _ sales
  | confirmOrder | rejectOrder | activateOrder | createDispute | createOrder
  | rejectCustomerTopup | rejectDispute | addChargeCodes
  | deleteAvailableCode | clearAvailableCodes => exact commits.elim
  | _ => exact outside (by simp [tables])

/-- Only the balances of customers change. -/
theorem customersStay_runAlone (call : ServiceCall) (db : Db) :
    CustomersStay db (call.runAlone db) := by
  let invariant : Db → Prop := CustomersStay db
  have preserves : System.Preserves dbView invariant
      fun _ : Unit => call.guarantee invariant :=
    { quiet := fun _ _ holds quiet =>
        holds.trans (@CustomersStay.of_sameOutside _ _ []
          (.of_quiet quiet) (by decide))
      writes := fun _ _ _ holds writes =>
        holds.trans (customersStay_of_writes writes)
      commits := fun _ _ _ holds commits =>
        holds.trans (customersStay_of_commits commits) }
  exact (call.safe_program invariant db).runAlone preserves (.refl db)

end ServiceCall

/-- The orders that are there stay, and new ones are as allowed. -/
structure CreatesOnly (allowed : OrderRow → Prop) (before after : Db) :
    Prop where
  kept : ∀ id order, before.row .orders id = some order →
    after.row .orders id = some order
  created : ∀ id order, before.row .orders id = none →
    after.row .orders id = some order → allowed order

namespace CreatesOnly

variable {allowed : OrderRow → Prop} {first second third : Db}

theorem of_row_eq (same : ∀ id, second.row .orders id = first.row .orders id) :
    CreatesOnly allowed first second where
  kept id order found := (same id).trans found
  created id order absent found := by
    cases absent.symm.trans ((same id).symm.trans found)

theorem trans (start : CreatesOnly allowed first second)
    (rest : CreatesOnly allowed second third) :
    CreatesOnly allowed first third where
  kept id order found := rest.kept id order (start.kept id order found)
  created id order absent found := by
    cases between : second.row .orders id with
    | none => exact rest.created id order between found
    | some other =>
        cases (rest.kept id other between).symm.trans found
        exact start.created id order absent between

theorem of_sameOutside {tables : List TableName}
    (same : SameOutside tables first second) (outside : .orders ∉ tables) :
    CreatesOnly allowed first second :=
  of_row_eq (same.rows _ outside)

theorem put {id : Nat} {order : OrderRow}
    (reserved : first.Reserved .orders id) (isAllowed : allowed order) :
    CreatesOnly allowed first (first.put .orders id order) where
  kept other row found := by
    have different : other ≠ id := by
      rintro rfl
      cases reserved.1.symm.trans found
    rw [row_put_ne different, found]
  created other row absent found := by
    by_cases same : other = id
    · rw [same, row_put_self reserved.2] at found
      cases found
      exact isAllowed
    · rw [row_put_ne same, absent] at found
      cases found

theorem mono {wider : OrderRow → Prop}
    (creates : CreatesOnly allowed first second)
    (implies : ∀ order, allowed order → wider order) :
    CreatesOnly wider first second where
  kept := creates.kept
  created id order absent found :=
    implies order (creates.created id order absent found)

end CreatesOnly

namespace ServiceCall

variable {resellerId packageId customerId : Nat}
variable {phoneNumber : Option String} {stamp : OrderStamp} {db : Db}

/-- The order is for the package, at its price. -/
structure IsFor (type : OrderType) (resellerId packageId customerId : Nat)
    (phoneNumber : Option String) (db : Db) (order : OrderRow) : Prop where
  reseller : order.resellerId = resellerId
  package : order.packageId = packageId
  customer : order.customerId = customerId
  phone : order.phoneNumber = phoneNumber
  type : order.orderType = type
  price : (db.row .packages packageId).map (·.salePrice) =
    some order.packagePrice

theorem createsOnly_createOrder :
    CreatesOnly
      (IsFor .package resellerId packageId customerId phoneNumber db) db
      ((createOrder resellerId packageId customerId phoneNumber stamp).runAlone
        db) := by
  have nothing : CreatesOnly
      (IsFor .package resellerId packageId customerId phoneNumber db) db db :=
    .of_row_eq fun _ => rfl
  rw [runAlone, program, OrderService.createOrder, Program.runAlone_select,
    OrderService.runAlone_refuseBlacklisted]
  split_ifs
  · exact nothing
  rw [Program.runAlone_select, Program.runAlone_select]
  cases offered : db.row .packages packageId with
  | none => exact nothing
  | some package =>
      cases db.row .resellers resellerId with
      | none => exact nothing
      | some reseller =>
          dsimp only
          let new : OrderRow :=
            { orderCode :=
                OrderService.generateOrderCode reseller.orderPrefix stamp
              resellerId := resellerId
              packageId := packageId
              customerId := customerId
              packagePrice := package.salePrice
              phoneNumber := phoneNumber }
          have isFor : IsFor .package resellerId packageId customerId
              phoneNumber db new := ⟨rfl, rfl, rfl, rfl, rfl, by rw [offered]; rfl⟩
          have reserves : CreatesOnly
              (IsFor .package resellerId packageId customerId phoneNumber db) db
              (db.reserve .orders) :=
            .of_row_eq fun _ => row_reserve
          by_cases accepted : OrderService.orderInsertable db new = true
          · rw [OrderService.insertOrder, runAlone_insertRow accepted]
            have inserts : CreatesOnly
                (IsFor .package resellerId packageId customerId phoneNumber db) db
                ((db.reserve .orders).put .orders (db.nextId .orders) new) :=
              reserves.trans
                (.put ⟨by rw [row_reserve, row_nextId], by simp⟩ isFor)
            dsimp only
            rw [OrderService.fetchInserted, Program.runAlone_select]
            split <;> exact inserts
          · rw [OrderService.insertOrder, runAlone_insertRow_refused accepted]
            exact reserves

theorem createsOnly_payFromWallet {price : Cents} {orderCode : String}
    (offered : (db.row .packages packageId).map (·.salePrice) = some price) :
    CreatesOnly
      (IsFor .package resellerId packageId customerId phoneNumber db) db
      ((OrderService.createOrderPaidByWallet.payFromWallet resellerId
        packageId customerId phoneNumber
        (finish fun found => .created found.1 found.2) price
        orderCode).runAlone none db).1 := by
  have nothing : CreatesOnly
      (IsFor .package resellerId packageId customerId phoneNumber db) db db :=
    .of_row_eq fun _ => rfl
  rw [OrderService.createOrderPaidByWallet.payFromWallet,
    Program.runAlone_begin, Program.runAlone_selectForUpdate, id]
  cases db.row .customers customerId with
  | none => exact nothing
  | some customer =>
      dsimp only
      split_ifs
      · exact nothing
      let new := OrderService.walletOrder orderCode resellerId packageId
        customerId price phoneNumber
      have isFor : IsFor .package resellerId packageId customerId phoneNumber
          db new :=
        ⟨rfl, rfl, rfl, rfl, rfl, offered⟩
      let debit : Db → Db := fun later =>
        later.modify .customers customerId fun customer =>
          customer.withBalance (customer.walletBalance - price)
      have reserves : CreatesOnly
          (IsFor .package resellerId packageId customerId phoneNumber db) db
          (db.reserve .orders) :=
        .of_row_eq fun _ => row_reserve
      rw [runAlone_updateRow_pending, OrderService.insertOrder]
      by_cases accepted : OrderService.orderInsertable (debit db) new = true
      · rw [runAlone_insertRow_pending accepted]
        have pays : CreatesOnly
            (IsFor .package resellerId packageId customerId phoneNumber db) db
            (debit (db.reserve .orders)) :=
          reserves.trans (@CreatesOnly.of_sameOutside _ _ _ [.customers]
            (.modify (by decide)) (by decide))
        have inserts : CreatesOnly
            (IsFor .package resellerId packageId customerId phoneNumber db) db
            ((debit (db.reserve .orders)).put .orders
              ((debit db).nextId .orders) new) := by
          have sameId : (debit db).nextId .orders = db.nextId .orders := by
            simp [debit]
          refine pays.trans (.put ⟨?_, ?_⟩ isFor)
          · rw [sameId, row_modify_of_ne (by decide), row_reserve, row_nextId]
          · simp [debit]
        dsimp only
        rw [Program.runAlone_commit, OrderService.fetchInserted,
          Program.runAlone_select]
        split <;> exact inserts
      · rw [runAlone_insertRow_pending_refused accepted]
        exact reserves

theorem createsOnly_createOrderPaidByWallet :
    CreatesOnly
      (IsFor .package resellerId packageId customerId phoneNumber db) db
      ((createOrderPaidByWallet resellerId packageId customerId phoneNumber
        stamp).runAlone db) := by
  have nothing : CreatesOnly
      (IsFor .package resellerId packageId customerId phoneNumber db) db db :=
    .of_row_eq fun _ => rfl
  rw [runAlone, program, OrderService.createOrderPaidByWallet,
    Program.runAlone_select, OrderService.runAlone_refuseBlacklisted]
  split_ifs
  · exact nothing
  rw [Program.runAlone_select, Program.runAlone_select]
  cases offered : db.row .packages packageId with
  | none => exact nothing
  | some package =>
      cases db.row .customers customerId with
      | none => exact nothing
      | some customer =>
          dsimp only
          split_ifs
          · exact nothing
          cases db.row .resellers resellerId with
          | none => exact nothing
          | some reseller =>
              exact createsOnly_payFromWallet (by rw [offered]; rfl)

theorem createsOnly_purchaseChargeBulk {quantity : Int}
    {stamps : Nat → OrderStamp} :
    CreatesOnly (IsFor .charge resellerId packageId customerId none db) db
      ((purchaseChargeBulk resellerId packageId customerId quantity
        stamps).runAlone db) := by
  have nothing : CreatesOnly
      (IsFor .charge resellerId packageId customerId none db) db db :=
    .of_row_eq fun _ => rfl
  rw [runAlone, program, ChargeService.purchaseChargeBulk]
  split_ifs with tooFew
  · exact nothing
  rw [Program.runAlone_select, OrderService.runAlone_refuseBlacklisted]
  split_ifs
  · exact nothing
  rw [Program.runAlone_select, Program.runAlone_select]
  cases offered : db.row .packages packageId with
  | none => exact nothing
  | some package =>
      have outcome := (@ChargeService.runAlone_bulkDeliver resellerId packageId
        customerId quantity stamps db package (by omega) offered).1
      revert outcome
      generalize (ChargeService.purchaseChargeBulk.deliver resellerId packageId
        customerId quantity stamps (finish .bulk)
        (db.row .resellers resellerId) package.salePrice).runAlone none db =
          run
      intro outcome
      cases outcome with
      | refused error after unchanged count =>
          exact .of_row_eq (unchanged .orders)
      | sold price after sales effect =>
          constructor
          · intro id order found
            rw [effect.otherOrders id ?_]
            · exact found
            · intro listed
              obtain ⟨sale, member, rfl⟩ := List.mem_map.mp listed
              cases (effect.newOrders sale member).symm.trans found
          · intro id order absent found
            by_cases listed : id ∈ sales.map (·.orderId)
            · obtain ⟨sale, member, rfl⟩ := List.mem_map.mp listed
              cases (effect.ordered sale member).symm.trans found
              exact ⟨rfl, rfl, rfl, rfl, rfl, effect.price⟩
            · rw [effect.otherOrders id listed, absent] at found
              cases found

end ServiceCall

namespace ShopBot

section Purchases

variable {shop : Shop} {visit : Visit ShopState ShopData} {userId : Int}

/-- The customer that is returned is there afterwards. -/
theorem isCustomer_getOrCreateCustomer {resellerId customerId : Nat}
    {after : Visit ShopState ShopData}
    (ran : (getOrCreateCustomer resellerId userId).runOn visit =
      (.ok customerId, after)) :
    IsCustomer resellerId userId after.platform.db customerId := by
  unfold getOrCreateCustomer at ran
  rw [Failing.runOn_bind, runOn_query] at ran
  dsimp only at ran
  cases listed : visit.platform.db.idsWhere .customers fun customer =>
      customer.resellerId = resellerId &&
        customer.telegramUserId = userId with
  | cons first rest =>
      rw [listed] at ran
      cases ran
      have member : customerId ∈ visit.platform.db.idsWhere .customers
          fun customer => customer.resellerId = resellerId &&
            customer.telegramUserId = userId := by
        rw [listed]
        exact List.mem_cons_self
      obtain ⟨customer, found, isOwn⟩ := mem_idsWhere.mp member
      rw [Bool.and_eq_true, decide_eq_true_eq, decide_eq_true_eq] at isOwn
      exact ⟨customer, found, isOwn⟩
  | nil =>
      rw [listed] at ran
      unfold executeInsert executeWrite at ran
      simp only [Failing.runOn_bind, runOn_query,
        Failing.runOn_modify] at ran
      split at ran
      · cases ran
        exact ⟨_, row_put_self (by simp), rfl, rfl⟩
      · cases ran

theorem sameOutside_getOrCreateCustomer {resellerId : Nat} :
    SameOutside [.customers] visit.platform.db
      ((getOrCreateCustomer resellerId userId).runOn
        visit).2.platform.db := by
  have within : (CustomerOrders.footprint [.customers]).Within
      (getOrCreateCustomer resellerId userId) :=
    within_getOrCreateCustomer List.mem_cons_self
  exact (within visit).rows

/-- A new order of the customer for a package at its price. -/
def IsPurchase (shop : Shop) (type : OrderType) (userId : Int)
    (packageId : Nat) (phoneNumber : Option String) (before after : Db)
    (order : OrderRow) : Prop :=
  ServiceCall.IsFor type shop.resellerId packageId order.customerId
      phoneNumber before order ∧
    IsCustomer shop.resellerId userId after order.customerId

/-- The price of a package stays while others tables change. -/
theorem isFor_of_sameOutside {tables : List TableName} {type : OrderType}
    {resellerId packageId customerId : Nat} {phoneNumber : Option String}
    {before after : Db} {order : OrderRow}
    (same : SameOutside tables before after) (outside : .packages ∉ tables)
    (isFor : ServiceCall.IsFor type resellerId packageId customerId
      phoneNumber after order) :
    ServiceCall.IsFor type resellerId packageId customerId phoneNumber before
      order :=
  { isFor with
    price := by
      rw [← same.rows _ outside]
      exact isFor.price }

/-- What follows a look-up of the customer in a purchase: calls that create
orders for the customer and the package. -/
structure Buys (shop : Shop) (type : OrderType) (packageId customerId : Nat)
    (phoneNumber : Option String) (before after : Db) : Prop where
  rows : SameOutside [.customers, .orders, .chargeCodes] before after
  customers : CustomersStay before after
  creates : CreatesOnly
    (ServiceCall.IsFor type shop.resellerId packageId customerId phoneNumber
      before) before after

theorem Buys.refl {type : OrderType} {packageId customerId : Nat}
    {phoneNumber : Option String} (db : Db) :
    Buys shop type packageId customerId phoneNumber db db :=
  ⟨.refl _, .refl _, .of_row_eq fun _ => rfl⟩

theorem Buys.trans {type : OrderType} {packageId customerId : Nat}
    {phoneNumber : Option String} {first second third : Db}
    (start : Buys shop type packageId customerId phoneNumber first second)
    (rest : Buys shop type packageId customerId phoneNumber second third) :
    Buys shop type packageId customerId phoneNumber first third :=
  ⟨start.rows.trans rest.rows, start.customers.trans rest.customers,
    start.creates.trans (rest.creates.mono fun _ =>
      isFor_of_sameOutside start.rows (by decide))⟩

instance {type : OrderType} {packageId customerId : Nat}
    {phoneNumber : Option String} :
    Std.Refl (Buys shop type packageId customerId phoneNumber) :=
  ⟨Buys.refl⟩

instance {type : OrderType} {packageId customerId : Nat}
    {phoneNumber : Option String} :
    IsTrans Db (Buys shop type packageId customerId phoneNumber) :=
  ⟨fun _ _ _ => Buys.trans⟩

/-- Whatever becomes of the script, its orders are as in the purchase. -/
abbrev BuysOnly {Result : Type} (shop : Shop) (type : OrderType)
    (packageId customerId : Nat) (phoneNumber : Option String)
    (script : ShopScript Result) : Prop :=
  script.Moves (fun visit => visit.platform.db)
    (Buys shop type packageId customerId phoneNumber)

theorem buysOnly_of_keeps {Result : Type} {type : OrderType}
    {packageId customerId : Nat} {phoneNumber : Option String}
    {script : ShopScript Result}
    (keeps : KeepsPlatform (fun platform => platform.db) script) :
    BuysOnly shop type packageId customerId phoneNumber script :=
  keeps.moves

theorem buysOnly_attempt {type : OrderType} {packageId customerId : Nat}
    {phoneNumber : Option String} {service : ServiceCall}
    (tables : service.tables ⊆ [.customers, .orders, .chargeCodes])
    (creates : ∀ db, CreatesOnly
      (ServiceCall.IsFor type shop.resellerId packageId customerId phoneNumber
        db) db (service.runAlone db)) :
    BuysOnly shop type packageId customerId phoneNumber (attempt service) := by
  intro visit
  dsimp only
  rw [db_attempt]
  exact ⟨(service.sameOutside_runAlone _).mono tables,
    service.customersStay_runAlone _, creates _⟩

theorem buysOnly_orderWithReceipt {packageId customerId : Nat}
    {phoneNumber : String} :
    BuysOnly shop .package packageId customerId (some phoneNumber)
      (CustomerOrders.orderWithReceipt shop packageId customerId
        phoneNumber) := by
  have creates : BuysOnly shop .package packageId customerId (some phoneNumber)
      (attempt (.createOrder shop.resellerId packageId customerId
        (some phoneNumber) (shop.stamp 1))) :=
    buysOnly_attempt (by simp [ServiceCall.tables])
      fun _ => ServiceCall.createsOnly_createOrder
  apply creates.bind
  intro outcome
  split
  · exact buysOnly_of_keeps (keeps_nextQuestion _ _)
  · exact buysOnly_of_keeps keeps_clear
  · exact buysOnly_of_keeps (Failing.keeps_throw _)

/-- A script that goes on with the customer who sends the update. -/
theorem createsOnly_getOrCreateCustomer_bind {type : OrderType}
    {packageId : Nat} {phoneNumber : Option String}
    {next : Nat → ShopScript Unit}
    (buys : ∀ customerId,
      BuysOnly shop type packageId customerId phoneNumber (next customerId)) :
    let after := ((getOrCreateCustomer shop.resellerId userId >>= next).runOn
      visit).2.platform.db
    CreatesOnly
      (IsPurchase shop type userId packageId phoneNumber visit.platform.db
        after) visit.platform.db after := by
  intro after
  have same := @sameOutside_getOrCreateCustomer visit userId shop.resellerId
  have is := @isCustomer_getOrCreateCustomer visit userId shop.resellerId
  revert after same is
  rw [Failing.runOn_bind]
  rcases (getOrCreateCustomer shop.resellerId userId).runOn visit with
    ⟨error | customerId, first⟩
  · intro after same is
    exact .of_sameOutside same (by decide)
  · intro after same is
    obtain ⟨rows, customers, creates⟩ := buys customerId first
    have found : CreatesOnly (IsPurchase shop type userId packageId phoneNumber
        visit.platform.db after) visit.platform.db first.platform.db :=
      .of_sameOutside same (by decide)
    refine found.trans (creates.mono fun order isFor => ?_)
    refine ⟨{ isFor_of_sameOutside same (by decide) isFor with
      customer := rfl }, ?_⟩
    rw [isFor.customer]
    exact customers _ _ _ (is rfl)

theorem createsOnly_processPurchase {phoneNumber : String} :
    let after := ((CustomerOrders.processPurchase shop userId
      phoneNumber).runOn visit).2.platform.db
    CreatesOnly (fun order => ∃ packageId,
      visit.conversation.data.selectedPackageId = some packageId ∧
        IsPurchase shop .package userId packageId (some phoneNumber)
          visit.platform.db after order) visit.platform.db after := by
  unfold CustomerOrders.processPurchase getData
  rw [bind_assoc, Failing.runOn_bind, Failing.runOn_get]
  dsimp only
  rw [pure_bind]
  cases visit.conversation.data.selectedPackageId with
  | none => exact .of_row_eq fun _ => rfl
  | some packageId =>
      refine (createsOnly_getOrCreateCustomer_bind fun customerId => ?_).mono
        fun order purchase => ⟨packageId, rfl, purchase⟩
      have creates : BuysOnly shop .package packageId customerId
          (some phoneNumber)
          (attempt (.createOrderPaidByWallet shop.resellerId packageId
            customerId (some phoneNumber) (shop.stamp 0))) :=
        buysOnly_attempt (by simp [ServiceCall.tables])
          fun _ => ServiceCall.createsOnly_createOrderPaidByWallet
      apply creates.bind
      intro outcome
      split
      · exact buysOnly_of_keeps keeps_clear
      · exact buysOnly_of_keeps keeps_clear
      · exact buysOnly_orderWithReceipt
      · exact buysOnly_of_keeps (Failing.keeps_throw _)

/-- The new orders of a message with a phone number. -/
def IsOrdered (shop : Shop) (visit : Visit ShopState ShopData)
    (userId : Int) (supplied : Option String) (after : Db)
    (order : OrderRow) : Prop :=
  ∃ packageId phoneNumber,
    visit.conversation.data.selectedPackageId = some packageId ∧
      supplied = some phoneNumber ∧
      IsPurchase shop .package userId packageId (some phoneNumber)
        visit.platform.db after order

theorem createsOnly_receivePhoneNumberContact {message : Message}
    {contact : Contact} (shares : message.contact = some contact) :
    let after := (((CustomerOrders.receivePhoneNumberContact shop).action
      (.message message)).runOn visit).2.platform.db
    CreatesOnly
      (IsOrdered shop visit message.sender (some contact.phoneNumber) after)
      visit.platform.db after := by
  intro after
  have ran : after = ((CustomerOrders.processPurchase shop message.sender
      contact.phoneNumber).runOn visit).2.platform.db := by
    change ((required _ message.contact >>= _).runOn visit).2.platform.db = _
    rw [shares]
    rfl
  rw [ran]
  apply createsOnly_processPurchase.mono
  rintro order ⟨packageId, selected, purchase⟩
  exact ⟨packageId, _, selected, rfl, purchase⟩

theorem createsOnly_receivePhoneNumberText {message : Message} :
    let after := (((CustomerOrders.receivePhoneNumberText shop).action
      (.message message)).runOn visit).2.platform.db
    CreatesOnly
      (IsOrdered shop visit message.sender
        (message.text.bind CustomerOrders.normalizePhoneNumber) after)
      visit.platform.db after := by
  intro after
  have ran : after =
      ((required .attributeError message.text >>= _).runOn
        visit).2.platform.db := rfl
  clear_value after
  cases typed : message.text with
  | none =>
      rw [typed] at ran
      rw [ran]
      exact .of_row_eq fun _ => rfl
  | some text =>
      rw [typed] at ran
      cases normal : CustomerOrders.normalizePhoneNumber text with
      | none =>
          have same : after = visit.platform.db := by
            rw [ran, visit_required_bind, Option.elim, normal]
            rfl
          rw [same]
          exact .of_row_eq fun _ => rfl
      | some phoneNumber =>
          have same : after = ((CustomerOrders.processPurchase shop
              message.sender phoneNumber).runOn visit).2.platform.db := by
            rw [ran, visit_required_bind, Option.elim, normal]
          rw [same]
          apply createsOnly_processPurchase.mono
          rintro order ⟨packageId, selected, purchase⟩
          exact ⟨packageId, _, selected, normal, purchase⟩

theorem createsOnly_handleChargeQuantityInput {message : Message} :
    let after := (((CustomerCharge.handleChargeQuantityInput shop).action
      (.message message)).runOn visit).2.platform.db
    CreatesOnly (fun order => ∃ packageId,
      visit.conversation.data.selectedChargePackageId = some packageId ∧
        IsPurchase shop .charge message.sender packageId none
          visit.platform.db after order) visit.platform.db after := by
  intro after
  have ran : after = ((getData >>= _).runOn visit).2.platform.db := rfl
  clear_value after
  unfold getData at ran
  rw [bind_assoc, Failing.runOn_bind, Failing.runOn_get] at ran
  dsimp only at ran
  rw [pure_bind] at ran
  cases selected : visit.conversation.data.selectedChargePackageId with
  | none =>
      rw [selected] at ran
      rw [ran]
      exact .of_row_eq fun _ => rfl
  | some packageId =>
      rw [selected] at ran
      dsimp only at ran
      cases quantified : CustomerCharge.readQuantity
          (ChargeService.strip (message.text.getD "").toList) with
      | none =>
          rw [quantified] at ran
          rw [ran]
          exact .of_row_eq fun _ => rfl
      | some quantity =>
          rw [quantified] at ran
          dsimp only at ran
          rw [Failing.runOn_bind, runOn_query] at ran
          dsimp only at ran
          split_ifs at ran
          · rw [ran]
            exact .of_row_eq fun _ => rfl
          rw [ran]
          refine (createsOnly_getOrCreateCustomer_bind
            fun customerId => ?_).mono
              fun order purchase => ⟨packageId, rfl, purchase⟩
          have creates : BuysOnly shop .charge packageId customerId none
              (attempt (.purchaseChargeBulk shop.resellerId packageId
                customerId quantity shop.stamp)) :=
            buysOnly_attempt (by simp [ServiceCall.tables])
              fun _ => ServiceCall.createsOnly_purchaseChargeBulk
          apply creates.bind
          intro outcome
          split
          · exact buysOnly_of_keeps keeps_clear
          · exact buysOnly_of_keeps keeps_clear
          · exact buysOnly_of_keeps (Failing.keeps_pure ())
          · exact buysOnly_of_keeps (Failing.keeps_pure ())
          · exact buysOnly_of_keeps (Failing.keeps_throw _)

end Purchases

/-- A relation that allows the handlers which complete no purchase. -/
theorem allowsHandlers_ordersRemain : AllowsHandlers OrdersRemain where
  outside same noOrders _ := .of_sameOutside same noOrders
  deletion same _ := .of_sameOutside same (by decide)
  change _ := .modify
  service call db existing := call.ordersRemain_runAlone existing db

end ShopBot

/-- The phone number that a message gives to an order: that of the shared
contact as it is, or the typed one in its normal form. -/
def Message.suppliedNumber (message : Message) : Option String :=
  match message.contact with
  | some contact => some contact.phoneNumber
  | none => message.text.bind ShopBot.CustomerOrders.normalizePhoneNumber

namespace ShopWorld

open ShopBot

variable {world : ShopWorld} {shop : Shop} {update : Update}

/-- The script that creates an order is that of a message which completes a
purchase. -/
theorem script_of_created {id : Nat} {order : OrderRow}
    (absent : world.platform.db.row .orders id = none)
    (created : (world.handle shop update).platform.db.row .orders id =
      some order) :
    let state := (world.conversationOf update).state
    let contact := CustomerOrders.receivePhoneNumberContact shop
    let text := CustomerOrders.receivePhoneNumberText shop
    let quantity := CustomerCharge.handleChargeQuantityInput shop
    ∃ script : ShopScript Unit,
      (world.handle shop update).platform =
        (script.runOn ⟨world.platform,
          world.conversationOf update⟩).2.platform ∧
      (contact.takes state update = true ∧ script = contact.action update ∨
        contact.takes state update = false ∧
          text.takes state update = true ∧ script = text.action update ∨
        quantity.takes state update = true ∧
          script = quantity.action update) := by
  rw [handle] at created ⊢
  cases found : Handler.dispatch (handlers shop fun userId =>
      isResellerOwner shop.resellerId userId world.platform.db)
      (world.conversationOf update).state update with
  | none =>
      rw [BotWorld.receive_of_none found, absent] at created
      cases created
  | some script =>
      have ran := BotWorld.platform_receive found
      refine ⟨script, ran, ?_⟩
      rcases purchase_or_movesDb allowsHandlers_ordersRemain found with
        creates | completes
      · have stillAbsent := creates ⟨world.platform,
          world.conversationOf update⟩ id absent
        rw [ran] at created
        cases stillAbsent.symm.trans created
      · exact completes

/-- An update that creates an order is a message that completes a purchase. -/
theorem purchase_of_created {id : Nat} {order : OrderRow}
    (absent : world.platform.db.row .orders id = none)
    (created : (world.handle shop update).platform.db.row .orders id =
      some order) :
    ∃ message, update = .message message ∧
      ((world.conversationOf update).state = some .enteringPhoneNumber ∧
        IsOrdered shop ⟨world.platform, world.conversationOf update⟩
          message.sender message.suppliedNumber
          (world.handle shop update).platform.db order ∨
        (world.conversationOf update).state = some .enteringQuantity ∧
        ∃ packageId,
          (world.conversationOf update).data.selectedChargePackageId =
              some packageId ∧
            IsPurchase shop .charge message.sender packageId none
              world.platform.db (world.handle shop update).platform.db
              order) := by
  obtain ⟨script, ran, completes⟩ := script_of_created absent created
  rw [ran] at created ⊢
  cases update with
  | callback callback =>
      rcases completes with ⟨takes, -⟩ | ⟨-, takes, -⟩ | ⟨takes, -⟩ <;>
        cases takes
  | message message =>
      refine ⟨message, rfl, ?_⟩
      rcases completes with ⟨takes, rfl⟩ | ⟨noContact, takes, rfl⟩ |
        ⟨takes, rfl⟩
      · have isInState := of_decide_eq_true (Bool.and_eq_true_iff.mp takes).1
        have shares := (Bool.and_eq_true_iff.mp takes).2
        obtain ⟨contact, isContact⟩ := Option.isSome_iff_exists.mp shares
        refine .inl ⟨isInState, ?_⟩
        rw [Message.suppliedNumber, isContact]
        exact (createsOnly_receivePhoneNumberContact isContact).created id
          order absent created
      · have isInState := of_decide_eq_true (Bool.and_eq_true_iff.mp takes).1
        have isContact : message.contact = none := by
          have refused : (inState ShopState.enteringPhoneNumber
              (world.conversationOf (.message message)).state message &&
                message.contact.isSome) = false := noContact
          simpa [inState, isInState] using refused
        refine .inl ⟨isInState, ?_⟩
        rw [Message.suppliedNumber, isContact]
        exact createsOnly_receivePhoneNumberText.created id order absent
          created
      · obtain ⟨packageId, selected, purchase⟩ :=
          createsOnly_handleChargeQuantityInput.created id order absent
            created
        exact .inr ⟨of_decide_eq_true takes, packageId, selected, purchase⟩

end ShopWorld

end Baste
