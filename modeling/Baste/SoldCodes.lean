import Baste.CatalogDeletions
import Baste.CatalogNames
import Baste.ShopMoves

/-!
# Sold codes and the orders behind them

A code is sold in the same transaction as its order is created, and orders are
never deleted.  So in every state that the bots of the shops reach, the package
of a sold code has an order, which keeps the package from being deleted.  This
is why the announcement before a deletion may count available codes only.
-/

namespace Baste

open BotScripts Database Transaction ShopBot.ResellerCatalog

/-- Orders stay with their packages, and a code that is sold was sold before or
has an order. -/
structure KeepsSales (before after : Db) : Prop where
  orders : ∀ id order, before.row .orders id = some order →
    ∃ later, after.row .orders id = some later ∧
      later.packageId = order.packageId
  codes : ∀ id code, after.row .chargeCodes id = some code →
    code.status = .sold →
      (∃ old, before.row .chargeCodes id = some old ∧ old.status = .sold ∧
        old.packageId = code.packageId) ∨
      Ordered [code.packageId] after

namespace KeepsSales

variable {first second third : Db}

theorem refl (db : Db) : KeepsSales db db where
  orders _ order found := ⟨order, found, rfl⟩
  codes _ code found sold := .inl ⟨code, found, sold, rfl⟩

/-- The packages that have orders go on to have them. -/
theorem ordered (keeps : KeepsSales first second) {packageIds : List Nat}
    (ordered : Ordered packageIds first) : Ordered packageIds second := by
  obtain ⟨id, order, found, refers⟩ := ordered
  obtain ⟨later, isLater, same⟩ := keeps.orders id order found
  exact ⟨id, later, isLater, same ▸ refers⟩

theorem trans (start : KeepsSales first second)
    (rest : KeepsSales second third) : KeepsSales first third where
  orders id order found := by
    obtain ⟨between, isBetween, same⟩ := start.orders id order found
    obtain ⟨later, isLater, again⟩ := rest.orders id between isBetween
    exact ⟨later, isLater, again.trans same⟩
  codes id code found sold := by
    rcases rest.codes id code found sold with
      ⟨between, isBetween, wasSold, same⟩ | ordered
    · rcases start.codes id between isBetween wasSold with
        ⟨old, isOld, oldSold, again⟩ | ordered
      · exact .inl ⟨old, isOld, oldSold, again.trans same⟩
      · rw [same] at ordered
        exact .inr (rest.ordered ordered)
    · exact .inr ordered

instance : Std.Refl KeepsSales := ⟨refl⟩

instance : IsTrans Db KeepsSales := ⟨fun _ _ _ => trans⟩

theorem soldHaveOrders (keeps : KeepsSales first second)
    (have_ : SoldHaveOrders first) : SoldHaveOrders second := by
  intro id code found sold
  rcases keeps.codes id code found sold with
    ⟨old, isOld, wasSold, same⟩ | ordered
  · rw [← same]
    exact keeps.ordered (have_ id old isOld wasSold)
  · exact ordered

theorem of_rows
    (orders : ∀ id, second.row .orders id = first.row .orders id)
    (codes : ∀ id, second.row .chargeCodes id = first.row .chargeCodes id) :
    KeepsSales first second where
  orders id order found := ⟨order, (orders id).trans found, rfl⟩
  codes id code found sold :=
    .inl ⟨code, (codes id).symm.trans found, sold, rfl⟩

theorem of_sameOutside {tables : List TableName}
    (same : SameOutside tables first second) (noOrders : .orders ∉ tables)
    (noCodes : .chargeCodes ∉ tables) : KeepsSales first second :=
  of_rows (same.rows _ noOrders) (same.rows _ noCodes)

theorem modify_customer {id : Nat} {change : CustomerRow → CustomerRow} :
    KeepsSales first (first.modify .customers id change) :=
  @of_sameOutside _ _ [.customers] (.modify (by decide)) (by decide)
    (by decide)

/-- Codes that go do no harm. -/
theorem of_codesOnlyGo
    (orders : ∀ id, second.row .orders id = first.row .orders id)
    (codes : CodesOnlyGo first second) : KeepsSales first second where
  orders id order found := ⟨order, (orders id).trans found, rfl⟩
  codes id code found sold := .inl ⟨code, codes id code found, sold, rfl⟩

theorem modify_order {id : Nat} {change : OrderRow → OrderRow}
    (samePackage : ∀ order, (change order).packageId = order.packageId) :
    KeepsSales first (first.modify .orders id change) where
  orders key order found := by
    rw [row_modify, found]
    split
    · exact ⟨change order, rfl, samePackage order⟩
    · exact ⟨order, rfl, rfl⟩
  codes key code found sold := by
    rw [row_modify_of_ne (by decide)] at found
    exact .inl ⟨code, found, sold, rfl⟩

theorem put_order {id : Nat} {order : OrderRow}
    (reserved : first.Reserved .orders id) :
    KeepsSales first (first.put .orders id order) where
  orders key old found := by
    have other : key ≠ id := by
      rintro rfl
      rw [reserved.1] at found
      cases found
    exact ⟨old, by rw [row_put_ne other, found], rfl⟩
  codes key code found sold := by
    rw [row_put_of_ne (by decide)] at found
    exact .inl ⟨code, found, sold, rfl⟩

/-- A change of a code that sells nothing. -/
theorem modify_code {id : Nat} {change : ChargeCodeRow → ChargeCodeRow}
    (same : ∀ code, (change code).status = code.status ∧
      (change code).packageId = code.packageId) :
    KeepsSales first (first.modify .chargeCodes id change) where
  orders key order found := by
    rw [row_modify_of_ne (by decide)]
    exact ⟨order, found, rfl⟩
  codes key code found sold := by
    rw [row_modify] at found
    split at found
    · obtain ⟨old, isOld, rfl⟩ := Option.map_eq_some_iff.mp found
      exact .inl ⟨old, isOld, (same old).1 ▸ sold, (same old).2.symm⟩
    · exact .inl ⟨code, found, sold, rfl⟩

/-- A new code is available. -/
theorem put_code {id : Nat} {code : ChargeCodeRow}
    (reserved : first.Reserved .chargeCodes id)
    (available : code.status = .available) :
    KeepsSales first (first.put .chargeCodes id code) where
  orders key order found := by
    rw [row_put_of_ne (by decide)]
    exact ⟨order, found, rfl⟩
  codes key row found sold := by
    by_cases isNew : key = id
    · rw [isNew, row_put_self reserved.2] at found
      cases found
      rw [available] at sold
      cases sold
    · rw [row_put_ne isNew] at found
      exact .inl ⟨row, found, sold, rfl⟩

variable {purchase : ChargeService.Purchase} {sale : ChargeService.Sale}

/-- A sale comes with its order. -/
theorem deliver
    (found : first.row .chargeCodes sale.codeId = some sale.code)
    (available : ChargeService.isAvailable purchase.packageId sale.code)
    (reserved : first.Reserved .orders sale.orderId) :
    KeepsSales first (purchase.deliver first sale) where
  orders id order isOrder := by
    obtain ⟨later, isLater, same⟩ :=
      (@put_order first _ (purchase.order sale) reserved).orders id order
        isOrder
    refine ⟨later, ?_, same⟩
    rw [ChargeService.Purchase.deliver, row_modify_of_ne (by decide)]
    exact isLater
  codes id code isCode sold := by
    rw [ChargeService.Purchase.deliver] at isCode
    by_cases same : id = sale.codeId
    · rw [same, row_modify_self, row_put_of_ne (by decide), found,
        Option.map_some] at isCode
      cases isCode
      have samePackage : (purchase.sell sale sale.code).packageId =
          purchase.packageId := by
        simp only [ChargeService.isAvailable, Bool.and_eq_true,
          decide_eq_true_eq] at available
        unfold ChargeService.Purchase.sell
        split <;> exact available.1
      refine .inr ⟨sale.orderId, purchase.order sale, ?_, ?_⟩
      · rw [ChargeService.Purchase.deliver, row_modify_of_ne (by decide),
          row_put_self reserved.2]
      · rw [samePackage]
        exact List.mem_singleton.mpr rfl
    · rw [row_modify_ne same, row_put_of_ne (by decide)] at isCode
      exact .inl ⟨code, isCode, sold, rfl⟩

theorem deliverAll {sales : List ChargeService.Sale}
    (deliverable : purchase.Deliverable first sales) (quantity : Int) :
    KeepsSales first
      (sales.foldl purchase.deliver (purchase.debited quantity first)) := by
  apply ChargeService.Purchase.foldl_deliver_of_invariant (KeepsSales first)
    ?_ (deliverable.debited quantity)
  · exact modify_customer
  · intro db sale found available reserved soFar
    exact soFar.trans (deliver found available reserved)

end KeepsSales

namespace ServiceCall

variable {invariant : Db → Prop} {call : ServiceCall} {before after : Db}

theorem keepsSales_of_writes
    (writes : (call.guarantee invariant).writes before after) :
    KeepsSales before after := by
  have outside : .orders ∉ call.tables → .chargeCodes ∉ call.tables →
      KeepsSales before after :=
    KeepsSales.of_sameOutside (sameOutside_of_writes writes)
  cases call with
  | createOrder =>
      obtain ⟨_, _, rfl⟩ := writes
      exact (KeepsSales.of_rows (fun _ => row_reserve)
        fun _ => row_reserve).trans (.put_order (reserved_reserve ..))
  | confirmOrder | rejectOrder =>
      cases writes
      exact .modify_order fun _ => rfl
  | activateOrder =>
      rcases writes with rfl | ⟨_, -, rfl⟩
      · exact .modify_order fun _ => rfl
      · exact @KeepsSales.of_sameOutside _ _ [.resellers]
          (.modify (by decide)) (by decide) (by decide)
  | createDispute =>
      rcases writes with rfl | rfl
      · exact .modify_order fun _ => rfl
      · exact @KeepsSales.of_sameOutside _ _ [.disputes]
          (SameOutside.reserve.trans (.put (by decide))) (by decide)
          (by decide)
  | approveDispute =>
      obtain ⟨_, _, -, -, rfl | rfl | ⟨_, rfl⟩⟩ := writes
      · exact @KeepsSales.of_sameOutside _ _ [.disputes]
          (.modify (by decide)) (by decide) (by decide)
      · exact .modify_order fun _ => rfl
      · exact @KeepsSales.of_sameOutside _ _ [.blacklist]
          (SameOutside.reserve.trans (.put (by decide))) (by decide)
          (by decide)
  | addChargeCodes =>
      obtain ⟨_, _, rfl⟩ := writes
      exact (KeepsSales.of_rows (fun _ => row_reserve)
        fun _ => row_reserve).trans (.put_code (reserved_reserve ..) rfl)
  | deleteAvailableCode | clearAvailableCodes =>
      obtain ⟨ids, -, rfl⟩ := writes
      apply KeepsSales.of_codesOnlyGo
      · exact fun _ => row_erase_of_ne (by decide)
      · intro id code found
        by_cases gone : id ∈ ids
        · rw [row_erase_of_mem gone] at found
          cases found
        · rwa [row_erase_of_notMem gone] at found
  | purchaseCharge | purchaseChargeBulk =>
      obtain ⟨_, _, rfl⟩ := writes
      exact .modify_code fun _ => ⟨rfl, rfl⟩
  | createOrderPaidByWallet | submitReceipt => exact writes.elim
  | _ => exact outside (by simp [tables]) (by simp [tables])

theorem keepsSales_of_commits
    (commits : (call.guarantee invariant).commits before after) :
    KeepsSales before after := by
  have outside : .orders ∉ call.tables → .chargeCodes ∉ call.tables →
      KeepsSales before after :=
    KeepsSales.of_sameOutside (sameOutside_of_commits commits)
  have ledger : ∀ {resellerId id : Nat} {balance : Cents}
      {entry : WalletTransactionRow} {db : Db},
      KeepsSales db (db.withLedgerEntry resellerId balance id entry) :=
    @fun _ _ _ _ _ => @KeepsSales.of_sameOutside _ _
      [.resellers, .walletTransactions]
      (sameOutside_withLedgerEntry (by decide) (by decide)) (by decide)
      (by decide)
  cases call with
  | createOrderPaidByWallet =>
      obtain ⟨_, _, _, _, _, _, reserved, rfl⟩ := commits
      refine KeepsSales.modify_customer.trans (.put_order ⟨?_, ?_⟩)
      · rw [row_modify_of_ne (by decide), reserved.1]
      · simpa using reserved.2
  | submitReceipt =>
      cases commits with
      | testOrder | failed => exact .modify_order fun _ => rfl
      | charged => exact ledger.trans (.modify_order fun _ => rfl)
  | approveDispute =>
      obtain ⟨_, _, -, -, _, -, -, -, rfl⟩ := commits
      exact ledger
  | purchaseCharge | purchaseChargeBulk =>
      obtain ⟨_, sales, _, _, _, deliverable, rfl⟩ := commits
      exact .deliverAll deliverable _
  | createOrder | confirmOrder | rejectOrder | activateOrder | createDispute
  | addChargeCodes | deleteAvailableCode | clearAvailableCodes =>
      exact commits.elim
  | _ => exact outside (by simp [tables]) (by simp [tables])

/-- Every service function keeps the orders and the sold codes. -/
theorem keepsSales_runAlone (call : ServiceCall) (db : Db) :
    KeepsSales db (call.runAlone db) := by
  let invariant : Db → Prop := KeepsSales db
  have preserves : System.Preserves dbView invariant
      fun _ : Unit => call.guarantee invariant :=
    { quiet := fun _ _ holds quiet =>
        holds.trans (.of_rows (fun id => (quiet_row quiet _ id).symm)
          fun id => (quiet_row quiet _ id).symm)
      writes := fun _ _ _ holds writes =>
        holds.trans (keepsSales_of_writes writes)
      commits := fun _ _ _ holds commits =>
        holds.trans (keepsSales_of_commits commits) }
  exact (call.safe_program invariant db).runAlone preserves (.refl db)

end ServiceCall

theorem allowsHandlers_keepsSales : AllowsHandlers KeepsSales where
  outside := KeepsSales.of_sameOutside
  deletion same := .of_codesOnlyGo (same.rows _ (by decide))
  change := .modify_order
  service call db _ := call.keepsSales_runAlone db

namespace ShopBot

section Purchases

variable {shop : Shop} {update : Update}

/-- Whatever a script does that calls a service function in the end. -/
theorem keepsSales_attempt (service : ServiceCall) :
    MovesDb KeepsSales (attempt service : ShopScript _) :=
  movesDb_attempt service.keepsSales_runAlone

theorem keepsSales_getOrCreateCustomer {resellerId : Nat} {userId : Int} :
    MovesDb KeepsSales (getOrCreateCustomer resellerId userId) := by
  have within : (CustomerOrders.footprint [.customers]).Within
      (getOrCreateCustomer resellerId userId) :=
    within_getOrCreateCustomer List.mem_cons_self
  exact fun visit =>
    .of_sameOutside (within visit).rows (by decide) (by decide)

theorem keepsSales_orderWithReceipt {packageId customerId : Nat}
    {phoneNumber : String} :
    MovesDb KeepsSales (CustomerOrders.orderWithReceipt shop packageId
      customerId phoneNumber) := by
  apply (keepsSales_attempt _).bind
  intro outcome
  split
  · exact movesDb_of_keeps (keeps_nextQuestion _ _)
  · exact movesDb_clear
  · exact movesDb_throw

theorem keepsSales_processPurchase {userId : Int} {phoneNumber : String} :
    MovesDb KeepsSales
      (CustomerOrders.processPurchase shop userId phoneNumber) := by
  refine movesDb_bind keeps_getData fun data => ?_
  split
  · exact movesDb_clear
  · apply keepsSales_getOrCreateCustomer.bind
    intro customerId
    apply (keepsSales_attempt _).bind
    intro outcome
    split
    · exact movesDb_clear
    · exact movesDb_clear
    · exact keepsSales_orderWithReceipt
    · exact movesDb_throw

theorem keepsSales_receivePhoneNumberContact :
    MovesDb KeepsSales
      ((CustomerOrders.receivePhoneNumberContact shop).action update) := by
  apply movesDb_onMessage
  intro message
  refine movesDb_bind (keeps_required _ _) fun contact => ?_
  exact keepsSales_processPurchase

theorem keepsSales_receivePhoneNumberText :
    MovesDb KeepsSales
      ((CustomerOrders.receivePhoneNumberText shop).action update) := by
  apply movesDb_onMessage
  intro message
  refine movesDb_bind (keeps_required _ _) fun text => ?_
  split
  · exact movesDb_pure
  · exact keepsSales_processPurchase

theorem keepsSales_handleChargeQuantityInput :
    MovesDb KeepsSales
      ((CustomerCharge.handleChargeQuantityInput shop).action update) := by
  apply movesDb_onMessage
  intro message
  refine movesDb_bind keeps_getData fun data => ?_
  split
  · exact movesDb_clear
  · dsimp only
    split
    · exact movesDb_pure
    · refine movesDb_bind (keeps_query _) fun package => ?_
      split
      · exact movesDb_clear
      · apply keepsSales_getOrCreateCustomer.bind
        intro customerId
        apply (keepsSales_attempt _).bind
        intro outcome
        split
        · exact movesDb_clear
        · exact movesDb_clear
        · exact movesDb_pure
        · exact movesDb_pure
        · exact movesDb_throw

end Purchases

end ShopBot

theorem ShopWorld.keepsSales_handle {world : ShopWorld} {shop : Shop}
    {update : Update} :
    KeepsSales world.platform.db (world.handle shop update).platform.db := by
  rw [handle]
  cases found : Handler.dispatch (ShopBot.handlers shop fun userId =>
      ShopBot.isResellerOwner shop.resellerId userId world.platform.db)
      (world.conversationOf update).state update with
  | none =>
      rw [BotWorld.receive_of_none found]
      exact .refl _
  | some script =>
      rw [BotWorld.platform_receive found]
      rcases ShopBot.purchase_or_movesDb allowsHandlers_keepsSales found with
        keeps | ⟨-, rfl⟩ | ⟨-, -, rfl⟩ | ⟨-, rfl⟩
      · exact keeps.ran ⟨world.platform, world.conversationOf update⟩
      · exact ShopBot.keepsSales_receivePhoneNumberContact.ran
          ⟨world.platform, world.conversationOf update⟩
      · exact ShopBot.keepsSales_receivePhoneNumberText.ran
          ⟨world.platform, world.conversationOf update⟩
      · exact ShopBot.keepsSales_handleChargeQuantityInput.ran
          ⟨world.platform, world.conversationOf update⟩

/-- The deletions of the catalog are right in every state that the bots of the
shops reach, as long as the catalog has two levels. -/
theorem deletionRight_of_reached {world : ShopsWorld}
    (initial : SoldHaveOrders world.platform.db) (events : List ShopUpdate)
    (two : TwoLevel (StepRuns.final ShopsWorld.step world events).platform.db)
    (node : CatalogNode)
    (there : node.IsThere
      (StepRuns.final ShopsWorld.step world events).platform.db) :
    node.DeletionRight
      (StepRuns.final ShopsWorld.step world events).platform.db := by
  have reached : SoldHaveOrders
      (StepRuns.final ShopsWorld.step world events).platform.db := by
    apply StepRuns.final_of_invariant
      (fun world : ShopsWorld => SoldHaveOrders world.platform.db) _ initial
    intro world received have_
    exact ShopWorld.keepsSales_handle.soldHaveOrders have_
  exact CatalogNode.deletionRight two reached there

/-- A shop that has sold one of its two charge codes, and whose customer waits
for a top-up of 5.00. -/
def soldCodeDb : Db :=
  .filled fun
    | .resellers => [shopReseller]
    | .customers => [shopCustomer]
    | .categories =>
        [{ resellerId := 1, operatorName := "ایرانسل", title := "ایرانسل"
           catalogType := .charge },
          { resellerId := 1, operatorName := "ایرانسل"
            parentCategoryId := some 1, title := "شارژ"
            catalogType := .charge }]
    | .packages => [{ shopPackage with categoryId := 2 }]
    | .orders =>
        [ChargeService.chargeOrder "AR-C-240131-115959AAA001" 1 1 1 800 "A0"]
    | .customerWalletTopups =>
        [{ resellerId := 1, customerId := 1, amount := 500, method := .card }]
    | .chargeCodes =>
        [{ resellerId := 1, packageId := 1, code := "A0", status := .sold
           soldToCustomerId := some 1, soldOrderId := some 1 },
          { resellerId := 1, packageId := 1, code := "A1" }]
    | _ => []

/-- The code that is sold belongs to the package of the order. -/
theorem soldHaveOrders_soldCodeDb : SoldHaveOrders soldCodeDb := by
  intro id code found _
  have ofPackage : code.packageId = 1 := by
    have member := KeyedTable.mem_of_row_ofRows found
    rcases List.mem_cons.mp member with rfl | other
    · rfl
    · rw [List.mem_singleton.mp other]
  rw [ofPackage]
  exact ⟨1, _, rfl, List.mem_singleton_self 1⟩

/-- The owner adds a package beside the one that has been sold. -/
def catalogWithPackage : ShopsWorld :=
  StepRuns.final ShopsWorld.step (newShopsWorld soldCodeDb)
    [ownerTaps "catalog:pick_category:charge:2", ownerTypes "7 GB",
      ownerTypes "65000", ownerTypes "60000"]

theorem deletionRight_of_reached_package :
    (CatalogNode.operator 1).DeletionRight catalogWithPackage.platform.db := by
  have operator : catalogWithPackage.platform.db.row .categories 1 =
      some { resellerId := 1
             operatorName := "ایرانسل"
             title := "ایرانسل"
             catalogType := .charge } := by
    decide +kernel
  exact deletionRight_of_reached soldHaveOrders_soldCodeDb _
    (by decide +kernel) _ ⟨_, operator, rfl⟩

end Baste
