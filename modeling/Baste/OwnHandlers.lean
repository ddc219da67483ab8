import Baste.OwnScripts
import Baste.StaffIsolation

/-!
# What the handlers do for customers

Router by router, the handlers of a shop's bot serve whoever is not of its
staff: they leave the records of others alone, and they leave the conversation
about the sender's own order and top-up.
-/

namespace Baste

open BotScripts BotScripts.Footprint Database

/-- A new order that a service has returned is an order of the customer. -/
theorem customer_of_created {resellerId packageId customerId orderId : Nat}
    {phoneNumber : Option String} {stamp : OrderStamp} {before after : Db}
    {order : OrderRow}
    (creates : (ServiceCall.createOrder resellerId packageId customerId
      phoneNumber stamp).program.runAlone none before =
        (after, some (.ok (.created orderId order)))) :
    ∃ row, after.row .orders orderId = some row ∧
      row.customerId = customerId := by
  rw [ServiceCall.program, OrderService.createOrder,
    Transaction.Program.runAlone_select,
    OrderService.runAlone_refuseBlacklisted] at creates
  split_ifs at creates
  · cases creates
  rw [Transaction.Program.runAlone_select,
    Transaction.Program.runAlone_select] at creates
  cases offered : before.row .packages packageId with
  | none =>
      rw [offered] at creates
      cases creates
  | some package =>
      cases known : before.row .resellers resellerId with
      | none =>
          rw [offered, known] at creates
          cases creates
      | some reseller =>
          rw [offered, known] at creates
          dsimp only at creates
          let new : OrderRow :=
            { orderCode :=
                OrderService.generateOrderCode reseller.orderPrefix stamp
              resellerId := resellerId
              packageId := packageId
              customerId := customerId
              packagePrice := package.salePrice
              phoneNumber := phoneNumber }
          by_cases accepted : OrderService.orderInsertable before new = true
          · rw [OrderService.insertOrder, runAlone_insertRow accepted]
              at creates
            have inserted : ((before.reserve .orders).put .orders
                (before.nextId .orders) new).row .orders
                  (before.nextId .orders) = some new :=
              row_put_self (by simp)
            have found := OrderService.findOrder_inserted accepted
            rw [OrderService.fetchInserted,
              Transaction.Program.runAlone_select, found] at creates
            cases creates
            exact ⟨new, inserted, rfl⟩
          · rw [OrderService.insertOrder, runAlone_insertRow_refused accepted]
              at creates
            cases creates

namespace ShopBot

section Rules

variable {shop : Shop} {others : Nat → Prop}

/-- Whoever is not of the staff is served by the handler. -/
def Minds (shop : Shop) (handler : ShopHandler) : Prop :=
  ∀ (update : Update) (others : Nat → Prop) (start : Db)
    (visit : Visit ShopState ShopData),
    isStaff shop.resellerId update.sender visit.platform.db = false →
      handler.takes visit.conversation.state update = true →
        Served shop.resellerId update.sender others start visit →
          Served shop.resellerId update.sender others start
            ((handler.action update).runOn visit).2

theorem served_of_serves {userId : Int} {script : ShopScript Unit}
    {learnt : Unit → Db → Prop}
    (serves : Serves shop.resellerId userId others (fun _ => True) script
      learnt) {start : Db} {visit : Visit ShopState ShopData}
    (served : Served shop.resellerId userId others start visit) :
    Served shop.resellerId userId others start (script.runOn visit).2 := by
  have ends := serves start visit ⟨served, trivial⟩
  revert ends
  rcases script.runOn visit with ⟨error | value, reached⟩
  · exact fun ends => ends
  · exact fun ends => ends.1

theorem minds_onMessage {test : Option ShopState → Message → Bool}
    {action : Message → ShopScript Unit}
    (serves : ∀ message others, Serves shop.resellerId message.sender others
      (fun _ => True) (action message) fun _ _ => True) :
    Minds shop (onMessage test action) := by
  intro update others start visit _ takes served
  cases update with
  | message message => exact served_of_serves (serves message others) served
  | callback _ => cases takes

theorem minds_onCallback {test : Option ShopState → String → Bool}
    {action : Callback → ShopScript Unit}
    (serves : ∀ callback others, Serves shop.resellerId callback.sender others
      (fun _ => True) (action callback) fun _ _ => True) :
    Minds shop (onCallback test action) := by
  intro update others start visit _ takes served
  cases update with
  | message _ => cases takes
  | callback callback => exact served_of_serves (serves callback others) served

/-- The footprint spares the records, and the order and the top-up of the
conversation. -/
structure IsApart (footprint : ShopFootprint) : Prop where
  tables : ∀ name ∈ Spares.recordTables, name ∉ footprint.tables
  states : .enteringReason ∉ footprint.states
  data : ∀ first second, footprint.others first = footprint.others second →
    first.orderId = second.orderId ∧ first.topupId = second.topupId

theorem minds_of_admits {footprint : ShopFootprint} {handler : ShopHandler}
    (admits : footprint.Admits handler) (apart : IsApart footprint) :
    Minds shop handler := by
  intro update others start visit _ _ served
  exact served_of_serves (.of_within (admits update) apart.tables apart.states
    apart.data) served

/-- Everything but the two ids is kept in the footprint's own data. -/
theorem isApart_of_kept {footprint : ShopFootprint}
    (tables : ∀ name ∈ Spares.recordTables, name ∉ footprint.tables)
    (states : .enteringReason ∉ footprint.states)
    (order : ∀ data, (footprint.others data).orderId = data.orderId)
    (topup : ∀ data, (footprint.others data).topupId = data.topupId) :
    IsApart footprint where
  tables := tables
  states := states
  data first second same := by
    rw [← order first, ← order second, ← topup first, ← topup second, same]
    exact ⟨rfl, rfl⟩

end Rules

namespace ResellerOrders

variable {shop : Shop}

/-- The middleware stops everybody else. -/
theorem minds_onPermitted {test : Option ShopState → String → Bool}
    {action : Callback → ShopScript Unit} :
    Minds shop (onPermitted shop test action) := by
  intro update others start visit stranger takes served
  cases update with
  | message _ => cases takes
  | callback callback =>
      have stopped : isStaff shop.resellerId callback.sender
          visit.platform.db = false := stranger
      unfold onPermitted onCallback
      dsimp only
      rw [Failing.runOn_bind, runOn_query]
      dsimp only
      rw [stopped]
      exact served

/-- Nobody else is asked for a reason. -/
theorem minds_submitDisputeReason : Minds shop submitDisputeReason := by
  intro update others start visit _ takes served
  cases update with
  | message message =>
      exact absurd (of_decide_eq_true takes) served.own.undisputed
  | callback _ => cases takes

theorem minds_router : ∀ handler ∈ router shop, Minds shop handler := by
  simp only [router, List.forall_mem_cons, List.not_mem_nil, false_imp_iff,
    implies_true, and_true]
  exact ⟨minds_onPermitted, minds_onPermitted, minds_onPermitted,
    minds_onPermitted, minds_onPermitted, minds_onPermitted,
    minds_onPermitted, minds_submitDisputeReason⟩

end ResellerOrders

namespace ResellerWallet

variable {shop : Shop} {resellerId : Nat} {userId : Int} {others : Nat → Prop}

theorem serves_requestTopup {known : Db → Prop} {amount : Numerals.Decimal}
    {method : PaymentMethod} {reference : Option String} :
    Serves resellerId userId others known
      (requestTopup shop.resellerId amount method reference)
      fun _ _ => True := by
  have refused : ∀ error : HandlerError,
      Serves resellerId userId others known
        (throw error : ShopScript Unit) fun _ _ => True :=
    fun error => .throw error
  cases amount with
  | finite amount =>
      refine Serves.ite ?_ (refused _)
      have requests := @Serves.call resellerId userId others (fun _ => True)
        (.requestTopup shop.resellerId amount method reference)
        (fun _ _ => trivial) fun _ _ _ _ => trivial
      have asks := requests.bind fun _ => Serves.pure ()
      exact asks.weaken (fun _ _ => trivial) fun _ _ holds => holds
  | infinity | nan => exact refused _

theorem minds_receiveTopupAmount : Minds shop (receiveTopupAmount shop) := by
  apply minds_onMessage
  intro message others
  apply Serves.after_look (looks_required _ _)
  intro text
  cases typedAmount text with
  | none => exact .pure ()
  | some amount => exact serves_requestTopup.bind fun _ => .clear

theorem minds_receiveCryptoAmountAndSave :
    Minds shop (receiveCryptoAmountAndSave shop) := by
  apply minds_onMessage
  intro message others
  apply Serves.after_look (looks_required _ _)
  intro text
  cases typedAmount text with
  | none => exact .pure ()
  | some amount =>
      apply Serves.after_look looks_getData
      intro data
      apply Serves.after_look (looks_required _ _)
      intro coinName
      apply Serves.after_look (looks_required _ _)
      intro txHash
      exact serves_requestTopup.bind fun _ => .clear

theorem minds_router : ∀ handler ∈ router shop, Minds shop handler := by
  have apart : IsApart (footprint []) :=
    isApart_of_kept (by decide) (by decide) (fun _ => rfl) fun _ => rfl
  have rest : ∀ {handler : ShopHandler}, (footprint []).Admits handler →
      Minds shop handler := fun admits => minds_of_admits admits apart
  simp only [router, List.forall_mem_cons, List.not_mem_nil, false_imp_iff,
    implies_true, and_true]
  exact ⟨rest admits_onCallback_pure, rest (admits_startTopupCard _),
    minds_receiveTopupAmount, rest (admits_startTopupZarinpal _),
    rest (admits_receiveZarinpalAmount _), rest (admits_showCryptoOptions _),
    rest (admits_receiveCryptoCoin _), rest (admits_receiveCryptoTxHash _),
    minds_receiveCryptoAmountAndSave⟩

end ResellerWallet

namespace CustomerOrders

variable {shop : Shop} {userId : Int} {others : Nat → Prop}
variable {known : Db → Prop}

theorem serves_registerReferral {resellerId referredCustomerId : Nat}
    {referrerCustomerId : Int} :
    Serves shop.resellerId userId others known
      (registerReferral resellerId referrerCustomerId referredCustomerId)
      fun _ _ => True := by
  refine Serves.ite ?_ (Serves.pure ()).forget
  apply Serves.query_bind
  intro id
  have reserves : Serves shop.resellerId userId others
      (fun db => known db ∧ db.nextId .referralLinks = id)
      (executeWrite (·.reserve .referralLinks) : ShopScript Unit)
      fun _ db => db.row .referralLinks id = none := by
    apply Serves.executeWrite
    · exact fun _ _ => .reserve
    · exact fun _ _ => .reserve
    · rintro db ⟨-, rfl⟩
      rw [row_reserve, row_nextId]
  apply reserves.bind
  intro _
  apply Serves.after_look (looks_query _)
  intro isNew
  refine Serves.ite ?_ (Serves.pure ()).forget
  exact .executeWrite (fun _ absent => .put absent)
    (fun _ absent => .put absent) fun _ _ => trivial

/-- Going on in the catalog. -/
theorem serves_browse {state : ShopState} {change : ShopData → ShopData}
    (undisputed : state ≠ .enteringReason)
    (order : ∀ data, (change data).orderId = data.orderId)
    (topup : ∀ data, (change data).topupId = data.topupId) :
    Serves shop.resellerId userId others known
      (do setState state; updateData change : ShopScript Unit)
      fun _ => known := by
  apply (Serves.setState undisputed).bind
  intro _
  apply Serves.updateData
  · exact fun _ _ data id found => .inl ((order data).symm.trans found)
  · exact fun _ _ data id found => .inl ((topup data).symm.trans found)

theorem serves_showOperators :
    Serves shop.resellerId userId others known (showOperators shop)
      fun _ => known := by
  apply Serves.after_look (looks_query _)
  intro joined
  refine Serves.ite ?_ (.pure ())
  apply Serves.after_look (looks_query _)
  intro operators
  refine Serves.ite ?_ (.pure ())
  apply Serves.after_look (looks_query _)
  intro operatorMap
  exact serves_browse (by decide) (fun _ => rfl) fun _ => rfl

theorem minds_customerStart : Minds shop (customerStart shop) := by
  apply minds_onMessage
  intro message others
  apply Serves.clear.bind
  intro _
  apply Serves.after_look (looks_required _ _)
  intro text
  apply Serves.getOrCreateCustomer.bind
  intro customerId
  split
  · exact (Serves.pure ()).forget
  · exact serves_registerReferral

theorem minds_handleOperatorPick : Minds shop handleOperatorPick := by
  apply minds_onMessage
  intro message others
  refine Serves.ite .clear ?_
  apply Serves.after_look looks_getData
  intro data
  split
  · exact .pure ()
  · apply Serves.after_look (looks_query _)
    intro subcategories
    refine Serves.ite ?_ (.pure ())
    apply Serves.after_look (looks_query _)
    intro subcategoryMap
    exact serves_browse (by decide) (fun _ => rfl) fun _ => rfl

theorem minds_handleSubcategoryPick :
    Minds shop (handleSubcategoryPick shop) := by
  apply minds_onMessage
  intro message others
  refine Serves.ite serves_showOperators ?_
  apply Serves.after_look looks_getData
  intro data
  split
  · exact .pure ()
  · apply Serves.after_look (looks_query _)
    intro packages
    refine Serves.ite ?_ (.pure ())
    apply Serves.after_look (looks_query _)
    intro packageMap
    have stores : Serves shop.resellerId message.sender others (fun _ => True)
        (updateData ({ · with packageMap := packageMap }) : ShopScript Unit)
          fun _ _ => True :=
      .updateData (fun _ _ _ _ found => .inl found) fun _ _ _ _ found =>
        .inl found
    exact stores.bind fun _ => .setState (by decide)

theorem minds_handlePackagePick : Minds shop handlePackagePick := by
  apply minds_onMessage
  intro message others
  refine Serves.ite (.setState (by decide)) ?_
  apply Serves.after_look looks_getData
  intro data
  split
  · exact .pure ()
  · apply Serves.after_look (looks_query _)
    intro listed
    refine Serves.ite ?_ (.pure ())
    exact serves_browse (by decide) (fun _ => rfl) fun _ => rfl

theorem minds_handleBuyButton : Minds shop handleBuyButton := by
  apply minds_onMessage
  intro message others
  apply Serves.after_look looks_getData
  intro data
  split
  · exact .clear
  · exact .setState (by decide)

theorem serves_orderWithReceipt {packageId customerId : Nat}
    {phoneNumber : String} :
    Serves shop.resellerId userId others
      (fun db => IsCustomer shop.resellerId userId db customerId)
      (orderWithReceipt shop packageId customerId phoneNumber)
      fun _ _ => True := by
  have orders := @Serves.attempt shop.resellerId userId others
    (fun db => IsCustomer shop.resellerId userId db customerId)
    (.createOrder shop.resellerId packageId customerId (some phoneNumber)
      (shop.stamp 1))
    (fun outcome db => ∀ reply id, outcome = .ok reply →
      createdOrder reply = some id → IsOwnOrder shop.resellerId userId db id)
    (fun _ _ => trivial) ?_
  · apply orders.bind
    intro outcome
    split
    · next reply =>
      refine Serves.bind (Serves.updateData ?_ ?_) fun _ =>
        (Serves.setState (by decide)).forget
      · exact fun db created _ id found => .inr (created reply id rfl found)
      · exact fun _ _ _ _ found => .inl found
    · exact Serves.clear.forget
    · exact .throw _
  · rintro before after outcome customer ran keeps reply id rfl created
    cases reply with
    | created orderId order =>
        cases created
        obtain ⟨row, found, same⟩ := customer_of_created ran
        exact ⟨row, found, by rw [same]; exact customer.retained keeps⟩
    | _ => cases created

theorem serves_processPurchase {phoneNumber : String} :
    Serves shop.resellerId userId others known
      (processPurchase shop userId phoneNumber) fun _ _ => True := by
  apply Serves.after_look looks_getData
  intro data
  split
  · exact Serves.clear.forget
  · next packageId _ =>
    apply Serves.getOrCreateCustomer.bind
    intro customerId
    have pays := @Serves.attempt_about shop.resellerId userId others
      (fun db => IsCustomer shop.resellerId userId db customerId)
      (.createOrderPaidByWallet shop.resellerId packageId customerId
        (some phoneNumber) (shop.stamp 0))
      (fun _ customer => customer) fun _ _ customer keeps =>
        customer.retained keeps
    apply pays.bind
    intro outcome
    split
    · exact Serves.clear.forget
    · exact Serves.clear.forget
    · exact serves_orderWithReceipt
    · exact .throw _

theorem minds_receivePhoneNumberContact :
    Minds shop (receivePhoneNumberContact shop) := by
  apply minds_onMessage
  intro message others
  apply Serves.after_look (looks_required _ _)
  intro contact
  exact serves_processPurchase

theorem minds_receivePhoneNumberText :
    Minds shop (receivePhoneNumberText shop) := by
  apply minds_onMessage
  intro message others
  apply Serves.after_look (looks_required _ _)
  intro text
  split
  · exact .pure ()
  · exact serves_processPurchase

theorem minds_applyDiscountCode : Minds shop (applyDiscountCode shop) := by
  apply minds_onMessage
  intro message others
  apply Serves.after_look (looks_required _ _)
  intro text
  apply Serves.after_look (looks_required _ _)
  intro rest
  apply Serves.getData_bind
  intro data
  apply Serves.after_look (looks_query _)
  intro order
  apply Serves.after_look (looks_query _)
  intro found
  split
  · exact (Serves.pure ()).forget
  · exact .throw _
  · next orderId isOrder =>
    apply Serves.after_look (looks_required _ _)
    intro order
    have discounts : ∀ price : Cents, Serves shop.resellerId message.sender
        others
        (fun db => IsOwnOrder shop.resellerId message.sender db orderId)
        (executeWrite (·.modify .orders orderId fun order =>
          { order with packagePrice := price }) : ShopScript Unit)
        fun _ _ => True := by
      intro price
      apply Serves.executeWrite
      · exact fun _ own => .modify_order own
      · exact fun _ _ => .modify fun _ _ _ => ⟨rfl, fun _ settled => settled⟩
      · exact fun _ _ => trivial
    refine ((discounts _).weaken (fun _ holds => holds.2.1 orderId isOrder)
      fun _ _ holds => holds).bind fun _ => ?_
    apply Serves.executeWrite
    · exact fun _ _ => @Spares.of_sameOutside _ _ _ _ _ [.discountCodes]
        (.modify List.mem_cons_self) (by decide)
    · exact fun _ _ => @keepsOwners_of_sameOutside _ _ [.discountCodes]
        (.modify List.mem_cons_self) (by decide)
    · exact fun _ _ => trivial

theorem minds_receiveReceipt : Minds shop (receiveReceipt shop) := by
  apply minds_onMessage
  intro message others
  apply Serves.after_look (looks_required _ _)
  intro receiptFileId
  apply Serves.getData_bind
  intro data
  apply Serves.required_bind
  intro orderId isOrder
  have submits := @Serves.attempt_about shop.resellerId message.sender others
    (fun db => IsOwnOrder shop.resellerId message.sender db orderId)
    (.submitReceipt shop.config orderId receiptFileId)
    (fun _ own => own) fun _ _ own keeps => own.retained keeps
  refine (submits.weaken (fun _ holds => holds.2.1 orderId isOrder)
    fun _ _ own => own).bind fun outcome => ?_
  split
  · exact Serves.clear.forget
  · exact Serves.clear.forget
  · exact (Serves.pure ()).forget
  · exact .throw _

theorem minds_router : ∀ handler ∈ router shop, Minds shop handler := by
  have stays : ∀ {test : Option ShopState → Message → Bool}
      {state : ShopState}, state ≠ .enteringReason →
      Minds shop (onMessage test fun _ => (setState state : ShopScript Unit)) :=
    fun undisputed => minds_onMessage fun _ _ => .setState undisputed
  have cancel : Minds shop customerCancel := by
    apply minds_onMessage
    intro message others
    apply Serves.after_look looks_getState
    intro state
    exact .ite .clear (.pure ())
  simp only [router, List.forall_mem_cons, List.not_mem_nil, false_imp_iff,
    implies_true, and_true]
  exact ⟨cancel, minds_customerStart,
    minds_onMessage fun _ _ => .pure (),
    minds_onMessage fun _ _ => serves_showOperators,
    minds_handleOperatorPick, minds_handleSubcategoryPick,
    minds_handlePackagePick, stays (by decide), minds_handleBuyButton,
    stays (by decide), minds_receivePhoneNumberContact,
    minds_receivePhoneNumberText, minds_applyDiscountCode,
    minds_receiveReceipt⟩

end CustomerOrders

namespace CustomerCharge

variable {shop : Shop}

theorem minds_handleChargeQuantityInput :
    Minds shop (handleChargeQuantityInput shop) := by
  apply minds_onMessage
  intro message others
  apply Serves.after_look looks_getData
  intro data
  split
  · exact .clear
  · next packageId _ =>
    dsimp only
    split
    · exact .pure ()
    · next quantity _ =>
      apply Serves.after_look (looks_query _)
      intro package
      refine Serves.ite .clear ?_
      apply Serves.getOrCreateCustomer.bind
      intro customerId
      have buys := @Serves.attempt_about shop.resellerId message.sender others
        (fun db => IsCustomer shop.resellerId message.sender db customerId)
        (.purchaseChargeBulk shop.resellerId packageId customerId quantity
          shop.stamp)
        (fun _ customer => customer) fun _ _ customer keeps =>
          customer.retained keeps
      apply buys.bind
      intro outcome
      split
      · exact Serves.clear.forget
      · exact Serves.clear.forget
      · exact (Serves.pure ()).forget
      · exact (Serves.pure ()).forget
      · exact .throw _

theorem minds_router : ∀ handler ∈ router shop, Minds shop handler := by
  have apart : IsApart (footprint []) :=
    isApart_of_kept (by decide) (by decide) (fun _ => rfl) fun _ => rfl
  have rest : ∀ {handler : ShopHandler}, (footprint []).Admits handler →
      Minds shop handler := fun admits => minds_of_admits admits apart
  simp only [router, List.forall_mem_cons, List.not_mem_nil, false_imp_iff,
    implies_true, and_true]
  exact ⟨rest (admits_showChargeCatalogFromKeyboard shop _),
    rest (admits_handleChargeOperatorPick _),
    rest (admits_handleChargeSubcategoryPick _),
    rest (admits_handleChargeProductPick _),
    rest (admits_handleChargeDetailBack _),
    rest (admits_handleBuyChargeButton _),
    rest (admits_handleChargeQuantityBack _),
    minds_handleChargeQuantityInput⟩

end CustomerCharge

namespace CustomerWallet

variable {shop : Shop} {userId : Int} {others : Nat → Prop}

theorem serves_openWallet {known : Db → Prop} :
    Serves shop.resellerId userId others known (openWallet shop userId)
      fun _ _ => True := by
  apply Serves.clear.bind
  intro _
  exact Serves.getOrCreateCustomer.bind fun _ => (Serves.pure ()).forget

theorem minds_chooseTopupMethod : Minds shop (chooseTopupMethod shop) := by
  apply minds_onMessage
  intro message others
  refine Serves.ite (Serves.clear.bind fun _ => serves_openWallet) ?_
  split
  · exact .pure ()
  · next method _ =>
    have stores : Serves shop.resellerId message.sender others (fun _ => True)
        (updateData ({ · with topupMethod := some method }) :
          ShopScript Unit) fun _ _ => True :=
      .updateData (fun _ _ _ _ found => .inl found) fun _ _ _ _ found =>
        .inl found
    exact stores.bind fun _ => .setState (by decide)

theorem serves_createTopupRequest {customerId : Nat}
    {amount : Numerals.Decimal} {method : PaymentMethod} :
    Serves shop.resellerId userId others
      (fun db => IsCustomer shop.resellerId userId db customerId)
      (createTopupRequest shop.resellerId customerId amount method)
      fun topupId db => IsOwnTopup shop.resellerId userId db topupId := by
  apply Serves.after_look (looks_storedAmount _)
  intro cents
  apply Serves.executeInsert
  intro db customer
  exact ⟨_, row_put_self (by simp), customer.retained .insert⟩

theorem minds_receiveTopupAmount : Minds shop (receiveTopupAmount shop) := by
  apply minds_onMessage
  intro message others
  apply Serves.after_look (looks_required _ _)
  intro text
  split
  · exact .pure ()
  · apply Serves.after_look looks_getData
    intro data
    apply Serves.after_look (looks_required _ _)
    intro method
    apply Serves.getOrCreateCustomer.bind
    intro customerId
    apply serves_createTopupRequest.bind
    intro topupId
    refine Serves.bind (Serves.updateData ?_ ?_) fun _ =>
      (Serves.setState (by decide)).forget
    · exact fun _ _ _ _ found => .inl found
    · rintro db own _ id found
      cases found
      exact .inr own

theorem minds_receiveTopupReceipt : Minds shop receiveTopupReceipt := by
  apply minds_onMessage
  intro message others
  apply Serves.after_look (looks_required _ _)
  intro receiptFileId
  apply Serves.getData_bind
  intro data
  split
  · exact Serves.clear.forget
  · next topupId isTopup =>
    refine Serves.bind (Serves.executeWrite ?_ ?_ fun _ _ => trivial) fun _ =>
      Serves.clear
    · exact fun _ known => .modify_topup (known.2.2 topupId isTopup)
    · exact fun _ _ => .modify fun _ _ _ => ⟨rfl, fun _ settled => settled⟩

theorem minds_router : ∀ handler ∈ router shop, Minds shop handler := by
  have start : Minds shop (startTopup shop) := by
    apply minds_onMessage
    intro message others
    apply Serves.after_look (looks_query _)
    intro payable
    exact .ite (.setState (by decide)) (.pure ())
  simp only [router, List.forall_mem_cons, List.not_mem_nil, false_imp_iff,
    implies_true, and_true]
  exact ⟨minds_onMessage fun _ _ => serves_openWallet, start,
    minds_chooseTopupMethod, minds_receiveTopupAmount,
    minds_receiveTopupReceipt⟩

end CustomerWallet

/-- Every handler serves whoever is not of the staff. -/
theorem minds_handlers (shop : Shop) (isOwner : Int → Bool) :
    ∀ handler ∈ handlers shop isOwner, Minds shop handler := by
  have router : ∀ {footprint : ShopFootprint} {router : List ShopHandler},
      (∀ handler ∈ router, footprint.Admits handler) → IsApart footprint →
      ∀ handler ∈ router, Minds shop handler :=
    fun admits apart handler member =>
      minds_of_admits (admits handler member) apart
  apply forall_handlers
  case staff =>
    apply forall_staffHandlers
    case start =>
      exact router (@ResellerStart.admits_router
        (ResellerChargeStock.footprint []) isOwner)
        (isApart_of_kept (by decide) (by decide) (fun _ => rfl) fun _ => rfl)
    case orders => exact ResellerOrders.minds_router
    case catalog =>
      exact router (ResellerCatalog.admits_router shop)
        (isApart_of_kept (by decide) (by decide) (fun _ => rfl) fun _ => rfl)
    case chargeStock =>
      exact router (ResellerChargeStock.admits_router shop)
        (isApart_of_kept (by decide) (by decide) (fun _ => rfl) fun _ => rfl)
    case wallet => exact ResellerWallet.minds_router
    case settings =>
      exact router (ResellerSettings.admits_router shop)
        (isApart_of_kept (by decide) (by decide) (fun _ => rfl) fun _ => rfl)
    case paymentMethods =>
      exact router (ResellerPaymentMethods.admits_router shop)
        (isApart_of_kept (by decide) (by decide) (fun _ => rfl) fun _ => rfl)
    case shows => exact fun _ => minds_onCallback fun _ _ => .pure ()
    case lists => exact fun _ => minds_onMessage fun _ _ => .pure ()
  case customerOrders => exact CustomerOrders.minds_router
  case customerCharge => exact CustomerCharge.minds_router
  case customerWallet => exact CustomerWallet.minds_router

end ShopBot

end Baste
