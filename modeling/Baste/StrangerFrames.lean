import Baste.BulkPurchases
import Baste.DiscountCommands
import Baste.ShopMoves

/-!
# Strangers in a shop

What the updates of a user who is neither the owner of the shop nor one of its
active operators leave alone.  Only the decisions on orders and the entry of
the panel ask who sends an update: the handlers of the panel that write to the
tables of a shop do it for everybody.  Every other handler keeps what the
reseller manages, besides what a purchase of charge codes, a discount code and
a receipt are there for.
-/

namespace Baste

open BotScripts Database Transaction

namespace ShopBot

/-- The tables with what a reseller manages. -/
def managedTables : List TableName :=
  [.resellers, .categories, .packages, .chargeCodes, .discountCodes,
    .referrals, .forcedJoinChannels, .resellerPaymentCards]

namespace ResellerChargeStock

/-- The handlers that write to the stock. -/
def writers (shop : Shop) : List ShopHandler :=
  [receiveChargeCodes shop, deleteSingleCode, clearAllCodes]

theorem writer_or_admits (shop : Shop) :
    ∀ handler ∈ router shop, handler ∈ writers shop ∨
      (footprint []).Admits handler := by
  simp only [router, List.forall_mem_cons, List.not_mem_nil, false_imp_iff,
    implies_true, and_true]
  exact ⟨.inr admits_onCallback_pure,
    .inr (admits_pickOperatorForAction _),
    .inr (admits_pickCategoryForAction _),
    .inr (admits_pickProductForAction _),
    .inr (admits_actOnProduct _),
    .inl (by simp [writers]),
    .inl (by simp [writers]),
    .inl (by simp [writers])⟩

end ResellerChargeStock

namespace ResellerSettings

/-- The handlers that write to the settings. -/
def writers (shop : Shop) : List ShopHandler :=
  [settingsMenu shop, toggleReferral shop, receiveReferralPercent shop,
    receiveChannelId shop, receiveDiscountUsageLimitAndSave shop,
    receiveSupportContact shop]

theorem writer_or_admits (shop : Shop) :
    ∀ handler ∈ router shop, handler ∈ writers shop ∨
      (footprint []).Admits handler := by
  simp only [router, List.forall_mem_cons, List.not_mem_nil, false_imp_iff,
    implies_true, and_true]
  exact ⟨.inl (by simp [writers]),
    .inl (by simp [writers]),
    .inr (admits_startReferralPercent _),
    .inl (by simp [writers]),
    .inr (admits_startAddChannel _),
    .inl (by simp [writers]),
    .inr (admits_startAddDiscount _),
    .inr (admits_receiveDiscountCode _),
    .inr (admits_receiveDiscountPercent _),
    .inl (by simp [writers]),
    .inr (admits_startSetSupportContact _),
    .inl (by simp [writers])⟩

end ResellerSettings

namespace ResellerPaymentMethods

/-- The handlers that write to the ways of payment. -/
def writers (shop : Shop) : List ShopHandler :=
  [toggleCardCb shop, removeCardCb shop, receiveBankNameAndSave shop,
    receiveZarinpalMerchant shop]

theorem writer_or_admits (shop : Shop) :
    ∀ handler ∈ router shop, handler ∈ writers shop ∨
      (footprint []).Admits handler := by
  simp only [router, List.forall_mem_cons, List.not_mem_nil, false_imp_iff,
    implies_true, and_true]
  exact ⟨.inr admits_onCallback_pure,
    .inr admits_onCallback_pure,
    .inl (by simp [writers]),
    .inl (by simp [writers]),
    .inr (admits_startAddCard _),
    .inr (admits_receiveCardNumber _),
    .inr (admits_receiveCardHolder _),
    .inl (by simp [writers]),
    .inr (admits_showZarinpal _),
    .inl (by simp [writers])⟩

end ResellerPaymentMethods

/-- The handlers of the panel that write to what a reseller manages without
asking who sends an update. -/
def managementHandlers (shop : Shop) : List ShopHandler :=
  ResellerCatalog.writers shop ++ ResellerChargeStock.writers shop ++
    ResellerSettings.writers shop ++ ResellerPaymentMethods.writers shop

/-- Both databases have the same rows of what a reseller manages. -/
def SameManaged (before after : Db) : Prop :=
  ∀ name ∈ managedTables, ∀ id, after.row name id = before.row name id

instance : Std.Refl SameManaged := ⟨fun _ _ _ _ => rfl⟩

/-- Whatever update comes, the handler keeps what a reseller manages. -/
def KeepsManaged (handler : ShopHandler) : Prop :=
  ∀ update, MovesDb SameManaged (handler.action update)

theorem keepsManaged_of_admits {footprint : ShopFootprint}
    {handler : ShopHandler} (admits : footprint.Admits handler)
    (outside : ∀ name ∈ managedTables, name ∉ footprint.tables) :
    KeepsManaged handler :=
  fun update visit name member id =>
    (admits update visit).rows.rows name (outside name member) id

/-- The handlers that only the staff gets through to. -/
def permittedHandlers (shop : Shop) : List ShopHandler :=
  [ResellerOrders.activate shop, ResellerOrders.confirmWalletTopup shop]

/-- The handlers with which customers change what the reseller manages. -/
def customerHandlers (shop : Shop) : List ShopHandler :=
  [CustomerOrders.applyDiscountCode shop, CustomerOrders.receiveReceipt shop,
    CustomerCharge.handleChargeQuantityInput shop]

/-- The part of a handler in what a reseller manages. -/
inductive Part (shop : Shop) (handler : ShopHandler) : Prop where
  | manages (member : handler ∈ managementHandlers shop)
  | permitted (member : handler ∈ permittedHandlers shop)
  | serves (member : handler ∈ customerHandlers shop)
  | keeps (keeps : KeepsManaged handler)

theorem Part.of_admits {shop : Shop} {footprint : ShopFootprint}
    {handler : ShopHandler} (admits : footprint.Admits handler)
    (outside : ∀ name ∈ managedTables, name ∉ footprint.tables) :
    Part shop handler :=
  .keeps (keepsManaged_of_admits admits outside)

/-- The handlers of a router besides those that manage the shop. -/
theorem Part.of_writers {shop : Shop} {footprint : ShopFootprint}
    {router writers : List ShopHandler}
    (admits : ∀ handler ∈ router,
      handler ∈ writers ∨ footprint.Admits handler)
    (managed : ∀ handler ∈ writers, handler ∈ managementHandlers shop)
    (outside : ∀ name ∈ managedTables, name ∉ footprint.tables) :
    ∀ handler ∈ router, Part shop handler := by
  intro handler member
  rcases admits handler member with writes | beside
  · exact .manages (managed handler writes)
  · exact .of_admits beside outside

/-- Every handler has its part. -/
theorem part_of_mem_handlers (shop : Shop) (isOwner : Int → Bool) :
    ∀ handler ∈ handlers shop isOwner, Part shop handler := by
  have rest : ∀ {footprint : ShopFootprint} {router : List ShopHandler},
      (∀ handler ∈ router, footprint.Admits handler) →
      (∀ name ∈ managedTables, name ∉ footprint.tables) →
      ∀ handler ∈ router, Part shop handler :=
    fun admits outside handler member =>
      .of_admits (admits handler member) outside
  apply forall_handlers
  case staff =>
    apply forall_staffHandlers
    case start =>
      exact rest (@ResellerStart.admits_router
        (ResellerChargeStock.footprint []) isOwner) (by decide)
    case orders =>
      simp only [ResellerOrders.router, List.forall_mem_cons, List.not_mem_nil,
        false_imp_iff, implies_true, and_true]
      exact ⟨.of_admits (@ResellerOrders.admits_onPermitted shop [] _ _
          fun _ => within_pure _) (by decide),
        .of_admits (ResellerOrders.admits_approveReceipt shop) (by decide),
        .of_admits (ResellerOrders.admits_rejectReceipt shop) (by decide),
        .permitted (by simp [permittedHandlers]),
        .permitted (by simp [permittedHandlers]),
        .of_admits (ResellerOrders.admits_rejectWalletTopup shop) (by decide),
        .of_admits (ResellerOrders.admits_openDispute shop []) (by decide),
        .of_admits ResellerOrders.admits_submitDisputeReason (by decide)⟩
    case catalog =>
      exact .of_writers (ResellerCatalog.writer_or_admits shop)
        (fun _ member => by simp [managementHandlers, member]) (by decide)
    case chargeStock =>
      exact .of_writers (ResellerChargeStock.writer_or_admits shop)
        (fun _ member => by simp [managementHandlers, member]) (by decide)
    case wallet => exact rest (ResellerWallet.admits_router shop) (by decide)
    case settings =>
      exact .of_writers (ResellerSettings.writer_or_admits shop)
        (fun _ member => by simp [managementHandlers, member]) (by decide)
    case paymentMethods =>
      exact .of_writers (ResellerPaymentMethods.writer_or_admits shop)
        (fun _ member => by simp [managementHandlers, member]) (by decide)
    case shows =>
      exact fun _ => .keeps fun _ => movesDb_onCallback fun _ => movesDb_pure
    case lists =>
      exact fun _ => .keeps fun _ => movesDb_onMessage fun _ => movesDb_pure
  case customerOrders =>
    simp only [CustomerOrders.router, List.forall_mem_cons, List.not_mem_nil,
      false_imp_iff, implies_true, and_true]
    exact ⟨.of_admits (CustomerOrders.admits_customerCancel []) (by decide),
      .of_admits (CustomerOrders.admits_customerStart shop) (by decide),
      .keeps fun _ => movesDb_onMessage fun _ => movesDb_pure,
      .of_admits (CustomerOrders.admits_showCatalogFromKeyboard shop [])
        (by decide),
      .of_admits (CustomerOrders.admits_handleOperatorPick []) (by decide),
      .of_admits (CustomerOrders.admits_handleSubcategoryPick shop []) (by decide),
      .of_admits (CustomerOrders.admits_handlePackagePick []) (by decide),
      .of_admits (CustomerOrders.admits_handlePackageDetailBack []) (by decide),
      .of_admits (CustomerOrders.admits_handleBuyButton []) (by decide),
      .of_admits (CustomerOrders.admits_cancelPhoneNumberEntry []) (by decide),
      .of_admits (CustomerOrders.admits_receivePhoneNumberContact shop) (by decide),
      .of_admits (CustomerOrders.admits_receivePhoneNumberText shop) (by decide),
      .serves (by simp [customerHandlers]),
      .serves (by simp [customerHandlers])⟩
  case customerCharge =>
    simp only [CustomerCharge.router, List.forall_mem_cons, List.not_mem_nil,
      false_imp_iff, implies_true, and_true]
    exact ⟨.of_admits (CustomerCharge.admits_showChargeCatalogFromKeyboard shop [])
        (by decide),
      .of_admits (CustomerCharge.admits_handleChargeOperatorPick []) (by decide),
      .of_admits (CustomerCharge.admits_handleChargeSubcategoryPick []) (by decide),
      .of_admits (CustomerCharge.admits_handleChargeProductPick []) (by decide),
      .of_admits (CustomerCharge.admits_handleChargeDetailBack []) (by decide),
      .of_admits (CustomerCharge.admits_handleBuyChargeButton []) (by decide),
      .of_admits (CustomerCharge.admits_handleChargeQuantityBack []) (by decide),
      .serves (by simp [customerHandlers])⟩
  case customerWallet =>
    exact rest (CustomerWallet.admits_router shop) (by decide)

end ShopBot

/-- What a reseller manages is as before, except that a purchase of charge
codes has sold available codes, a command has counted one use of a discount
code, and a receipt has charged the credit. -/
structure KeepsShop (shop : Shop) (state : Option ShopState) (update : Update)
    (before after : Db) : Prop where
  others : ∀ name ∈ ShopBot.managedTables, name ≠ .chargeCodes →
    name ≠ .discountCodes → name ≠ .resellers →
      ∀ id, after.row name id = before.row name id
  codes : ∀ id, after.row .chargeCodes id = before.row .chargeCodes id ∨
    (ShopBot.CustomerCharge.handleChargeQuantityInput shop).takes state
        update = true ∧
      ∃ code customerId orderId, before.row .chargeCodes id = some code ∧
        code.status = .available ∧
        after.row .chargeCodes id =
          some ((code.soldTo customerId).withSoldOrder orderId)
  discounts : ∀ id,
    after.row .discountCodes id = before.row .discountCodes id ∨
      (ShopBot.CustomerOrders.applyDiscountCode shop).takes state update =
          true ∧
        after.row .discountCodes id =
          (before.row .discountCodes id).map (·.counted)
  resellers : ∀ id, after.row .resellers id = before.row .resellers id ∨
    (ShopBot.CustomerOrders.receiveReceipt shop).takes state update = true ∧
      ∃ balance, after.row .resellers id =
        (before.row .resellers id).map (·.withCreditBalance balance)

namespace KeepsShop

variable {shop : Shop} {state : Option ShopState} {update : Update}
variable {before after : Db}

theorem of_sameManaged (same : ShopBot.SameManaged before after) :
    KeepsShop shop state update before after where
  others name member _ _ _ := same name member
  codes id := .inl (same .chargeCodes (by decide) id)
  discounts id := .inl (same .discountCodes (by decide) id)
  resellers id := .inl (same .resellers (by decide) id)

end KeepsShop

namespace ShopBot

section Customers

variable {shop : Shop} {update : Update} {visit : Visit ShopState ShopData}

/-- A command counts one use of one code at most. -/
def CountsUse (before after : Db) : Prop :=
  ∀ id, after.row .discountCodes id = before.row .discountCodes id ∨
    after.row .discountCodes id =
      (before.row .discountCodes id).map (·.counted)

theorem countsUse_runAlone (command : DiscountCommand) (db : Db) :
    CountsUse db (command.runAlone db) := by
  intro id
  rcases valid : command.validCode db with _ | ⟨codeId, row⟩
  · rw [DiscountCommand.runAlone_invalid valid]
    exact .inl rfl
  · rcases found : command.order db with _ | order
    · rw [DiscountCommand.runAlone_without_order found]
      exact .inl rfl
    · obtain ⟨orderId, about, isOrder⟩ := Option.bind_eq_some_iff.mp found
      rw [DiscountCommand.runAlone_valid about isOrder valid]
      by_cases isCode : id = codeId
      · right
        rw [isCode, row_modify_self, row_modify_of_ne (by decide)]
      · left
        rw [row_modify_ne isCode, row_modify_of_ne (by decide)]

theorem countsUse_applyDiscountCode :
    CountsUse visit.platform.db
      (((CustomerOrders.applyDiscountCode shop).action update).runOn
        visit).2.platform.db := by
  cases update with
  | callback _ => exact fun _ => .inl rfl
  | message message =>
      cases sent : DiscountCommand.ofMessage shop
          visit.conversation.data.orderId message with
      | some command =>
          rw [DiscountCommand.db_applyDiscountCode visit sent]
          exact countsUse_runAlone command _
      | none =>
          have silent := Option.map_eq_none_iff.mp sent
          intro id
          left
          cases isText : message.text with
          | none =>
              simp [CustomerOrders.applyDiscountCode, onMessage, textOf,
                required, isText]
          | some text =>
              rw [isText, Option.bind_some] at silent
              simp [CustomerOrders.applyDiscountCode, onMessage, textOf,
                required, isText, silent]

/-- Charge codes that are not sold stay as they are or are sold. -/
def SellsCodes (before after : Db) : Prop :=
  ∀ id, after.row .chargeCodes id = before.row .chargeCodes id ∨
    ∃ code customerId orderId, before.row .chargeCodes id = some code ∧
      code.status = .available ∧
      after.row .chargeCodes id =
        some ((code.soldTo customerId).withSoldOrder orderId)

instance : Std.Refl SellsCodes := ⟨fun _ _ => .inl rfl⟩

instance : IsTrans Db SellsCodes where
  trans first second third start rest id := by
    rcases start id with same | ⟨code, customerId, orderId, found, unsold, sold⟩
    · rw [← same]
      exact rest id
    · right
      rcases rest id with same | ⟨other, _, _, isOther, available, -⟩
      · exact ⟨code, customerId, orderId, found, unsold, same.trans sold⟩
      · cases sold.symm.trans isOther
        cases available

theorem sellsCodes_purchase (resellerId packageId customerId : Nat)
    (quantity : Int) (stamps : Nat → OrderStamp) (db : Db) :
    SellsCodes db ((ServiceCall.purchaseChargeBulk resellerId packageId
      customerId quantity stamps).runAlone db) := by
  have outcome := ChargeService.bulkOutcome_runAlone resellerId packageId
    customerId quantity stamps db
  rw [ServiceCall.runAlone]
  generalize (ServiceCall.purchaseChargeBulk resellerId packageId customerId
    quantity stamps).program.runAlone none db = run at outcome ⊢
  cases outcome with
  | refused error after unchanged =>
      exact fun id => .inl (unchanged .chargeCodes id)
  | sold price after sales effect =>
      intro id
      by_cases listed : id ∈ sales.map (·.codeId)
      · obtain ⟨sale, member, rfl⟩ := List.mem_map.mp listed
        have found := effect.codes sale member
        rw [effect.lowest] at listed
        obtain ⟨code, isCode, available⟩ :=
          mem_idsWhere.mp (List.mem_of_mem_take listed)
        cases found.symm.trans isCode
        have unsold : sale.code.status = .available := by
          simp only [ChargeService.isAvailable, Bool.and_eq_true,
            decide_eq_true_eq] at available
          exact available.2
        exact .inr ⟨sale.code, customerId, sale.orderId, found, unsold,
          effect.sold sale member⟩
      · exact .inl (effect.otherCodes id listed)

theorem sellsCodes_of_admits {Result : Type} {footprint : ShopFootprint}
    {script : ShopScript Result} (within : footprint.Within script)
    (outside : .chargeCodes ∉ footprint.tables) :
    MovesDb SellsCodes script :=
  fun visit id => .inl ((within visit).rows.rows _ outside id)

theorem sellsCodes_handleChargeQuantityInput :
    MovesDb SellsCodes
      ((CustomerCharge.handleChargeQuantityInput shop).action update) := by
  apply movesDb_onMessage
  intro message
  refine movesDb_bind keeps_getData fun data => ?_
  split
  · exact movesDb_clear
  · dsimp only
    split
    · exact movesDb_pure
    · refine movesDb_bind (keeps_query _) fun package => ?_
      split
      · exact movesDb_clear
      · have created : ∀ {resellerId : Nat} {userId : Int},
            MovesDb SellsCodes (getOrCreateCustomer resellerId userId) := by
          intro resellerId userId
          exact @sellsCodes_of_admits _
            (CustomerCharge.footprint [.customers]) _
            (within_getOrCreateCustomer List.mem_cons_self) (by decide)
        apply created.bind
        intro customerId
        have sells : ∀ packageId quantity, MovesDb SellsCodes
            (attempt (.purchaseChargeBulk shop.resellerId packageId customerId
              quantity shop.stamp) : ShopScript _) :=
          fun packageId quantity => movesDb_attempt
            (sellsCodes_purchase _ packageId customerId quantity _)
        apply (sells _ _).bind
        intro outcome
        split
        · exact movesDb_clear
        · exact movesDb_clear
        · exact movesDb_pure
        · exact movesDb_pure
        · exact movesDb_throw

/-- The rows of resellers stay as they are besides the balance of the
credit. -/
def ChargesCredit (before after : Db) : Prop :=
  ∀ id, after.row .resellers id = before.row .resellers id ∨
    ∃ balance, after.row .resellers id =
      (before.row .resellers id).map (·.withCreditBalance balance)

theorem chargesCredit_of_rows {before after : Db}
    (same : ∀ id, after.row .resellers id = before.row .resellers id) :
    ChargesCredit before after :=
  fun id => .inl (same id)

instance : Std.Refl ChargesCredit := ⟨fun _ => chargesCredit_of_rows fun _ => rfl⟩

theorem ChargesCredit.trans {first second third : Db}
    (start : ChargesCredit first second)
    (rest : ChargesCredit second third) : ChargesCredit first third := by
  intro id
  rcases start id with same | ⟨balance, charged⟩
  · rw [← same]
    exact rest id
  · right
    rcases rest id with same | ⟨later, again⟩
    · exact ⟨balance, same.trans charged⟩
    · refine ⟨later, ?_⟩
      rw [again, charged, Option.map_map]
      rfl

instance : IsTrans Db ChargesCredit :=
  ⟨fun _ _ _ => ChargesCredit.trans⟩

theorem chargesCredit_submitReceipt (config : Config) (orderId : Nat)
    (receiptFileId : String) (db : Db) :
    ChargesCredit db
      ((ServiceCall.submitReceipt config orderId receiptFileId).runAlone
        db) := by
  let call := ServiceCall.submitReceipt config orderId receiptFileId
  let invariant : Db → Prop := ChargesCredit db
  have preserves : System.Preserves dbView invariant
      fun _ : Unit => call.guarantee invariant :=
    { quiet := fun _ _ holds quiet => ChargesCredit.trans holds
        (chargesCredit_of_rows fun id => (quiet_row quiet _ id).symm)
      writes := fun _ _ _ _ writes => writes.elim
      commits := by
        intro _ before after holds commits
        apply ChargesCredit.trans holds
        cases commits with
        | testOrder | failed =>
            exact chargesCredit_of_rows fun _ => row_modify_of_ne (by decide)
        | charged =>
            intro id
            rw [row_modify_of_ne (by decide), WalletService.deducted,
              row_resellers_withLedgerEntry]
            split_ifs
            · exact .inr ⟨_, rfl⟩
            · exact .inl rfl }
  exact (call.safe_program invariant db).runAlone preserves (refl db)

theorem chargesCredit_receiveReceipt :
    MovesDb ChargesCredit
      ((CustomerOrders.receiveReceipt shop).action update) := by
  apply movesDb_onMessage
  intro message
  refine movesDb_bind (keeps_required _ _) fun receiptFileId => ?_
  refine movesDb_bind keeps_getData fun data => ?_
  refine movesDb_bind (keeps_required _ _) fun orderId => ?_
  have submits := movesDb_attempt
    (chargesCredit_submitReceipt shop.config orderId receiptFileId)
  apply submits.bind
  intro outcome
  split
  · exact movesDb_clear
  · exact movesDb_clear
  · exact movesDb_pure
  · exact movesDb_throw

end Customers

section Parts

variable {shop : Shop} {state : Option ShopState} {update : Update}
variable {visit : Visit ShopState ShopData} {handler : ShopHandler}

/-- The middleware stops a stranger. -/
theorem sameManaged_permitted
    (stranger : isStaff shop.resellerId update.sender visit.platform.db =
      false) (member : handler ∈ permittedHandlers shop) :
    SameManaged visit.platform.db
      ((handler.action update).runOn visit).2.platform.db := by
  have stopped : ∀ {test : Option ShopState → String → Bool}
      {action : Callback → ShopScript Unit},
      SameManaged visit.platform.db
        (((ResellerOrders.onPermitted shop test action).action update).runOn
          visit).2.platform.db := by
    intro test action
    cases update with
    | message _ => exact fun _ _ _ => rfl
    | callback callback =>
        have notStaff : isStaff shop.resellerId callback.sender
            visit.platform.db = false :=
          stranger
        simp [ResellerOrders.onPermitted, onCallback, Failing.runOn_bind,
          runOn_query, notStaff, SameManaged]
  rcases List.mem_pair.mp member with rfl | rfl
  · exact stopped
  · exact stopped

/-- A handler for customers writes to one of the tables only. -/
theorem others_of_admits {footprint : ShopFootprint} {table : TableName}
    (admits : footprint.Admits handler)
    (outside : ∀ name ∈ managedTables, name ≠ table →
      name ∉ footprint.tables) :
    ∀ name ∈ managedTables, name ≠ table → ∀ id,
      ((handler.action update).runOn visit).2.platform.db.row name id =
        visit.platform.db.row name id :=
  fun name member other =>
    (admits update visit).rows.rows name (outside name member other)

theorem keepsShop_serves (takes : handler.takes state update = true)
    (member : handler ∈ customerHandlers shop) :
    KeepsShop shop state update visit.platform.db
      ((handler.action update).runOn visit).2.platform.db := by
  simp only [customerHandlers, List.mem_cons, List.not_mem_nil,
    or_false] at member
  rcases member with rfl | rfl | rfl
  · have others := @others_of_admits update visit _ _ .discountCodes
      (CustomerOrders.admits_applyDiscountCode shop) (by decide)
    exact
      { others := fun name member _ other _ => others name member other
        codes := fun id => .inl (others _ (by decide) (by decide) id)
        discounts := fun id =>
          (countsUse_applyDiscountCode id).imp_right fun counted =>
            ⟨takes, counted⟩
        resellers := fun id => .inl (others _ (by decide) (by decide) id) }
  · have others := @others_of_admits update visit _ _ .resellers
      (CustomerOrders.admits_receiveReceipt shop) (by decide)
    exact
      { others := fun name member _ _ other => others name member other
        codes := fun id => .inl (others _ (by decide) (by decide) id)
        discounts := fun id => .inl (others _ (by decide) (by decide) id)
        resellers := fun id =>
          (chargesCredit_receiveReceipt.ran visit id).imp_right
            fun charged => ⟨takes, charged⟩ }
  · have admits := @CustomerCharge.admits_handleChargeQuantityInput shop
      (CustomerCharge.footprint [.customers, .orders, .chargeCodes])
      (List.Subset.refl _)
    have others := @others_of_admits update visit _ _ .chargeCodes admits
      (by decide)
    exact
      { others := fun name member other _ _ => others name member other
        codes := fun id =>
          (sellsCodes_handleChargeQuantityInput.ran visit id).imp_right
            fun sold => ⟨takes, sold⟩
        discounts := fun id => .inl (others _ (by decide) (by decide) id)
        resellers := fun id => .inl (others _ (by decide) (by decide) id) }

theorem keepsShop_of_part (part : Part shop handler)
    (takes : handler.takes state update = true)
    (unmanaged : ∀ handler ∈ managementHandlers shop,
      handler.takes state update = false)
    (stranger : isStaff shop.resellerId update.sender visit.platform.db =
      false) :
    KeepsShop shop state update visit.platform.db
      ((handler.action update).runOn visit).2.platform.db := by
  cases part with
  | manages member =>
      rw [unmanaged handler member] at takes
      cases takes
  | permitted member =>
      exact .of_sameManaged (sameManaged_permitted stranger member)
  | serves member => exact keepsShop_serves takes member
  | keeps keeps => exact .of_sameManaged ((keeps update).ran visit)

end Parts

end ShopBot

/-- In every state, the updates of a stranger that come to none of the handlers
that manage the shop keep what the reseller manages. -/
theorem ShopWorld.stranger_keepsShop (world : ShopWorld) (shop : Shop)
    (update : Update)
    (stranger : ShopBot.isStaff shop.resellerId update.sender
      world.platform.db = false)
    (unmanaged : ∀ handler ∈ ShopBot.managementHandlers shop,
      handler.takes (world.conversationOf update).state update = false) :
    KeepsShop shop (world.conversationOf update).state update
      world.platform.db (world.handle shop update).platform.db := by
  rw [handle]
  cases found : Handler.dispatch (ShopBot.handlers shop fun userId =>
      ShopBot.isResellerOwner shop.resellerId userId world.platform.db)
      (world.conversationOf update).state update with
  | none =>
      rw [BotWorld.receive_of_none found]
      exact .of_sameManaged (refl world.platform.db)
  | some script =>
      rw [BotWorld.platform_receive found]
      obtain ⟨handler, member, takes, rfl⟩ := Handler.exists_of_dispatch found
      exact @ShopBot.keepsShop_of_part shop _ update
        ⟨world.platform, world.conversationOf update⟩ handler
        (ShopBot.part_of_mem_handlers shop _ handler member) takes unmanaged
        stranger

section Examples

/-- A shop with one instant charge of 8.00 in a subfolder, and one code of
it. -/
def chargeDb : Db :=
  .filled fun
    | .resellers => [shopReseller]
    | .categories =>
        [{ resellerId := 1, operatorName := "ایرانسل", title := "ایرانسل"
           catalogType := .charge },
          { resellerId := 1, operatorName := "ایرانسل"
            parentCategoryId := some 1, title := "شارژ"
            catalogType := .charge }]
    | .customers => [shopCustomer]
    | .packages => [{ shopPackage with categoryId := 2 }]
    | .chargeCodes => [{ resellerId := 1, packageId := 1, code := "A1" }]
    | _ => []

/-- A customer has picked the charge and is asked how many. -/
def atQuantity : ShopWorld :=
  [ShopBot.customerChargeButtonText, "📁 ایرانسل", "📂 شارژ",
    "🔋 1 GB — 8 تومان", ShopBot.customerBuyChargeButtonText].foldl
      (fun world text =>
        world.handle ⟨shopSettings, shopSurroundings⟩ (customerTypes text))
      (newShopWorld chargeDb)

theorem stranger_keepsShop_purchase :
    KeepsShop ⟨shopSettings, shopSurroundings⟩ (some .enteringQuantity)
      (customerTypes "1") atQuantity.platform.db
      (atQuantity.handle ⟨shopSettings, shopSurroundings⟩
        (customerTypes "1")).platform.db := by
  have unmanaged : (ShopBot.managementHandlers
      ⟨shopSettings, shopSurroundings⟩).all (fun handler =>
        !handler.takes (some .enteringQuantity) (customerTypes "1")) =
      true := by
    decide +kernel
  have state : (atQuantity.conversationOf (customerTypes "1")).state =
      some .enteringQuantity := by
    decide +kernel
  have keeps := atQuantity.stranger_keepsShop
    ⟨shopSettings, shopSurroundings⟩ (customerTypes "1") (by decide +kernel)
  rw [state] at keeps
  exact keeps fun handler member => by
    simpa using List.all_eq_true.mp unmanaged handler member

/-- A customer sells a code by buying it, which is as it should be.  But a
stranger also switches a package off with callback data that no button of the
customers has. -/
theorem stranger_changes_shop :
    let shop : Shop := ⟨shopSettings, shopSurroundings⟩
    let bought := atQuantity.handle shop (customerTypes "1")
    let toggled := atQuantity.handle shop
      (.callback ⟨7, 7, "catalog:toggle_pkg:charge:1"⟩)
    ShopBot.isStaff 1 7 atQuantity.platform.db = false ∧
      (atQuantity.platform.db.row .chargeCodes 1).map (·.status) =
        some .available ∧
      (bought.platform.db.row .chargeCodes 1).map (·.status) = some .sold ∧
      (atQuantity.platform.db.row .packages 1).map (·.isActive) = some true ∧
      (toggled.platform.db.row .packages 1).map (·.isActive) =
        some false := by
  decide +kernel

end Examples

end Baste
