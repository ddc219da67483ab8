import Baste.PanelFootprints

/-!
# Footprints of the customers

What the handlers for customers may touch: the rows of customers and their
orders and top-ups, what services write to, and the maps from labels to ids in
their own conversations.
-/

namespace Baste

namespace ShopBot

open BotScripts BotScripts.Footprint Database

namespace CustomerOrders

/-- A purchase remembers what the customer has seen and picked. -/
def footprint (tables : List TableName) : ShopFootprint where
  tables := tables
  states := [.browsingOperators, .browsingSubcategories, .browsingPackages,
    .packageSelected, .enteringPhoneNumber, .waitingReceipt]
  others data :=
    { data with
      operatorMap := []
      subcategoryMap := []
      packageMap := []
      selectedPackageId := none
      orderId := none }

theorem more {tables wider : List TableName} {handler : ShopHandler}
    (admits : (footprint tables).Admits handler) (subset : tables ⊆ wider) :
    (footprint wider).Admits handler :=
  admits.mono ⟨subset, id, List.Subset.refl _, fun _ _ => id⟩

/-- What is left to touch once a package has been picked. -/
def ordering (tables : List TableName) : ShopFootprint where
  tables := tables
  states := [.waitingReceipt]
  others data := { data with orderId := none }

/-- Ordering is a part of a purchase. -/
theorem ordered {tables wider : List TableName} {handler : ShopHandler}
    (admits : (ordering tables).Admits handler) (subset : tables ⊆ wider) :
    (footprint wider).Admits handler := by
  have ordersOnly : ∀ data, (footprint wider).others
      ((ordering tables).others data) = (footprint wider).others data :=
    fun _ => rfl
  have le : (ordering tables).Le (footprint wider) :=
    { tables := subset
      prices := id
      states := by simp [ordering, footprint]
      others := by
        intro first second same
        rw [← ordersOnly first, ← ordersOnly second, same] }
  exact admits.mono le

variable (shop : Shop) (tables : List TableName)

theorem admits_customerCancel : (ordering tables).Admits customerCancel := by
  apply admits_onMessage
  intro message
  apply within_getState.bind
  intro state
  exact within_ite within_clear (within_pure _)

theorem within_registerReferral {resellerId referredCustomerId : Nat}
    {referrerCustomerId : Int} (inside : .referralLinks ∈ tables) :
    (ordering tables).Within
      (registerReferral resellerId referrerCustomerId referredCustomerId) := by
  apply within_ite
  · apply (within_query _).bind
    intro id
    apply (within_executeWrite fun _ => .reserve).bind
    intro _
    apply (within_query _).bind
    intro isNew
    exact within_ite (within_executeWrite fun _ => .put inside)
      (within_pure _)
  · exact within_pure _

theorem admits_customerStart :
    (ordering [.customers, .referralLinks]).Admits (customerStart shop) := by
  apply admits_onMessage
  intro message
  apply within_clear.bind
  intro _
  apply (within_textOf _).bind
  intro text
  apply (within_getOrCreateCustomer List.mem_cons_self).bind
  intro customerId
  cases (afterFirstWord text.toList).bind referrerOf with
  | none => exact within_pure _
  | some referrerCustomerId =>
      exact within_registerReferral _ (by decide)

theorem within_showOperators :
    (footprint tables).Within (showOperators shop) := by
  apply (within_query _).bind
  intro joined
  apply within_ite
  · apply (within_query _).bind
    intro operators
    apply within_ite
    · apply (within_query _).bind
      intro operatorMap
      exact (within_setState (by simp [footprint])).bind fun _ =>
        within_updateData fun _ => rfl
    · exact within_pure _
  · exact within_pure _

theorem admits_showCatalogFromKeyboard :
    (footprint tables).Admits (showCatalogFromKeyboard shop) :=
  admits_onMessage fun _ => within_showOperators shop tables

theorem admits_handleOperatorPick :
    (footprint tables).Admits handleOperatorPick := by
  apply admits_onMessage
  intro message
  apply within_ite
  · exact within_clear
  · apply within_getData.bind
    intro data
    cases data.operatorMap.get message.text with
    | none => exact within_pure _
    | some operatorId =>
        apply (within_query _).bind
        intro subcategories
        apply within_ite
        · apply (within_query _).bind
          intro subcategoryMap
          exact (within_setState (by simp [footprint])).bind fun _ =>
            within_updateData fun _ => rfl
        · exact within_pure _

theorem admits_handleSubcategoryPick :
    (footprint tables).Admits (handleSubcategoryPick shop) := by
  apply admits_onMessage
  intro message
  apply within_ite
  · exact within_showOperators shop tables
  · apply within_getData.bind
    intro data
    cases data.subcategoryMap.get message.text with
    | none => exact within_pure _
    | some categoryId =>
        apply (within_query _).bind
        intro packages
        apply within_ite
        · apply (within_query _).bind
          intro packageMap
          exact within_nextQuestion (fun _ => rfl) (by simp [footprint])
        · exact within_pure _

theorem admits_handlePackagePick :
    (footprint tables).Admits handlePackagePick := by
  apply admits_onMessage
  intro message
  apply within_ite
  · exact within_setState (by simp [footprint])
  · apply within_getData.bind
    intro data
    cases data.packageMap.get message.text with
    | none => exact within_pure _
    | some packageId =>
        apply (within_query _).bind
        intro listed
        apply within_ite
        · exact (within_setState (by simp [footprint])).bind fun _ =>
            within_updateData fun _ => rfl
        · exact within_pure _

theorem admits_handlePackageDetailBack :
    (footprint tables).Admits handlePackageDetailBack :=
  admits_onMessage fun _ => within_setState (by simp [footprint])

theorem admits_handleBuyButton : (footprint tables).Admits handleBuyButton := by
  apply admits_onMessage
  intro message
  apply within_getData.bind
  intro data
  cases data.selectedPackageId with
  | none => exact within_clear
  | some _ => exact within_setState (by simp [footprint])

theorem admits_cancelPhoneNumberEntry :
    (footprint tables).Admits cancelPhoneNumberEntry :=
  admits_onMessage fun _ => within_setState (by simp [footprint])

theorem within_orderWithReceipt {packageId customerId : Nat}
    {phoneNumber : String} :
    (ordering [.customers, .orders]).Within
      (orderWithReceipt shop packageId customerId phoneNumber) := by
  have orders : (ServiceCall.createOrder shop.resellerId packageId customerId
      (some phoneNumber) (shop.stamp 1)).tables ⊆
        (ordering [.customers, .orders]).tables :=
    List.subset_cons_self _ _
  apply (within_attempt orders).bind
  intro outcome
  split
  · exact within_nextQuestion (fun _ => rfl) (by simp [ordering])
  · exact within_clear
  · exact within_throw _

theorem within_processPurchase {userId : Int} {phoneNumber : String} :
    (ordering [.customers, .orders]).Within
      (processPurchase shop userId phoneNumber) := by
  apply within_getData.bind
  intro data
  cases data.selectedPackageId with
  | none => exact within_clear
  | some packageId =>
      apply (within_getOrCreateCustomer List.mem_cons_self).bind
      intro customerId
      apply (within_attempt (List.Subset.refl _)).bind
      intro outcome
      split
      · exact within_clear
      · exact within_clear
      · exact within_orderWithReceipt shop
      · exact within_throw _

theorem admits_receivePhoneNumberContact :
    (ordering [.customers, .orders]).Admits
      (receivePhoneNumberContact shop) := by
  apply admits_onMessage
  intro message
  apply (within_required _ _).bind
  intro contact
  exact within_processPurchase shop

theorem admits_receivePhoneNumberText :
    (ordering [.customers, .orders]).Admits
      (receivePhoneNumberText shop) := by
  apply admits_onMessage
  intro message
  apply (within_textOf _).bind
  intro text
  cases normalizePhoneNumber text with
  | none => exact within_pure _
  | some phone => exact within_processPurchase shop

theorem admits_applyDiscountCode :
    (ordering [.orders, .discountCodes]).Admits (applyDiscountCode shop) := by
  apply admits_onMessage
  intro message
  apply (within_textOf _).bind
  intro text
  apply (within_required _ _).bind
  intro rest
  apply within_getData.bind
  intro data
  apply (within_query _).bind
  intro order
  apply (within_query _).bind
  intro found
  split
  · exact within_pure _
  · exact within_throw _
  · apply (within_required _ _).bind
    intro order
    apply (within_executeWrite fun _ => .modify (by decide)).bind
    intro _
    exact within_executeWrite fun _ => .modify (by decide)

theorem admits_receiveReceipt :
    (ordering [.resellers, .walletTransactions, .orders]).Admits
      (receiveReceipt shop) := by
  apply admits_onMessage
  intro message
  apply (within_required _ _).bind
  intro receiptFileId
  apply within_getData.bind
  intro data
  apply (within_required _ _).bind
  intro orderId
  apply (within_attempt (List.Subset.refl _)).bind
  intro outcome
  split
  · exact within_clear
  · exact within_clear
  · exact within_pure _
  · exact within_throw _

theorem admits_router :
    ∀ handler ∈ router shop,
      (footprint [.resellers, .customers, .orders, .walletTransactions,
      .discountCodes, .referralLinks]).Admits handler := by
  simp only [router, List.forall_mem_cons, List.not_mem_nil, false_imp_iff,
    implies_true, and_true]
  exact ⟨ordered (admits_customerCancel []) (by decide),
    ordered (admits_customerStart shop) (by decide),
    admits_onMessage fun _ => within_pure _,
    admits_showCatalogFromKeyboard shop _,
    admits_handleOperatorPick _,
    admits_handleSubcategoryPick shop _,
    admits_handlePackagePick _,
    admits_handlePackageDetailBack _,
    admits_handleBuyButton _,
    admits_cancelPhoneNumberEntry _,
    ordered (admits_receivePhoneNumberContact shop) (by decide),
    ordered (admits_receivePhoneNumberText shop) (by decide),
    ordered (admits_applyDiscountCode shop) (by decide),
    ordered (admits_receiveReceipt shop) (by decide)⟩

end CustomerOrders

namespace CustomerCharge

/-- A purchase of charge codes remembers what has been seen and picked. -/
def footprint (tables : List TableName) : ShopFootprint where
  tables := tables
  states := [.browsingChargeOperators, .browsingChargeSubcategories,
    .browsingChargeProducts, .productSelected, .enteringQuantity]
  others data :=
    { data with
      chargeOperatorMap := []
      chargeSubcategoryMap := []
      chargeProductMap := []
      selectedChargePackageId := none }

theorem more {tables wider : List TableName} {handler : ShopHandler}
    (admits : (footprint tables).Admits handler) (subset : tables ⊆ wider) :
    (footprint wider).Admits handler :=
  admits.mono ⟨subset, id, List.Subset.refl _, fun _ _ => id⟩

variable (shop : Shop) (tables : List TableName)

theorem admits_showChargeCatalogFromKeyboard :
    (footprint tables).Admits (showChargeCatalogFromKeyboard shop) := by
  apply admits_onMessage
  intro message
  apply (within_query _).bind
  intro joined
  apply within_ite
  · apply (within_query _).bind
    intro operators
    apply within_ite
    · apply (within_query _).bind
      intro operatorMap
      exact (within_setState (by simp [footprint])).bind fun _ =>
        within_updateData fun _ => rfl
    · exact within_pure _
  · exact within_pure _

theorem admits_handleChargeOperatorPick :
    (footprint tables).Admits handleChargeOperatorPick := by
  apply admits_onMessage
  intro message
  apply within_ite
  · exact within_clear
  · apply within_getData.bind
    intro data
    cases data.chargeOperatorMap.get message.text with
    | none => exact within_pure _
    | some operatorId =>
        apply (within_query _).bind
        intro subcategories
        apply within_ite
        · apply (within_query _).bind
          intro subcategoryMap
          exact (within_setState (by simp [footprint])).bind fun _ =>
            within_updateData fun _ => rfl
        · exact within_pure _

theorem admits_handleChargeSubcategoryPick :
    (footprint tables).Admits handleChargeSubcategoryPick := by
  apply admits_onMessage
  intro message
  apply within_ite
  · exact within_setState (by simp [footprint])
  · apply within_getData.bind
    intro data
    cases data.chargeSubcategoryMap.get message.text with
    | none => exact within_pure _
    | some categoryId =>
        apply (within_query _).bind
        intro products
        apply within_ite
        · apply (within_query _).bind
          intro productMap
          exact within_nextQuestion (fun _ => rfl) (by simp [footprint])
        · exact within_pure _

theorem admits_handleChargeProductPick :
    (footprint tables).Admits handleChargeProductPick := by
  apply admits_onMessage
  intro message
  apply within_ite
  · exact within_setState (by simp [footprint])
  · apply within_getData.bind
    intro data
    cases data.chargeProductMap.get message.text with
    | none => exact within_pure _
    | some packageId =>
        apply (within_query _).bind
        intro listed
        apply within_ite
        · exact (within_setState (by simp [footprint])).bind fun _ =>
            within_updateData fun _ => rfl
        · exact within_pure _

theorem admits_handleChargeDetailBack :
    (footprint tables).Admits handleChargeDetailBack :=
  admits_onMessage fun _ => within_setState (by simp [footprint])

theorem admits_handleBuyChargeButton :
    (footprint tables).Admits handleBuyChargeButton := by
  apply admits_onMessage
  intro message
  apply within_getData.bind
  intro data
  cases data.selectedChargePackageId with
  | none => exact within_clear
  | some _ => exact within_setState (by simp [footprint])

theorem admits_handleChargeQuantityBack :
    (footprint tables).Admits handleChargeQuantityBack := by
  apply admits_onMessage
  intro message
  apply (within_query _).bind
  intro listed
  apply within_getData.bind
  intro data
  exact within_ite (within_setState (by simp [footprint])) within_clear

theorem admits_handleChargeQuantityInput {wide : ShopFootprint}
    (inside : [.customers, .orders, .chargeCodes] ⊆ wide.tables) :
    wide.Admits (handleChargeQuantityInput shop) := by
  apply admits_onMessage
  intro message
  apply within_getData.bind
  intro data
  cases data.selectedChargePackageId with
  | none => exact within_clear
  | some packageId =>
      dsimp only
      cases readQuantity
          (ChargeService.strip (message.text.getD "").toList) with
      | none => exact within_pure _
      | some quantity =>
          apply (within_query _).bind
          intro package
          apply within_ite
          · exact within_clear
          · apply (within_getOrCreateCustomer (inside List.mem_cons_self)).bind
            intro customerId
            have purchases : (ServiceCall.purchaseChargeBulk shop.resellerId
                packageId customerId quantity shop.stamp).tables ⊆
                  wide.tables :=
              inside
            apply (within_attempt purchases).bind
            intro outcome
            split
            · exact within_clear
            · exact within_clear
            · exact within_pure _
            · exact within_pure _
            · exact within_throw _

theorem admits_router :
    ∀ handler ∈ router shop,
      (footprint [.customers, .orders, .chargeCodes]).Admits handler := by
  simp only [router, List.forall_mem_cons, List.not_mem_nil, false_imp_iff,
    implies_true, and_true]
  exact ⟨admits_showChargeCatalogFromKeyboard shop _,
    admits_handleChargeOperatorPick _,
    admits_handleChargeSubcategoryPick _,
    admits_handleChargeProductPick _,
    admits_handleChargeDetailBack _,
    admits_handleBuyChargeButton _,
    admits_handleChargeQuantityBack _,
    admits_handleChargeQuantityInput shop (List.Subset.refl _)⟩

end CustomerCharge

namespace CustomerWallet

/-- A top-up remembers the way of payment and the request. -/
def footprint (tables : List TableName) : ShopFootprint where
  tables := tables
  states := [.choosingMethod, .enteringAmount, .uploadingReceipt]
  others data := { data with topupMethod := none, topupId := none }

theorem more {tables wider : List TableName} {handler : ShopHandler}
    (admits : (footprint tables).Admits handler) (subset : tables ⊆ wider) :
    (footprint wider).Admits handler :=
  admits.mono ⟨subset, id, List.Subset.refl _, fun _ _ => id⟩

variable (shop : Shop) (tables : List TableName)

theorem within_openWallet {userId : Int} :
    (footprint [.customers]).Within (openWallet shop userId) := by
  apply within_clear.bind
  intro _
  exact (within_getOrCreateCustomer List.mem_cons_self).bind fun _ =>
    within_pure _

theorem admits_showWallet :
    (footprint [.customers]).Admits (showWallet shop) :=
  admits_onMessage fun _ => within_openWallet shop

theorem admits_startTopup : (footprint tables).Admits (startTopup shop) := by
  apply admits_onMessage
  intro message
  apply (within_query _).bind
  intro payable
  exact within_ite (within_setState (by simp [footprint])) (within_pure _)

theorem admits_chooseTopupMethod :
    (footprint [.customers]).Admits (chooseTopupMethod shop) := by
  apply admits_onMessage
  intro message
  apply within_ite
  · exact within_clear.bind fun _ => within_openWallet shop
  · cases message.text.bind readTopupMethod with
    | none => exact within_pure _
    | some method =>
        exact within_nextQuestion (fun _ => rfl) (by simp [footprint])

theorem admits_receiveTopupAmount :
    (footprint [.customers, .customerWalletTopups]).Admits
      (receiveTopupAmount shop) := by
  apply admits_onMessage
  intro message
  apply (within_textOf _).bind
  intro text
  cases readPositiveAmount text with
  | none => exact within_pure _
  | some amount =>
      apply within_getData.bind
      intro data
      apply (within_required _ _).bind
      intro method
      apply (within_getOrCreateCustomer List.mem_cons_self).bind
      intro customerId
      have requested : (footprint [.customers, .customerWalletTopups]).Within
          (createTopupRequest shop.resellerId customerId amount method) :=
        (within_storedAmount _).bind fun _ =>
          within_executeInsert (by simp [footprint])
      apply requested.bind
      intro topupId
      exact within_nextQuestion (fun _ => rfl) (by simp [footprint])

theorem admits_receiveTopupReceipt :
    (footprint [.customerWalletTopups]).Admits receiveTopupReceipt := by
  apply admits_onMessage
  intro message
  apply (within_required _ _).bind
  intro receiptFileId
  apply within_getData.bind
  intro data
  cases data.topupId with
  | none => exact within_clear
  | some topupId =>
      exact (within_executeWrite fun _ => .modify (by decide)).bind fun _ =>
        within_clear

theorem admits_router :
    ∀ handler ∈ router shop,
      (footprint [.customers, .customerWalletTopups]).Admits handler := by
  simp only [router, List.forall_mem_cons, List.not_mem_nil, false_imp_iff,
    implies_true, and_true]
  exact ⟨more (admits_showWallet shop) (by decide),
    admits_startTopup shop _,
    more (admits_chooseTopupMethod shop) (by decide),
    admits_receiveTopupAmount shop,
    more (admits_receiveTopupReceipt) (by decide)⟩

end CustomerWallet

end ShopBot

end Baste
