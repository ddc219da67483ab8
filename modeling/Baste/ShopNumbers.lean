import Baste.NumericQuestions
import Baste.ShopFootprints

/-!
# The numbers that resellers type

A reseller is asked for prices, for the percentage of referrals, and for the
percentage and the number of uses of a discount code.  None of the handlers
checks a range.  The numbers stay in their ranges as long as the answers are in
range.
-/

namespace Baste

namespace ShopBot

open BotScripts BotScripts.Footprint Database NumericQuestion

/-- The numbers that the conversation remembers. -/
def NumbersOf (data : ShopData) : Prop :=
  (∀ price, data.salePrice = some price → IsAmount price) ∧
  ∀ percent, data.percent = some percent → IsPercentage percent

theorem numbersOf_empty : NumbersOf ∅ :=
  ⟨nofun, nofun⟩

section Questions

variable (shop : Shop)

def priceQuestion : NumericQuestion ShopState ShopData :=
  forDecimal .enteringPrice (ResellerCatalog.receivePrice shop) typedAmount
    IsAmount

def costPriceQuestion : NumericQuestion ShopState ShopData :=
  forDecimal .enteringCostPrice (ResellerCatalog.receiveCostPriceAndSave shop)
    typedAmount IsAmount

def priceEditQuestion : NumericQuestion ShopState ShopData :=
  forDecimal .editingPackagePrice (ResellerCatalog.receivePackagePriceEdit shop)
    typedAmount IsAmount

def costEditQuestion : NumericQuestion ShopState ShopData :=
  forDecimal .editingPackageCostPrice ResellerCatalog.savePackageCostEdit
    typedAmount IsAmount

def referralQuestion : NumericQuestion ShopState ShopData :=
  forDecimal .enteringReferralPercent
    (ResellerSettings.receiveReferralPercent shop) typedDecimal IsPercentage

def discountQuestion : NumericQuestion ShopState ShopData :=
  forDecimal .enteringDiscountPercent ResellerSettings.receiveDiscountPercent
    typedDecimal IsPercentage

def usageLimitQuestion : NumericQuestion ShopState ShopData :=
  forCount .enteringDiscountUsageLimit
    (ResellerSettings.receiveDiscountUsageLimitAndSave shop)

/-- The questions of a shop for numbers in these columns. -/
def numericQuestions : List (NumericQuestion ShopState ShopData) :=
  [priceQuestion shop, costPriceQuestion shop, priceEditQuestion shop,
    costEditQuestion, referralQuestion shop, discountQuestion,
    usageLimitQuestion shop]

end Questions

section Others

/-- What the handlers of a shop may touch besides the numbers. -/
def besidesNumbers : ShopFootprint where
  tables := [.categories, .customers, .orders, .walletTransactions,
    .customerWalletTopups, .disputes, .chargeCodes, .resellerPaymentCards,
    .referralLinks, .forcedJoinChannels]
  states := outsideCatalog.states ++ (ResellerCatalog.footprint []).states
  others data := { salePrice := data.salePrice, percent := data.percent }

/-- A dialogue that has nothing to do with the numbers. -/
theorem le_besidesNumbers {footprint : ShopFootprint}
    (tables : footprint.tables ⊆ besidesNumbers.tables)
    (prices : footprint.prices = false)
    (states : footprint.states ⊆ besidesNumbers.states)
    (others : ∀ data, besidesNumbers.others (footprint.others data) =
      besidesNumbers.others data) :
    footprint.Le besidesNumbers where
  tables := tables
  prices _ := prices
  states := states
  others first second same := by
    rw [← others first, ← others second, same]

theorem within_asks {change : ShopData → ShopData} {next : ShopState}
    (kept : ∀ data, besidesNumbers.others (change data) =
      besidesNumbers.others data)
    (member : next ∈ besidesNumbers.states) :
    besidesNumbers.Within (do updateData change; setState next) :=
  within_nextQuestion kept member

section Catalog

open ResellerCatalog

theorem admits_startAddOperator : besidesNumbers.Admits startAddOperator := by
  apply admits_onCallback
  intro callback
  apply (within_dataField _ _).bind
  intro catalogType
  exact within_asks (fun _ => rfl) (by decide)

theorem within_insertFolder {resellerId : Nat}
    {operatorName title catalogType : String}
    {parentCategoryId : Option Int} :
    besidesNumbers.Within
      (insertCategory resellerId operatorName title parentCategoryId
        catalogType) := by
  apply (within_required _ _).bind
  intro catalogType
  exact (within_executeInsert List.mem_cons_self).bind fun _ => within_pure _

theorem admits_receiveOperatorName (shop : Shop) :
    besidesNumbers.Admits (receiveOperatorNameAndSave shop) := by
  apply admits_onMessage
  intro message
  apply within_getData.bind
  intro data
  apply (within_strippedText _).bind
  intro operatorName
  exact within_insertFolder.bind fun _ => within_clear

theorem admits_pickOperatorForSub :
    besidesNumbers.Admits pickOperatorForSub := by
  apply admits_onCallback
  intro callback
  apply within_typeAndId.bind
  intro named
  apply (within_query _).bind
  intro found
  apply (within_required _ _).bind
  intro operator
  exact within_asks (fun _ => rfl) (by decide)

theorem admits_receiveSubcategoryTitle (shop : Shop) :
    besidesNumbers.Admits (receiveSubcategoryTitleAndSave shop) := by
  apply admits_onMessage
  intro message
  apply within_getData.bind
  intro data
  apply (within_strippedText _).bind
  intro title
  apply (within_required _ _).bind
  intro operatorName
  apply (within_required _ _).bind
  intro parentOperatorId
  exact within_insertFolder.bind fun _ => within_clear

theorem admits_pickCategory : besidesNumbers.Admits pickCategory := by
  apply admits_onCallback
  intro callback
  apply within_typeAndId.bind
  intro named
  apply (within_query _).bind
  intro found
  apply (within_required _ _).bind
  intro category
  exact within_asks (fun _ => rfl) (by decide)

theorem admits_receivePackageName :
    besidesNumbers.Admits receivePackageName := by
  apply admits_onMessage
  intro message
  apply (within_strippedText _).bind
  intro packageName
  exact within_asks (fun _ => rfl) (by decide)

/-- A handler that asks for a new value. -/
theorem admits_startsEdit {start : String}
    {remember : Int → ShopData → ShopData} {question : ShopState}
    (kept : ∀ id data catalogType, besidesNumbers.others
        (remember id { data with catalogType := some catalogType }) =
      besidesNumbers.others data)
    (member : question ∈ besidesNumbers.states) :
    besidesNumbers.Admits (startEdit start remember question) := by
  apply admits_onCallback
  intro callback
  apply within_typeAndId.bind
  intro named
  exact within_asks (fun _ => kept _ _ _) member

/-- A handler that saves a new text of a folder. -/
theorem admits_savesFolder {state : ShopState}
    {picked : ShopData → Option Int}
    {change : String → CategoryRow → CategoryRow} :
    besidesNumbers.Admits (onMessage (inState state) fun message => do
      let data ← getData
      let text ← strippedText message
      let id ← required .keyError (picked data)
      executeUpdate .categories (rowId id) (text.length ≤ 64) (change text)
      answerWithSubmenu data) := by
  apply admits_onMessage
  intro message
  apply within_getData.bind
  intro data
  apply (within_strippedText _).bind
  intro text
  apply (within_required _ _).bind
  intro id
  exact (within_executeUpdate (by decide)).bind fun _ =>
    within_answerWithSubmenu

end Catalog

/-- The handlers that write to numbers, or that remember some. -/
def numberHandlers (shop : Shop) : List ShopHandler :=
  [ResellerOrders.activate shop, ResellerOrders.confirmWalletTopup shop,
    ResellerCatalog.receivePrice shop, ResellerCatalog.confirmSuspiciousPrice,
    ResellerCatalog.editSuspiciousPrice,
    ResellerCatalog.receiveCostPriceAndSave shop,
    ResellerCatalog.savePackageNameEdit,
    ResellerCatalog.receivePackagePriceEdit shop,
    ResellerCatalog.confirmEditSuspiciousPrice,
    ResellerCatalog.editAgainSuspiciousPrice,
    ResellerCatalog.savePackageCostEdit, ResellerCatalog.togglePackageActive,
    ResellerCatalog.deleteOperatorConfirmed,
    ResellerCatalog.deleteSubcategoryConfirmed,
    ResellerCatalog.deletePackageConfirmed,
    ResellerSettings.settingsMenu shop, ResellerSettings.toggleReferral shop,
    ResellerSettings.receiveReferralPercent shop,
    ResellerSettings.receiveDiscountPercent,
    ResellerSettings.receiveDiscountUsageLimitAndSave shop,
    ResellerSettings.receiveSupportContact shop,
    ResellerPaymentMethods.receiveZarinpalMerchant shop,
    CustomerOrders.applyDiscountCode shop, CustomerOrders.receiveReceipt shop]

theorem numberHandler_or_admits_catalog (shop : Shop) :
    ∀ handler ∈ ResellerCatalog.router shop,
      handler ∈ numberHandlers shop ∨ besidesNumbers.Admits handler := by
  open ResellerCatalog in
  simp only [ResellerCatalog.router, List.forall_mem_cons, List.not_mem_nil,
    false_imp_iff, implies_true, and_true]
  exact ⟨.inr admits_onCallback_pure,
    .inr admits_dataField,
    .inr admits_dataField,
    .inr ShopBot.admits_startAddOperator,
    .inr (admits_receiveOperatorName shop),
    .inr admits_dataField,
    .inr ShopBot.admits_pickOperatorForSub,
    .inr (admits_receiveSubcategoryTitle shop),
    .inr admits_dataField,
    .inr admits_showDetail,
    .inr ShopBot.admits_pickCategory,
    .inr ShopBot.admits_receivePackageName,
    .inl (by simp [numberHandlers]),
    .inl (by simp [numberHandlers]),
    .inl (by simp [numberHandlers]),
    .inl (by simp [numberHandlers]),
    .inr admits_dataField,
    .inr admits_showDetail,
    .inr admits_showDetail,
    .inr admits_showDetail,
    .inr (admits_startsEdit (fun _ _ _ => rfl) (by decide)),
    .inr admits_savesFolder,
    .inr (admits_startsEdit (fun _ _ _ => rfl) (by decide)),
    .inr admits_savesFolder,
    .inr (admits_startsEdit (fun _ _ _ => rfl) (by decide)),
    .inl (by simp [numberHandlers]),
    .inr (admits_startsEdit (fun _ _ _ => rfl) (by decide)),
    .inl (by simp [numberHandlers]),
    .inl (by simp [numberHandlers]),
    .inl (by simp [numberHandlers]),
    .inr (admits_startsEdit (fun _ _ _ => rfl) (by decide)),
    .inl (by simp [numberHandlers]),
    .inl (by simp [numberHandlers]),
    .inr admits_showDetail,
    .inl (by simp [numberHandlers]),
    .inr admits_showDetail,
    .inr admits_showDetail,
    .inl (by simp [numberHandlers]),
    .inr admits_showDetail,
    .inr admits_showDetail,
    .inl (by simp [numberHandlers]),
    .inr admits_showDetail⟩

theorem numberHandler_or_admits_settings (shop : Shop) :
    ∀ handler ∈ ResellerSettings.router shop,
      handler ∈ numberHandlers shop ∨ besidesNumbers.Admits handler := by
  have asks : ∀ {data : String} {state : ShopState},
      state ∈ besidesNumbers.states → besidesNumbers.Admits
        (onCallback (dataIs data) fun _ => setState state) :=
    fun member => admits_onCallback fun _ => within_setState member
  have channel : besidesNumbers.Admits
      (ResellerSettings.receiveChannelId shop) := by
    apply admits_onMessage
    intro message
    apply (within_strippedText _).bind
    intro channelId
    exact (within_executeInsert (by decide)).bind fun _ => within_clear
  have code : besidesNumbers.Admits ResellerSettings.receiveDiscountCode := by
    apply admits_onMessage
    intro message
    apply (within_strippedText _).bind
    intro code
    exact within_asks (fun _ => rfl) (by decide)
  simp only [ResellerSettings.router, List.forall_mem_cons, List.not_mem_nil,
    false_imp_iff, implies_true, and_true]
  exact ⟨.inl (by simp [numberHandlers]),
    .inl (by simp [numberHandlers]),
    .inr (asks (by decide)),
    .inl (by simp [numberHandlers]),
    .inr (asks (by decide)),
    .inr channel,
    .inr (asks (by decide)),
    .inr code,
    .inl (by simp [numberHandlers]),
    .inl (by simp [numberHandlers]),
    .inr (asks (by decide)),
    .inl (by simp [numberHandlers])⟩

/-- Every handler has to do with numbers, or it leaves them alone. -/
theorem numberHandler_or_admits (shop : Shop) (isOwner : Int → Bool) :
    ∀ handler ∈ handlers shop isOwner,
      handler ∈ numberHandlers shop ∨ besidesNumbers.Admits handler := by
  have rest : ∀ {footprint : ShopFootprint} {router : List ShopHandler},
      (∀ handler ∈ router, footprint.Admits handler) →
      footprint.Le besidesNumbers → ∀ handler ∈ router,
        handler ∈ numberHandlers shop ∨ besidesNumbers.Admits handler :=
    fun admits le handler member => .inr ((admits handler member).mono le)
  have orders : ∀ {tables : List TableName} {handler : ShopHandler},
      (ResellerOrders.footprint tables).Admits handler →
      tables ⊆ besidesNumbers.tables → besidesNumbers.Admits handler := by
    intro tables handler admits inside
    have states :
        (ResellerOrders.footprint []).states ⊆ besidesNumbers.states := by
      decide
    exact admits.mono (le_besidesNumbers inside rfl states fun _ => rfl)
  have methods : ∀ {tables : List TableName} {handler : ShopHandler},
      (ResellerPaymentMethods.footprint tables).Admits handler →
      tables ⊆ besidesNumbers.tables → besidesNumbers.Admits handler := by
    intro tables handler admits inside
    have states :
        (ResellerPaymentMethods.footprint []).states ⊆ besidesNumbers.states := by
      decide
    exact admits.mono (le_besidesNumbers inside rfl states fun _ => rfl)
  have customers : ∀ {tables : List TableName} {handler : ShopHandler},
      (CustomerOrders.footprint tables).Admits handler →
      tables ⊆ besidesNumbers.tables → besidesNumbers.Admits handler := by
    intro tables handler admits inside
    have states :
        (CustomerOrders.footprint []).states ⊆ besidesNumbers.states := by
      decide
    exact admits.mono (le_besidesNumbers inside rfl states fun _ => rfl)
  apply forall_handlers
  case staff =>
    apply forall_staffHandlers
    case start =>
      exact fun handler member =>
        .inr (ResellerStart.admits_router isOwner handler member)
    case orders =>
      simp only [ResellerOrders.router, List.forall_mem_cons, List.not_mem_nil,
        false_imp_iff, implies_true, and_true]
      exact ⟨.inr (orders (@ResellerOrders.admits_onPermitted shop [] _ _
          fun _ => within_pure _) (by decide)),
        .inr (orders (ResellerOrders.admits_approveReceipt shop) (by decide)),
        .inr (orders (ResellerOrders.admits_rejectReceipt shop) (by decide)),
        .inl (by simp [numberHandlers]),
        .inl (by simp [numberHandlers]),
        .inr (orders (ResellerOrders.admits_rejectWalletTopup shop)
          (by decide)),
        .inr (orders (ResellerOrders.admits_openDispute shop []) (by decide)),
        .inr (orders ResellerOrders.admits_submitDisputeReason (by decide))⟩
    case catalog => exact numberHandler_or_admits_catalog shop
    case chargeStock =>
      exact rest (ResellerChargeStock.admits_router shop) (le_besidesNumbers
        (by decide) rfl (by decide) fun _ => rfl)
    case wallet =>
      exact rest (ResellerWallet.admits_router shop) (le_besidesNumbers
        (by decide) rfl (by decide) fun _ => rfl)
    case settings => exact numberHandler_or_admits_settings shop
    case paymentMethods =>
      simp only [ResellerPaymentMethods.router, List.forall_mem_cons,
        List.not_mem_nil, false_imp_iff, implies_true, and_true]
      exact ⟨.inr admits_onCallback_pure,
        .inr admits_onCallback_pure,
        .inr (methods (ResellerPaymentMethods.admits_toggleCardCb shop)
          (by decide)),
        .inr (methods (ResellerPaymentMethods.admits_removeCardCb shop)
          (by decide)),
        .inr (methods (ResellerPaymentMethods.admits_startAddCard [])
          (by decide)),
        .inr (methods (ResellerPaymentMethods.admits_receiveCardNumber [])
          (by decide)),
        .inr (methods (ResellerPaymentMethods.admits_receiveCardHolder [])
          (by decide)),
        .inr (methods (ResellerPaymentMethods.admits_receiveBankNameAndSave
          shop) (by decide)),
        .inr (methods (ResellerPaymentMethods.admits_showZarinpal [])
          (by decide)),
        .inl (by simp [numberHandlers])⟩
    case shows => exact fun _ => .inr admits_onCallback_pure
    case lists => exact fun _ => .inr (admits_onMessage fun _ => within_pure _)
  case customerOrders =>
    simp only [CustomerOrders.router, List.forall_mem_cons, List.not_mem_nil,
      false_imp_iff, implies_true, and_true]
    exact ⟨.inr (customers (CustomerOrders.ordered
        (CustomerOrders.admits_customerCancel []) (List.Subset.refl _))
        (by decide)),
      .inr (customers (CustomerOrders.ordered
        (CustomerOrders.admits_customerStart shop) (List.Subset.refl _))
        (by decide)),
      .inr (admits_onMessage fun _ => within_pure _),
      .inr (customers (CustomerOrders.admits_showCatalogFromKeyboard shop [])
        (by decide)),
      .inr (customers (CustomerOrders.admits_handleOperatorPick [])
        (by decide)),
      .inr (customers (CustomerOrders.admits_handleSubcategoryPick shop [])
        (by decide)),
      .inr (customers (CustomerOrders.admits_handlePackagePick [])
        (by decide)),
      .inr (customers (CustomerOrders.admits_handlePackageDetailBack [])
        (by decide)),
      .inr (customers (CustomerOrders.admits_handleBuyButton [])
        (by decide)),
      .inr (customers (CustomerOrders.admits_cancelPhoneNumberEntry [])
        (by decide)),
      .inr (customers (CustomerOrders.ordered
        (CustomerOrders.admits_receivePhoneNumberContact shop)
        (List.Subset.refl _)) (by decide)),
      .inr (customers (CustomerOrders.ordered
        (CustomerOrders.admits_receivePhoneNumberText shop)
        (List.Subset.refl _)) (by decide)),
      .inl (by simp [numberHandlers]),
      .inl (by simp [numberHandlers])⟩
  case customerCharge =>
    exact rest (CustomerCharge.admits_router shop) (le_besidesNumbers
      (by decide) rfl (by decide) fun _ => rfl)
  case customerWallet =>
    exact rest (CustomerWallet.admits_router shop) (le_besidesNumbers
      (by decide) rfl (by decide) fun _ => rfl)

end Others

section Prices

open ResellerCatalog

variable {shop : Shop} {message : Message} {callback : Callback}

theorem stays_isPriceSuspicious {operatorName : String}
    {price : Numerals.Decimal} :
    StaysInRange NumbersOf (isPriceSuspicious operatorName price) := by
  apply (stays_query _).bind
  intro floors
  apply (stays_query _).bind
  intro floor
  split
  · exact stays_pure _
  · exact stays_pure _
  · exact stays_pure _
  · exact stays_throw _

theorem stays_setPendingPrice {token : String}
    {price : Option Numerals.Decimal}
    (inRange : ∀ amount, price = some amount → IsAmount amount) :
    StaysInRange NumbersOf (setPendingPrice token price) := by
  intro visit numbers
  refine ⟨numbers.rows, fun other amount pending => ?_, numbers.edits,
    numbers.data⟩
  have isPending : Function.update visit.platform.pendingPriceConfirmations
      token price other = some amount :=
    pending
  rw [Function.update_apply] at isPending
  split_ifs at isPending
  · exact inRange amount isPending
  · exact numbers.prices other amount isPending

theorem stays_setPendingEditPrice {token : String}
    {price : Option PendingEditPrice}
    (inRange : ∀ edit, price = some edit → IsAmount edit.salePrice) :
    StaysInRange NumbersOf (setPendingEditPrice token price) := by
  intro visit numbers
  refine ⟨numbers.rows, numbers.prices, fun other edit pending => ?_,
    numbers.data⟩
  have isPending : Function.update
      visit.platform.pendingEditPriceConfirmations token price other =
        some edit :=
    pending
  rw [Function.update_apply] at isPending
  split_ifs at isPending
  · exact inRange edit isPending
  · exact numbers.edits other edit isPending

theorem stays_forgetsPrice (token : String) :
    StaysInRange NumbersOf (setPendingPrice token none) :=
  stays_setPendingPrice fun _ same => by cases same

theorem stays_forgetsEdit (token : String) :
    StaysInRange NumbersOf (setPendingEditPrice token none) :=
  stays_setPendingEditPrice fun _ same => by cases same

/-- A price in range is remembered. -/
theorem stays_remembersPrice {price : Numerals.Decimal} {next : ShopState}
    (isAmount : IsAmount price) :
    StaysInRange NumbersOf (do
      updateData ({ · with salePrice := some price })
      setState next : ShopScript Unit) := by
  apply (stays_updateData fun data numbers => ?_).bind
  · exact fun _ => stays_setState _
  · refine ⟨fun other same => ?_, numbers.2⟩
    cases same
    exact isAmount

theorem stays_receivePrice
    (answers : ∀ text, message.text = some text →
      (priceQuestion shop).InRange text) :
    StaysInRange NumbersOf ((receivePrice shop).action (.message message)) := by
  apply stays_required_bind
  intro text isText
  cases isNumber : typedAmount text with
  | none => exact stays_pure _
  | some price =>
      have isAmount := answers text isText price isNumber
      apply stays_getData_bind
      intro data _
      apply (stays_required _ _).bind
      intro operatorName
      apply stays_isPriceSuspicious.bind
      intro suspicious
      apply stays_ite
      · apply (stays_setPendingPrice ?_).bind
        · exact fun _ => stays_setState _
        · intro amount same
          cases same
          exact isAmount
      · exact stays_remembersPrice isAmount

theorem stays_confirmSuspiciousPrice :
    StaysInRange NumbersOf
      (confirmSuspiciousPrice.action (.callback callback)) := by
  apply (stays_dataField _ _).bind
  intro token
  apply stays_get_bind
  intro visit inRange
  apply (stays_forgetsPrice token).bind
  intro _
  cases isPending : visit.platform.pendingPriceConfirmations token with
  | none => exact stays_pure _
  | some price => exact stays_remembersPrice (inRange.prices token price isPending)

theorem stays_editSuspiciousPrice :
    StaysInRange NumbersOf
      (editSuspiciousPrice.action (.callback callback)) := by
  apply (stays_dataField _ _).bind
  intro token
  exact (stays_forgetsPrice token).bind fun _ => stays_setState _

theorem stays_receiveCostPriceAndSave
    (answers : ∀ text, message.text = some text →
      (costPriceQuestion shop).InRange text) :
    StaysInRange NumbersOf
      ((receiveCostPriceAndSave shop).action (.message message)) := by
  apply stays_required_bind
  intro text isText
  cases isNumber : typedAmount text with
  | none => exact stays_pure _
  | some costPrice =>
      have isCost := answers text isText costPrice isNumber
      apply stays_getData_bind
      intro data numbers
      apply (stays_required _ _).bind
      intro categoryId
      apply (stays_required _ _).bind
      intro packageName
      apply stays_required_bind
      intro salePrice isPrice
      have inserted : StaysInRange NumbersOf (insertPackage shop.resellerId
          categoryId packageName salePrice costPrice) := by
        apply stays_storedAmount_bind
        rintro price rfl
        apply stays_storedAmount_bind
        rintro cost rfl
        apply (stays_executeInsert ?_).bind
        · exact fun _ => stays_pure _
        · refine ⟨(numbers.1 _ isPrice).1, ?_⟩
          rintro _ ⟨⟩
          exact isCost.1
      exact inserted.bind fun _ => stays_clear numbersOf_empty

theorem stays_answerWithSubmenu {data : ShopData} :
    StaysInRange NumbersOf (answerWithSubmenu data) :=
  (stays_required _ _).bind fun _ => stays_clear numbersOf_empty

theorem stays_savePackageNameEdit :
    StaysInRange NumbersOf
      (savePackageNameEdit.action (.message message)) := by
  apply stays_getData_bind
  intro data _
  apply (stays_strippedText _).bind
  intro newName
  apply (stays_required _ _).bind
  intro packageId
  have renamed : ∀ held, StaysInRange NumbersOf
      (executeUpdate .packages (rowId packageId) held
        ({ · with name := newName }) : ShopScript Unit) := by
    intro held
    apply stays_executeUpdate
    intro package holds
    exact ⟨holds.1, holds.2⟩
  exact (renamed _).bind fun _ => stays_answerWithSubmenu

/-- A price in range is written. -/
theorem stays_executePrice {packageId : Nat} {price : Numerals.Decimal}
    {change : Cents → PackageRow → PackageRow}
    (kept : ∀ amount, price = .finite amount → ∀ package : PackageRow,
      RowInRange .packages package →
        RowInRange .packages (change (storeDecimal amount) package)) :
    StaysInRange NumbersOf (executePrice packageId price change) := by
  apply (stays_query _).bind
  intro found
  apply stays_ite
  · apply stays_storedAmount_bind
    intro amount isFinite
    exact stays_executeWrite fun db inRange =>
      AllRows.modify inRange (kept amount isFinite)
  · exact stays_pure _

theorem stays_executeSalePrice {packageId : Nat} {price : Numerals.Decimal}
    (isAmount : IsAmount price) :
    StaysInRange NumbersOf (executePrice packageId price setSalePrice) := by
  apply stays_executePrice
  rintro amount rfl package holds
  exact ⟨isAmount.1, holds.2⟩

theorem stays_receivePackagePriceEdit
    (answers : ∀ text, message.text = some text →
      (priceEditQuestion shop).InRange text) :
    StaysInRange NumbersOf
      ((receivePackagePriceEdit shop).action (.message message)) := by
  apply stays_required_bind
  intro text isText
  cases isNumber : typedAmount text with
  | none => exact stays_pure _
  | some price =>
      have isAmount := answers text isText price isNumber
      apply stays_getData_bind
      intro data _
      apply (stays_required _ _).bind
      intro packageId
      apply (stays_query _).bind
      intro operatorName
      apply stays_isPriceSuspicious.bind
      intro suspicious
      apply stays_ite
      · apply (stays_required _ _).bind
        intro catalogType
        apply (stays_setPendingEditPrice ?_).bind
        · exact fun _ => stays_setState _
        · intro edit same
          cases same
          exact isAmount
      · exact (stays_executeSalePrice isAmount).bind fun _ =>
          stays_answerWithSubmenu

theorem stays_confirmEditSuspiciousPrice :
    StaysInRange NumbersOf
      (confirmEditSuspiciousPrice.action (.callback callback)) := by
  apply (stays_dataField _ _).bind
  intro token
  apply stays_get_bind
  intro visit inRange
  apply (stays_forgetsEdit token).bind
  intro _
  cases isPending : visit.platform.pendingEditPriceConfirmations token with
  | none => exact stays_pure _
  | some edit =>
      exact (stays_executeSalePrice (inRange.edits token edit isPending)).bind
        fun _ => stays_clear numbersOf_empty

theorem stays_editAgainSuspiciousPrice :
    StaysInRange NumbersOf
      (editAgainSuspiciousPrice.action (.callback callback)) := by
  apply (stays_dataField _ _).bind
  intro token
  exact (stays_forgetsEdit token).bind fun _ => stays_setState _

theorem stays_savePackageCostEdit
    (answers : ∀ text, message.text = some text →
      costEditQuestion.InRange text) :
    StaysInRange NumbersOf
      (savePackageCostEdit.action (.message message)) := by
  apply stays_required_bind
  intro text isText
  cases isNumber : typedAmount text with
  | none => exact stays_pure _
  | some costPrice =>
      have isAmount := answers text isText costPrice isNumber
      apply stays_getData_bind
      intro data _
      apply (stays_required _ _).bind
      intro packageId
      apply (stays_executePrice ?_).bind
      · exact fun _ => stays_answerWithSubmenu
      · rintro cost rfl package holds
        refine ⟨holds.1, ?_⟩
        rintro _ ⟨⟩
        exact isAmount.1

theorem stays_togglePackageActive :
    StaysInRange NumbersOf
      (togglePackageActive.action (.callback callback)) := by
  have named : StaysInRange NumbersOf (typeAndId callback) :=
    (stays_dataField _ _).bind fun _ =>
      (stays_integerField _ _).bind fun _ => stays_pure _
  apply named.bind
  intro found
  exact stays_executeWrite fun db inRange =>
    AllRows.modify inRange fun row holds => holds

end Prices

section Deletions

open ResellerCatalog

variable {db after : Db} {callback : Callback}

theorem rowsInRange_deletePackages {packageIds : List Nat}
    (deleted : deletePackages packageIds db = some after)
    (inRange : RowsInRange db) : RowsInRange after := by
  unfold deletePackages at deleted
  split_ifs at deleted
  cases deleted
  exact AllRows.erase (AllRows.erase inRange)

theorem rowsInRange_deleteCategories {categoryIds : List Nat}
    (deleted : deleteCategories categoryIds db = some after)
    (inRange : RowsInRange db) : RowsInRange after := by
  obtain ⟨between, packages, rfl⟩ := Option.map_eq_some_iff.mp deleted
  apply AllRows.erase
  have unlinked : ∀ (ids : List Nat) (start : Db), RowsInRange start →
      RowsInRange (ids.foldl (fun db id => db.modify .categories id
        ({ · with parentCategoryId := none })) start) := by
    intro ids
    induction ids with
    | nil => exact fun _ => id
    | cons id ids ih =>
        intro start holds
        exact ih _ (RowsInRange.modify holds (by decide))
  exact unlinked _ _ (rowsInRange_deletePackages packages inRange)

theorem rowsInRange_deleteOperatorTree {operatorId : Nat}
    (deleted : deleteOperatorTree operatorId db = some after)
    (inRange : RowsInRange db) : RowsInRange after := by
  rcases of_deleteOperatorTree deleted with
    whole | ⟨first, second, subIds, packages, folders, whole⟩
  · exact rowsInRange_deleteCategories whole inRange
  · exact rowsInRange_deleteCategories whole
      (rowsInRange_deleteCategories folders
        (rowsInRange_deletePackages packages inRange))

theorem rowsInRange_deleteSubcategoryTree {subcategoryId : Nat}
    (deleted : deleteSubcategoryTree subcategoryId db = some after)
    (inRange : RowsInRange db) : RowsInRange after := by
  obtain ⟨between, packages, folders⟩ := Option.bind_eq_some_iff.mp deleted
  exact rowsInRange_deleteCategories folders
    (rowsInRange_deletePackages packages inRange)

theorem stays_deleteConfirmed {start : String} {delete : Nat → Db → Option Db}
    (kept : ∀ {id : Nat} {db after : Db}, delete id db = some after →
      RowsInRange db → RowsInRange after) :
    StaysInRange NumbersOf
      ((deleteConfirmed start delete).action (.callback callback)) := by
  have named : StaysInRange NumbersOf (typeAndId callback) :=
    (stays_dataField _ _).bind fun _ =>
      (stays_integerField _ _).bind fun _ => stays_pure _
  apply named.bind
  rintro ⟨_, id⟩ visit inRange
  dsimp only
  rw [visit_inTransaction]
  refine ⟨?_, inRange.prices, inRange.edits, inRange.data⟩
  dsimp only
  cases deleted : delete (rowId id) visit.platform.db with
  | none => exact inRange.rows
  | some after => exact kept deleted inRange.rows

end Deletions

section Settings

open ResellerSettings

variable {shop : Shop} {message : Message} {callback : Callback}

theorem stays_getReferralSettings {resellerId : Nat} :
    StaysInRange NumbersOf (getReferralSettings resellerId) := by
  apply (stays_query _).bind
  intro found
  have fresh : RowInRange .referrals
      ({ resellerId := resellerId } : ReferralRow) := by
    constructor
    · exact le_rfl
    · change (0 : Int) ≤ 10000
      omega
  apply stays_ite
  · exact (stays_executeInsert fresh).bind fun _ => stays_pure _
  · exact stays_pure _

theorem stays_updateReferrals {resellerId : Nat}
    {change : ReferralRow → ReferralRow}
    (kept : ∀ row : ReferralRow, IsPercent row.profitPercent →
      IsPercent (change row).profitPercent) :
    StaysInRange NumbersOf (updateReferrals resellerId change) := by
  apply stays_executeWrite
  intro db inRange
  have updated : ∀ (ids : List Nat) (start : Db), RowsInRange start →
      RowsInRange (ids.foldl (fun db id => db.modify .referrals id change)
        start) := by
    intro ids
    induction ids with
    | nil => exact fun _ => id
    | cons id ids ih =>
        intro start holds
        exact ih _ (AllRows.modify holds kept)
  exact updated _ _ inRange

theorem stays_toggleReferral :
    StaysInRange NumbersOf
      ((toggleReferral shop).action (.callback callback)) := by
  apply (stays_dataField _ _).bind
  intro choice
  apply stays_getReferralSettings.bind
  intro _
  exact stays_updateReferrals fun _ holds => holds

theorem stays_receiveReferralPercent
    (answers : ∀ text, message.text = some text →
      (referralQuestion shop).InRange text) :
    StaysInRange NumbersOf
      ((receiveReferralPercent shop).action (.message message)) := by
  apply stays_required_bind
  intro text isText
  cases isNumber : typedDecimal text with
  | none => exact stays_pure _
  | some percent =>
      have isPercentage := answers text isText percent isNumber
      have saved : StaysInRange NumbersOf
          (setReferralProfitPercent shop.resellerId percent) := by
        apply stays_getReferralSettings.bind
        intro _
        apply stays_storedAmount_bind
        rintro value rfl
        exact stays_updateReferrals fun _ _ => isPercentage
      exact saved.bind fun _ => stays_clear numbersOf_empty

theorem stays_receiveDiscountPercent
    (answers : ∀ text, message.text = some text →
      discountQuestion.InRange text) :
    StaysInRange NumbersOf
      (receiveDiscountPercent.action (.message message)) := by
  apply stays_required_bind
  intro text isText
  cases isNumber : typedDecimal text with
  | none => exact stays_pure _
  | some percent =>
      apply (stays_updateData fun data numbers => ?_).bind
      · exact fun _ => stays_setState _
      · refine ⟨numbers.1, fun other same => ?_⟩
        cases same
        exact answers text isText percent isNumber

theorem stays_receiveDiscountUsageLimitAndSave
    (answers : ∀ text, message.text = some text →
      (usageLimitQuestion shop).InRange text) :
    StaysInRange NumbersOf
      ((receiveDiscountUsageLimitAndSave shop).action (.message message)) := by
  apply stays_required_bind
  intro text isText
  cases isNumber : typedInteger text with
  | none => exact stays_pure _
  | some usageLimit =>
      have isCount := answers text isText usageLimit isNumber
      apply stays_getData_bind
      intro data numbers
      apply (stays_required _ _).bind
      intro code
      apply stays_required_bind
      intro percent isPercent
      apply stays_storedAmount_bind
      rintro value rfl
      have isPercentage := numbers.2 _ isPercent
      apply (stays_executeInsert ?_).bind
      · exact fun _ => stays_clear numbersOf_empty
      · exact ⟨isPercentage, isCount.1⟩

/-- Saving a text of the reseller. -/
theorem stays_savesReseller {resellerId : Nat} {held : Bool}
    {change : ResellerRow → ResellerRow}
    (terms : ∀ row, (change row).commissionPercent = row.commissionPercent ∧
      (change row).creditLimitNegative = row.creditLimitNegative) :
    StaysInRange NumbersOf (do
      executeUpdate .resellers resellerId held change
      clear : ShopScript Unit) := by
  have saved : StaysInRange NumbersOf
      (executeUpdate .resellers resellerId held change : ShopScript Unit) := by
    apply stays_executeUpdate
    intro row holds
    change IsPercent (change row).commissionPercent ∧
      0 ≤ (change row).creditLimitNegative
    rw [(terms row).1, (terms row).2]
    exact holds
  exact saved.bind fun _ => stays_clear numbersOf_empty

theorem stays_receiveSupportContact :
    StaysInRange NumbersOf
      ((receiveSupportContact shop).action (.message message)) := by
  apply (stays_strippedText message).bind
  intro contact
  exact stays_savesReseller fun row => ⟨rfl, rfl⟩

theorem stays_receiveZarinpalMerchant :
    StaysInRange NumbersOf
      ((ResellerPaymentMethods.receiveZarinpalMerchant shop).action
        (.message message)) := by
  apply (stays_strippedText message).bind
  intro merchantId
  exact stays_savesReseller fun row => ⟨rfl, rfl⟩

end Settings

section Orders

variable {shop : Shop} {message : Message} {callback : Callback}

theorem stays_onPermitted {test : Option ShopState → String → Bool}
    {action : Callback → ShopScript Unit}
    (stays : StaysInRange NumbersOf (action callback)) :
    StaysInRange NumbersOf
      ((ResellerOrders.onPermitted shop test action).action
        (.callback callback)) := by
  apply (stays_query _).bind
  intro permitted
  exact stays_ite stays (stays_pure _)

theorem stays_activate :
    StaysInRange NumbersOf
      ((ResellerOrders.activate shop).action (.callback callback)) := by
  apply stays_onPermitted
  apply (stays_integerField _ _).bind
  intro orderId
  exact (stays_call _).bind fun _ => stays_pure _

theorem stays_confirmWalletTopup :
    StaysInRange NumbersOf
      ((ResellerOrders.confirmWalletTopup shop).action
        (.callback callback)) := by
  apply stays_onPermitted
  apply (stays_integerField _ _).bind
  intro topupId
  apply (stays_attempt _).bind
  intro outcome
  split
  · exact stays_pure _
  · exact stays_pure _
  · exact stays_pure _
  · exact stays_throw _

theorem stays_applyDiscountCode :
    StaysInRange NumbersOf
      ((CustomerOrders.applyDiscountCode shop).action (.message message)) := by
  apply (stays_required _ _).bind
  intro text
  apply (stays_required _ _).bind
  intro rest
  apply stays_getData_bind
  intro data _
  apply (stays_query _).bind
  intro order
  apply (stays_query _).bind
  intro found
  split
  · exact stays_pure _
  · exact stays_throw _
  · apply (stays_required _ _).bind
    intro order
    apply (stays_executeWrite fun db inRange =>
      RowsInRange.modify inRange (by decide)).bind
    intro _
    exact stays_executeWrite fun db inRange =>
      AllRows.modify inRange fun row holds => holds

theorem stays_receiveReceipt :
    StaysInRange NumbersOf
      ((CustomerOrders.receiveReceipt shop).action (.message message)) := by
  apply (stays_required _ _).bind
  intro receiptFileId
  apply stays_getData_bind
  intro data _
  apply (stays_required _ _).bind
  intro orderId
  apply (stays_attempt _).bind
  intro outcome
  split
  · exact stays_clear numbersOf_empty
  · exact stays_clear numbersOf_empty
  · exact stays_pure _
  · exact stays_throw _

end Orders

/-- The handlers keep the numbers in range if the answers have them in
range. -/
theorem numbersInRange_of_message {shop : Shop} {handler : ShopHandler}
    {message : Message} {visit : Visit ShopState ShopData}
    (member : handler ∈ numberHandlers shop)
    (takes : handler.takes visit.conversation.state (.message message) = true)
    (answers : ∀ question ∈ numericQuestions shop,
      question.AnsweredInRange visit.conversation.state (.message message))
    (inRange : NumbersInRange NumbersOf visit) :
    NumbersInRange NumbersOf
      ((handler.action (.message message)).runOn visit).2 := by
  have answered : ∀ question ∈ numericQuestions shop,
      visit.conversation.state = some question.state →
        ∀ text, message.text = some text → question.InRange text :=
    fun question asked state text => answers question asked state message text rfl
  simp only [numberHandlers, List.mem_cons, List.not_mem_nil,
    or_false] at member
  rcases member with rfl | rfl | rfl | rfl | rfl | rfl | rfl | rfl | rfl |
    rfl | rfl | rfl | rfl | rfl | rfl | rfl | rfl | rfl | rfl | rfl | rfl |
    rfl | rfl | rfl
  · exact inRange
  · exact inRange
  · exact stays_receivePrice (answered (priceQuestion shop)
      (by simp [numericQuestions]) (of_decide_eq_true takes)) visit inRange
  · exact inRange
  · exact inRange
  · exact stays_receiveCostPriceAndSave (answered (costPriceQuestion shop)
      (by simp [numericQuestions]) (of_decide_eq_true takes)) visit inRange
  · exact stays_savePackageNameEdit visit inRange
  · exact stays_receivePackagePriceEdit (answered (priceEditQuestion shop)
      (by simp [numericQuestions]) (of_decide_eq_true takes)) visit inRange
  · exact inRange
  · exact inRange
  · exact stays_savePackageCostEdit (answered costEditQuestion
      (by simp [numericQuestions]) (of_decide_eq_true takes)) visit inRange
  · exact inRange
  · exact inRange
  · exact inRange
  · exact inRange
  · exact inRange
  · exact inRange
  · exact stays_receiveReferralPercent (answered (referralQuestion shop)
      (by simp [numericQuestions]) (of_decide_eq_true takes)) visit inRange
  · exact stays_receiveDiscountPercent (answered discountQuestion
      (by simp [numericQuestions]) (of_decide_eq_true takes)) visit inRange
  · exact stays_receiveDiscountUsageLimitAndSave
      (answered (usageLimitQuestion shop) (by simp [numericQuestions])
        (of_decide_eq_true takes)) visit inRange
  · exact stays_receiveSupportContact visit inRange
  · exact stays_receiveZarinpalMerchant visit inRange
  · exact stays_applyDiscountCode visit inRange
  · exact stays_receiveReceipt visit inRange

theorem numbersInRange_of_callback {shop : Shop} {handler : ShopHandler}
    {callback : Callback} {visit : Visit ShopState ShopData}
    (member : handler ∈ numberHandlers shop)
    (inRange : NumbersInRange NumbersOf visit) :
    NumbersInRange NumbersOf
      ((handler.action (.callback callback)).runOn visit).2 := by
  simp only [numberHandlers, List.mem_cons, List.not_mem_nil,
    or_false] at member
  rcases member with rfl | rfl | rfl | rfl | rfl | rfl | rfl | rfl | rfl |
    rfl | rfl | rfl | rfl | rfl | rfl | rfl | rfl | rfl | rfl | rfl | rfl |
    rfl | rfl | rfl
  · exact stays_activate visit inRange
  · exact stays_confirmWalletTopup visit inRange
  · exact inRange
  · exact stays_confirmSuspiciousPrice visit inRange
  · exact stays_editSuspiciousPrice visit inRange
  · exact inRange
  · exact inRange
  · exact inRange
  · exact stays_confirmEditSuspiciousPrice visit inRange
  · exact stays_editAgainSuspiciousPrice visit inRange
  · exact inRange
  · exact stays_togglePackageActive visit inRange
  · exact stays_deleteConfirmed rowsInRange_deleteOperatorTree visit inRange
  · exact stays_deleteConfirmed rowsInRange_deleteSubcategoryTree visit inRange
  · exact stays_deleteConfirmed rowsInRange_deletePackages visit inRange
  · exact stays_getReferralSettings visit inRange
  · exact stays_toggleReferral visit inRange
  · exact inRange
  · exact inRange
  · exact inRange
  · exact inRange
  · exact inRange
  · exact inRange
  · exact inRange

/-- The handlers of a shop keep the numbers in range if the answers have them
in range. -/
theorem numbersInRange_of_takes {shop : Shop} {isOwner : Int → Bool}
    {handler : ShopHandler} {update : Update}
    {visit : Visit ShopState ShopData}
    (member : handler ∈ handlers shop isOwner)
    (takes : handler.takes visit.conversation.state update = true)
    (answers : ∀ question ∈ numericQuestions shop,
      question.AnsweredInRange visit.conversation.state update)
    (inRange : NumbersInRange NumbersOf visit) :
    NumbersInRange NumbersOf ((handler.action update).runOn visit).2 := by
  rcases numberHandler_or_admits shop isOwner handler member with
    writes | admits
  · cases update with
    | message message =>
        exact numbersInRange_of_message writes takes answers inRange
    | callback callback => exact numbersInRange_of_callback writes inRange
  · have kept : ∀ first second : ShopData,
        besidesNumbers.others second = besidesNumbers.others first →
          NumbersOf first → NumbersOf second := by
      intro first second same numbers
      have price := congrArg ShopData.salePrice same
      have percent := congrArg ShopData.percent same
      constructor
      · rw [show second.salePrice = first.salePrice from price]
        exact numbers.1
      · rw [show second.percent = first.percent from percent]
        exact numbers.2
    exact stays_of_within (admits update) (by decide) rfl kept
      numbersOf_empty visit inRange

section Asking

open ResellerCatalog ResellerSettings Failing

variable {shop : Shop}

theorem neverFails_isPriceSuspicious {operatorName : String} (price : Rat) :
    (isPriceSuspicious operatorName (.finite price)).NeverFails := by
  apply (neverFails_query _).bind
  intro floors
  apply (neverFails_query _).bind
  intro floor
  cases floor with
  | none => exact neverFails_pure _
  | some floor => exact neverFails_pure _

/-- What is done with the price of a new package. -/
def rememberPrice (shop : Shop) (salePrice : Numerals.Decimal) :
    ShopScript Unit := do
  let operatorName ← required .keyError (← getData).operatorName
  if ← isPriceSuspicious operatorName salePrice then
    setPendingPrice shop.token (some salePrice)
    setState .confirmingSuspiciousPrice
  else
    updateData ({ · with salePrice := some salePrice })
    setState .enteringCostPrice

theorem answer_price (message : Message) :
    (priceQuestion shop).answer message =
      reads typedAmount (rememberPrice shop) message := by
  apply bind_congr
  intro text
  cases typedAmount text with
  | none => rfl
  | some price => rfl

theorem takesNumbers_price : (priceQuestion shop).TakesNumbers := by
  apply takesNumbers_of_reads answer_price (fun _ => Iff.rfl)
    typedAmount_zero
  · intro text number inRange isNumber
    obtain ⟨price, rfl⟩ := (inRange _ isNumber).exists_finite
    apply FailsLike.bind
    intro data
    apply FailsLike.bind
    intro operatorName
    apply NeverFails.failsLike
    apply (neverFails_isPriceSuspicious price).bind
    intro suspicious
    apply neverFails_ite
    · exact (neverFails_modify _).bind fun _ => neverFails_modify _
    · exact neverFails_nextQuestion
  · intro text number _ _
    apply EndsOutside.bind
    intro data
    apply EndsOutside.bind
    intro operatorName
    apply EndsOutside.bind
    intro suspicious
    apply EndsOutside.ite
    · exact .bind fun _ => endsOutside_setState
        (by simp [priceQuestion, forDecimal])
    · exact .bind fun _ => endsOutside_setState
        (by simp [priceQuestion, forDecimal])

/-- What is done with the cost price of a new package. -/
def saveCostPrice (shop : Shop) (costPrice : Numerals.Decimal) :
    ShopScript Unit := do
  let data ← getData
  let categoryId ← required .keyError data.categoryId
  let packageName ← required .keyError data.packageName
  let salePrice ← required .keyError data.salePrice
  insertPackage shop.resellerId categoryId packageName salePrice costPrice
  clear

theorem answer_costPrice (message : Message) :
    (costPriceQuestion shop).answer message =
      reads typedAmount (saveCostPrice shop) message := by
  apply bind_congr
  intro text
  cases typedAmount text with
  | none => rfl
  | some costPrice => rfl

theorem failsLike_insertPackage {resellerId : Nat} {categoryId : Int}
    {name : String} {salePrice : Numerals.Decimal} (cost other : Rat) :
    FailsLike
      (insertPackage resellerId categoryId name salePrice (.finite cost))
      (insertPackage resellerId categoryId name salePrice
        (.finite other)) := by
  apply FailsLike.bind
  intro price
  have inserted := @failsLike_executeInsert ShopState ShopData .packages
    (fun db => name.length ≤ 128 && (db.row .resellers resellerId).isSome &&
      (db.row .categories (rowId categoryId)).isSome) _
    ⟨resellerId, rowId categoryId, name, price, some (storeDecimal cost),
      true⟩
    ⟨resellerId, rowId categoryId, name, price, some (storeDecimal other),
      true⟩ fun db => id
  exact inserted.bind_neverFails fun _ => neverFails_pure _

theorem takesNumbers_costPrice : (costPriceQuestion shop).TakesNumbers := by
  apply takesNumbers_of_reads answer_costPrice (fun _ => Iff.rfl)
    typedAmount_zero
  · intro text number inRange isNumber
    obtain ⟨cost, rfl⟩ := (inRange _ isNumber).exists_finite
    apply FailsLike.bind
    intro data
    apply FailsLike.bind
    intro categoryId
    apply FailsLike.bind
    intro packageName
    apply FailsLike.bind
    intro salePrice
    exact (failsLike_insertPackage cost 0).bind_neverFails
      fun _ => neverFails_modify _
  · intro text number _ _
    apply EndsOutside.bind
    intro data
    apply EndsOutside.bind
    intro categoryId
    apply EndsOutside.bind
    intro packageName
    apply EndsOutside.bind
    intro salePrice
    apply EndsOutside.bind
    intro _
    exact endsOutside_clear _

theorem neverFails_executePrice {packageId : Nat} (price : Rat)
    {change : Cents → PackageRow → PackageRow} :
    (executePrice packageId (.finite price) change).NeverFails := by
  apply (neverFails_query _).bind
  intro found
  apply neverFails_ite
  · exact (neverFails_pure _).bind fun _ => neverFails_modify _
  · exact neverFails_pure _

/-- The answer to a price fails without a catalog to show the menu of. -/
theorem fails_answerWithSubmenu {data : ShopData}
    {visit : Visit ShopState ShopData} :
    (answerWithSubmenu data).Fails visit ↔ data.catalogType = none :=
  fails_required_bind fun _ => neverFails_modify _

/-- What is done with a new price of a package. -/
def editPriceOf (shop : Shop) (data : ShopData) (packageId : Int)
    (operatorName : String) (salePrice : Numerals.Decimal) :
    ShopScript Unit := do
  if ← isPriceSuspicious operatorName salePrice then
    let _ ← required .keyError data.catalogType
    setPendingEditPrice shop.token (some ⟨packageId, salePrice⟩)
    setState .confirmingSuspiciousEditPrice
  else
    executePrice (rowId packageId) salePrice setSalePrice
    answerWithSubmenu data

/-- The menu is looked up whether the price is suspicious or not. -/
theorem fails_editPriceOf {data : ShopData} {packageId : Int}
    {operatorName : String} {price : Rat}
    {visit : Visit ShopState ShopData} :
    (editPriceOf shop data packageId operatorName (.finite price)).Fails
      visit ↔ data.catalogType = none := by
  apply (neverFails_isPriceSuspicious price).fails_bind
  intro suspicious reached
  cases suspicious with
  | true =>
      exact fails_required_bind fun _ =>
        (neverFails_modify _).bind fun _ => neverFails_modify _
  | false =>
      exact (neverFails_executePrice price).fails_bind
        fun _ _ => fails_answerWithSubmenu

def editPrice (shop : Shop) (salePrice : Numerals.Decimal) :
    ShopScript Unit := do
  let data ← getData
  let packageId ← required .keyError data.packageId
  let operatorName ← query (operatorNameOf (rowId packageId))
  editPriceOf shop data packageId operatorName salePrice

theorem answer_priceEdit (message : Message) :
    (priceEditQuestion shop).answer message =
      reads typedAmount (editPrice shop) message := by
  apply bind_congr
  intro text
  cases typedAmount text with
  | none => rfl
  | some price => rfl

theorem takesNumbers_priceEdit : (priceEditQuestion shop).TakesNumbers := by
  apply takesNumbers_of_reads answer_priceEdit (fun _ => Iff.rfl)
    typedAmount_zero
  · intro text number inRange isNumber
    obtain ⟨price, rfl⟩ := (inRange _ isNumber).exists_finite
    apply FailsLike.bind
    intro data
    apply FailsLike.bind
    intro packageId
    apply FailsLike.bind
    intro operatorName visit fails
    exact fails_editPriceOf.mpr (fails_editPriceOf.mp fails)
  · intro text number _ _
    apply EndsOutside.bind
    intro data
    apply EndsOutside.bind
    intro packageId
    apply EndsOutside.bind
    intro operatorName
    apply EndsOutside.bind
    intro suspicious
    apply EndsOutside.ite
    · exact .bind fun _ => .bind fun _ => endsOutside_setState
        (by simp [priceEditQuestion, forDecimal])
    · exact .bind fun _ => .bind fun _ => endsOutside_clear _

/-- What is done with a new cost price of a package. -/
def editCostPrice (costPrice : Numerals.Decimal) : ShopScript Unit := do
  let data ← getData
  let packageId ← required .keyError data.packageId
  executePrice (rowId packageId) costPrice
    fun price package => { package with costPrice := some price }
  answerWithSubmenu data

theorem answer_costEdit (message : Message) :
    costEditQuestion.answer message =
      reads typedAmount editCostPrice message := by
  apply bind_congr
  intro text
  cases typedAmount text with
  | none => rfl
  | some costPrice => rfl

theorem takesNumbers_costEdit : costEditQuestion.TakesNumbers := by
  apply takesNumbers_of_reads answer_costEdit (fun _ => Iff.rfl)
    typedAmount_zero
  · intro text number inRange isNumber
    obtain ⟨cost, rfl⟩ := (inRange _ isNumber).exists_finite
    apply FailsLike.bind
    intro data
    apply FailsLike.bind
    intro packageId visit fails
    have lacks := ((neverFails_executePrice cost).fails_bind
      fun _ _ => fails_answerWithSubmenu).mp fails
    exact ((neverFails_executePrice 0).fails_bind
      fun _ _ => fails_answerWithSubmenu).mpr lacks
  · intro text number _ _
    apply EndsOutside.bind
    intro data
    apply EndsOutside.bind
    intro packageId
    apply EndsOutside.bind
    intro _
    exact .bind fun _ => endsOutside_clear _

theorem answer_referral (message : Message) :
    (referralQuestion shop).answer message =
      reads typedDecimal (fun percent => do
        setReferralProfitPercent shop.resellerId percent
        clear) message := by
  apply bind_congr
  intro text
  cases typedDecimal text with
  | none => rfl
  | some percent => rfl

theorem failsLike_setReferralProfitPercent {resellerId : Nat}
    (percent other : Rat) :
    FailsLike (setReferralProfitPercent resellerId (.finite percent))
      (setReferralProfitPercent resellerId (.finite other)) := by
  apply FailsLike.bind
  intro _
  apply NeverFails.failsLike
  exact (neverFails_pure _).bind fun _ => neverFails_modify _

theorem takesNumbers_referral : (referralQuestion shop).TakesNumbers := by
  apply takesNumbers_of_reads answer_referral (fun _ => Iff.rfl)
    typedDecimal_zero
  · intro text number inRange isNumber
    obtain ⟨percent, rfl⟩ := (inRange _ isNumber).exists_finite
    exact (failsLike_setReferralProfitPercent percent 0).bind_neverFails
      fun _ => neverFails_modify _
  · exact fun _ _ _ _ => .bind fun _ => endsOutside_clear _

theorem answer_discount (message : Message) :
    discountQuestion.answer message =
      reads typedDecimal (fun percent => do
        updateData ({ · with percent := some percent })
        setState .enteringDiscountUsageLimit) message := by
  apply bind_congr
  intro text
  cases typedDecimal text with
  | none => rfl
  | some percent => rfl

theorem takesNumbers_discount : discountQuestion.TakesNumbers := by
  apply takesNumbers_of_reads answer_discount (fun _ => Iff.rfl)
    typedDecimal_zero
  · exact fun _ _ _ _ => neverFails_nextQuestion.failsLike
  · exact fun _ _ _ _ => .bind fun _ => endsOutside_setState (by decide)

/-- What is done with the number of uses of a new code. -/
def saveUsageLimit (shop : Shop) (usageLimit : Int) : ShopScript Unit := do
  let data ← getData
  let code ← required .keyError data.code
  let percent ← storedAmount (← required .keyError data.percent)
  let row : DiscountCodeRow :=
    { resellerId := shop.resellerId
      code := code
      percent := percent
      usageLimit := usageLimit }
  let _ ← executeInsert .discountCodes
    (discountInsertable shop.collate row) row
  clear

theorem answer_usageLimit (message : Message) :
    (usageLimitQuestion shop).answer message =
      reads typedInteger (saveUsageLimit shop) message := by
  apply bind_congr
  intro text
  cases typedInteger text with
  | none => rfl
  | some usageLimit => rfl

/-- A code with a number of uses that its column holds is as insertable as one
with another such number. -/
theorem discountInsertable_of_count {collate : String → String}
    {row : DiscountCodeRow} {count : Int} {db : Db}
    (isCount : IsCount row.usageLimit)
    (holds : discountInsertable collate { row with usageLimit := count } db =
      true) :
    discountInsertable collate row db = true := by
  have low : -2 ^ 31 ≤ row.usageLimit := by
    have := isCount.1
    omega
  have high : row.usageLimit < 2 ^ 31 := isCount.2
  simp only [discountInsertable, Bool.and_eq_true,
    decide_eq_true_eq] at holds ⊢
  exact ⟨⟨⟨⟨holds.1.1.1.1, low⟩, high⟩, holds.1.2⟩, holds.2⟩

theorem failsLike_insertDiscount {collate : String → String}
    {row : DiscountCodeRow} {count : Int} (isCount : IsCount row.usageLimit) :
    FailsLike
      (executeInsert .discountCodes (discountInsertable collate row) row :
        ShopScript Nat)
      (executeInsert .discountCodes
        (discountInsertable collate { row with usageLimit := count })
        { row with usageLimit := count } : ShopScript Nat) :=
  failsLike_executeInsert fun _ holds =>
    discountInsertable_of_count isCount holds

theorem takesNumbers_usageLimit : (usageLimitQuestion shop).TakesNumbers := by
  apply takesNumbers_of_reads answer_usageLimit (fun _ => Iff.rfl)
    typedInteger_zero
  · intro text number inRange isNumber
    have isCount : IsCount number := inRange _ isNumber
    apply FailsLike.bind
    intro data
    apply FailsLike.bind
    intro code
    apply FailsLike.bind
    intro percent
    apply FailsLike.bind
    intro stored
    have inserted := @failsLike_insertDiscount shop.collate
      { resellerId := shop.resellerId
        code := code
        percent := stored
        usageLimit := number } 0 isCount
    exact inserted.bind_neverFails fun _ => neverFails_modify _
  · intro text number _ _
    apply EndsOutside.bind
    intro data
    apply EndsOutside.bind
    intro code
    apply EndsOutside.bind
    intro percent
    apply EndsOutside.bind
    intro stored
    apply EndsOutside.bind
    intro _
    exact endsOutside_clear _

theorem takesNumbers_of_mem :
    ∀ question ∈ numericQuestions shop, question.TakesNumbers := by
  simp only [numericQuestions, List.forall_mem_cons, List.not_mem_nil,
    false_imp_iff, implies_true, and_true]
  exact ⟨takesNumbers_price, takesNumbers_costPrice, takesNumbers_priceEdit,
    takesNumbers_costEdit, takesNumbers_referral, takesNumbers_discount,
    takesNumbers_usageLimit⟩

end Asking

end ShopBot

end Baste
