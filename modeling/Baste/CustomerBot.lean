import Baste.ShopBot

/-!
# The customers of a reseller

The routers in `handlers/customer`: orders, which are paid from the wallet or
with a receipt, charge codes, and the wallet.  Customers walk through the
catalog with keyboards below the chat, whose labels the conversation keeps
with the ids that they stand for.
-/

namespace Baste

namespace ShopBot

open BotScripts

section Buttons

def customerCatalogButtonText : String := "🛒 خرید بسته"

def customerSupportButtonText : String := "📞 پشتیبانی"

def customerWalletButtonText : String := "💰 کیف پول من"

def customerBackButtonText : String := "⬅️ بازگشت"

def customerBackToMenuButtonText : String := "🏠 بازگشت به منوی اصلی"

def customerTopupButtonText : String := "💳 افزایش موجودی"

def customerTopupCardButtonText : String := "💳 کارت‌به‌کارت"

def customerTopupZarinpalButtonText : String := "🌐 زرین‌پال"

def customerBuyButtonText : String := "🛒 خرید این بسته"

def customerChargeButtonText : String := "🔋 خرید کارت شارژ"

def customerBuyChargeButtonText : String := "🔋 خرید این شارژ"

end Buttons

section Shared

/-- `_back_to_main_menu` -/
def backToMainMenu : ShopScript Unit :=
  clear

/-- A map from labels to ids. -/
def labelMap (ids : List Nat) (label : Nat → Option String) : LabelMap :=
  ids.filterMap fun id => (label id).map fun text => (text, id)

def operatorLabels (ids : List Nat) (db : Db) : LabelMap :=
  labelMap ids fun id => (db.row .categories id).map fun category =>
    s!"📁 {category.operatorName}"

def subcategoryLabels (ids : List Nat) (db : Db) : LabelMap :=
  labelMap ids fun id => (db.row .categories id).map fun category =>
    s!"📂 {category.title}"

/-- The labels of packages, which begin with an icon. -/
def packageLabels (icon : String) (ids : List Nat) (db : Db) : LabelMap :=
  labelMap ids fun id => (db.row .packages id).map fun package =>
    s!"{icon} {package.name} — {formatAmount package.salePrice} تومان"

/-- The packages of a folder that are for sale. -/
def activePackagesOf (categoryId : Nat) (db : Db) : List Nat :=
  db.idsWhere .packages fun package =>
    package.categoryId = categoryId && package.isActive

/-- The package is there, in a folder that is there. -/
def isListed (packageId : Nat) (db : Db) : Bool :=
  (db.row .packages packageId).any fun package =>
    (db.row .categories package.categoryId).isSome

end Shared

namespace CustomerOrders

def customerCancel : ShopHandler :=
  onMessage (textIs "/cancel") fun _ => do
    if (← getState).isSome then clear

/-- The value of an integer in an `INT` column that takes what fits best. -/
def clipped (number : Int) : Int :=
  max (-2 ^ 31) (min number (2 ^ 31 - 1))

/-- `register_referral`, whose insertion is ignored if it is refused. -/
def registerReferral (resellerId : Nat) (referrerCustomerId : Int)
    (referredCustomerId : Nat) : ShopScript Unit := do
  if referrerCustomerId ≠ referredCustomerId then
    let id ← query (·.nextId .referralLinks)
    executeWrite (·.reserve .referralLinks)
    let isNew ← query fun db =>
      db.idsWhere .referralLinks (fun link =>
          link.resellerId = resellerId &&
            link.referredCustomerId = referredCustomerId) = [] &&
        (db.row .resellers resellerId).isSome
    if isNew then
      executeWrite (·.put .referralLinks id
        ⟨resellerId, clipped referrerCustomerId, referredCustomerId⟩)

/-- The customer in the payload of a referral link. -/
def referrerOf (payload : List Char) : Option Int :=
  if "ref_".toList.isPrefixOf payload then
    typedInteger (String.ofList (payload.drop 4))
  else none

def customerStart (shop : Shop) : ShopHandler :=
  onMessage (textStarts "/start") fun message => do
    clear
    let text ← textOf message
    let customerId ← getOrCreateCustomer shop.resellerId message.sender
    match (afterFirstWord text.toList).bind referrerOf with
    | none => pure ()
    | some referrerCustomerId =>
        registerReferral shop.resellerId referrerCustomerId customerId

def showSupportFromKeyboard : ShopHandler :=
  onMessage (textIs customerSupportButtonText) fun _ => pure ()

/-- `_show_operators` -/
def showOperators (shop : Shop) : ShopScript Unit := do
  if ← query (userHasJoinedAll shop) then
    let operators ← query (operatorsOf shop.resellerId .package)
    if operators ≠ [] then
      let operatorMap ← query (operatorLabels operators)
      setState .browsingOperators
      updateData ({ · with operatorMap := operatorMap })

def showCatalogFromKeyboard (shop : Shop) : ShopHandler :=
  onMessage (textIs customerCatalogButtonText) fun _ => showOperators shop

def handleOperatorPick : ShopHandler :=
  onMessage (inState .browsingOperators) fun message => do
    if message.text = some customerBackToMenuButtonText then backToMainMenu
    else
      match (← getData).operatorMap.get message.text with
      | none => pure ()
      | some operatorId =>
          let subcategories ← query (subcategoriesOf operatorId)
          if subcategories ≠ [] then
            let subcategoryMap ← query (subcategoryLabels subcategories)
            setState .browsingSubcategories
            updateData ({ · with subcategoryMap := subcategoryMap })

def handleSubcategoryPick (shop : Shop) : ShopHandler :=
  onMessage (inState .browsingSubcategories) fun message => do
    if message.text = some customerBackButtonText then showOperators shop
    else
      match (← getData).subcategoryMap.get message.text with
      | none => pure ()
      | some categoryId =>
          let packages ← query (activePackagesOf categoryId)
          if packages ≠ [] then
            let packageMap ← query (packageLabels "📦" packages)
            updateData ({ · with packageMap := packageMap })
            setState .browsingPackages

def handlePackagePick : ShopHandler :=
  onMessage (inState .browsingPackages) fun message => do
    if message.text = some customerBackButtonText then
      setState .browsingOperators
    else
      match (← getData).packageMap.get message.text with
      | none => pure ()
      | some packageId =>
          if ← query (isListed packageId) then
            setState .packageSelected
            updateData ({ · with selectedPackageId := some packageId })

def handlePackageDetailBack : ShopHandler :=
  onMessage (inStateWith .packageSelected (textIs customerBackButtonText))
    fun _ => setState .browsingPackages

/-- `_normalize_phone_number` -/
def normalizePhoneNumber (raw : String) : Option String :=
  let typed := raw.toList.filter isDigitChar
  let digits :=
    if "0098".toList.isPrefixOf typed then '0' :: typed.drop 4
    else if "98".toList.isPrefixOf typed && typed.length = 12 then
      '0' :: typed.drop 2
    else typed
  if digits.length = 11 ∧ "09".toList.isPrefixOf digits then
    some (String.ofList digits)
  else none

def handleBuyButton : ShopHandler :=
  onMessage (inStateWith .packageSelected (textIs customerBuyButtonText))
    fun _ => do
      match (← getData).selectedPackageId with
      | none => backToMainMenu
      | some _ => setState .enteringPhoneNumber

def cancelPhoneNumberEntry : ShopHandler :=
  onMessage
    (inStateWith .enteringPhoneNumber (textIs customerBackButtonText))
    fun _ => setState .packageSelected

/-- The order that a service has created. -/
def createdOrder : Reply → Option Nat
  | .created orderId _ => some orderId
  | _ => none

/-- Create an order that waits for its receipt. -/
def orderWithReceipt (shop : Shop) (packageId customerId : Nat)
    (phoneNumber : String) : ShopScript Unit := do
  match ← attempt (.createOrder shop.resellerId packageId customerId
      (some phoneNumber) (shop.stamp 1)) with
  | .ok reply =>
      updateData ({ · with orderId := createdOrder reply })
      setState .waitingReceipt
  | .error (.customerBlacklisted _) => clear
  | .error error => throw (.service error)

/-- `_process_purchase` -/
def processPurchase (shop : Shop) (telegramUserId : Int)
    (phoneNumber : String) : ShopScript Unit := do
  match (← getData).selectedPackageId with
  | none => backToMainMenu
  | some packageId =>
      let customerId ← getOrCreateCustomer shop.resellerId telegramUserId
      match ← attempt (.createOrderPaidByWallet shop.resellerId packageId
          customerId (some phoneNumber) (shop.stamp 0)) with
      | .ok _ | .error (.customerBlacklisted _) => clear
      | .error (.walletInsufficientBalance _) =>
          orderWithReceipt shop packageId customerId phoneNumber
      | .error error => throw (.service error)

def receivePhoneNumberContact (shop : Shop) : ShopHandler :=
  onMessage (inStateWith .enteringPhoneNumber hasContact) fun message => do
    let contact ← required .attributeError message.contact
    processPurchase shop message.sender contact.phoneNumber

def receivePhoneNumberText (shop : Shop) : ShopHandler :=
  onMessage (inStateWith .enteringPhoneNumber hasText) fun message => do
    match normalizePhoneNumber (← textOf message) with
    | none => pure ()
    | some phone => processPurchase shop message.sender phone

/-- `validate_discount_code` -/
def validateDiscountCode (shop : Shop) (code : String) (db : Db) :
    Option (Nat × DiscountCodeRow) :=
  let wanted := Uppercase.upper
    (String.ofList (ChargeService.strip code.toList))
  let found := db.idsWhere .discountCodes fun row =>
    row.resellerId = shop.resellerId &&
      shop.collate row.code = shop.collate wanted && row.isActive
  (found.head?.bind fun id =>
    (db.row .discountCodes id).map (id, ·)).filter fun (_, row) =>
      row.expiresAt.all (shop.now ≤ ·) &&
        (row.usageLimit = 0 || row.usageCount < row.usageLimit)

/-- `apply_discount` -/
def applyDiscount (price : Rat) (row : DiscountCodeRow) : Int :=
  roundHalfEven (price * (100 - decimal row.percent) / 100)

/-- `increment_usage` -/
def incrementUsage (discountCodeId : Nat) : ShopScript Unit :=
  executeWrite (·.modify .discountCodes discountCodeId
    fun row => { row with usageCount := row.usageCount + 1 })

def applyDiscountCode (shop : Shop) : ShopHandler :=
  onMessage (inStateWith .waitingReceipt (textStarts "/discount "))
    fun message => do
      let rest ← required .indexError
        (afterFirstWord (← textOf message).toList)
      let code := String.ofList (ChargeService.strip rest)
      let orderId := (← getData).orderId
      let order ← query fun db => orderId.bind (db.row .orders)
      match ← query (validateDiscountCode shop code), orderId with
      | none, _ => pure ()
      | some _, none => throw .typeError
      | some (discountCodeId, row), some orderId =>
          let order ← required .typeError order
          let newPrice := applyDiscount (decimal order.packagePrice) row
          executeWrite (·.modify .orders orderId
            fun order => { order with packagePrice := storeDecimal newPrice })
          incrementUsage discountCodeId

def receiveReceipt (shop : Shop) : ShopHandler :=
  onMessage (inStateWith .waitingReceipt hasPhoto) fun message => do
    let receiptFileId ← required .typeError message.photo
    let orderId ← required (.service (.valueError "سفارش پیدا نشد."))
      (← getData).orderId
    match ← attempt (.submitReceipt shop.config orderId receiptFileId) with
    | .ok _ | .error (.orderInsufficientCredit _ _ _) => clear
    | .error (.pendingOrderLimitExceeded _) => pure ()
    | .error error => throw (.service error)

def router (shop : Shop) : List ShopHandler :=
  [customerCancel, customerStart shop, showSupportFromKeyboard,
    showCatalogFromKeyboard shop, handleOperatorPick,
    handleSubcategoryPick shop, handlePackagePick, handlePackageDetailBack,
    handleBuyButton, cancelPhoneNumberEntry, receivePhoneNumberContact shop,
    receivePhoneNumberText shop, applyDiscountCode shop, receiveReceipt shop]

end CustomerOrders

namespace CustomerCharge

/-- `_show_operators` -/
def showOperators (shop : Shop) : ShopScript Unit := do
  if ← query (userHasJoinedAll shop) then
    let operators ← query (operatorsOf shop.resellerId .charge)
    if operators ≠ [] then
      let operatorMap ← query (operatorLabels operators)
      setState .browsingChargeOperators
      updateData ({ · with chargeOperatorMap := operatorMap })

def showChargeCatalogFromKeyboard (shop : Shop) : ShopHandler :=
  onMessage (textIs customerChargeButtonText) fun _ => showOperators shop

def handleChargeOperatorPick : ShopHandler :=
  onMessage (inState .browsingChargeOperators) fun message => do
    if message.text = some customerBackToMenuButtonText then backToMainMenu
    else
      match (← getData).chargeOperatorMap.get message.text with
      | none => pure ()
      | some operatorId =>
          let subcategories ← query (subcategoriesOf operatorId)
          if subcategories ≠ [] then
            let subcategoryMap ← query (subcategoryLabels subcategories)
            setState .browsingChargeSubcategories
            updateData ({ · with chargeSubcategoryMap := subcategoryMap })

def handleChargeSubcategoryPick : ShopHandler :=
  onMessage (inState .browsingChargeSubcategories) fun message => do
    if message.text = some customerBackButtonText then
      setState .browsingChargeOperators
    else
      match (← getData).chargeSubcategoryMap.get message.text with
      | none => pure ()
      | some categoryId =>
          let products ← query (activePackagesOf categoryId)
          if products ≠ [] then
            let productMap ← query (packageLabels "🔋" products)
            updateData ({ · with chargeProductMap := productMap })
            setState .browsingChargeProducts

def handleChargeProductPick : ShopHandler :=
  onMessage (inState .browsingChargeProducts) fun message => do
    if message.text = some customerBackButtonText then
      setState .browsingChargeSubcategories
    else
      match (← getData).chargeProductMap.get message.text with
      | none => pure ()
      | some packageId =>
          if ← query (isListed packageId) then
            setState .productSelected
            updateData ({ · with selectedChargePackageId := some packageId })

def handleChargeDetailBack : ShopHandler :=
  onMessage (inStateWith .productSelected (textIs customerBackButtonText))
    fun _ => setState .browsingChargeProducts

def handleBuyChargeButton : ShopHandler :=
  onMessage
    (inStateWith .productSelected (textIs customerBuyChargeButtonText))
    fun _ => do
      match (← getData).selectedChargePackageId with
      | none => backToMainMenu
      | some _ => setState .enteringQuantity

def handleChargeQuantityBack : ShopHandler :=
  onMessage (inStateWith .enteringQuantity (textIs customerBackButtonText))
    fun _ => do
      let listed ← query fun db data =>
        (ShopData.selectedChargePackageId data).any (isListed · db)
      if listed (← getData) then setState .productSelected
      else backToMainMenu

/-- The quantity in a stripped text, if it is at least one.  `int` raises for
digits that are not decimal. -/
def readQuantity (text : List Char) : Option Int :=
  if text ≠ [] ∧ text.all isDigitChar then
    (Numerals.readInteger text).filter (1 ≤ ·)
  else none

def handleChargeQuantityInput (shop : Shop) : ShopHandler :=
  onMessage (inState .enteringQuantity) fun message => do
    match (← getData).selectedChargePackageId with
    | none => backToMainMenu
    | some packageId =>
        let text := ChargeService.strip (message.text.getD "").toList
        match readQuantity text with
        | none => pure ()
        | some quantity =>
            if (← query (·.row .packages packageId)).isNone then
              backToMainMenu
            else
              let customerId ←
                getOrCreateCustomer shop.resellerId message.sender
              match ← attempt (.purchaseChargeBulk shop.resellerId packageId
                  customerId quantity shop.stamp) with
              | .ok _ | .error (.chargeCustomerBlacklisted _) => clear
              | .error (.chargeInsufficientBalance _)
              | .error (.chargeOutOfStock _ _) => pure ()
              | .error error => throw (.service error)

def router (shop : Shop) : List ShopHandler :=
  [showChargeCatalogFromKeyboard shop, handleChargeOperatorPick,
    handleChargeSubcategoryPick, handleChargeProductPick,
    handleChargeDetailBack, handleBuyChargeButton, handleChargeQuantityBack,
    handleChargeQuantityInput shop]

end CustomerCharge

namespace CustomerWallet

/-- `show_wallet` -/
def openWallet (shop : Shop) (telegramUserId : Int) : ShopScript Unit := do
  clear
  let _ ← getOrCreateCustomer shop.resellerId telegramUserId

def showWallet (shop : Shop) : ShopHandler :=
  onMessage (textIs customerWalletButtonText) fun message =>
    openWallet shop message.sender

/-- The reseller has a way of payment. -/
def takesPayments (shop : Shop) (db : Db) : Bool :=
  listCards shop.resellerId true db ≠ [] ||
    (db.row .resellers shop.resellerId).any
      (·.zarinpalMerchantId.any (· ≠ ""))

def startTopup (shop : Shop) : ShopHandler :=
  onMessage (textIs customerTopupButtonText) fun _ => do
    if ← query (takesPayments shop) then setState .choosingMethod

/-- The way of payment on a button. -/
def readTopupMethod (text : String) : Option PaymentMethod :=
  if text = customerTopupCardButtonText then some .card
  else if text = customerTopupZarinpalButtonText then some .zarinpal
  else none

def chooseTopupMethod (shop : Shop) : ShopHandler :=
  onMessage (inState .choosingMethod) fun message => do
    if message.text = some customerBackButtonText then
      clear
      openWallet shop message.sender
    else
      match message.text.bind readTopupMethod with
      | none => pure ()
      | some method =>
          updateData ({ · with topupMethod := some method })
          setState .enteringAmount

/-- `create_topup_request` -/
def createTopupRequest (resellerId customerId : Nat)
    (amount : Numerals.Decimal) (method : PaymentMethod) :
    ShopScript Nat := do
  let amount ← storedAmount amount
  executeInsert .customerWalletTopups
    (fun db => (db.row .resellers resellerId).isSome &&
      (db.row .customers customerId).isSome)
    { resellerId := resellerId
      customerId := customerId
      amount := amount
      method := method }

/-- The amount in a text, unless it is no positive number. -/
def readPositiveAmount (text : String) : Option Numerals.Decimal :=
  (typedAmount text).filter fun amount =>
    match amount with
    | .finite value => 0 < value
    | .infinity negative => !negative
    | .nan => false

def receiveTopupAmount (shop : Shop) : ShopHandler :=
  onMessage (inState .enteringAmount) fun message => do
    match readPositiveAmount (← textOf message) with
    | none => pure ()
    | some amount =>
        let method ← required .keyError (← getData).topupMethod
        let customerId ← getOrCreateCustomer shop.resellerId message.sender
        let topupId ←
          createTopupRequest shop.resellerId customerId amount method
        updateData ({ · with topupId := some topupId })
        setState .uploadingReceipt

def receiveTopupReceipt : ShopHandler :=
  onMessage (inStateWith .uploadingReceipt hasPhoto) fun message => do
    let receiptFileId ← required .typeError message.photo
    match (← getData).topupId with
    | none => pure ()
    | some topupId =>
        executeWrite (·.modify .customerWalletTopups topupId
          ({ · with receiptImage := some receiptFileId }))
    clear

def router (shop : Shop) : List ShopHandler :=
  [showWallet shop, startTopup shop, chooseTopupMethod shop,
    receiveTopupAmount shop, receiveTopupReceipt]

end CustomerWallet

end ShopBot

end Baste
