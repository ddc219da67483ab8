import Baste.ResellerOrders

/-!
# The panel of a reseller

The routers in `handlers/reseller` besides those for orders and the catalog:
the entry, the stock of charge codes, the commission wallet, the settings, the
reports and the ways of payment.  Only the entry asks who sends an update.
-/

namespace Baste

namespace ShopBot

open BotScripts

namespace ResellerStart

/-- A handler for messages of the owner.  Whether the sender is the owner is
part of the filter. -/
def onOwnerMessage (isOwner : Int → Bool)
    (test : Option ShopState → Message → Bool)
    (action : Message → ShopScript Unit) : ShopHandler :=
  onMessage (fun state message => test state message && isOwner message.sender)
    action

def resellerStart (isOwner : Int → Bool) : ShopHandler :=
  onOwnerMessage isOwner (textStarts "/start") fun _ => pure ()

def resellerCancel (isOwner : Int → Bool) : ShopHandler :=
  onOwnerMessage isOwner (textIs "/cancel") fun _ => do
    if (← getState).isSome then clear

def backHome : ShopHandler :=
  onCallback (dataIs "rmenu:home") fun _ => pure ()

def router (isOwner : Int → Bool) : List ShopHandler :=
  [resellerStart isOwner, resellerCancel isOwner, backHome]

end ResellerStart

namespace ResellerChargeStock

def chargeStockMenuCb : ShopHandler :=
  onCallback (dataIs "rmenu:charge_stock") fun _ => pure ()

def pickOperatorForAction : ShopHandler :=
  onCallback (dataStarts "cstock:pick:") fun callback => do
    let _ ← dataField callback 2

/-- The action and the id in callback data. -/
def actionAndId (callback : Callback) : ShopScript (String × Int) := do
  let action ← dataField callback 2
  return (action, ← integerField callback 3)

def pickCategoryForAction : ShopHandler :=
  onCallback (dataStarts "cstock:op:") fun callback => do
    let _ ← actionAndId callback

def pickProductForAction : ShopHandler :=
  onCallback (dataStarts "cstock:cat:") fun callback => do
    let _ ← actionAndId callback

def actOnProduct : ShopHandler :=
  onCallback (dataStarts "cstock:prod:") fun callback => do
    let (action, packageId) ← actionAndId callback
    if (← query (·.row .packages (rowId packageId))).isSome ∧
        action = "add" then
      updateData ({ · with chargePackageId := some packageId })
      setState .enteringCodes

def receiveChargeCodes (shop : Shop) : ShopHandler :=
  onMessage (inState .enteringCodes) fun message => do
    let data ← getData
    match data.chargePackageId, message.text with
    | some packageId, some text =>
        if text ≠ "" then
          let added ← call
            (.addChargeCodes shop.resellerId (rowId packageId) text)
          if added ≠ .number 0 then clear
    | _, _ => pure ()

def deleteSingleCode : ShopHandler :=
  onCallback (dataStarts "cstock:delcode:") fun callback => do
    let codeId ← integerField callback 2
    let _ ← integerField callback 3
    let _ ← call (.deleteAvailableCode (rowId codeId))

def clearAllCodes : ShopHandler :=
  onCallback (dataStarts "cstock:clearall:") fun callback => do
    let packageId ← integerField callback 2
    let _ ← call (.clearAvailableCodes (rowId packageId))

def router (shop : Shop) : List ShopHandler :=
  [chargeStockMenuCb, pickOperatorForAction, pickCategoryForAction,
    pickProductForAction, actOnProduct, receiveChargeCodes shop,
    deleteSingleCode, clearAllCodes]

end ResellerChargeStock

namespace ResellerWallet

def walletMenu : ShopHandler :=
  onCallback (dataIs "rmenu:wallet") fun _ => pure ()

/-- `request_topup` with an amount and a reference from messages. -/
def requestTopup (resellerId : Nat) (amount : Numerals.Decimal)
    (method : PaymentMethod) (reference : Option String) :
    ShopScript Unit := do
  match amount with
  | .finite amount =>
      if reference.all (·.length ≤ 64) then
        let _ ← call (.requestTopup resellerId amount method reference)
      else throw (.service .dataError)
  | _ => throw (.service .dataError)

def startTopupCard : ShopHandler :=
  onCallback (dataIs "wallet:topup_card") fun _ =>
    setState .enteringCreditAmount

def receiveTopupAmount (shop : Shop) : ShopHandler :=
  onMessage (inState .enteringCreditAmount) fun message => do
    match typedAmount (← textOf message) with
    | none => pure ()
    | some amount =>
        requestTopup shop.resellerId amount .card none
        clear

def startTopupZarinpal : ShopHandler :=
  onCallback (dataIs "wallet:topup_zarinpal") fun _ =>
    setState .enteringZarinpalAmount

/-- Whether or not there is a link for the payment, the conversation ends. -/
def receiveZarinpalAmount : ShopHandler :=
  onMessage (inState .enteringZarinpalAmount) fun message => do
    let text := (← textOf message).toList.filter (· ≠ ',')
    if (typedInteger (String.ofList text)).isSome then clear

def showCryptoOptions : ShopHandler :=
  onCallback (dataIs "wallet:topup_crypto") fun _ => do
    if (← query (·.idsWhere .cryptoSettings fun _ => true)) ≠ [] then
      setState .enteringCoin

def receiveCryptoCoin : ShopHandler :=
  onMessage (inState .enteringCoin) fun message => do
    let coinName ← strippedText message
    updateData ({ · with coinName := some coinName })
    setState .enteringTxHash

def receiveCryptoTxHash : ShopHandler :=
  onMessage (inState .enteringTxHash) fun message => do
    let txHash ← strippedText message
    updateData ({ · with txHash := some txHash })
    setState .enteringCryptoAmount

def receiveCryptoAmountAndSave (shop : Shop) : ShopHandler :=
  onMessage (inState .enteringCryptoAmount) fun message => do
    match typedAmount (← textOf message) with
    | none => pure ()
    | some amount =>
        let data ← getData
        let coinName ← required .keyError data.coinName
        let txHash ← required .keyError data.txHash
        requestTopup shop.resellerId amount .crypto
          (some s!"{coinName}:{txHash}")
        clear

def router (shop : Shop) : List ShopHandler :=
  [walletMenu, startTopupCard, receiveTopupAmount shop, startTopupZarinpal,
    receiveZarinpalAmount, showCryptoOptions, receiveCryptoCoin,
    receiveCryptoTxHash, receiveCryptoAmountAndSave shop]

end ResellerWallet

namespace ResellerSettings

def settingsMenu (shop : Shop) : ShopHandler :=
  onCallback (dataIs "rmenu:settings") fun _ =>
    getReferralSettings shop.resellerId

/-- Update the settings of a reseller. -/
def updateReferrals (resellerId : Nat) (change : ReferralRow → ReferralRow) :
    ShopScript Unit :=
  executeWrite fun db =>
    (db.idsWhere .referrals (·.resellerId = resellerId)).foldl
      (fun db id => db.modify .referrals id change) db

/-- `set_referral_enabled` -/
def setReferralEnabled (resellerId : Nat) (enabled : Bool) :
    ShopScript Unit := do
  getReferralSettings resellerId
  updateReferrals resellerId ({ · with isEnabled := enabled })

/-- `set_referral_profit_percent` -/
def setReferralProfitPercent (resellerId : Nat)
    (percent : Numerals.Decimal) : ShopScript Unit := do
  getReferralSettings resellerId
  let percent ← storedAmount percent
  updateReferrals resellerId ({ · with profitPercent := percent })

def toggleReferral (shop : Shop) : ShopHandler :=
  onCallback (dataStarts "settings:referral_set:") fun callback => do
    let enable := (← dataField callback 2) = "on"
    setReferralEnabled shop.resellerId enable

def startReferralPercent : ShopHandler :=
  onCallback (dataIs "settings:referral_percent") fun _ =>
    setState .enteringReferralPercent

def receiveReferralPercent (shop : Shop) : ShopHandler :=
  onMessage (inState .enteringReferralPercent) fun message => do
    match typedDecimal (← textOf message) with
    | none => pure ()
    | some percent =>
        setReferralProfitPercent shop.resellerId percent
        clear

def startAddChannel : ShopHandler :=
  onCallback (dataIs "settings:add_channel") fun _ =>
    setState .enteringChannelId

def receiveChannelId (shop : Shop) : ShopHandler :=
  onMessage (inState .enteringChannelId) fun message => do
    let channelId ← strippedText message
    let _ ← executeInsert .forcedJoinChannels
      (fun db => channelId.length ≤ 64 &&
        (db.row .resellers shop.resellerId).isSome)
      ⟨shop.resellerId, channelId, .reseller⟩
    clear

def startAddDiscount : ShopHandler :=
  onCallback (dataIs "settings:add_discount") fun _ =>
    setState .enteringDiscountCode

def receiveDiscountCode : ShopHandler :=
  onMessage (inState .enteringDiscountCode) fun message => do
    let code := Uppercase.upper (← strippedText message)
    updateData ({ · with code := some code })
    setState .enteringDiscountPercent

def receiveDiscountPercent : ShopHandler :=
  onMessage (inState .enteringDiscountPercent) fun message => do
    match typedDecimal (← textOf message) with
    | none => pure ()
    | some percent =>
        updateData ({ · with percent := some percent })
        setState .enteringDiscountUsageLimit

/-- The constraints on a new discount code. -/
def discountInsertable (collate : String → String) (row : DiscountCodeRow)
    (db : Db) : Bool :=
  row.code.length ≤ 32 && -2 ^ 31 ≤ row.usageLimit &&
    row.usageLimit < 2 ^ 31 && (db.row .resellers row.resellerId).isSome &&
    db.idsWhere .discountCodes (fun other =>
      other.resellerId = row.resellerId &&
        collate other.code = collate row.code) = []

def receiveDiscountUsageLimitAndSave (shop : Shop) : ShopHandler :=
  onMessage (inState .enteringDiscountUsageLimit) fun message => do
    match typedInteger (← textOf message) with
    | none => pure ()
    | some usageLimit =>
        let data ← getData
        let code ← required .keyError data.code
        let percent ← storedAmount (← required .keyError data.percent)
        let row : DiscountCodeRow :=
          { resellerId := shop.resellerId
            code := code
            percent := percent
            usageLimit := usageLimit }
        let _ ← executeInsert .discountCodes
          (discountInsertable shop.collate row) row
        clear

def startSetSupportContact : ShopHandler :=
  onCallback (dataIs "settings:set_support_contact") fun _ =>
    setState .enteringSupportContact

def receiveSupportContact (shop : Shop) : ShopHandler :=
  onMessage (inState .enteringSupportContact) fun message => do
    let contact ← strippedText message
    executeUpdate .resellers shop.resellerId (contact.length ≤ 128)
      ({ · with supportContact := some contact })
    clear

def router (shop : Shop) : List ShopHandler :=
  [settingsMenu shop, toggleReferral shop, startReferralPercent,
    receiveReferralPercent shop, startAddChannel, receiveChannelId shop,
    startAddDiscount, receiveDiscountCode, receiveDiscountPercent,
    receiveDiscountUsageLimitAndSave shop, startSetSupportContact,
    receiveSupportContact shop]

end ResellerSettings

namespace ResellerReports

def showReportCb : ShopHandler :=
  onCallback (dataIs "rmenu:reports") fun _ => pure ()

def exportExcelCb : ShopHandler :=
  onCallback (dataIs "reports:excel") fun _ => pure ()

def router : List ShopHandler :=
  [showReportCb, exportExcelCb]

end ResellerReports

namespace ResellerStats

def showStatsCb : ShopHandler :=
  onCallback (dataIs "rmenu:stats") fun _ => pure ()

def router : List ShopHandler :=
  [showStatsCb]

end ResellerStats

namespace ResellerPaymentMethods

def paymentMethodsMenu : ShopHandler :=
  onCallback (dataIs "rmenu:payment_methods") fun _ => pure ()

def listCardsCb : ShopHandler :=
  onCallback (dataIs "pm:list_cards") fun _ => pure ()

/-- The card, if it belongs to the reseller. -/
def ownCard (resellerId : Nat) (cardId : Int) (db : Db) :
    Option ResellerPaymentCardRow :=
  (db.row .resellerPaymentCards (rowId cardId)).filter
    (·.resellerId = resellerId)

def toggleCardCb (shop : Shop) : ShopHandler :=
  onCallback (dataStarts "pm:toggle_card:") fun callback => do
    let cardId ← integerField callback 2
    match ← query (ownCard shop.resellerId cardId) with
    | none => pure ()
    | some card =>
        executeWrite (·.modify .resellerPaymentCards (rowId cardId)
          ({ · with isActive := !card.isActive }))

def removeCardCb (shop : Shop) : ShopHandler :=
  onCallback (dataStarts "pm:remove_card:") fun callback => do
    let cardId ← integerField callback 2
    if (← query (ownCard shop.resellerId cardId)).isSome then
      executeWrite (·.erase .resellerPaymentCards [rowId cardId])

def startAddCard : ShopHandler :=
  onCallback (dataIs "pm:add_card") fun _ => setState .enteringCardNumber

def receiveCardNumber : ShopHandler :=
  onMessage (inState .enteringCardNumber) fun message => do
    let text := (← textOf message).toList.filter fun char =>
      char ≠ '-' && char ≠ ' '
    let cardNumber := ChargeService.strip text
    if cardNumber.all isDigitChar && cardNumber.length = 16 then
      updateData ({ · with cardNumber := some (String.ofList cardNumber) })
      setState .enteringCardHolder

def receiveCardHolder : ShopHandler :=
  onMessage (inState .enteringCardHolder) fun message => do
    let holder ← strippedText message
    updateData ({ · with cardHolderName := some holder })
    setState .enteringBankName

def receiveBankNameAndSave (shop : Shop) : ShopHandler :=
  onMessage (inState .enteringBankName) fun message => do
    let text ← strippedText message
    let bankName := if text = "-" then none else some text
    let data ← getData
    let cardNumber ← required .keyError data.cardNumber
    let cardHolderName ← required .keyError data.cardHolderName
    let _ ← executeInsert .resellerPaymentCards
      (fun db => cardHolderName.length ≤ 64 && bankName.all (·.length ≤ 64) &&
        (db.row .resellers shop.resellerId).isSome)
      { resellerId := shop.resellerId
        cardNumber := cardNumber
        cardHolderName := cardHolderName
        bankName := bankName }
    clear

def showZarinpal : ShopHandler :=
  onCallback (dataIs "pm:set_zarinpal") fun _ =>
    setState .enteringZarinpalMerchant

def receiveZarinpalMerchant (shop : Shop) : ShopHandler :=
  onMessage (inState .enteringZarinpalMerchant) fun message => do
    let merchantId ← strippedText message
    executeUpdate .resellers shop.resellerId (merchantId.length ≤ 64)
      ({ · with zarinpalMerchantId := some merchantId })
    clear

def router (shop : Shop) : List ShopHandler :=
  [paymentMethodsMenu, listCardsCb, toggleCardCb shop, removeCardCb shop,
    startAddCard, receiveCardNumber, receiveCardHolder,
    receiveBankNameAndSave shop, showZarinpal, receiveZarinpalMerchant shop]

end ResellerPaymentMethods

end ShopBot

end Baste
