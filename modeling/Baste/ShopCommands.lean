import Baste.Keyboards
import Baste.ShopRuns

/-!
# The commands of a reseller's panel

What the buttons of the panel are for.  A command has typed arguments: ids are
numbers, and a command either is there or not.  What it does is said without
callback data.
-/

namespace Baste

open BotScripts

/-- The pages of the panel. -/
inductive PanelPage where
  | home
  | catalog
  | orders
  | wallet
  | paymentMethods
  | settings
  | reports
  | stats
  | chargeStock

/-- The entries of the pages that need no argument. -/
inductive PanelItem where
  | topupCard
  | topupZarinpal
  | topupCrypto
  | listCards
  | addCard
  | setZarinpal
  | referralPercent
  | addChannel
  | addDiscount
  | setSupportContact
  | excel

/-- What the staff do with an order or a top-up of a customer. -/
inductive ReviewAction where
  | approveReceipt
  | rejectReceipt
  | activateOrder
  | walletTopupConfirm
  | walletTopupReject
  | openDispute

/-- The pages of a catalog. -/
inductive CatalogPage where
  | menu
  | view
  | addOperator
  | addSubcategory
  | addPackage
  | manage

/-- What is done with a folder or a package. -/
inductive CatalogAction where
  | manage (target : CatalogTarget)
  | editOpName
  | editSubTitle
  | editPkgName
  | editPkgPrice
  | editPkgCost
  | togglePkg
  | delete (target : CatalogTarget)
  | deleteYes (target : CatalogTarget)
  | deleteNo (target : CatalogTarget)
  | pickOperatorForSub
  | pickOperatorForPkg
  | pickCategory

/-- The steps to a charge product. -/
inductive StockLevel where
  | operator
  | category
  | product

/-- A command, with its arguments.  The type of a catalog, the action on the
stock and the token of a price are texts that the bot writes itself. -/
inductive ShopCommand where
  | page (page : PanelPage)
  | item (item : PanelItem)
  | review (action : ReviewAction) (id : Nat)
  | toggleCard (cardId : Nat)
  | removeCard (cardId : Nat)
  | setReferral (enable : Bool)
  | confirmPrice (token : FieldText)
  | editPrice (token : FieldText)
  | confirmNewPrice (token : FieldText)
  | editNewPrice (token : FieldText)
  | catalog (page : CatalogPage) (catalogType : FieldText)
  | entry (action : CatalogAction) (catalogType : FieldText) (id : Nat)
  | stock (action : FieldText)
  | stockEntry (step : StockLevel) (action : FieldText) (id : Nat)
  | deleteCode (codeId packageId : Nat)
  | clearCodes (packageId : Nat)

section Words

def PanelPage.word : PanelPage → FieldText
  | home => ⟨"home", FieldText.colon_notMem_home⟩
  | catalog => ⟨"catalog", by decide⟩
  | orders => ⟨"orders", by decide⟩
  | wallet => ⟨"wallet", FieldText.colon_notMem_wallet⟩
  | paymentMethods => ⟨"payment_methods", by decide⟩
  | settings => ⟨"settings", by decide⟩
  | reports => ⟨"reports", by decide⟩
  | stats => ⟨"stats", by decide⟩
  | chargeStock => ⟨"charge_stock", by decide⟩

def PanelItem.words : PanelItem → List FieldText
  | topupCard =>
      [⟨"wallet", FieldText.colon_notMem_wallet⟩, ⟨"topup_card", by decide⟩]
  | topupZarinpal =>
      [⟨"wallet", FieldText.colon_notMem_wallet⟩, ⟨"topup_zarinpal", by decide⟩]
  | topupCrypto =>
      [⟨"wallet", FieldText.colon_notMem_wallet⟩, ⟨"topup_crypto", by decide⟩]
  | listCards => [⟨"pm", by decide⟩, ⟨"list_cards", by decide⟩]
  | addCard => [⟨"pm", by decide⟩, ⟨"add_card", by decide⟩]
  | setZarinpal => [⟨"pm", by decide⟩, ⟨"set_zarinpal", by decide⟩]
  | referralPercent =>
      [⟨"settings", by decide⟩, ⟨"referral_percent", by decide⟩]
  | addChannel => [⟨"settings", by decide⟩, ⟨"add_channel", by decide⟩]
  | addDiscount => [⟨"settings", by decide⟩, ⟨"add_discount", by decide⟩]
  | setSupportContact =>
      [⟨"settings", by decide⟩, ⟨"set_support_contact", by decide⟩]
  | excel => [⟨"reports", by decide⟩, ⟨"excel", by decide⟩]

def ReviewAction.word : ReviewAction → FieldText
  | approveReceipt => ⟨"approve_receipt", by decide⟩
  | rejectReceipt => ⟨"reject_receipt", by decide⟩
  | activateOrder => ⟨"activate_order", by decide⟩
  | walletTopupConfirm => ⟨"wallet_topup_confirm", by decide⟩
  | walletTopupReject => ⟨"wallet_topup_reject", by decide⟩
  | openDispute => ⟨"open_dispute", by decide⟩

def CatalogPage.word : CatalogPage → FieldText
  | menu => ⟨"menu", by decide⟩
  | view => ⟨"view", by decide⟩
  | addOperator => ⟨"add_operator", by decide⟩
  | addSubcategory => ⟨"add_subcategory", by decide⟩
  | addPackage => ⟨"add_package", by decide⟩
  | manage => ⟨"manage", by decide⟩

def CatalogAction.word : CatalogAction → FieldText
  | manage .operator => ⟨"manage_op", by decide⟩
  | manage .subcategory => ⟨"manage_sub", by decide⟩
  | manage .package => ⟨"manage_pkg", by decide⟩
  | editOpName => ⟨"edit_op_name", by decide⟩
  | editSubTitle => ⟨"edit_sub_title", by decide⟩
  | editPkgName => ⟨"edit_pkg_name", by decide⟩
  | editPkgPrice => ⟨"edit_pkg_price", by decide⟩
  | editPkgCost => ⟨"edit_pkg_cost", by decide⟩
  | togglePkg => ⟨"toggle_pkg", by decide⟩
  | delete .operator => ⟨"del_op", by decide⟩
  | delete .subcategory => ⟨"del_sub", by decide⟩
  | delete .package => ⟨"del_pkg", by decide⟩
  | deleteYes .operator => ⟨"del_op_yes", by decide⟩
  | deleteYes .subcategory => ⟨"del_sub_yes", by decide⟩
  | deleteYes .package => ⟨"del_pkg_yes", by decide⟩
  | deleteNo .operator => ⟨"del_op_no", by decide⟩
  | deleteNo .subcategory => ⟨"del_sub_no", by decide⟩
  | deleteNo .package => ⟨"del_pkg_no", by decide⟩
  | pickOperatorForSub => ⟨"pick_operator_for_sub", by decide⟩
  | pickOperatorForPkg => ⟨"pick_operator_for_pkg", by decide⟩
  | pickCategory => ⟨"pick_category", by decide⟩

def StockLevel.word : StockLevel → FieldText
  | operator => ⟨"op", by decide⟩
  | category => ⟨"cat", by decide⟩
  | product => ⟨"prod", by decide⟩

end Words

namespace ShopCommand

/-- The command as fields. -/
def fields : ShopCommand → List FieldText
  | .page shown => [⟨"rmenu", by decide⟩, shown.word]
  | .item chosen => chosen.words
  | .review action id => [action.word, .ofNat id]
  | .toggleCard id =>
      [⟨"pm", by decide⟩, ⟨"toggle_card", by decide⟩, .ofNat id]
  | .removeCard id =>
      [⟨"pm", by decide⟩, ⟨"remove_card", by decide⟩, .ofNat id]
  | .setReferral true =>
      [⟨"settings", by decide⟩, ⟨"referral_set", by decide⟩,
        ⟨"on", by decide⟩]
  | .setReferral false =>
      [⟨"settings", by decide⟩, ⟨"referral_set", by decide⟩,
        ⟨"off", by decide⟩]
  | .confirmPrice token => [⟨"price_confirm", by decide⟩, token]
  | .editPrice token => [⟨"price_edit", by decide⟩, token]
  | .confirmNewPrice token => [⟨"pkgedit_price_confirm", by decide⟩, token]
  | .editNewPrice token => [⟨"pkgedit_price_edit", by decide⟩, token]
  | .catalog shown type => [⟨"catalog", by decide⟩, shown.word, type]
  | .entry action type id =>
      [⟨"catalog", by decide⟩, action.word, type, .ofNat id]
  | .stock action => [⟨"cstock", by decide⟩, ⟨"pick", by decide⟩, action]
  | .stockEntry step action id =>
      [⟨"cstock", by decide⟩, step.word, action, .ofNat id]
  | .deleteCode codeId packageId =>
      [⟨"cstock", by decide⟩, ⟨"delcode", by decide⟩, .ofNat codeId,
        .ofNat packageId]
  | .clearCodes packageId =>
      [⟨"cstock", by decide⟩, ⟨"clearall", by decide⟩, .ofNat packageId]

/-- The callback data of a button with the command. -/
def data (command : ShopCommand) : String :=
  fieldData command.fields

end ShopCommand

namespace ShopBot

section Performing

def performItem : PanelItem → ShopScript Unit
  | .topupCard => setState .enteringCreditAmount
  | .topupZarinpal => setState .enteringZarinpalAmount
  | .topupCrypto => do
      if (← query (·.idsWhere .cryptoSettings fun _ => true)) ≠ [] then
        setState .enteringCoin
  | .addCard => setState .enteringCardNumber
  | .setZarinpal => setState .enteringZarinpalMerchant
  | .referralPercent => setState .enteringReferralPercent
  | .addChannel => setState .enteringChannelId
  | .addDiscount => setState .enteringDiscountCode
  | .setSupportContact => setState .enteringSupportContact
  | .listCards | .excel => pure ()

def performReview (action : ReviewAction) (id : Nat) : ShopScript Unit :=
  match action with
  | .approveReceipt => do let _ ← call (.confirmOrder id)
  | .rejectReceipt => do let _ ← call (.rejectOrder id)
  | .activateOrder => do let _ ← call (.activateOrder id)
  | .walletTopupConfirm => do
      match ← attempt (.confirmCustomerTopup id) with
      | .ok _ | .error (.valueError _)
      | .error (.walletTopupInsufficientCredit _ _) => pure ()
      | .error error => throw (.service error)
  | .walletTopupReject => do let _ ← call (.rejectCustomerTopup id)
  | .openDispute => do
      updateData ({ · with disputeOrderId := some (id : Int) })
      setState .enteringReason

/-- Ask for a new value. -/
def askFor (catalogType : String) (remember : ShopData → ShopData)
    (question : ShopState) : ShopScript Unit := do
  updateData fun data => remember { data with catalogType := some catalogType }
  setState question

def deleteTarget : CatalogTarget → Nat → Db → Option Db
  | .operator => ResellerCatalog.deleteOperatorTree
  | .subcategory => ResellerCatalog.deleteSubcategoryTree
  | .package => ResellerCatalog.deletePackage

/-- What is done with the folder or the package. -/
def performEntry (catalogType : String) (id : Nat) :
    CatalogAction → ShopScript Unit
  | .manage _ | .delete _ | .deleteNo _ | .pickOperatorForPkg => pure ()
  | .editOpName =>
      askFor catalogType (fun data => { data with operatorId := some (id : Int) })
        .editingOperatorName
  | .editSubTitle =>
      askFor catalogType
        (fun data => { data with subcategoryId := some (id : Int) })
        .editingSubcategoryTitle
  | .editPkgName =>
      askFor catalogType (fun data => { data with packageId := some (id : Int) })
        .editingPackageName
  | .editPkgPrice =>
      askFor catalogType (fun data => { data with packageId := some (id : Int) })
        .editingPackagePrice
  | .editPkgCost =>
      askFor catalogType (fun data => { data with packageId := some (id : Int) })
        .editingPackageCostPrice
  | .togglePkg =>
      executeWrite (·.modify .packages id
        fun package => { package with isActive := !package.isActive })
  | .deleteYes target => ResellerCatalog.inTransaction (deleteTarget target id)
  | .pickOperatorForSub => do
      let operator ← required .typeError (← query (·.row .categories id))
      updateData ({ · with
        parentOperatorId := some (id : Int)
        operatorName := some operator.operatorName
        catalogType := some catalogType })
      setState .enteringSubcategoryTitle
  | .pickCategory => do
      let category ← required .typeError (← query (·.row .categories id))
      updateData ({ · with
        categoryId := some (id : Int)
        operatorName := some category.operatorName
        catalogType := some catalogType })
      setState .enteringName

/-- What a command does. -/
def perform (shop : Shop) (sender : Int) : ShopCommand → ShopScript Unit
  | .page .settings => getReferralSettings shop.resellerId
  | .page _ => pure ()
  | .item item => performItem item
  | .review action id => do
      if ← query (isStaff shop.resellerId sender) then performReview action id
  | .toggleCard id => do
      match ← query (ResellerPaymentMethods.ownCard shop.resellerId id) with
      | none => pure ()
      | some card =>
          executeWrite (·.modify .resellerPaymentCards id
            ({ · with isActive := !card.isActive }))
  | .removeCard id => do
      if (← query (ResellerPaymentMethods.ownCard shop.resellerId id)).isSome
      then executeWrite (·.erase .resellerPaymentCards [id])
  | .setReferral enable =>
      ResellerSettings.setReferralEnabled shop.resellerId enable
  | .confirmPrice token => do
      let pending := (← get).platform.pendingPriceConfirmations token.val
      ResellerCatalog.setPendingPrice token.val none
      match pending with
      | none => pure ()
      | some salePrice =>
          updateData ({ · with salePrice := some salePrice })
          setState .enteringCostPrice
  | .editPrice token => do
      ResellerCatalog.setPendingPrice token.val none
      setState .enteringPrice
  | .confirmNewPrice token => do
      let pending := (← get).platform.pendingEditPriceConfirmations token.val
      ResellerCatalog.setPendingEditPrice token.val none
      match pending with
      | none => pure ()
      | some pending =>
          ResellerCatalog.executePrice (rowId pending.packageId)
            pending.salePrice ResellerCatalog.setSalePrice
          clear
  | .editNewPrice token => do
      ResellerCatalog.setPendingEditPrice token.val none
      setState .editingPackagePrice
  | .catalog .addOperator type => do
      updateData ({ · with catalogType := some type.val })
      setState .enteringOperatorName
  | .catalog _ _ => pure ()
  | .entry action type id => performEntry type.val id action
  | .stock _ => pure ()
  | .stockEntry .product action id => do
      if (← query (·.row .packages id)).isSome ∧ action.val = "add" then
        updateData ({ · with chargePackageId := some (id : Int) })
        setState .enteringCodes
  | .stockEntry _ _ _ => pure ()
  | .deleteCode codeId _ => do
      let _ ← call (.deleteAvailableCode codeId)
  | .clearCodes packageId => do
      let _ ← call (.clearAvailableCodes packageId)

end Performing

end ShopBot

end Baste
