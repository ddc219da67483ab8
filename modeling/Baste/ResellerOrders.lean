import Baste.ShopBot

/-!
# The orders of a reseller

The router in `handlers/reseller/orders.py`, whose callback queries pass the
middleware in `core/permissions_middleware.py`, and the operators' command in
`handlers/operator/orders.py`.
-/

namespace Baste

namespace ShopBot

open BotScripts

/-- The user owns the bot of the reseller. -/
def isResellerOwner (resellerId : Nat) (userId : Int) (db : Db) : Bool :=
  (db.row .resellers resellerId).any (·.telegramNumericId = userId)

/-- The user is an active operator of the reseller. -/
def isActiveOperator (resellerId : Nat) (userId : Int) (db : Db) : Bool :=
  db.idsWhere .resellerOperators (fun operator =>
    operator.resellerId = resellerId && operator.telegramUserId = userId &&
      operator.status = .active) ≠ []

/-- The user may decide about the orders of the reseller. -/
def isStaff (resellerId : Nat) (userId : Int) (db : Db) : Bool :=
  isResellerOwner resellerId userId db ||
    isActiveOperator resellerId userId db

namespace ResellerOrders

/-- `OrderActionPermissionMiddleware` before a handler. -/
def onPermitted (shop : Shop) (test : Option ShopState → String → Bool)
    (action : Callback → ShopScript Unit) : ShopHandler :=
  onCallback test fun callback => do
    if ← query (isStaff shop.resellerId callback.sender) then action callback

def listPendingOrdersCb (shop : Shop) : ShopHandler :=
  onPermitted shop (dataIs "rmenu:orders") fun _ => pure ()

def approveReceipt (shop : Shop) : ShopHandler :=
  onPermitted shop (dataStarts "approve_receipt:") fun callback => do
    let orderId ← integerField callback 1
    let _ ← call (.confirmOrder (rowId orderId))

def rejectReceipt (shop : Shop) : ShopHandler :=
  onPermitted shop (dataStarts "reject_receipt:") fun callback => do
    let orderId ← integerField callback 1
    let _ ← call (.rejectOrder (rowId orderId))

def activate (shop : Shop) : ShopHandler :=
  onPermitted shop (dataStarts "activate_order:") fun callback => do
    let orderId ← integerField callback 1
    let _ ← call (.activateOrder (rowId orderId))

def confirmWalletTopup (shop : Shop) : ShopHandler :=
  onPermitted shop (dataStarts "wallet_topup_confirm:") fun callback => do
    let topupId ← integerField callback 1
    match ← attempt (.confirmCustomerTopup (rowId topupId)) with
    | .ok _ | .error (.valueError _)
    | .error (.walletTopupInsufficientCredit _ _) => pure ()
    | .error error => throw (.service error)

def rejectWalletTopup (shop : Shop) : ShopHandler :=
  onPermitted shop (dataStarts "wallet_topup_reject:") fun callback => do
    let topupId ← integerField callback 1
    let _ ← call (.rejectCustomerTopup (rowId topupId))

def openDispute (shop : Shop) : ShopHandler :=
  onPermitted shop (dataStarts "open_dispute:") fun callback => do
    let orderId ← integerField callback 1
    updateData ({ · with disputeOrderId := some orderId })
    setState .enteringReason

/-- `create_dispute` with the text of a message.  The column refuses a missing
text, but only after the order has its new status. -/
def createDispute (orderId resellerId : Nat) :
    Option String → ShopScript Unit
  | some reason => do
      let _ ← call (.createDispute orderId resellerId reason)
  | none => do
      executeWrite (·.modify .orders orderId (·.withStatus .refundPending))
      throw (.service .integrityError)

def submitDisputeReason : ShopHandler :=
  onMessage (inState .enteringReason) fun message => do
    let data ← getData
    let orderId ← required .keyError data.disputeOrderId
    let order ← required .typeError
      (← query (·.row .orders (rowId orderId)))
    createDispute (rowId orderId) order.resellerId message.text
    clear

def router (shop : Shop) : List ShopHandler :=
  [listPendingOrdersCb shop, approveReceipt shop, rejectReceipt shop,
    activate shop, confirmWalletTopup shop, rejectWalletTopup shop,
    openDispute shop, submitDisputeReason]

end ResellerOrders

namespace OperatorOrders

/-- The command `/pending_orders`, which may name the bot, with or without
arguments. -/
def isPendingOrders (shop : Shop) (_ : Option ShopState)
    (message : Message) : Bool :=
  let text := (message.text.getD (message.caption.getD "")).toList
  let command := (text.dropWhile ChargeService.isSpace).takeWhile fun char =>
    !ChargeService.isSpace char
  let name := command.takeWhile (· ≠ '@')
  let mention := (command.dropWhile (· ≠ '@')).drop 1
  name = "/pending_orders".toList &&
    (mention = [] ||
      mention.map Char.toLower = shop.botUsername.toList.map Char.toLower)

def listPendingOrders (shop : Shop) : ShopHandler :=
  onMessage (isPendingOrders shop) fun _ => pure ()

def router (shop : Shop) : List ShopHandler :=
  [listPendingOrders shop]

end OperatorOrders

end ShopBot

end Baste
