import Baste.BotUpdates

/-!
# The bots of the resellers

Every reseller has a bot, which serves the reseller, the reseller's operators
and the customers.  This file has the states and the data of its
conversations, what its handlers use besides the database, and the functions
that several of its routers share.
-/

namespace Baste

/-- The states of a conversation, from `utils/states.py`. -/
inductive ShopState where
  | waitingReceipt
  | enteringName
  | enteringPrice
  | confirmingSuspiciousPrice
  | enteringCostPrice
  | enteringOperatorName
  | enteringSubcategoryTitle
  | editingOperatorName
  | editingSubcategoryTitle
  | editingPackageName
  | editingPackagePrice
  | confirmingSuspiciousEditPrice
  | editingPackageCostPrice
  | enteringCodes
  | enteringReason
  | enteringCreditAmount
  | enteringZarinpalAmount
  | enteringCoin
  | enteringTxHash
  | enteringCryptoAmount
  | enteringCardNumber
  | enteringCardHolder
  | enteringBankName
  | enteringZarinpalMerchant
  | enteringChannelId
  | enteringReferralPercent
  | enteringDiscountCode
  | enteringDiscountPercent
  | enteringDiscountUsageLimit
  | enteringSupportContact
  | browsingOperators
  | browsingSubcategories
  | browsingPackages
  | packageSelected
  | enteringPhoneNumber
  | browsingChargeOperators
  | browsingChargeSubcategories
  | browsingChargeProducts
  | productSelected
  | enteringQuantity
  | choosingMethod
  | enteringAmount
  | uploadingReceipt
  deriving DecidableEq, Repr

/-- A map from the labels of a keyboard to ids, in the order of insertion. -/
abbrev LabelMap := List (String × Nat)

/-- The id under a label.  A later insertion replaces an earlier one. -/
def LabelMap.get (labels : LabelMap) (text : Option String) : Option Nat :=
  text.bind fun label => (labels.reverse.lookup label)

/-- The data of a conversation, with the value of each key that is set. -/
structure ShopData where
  catalogType : Option String := none
  operatorName : Option String := none
  parentOperatorId : Option Int := none
  categoryId : Option Int := none
  packageName : Option String := none
  salePrice : Option Numerals.Decimal := none
  operatorId : Option Int := none
  subcategoryId : Option Int := none
  packageId : Option Int := none
  chargePackageId : Option Int := none
  disputeOrderId : Option Int := none
  coinName : Option String := none
  txHash : Option String := none
  cardNumber : Option String := none
  cardHolderName : Option String := none
  code : Option String := none
  percent : Option Numerals.Decimal := none
  operatorMap : LabelMap := []
  subcategoryMap : LabelMap := []
  packageMap : LabelMap := []
  selectedPackageId : Option Nat := none
  orderId : Option Nat := none
  chargeOperatorMap : LabelMap := []
  chargeSubcategoryMap : LabelMap := []
  chargeProductMap : LabelMap := []
  selectedChargePackageId : Option Nat := none
  topupMethod : Option PaymentMethod := none
  topupId : Option Nat := none

instance : EmptyCollection ShopData := ⟨{}⟩

abbrev ShopHandler := BotHandler ShopState ShopData

abbrev ShopScript (Result : Type) := BotScript ShopState ShopData Result

/-- What the dispatcher of a bot is made for. -/
structure ShopSettings where
  resellerId : Nat
  botUsername : String
  config : Config

/-- What the handlers find when an update comes: the clock in seconds, what
order codes are made of, a random token, whether the sender has joined a
channel, and how the server compares texts. -/
structure Surroundings where
  now : Int
  stamp : Nat → OrderStamp
  token : String
  hasJoined : String → Bool
  /-- Texts that it takes for the same have the same value. -/
  collate : String → String

/-- A bot while it handles an update. -/
structure Shop extends ShopSettings, Surroundings

namespace ShopBot

open BotScripts

/-- `F.text.startswith(…)` -/
def textStarts (start : String) (_ : Option ShopState) (message : Message) :
    Bool :=
  message.text.any fun text => start.toList.isPrefixOf text.toList

/-- A filter for the state and another filter. -/
def inStateWith (expected : ShopState)
    (test : Option ShopState → Message → Bool) (state : Option ShopState)
    (message : Message) : Bool :=
  inState expected state message && test state message

/-- `F.photo` -/
def hasPhoto (_ : Option ShopState) (message : Message) : Bool :=
  message.photo.isSome

/-- `F.contact` -/
def hasContact (_ : Option ShopState) (message : Message) : Bool :=
  message.contact.isSome

/-- `F.text` -/
def hasText (_ : Option ShopState) (message : Message) : Bool :=
  message.text.any (· ≠ "")

/-- `text.split(maxsplit=1)[1]` -/
def afterFirstWord (text : List Char) : Option (List Char) :=
  let word := text.dropWhile ChargeService.isSpace
  let rest := (word.dropWhile fun char => !ChargeService.isSpace char).dropWhile
    ChargeService.isSpace
  if rest = [] then none else some rest

section Services

/-- The member of the column's enumeration. -/
def readCatalogType : String → Option CatalogType
  | "package" => some .package
  | "charge" => some .charge
  | _ => none

/-- The main folders of a catalog: `parent_category_id IS NULL`. -/
def operatorsOf (resellerId : Nat) (catalogType : CatalogType) (db : Db) :
    List Nat :=
  db.idsWhere .categories fun category =>
    category.resellerId = resellerId && category.parentCategoryId = none &&
      category.catalogType = catalogType

def subcategoriesOf (operatorId : Nat) (db : Db) : List Nat :=
  db.idsWhere .categories (·.parentCategoryId = some operatorId)

def packagesOf (categoryId : Nat) (db : Db) : List Nat :=
  db.idsWhere .packages (·.categoryId = categoryId)

/-- `get_or_create_customer` -/
def getOrCreateCustomer (resellerId : Nat) (telegramUserId : Int) :
    ShopScript Nat := do
  let isCustomer (customer : CustomerRow) : Bool :=
    customer.resellerId = resellerId &&
      customer.telegramUserId = telegramUserId
  match ← query (·.idsWhere .customers isCustomer) with
  | customerId :: _ => return customerId
  | [] =>
      executeInsert .customers
        (fun db => db.idsWhere .customers isCustomer = [])
        ⟨resellerId, telegramUserId, 0⟩

/-- `get_referral_settings`, without the row that it returns. -/
def getReferralSettings (resellerId : Nat) : ShopScript Unit := do
  let ofReseller (row : ReferralRow) : Bool := row.resellerId = resellerId
  if (← query (·.idsWhere .referrals ofReseller)) = [] then
    let _ ← executeInsert .referrals
      (fun db => db.idsWhere .referrals ofReseller = [] &&
        (db.row .resellers resellerId).isSome)
      { resellerId := resellerId }

/-- The cards of a reseller, `list_cards`. -/
def listCards (resellerId : Nat) (onlyActive : Bool) (db : Db) : List Nat :=
  db.idsWhere .resellerPaymentCards fun card =>
    card.resellerId = resellerId && (card.isActive || !onlyActive)

/-- `user_has_joined_all` -/
def userHasJoinedAll (shop : Shop) (db : Db) : Bool :=
  (db.idsWhere .forcedJoinChannels (·.resellerId = shop.resellerId)).all
    fun id => (db.row .forcedJoinChannels id).all fun channel =>
      shop.hasJoined channel.channelId

end Services

end ShopBot

end Baste
