import Baste.DatabaseStatements
import Baste.HalfAwayRounding
import Mathlib.Data.Rat.Floor

/-!
# The database schema

The tables that the services and the bots read and write, with the columns
they use.  Of the clock columns only the expiry of discount codes is there.

A `DECIMAL(_, 2)` column holds an integer number of hundredths.  The exact
decimals that Python computes with are rational numbers; storing one in such a
column rounds half away from zero.
-/

namespace Baste

/-- The value of a `DECIMAL(_, 2)` column, in hundredths. -/
abbrev Cents := Int

/-- Read a column as an exact decimal. -/
def decimal (cents : Cents) : Rat :=
  (cents : Rat) / 100

/-- Store an exact decimal in a column. -/
def storeDecimal (amount : Rat) : Cents :=
  roundHalfAway (amount * 100)

@[simp]
theorem storeDecimal_decimal (cents : Cents) :
    storeDecimal (decimal cents) = cents := by
  simp [storeDecimal, decimal]

@[simp]
theorem storeDecimal_zero : storeDecimal 0 = 0 := by
  simpa [decimal] using storeDecimal_decimal 0

theorem storeDecimal_neg (amount : Rat) :
    storeDecimal (-amount) = -storeDecimal amount := by
  simp [storeDecimal, neg_mul, roundHalfAway_neg]

theorem storeDecimal_nonneg {amount : Rat} (nonneg : 0 ≤ amount) :
    0 ≤ storeDecimal amount :=
  roundHalfAway_nonneg (by positivity)

/-- The text of a column value. -/
def formatDecimal (cents : Cents) : String :=
  let sign := if cents < 0 then "-" else ""
  let fraction := cents.natAbs % 100
  let padding := if fraction < 10 then "0" else ""
  s!"{sign}{cents.natAbs / 100}.{padding}{fraction}"

inductive OrderStatus where
  | awaitingPayment
  | awaitingReceiptReview
  | confirmed
  | activated
  | rejected
  | refundPending
  | refunded
  | failedInsufficientCredit
  deriving DecidableEq, Repr

inductive OrderType where
  | package
  | charge
  deriving DecidableEq, Repr

inductive TransactionType where
  | topup
  | commissionDeduction
  | refund
  deriving DecidableEq, Repr

inductive PaymentMethod where
  | card
  | zarinpal
  | crypto
  deriving DecidableEq, Repr

inductive TransactionStatus where
  | pending
  | confirmed
  | rejected
  deriving DecidableEq, Repr

inductive TopupStatus where
  | pending
  | confirmed
  | confirmedInsufficientCredit
  | rejected
  deriving DecidableEq, Repr

inductive ReviewStatus where
  | pending
  | approved
  | rejected
  deriving DecidableEq, Repr

inductive CodeStatus where
  | available
  | sold
  deriving DecidableEq, Repr

inductive ResellerStatus where
  | active
  | suspended
  deriving DecidableEq, Repr

inductive OperatorStatus where
  | active
  | disabled
  deriving DecidableEq, Repr

inductive CatalogType where
  | package
  | charge
  deriving DecidableEq, Repr

inductive ChannelSetter where
  | admin
  | reseller
  deriving DecidableEq, Repr

structure ResellerRow where
  botTokenEncrypted : String
  botUsername : String
  telegramNumericId : Int
  status : ResellerStatus := .active
  supportContact : Option String := none
  zarinpalMerchantId : Option String := none
  orderPrefix : String
  commissionPercent : Cents
  walletCreditBalance : Cents
  creditLimitNegative : Cents
  testModeEnabled : Bool
  testModeOrderLimit : Int
  testModeOrdersUsed : Int
  deriving DecidableEq, Repr

structure ResellerOperatorRow where
  resellerId : Nat
  telegramUserId : Int
  status : OperatorStatus := .active
  deriving DecidableEq, Repr

structure ResellerPaymentCardRow where
  resellerId : Nat
  cardNumber : String
  cardHolderName : String
  bankName : Option String := none
  isActive : Bool := true
  deriving DecidableEq, Repr

structure CategoryRow where
  resellerId : Nat
  operatorName : String
  parentCategoryId : Option Nat := none
  title : String
  catalogType : CatalogType := .package
  deriving DecidableEq, Repr

structure CustomerRow where
  resellerId : Nat
  telegramUserId : Int
  walletBalance : Cents
  deriving DecidableEq, Repr

structure PackageRow where
  resellerId : Nat
  categoryId : Nat
  name : String
  salePrice : Cents
  costPrice : Option Cents := none
  isActive : Bool := true
  deriving DecidableEq, Repr

structure OrderRow where
  orderCode : String
  resellerId : Nat
  packageId : Nat
  customerId : Nat
  status : OrderStatus := .awaitingPayment
  receiptImage : Option String := none
  phoneNumber : Option String := none
  packagePrice : Cents
  commissionAmount : Cents := 0
  isTestOrder : Bool := false
  paidFromWallet : Bool := false
  orderType : OrderType := .package
  deliveredChargeCode : Option String := none
  deriving DecidableEq, Repr

structure WalletTransactionRow where
  resellerId : Nat
  type : TransactionType
  amount : Cents
  method : Option PaymentMethod := none
  status : TransactionStatus := .confirmed
  reference : Option String
  deriving DecidableEq, Repr

structure CustomerWalletTopupRow where
  resellerId : Nat
  customerId : Nat
  amount : Cents
  method : PaymentMethod
  receiptImage : Option String := none
  status : TopupStatus := .pending
  deriving DecidableEq, Repr

structure DisputeRow where
  orderId : Nat
  resellerId : Nat
  reason : String
  reviewStatus : ReviewStatus := .pending
  refundedAmount : Option Cents := none
  deriving DecidableEq, Repr

structure ChargeCodeRow where
  resellerId : Nat
  packageId : Nat
  code : String
  status : CodeStatus := .available
  soldToCustomerId : Option Nat := none
  soldOrderId : Option Nat := none
  deriving DecidableEq, Repr

structure DiscountCodeRow where
  resellerId : Nat
  code : String
  percent : Cents
  usageLimit : Int := 0
  usageCount : Int := 0
  /-- In seconds. -/
  expiresAt : Option Int := none
  isActive : Bool := true
  deriving DecidableEq, Repr

structure ReferralRow where
  resellerId : Nat
  isEnabled : Bool := false
  profitPercent : Cents := 0
  deriving DecidableEq, Repr

structure ReferralLinkRow where
  resellerId : Nat
  referrerCustomerId : Int
  referredCustomerId : Nat
  deriving DecidableEq, Repr

structure ForcedJoinChannelRow where
  resellerId : Nat
  channelId : String
  setBy : ChannelSetter
  deriving DecidableEq, Repr

structure CategoryPriceFloorRow where
  operatorName : String
  minSanePrice : Cents
  deriving DecidableEq, Repr

structure CryptoSettingRow where
  coinName : String
  address : String
  network : String
  price : Cents
  deriving DecidableEq, Repr

structure BackupLogRow where
  takenByTelegramId : Int
  fileSizeBytes : Option Nat
  note : Option String
  deriving DecidableEq, Repr

structure BlacklistRow where
  telegramUserId : Int
  reportedByResellerId : Option Nat
  reason : Option String
  isGlobal : Bool := false
  deriving DecidableEq, Repr

inductive TableName where
  | resellers
  | customers
  | packages
  | orders
  | walletTransactions
  | customerWalletTopups
  | disputes
  | chargeCodes
  | blacklist
  | resellerOperators
  | resellerPaymentCards
  | categories
  | discountCodes
  | referrals
  | referralLinks
  | forcedJoinChannels
  | categoryPriceFloors
  | cryptoSettings
  | backupLogs
  deriving DecidableEq, Repr

abbrev RowOf : TableName → Type
  | .resellers => ResellerRow
  | .customers => CustomerRow
  | .packages => PackageRow
  | .orders => OrderRow
  | .walletTransactions => WalletTransactionRow
  | .customerWalletTopups => CustomerWalletTopupRow
  | .disputes => DisputeRow
  | .chargeCodes => ChargeCodeRow
  | .blacklist => BlacklistRow
  | .resellerOperators => ResellerOperatorRow
  | .resellerPaymentCards => ResellerPaymentCardRow
  | .categories => CategoryRow
  | .discountCodes => DiscountCodeRow
  | .referrals => ReferralRow
  | .referralLinks => ReferralLinkRow
  | .forcedJoinChannels => ForcedJoinChannelRow
  | .categoryPriceFloors => CategoryPriceFloorRow
  | .cryptoSettings => CryptoSettingRow
  | .backupLogs => BackupLogRow

abbrev Db := Database TableName RowOf

/-- The entries of the only unique index besides the primary keys that the
services insert into: `uq_order_code`. -/
abbrev IndexEntry := String

abbrev RowKey := Database.Key TableName IndexEntry

abbrev dbView : Transaction.View Db RowKey :=
  Database.view IndexEntry

/-- A service function, given the rest of the program that runs it. -/
abbrev Program (Result : Type) := Transaction.Program Db RowKey Result

/-- The empty database. -/
def Db.empty : Db :=
  ⟨fun _ => .ofRows []⟩

/-- A database with the given rows. -/
def Db.filled (rows : (name : TableName) → List (RowOf name)) : Db :=
  ⟨fun name => .ofRows (rows name)⟩

end Baste
