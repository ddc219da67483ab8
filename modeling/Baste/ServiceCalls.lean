import Baste.CustomerWalletService
import Baste.DisputeService
import Baste.ChargeService

/-!
# Systems of service calls

The service functions that move money, orders and charge codes, as calls that
can run among any others, with one theorem for all of them: whatever else runs,
a call changes the committed database only as its guarantee says.  Not among
them are the functions that only edit settings, cards, crypto prices, channels
and discount counters, those that attach the receipt of a top-up or restore a
backup, and those that create missing rows when they look something up.
-/

namespace Baste

open Database Transaction

inductive ServiceCall where
  | deductCommission (resellerId : Nat) (amount : Rat) (orderCode : String)
  | refundCommission (resellerId : Nat) (amount : Rat) (orderCode : String)
  | requestTopup (resellerId : Nat) (amount : Rat) (method : PaymentMethod)
      (reference : Option String)
  | confirmTopup (transactionId : Nat)
  | createOrder (resellerId packageId customerId : Nat)
      (phoneNumber : Option String) (stamp : OrderStamp)
  | createOrderPaidByWallet (resellerId packageId customerId : Nat)
      (phoneNumber : Option String) (stamp : OrderStamp)
  | submitReceipt (config : Config) (orderId : Nat) (receiptFileId : String)
  | confirmOrder (orderId : Nat)
  | activateOrder (orderId : Nat)
  | rejectOrder (orderId : Nat)
  | confirmCustomerTopup (topupId : Nat)
  | rejectCustomerTopup (topupId : Nat)
  | createDispute (orderId resellerId : Nat) (reason : String)
  | approveDispute (disputeId : Nat)
  | rejectDispute (disputeId : Nat)
  | addChargeCodes (resellerId packageId : Nat) (rawText : String)
  | deleteAvailableCode (codeId : Nat)
  | clearAvailableCodes (packageId : Nat)
  | purchaseCharge (resellerId packageId customerId : Nat) (stamp : OrderStamp)
  | purchaseChargeBulk (resellerId packageId customerId : Nat)
      (quantity : Int) (stamps : Nat → OrderStamp)

/-- What the service functions return. -/
inductive Reply where
  | nothing
  | number (value : Nat)
  | order (found : Option OrderRow)
  | created (id : Nat) (order : OrderRow)
  | topup (found : Option CustomerWalletTopupRow)
  | delivered (id : Nat) (order : OrderRow) (code : String)
  | bulk (purchase : ChargeService.BulkPurchase)
  deriving DecidableEq

abbrev Outcome := Except ServiceError Reply

-- Two or three callers are numbered from 0.
instance neZero_two : NeZero 2 := ⟨two_ne_zero⟩

instance neZero_three : NeZero 3 := ⟨three_ne_zero⟩

namespace ServiceCall

/-- The end of a call. -/
def finish {Value : Type} (reply : Value → Reply)
    (result : Except ServiceError Value) : Program Outcome :=
  .done (result.map reply)

def program : ServiceCall → Program Outcome
  | deductCommission resellerId amount orderCode =>
      WalletService.deductCommission resellerId amount orderCode
        (finish fun _ => .nothing)
  | refundCommission resellerId amount orderCode =>
      WalletService.refundCommission resellerId amount orderCode
        (finish fun _ => .nothing)
  | requestTopup resellerId amount method reference =>
      WalletService.requestTopup resellerId amount method reference
        (finish .number)
  | confirmTopup transactionId =>
      WalletService.confirmTopup transactionId (finish fun _ => .nothing)
  | createOrder resellerId packageId customerId phoneNumber stamp =>
      OrderService.createOrder resellerId packageId customerId phoneNumber
        stamp (finish fun found => .created found.1 found.2)
  | createOrderPaidByWallet resellerId packageId customerId phoneNumber
      stamp =>
      OrderService.createOrderPaidByWallet resellerId packageId customerId
        phoneNumber stamp (finish fun found => .created found.1 found.2)
  | submitReceipt config orderId receiptFileId =>
      OrderService.submitReceipt config orderId receiptFileId (finish .order)
  | confirmOrder orderId =>
      OrderService.confirmOrder orderId (finish fun _ => .nothing)
  | activateOrder orderId =>
      OrderService.activateOrder orderId (finish .order)
  | rejectOrder orderId =>
      OrderService.rejectOrder orderId (finish fun _ => .nothing)
  | confirmCustomerTopup topupId =>
      CustomerWalletService.confirmTopup topupId (finish .topup)
  | rejectCustomerTopup topupId =>
      CustomerWalletService.rejectTopup topupId (finish fun _ => .nothing)
  | createDispute orderId resellerId reason =>
      DisputeService.createDispute orderId resellerId reason (finish .number)
  | approveDispute disputeId =>
      DisputeService.approveDispute disputeId (finish fun _ => .nothing)
  | rejectDispute disputeId =>
      DisputeService.rejectDispute disputeId (finish fun _ => .nothing)
  | addChargeCodes resellerId packageId rawText =>
      ChargeService.addChargeCodes resellerId packageId rawText
        (finish .number)
  | deleteAvailableCode codeId =>
      ChargeService.deleteAvailableCode codeId (finish fun _ => .nothing)
  | clearAvailableCodes packageId =>
      ChargeService.clearAvailableCodes packageId (finish .number)
  | purchaseCharge resellerId packageId customerId stamp =>
      ChargeService.purchaseCharge resellerId packageId customerId stamp
        (finish fun found => .delivered found.1.1 found.1.2 found.2)
  | purchaseChargeBulk resellerId packageId customerId quantity stamps =>
      ChargeService.purchaseChargeBulk resellerId packageId customerId
        quantity stamps (finish .bulk)

/-- What a call may do to the committed database, in a system that keeps the
invariant. -/
def guarantee (invariant : Db → Prop) : ServiceCall → Guarantee Db
  | deductCommission resellerId amount orderCode =>
      WalletService.deductionGuarantee resellerId amount orderCode
  | refundCommission resellerId amount orderCode =>
      WalletService.refundGuarantee resellerId amount orderCode
  | requestTopup resellerId amount method reference =>
      WalletService.requestGuarantee resellerId amount method reference
  | confirmTopup transactionId => WalletService.confirmGuarantee transactionId
  | createOrder resellerId packageId customerId phoneNumber _ =>
      OrderService.createOrderGuarantee resellerId packageId customerId
        phoneNumber
  | createOrderPaidByWallet resellerId packageId customerId phoneNumber _ =>
      OrderService.walletOrderGuarantee resellerId packageId customerId
        phoneNumber
  | submitReceipt _ orderId receiptFileId =>
      OrderService.submitGuarantee invariant orderId receiptFileId
  | confirmOrder orderId => OrderService.statusGuarantee orderId .confirmed
  | activateOrder orderId => OrderService.activateGuarantee invariant orderId
  | rejectOrder orderId => OrderService.statusGuarantee orderId .rejected
  | confirmCustomerTopup topupId =>
      CustomerWalletService.confirmGuarantee invariant topupId
  | rejectCustomerTopup topupId =>
      CustomerWalletService.rejectGuarantee topupId
  | createDispute orderId resellerId reason =>
      DisputeService.createGuarantee orderId resellerId reason
  | approveDispute disputeId =>
      DisputeService.approveGuarantee invariant disputeId
  | rejectDispute disputeId => DisputeService.rejectGuarantee disputeId
  | addChargeCodes resellerId packageId rawText =>
      ChargeService.addGuarantee resellerId packageId rawText
  | deleteAvailableCode _ => ChargeService.eraseGuarantee
  | clearAvailableCodes _ => ChargeService.eraseGuarantee
  | purchaseCharge resellerId packageId customerId _ =>
      ChargeService.purchaseGuarantee resellerId packageId customerId
  | purchaseChargeBulk resellerId packageId customerId _ _ =>
      ChargeService.purchaseGuarantee resellerId packageId customerId

/-- Every call keeps its guarantee, whatever runs between its statements. -/
theorem safe_program (invariant : Db → Prop) (call : ServiceCall) (state : Db) :
    call.program.Safe dbView invariant (call.guarantee invariant) none []
      state := by
  cases call with
  | deductCommission => exact WalletService.safe_deductCommission fun _ _ => trivial
  | refundCommission =>
      exact WalletService.safe_refundCommission (fun _ _ => id)
        fun _ _ => trivial
  | requestTopup => exact WalletService.safe_requestTopup fun _ _ => trivial
  | confirmTopup => exact WalletService.safe_confirmTopup fun _ _ => trivial
  | createOrder => exact OrderService.safe_createOrder fun _ _ => trivial
  | createOrderPaidByWallet =>
      exact OrderService.safe_createOrderPaidByWallet fun _ _ => trivial
  | submitReceipt => exact OrderService.safe_submitReceipt fun _ _ => trivial
  | confirmOrder => exact OrderService.safe_confirmOrder fun _ _ => trivial
  | activateOrder => exact OrderService.safe_activateOrder fun _ _ => trivial
  | rejectOrder => exact OrderService.safe_rejectOrder fun _ _ => trivial
  | confirmCustomerTopup =>
      exact CustomerWalletService.safe_confirmTopup fun _ _ => trivial
  | rejectCustomerTopup =>
      exact CustomerWalletService.safe_rejectTopup fun _ _ => trivial
  | createDispute => exact DisputeService.safe_createDispute fun _ _ => trivial
  | approveDispute =>
      exact DisputeService.safe_approveDispute fun _ _ => trivial
  | rejectDispute => exact DisputeService.safe_rejectDispute fun _ _ => trivial
  | addChargeCodes => exact ChargeService.safe_addChargeCodes fun _ _ => trivial
  | deleteAvailableCode =>
      exact ChargeService.safe_deleteAvailableCode fun _ _ => trivial
  | clearAvailableCodes =>
      exact ChargeService.safe_clearAvailableCodes fun _ _ => trivial
  | purchaseCharge => exact ChargeService.safe_purchaseCharge fun _ _ => trivial
  | purchaseChargeBulk =>
      exact ChargeService.safe_purchaseChargeBulk fun _ _ => trivial

/-- The database after a call that runs with no other call in between. -/
def runAlone (call : ServiceCall) (db : Db) : Db :=
  (call.program.runAlone none db).1

end ServiceCall

section Systems

variable {Caller : Type}

/-- Any family of calls running against one database. -/
abbrev ServiceSystem (Caller : Type) := System Caller Db RowKey Outcome

/-- All calls at their first statement. -/
def startCalls (db : Db) (calls : Caller → ServiceCall) :
    ServiceSystem Caller :=
  System.start db fun caller => (calls caller).program

variable [DecidableEq Caller]

/-- The system after some scheduling decisions. -/
abbrev runCalls (db : Db) (calls : Caller → ServiceCall)
    (events : List (Event Caller)) : ServiceSystem Caller :=
  StepRuns.final System.step (startCalls db calls) events

/-- The calls keep their guarantees from where they are. -/
abbrev SoundCalls (invariant : Db → Prop) (calls : Caller → ServiceCall) :
    ServiceSystem Caller → Prop :=
  System.Sound dbView invariant fun caller =>
    (calls caller).guarantee invariant

/-- The invariant survives everything that the calls may do. -/
abbrev PreservedBy (invariant : Db → Prop) (calls : Caller → ServiceCall) :
    Prop :=
  System.Preserves dbView invariant fun caller =>
    (calls caller).guarantee invariant

variable {invariant : Db → Prop} {calls : Caller → ServiceCall} {db : Db}

theorem soundCalls_start (holds : invariant db) :
    SoundCalls invariant calls (startCalls db calls) :=
  System.Sound.start holds fun _ => ServiceCall.safe_program invariant _ _

/-- What the calls cannot break holds in every state that is reached. -/
theorem invariant_run (preserved : PreservedBy invariant calls)
    (holds : invariant db) (events : List (Event Caller)) :
    invariant (runCalls db calls events).state :=
  (StepRuns.final_of_invariant (SoundCalls invariant calls)
    (fun _ event sound => (sound.step preserved event).1)
    (soundCalls_start holds) events).holds

end Systems

def shopCustomer : CustomerRow where
  resellerId := 1
  telegramUserId := 7
  walletBalance := 2000

def shopPackage : PackageRow where
  resellerId := 1
  categoryId := 1
  name := "1 GB"
  salePrice := 800

def shopReseller : ResellerRow where
  botTokenEncrypted := "gAAAAA"
  botUsername := "shop_bot"
  telegramNumericId := 1001
  orderPrefix := "AR"
  commissionPercent := 1000
  walletCreditBalance := 1000
  creditLimitNegative := 0
  testModeEnabled := false
  testModeOrderLimit := 0
  testModeOrdersUsed := 0

/-- A shop for examples: one product of 8.00, one code of it, and a pending top-up of
5.00. -/
def shopDb : Db :=
  .filled fun
    | .resellers => [shopReseller]
    | .customers => [shopCustomer]
    | .packages => [shopPackage]
    | .customerWalletTopups =>
        [{ resellerId := 1, customerId := 1, amount := 500, method := .card }]
    | .chargeCodes => [{ resellerId := 1, packageId := 1, code := "A1" }]
    | _ => []

def shopStamp (suffix : String) : OrderStamp where
  now := ⟨2024, 1, 31, 12, 0, 0⟩
  suffix := suffix

end Baste
