import Baste.WalletService
import Baste.BlacklistService

/-!
# Orders

The order flow: creating an order, paying it by receipt or from the customer's
wallet, and the reseller's decisions on it.  An order code is made from the
clock and a random suffix, which are arguments of the call.
-/

namespace Baste

open Database Transaction

/-- The settings that come from the environment. -/
structure Config where
  maxPendingOrdersPerCustomer : Int := 3

/-- A reading of the clock, to the second. -/
structure ClockReading where
  year : Nat
  month : Nat
  day : Nat
  hour : Nat
  minute : Nat
  second : Nat
  deriving DecidableEq, Repr

def twoDigits (number : Nat) : String :=
  if number < 10 then s!"0{number}" else s!"{number}"

/-- `%y%m%d` -/
def ClockReading.date (now : ClockReading) : String :=
  twoDigits (now.year % 100) ++ twoDigits now.month ++ twoDigits now.day

/-- `%H%M%S` -/
def ClockReading.time (now : ClockReading) : String :=
  twoDigits now.hour ++ twoDigits now.minute ++ twoDigits now.second

/-- What an order code is made of besides the reseller's own letters. -/
structure OrderStamp where
  now : ClockReading
  suffix : String
  deriving DecidableEq, Repr

/-- The reseller is in test mode and has test orders left. -/
def ResellerRow.takesTestOrder (reseller : ResellerRow) : Bool :=
  reseller.testModeEnabled &&
    reseller.testModeOrdersUsed < reseller.testModeOrderLimit

/-- The reseller after one more successful test order.  The server evaluates
the assignments from left to right, so the test for the end of the test mode
already sees the incremented counter. -/
def ResellerRow.withTestOrderUsed (reseller : ResellerRow) : ResellerRow :=
  let used := reseller.testModeOrdersUsed + 1
  { reseller with
    testModeOrdersUsed := used
    testModeEnabled :=
      if used + 1 ≥ reseller.testModeOrderLimit then false
      else reseller.testModeEnabled }

def CustomerRow.withBalance (balance : Cents) (customer : CustomerRow) :
    CustomerRow :=
  { customer with walletBalance := balance }

def OrderRow.withStatus (status : OrderStatus) (order : OrderRow) : OrderRow :=
  { order with status := status }

/-- The order after its receipt has arrived. -/
def OrderRow.withReceipt (status : OrderStatus) (receiptFileId : String)
    (commission : Rat) (isTestOrder : Bool) (order : OrderRow) : OrderRow :=
  { order with
    status := status
    receiptImage := some receiptFileId
    commissionAmount := storeDecimal commission
    isTestOrder := isTestOrder }

namespace OrderService

variable {Result : Type}

def countPendingOrders (db : Db) (customerId : Nat) : Nat :=
  db.count .orders fun order =>
    order.customerId = customerId && order.status = .awaitingReceiptReview

def generateOrderCode (orderPrefix : String) (stamp : OrderStamp) : String :=
  s!"{orderPrefix}-{stamp.now.date}-{stamp.now.time}{stamp.suffix}"

/-- The column of the phone number holds the one of the order. -/
def phoneNumberFits (order : OrderRow) : Bool :=
  order.phoneNumber.all (·.length ≤ 20)

/-- The constraints on a new order: its code is new, the rows it refers to are
there, and its phone number fits. -/
def orderInsertable (db : Db) (order : OrderRow) : Bool :=
  db.idsWhere .orders (·.orderCode = order.orderCode) = [] &&
    (db.row .resellers order.resellerId).isSome &&
    (db.row .packages order.packageId).isSome &&
    (db.row .customers order.customerId).isSome && phoneNumberFits order

def insertOrder (order : OrderRow)
    (next : Option Nat → Program Result) : Program Result :=
  insertRow .orders [order.orderCode] (orderInsertable · order) order next

/-- Why an order was not inserted.  The server reads the values before it looks
at the keys. -/
def insertionError (order : OrderRow) : ServiceError :=
  if phoneNumberFits order then .integrityError else .dataError

/-- The order with the given code, with its id. -/
def findOrder (db : Db) (orderCode : String) : Option (Nat × OrderRow) :=
  (db.idsWhere .orders (·.orderCode = orderCode)).head?.bind fun id =>
    (db.row .orders id).map (id, ·)

/-- Fetch the order that has just been inserted. -/
def fetchInserted (orderCode : String)
    (next : Except ServiceError (Nat × OrderRow) → Program Result) :
    Program Result :=
  .select fun now =>
    match findOrder now orderCode with
    | some found => next (.ok found)
    | none =>
        next (.error (.runtimeError
          s!"سفارش {orderCode} درست ثبت شد ولی بلافاصله پیدا نشد."))

/-- Go on unless the customer is known and blacklisted. -/
def refuseBlacklisted (customer : Option CustomerRow) (resellerId : Nat)
    (refused : Program Result) (next : Program Result) : Program Result :=
  match customer with
  | none => next
  | some customer =>
      BlacklistService.isBlacklisted customer.telegramUserId (some resellerId)
        fun listed => if listed then refused else next

def blacklistedError : ServiceError :=
  .customerBlacklisted "این مشتری در لیست سیاه است و امکان ثبت سفارش ندارد."

def createOrder (resellerId packageId customerId : Nat)
    (phoneNumber : Option String) (stamp : OrderStamp)
    (next : Except ServiceError (Nat × OrderRow) → Program Result) :
    Program Result :=
  .select fun now =>
    refuseBlacklisted (now.row .customers customerId) resellerId
      (next (.error blacklistedError)) <|
      .select fun now =>
        let reseller := now.row .resellers resellerId
        .select fun now =>
          match now.row .packages packageId, reseller with
          | none, _ => next (.error (.valueError "بسته پیدا نشد."))
          | some _, none => next (.error .noneNotSubscriptable)
          | some package, some reseller =>
              let orderCode := generateOrderCode reseller.orderPrefix stamp
              let order : OrderRow :=
                { orderCode := orderCode
                  resellerId := resellerId
                  packageId := packageId
                  customerId := customerId
                  packagePrice := package.salePrice
                  phoneNumber := phoneNumber }
              insertOrder order fun
                | none => next (.error (insertionError order))
                | some _ => fetchInserted orderCode next

def insufficientBalanceError : ServiceError :=
  .walletInsufficientBalance "موجودی کیف‌پول کافی نیست."

/-- The row of an order that is paid from the wallet. -/
def walletOrder (orderCode : String) (resellerId packageId customerId : Nat)
    (price : Cents) (phoneNumber : Option String) : OrderRow where
  orderCode := orderCode
  resellerId := resellerId
  packageId := packageId
  customerId := customerId
  status := .confirmed
  packagePrice := price
  paidFromWallet := true
  phoneNumber := phoneNumber

def createOrderPaidByWallet (resellerId packageId customerId : Nat)
    (phoneNumber : Option String) (stamp : OrderStamp)
    (next : Except ServiceError (Nat × OrderRow) → Program Result) :
    Program Result :=
  .select fun now =>
    let customer := now.row .customers customerId
    refuseBlacklisted customer resellerId (next (.error blacklistedError)) <|
      .select fun now =>
        let reseller := now.row .resellers resellerId
        .select fun now =>
          match now.row .packages packageId, customer, reseller with
          | none, _, _ => next (.error (.valueError "بسته پیدا نشد."))
          | some _, none, _ => next (.error .noneNotSubscriptable)
          | some package, some customer, reseller =>
              if customer.walletBalance < package.salePrice then
                next (.error insufficientBalanceError)
              else
                match reseller with
                | none => next (.error .noneNotSubscriptable)
                | some reseller =>
                    payFromWallet package.salePrice
                      (generateOrderCode reseller.orderPrefix stamp)
where
  payFromWallet (price : Cents) (orderCode : String) : Program Result :=
    .begin <|
      .selectForUpdate (fun _ => [.row .customers customerId]) fun now =>
        match now.row .customers customerId with
        | none => .rollback (next (.error .noneNotSubscriptable))
        | some customer =>
            if customer.walletBalance < price then
              .rollback (next (.error insufficientBalanceError))
            else
              updateRow .customers customerId
                  (fun customer =>
                    customer.withBalance (customer.walletBalance - price)) <|
                let order := walletOrder orderCode resellerId packageId
                  customerId price phoneNumber
                insertOrder order fun
                  | none => .rollback (next (.error (insertionError order)))
                  | some _ => .commit (fetchInserted orderCode next)

/-- The commission on an order, before it is stored. -/
def commissionOf (order : OrderRow) (reseller : ResellerRow) : Rat :=
  decimal order.packagePrice * decimal reseller.commissionPercent / 100

def pendingLimitError (pendingCount : Nat) : ServiceError :=
  .pendingOrderLimitExceeded
    s!"این مشتری در حال حاضر {pendingCount} سفارش در انتظار تأیید دارد؛ باید ابتدا آن‌ها بررسی/رد یا تأیید شوند."

def submitReceipt (config : Config) (orderId : Nat) (receiptFileId : String)
    (next : Except ServiceError (Option OrderRow) → Program Result) :
    Program Result :=
  .select fun now =>
    match now.row .orders orderId with
    | none => next (.error (.valueError "سفارش پیدا نشد."))
    | some order =>
        .select fun now =>
          let pendingCount := countPendingOrders now order.customerId
          if config.maxPendingOrdersPerCustomer ≤ pendingCount then
            next (.error (pendingLimitError pendingCount))
          else
            .select fun now =>
              match now.row .resellers order.resellerId with
              | none => next (.error .noneNotSubscriptable)
              | some reseller =>
                  if reseller.takesTestOrder then
                    .begin <| acceptReceipt 0 true
                  else
                    let commission := commissionOf order reseller
                    .begin <|
                      WalletService.deductCommissionInTx order.resellerId
                        commission order.orderCode fun
                        | .ok () => acceptReceipt commission false
                        | .error (.insufficientCredit _) =>
                            updateRow .orders orderId
                                (·.withReceipt .failedInsufficientCredit
                                  receiptFileId commission false) <|
                              .commit <|
                                next (.error (.orderInsufficientCredit orderId
                                  order.resellerId order.orderCode))
                        | .error error => .rollback (next (.error error))
where
  acceptReceipt (commission : Rat) (isTestOrder : Bool) : Program Result :=
    updateRow .orders orderId
        (·.withReceipt .awaitingReceiptReview receiptFileId commission
          isTestOrder) <|
      .commit <| .select fun now => next (.ok (now.row .orders orderId))

def incrementTestCounterIfNeeded (resellerId orderId : Nat)
    (next : Program Result) : Program Result :=
  .select fun now =>
    match now.row .orders orderId with
    | none => next
    | some order =>
        if order.isTestOrder then
          updateRow .resellers resellerId (·.withTestOrderUsed) next
        else next

def confirmOrder (orderId : Nat)
    (next : Except ServiceError Unit → Program Result) : Program Result :=
  updateRow .orders orderId (·.withStatus .confirmed) <| next (.ok ())

def activateOrder (orderId : Nat)
    (next : Except ServiceError (Option OrderRow) → Program Result) :
    Program Result :=
  .select fun now =>
    let order := now.row .orders orderId
    updateRow .orders orderId (·.withStatus .activated) <|
      match order with
      | none => next (.error .noneNotSubscriptable)
      | some order =>
          incrementTestCounterIfNeeded order.resellerId orderId <|
            .select fun now => next (.ok (now.row .orders orderId))

def rejectOrder (orderId : Nat)
    (next : Except ServiceError Unit → Program Result) : Program Result :=
  updateRow .orders orderId (·.withStatus .rejected) <| next (.ok ())

section Alone

variable {orderId : Nat} {db : Db} {Reply : Type}

/-- What `submitReceipt` leaves behind when it runs alone. -/
def receiptSubmitted (config : Config) (orderId : Nat)
    (receiptFileId : String) (db : Db) : Db :=
  match db.row .orders orderId with
  | none => db
  | some order =>
      if config.maxPendingOrdersPerCustomer ≤
          countPendingOrders db order.customerId then db
      else
        match db.row .resellers order.resellerId with
        | none => db
        | some reseller =>
            if reseller.takesTestOrder then
              db.modify .orders orderId
                (·.withReceipt .awaitingReceiptReview receiptFileId 0 true)
            else
              let commission := commissionOf order reseller
              if WalletService.ExceedsCredit reseller commission then
                db.modify .orders orderId
                  (·.withReceipt .failedInsufficientCredit receiptFileId
                    commission false)
              else
                (WalletService.deducted reseller.walletCreditBalance
                  order.resellerId commission order.orderCode
                  (db.nextId .walletTransactions)
                  (db.reserve .walletTransactions)).modify .orders orderId
                    (·.withReceipt .awaitingReceiptReview receiptFileId
                      commission false)

theorem runAlone_submitReceipt {config : Config} {receiptFileId : String}
    {reply : Except ServiceError (Option OrderRow) → Reply} :
    ((submitReceipt config orderId receiptFileId fun result =>
        .done (reply result)).runAlone none db).1 =
      receiptSubmitted config orderId receiptFileId db := by
  unfold submitReceipt receiptSubmitted
  rw [Program.runAlone_select]
  cases db.row .orders orderId with
  | none => rfl
  | some order =>
      dsimp only
      rw [Program.runAlone_select]
      split_ifs with full
      · rfl
      · rw [Program.runAlone_select]
        cases found : db.row .resellers order.resellerId with
        | none => rfl
        | some reseller =>
            dsimp only
            split_ifs with isTest exceeds
            · rfl
            · rw [Program.runAlone_begin]
              obtain ⟨message, raised⟩ :=
                WalletService.runAlone_deductCommissionInTx_exceeded found
                  exceeds
              rw [raised]
              rfl
            · rw [Program.runAlone_begin,
                WalletService.runAlone_deductCommissionInTx found exceeds]
              rfl

/-- What `activateOrder` leaves behind when it runs alone. -/
def orderActivated (orderId : Nat) (db : Db) : Db :=
  let activated := db.modify .orders orderId (·.withStatus .activated)
  match db.row .orders orderId with
  | none => activated
  | some order =>
      if order.isTestOrder then
        activated.modify .resellers order.resellerId (·.withTestOrderUsed)
      else activated

theorem runAlone_activateOrder
    {reply : Except ServiceError (Option OrderRow) → Reply} :
    ((activateOrder orderId fun result => .done (reply result)).runAlone none
        db).1 =
      orderActivated orderId db := by
  unfold activateOrder orderActivated
  rw [Program.runAlone_select]
  cases found : db.row .orders orderId with
  | none => rfl
  | some order =>
      cases isTest : order.isTestOrder <;>
        simp [incrementTestCounterIfNeeded, found, OrderRow.withStatus, isTest]

theorem runAlone_refuseBlacklisted {refused next : Program Result}
    {resellerId : Nat} (customer : Option CustomerRow) :
    (refuseBlacklisted customer resellerId refused next).runAlone none db =
      if customer.any (fun customer => BlacklistService.blacklisted db
          customer.telegramUserId (some resellerId)) then
        refused.runAlone none db
      else next.runAlone none db := by
  cases customer with
  | none => rfl
  | some customer =>
      rw [refuseBlacklisted, BlacklistService.runAlone_isBlacklisted,
        Option.any_some]
      split <;> rfl

/-- An order whose code no other order has is found under its code. -/
theorem findOrder_eq {order : OrderRow}
    (found : db.row .orders orderId = some order)
    (only : ∀ id other, db.row .orders id = some other →
      other.orderCode = order.orderCode → id = orderId) :
    findOrder db order.orderCode = some (orderId, order) := by
  have member : orderId ∈
      db.idsWhere .orders (·.orderCode = order.orderCode) :=
    mem_idsWhere.mpr ⟨order, found, decide_eq_true rfl⟩
  have first : (db.idsWhere .orders (·.orderCode = order.orderCode)).head? =
      some orderId := by
    cases ids : db.idsWhere .orders (·.orderCode = order.orderCode) with
    | nil =>
        rw [ids] at member
        cases member
    | cons id rest =>
        have isFirst : id ∈
            db.idsWhere .orders (·.orderCode = order.orderCode) := by
          rw [ids]
          exact List.mem_cons_self
        obtain ⟨other, present, same⟩ := mem_idsWhere.mp isFirst
        rw [List.head?_cons, only id other present (of_decide_eq_true same)]
  rw [findOrder, first, Option.bind_some, found, Option.map_some]

/-- An order that was inserted is found under its code. -/
theorem findOrder_inserted {order : OrderRow}
    (accepted : orderInsertable db order = true) :
    findOrder ((db.reserve .orders).put .orders (db.nextId .orders) order)
      order.orderCode = some (db.nextId .orders, order) := by
  simp only [orderInsertable, Bool.and_eq_true, decide_eq_true_eq] at accepted
  apply findOrder_eq (row_put_self (by simp))
  intro id other found same
  by_contra elsewhere
  rw [row_put_ne elsewhere, row_reserve] at found
  exact List.ne_nil_of_mem
    (mem_idsWhere.mpr ⟨other, found, decide_eq_true same⟩)
    accepted.1.1.1.1

end Alone

section Safety

variable {invariant : Db → Prop} {state : Db}

/-- The commits of a submitted receipt.  The order and the reseller's settings
were read in earlier states; only the reseller's credit is read under its
lock. -/
inductive SubmitCommits (invariant : Db → Prop) (orderId : Nat)
    (receiptFileId : String) (before : Db) : Db → Prop where
  | testOrder (order : OrderRow) (seen : ResellerRow)
      (orderSeen : Seen invariant .orders orderId order)
      (resellerSeen : Seen invariant .resellers order.resellerId seen)
      (isTest : seen.takesTestOrder = true) :
      SubmitCommits invariant orderId receiptFileId before
        (before.modify .orders orderId
          (·.withReceipt .awaitingReceiptReview receiptFileId 0 true))
  | failed (order : OrderRow) (seen reseller : ResellerRow)
      (orderSeen : Seen invariant .orders orderId order)
      (resellerSeen : Seen invariant .resellers order.resellerId seen)
      (noTest : seen.takesTestOrder = false)
      (found : before.row .resellers order.resellerId = some reseller)
      (exceeds : WalletService.ExceedsCredit reseller
        (commissionOf order seen)) :
      SubmitCommits invariant orderId receiptFileId before
        (before.modify .orders orderId
          (·.withReceipt .failedInsufficientCredit receiptFileId
            (commissionOf order seen) false))
  | charged (order : OrderRow) (seen reseller : ResellerRow) (id : Nat)
      (orderSeen : Seen invariant .orders orderId order)
      (resellerSeen : Seen invariant .resellers order.resellerId seen)
      (noTest : seen.takesTestOrder = false)
      (found : before.row .resellers order.resellerId = some reseller)
      (within : ¬ WalletService.ExceedsCredit reseller
        (commissionOf order seen))
      (reserved : before.Reserved .walletTransactions id) :
      SubmitCommits invariant orderId receiptFileId before
        ((WalletService.deducted reseller.walletCreditBalance
          order.resellerId (commissionOf order seen) order.orderCode id
          before).modify .orders orderId
            (·.withReceipt .awaitingReceiptReview receiptFileId
              (commissionOf order seen) false))

def submitGuarantee (invariant : Db → Prop) (orderId : Nat)
    (receiptFileId : String) : Guarantee Db where
  writes _ _ := False
  commits := SubmitCommits invariant orderId receiptFileId

theorem safe_submitReceipt {config : Config} {orderId : Nat}
    {receiptFileId : String}
    {next : Except ServiceError (Option OrderRow) → Program Result}
    (continues : ∀ reply now, (next reply).Safe dbView invariant
      (submitGuarantee invariant orderId receiptFileId) none [] now) :
    (submitReceipt config orderId receiptFileId next).Safe dbView invariant
      (submitGuarantee invariant orderId receiptFileId) none [] state := by
  refine Program.Safe.select fun first _ firstHolds => ?_
  cases orderFound : first.row .orders orderId with
  | none => exact continues _ first
  | some order =>
      refine Program.Safe.select fun second _ _ => ?_
      dsimp only
      split_ifs with full
      · exact continues _ second
      refine Program.Safe.select fun third _ thirdHolds => ?_
      cases resellerFound : third.row .resellers order.resellerId with
      | none => exact continues _ third
      | some seen =>
          have orderSeen : Seen invariant .orders orderId order :=
            ⟨first, firstHolds, orderFound⟩
          have resellerSeen :
              Seen invariant .resellers order.resellerId seen :=
            ⟨third, thirdHolds, resellerFound⟩
          dsimp only
          split_ifs with isTest
          · refine Program.Safe.begin <| safe_update_pending fun _ _ _ =>
              Program.Safe.commit (fun last _ _ => ⟨?_, ?_⟩) fun now =>
                Program.Safe.select fun later _ _ => continues _ later
            · exact frame_modify (.refl last) (by simp) _
            · exact .testOrder order seen orderSeen resellerSeen isTest
          · have noTest : seen.takesTestOrder = false := by simpa using isTest
            refine Program.Safe.begin <|
              WalletService.checks_deductCommissionInTx
                Program.Safe.checksPending (fun _ => rfl)
                (fun _ => rfl) ?_ ?_ ?_
            · intro now reseller id locks _ found within reserved _
                resellerHeld entryHeld
              refine safe_update_pending fun later kept _ =>
                Program.Safe.commit (fun last relies _ => ⟨?_, ?_⟩) fun now =>
                  Program.Safe.select fun later _ _ => continues _ later
              · refine frame_modify ?_ (by simp) _
                exact WalletService.frame_withLedgerEntry (.refl last)
                  (by simp [resellerHeld]) (by simp [entryHeld])
              · refine .charged order seen reseller id orderSeen resellerSeen
                  noTest ?_ within ?_
                · rw [← rely_row relies (by simp [resellerHeld]),
                    ← rely_row kept resellerHeld]
                  exact found
                · exact rely_reserved relies (by simp [entryHeld])
                    (rely_reserved kept entryHeld reserved)
            · intro now reseller message _ found exceeds
              refine safe_update_pending fun later kept _ =>
                Program.Safe.commit (fun last relies _ => ⟨?_, ?_⟩)
                  (continues _)
              · exact frame_modify (.refl last) (by simp) _
              · refine .failed order seen reseller orderSeen resellerSeen
                  noTest ?_ exceeds
                rw [← rely_row relies (by simp), ← rely_row kept (by simp)]
                exact found
            · rintro error changes locks now (rfl | ⟨message, rfl⟩)
              · exact Program.Safe.rollback (continues _)
              · exact Program.Safe.rollback (continues _)

/-- A statement that sets the status of one order. -/
def statusGuarantee (orderId : Nat) (status : OrderStatus) :
    Guarantee Db where
  writes before after :=
    after = before.modify .orders orderId (·.withStatus status)
  commits _ _ := False

theorem safe_confirmOrder {orderId : Nat}
    {next : Except ServiceError Unit → Program Result}
    (continues : ∀ reply now, (next reply).Safe dbView invariant
      (statusGuarantee orderId .confirmed) none [] now) :
    (confirmOrder orderId next).Safe dbView invariant
      (statusGuarantee orderId .confirmed) none [] state :=
  safe_update fun _ _ _ => ⟨rfl, continues _ _⟩

theorem safe_rejectOrder {orderId : Nat}
    {next : Except ServiceError Unit → Program Result}
    (continues : ∀ reply now, (next reply).Safe dbView invariant
      (statusGuarantee orderId .rejected) none [] now) :
    (rejectOrder orderId next).Safe dbView invariant
      (statusGuarantee orderId .rejected) none [] state :=
  safe_update fun _ _ _ => ⟨rfl, continues _ _⟩

theorem safe_refuseBlacklisted {guarantee : Guarantee Db}
    {customer : Option CustomerRow} {resellerId : Nat}
    {refused next : Program Result}
    (onRefusal : ∀ now, refused.Safe dbView invariant guarantee none [] now)
    (onPass : ∀ now, next.Safe dbView invariant guarantee none [] now) :
    (refuseBlacklisted customer resellerId refused next).Safe dbView invariant
      guarantee none [] state := by
  unfold refuseBlacklisted
  cases customer with
  | none => exact onPass state
  | some customer =>
      have answered : ∀ (listed : Bool) now,
          (if listed then refused else next).Safe dbView invariant guarantee
            none [] now := by
        intro listed now
        cases listed with
        | true => exact onRefusal now
        | false => exact onPass now
      exact BlacklistService.safe_isBlacklisted answered

/-- The commits of a purchase from the wallet: the price comes from the locked
balance of the customer. -/
def walletOrderGuarantee (resellerId packageId customerId : Nat)
    (phoneNumber : Option String) : Guarantee Db where
  writes _ _ := False
  commits before after := ∃ (customer : CustomerRow) (price : Cents)
      (orderCode : String) (id : Nat),
    before.row .customers customerId = some customer ∧
    price ≤ customer.walletBalance ∧
    before.Reserved .orders id ∧
    after = (before.modify .customers customerId fun customer =>
        customer.withBalance (customer.walletBalance - price)).put .orders id
      (walletOrder orderCode resellerId packageId customerId price phoneNumber)

theorem safe_fetchInserted {guarantee : Guarantee Db} {orderCode : String}
    {next : Except ServiceError (Nat × OrderRow) → Program Result}
    (continues : ∀ reply now, (next reply).Safe dbView invariant guarantee
      none [] now) :
    (fetchInserted orderCode next).Safe dbView invariant guarantee none []
      state := by
  refine Program.Safe.select fun now _ _ => ?_
  cases findOrder now orderCode with
  | none => exact continues _ now
  | some found => exact continues _ now

theorem safe_createOrderPaidByWallet {resellerId packageId customerId : Nat}
    {phoneNumber : Option String} {stamp : OrderStamp}
    {next : Except ServiceError (Nat × OrderRow) → Program Result}
    (continues : ∀ reply now, (next reply).Safe dbView invariant
      (walletOrderGuarantee resellerId packageId customerId phoneNumber) none
      [] now) :
    (createOrderPaidByWallet resellerId packageId customerId phoneNumber stamp
      next).Safe dbView invariant
        (walletOrderGuarantee resellerId packageId customerId phoneNumber)
        none [] state := by
  refine Program.Safe.select fun first _ _ => ?_
  refine safe_refuseBlacklisted (continues _) fun _ => ?_
  refine Program.Safe.select fun second _ _ =>
    Program.Safe.select fun third _ _ => ?_
  cases third.row .packages packageId with
  | none => exact continues _ third
  | some package =>
      cases first.row .customers customerId with
      | none => exact continues _ third
      | some precheck =>
          dsimp only
          split_ifs
          · exact continues _ third
          cases second.row .resellers resellerId with
          | none => exact continues _ third
          | some reseller => exact safe_payFromWallet continues
where
  safe_payFromWallet {resellerId packageId customerId : Nat}
      {phoneNumber : Option String} {price : Cents} {orderCode : String}
      {state : Db}
      {next : Except ServiceError (Nat × OrderRow) → Program Result}
      (continues : ∀ reply now, (next reply).Safe dbView invariant
        (walletOrderGuarantee resellerId packageId customerId phoneNumber)
        none [] now) :
      (createOrderPaidByWallet.payFromWallet resellerId packageId customerId
        phoneNumber next price orderCode).Safe dbView invariant
          (walletOrderGuarantee resellerId packageId customerId phoneNumber)
          none [] state := by
    refine Program.Safe.begin <|
      Program.Safe.selectForUpdate fun now _ _ => ?_
    simp only [id_eq]
    cases found : now.row .customers customerId with
    | none => exact Program.Safe.rollback (continues _)
    | some customer =>
        dsimp only
        split_ifs with poor
        · exact Program.Safe.rollback (continues _)
        refine safe_update_pending fun second secondKept _ =>
          safe_insert_pending (fun third thirdKept _ _ => ?_) fun _ _ =>
            Program.Safe.rollback (continues _)
        refine Program.Safe.commit (fun last lastKept _ => ⟨?_, ?_⟩)
          fun _ => safe_fetchInserted continues
        · exact frame_put (frame_modify (.refl last) (by simp) _) (by simp) _
        · refine ⟨customer, price, orderCode, _, ?_, not_lt.mp poor, ?_, rfl⟩
          · rw [← rely_row lastKept (by simp), row_reserve,
              ← rely_row thirdKept (by simp), ← rely_row secondKept (by simp)]
            exact found
          · refine rely_reserved lastKept (by simp) ?_
            rw [nextId_modify]
            exact reserved_reserve third _

/-- The writes of an activation: the order, then perhaps the test counter of
its reseller. -/
def activateGuarantee (invariant : Db → Prop) (orderId : Nat) :
    Guarantee Db where
  writes before after :=
    after = before.modify .orders orderId (·.withStatus .activated) ∨
    ∃ order, Seen invariant .orders orderId order ∧
      after = before.modify .resellers order.resellerId (·.withTestOrderUsed)
  commits _ _ := False

theorem safe_activateOrder {orderId : Nat}
    {next : Except ServiceError (Option OrderRow) → Program Result}
    (continues : ∀ reply now, (next reply).Safe dbView invariant
      (activateGuarantee invariant orderId) none [] now) :
    (activateOrder orderId next).Safe dbView invariant
      (activateGuarantee invariant orderId) none [] state := by
  refine Program.Safe.select fun first _ holds => ?_
  refine safe_update fun second _ _ => ⟨.inl rfl, ?_⟩
  cases found : first.row .orders orderId with
  | none => exact continues _ _
  | some order =>
      have fetched : ∀ now, (Program.select fun now =>
          next (.ok (now.row .orders orderId))).Safe dbView invariant
            (activateGuarantee invariant orderId) none [] now :=
        fun now => Program.Safe.select fun later _ _ => continues _ later
      refine Program.Safe.select fun third _ _ => ?_
      cases third.row .orders orderId with
      | none => exact fetched third
      | some current =>
          dsimp only
          split_ifs
          · exact safe_update fun fourth _ _ =>
              ⟨.inr ⟨order, ⟨first, holds, found⟩, rfl⟩, fetched _⟩
          · exact fetched third

/-- The only write of a new order that waits for its payment. -/
def createOrderGuarantee (resellerId packageId customerId : Nat)
    (phoneNumber : Option String) : Guarantee Db where
  writes before after := ∃ orderCode price,
    after = (before.reserve .orders).put .orders (before.nextId .orders)
      { orderCode := orderCode
        resellerId := resellerId
        packageId := packageId
        customerId := customerId
        packagePrice := price
        phoneNumber := phoneNumber }
  commits _ _ := False

theorem safe_createOrder {resellerId packageId customerId : Nat}
    {phoneNumber : Option String} {stamp : OrderStamp}
    {next : Except ServiceError (Nat × OrderRow) → Program Result}
    (continues : ∀ reply now, (next reply).Safe dbView invariant
      (createOrderGuarantee resellerId packageId customerId phoneNumber) none
      [] now) :
    (createOrder resellerId packageId customerId phoneNumber stamp next).Safe
      dbView invariant
      (createOrderGuarantee resellerId packageId customerId phoneNumber) none
      [] state := by
  refine Program.Safe.select fun first _ _ => ?_
  refine safe_refuseBlacklisted (continues _) fun _ => ?_
  refine Program.Safe.select fun second _ _ =>
    Program.Safe.select fun third _ _ => ?_
  cases third.row .packages packageId with
  | none => exact continues _ third
  | some package =>
      cases second.row .resellers resellerId with
      | none => exact continues _ third
      | some reseller =>
          exact safe_insert (fun now _ _ _ =>
            ⟨⟨_, _, rfl⟩, safe_fetchInserted continues⟩) (continues _)

end Safety

end OrderService

end Baste
