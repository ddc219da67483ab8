import Baste.ServiceCalls

/-!
# Charging an order for its receipt

Any number of receipts submitted for one order, in any interleaving of their
statements.  The order is read before the transaction and its status is never
checked again, so a second receipt charges again exactly when it commits while
the order is under review.
-/

namespace Baste

open Database Transaction

section Receipts

variable {Caller : Type} [DecidableEq Caller]
variable (orderId : Nat) (order : OrderRow) (reseller : ResellerRow)

/-- The deductions in a reseller's ledger that refer to an order code. -/
def deductionsFor (db : Db) (resellerId : Nat) (orderCode : String) : Nat :=
  db.count .walletTransactions fun entry =>
    entry.resellerId = resellerId && entry.type = .commissionDeduction &&
      entry.reference = some orderCode

def creditOf (db : Db) (resellerId : Nat) : Option Cents :=
  (db.row .resellers resellerId).map (·.walletCreditBalance)

/-- The credit after one commission on the order. -/
def creditAfterCharge : Cents :=
  storeDecimal (decimal reseller.walletCreditBalance -
    OrderService.commissionOf order reseller)

/-- The order has been charged at most once, to the ledger and to the
credit. -/
def ChargedAtMostOnce (db : Db) : Prop :=
  deductionsFor db order.resellerId order.orderCode ≤ 1 ∧
    (creditOf db order.resellerId = some reseller.walletCreditBalance ∨
      creditOf db order.resellerId = some (creditAfterCharge order reseller))

/-- A receipt that commits now would be charged: the reseller is not in test
mode and its credit covers the commission. -/
def ChargesCommission (db : Db) : Prop :=
  reseller.takesTestOrder = false ∧
    ∀ current, db.row .resellers order.resellerId = some current →
      ¬ WalletService.ExceedsCredit current
        (OrderService.commissionOf order reseller)

def UnderReview (db : Db) : Prop :=
  (db.row .orders orderId).any (·.status = .awaitingReceiptReview) = true

/-- What no receipt changes: the order's code, reseller and price, and the
reseller's settings. -/
structure SameTerms (db : Db) : Prop where
  order_row : ∃ current, db.row .orders orderId = some current ∧
    current.orderCode = order.orderCode ∧
    current.resellerId = order.resellerId ∧
    current.packagePrice = order.packagePrice
  reseller_row : ∃ current, db.row .resellers order.resellerId = some current ∧
    current.takesTestOrder = reseller.takesTestOrder ∧
    current.commissionPercent = reseller.commissionPercent ∧
    current.creditLimitNegative = reseller.creditLimitNegative

variable {orderId order reseller}

theorem SameTerms.of_quiet {before after : Db}
    (terms : SameTerms orderId order reseller before)
    (quiet : dbView.Quiet before after) :
    SameTerms orderId order reseller after where
  order_row := by
    rw [← quiet_row quiet]
    exact terms.order_row
  reseller_row := by
    rw [← quiet_row quiet]
    exact terms.reseller_row

/-- What a call has read of the order and the reseller is still current. -/
theorem commissionOf_seen {found : OrderRow} {seen : ResellerRow}
    (orderSeen : Seen (SameTerms orderId order reseller) .orders orderId found)
    (resellerSeen : Seen (SameTerms orderId order reseller) .resellers
      found.resellerId seen) :
    found.orderCode = order.orderCode ∧
      found.resellerId = order.resellerId ∧
      seen.takesTestOrder = reseller.takesTestOrder ∧
      OrderService.commissionOf found seen =
        OrderService.commissionOf order reseller := by
  obtain ⟨past, pastTerms, foundPast⟩ := orderSeen
  obtain ⟨current, currentRow, sameCode, sameReseller, samePrice⟩ :=
    pastTerms.order_row
  cases foundPast.symm.trans currentRow
  rw [sameReseller] at resellerSeen
  obtain ⟨later, laterTerms, seenLater⟩ := resellerSeen
  obtain ⟨setting, settingRow, sameTest, samePercent, _⟩ :=
    laterTerms.reseller_row
  cases seenLater.symm.trans settingRow
  refine ⟨sameCode, sameReseller, sameTest, ?_⟩
  rw [OrderService.commissionOf, OrderService.commissionOf, samePrice,
    samePercent]

/-- How far the order has come: not charged, or charged once and under review
for as long as the credit would cover another commission. -/
def ChargeProgress (orderId : Nat) (order : OrderRow) (reseller : ResellerRow)
    (db : Db) : Prop :=
  (deductionsFor db order.resellerId order.orderCode = 0 ∧
    creditOf db order.resellerId = some reseller.walletCreditBalance ∧
    (reseller.takesTestOrder = false → ¬ UnderReview orderId db)) ∨
  (deductionsFor db order.resellerId order.orderCode = 1 ∧
    creditOf db order.resellerId = some (creditAfterCharge order reseller) ∧
    (ChargesCommission order reseller db → UnderReview orderId db))

theorem ChargeProgress.chargedAtMostOnce {db : Db}
    (progress : ChargeProgress orderId order reseller db) :
    ChargedAtMostOnce order reseller db := by
  rcases progress with ⟨none, same, _⟩ | ⟨one, lowered, _⟩
  · exact ⟨by omega, .inl same⟩
  · exact ⟨by omega, .inr lowered⟩

section OrderUpdates

variable {db : Db} {change : OrderRow → OrderRow}

theorem SameTerms.modify_orders
    (terms : SameTerms orderId order reseller db)
    (sameCode : ∀ row, (change row).orderCode = row.orderCode)
    (sameReseller : ∀ row, (change row).resellerId = row.resellerId)
    (samePrice : ∀ row, (change row).packagePrice = row.packagePrice) :
    SameTerms orderId order reseller (db.modify .orders orderId change) where
  order_row := by
    obtain ⟨current, found, code, owner, price⟩ := terms.order_row
    refine ⟨change current, by simp [found], ?_, ?_, ?_⟩
    · rw [sameCode, code]
    · rw [sameReseller, owner]
    · rw [samePrice, price]
  reseller_row := by
    simpa using terms.reseller_row

@[simp]
theorem deductionsFor_modify_orders {resellerId : Nat} {orderCode : String} :
    deductionsFor (db.modify .orders orderId change) resellerId orderCode =
      deductionsFor db resellerId orderCode := by
  simp [deductionsFor, Database.count]

@[simp]
theorem creditOf_modify_orders {resellerId : Nat} :
    creditOf (db.modify .orders orderId change) resellerId =
      creditOf db resellerId := by
  simp [creditOf]

theorem chargesCommission_modify_orders :
    ChargesCommission order reseller (db.modify .orders orderId change) ↔
      ChargesCommission order reseller db := by
  simp [ChargesCommission]

theorem underReview_withReceipt {status : OrderStatus}
    {receiptFileId : String} {commission : Rat} {isTest : Bool}
    (terms : SameTerms orderId order reseller db) :
    UnderReview orderId (db.modify .orders orderId
        (·.withReceipt status receiptFileId commission isTest)) ↔
      status = .awaitingReceiptReview := by
  obtain ⟨current, found, _⟩ := terms.order_row
  simp [UnderReview, found, OrderRow.withReceipt]

end OrderUpdates

section Deductions

variable {db : Db} {balance : Cents} {amount : Rat} {id : Nat}

theorem SameTerms.deducted (terms : SameTerms orderId order reseller db) :
    SameTerms orderId order reseller
      (WalletService.deducted balance order.resellerId amount order.orderCode
        id db) where
  order_row := by
    simpa [WalletService.deducted] using terms.order_row
  reseller_row := by
    obtain ⟨current, found, test, percent, limit⟩ := terms.reseller_row
    refine ⟨current.withCreditBalance (storeDecimal (decimal balance - amount)),
      ?_, ?_, percent, limit⟩
    · rw [WalletService.deducted, row_resellers_withLedgerEntry, if_pos rfl,
        found]
      rfl
    · exact test

theorem deductionsFor_deducted (order : OrderRow) (balance : Cents)
    (amount : Rat) (reserved : db.Reserved .walletTransactions id) :
    deductionsFor (WalletService.deducted balance order.resellerId amount
        order.orderCode id db) order.resellerId order.orderCode =
      deductionsFor db order.resellerId order.orderCode + 1 := by
  rw [deductionsFor, Database.count, WalletService.deducted,
    total_withLedgerEntry reserved]
  simp [deductionsFor, Database.count, WalletService.deductionEntry]

theorem creditOf_deducted {current : ResellerRow}
    (found : db.row .resellers order.resellerId = some current)
    (balance : Cents) (amount : Rat) (id : Nat) :
    creditOf (WalletService.deducted balance order.resellerId amount
        order.orderCode id db) order.resellerId =
      some (storeDecimal (decimal balance - amount)) := by
  rw [creditOf, WalletService.deducted, row_resellers_withLedgerEntry,
    if_pos rfl, found]
  rfl

end Deductions

/-- What the commit of one receipt does to the order's progress. -/
theorem SameTerms.submitCommits {before after : Db} {receiptFileId : String}
    (terms : SameTerms orderId order reseller before)
    (progress : ChargeProgress orderId order reseller before)
    (commits : OrderService.SubmitCommits (SameTerms orderId order reseller)
      orderId receiptFileId before after) :
    (ChargedAtMostOnce order reseller after ↔
      (ChargesCommission order reseller before → ¬ UnderReview orderId before)) ∧
    ((ChargesCommission order reseller before →
      ¬ UnderReview orderId before) →
      ChargeProgress orderId order reseller after) := by
  -- Without a charge the progress stays, and both sides of the first part hold.
  have unchanged : ¬ ChargesCommission order reseller before →
      ChargeProgress orderId order reseller after →
      (ChargedAtMostOnce order reseller after ↔
        (ChargesCommission order reseller before →
          ¬ UnderReview orderId before)) ∧
      ((ChargesCommission order reseller before →
        ¬ UnderReview orderId before) →
        ChargeProgress orderId order reseller after) := by
    intro noCharge progressAfter
    exact ⟨⟨fun _ charge => absurd charge noCharge,
      fun _ => progressAfter.chargedAtMostOnce⟩, fun _ => progressAfter⟩
  cases commits with
  | testOrder found seen orderSeen resellerSeen isTest =>
      obtain ⟨_, _, sameTest, _⟩ := commissionOf_seen orderSeen resellerSeen
      have test : reseller.takesTestOrder = true := sameTest ▸ isTest
      refine unchanged (fun charge => by simp [ChargesCommission, test] at charge)
        ?_
      rcases progress with ⟨none, same, _⟩ | ⟨one, lowered, _⟩
      · exact .inl ⟨by simpa using none, by simpa using same, by simp [test]⟩
      · exact .inr ⟨by simpa using one, by simpa using lowered,
          fun charge => by simp [ChargesCommission, test] at charge⟩
  | failed found seen current orderSeen resellerSeen noTest row exceeds =>
      obtain ⟨_, sameReseller, _, sameCommission⟩ :=
        commissionOf_seen orderSeen resellerSeen
      rw [sameReseller] at row
      rw [sameCommission] at exceeds
      have noCharge : ¬ ChargesCommission order reseller before :=
        fun charge => charge.2 current row exceeds
      refine unchanged noCharge ?_
      rcases progress with ⟨none, same, _⟩ | ⟨one, lowered, _⟩
      · exact .inl ⟨by simpa using none, by simpa using same,
          fun _ => by simp [underReview_withReceipt terms]⟩
      · exact .inr ⟨by simpa using one, by simpa using lowered,
          fun charge => absurd (chargesCommission_modify_orders.mp charge)
            noCharge⟩
  | charged found seen current id orderSeen resellerSeen noTest row within
      reserved =>
      obtain ⟨sameCode, sameReseller, sameTest, sameCommission⟩ :=
        commissionOf_seen orderSeen resellerSeen
      rw [sameReseller] at row
      rw [sameCommission] at within
      rw [sameReseller, sameCode, sameCommission]
      have charges : ChargesCommission order reseller before := by
        refine ⟨sameTest ▸ noTest, fun other otherRow => ?_⟩
        cases row.symm.trans otherRow
        exact within
      have oneMore := deductionsFor_deducted order current.walletCreditBalance
        (OrderService.commissionOf order reseller) reserved
      have newCredit := creditOf_deducted row current.walletCreditBalance
        (OrderService.commissionOf order reseller) id
      rcases progress with ⟨none, same, notReviewed⟩ | ⟨one, _, reviewed⟩
      · have firstCharge : ChargeProgress orderId order reseller
            ((WalletService.deducted current.walletCreditBalance
              order.resellerId (OrderService.commissionOf order reseller)
              order.orderCode id before).modify .orders orderId
                (·.withReceipt .awaitingReceiptReview receiptFileId
                  (OrderService.commissionOf order reseller) false)) := by
          have startBalance : current.walletCreditBalance =
              reseller.walletCreditBalance := by
            simpa [creditOf, row] using same
          refine .inr ⟨?_, ?_, fun _ => ?_⟩
          · rw [deductionsFor_modify_orders, oneMore, none]
          · rw [creditOf_modify_orders, newCredit, startBalance,
              creditAfterCharge]
          · exact (underReview_withReceipt terms.deducted).mpr rfl
        exact ⟨⟨fun _ _ => notReviewed charges.1,
          fun _ => firstCharge.chargedAtMostOnce⟩, fun _ => firstCharge⟩
      · have secondCharge : ¬ (ChargesCommission order reseller before →
            ¬ UnderReview orderId before) :=
          fun guard => guard charges (reviewed charges)
        refine ⟨⟨fun atMostOnce => ?_, fun guard => absurd guard secondCharge⟩,
          fun guard => absurd guard secondCharge⟩
        have atMostOne := atMostOnce.1
        rw [deductionsFor_modify_orders, oneMore, one] at atMostOne
        omega

theorem SameTerms.after_submitCommits {before after : Db}
    {receiptFileId : String}
    (terms : SameTerms orderId order reseller before)
    (commits : OrderService.SubmitCommits (SameTerms orderId order reseller)
      orderId receiptFileId before after) :
    SameTerms orderId order reseller after := by
  cases commits with
  | testOrder =>
      exact terms.modify_orders (fun _ => rfl) (fun _ => rfl) fun _ => rfl
  | failed =>
      exact terms.modify_orders (fun _ => rfl) (fun _ => rfl) fun _ => rfl
  | charged found seen current id orderSeen resellerSeen =>
      obtain ⟨sameCode, sameReseller, _, _⟩ :=
        commissionOf_seen orderSeen resellerSeen
      rw [sameReseller, sameCode]
      exact terms.deducted.modify_orders (fun _ => rfl) (fun _ => rfl)
        fun _ => rfl

theorem ChargeProgress.of_quiet {before after : Db}
    (progress : ChargeProgress orderId order reseller before)
    (quiet : dbView.Quiet before after) :
    ChargeProgress orderId order reseller after := by
  have sameDeductions : deductionsFor after order.resellerId order.orderCode =
      deductionsFor before order.resellerId order.orderCode :=
    total_congr _ fun id => (quiet_row quiet _ id).symm
  simpa only [ChargeProgress, sameDeductions, creditOf, UnderReview,
    ChargesCommission, ← quiet_row quiet] using progress

/-- Receipts for one order, one from each caller. -/
def receiptCalls (orderId : Nat) (configs : Caller → Config)
    (receiptFileIds : Caller → String) (caller : Caller) : ServiceCall :=
  .submitReceipt (configs caller) orderId (receiptFileIds caller)

omit [DecidableEq Caller] in
theorem preserved_sameTerms (orderId : Nat) (order : OrderRow)
    (reseller : ResellerRow) (configs : Caller → Config)
    (receiptFileIds : Caller → String) :
    PreservedBy (SameTerms orderId order reseller)
      (receiptCalls orderId configs receiptFileIds) where
  quiet _ _ := SameTerms.of_quiet
  writes _ _ _ _ impossible := impossible.elim
  commits _ _ _ := SameTerms.after_submitCommits

/-- In every interleaving of receipts for one order, the order is charged at
most once in every state if and only if every receipt that would be charged
finds it not under review when it commits. -/
theorem chargedAtMostOnce_iff (configs : Caller → Config)
    (receiptFileIds : Caller → String) (db : Db)
    (orderFound : db.row .orders orderId = some order)
    (resellerFound : db.row .resellers order.resellerId = some reseller)
    (notReviewed : order.status ≠ .awaitingReceiptReview)
    (notCharged : deductionsFor db order.resellerId order.orderCode = 0)
    (events : List (Event Caller)) :
    StepRuns.Along System.step
        (fun system event =>
          ChargedAtMostOnce order reseller (system.step event).state)
        (startCalls db (receiptCalls orderId configs receiptFileIds)) events ↔
      StepRuns.Along System.step
        (fun system event => system.Commits event →
          ChargesCommission order reseller system.state →
          ¬ UnderReview orderId system.state)
        (startCalls db (receiptCalls orderId configs receiptFileIds))
        events := by
  let calls := receiptCalls orderId configs receiptFileIds
  let invariant (system : ServiceSystem Caller) : Prop :=
    SoundCalls (SameTerms orderId order reseller) calls system ∧
      ChargeProgress orderId order reseller system.state
  have preserved :=
    preserved_sameTerms orderId order reseller configs receiptFileIds
  have oneStep : ∀ system event, invariant system →
      (ChargedAtMostOnce order reseller (system.step event).state ↔
        (system.Commits event → ChargesCommission order reseller system.state →
          ¬ UnderReview orderId system.state)) ∧
      ((system.Commits event → ChargesCommission order reseller system.state →
          ¬ UnderReview orderId system.state) →
        invariant (system.step event)) := by
    rintro system event ⟨sound, progress⟩
    obtain ⟨soundAfter, change⟩ := sound.step preserved event
    cases change with
    | quiet noCommit quiet =>
        have after := progress.of_quiet quiet
        exact ⟨⟨fun _ commits => absurd commits noCommit,
          fun _ => after.chargedAtMostOnce⟩, fun _ => ⟨soundAfter, after⟩⟩
    | written _ _ impossible => exact impossible.elim
    | committed isCommit commits =>
        obtain ⟨equivalent, kept⟩ := sound.holds.submitCommits progress commits
        refine ⟨equivalent.trans ⟨fun guard _ => guard, fun guard =>
          guard isCommit⟩, fun guard => ⟨soundAfter, kept (guard isCommit)⟩⟩
  refine StepRuns.along_iff invariant
    (fun system event holds => (oneStep system event holds).1)
    (fun system event holds => (oneStep system event holds).2) ?_ events
  refine ⟨soundCalls_start ⟨⟨order, orderFound, rfl, rfl, rfl⟩, ⟨reseller,
    resellerFound, rfl, rfl, rfl⟩⟩, .inl ⟨notCharged, ?_, fun _ => ?_⟩⟩
  · simp [startCalls, System.start, creditOf, resellerFound]
  · simpa [startCalls, System.start, UnderReview, orderFound]
      using notReviewed

end Receipts

/-- An order of 10.00 whose reseller owes a commission of ten percent. -/
def albumOrder : OrderRow :=
  { orderCode := "AR-1"
    resellerId := 1
    packageId := 1
    customerId := 1
    packagePrice := 1000 }

def albumReseller : ResellerRow where
  botTokenEncrypted := "gAAAAA"
  botUsername := "shop_bot"
  telegramNumericId := 1001
  orderPrefix := "AR"
  commissionPercent := 1000
  walletCreditBalance := 500
  creditLimitNegative := 0
  testModeEnabled := false
  testModeOrderLimit := 0
  testModeOrdersUsed := 0

def albumDb : Db :=
  .filled fun
    | .resellers => [albumReseller]
    | .orders => [albumOrder]
    | _ => []

/-- Two photos of one album, the second handled after the first. -/
def albumEvents : List (Event (Fin 2)) :=
  List.replicate 10 (.advance 0) ++ List.replicate 10 (.advance 1)

theorem chargedAtMostOnce_iff_album :
    StepRuns.Along System.step
        (fun system event =>
          ChargedAtMostOnce albumOrder albumReseller (system.step event).state)
        (startCalls albumDb (receiptCalls 1 (fun _ : Fin 2 => {})
          fun _ => "photo")) albumEvents ↔
      StepRuns.Along System.step
        (fun system event => system.Commits event →
          ChargesCommission albumOrder albumReseller system.state →
          ¬ UnderReview 1 system.state)
        (startCalls albumDb (receiptCalls 1 (fun _ : Fin 2 => {})
          fun _ => "photo")) albumEvents :=
  chargedAtMostOnce_iff _ _ _ (by decide) (by decide) (by decide) (by decide)
    _

/-- The second photo of the album is charged as well: two deductions, and a
credit lowered by two commissions. -/
theorem album_charged_twice :
    let after := (runCalls albumDb
      (receiptCalls 1 (fun _ : Fin 2 => {}) fun _ => "photo") albumEvents).state
    deductionsFor after 1 "AR-1" = 2 ∧ creditOf after 1 = some 300 ∧
      ¬ ChargedAtMostOnce albumOrder albumReseller after := by
  refine ⟨by decide +kernel, by decide +kernel, fun atMostOnce => ?_⟩
  exact absurd atMostOnce.1 (by decide +kernel)

end Baste
