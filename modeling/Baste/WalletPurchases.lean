import Baste.ServiceCalls
import Mathlib.Tactic.Linarith

/-!
# Paying from the customer's wallet

Purchases of packages and charge codes from customers' wallets, together with
confirmed top-ups, in any interleaving of their statements.  Every purchase
reads the balance under the lock of the customer's row and inserts its orders
in the same transaction, so no balance goes below zero, and the debits of a
customer are the prices of its orders that are paid from the wallet.
-/

namespace Baste

open Database Transaction

/-- The purchases from the wallet. -/
def ServiceCall.isWalletPurchase : ServiceCall → Bool
  | .createOrderPaidByWallet .. | .purchaseCharge .. | .purchaseChargeBulk .. =>
      true
  | _ => false

/-- The calls that move money into and out of the wallet. -/
def ServiceCall.IsWalletOperation : ServiceCall → Prop
  | .createOrderPaidByWallet .. | .purchaseCharge .. | .purchaseChargeBulk ..
  | .confirmCustomerTopup _ => True
  | _ => False

/-- What an order counts for in the debits of a customer. -/
def paidAmount (customerId : Nat) (order : OrderRow) : Cents :=
  if order.customerId = customerId ∧ order.paidFromWallet then
    order.packagePrice
  else 0

/-- The prices of the customer's orders that are paid from the wallet. -/
def paidTotal (db : Db) (customerId : Nat) : Cents :=
  db.total .orders (paidAmount customerId)

/-- The balance is not negative, and top-ups have positive amounts. -/
structure Solvent (customerId : Nat) (db : Db) : Prop where
  nonneg : 0 ≤ walletBalance db customerId
  positive : ∀ id topup, db.row .customerWalletTopups id = some topup →
    0 < topup.amount

section Steps

variable {customerId : Nat} {before after : Db}

theorem Solvent.of_quiet (solvent : Solvent customerId before)
    (quiet : dbView.Quiet before after) : Solvent customerId after where
  nonneg := by
    rw [walletBalance, ← quiet_row quiet]
    exact solvent.nonneg
  positive id topup found := by
    rw [← quiet_row quiet] at found
    exact solvent.positive id topup found

theorem paidTotal_of_quiet (quiet : dbView.Quiet before after) :
    paidTotal after customerId = paidTotal before customerId :=
  total_congr _ fun id => (quiet_row quiet _ id).symm

/-- The balance after a debit. -/
theorem walletBalance_debit {buyer : Nat} {customer : CustomerRow}
    {price : Cents} (found : before.row .customers buyer = some customer) :
    walletBalance (before.modify .customers buyer fun customer =>
        customer.withBalance (customer.walletBalance - price)) customerId =
      walletBalance before customerId -
        if buyer = customerId then price else 0 := by
  by_cases own : buyer = customerId
  · subst own
    simp [walletBalance, found, CustomerRow.withBalance]
  · rw [walletBalance, row_modify_ne (Ne.symm own), walletBalance, if_neg own,
      sub_zero]

theorem Solvent.debit {buyer : Nat} {customer : CustomerRow} {price : Cents}
    (solvent : Solvent customerId before)
    (found : before.row .customers buyer = some customer)
    (affordable : price ≤ customer.walletBalance) :
    0 ≤ walletBalance (before.modify .customers buyer fun customer =>
      customer.withBalance (customer.walletBalance - price)) customerId := by
  have nonneg := solvent.nonneg
  rw [walletBalance_debit found]
  by_cases own : buyer = customerId
  · subst own
    have balance : walletBalance before buyer = customer.walletBalance := by
      simp [walletBalance, found]
    rw [if_pos rfl, balance]
    linarith
  · rw [if_neg own]
    linarith

theorem walletBalance_link {codeId orderId : Nat} :
    walletBalance (before.modify .chargeCodes codeId
        (·.withSoldOrder orderId)) customerId =
      walletBalance before customerId := by
  rw [walletBalance, row_modify_of_ne (by decide), walletBalance]

theorem paidTotal_link {codeId orderId : Nat} :
    paidTotal (before.modify .chargeCodes codeId
        (·.withSoldOrder orderId)) customerId =
      paidTotal before customerId := by
  rw [paidTotal, total_modify_of_ne (by decide), paidTotal]

/-- Linking a code to its order touches codes only. -/
theorem Solvent.link (solvent : Solvent customerId before)
    (codeId orderId : Nat) :
    Solvent customerId (before.modify .chargeCodes codeId
      (·.withSoldOrder orderId)) where
  nonneg := by
    rw [walletBalance_link]
    exact solvent.nonneg
  positive id topup found := by
    rw [row_modify_of_ne (by decide)] at found
    exact solvent.positive id topup found

theorem walletBalance_put_order {id : Nat} {new : OrderRow} :
    walletBalance (before.put .orders id new) customerId =
      walletBalance before customerId := by
  rw [walletBalance, row_put_of_ne (by decide), walletBalance]

theorem walletBalance_deliver {purchase : ChargeService.Purchase}
    {sales : List ChargeService.Sale} :
    walletBalance (sales.foldl purchase.deliver before) customerId =
      walletBalance before customerId := by
  rw [walletBalance, ChargeService.Purchase.row_foldl_deliver_of_ne
    (by decide) (by decide), walletBalance]

/-- A package bought from the wallet: one debit, one order. -/
theorem paidTotal_walletOrder {resellerId packageId buyer : Nat}
    {phoneNumber : Option String}
    (commits : (OrderService.walletOrderGuarantee resellerId packageId buyer
      phoneNumber).commits before after) :
    paidTotal before customerId +
        (walletBalance before customerId - walletBalance after customerId) =
      paidTotal after customerId := by
  obtain ⟨customer, price, orderCode, id, found, -, reserved, rfl⟩ := commits
  have stillReserved : (before.modify .customers buyer fun customer =>
      customer.withBalance (customer.walletBalance - price)).Reserved .orders
        id := by
    simpa [Database.Reserved] using reserved
  rw [walletBalance_put_order, walletBalance_debit found, paidTotal,
    paidTotal, total_put stillReserved, total_modify_of_ne (by decide)]
  simp [paidAmount, OrderService.walletOrder]

theorem after_walletOrder {resellerId packageId buyer : Nat}
    {phoneNumber : Option String} (solvent : Solvent customerId before)
    (commits : (OrderService.walletOrderGuarantee resellerId packageId buyer
      phoneNumber).commits before after) :
    Solvent customerId after := by
  obtain ⟨customer, price, orderCode, id, found, affordable, reserved, rfl⟩ :=
    commits
  constructor
  · rw [walletBalance_put_order]
    exact solvent.debit found affordable
  · intro key topup topupFound
    simp only [ne_eq, reduceCtorEq, not_false_eq_true, row_put_of_ne,
      row_modify_of_ne] at topupFound
    exact solvent.positive key topup topupFound

/-- Codes bought from the wallet: one debit, one order for each code. -/
theorem paidTotal_purchase {resellerId packageId buyer : Nat}
    (commits : (ChargeService.purchaseGuarantee resellerId packageId
      buyer).commits before after) :
    paidTotal before customerId +
        (walletBalance before customerId - walletBalance after customerId) =
      paidTotal after customerId := by
  obtain ⟨price, sales, customer, found, -, deliverable, rfl⟩ := commits
  let purchase : ChargeService.Purchase :=
    ⟨resellerId, packageId, buyer, price⟩
  have orderAmount : ∀ sale, paidAmount customerId (purchase.order sale) =
      if buyer = customerId then price else 0 := by
    intro sale
    simp [paidAmount, ChargeService.Purchase.order, ChargeService.chargeOrder,
      purchase]
  have sameAmounts : (sales.map fun sale =>
      paidAmount customerId (purchase.order sale)).sum =
        sales.length * if buyer = customerId then price else 0 := by
    rw [List.map_congr_left fun sale _ => orderAmount sale]
    simp
  have debit : walletBalance (purchase.debited sales.length before)
      customerId = walletBalance before customerId -
        if buyer = customerId then price * sales.length else 0 :=
    walletBalance_debit found
  rw [walletBalance_deliver, debit, paidTotal, paidTotal,
    ChargeService.Purchase.total_orders_foldl_deliver _
      (deliverable.debited _), sameAmounts, ChargeService.Purchase.debited,
    total_modify_of_ne (by decide)]
  split <;> ring

theorem after_purchase {resellerId packageId buyer : Nat}
    (solvent : Solvent customerId before)
    (commits : (ChargeService.purchaseGuarantee resellerId packageId
      buyer).commits before after) :
    Solvent customerId after := by
  obtain ⟨price, sales, customer, found, affordable, deliverable, rfl⟩ :=
    commits
  constructor
  · rw [walletBalance_deliver]
    exact solvent.debit found affordable
  · intro key topup topupFound
    rw [ChargeService.Purchase.row_foldl_deliver_of_ne (by decide)
      (by decide), ChargeService.Purchase.debited,
      row_modify_of_ne (by decide)] at topupFound
    exact solvent.positive key topup topupFound

/-- A confirmed top-up: a credit and no order. -/
theorem after_credit {topupId : Nat} (solvent : Solvent customerId before)
    (commits : CustomerWalletService.ConfirmCommits (Solvent customerId)
      topupId before after) :
    Solvent customerId after ∧
      paidTotal before customerId = paidTotal after customerId := by
  -- Only the credit touches customers, only the new status touches requests,
  -- and nothing touches orders.
  have main : ∀ (mid : Db) (topup : CustomerWalletTopupRow)
      (status : TopupStatus),
      Seen (Solvent customerId) .customerWalletTopups topupId topup →
      (∀ name, name = .customers ∨ name = .customerWalletTopups ∨
          name = .orders → ∀ id, mid.row name id =
        (CustomerWalletService.credited topup before).row name id) →
      after = mid.modify .customerWalletTopups topupId (·.withStatus status) →
      Solvent customerId after ∧
        paidTotal before customerId = paidTotal after customerId := by
    intro mid topup status topupSeen sameRows afterEq
    subst afterEq
    obtain ⟨past, pastSolvent, pastFound⟩ := topupSeen
    have positive := pastSolvent.positive topupId topup pastFound
    have nonneg := solvent.nonneg
    refine ⟨⟨?_, ?_⟩, ?_⟩
    · rw [walletBalance, row_modify_of_ne (by decide),
        sameRows _ (by simp), CustomerWalletService.credited]
      rw [walletBalance] at nonneg
      by_cases own : customerId = topup.customerId
      · rw [← own, row_modify_self]
        cases found : before.row .customers customerId with
        | none => simp
        | some customer =>
            rw [found] at nonneg
            simp only [Option.map_some, Option.elim_some,
              CustomerRow.withBalance] at nonneg ⊢
            linarith
      · rw [row_modify_ne own]
        exact nonneg
    · intro id current found
      have sameTopups : mid.row .customerWalletTopups id =
          before.row .customerWalletTopups id := by
        rw [sameRows _ (by simp), CustomerWalletService.credited,
          row_modify_of_ne (by decide)]
      rw [row_modify, sameTopups] at found
      split_ifs at found with same
      · obtain ⟨earlier, earlierFound, rfl⟩ := Option.map_eq_some_iff.mp found
        exact solvent.positive id earlier earlierFound
      · exact solvent.positive id current found
    · rw [paidTotal, paidTotal, total_modify_of_ne (by decide)]
      apply total_congr
      intro id
      rw [sameRows _ (by simp), CustomerWalletService.credited,
        row_modify_of_ne (by decide)]
  cases commits with
  | confirmed topup seen reseller id topupSeen _ _ _ _ =>
      apply main _ topup .confirmed topupSeen ?_ rfl
      rintro name (rfl | rfl | rfl) id <;>
        rw [WalletService.deducted,
          row_withLedgerEntry_of_ne (by decide) (by decide)]
  | insufficientCredit topup topupSeen _ =>
      exact main _ topup .confirmedInsufficientCredit topupSeen
        (fun _ _ _ => rfl) rfl

end Steps

section Runs

variable {Caller : Type} [DecidableEq Caller] (calls : Caller → ServiceCall)

/-- What a step of a purchase takes from the customer's balance. -/
def walletDebit (customerId : Nat) (system : ServiceSystem Caller)
    (event : Event Caller) : Cents :=
  if (calls event.call).isWalletPurchase then
    walletBalance system.state customerId -
      walletBalance (system.step event).state customerId
  else 0

variable {calls} {customerId : Nat}

omit [DecidableEq Caller] in
theorem preserved_solvent
    (operations : ∀ caller, (calls caller).IsWalletOperation) :
    PreservedBy (Solvent customerId) calls where
  quiet _ _ := Solvent.of_quiet
  writes caller before after solvent writes := by
    have operation := operations caller
    cases called : calls caller with
    | createOrderPaidByWallet | confirmCustomerTopup =>
        rw [called] at writes
        exact writes.elim
    | purchaseCharge | purchaseChargeBulk =>
        rw [called] at writes
        obtain ⟨codeId, orderId, rfl⟩ := writes
        exact solvent.link codeId orderId
    | _ => rw [called] at operation; exact operation.elim
  commits caller before after solvent commits := by
    have operation := operations caller
    cases called : calls caller with
    | createOrderPaidByWallet =>
        rw [called] at commits
        exact after_walletOrder solvent commits
    | confirmCustomerTopup =>
        rw [called] at commits
        exact (after_credit solvent commits).1
    | purchaseCharge | purchaseChargeBulk =>
        rw [called] at commits
        exact after_purchase solvent commits
    | _ => rw [called] at operation; exact operation.elim

/-- Every step takes from the balance what it adds to the paid orders. -/
theorem walletDebit_step
    (operations : ∀ caller, (calls caller).IsWalletOperation)
    {system : ServiceSystem Caller} {event : Event Caller}
    (sound : SoundCalls (Solvent customerId) calls system) :
    paidTotal system.state customerId +
        walletDebit calls customerId system event =
      paidTotal (system.step event).state customerId := by
  have operation := operations event.call
  cases (sound.step (preserved_solvent operations) event).2 with
  | quiet noCommit quiet =>
      have sameBalance : walletBalance (system.step event).state customerId =
          walletBalance system.state customerId := by
        rw [walletBalance, ← quiet_row quiet, walletBalance]
      rw [paidTotal_of_quiet quiet, walletDebit, sameBalance]
      simp
  | written noCommit isWrite writes =>
      cases called : calls event.call with
      | createOrderPaidByWallet | confirmCustomerTopup =>
          rw [called] at writes
          exact writes.elim
      | purchaseCharge | purchaseChargeBulk =>
          rw [called] at writes
          obtain ⟨codeId, orderId, linked⟩ := writes
          rw [walletDebit, linked, walletBalance_link, paidTotal_link]
          simp
      | _ => rw [called] at operation; exact operation.elim
  | committed isCommit commits =>
      cases called : calls event.call with
      | createOrderPaidByWallet =>
          rw [called] at commits
          rw [walletDebit, called]
          exact paidTotal_walletOrder commits
      | confirmCustomerTopup =>
          rw [called] at commits
          rw [walletDebit, called]
          simpa [ServiceCall.isWalletPurchase] using
            (after_credit sound.holds commits).2
      | purchaseCharge | purchaseChargeBulk =>
          rw [called] at commits
          rw [walletDebit, called]
          exact paidTotal_purchase commits
      | _ => rw [called] at operation; exact operation.elim

/-- Whatever purchases and confirmed top-ups run, in any interleaving and with
any of them lost at any statement: no balance goes below zero, and what the
purchases have taken from the customer is the total of the orders that they
have added. -/
theorem wallet_pays_for_orders (calls : Caller → ServiceCall)
    (operations : ∀ caller, (calls caller).IsWalletOperation) (db : Db)
    (customerId : Nat) (nonneg : 0 ≤ walletBalance db customerId)
    (positive : ∀ id topup, db.row .customerWalletTopups id = some topup →
      0 < topup.amount)
    (events : List (Event Caller)) :
    0 ≤ walletBalance (runCalls db calls events).state customerId ∧
      StepRuns.tally System.step (walletDebit calls customerId)
          (startCalls db calls) events =
        paidTotal (runCalls db calls events).state customerId -
          paidTotal db customerId := by
  have solvent : Solvent customerId db := ⟨nonneg, positive⟩
  have preserved : PreservedBy (Solvent customerId) calls :=
    preserved_solvent operations
  have sound : SoundCalls (Solvent customerId) calls (startCalls db calls) :=
    soundCalls_start solvent
  constructor
  · exact (invariant_run preserved solvent events).nonneg
  · have total := StepRuns.tally_telescopes
      (SoundCalls (Solvent customerId) calls)
      (fun system => paidTotal system.state customerId)
      (fun _ event sound _ => (sound.step preserved event).1)
      (fun _ _ sound _ => walletDebit_step operations sound) sound
      (StepRuns.along_true events)
    have moved : paidTotal db customerId +
        StepRuns.tally System.step (walletDebit calls customerId)
          (startCalls db calls) events =
        paidTotal (runCalls db calls events).state customerId := total
    linarith

end Runs

/-- A code and a package bought by the same customer during a top-up. -/
def shopCalls : Fin 3 → ServiceCall
  | 0 => .purchaseCharge 1 1 1 (shopStamp "AA")
  | 1 => .createOrderPaidByWallet 1 1 1 none (shopStamp "BB")
  | 2 => .confirmCustomerTopup 1

theorem isWalletOperation_shopCalls (caller : Fin 3) :
    (shopCalls caller).IsWalletOperation :=
  match caller with
  | 0 => trivial
  | 1 => trivial
  | 2 => trivial

/-- The first two calls run in turn, and the second is lost after its first
statements. -/
def shopEvents : List (Event (Fin 3)) :=
  [.advance 0, .advance 1, .advance 0, .advance 1, .advance 0, .advance 1,
    .advance 0, .advance 0, .advance 0, .lose 1] ++
      List.replicate 8 (.advance 0)

theorem wallet_pays_for_orders_shop :
    paidTotal (runCalls shopDb shopCalls shopEvents).state 1 = 800 ∧
      0 ≤ walletBalance (runCalls shopDb shopCalls shopEvents).state 1 ∧
      StepRuns.tally System.step (walletDebit shopCalls 1)
          (startCalls shopDb shopCalls) shopEvents =
        paidTotal (runCalls shopDb shopCalls shopEvents).state 1 -
          paidTotal shopDb 1 := by
  have positive : ∀ id topup,
      shopDb.row .customerWalletTopups id = some topup → 0 < topup.amount := by
    intro id topup found
    have listed := KeyedTable.mem_of_row_ofRows found
    rw [List.mem_singleton] at listed
    rw [listed]
    decide
  exact ⟨by decide +kernel, wallet_pays_for_orders shopCalls
    isWalletOperation_shopCalls shopDb 1 (by decide) positive shopEvents⟩

end Baste
