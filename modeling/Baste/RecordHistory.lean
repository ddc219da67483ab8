import Baste.RowRetention
import Baste.ServiceFootprints

/-!
# The history of records

What the service functions leave of the records of a shop, however their calls
interleave and wherever connections are lost.  Nothing that was agreed with a
customer is deleted or rewritten; only codes that have not been sold are
deleted.
-/

namespace Baste

open Database Transaction

/-- The order without what its processing changes. -/
def OrderRow.asOrdered (order : OrderRow) : OrderRow :=
  { order with
    status := .awaitingPayment
    receiptImage := none
    commissionAmount := 0
    isTestOrder := false }

/-- The decision about a ledger entry. -/
def WalletTransactionRow.decision (entry : WalletTransactionRow) :
    Option TransactionStatus :=
  if entry.status = .pending then none else some entry.status

/-- There is a decision about a top-up. -/
def CustomerWalletTopupRow.decided (topup : CustomerWalletTopupRow) :
    Option Unit :=
  if topup.status = .pending then none else some ()

/-- There is a decision about a dispute. -/
def DisputeRow.decided (dispute : DisputeRow) : Option Unit :=
  if dispute.reviewStatus = .pending then none else some ()

/-- Sold codes stay, as they were sold. -/
def soldCodePolicy : RowPolicy ChargeCodeRow where
  Permanent := ChargeCodeRow
  Fact := Unit
  stays code := code.status = .sold
  permanent code := { code with soldOrderId := none }
  settled _ := none
  stays_of_permanent {old new} same sold := by
    have sameStatus : new.status = old.status :=
      (ChargeCodeRow.mk.inj same).2.2.2.1
    exact sameStatus.trans sold

/-- What the service functions may change.  An order goes on having a receipt
when it has one; decisions about top-ups and disputes may be changed, but not
taken back. -/
def recordPolicy : ∀ name, RowPolicy (RowOf name)
  | .resellers => .keeping (fun reseller : ResellerRow =>
      { reseller with
        walletCreditBalance := 0
        testModeEnabled := false
        testModeOrdersUsed := 0 }) fun _ => (none : Option Unit)
  | .customers => .keeping (CustomerRow.withBalance 0)
      fun _ => (none : Option Unit)
  | .orders => .keeping OrderRow.asOrdered fun order : OrderRow =>
      order.receiptImage.map fun _ => ()
  | .walletTransactions => .keeping (fun entry : WalletTransactionRow =>
      { entry with status := .pending }) WalletTransactionRow.decision
  | .customerWalletTopups => .keeping
      (CustomerWalletTopupRow.withStatus .pending)
      CustomerWalletTopupRow.decided
  | .disputes => .keeping (fun dispute : DisputeRow =>
      { dispute with reviewStatus := .pending, refundedAmount := none })
      DisputeRow.decided
  | .chargeCodes => soldCodePolicy
  | _ => .fixed

section Changes

variable {db : Db} {id : Nat}

theorem retains_order {change : OrderRow → OrderRow}
    (sameOrder : ∀ order, (change order).asOrdered = order.asOrdered)
    (receipt : ∀ order, order.receiptImage.isSome →
      (change order).receiptImage.isSome) :
    Retains recordPolicy db (db.modify .orders id change) := by
  apply Retains.modify
  intro old _ _
  refine ⟨sameOrder old, ?_⟩
  intro fact isSettled
  obtain ⟨image, isImage, -⟩ := Option.map_eq_some_iff.mp isSettled
  have later := receipt old (by rw [isImage]; rfl)
  obtain ⟨new, isNew⟩ := Option.isSome_iff_exists.mp later
  exact Option.map_eq_some_iff.mpr ⟨new, isNew, rfl⟩

theorem retains_orderStatus {status : OrderStatus} :
    Retains recordPolicy db (db.modify .orders id (·.withStatus status)) :=
  retains_order (fun _ => rfl) fun _ has => has

theorem retains_receipt {status : OrderStatus} {receiptFileId : String}
    {commission : Rat} {isTestOrder : Bool} :
    Retains recordPolicy db (db.modify .orders id
      (·.withReceipt status receiptFileId commission isTestOrder)) :=
  retains_order (fun _ => rfl) fun _ _ => rfl

theorem retains_reseller {change : ResellerRow → ResellerRow}
    (permanent : ∀ reseller, (recordPolicy .resellers).permanent
      (change reseller) = (recordPolicy .resellers).permanent reseller) :
    Retains recordPolicy db (db.modify .resellers id change) :=
  .modify fun old _ _ => ⟨permanent old, fun _ isSettled => by
    cases isSettled⟩

theorem retains_balance {balance : CustomerRow → Cents} :
    Retains recordPolicy db (db.modify .customers id fun customer =>
      customer.withBalance (balance customer)) :=
  .modify fun _ _ _ => ⟨rfl, fun _ isSettled => by cases isSettled⟩

theorem retains_topup {status : TopupStatus} (decided : status ≠ .pending) :
    Retains recordPolicy db
      (db.modify .customerWalletTopups id (·.withStatus status)) :=
  .modify fun _ _ _ => ⟨rfl, fun _ _ => if_neg decided⟩

theorem retains_dispute {change : DisputeRow → DisputeRow}
    (same : ∀ dispute, (recordPolicy .disputes).permanent (change dispute) =
      (recordPolicy .disputes).permanent dispute)
    (decided : ∀ dispute, (change dispute).reviewStatus ≠ .pending) :
    Retains recordPolicy db (db.modify .disputes id change) :=
  .modify fun old _ _ => ⟨same old, fun _ _ => if_neg (decided old)⟩

theorem retains_soldOrder {orderId : Nat} :
    Retains recordPolicy db
      (db.modify .chargeCodes id (·.withSoldOrder orderId)) :=
  .modify fun _ _ _ => ⟨rfl, fun _ isSettled => by cases isSettled⟩

theorem retains_withLedgerEntry {resellerId : Nat} {balance : Cents}
    {entry : WalletTransactionRow}
    (reserved : db.Reserved .walletTransactions id) :
    Retains recordPolicy db (db.withLedgerEntry resellerId balance id entry) := by
  have updated : Retains recordPolicy db (db.modify .resellers resellerId
      (·.withCreditBalance balance)) := retains_reseller fun _ => rfl
  refine updated.trans (.put ?_)
  rw [row_modify_of_ne (by decide), reserved.1]

/-- A pending entry of the ledger is confirmed. -/
theorem retains_confirmedEntry {entry : WalletTransactionRow}
    (found : db.row .walletTransactions id = some entry)
    (pending : entry.status = .pending) :
    Retains recordPolicy db (db.modify .walletTransactions id
      fun entry => { entry with status := .confirmed }) := by
  apply Retains.modify
  intro old isOld _
  cases found.symm.trans isOld
  refine ⟨rfl, ?_⟩
  intro fact isSettled
  have undecided : entry.decision = none := if_pos pending
  cases undecided.symm.trans isSettled

/-- The sale of an available code. -/
theorem retains_deliver {purchase : ChargeService.Purchase}
    {sale : ChargeService.Sale}
    (found : db.row .chargeCodes sale.codeId = some sale.code)
    (available : ChargeService.isAvailable purchase.packageId sale.code)
    (reserved : db.Reserved .orders sale.orderId) :
    Retains recordPolicy db (purchase.deliver db sale) := by
  rw [ChargeService.Purchase.deliver]
  refine (Retains.put reserved.1).trans (.modify ?_)
  intro old isOld sold
  rw [row_put_of_ne (by decide)] at isOld
  cases found.symm.trans isOld
  have isAvailable := (Bool.and_eq_true_iff.mp available).2
  cases (of_decide_eq_true isAvailable).symm.trans sold

theorem retains_deliverAll {purchase : ChargeService.Purchase}
    {sales : List ChargeService.Sale}
    (deliverable : purchase.Deliverable db sales) (quantity : Int) :
    Retains recordPolicy db
      (sales.foldl purchase.deliver (purchase.debited quantity db)) := by
  apply ChargeService.Purchase.foldl_deliver_of_invariant
    (Retains recordPolicy db) ?_ (deliverable.debited quantity)
  · exact retains_balance
  · intro now sale found available reserved soFar
    exact soFar.trans (retains_deliver found available reserved)

end Changes

namespace ServiceCall

variable {invariant : Db → Prop} {call : ServiceCall} {before after : Db}

theorem retains_of_writes
    (writes : (call.guarantee invariant).writes before after) :
    Retains recordPolicy before after := by
  cases call with
  | createOrder =>
      obtain ⟨_, _, rfl⟩ := writes
      exact .insert
  | confirmOrder | rejectOrder =>
      cases writes
      exact retains_orderStatus
  | activateOrder =>
      rcases writes with rfl | ⟨_, -, rfl⟩
      · exact retains_orderStatus
      · exact retains_reseller fun _ => rfl
  | rejectCustomerTopup =>
      cases writes
      exact retains_topup (by decide)
  | createDispute =>
      rcases writes with rfl | rfl
      · exact retains_orderStatus
      · exact .insert
  | approveDispute =>
      obtain ⟨_, _, -, -, rfl | rfl | ⟨_, rfl⟩⟩ := writes
      · exact retains_dispute (fun _ => rfl) fun _ => by simp [DisputeRow.approve]
      · exact retains_orderStatus
      · exact .insert
  | rejectDispute =>
      cases writes
      exact retains_dispute (fun _ => rfl) fun _ => by simp [DisputeRow.reject]
  | addChargeCodes =>
      obtain ⟨_, -, rfl⟩ := writes
      exact .insert
  | deleteAvailableCode | clearAvailableCodes =>
      obtain ⟨ids, areAvailable, rfl⟩ := writes
      apply Retains.erase
      intro id gone old found sold
      obtain ⟨code, isCode, available⟩ := areAvailable id gone
      cases found.symm.trans isCode
      cases available.symm.trans sold
  | purchaseCharge | purchaseChargeBulk =>
      obtain ⟨_, _, rfl⟩ := writes
      exact retains_soldOrder
  | _ => exact writes.elim

theorem retains_of_commits
    (commits : (call.guarantee invariant).commits before after) :
    Retains recordPolicy before after := by
  cases call with
  | deductCommission =>
      obtain ⟨_, _, -, -, reserved, rfl⟩ := commits
      exact retains_withLedgerEntry reserved
  | refundCommission =>
      obtain ⟨_, _, -, reserved, rfl⟩ := commits
      exact retains_withLedgerEntry reserved
  | requestTopup =>
      obtain ⟨_, reserved, rfl⟩ := commits
      exact .put reserved.1
  | confirmTopup =>
      obtain ⟨_, _, found, pending, -, rfl⟩ := commits
      exact (retains_confirmedEntry found pending).trans
        (retains_reseller fun _ => rfl)
  | createOrderPaidByWallet =>
      obtain ⟨_, _, _, _, -, -, reserved, rfl⟩ := commits
      refine retains_balance.trans (.put ?_)
      rw [row_modify_of_ne (by decide), reserved.1]
  | submitReceipt =>
      cases commits with
      | testOrder | failed => exact retains_receipt
      | charged _ _ _ _ _ _ _ _ _ reserved =>
          exact (retains_withLedgerEntry reserved).trans retains_receipt
  | confirmCustomerTopup =>
      cases commits with
      | confirmed topup _ _ id _ _ _ _ reserved =>
          have credited : (CustomerWalletService.credited topup
              before).Reserved .walletTransactions id := by
            simpa [Database.Reserved, CustomerWalletService.credited] using
              reserved
          exact (retains_balance.trans
            (retains_withLedgerEntry credited)).trans
              (retains_topup (by decide))
      | insufficientCredit =>
          exact retains_balance.trans (retains_topup (by decide))
  | approveDispute =>
      obtain ⟨_, _, -, -, _, _, -, reserved, rfl⟩ := commits
      exact retains_withLedgerEntry reserved
  | purchaseCharge | purchaseChargeBulk =>
      obtain ⟨_, sales, _, _, _, deliverable, rfl⟩ := commits
      exact retains_deliverAll deliverable _
  | _ => exact commits.elim

/-- Every service function keeps the records. -/
theorem retains_runAlone (call : ServiceCall) (db : Db) :
    Retains recordPolicy db (call.runAlone db) := by
  let invariant : Db → Prop := Retains recordPolicy db
  have preserves : System.Preserves dbView invariant
      fun _ : Unit => call.guarantee invariant :=
    { quiet := fun _ _ holds quiet => holds.trans (.of_quiet quiet)
      writes := fun _ _ _ holds writes =>
        holds.trans (retains_of_writes writes)
      commits := fun _ _ _ holds commits =>
        holds.trans (retains_of_commits commits) }
  exact (call.safe_program invariant db).runAlone preserves (.refl db)

end ServiceCall

/-- Between any two moments of any interleaving of service calls, with any
losses of connections, the records are kept. -/
theorem records_retained {Caller : Type} [DecidableEq Caller] (db : Db)
    (calls : Caller → ServiceCall) (earlier later : List (Event Caller)) :
    Retains recordPolicy (runCalls db calls earlier).state
      (runCalls db calls (earlier ++ later)).state := by
  have nothing : PreservedBy (fun _ => True) calls :=
    System.Preserves.of_true _ _
  have sound : SoundCalls (fun _ => True) calls (runCalls db calls earlier) :=
    StepRuns.final_of_invariant (SoundCalls (fun _ => True) calls)
      (fun _ event sound => (sound.step nothing event).1)
      (soundCalls_start trivial) earlier
  rw [runCalls, runCalls, StepRuns.final_append]
  exact sound.related_final (Retains recordPolicy)
    (fun _ _ => Retains.of_quiet)
    (fun _ _ _ => ServiceCall.retains_of_writes)
    (fun _ _ _ => ServiceCall.retains_of_commits) nothing later

end Baste
