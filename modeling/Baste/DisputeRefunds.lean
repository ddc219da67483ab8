import Baste.OrderOperations
import Mathlib.Tactic.Linarith

/-!
# Refunds of the commission on an order

An approved dispute refunds the commission that is stored on its order, and it
does so again when it is approved again, and also for an order whose deduction
failed.  The refunds stay covered by the deductions as long as disputes are
approved while they are pending, and as long as nothing takes an order back
whose deduction failed or whose commission has been refunded.
-/

namespace Baste

open Database

/-- What a ledger row counts for in the deductions for an order. -/
def deductedAmount (orderCode : String) (entry : WalletTransactionRow) :
    Cents :=
  if entry.type = .commissionDeduction ∧ entry.reference = some orderCode then
    -entry.amount
  else 0

/-- What a ledger row counts for in the refunds for an order. -/
def refundedAmount (orderCode : String) (entry : WalletTransactionRow) :
    Cents :=
  if entry.type = .refund ∧ entry.reference = some orderCode then entry.amount
  else 0

/-- The total deducted for an order. -/
def deductedFor (db : Db) (orderCode : String) : Cents :=
  db.total .walletTransactions (deductedAmount orderCode)

/-- The total refunded for an order. -/
def refundedFor (db : Db) (orderCode : String) : Cents :=
  db.total .walletTransactions (refundedAmount orderCode)

/-- The commission stored on the order has been deducted and not yet
refunded, as far as the status says. -/
def OrderStatus.isCharged : OrderStatus → Bool
  | .failedInsufficientCredit | .refunded => false
  | _ => true

/-- Only pending disputes are approved, nothing but a receipt acts on an order
whose deduction failed or that has been refunded, and no commission is
negative. -/
def RefundsInTurn (orderId : Nat) (db : Db) (operation : OrderOperation) :
    Prop :=
  ∀ order ∈ db.row .orders orderId,
    match operation with
    | .submitReceipt _ key _ => key = orderId →
        ∀ reseller ∈ db.row .resellers order.resellerId,
          0 ≤ OrderService.commissionOf order reseller
    | .confirmOrder key | .rejectOrder key | .activateOrder key
    | .createDispute key _ _ => key = orderId → order.status.isCharged
    | .approveDispute disputeId => refundedOrder db disputeId = some orderId →
        order.status.isCharged ∧
        ∀ dispute ∈ db.row .disputes disputeId,
          dispute.reviewStatus = .pending
    | .rejectDispute _ => True

instance (orderId : Nat) (db : Db) (operation : OrderOperation) :
    Decidable (RefundsInTurn orderId db operation) := by
  unfold RefundsInTurn
  cases operation <;> infer_instance

/-- The operation pays the refund of a dispute about the order. -/
def OrderOperation.pays (orderId disputeId : Nat) (db : Db) :
    OrderOperation → Bool
  | .approveDispute id => id = disputeId && refundedOrder db id = some orderId
  | _ => false

/-- If the operation refunds something for the order, it approves a pending
dispute about it, and the order's deduction has not failed. -/
def RefundsPending (orderId : Nat) (orderCode : String) (db : Db)
    (operation : OrderOperation) : Prop :=
  refundedFor (operation.run db) orderCode ≠ refundedFor db orderCode →
    ∃ disputeId dispute, operation = .approveDispute disputeId ∧
      db.row .disputes disputeId = some dispute ∧
      dispute.orderId = orderId ∧ dispute.reviewStatus = .pending ∧
      statusOf db orderId ≠ some .failedInsufficientCredit

/-- The refunds for the order are covered by the deductions, with the stored
commission still to be refunded if the status says so. -/
structure Covered (orderId : Nat) (orderCode : String) (db : Db) : Prop where
  unique : ∀ id order, db.row .orders id = some order →
    order.orderCode = orderCode → id = orderId
  covered : ∃ order, db.row .orders orderId = some order ∧
    order.orderCode = orderCode ∧ 0 ≤ order.commissionAmount ∧
    refundedFor db orderCode +
        (if order.status.isCharged then order.commissionAmount else 0) ≤
      deductedFor db orderCode

section Steps

variable {orderId : Nat} {orderCode : String} {db : Db}

theorem Covered.refundedFor_le (covered : Covered orderId orderCode db) :
    refundedFor db orderCode ≤ deductedFor db orderCode := by
  obtain ⟨order, _, _, nonneg, bound⟩ := covered.covered
  split_ifs at bound <;> linarith

/-- No operation changes the code of an order. -/
theorem orderCode_run (operation : OrderOperation) {id : Nat}
    {later : OrderRow} (found : (operation.run db).row .orders id = some later) :
    ∃ order, db.row .orders id = some order ∧
      later.orderCode = order.orderCode := by
  have of_modify : ∀ (mid : Db) (key : Nat) (change : OrderRow → OrderRow),
      mid.row .orders id = db.row .orders id →
      (mid.modify .orders key change).row .orders id = some later →
      (∀ order, (change order).orderCode = order.orderCode) →
      ∃ order, db.row .orders id = some order ∧
        later.orderCode = order.orderCode := by
    intro mid key change same modified keeps
    rw [row_modify, same] at modified
    split_ifs at modified
    · obtain ⟨order, orderFound, rfl⟩ := Option.map_eq_some_iff.mp modified
      exact ⟨order, orderFound, keeps order⟩
    · exact ⟨later, modified, rfl⟩
  cases isReceipt : operation.isReceipt with
  | false =>
      rw [row_orders_run isReceipt] at found
      cases writes : operation.writes db with
      | none =>
          rw [writes] at found
          exact ⟨later, found, rfl⟩
      | some write =>
          rw [writes] at found
          exact of_modify db write.1 (·.withStatus write.2) rfl
            (row_modify.trans found) fun _ => rfl
  | true =>
      cases operation with
      | submitReceipt config key receiptFileId =>
          have result : ReceiptResult key receiptFileId db
              (receiptStatus config db key) _ := receiptResult_run
          generalize receiptStatus config db key = outcome,
            OrderOperation.run db _ = after at result found
          cases result with
          | refused => exact ⟨later, found, rfl⟩
          | testOrder | failed =>
              exact of_modify db _ _ rfl found fun _ => rfl
          | charged =>
              refine of_modify _ _ _ ?_ found fun _ => rfl
              rw [WalletService.deducted,
                row_withLedgerEntry_of_ne (by decide) (by decide), row_reserve]
      | _ => cases isReceipt

theorem Covered.unique_run (covered : Covered orderId orderCode db)
    (operation : OrderOperation) (id : Nat) (later : OrderRow)
    (found : (operation.run db).row .orders id = some later)
    (sameCode : later.orderCode = orderCode) : id = orderId := by
  obtain ⟨order, orderFound, code⟩ := orderCode_run operation found
  exact covered.unique id order orderFound (code.symm.trans sameCode)

/-- A step that leaves the ledger as it is. -/
theorem totals_of_sameLedger {after : Db}
    (same : ∀ id, after.row .walletTransactions id =
      db.row .walletTransactions id) :
    refundedFor after orderCode = refundedFor db orderCode ∧
      deductedFor after orderCode = deductedFor db orderCode :=
  ⟨total_congr _ same, total_congr _ same⟩

/-- A deduction adds what is stored of it to the deductions for its order. -/
theorem totals_deducted (db : Db) (orderCode : String) (balance : Cents)
    (resellerId : Nat) (amount : Rat) (code : String) :
    refundedFor (WalletService.deducted balance resellerId amount code
        (db.nextId .walletTransactions) (db.reserve .walletTransactions))
        orderCode = refundedFor db orderCode ∧
      deductedFor (WalletService.deducted balance resellerId amount code
        (db.nextId .walletTransactions) (db.reserve .walletTransactions))
        orderCode = deductedFor db orderCode +
          if code = orderCode then storeDecimal amount else 0 := by
  have reserved := reserved_reserve db .walletTransactions
  constructor
  · rw [refundedFor, WalletService.deducted, total_withLedgerEntry reserved,
      total_reserve, refundedFor]
    simp [refundedAmount, WalletService.deductionEntry]
  · rw [deductedFor, WalletService.deducted, total_withLedgerEntry reserved,
      total_reserve, deductedFor]
    simp [deductedAmount, WalletService.deductionEntry, storeDecimal_neg]

/-- A refund of a stored commission adds it to the refunds for its order. -/
theorem totals_refunded (db : Db) (orderCode : String) (balance : Cents)
    (resellerId : Nat) (commission : Cents) (code : String) :
    refundedFor (WalletService.refunded balance resellerId
        (decimal commission) code (db.nextId .walletTransactions)
        (db.reserve .walletTransactions)) orderCode =
          refundedFor db orderCode +
            (if code = orderCode then commission else 0) ∧
      deductedFor (WalletService.refunded balance resellerId
        (decimal commission) code (db.nextId .walletTransactions)
        (db.reserve .walletTransactions)) orderCode =
          deductedFor db orderCode := by
  have reserved := reserved_reserve db .walletTransactions
  constructor
  · rw [refundedFor, WalletService.refunded, total_withLedgerEntry reserved,
      total_reserve, refundedFor]
    simp [refundedAmount, WalletService.refundEntry]
  · rw [deductedFor, WalletService.refunded, total_withLedgerEntry reserved,
      total_reserve, deductedFor]
    simp [deductedAmount, WalletService.refundEntry]

/-- An operation that changes at most the status of the order, and only while
the order is charged. -/
theorem Covered.run_of_sameLedger (covered : Covered orderId orderCode db)
    {operation : OrderOperation} (noReceipt : operation.isReceipt = false)
    (noEntry : .walletTransactions ∉ operation.tables)
    (charged : ∀ status, operation.writes db = some (orderId, status) →
      ∀ order, db.row .orders orderId = some order → order.status.isCharged) :
    Covered orderId orderCode (operation.run db) ∧
      refundedFor (operation.run db) orderCode = refundedFor db orderCode := by
  obtain ⟨refunds, deductions⟩ : _ ∧
      deductedFor (operation.run db) orderCode = _ :=
    totals_of_sameLedger (operation.row_run_of_notMem noEntry)
  refine ⟨⟨covered.unique_run operation, ?_⟩, refunds⟩
  obtain ⟨order, found, code, nonneg, bound⟩ := covered.covered
  have after : (operation.run db).row .orders orderId = _ :=
    row_orders_run noReceipt orderId
  rw [refunds, deductions]
  cases writes : operation.writes db with
  | none =>
      rw [writes] at after
      exact ⟨order, after.trans found, code, nonneg, bound⟩
  | some write =>
      obtain ⟨key, status⟩ := write
      rw [writes] at after
      by_cases own : orderId = key
      · subst own
        simp only [if_true, found, Option.map_some] at after
        refine ⟨order.withStatus status, after, code, nonneg, ?_⟩
        rw [charged status writes order found, if_pos rfl] at bound
        change _ + (if status.isCharged then order.commissionAmount else 0) ≤ _
        split_ifs <;> linarith
      · simp only [if_neg own] at after
        exact ⟨order, after.trans found, code, nonneg, bound⟩

/-- A receipt that is written after the deduction of its commission. -/
theorem Covered.of_receipt (covered : Covered orderId orderCode db)
    {mid : Db} {key : Nat} {status : OrderStatus} {receiptFileId : String}
    {commission : Rat} {isTestOrder : Bool}
    (sameOrders : ∀ id, mid.row .orders id = db.row .orders id)
    (sameRefunds : refundedFor mid orderCode = refundedFor db orderCode)
    (own : key = orderId → 0 ≤ storeDecimal commission ∧
      refundedFor db orderCode +
          (if status.isCharged then storeDecimal commission else 0) ≤
        deductedFor mid orderCode)
    (other : key ≠ orderId →
      deductedFor mid orderCode = deductedFor db orderCode)
    (unique : ∀ id later, (mid.modify .orders key
        (·.withReceipt status receiptFileId commission isTestOrder)).row
          .orders id = some later →
      later.orderCode = orderCode → id = orderId) :
    Covered orderId orderCode (mid.modify .orders key
        (·.withReceipt status receiptFileId commission isTestOrder)) ∧
      refundedFor (mid.modify .orders key
        (·.withReceipt status receiptFileId commission isTestOrder))
        orderCode = refundedFor db orderCode := by
  obtain ⟨refunds, deductions⟩ : _ ∧
      deductedFor (mid.modify .orders key
        (·.withReceipt status receiptFileId commission isTestOrder))
        orderCode = deductedFor mid orderCode :=
    totals_of_sameLedger fun id => row_modify_of_ne (by decide)
  refine ⟨⟨unique, ?_⟩, refunds.trans sameRefunds⟩
  obtain ⟨order, found, code, nonneg, bound⟩ := covered.covered
  rw [refunds, deductions, sameRefunds]
  by_cases same : key = orderId
  · subst same
    obtain ⟨storedNonneg, stored⟩ := own rfl
    refine ⟨order.withReceipt status receiptFileId commission isTestOrder, ?_,
      code, storedNonneg, stored⟩
    rw [row_modify_self, sameOrders, found, Option.map_some]
  · refine ⟨order, ?_, code, nonneg, ?_⟩
    · rw [row_modify_ne (Ne.symm same), sameOrders, found]
    · rw [other same]
      exact bound

/-- A receipt refunds nothing, and what it stores it has deducted. -/
theorem Covered.run_receipt (covered : Covered orderId orderCode db)
    {config : Config} {key : Nat} {receiptFileId : String}
    (inTurn : RefundsInTurn orderId db
      (.submitReceipt config key receiptFileId)) :
    Covered orderId orderCode
        (OrderOperation.run db (.submitReceipt config key receiptFileId)) ∧
      refundedFor
        (OrderOperation.run db (.submitReceipt config key receiptFileId))
        orderCode = refundedFor db orderCode := by
  have unique := covered.unique_run (.submitReceipt config key receiptFileId)
  have bounded := covered.refundedFor_le
  have result : ReceiptResult key receiptFileId db
      (receiptStatus config db key) _ := receiptResult_run
  -- The commission that the receipt stores is not negative.
  have storedNonneg : ∀ order reseller, key = orderId →
      db.row .orders key = some order →
      db.row .resellers order.resellerId = some reseller →
      0 ≤ storeDecimal (OrderService.commissionOf order reseller) := by
    rintro order reseller rfl found resellerFound
    exact storeDecimal_nonneg (inTurn order found rfl reseller resellerFound)
  generalize receiptStatus config db key = outcome,
    OrderOperation.run db _ = after at result unique ⊢
  cases result with
  | refused => exact ⟨covered, rfl⟩
  | testOrder submitted submittedFound =>
      apply covered.of_receipt (fun _ => rfl) rfl ?_ (fun _ => rfl) unique
      intro _
      simpa [OrderStatus.isCharged] using bounded
  | failed submitted reseller submittedFound resellerFound =>
      apply covered.of_receipt (fun _ => rfl) rfl ?_ (fun _ => rfl) unique
      intro same
      have nonneg := storedNonneg _ _ same submittedFound resellerFound
      exact ⟨nonneg, by simpa [OrderStatus.isCharged] using bounded⟩
  | charged submitted reseller submittedFound resellerFound =>
      obtain ⟨refunds, deductions⟩ := totals_deducted db orderCode
        reseller.walletCreditBalance submitted.resellerId
        (OrderService.commissionOf submitted reseller) submitted.orderCode
      apply covered.of_receipt ?_ refunds ?_ ?_ unique
      · intro id
        rw [WalletService.deducted,
          row_withLedgerEntry_of_ne (by decide) (by decide), row_reserve]
      · rintro rfl
        have nonneg := storedNonneg _ _ rfl submittedFound resellerFound
        obtain ⟨order, found, code, _⟩ := covered.covered
        cases submittedFound.symm.trans found
        refine ⟨nonneg, ?_⟩
        rw [deductions, if_pos code]
        simpa [OrderStatus.isCharged] using bounded
      · intro different
        have otherCode : submitted.orderCode ≠ orderCode := fun same =>
          different (covered.unique key submitted submittedFound same)
        rw [deductions, if_neg otherCode, add_zero]

/-- The order row after an approval. -/
theorem row_orders_approve (db : Db) (orderId disputeId : Nat) :
    (OrderOperation.run db (.approveDispute disputeId)).row .orders orderId =
      if refundedOrder db disputeId = some orderId then
        (db.row .orders orderId).map (·.withStatus .refunded)
      else db.row .orders orderId := by
  rw [row_orders_run rfl, OrderOperation.writes]
  cases refundedOrder db disputeId with
  | none => rfl
  | some key =>
      simp only [Option.map_some, Option.some.injEq]
      by_cases own : orderId = key
      · rw [if_pos own, if_pos own.symm]
      · rw [if_neg own, if_neg (Ne.symm own)]

/-- The totals after an approval. -/
theorem totals_approve (db : Db) (orderCode : String) (disputeId : Nat) :
    (refundedOrder db disputeId = none ∧
      refundedFor (OrderOperation.run db (.approveDispute disputeId))
        orderCode = refundedFor db orderCode ∧
      deductedFor (OrderOperation.run db (.approveDispute disputeId))
        orderCode = deductedFor db orderCode) ∨
    ∃ dispute order, refundedOrder db disputeId = some dispute.orderId ∧
      db.row .disputes disputeId = some dispute ∧
      db.row .orders dispute.orderId = some order ∧
      refundedFor (OrderOperation.run db (.approveDispute disputeId))
        orderCode = refundedFor db orderCode +
          (if order.orderCode = orderCode then order.commissionAmount else 0) ∧
      deductedFor (OrderOperation.run db (.approveDispute disputeId))
        orderCode = deductedFor db orderCode := by
  obtain ⟨refunds, deductions⟩ :
      refundedFor (OrderOperation.run db (.approveDispute disputeId))
        orderCode = _ ∧ deductedFor _ orderCode = _ :=
    totals_of_sameLedger (row_run_approve (by decide))
  rw [refunds, deductions]
  have result : ApprovalResult disputeId db (refundedOrder db disputeId) _ :=
    approvalResult
  generalize refundedOrder db disputeId = outcome,
    DisputeService.disputeApproved disputeId db = after at result ⊢
  cases result with
  | refused => exact .inl ⟨rfl, rfl, rfl⟩
  | refunded dispute order reseller disputeFound orderFound _ =>
      obtain ⟨refundsHere, deductionsHere⟩ := totals_refunded db orderCode
        reseller.walletCreditBalance dispute.resellerId order.commissionAmount
        order.orderCode
      refine .inr ⟨dispute, order, rfl, disputeFound, orderFound, ?_⟩
      rw [← refundsHere, ← deductionsHere]
      apply totals_of_sameLedger
      intro id
      rw [row_modify_of_ne (by decide), row_modify_of_ne (by decide)]

/-- An approval of a pending dispute about a charged order refunds no more
than what has been deducted. -/
theorem Covered.run_approve (covered : Covered orderId orderCode db)
    {disputeId : Nat}
    (inTurn : RefundsInTurn orderId db (.approveDispute disputeId)) :
    Covered orderId orderCode
        (OrderOperation.run db (.approveDispute disputeId)) ∧
      RefundsPending orderId orderCode db (.approveDispute disputeId) := by
  have unique := covered.unique_run (.approveDispute disputeId)
  obtain ⟨order, found, code, nonneg, bound⟩ := covered.covered
  have after := row_orders_approve db orderId disputeId
  rcases totals_approve db orderCode disputeId with
    ⟨refused, refunds, deductions⟩ |
    ⟨dispute, target, refunded, disputeFound, orderFound, refunds,
      deductions⟩
  · rw [refused, if_neg nofun, found] at after
    refine ⟨⟨unique, order, after, code, nonneg, ?_⟩, ?_⟩
    · rw [refunds, deductions]
      exact bound
    · intro changed
      exact absurd refunds changed
  · by_cases own : dispute.orderId = orderId
    · rw [own] at refunded orderFound
      cases orderFound.symm.trans found
      obtain ⟨charged, pending⟩ := inTurn _ found refunded
      rw [refunded, if_pos rfl, found, Option.map_some] at after
      rw [charged, if_pos rfl] at bound
      refine ⟨⟨unique, _, after, code, nonneg, ?_⟩, fun _ => ?_⟩
      · rw [refunds, deductions, if_pos code]
        simpa [OrderRow.withStatus, OrderStatus.isCharged] using bound
      · refine ⟨disputeId, dispute, rfl, disputeFound, own,
          pending dispute disputeFound, ?_⟩
        rw [statusOf, found, Option.map_some]
        intro failed
        rw [Option.some.inj failed] at charged
        cases charged
    · have otherCode : target.orderCode ≠ orderCode := fun same =>
        own (covered.unique dispute.orderId target orderFound same)
      have notOwn : some dispute.orderId ≠ some orderId := fun same =>
        own (Option.some.inj same)
      rw [if_neg otherCode, add_zero] at refunds
      rw [refunded, if_neg notOwn, found] at after
      refine ⟨⟨unique, order, after, code, nonneg, ?_⟩, ?_⟩
      · rw [refunds, deductions]
        exact bound
      · intro changed
        exact absurd refunds changed

/-- One operation in turn. -/
theorem Covered.run (covered : Covered orderId orderCode db)
    {operation : OrderOperation}
    (inTurn : RefundsInTurn orderId db operation) :
    Covered orderId orderCode (operation.run db) ∧
      RefundsPending orderId orderCode db operation := by
  have unrefunded : Covered orderId orderCode (operation.run db) ∧
      refundedFor (operation.run db) orderCode = refundedFor db orderCode →
      Covered orderId orderCode (operation.run db) ∧
        RefundsPending orderId orderCode db operation :=
    fun kept => ⟨kept.1, fun changed => absurd kept.2 changed⟩
  cases operation with
  | submitReceipt => exact unrefunded (covered.run_receipt inTurn)
  | confirmOrder | rejectOrder | activateOrder | createDispute =>
      apply unrefunded
      apply covered.run_of_sameLedger rfl (by simp [OrderOperation.tables])
      intro status writes order found
      cases writes
      exact inTurn order found rfl
  | approveDispute => exact covered.run_approve inTurn
  | rejectDispute =>
      apply unrefunded
      apply covered.run_of_sameLedger rfl (by simp [OrderOperation.tables])
      intro status writes
      cases writes

/-- The dispute is about the order and has been decided. -/
def decidedAbout (db : Db) (orderId disputeId : Nat) : Bool :=
  (db.row .disputes disputeId).any fun dispute =>
    dispute.orderId = orderId && dispute.reviewStatus ≠ .pending

/-- No operation makes a dispute pending again. -/
theorem decidedAbout_run (operation : OrderOperation) {disputeId : Nat}
    (decided : decidedAbout db orderId disputeId) :
    decidedAbout (operation.run db) orderId disputeId := by
  have of_same : (operation.run db).row .disputes disputeId =
      db.row .disputes disputeId →
      decidedAbout (operation.run db) orderId disputeId := by
    intro same
    rw [decidedAbout, same]
    exact decided
  cases operation with
  | submitReceipt | confirmOrder | rejectOrder | activateOrder =>
      apply of_same
      exact OrderOperation.row_run_of_notMem _
        (by simp [OrderOperation.tables]) disputeId
  | createDispute key resellerId reason =>
      apply of_same
      rw [row_disputes_create, if_neg]
      rintro ⟨rfl, _⟩
      rw [decidedAbout, row_nextId] at decided
      cases decided
  | approveDispute id =>
      rcases row_disputes_approve db id with
        ⟨_, same⟩ | ⟨dispute, order, _, found, _, rows⟩
      · exact of_same (same disputeId)
      · by_cases approved : disputeId = id
        · subst approved
          rw [decidedAbout, found] at decided
          rw [decidedAbout, rows, if_pos rfl]
          simp only [Option.any_some, Bool.and_eq_true,
            decide_eq_true_eq] at decided ⊢
          exact ⟨decided.1, by simp [DisputeRow.approve]⟩
        · apply of_same
          rw [rows, if_neg approved]
  | rejectDispute id =>
      by_cases rejected : disputeId = id
      · subst rejected
        rw [decidedAbout] at decided
        rw [decidedAbout, row_disputes_reject, if_pos rfl]
        cases found : db.row .disputes disputeId with
        | none =>
            rw [found] at decided
            cases decided
        | some dispute =>
            rw [found] at decided
            simp only [Option.any_some, Option.map_some, Bool.and_eq_true,
              decide_eq_true_eq] at decided ⊢
            exact ⟨decided.1, by simp [DisputeRow.reject]⟩
      · apply of_same
        rw [row_disputes_reject, if_neg rejected]

/-- One if the operation pays the refund of the dispute. -/
def payment (orderId disputeId : Nat) (db : Db) (operation : OrderOperation) :
    Nat :=
  if operation.pays orderId disputeId db then 1 else 0

/-- A refund is paid to a pending dispute, which is decided afterwards. -/
theorem payment_le (covered : Covered orderId orderCode db)
    {operation : OrderOperation} {disputeId : Nat}
    (inTurn : RefundsInTurn orderId db operation) :
    (if decidedAbout db orderId disputeId then 1 else 0) +
        payment orderId disputeId db operation ≤
      if decidedAbout (operation.run db) orderId disputeId then 1 else 0 := by
  unfold payment
  by_cases pays : operation.pays orderId disputeId db
  · cases operation with
    | approveDispute id =>
        simp only [OrderOperation.pays, Bool.and_eq_true,
          decide_eq_true_eq] at pays
        obtain ⟨rfl, refunds⟩ := pays
        rcases row_disputes_approve db id with
          ⟨refused, _⟩ | ⟨dispute, order, refunded, found, _, rows⟩
        · rw [refused] at refunds
          cases refunds
        have own : dispute.orderId = orderId :=
          Option.some.inj (refunded.symm.trans refunds)
        obtain ⟨current, currentFound, _⟩ := covered.covered
        have pending : dispute.reviewStatus = .pending :=
          (inTurn current currentFound refunds).2 dispute found
        have undecided : decidedAbout db orderId id = false := by
          simp [decidedAbout, found, pending]
        have decided : decidedAbout
            (OrderOperation.run db (.approveDispute id)) orderId id := by
          rw [decidedAbout, rows, if_pos rfl]
          simp [DisputeRow.approve, own]
        rw [undecided, decided, if_neg nofun, if_pos rfl, zero_add]
        split <;> omega
    | _ => cases pays
  · rw [if_neg pays, add_zero]
    split_ifs with before after
    · exact le_rfl
    · exact absurd (decidedAbout_run operation before) after
    · exact Nat.zero_le _
    · exact le_rfl

end Steps

/-- For every order that has not been charged yet, and every run whose
operations are all in turn: the refunds for the order never exceed the
deductions, each refund goes to a pending dispute of an order whose deduction
has not failed, and no dispute is paid twice. -/
theorem refunds_covered (orderId : Nat) (db : Db) (order : OrderRow)
    (found : db.row .orders orderId = some order)
    (unique : ∀ id other, db.row .orders id = some other →
      other.orderCode = order.orderCode → id = orderId)
    (noCommission : order.commissionAmount = 0)
    (noDeductions : deductedFor db order.orderCode = 0)
    (noRefunds : refundedFor db order.orderCode = 0)
    (operations : List OrderOperation)
    (inTurn : StepRuns.Along OrderOperation.run (RefundsInTurn orderId) db
      operations) :
    StepRuns.Along OrderOperation.run
        (fun now operation =>
          refundedFor (operation.run now) order.orderCode ≤
            deductedFor (operation.run now) order.orderCode ∧
          RefundsPending orderId order.orderCode now operation) db
        operations ∧
      ∀ disputeId, StepRuns.tally OrderOperation.run
        (payment orderId disputeId) db operations ≤ 1 := by
  have initial : Covered orderId order.orderCode db := by
    refine ⟨unique, order, found, rfl, le_of_eq noCommission.symm, ?_⟩
    rw [noRefunds, noDeductions, noCommission]
    simp
  have kept : ∀ now operation, Covered orderId order.orderCode now →
      RefundsInTurn orderId now operation →
      Covered orderId order.orderCode (operation.run now) :=
    fun _ _ covered inTurn => (covered.run inTurn).1
  constructor
  · have along := StepRuns.along_of_guarded (Covered orderId order.orderCode)
      (fun now operation =>
        refundedFor (operation.run now) order.orderCode ≤
          deductedFor (operation.run now) order.orderCode ∧
        RefundsPending orderId order.orderCode now operation) ?_ initial inTurn
    · exact along.1
    · intro now operation covered guard
      obtain ⟨after, pending⟩ := covered.run guard
      exact ⟨⟨after.refundedFor_le, pending⟩, after⟩
  · intro disputeId
    have total : _ + StepRuns.tally OrderOperation.run
        (payment orderId disputeId) db operations ≤ _ :=
      StepRuns.tally_le_increase (Covered orderId order.orderCode)
      (fun now => if decidedAbout now orderId disputeId then 1 else 0) kept
      (fun _ _ covered guard => payment_le covered guard) initial inTurn
    have atMostOne : ∀ now, (if decidedAbout now orderId disputeId then 1
        else 0) ≤ 1 := by
      intro now
      split <;> omega
    have last := atMostOne
      (StepRuns.final OrderOperation.run db operations)
    omega

/-- The whole life of a refunded order. -/
def refundedLife : List OrderOperation :=
  [.submitReceipt {} 1 "photo", .rejectOrder 1, .createDispute 1 1 "fake",
    .approveDispute 1]

theorem refunds_covered_refunded :
    StepRuns.Along OrderOperation.run
        (fun now operation =>
          refundedFor (operation.run now) "AR-1" ≤
            deductedFor (operation.run now) "AR-1" ∧
          RefundsPending 1 "AR-1" now operation) orderDb refundedLife ∧
      ∀ disputeId, StepRuns.tally OrderOperation.run (payment 1 disputeId)
        orderDb refundedLife ≤ 1 := by
  refine refunds_covered 1 orderDb shopOrder (by decide) ?_ rfl (by decide)
    (by decide) refundedLife (by decide +kernel)
  intro id other found _
  have bound := lt_nextId_of_row found
  have only : ∀ id < 2, (orderDb.row .orders id).isSome → id = 1 := by decide
  exact only id bound (by rw [found]; rfl)

/-- The same order, with a reseller whose credit covers no commission. -/
def failingDb : Db :=
  .filled fun
    | .resellers => [{ shopReseller with walletCreditBalance := 0 }]
    | .customers => [shopCustomer]
    | .packages => [{ shopPackage with salePrice := 1000 }]
    | .orders => [shopOrder]
    | _ => []

/-- A dispute that is approved twice refunds twice, and an order whose
deduction failed is refunded without having been charged. -/
theorem refunded_beyond_deductions :
    (let twice := StepRuns.final OrderOperation.run orderDb
      (refundedLife ++ [.approveDispute 1])
    deductedFor twice "AR-1" = 100 ∧ refundedFor twice "AR-1" = 200) ∧
    (let failed := StepRuns.final OrderOperation.run failingDb
      [.submitReceipt {} 1 "photo"]
    let refunded := StepRuns.final OrderOperation.run failed
      [.createDispute 1 1 "fake", .approveDispute 1]
    statusOf failed 1 = some .failedInsufficientCredit ∧
      deductedFor refunded "AR-1" = 0 ∧ refundedFor refunded "AR-1" = 100) ∧
    (let rejected := StepRuns.final OrderOperation.run orderDb
      [.submitReceipt {} 1 "photo", .rejectOrder 1, .createDispute 1 1 "fake",
        .rejectDispute 1]
    refundedFor rejected "AR-1" = 0 ∧
      refundedFor (OrderOperation.run rejected (.approveDispute 1)) "AR-1" =
        100) := by
  decide +kernel

end Baste
