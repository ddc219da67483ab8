import Baste.ServiceCalls

/-!
# The operations on an order

The calls that an order and its disputes see over their life, one after
another: a receipt is submitted, the reseller confirms, rejects or activates
the order, and disputes are opened, approved or rejected.  For each operation
this file says what it leaves behind in the rows of one order.
-/

namespace Baste

open Database Transaction

inductive OrderOperation where
  | submitReceipt (config : Config) (orderId : Nat) (receiptFileId : String)
  | confirmOrder (orderId : Nat)
  | rejectOrder (orderId : Nat)
  | activateOrder (orderId : Nat)
  | createDispute (orderId resellerId : Nat) (reason : String)
  | approveDispute (disputeId : Nat)
  | rejectDispute (disputeId : Nat)

namespace OrderOperation

def call : OrderOperation → ServiceCall
  | submitReceipt config orderId receiptFileId =>
      .submitReceipt config orderId receiptFileId
  | confirmOrder orderId => .confirmOrder orderId
  | rejectOrder orderId => .rejectOrder orderId
  | activateOrder orderId => .activateOrder orderId
  | createDispute orderId resellerId reason =>
      .createDispute orderId resellerId reason
  | approveDispute disputeId => .approveDispute disputeId
  | rejectDispute disputeId => .rejectDispute disputeId

/-- The operation submits a receipt. -/
def isReceipt : OrderOperation → Bool
  | submitReceipt .. => true
  | _ => false

/-- The database after an operation. -/
def run (db : Db) (operation : OrderOperation) : Db :=
  operation.call.runAlone db

end OrderOperation

/-- The current status of an order. -/
def statusOf (db : Db) (orderId : Nat) : Option OrderStatus :=
  (db.row .orders orderId).map (·.status)

/-- The status that a submitted receipt gives to its order, unless the receipt
is refused. -/
def receiptStatus (config : Config) (db : Db) (orderId : Nat) :
    Option OrderStatus :=
  (db.row .orders orderId).bind fun order =>
    if config.maxPendingOrdersPerCustomer ≤
        OrderService.countPendingOrders db order.customerId then none
    else
      (db.row .resellers order.resellerId).map fun reseller =>
        if reseller.takesTestOrder then .awaitingReceiptReview
        else if WalletService.ExceedsCredit reseller
            (OrderService.commissionOf order reseller) then
          .failedInsufficientCredit
        else .awaitingReceiptReview

/-- The order that the approval of a dispute refunds, if its rows are there. -/
def refundedOrder (db : Db) (disputeId : Nat) : Option Nat :=
  (db.row .disputes disputeId).bind fun dispute =>
    if (db.row .orders dispute.orderId).isSome ∧
        (db.row .resellers dispute.resellerId).isSome then
      some dispute.orderId
    else none

/-- The order whose status an operation writes, with the status. -/
def OrderOperation.writes (db : Db) :
    OrderOperation → Option (Nat × OrderStatus)
  | submitReceipt config orderId _ =>
      (receiptStatus config db orderId).map fun status => (orderId, status)
  | confirmOrder orderId => some (orderId, .confirmed)
  | rejectOrder orderId => some (orderId, .rejected)
  | activateOrder orderId => some (orderId, .activated)
  | createDispute orderId _ _ => some (orderId, .refundPending)
  | approveDispute disputeId =>
      (refundedOrder db disputeId).map fun orderId => (orderId, .refunded)
  | rejectDispute _ => none

section Receipts

variable {db : Db} {config : Config} {orderId : Nat} {receiptFileId : String}

/-- What a submitted receipt can do, with the status it gives to the order. -/
inductive ReceiptResult (orderId : Nat) (receiptFileId : String) (db : Db) :
    Option OrderStatus → Db → Prop where
  | refused : ReceiptResult orderId receiptFileId db none db
  | testOrder (order : OrderRow)
      (orderFound : db.row .orders orderId = some order) :
      ReceiptResult orderId receiptFileId db (some .awaitingReceiptReview)
        (db.modify .orders orderId
          (·.withReceipt .awaitingReceiptReview receiptFileId 0 true))
  | failed (order : OrderRow) (reseller : ResellerRow)
      (orderFound : db.row .orders orderId = some order)
      (resellerFound : db.row .resellers order.resellerId = some reseller) :
      ReceiptResult orderId receiptFileId db (some .failedInsufficientCredit)
        (db.modify .orders orderId
          (·.withReceipt .failedInsufficientCredit receiptFileId
            (OrderService.commissionOf order reseller) false))
  | charged (order : OrderRow) (reseller : ResellerRow)
      (orderFound : db.row .orders orderId = some order)
      (resellerFound : db.row .resellers order.resellerId = some reseller) :
      ReceiptResult orderId receiptFileId db (some .awaitingReceiptReview)
        ((WalletService.deducted reseller.walletCreditBalance order.resellerId
          (OrderService.commissionOf order reseller) order.orderCode
          (db.nextId .walletTransactions)
          (db.reserve .walletTransactions)).modify .orders orderId
            (·.withReceipt .awaitingReceiptReview receiptFileId
              (OrderService.commissionOf order reseller) false))

theorem receiptResult_run :
    ReceiptResult orderId receiptFileId db (receiptStatus config db orderId)
      (OrderOperation.run db (.submitReceipt config orderId receiptFileId)) := by
  have ran : OrderOperation.run db
      (.submitReceipt config orderId receiptFileId) =
        OrderService.receiptSubmitted config orderId receiptFileId db :=
    OrderService.runAlone_submitReceipt
  rw [ran, receiptStatus, OrderService.receiptSubmitted]
  cases orderFound : db.row .orders orderId with
  | none => exact .refused
  | some order =>
      rw [Option.bind_some]
      dsimp only
      split_ifs with full
      · exact .refused
      cases resellerFound : db.row .resellers order.resellerId with
      | none => exact .refused
      | some reseller =>
          rw [Option.map_some]
          dsimp only
          split_ifs with isTest exceeds
          · exact .testOrder order orderFound
          · exact .failed order reseller orderFound resellerFound
          · exact .charged order reseller orderFound resellerFound

end Receipts

section Disputes

variable {db : Db} {disputeId : Nat}

/-- What an approval can do outside the blacklist, with the order it
refunds. -/
inductive ApprovalResult (disputeId : Nat) (db : Db) :
    Option Nat → Db → Prop where
  | refused : ApprovalResult disputeId db none db
  | refunded (dispute : DisputeRow) (order : OrderRow) (reseller : ResellerRow)
      (disputeFound : db.row .disputes disputeId = some dispute)
      (orderFound : db.row .orders dispute.orderId = some order)
      (resellerFound : db.row .resellers dispute.resellerId = some reseller) :
      ApprovalResult disputeId db (some dispute.orderId)
        (((WalletService.refunded reseller.walletCreditBalance
          dispute.resellerId (decimal order.commissionAmount) order.orderCode
          (db.nextId .walletTransactions)
          (db.reserve .walletTransactions)).modify .disputes disputeId
            (·.approve order.commissionAmount)).modify .orders dispute.orderId
              (·.withStatus .refunded))

theorem approvalResult :
    ApprovalResult disputeId db (refundedOrder db disputeId)
      (DisputeService.disputeApproved disputeId db) := by
  rw [refundedOrder, DisputeService.disputeApproved]
  cases disputeFound : db.row .disputes disputeId with
  | none => exact .refused
  | some dispute =>
      rw [Option.bind_some]
      dsimp only
      cases orderFound : db.row .orders dispute.orderId with
      | none => exact .refused
      | some order =>
          cases resellerFound : db.row .resellers dispute.resellerId with
          | none => exact .refused
          | some reseller =>
              exact .refunded dispute order reseller disputeFound orderFound
                resellerFound

/-- What an approval does to the rows of all tables but the blacklist. -/
theorem row_run_approve {name : TableName} (other : name ≠ .blacklist)
    (id : Nat) :
    (OrderOperation.run db (.approveDispute disputeId)).row name id =
      (DisputeService.disputeApproved disputeId db).row name id := by
  have sameTable :
      (OrderOperation.run db (.approveDispute disputeId)).table name =
        (DisputeService.disputeApproved disputeId db).table name :=
    DisputeService.runAlone_approveDispute name other
  exact congrArg (fun table => table.row id) sameTable

end Disputes

namespace OrderOperation

variable {db : Db}

theorem run_activateOrder {orderId : Nat} :
    run db (.activateOrder orderId) = OrderService.orderActivated orderId db :=
  OrderService.runAlone_activateOrder

theorem run_createDispute {orderId resellerId : Nat} {reason : String} :
    run db (.createDispute orderId resellerId reason) =
      DisputeService.disputeCreated orderId resellerId reason db :=
  DisputeService.runAlone_createDispute

/-- The tables that an operation may write. -/
def tables : OrderOperation → List TableName
  | submitReceipt .. => [.orders, .resellers, .walletTransactions]
  | confirmOrder _ | rejectOrder _ => [.orders]
  | activateOrder _ => [.orders, .resellers]
  | createDispute .. => [.orders, .disputes]
  | approveDispute _ =>
      [.orders, .resellers, .walletTransactions, .disputes, .blacklist]
  | rejectDispute _ => [.disputes]

/-- All other tables stay as they are. -/
theorem row_run_of_notMem (operation : OrderOperation) {name : TableName}
    (untouched : name ∉ operation.tables) (id : Nat) :
    (operation.run db).row name id = db.row name id := by
  cases operation with
  | submitReceipt config key receiptFileId =>
      simp only [tables, List.mem_cons, List.not_mem_nil, or_false,
        not_or] at untouched
      obtain ⟨notOrders, notResellers, notLedger⟩ := untouched
      have result : ReceiptResult key receiptFileId db
          (receiptStatus config db key) _ := receiptResult_run
      generalize receiptStatus config db key = outcome,
        run db _ = after at result ⊢
      cases result with
      | refused => rfl
      | testOrder | failed => rw [row_modify_of_ne notOrders]
      | charged =>
          rw [row_modify_of_ne notOrders, WalletService.deducted,
            row_withLedgerEntry_of_ne notResellers notLedger]
          exact row_reserve
  | confirmOrder key | rejectOrder key =>
      exact row_modify_of_ne (by simpa [tables] using untouched)
  | activateOrder key =>
      simp only [tables, List.mem_cons, List.not_mem_nil, or_false,
        not_or] at untouched
      obtain ⟨notOrders, notResellers⟩ := untouched
      rw [run_activateOrder, OrderService.orderActivated]
      cases db.row .orders key with
      | none => exact row_modify_of_ne notOrders
      | some order =>
          dsimp only
          split_ifs
          · rw [row_modify_of_ne notResellers, row_modify_of_ne notOrders]
          · rw [row_modify_of_ne notOrders]
  | createDispute key resellerId reason =>
      simp only [tables, List.mem_cons, List.not_mem_nil, or_false,
        not_or] at untouched
      obtain ⟨notOrders, notDisputes⟩ := untouched
      rw [run_createDispute, DisputeService.disputeCreated]
      split_ifs
      · rw [row_put_of_ne notDisputes, row_reserve, row_modify_of_ne notOrders]
      · rw [row_reserve, row_modify_of_ne notOrders]
  | approveDispute disputeId =>
      simp only [tables, List.mem_cons, List.not_mem_nil, or_false,
        not_or] at untouched
      obtain ⟨notOrders, notResellers, notLedger, notDisputes, notBlacklist⟩ :=
        untouched
      rw [row_run_approve notBlacklist]
      have result : ApprovalResult disputeId db (refundedOrder db disputeId) _ :=
        approvalResult
      generalize refundedOrder db disputeId = outcome,
        DisputeService.disputeApproved disputeId db = after at result ⊢
      cases result with
      | refused => rfl
      | refunded =>
          rw [row_modify_of_ne notOrders, row_modify_of_ne notDisputes,
            WalletService.refunded,
            row_withLedgerEntry_of_ne notResellers notLedger]
          exact row_reserve
  | rejectDispute disputeId =>
      exact row_modify_of_ne (by simpa [tables] using untouched)

end OrderOperation

section DisputeRows

variable (db : Db) (id : Nat)

theorem row_disputes_create (orderId resellerId : Nat) (reason : String) :
    (OrderOperation.run db (.createDispute orderId resellerId reason)).row
        .disputes id =
      if id = db.nextId .disputes ∧ (db.row .orders orderId).isSome ∧
          (db.row .resellers resellerId).isSome then
        some (DisputeService.newDispute orderId resellerId reason)
      else db.row .disputes id := by
  rw [OrderOperation.run_createDispute, DisputeService.disputeCreated]
  by_cases known : (db.row .orders orderId).isSome ∧
      (db.row .resellers resellerId).isSome
  · rw [if_pos known]
    by_cases new : id = db.nextId .disputes
    · rw [if_pos ⟨new, known⟩, new, row_put_self (by simp)]
    · rw [if_neg fun both => new both.1, row_put_ne new, row_reserve,
        row_modify_of_ne (by decide)]
  · rw [if_neg known, if_neg fun both => known both.2, row_reserve,
      row_modify_of_ne (by decide)]

theorem row_disputes_reject (disputeId : Nat) :
    (OrderOperation.run db (.rejectDispute disputeId)).row .disputes id =
      if id = disputeId then (db.row .disputes id).map (·.reject)
      else db.row .disputes id :=
  row_modify

/-- The disputes after an approval: only an approval that finds all rows
changes its dispute. -/
theorem row_disputes_approve (db : Db) (disputeId : Nat) :
    (refundedOrder db disputeId = none ∧
      ∀ id, (OrderOperation.run db (.approveDispute disputeId)).row .disputes
        id = db.row .disputes id) ∨
    ∃ dispute order, refundedOrder db disputeId = some dispute.orderId ∧
      db.row .disputes disputeId = some dispute ∧
      db.row .orders dispute.orderId = some order ∧
      ∀ id, (OrderOperation.run db (.approveDispute disputeId)).row .disputes
        id = if id = disputeId then
          some (dispute.approve order.commissionAmount)
        else db.row .disputes id := by
  simp only [row_run_approve (show TableName.disputes ≠ .blacklist by decide)]
  have result : ApprovalResult disputeId db (refundedOrder db disputeId) _ :=
    approvalResult
  generalize refundedOrder db disputeId = outcome,
    DisputeService.disputeApproved disputeId db = after at result ⊢
  cases result with
  | refused => exact .inl ⟨rfl, fun _ => rfl⟩
  | refunded dispute order reseller disputeFound orderFound =>
      refine .inr ⟨dispute, order, rfl, disputeFound, orderFound, fun id => ?_⟩
      rw [row_modify_of_ne (by decide), row_modify, WalletService.refunded,
        row_withLedgerEntry_of_ne (by decide) (by decide), row_reserve]
      split_ifs with same
      · rw [same, disputeFound, Option.map_some]
      · rfl

end DisputeRows

section Statuses

variable {db db' : Db} {orderId : Nat}

/-- The status of an order after a write of its or another order's status. -/
theorem statusOf_modify {key : Nat} {change : OrderRow → OrderRow}
    {status : OrderStatus}
    (sameOrders : ∀ id, db'.row .orders id = db.row .orders id)
    (sets : ∀ order, (change order).status = status) :
    statusOf (db'.modify .orders key change) orderId =
      if key = orderId then (statusOf db orderId).map fun _ => status
      else statusOf db orderId := by
  rw [statusOf, row_modify, sameOrders, statusOf]
  by_cases same : orderId = key
  · rw [if_pos same, if_pos same.symm, Option.map_map, Option.map_map]
    congr 1
    funext order
    exact sets order
  · rw [if_neg same, if_neg (Ne.symm same)]

/-- Every operation other than a receipt changes nothing in the orders but the
status that it writes. -/
theorem row_orders_run {operation : OrderOperation}
    (noReceipt : operation.isReceipt = false) (id : Nat) :
    (operation.run db).row .orders id =
      match operation.writes db with
      | none => db.row .orders id
      | some (key, status) =>
          if id = key then (db.row .orders id).map (·.withStatus status)
          else db.row .orders id := by
  cases operation with
  | submitReceipt => cases noReceipt
  | confirmOrder key | rejectOrder key => exact row_modify
  | activateOrder key =>
      have activated : (db.modify .orders key (·.withStatus .activated)).row
          .orders id = _ := row_modify
      rw [OrderOperation.run_activateOrder, OrderService.orderActivated]
      cases db.row .orders key with
      | none => exact activated
      | some order =>
          dsimp only
          split_ifs
          · rw [row_modify_of_ne (by decide)]
            exact activated
          · exact activated
  | createDispute key resellerId reason =>
      have marked : (db.modify .orders key (·.withStatus .refundPending)).row
          .orders id = _ := row_modify
      rw [OrderOperation.run_createDispute, DisputeService.disputeCreated]
      split_ifs
      · rw [row_put_of_ne (by decide), row_reserve]
        exact marked
      · rw [row_reserve]
        exact marked
  | approveDispute disputeId =>
      rw [row_run_approve (by decide), OrderOperation.writes]
      have result : ApprovalResult disputeId db (refundedOrder db disputeId) _ :=
        approvalResult
      generalize refundedOrder db disputeId = outcome,
        DisputeService.disputeApproved disputeId db = after at result ⊢
      cases result with
      | refused => rfl
      | refunded dispute order reseller =>
          rw [row_modify, row_modify_of_ne (by decide), WalletService.refunded,
            row_withLedgerEntry_of_ne (by decide) (by decide), row_reserve]
          rfl
  | rejectDispute disputeId =>
      exact OrderOperation.row_run_of_notMem (.rejectDispute disputeId)
        (by simp [OrderOperation.tables]) id

/-- The status of an order after an operation. -/
theorem statusOf_run (operation : OrderOperation) :
    statusOf (operation.run db) orderId =
      match operation.writes db with
      | none => statusOf db orderId
      | some (key, status) =>
          if key = orderId then (statusOf db orderId).map fun _ => status
          else statusOf db orderId := by
  cases isReceipt : operation.isReceipt with
  | false =>
      rw [statusOf, row_orders_run isReceipt]
      cases operation.writes db with
      | none => rfl
      | some write =>
          dsimp only
          by_cases own : orderId = write.1
          · rw [if_pos own, if_pos own.symm, statusOf, Option.map_map,
              Option.map_map]
            rfl
          · rw [if_neg own, if_neg (Ne.symm own), statusOf]
  | true =>
      cases operation with
      | submitReceipt config key receiptFileId =>
          rw [OrderOperation.writes]
          have result : ReceiptResult key receiptFileId db
              (receiptStatus config db key) _ := receiptResult_run
          generalize receiptStatus config db key = outcome,
            OrderOperation.run db _ = after at result ⊢
          cases result with
          | refused => rfl
          | testOrder | failed =>
              exact statusOf_modify (fun _ => rfl) fun _ => rfl
          | charged order reseller =>
              refine statusOf_modify (fun id => ?_) fun _ => rfl
              rw [WalletService.deducted,
                row_withLedgerEntry_of_ne (by decide) (by decide), row_reserve]
      | _ => cases isReceipt

end Statuses

/-- An order of 10.00 for examples, which awaits its payment. -/
def shopOrder : OrderRow where
  orderCode := "AR-1"
  resellerId := 1
  packageId := 1
  customerId := 1
  packagePrice := 1000

def orderDb : Db :=
  .filled fun
    | .resellers => [shopReseller]
    | .customers => [shopCustomer]
    | .packages => [{ shopPackage with salePrice := 1000 }]
    | .orders => [shopOrder]
    | _ => []

end Baste
