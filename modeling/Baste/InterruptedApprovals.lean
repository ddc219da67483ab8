import Baste.InterruptedPrograms
import Baste.ServiceCalls
import Mathlib.Tactic.IntervalCases

/-!
# An approval that fails on the way

The approval of a dispute commits three times: the refund, the dispute, the
order.  This file lets it fail at any of its commands and repeats it
afterwards.  A failure leaves nothing behind exactly as long as the refund has
not been committed; from then on the repetition refunds again.
-/

namespace Baste

open Database Transaction

namespace ServiceCall

/-- The call, running with no other, fails after some of its commands. -/
def failedAfter (call : ServiceCall) (executed : Nat) (db : Db) : Db :=
  (runCalls db (fun _ : Unit => call)
    (List.replicate executed (.advance ()) ++ [.lose ()])).state

theorem failedAfter_eq (call : ServiceCall) (executed : Nat) (db : Db) :
    call.failedAfter executed db =
      (call.program.interrupt executed none db).1 :=
  System.interrupt_eq_final _ _ _ _ _

end ServiceCall

/-- The refunds in a reseller's ledger that refer to an order code. -/
def refundsFor (db : Db) (resellerId : Nat) (orderCode : String) : Nat :=
  db.count .walletTransactions fun entry =>
    entry.resellerId = resellerId && entry.type = .refund &&
      entry.reference = some orderCode

/-- The rows are the same. -/
def RowsKept (before after : Db) : Prop :=
  ∀ name id, after.row name id = before.row name id

/-- The refund is in the ledger and the balance, the dispute is approved and
the order refunded; only the blacklist may differ. -/
def ApprovalComplete (disputeId : Nat) (before after : Db) : Prop :=
  ∀ name id, name ≠ .blacklist →
    after.row name id =
      (DisputeService.disputeApproved disputeId before).row name id

/-- An approval that fails after some commands leaves all or nothing behind,
and to repeat it does not refund twice. -/
def FailsCleanly (disputeId : Nat) (dispute : DisputeRow) (order : OrderRow)
    (db : Db) (executed : Nat) : Prop :=
  let approval := ServiceCall.approveDispute disputeId
  let failed := approval.failedAfter executed db
  (RowsKept db failed ∨ ApprovalComplete disputeId db failed) ∧
    refundsFor (approval.runAlone failed) dispute.resellerId order.orderCode ≤
      refundsFor db dispute.resellerId order.orderCode + 1

/-- An approval of the dispute refunds to the reseller under the order
code. -/
structure Refundable (disputeId : Nat) (dispute : DisputeRow)
    (order : OrderRow) (db : Db) : Prop where
  dispute_row : ∃ current, db.row .disputes disputeId = some current ∧
    current.orderId = dispute.orderId ∧
    current.resellerId = dispute.resellerId
  order_row : ∃ current, db.row .orders dispute.orderId = some current ∧
    current.orderCode = order.orderCode
  reseller_row : (db.row .resellers dispute.resellerId).isSome

/-- What the approval does after its refund. -/
def afterRefund (disputeId : Nat) (dispute : DisputeRow) (order : OrderRow) :
    Program Outcome :=
  updateRow .disputes disputeId (·.approve order.commissionAmount) <|
    updateRow .orders dispute.orderId (·.withStatus .refunded) <|
      DisputeService.approveDispute.blacklistCustomer
        (ServiceCall.finish fun _ => .nothing) order.customerId

section Approvals

variable {disputeId : Nat} {dispute : DisputeRow} {order : OrderRow}
variable {before after db : Db}

theorem refundsFor_congr {resellerId : Nat} {orderCode : String}
    (sameLedger : ∀ id, after.row .walletTransactions id =
      before.row .walletTransactions id) :
    refundsFor after resellerId orderCode =
      refundsFor before resellerId orderCode :=
  total_congr _ sameLedger

/-- A refund under the order code is one more refund. -/
theorem refundsFor_refunded {id : Nat} (balance : Cents) (amount : Rat)
    (resellerId : Nat) (orderCode : String)
    (reserved : db.Reserved .walletTransactions id) :
    refundsFor (WalletService.refunded balance resellerId amount orderCode id
        db) resellerId orderCode =
      refundsFor db resellerId orderCode + 1 := by
  rw [refundsFor, Database.count, WalletService.refunded,
    total_withLedgerEntry reserved]
  simp [refundsFor, Database.count, WalletService.refundEntry]

/-- A complete approval refunds once. -/
theorem Refundable.refundsFor_runAlone
    (refundable : Refundable disputeId dispute order db) :
    refundsFor ((ServiceCall.approveDispute disputeId).runAlone db)
        dispute.resellerId order.orderCode =
      refundsFor db dispute.resellerId order.orderCode + 1 := by
  obtain ⟨⟨foundDispute, disputeFound, sameOrder, sameReseller⟩,
    ⟨foundOrder, orderFound, sameCode⟩, resellerKnown⟩ := refundable
  obtain ⟨reseller, resellerFound⟩ := Option.isSome_iff_exists.mp resellerKnown
  have ran : ∀ id, ((ServiceCall.approveDispute disputeId).runAlone db).row
      .walletTransactions id =
        (DisputeService.disputeApproved disputeId db).row .walletTransactions
          id := by
    intro id
    exact congrArg (·.row id)
      (DisputeService.runAlone_approveDispute .walletTransactions (by decide))
  rw [refundsFor_congr ran, DisputeService.disputeApproved, disputeFound]
  dsimp only
  rw [sameOrder, orderFound]
  dsimp only
  rw [sameReseller, resellerFound, sameCode]
  dsimp only
  rw [refundsFor_congr fun id => row_modify_of_ne (by decide),
    refundsFor_congr fun id => row_modify_of_ne (by decide),
    refundsFor_refunded _ _ _ _ (reserved_reserve db _),
    refundsFor_congr fun id => row_reserve]

theorem Refundable.of_rows (refundable : Refundable disputeId dispute order before)
    (sameRows : ∀ name id, name ≠ .blacklist →
      after.row name id = before.row name id) :
    Refundable disputeId dispute order after where
  dispute_row := by
    rw [sameRows _ _ (by decide)]
    exact refundable.dispute_row
  order_row := by
    rw [sameRows _ _ (by decide)]
    exact refundable.order_row
  reseller_row := by
    rw [sameRows _ _ (by decide)]
    exact refundable.reseller_row

theorem Refundable.approve (refundable : Refundable disputeId dispute order db)
    (amount : Cents) :
    Refundable disputeId dispute order
      (db.modify .disputes disputeId (·.approve amount)) where
  dispute_row := by
    obtain ⟨current, found, terms⟩ := refundable.dispute_row
    refine ⟨current.approve amount, ?_, terms⟩
    rw [row_modify_self, found]
    rfl
  order_row := by
    rw [row_modify_of_ne (by decide)]
    exact refundable.order_row
  reseller_row := by
    rw [row_modify_of_ne (by decide)]
    exact refundable.reseller_row

theorem Refundable.withStatus
    (refundable : Refundable disputeId dispute order db) (status : OrderStatus) :
    Refundable disputeId dispute order
      (db.modify .orders dispute.orderId (·.withStatus status)) where
  dispute_row := by
    rw [row_modify_of_ne (by decide)]
    exact refundable.dispute_row
  order_row := by
    obtain ⟨current, found, sameCode⟩ := refundable.order_row
    refine ⟨current.withStatus status, ?_, sameCode⟩
    rw [row_modify_self, found]
    rfl
  reseller_row := by
    rw [row_modify_of_ne (by decide)]
    exact refundable.reseller_row

/-- The approval can be repeated, and the ledger has a number of refunds. -/
structure RefundedTimes (disputeId : Nat) (dispute : DisputeRow)
    (order : OrderRow) (times : Nat) (db : Db) : Prop
    extends Refundable disputeId dispute order db where
  refunds : refundsFor db dispute.resellerId order.orderCode = times

/-- What comes after the refund refunds nothing more, and leaves everything
that a repetition needs. -/
theorem safe_afterRefund (times : Nat) (state : Db) :
    (afterRefund disputeId dispute order).Safe dbView
      (RefundedTimes disputeId dispute order times)
      ⟨fun before after => RefundedTimes disputeId dispute order times before →
        RefundedTimes disputeId dispute order times after,
        fun _ _ => False⟩ none [] state := by
  refine safe_update fun first _ _ => ⟨fun refunded => ?_, ?_⟩
  · refine ⟨refunded.approve _, ?_⟩
    rw [refundsFor_congr fun id => row_modify_of_ne (by decide)]
    exact refunded.refunds
  refine safe_update fun second _ _ => ⟨fun refunded => ?_, ?_⟩
  · refine ⟨refunded.withStatus _, ?_⟩
    rw [refundsFor_congr fun id => row_modify_of_ne (by decide)]
    exact refunded.refunds
  refine Program.Safe.select fun third _ _ => ?_
  cases third.row .customers order.customerId with
  | none => trivial
  | some customer =>
      refine BlacklistService.safe_maybeAutoBlacklist
        (fun before entry refunded => ?_) fun reply now => ?_
      · have sameRows : ∀ name id, name ≠ .blacklist →
            ((before.reserve .blacklist).put .blacklist
              (before.nextId .blacklist) entry).row name id =
                before.row name id := by
          intro name id other
          rw [row_put_of_ne other, row_reserve]
        refine ⟨refunded.toRefundable.of_rows sameRows, ?_⟩
        rw [refundsFor_congr fun id => sameRows _ id (by decide)]
        exact refunded.refunds
      · cases reply <;> trivial

section Failures

variable {reseller : ResellerRow}

theorem interrupt_recordEntry {resellerId : Nat} {balance : Rat}
    {entry : WalletTransactionRow} {pending : Db → Db}
    {next : Except ServiceError Unit → Program Outcome} {executed : Nat}
    (known : ((pending db).row .resellers entry.resellerId).isSome) :
    (WalletService.recordEntry resellerId balance entry next).interrupt
        (executed + 2) (some pending) db =
      (next (.ok ())).interrupt executed
        (some fun later => (pending later).withLedgerEntry resellerId
          (storeDecimal balance) ((pending db).nextId .walletTransactions)
          entry)
        (db.reserve .walletTransactions) := by
  have stillKnown : (((pending db).modify .resellers resellerId
      (·.withCreditBalance (storeDecimal balance))).row .resellers
        entry.resellerId).isSome := by
    rw [row_modify]
    split_ifs <;> simp [known]
  simp [WalletService.recordEntry, updateRow, insertRow, Program.write,
    Program.interrupt, stillKnown, Db.withLedgerEntry]

/-- Up to the commit of the refund nothing is left behind, and after it the
refund is. -/
theorem interrupt_approveDispute (executed : Nat)
    (disputeFound : db.row .disputes disputeId = some dispute)
    (orderFound : db.row .orders dispute.orderId = some order)
    (resellerFound : db.row .resellers dispute.resellerId = some reseller) :
    (ServiceCall.approveDispute disputeId).program.interrupt (executed + 7)
        none db =
      (afterRefund disputeId dispute order).interrupt executed none
        (WalletService.refunded reseller.walletCreditBalance dispute.resellerId
          (decimal order.commissionAmount) order.orderCode
          (db.nextId .walletTransactions)
          (db.reserve .walletTransactions)) := by
  rw [ServiceCall.program, DisputeService.approveDispute,
    Program.interrupt_select, disputeFound]
  dsimp only
  rw [Program.interrupt_select, orderFound]
  dsimp only
  rw [WalletService.refundCommission, Program.interrupt_begin,
    Program.interrupt_selectForUpdate]
  dsimp only [id_eq]
  rw [resellerFound]
  dsimp only
  rw [interrupt_recordEntry (by simp [WalletService.refundEntry, resellerFound])]
  rfl

theorem sameRows_interrupt {executed : Nat} (early : executed < 7)
    (disputeFound : db.row .disputes disputeId = some dispute)
    (orderFound : db.row .orders dispute.orderId = some order)
    (resellerFound : db.row .resellers dispute.resellerId = some reseller) :
    RowsKept db ((ServiceCall.approveDispute disputeId).program.interrupt
      executed none db).1 := by
  intro name id
  interval_cases executed <;>
    simp [ServiceCall.program, DisputeService.approveDispute, disputeFound,
      orderFound, WalletService.refundCommission, resellerFound,
      WalletService.recordEntry, updateRow, insertRow, Program.write,
      Program.select, Program.selectForUpdate, Program.interrupt,
      WalletService.refundEntry, closeTransaction]

theorem refundable_refunded {id : Nat} {balance : Cents} {amount : Rat}
    {orderCode : String}
    (disputeFound : db.row .disputes disputeId = some dispute)
    (orderFound : db.row .orders dispute.orderId = some order)
    (resellerFound : db.row .resellers dispute.resellerId = some reseller) :
    Refundable disputeId dispute order (WalletService.refunded balance
      dispute.resellerId amount orderCode id db) where
  dispute_row := by
    refine ⟨dispute, ?_, rfl, rfl⟩
    rw [WalletService.refunded,
      row_withLedgerEntry_of_ne (by decide) (by decide), disputeFound]
  order_row := by
    refine ⟨order, ?_, rfl⟩
    rw [WalletService.refunded,
      row_withLedgerEntry_of_ne (by decide) (by decide), orderFound]
  reseller_row := by
    rw [WalletService.refunded, row_resellers_withLedgerEntry, if_pos rfl,
      resellerFound]
    rfl

/-- Once the refund is committed, every later failure leaves it behind. -/
theorem refundedTimes_failedAfter (executed : Nat)
    (disputeFound : db.row .disputes disputeId = some dispute)
    (orderFound : db.row .orders dispute.orderId = some order)
    (resellerFound : db.row .resellers dispute.resellerId = some reseller) :
    RefundedTimes disputeId dispute order
      (refundsFor db dispute.resellerId order.orderCode + 1)
      ((ServiceCall.approveDispute disputeId).failedAfter (executed + 7)
        db) := by
  rw [ServiceCall.failedAfter_eq,
    interrupt_approveDispute executed disputeFound orderFound resellerFound]
  have reserved := reserved_reserve db .walletTransactions
  have refundable : Refundable disputeId dispute order
      (WalletService.refunded reseller.walletCreditBalance dispute.resellerId
        (decimal order.commissionAmount) order.orderCode
        (db.nextId .walletTransactions) (db.reserve .walletTransactions)) := by
    exact refundable_refunded (row_reserve.trans disputeFound)
      (row_reserve.trans orderFound) (row_reserve.trans resellerFound)
  refine (safe_afterRefund _ _).interrupt ?_ ?_ ?_ ⟨refundable, ?_⟩ executed
  · intro before after refunded quiet
    have sameRows := fun name id => (quiet_row quiet name id).symm
    refine ⟨refunded.toRefundable.of_rows fun name id _ => sameRows name id, ?_⟩
    rw [refundsFor_congr fun id => sameRows _ id]
    exact refunded.refunds
  · exact fun _ _ refunded writes => writes refunded
  · exact fun _ _ _ commits => commits.elim
  · rw [refundsFor_refunded _ _ _ _ reserved,
      refundsFor_congr fun id => row_reserve]

end Failures

/-- An approval that fails leaves all or nothing behind, and its repetition
refunds no second time, if and only if it fails no later than at the commit of
the refund, its seventh command. -/
theorem failsCleanly_iff {reseller : ResellerRow} {executed : Nat}
    (disputeFound : db.row .disputes disputeId = some dispute)
    (orderFound : db.row .orders dispute.orderId = some order)
    (resellerFound : db.row .resellers dispute.resellerId = some reseller) :
    FailsCleanly disputeId dispute order db executed ↔ executed < 7 := by
  constructor
  · intro clean
    by_contra late
    obtain ⟨later, rfl⟩ := Nat.exists_eq_add_of_le' (not_lt.mp late)
    have refunded := refundedTimes_failedAfter later disputeFound orderFound
      resellerFound
    have again := refunded.refundsFor_runAlone
    have once := refunded.refunds
    have atMostOnce := clean.2
    omega
  · intro early
    have sameRows := sameRows_interrupt early disputeFound orderFound
      resellerFound
    rw [← ServiceCall.failedAfter_eq] at sameRows
    have refundable : Refundable disputeId dispute order db :=
      ⟨⟨dispute, disputeFound, rfl, rfl⟩, ⟨order, orderFound, rfl⟩, by
        simp [resellerFound]⟩
    have still := refundable.of_rows fun name id _ => sameRows name id
    refine ⟨.inl sameRows, ?_⟩
    rw [still.refundsFor_runAlone, refundsFor_congr fun id => sameRows _ id]

end Approvals

/-- An order whose refund has been asked for. -/
def disputedOrder : OrderRow where
  orderCode := "AR-1"
  resellerId := 1
  packageId := 1
  customerId := 1
  status := .refundPending
  packagePrice := 1000
  commissionAmount := 100

def openDispute : DisputeRow where
  orderId := 1
  resellerId := 1
  reason := "fake"

def disputedDb : Db :=
  .filled fun
    | .resellers => [shopReseller]
    | .customers => [shopCustomer]
    | .packages => [shopPackage]
    | .orders => [disputedOrder]
    | .disputes => [openDispute]
    | _ => []

theorem failsCleanly_iff_disputed :
    FailsCleanly 1 openDispute disputedOrder disputedDb 7 ↔ 7 < 7 :=
  failsCleanly_iff (by decide) (by decide) rfl

/-- The connection is lost when the dispute is to be marked: the refund is paid
while dispute and order are as before, and the repetition pays it again. -/
theorem refunded_again_after_failure :
    let approval := ServiceCall.approveDispute 1
    let failed := approval.failedAfter 7 disputedDb
    refundsFor failed 1 "AR-1" = 1 ∧
      failed.row .disputes 1 = some openDispute ∧
      failed.row .orders 1 = some disputedOrder ∧
      refundsFor (approval.runAlone failed) 1 "AR-1" = 2 ∧
      (approval.runAlone failed).row .resellers 1 =
        some (shopReseller.withCreditBalance 1200) ∧
      ¬ FailsCleanly 1 openDispute disputedOrder disputedDb 7 := by
  have twice : refundsFor ((ServiceCall.approveDispute 1).runAlone
      ((ServiceCall.approveDispute 1).failedAfter 7 disputedDb)) 1 "AR-1" =
        2 := by
    decide +kernel
  have never : refundsFor disputedDb 1 "AR-1" = 0 := by decide +kernel
  refine ⟨by decide +kernel, by decide +kernel, by decide +kernel, twice,
    by decide +kernel, fun clean => ?_⟩
  have atMostOnce := clean.2
  simp only [openDispute, disputedOrder] at atMostOnce
  omega

end Baste
