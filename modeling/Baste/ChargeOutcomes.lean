import Baste.CommissionLedger
import Baste.ReceiptCharges

/-!
# The outcomes of a charge

A receipt and a confirmed top-up charge the reseller in a transaction whose
refusal by the credit limit is recorded and committed as well.  This file
follows the history of one such call among other changes of the same credit:
it commits once, as its result says, or it has changed nothing.
-/

namespace Baste

open Database Transaction

/-- The calls that change the credit of a reseller, or ask for a change. -/
def ServiceCall.MovesCredit : ServiceCall → Prop
  | .submitReceipt .. | .confirmCustomerTopup .. => True
  | call => call.IsCommissionOperation

/-- The order or the top-up that a call decides on. -/
def ServiceCall.decidesOn : ServiceCall → Option (TableName × Nat)
  | .submitReceipt _ orderId _ => some (.orders, orderId)
  | .confirmCustomerTopup topupId => some (.customerWalletTopups, topupId)
  | _ => none

/-- Of the resellers only the credit has changed, and the given row not at
all. -/
structure CreditMoved (name : TableName) (id : Nat) (before after : Db) :
    Prop where
  spared : after.row name id = before.row name id
  creditOnly : ∀ key, (after.row .resellers key).map (·.withCreditBalance 0) =
    (before.row .resellers key).map (·.withCreditBalance 0)

/-- All rows but these are the same. -/
def SameExcept (changed : List (TableName × Nat)) (before after : Db) : Prop :=
  ∀ name id, (name, id) ∉ changed → after.row name id = before.row name id

section Footprints

variable {before mid after : Db} {changed : List (TableName × Nat)}
variable {name : TableName} {id : Nat}

theorem SameExcept.refl : SameExcept changed before before :=
  fun _ _ _ => rfl

theorem SameExcept.modify (same : SameExcept changed before mid)
    (member : (name, id) ∈ changed) (change : RowOf name → RowOf name) :
    SameExcept changed before (mid.modify name id change) := by
  intro other key outside
  rw [← same other key outside]
  by_cases sameName : other = name
  · subst sameName
    apply row_modify_ne
    rintro rfl
    exact outside member
  · exact row_modify_of_ne sameName

theorem SameExcept.withLedgerEntry (same : SameExcept changed before mid)
    {resellerId : Nat} (resellerMember : (.resellers, resellerId) ∈ changed)
    (entryMember : (.walletTransactions, id) ∈ changed) (balance : Cents)
    (entry : WalletTransactionRow) :
    SameExcept changed before
      (mid.withLedgerEntry resellerId balance id entry) := by
  intro other key outside
  rw [← same.modify resellerMember _ other key outside, Db.withLedgerEntry]
  by_cases sameName : other = .walletTransactions
  · subst sameName
    apply row_put_ne
    rintro rfl
    exact outside entryMember
  · exact row_put_of_ne sameName

theorem CreditMoved.of_quiet (quiet : dbView.Quiet before after) :
    CreditMoved name id before after where
  spared := (quiet_row quiet name id).symm
  creditOnly key := by rw [quiet_row quiet]

theorem CreditMoved.trans (first : CreditMoved name id before mid)
    (second : CreditMoved name id mid after) :
    CreditMoved name id before after where
  spared := second.spared.trans first.spared
  creditOnly key := (second.creditOnly key).trans (first.creditOnly key)

theorem creditMoved_withCreditBalance (resellerId : Nat) (balance : Cents)
    (notReseller : name ≠ .resellers) :
    CreditMoved name id before
      (before.modify .resellers resellerId (·.withCreditBalance balance)) where
  spared := row_modify_of_ne notReseller
  creditOnly key := by
    rw [row_modify]
    split_ifs with same
    · cases before.row .resellers key <;> rfl
    · rfl

theorem creditMoved_put {other : TableName} (new : RowOf other) (key : Nat)
    (notReseller : other ≠ .resellers) (elsewhere : other ≠ name) :
    CreditMoved name id before (before.put other key new) where
  spared := row_put_of_ne elsewhere.symm
  creditOnly _ := by rw [row_put_of_ne notReseller.symm]

theorem creditMoved_modify (other : TableName) {key : Nat}
    (change : RowOf other → RowOf other) (notReseller : other ≠ .resellers)
    (elsewhere : (other, key) ≠ (name, id)) :
    CreditMoved name id before (before.modify other key change) where
  spared := by
    by_cases same : name = other
    · subst same
      apply row_modify_ne
      rintro rfl
      exact elsewhere rfl
    · exact row_modify_of_ne same
  creditOnly _ := by rw [row_modify_of_ne notReseller.symm]

theorem creditMoved_withLedgerEntry {resellerId key : Nat} {balance : Cents}
    {entry : WalletTransactionRow} (notReseller : name ≠ .resellers)
    (notLedger : name ≠ .walletTransactions) :
    CreditMoved name id before
      (before.withLedgerEntry resellerId balance key entry) :=
  (creditMoved_withCreditBalance resellerId balance notReseller).trans
    (creditMoved_put entry key (by decide) notLedger.symm)

end Footprints

/-- What a call that moves credit commits spares every order and top-up that it
does not decide on. -/
theorem ServiceCall.creditMoved {call : ServiceCall} {invariant : Db → Prop}
    {before after : Db} {name : TableName} {id : Nat}
    (moves : call.MovesCredit) (spared : call.decidesOn ≠ some (name, id))
    (decided : name = .orders ∨ name = .customerWalletTopups)
    (commits : (call.guarantee invariant).commits before after) :
    CreditMoved name id before after := by
  have notReseller : name ≠ .resellers := by
    rcases decided with rfl | rfl <;> decide
  have notLedger : name ≠ .walletTransactions := by
    rcases decided with rfl | rfl <;> decide
  have notCustomer : name ≠ .customers := by
    rcases decided with rfl | rfl <;> decide
  cases call with
  | deductCommission =>
      obtain ⟨_, _, _, _, _, rfl⟩ := commits
      exact creditMoved_withLedgerEntry notReseller notLedger
  | refundCommission =>
      obtain ⟨_, _, _, _, rfl⟩ := commits
      exact creditMoved_withLedgerEntry notReseller notLedger
  | requestTopup =>
      obtain ⟨_, _, rfl⟩ := commits
      exact creditMoved_put _ _ (by decide) notLedger.symm
  | confirmTopup =>
      obtain ⟨_, _, _, _, _, rfl⟩ := commits
      exact (creditMoved_modify .walletTransactions _ (by decide)
        fun same => notLedger (Prod.ext_iff.mp same).1.symm).trans
          (creditMoved_withCreditBalance _ _ notReseller)
  | submitReceipt config orderId receiptFileId =>
      have elsewhere : (TableName.orders, orderId) ≠ (name, id) :=
        fun same => spared (congrArg some same)
      cases commits with
      | testOrder => exact creditMoved_modify _ _ (by decide) elsewhere
      | failed => exact creditMoved_modify _ _ (by decide) elsewhere
      | charged =>
          exact (creditMoved_withLedgerEntry notReseller notLedger).trans
            (creditMoved_modify _ _ (by decide) elsewhere)
  | confirmCustomerTopup topupId =>
      have elsewhere : (TableName.customerWalletTopups, topupId) ≠ (name, id) :=
        fun same => spared (congrArg some same)
      have creditedMoved : ∀ topup,
          CreditMoved name id before
            (CustomerWalletService.credited topup before) :=
        fun topup => creditMoved_modify _ _ (by decide)
          fun same => notCustomer (Prod.ext_iff.mp same).1.symm
      cases commits with
      | confirmed topup =>
          exact ((creditedMoved topup).trans
            (creditMoved_withLedgerEntry notReseller notLedger)).trans
              (creditMoved_modify _ _ (by decide) elsewhere)
      | insufficientCredit topup =>
          exact (creditedMoved topup).trans
            (creditMoved_modify _ _ (by decide) elsewhere)
  | _ => exact moves.elim

theorem ServiceCall.no_writes_of_movesCredit {call : ServiceCall}
    {invariant : Db → Prop} {before after : Db} (moves : call.MovesCredit) :
    ¬ (call.guarantee invariant).writes before after := by
  cases call <;> first | exact id | exact moves.elim

theorem CreditMoved.reseller {name : TableName} {id key : Nat}
    {before after : Db} (moved : CreditMoved name id before after)
    {reseller : ResellerRow}
    (found : before.row .resellers key = some reseller) :
    ∃ later, after.row .resellers key = some later ∧
      later.withCreditBalance 0 = reseller.withCreditBalance 0 := by
  have same := moved.creditOnly key
  rw [found] at same
  cases foundLater : after.row .resellers key with
  | none => simp [foundLater] at same
  | some later => exact ⟨later, rfl, by simpa [foundLater] using same⟩

section Receipts

variable {orderId : Nat} {order : OrderRow} {reseller : ResellerRow}

theorem SameTerms.of_creditMoved {before after : Db}
    (terms : SameTerms orderId order reseller before)
    (moved : CreditMoved .orders orderId before after) :
    SameTerms orderId order reseller after where
  order_row := by
    rw [moved.spared]
    exact terms.order_row
  reseller_row := by
    obtain ⟨current, found, test, percent, limit⟩ := terms.reseller_row
    obtain ⟨later, foundLater, same⟩ := moved.reseller found
    refine ⟨later, foundLater, ?_, ?_, ?_⟩
    · exact (congrArg ResellerRow.takesTestOrder same).trans test
    · exact (congrArg ResellerRow.commissionPercent same).trans percent
    · exact (congrArg ResellerRow.creditLimitNegative same).trans limit

variable (orderId order reseller)

/-- The order waits for the review of its receipt, and the credit has paid the
commission that it records: one ledger row of that amount, and a balance lowered
by it.  The balance is the one that the reseller has had since its row was
locked. -/
inductive ReceiptAccepted (change : Recorded Db RowKey) : Prop
  | testOrder (row : OrderRow)
      (isTest : reseller.takesTestOrder = true)
      (stored : change.after.row .orders orderId = some row)
      (reviewed : row.status = .awaitingReceiptReview)
      (marked : row.isTestOrder = true)
      (free : row.commissionAmount = 0)
      (same : SameExcept [(.orders, orderId)] change.before change.after)
  | charged (row : OrderRow) (current : ResellerRow) (entryId : Nat)
      (entry : WalletTransactionRow)
      (noTest : reseller.takesTestOrder = false)
      (stored : change.after.row .orders orderId = some row)
      (reviewed : row.status = .awaitingReceiptReview)
      (unmarked : row.isTestOrder = false)
      (priced : row.commissionAmount =
        storeDecimal (OrderService.commissionOf order reseller))
      (found : change.before.row .resellers order.resellerId = some current)
      (within : ¬ WalletService.ExceedsCredit current
        (OrderService.commissionOf order reseller))
      (new : change.before.Reserved .walletTransactions entryId)
      (entered : change.after.row .walletTransactions entryId = some entry)
      (deduction : entry.type = .commissionDeduction ∧
        entry.resellerId = order.resellerId ∧
        entry.reference = some order.orderCode)
      (recorded : entry.amount = -row.commissionAmount)
      (lowered : change.after.row .resellers order.resellerId =
        some (current.withCreditBalance
          (storeDecimal (decimal current.walletCreditBalance -
            OrderService.commissionOf order reseller))))
      (same : SameExcept [(.orders, orderId), (.resellers, order.resellerId),
        (.walletTransactions, entryId)] change.before change.after)

/-- The order has failed: a commission would pass the limit of the credit that
the locked row of the reseller has, and nothing but the order has changed. -/
structure ReceiptRefused (change : Recorded Db RowKey) : Prop where
  noTest : reseller.takesTestOrder = false
  failed : ∃ row, change.after.row .orders orderId = some row ∧
    row.status = .failedInsufficientCredit ∧ row.isTestOrder = false
  exceeds : ∃ current,
    change.before.row .resellers order.resellerId = some current ∧
      WalletService.ExceedsCredit current
        (OrderService.commissionOf order reseller)
  same : SameExcept [(.orders, orderId)] change.before change.after

/-- The order and the reseller's settings stay as they are; nothing else is
known of other calls. -/
def receiptEnvironment : Environment dbView :=
  .unconditional (SameTerms orderId order reseller) fun _ _ =>
    SameTerms.of_quiet

/-- What a receipt has changed, as its result says.  A call without a result
is still running, or one of its statements has failed. -/
def ReceiptOutcome (_ : Db) (past : List (Recorded Db RowKey)) :
    Option Outcome → Prop
  | some (.ok _) => ∃ change, past = [change] ∧
      ReceiptAccepted orderId order reseller change
  | some (.error (.orderInsufficientCredit ..)) => ∃ change,
      past = [change] ∧ ReceiptRefused orderId order reseller change
  | some (.error _) => past = []
  | none => past = [] ∨ ∃ change, past = [change] ∧
      ReceiptAccepted orderId order reseller change

variable {orderId order reseller}

/-- The order as a receipt leaves it. -/
theorem SameTerms.row_withReceipt {db : Db} {receiptFileId : String}
    {status : OrderStatus} {commission : Rat} {isTest : Bool}
    (terms : SameTerms orderId order reseller db) :
    ∃ row, (db.modify .orders orderId
        (·.withReceipt status receiptFileId commission isTest)).row .orders
          orderId = some row ∧
      row.status = status ∧ row.isTestOrder = isTest ∧
      row.commissionAmount = storeDecimal commission := by
  obtain ⟨current, found, -⟩ := terms.order_row
  refine ⟨current.withReceipt status receiptFileId commission isTest, ?_, rfl,
    rfl, rfl⟩
  rw [row_modify_self, found]
  rfl

theorem SameTerms.accepted_testOrder {now : Db} {receiptFileId : String}
    {rows : List RowKey}
    (terms : SameTerms orderId order reseller now)
    (isTest : reseller.takesTestOrder = true) :
    ReceiptAccepted orderId order reseller ⟨now, now.modify .orders orderId
      (·.withReceipt .awaitingReceiptReview receiptFileId 0 true), rows⟩ := by
  obtain ⟨row, stored, reviewed, marked, free⟩ := terms.row_withReceipt
  exact .testOrder row isTest stored reviewed marked
    (free.trans storeDecimal_zero) (SameExcept.refl.modify (by simp) _)

theorem SameTerms.refused {now : Db} {receiptFileId : String}
    {rows : List RowKey}
    {current : ResellerRow} (terms : SameTerms orderId order reseller now)
    (noTest : reseller.takesTestOrder = false)
    (found : now.row .resellers order.resellerId = some current)
    (exceeds : WalletService.ExceedsCredit current
      (OrderService.commissionOf order reseller)) :
    ReceiptRefused orderId order reseller ⟨now, now.modify .orders orderId
      (·.withReceipt .failedInsufficientCredit receiptFileId
        (OrderService.commissionOf order reseller) false), rows⟩ := by
  obtain ⟨row, stored, failed, unmarked, -⟩ := terms.row_withReceipt
  exact ⟨noTest, ⟨row, stored, failed, unmarked⟩, ⟨current, found, exceeds⟩,
    SameExcept.refl.modify (by simp) _⟩

theorem SameTerms.accepted_charged {now : Db} {receiptFileId : String}
    {rows : List RowKey}
    {current : ResellerRow} {entryId : Nat}
    (terms : SameTerms orderId order reseller now)
    (noTest : reseller.takesTestOrder = false)
    (found : now.row .resellers order.resellerId = some current)
    (within : ¬ WalletService.ExceedsCredit current
      (OrderService.commissionOf order reseller))
    (reserved : now.Reserved .walletTransactions entryId) :
    ReceiptAccepted orderId order reseller ⟨now,
      (WalletService.deducted current.walletCreditBalance order.resellerId
        (OrderService.commissionOf order reseller) order.orderCode entryId
        now).modify .orders orderId
          (·.withReceipt .awaitingReceiptReview receiptFileId
            (OrderService.commissionOf order reseller) false), rows⟩ := by
  obtain ⟨row, stored, reviewed, unmarked, priced⟩ :=
    terms.deducted.row_withReceipt
  refine .charged row current entryId
    (WalletService.deductionEntry order.resellerId
      (OrderService.commissionOf order reseller) order.orderCode)
    noTest stored reviewed unmarked priced found within reserved ?_
    ⟨rfl, rfl, rfl⟩ ?_ ?_ ?_
  · rw [row_modify_of_ne (by decide), WalletService.deducted,
      Db.withLedgerEntry, row_put_self (by simpa using reserved.2)]
  · rw [priced, WalletService.deductionEntry, storeDecimal_neg]
  · rw [row_modify_of_ne (by decide), WalletService.deducted,
      row_resellers_withLedgerEntry, if_pos rfl, found]
    rfl
  · exact (SameExcept.refl.withLedgerEntry (by simp) (by simp) _ _).modify
      (by simp) _

/-- After the commit only the order is fetched. -/
theorem ReceiptAccepted.leads_fetched {change : Recorded Db RowKey} {state : Db}
    (accepted : ReceiptAccepted orderId order reseller change) :
    (Program.select fun now => ServiceCall.finish Reply.order
        (.ok (now.row .orders orderId))).Leads
      (receiptEnvironment orderId order reseller)
      (ReceiptOutcome orderId order reseller) none [] state ([] ++ [change]) :=
  Program.leads_select (.inr ⟨change, rfl, accepted⟩)
    fun _ _ => ⟨change, rfl, accepted⟩

/-- A receipt leads to the history that its result says, whatever else moves
the reseller's credit. -/
theorem leads_submitReceipt {config : Config} {receiptFileId : String}
    {state : Db} :
    (ServiceCall.submitReceipt config orderId receiptFileId).program.Leads
      (receiptEnvironment orderId order reseller)
      (ReceiptOutcome orderId order reseller) none [] state [] := by
  have nothing : ∀ state, ReceiptOutcome orderId order reseller state [] none :=
    fun _ => .inl rfl
  refine Program.leads_select (nothing _) fun first firstRelies => ?_
  cases orderFound : first.row .orders orderId with
  | none => exact rfl
  | some foundOrder =>
      refine Program.leads_select (nothing _) fun second _ => ?_
      dsimp only
      split_ifs with full
      · exact rfl
      refine Program.leads_select (nothing _) fun third thirdRelies => ?_
      cases resellerFound : third.row .resellers foundOrder.resellerId with
      | none => exact rfl
      | some seen =>
          obtain ⟨sameCode, sameReseller, sameTest, sameCommission⟩ :=
            commissionOf_seen ⟨first, firstRelies.holds, orderFound⟩
              ⟨third, thirdRelies.holds, resellerFound⟩
          dsimp only
          rw [sameTest, sameCode, sameReseller, sameCommission]
          split_ifs with isTest
          · refine ⟨nothing _, checks_update_pending
              (Program.Leads.checksPending nothing) fun now _ _ =>
                ⟨nothing _, fun last relies => ⟨?_, fun _ => ⟨?_, ?_⟩⟩⟩⟩
            · exact frame_modify (.refl last) (by simp) _
            · exact relies.holds.modify_orders (fun _ => rfl) (fun _ => rfl)
                fun _ => rfl
            · exact (relies.holds.accepted_testOrder isTest).leads_fetched
          · have noTest : reseller.takesTestOrder = false := by
              simpa using isTest
            refine ⟨nothing _, WalletService.checks_deductCommissionInTx
              (Program.Leads.checksPending nothing) (fun _ => rfl)
              (fun _ => rfl) ?_ ?_ ?_⟩
            · intro now current id locks _ found within reserved _ resellerHeld
                entryHeld
              refine checks_update_pending
                (Program.Leads.checksPending nothing) fun later kept _ =>
                  ⟨nothing _, fun last relies => ⟨?_, fun _ => ⟨?_, ?_⟩⟩⟩
              · refine frame_modify ?_ (by simp) _
                exact WalletService.frame_withLedgerEntry (.refl last)
                  (by simp [resellerHeld]) (by simp [entryHeld])
              · exact relies.holds.deducted.modify_orders (fun _ => rfl)
                  (fun _ => rfl) fun _ => rfl
              · refine (relies.holds.accepted_charged noTest ?_ within
                  ?_).leads_fetched
                · rw [← rely_row relies.kept (by simp [resellerHeld]),
                    ← rely_row kept resellerHeld]
                  exact found
                · exact rely_reserved relies.kept (by simp [entryHeld])
                    (rely_reserved kept entryHeld reserved)
            · intro now current message _ found exceeds
              refine checks_update_pending
                (Program.Leads.checksPending nothing) fun later kept _ =>
                  ⟨nothing _, fun last relies => ⟨?_, fun _ => ⟨?_, ?_⟩⟩⟩
              · exact frame_modify (.refl last) (by simp) _
              · exact relies.holds.modify_orders (fun _ => rfl) (fun _ => rfl)
                  fun _ => rfl
              · refine ⟨_, rfl, relies.holds.refused noTest ?_ exceeds⟩
                rw [← rely_row relies.kept (by simp),
                  ← rely_row kept (by simp)]
                exact found
            · rintro error changes locks now (rfl | ⟨message, rfl⟩)
              · exact Program.leads_rollback (nothing _) fun _ _ => rfl
              · exact Program.leads_rollback (nothing _) fun _ _ => rfl

end Receipts

section Topups

variable (topupId : Nat) (topup : CustomerWalletTopupRow)
variable (reseller : ResellerRow)

/-- What no other change of the credit touches: whom the request credits with
what, and the reseller's settings. -/
structure SameTopup (db : Db) : Prop where
  topup_row : ∃ current, db.row .customerWalletTopups topupId = some current ∧
    current.amount = topup.amount ∧
    current.resellerId = topup.resellerId ∧
    current.customerId = topup.customerId
  reseller_row : ∃ current, db.row .resellers topup.resellerId = some current ∧
    current.commissionPercent = reseller.commissionPercent ∧
    current.creditLimitNegative = reseller.creditLimitNegative

/-- The customer has been credited, and the request has a new status. -/
structure TopupCredited (status : TopupStatus) (change : Recorded Db RowKey) :
    Prop where
  credited : change.after.row .customers topup.customerId =
    (change.before.row .customers topup.customerId).map fun customer =>
      customer.withBalance (customer.walletBalance + topup.amount)
  decided : ∃ row, change.after.row .customerWalletTopups topupId = some row ∧
    row.status = status

/-- The request has been confirmed, and the commission has been charged to the
balance that the locked row of the reseller has. -/
structure TopupCharged (change : Recorded Db RowKey) : Prop
    extends TopupCredited topupId topup .confirmed change where
  charged : ∃ (current : ResellerRow) (entryId : Nat)
      (entry : WalletTransactionRow),
    change.before.row .resellers topup.resellerId = some current ∧
    ¬ WalletService.ExceedsCredit current
      (CustomerWalletService.commissionOf topup reseller) ∧
    change.before.Reserved .walletTransactions entryId ∧
    change.after.row .walletTransactions entryId = some entry ∧
    entry.resellerId = topup.resellerId ∧
    entry.reference = some (CustomerWalletService.topupReference topupId) ∧
    entry.amount = -storeDecimal
      (CustomerWalletService.commissionOf topup reseller) ∧
    change.after.row .resellers topup.resellerId =
      some (current.withCreditBalance
        (storeDecimal (decimal current.walletCreditBalance -
          CustomerWalletService.commissionOf topup reseller))) ∧
    SameExcept [(.customers, topup.customerId),
      (.customerWalletTopups, topupId), (.resellers, topup.resellerId),
      (.walletTransactions, entryId)] change.before change.after

/-- The commission would pass the limit: the customer is credited all the
same, and neither the balance of the reseller nor the ledger changes. -/
structure TopupUncharged (change : Recorded Db RowKey) : Prop
    extends TopupCredited topupId topup .confirmedInsufficientCredit
      change where
  exceeds : ∃ current,
    change.before.row .resellers topup.resellerId = some current ∧
      WalletService.ExceedsCredit current
        (CustomerWalletService.commissionOf topup reseller)
  same : SameExcept [(.customers, topup.customerId),
    (.customerWalletTopups, topupId)] change.before change.after

/-- What a confirmation has changed, as its result says.  A call without a
result is still running, or one of its statements has failed. -/
def TopupOutcome (_ : Db) (past : List (Recorded Db RowKey)) :
    Option Outcome → Prop
  | some (.ok _) => ∃ change, past = [change] ∧
      TopupCharged topupId topup reseller change
  | some (.error (.walletTopupInsufficientCredit ..)) => ∃ change,
      past = [change] ∧ TopupUncharged topupId topup reseller change
  | some (.error _) => past = []
  | none => past = [] ∨ ∃ change, past = [change] ∧
      TopupCharged topupId topup reseller change

variable {topupId topup reseller}

theorem SameTopup.of_creditMoved {before after : Db}
    (terms : SameTopup topupId topup reseller before)
    (moved : CreditMoved .customerWalletTopups topupId before after) :
    SameTopup topupId topup reseller after where
  topup_row := by
    rw [moved.spared]
    exact terms.topup_row
  reseller_row := by
    obtain ⟨current, found, percent, limit⟩ := terms.reseller_row
    obtain ⟨later, foundLater, same⟩ := moved.reseller found
    refine ⟨later, foundLater, ?_, ?_⟩
    · exact (congrArg ResellerRow.commissionPercent same).trans percent
    · exact (congrArg ResellerRow.creditLimitNegative same).trans limit

/-- The request and the reseller's settings stay as they are; nothing else is
known of other calls. -/
def topupEnvironment (topupId : Nat) (topup : CustomerWalletTopupRow)
    (reseller : ResellerRow) : Environment dbView :=
  .unconditional (SameTopup topupId topup reseller) fun _ _ terms quiet =>
    terms.of_creditMoved (.of_quiet quiet)

section Commits

variable {now : Db} {status : TopupStatus} {current : ResellerRow}
variable {entryId : Nat} {rows : List RowKey}

theorem SameTopup.topupCredited {charged : Db}
    (terms : SameTopup topupId topup reseller now)
    (sameTopup : charged.row .customerWalletTopups topupId =
      now.row .customerWalletTopups topupId)
    (sameCustomer : charged.row .customers topup.customerId =
      (CustomerWalletService.credited topup now).row .customers
        topup.customerId) :
    TopupCredited topupId topup status ⟨now, charged.modify
      .customerWalletTopups topupId (·.withStatus status), rows⟩ where
  credited := by
    rw [row_modify_of_ne (by decide), sameCustomer,
      CustomerWalletService.credited, row_modify_self]
  decided := by
    obtain ⟨current, found, -⟩ := terms.topup_row
    refine ⟨current.withStatus status, ?_, rfl⟩
    rw [row_modify_self, sameTopup, found]
    rfl

theorem SameTopup.charged (terms : SameTopup topupId topup reseller now)
    (found : now.row .resellers topup.resellerId = some current)
    (within : ¬ WalletService.ExceedsCredit current
      (CustomerWalletService.commissionOf topup reseller))
    (reserved : now.Reserved .walletTransactions entryId) :
    TopupCharged topupId topup reseller ⟨now,
      (WalletService.deducted current.walletCreditBalance topup.resellerId
        (CustomerWalletService.commissionOf topup reseller)
        (CustomerWalletService.topupReference topupId) entryId
        (CustomerWalletService.credited topup now)).modify
          .customerWalletTopups topupId (·.withStatus .confirmed), rows⟩ where
  toTopupCredited := by
    refine terms.topupCredited ?_ ?_
    · rw [WalletService.deducted,
        row_withLedgerEntry_of_ne (by decide) (by decide),
        CustomerWalletService.credited, row_modify_of_ne (by decide)]
    · rw [WalletService.deducted,
        row_withLedgerEntry_of_ne (by decide) (by decide)]
  charged := by
    have creditedRow : (CustomerWalletService.credited topup now).row
        .resellers topup.resellerId = some current := by
      rw [CustomerWalletService.credited, row_modify_of_ne (by decide), found]
    have creditedSame : SameExcept [(.customers, topup.customerId),
        (.customerWalletTopups, topupId), (.resellers, topup.resellerId),
        (.walletTransactions, entryId)] now
        (CustomerWalletService.credited topup now) :=
      SameExcept.refl.modify (by simp) _
    refine ⟨current, entryId, WalletService.deductionEntry topup.resellerId
      (CustomerWalletService.commissionOf topup reseller)
      (CustomerWalletService.topupReference topupId), found, within, reserved,
      ?_, rfl, rfl, storeDecimal_neg _, ?_, ?_⟩
    · rw [row_modify_of_ne (by decide), WalletService.deducted,
        Db.withLedgerEntry, row_put_self]
      simpa [CustomerWalletService.credited] using reserved.2
    · rw [row_modify_of_ne (by decide), WalletService.deducted,
        row_resellers_withLedgerEntry, if_pos rfl, creditedRow]
      rfl
    · exact (creditedSame.withLedgerEntry (by simp) (by simp) _ _).modify
        (by simp) _

theorem SameTopup.uncharged (terms : SameTopup topupId topup reseller now)
    (found : now.row .resellers topup.resellerId = some current)
    (exceeds : WalletService.ExceedsCredit current
      (CustomerWalletService.commissionOf topup reseller)) :
    TopupUncharged topupId topup reseller ⟨now,
      (CustomerWalletService.credited topup now).modify
        .customerWalletTopups topupId
          (·.withStatus .confirmedInsufficientCredit), rows⟩ where
  toTopupCredited := terms.topupCredited (row_modify_of_ne (by decide)) rfl
  exceeds := ⟨current, found, exceeds⟩
  same := (SameExcept.refl.modify (by simp) _).modify (by simp) _

end Commits

section Kept

variable {now charged : Db} {status : TopupStatus}

/-- A decision on the request keeps its terms, whatever it has done to the
credit before. -/
theorem SameTopup.withStatus (terms : SameTopup topupId topup reseller now)
    (moved : CreditMoved .customerWalletTopups topupId now charged) :
    SameTopup topupId topup reseller
      (charged.modify .customerWalletTopups topupId (·.withStatus status)) where
  topup_row := by
    obtain ⟨current, found, terms⟩ :=
      (terms.of_creditMoved moved).topup_row
    refine ⟨current.withStatus status, ?_, terms⟩
    rw [row_modify_self, found]
    rfl
  reseller_row := by
    rw [row_modify_of_ne (by decide)]
    exact (terms.of_creditMoved moved).reseller_row

theorem creditMoved_credited :
    CreditMoved .customerWalletTopups topupId now
      (CustomerWalletService.credited topup now) :=
  creditMoved_modify _ _ (by decide) (by simp)

/-- What a call has read of the request and the reseller is still current. -/
theorem commissionOf_seen_topup {found : CustomerWalletTopupRow}
    {seen : ResellerRow}
    (topupSeen : Seen (SameTopup topupId topup reseller) .customerWalletTopups
      topupId found)
    (resellerSeen : Seen (SameTopup topupId topup reseller) .resellers
      found.resellerId seen) :
    found.amount = topup.amount ∧ found.resellerId = topup.resellerId ∧
      found.customerId = topup.customerId ∧
      CustomerWalletService.commissionOf found seen =
        CustomerWalletService.commissionOf topup reseller := by
  obtain ⟨past, pastTerms, foundPast⟩ := topupSeen
  obtain ⟨current, currentRow, sameAmount, sameReseller, sameCustomer⟩ :=
    pastTerms.topup_row
  cases foundPast.symm.trans currentRow
  rw [sameReseller] at resellerSeen
  obtain ⟨later, laterTerms, seenLater⟩ := resellerSeen
  obtain ⟨setting, settingRow, samePercent, -⟩ := laterTerms.reseller_row
  cases seenLater.symm.trans settingRow
  refine ⟨sameAmount, sameReseller, sameCustomer, ?_⟩
  rw [CustomerWalletService.commissionOf, CustomerWalletService.commissionOf,
    sameAmount, samePercent]

end Kept

/-- After the commit only the request is fetched. -/
theorem TopupCharged.leads_fetched {change : Recorded Db RowKey} {state : Db}
    (charged : TopupCharged topupId topup reseller change) :
    (Program.select fun now => ServiceCall.finish Reply.topup
        (.ok (now.row .customerWalletTopups topupId))).Leads
      (topupEnvironment topupId topup reseller)
      (TopupOutcome topupId topup reseller) none [] state ([] ++ [change]) :=
  Program.leads_select (.inr ⟨change, rfl, charged⟩)
    fun _ _ => ⟨change, rfl, charged⟩

/-- A confirmation leads to the history that its result says, whatever else
moves the reseller's credit. -/
theorem leads_confirmCustomerTopup {state : Db} :
    (ServiceCall.confirmCustomerTopup topupId).program.Leads
      (topupEnvironment topupId topup reseller)
      (TopupOutcome topupId topup reseller) none [] state [] := by
  have nothing : ∀ state, TopupOutcome topupId topup reseller state [] none :=
    fun _ => .inl rfl
  refine Program.leads_select (nothing _) fun first firstRelies => ?_
  cases topupFound : first.row .customerWalletTopups topupId with
  | none => exact rfl
  | some foundTopup =>
      dsimp only
      split_ifs with processed
      · exact rfl
      refine Program.leads_select (nothing _) fun second secondRelies => ?_
      cases resellerFound : second.row .resellers foundTopup.resellerId with
      | none => exact rfl
      | some seen =>
          obtain ⟨sameAmount, sameReseller, sameCustomer, sameCommission⟩ :=
            commissionOf_seen_topup ⟨first, firstRelies.holds, topupFound⟩
              ⟨second, secondRelies.holds, resellerFound⟩
          dsimp only
          rw [sameCommission, sameReseller, sameCustomer, sameAmount]
          refine ⟨nothing _, checks_update_pending
            (Program.Leads.checksPending nothing) fun _ _ _ => ?_⟩
          refine WalletService.checks_deductCommissionInTx
            (Program.Leads.checksPending nothing)
            (fun _ => table_on_ne (by decide) _)
            (fun _ => table_on_ne (by decide) _) ?_ ?_ ?_
          · intro now current id locks _ found within reserved subset
              resellerHeld entryHeld
            have customerHeld : .row .customers topup.customerId ∈ locks :=
              subset (by simp)
            refine checks_update_pending
              (Program.Leads.checksPending nothing) fun later kept _ =>
                ⟨nothing _, fun last relies => ⟨?_, fun _ => ⟨?_, ?_⟩⟩⟩
            · refine frame_modify ?_ (by simp) _
              exact WalletService.frame_withLedgerEntry
                (frame_modify (.refl last) (by simp [customerHeld]) _)
                (by simp [resellerHeld]) (by simp [entryHeld])
            · exact relies.holds.withStatus (creditMoved_credited.trans
                (creditMoved_withLedgerEntry (by decide) (by decide)))
            · refine (relies.holds.charged ?_ within ?_).leads_fetched
              · rw [← rely_row relies.kept (by simp [resellerHeld]),
                  ← rely_row kept resellerHeld]
                exact found
              · exact rely_reserved relies.kept (by simp [entryHeld])
                  (rely_reserved kept entryHeld reserved)
          · intro now current message _ found exceeds
            refine checks_update_pending
              (Program.Leads.checksPending nothing) fun later kept _ =>
                ⟨nothing _, fun last relies => ⟨?_, fun _ => ⟨?_, ?_⟩⟩⟩
            · exact frame_modify (frame_modify (.refl last) (by simp) _)
                (by simp) _
            · exact relies.holds.withStatus creditMoved_credited
            · refine ⟨_, rfl, relies.holds.uncharged ?_ exceeds⟩
              rw [← rely_row relies.kept (by simp), ← rely_row kept (by simp)]
              exact found
          · rintro error changes locks now (rfl | ⟨message, rfl⟩)
            · exact Program.leads_rollback (nothing _) fun _ _ => rfl
            · exact Program.leads_rollback (nothing _) fun _ _ => rfl

end Topups

section Runs

variable {Caller : Type} [DecidableEq Caller] {calls : Caller → ServiceCall}

omit [DecidableEq Caller] in
/-- A call that moves credit leads to changes that spare the given row. -/
theorem leads_creditMoved {environment : Environment dbView}
    {call : ServiceCall} {name : TableName} {id : Nat} {state : Db}
    (moves : call.MovesCredit) (spared : call.decidesOn ≠ some (name, id))
    (decided : name = .orders ∨ name = .customerWalletTopups)
    (kept : ∀ before after, environment.invariant before →
      CreditMoved name id before after → environment.invariant after) :
    call.program.Leads environment
      (fun _ past _ => Program.AllRelated (CreditMoved name id) past) none []
      state [] := by
  have follows : Program.Follows environment (CreditMoved name id)
      (call.guarantee environment.invariant) := by
    refine ⟨fun _ _ _ quiet => .of_quiet quiet, fun _ _ _ writes => ?_,
      fun before after holds commits => ?_⟩
    · exact absurd writes (ServiceCall.no_writes_of_movesCredit moves)
    · have moved := ServiceCall.creditMoved moves spared decided commits
      exact ⟨kept _ _ holds moved, moved⟩
  have safe := ServiceCall.safe_program environment.invariant call state
  exact safe.leads follows (by simp [Program.AllRelated])

/-- One call among others that move credit, but do not decide on its row: its
history is what it leads to, and the row ends as its last change has left it. -/
theorem outcome_run {environment : Environment dbView}
    {name : TableName} {id : Nat}
    {outcome : Db → List (Recorded Db RowKey) → Option Outcome → Prop}
    {caller : Caller} (lasting : environment.Lasting outcome)
    (leads : ∀ state, (calls caller).program.Leads environment outcome none []
      state [])
    (others : ∀ other, other ≠ caller → (calls other).MovesCredit ∧
      (calls other).decidesOn ≠ some (name, id))
    (decided : name = .orders ∨ name = .customerWalletTopups)
    (kept : ∀ before after, environment.invariant before →
      CreditMoved name id before after → environment.invariant after)
    {db : Db} (holds : environment.invariant db)
    {events : List (Event Caller)}
    (stable : System.StableRun environment (startCalls db calls) events) :
    let system := runCalls db calls events
    let changes := (startCalls db calls).history caller events
    outcome system.state changes (system.result caller) ∧
      system.state.row name id = (System.lastState db changes).row name id ∧
      StepRuns.Along System.step
        (fun system event => system.recordsNow event = false →
          dbView.Quiet system.state (system.step event).state)
        (startCalls db calls) events := by
  let allowed (other : Caller) :
      Db → List (Recorded Db RowKey) → Option Outcome → Prop :=
    if other = caller then outcome
    else fun _ past _ => Program.AllRelated (CreditMoved name id) past
  have lastingAll : ∀ other, environment.Lasting (allowed other) := by
    intro other
    by_cases same : other = caller
    · simpa [allowed, same] using lasting
    · simp [allowed, same]
  have start : System.Led environment allowed (startCalls db calls)
      fun _ => [] := by
    refine System.Led.start lastingAll holds fun other => ?_
    by_cases same : other = caller
    · subst same
      simpa [allowed] using leads db
    · obtain ⟨moves, spared⟩ := others other same
      simpa [allowed, same] using leads_creditMoved moves spared decided kept
  refine ⟨?_, ?_, start.quiet_along stable⟩
  · simpa [allowed] using (start.run stable).isAllowed caller
  · refine start.observe_run (·.row name id)
      (fun _ _ quiet => (quiet_row quiet name id).symm) ?_ stable
    intro other different state changes result related change member
    have related : Program.AllRelated (CreditMoved name id) changes := by
      simpa [allowed, different] using related
    exact (related change member).spared

end Runs

/-- A receipt for the order of the album while another commission is
charged. -/
def rivalCalls : Fin 2 → ServiceCall
  | 0 => .submitReceipt {} 1 "photo"
  | 1 => .deductCommission 1 450 "AR-2"

/-- The receipt is committed, and its last read finds the connection lost. -/
def lostAfterCommit : List (Event (Fin 2)) :=
  List.replicate 9 (.advance 0) ++ [.lose 0]

/-- The pending top-up of the example shop. -/
def shopTopup : CustomerWalletTopupRow where
  resellerId := 1
  customerId := 1
  amount := 500
  method := .card

/-- Its confirmation while a commission is charged. -/
def rivalTopupCalls : Fin 2 → ServiceCall
  | 0 => .confirmCustomerTopup 1
  | 1 => .deductCommission 1 450 "AR-2"

end Baste
