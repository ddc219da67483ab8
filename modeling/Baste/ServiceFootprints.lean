import Baste.DatabaseFrames
import Baste.InterruptedPrograms
import Baste.ServiceCalls

/-!
# Footprints of service functions

The tables that a service function may write to.  A call that runs alone leaves
the rows of every other table as they are.
-/

namespace Baste

open Database Transaction

namespace ServiceCall

/-- The tables in which a service function may change rows. -/
def tables : ServiceCall → List TableName
  | deductCommission .. | refundCommission .. | confirmTopup _ =>
      [.resellers, .walletTransactions]
  | requestTopup .. => [.walletTransactions]
  | createOrder .. | confirmOrder _ | rejectOrder _ => [.orders]
  | createOrderPaidByWallet .. => [.customers, .orders]
  | submitReceipt .. => [.resellers, .walletTransactions, .orders]
  | activateOrder _ => [.resellers, .orders]
  | confirmCustomerTopup _ =>
      [.resellers, .customers, .walletTransactions, .customerWalletTopups]
  | rejectCustomerTopup _ => [.customerWalletTopups]
  | createDispute .. => [.orders, .disputes]
  | approveDispute _ =>
      [.resellers, .orders, .walletTransactions, .disputes, .blacklist]
  | rejectDispute _ => [.disputes]
  | addChargeCodes .. | deleteAvailableCode _ | clearAvailableCodes _ =>
      [.chargeCodes]
  | purchaseCharge .. | purchaseChargeBulk .. =>
      [.customers, .orders, .chargeCodes]

section Frames

variable {invariant : Db → Prop} {call : ServiceCall} {before after : Db}
variable {tables : List TableName}

theorem sameOutside_withLedgerEntry {resellerId id : Nat} {balance : Cents}
    {entry : WalletTransactionRow} (reseller : .resellers ∈ tables)
    (ledger : .walletTransactions ∈ tables) :
    SameOutside tables before
      (before.withLedgerEntry resellerId balance id entry) :=
  (SameOutside.modify reseller).trans (.put ledger)

theorem sameOutside_purchase (purchase : ChargeService.Purchase)
    (quantity : Int) (sales : List ChargeService.Sale) :
    SameOutside [.customers, .orders, .chargeCodes] before
      (sales.foldl purchase.deliver (purchase.debited quantity before)) := by
  have paid : SameOutside [.customers, .orders, .chargeCodes] before
      (purchase.debited quantity before) :=
    .modify (by decide)
  apply paid.trans
  apply SameOutside.foldl
  intro db sale
  exact (SameOutside.put (by decide)).trans (.modify (by decide))

/-- A statement outside a transaction writes to the tables of its call. -/
theorem sameOutside_of_writes
    (writes : (call.guarantee invariant).writes before after) :
    SameOutside call.tables before after := by
  cases call with
  | createOrder =>
      obtain ⟨_, _, rfl⟩ := writes
      exact SameOutside.reserve.trans (.put (by simp [tables]))
  | confirmOrder | rejectOrder | rejectCustomerTopup | rejectDispute =>
      cases writes
      exact .modify (by simp [tables])
  | activateOrder =>
      rcases writes with rfl | ⟨_, -, rfl⟩
      · exact .modify (by simp [tables])
      · exact .modify (by simp [tables])
  | createDispute =>
      rcases writes with rfl | rfl
      · exact .modify (by simp [tables])
      · exact SameOutside.reserve.trans (.put (by simp [tables]))
  | approveDispute =>
      obtain ⟨_, _, -, -, rfl | rfl | ⟨_, rfl⟩⟩ := writes
      · exact .modify (by simp [tables])
      · exact .modify (by simp [tables])
      · exact SameOutside.reserve.trans (.put (by simp [tables]))
  | addChargeCodes =>
      obtain ⟨_, _, rfl⟩ := writes
      exact SameOutside.reserve.trans (.put (by simp [tables]))
  | deleteAvailableCode | clearAvailableCodes =>
      obtain ⟨_, _, rfl⟩ := writes
      exact .erase (by simp [tables])
  | purchaseCharge | purchaseChargeBulk =>
      obtain ⟨_, _, rfl⟩ := writes
      exact .modify (by simp [tables])
  | _ => exact writes.elim

/-- So does a transaction. -/
theorem sameOutside_of_commits
    (commits : (call.guarantee invariant).commits before after) :
    SameOutside call.tables before after := by
  cases call with
  | deductCommission =>
      obtain ⟨_, _, _, _, _, rfl⟩ := commits
      exact sameOutside_withLedgerEntry (by simp [tables]) (by simp [tables])
  | refundCommission =>
      obtain ⟨_, _, _, _, rfl⟩ := commits
      exact sameOutside_withLedgerEntry (by simp [tables]) (by simp [tables])
  | requestTopup =>
      obtain ⟨_, _, rfl⟩ := commits
      exact .put (by simp [tables])
  | confirmTopup =>
      obtain ⟨_, _, _, _, _, rfl⟩ := commits
      exact (SameOutside.modify (by simp [tables])).trans (.modify (by simp [tables]))
  | createOrderPaidByWallet =>
      obtain ⟨_, _, _, _, _, _, _, rfl⟩ := commits
      exact (SameOutside.modify (by simp [tables])).trans (.put (by simp [tables]))
  | submitReceipt =>
      cases commits with
      | testOrder | failed => exact .modify (by simp [tables])
      | charged =>
          exact (sameOutside_withLedgerEntry (by simp [tables]) (by simp [tables])).trans
            (.modify (by simp [tables]))
  | confirmCustomerTopup topupId =>
      cases commits with
      | confirmed topup =>
          have credited : SameOutside (confirmCustomerTopup topupId).tables
              before (CustomerWalletService.credited topup before) :=
            .modify (by simp [tables])
          exact (credited.trans (sameOutside_withLedgerEntry (by simp [tables])
            (by simp [tables]))).trans (.modify (by simp [tables]))
      | insufficientCredit =>
          exact (SameOutside.modify (by simp [tables])).trans (.modify (by simp [tables]))
  | approveDispute =>
      obtain ⟨_, _, _, _, _, _, _, _, rfl⟩ := commits
      exact sameOutside_withLedgerEntry (by simp [tables]) (by simp [tables])
  | purchaseCharge | purchaseChargeBulk =>
      obtain ⟨_, sales, _, _, _, _, rfl⟩ := commits
      exact sameOutside_purchase _ _ sales
  | _ => exact commits.elim

/-- A call that runs alone leaves the rows of the other tables as they are. -/
theorem sameOutside_runAlone (call : ServiceCall) (db : Db) :
    SameOutside call.tables db (call.runAlone db) := by
  let invariant : Db → Prop := SameOutside call.tables db
  have preserves : System.Preserves dbView invariant
      fun _ : Unit => call.guarantee invariant :=
    { quiet := fun _ _ holds quiet => holds.trans (.of_quiet quiet)
      writes := fun _ _ _ holds writes =>
        holds.trans (sameOutside_of_writes writes)
      commits := fun _ _ _ holds commits =>
        holds.trans (sameOutside_of_commits commits) }
  exact (call.safe_program invariant db).runAlone preserves (.refl db)

end Frames

end ServiceCall

end Baste
