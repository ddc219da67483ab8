import Baste.CommissionLedger
import Baste.TypedText

/-!
# The credit limit

Only a deduction is tested against the credit limit of its reseller.  Refunds
and confirmed top-ups add their amounts without a test, and the amount of a
top-up is whatever number the reseller typed, so the balance stays within the
limit exactly as long as no such amount takes away more than the credit that
is left.
-/

namespace Baste

open Database Transaction

/-- The balance of the reseller, if it exists, is not below its limit. -/
def WithinLimit (resellerId : Nat) (db : Db) : Prop :=
  ∀ reseller, db.row .resellers resellerId = some reseller →
    -reseller.creditLimitNegative ≤ reseller.walletCreditBalance

/-- The top-up request that `receive_topup_amount` makes of a message.  No row
is inserted when the text is not a number, or is one that SQL cannot write. -/
def receiveTopupAmount (resellerId : Nat) (text : String) :
    Option ServiceCall :=
  match typedAmount text with
  | some (.finite amount) => some (.requestTopup resellerId amount .card none)
  | _ => none

/-- The same for `receive_crypto_amount_and_save`. -/
def receiveCryptoAmountAndSave (resellerId : Nat) (coinName txHash : String)
    (text : String) : Option ServiceCall :=
  match typedAmount text with
  | some (.finite amount) =>
      some (.requestTopup resellerId amount .crypto
        (some s!"{coinName}:{txHash}"))
  | _ => none

/-- Every call except the approval of a dispute, whose refund is a call of its
own here. -/
def ServiceCall.IsCreditOperation : ServiceCall → Prop
  | .approveDispute _ => False
  | _ => True

/-- What the call is about to add to the balance of a reseller without a test
of the limit. -/
def ServiceCall.untestedChange (resellerId : Nat) (db : Db) :
    ServiceCall → Option Rat
  | .refundCommission id amount _ =>
      if id = resellerId then some amount else none
  | .confirmTopup transactionId =>
      (db.row .walletTransactions transactionId).bind fun entry =>
        if entry.resellerId = resellerId then some (decimal entry.amount)
        else none
  | _ => none

/-- The credit that is left covers the change, up to the half cent that is
lost when the new balance is rounded. -/
def CreditCovers (reseller : ResellerRow) (change : Rat) : Prop :=
  -decimal reseller.creditLimitNegative - 1 / 200 <
    decimal reseller.walletCreditBalance + change

instance (reseller : ResellerRow) (change : Rat) :
    Decidable (CreditCovers reseller change) :=
  inferInstanceAs (Decidable (_ < _))

/-- What the call is about to add without a test is covered. -/
def CommitsCovered (resellerId : Nat) (call : ServiceCall) (db : Db) : Prop :=
  ∀ reseller change, db.row .resellers resellerId = some reseller →
    call.untestedChange resellerId db = some change →
    CreditCovers reseller change

section Rounding

variable {reseller : ResellerRow}

/-- A stored balance is within the limit when the exact one is, up to half a
cent. -/
theorem neg_limit_le_storeDecimal_iff
    (nonneg : 0 ≤ reseller.creditLimitNegative) (change : Rat) :
    -reseller.creditLimitNegative ≤
        storeDecimal (decimal reseller.walletCreditBalance + change) ↔
      CreditCovers reseller change := by
  rw [storeDecimal, le_roundHalfAway_iff (neg_nonpos.mpr nonneg),
    CreditCovers]
  simp only [decimal]
  push_cast
  constructor <;> intro close <;> linarith

/-- A deduction that passes the test is covered. -/
theorem creditCovers_neg_of_within {amount : Rat}
    (within : ¬ WalletService.ExceedsCredit reseller amount) :
    CreditCovers reseller (-amount) := by
  have tested := not_lt.mp within
  unfold CreditCovers
  linarith

end Rounding

/-- What a commit of the call may do to the balance of a reseller. -/
inductive BalanceChange (call : ServiceCall) (resellerId : Nat) (before : Db)
    (reseller : ResellerRow) : Cents → Prop where
  | kept (noChange : call.untestedChange resellerId before = none) :
      BalanceChange call resellerId before reseller
        reseller.walletCreditBalance
  | deducted (amount : Rat)
      (noChange : call.untestedChange resellerId before = none)
      (within : ¬ WalletService.ExceedsCredit reseller amount) :
      BalanceChange call resellerId before reseller
        (storeDecimal (decimal reseller.walletCreditBalance - amount))
  | added (change : Rat)
      (untested : call.untestedChange resellerId before = some change) :
      BalanceChange call resellerId before reseller
        (storeDecimal (decimal reseller.walletCreditBalance + change))

/-- Only an untested change can bring the balance below the limit. -/
theorem BalanceChange.within_iff {call : ServiceCall} {resellerId : Nat}
    {before : Db} {reseller : ResellerRow} {balance : Cents}
    (change : BalanceChange call resellerId before reseller balance)
    (nonneg : 0 ≤ reseller.creditLimitNegative)
    (within : -reseller.creditLimitNegative ≤ reseller.walletCreditBalance) :
    -reseller.creditLimitNegative ≤ balance ↔
      ∀ change, call.untestedChange resellerId before = some change →
        CreditCovers reseller change := by
  cases change with
  | kept noChange => simpa [noChange] using within
  | deducted amount noChange passes =>
      have covers := creditCovers_neg_of_within passes
      rw [← neg_limit_le_storeDecimal_iff nonneg, ← sub_eq_add_neg] at covers
      simpa [noChange] using covers
  | added change untested =>
      rw [neg_limit_le_storeDecimal_iff nonneg, untested]
      simp

/-- The reseller has the same limit and a balance that the call may leave. -/
def CreditMoves (call : ServiceCall) (resellerId : Nat) (before after : Db) :
    Prop :=
  ∀ reseller, before.row .resellers resellerId = some reseller →
    ∃ current, after.row .resellers resellerId = some current ∧
      current.creditLimitNegative = reseller.creditLimitNegative ∧
      BalanceChange call resellerId before reseller
        current.walletCreditBalance

section Commits

variable {call : ServiceCall} {resellerId : Nat} {before after : Db}

/-- A change that does not touch the resellers. -/
theorem CreditMoves.of_same
    (noChange : call.untestedChange resellerId before = none)
    (same : after.row .resellers resellerId =
      before.row .resellers resellerId) :
    CreditMoves call resellerId before after := by
  intro reseller found
  exact ⟨reseller, same.trans found, rfl, .kept noChange⟩

/-- A change that writes the balance of one reseller. -/
theorem CreditMoves.of_balance {target : Nat} {reseller : ResellerRow}
    {balance : Cents}
    (found : before.row .resellers target = some reseller)
    (elsewhere : target ≠ resellerId →
      call.untestedChange resellerId before = none)
    (own : target = resellerId →
      BalanceChange call resellerId before reseller balance)
    (rows : after.row .resellers resellerId =
      if resellerId = target then
        (before.row .resellers resellerId).map (·.withCreditBalance balance)
      else before.row .resellers resellerId) :
    CreditMoves call resellerId before after := by
  by_cases same : target = resellerId
  · subst same
    rw [if_pos rfl, found] at rows
    intro current currentFound
    cases found.symm.trans currentFound
    exact ⟨_, rows, rfl, own rfl⟩
  · rw [if_neg (Ne.symm same)] at rows
    exact .of_same (elsewhere same) rows

/-- A change that stores the balance after a tested deduction. -/
theorem CreditMoves.of_deducted {target : Nat} {amount : Rat}
    {reseller : ResellerRow}
    (noChange : call.untestedChange resellerId before = none)
    (found : before.row .resellers target = some reseller)
    (within : ¬ WalletService.ExceedsCredit reseller amount)
    (rows : after.row .resellers resellerId =
      if resellerId = target then
        (before.row .resellers resellerId).map
          (·.withCreditBalance
            (storeDecimal (decimal reseller.walletCreditBalance - amount)))
      else before.row .resellers resellerId) :
    CreditMoves call resellerId before after := by
  apply CreditMoves.of_balance found (fun _ => noChange) ?_ rows
  rintro rfl
  exact .deducted amount noChange within

/-- Every commit moves the balance of a reseller in one of the three ways. -/
theorem creditMoves_commits (operation : call.IsCreditOperation)
    (commits : (call.guarantee fun _ => True).commits before after) :
    CreditMoves call resellerId before after := by
  cases call with
  | deductCommission target amount orderCode =>
      obtain ⟨reseller, id, found, within, _, rfl⟩ := commits
      apply CreditMoves.of_deducted rfl found within
      rw [WalletService.deducted, row_resellers_withLedgerEntry]
  | refundCommission target amount orderCode =>
      obtain ⟨reseller, id, found, _, rfl⟩ := commits
      apply CreditMoves.of_balance found
      · intro other
        simp [ServiceCall.untestedChange, other]
      · intro own
        exact .added amount (by simp [ServiceCall.untestedChange, own])
      · rw [WalletService.refunded, row_resellers_withLedgerEntry]
  | requestTopup =>
      obtain ⟨id, _, rfl⟩ := commits
      exact .of_same rfl (row_put_of_ne (by decide))
  | confirmTopup transactionId =>
      obtain ⟨entry, reseller, entryFound, _, found, rfl⟩ := commits
      apply CreditMoves.of_balance found
      · intro other
        simp [ServiceCall.untestedChange, entryFound, other]
      · intro own
        exact .added (decimal entry.amount)
          (by simp [ServiceCall.untestedChange, entryFound, own])
      · rw [row_modify, row_modify_of_ne (by decide)]
  | createOrderPaidByWallet =>
      obtain ⟨_, _, _, _, _, _, _, rfl⟩ := commits
      apply CreditMoves.of_same rfl
      rw [row_put_of_ne (by decide), row_modify_of_ne (by decide)]
  | submitReceipt config orderId receiptFileId =>
      cases commits with
      | testOrder | failed => exact .of_same rfl (row_modify_of_ne (by decide))
      | charged order seen reseller id _ _ _ found within _ =>
          apply CreditMoves.of_deducted rfl found within
          rw [row_modify_of_ne (by decide), WalletService.deducted,
            row_resellers_withLedgerEntry]
  | confirmCustomerTopup topupId =>
      cases commits with
      | confirmed topup seen reseller id _ _ found within _ =>
          apply CreditMoves.of_deducted rfl found within
          rw [row_modify_of_ne (by decide), WalletService.deducted,
            row_resellers_withLedgerEntry, CustomerWalletService.credited,
            row_modify_of_ne (by decide)]
      | insufficientCredit topup =>
          apply CreditMoves.of_same rfl
          rw [row_modify_of_ne (by decide), CustomerWalletService.credited,
            row_modify_of_ne (by decide)]
  | purchaseCharge | purchaseChargeBulk =>
      obtain ⟨_, _, _, _, _, _, rfl⟩ := commits
      apply CreditMoves.of_same rfl
      rw [ChargeService.Purchase.row_foldl_deliver_of_ne (by decide)
        (by decide), ChargeService.Purchase.debited,
        row_modify_of_ne (by decide)]
  | approveDispute => exact operation.elim
  | _ => exact commits.elim

/-- No statement outside a transaction moves the balance or the limit. -/
theorem credit_writes (operation : call.IsCreditOperation)
    (writes : (call.guarantee fun _ => True).writes before after)
    {reseller : ResellerRow}
    (found : before.row .resellers resellerId = some reseller) :
    ∃ current, after.row .resellers resellerId = some current ∧
      current.creditLimitNegative = reseller.creditLimitNegative ∧
      current.walletCreditBalance = reseller.walletCreditBalance := by
  have of_same : after.row .resellers resellerId =
      before.row .resellers resellerId →
      ∃ current, after.row .resellers resellerId = some current ∧
        current.creditLimitNegative = reseller.creditLimitNegative ∧
        current.walletCreditBalance = reseller.walletCreditBalance :=
    fun same => ⟨reseller, same.trans found, rfl, rfl⟩
  cases call with
  | createOrder =>
      obtain ⟨_, _, rfl⟩ := writes
      exact of_same (by rw [row_put_of_ne (by decide), row_reserve])
  | confirmOrder | rejectOrder | rejectCustomerTopup | rejectDispute =>
      cases writes
      exact of_same (row_modify_of_ne (by decide))
  | activateOrder =>
      rcases writes with rfl | ⟨order, _, rfl⟩
      · exact of_same (row_modify_of_ne (by decide))
      · rw [row_modify, found]
        split_ifs
        · exact ⟨reseller.withTestOrderUsed, rfl, rfl, rfl⟩
        · exact ⟨reseller, rfl, rfl, rfl⟩
  | createDispute =>
      rcases writes with rfl | rfl
      · exact of_same (row_modify_of_ne (by decide))
      · exact of_same (by rw [row_put_of_ne (by decide), row_reserve])
  | addChargeCodes =>
      obtain ⟨_, _, rfl⟩ := writes
      exact of_same (by rw [row_put_of_ne (by decide), row_reserve])
  | deleteAvailableCode | clearAvailableCodes =>
      obtain ⟨_, _, rfl⟩ := writes
      exact of_same (row_erase_of_ne (by decide))
  | purchaseCharge | purchaseChargeBulk =>
      obtain ⟨_, _, rfl⟩ := writes
      exact of_same (row_modify_of_ne (by decide))
  | approveDispute => exact operation.elim
  | _ => exact writes.elim

end Commits

/-- The reseller exists, its limit is not negative, and its balance is within
the limit. -/
def InCredit (resellerId : Nat) (db : Db) : Prop :=
  ∃ reseller, db.row .resellers resellerId = some reseller ∧
    0 ≤ reseller.creditLimitNegative ∧
    -reseller.creditLimitNegative ≤ reseller.walletCreditBalance

section Runs

variable {Caller : Type} [DecidableEq Caller] {resellerId : Nat}
variable {calls : Caller → ServiceCall} {system : ServiceSystem Caller}
variable {event : Event Caller}

/-- One step from a state in credit keeps the limit exactly when the change it
commits is covered, and then the next state is in credit. -/
theorem withinLimit_step_iff
    (operation : (calls event.call).IsCreditOperation)
    (inCredit : InCredit resellerId system.state)
    (change : System.Change dbView
      (fun caller => (calls caller).guarantee fun _ => True) system event) :
    (WithinLimit resellerId (system.step event).state ↔
      (system.Commits event →
        CommitsCovered resellerId (calls event.call) system.state)) ∧
    (WithinLimit resellerId (system.step event).state →
      InCredit resellerId (system.step event).state) := by
  obtain ⟨reseller, found, nonneg, within⟩ := inCredit
  -- Whatever the row has become, the next state is within the limit exactly
  -- when that row is.
  have of_row : ∀ current,
      (system.step event).state.row .resellers resellerId = some current →
      current.creditLimitNegative = reseller.creditLimitNegative →
      (WithinLimit resellerId (system.step event).state ↔
        -reseller.creditLimitNegative ≤ current.walletCreditBalance) ∧
      (WithinLimit resellerId (system.step event).state →
        InCredit resellerId (system.step event).state) := by
    intro current currentFound sameLimit
    rw [WithinLimit, currentFound]
    simp only [Option.some.injEq, forall_eq', sameLimit, true_and]
    intro keeps
    exact ⟨current, currentFound, sameLimit ▸ nonneg, sameLimit ▸ keeps⟩
  have of_kept : ∀ current,
      (system.step event).state.row .resellers resellerId = some current →
      current.creditLimitNegative = reseller.creditLimitNegative →
      current.walletCreditBalance = reseller.walletCreditBalance →
      ¬ system.Commits event →
      (WithinLimit resellerId (system.step event).state ↔
        (system.Commits event →
          CommitsCovered resellerId (calls event.call) system.state)) ∧
      (WithinLimit resellerId (system.step event).state →
        InCredit resellerId (system.step event).state) := by
    intro current currentFound sameLimit sameBalance noCommit
    obtain ⟨equivalent, next⟩ := of_row current currentFound sameLimit
    refine ⟨iff_of_true (equivalent.mpr ?_) fun commits =>
      absurd commits noCommit, next⟩
    exact sameBalance ▸ within
  cases change with
  | quiet noCommit quiet =>
      apply of_kept reseller ?_ rfl rfl noCommit
      rw [← quiet_row quiet]
      exact found
  | written noCommit _ writes =>
      obtain ⟨current, currentFound, sameLimit, sameBalance⟩ :=
        credit_writes operation writes found
      exact of_kept current currentFound sameLimit sameBalance noCommit
  | committed isCommit commits =>
      obtain ⟨current, currentFound, sameLimit, moved⟩ :=
        creditMoves_commits operation commits reseller found
      obtain ⟨equivalent, next⟩ := of_row current currentFound sameLimit
      refine ⟨?_, next⟩
      rw [equivalent, moved.within_iff nonneg within]
      constructor
      · intro covers _ other change otherFound
        cases found.symm.trans otherFound
        exact covers change
      · intro covered change
        exact covered isCommit reseller change found

/-- In every interleaving of deductions, refunds, top-ups and the other calls,
a reseller that starts within its credit limit stays within it in every state
if and only if every refund and every confirmed top-up is covered by the
credit that is left. -/
theorem withinLimit_iff_covered (resellerId : Nat)
    (calls : Caller → ServiceCall)
    (operations : ∀ caller, (calls caller).IsCreditOperation) (db : Db)
    (inCredit : InCredit resellerId db) (events : List (Event Caller)) :
    StepRuns.Along System.step
        (fun system event => WithinLimit resellerId (system.step event).state)
        (startCalls db calls) events ↔
      StepRuns.Along System.step
        (fun system event => system.Commits event →
          CommitsCovered resellerId (calls event.call) system.state)
        (startCalls db calls) events := by
  let invariant (system : ServiceSystem Caller) : Prop :=
    SoundCalls (fun _ => True) calls system ∧ InCredit resellerId system.state
  have preserved : PreservedBy (fun _ => True) calls := .of_true ..
  have oneStep : ∀ system event, invariant system →
      (WithinLimit resellerId (system.step event).state ↔
        (system.Commits event →
          CommitsCovered resellerId (calls event.call) system.state)) ∧
      (WithinLimit resellerId (system.step event).state →
        invariant (system.step event)) := by
    rintro system event ⟨sound, credit⟩
    obtain ⟨soundAfter, change⟩ := sound.step preserved event
    obtain ⟨equivalent, next⟩ :=
      withinLimit_step_iff (operations event.call) credit change
    exact ⟨equivalent, fun keeps => ⟨soundAfter, next keeps⟩⟩
  apply StepRuns.along_iff invariant
  · exact fun system event holds => (oneStep system event holds).1
  · intro system event holds covered
    obtain ⟨equivalent, next⟩ := oneStep system event holds
    exact next (equivalent.mpr covered)
  · exact ⟨soundCalls_start trivial, inCredit⟩

end Runs

/-- A reseller that may not owe anything. -/
def prepaidReseller : ResellerRow where
  botTokenEncrypted := "gAAAAA"
  botUsername := "shop_bot"
  telegramNumericId := 1001
  orderPrefix := "AR"
  commissionPercent := 200
  walletCreditBalance := 0
  creditLimitNegative := 0
  testModeEnabled := false
  testModeOrderLimit := 0
  testModeOrdersUsed := 0

def prepaidDb : Db :=
  .filled fun
    | .resellers => [prepaidReseller]
    | _ => []

/-- A request for a top-up of minus 5000, and its confirmation. -/
def negativeTopupCalls : Bool → ServiceCall
  | false => .requestTopup 1 (-5000) .card none
  | true => .confirmTopup 1

def negativeTopupEvents : List (Event Bool) :=
  List.replicate 3 (.advance false) ++ List.replicate 6 (.advance true)

theorem withinLimit_iff_covered_prepaid :
    StepRuns.Along System.step
        (fun system event => WithinLimit 1 (system.step event).state)
        (startCalls prepaidDb negativeTopupCalls) negativeTopupEvents ↔
      StepRuns.Along System.step
        (fun system event => system.Commits event →
          CommitsCovered 1 (negativeTopupCalls event.call) system.state)
        (startCalls prepaidDb negativeTopupCalls) negativeTopupEvents :=
  withinLimit_iff_covered 1 negativeTopupCalls
    (fun caller => by cases caller <;> trivial) prepaidDb
    ⟨prepaidReseller, rfl, by decide, by decide⟩ negativeTopupEvents

/-- Both handlers take the typed amount, and its confirmation leaves a reseller
without any negative credit 5000 in debt. -/
theorem negativeTopup_exceeds_limit :
    InCredit 1 prepaidDb ∧
      receiveTopupAmount 1 "-5,000" = some (negativeTopupCalls false) ∧
      receiveCryptoAmountAndSave 1 "USDT" "9f2c" "-5,000" =
        some (.requestTopup 1 (-5000) .crypto (some "USDT:9f2c")) ∧
      creditBalance (runCalls prepaidDb negativeTopupCalls
        negativeTopupEvents).state 1 = -500000 ∧
      ¬ WithinLimit 1 (runCalls prepaidDb negativeTopupCalls
        negativeTopupEvents).state := by
  have typed : typedAmount "-5,000" = some (.finite (-5000)) := by
    decide +kernel
  have balance : (runCalls prepaidDb negativeTopupCalls
      negativeTopupEvents).state.row .resellers 1 =
        some (prepaidReseller.withCreditBalance (-500000)) := by
    decide +kernel
  refine ⟨⟨prepaidReseller, rfl, by decide, by decide⟩, ?_, ?_, ?_, ?_⟩
  · rw [receiveTopupAmount, typed]
    rfl
  · rw [receiveCryptoAmountAndSave, typed]
    rfl
  · rw [creditBalance, balance]
    rfl
  · intro within
    exact absurd (within _ balance) (by decide)

end Baste
