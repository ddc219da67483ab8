import Baste.ServiceCalls

/-!
# The credit balance and the ledger

The balance of a reseller and the rows of its ledger are rounded separately
when a commission is deducted or refunded.  The two stay equal exactly as long
as no amount ends in half a cent on one side of zero while the balance it
leads to lies on the other.
-/

namespace Baste

open Database Transaction

/-- Rounding the new balance and rounding the change give the same account. -/
def RoundsAlike (balance : Cents) (change : Rat) : Prop :=
  IsTie (change * 100) → (0 ≤ decimal balance + change ↔ 0 ≤ change)

instance (balance : Cents) (change : Rat) :
    Decidable (RoundsAlike balance change) :=
  inferInstanceAs (Decidable (_ → _))

theorem storeDecimal_add_iff (balance : Cents) (change : Rat) :
    storeDecimal (decimal balance + change) = balance + storeDecimal change ↔
      RoundsAlike balance change := by
  have scaled : (decimal balance + change) * 100 =
      ((balance : Int) : Rat) + change * 100 := by
    rw [decimal, add_mul, div_mul_cancel₀ _ (by norm_num)]
  have sumSign : 0 ≤ (balance : Rat) + change * 100 ↔
      0 ≤ decimal balance + change := by
    rw [← scaled]
    exact mul_nonneg_iff_of_pos_right (by norm_num)
  have sign : 0 ≤ change * 100 ↔ 0 ≤ change :=
    mul_nonneg_iff_of_pos_right (by norm_num)
  rw [storeDecimal, storeDecimal, scaled, roundHalfAway_intCast_add_iff,
    sumSign, sign, RoundsAlike]

theorem roundsAlike_decimal (balance amount : Cents) :
    RoundsAlike balance (decimal amount) := by
  refine (storeDecimal_add_iff balance _).mp ?_
  have sum : decimal balance + decimal amount = decimal (balance + amount) := by
    simp [decimal, add_div]
  rw [sum, storeDecimal_decimal, storeDecimal_decimal]

/-- What a ledger row counts for in the balance of a reseller. -/
def confirmedAmount (resellerId : Nat) (entry : WalletTransactionRow) : Cents :=
  if entry.resellerId = resellerId ∧ entry.status = .confirmed then
    entry.amount
  else 0

/-- The confirmed amounts of a reseller's ledger. -/
def ledgerBalance (db : Db) (resellerId : Nat) : Cents :=
  db.total .walletTransactions (confirmedAmount resellerId)

/-- The balance of the reseller, if it exists, is that of its ledger. -/
def Balanced (resellerId : Nat) (db : Db) : Prop :=
  ∀ reseller, db.row .resellers resellerId = some reseller →
    reseller.walletCreditBalance = ledgerBalance db resellerId

/-- The calls that work on the commission wallet. -/
def ServiceCall.IsCommissionOperation : ServiceCall → Prop
  | .deductCommission .. | .refundCommission .. | .requestTopup ..
  | .confirmTopup .. => True
  | _ => False

/-- The change that a deduction or a refund makes to the balance of a reseller,
before rounding. -/
def ServiceCall.creditChange (resellerId : Nat) : ServiceCall → Option Rat
  | .deductCommission id amount _ => if id = resellerId then some (-amount) else none
  | .refundCommission id amount _ => if id = resellerId then some amount else none
  | _ => none

/-- The change that the call is about to commit is rounded alike in the balance
and in the ledger. -/
def CommitsRoundedAlike (resellerId : Nat) (call : ServiceCall) (db : Db) :
    Prop :=
  ∀ reseller change, db.row .resellers resellerId = some reseller →
    call.creditChange resellerId = some change →
    RoundsAlike reseller.walletCreditBalance change

section Entries

variable {db : Db} {resellerId other id : Nat} {balance : Cents}
variable {entry : WalletTransactionRow}

/-- A recorded change keeps the account of its reseller balanced exactly when
the new balance has moved by the amount of the entry. -/
theorem balanced_withLedgerEntry {reseller : ResellerRow}
    (balanced : Balanced resellerId db)
    (reserved : db.Reserved .walletTransactions id)
    (found : db.row .resellers resellerId = some reseller)
    (confirmed : confirmedAmount resellerId entry = entry.amount) :
    Balanced resellerId (db.withLedgerEntry resellerId balance id entry) ↔
      balance = reseller.walletCreditBalance + entry.amount := by
  have sum : ledgerBalance (db.withLedgerEntry resellerId balance id entry)
      resellerId = reseller.walletCreditBalance + entry.amount := by
    rw [ledgerBalance, total_withLedgerEntry reserved, confirmed,
      balanced reseller found, ledgerBalance]
  rw [Balanced, sum, row_resellers_withLedgerEntry, if_pos rfl, found]
  simp [ResellerRow.withCreditBalance]

/-- An entry of another reseller does not matter. -/
theorem balanced_withLedgerEntry_of_ne (balanced : Balanced resellerId db)
    (different : resellerId ≠ other)
    (reserved : db.Reserved .walletTransactions id)
    (unrelated : confirmedAmount resellerId entry = 0) :
    Balanced resellerId (db.withLedgerEntry other balance id entry) := by
  intro reseller found
  rw [row_resellers_withLedgerEntry, if_neg different] at found
  rw [ledgerBalance, total_withLedgerEntry reserved, unrelated, add_zero]
  exact balanced reseller found

end Entries

section Steps

variable {resellerId : Nat} {before after : Db}

theorem Balanced.of_quiet (balanced : Balanced resellerId before)
    (quiet : dbView.Quiet before after) : Balanced resellerId after := by
  intro reseller found
  rw [← quiet_row quiet] at found
  rw [balanced reseller found]
  exact total_congr _ fun id => quiet_row quiet _ id

theorem balanced_deducted_iff {target : Nat} {amount : Rat}
    {orderCode : String} (balanced : Balanced resellerId before)
    (commits : (WalletService.deductionGuarantee target amount
      orderCode).commits before after) :
    Balanced resellerId after ↔
      CommitsRoundedAlike resellerId
        (.deductCommission target amount orderCode) before := by
  obtain ⟨reseller, id, found, _, reserved, rfl⟩ := commits
  by_cases same : target = resellerId
  · subst same
    rw [WalletService.deducted, balanced_withLedgerEntry balanced reserved found
      (by simp [confirmedAmount, WalletService.deductionEntry]),
      WalletService.deductionEntry, sub_eq_add_neg, storeDecimal_add_iff]
    simp [CommitsRoundedAlike, ServiceCall.creditChange, found]
  · refine iff_of_true (balanced_withLedgerEntry_of_ne balanced (Ne.symm same)
      reserved (by simp [confirmedAmount, WalletService.deductionEntry, same]))
      ?_
    simp [CommitsRoundedAlike, ServiceCall.creditChange, same]

theorem balanced_refunded_iff {target : Nat} {amount : Rat}
    {orderCode : String} (balanced : Balanced resellerId before)
    (commits : (WalletService.refundGuarantee target amount
      orderCode).commits before after) :
    Balanced resellerId after ↔
      CommitsRoundedAlike resellerId
        (.refundCommission target amount orderCode) before := by
  obtain ⟨reseller, id, found, reserved, rfl⟩ := commits
  by_cases same : target = resellerId
  · subst same
    rw [WalletService.refunded, balanced_withLedgerEntry balanced reserved found
      (by simp [confirmedAmount, WalletService.refundEntry]),
      WalletService.refundEntry, storeDecimal_add_iff]
    simp [CommitsRoundedAlike, ServiceCall.creditChange, found]
  · refine iff_of_true (balanced_withLedgerEntry_of_ne balanced (Ne.symm same)
      reserved (by simp [confirmedAmount, WalletService.refundEntry, same])) ?_
    simp [CommitsRoundedAlike, ServiceCall.creditChange, same]

theorem Balanced.requested {target : Nat} {amount : Rat}
    {method : PaymentMethod} {reference : Option String}
    (balanced : Balanced resellerId before)
    (commits : (WalletService.requestGuarantee target amount method
      reference).commits before after) : Balanced resellerId after := by
  obtain ⟨id, reserved, rfl⟩ := commits
  intro reseller found
  rw [row_put_of_ne (by decide)] at found
  rw [balanced reseller found, ledgerBalance, ledgerBalance,
    total_put reserved]
  simp [confirmedAmount, WalletService.topupEntry]

/-- A confirmed top-up moves the balance and the ledger by the same cents. -/
theorem Balanced.confirmed {transactionId : Nat}
    (balanced : Balanced resellerId before)
    (commits : (WalletService.confirmGuarantee transactionId).commits before
      after) : Balanced resellerId after := by
  obtain ⟨entry, credited, entryFound, pending, creditedFound, rfl⟩ := commits
  intro reseller found
  have sum := total_modify entryFound
    (fun entry => { entry with status := .confirmed })
    (confirmedAmount resellerId)
  have sumAfter : ledgerBalance before resellerId +
      (if entry.resellerId = resellerId then entry.amount else 0) =
      (before.modify .walletTransactions transactionId
        fun entry => { entry with status := .confirmed }).total
          .walletTransactions (confirmedAmount resellerId) := by
    simpa [confirmedAmount, pending, ledgerBalance] using sum.symm
  rw [ledgerBalance, total_modify_of_ne (by decide), ← sumAfter]
  rw [row_modify, row_modify_of_ne (by decide)] at found
  split_ifs at found with same
  · subst same
    rw [creditedFound] at found
    cases found
    rw [if_pos rfl, ← balanced credited creditedFound]
    have exact' := (storeDecimal_add_iff credited.walletCreditBalance
      (decimal entry.amount)).mpr (roundsAlike_decimal _ _)
    rw [storeDecimal_decimal] at exact'
    exact exact'
  · rw [if_neg (Ne.symm same), add_zero]
    exact balanced reseller found

/-- One commit keeps the account balanced exactly when it is rounded alike. -/
theorem balanced_commits_iff {call : ServiceCall}
    (operation : call.IsCommissionOperation)
    (balanced : Balanced resellerId before)
    (commits : (call.guarantee fun _ => True).commits before after) :
    Balanced resellerId after ↔ CommitsRoundedAlike resellerId call before := by
  cases call with
  | deductCommission => exact balanced_deducted_iff balanced commits
  | refundCommission => exact balanced_refunded_iff balanced commits
  | requestTopup =>
      exact iff_of_true (balanced.requested commits)
        (by simp [CommitsRoundedAlike, ServiceCall.creditChange])
  | confirmTopup =>
      exact iff_of_true (balanced.confirmed commits)
        (by simp [CommitsRoundedAlike, ServiceCall.creditChange])
  | _ => exact operation.elim

theorem no_writes_of_isCommissionOperation {call : ServiceCall}
    (operation : call.IsCommissionOperation) :
    ¬ (call.guarantee fun _ => True).writes before after := by
  cases call <;> first | exact id | exact operation.elim

end Steps

/-- The credit of a reseller, zero if there is no such reseller. -/
def creditBalance (db : Db) (resellerId : Nat) : Cents :=
  (db.row .resellers resellerId).elim 0 (·.walletCreditBalance)

section Restoring

variable {db : Db} {resellerId : Nat} {reseller : ResellerRow} {amount : Rat}
variable {orderCode : String}

theorem creditBalance_deductCommission
    (found : db.row .resellers resellerId = some reseller)
    (within : ¬ WalletService.ExceedsCredit reseller amount) :
    creditBalance ((ServiceCall.deductCommission resellerId amount
        orderCode).runAlone db) resellerId =
      storeDecimal (decimal reseller.walletCreditBalance - amount) := by
  have ran : (ServiceCall.deductCommission resellerId amount
      orderCode).runAlone db =
        WalletService.deducted reseller.walletCreditBalance resellerId amount
          orderCode (db.nextId .walletTransactions)
          (db.reserve .walletTransactions) := by
    rw [ServiceCall.runAlone, ServiceCall.program,
      WalletService.deductCommission, Program.runAlone_begin,
      WalletService.runAlone_deductCommissionInTx found within]
    rfl
  rw [ran, creditBalance, WalletService.deducted,
    row_resellers_withLedgerEntry, if_pos rfl, row_reserve, found]
  rfl

theorem creditBalance_refundCommission
    (found : db.row .resellers resellerId = some reseller) :
    creditBalance ((ServiceCall.refundCommission resellerId amount
        orderCode).runAlone db) resellerId =
      storeDecimal (decimal reseller.walletCreditBalance + amount) := by
  have ran : (ServiceCall.refundCommission resellerId amount
      orderCode).runAlone db =
        WalletService.refunded reseller.walletCreditBalance resellerId amount
          orderCode (db.nextId .walletTransactions)
          (db.reserve .walletTransactions) := by
    rw [ServiceCall.runAlone, ServiceCall.program,
      WalletService.runAlone_refundCommission found]
    rfl
  rw [ran, creditBalance, WalletService.refunded,
    row_resellers_withLedgerEntry, if_pos rfl, row_reserve, found]
  rfl

/-- A deduction and a later refund of the stored commission cancel out exactly
when the deduction was rounded alike. -/
theorem restored_iff {later : Db} {current : ResellerRow}
    (found : db.row .resellers resellerId = some reseller)
    (within : ¬ WalletService.ExceedsCredit reseller amount)
    (foundLater : later.row .resellers resellerId = some current) :
    (creditBalance ((ServiceCall.deductCommission resellerId amount
          orderCode).runAlone db) resellerId - creditBalance db resellerId) +
        (creditBalance ((ServiceCall.refundCommission resellerId
            (decimal (storeDecimal amount)) orderCode).runAlone later)
            resellerId -
          creditBalance later resellerId) = 0 ↔
      RoundsAlike reseller.walletCreditBalance (-amount) := by
  have refunded := (storeDecimal_add_iff current.walletCreditBalance
    (decimal (storeDecimal amount))).mpr (roundsAlike_decimal _ _)
  rw [storeDecimal_decimal] at refunded
  rw [creditBalance_deductCommission found within,
    creditBalance_refundCommission foundLater, refunded, creditBalance,
    creditBalance, found, foundLater, ← storeDecimal_add_iff,
    storeDecimal_neg, ← sub_eq_add_neg]
  simp only [Option.elim_some]
  constructor <;> intro equal <;> linarith

end Restoring

section Runs

variable {Caller : Type} [DecidableEq Caller]

/-- In every interleaving of deductions, refunds and top-ups, the balance is
that of the ledger in every state if and only if every commit is rounded
alike, which is also when a deduction is undone by the refund of the stored
commission. -/
theorem balanced_iff_roundedAlike (resellerId : Nat)
    (calls : Caller → ServiceCall)
    (operations : ∀ caller, (calls caller).IsCommissionOperation) (db : Db)
    (balanced : Balanced resellerId db) (events : List (Event Caller)) :
    (StepRuns.Along System.step
        (fun system event => Balanced resellerId (system.step event).state)
        (startCalls db calls) events ↔
      StepRuns.Along System.step
        (fun system event => system.Commits event →
          CommitsRoundedAlike resellerId (calls event.call) system.state)
        (startCalls db calls) events) ∧
    ∀ (before later : Db) (reseller current : ResellerRow) (amount : Rat)
      (orderCode : String),
      before.row .resellers resellerId = some reseller →
      later.row .resellers resellerId = some current →
      ¬ WalletService.ExceedsCredit reseller amount →
      ((creditBalance ((ServiceCall.deductCommission resellerId amount
            orderCode).runAlone before) resellerId -
            creditBalance before resellerId) +
          (creditBalance ((ServiceCall.refundCommission resellerId
              (decimal (storeDecimal amount)) orderCode).runAlone later)
              resellerId -
            creditBalance later resellerId) = 0 ↔
        RoundsAlike reseller.walletCreditBalance (-amount)) := by
  refine ⟨?_, fun _ _ _ _ _ _ found foundLater within =>
    restored_iff found within foundLater⟩
  let invariant (system : ServiceSystem Caller) : Prop :=
    SoundCalls (fun _ => True) calls system ∧
      Balanced resellerId system.state
  have preserved : PreservedBy (fun _ => True) calls := .of_true ..
  have oneStep : ∀ system event, invariant system →
      (Balanced resellerId (system.step event).state ↔
        (system.Commits event →
          CommitsRoundedAlike resellerId (calls event.call) system.state)) ∧
      SoundCalls (fun _ => True) calls (system.step event) := by
    rintro system event ⟨sound, holds⟩
    obtain ⟨soundAfter, change⟩ := sound.step preserved event
    refine ⟨?_, soundAfter⟩
    cases change with
    | quiet noCommit quiet =>
        exact iff_of_true (holds.of_quiet quiet)
          fun commits => absurd commits noCommit
    | written _ _ writes =>
        exact absurd writes
          (no_writes_of_isCommissionOperation (operations event.call))
    | committed isCommit commits =>
        have equivalent :=
          balanced_commits_iff (operations event.call) holds commits
        exact equivalent.trans ⟨fun guard _ => guard, fun guard =>
          guard isCommit⟩
  exact StepRuns.along_iff invariant
    (fun system event holds => (oneStep system event holds).1)
    (fun system event holds guard => ⟨(oneStep system event holds).2,
      (oneStep system event holds).1.mpr guard⟩)
    ⟨soundCalls_start trivial, balanced⟩ events

end Runs

/-- A reseller with an empty ledger. -/
def ledgerReseller : ResellerRow where
  botTokenEncrypted := "gAAAAA"
  botUsername := "shop_bot"
  telegramNumericId := 1001
  orderPrefix := "AR"
  commissionPercent := 100
  walletCreditBalance := 0
  creditLimitNegative := 1000
  testModeEnabled := false
  testModeOrderLimit := 0
  testModeOrdersUsed := 0

def ledgerDb : Db :=
  .filled fun
    | .resellers => [ledgerReseller]
    | _ => []

/-- One percent of a price of 50.50, which ends in half a cent. -/
def halfCentCommission : Rat :=
  decimal 5050 * decimal 100 / 100

/-- A top-up of 10.00, its confirmation, and the deduction. -/
def halfCentCalls : Fin 3 → ServiceCall
  | 0 => .requestTopup 1 10 .card none
  | 1 => .confirmTopup 1
  | 2 => .deductCommission 1 halfCentCommission "AR-1"

def halfCentEvents : List (Event (Fin 3)) :=
  List.replicate 3 (.advance 0) ++ List.replicate 6 (.advance 1) ++
    List.replicate 5 (.advance 2)

theorem halfCentCalls_balanced_iff :
    (StepRuns.Along System.step
        (fun system event => Balanced 1 (system.step event).state)
        (startCalls ledgerDb halfCentCalls) halfCentEvents ↔
      StepRuns.Along System.step
        (fun system event => system.Commits event →
          CommitsRoundedAlike 1 (halfCentCalls event.call) system.state)
        (startCalls ledgerDb halfCentCalls) halfCentEvents) ∧
    ((creditBalance ((ServiceCall.deductCommission 1 halfCentCommission
          "AR-1").runAlone ledgerDb) 1 - creditBalance ledgerDb 1) +
        (creditBalance ((ServiceCall.refundCommission 1
            (decimal (storeDecimal halfCentCommission)) "AR-1").runAlone
            ledgerDb) 1 -
          creditBalance ledgerDb 1) = 0 ↔
      RoundsAlike 0 (-halfCentCommission)) := by
  have operations : ∀ caller, (halfCentCalls caller).IsCommissionOperation :=
    fun | 0 => trivial | 1 => trivial | 2 => trivial
  have balanced : Balanced 1 ledgerDb := by
    intro reseller found
    cases found
    decide +kernel
  have applied := balanced_iff_roundedAlike 1 halfCentCalls operations ledgerDb
    balanced halfCentEvents
  exact ⟨applied.1, applied.2 ledgerDb ledgerDb ledgerReseller ledgerReseller
    halfCentCommission "AR-1" rfl rfl (by decide +kernel)⟩

/-- The balance goes to 9.50 while the ledger goes to 9.49, and the refund of
the stored commission gives back a cent too much. -/
theorem halfCent_unbalanced :
    let paid := (runCalls ledgerDb halfCentCalls
      (halfCentEvents.take 9)).state
    let after := (runCalls ledgerDb halfCentCalls halfCentEvents).state
    creditBalance ledgerDb 1 = 0 ∧ ledgerBalance ledgerDb 1 = 0 ∧
      creditBalance after 1 = 950 ∧ ledgerBalance after 1 = 949 ∧
      ¬ Balanced 1 after ∧
      creditBalance paid 1 = 1000 ∧
      creditBalance ((ServiceCall.refundCommission 1
        (decimal (storeDecimal halfCentCommission)) "AR-1").runAlone after) 1 =
          1001 := by
  refine ⟨by decide +kernel, by decide +kernel, by decide +kernel,
    by decide +kernel, fun balanced => ?_, by decide +kernel,
    by decide +kernel⟩
  have found : (runCalls ledgerDb halfCentCalls halfCentEvents).state.row
      .resellers 1 = some (ledgerReseller.withCreditBalance 950) := by
    decide +kernel
  exact absurd (balanced _ found) (by decide +kernel)

end Baste
