import Baste.ServiceErrors

/-!
# The commission wallet

Deductions, refunds and top-ups of a reseller's commission credit.  Each of
them locks the reseller's row, and changes the balance and the ledger in one
transaction.  After each function stands what it does when it runs alone and
what its commits may change when it runs among other calls.
-/

namespace Baste

open Database Transaction

/-- The reseller with a new credit balance. -/
def ResellerRow.withCreditBalance (balance : Cents) (reseller : ResellerRow) :
    ResellerRow :=
  { reseller with walletCreditBalance := balance }

/-- The database after a balance update and the ledger row that records it. -/
def Db.withLedgerEntry (db : Db) (resellerId : Nat) (balance : Cents)
    (id : Nat) (entry : WalletTransactionRow) : Db :=
  (db.modify .resellers resellerId (·.withCreditBalance balance)).put
    .walletTransactions id entry

section LedgerEntries

variable {db : Db} {resellerId id : Nat} {balance : Cents}
variable {entry : WalletTransactionRow}

@[simp]
theorem row_withLedgerEntry_of_ne {name : TableName} {key : Nat}
    (notReseller : name ≠ .resellers) (notLedger : name ≠ .walletTransactions) :
    (db.withLedgerEntry resellerId balance id entry).row name key =
      db.row name key := by
  rw [Db.withLedgerEntry, row_put_of_ne notLedger, row_modify_of_ne notReseller]

theorem row_resellers_withLedgerEntry {key : Nat} :
    (db.withLedgerEntry resellerId balance id entry).row .resellers key =
      if key = resellerId then
        (db.row .resellers key).map (·.withCreditBalance balance)
      else db.row .resellers key := by
  rw [Db.withLedgerEntry, row_put_of_ne (by decide), row_modify]

/-- A ledger entry adds its value to every total over the ledger. -/
theorem total_withLedgerEntry {Total : Type} [AddCommMonoid Total]
    (reserved : db.Reserved .walletTransactions id)
    (value : WalletTransactionRow → Total) :
    (db.withLedgerEntry resellerId balance id entry).total .walletTransactions
        value =
      db.total .walletTransactions value + value entry := by
  have stillReserved : (db.modify .resellers resellerId
      (·.withCreditBalance balance)).Reserved .walletTransactions id := by
    simpa [Database.Reserved] using reserved
  rw [Db.withLedgerEntry, total_put stillReserved, total_modify_of_ne
    (by decide)]

end LedgerEntries

namespace WalletService

variable {Result : Type}

/-- Write the new balance of a reseller and the ledger row that records the
change. -/
def recordEntry (resellerId : Nat) (newBalance : Rat)
    (entry : WalletTransactionRow)
    (next : Except ServiceError Unit → Program Result) : Program Result :=
  updateRow .resellers resellerId
      (·.withCreditBalance (storeDecimal newBalance)) <|
    insertRow .walletTransactions []
      (fun db => (db.row .resellers entry.resellerId).isSome) entry fun
        | some _ => next (.ok ())
        | none => next (.error .integrityError)

/-- The ledger row of a deduction. -/
def deductionEntry (resellerId : Nat) (amount : Rat) (orderCode : String) :
    WalletTransactionRow where
  resellerId := resellerId
  type := .commissionDeduction
  amount := storeDecimal (-amount)
  reference := some orderCode

/-- The ledger row of a refund. -/
def refundEntry (resellerId : Nat) (amount : Rat) (orderCode : String) :
    WalletTransactionRow where
  resellerId := resellerId
  type := .refund
  amount := storeDecimal amount
  reference := some orderCode

/-- The balance after a deduction would pass the credit limit. -/
def ExceedsCredit (reseller : ResellerRow) (amount : Rat) : Prop :=
  decimal reseller.walletCreditBalance - amount <
    -decimal reseller.creditLimitNegative

instance (reseller : ResellerRow) (amount : Rat) :
    Decidable (ExceedsCredit reseller amount) :=
  inferInstanceAs (Decidable (_ < _))

def deductCommissionInTx (resellerId : Nat) (amount : Rat)
    (orderCode : String) (next : Except ServiceError Unit → Program Result) :
    Program Result :=
  .selectForUpdate (fun _ => [.row .resellers resellerId]) fun now =>
    match now.row .resellers resellerId with
    | none =>
        next (.error (.valueError s!"نماینده {resellerId} پیدا نشد."))
    | some reseller =>
        if ExceedsCredit reseller amount then
          let limit := formatDecimal reseller.creditLimitNegative
          next (.error (.insufficientCredit
            s!"موجودی نماینده {resellerId} پس از کسر کمیسیون از سقف اعتبار منفی ({limit}) عبور می‌کند."))
        else
          recordEntry resellerId
            (decimal reseller.walletCreditBalance - amount)
            (deductionEntry resellerId amount orderCode) next

/-- What a deduction changes, given the balance it has read. -/
def deducted (balance : Cents) (resellerId : Nat) (amount : Rat)
    (orderCode : String) (id : Nat) (db : Db) : Db :=
  db.withLedgerEntry resellerId (storeDecimal (decimal balance - amount)) id
    (deductionEntry resellerId amount orderCode)

/-- What a refund changes, given the balance it has read. -/
def refunded (balance : Cents) (resellerId : Nat) (amount : Rat)
    (orderCode : String) (id : Nat) (db : Db) : Db :=
  db.withLedgerEntry resellerId (storeDecimal (decimal balance + amount)) id
    (refundEntry resellerId amount orderCode)

def deductCommission (resellerId : Nat) (amount : Rat) (orderCode : String)
    (next : Except ServiceError Unit → Program Result) : Program Result :=
  .begin <|
    deductCommissionInTx resellerId amount orderCode (closeTransaction next)

def refundCommission (resellerId : Nat) (amount : Rat) (orderCode : String)
    (next : Except ServiceError Unit → Program Result) : Program Result :=
  .begin <|
    .selectForUpdate (fun _ => [.row .resellers resellerId]) fun now =>
      match now.row .resellers resellerId with
      | none =>
          .rollback <|
            next (.error (.valueError s!"نماینده {resellerId} پیدا نشد."))
      | some reseller =>
          recordEntry resellerId
            (decimal reseller.walletCreditBalance + amount)
            (refundEntry resellerId amount orderCode) (closeTransaction next)

/-- The ledger row of a top-up request. -/
def topupEntry (resellerId : Nat) (amount : Rat) (method : PaymentMethod)
    (reference : Option String) : WalletTransactionRow where
  resellerId := resellerId
  type := .topup
  amount := storeDecimal amount
  method := some method
  status := .pending
  reference := reference

def requestTopup (resellerId : Nat) (amount : Rat) (method : PaymentMethod)
    (reference : Option String)
    (next : Except ServiceError Nat → Program Result) : Program Result :=
  .begin <|
    insertRow .walletTransactions []
      (fun db => (db.row .resellers resellerId).isSome)
      (topupEntry resellerId amount method reference) fun
        | some id => .commit (next (.ok id))
        | none => .rollback (next (.error .integrityError))

def confirmTopup (transactionId : Nat)
    (next : Except ServiceError Unit → Program Result) : Program Result :=
  .begin <|
    .selectForUpdate (fun _ => [.row .walletTransactions transactionId])
      fun now =>
        match now.row .walletTransactions transactionId with
        | none =>
            .rollback (next (.error (.valueError "تراکنش پیدا نشد.")))
        | some entry =>
            if entry.status ≠ .pending then
              .rollback <|
                next (.error (.valueError "این تراکنش قبلاً پردازش شده است."))
            else
              updateRow .walletTransactions transactionId
                  (fun entry => { entry with status := .confirmed }) <|
                .selectForUpdate
                  (fun _ => [.row .resellers entry.resellerId]) fun now =>
                    match now.row .resellers entry.resellerId with
                    | none =>
                        .rollback (next (.error .noneNotSubscriptable))
                    | some reseller =>
                        updateRow .resellers entry.resellerId
                            (·.withCreditBalance (storeDecimal
                              (decimal reseller.walletCreditBalance +
                                decimal entry.amount))) <|
                          .commit (next (.ok ()))

section Alone

variable {resellerId : Nat} {amount : Rat} {orderCode : String} {db : Db}
variable {reseller : ResellerRow}
variable {next : Except ServiceError Unit → Program Result}

variable {pending : Db → Db}

/-- A deduction within the credit limit, in a transaction with other
changes. -/
theorem runAlone_deductCommissionInTx_pending
    (found : (pending db).row .resellers resellerId = some reseller)
    (within : ¬ ExceedsCredit reseller amount) :
    (deductCommissionInTx resellerId amount orderCode next).runAlone
        (some pending) db =
      (next (.ok ())).runAlone
        (some fun later => deducted reseller.walletCreditBalance resellerId
          amount orderCode ((pending db).nextId .walletTransactions)
          (pending later))
        (db.reserve .walletTransactions) := by
  simp only [deductCommissionInTx, Program.runAlone_selectForUpdate, found,
    within, if_false, recordEntry, runAlone_updateRow_pending]
  rw [runAlone_insertRow_pending (by simp [deductionEntry, found])]
  simp only [nextId_modify]
  rfl

/-- A deduction that would pass the limit, in a transaction with other
changes. -/
theorem runAlone_deductCommissionInTx_pending_exceeded
    (found : (pending db).row .resellers resellerId = some reseller)
    (exceeds : ExceedsCredit reseller amount) :
    ∃ message,
      (deductCommissionInTx resellerId amount orderCode next).runAlone
          (some pending) db =
        (next (.error (.insufficientCredit message))).runAlone (some pending)
          db := by
  simp only [deductCommissionInTx, Program.runAlone_selectForUpdate, found,
    exceeds, if_true]
  exact ⟨_, rfl⟩

/-- A deduction that opens its transaction, within the credit limit. -/
theorem runAlone_deductCommissionInTx
    (found : db.row .resellers resellerId = some reseller)
    (within : ¬ ExceedsCredit reseller amount) :
    (deductCommissionInTx resellerId amount orderCode next).runAlone (some id)
        db =
      (next (.ok ())).runAlone
        (some (deducted reseller.walletCreditBalance resellerId amount
          orderCode (db.nextId .walletTransactions)))
        (db.reserve .walletTransactions) :=
  runAlone_deductCommissionInTx_pending found within

/-- A deduction that opens its transaction and would pass the limit. -/
theorem runAlone_deductCommissionInTx_exceeded
    (found : db.row .resellers resellerId = some reseller)
    (exceeds : ExceedsCredit reseller amount) :
    ∃ message,
      (deductCommissionInTx resellerId amount orderCode next).runAlone
          (some id) db =
        (next (.error (.insufficientCredit message))).runAlone (some id) db :=
  runAlone_deductCommissionInTx_pending_exceeded found exceeds

/-- A refund to a reseller that exists. -/
theorem runAlone_refundCommission
    (found : db.row .resellers resellerId = some reseller) :
    (refundCommission resellerId amount orderCode next).runAlone none db =
      (next (.ok ())).runAlone none
        (refunded reseller.walletCreditBalance resellerId amount orderCode
          (db.nextId .walletTransactions)
          (db.reserve .walletTransactions)) := by
  simp only [refundCommission, Program.runAlone_begin,
    Program.runAlone_selectForUpdate, id_eq, found, recordEntry,
    runAlone_updateRow_pending]
  rw [runAlone_insertRow_pending (by simp [refundEntry, found])]
  simp [refunded, Db.withLedgerEntry, closeTransaction]

/-- A refund to a reseller that does not exist. -/
theorem runAlone_refundCommission_unknown
    (absent : db.row .resellers resellerId = none) :
    ∃ error, (refundCommission resellerId amount orderCode next).runAlone none
        db =
      (next (.error error)).runAlone none db := by
  simp only [refundCommission, Program.runAlone_begin,
    Program.runAlone_selectForUpdate, id_eq, absent, Program.runAlone_rollback]
  exact ⟨_, rfl⟩

end Alone

section Safety

variable {invariant : Db → Prop} {guarantee : Guarantee Db}
variable {pending : Db → Db} {held : List RowKey} {state : Db}
variable {resellerId : Nat} {amount : Rat} {orderCode : String}

/-- After the two writes the transaction holds both rows, and its pending
changes contain the balance and the entry. -/
theorem checks_recordEntry {newBalance : Rat} {entry : WalletTransactionRow}
    {next : Except ServiceError Unit → Program Result}
    {checked : Program Result → (Db → Db) → List RowKey → Db → Prop}
    (rules : Program.ChecksPending dbView invariant checked)
    (ledgerKept : ∀ db,
      (pending db).table .walletTransactions = db.table .walletTransactions)
    (recorded : ∀ now id locks, dbView.Rely held state now →
      now.Reserved .walletTransactions id → held ⊆ locks →
      .row .resellers resellerId ∈ locks →
      .row .walletTransactions id ∈ locks →
      checked (next (.ok ()))
        (fun later => (pending later).withLedgerEntry resellerId
          (storeDecimal newBalance) id entry) locks now)
    (refused : ∀ changes locks now,
      checked (next (.error .integrityError)) changes locks now) :
    checked (recordEntry resellerId newBalance entry next) pending held
      state := by
  refine checks_update_pending rules fun first firstRelies _ =>
    checks_insert_pending rules (fun now relies _ _ => ?_) fun locks now =>
      refused _ locks now
  refine recorded _ _ _ ?_ ?_ ?_ (by simp) (by simp)
  · have reliesHeld := View.rely_subset relies (List.subset_cons_self _ held)
    exact firstRelies.trans
      (reliesHeld.trans (View.rely_of_quiet (quiet_reserve now)))
  · rw [nextId_modify, nextId, ledgerKept]
    exact reserved_reserve now _
  · intro key member
    simp [member]

/-- A deduction ends with the pending changes of `deducted`, computed from the
balance that the locked row has, or it raises. -/
theorem checks_deductCommissionInTx
    {next : Except ServiceError Unit → Program Result}
    {checked : Program Result → (Db → Db) → List RowKey → Db → Prop}
    (rules : Program.ChecksPending dbView invariant checked)
    (resellersKept : ∀ db,
      (pending db).table .resellers = db.table .resellers)
    (ledgerKept : ∀ db,
      (pending db).table .walletTransactions = db.table .walletTransactions)
    (charged : ∀ now reseller id locks, dbView.Rely held state now →
      now.row .resellers resellerId = some reseller →
      ¬ ExceedsCredit reseller amount →
      now.Reserved .walletTransactions id → held ⊆ locks →
      .row .resellers resellerId ∈ locks →
      .row .walletTransactions id ∈ locks →
      checked (next (.ok ()))
        (fun later => deducted reseller.walletCreditBalance resellerId
          amount orderCode id (pending later)) locks now)
    (exceeded : ∀ now reseller message, dbView.Rely held state now →
      now.row .resellers resellerId = some reseller →
      ExceedsCredit reseller amount →
      checked (next (.error (.insufficientCredit message))) pending
        (.row .resellers resellerId :: held) now)
    (failed : ∀ error changes locks now,
      (error = .integrityError ∨ ∃ message, error = .valueError message) →
      checked (next (.error error)) changes locks now) :
    checked (deductCommissionInTx resellerId amount orderCode next) pending
      held state := by
  apply rules.selectForUpdate
  intro now relies _
  have sameRow : (pending now).row .resellers resellerId =
      now.row .resellers resellerId := by
    rw [Database.row, resellersKept, Database.row]
  rw [sameRow]
  cases found : now.row .resellers resellerId with
  | none => exact failed _ _ _ _ (.inr ⟨_, rfl⟩)
  | some reseller =>
      by_cases exceeds : ExceedsCredit reseller amount
      · simp only [exceeds, if_true]
        exact exceeded now reseller _ relies found exceeds
      · simp only [exceeds, if_false]
        refine checks_recordEntry rules ledgerKept ?_
          fun changes locks later => failed _ changes locks later (.inl rfl)
        intro later id locks kept reserved subset resellerHeld entryHeld
        refine charged later reseller id locks ?_ ?_ exceeds reserved ?_
          resellerHeld entryHeld
        · exact relies.trans
            (View.rely_subset kept (List.subset_cons_self _ held))
        · rw [← rely_row kept (by simp)]
          exact found
        · exact fun key member =>
            subset (List.mem_cons_of_mem _ member)

/-- The commits of a deduction: a locked reseller within its credit limit. -/
def deductionGuarantee (resellerId : Nat) (amount : Rat) (orderCode : String) :
    Guarantee Db where
  writes _ _ := False
  commits before after := ∃ reseller id,
    before.row .resellers resellerId = some reseller ∧
    ¬ ExceedsCredit reseller amount ∧
    before.Reserved .walletTransactions id ∧
    after = deducted reseller.walletCreditBalance resellerId amount orderCode
      id before

/-- The commits of a refund. -/
def refundGuarantee (resellerId : Nat) (amount : Rat) (orderCode : String) :
    Guarantee Db where
  writes _ _ := False
  commits before after := ∃ reseller id,
    before.row .resellers resellerId = some reseller ∧
    before.Reserved .walletTransactions id ∧
    after = refunded reseller.walletCreditBalance resellerId amount orderCode
      id before

/-- The commits of a top-up request. -/
def requestGuarantee (resellerId : Nat) (amount : Rat)
    (method : PaymentMethod) (reference : Option String) : Guarantee Db where
  writes _ _ := False
  commits before after := ∃ id, before.Reserved .walletTransactions id ∧
    after = before.put .walletTransactions id
      (topupEntry resellerId amount method reference)

/-- The commits of a top-up confirmation: a locked, pending ledger row. -/
def confirmGuarantee (transactionId : Nat) : Guarantee Db where
  writes _ _ := False
  commits before after := ∃ entry reseller,
    before.row .walletTransactions transactionId = some entry ∧
    entry.status = .pending ∧
    before.row .resellers entry.resellerId = some reseller ∧
    after = (before.modify .walletTransactions transactionId
        fun entry => { entry with status := .confirmed }).modify
      .resellers entry.resellerId
        (·.withCreditBalance (storeDecimal
          (decimal reseller.walletCreditBalance + decimal entry.amount)))

theorem frame_withLedgerEntry {locks : List RowKey} {before mid : Db}
    {id : Nat} {balance : Cents} {entry : WalletTransactionRow}
    (frame : dbView.Frame locks before mid)
    (resellerHeld : .row .resellers resellerId ∈ locks)
    (entryHeld : .row .walletTransactions id ∈ locks) :
    dbView.Frame locks before
      (mid.withLedgerEntry resellerId balance id entry) :=
  frame_put (frame_modify frame resellerHeld _) entryHeld _

theorem safe_deductCommission {next : Except ServiceError Unit → Program Result}
    (continues : ∀ reply now, (next reply).Safe dbView invariant
      (deductionGuarantee resellerId amount orderCode) none [] now) :
    (deductCommission resellerId amount orderCode next).Safe dbView invariant
      (deductionGuarantee resellerId amount orderCode) none [] state := by
  refine Program.Safe.begin <|
    checks_deductCommissionInTx Program.Safe.checksPending (fun _ => rfl)
      (fun _ => rfl) ?_
    (fun _ _ _ _ _ _ now => continues _ now)
    fun error _ _ _ _ now => continues _ now
  intro now reseller id locks _ found within reserved _ resellerHeld entryHeld
  refine Program.Safe.commit (fun later relies _ => ⟨?_, reseller, id, ?_,
    within, rely_reserved relies entryHeld reserved, rfl⟩) (continues _)
  · exact frame_withLedgerEntry (.refl later) resellerHeld entryHeld
  · rw [← rely_row relies resellerHeld]
    exact found

theorem safe_refundCommission {next : Except ServiceError Unit → Program Result}
    (allowed : ∀ before after,
      (refundGuarantee resellerId amount orderCode).commits before after →
      guarantee.commits before after)
    (continues : ∀ reply now, (next reply).Safe dbView invariant guarantee
      none [] now) :
    (refundCommission resellerId amount orderCode next).Safe dbView invariant
      guarantee none [] state := by
  refine Program.Safe.begin <|
    Program.Safe.selectForUpdate fun now relies _ => ?_
  simp only [id_eq]
  cases found : now.row .resellers resellerId with
  | none => exact Program.Safe.rollback (continues _)
  | some reseller =>
      refine checks_recordEntry Program.Safe.checksPending (fun _ => rfl) ?_ fun _ _ _ =>
        Program.Safe.rollback (continues _)
      intro later id locks kept reserved _ resellerHeld entryHeld
      refine Program.Safe.commit (fun last relies _ => ⟨?_, allowed _ _
        ⟨reseller, id, ?_, rely_reserved relies entryHeld reserved, rfl⟩⟩)
        (continues _)
      · exact frame_withLedgerEntry (.refl last) resellerHeld entryHeld
      · rw [← rely_row relies resellerHeld, ← rely_row kept (by simp)]
        exact found

theorem safe_requestTopup {method : PaymentMethod} {reference : Option String}
    {next : Except ServiceError Nat → Program Result}
    (continues : ∀ reply now, (next reply).Safe dbView invariant
      (requestGuarantee resellerId amount method reference) none [] now) :
    (requestTopup resellerId amount method reference next).Safe dbView
      invariant (requestGuarantee resellerId amount method reference) none []
      state := by
  refine Program.Safe.begin <|
    safe_insert_pending (fun now _ _ _ => ?_) fun _ _ =>
      Program.Safe.rollback (continues _)
  refine Program.Safe.commit (fun later relies _ => ⟨?_, _, ?_, rfl⟩)
    (continues _)
  · exact frame_put (.refl later) (by simp) _
  · exact rely_reserved relies (by simp) (reserved_reserve now _)

theorem safe_confirmTopup {transactionId : Nat}
    {next : Except ServiceError Unit → Program Result}
    (continues : ∀ reply now, (next reply).Safe dbView invariant
      (confirmGuarantee transactionId) none [] now) :
    (confirmTopup transactionId next).Safe dbView invariant
      (confirmGuarantee transactionId) none [] state := by
  refine Program.Safe.begin <|
    Program.Safe.selectForUpdate fun first _ _ => ?_
  simp only [id_eq]
  cases found : first.row .walletTransactions transactionId with
  | none => exact continues _
  | some entry =>
      dsimp only
      by_cases processed : entry.status ≠ .pending
      · rw [if_pos processed]
        exact Program.Safe.rollback (continues _)
      · rw [if_neg processed]
        refine safe_update_pending fun second firstKept _ =>
          Program.Safe.selectForUpdate fun now secondKept _ => ?_
        simp only [id_eq, ne_eq, reduceCtorEq, not_false_eq_true,
          row_modify_of_ne]
        cases credited : now.row .resellers entry.resellerId with
        | none => exact continues _
        | some reseller =>
            refine safe_update_pending fun third thirdKept _ =>
              Program.Safe.commit (fun last lastKept _ => ⟨?_, entry, reseller,
                ?_, not_not.mp processed, ?_, rfl⟩) (continues _)
            · exact frame_modify (frame_modify (.refl last) (by simp) _)
                (by simp) _
            · rw [← rely_row lastKept (by simp), ← rely_row thirdKept (by simp),
                ← rely_row secondKept (by simp), ← rely_row firstKept (by simp)]
              exact found
            · rw [← rely_row lastKept (by simp), ← rely_row thirdKept (by simp)]
              exact credited

end Safety

end WalletService

end Baste
