import Baste.ServiceCalls
import Baste.SerialExecution
import Mathlib.Algebra.Order.Group.Multiset

/-!
# Serial executions of the commission wallet

Deductions, refunds and confirmations of top-ups write balances that they have
computed from an earlier read.  Every such read locks its row, so whatever the
interleaving, the balances, the ledger and the outcomes are those of the same
calls one after another.
-/

namespace Baste

open Database Transaction

/-- The row of a request after its confirmation. -/
def WalletTransactionRow.confirm (entry : WalletTransactionRow) :
    WalletTransactionRow :=
  { entry with status := .confirmed }

/-- What the calls know of the database: the resellers, the requests below the
given id, and the rows of the ledger. -/
@[ext]
structure Accounts where
  reseller : Nat → Option ResellerRow
  request : Nat → Option WalletTransactionRow
  ledger : Multiset WalletTransactionRow

def Db.ledger (db : Db) : Multiset WalletTransactionRow :=
  db.total .walletTransactions fun entry => {entry}

def Db.accounts (requests : Nat) (db : Db) : Accounts where
  reseller := db.row .resellers
  request id := if id < requests then db.row .walletTransactions id else none
  ledger := db.ledger

namespace Accounts

/-- A reseller gets a new balance. -/
def setBalance (accounts : Accounts) (resellerId : Nat) (balance : Cents) :
    Accounts :=
  { accounts with
    reseller := fun id =>
      if id = resellerId then
        (accounts.reseller id).map (·.withCreditBalance balance)
      else accounts.reseller id }

/-- The ledger gets a new row. -/
def enter (accounts : Accounts) (entry : WalletTransactionRow) : Accounts :=
  { accounts with ledger := accounts.ledger + {entry} }

/-- A request is confirmed. -/
def confirm (accounts : Accounts) (id : Nat) (entry : WalletTransactionRow) :
    Accounts :=
  { accounts with
    request := fun key =>
      if key = id then some entry.confirm else accounts.request key
    ledger := accounts.ledger + {entry.confirm} - {entry} }

end Accounts

def unknownReseller (resellerId : Nat) : ServiceError :=
  .valueError s!"نماینده {resellerId} پیدا نشد."

def creditExceeded (resellerId : Nat) (reseller : ResellerRow) : ServiceError :=
  let limit := formatDecimal reseller.creditLimitNegative
  .insufficientCredit
    s!"موجودی نماینده {resellerId} پس از کسر کمیسیون از سقف اعتبار منفی ({limit}) عبور می‌کند."

def alreadyProcessed : ServiceError :=
  .valueError "این تراکنش قبلاً پردازش شده است."

/-- What the calls on the commission wallet do at once. -/
def ServiceCall.effect : ServiceCall → Accounts → Accounts × Outcome
  | .deductCommission resellerId amount orderCode => fun accounts =>
      match accounts.reseller resellerId with
      | none => (accounts, .error (unknownReseller resellerId))
      | some reseller =>
          if WalletService.ExceedsCredit reseller amount then
            (accounts, .error (creditExceeded resellerId reseller))
          else
            ((accounts.setBalance resellerId (storeDecimal
                (decimal reseller.walletCreditBalance - amount))).enter
              (WalletService.deductionEntry resellerId amount orderCode),
              .ok .nothing)
  | .refundCommission resellerId amount orderCode => fun accounts =>
      match accounts.reseller resellerId with
      | none => (accounts, .error (unknownReseller resellerId))
      | some reseller =>
          ((accounts.setBalance resellerId (storeDecimal
              (decimal reseller.walletCreditBalance + amount))).enter
            (WalletService.refundEntry resellerId amount orderCode),
            .ok .nothing)
  | .confirmTopup transactionId => fun accounts =>
      match accounts.request transactionId with
      | none => (accounts, .error (.valueError "تراکنش پیدا نشد."))
      | some entry =>
          if entry.status ≠ .pending then (accounts, .error alreadyProcessed)
          else
            match accounts.reseller entry.resellerId with
            | none => (accounts, .error .noneNotSubscriptable)
            | some reseller =>
                ((accounts.confirm transactionId entry).setBalance
                    entry.resellerId (storeDecimal
                      (decimal reseller.walletCreditBalance +
                        decimal entry.amount)),
                  .ok .nothing)
  | _ => fun accounts => (accounts, .ok .nothing)

/-- Deductions, refunds, and confirmations of requests below the given id. -/
def ServiceCall.IsWalletTransaction (requests : Nat) : ServiceCall → Prop
  | .deductCommission .. | .refundCommission .. => True
  | .confirmTopup transactionId => transactionId < requests
  | _ => False

section Knowledge

variable {db before after : Db} {requests resellerId id : Nat}
variable {balance : Cents} {entry : WalletTransactionRow}

theorem accounts_of_quiet (quiet : dbView.Quiet before after) :
    before.accounts requests = after.accounts requests := by
  ext1
  · exact funext fun id => quiet_row quiet _ id
  · exact funext fun id => by simp only [Db.accounts, quiet_row quiet]
  · exact total_congr _ fun id => quiet_row quiet _ id

/-- A new balance and the ledger row that records it. -/
theorem accounts_withLedgerEntry
    (reserved : db.Reserved .walletTransactions id)
    (recent : requests ≤ id) :
    (db.withLedgerEntry resellerId balance id entry).accounts requests =
      ((db.accounts requests).setBalance resellerId balance).enter entry := by
  ext1
  · funext key
    simp only [Db.accounts, Accounts.enter, Accounts.setBalance]
    rw [row_resellers_withLedgerEntry]
  · funext key
    by_cases old : key < requests
    · have different : key ≠ id := by omega
      simp only [Db.accounts, Accounts.enter, Accounts.setBalance, old, if_true,
        Db.withLedgerEntry]
      rw [row_put_ne different, row_modify_of_ne (by decide)]
    · simp only [Db.accounts, Accounts.enter, Accounts.setBalance, old,
        if_false]
  · exact total_withLedgerEntry reserved _

/-- A confirmed request and the balance that it is added to. -/
theorem accounts_confirmed (old : id < requests)
    (found : db.row .walletTransactions id = some entry) :
    Db.accounts requests ((db.modify .walletTransactions id
          fun entry => { entry with status := .confirmed }).modify .resellers
        resellerId (·.withCreditBalance balance)) =
      ((db.accounts requests).confirm id entry).setBalance resellerId
        balance := by
  ext1
  · funext key
    simp only [Db.accounts, Accounts.setBalance, Accounts.confirm]
    rw [row_modify, row_modify_of_ne (by decide)]
  · funext key
    simp only [Db.accounts, Accounts.setBalance, Accounts.confirm]
    rw [row_modify_of_ne (by decide), row_modify]
    by_cases same : key = id
    · subst same
      simp [old, found, WalletTransactionRow.confirm]
    · simp [same]
  · have replaced := total_modify found
      (fun entry => { entry with status := .confirmed })
      fun entry => ({entry} : Multiset WalletTransactionRow)
    simp only [Db.accounts, Accounts.setBalance, Accounts.confirm, Db.ledger]
    rw [total_modify_of_ne (by decide)]
    exact (tsub_eq_of_eq_add replaced.symm).symm

end Knowledge

/-- The requests have been made. -/
def Requested (requests : Nat) (db : Db) : Prop :=
  requests ≤ db.nextId .walletTransactions

theorem Requested.of_frame {requests : Nat} {held : List RowKey}
    {before after : Db} (frame : dbView.Frame held before after)
    (requested : Requested requests before) : Requested requests after :=
  Nat.le_trans requested (frame.grown .walletTransactions)

section Rules

variable {requests : Nat} {effect : Accounts → Accounts × Outcome}
variable {held : List RowKey} {state : Db} {pending : Db → Db}
variable {next : Program Outcome}

/-- The obligation of a call on the commission wallet. -/
abbrev AtomicCall (requests : Nat) (effect : Accounts → Accounts × Outcome)
    (program : Program Outcome) (pending : Option (Db → Db))
    (held : List RowKey) (state : Db) : Prop :=
  program.Atomic dbView (Requested requests) (Db.accounts requests) effect
    pending held state

theorem atomic_update {name : TableName} {id : Nat}
    {change : RowOf name → RowOf name}
    (atomic : ∀ now, dbView.Rely held state now → Requested requests now →
      AtomicCall requests effect next
        (some fun later => (pending later).modify name id change)
        (.row name id :: held) now) :
    AtomicCall requests effect (updateRow name id change next) (some pending)
      held state :=
  fun now relies holds => ⟨.refl now, atomic now relies holds⟩

/-- An insertion that the constraints allow. -/
theorem atomic_insert {name : TableName} {allowed : Db → Bool}
    {new : RowOf name} {inserted : Option Nat → Program Outcome}
    (accepted : ∀ now, dbView.Rely held state now → Requested requests now →
      allowed (pending now) = true ∧
      AtomicCall requests effect
        (inserted (some ((pending now).nextId name)))
        (some fun later =>
          (pending later).put name ((pending now).nextId name) new)
        (.row name ((pending now).nextId name) :: held) (now.reserve name)) :
    AtomicCall requests effect (insertRow name [] allowed new inserted)
      (some pending) held state := by
  intro now relies holds
  obtain ⟨isAllowed, rest⟩ := accepted now relies holds
  simp only [isAllowed, if_true]
  exact ⟨quiet_reserve now, rest⟩

/-- The two writes of a deduction or a refund, with the reseller locked. -/
theorem atomic_recordEntry {resellerId : Nat} {newBalance : Rat}
    {entry : WalletTransactionRow} {reseller : ResellerRow}
    (own : entry.resellerId = resellerId)
    (found : state.row .resellers resellerId = some reseller)
    (resellerHeld : .row .resellers resellerId ∈ held)
    (takes : ∀ accounts, accounts.reseller resellerId = some reseller →
      effect accounts =
        ((accounts.setBalance resellerId (storeDecimal newBalance)).enter entry,
          .ok .nothing)) :
    AtomicCall requests effect
      (WalletService.recordEntry resellerId newBalance entry
        (closeTransaction (ServiceCall.finish fun _ => .nothing)))
      (some id) held state := by
  refine atomic_update fun first firstKept _ =>
    atomic_insert fun now kept holds => ?_
  have foundNow : now.row .resellers resellerId = some reseller := by
    rw [← rely_row kept (by simp), ← rely_row firstKept resellerHeld]
    exact found
  constructor
  · simp [own, foundNow]
  refine ⟨.ok .nothing, rfl, fun later relies _ => ?_⟩
  have reserved : later.Reserved .walletTransactions
      (now.nextId .walletTransactions) :=
    rely_reserved relies (by simp) (reserved_reserve now _)
  have foundLater : later.row .resellers resellerId = some reseller := by
    rw [← rely_row relies (by simp), row_reserve]
    exact foundNow
  constructor
  · exact WalletService.frame_withLedgerEntry (.refl later) (by simp) (by simp)
  · rw [takes _ foundLater, id_eq, nextId_modify]
    exact congrArg (·, _) (accounts_withLedgerEntry reserved holds).symm

end Rules

section Calls

variable {requests : Nat} {state : Db}

theorem atomic_deductCommission (resellerId : Nat) (amount : Rat)
    (orderCode : String) :
    AtomicCall requests
      (ServiceCall.effect (.deductCommission resellerId amount orderCode))
      (ServiceCall.program (.deductCommission resellerId amount orderCode))
      none [] state := by
  refine Program.Atomic.begin <|
    Program.Atomic.selectForUpdate fun now _ _ => ?_
  rw [id_eq]
  cases found : now.row .resellers resellerId with
  | none =>
      refine ⟨_, rfl, fun later relies _ => ?_⟩
      have foundLater := (rely_row relies (by simp)).symm.trans found
      simp only [ServiceCall.effect, Db.accounts, foundLater]
      rfl
  | some reseller =>
      dsimp only
      split_ifs with exceeds
      · refine ⟨_, rfl, fun later relies _ => ?_⟩
        have foundLater := (rely_row relies (by simp)).symm.trans found
        simp only [ServiceCall.effect, Db.accounts, foundLater, exceeds,
          if_true]
        rfl
      · refine atomic_recordEntry rfl found (by simp) fun accounts known => ?_
        simp only [ServiceCall.effect, known, exceeds, if_false]

theorem atomic_refundCommission (resellerId : Nat) (amount : Rat)
    (orderCode : String) :
    AtomicCall requests
      (ServiceCall.effect (.refundCommission resellerId amount orderCode))
      (ServiceCall.program (.refundCommission resellerId amount orderCode))
      none [] state := by
  refine Program.Atomic.begin <|
    Program.Atomic.selectForUpdate fun now _ _ => ?_
  rw [id_eq]
  cases found : now.row .resellers resellerId with
  | none =>
      refine ⟨_, rfl, fun later relies _ => ?_⟩
      have foundLater := (rely_row relies (by simp)).symm.trans found
      simp only [ServiceCall.effect, Db.accounts, foundLater]
      rfl
  | some reseller =>
      refine atomic_recordEntry rfl found (by simp) fun accounts known => ?_
      simp only [ServiceCall.effect, known]

theorem atomic_confirmTopup {transactionId : Nat}
    (old : transactionId < requests) :
    AtomicCall requests (ServiceCall.effect (.confirmTopup transactionId))
      (ServiceCall.program (.confirmTopup transactionId)) none [] state := by
  refine Program.Atomic.begin <|
    Program.Atomic.selectForUpdate fun first _ _ => ?_
  rw [id_eq]
  cases found : first.row .walletTransactions transactionId with
  | none =>
      refine ⟨_, rfl, fun later relies _ => ?_⟩
      have foundLater := (rely_row relies (by simp)).symm.trans found
      simp only [ServiceCall.effect, Db.accounts, old, if_true, foundLater]
      rfl
  | some entry =>
      dsimp only
      split_ifs with processed
      · refine ⟨_, rfl, fun later relies _ => ?_⟩
        have foundLater := (rely_row relies (by simp)).symm.trans found
        simp only [ServiceCall.effect, Db.accounts, old, if_true, foundLater,
          if_pos processed]
        rfl
      · refine atomic_update fun second firstKept _ =>
          Program.Atomic.selectForUpdate fun now secondKept _ => ?_
        have foundNow : now.row .walletTransactions transactionId =
            some entry := by
          rw [← rely_row secondKept (by simp), ← rely_row firstKept (by simp)]
          exact found
        simp only [id_eq, ne_eq, reduceCtorEq, not_false_eq_true,
          row_modify_of_ne]
        cases credited : now.row .resellers entry.resellerId with
        | none =>
            refine ⟨_, rfl, fun later relies _ => ?_⟩
            have foundLater := (rely_row relies (by simp)).symm.trans foundNow
            have creditedLater :=
              (rely_row relies (by simp)).symm.trans credited
            simp only [ServiceCall.effect, Db.accounts, old, if_true,
              foundLater, if_neg processed, creditedLater]
            rfl
        | some reseller =>
            refine atomic_update fun third thirdKept _ =>
              ⟨.ok .nothing, rfl, fun later relies _ => ⟨?_, ?_⟩⟩
            · exact frame_modify (frame_modify (.refl later) (by simp) _)
                (by simp) _
            · have foundLater : later.row .walletTransactions transactionId =
                  some entry := by
                rw [← rely_row relies (by simp), ← rely_row thirdKept (by simp)]
                exact foundNow
              have creditedLater : later.row .resellers entry.resellerId =
                  some reseller := by
                rw [← rely_row relies (by simp), ← rely_row thirdKept (by simp)]
                exact credited
              beta_reduce
              rw [accounts_confirmed old foundLater]
              simp only [ServiceCall.effect, Db.accounts, old, if_true,
                foundLater, if_neg processed, creditedLater]

theorem atomic_program {call : ServiceCall}
    (operation : call.IsWalletTransaction requests) :
    AtomicCall requests call.effect call.program none [] state := by
  cases call with
  | deductCommission => exact atomic_deductCommission _ _ _
  | refundCommission => exact atomic_refundCommission _ _ _
  | confirmTopup => exact atomic_confirmTopup operation
  | _ => exact operation.elim

end Calls

section Effects

variable {call : ServiceCall} {accounts : Accounts} {id : Nat}

/-- No effect adds or removes a reseller. -/
theorem isSome_reseller_effect (resellerId : Nat) :
    ((call.effect accounts).1.reseller resellerId).isSome =
      (accounts.reseller resellerId).isSome := by
  have setBalance : ∀ (accounts : Accounts) (target : Nat) (balance : Cents),
      ((accounts.setBalance target balance).reseller resellerId).isSome =
        (accounts.reseller resellerId).isSome := by
    intro accounts target balance
    simp only [Accounts.setBalance]
    split_ifs <;> simp
  cases call with
  | deductCommission target amount orderCode =>
      simp only [ServiceCall.effect]
      split
      · rfl
      · split_ifs
        · rfl
        · exact setBalance _ _ _
  | refundCommission target amount orderCode =>
      simp only [ServiceCall.effect]
      split
      · rfl
      · exact setBalance _ _ _
  | confirmTopup transactionId =>
      simp only [ServiceCall.effect]
      split
      · rfl
      · split_ifs
        · rfl
        · split
          · rfl
          · exact setBalance _ _ _
  | _ => rfl

/-- Only its confirmation changes a request. -/
theorem request_effect_of_ne (other : call ≠ .confirmTopup id) :
    (call.effect accounts).1.request id = accounts.request id := by
  cases call with
  | deductCommission target amount orderCode =>
      simp only [ServiceCall.effect]
      split
      · rfl
      · split_ifs <;> rfl
  | refundCommission target amount orderCode =>
      simp only [ServiceCall.effect]
      split <;> rfl
  | confirmTopup transactionId =>
      have different : id ≠ transactionId := by
        rintro rfl
        exact other rfl
      simp only [ServiceCall.effect]
      split
      · rfl
      · split_ifs
        · rfl
        · split
          · rfl
          · simp [Accounts.setBalance, Accounts.confirm, different]
  | _ => rfl

variable {entry : WalletTransactionRow}

/-- The first confirmation of a request succeeds. -/
theorem effect_confirmTopup_pending (found : accounts.request id = some entry)
    (pending : entry.status = .pending)
    (known : (accounts.reseller entry.resellerId).isSome) :
    ((ServiceCall.confirmTopup id).effect accounts).1.request id =
        some entry.confirm ∧
      ((ServiceCall.confirmTopup id).effect accounts).2 = .ok .nothing := by
  obtain ⟨reseller, resellerFound⟩ := Option.isSome_iff_exists.mp known
  simp [ServiceCall.effect, found, pending, resellerFound,
    Accounts.setBalance, Accounts.confirm]

/-- Every later one is refused. -/
theorem effect_confirmTopup_confirmed
    (found : accounts.request id = some entry.confirm) :
    (ServiceCall.confirmTopup id).effect accounts =
      (accounts, .error alreadyProcessed) := by
  simp [ServiceCall.effect, found, WalletTransactionRow.confirm]

end Effects

section Once

variable {Caller : Type} (calls : Caller → ServiceCall) {id : Nat}
variable {entry : WalletTransactionRow} {accounts : Accounts}

/-- One of the calls has confirmed the request, and all others that tried have
been refused. -/
def ConfirmedOnce (id : Nat) (ended : Caller → Outcome → Prop) : Prop :=
  ∃ first, calls first = .confirmTopup id ∧ ended first (.ok .nothing) ∧
    ∀ other outcome, other ≠ first → calls other = .confirmTopup id →
      ended other outcome → outcome = .error alreadyProcessed

/-- A pending request is open until the first call confirms it. -/
theorem confirmedOnce_inTurn (found : accounts.request id = some entry)
    (pending : entry.status = .pending)
    (known : (accounts.reseller entry.resellerId).isSome)
    (order : List Caller) :
    let reached := inTurn (fun caller => (calls caller).effect) order accounts
    (reached.1.reseller entry.resellerId).isSome ∧
      ((∀ caller ∈ order, calls caller ≠ .confirmTopup id) ∧
          reached.1.request id = some entry ∨
        ConfirmedOnce calls id (fun caller outcome =>
            (caller, outcome) ∈ reached.2) ∧
          reached.1.request id = some entry.confirm) := by
  induction order using List.reverseRecOn with
  | nil => exact ⟨known, .inl ⟨by simp, found⟩⟩
  | append_singleton order caller ih =>
      obtain ⟨stillKnown, reached⟩ := ih
      simp only [inTurn_concat]
      refine ⟨by rw [isSome_reseller_effect]; exact stillKnown, ?_⟩
      by_cases confirms : calls caller = .confirmTopup id
      · rcases reached with ⟨untouched, isOpen⟩ | ⟨once, closed⟩
        · obtain ⟨confirmed, succeeded⟩ :=
            effect_confirmTopup_pending isOpen pending stillKnown
          rw [← confirms] at confirmed succeeded
          refine .inr ⟨⟨caller, confirms, by simp [succeeded], ?_⟩, confirmed⟩
          intro other outcome different alsoConfirms member
          rcases List.mem_append.mp member with earlier | last
          · exact absurd alsoConfirms
              (untouched other (mem_of_mem_inTurn earlier))
          · cases List.mem_singleton.mp last
            exact absurd rfl different
        · have refused := effect_confirmTopup_confirmed closed
          rw [← confirms] at refused
          obtain ⟨first, firstConfirms, succeeded, others⟩ := once
          rw [refused]
          refine .inr ⟨⟨first, firstConfirms, by simp [succeeded], ?_⟩, closed⟩
          intro other outcome different alsoConfirms member
          rcases List.mem_append.mp member with earlier | last
          · exact others other outcome different alsoConfirms earlier
          · cases List.mem_singleton.mp last
            rfl
      · rw [request_effect_of_ne confirms]
        rcases reached with ⟨untouched, isOpen⟩ | ⟨once, closed⟩
        · refine .inl ⟨?_, isOpen⟩
          intro other member
          rcases List.mem_append.mp member with earlier | last
          · exact untouched other earlier
          · cases List.mem_singleton.mp last
            exact confirms
        · obtain ⟨first, firstConfirms, succeeded, others⟩ := once
          refine .inr ⟨⟨first, firstConfirms, by simp [succeeded], ?_⟩, closed⟩
          intro other outcome different alsoConfirms member
          rcases List.mem_append.mp member with earlier | last
          · exact others other outcome different alsoConfirms earlier
          · cases List.mem_singleton.mp last
            exact absurd alsoConfirms confirms

end Once

section Runs

variable {Caller : Type} [DecidableEq Caller]

/-- The calls one after another, each alone. -/
abbrev runInTurn (calls : Caller → ServiceCall) (order : List Caller)
    (db : Db) : Db × List (Caller × Option Outcome) :=
  aloneInTurn (fun caller => (calls caller).program) order db

/-- The two databases have the same resellers, the same rows for the requests
made before, and the same ledger rows up to the ids of the new ones. -/
structure SameAccounts (requests : Nat) (first second : Db) : Prop where
  resellers : ∀ id, first.row .resellers id = second.row .resellers id
  requests : ∀ id < requests,
    first.row .walletTransactions id = second.row .walletTransactions id
  ledger : first.ledger = second.ledger

theorem sameAccounts_of_eq {requests : Nat} {first second : Db}
    (same : first.accounts requests = second.accounts requests) :
    SameAccounts requests first second where
  resellers id := congrFun (congrArg Accounts.reseller same) id
  requests id old := by
    have sameRequest := congrFun (congrArg Accounts.request same) id
    simpa [Db.accounts, old] using sameRequest
  ledger := congrArg Accounts.ledger same

end Runs

def pendingRequest : WalletTransactionRow :=
  WalletService.topupEntry 1 50 .card none

/-- A reseller with a pending top-up. -/
def requestDb : Db :=
  .filled fun
    | .resellers => [shopReseller]
    | .walletTransactions => [pendingRequest]
    | _ => []

/-- Two confirmations of the top-up and a deduction. -/
def racingCalls : Fin 3 → ServiceCall
  | 0 | 1 => .confirmTopup 1
  | 2 => .deductCommission 1 3 "AR-1"

/-- The deduction holds the reseller while the first confirmation waits for
it, and the second confirmation waits for the first. -/
def racingEvents : List (Event (Fin 3)) :=
  [.advance 2, .advance 2, .advance 0, .advance 0, .advance 0, .advance 1,
    .advance 1, .advance 0] ++ List.replicate 3 (.advance 2) ++
      List.replicate 3 (.advance 0) ++ List.replicate 2 (.advance 1)

end Baste
