import Baste.PendingCap
import Baste.ReceiptCharges
import Mathlib.Tactic.FinCases

/-!
# The test mode

A test order is exempted from the commission when its receipt arrives, by a
counter that only moves when a test order has been activated.  An activation
writes the status first and the counter in another statement, looks at no
status, and any number of receipts may have been exempted by then.
-/

namespace Baste

open Database Transaction

/-- The order is a test order of the reseller that has been activated. -/
def isActivatedTest (resellerId : Nat) (order : OrderRow) : Bool :=
  order.resellerId = resellerId && order.status = .activated &&
    order.isTestOrder

def activatedTestOrders (db : Db) (resellerId : Nat) : Nat :=
  db.count .orders (isActivatedTest resellerId)

/-- The order is an order of the reseller that has been activated, and no
commission was deducted for it. -/
def ActivatedFree (resellerId : Nat) (db : Db) (id : Nat) : Prop :=
  ∃ order, db.row .orders id = some order ∧ order.resellerId = resellerId ∧
    order.status = .activated ∧
    deductionsFor db resellerId order.orderCode = 0

/-- What the counter of the reseller says. -/
def testOrdersUsed (db : Db) (resellerId : Nat) : Int :=
  ((db.row .resellers resellerId).map (·.testModeOrdersUsed)).getD 0

/-- The order that a call decides on. -/
def ServiceCall.decidedOrder : ServiceCall → Option Nat
  | .submitReceipt _ orderId _ | .confirmOrder orderId
  | .rejectOrder orderId | .activateOrder orderId => some orderId
  | _ => none

/-- The order that a call activates. -/
def ServiceCall.activatedOrder : ServiceCall → Option Nat
  | .activateOrder orderId => some orderId
  | _ => none

/-- A receipt, a decision or an activation on an order of the reseller. -/
def ServiceCall.DecidesFor (resellerId : Nat) (db : Db) (call : ServiceCall) :
    Prop :=
  ∃ orderId, call.decidedOrder = some orderId ∧
    ∀ order, db.row .orders orderId = some order →
      order.resellerId = resellerId

/-- An activated order stays as it is. -/
def StaysActivated (before after : Db) : Prop :=
  ∀ id order, before.row .orders id = some order →
    order.status = .activated → after.row .orders id = some order

/-- A receipt or a decision: it gives its order another status than the one of
an activation, and no deduction is lost. -/
structure Decided (orderId : Nat) (before after : Db) : Prop where
  others : ∀ id, id ≠ orderId → after.row .orders id = before.row .orders id
  decided : after.row .orders orderId = before.row .orders orderId ∨
    ∀ order, after.row .orders orderId = some order →
      order.status ≠ .activated
  counters : ∀ id,
    (after.row .resellers id).map (·.testModeOrdersUsed) =
      (before.row .resellers id).map (·.testModeOrdersUsed)
  ledger : ∀ resellerId orderCode,
    deductionsFor before resellerId orderCode ≤
      deductionsFor after resellerId orderCode

/-- What an activation has done: nothing yet, the status, or the status and the
counter.  A call that has returned has counted its order if it is a test
order. -/
inductive ActivationHistory (start : Db) (orderId : Nat) (state : Db) :
    List (Recorded Db RowKey) → Option Outcome → Prop
  | notYet : ActivationHistory start orderId state [] none
  | missing (change : Recorded Db RowKey) (result : Option Outcome)
      (absent : start.row .orders orderId = none)
      (stored : change.after =
        change.before.modify .orders orderId (·.withStatus .activated)) :
      ActivationHistory start orderId state [change] result
  | activated (change : Recorded Db RowKey) (order : OrderRow)
      (result : Option Outcome)
      (stored : change.after =
        change.before.modify .orders orderId (·.withStatus .activated))
      (written : change.rows = [.row .orders orderId])
      (found : state.row .orders orderId = some order)
      (isActivated : order.status = .activated)
      (complete : result.isSome → order.isTestOrder = false) :
      ActivationHistory start orderId state [change] result
  | counted (change counting : Recorded Db RowKey) (order : OrderRow)
      (result : Option Outcome)
      (found : state.row .orders orderId = some order)
      (isActivated : order.status = .activated)
      (isTest : order.isTestOrder = true)
      (stored : counting.after = counting.before.modify .resellers
        order.resellerId (·.withTestOrderUsed)) :
      ActivationHistory start orderId state [change, counting] result

section Calls

variable {start : Db} {orderId : Nat}

theorem StaysActivated.trans {before mid after : Db}
    (first : StaysActivated before mid) (second : StaysActivated mid after) :
    StaysActivated before after :=
  fun id order found isActivated =>
    second id order (first id order found isActivated) isActivated

/-- Orders keep their terms, and the activated ones are not written again. -/
def activationEnvironment (start : Db) : Environment dbView where
  invariant := KeepsOrders start
  stable := StaysActivated
  invariant_of_quiet kept quiet :=
    kept.of_sameOrders fun id => (quiet_row quiet .orders id).symm
  stable_of_quiet quiet id order found _ := by
    rw [← quiet_row quiet]
    exact found
  stable_trans := StaysActivated.trans

theorem lasting_activationHistory :
    (activationEnvironment start).Lasting (ActivationHistory start orderId) := by
  intro before after past result stable history
  cases history with
  | notYet => exact .notYet
  | missing change result absent stored =>
      exact .missing change result absent stored
  | activated change order result stored written found isActivated complete =>
      exact .activated change order result stored written
        (stable orderId order found isActivated) isActivated complete
  | counted change counting order result found isActivated isTest stored =>
      exact .counted change counting order result
        (stable orderId order found isActivated) isActivated isTest stored

/-- Whatever runs in between, an activation has one of these histories. -/
theorem leads_activateOrder {state : Db} :
    (ServiceCall.activateOrder orderId).program.Leads
      (activationEnvironment start) (ActivationHistory start orderId) none []
      state [] := by
  refine Program.leads_select .notYet fun first firstRelies => ?_
  refine leads_update .notYet fun now relies stays =>
    ⟨relies.holds.modify fun _ => rfl, ?_⟩
  cases seen : first.row .orders orderId with
  | none =>
      have absent : start.row .orders orderId = none := by
        have same := firstRelies.holds.order_row orderId
        rw [seen] at same
        simpa using same.symm
      exact .missing _ _ absent rfl
  | some order =>
      obtain ⟨current, found, sameTerms⟩ :=
        relies.holds.seen_order firstRelies.holds seen
      have owner : current.resellerId = order.resellerId :=
        (congrArg OrderRow.resellerId sameTerms :)
      have stored : (now.modify .orders orderId
          (·.withStatus .activated)).row .orders orderId =
            some (current.withStatus .activated) := by
        rw [row_modify_self, found]
        rfl
      have soFar : ∀ state, state.row .orders orderId =
          some (current.withStatus .activated) →
          ActivationHistory start orderId state ([] ++ [⟨now, now.modify .orders
            orderId (·.withStatus .activated), [.row .orders orderId]⟩])
            none :=
        fun state row => .activated _ _ _ rfl rfl row rfl (by simp)
      refine Program.leads_select (soFar _ stored) fun third thirdRelies => ?_
      have thirdRow := thirdRelies.stable orderId _ stored rfl
      rw [thirdRow]
      dsimp only
      split_ifs with isTest
      · refine leads_update (soFar _ thirdRow) fun fourth fourthRelies _ => ?_
        have fourthRow := fourthRelies.stable orderId _ thirdRow rfl
        have countedRow : (fourth.modify .resellers order.resellerId
            (·.withTestOrderUsed)).row .orders orderId =
              some (current.withStatus .activated) := by
          rw [row_modify_of_ne (by decide)]
          exact fourthRow
        have counted : ∀ change state result, state.row .orders orderId =
            some (current.withStatus .activated) →
            ActivationHistory start orderId state
              ([] ++ [change] ++ [⟨fourth, fourth.modify .resellers order.resellerId
                (·.withTestOrderUsed), [.row .resellers order.resellerId]⟩])
              result :=
          fun change state result row =>
            .counted change _ _ result row rfl isTest (owner ▸ rfl)
        refine ⟨fourthRelies.holds.of_sameOrders fun id =>
          row_modify_of_ne (by decide), ?_⟩
        exact Program.leads_select (counted _ _ _ countedRow) fun fifth relies =>
          counted _ _ _ (relies.stable orderId _ countedRow rfl)
      · refine Program.leads_select (soFar _ thirdRow) fun fourth relies => ?_
        exact .activated _ _ _ rfl rfl
          (relies.stable orderId _ thirdRow rfl) rfl
          fun _ => by simpa using isTest

theorem OrderRow.withStatus_same {order : OrderRow} {status : OrderStatus}
    (same : order.status = status) : order.withStatus status = order := by
  subst same
  rfl

theorem deductionsFor_congr {before after : Db}
    (same : ∀ id, after.row .walletTransactions id =
      before.row .walletTransactions id) (resellerId : Nat)
    (orderCode : String) :
    deductionsFor after resellerId orderCode =
      deductionsFor before resellerId orderCode :=
  total_congr _ same

theorem decided_of_quiet {before after : Db}
    (quiet : dbView.Quiet before after) : Decided orderId before after where
  others id _ := (quiet_row quiet .orders id).symm
  decided := .inl (quiet_row quiet .orders orderId).symm
  counters id := by rw [quiet_row quiet]
  ledger resellerId orderCode :=
    (deductionsFor_congr (fun id => quiet_row quiet _ id) resellerId
      orderCode).le

theorem decided_modify {db : Db} {change : OrderRow → OrderRow}
    (other : ∀ order, (change order).status ≠ .activated) :
    Decided orderId db (db.modify .orders orderId change) where
  others id different := row_modify_ne different
  decided := by
    refine .inr fun order found => ?_
    rw [row_modify_self] at found
    obtain ⟨old, -, rfl⟩ := Option.map_eq_some_iff.mp found
    exact other old
  counters id := by rw [row_modify_of_ne (by decide)]
  ledger resellerId orderCode := deductionsFor_modify_orders.ge

theorem Decided.of_deducted {db after : Db} {resellerId id : Nat}
    {balance : Cents} {amount : Rat} {orderCode : String}
    (reserved : db.Reserved .walletTransactions id)
    (decided : Decided orderId
      (WalletService.deducted balance resellerId amount orderCode id db)
      after) : Decided orderId db after where
  others key different := by
    rw [decided.others key different, WalletService.deducted,
      row_withLedgerEntry_of_ne (by decide) (by decide)]
  decided := by
    have same : (WalletService.deducted balance resellerId amount orderCode id
        db).row .orders orderId = db.row .orders orderId :=
      row_withLedgerEntry_of_ne (by decide) (by decide)
    rw [← same]
    exact decided.decided
  counters key := by
    rw [decided.counters key, WalletService.deducted,
      row_resellers_withLedgerEntry]
    split_ifs
    · cases db.row .resellers key <;> rfl
    · rfl
  ledger other code := by
    refine le_trans ?_ (decided.ledger other code)
    rw [deductionsFor, deductionsFor, Database.count, Database.count,
      WalletService.deducted, total_withLedgerEntry reserved]
    exact Nat.le_add_right _ _

/-- Receipts and decisions do what `Decided` says. -/
theorem follows_decided {call : ServiceCall}
    (decides : call.decidedOrder = some orderId)
    (noActivation : ∀ id, call ≠ .activateOrder id) :
    Program.Follows (activationEnvironment start) (Decided orderId)
      (call.guarantee (KeepsOrders start)) where
  quiet _ _ _ := decided_of_quiet
  writes before after kept writes := by
    cases call with
    | submitReceipt => exact writes.elim
    | confirmOrder id =>
        cases decides
        cases writes
        exact ⟨KeepsOrders.modify kept fun _ => rfl,
          decided_modify fun _ => by simp [OrderRow.withStatus]⟩
    | rejectOrder id =>
        cases decides
        cases writes
        exact ⟨KeepsOrders.modify kept fun _ => rfl,
          decided_modify fun _ => by simp [OrderRow.withStatus]⟩
    | activateOrder id => exact absurd rfl (noActivation id)
    | _ => cases decides
  commits before after kept commits := by
    cases call with
    | submitReceipt own id receiptFileId =>
        cases decides
        cases commits with
        | testOrder =>
            exact ⟨KeepsOrders.modify kept fun _ => rfl,
              decided_modify fun _ => by simp [OrderRow.withReceipt]⟩
        | failed =>
            exact ⟨KeepsOrders.modify kept fun _ => rfl,
              decided_modify fun _ => by simp [OrderRow.withReceipt]⟩
        | charged order seen reseller id _ _ _ _ _ reserved =>
            have sameOrders : KeepsOrders start (WalletService.deducted
                reseller.walletCreditBalance order.resellerId
                (OrderService.commissionOf order seen) order.orderCode id
                before) :=
              KeepsOrders.of_sameOrders kept fun _ =>
                row_withLedgerEntry_of_ne (by decide) (by decide)
            exact ⟨sameOrders.modify fun _ => rfl, Decided.of_deducted reserved
              (decided_modify fun _ => by simp [OrderRow.withReceipt])⟩
    | confirmOrder => exact commits.elim
    | rejectOrder => exact commits.elim
    | activateOrder id => exact absurd rfl (noActivation id)
    | _ => cases decides

/-- The last change of an activation is its status, or its counter. -/
theorem ActivationHistory.last {state : Db} {past : List (Recorded Db RowKey)}
    {new : Recorded Db RowKey} {result : Option Outcome}
    (history : ActivationHistory start orderId state (past ++ [new]) result) :
    (past = [] ∧
      new.after = new.before.modify .orders orderId (·.withStatus .activated) ∧
      (start.row .orders orderId = none ∨
        new.rows = [.row .orders orderId])) ∨
    ∃ change order, past = [change] ∧
      state.row .orders orderId = some order ∧
      order.isTestOrder = true ∧
      new.after = new.before.modify .resellers order.resellerId
        (·.withTestOrderUsed) := by
  generalize whole : past ++ [new] = changes at history
  cases history with
  | notYet => simp at whole
  | missing change _ absent stored =>
      obtain ⟨none, same⟩ := List.append_inj' (whole.trans
        (List.nil_append [change]).symm) rfl
      cases same
      exact .inl ⟨none, stored, .inl absent⟩
  | activated change order _ stored written =>
      obtain ⟨none, same⟩ := List.append_inj' (whole.trans
        (List.nil_append [change]).symm) rfl
      cases same
      exact .inl ⟨none, stored, .inr written⟩
  | counted change counting order _ found isActivated isTest stored =>
      have split : past ++ [new] = [change] ++ [counting] := whole
      obtain ⟨one, same⟩ := List.append_inj' split rfl
      cases same
      exact .inr ⟨change, order, one, found, isTest, stored⟩

/-- While only the status is written, the order of an activation stays as it
is. -/
theorem ActivationHistory.row_eq {before after : Db}
    {change : Recorded Db RowKey} {result : Option Outcome}
    (history : ActivationHistory start orderId before [change] result)
    (keptBefore : KeepsOrders start before) (keptAfter : KeepsOrders start after)
    (stays : StaysActivated before after) :
    after.row .orders orderId = before.row .orders orderId := by
  cases history with
  | missing _ _ absent =>
      have noneBefore := keptBefore.order_row orderId
      have noneAfter := keptAfter.order_row orderId
      rw [absent] at noneBefore noneAfter
      rw [Option.map_eq_none_iff.mp noneBefore,
        Option.map_eq_none_iff.mp noneAfter]
  | activated _ order _ _ _ found isActivated =>
      rw [found, stays orderId order found isActivated]

end Calls

section Counts

variable {resellerId orderId : Nat} {before after db : Db}

theorem isActivatedTest_iff {order : OrderRow} :
    isActivatedTest resellerId order = true ↔ order.resellerId = resellerId ∧
      order.status = .activated ∧ order.isTestOrder = true := by
  simp [isActivatedTest, and_assoc]

/-- The count depends on the activated orders only. -/
theorem activatedTestOrders_congr (forward : StaysActivated before after)
    (back : StaysActivated after before) :
    activatedTestOrders after resellerId =
      activatedTestOrders before resellerId := by
  apply le_antisymm
  · exact count_le_count fun id order found passes =>
      ⟨order, back id order found (isActivatedTest_iff.mp passes).2.1, passes⟩
  · exact count_le_count fun id order found passes =>
      ⟨order, forward id order found (isActivatedTest_iff.mp passes).2.1,
        passes⟩

/-- An order that was not activated before is one more if it is a test order
of the reseller. -/
theorem activatedTestOrders_activate {order : OrderRow}
    (found : db.row .orders orderId = some order)
    (own : order.resellerId = resellerId)
    (notBefore : order.status ≠ .activated) :
    activatedTestOrders
        (db.modify .orders orderId (·.withStatus .activated)) resellerId =
      activatedTestOrders db resellerId +
        (if order.isTestOrder = true then 1 else 0) := by
  have changed : activatedTestOrders
      (db.modify .orders orderId (·.withStatus .activated)) resellerId +
        (if isActivatedTest resellerId order then 1 else 0) =
      activatedTestOrders db resellerId +
        (if isActivatedTest resellerId (order.withStatus .activated) then 1
          else 0) :=
    total_modify found (·.withStatus .activated) fun order =>
      if isActivatedTest resellerId order then 1 else 0
  have before : isActivatedTest resellerId order = false := by
    simp [isActivatedTest, notBefore]
  have after : isActivatedTest resellerId (order.withStatus .activated) =
      order.isTestOrder := by
    simp [isActivatedTest, OrderRow.withStatus, own]
  simpa [before, after] using changed

/-- The orders that were ever activated without commission are activated test
orders, and no more than the limit. -/
structure Exempted (resellerId : Nat) (limit : Int) (db : Db)
    (ever : Nat → Prop) : Prop where
  covers : ∀ id, ActivatedFree resellerId db id → ever id
  exempt : ∀ id, ever id → ∃ order, db.row .orders id = some order ∧
    isActivatedTest resellerId order = true
  capped : ∀ ids : Finset Nat, (∀ id ∈ ids, ever id) → (ids.card : Int) ≤ limit

theorem Exempted.of_stays {limit : Int} {ever : Nat → Prop}
    (exempted : Exempted resellerId limit before ever)
    (forward : StaysActivated before after)
    (back : StaysActivated after before)
    (ledger : ∀ orderCode, deductionsFor before resellerId orderCode ≤
      deductionsFor after resellerId orderCode) :
    Exempted resellerId limit after ever where
  covers id := by
    rintro ⟨order, found, own, isActivated, free⟩
    have freeBefore := ledger order.orderCode
    rw [free] at freeBefore
    exact exempted.covers id ⟨order, back id order found isActivated, own,
      isActivated, Nat.le_zero.mp freeBefore⟩
  exempt id isEver := by
    obtain ⟨order, found, passes⟩ := exempted.exempt id isEver
    exact ⟨order, forward id order found (isActivatedTest_iff.mp passes).2.1,
      passes⟩
  capped := exempted.capped

/-- An activation in turn keeps the number of exempted orders within the
limit. -/
theorem Exempted.activate {limit : Int} {ever : Nat → Prop} {order : OrderRow}
    (exempted : Exempted resellerId limit db ever)
    (found : db.row .orders orderId = some order)
    (own : order.resellerId = resellerId)
    (notBefore : order.status ≠ .activated)
    (inTurn : deductionsFor db resellerId order.orderCode = 0 →
      order.isTestOrder = true ∧ activatedTestOrders db resellerId < limit) :
    ∃ later : Nat → Prop, (∀ id, ever id → later id) ∧
      Exempted resellerId limit
        (db.modify .orders orderId (·.withStatus .activated)) later := by
  have written : (db.modify .orders orderId (·.withStatus .activated)).row
      .orders orderId = some (order.withStatus .activated) := by
    rw [row_modify_self, found]
    rfl
  -- The orders that were exempted before are other orders.
  have others : ∀ id, ever id → id ≠ orderId ∧ ∃ other,
      (db.modify .orders orderId (·.withStatus .activated)).row .orders id =
        some other ∧ isActivatedTest resellerId other = true := by
    intro id isEver
    obtain ⟨other, otherFound, passes⟩ := exempted.exempt id isEver
    have different : id ≠ orderId := by
      rintro rfl
      cases otherFound.symm.trans found
      exact notBefore (isActivatedTest_iff.mp passes).2.1
    refine ⟨different, other, ?_, passes⟩
    rw [row_modify_ne different]
    exact otherFound
  have covers : ∀ id, ActivatedFree resellerId
      (db.modify .orders orderId (·.withStatus .activated)) id →
        ever id ∨ id = orderId ∧
          deductionsFor db resellerId order.orderCode = 0 := by
    rintro id ⟨other, otherFound, otherOwn, isActivated, free⟩
    rw [deductionsFor_modify_orders] at free
    by_cases same : id = orderId
    · subst same
      cases otherFound.symm.trans written
      exact .inr ⟨rfl, free⟩
    · rw [row_modify_ne same] at otherFound
      exact .inl (exempted.covers id
        ⟨other, otherFound, otherOwn, isActivated, free⟩)
  by_cases free : deductionsFor db resellerId order.orderCode = 0
  · obtain ⟨isTest, hasPlace⟩ := inTurn free
    refine ⟨fun id => ever id ∨ id = orderId, fun id => .inl, ?_, ?_, ?_⟩
    · exact fun id now => (covers id now).imp_right And.left
    · rintro id (isEver | rfl)
      · exact (others id isEver).2
      · refine ⟨_, written, isActivatedTest_iff.mpr ⟨own, rfl, isTest⟩⟩
    · intro ids areEver
      have earlier : (ids.erase orderId).card ≤
          activatedTestOrders db resellerId := by
        refine card_le_count fun id member => ?_
        obtain ⟨different, isMember⟩ := Finset.mem_erase.mp member
        exact exempted.exempt id
          ((areEver id isMember).resolve_right different)
      have oneMore : ids.card - 1 ≤ (ids.erase orderId).card :=
        Finset.pred_card_le_card_erase
      omega
  · refine ⟨ever, fun _ isEver => isEver, ?_, ?_, exempted.capped⟩
    · exact fun id now => (covers id now).resolve_right fun same => free same.2
    · exact fun id isEver => (others id isEver).2

end Counts

section Runs

variable {Caller : Type} [DecidableEq Caller] {calls : Caller → ServiceCall}
variable {start : Db} {resellerId : Nat} {limit : Int}
variable {system : ServiceSystem Caller}
variable {past : Caller → List (Recorded Db RowKey)}

def writtenOrder : RowKey → Option Nat
  | .row .orders orderId => some orderId
  | _ => none

/-- The call may write the order: a receipt or a decision, if the order has
not been activated, and an activation, if the order is no test order that has
been activated, and either its commission has been deducted, or it is one of
the first test orders. -/
def WritesInTurn (resellerId : Nat) (limit : Int) (db : Db) (call : ServiceCall)
    (orderId : Nat) (order : OrderRow) : Prop :=
  if call.activatedOrder = some orderId then
    ¬ (order.status = .activated ∧ order.isTestOrder = true) ∧
      (deductionsFor db resellerId order.orderCode = 0 →
        order.isTestOrder = true ∧ activatedTestOrders db resellerId < limit)
  else order.status ≠ .activated

instance (resellerId : Nat) (limit : Int) (db : Db) (call : ServiceCall)
    (orderId : Nat) (order : OrderRow) :
    Decidable (WritesInTurn resellerId limit db call orderId order) := by
  unfold WritesInTurn
  infer_instance

/-- The event lets its call write only orders that it may write. -/
def ActivatesInTurn (resellerId : Nat) (limit : Int)
    (calls : Caller → ServiceCall) (system : ServiceSystem Caller)
    (event : Event Caller) : Prop :=
  ∀ key ∈ system.writtenNow event, ∀ orderId ∈ writtenOrder key,
    ∀ order ∈ system.state.row .orders orderId,
      WritesInTurn resellerId limit system.state (calls event.call) orderId
        order

instance (system : ServiceSystem Caller) (event : Event Caller) :
    Decidable (ActivatesInTurn resellerId limit calls system event) := by
  unfold ActivatesInTurn
  infer_instance

/-- The orders that were activated without commission in some state of the
run. -/
def EverActivatedFree (resellerId : Nat) (system : ServiceSystem Caller)
    (events : List (Event Caller)) (id : Nat) : Prop :=
  ∃ early late, events = early ++ late ∧
    ActivatedFree resellerId (StepRuns.final System.step system early).state id

/-- What is allowed of each call. -/
def decisionHistory (start : Db) :
    ServiceCall → Db → List (Recorded Db RowKey) → Option Outcome → Prop
  | .activateOrder orderId => ActivationHistory start orderId
  | .submitReceipt _ orderId _ | .confirmOrder orderId
  | .rejectOrder orderId =>
      fun _ past _ => Program.AllRelated (Decided orderId) past
  | _ => fun _ _ _ => False

/-- The call has written that a test order is activated, but not counted
it. -/
def Owes (calls : Caller → ServiceCall) (db : Db)
    (past : Caller → List (Recorded Db RowKey)) (caller : Caller) : Prop :=
  ∃ orderId order change, calls caller = .activateOrder orderId ∧
    past caller = [change] ∧ db.row .orders orderId = some order ∧
    order.isTestOrder = true

/-- The test orders of the reseller are counted, except those whose activation
owes the counter. -/
structure Accounted (start : Db) (calls : Caller → ServiceCall)
    (resellerId : Nat) (limit : Int) (system : ServiceSystem Caller)
    (past : Caller → List (Recorded Db RowKey)) (owing : Finset Caller)
    (ever : Nat → Prop) : Prop where
  sound : SoundCalls (KeepsOrders start) calls system
  led : System.Led (activationEnvironment start)
    (fun caller => decisionHistory start (calls caller)) system past
  owes : ∀ caller, caller ∈ owing ↔ Owes calls system.state past caller
  balance : testOrdersUsed system.state resellerId + owing.card =
    activatedTestOrders system.state resellerId
  exempted : Exempted resellerId limit system.state ever
  known : (system.state.row .resellers resellerId).isSome

/-- Accounts are kept, and no exempted order is forgotten. -/
def StaysAccounted (start : Db) (calls : Caller → ServiceCall)
    (resellerId : Nat) (limit : Int) (system : ServiceSystem Caller)
    (past : Caller → List (Recorded Db RowKey)) (ever : Nat → Prop) : Prop :=
  ∃ (owing : Finset Caller) (later : Nat → Prop),
    (∀ id, ever id → later id) ∧
    Accounted start calls resellerId limit system past owing later

omit [DecidableEq Caller] in
theorem preserved_keepsOrders
    (decides : ∀ caller, ∃ orderId,
      (calls caller).decidedOrder = some orderId) :
    PreservedBy (KeepsOrders start) calls where
  quiet _ _ := (activationEnvironment start).invariant_of_quiet
  writes caller before after kept writes := by
    obtain ⟨orderId, decided⟩ := decides caller
    by_cases activation : ∃ id, calls caller = .activateOrder id
    · obtain ⟨id, isActivation⟩ := activation
      rw [isActivation] at writes
      rcases writes with rfl | ⟨order, -, rfl⟩
      · exact kept.modify fun _ => rfl
      · exact kept.of_sameOrders fun _ => row_modify_of_ne (by decide)
    · exact ((follows_decided decided fun id is => activation ⟨id, is⟩).writes
        before after kept writes).1
  commits caller before after kept commits := by
    obtain ⟨orderId, decided⟩ := decides caller
    by_cases activation : ∃ id, calls caller = .activateOrder id
    · obtain ⟨id, isActivation⟩ := activation
      rw [isActivation] at commits
      exact commits.elim
    · exact ((follows_decided decided fun id is => activation ⟨id, is⟩).commits
        before after kept commits).1

theorem lasting_decisionHistory (call : ServiceCall) :
    (activationEnvironment start).Lasting (decisionHistory start call) := by
  cases call with
  | activateOrder => exact lasting_activationHistory
  | _ => exact fun _ allowed => allowed

theorem leads_decision {call : ServiceCall}
    (decides : ∃ orderId, call.decidedOrder = some orderId) :
    call.program.Leads (activationEnvironment start)
      (decisionHistory start call) none [] start [] := by
  have none : ∀ orderId, Program.AllRelated (Decided orderId)
      ([] : List (Recorded Db RowKey)) := by
    intro orderId change member
    cases member
  have safe := ServiceCall.safe_program (KeepsOrders start) call start
  cases call with
  | activateOrder => exact leads_activateOrder
  | submitReceipt _ orderId _ =>
      exact safe.leads (follows_decided rfl (by simp)) (none orderId)
  | confirmOrder orderId =>
      exact safe.leads (follows_decided rfl (by simp)) (none orderId)
  | rejectOrder orderId =>
      exact safe.leads (follows_decided rfl (by simp)) (none orderId)
  | _ => simp [ServiceCall.decidedOrder] at decides

/-- No step of a run in which all orders are written in turn changes an
activated order. -/
theorem staysActivated_step
    (decides : ∀ caller, ∃ orderId,
      (calls caller).decidedOrder = some orderId)
    (sound : SoundCalls (KeepsOrders start) calls system)
    (led : System.Led (activationEnvironment start)
      (fun caller => decisionHistory start (calls caller)) system past)
    {event : Event Caller}
    (inTurn : ActivatesInTurn resellerId limit calls system event) :
    StaysActivated system.state (system.step event).state := by
  by_cases activation : ∃ id, calls event.call = .activateOrder id
  · obtain ⟨id, isActivation⟩ := activation
    cases (sound.step (preserved_keepsOrders decides) event).2 with
    | quiet _ quiet =>
        exact (activationEnvironment start).stable_of_quiet quiet
    | written _ _ writes =>
        rw [isActivation] at writes
        intro key order found isActivated
        rcases writes with stored | ⟨seen, -, stored⟩
        · rw [stored, row_modify]
          split_ifs with same
          · subst same
            rw [found]
            exact congrArg some (OrderRow.withStatus_same isActivated)
          · exact found
        · rw [stored, row_modify_of_ne (by decide)]
          exact found
    | committed _ commits =>
        rw [isActivation] at commits
        exact commits.elim
  · intro id order found isActivated
    by_cases member : .row .orders id ∈ system.writtenNow event
    · have mayWrite := inTurn _ member id rfl order found
      rw [WritesInTurn, if_neg] at mayWrite
      · exact absurd isActivated mayWrite
      · intro same
        refine activation ⟨id, ?_⟩
        cases isCall : calls event.call <;>
          simp_all [ServiceCall.activatedOrder]
    · rw [← found]
      exact ((led.frame event).cell_eq (.row .orders id) member).symm

omit [DecidableEq Caller] in
/-- What a call owes stays the same while the call does nothing and activated
orders stay as they are. -/
theorem owes_congr {before after : Db}
    {later : Caller → List (Recorded Db RowKey)} {caller : Caller}
    {result : Option Outcome}
    (history : decisionHistory start (calls caller) before (past caller) result)
    (keptBefore : KeepsOrders start before) (keptAfter : KeepsOrders start after)
    (stays : StaysActivated before after)
    (samePast : later caller = past caller) :
    Owes calls after later caller ↔ Owes calls before past caller := by
  have sameRow : ∀ orderId change, calls caller = .activateOrder orderId →
      past caller = [change] →
      after.row .orders orderId = before.row .orders orderId := by
    intro orderId change isActivation onlyStatus
    rw [isActivation, onlyStatus] at history
    exact ActivationHistory.row_eq history keptBefore keptAfter stays
  rw [Owes, Owes, samePast]
  constructor
  · rintro ⟨orderId, order, change, isActivation, onlyStatus, found, isTest⟩
    rw [sameRow orderId change isActivation onlyStatus] at found
    exact ⟨orderId, order, change, isActivation, onlyStatus, found, isTest⟩
  · rintro ⟨orderId, order, change, isActivation, onlyStatus, found, isTest⟩
    rw [← sameRow orderId change isActivation onlyStatus] at found
    exact ⟨orderId, order, change, isActivation, onlyStatus, found, isTest⟩

theorem testOrdersUsed_congr {before after : Db}
    (same : (after.row .resellers resellerId).map (·.testModeOrdersUsed) =
      (before.row .resellers resellerId).map (·.testModeOrdersUsed)) :
    testOrdersUsed after resellerId = testOrdersUsed before resellerId := by
  rw [testOrdersUsed, testOrdersUsed, same]

/-- A step by which no order becomes activated, no counter moves and the
moving call owes as much as before. -/
theorem Accounted.of_same {owing : Finset Caller} {ever : Nat → Prop}
    (accounted : Accounted start calls resellerId limit system past owing ever)
    {event : Event Caller}
    (soundAfter : SoundCalls (KeepsOrders start) calls (system.step event))
    (ledAfter : System.Led (activationEnvironment start)
      (fun caller => decisionHistory start (calls caller)) (system.step event)
      (system.extended past event))
    (forward : StaysActivated system.state (system.step event).state)
    (back : StaysActivated (system.step event).state system.state)
    (ledger : ∀ orderCode,
      deductionsFor system.state resellerId orderCode ≤
        deductionsFor (system.step event).state resellerId orderCode)
    (counters : ((system.step event).state.row .resellers resellerId).map
        (·.testModeOrdersUsed) =
      (system.state.row .resellers resellerId).map (·.testModeOrdersUsed))
    (sameOwes : Owes calls (system.step event).state
        (system.extended past event) event.call ↔
      Owes calls system.state past event.call) :
    Accounted start calls resellerId limit (system.step event)
      (system.extended past event) owing ever where
  sound := soundAfter
  led := ledAfter
  owes caller := by
    rw [accounted.owes]
    by_cases moving : caller = event.call
    · subst moving
      exact sameOwes.symm
    · refine (owes_congr (accounted.led.isAllowed caller) accounted.led.holds
        ledAfter.holds forward ?_).symm
      exact System.extended_of_ne moving
  balance := by
    rw [testOrdersUsed_congr counters, activatedTestOrders_congr forward back]
    exact accounted.balance
  exempted := accounted.exempted.of_stays forward back ledger
  known := by
    have same := congrArg Option.isSome counters
    rw [Option.isSome_map, Option.isSome_map] at same
    rw [same]
    exact accounted.known

/-- An activation writes the status of an order that was not activated. -/
theorem Accounted.activate {owing : Finset Caller} {ever : Nat → Prop}
    (accounted : Accounted start calls resellerId limit system past owing ever)
    {event : Event Caller} {orderId : Nat} {order : OrderRow}
    {change : Recorded Db RowKey}
    (soundAfter : SoundCalls (KeepsOrders start) calls (system.step event))
    (ledAfter : System.Led (activationEnvironment start)
      (fun caller => decisionHistory start (calls caller)) (system.step event)
      (system.extended past event))
    (isActivation : calls event.call = .activateOrder orderId)
    (noChange : past event.call = [])
    (oneChange : system.extended past event event.call = [change])
    (stored : (system.step event).state =
      system.state.modify .orders orderId (·.withStatus .activated))
    (forward : StaysActivated system.state (system.step event).state)
    (found : system.state.row .orders orderId = some order)
    (own : order.resellerId = resellerId)
    (notBefore : order.status ≠ .activated)
    (inTurn : deductionsFor system.state resellerId order.orderCode = 0 →
      order.isTestOrder = true ∧
        activatedTestOrders system.state resellerId < limit) :
    StaysAccounted start calls resellerId limit (system.step event)
      (system.extended past event) ever := by
  obtain ⟨later, more, exempted⟩ :=
    accounted.exempted.activate found own notBefore inTurn
  have notOwing : event.call ∉ owing := by
    rw [accounted.owes]
    rintro ⟨_, _, _, _, oneBefore, -⟩
    rw [noChange] at oneBefore
    cases oneBefore
  have others : ∀ caller, caller ≠ event.call →
      (caller ∈ owing ↔ Owes calls (system.step event).state
        (system.extended past event) caller) := by
    intro caller different
    rw [accounted.owes]
    exact (owes_congr (accounted.led.isAllowed caller) accounted.led.holds
      ledAfter.holds forward (System.extended_of_ne different)).symm
  have written : (system.step event).state.row .orders orderId =
      some (order.withStatus .activated) := by
    rw [stored, row_modify_self, found]
    rfl
  have nowOwes : Owes calls (system.step event).state
      (system.extended past event) event.call ↔ order.isTestOrder = true := by
    constructor
    · rintro ⟨id, other, _, isSame, -, otherFound, isTest⟩
      cases isSame.symm.trans isActivation
      cases otherFound.symm.trans written
      exact isTest
    · intro isTest
      exact ⟨orderId, _, change, isActivation, oneChange, written, isTest⟩
  have sameCounter : testOrdersUsed (system.step event).state resellerId =
      testOrdersUsed system.state resellerId := by
    rw [stored, testOrdersUsed, row_modify_of_ne (by decide), testOrdersUsed]
  have known : ((system.step event).state.row .resellers resellerId).isSome := by
    rw [stored, row_modify_of_ne (by decide)]
    exact accounted.known
  have balance := accounted.balance
  have counted : activatedTestOrders (system.step event).state resellerId =
      activatedTestOrders system.state resellerId +
        (if order.isTestOrder = true then 1 else 0) := by
    rw [stored]
    exact activatedTestOrders_activate found own notBefore
  rw [← stored] at exempted
  by_cases isTest : order.isTestOrder = true
  · refine ⟨insert event.call owing, later, more, soundAfter, ledAfter, ?_, ?_,
      exempted, known⟩
    · intro caller
      by_cases moving : caller = event.call
      · subst moving
        exact iff_of_true (Finset.mem_insert_self _ _) (nowOwes.mpr isTest)
      · rw [Finset.mem_insert, or_iff_right moving]
        exact others caller moving
    · rw [if_pos isTest] at counted
      rw [Finset.card_insert_of_notMem notOwing, sameCounter, counted]
      push_cast
      omega
  · refine ⟨owing, later, more, soundAfter, ledAfter, ?_, ?_, exempted, known⟩
    · intro caller
      by_cases moving : caller = event.call
      · subst moving
        exact iff_of_false notOwing fun owes => isTest (nowOwes.mp owes)
      · exact others caller moving
    · rw [if_neg isTest] at counted
      rw [sameCounter, counted]
      exact balance

/-- An activation counts its test order. -/
theorem Accounted.count {owing : Finset Caller} {ever : Nat → Prop}
    (accounted : Accounted start calls resellerId limit system past owing ever)
    {event : Event Caller} {orderId : Nat} {order : OrderRow}
    {change counting : Recorded Db RowKey}
    (soundAfter : SoundCalls (KeepsOrders start) calls (system.step event))
    (ledAfter : System.Led (activationEnvironment start)
      (fun caller => decisionHistory start (calls caller)) (system.step event)
      (system.extended past event))
    (isActivation : calls event.call = .activateOrder orderId)
    (oneChange : past event.call = [change])
    (twoChanges : system.extended past event event.call = [change, counting])
    (stored : (system.step event).state = system.state.modify .resellers
      resellerId (·.withTestOrderUsed))
    (found : (system.step event).state.row .orders orderId = some order)
    (isTest : order.isTestOrder = true) :
    Accounted start calls resellerId limit (system.step event)
      (system.extended past event) (owing.erase event.call) ever := by
  have sameOrders : ∀ id, (system.step event).state.row .orders id =
      system.state.row .orders id := by
    intro id
    rw [stored, row_modify_of_ne (by decide)]
  have forward : StaysActivated system.state (system.step event).state :=
    fun id _ foundBefore _ => (sameOrders id).trans foundBefore
  have back : StaysActivated (system.step event).state system.state :=
    fun id _ foundAfter _ => (sameOrders id).symm.trans foundAfter
  have isOwing : event.call ∈ owing := by
    rw [accounted.owes]
    exact ⟨orderId, order, change, isActivation, oneChange,
      (sameOrders orderId).symm.trans found, isTest⟩
  have ledger : ∀ orderCode, deductionsFor system.state resellerId orderCode ≤
      deductionsFor (system.step event).state resellerId orderCode := by
    intro orderCode
    refine (deductionsFor_congr (fun id => ?_) resellerId orderCode).ge
    rw [stored, row_modify_of_ne (by decide)]
  obtain ⟨reseller, resellerFound⟩ :=
    Option.isSome_iff_exists.mp accounted.known
  have storedRow : (system.step event).state.row .resellers resellerId =
      some reseller.withTestOrderUsed := by
    rw [stored, row_modify_self, resellerFound]
    rfl
  have oneMore : testOrdersUsed (system.step event).state resellerId =
      testOrdersUsed system.state resellerId + 1 := by
    rw [testOrdersUsed, storedRow, testOrdersUsed, resellerFound]
    rfl
  refine ⟨soundAfter, ledAfter, ?_, ?_,
    accounted.exempted.of_stays forward back ledger, ?_⟩
  · intro caller
    by_cases moving : caller = event.call
    · subst moving
      refine iff_of_false (Finset.notMem_erase _ _) ?_
      rintro ⟨_, _, _, _, onlyOne, -⟩
      rw [twoChanges] at onlyOne
      cases onlyOne
    · rw [Finset.mem_erase, and_iff_right moving, accounted.owes]
      exact (owes_congr (accounted.led.isAllowed caller) accounted.led.holds
        ledAfter.holds forward (System.extended_of_ne moving)).symm
  · have balance := accounted.balance
    have oneLess := Finset.card_erase_add_one isOwing
    rw [oneMore, activatedTestOrders_congr forward back]
    omega
  · rw [storedRow]
    rfl

omit [DecidableEq Caller] in
/-- The orders that the calls write belong to the reseller. -/
theorem ServiceCall.DecidesFor.owner {call : ServiceCall} {db : Db}
    {orderId : Nat} {order : OrderRow}
    (decides : call.DecidesFor resellerId start)
    (decided : call.decidedOrder = some orderId) (kept : KeepsOrders start db)
    (found : db.row .orders orderId = some order) :
    order.resellerId = resellerId := by
  obtain ⟨id, isDecided, own⟩ := decides
  cases decided.symm.trans isDecided
  obtain ⟨first, firstFound, sameTerms⟩ :=
    KeepsOrders.seen_order ⟨fun _ => rfl⟩ kept found
  rw [← own first firstFound]
  exact (congrArg OrderRow.resellerId sameTerms.symm :)

/-- A step that leaves all orders and the counter as they are. -/
theorem Accounted.of_sameOrders {owing : Finset Caller} {ever : Nat → Prop}
    (accounted : Accounted start calls resellerId limit system past owing ever)
    {event : Event Caller}
    (soundAfter : SoundCalls (KeepsOrders start) calls (system.step event))
    (ledAfter : System.Led (activationEnvironment start)
      (fun caller => decisionHistory start (calls caller)) (system.step event)
      (system.extended past event))
    (sameOrders : ∀ id, (system.step event).state.row .orders id =
      system.state.row .orders id)
    (ledger : ∀ orderCode,
      deductionsFor system.state resellerId orderCode ≤
        deductionsFor (system.step event).state resellerId orderCode)
    (counters : ((system.step event).state.row .resellers resellerId).map
        (·.testModeOrdersUsed) =
      (system.state.row .resellers resellerId).map (·.testModeOrdersUsed))
    (sameOwes : Owes calls (system.step event).state
        (system.extended past event) event.call ↔
      Owes calls system.state past event.call) :
    StaysAccounted start calls resellerId limit (system.step event)
      (system.extended past event) ever := by
  have forward : StaysActivated system.state (system.step event).state :=
    fun id _ found _ => (sameOrders id).trans found
  have back : StaysActivated (system.step event).state system.state :=
    fun id _ found _ => (sameOrders id).symm.trans found
  exact ⟨owing, ever, fun _ isEver => isEver, accounted.of_same soundAfter
    ledAfter forward back ledger counters sameOwes⟩

/-- A receipt or a decision. -/
theorem Accounted.decide {owing : Finset Caller} {ever : Nat → Prop}
    (accounted : Accounted start calls resellerId limit system past owing ever)
    {event : Event Caller} {orderId : Nat}
    (soundAfter : SoundCalls (KeepsOrders start) calls (system.step event))
    (ledAfter : System.Led (activationEnvironment start)
      (fun caller => decisionHistory start (calls caller)) (system.step event)
      (system.extended past event))
    (noActivation : ∀ id, calls event.call ≠ .activateOrder id)
    (forward : StaysActivated system.state (system.step event).state)
    (change : Decided orderId system.state (system.step event).state) :
    StaysAccounted start calls resellerId limit (system.step event)
      (system.extended past event) ever := by
  have noOwes : ∀ db past, ¬ Owes calls db past event.call := by
    rintro db past ⟨id, _, _, isActivation, -⟩
    exact noActivation id isActivation
  have back : StaysActivated (system.step event).state system.state := by
    intro id order found isActivated
    by_cases own : id = orderId
    · subst own
      rcases change.decided with sameRow | other
      · rw [← sameRow]
        exact found
      · exact absurd isActivated (other order found)
    · rw [← change.others id own]
      exact found
  exact ⟨owing, ever, fun _ isEver => isEver, accounted.of_same soundAfter
    ledAfter forward back (change.ledger resellerId)
    (change.counters resellerId) (iff_of_false (noOwes _ _) (noOwes _ _))⟩

/-- The first write of an activation. -/
theorem Accounted.writeStatus {owing : Finset Caller} {ever : Nat → Prop}
    (accounted : Accounted start calls resellerId limit system past owing ever)
    {event : Event Caller} {orderId : Nat} {change : Recorded Db RowKey}
    (decides : (calls event.call).DecidesFor resellerId start)
    (soundAfter : SoundCalls (KeepsOrders start) calls (system.step event))
    (ledAfter : System.Led (activationEnvironment start)
      (fun caller => decisionHistory start (calls caller)) (system.step event)
      (system.extended past event))
    (isActivation : calls event.call = .activateOrder orderId)
    (noChange : past event.call = [])
    (oneChange : system.extended past event event.call = [change])
    (stored : (system.step event).state =
      system.state.modify .orders orderId (·.withStatus .activated))
    (absentOrRows : start.row .orders orderId = none ∨
      system.writtenNow event = [.row .orders orderId])
    (forward : StaysActivated system.state (system.step event).state)
    (inTurn : ActivatesInTurn resellerId limit calls system event) :
    StaysAccounted start calls resellerId limit (system.step event)
      (system.extended past event) ever := by
  have counters : ((system.step event).state.row .resellers resellerId).map
      (·.testModeOrdersUsed) =
        (system.state.row .resellers resellerId).map (·.testModeOrdersUsed) := by
    rw [stored, row_modify_of_ne (by decide)]
  have ledger : ∀ orderCode,
      deductionsFor system.state resellerId orderCode ≤
        deductionsFor (system.step event).state resellerId orderCode := by
    intro orderCode
    rw [stored, deductionsFor_modify_orders]
  have noOwesBefore : ¬ Owes calls system.state past event.call := by
    rintro ⟨_, _, _, _, oneBefore, -⟩
    rw [noChange] at oneBefore
    cases oneBefore
  cases found : system.state.row .orders orderId with
  | none =>
      have sameOrders : ∀ id, (system.step event).state.row .orders id =
          system.state.row .orders id := by
        intro id
        rw [stored, row_modify_absent found]
      refine accounted.of_sameOrders soundAfter ledAfter sameOrders ledger
        counters (iff_of_false ?_ noOwesBefore)
      rintro ⟨id, other, _, isSame, -, otherFound, -⟩
      cases isSame.symm.trans isActivation
      rw [sameOrders, found] at otherFound
      cases otherFound
  | some order =>
      have rows : system.writtenNow event = [.row .orders orderId] := by
        apply absentOrRows.resolve_left
        intro absent
        have kept := accounted.led.holds.order_row orderId
        rw [found, absent] at kept
        cases kept
      have mayWrite : WritesInTurn resellerId limit system.state
          (calls event.call) orderId order :=
        inTurn (.row .orders orderId)
          (by rw [rows]; exact List.mem_singleton_self _) orderId rfl order
          found
      rw [isActivation, WritesInTurn, ServiceCall.activatedOrder, if_pos rfl]
        at mayWrite
      have own : order.resellerId = resellerId :=
        decides.owner (by rw [isActivation]; rfl) accounted.led.holds found
      by_cases already : order.status = .activated
      · have sameOrders : ∀ id, (system.step event).state.row .orders id =
            system.state.row .orders id := by
          intro id
          rw [stored, row_modify]
          split_ifs with isOrder
          · subst isOrder
            rw [found]
            exact congrArg some (OrderRow.withStatus_same already)
          · rfl
        refine accounted.of_sameOrders soundAfter ledAfter sameOrders ledger
          counters (iff_of_false ?_ noOwesBefore)
        rintro ⟨id, other, _, isSame, -, otherFound, isTest⟩
        cases isSame.symm.trans isActivation
        rw [sameOrders, found] at otherFound
        cases otherFound
        exact mayWrite.1 ⟨already, isTest⟩
      · exact accounted.activate soundAfter ledAfter isActivation noChange
          oneChange stored forward found own already mayWrite.2

/-- Every step in turn keeps the accounts. -/
theorem Accounted.step {owing : Finset Caller} {ever : Nat → Prop}
    (decides : ∀ caller, (calls caller).DecidesFor resellerId start)
    (accounted : Accounted start calls resellerId limit system past owing ever)
    {event : Event Caller}
    (inTurn : ActivatesInTurn resellerId limit calls system event) :
    StaysAccounted start calls resellerId limit (system.step event)
      (system.extended past event) ever := by
  have decided : ∀ caller, ∃ orderId,
      (calls caller).decidedOrder = some orderId :=
    fun caller => (decides caller).imp fun _ => And.left
  have soundAfter : SoundCalls (KeepsOrders start) calls (system.step event) :=
    (accounted.sound.step (preserved_keepsOrders decided) event).1
  have forward : StaysActivated system.state (system.step event).state :=
    staysActivated_step decided accounted.sound accounted.led inTurn
  have ledAfter := accounted.led.step event forward
  cases recorded : system.recordsNow event with
  | false =>
      have quiet := accounted.led.quiet recorded
      refine accounted.of_sameOrders soundAfter ledAfter
        (fun id => (quiet_row quiet .orders id).symm)
        (fun orderCode => (deductionsFor_congr
          (fun id => (quiet_row quiet _ id).symm) resellerId orderCode).ge)
        (by rw [quiet_row quiet]) ?_
      refine owes_congr (accounted.led.isAllowed event.call)
        accounted.led.holds ledAfter.holds forward ?_
      rw [System.extended_of_not_recordsNow recorded]
  | true =>
      have grows : system.extended past event event.call =
          past event.call ++ [⟨system.state, (system.step event).state,
            system.writtenNow event⟩] := by
        simp [System.extended, System.record, recorded]
      have history := ledAfter.isAllowed event.call
      rw [grows] at history
      have isLast : (⟨system.state, (system.step event).state,
          system.writtenNow event⟩ : Recorded Db RowKey) ∈ past event.call ++
            [⟨system.state, (system.step event).state,
              system.writtenNow event⟩] :=
        List.mem_append_right _ (List.mem_singleton_self _)
      cases isCall : calls event.call with
      | activateOrder orderId =>
          rw [isCall] at history
          rcases ActivationHistory.last history with
            ⟨noChange, stored, absentOrRows⟩ |
            ⟨change, order, oneChange, found, isTest, stored⟩
          · rw [noChange, List.nil_append] at grows
            exact accounted.writeStatus (decides _) soundAfter ledAfter isCall
              noChange grows stored absentOrRows forward inTurn
          · have own : order.resellerId = resellerId :=
              (decides event.call).owner (by rw [isCall]; rfl) ledAfter.holds
                found
            rw [own] at stored
            rw [oneChange] at grows
            exact ⟨_, ever, fun _ isEver => isEver,
              accounted.count soundAfter ledAfter isCall oneChange grows stored
                found isTest⟩
      | submitReceipt _ orderId _ =>
          rw [isCall] at history
          exact accounted.decide soundAfter ledAfter (by simp [isCall]) forward
            (history _ isLast)
      | confirmOrder orderId =>
          rw [isCall] at history
          exact accounted.decide soundAfter ledAfter (by simp [isCall]) forward
            (history _ isLast)
      | rejectOrder orderId =>
          rw [isCall] at history
          exact accounted.decide soundAfter ledAfter (by simp [isCall]) forward
            (history _ isLast)
      | _ =>
          rw [isCall] at history
          exact history.elim

/-- Every run in turn keeps the accounts, and covers all states that it goes
through. -/
theorem Accounted.run {owing : Finset Caller} {ever : Nat → Prop}
    (decides : ∀ caller, (calls caller).DecidesFor resellerId start)
    (accounted : Accounted start calls resellerId limit system past owing ever)
    {events : List (Event Caller)}
    (inTurn : StepRuns.Along System.step
      (ActivatesInTurn resellerId limit calls) system events) :
    ∃ (owingLater : Finset Caller) (later : Nat → Prop),
      (∀ id, ever id → later id) ∧
      (∀ id, EverActivatedFree resellerId system events id → later id) ∧
      Accounted start calls resellerId limit
        (StepRuns.final System.step system events)
        (fun caller => past caller ++ system.history caller events) owingLater
        later := by
  induction events generalizing system past owing ever with
  | nil =>
      refine ⟨owing, ever, fun _ isEver => isEver, ?_, ?_⟩
      · rintro id ⟨early, late, whole, free⟩
        obtain ⟨rfl, -⟩ := List.append_eq_nil_iff.mp whole.symm
        exact accounted.exempted.covers id free
      · simpa [System.history] using accounted
  | cons event events ih =>
      obtain ⟨_, next, more, nextAccounted⟩ := accounted.step decides inTurn.1
      obtain ⟨owingLater, later, evenMore, covers, result⟩ :=
        ih nextAccounted inTurn.2
      refine ⟨owingLater, later, fun id isEver => evenMore id (more id isEver),
        ?_, ?_⟩
      · rintro id ⟨early, late, whole, free⟩
        cases early with
        | nil =>
            exact evenMore id (more id (accounted.exempted.covers id free))
        | cons first early =>
            rw [List.cons_append, List.cons.injEq] at whole
            obtain ⟨rfl, whole⟩ := whole
            exact covers id ⟨early, late, whole, free⟩
      · simpa [System.history, System.extended] using result

/-- No activation stands between its two writes. -/
def ActivationsSettled (calls : Caller → ServiceCall)
    (system : ServiceSystem Caller) (events : List (Event Caller)) : Prop :=
  ∀ caller orderId, calls caller = .activateOrder orderId →
    system.history caller events = [] ∨
      ((StepRuns.final System.step system events).result caller).isSome

/-- The reseller has this limit, its counter is right, and all orders that were
activated without commission are test orders. -/
structure CountsTestOrders (resellerId : Nat) (limit : Int) (db : Db) :
    Prop where
  known : (db.row .resellers resellerId).map (·.testModeOrderLimit) = some limit
  counted : testOrdersUsed db resellerId = activatedTestOrders db resellerId
  capped : activatedTestOrders db resellerId ≤ limit
  onlyTests : ∀ id, ActivatedFree resellerId db id →
    ∃ order, db.row .orders id = some order ∧
      isActivatedTest resellerId order = true

theorem CountsTestOrders.accounted
    (counts : CountsTestOrders resellerId limit start)
    (decides : ∀ caller, (calls caller).DecidesFor resellerId start) :
    Accounted start calls resellerId limit (startCalls start calls)
      (fun _ => []) ∅ (ActivatedFree resellerId start) where
  sound := soundCalls_start ⟨fun _ => rfl⟩
  led := System.Led.start (fun caller => lasting_decisionHistory _)
    ⟨fun _ => rfl⟩ fun caller => leads_decision
      ((decides caller).imp fun _ => And.left)
  owes caller := by
    refine iff_of_false (Finset.notMem_empty caller) ?_
    rintro ⟨_, _, _, _, oneChange, -⟩
    cases oneChange
  balance := by
    rw [Finset.card_empty, Nat.cast_zero, add_zero]
    exact counts.counted
  exempted :=
    { covers := fun _ free => free
      exempt := counts.onlyTests
      capped := by
        intro ids areFree
        have counted : ids.card ≤ activatedTestOrders start resellerId :=
          card_le_count fun id member => counts.onlyTests id (areFree id member)
        exact (Int.ofNat_le.mpr counted).trans counts.capped }
  known := by
    have found := congrArg Option.isSome counts.known
    rw [Option.isSome_map] at found
    exact found

/-- In every run in which all orders are written in turn, the counter of the
reseller is the number of its activated test orders whenever no activation
stands between its two writes, and no more orders than the limit are ever
activated without commission. -/
theorem testOrders_run
    (decides : ∀ caller, (calls caller).DecidesFor resellerId start)
    (counts : CountsTestOrders resellerId limit start)
    {events : List (Event Caller)}
    (inTurn : StepRuns.Along System.step
      (ActivatesInTurn resellerId limit calls) (startCalls start calls)
      events) :
    (ActivationsSettled calls (startCalls start calls) events →
      testOrdersUsed (runCalls start calls events).state resellerId =
        activatedTestOrders (runCalls start calls events).state resellerId) ∧
    ∀ ids : Finset Nat,
      (∀ id ∈ ids,
        EverActivatedFree resellerId (startCalls start calls) events id) →
      (ids.card : Int) ≤ limit := by
  obtain ⟨owing, ever, -, covers, accounted⟩ :=
    (counts.accounted decides).run decides inTurn
  simp only [List.nil_append] at accounted
  constructor
  · intro settled
    have nothingOwed : owing = ∅ := by
      refine Finset.eq_empty_of_forall_notMem fun caller isOwing => ?_
      obtain ⟨orderId, order, change, isActivation, oneChange, found, isTest⟩ :=
        (accounted.owes caller).mp isOwing
      dsimp only at oneChange
      have history := accounted.led.isAllowed caller
      rw [isActivation, oneChange] at history
      have returned := (settled caller orderId isActivation).resolve_left
        (by simp [oneChange])
      cases history with
      | missing _ _ absent =>
          have kept := accounted.led.holds.order_row orderId
          rw [found, absent] at kept
          cases kept
      | activated _ other _ _ _ otherFound _ complete =>
          cases otherFound.symm.trans found
          rw [complete returned] at isTest
          cases isTest
    have balance := accounted.balance
    rw [nothingOwed, Finset.card_empty, Nat.cast_zero, add_zero] at balance
    exact balance
  · exact fun ids areFree => accounted.exempted.capped ids fun id member =>
      covers id (areFree id member)

end Runs

/-- Two orders of a reseller in test mode, whose limit is one order. -/
def testModeDb : Db :=
  .filled fun
    | .resellers =>
        [{ shopReseller with testModeEnabled := true, testModeOrderLimit := 1 }]
    | .customers => [shopCustomer]
    | .packages => [shopPackage]
    | .orders => ["AR-1", "AR-2"].map fun orderCode =>
        { orderCode := orderCode
          resellerId := 1
          packageId := 1
          customerId := 1
          packagePrice := 800 }
    | _ => []

/-- A receipt for the first order, its activation, and another receipt. -/
def testModeCalls : Fin 3 → ServiceCall
  | 0 => .submitReceipt {} 1 "photo"
  | 1 => .activateOrder 1
  | 2 => .submitReceipt {} 2 "photo"

theorem testOrders_run_single :
    let events := (List.finRange 3).flatMap fun caller =>
      List.replicate 8 (.advance caller)
    (ActivationsSettled testModeCalls (startCalls testModeDb testModeCalls)
        events →
      testOrdersUsed (runCalls testModeDb testModeCalls events).state 1 =
        activatedTestOrders (runCalls testModeDb testModeCalls events).state
          1) ∧
    ∀ ids : Finset Nat,
      (∀ id ∈ ids, EverActivatedFree 1 (startCalls testModeDb testModeCalls)
        events id) →
      (ids.card : Int) ≤ 1 := by
  have first : ∀ order ∈ testModeDb.row .orders 1, order.resellerId = 1 := by
    decide
  have second : ∀ order ∈ testModeDb.row .orders 2, order.resellerId = 1 := by
    decide
  have decides : ∀ caller, (testModeCalls caller).DecidesFor 1 testModeDb := by
    intro caller
    fin_cases caller
    · exact ⟨1, rfl, first⟩
    · exact ⟨1, rfl, first⟩
    · exact ⟨2, rfl, second⟩
  have counts : CountsTestOrders 1 1 testModeDb :=
    { known := by decide
      counted := by decide
      capped := by decide
      onlyTests := by
        rintro id ⟨order, found, -, isActivated, -⟩
        have none : ∀ id < 3, ∀ order ∈ testModeDb.row .orders id,
            order.status ≠ .activated := by decide
        exact absurd isActivated (none id (lt_nextId_of_row found) order found) }
  exact testOrders_run decides counts (by decide +kernel)

/-- Two receipts for two orders, their activations, and the first activation
again. -/
def repeatedCalls : Fin 5 → ServiceCall
  | 0 => .submitReceipt {} 1 "photo"
  | 1 => .submitReceipt {} 2 "photo"
  | 2 => .activateOrder 1
  | 3 => .activateOrder 2
  | 4 => .activateOrder 1

/-- One call after the other, the limit of one order notwithstanding: two
orders are activated without commission, and the counter says three. -/
theorem two_exempted_three_counted :
    let after := (runCalls testModeDb repeatedCalls
      ((List.finRange 5).flatMap fun caller =>
        List.replicate 8 (.advance caller))).state
    activatedTestOrders after 1 = 2 ∧
      testOrdersUsed after 1 = 3 ∧
      (after.row .resellers 1).map (·.testModeOrderLimit) = some 1 ∧
      after.count .walletTransactions (fun _ => true) = 0 := by
  decide +kernel

end Baste
