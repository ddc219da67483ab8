import Baste.TestOrders
import Baste.InterruptedPrograms

/-!
# Test orders one after another

A reseller in test mode takes its orders one after another: each is submitted,
confirmed and activated before the next receipt arrives.  The statement that
counts a test order compares the counter that it has just incremented, plus
one, with the limit.  So the test mode ends one order early, unless its limit
is a single order.
-/

namespace Baste

open Database Transaction

/-- The test mode of a reseller. -/
structure TestMode where
  enabled : Bool
  limit : Int
  used : Int
  deriving DecidableEq, Repr

namespace TestMode

def takesOrder (mode : TestMode) : Bool :=
  mode.enabled && mode.used < mode.limit

def withOrderUsed (mode : TestMode) : TestMode :=
  let used := mode.used + 1
  { mode with
    used := used
    enabled := if used + 1 ≥ mode.limit then false else mode.enabled }

/-- The test mode after one more order. -/
def afterOrder (mode : TestMode) : TestMode :=
  if mode.takesOrder then mode.withOrderUsed else mode

end TestMode

def ResellerRow.testMode (reseller : ResellerRow) : TestMode :=
  ⟨reseller.testModeEnabled, reseller.testModeOrderLimit,
    reseller.testModeOrdersUsed⟩

def testModeOf (db : Db) (resellerId : Nat) : Option TestMode :=
  (db.row .resellers resellerId).map (·.testMode)

/-- The database after some calls, one after another. -/
abbrev runInOrder (db : Db) (calls : List ServiceCall) : Db :=
  StepRuns.final (fun db call => call.runAlone db) db calls

/-- The call does not decide on an order of the reseller. -/
def ServiceCall.Elsewhere (resellerId : Nat) (db : Db) (call : ServiceCall) :
    Prop :=
  ∀ orderId order, call.decidedOrder = some orderId →
    db.row .orders orderId = some order → order.resellerId ≠ resellerId

/-- The calls do not decide on orders of the reseller. -/
abbrev AllElsewhere (resellerId : Nat) (db : Db) (calls : List ServiceCall) :
    Prop :=
  StepRuns.Along (fun db call => call.runAlone db)
    (fun db call => call.Elsewhere resellerId db) db calls

/-- One order from its receipt to its activation, with the calls that run
before each of the three operations. -/
structure OrderTurn where
  orderId : Nat
  config : Config
  receiptFileId : String
  beforeReceipt : List ServiceCall
  beforeConfirmation : List ServiceCall
  beforeActivation : List ServiceCall

namespace OrderTurn

variable (turn : OrderTurn) (resellerId : Nat) (db : Db)

def submission : ServiceCall :=
  .submitReceipt turn.config turn.orderId turn.receiptFileId

/-- When the receipt arrives. -/
def arrival : Db :=
  runInOrder db turn.beforeReceipt

def submitted : Db :=
  turn.submission.runAlone (turn.arrival db)

/-- When the order is confirmed. -/
def confirmation : Db :=
  runInOrder (turn.submitted db) turn.beforeConfirmation

def confirmed : Db :=
  (ServiceCall.confirmOrder turn.orderId).runAlone (turn.confirmation db)

/-- When the order is activated. -/
def activation : Db :=
  runInOrder (turn.confirmed db) turn.beforeActivation

def run : Db :=
  (ServiceCall.activateOrder turn.orderId).runAlone (turn.activation db)

/-- The order is an order of the reseller, its receipt is accepted, and no
other order of the reseller is decided on in the meantime. -/
structure Takes : Prop where
  own : ((turn.arrival db).row .orders turn.orderId).map (·.resellerId) =
    some resellerId
  accepted : ∃ reply,
    (turn.submission.program.runAlone none (turn.arrival db)).2 =
      some (.ok reply)
  beforeReceipt : AllElsewhere resellerId db turn.beforeReceipt
  beforeConfirmation :
    AllElsewhere resellerId (turn.submitted db) turn.beforeConfirmation
  beforeActivation :
    AllElsewhere resellerId (turn.confirmed db) turn.beforeActivation

/-- The receipt makes the order a test order, and nothing is deducted. -/
structure Exempted : Prop where
  isTest : ∃ order, (turn.submitted db).row .orders turn.orderId =
    some order ∧ order.isTestOrder = true ∧ order.commissionAmount = 0
  credit : (turn.submitted db).row .resellers resellerId =
    (turn.arrival db).row .resellers resellerId
  ledger : ∀ id, (turn.submitted db).row .walletTransactions id =
    (turn.arrival db).row .walletTransactions id

end OrderTurn

/-- The database after some orders, one after another. -/
abbrev afterTurns (db : Db) (turns : List OrderTurn) : Db :=
  StepRuns.final (fun db turn => turn.run db) db turns

/-- The reseller takes its orders strictly one after another. -/
abbrev TakenInTurn (resellerId : Nat) (db : Db) (turns : List OrderTurn) :
    Prop :=
  StepRuns.Along (fun db turn => turn.run db)
    (fun db turn => turn.Takes resellerId db) db turns

/-- Exactly the first orders up to the limit are exempted, and the test mode
is enabled as long as fewer have been activated. -/
structure ExemptsFirst (resellerId : Nat) (limit : Int) (db : Db)
    (turns : List OrderTurn) : Prop where
  exempted : ∀ (index : Nat) (inRange : index < turns.length),
    turns[index].Exempted resellerId (afterTurns db (turns.take index)) ↔
      index < limit
  mode : ∀ count : Nat, count ≤ turns.length →
    ((testModeOf (afterTurns db (turns.take count)) resellerId).any (·.enabled) =
      true ↔ count < limit)

namespace TestMode

/-- The test mode that starts with the limit, after some orders. -/
theorem iterate_afterOrder {limit : Int} (positive : 1 ≤ limit) (count : Nat) :
    afterOrder^[count] ⟨true, limit, 0⟩ =
        ⟨true, limit, count⟩ ∧ (count = 0 ∨ count + 1 < limit) ∨
      (afterOrder^[count] ⟨true, limit, 0⟩).enabled = false ∧
        ¬ (count = 0 ∨ count + 1 < limit) := by
  induction count with
  | zero => exact .inl ⟨rfl, .inl rfl⟩
  | succ count ih =>
      rw [Function.iterate_succ_apply']
      rcases ih with ⟨running, early⟩ | ⟨ended, late⟩
      · rw [running]
        have takes : takesOrder ⟨true, limit, count⟩ = true := by
          simp only [takesOrder, Bool.true_and, decide_eq_true_eq]
          omega
        rw [afterOrder, if_pos takes, withOrderUsed]
        by_cases last : (count : Int) + 1 + 1 ≥ limit
        · right
          simp only [if_pos last, true_and]
          omega
        · left
          simp only [if_neg last]
          refine ⟨rfl, .inr ?_⟩
          push_cast
          omega
      · have refuses : takesOrder (afterOrder^[count] ⟨true, limit, 0⟩) =
            false := by
          rw [takesOrder, ended, Bool.false_and]
        right
        rw [afterOrder, refuses]
        refine ⟨ended, ?_⟩
        omega

theorem enabled_iterate {limit : Int} (positive : 1 ≤ limit) (count : Nat) :
    (afterOrder^[count] ⟨true, limit, 0⟩).enabled = true ↔
      count = 0 ∨ count + 1 < limit := by
  rcases iterate_afterOrder positive count with
    ⟨running, early⟩ | ⟨ended, late⟩
  · simp [running, early]
  · simp [ended, late]

theorem takesOrder_iterate {limit : Int} (positive : 1 ≤ limit) (count : Nat) :
    (afterOrder^[count] ⟨true, limit, 0⟩).takesOrder = true ↔
      count = 0 ∨ count + 1 < limit := by
  rcases iterate_afterOrder positive count with
    ⟨running, early⟩ | ⟨ended, late⟩
  · rw [running]
    simp only [takesOrder, Bool.true_and, decide_eq_true_eq]
    omega
  · simp [takesOrder, ended, late]

end TestMode

/-- The reseller keeps its test mode, and its orders stay its own and keep
whether they are test orders. -/
structure KeepsTestMode (resellerId : Nat) (before after : Db) : Prop where
  mode : testModeOf after resellerId = testModeOf before resellerId
  orders : ∀ id order, before.row .orders id = some order →
    order.resellerId = resellerId →
    ∃ later, after.row .orders id = some later ∧
      later.resellerId = resellerId ∧
      later.isTestOrder = order.isTestOrder

section Keeping

variable {resellerId : Nat} {before mid after db : Db}

theorem KeepsTestMode.refl (db : Db) : KeepsTestMode resellerId db db :=
  ⟨rfl, fun _ order found own => ⟨order, found, own, rfl⟩⟩

theorem KeepsTestMode.trans (first : KeepsTestMode resellerId before mid)
    (second : KeepsTestMode resellerId mid after) :
    KeepsTestMode resellerId before after where
  mode := second.mode.trans first.mode
  orders id order found own := by
    obtain ⟨between, foundBetween, ownBetween, test⟩ :=
      first.orders id order found own
    obtain ⟨later, foundLater, ownLater, testLater⟩ :=
      second.orders id between foundBetween ownBetween
    exact ⟨later, foundLater, ownLater, testLater.trans test⟩

/-- Other tables do not matter. -/
theorem KeepsTestMode.of_tables
    (resellers : ∀ id, after.row .resellers id = before.row .resellers id)
    (orders : ∀ id, after.row .orders id = before.row .orders id) :
    KeepsTestMode resellerId before after where
  mode := by rw [testModeOf, testModeOf, resellers]
  orders id order found own := ⟨order, (orders id).trans found, own, rfl⟩

theorem KeepsTestMode.of_quiet (quiet : dbView.Quiet before after) :
    KeepsTestMode resellerId before after :=
  .of_tables (fun id => (quiet_row quiet _ id).symm)
    fun id => (quiet_row quiet _ id).symm

variable {name : TableName} {id : Nat}

theorem KeepsTestMode.modify {change : RowOf name → RowOf name}
    (resellers : TableName.resellers ≠ name)
    (orders : TableName.orders ≠ name) :
    KeepsTestMode resellerId db (db.modify name id change) :=
  .of_tables (fun _ => row_modify_of_ne resellers)
    fun _ => row_modify_of_ne orders

theorem KeepsTestMode.put {new : RowOf name}
    (resellers : TableName.resellers ≠ name)
    (orders : TableName.orders ≠ name) :
    KeepsTestMode resellerId db (db.put name id new) :=
  .of_tables (fun _ => row_put_of_ne resellers)
    fun _ => row_put_of_ne orders

theorem KeepsTestMode.erase {ids : List Nat}
    (resellers : TableName.resellers ≠ name)
    (orders : TableName.orders ≠ name) :
    KeepsTestMode resellerId db (db.erase name ids) :=
  .of_tables (fun _ => row_erase_of_ne resellers)
    fun _ => row_erase_of_ne orders

theorem KeepsTestMode.reserve : KeepsTestMode resellerId db (db.reserve name) :=
  .of_tables (fun _ => row_reserve) fun _ => row_reserve

/-- New orders get new ids. -/
theorem KeepsTestMode.putOrder {new : OrderRow}
    (absent : db.row .orders id = none) :
    KeepsTestMode resellerId db (db.put .orders id new) where
  mode := by rw [testModeOf, testModeOf, row_put_of_ne (by decide)]
  orders key order found own := by
    have old : key ≠ id := by
      rintro rfl
      cases absent.symm.trans found
    exact ⟨order, (row_put_ne old).trans found, own, rfl⟩

theorem KeepsTestMode.withLedgerEntry {owner : Nat} {balance : Cents}
    {entry : WalletTransactionRow} :
    KeepsTestMode resellerId db (db.withLedgerEntry owner balance id entry) where
  mode := by
    rw [testModeOf, testModeOf, row_resellers_withLedgerEntry]
    split_ifs
    · cases db.row .resellers resellerId <;> rfl
    · rfl
  orders key order found own :=
    ⟨order, (row_withLedgerEntry_of_ne (by decide) (by decide)).trans found,
      own, rfl⟩

/-- A change of an order that leaves its reseller, and its exemption if it is
an order of this reseller. -/
theorem KeepsTestMode.modifyOrder {change : OrderRow → OrderRow}
    (owner : ∀ order, (change order).resellerId = order.resellerId)
    (test : ∀ order, db.row .orders id = some order →
      order.resellerId = resellerId →
      (change order).isTestOrder = order.isTestOrder) :
    KeepsTestMode resellerId db (db.modify .orders id change) where
  mode := by rw [testModeOf, testModeOf, row_modify_of_ne (by decide)]
  orders key order found own := by
    rw [row_modify]
    split_ifs with same
    · subst same
      exact ⟨change order, by rw [found]; rfl, (owner order).trans own,
        test order found own⟩
    · exact ⟨order, found, own, rfl⟩

theorem KeepsTestMode.withStatus {status : OrderStatus} :
    KeepsTestMode resellerId db (db.modify .orders id (·.withStatus status)) :=
  .modifyOrder (fun _ => rfl) fun _ _ _ => rfl

theorem KeepsTestMode.modifyReseller {change : ResellerRow → ResellerRow}
    (same : ∀ reseller, id = resellerId →
      (change reseller).testMode = reseller.testMode) :
    KeepsTestMode resellerId db (db.modify .resellers id change) where
  mode := by
    rw [testModeOf, testModeOf, row_modify]
    split_ifs with own
    · cases found : db.row .resellers resellerId with
      | none => rfl
      | some reseller => exact congrArg some (same reseller own.symm)
    · rfl
  orders key order found own :=
    ⟨order, (row_modify_of_ne (by decide)).trans found, own, rfl⟩

theorem KeepsTestMode.deliver {purchase : ChargeService.Purchase}
    {sales : List ChargeService.Sale} (deliverable : purchase.Deliverable db sales) :
    KeepsTestMode resellerId db (sales.foldl purchase.deliver db) := by
  apply ChargeService.Purchase.foldl_deliver_of_invariant
    (KeepsTestMode resellerId db) _ deliverable (.refl db)
  intro now sale _ _ reserved kept
  apply kept.trans
  apply KeepsTestMode.trans (.putOrder reserved.1)
  exact .modify (by decide) (by decide)

end Keeping

section Elsewhere

variable {resellerId : Nat} {call : ServiceCall} {before after start db : Db}
variable {invariant : Db → Prop}

theorem ServiceCall.Elsewhere.of_owners (elsewhere : call.Elsewhere resellerId before)
    (owners : ∀ id, (after.row .orders id).map (·.resellerId) =
      (before.row .orders id).map (·.resellerId)) :
    call.Elsewhere resellerId after := by
  intro orderId order decides found
  have owner := owners orderId
  rw [found, eq_comm, Option.map_some, Option.map_eq_some_iff] at owner
  obtain ⟨old, foundOld, same⟩ := owner
  rw [← same]
  exact elsewhere orderId old decides foundOld

theorem ServiceCall.Elsewhere.of_undecided (undecided : call.decidedOrder = none) :
    call.Elsewhere resellerId db := by
  intro orderId order decides
  rw [undecided] at decides
  cases decides

theorem owners_modify {id : Nat} {change : OrderRow → OrderRow}
    (owner : ∀ order, (change order).resellerId = order.resellerId) (key : Nat) :
    ((db.modify .orders id change).row .orders key).map (·.resellerId) =
      (db.row .orders key).map (·.resellerId) := by
  rw [row_modify]
  split_ifs
  · cases db.row .orders key with
    | none => rfl
    | some order => exact congrArg some (owner order)
  · rfl

/-- No statement outside a transaction changes the test mode of the reseller,
except for its own orders. -/
theorem ServiceCall.Elsewhere.of_writes
    (elsewhere : call.Elsewhere resellerId before)
    (always : ∀ db, invariant db → call.Elsewhere resellerId db)
    (writes : (call.guarantee invariant).writes before after) :
    KeepsTestMode resellerId before after ∧
      call.Elsewhere resellerId after := by
  cases call with
  | createOrder =>
      obtain ⟨_, _, rfl⟩ := writes
      exact ⟨.trans .reserve (.putOrder (row_reserve.trans row_nextId)),
        .of_undecided rfl⟩
  | confirmOrder | rejectOrder =>
      cases writes
      exact ⟨.withStatus, elsewhere.of_owners (owners_modify fun _ => rfl)⟩
  | activateOrder orderId =>
      rcases writes with rfl | ⟨order, ⟨past, holds, seen⟩, rfl⟩
      · exact ⟨.withStatus, elsewhere.of_owners (owners_modify fun _ => rfl)⟩
      · have other := always past holds orderId order rfl seen
        refine ⟨.modifyReseller fun _ own => absurd own other, ?_⟩
        exact elsewhere.of_owners fun _ => by rw [row_modify_of_ne (by decide)]
  | rejectCustomerTopup | rejectDispute =>
      cases writes
      exact ⟨.modify (by decide) (by decide), .of_undecided rfl⟩
  | createDispute =>
      rcases writes with rfl | rfl
      · exact ⟨.withStatus, .of_undecided rfl⟩
      · exact ⟨.trans .reserve (.put (by decide) (by decide)), .of_undecided rfl⟩
  | approveDispute =>
      obtain ⟨_, _, -, -, rfl | rfl | ⟨_, rfl⟩⟩ := writes
      · exact ⟨.modify (by decide) (by decide), .of_undecided rfl⟩
      · exact ⟨.withStatus, .of_undecided rfl⟩
      · exact ⟨.trans .reserve (.put (by decide) (by decide)), .of_undecided rfl⟩
  | addChargeCodes =>
      obtain ⟨_, _, rfl⟩ := writes
      exact ⟨.trans .reserve (.put (by decide) (by decide)), .of_undecided rfl⟩
  | deleteAvailableCode | clearAvailableCodes =>
      obtain ⟨_, _, rfl⟩ := writes
      exact ⟨.erase (by decide) (by decide), .of_undecided rfl⟩
  | purchaseCharge | purchaseChargeBulk =>
      obtain ⟨_, _, rfl⟩ := writes
      exact ⟨.modify (by decide) (by decide), .of_undecided rfl⟩
  | _ => exact writes.elim

/-- No transaction does. -/
theorem ServiceCall.Elsewhere.of_commits
    (elsewhere : call.Elsewhere resellerId before)
    (commits : (call.guarantee invariant).commits before after) :
    KeepsTestMode resellerId before after ∧
      call.Elsewhere resellerId after := by
  cases call with
  | deductCommission =>
      obtain ⟨_, _, _, _, _, rfl⟩ := commits
      exact ⟨.withLedgerEntry, .of_undecided rfl⟩
  | refundCommission =>
      obtain ⟨_, _, _, _, rfl⟩ := commits
      exact ⟨.withLedgerEntry, .of_undecided rfl⟩
  | requestTopup =>
      obtain ⟨_, _, rfl⟩ := commits
      exact ⟨.put (by decide) (by decide), .of_undecided rfl⟩
  | confirmTopup =>
      obtain ⟨_, _, _, _, _, rfl⟩ := commits
      refine ⟨?_, .of_undecided rfl⟩
      exact .trans (.modify (by decide) (by decide))
        (.modifyReseller fun _ _ => rfl)
  | createOrderPaidByWallet =>
      obtain ⟨_, _, _, id, _, _, reserved, rfl⟩ := commits
      refine ⟨.trans (.modify (by decide) (by decide)) (.putOrder ?_),
        .of_undecided rfl⟩
      rw [row_modify_of_ne (by decide)]
      exact reserved.1
  | submitReceipt own orderId receiptFileId =>
      have receipt : ∀ (now : Db) (status : OrderStatus) (commission : Rat)
          (isTest : Bool), KeepsTestMode resellerId before now →
          (∀ id, now.row .orders id = before.row .orders id) →
          KeepsTestMode resellerId before (now.modify .orders orderId
              (·.withReceipt status receiptFileId commission isTest)) ∧
            (ServiceCall.submitReceipt own orderId receiptFileId).Elsewhere
              resellerId (now.modify .orders orderId
                (·.withReceipt status receiptFileId commission isTest)) := by
        intro now status commission isTest kept sameOrders
        constructor
        · apply kept.trans
          refine .modifyOrder (fun _ => rfl) fun order found isOwn => ?_
          rw [sameOrders] at found
          exact absurd isOwn (elsewhere orderId order rfl found)
        · apply elsewhere.of_owners
          intro id
          have owners := @owners_modify now orderId
            (·.withReceipt status receiptFileId commission isTest)
            (fun _ => rfl) id
          rw [owners, sameOrders]
      cases commits with
      | testOrder | failed => exact receipt _ _ _ _ (.refl before) fun _ => rfl
      | charged =>
          exact receipt _ _ _ _ .withLedgerEntry fun _ =>
            row_withLedgerEntry_of_ne (by decide) (by decide)
  | confirmCustomerTopup =>
      cases commits with
      | confirmed =>
          refine ⟨?_, .of_undecided rfl⟩
          exact .trans (.trans (.modify (by decide) (by decide))
            .withLedgerEntry) (.modify (by decide) (by decide))
      | insufficientCredit =>
          exact ⟨.trans (.modify (by decide) (by decide))
            (.modify (by decide) (by decide)), .of_undecided rfl⟩
  | approveDispute =>
      obtain ⟨_, _, _, _, _, _, _, _, rfl⟩ := commits
      exact ⟨.withLedgerEntry, .of_undecided rfl⟩
  | purchaseCharge | purchaseChargeBulk =>
      obtain ⟨_, _, _, _, _, deliverable, rfl⟩ := commits
      refine ⟨?_, .of_undecided rfl⟩
      exact .trans (.modify (by decide) (by decide))
        (.deliver (deliverable.debited _))
  | _ => exact commits.elim

/-- A call that decides on other orders keeps the test mode. -/
theorem ServiceCall.Elsewhere.runAlone
    (elsewhere : call.Elsewhere resellerId db) :
    KeepsTestMode resellerId db (call.runAlone db) := by
  let invariant : Db → Prop := fun now =>
    KeepsTestMode resellerId db now ∧ call.Elsewhere resellerId now
  have preserves : System.Preserves dbView invariant
      fun _ : Unit => call.guarantee invariant :=
    { quiet := fun before after holds quiet =>
        ⟨holds.1.trans (.of_quiet quiet), holds.2.of_owners fun id => by
          rw [quiet_row quiet]⟩
      writes := fun _ before after holds writes => by
        have kept := holds.2.of_writes (fun _ => And.right) writes
        exact ⟨holds.1.trans kept.1, kept.2⟩
      commits := fun _ before after holds commits => by
        have kept := holds.2.of_commits commits
        exact ⟨holds.1.trans kept.1, kept.2⟩ }
  exact ((call.safe_program invariant db).runAlone preserves
    ⟨.refl db, elsewhere⟩).1

/-- So do several of them. -/
theorem AllElsewhere.runInOrder {calls : List ServiceCall}
    (elsewhere : AllElsewhere resellerId db calls) :
    KeepsTestMode resellerId db (runInOrder db calls) := by
  induction calls generalizing db with
  | nil => exact .refl db
  | cons call calls ih =>
      obtain ⟨here, later⟩ := elsewhere
      exact here.runAlone.trans (ih later)

end Elsewhere

section Turns

variable {resellerId : Nat} {db : Db} {turn : OrderTurn} {mode : TestMode}

/-- What an accepted receipt leaves behind. -/
theorem accepted_submission {config : Config} {orderId : Nat}
    {receiptFileId : String} {order : OrderRow}
    (found : db.row .orders orderId = some order)
    (accepted : ∃ reply, ((ServiceCall.submitReceipt config orderId
      receiptFileId).program.runAlone none db).2 = some (.ok reply)) :
    ∃ reseller, db.row .resellers order.resellerId = some reseller ∧
      (ServiceCall.submitReceipt config orderId receiptFileId).runAlone db =
        if reseller.takesTestOrder then
          db.modify .orders orderId
            (·.withReceipt .awaitingReceiptReview receiptFileId 0 true)
        else
          let commission := OrderService.commissionOf order reseller
          (WalletService.deducted reseller.walletCreditBalance
            order.resellerId commission order.orderCode
            (db.nextId .walletTransactions)
            (db.reserve .walletTransactions)).modify .orders orderId
              (·.withReceipt .awaitingReceiptReview receiptFileId commission
                false) := by
  obtain ⟨reply, returned⟩ := accepted
  have leaves : (ServiceCall.submitReceipt config orderId
      receiptFileId).runAlone db =
        OrderService.receiptSubmitted config orderId receiptFileId db :=
    OrderService.runAlone_submitReceipt
  rw [leaves, OrderService.receiptSubmitted, found]
  simp only [ServiceCall.program, OrderService.submitReceipt,
    Program.runAlone_select, found] at returned
  split_ifs at returned with full
  · cases returned
  cases known : db.row .resellers order.resellerId with
  | none =>
      rw [Program.runAlone_select, known] at returned
      cases returned
  | some reseller =>
      rw [Program.runAlone_select, known] at returned
      refine ⟨reseller, rfl, ?_⟩
      by_cases isTest : reseller.takesTestOrder = true
      · simp only [if_neg full, known, if_pos isTest]
      · have within : ¬ WalletService.ExceedsCredit reseller
            (OrderService.commissionOf order reseller) := by
          intro exceeds
          obtain ⟨message, raised⟩ :=
            WalletService.runAlone_deductCommissionInTx_exceeded known exceeds
          dsimp only at returned
          rw [if_neg isTest, Program.runAlone_begin, raised] at returned
          cases returned
        simp only [if_neg full, known, if_neg isTest, if_neg within]

/-- The receipt of an order is exempted exactly when the test mode takes one
more order, and the test mode stays as it is. -/
theorem OrderTurn.Takes.submitted (takes : turn.Takes resellerId db)
    (current : testModeOf db resellerId = some mode) :
    testModeOf (turn.submitted db) resellerId = some mode ∧
      (turn.Exempted resellerId db ↔ mode.takesOrder = true) ∧
      ∃ order, (turn.submitted db).row .orders turn.orderId = some order ∧
        order.resellerId = resellerId ∧
        order.isTestOrder = mode.takesOrder := by
  obtain ⟨order, found, own⟩ := Option.map_eq_some_iff.mp takes.own
  obtain ⟨reseller, known, leaves⟩ :=
    accepted_submission found takes.accepted
  rw [own] at known
  have arrived : testModeOf (turn.arrival db) resellerId = some mode :=
    takes.beforeReceipt.runInOrder.mode.trans current
  have isMode : reseller.testMode = mode := by
    rw [testModeOf, known] at arrived
    exact Option.some_inj.mp arrived
  have sameTest : reseller.takesTestOrder = mode.takesOrder := by
    rw [← isMode]
    rfl
  rw [sameTest] at leaves
  have submittedIs : turn.submitted db = _ := leaves
  cases exempt : mode.takesOrder with
  | true =>
      simp only [exempt, if_true] at submittedIs
      have row : (turn.submitted db).row .orders turn.orderId =
          some (order.withReceipt .awaitingReceiptReview turn.receiptFileId 0
            true) := by
        rw [submittedIs, row_modify_self, found]
        rfl
      refine ⟨?_, ⟨fun _ => rfl, fun _ => ?_⟩, _, row, own, rfl⟩
      · rw [submittedIs, testModeOf, row_modify_of_ne (by decide)]
        exact arrived
      · exact
          { isTest := ⟨_, row, rfl, storeDecimal_zero⟩
            credit := by rw [submittedIs, row_modify_of_ne (by decide)]
            ledger := fun id => by
              rw [submittedIs, row_modify_of_ne (by decide)] }
  | false =>
      simp only [exempt, Bool.false_eq_true, if_false] at submittedIs
      have row : ∃ charged, (turn.submitted db).row .orders turn.orderId =
          some charged ∧ charged.resellerId = resellerId ∧
            charged.isTestOrder = false := by
        rw [submittedIs, row_modify_self, WalletService.deducted,
          row_withLedgerEntry_of_ne (by decide) (by decide), row_reserve, found]
        exact ⟨_, rfl, own, rfl⟩
      refine ⟨?_, ⟨fun exempted => ?_, fun takesIt => ?_⟩, row⟩
      · rw [submittedIs, testModeOf, row_modify_of_ne (by decide)]
        have kept : KeepsTestMode resellerId (turn.arrival db)
            (WalletService.deducted reseller.walletCreditBalance
              order.resellerId (OrderService.commissionOf order reseller)
              order.orderCode ((turn.arrival db).nextId .walletTransactions)
              ((turn.arrival db).reserve .walletTransactions)) :=
          .trans .reserve .withLedgerEntry
        exact kept.mode.trans arrived
      · obtain ⟨charged, foundCharged, -, noTest⟩ := row
        obtain ⟨other, foundOther, isTest, -⟩ := exempted.isTest
        cases foundCharged.symm.trans foundOther
        cases noTest.symm.trans isTest
      · exact absurd takesIt Bool.false_ne_true

/-- One order after another moves the test mode on. -/
theorem OrderTurn.Takes.run (takes : turn.Takes resellerId db)
    (current : testModeOf db resellerId = some mode) :
    testModeOf (turn.run db) resellerId = some mode.afterOrder := by
  obtain ⟨sameMode, -, order, found, own, exempt⟩ := takes.submitted current
  have kept : KeepsTestMode resellerId (turn.submitted db)
      (turn.activation db) :=
    .trans takes.beforeConfirmation.runInOrder
      (.trans .withStatus takes.beforeActivation.runInOrder)
  obtain ⟨later, foundLater, ownLater, testLater⟩ :=
    kept.orders _ order found own
  have active : testModeOf (turn.activation db) resellerId = some mode :=
    kept.mode.trans sameMode
  have leaves : turn.run db =
      OrderService.orderActivated turn.orderId (turn.activation db) :=
    OrderService.runAlone_activateOrder
  rw [exempt] at testLater
  rw [leaves, OrderService.orderActivated, foundLater]
  simp only [testLater, ownLater, TestMode.afterOrder]
  split_ifs
  · rw [testModeOf, row_modify_self, row_modify_of_ne (by decide),
      Option.map_map]
    rw [testModeOf] at active
    obtain ⟨reseller, known, isMode⟩ := Option.map_eq_some_iff.mp active
    rw [known, ← isMode]
    rfl
  · rw [testModeOf, row_modify_of_ne (by decide)]
    exact active

/-- The test mode after any number of orders. -/
theorem testModeOf_afterTurns {turns : List OrderTurn}
    (current : testModeOf db resellerId = some mode)
    (inTurn : TakenInTurn resellerId db turns) :
    testModeOf (afterTurns db turns) resellerId =
      some (TestMode.afterOrder^[turns.length] mode) := by
  induction turns generalizing db mode with
  | nil => exact current
  | cons turn turns ih =>
      obtain ⟨takes, later⟩ := inTurn
      exact ih (takes.run current) later

/-- For a reseller that starts with the limit and takes its orders one after
another, the test mode exempts the orders up to the limit exactly if the limit
is a single order, or is not nearly reached. -/
theorem exemptsFirst_iff {limit : Int} {turns : List OrderTurn}
    (positive : 1 ≤ limit)
    (starts : testModeOf db resellerId = some ⟨true, limit, 0⟩)
    (inTurn : TakenInTurn resellerId db turns) :
    ExemptsFirst resellerId limit db turns ↔
      limit = 1 ∨ turns.length + 1 < limit := by
  have modeAfter : ∀ count ≤ turns.length,
      testModeOf (afterTurns db (turns.take count)) resellerId =
        some (TestMode.afterOrder^[count] ⟨true, limit, 0⟩) := by
    intro count inRange
    have prefixInTurn : TakenInTurn resellerId db (turns.take count) := by
      rw [TakenInTurn, ← List.take_append_drop count turns,
        StepRuns.along_append] at inTurn
      exact inTurn.1
    have reached := testModeOf_afterTurns starts prefixInTurn
    rw [List.length_take, min_eq_left inRange] at reached
    exact reached
  constructor
  · intro exempts
    by_contra others
    push Not at others
    obtain ⟨notOne, reached⟩ := others
    have early := exempts.mode (limit - 1).toNat (by omega)
    rw [modeAfter _ (by omega), Option.any_some,
      TestMode.enabled_iterate positive] at early
    omega
  · intro condition
    constructor
    · intro index inRange
      have takes : turns[index].Takes resellerId
          (afterTurns db (turns.take index)) := by
        rw [TakenInTurn, ← List.take_append_drop index turns,
          StepRuns.along_append, List.drop_eq_getElem_cons inRange] at inTurn
        exact inTurn.2.1
      rw [(takes.submitted (modeAfter index inRange.le)).2.1,
        TestMode.takesOrder_iterate positive]
      omega
    · intro count inRange
      rw [modeAfter count inRange, Option.any_some,
        TestMode.enabled_iterate positive]
      omega

end Turns

/-- Two orders of a reseller in test mode, whose limit is two orders. -/
def twoTestOrdersDb : Db :=
  testModeDb.modify .resellers 1 fun reseller =>
    { reseller with testModeOrderLimit := 2 }

def plainTurn (orderId : Nat) : OrderTurn :=
  ⟨orderId, {}, "photo", [], [], []⟩

theorem plainTurn_takes {db : Db} {orderId : Nat}
    (own : (db.row .orders orderId).map (·.resellerId) = some 1)
    (accepted : ((plainTurn orderId).submission.program.runAlone none db).2 =
      some (.ok (.order (((plainTurn orderId).submitted db).row .orders
        orderId)))) :
    (plainTurn orderId).Takes 1 db where
  own := own
  accepted := ⟨_, accepted⟩
  beforeReceipt := trivial
  beforeConfirmation := trivial
  beforeActivation := trivial

theorem exemptsFirst_iff_single :
    ExemptsFirst 1 1 testModeDb [plainTurn 1, plainTurn 2] ↔
      (1 : Int) = 1 ∨ (([plainTurn 1, plainTurn 2].length : Int) + 1 < 1) := by
  have inTurn : TakenInTurn 1 testModeDb [plainTurn 1, plainTurn 2] :=
    ⟨plainTurn_takes (by decide) (by decide +kernel),
      plainTurn_takes (by decide +kernel) (by decide +kernel), trivial⟩
  exact exemptsFirst_iff (by decide) (by decide) inTurn

/-- With a limit of two orders, the test mode is over after the first. -/
theorem test_mode_ends_early :
    TakenInTurn 1 twoTestOrdersDb [plainTurn 1, plainTurn 2] ∧
      testModeOf twoTestOrdersDb 1 = some ⟨true, 2, 0⟩ ∧
      ¬ ExemptsFirst 1 2 twoTestOrdersDb [plainTurn 1, plainTurn 2] := by
  refine ⟨⟨plainTurn_takes (by decide) (by decide +kernel),
    plainTurn_takes (by decide +kernel) (by decide +kernel), trivial⟩,
    by decide, fun exempts => ?_⟩
  have ended : (testModeOf (afterTurns twoTestOrdersDb [plainTurn 1]) 1).any
      (·.enabled) = false := by
    decide +kernel
  have enabled := (exempts.mode 1 (by decide)).mpr (by decide)
  exact Bool.false_ne_true (ended.symm.trans enabled)

end Baste
