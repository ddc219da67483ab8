import Baste.ServiceCalls
import Baste.PartialMatching

/-!
# The stock of charge codes

Uploads, deletions and purchases of charge codes, in any interleaving of their
statements.  A purchase locks the codes it delivers while they are available,
and writes the sold rows and their orders in one transaction; deletions only
touch available rows.  So sold rows stay as they are, and they match the
orders that deliver them one to one.
-/

namespace Baste

open Database Transaction PartialMatching

/-- What a sale leaves in the stock and in the orders. -/
structure SaleRecord where
  packageId : Nat
  code : Option String
  customerId : Option Nat
  deriving DecidableEq, Repr

def ChargeCodeRow.saleRecord (code : ChargeCodeRow) : Option SaleRecord :=
  if code.status = .sold then
    some ⟨code.packageId, some code.code, code.soldToCustomerId⟩
  else none

def OrderRow.saleRecord (order : OrderRow) : Option SaleRecord :=
  if order.orderType = .charge then
    some ⟨order.packageId, order.deliveredChargeCode, some order.customerId⟩
  else none

/-- The sold rows of the stock, with what they record. -/
def soldAs (db : Db) (codeId : Nat) : Option SaleRecord :=
  (db.row .chargeCodes codeId).bind ChargeCodeRow.saleRecord

/-- The charge orders, with what they record. -/
def deliveredAs (db : Db) (orderId : Nat) : Option SaleRecord :=
  (db.row .orders orderId).bind OrderRow.saleRecord

/-- The calls on the stock. -/
def ServiceCall.IsStockOperation : ServiceCall → Prop
  | .addChargeCodes .. | .deleteAvailableCode _ | .clearAvailableCodes _
  | .purchaseCharge .. | .purchaseChargeBulk .. => True
  | _ => False

/-- What every step on the stock keeps. -/
structure StockStep (before after : Db) : Prop where
  matched : Matched (soldAs before) (deliveredAs before) →
    Matched (soldAs after) (deliveredAs after)
  kept : ∀ codeId record, soldAs before codeId = some record →
    soldAs after codeId = some record

section Steps

variable {before after : Db}

/-- A step that leaves the sold rows and the orders as they are. -/
theorem StockStep.of_same
    (sameCodes : ∀ codeId, soldAs after codeId = soldAs before codeId)
    (sameOrders : ∀ orderId,
      after.row .orders orderId = before.row .orders orderId) :
    StockStep before after where
  matched matched := by
    have codes : soldAs after = soldAs before := funext sameCodes
    have orders : deliveredAs after = deliveredAs before := by
      funext orderId
      rw [deliveredAs, sameOrders, deliveredAs]
    rw [codes, orders]
    exact matched
  kept codeId record found := by
    rw [sameCodes]
    exact found

theorem StockStep.of_quiet (quiet : dbView.Quiet before after) :
    StockStep before after := by
  apply StockStep.of_same
  · intro codeId
    rw [soldAs, ← quiet_row quiet, soldAs]
  · intro orderId
    exact (quiet_row quiet _ orderId).symm

theorem soldAs_eq_none_of_available {db : Db} {codeId : Nat}
    {code : ChargeCodeRow} (found : db.row .chargeCodes codeId = some code)
    (available : code.status = .available) : soldAs db codeId = none := by
  simp [soldAs, found, ChargeCodeRow.saleRecord, available]

/-- A new row of the stock is not sold. -/
theorem stockStep_add (resellerId packageId : Nat) (line : String) :
    StockStep before ((before.reserve .chargeCodes).put .chargeCodes
      (before.nextId .chargeCodes)
      (ChargeService.stockRow resellerId packageId line)) := by
  apply StockStep.of_same
  · intro codeId
    by_cases new : codeId = before.nextId .chargeCodes
    · subst new
      have absent : soldAs before (before.nextId .chargeCodes) = none := by
        rw [soldAs, row_nextId, Option.bind_none]
      rw [absent]
      apply soldAs_eq_none_of_available (row_put_self (by simp))
      rfl
    · rw [soldAs, row_put_ne new, row_reserve, soldAs]
  · intro orderId
    rw [row_put_of_ne (by decide), row_reserve]

/-- Deleting available rows deletes no sold row. -/
theorem stockStep_erase {ids : List Nat}
    (available : ∀ id ∈ ids, ∃ code,
      before.row .chargeCodes id = some code ∧ code.status = .available) :
    StockStep before (before.erase .chargeCodes ids) := by
  apply StockStep.of_same
  · intro codeId
    by_cases deleted : codeId ∈ ids
    · obtain ⟨code, found, isAvailable⟩ := available codeId deleted
      rw [soldAs_eq_none_of_available found isAvailable, soldAs,
        row_erase_of_mem deleted, Option.bind_none]
    · rw [soldAs, row_erase_of_notMem deleted, soldAs]
  · intro orderId
    rw [row_erase_of_ne (by decide)]

/-- The link to the order is not part of the record of a sale. -/
theorem stockStep_link (codeId orderId : Nat) :
    StockStep before (before.modify .chargeCodes codeId
      (·.withSoldOrder orderId)) := by
  apply StockStep.of_same
  · intro other
    rw [soldAs, row_modify, soldAs]
    split_ifs
    · cases before.row .chargeCodes other <;> rfl
    · rfl
  · intro order
    rw [row_modify_of_ne (by decide)]

variable {purchase : ChargeService.Purchase} {sale : ChargeService.Sale}

theorem soldAs_deliver
    (found : before.row .chargeCodes sale.codeId = some sale.code)
    (available : ChargeService.isAvailable purchase.packageId sale.code) :
    soldAs (purchase.deliver before sale) =
      Function.update (soldAs before) sale.codeId
        (some ⟨purchase.packageId, some sale.code.code,
          some purchase.customerId⟩) := by
  funext codeId
  rw [soldAs, ChargeService.Purchase.deliver]
  by_cases same : codeId = sale.codeId
  · rw [same, Function.update_self, row_modify_self,
      row_put_of_ne (by decide), found]
    have samePackage : sale.code.packageId = purchase.packageId := by
      simp only [ChargeService.isAvailable, Bool.and_eq_true,
        decide_eq_true_eq] at available
      exact available.1
    unfold ChargeService.Purchase.sell
    split <;> simp [ChargeCodeRow.saleRecord, ChargeCodeRow.soldTo,
      ChargeCodeRow.withSoldOrder, samePackage]
  · rw [Function.update_of_ne same, row_modify_ne same,
      row_put_of_ne (by decide), soldAs]

theorem deliveredAs_deliver
    (reserved : before.Reserved .orders sale.orderId) :
    deliveredAs (purchase.deliver before sale) =
      Function.update (deliveredAs before) sale.orderId
        (some ⟨purchase.packageId, some sale.code.code,
          some purchase.customerId⟩) := by
  funext orderId
  rw [deliveredAs, ChargeService.Purchase.deliver,
    row_modify_of_ne (by decide)]
  by_cases same : orderId = sale.orderId
  · rw [same, Function.update_self, row_put_self reserved.2]
    simp [OrderRow.saleRecord, ChargeService.Purchase.order,
      ChargeService.chargeOrder]
  · rw [Function.update_of_ne same, row_put_ne same, deliveredAs]

/-- One sale: a sold row and its order appear together. -/
theorem stockStep_deliver
    (found : before.row .chargeCodes sale.codeId = some sale.code)
    (available : ChargeService.isAvailable purchase.packageId sale.code)
    (reserved : before.Reserved .orders sale.orderId) :
    StockStep before (purchase.deliver before sale) := by
  have isAvailable : sale.code.status = .available := by
    simp only [ChargeService.isAvailable, Bool.and_eq_true,
      decide_eq_true_eq] at available
    exact available.2
  have unsold := soldAs_eq_none_of_available found isAvailable
  constructor
  · intro matched
    rw [soldAs_deliver found available, deliveredAs_deliver reserved]
    apply matched.insert unsold
    rw [deliveredAs, reserved.1, Option.bind_none]
  · intro codeId record sold
    have different : codeId ≠ sale.codeId := by
      rintro rfl
      rw [unsold] at sold
      cases sold
    rw [soldAs_deliver found available, Function.update_of_ne different]
    exact sold

theorem StockStep.trans {middle : Db} (first : StockStep before middle)
    (second : StockStep middle after) : StockStep before after where
  matched matched := second.matched (first.matched matched)
  kept codeId record sold :=
    second.kept codeId record (first.kept codeId record sold)

/-- A whole purchase, sale by sale. -/
theorem stockStep_purchase {sales : List ChargeService.Sale}
    (deliverable : purchase.Deliverable before sales) (quantity : Int) :
    StockStep before
      (sales.foldl purchase.deliver (purchase.debited quantity before)) := by
  apply ChargeService.Purchase.foldl_deliver_of_invariant (StockStep before)
    ?_ (deliverable.debited quantity)
  · apply StockStep.of_same
    · intro codeId
      rw [soldAs, ChargeService.Purchase.debited,
        row_modify_of_ne (by decide), soldAs]
    · intro orderId
      rw [ChargeService.Purchase.debited, row_modify_of_ne (by decide)]
  · intro db sale found available reserved soFar
    exact soFar.trans (stockStep_deliver found available reserved)

variable {call : ServiceCall} {invariant : Db → Prop}

theorem stockStep_of_writes (operation : call.IsStockOperation)
    (writes : (call.guarantee invariant).writes before after) :
    StockStep before after := by
  cases call with
  | addChargeCodes =>
      obtain ⟨line, _, rfl⟩ := writes
      exact stockStep_add _ _ line
  | deleteAvailableCode | clearAvailableCodes =>
      obtain ⟨ids, available, rfl⟩ := writes
      exact stockStep_erase available
  | purchaseCharge | purchaseChargeBulk =>
      obtain ⟨codeId, orderId, rfl⟩ := writes
      exact stockStep_link codeId orderId
  | _ => exact operation.elim

theorem stockStep_of_commits (operation : call.IsStockOperation)
    (commits : (call.guarantee invariant).commits before after) :
    StockStep before after := by
  cases call with
  | addChargeCodes | deleteAvailableCode | clearAvailableCodes =>
      exact commits.elim
  | purchaseCharge | purchaseChargeBulk =>
      obtain ⟨price, sales, customer, _, _, deliverable, rfl⟩ := commits
      exact stockStep_purchase deliverable _
  | _ => exact operation.elim

end Steps

section Runs

variable {Caller : Type} [DecidableEq Caller]

/-- One when the code becomes a sold row. -/
def becomesSold (codeId : Nat) (system : ServiceSystem Caller)
    (event : Event Caller) : Nat :=
  if soldAs system.state codeId = none ∧
      (soldAs (system.step event).state codeId).isSome then 1
  else 0

/-- One when the code is a sold row. -/
def soldOnce (db : Db) (codeId : Nat) : Nat :=
  if (soldAs db codeId).isSome then 1 else 0

/-- The sold rows match the charge orders. -/
def StockMatched (db : Db) : Prop :=
  Matched (soldAs db) (deliveredAs db)

variable {calls : Caller → ServiceCall}

omit [DecidableEq Caller] in
theorem preserved_stockMatched
    (operations : ∀ caller, (calls caller).IsStockOperation) :
    PreservedBy StockMatched calls where
  quiet _ _ matched quiet := (StockStep.of_quiet quiet).matched matched
  writes caller _ _ matched writes :=
    (stockStep_of_writes (operations caller) writes).matched matched
  commits caller _ _ matched commits :=
    (stockStep_of_commits (operations caller) commits).matched matched

theorem stockStep_step
    (operations : ∀ caller, (calls caller).IsStockOperation)
    {system : ServiceSystem Caller} {event : Event Caller}
    (sound : SoundCalls StockMatched calls system) :
    StockStep system.state (system.step event).state := by
  cases (sound.step (preserved_stockMatched operations) event).2 with
  | quiet _ quiet => exact .of_quiet quiet
  | written _ _ writes => exact stockStep_of_writes (operations _) writes
  | committed _ commits => exact stockStep_of_commits (operations _) commits

theorem soldOnce_step {before after : Db} (step : StockStep before after)
    (codeId : Nat) :
    soldOnce before codeId +
        (if soldAs before codeId = none ∧ (soldAs after codeId).isSome then 1
          else 0) =
      soldOnce after codeId := by
  cases found : soldAs before codeId with
  | none => simp [soldOnce, found]
  | some record =>
      have kept := step.kept codeId record found
      simp [soldOnce, found, kept]

/-- In every interleaving of calls on the stock: the sold rows match the
charge orders, a sold row stays there with what it records, and no row becomes
a sold one twice. -/
theorem codes_sold_once (calls : Caller → ServiceCall)
    (operations : ∀ caller, (calls caller).IsStockOperation) (db : Db)
    (matched : StockMatched db) (events : List (Event Caller)) :
    StockMatched (runCalls db calls events).state ∧
    (∀ earlier, earlier <+: events → ∀ codeId record,
      soldAs (runCalls db calls earlier).state codeId = some record →
      soldAs (runCalls db calls events).state codeId = some record) ∧
    ∀ codeId, StepRuns.tally System.step (becomesSold codeId)
      (startCalls db calls) events ≤ 1 := by
  have preserved := preserved_stockMatched operations
  have sound : SoundCalls StockMatched calls (startCalls db calls) :=
    soundCalls_start matched
  have soundStep := fun (system : ServiceSystem Caller) (event : Event Caller)
    (sound : SoundCalls StockMatched calls system) =>
      (sound.step preserved event).1
  refine ⟨invariant_run preserved matched events, ?_, fun codeId => ?_⟩
  · rintro earlier ⟨later, rfl⟩ codeId record sold
    have soundEarlier := StepRuns.final_of_invariant _ soundStep sound earlier
    rw [runCalls, StepRuns.final_append]
    -- From here on every step keeps the sold row.
    have both := StepRuns.final_of_invariant
      (fun system => SoundCalls StockMatched calls system ∧
        soldAs system.state codeId = some record)
      (fun system event holds => ⟨soundStep system event holds.1,
        (stockStep_step operations holds.1).kept codeId record holds.2⟩)
      ⟨soundEarlier, sold⟩ later
    exact both.2
  · have total := StepRuns.tally_telescopes (SoundCalls StockMatched calls)
      (fun system => soldOnce system.state codeId)
      (fun system event sound _ => soundStep system event sound)
      (fun system event sound _ =>
        soldOnce_step (stockStep_step operations sound) codeId) sound
      (StepRuns.along_true events)
    have atMostOne : ∀ db : Db, soldOnce db codeId ≤ 1 := by
      intro db
      unfold soldOnce
      split <;> omega
    have last := atMostOne
      (StepRuns.final System.step (startCalls db calls) events).state
    change _ + StepRuns.tally System.step (becomesSold codeId) _ _ = _ at total
    omega

end Runs

/-- A bulk purchase, an upload, a second purchase and a deletion. -/
def stockCalls : Fin 4 → ServiceCall
  | 0 => .purchaseChargeBulk 1 1 1 1 fun _ => shopStamp "AA"
  | 1 => .addChargeCodes 1 1 "B1\nB2\n B1 "
  | 2 => .purchaseCharge 1 1 1 (shopStamp "BB")
  | 3 => .clearAvailableCodes 1

theorem isStockOperation_stockCalls (caller : Fin 4) :
    (stockCalls caller).IsStockOperation :=
  match caller with
  | 0 => trivial
  | 1 => trivial
  | 2 => trivial
  | 3 => trivial

theorem stockMatched_shopDb : StockMatched shopDb := by
  apply Matched.of_forall_none
  · intro codeId
    cases found : shopDb.row .chargeCodes codeId with
    | none => simp [soldAs, found]
    | some code =>
        apply soldAs_eq_none_of_available found
        have listed := KeyedTable.mem_of_row_ofRows found
        rw [List.mem_singleton] at listed
        rw [listed]
  · intro orderId
    cases found : shopDb.row .orders orderId with
    | none => simp [deliveredAs, found]
    | some order =>
        have listed := KeyedTable.mem_of_row_ofRows found
        cases listed

/-- The upload runs while the bulk purchase holds the first code, and the
deletion comes last. -/
def stockEvents : List (Event (Fin 4)) :=
  List.replicate 6 (.advance 0) ++ List.replicate 2 (.advance 1) ++
    List.replicate 6 (.advance 0) ++ List.replicate 12 (.advance 2) ++
      List.replicate 2 (.advance 3)

theorem codes_sold_once_shop :
    (soldAs (runCalls shopDb stockCalls stockEvents).state 2 =
      some ⟨1, some "B1", some 1⟩) ∧
    StockMatched (runCalls shopDb stockCalls stockEvents).state ∧
    (∀ earlier, earlier <+: stockEvents → ∀ codeId record,
      soldAs (runCalls shopDb stockCalls earlier).state codeId = some record →
      soldAs (runCalls shopDb stockCalls stockEvents).state codeId =
        some record) ∧
    ∀ codeId, StepRuns.tally System.step (becomesSold codeId)
      (startCalls shopDb stockCalls) stockEvents ≤ 1 :=
  ⟨by decide +kernel, codes_sold_once stockCalls isStockOperation_stockCalls
    shopDb stockMatched_shopDb stockEvents⟩

end Baste
