import Baste.ServiceFootprints
import Mathlib.Tactic.Linarith

/-!
# Reports of sales and the commission that was deducted

A report adds up the commission stored on the activated orders.  A commission
is deducted when a receipt is submitted, and then it is stored on the order,
but also when a customer's top-up is confirmed, and then no order carries it.
-/

namespace Database

variable {Table : Type} [DecidableEq Table] {Row : Table → Type}
variable {db : Database Table Row} {name : Table}

omit [DecidableEq Table] in
/-- The values of the rows that pass a test add up to a total. -/
theorem sum_map_idsWhere {Total : Type} [AddCommMonoid Total]
    (test : Row name → Bool) (value : Row name → Total) :
    ((db.idsWhere name test).map fun id =>
        (db.row name id).elim 0 value).sum =
      db.total name fun row => if test row then value row else 0 := by
  have upTo : ∀ bound : Nat, (((List.range bound).filter fun id =>
        (db.row name id).any test).map fun id =>
          (db.row name id).elim 0 value).sum =
      ∑ id ∈ Finset.range bound, (db.row name id).elim 0 fun row =>
        if test row then value row else 0 := by
    intro bound
    induction bound with
    | zero => rfl
    | succ bound ih =>
        rw [List.range_succ, List.filter_append, List.map_append,
          List.sum_append, ih, Finset.sum_range_succ]
        congr 1
        cases found : db.row name bound with
        | none => simp [found]
        | some row => by_cases passes : test row <;> simp [found, passes]
  exact upTo _

omit [DecidableEq Table] in
/-- Only the values of the rows matter for a total. -/
theorem total_congr_value {Total : Type} [AddCommMonoid Total]
    {value other : Row name → Total}
    (same : ∀ id row, db.row name id = some row → value row = other row) :
    db.total name value = db.total name other := by
  unfold total KeyedTable.total
  apply Finset.sum_congr rfl
  intro id _
  cases found : (db.table name).row id with
  | none => rfl
  | some row => exact same id row found

omit [DecidableEq Table] in
theorem total_of_empty {Total : Type} [AddCommMonoid Total]
    (value : Row name → Total) (empty : ∀ id, db.row name id = none) :
    db.total name value = 0 := by
  unfold total KeyedTable.total
  apply Finset.sum_eq_zero
  intro id _
  change (db.row name id).elim 0 value = 0
  rw [empty id]
  rfl

end Database

namespace Baste

open Database

/-- What `reseller_sales_summary` returns. -/
structure SalesSummary where
  orderCount : Nat
  totalSales : Cents
  totalCost : Cents
  totalCommissionPaid : Cents
  realProfit : Cents
  orders : List Nat

/-- What `platform_wide_summary` returns. -/
structure PlatformSummary where
  orderCount : Nat
  totalSales : Cents
  totalCommissionCollected : Cents
  totalResellerProfit : Cents

namespace ReportService

/-- The activated orders of some resellers that were created in the window of
the report, with a package that is there. -/
def activatedOrders (ofReseller recent : Nat → Bool) (db : Db) : List Nat :=
  (db.idsWhere .orders fun order =>
    order.status = .activated && ofReseller order.resellerId &&
      (db.row .packages order.packageId).isSome).filter recent

/-- The total of a column over some orders. -/
def sumOf (orders : List Nat) (value : OrderRow → Cents) (db : Db) : Cents :=
  (orders.map fun id => (db.row .orders id).elim 0 value).sum

/-- `cost_price or 0` of the package that was ordered. -/
def costOf (db : Db) (order : OrderRow) : Cents :=
  ((db.row .packages order.packageId).bind (·.costPrice)).getD 0

def resellerSalesSummary (resellerId : Nat) (recent : Nat → Bool) (db : Db) :
    SalesSummary :=
  let rows := activatedOrders (· = resellerId) recent db
  let totalSales := sumOf rows (·.packagePrice) db
  let totalCost := sumOf rows (costOf db) db
  let totalCommissionPaid := sumOf rows (·.commissionAmount) db
  { orderCount := rows.length
    totalSales := totalSales
    totalCost := totalCost
    totalCommissionPaid := totalCommissionPaid
    realProfit := totalSales - totalCost - totalCommissionPaid
    orders := rows }

def platformWideSummary (recent : Nat → Bool) (db : Db) : PlatformSummary :=
  let rows := activatedOrders (fun _ => true) recent db
  let totalSales := sumOf rows (·.packagePrice) db
  let totalCommission := sumOf rows (·.commissionAmount) db
  let totalCost := sumOf rows (costOf db) db
  { orderCount := rows.length
    totalSales := totalSales
    totalCommissionCollected := totalCommission
    totalResellerProfit := totalSales - totalCost - totalCommission }

end ReportService

section Books

/-- What a ledger row counts for in the commission deducted from some
resellers. -/
def deductedFrom (ofReseller : Nat → Bool) (entry : WalletTransactionRow) :
    Cents :=
  if entry.type = .commissionDeduction ∧ ofReseller entry.resellerId then
    -entry.amount
  else 0

/-- The commission deducted from some resellers. -/
def commissionDeducted (ofReseller : Nat → Bool) (db : Db) : Cents :=
  db.total .walletTransactions (deductedFrom ofReseller)

/-- The commission that an order carries, unless its deduction failed. -/
def OrderRow.charged (order : OrderRow) : Cents :=
  if order.status = .failedInsufficientCredit then 0
  else order.commissionAmount

/-- The commission that the orders of some resellers carry. -/
def commissionCarried (ofReseller : Nat → Bool) (db : Db) : Cents :=
  db.total .orders fun order =>
    if ofReseller order.resellerId then order.charged else 0

/-- The commission of every reseller that was deducted is carried by its
orders. -/
def CommissionCarried (db : Db) : Prop :=
  ∀ ofReseller : Nat → Bool,
    commissionDeducted ofReseller db = commissionCarried ofReseller db

/-- The books of the commission stay as far apart as they are. -/
def KeepsBooks (before after : Db) : Prop :=
  ∀ ofReseller : Nat → Bool,
    commissionDeducted ofReseller after + commissionCarried ofReseller before =
      commissionDeducted ofReseller before + commissionCarried ofReseller after

/-- There is no order that is not activated. -/
def AllActivated (db : Db) : Prop :=
  db.idsWhere .orders (fun order => order.status ≠ .activated) = []

instance (db : Db) : Decidable (AllActivated db) :=
  inferInstanceAs (Decidable (_ = _))

/-- Every order's package is there. -/
def PackagesThere (db : Db) : Prop :=
  db.idsWhere .orders
    (fun order => (db.row .packages order.packageId).isNone) = []

instance (db : Db) : Decidable (PackagesThere db) :=
  inferInstanceAs (Decidable (_ = _))

/-- The reports whose window covers all orders show the commission that was
deducted. -/
structure ReportsDeductions (db : Db) : Prop where
  reseller : ∀ (resellerId : Nat) (recent : Nat → Bool),
    (∀ id order, db.row .orders id = some order → recent id = true) →
      let summary := ReportService.resellerSalesSummary resellerId recent db
      let deducted := commissionDeducted (· = resellerId) db
      summary.totalCommissionPaid = deducted ∧
        summary.realProfit =
          summary.totalSales - summary.totalCost - deducted
  platform : ∀ recent : Nat → Bool,
    (∀ id order, db.row .orders id = some order → recent id = true) →
      (ReportService.platformWideSummary recent db).totalCommissionCollected =
        commissionDeducted (fun _ => true) db

end Books

section Calls

/-- The calls that sell and that decide on payments.  Commission is deducted
and refunded by itself in no handler, and disputes are left out. -/
def ServiceCall.isSale : ServiceCall → Bool
  | .deductCommission .. | .refundCommission .. | .createDispute ..
  | .approveDispute _ | .rejectDispute _ => false
  | _ => true

/-- A receipt is submitted for an order that carries no commission yet, an
order whose deduction failed is not decided on as if it had been charged, and
a confirmed top-up costs no commission. -/
def ServiceCall.ChargesOnce (db : Db) : ServiceCall → Prop
  | .submitReceipt _ orderId _ =>
      ∀ order ∈ db.row .orders orderId, order.charged = 0
  | .confirmOrder orderId | .rejectOrder orderId | .activateOrder orderId =>
      ∀ order ∈ db.row .orders orderId,
        order.status = .failedInsufficientCredit → order.commissionAmount = 0
  | .confirmCustomerTopup topupId =>
      ∀ topup ∈ db.row .customerWalletTopups topupId,
        topup.status = .pending →
          ∀ reseller ∈ db.row .resellers topup.resellerId,
            storeDecimal (CustomerWalletService.commissionOf topup reseller) =
              0
  | _ => True

instance (db : Db) (call : ServiceCall) : Decidable (call.ChargesOnce db) := by
  unfold ServiceCall.ChargesOnce
  cases call <;> infer_instance

/-- A sale, or anything else that leaves the books of the commission as they
are and takes no package of an order away, such as a discount, a new request
for a top-up or a new rate. -/
inductive SalesEvent where
  | call (call : ServiceCall) (isSale : call.isSale = true)
  | elsewhere (change : Db → Db) (keeps : ∀ db, KeepsBooks db (change db))
      (packages : ∀ db, PackagesThere db → PackagesThere (change db))

namespace SalesEvent

def step (db : Db) : SalesEvent → Db
  | .call service _ => service.runAlone db
  | .elsewhere change _ _ => change db

def ChargesOnce (db : Db) : SalesEvent → Prop
  | .call service _ => service.ChargesOnce db
  | .elsewhere _ _ _ => True

instance (db : Db) (event : SalesEvent) : Decidable (event.ChargesOnce db) := by
  unfold ChargesOnce
  cases event <;> infer_instance

end SalesEvent

end Calls

section Steps

variable {before mid after db : Db} {ofReseller : Nat → Bool}

theorem KeepsBooks.refl (db : Db) : KeepsBooks db db :=
  fun _ => rfl

theorem KeepsBooks.trans (first : KeepsBooks before mid)
    (second : KeepsBooks mid after) : KeepsBooks before after := by
  intro ofReseller
  have one := first ofReseller
  have two := second ofReseller
  linarith

/-- The books only depend on the orders and the ledger. -/
theorem KeepsBooks.of_totals
    (sameDeducted : ∀ ofReseller, commissionDeducted ofReseller after =
      commissionDeducted ofReseller before)
    (sameCarried : ∀ ofReseller, commissionCarried ofReseller after =
      commissionCarried ofReseller before) : KeepsBooks before after := by
  intro ofReseller
  rw [sameDeducted, sameCarried]

theorem KeepsBooks.of_rows
    (sameEntries : ∀ id, after.row .walletTransactions id =
      before.row .walletTransactions id)
    (sameOrders : ∀ id, after.row .orders id = before.row .orders id) :
    KeepsBooks before after :=
  .of_totals (fun _ => total_congr _ sameEntries)
    fun _ => total_congr _ sameOrders

theorem KeepsBooks.of_sameOutside {tables : List TableName}
    (same : SameOutside tables before after) (noOrders : .orders ∉ tables)
    (noEntries : .walletTransactions ∉ tables) : KeepsBooks before after :=
  .of_rows (same.rows _ noEntries) (same.rows _ noOrders)

/-- A new order without commission. -/
theorem KeepsBooks.put_order {id : Nat} {order : OrderRow}
    (reserved : db.Reserved .orders id) (free : order.charged = 0) :
    KeepsBooks db (db.put .orders id order) := by
  apply KeepsBooks.of_totals
  · exact fun _ => total_put_of_ne (by decide) _
  · intro ofReseller
    rw [commissionCarried, total_put reserved, free, ite_self, add_zero]
    rfl

/-- An order whose charge stays the same. -/
theorem KeepsBooks.modify_order {id : Nat} {change : OrderRow → OrderRow}
    (sameReseller : ∀ order, (change order).resellerId = order.resellerId)
    (sameCharge : ∀ order, db.row .orders id = some order →
      (change order).charged = order.charged) :
    KeepsBooks db (db.modify .orders id change) := by
  apply KeepsBooks.of_totals
  · exact fun _ => total_modify_of_ne (by decide) _
  · intro ofReseller
    cases found : db.row .orders id with
    | none =>
        exact total_congr _ fun _ => row_modify_absent found
    | some order =>
        have sum := total_modify found change fun order =>
          if ofReseller order.resellerId then order.charged else 0
        rw [sameReseller, sameCharge order found] at sum
        exact add_right_cancel sum

/-- A deduction adds to the ledger of its reseller. -/
theorem commissionDeducted_deducted {balance : Cents} {resellerId id : Nat}
    {amount : Rat} {orderCode : String}
    (reserved : db.Reserved .walletTransactions id) :
    commissionDeducted ofReseller
        (WalletService.deducted balance resellerId amount orderCode id db) =
      commissionDeducted ofReseller db +
        if ofReseller resellerId then storeDecimal amount else 0 := by
  rw [commissionDeducted, WalletService.deducted,
    total_withLedgerEntry reserved]
  simp [deductedFrom, WalletService.deductionEntry, storeDecimal_neg,
    commissionDeducted]

theorem commissionCarried_deducted {balance : Cents} {resellerId id : Nat}
    {amount : Rat} {orderCode : String} :
    commissionCarried ofReseller
        (WalletService.deducted balance resellerId amount orderCode id db) =
      commissionCarried ofReseller db :=
  total_congr _ fun _ =>
    row_withLedgerEntry_of_ne (by decide) (by decide)

/-- What an uncharged order carries after its receipt. -/
theorem commissionCarried_withReceipt {orderId : Nat} {order : OrderRow}
    {status : OrderStatus} {receiptFileId : String} {commission : Rat}
    {isTest : Bool} (found : db.row .orders orderId = some order)
    (uncharged : order.charged = 0) :
    commissionCarried ofReseller (db.modify .orders orderId
        (·.withReceipt status receiptFileId commission isTest)) =
      commissionCarried ofReseller db +
        if ofReseller order.resellerId then
          (order.withReceipt status receiptFileId commission isTest).charged
        else 0 := by
  have sum := total_modify found
    (·.withReceipt status receiptFileId commission isTest)
    fun order => if ofReseller order.resellerId then order.charged else 0
  rw [uncharged, ite_self, add_zero] at sum
  exact sum

/-- The commission of an order that carries none is deducted and stored. -/
theorem KeepsBooks.charged {orderId id : Nat} {order : OrderRow}
    {balance : Cents} {amount : Rat} {receiptFileId : String}
    (found : db.row .orders orderId = some order)
    (uncharged : order.charged = 0)
    (reserved : db.Reserved .walletTransactions id) :
    KeepsBooks db ((WalletService.deducted balance order.resellerId amount
      order.orderCode id db).modify .orders orderId
        (·.withReceipt .awaitingReceiptReview receiptFileId amount false)) := by
  intro ofReseller
  have stillFound : (WalletService.deducted balance order.resellerId amount
      order.orderCode id db).row .orders orderId = some order := by
    rw [WalletService.deducted,
      row_withLedgerEntry_of_ne (by decide) (by decide), found]
  have sameDeducted : commissionDeducted ofReseller
      ((WalletService.deducted balance order.resellerId amount
        order.orderCode id db).modify .orders orderId
          (·.withReceipt .awaitingReceiptReview receiptFileId amount false)) =
        commissionDeducted ofReseller (WalletService.deducted balance
          order.resellerId amount order.orderCode id db) :=
    total_modify_of_ne (by decide) _
  have charges : (order.withReceipt .awaitingReceiptReview receiptFileId
      amount false).charged = storeDecimal amount :=
    rfl
  rw [sameDeducted, commissionDeducted_deducted reserved,
    commissionCarried_withReceipt stillFound uncharged,
    commissionCarried_deducted, charges]
  ring

theorem KeepsBooks.reserve (name : TableName) :
    KeepsBooks db (db.reserve name) :=
  .of_rows (fun _ => row_reserve) fun _ => row_reserve

/-- A receipt for an order that carries no commission. -/
theorem keepsBooks_receiptSubmitted {config : Config} {orderId : Nat}
    {receiptFileId : String}
    (uncharged : ∀ order ∈ db.row .orders orderId, order.charged = 0) :
    KeepsBooks db
      (OrderService.receiptSubmitted config orderId receiptFileId db) := by
  unfold OrderService.receiptSubmitted
  cases found : db.row .orders orderId with
  | none => exact .refl db
  | some order =>
      have isFree := uncharged order found
      dsimp only
      split
      · exact .refl db
      cases db.row .resellers order.resellerId with
      | none => exact .refl db
      | some reseller =>
          dsimp only
          have free : ∀ {status : OrderStatus} {commission : Rat}
              {isTest : Bool},
              (order.withReceipt status receiptFileId commission
                isTest).charged = 0 →
              KeepsBooks db (db.modify .orders orderId
                (·.withReceipt status receiptFileId commission isTest)) := by
            intro status commission isTest charges
            apply KeepsBooks.of_totals
            · exact fun _ => total_modify_of_ne (by decide) _
            · intro ofReseller
              rw [commissionCarried_withReceipt found isFree, charges,
                ite_self, add_zero]
          split_ifs with isTest exceeds
          · apply free
            have nothing : storeDecimal 0 = 0 := by simp
            simp [OrderRow.charged, OrderRow.withReceipt, nothing]
          · exact free rfl
          · have stillFound : (db.reserve .walletTransactions).row .orders
                orderId = some order := by
              rw [row_reserve, found]
            exact (KeepsBooks.reserve _).trans
              (.charged stillFound isFree (reserved_reserve db _))

/-- A top-up that costs no commission is confirmed. -/
theorem keepsBooks_topupConfirmed {topupId : Nat}
    (free : ServiceCall.ChargesOnce db (.confirmCustomerTopup topupId)) :
    KeepsBooks db (CustomerWalletService.topupConfirmed topupId db) := by
  unfold CustomerWalletService.topupConfirmed
  have status : ∀ (mid : Db) (status : TopupStatus), KeepsBooks mid
      (mid.modify .customerWalletTopups topupId (·.withStatus status)) :=
    fun mid status => .of_rows (fun _ => row_modify_of_ne (by decide))
      fun _ => row_modify_of_ne (by decide)
  have credited : ∀ (topup : CustomerWalletTopupRow) (mid : Db),
      KeepsBooks mid (CustomerWalletService.credited topup mid) :=
    fun topup mid => .of_rows (fun _ => row_modify_of_ne (by decide))
      fun _ => row_modify_of_ne (by decide)
  cases found : db.row .customerWalletTopups topupId with
  | none => exact .refl db
  | some topup =>
      dsimp only
      split
      · exact .refl db
      next isPending =>
      cases foundReseller : db.row .resellers topup.resellerId with
      | none => exact .refl db
      | some reseller =>
          dsimp only
          split
          · exact (credited topup db).trans (status _ _)
          · have noFee := free topup found (not_not.mp isPending) reseller
              foundReseller
            have reserved : (CustomerWalletService.credited topup
                (db.reserve .walletTransactions)).Reserved
                  .walletTransactions (db.nextId .walletTransactions) := by
              constructor
              · rw [CustomerWalletService.credited,
                  row_modify_of_ne (by decide)]
                exact (reserved_reserve db _).1
              · exact (reserved_reserve db _).2
            have deducts : KeepsBooks (CustomerWalletService.credited topup
                (db.reserve .walletTransactions))
                (WalletService.deducted reseller.walletCreditBalance
                  topup.resellerId
                  (CustomerWalletService.commissionOf topup reseller)
                  (CustomerWalletService.topupReference topupId)
                  (db.nextId .walletTransactions)
                  (CustomerWalletService.credited topup
                    (db.reserve .walletTransactions))) := by
              apply KeepsBooks.of_totals
              · intro ofReseller
                rw [commissionDeducted_deducted reserved, noFee, ite_self,
                  add_zero]
              · exact fun _ => commissionCarried_deducted
            exact (KeepsBooks.reserve _).trans
              ((credited topup _).trans (deducts.trans (status _ _)))

/-- A decision on an order whose deduction has not failed. -/
theorem keepsBooks_withStatus {orderId : Nat} {status : OrderStatus}
    (decided : status ≠ .failedInsufficientCredit)
    (notFailed : ∀ order ∈ db.row .orders orderId,
      order.status = .failedInsufficientCredit →
        order.commissionAmount = 0) :
    KeepsBooks db (db.modify .orders orderId (·.withStatus status)) := by
  apply KeepsBooks.modify_order
  · exact fun _ => rfl
  · intro order found
    unfold OrderRow.charged
    change (if status = _ then 0 else order.commissionAmount) = _
    rw [if_neg decided]
    split
    · next failed => exact notFailed order found failed
    · rfl

/-- A call keeps the books if its statements and its transactions do. -/
theorem keepsBooks_of_guarantee {call : ServiceCall}
    (writes : ∀ {invariant before after},
      (call.guarantee invariant).writes before after →
        KeepsBooks before after)
    (commits : ∀ {invariant before after},
      (call.guarantee invariant).commits before after →
        KeepsBooks before after) :
    KeepsBooks db (call.runAlone db) := by
  let invariant : Db → Prop := KeepsBooks db
  have preserves : Transaction.System.Preserves dbView invariant
      fun _ : Unit => call.guarantee invariant :=
    { quiet := fun _ _ holds quiet => holds.trans
        (.of_rows (fun id => (quiet_row quiet _ id).symm)
          fun id => (quiet_row quiet _ id).symm)
      writes := fun _ _ _ holds write => holds.trans (writes write)
      commits := fun _ _ _ holds commit => holds.trans (commits commit) }
  exact (call.safe_program invariant db).runAlone preserves (.refl db)

theorem keepsBooks_customers (id : Nat) (change : CustomerRow → CustomerRow) :
    KeepsBooks db (db.modify .customers id change) :=
  .of_rows (fun _ => row_modify_of_ne (by decide))
    fun _ => row_modify_of_ne (by decide)

theorem reserved_customers {orderId id : Nat}
    {change : CustomerRow → CustomerRow}
    (reserved : db.Reserved .orders orderId) :
    (db.modify .customers id change).Reserved .orders orderId :=
  ⟨(row_modify_of_ne (by decide)).trans reserved.1, by simpa using reserved.2⟩

/-- An order for a charge code carries no commission. -/
theorem keepsBooks_deliver (purchase : ChargeService.Purchase)
    {sale : ChargeService.Sale} (reserved : db.Reserved .orders sale.orderId) :
    KeepsBooks db (purchase.deliver db sale) := by
  have ordered : KeepsBooks db
      (db.put .orders sale.orderId (purchase.order sale)) :=
    .put_order reserved rfl
  exact ordered.trans (.of_rows (fun _ => row_modify_of_ne (by decide))
    fun _ => row_modify_of_ne (by decide))

/-- A statement that is no decision on an order keeps the books. -/
theorem keepsBooks_of_writes {invariant : Db → Prop} {call : ServiceCall}
    (noDecision : ∀ orderId, call ≠ .confirmOrder orderId ∧
      call ≠ .rejectOrder orderId ∧ call ≠ .activateOrder orderId)
    (isSale : call.isSale = true)
    (writes : (call.guarantee invariant).writes before after) :
    KeepsBooks before after := by
  cases call with
  | createOrder =>
      obtain ⟨_, _, rfl⟩ := writes
      exact (KeepsBooks.reserve _).trans
        (.put_order (reserved_reserve before _) rfl)
  | rejectCustomerTopup =>
      cases writes
      exact .of_rows (fun _ => row_modify_of_ne (by decide))
        fun _ => row_modify_of_ne (by decide)
  | addChargeCodes | deleteAvailableCode | clearAvailableCodes =>
      exact .of_sameOutside (ServiceCall.sameOutside_of_writes writes)
        (by simp [ServiceCall.tables]) (by simp [ServiceCall.tables])
  | purchaseCharge | purchaseChargeBulk =>
      obtain ⟨_, _, rfl⟩ := writes
      exact .of_rows (fun _ => row_modify_of_ne (by decide))
        fun _ => row_modify_of_ne (by decide)
  | confirmOrder orderId => exact absurd rfl (noDecision orderId).1
  | rejectOrder orderId => exact absurd rfl (noDecision orderId).2.1
  | activateOrder orderId => exact absurd rfl (noDecision orderId).2.2
  | createDispute | approveDispute | rejectDispute => cases isSale
  | _ => exact writes.elim

/-- A transaction that deducts no commission keeps the books. -/
theorem keepsBooks_of_commits {invariant : Db → Prop} {call : ServiceCall}
    (noReceipt : ∀ config orderId receiptFileId,
      call ≠ .submitReceipt config orderId receiptFileId)
    (noTopup : ∀ topupId, call ≠ .confirmCustomerTopup topupId)
    (isSale : call.isSale = true)
    (commits : (call.guarantee invariant).commits before after) :
    KeepsBooks before after := by
  cases call with
  | deductCommission | refundCommission | approveDispute => cases isSale
  | requestTopup resellerId amount method reference =>
      obtain ⟨id, reserved, rfl⟩ := commits
      apply KeepsBooks.of_totals
      · intro ofReseller
        rw [commissionDeducted, total_put reserved]
        exact add_zero _
      · exact fun _ => total_put_of_ne (by decide) _
  | confirmTopup transactionId =>
      obtain ⟨entry, reseller, -, -, -, rfl⟩ := commits
      apply KeepsBooks.of_totals
      · intro ofReseller
        rw [commissionDeducted, total_modify_of_ne (by decide)]
        exact total_modify_of_value_eq _ fun _ _ => rfl
      · intro ofReseller
        rw [commissionCarried, total_modify_of_ne (by decide),
          total_modify_of_ne (by decide)]
        rfl
  | createOrderPaidByWallet =>
      obtain ⟨_, _, _, _, _, _, reserved, rfl⟩ := commits
      exact (keepsBooks_customers _ _).trans
        (.put_order (reserved_customers reserved) rfl)
  | purchaseCharge | purchaseChargeBulk =>
      obtain ⟨price, sales, customer, _, _, deliverable, rfl⟩ := commits
      apply ChargeService.Purchase.foldl_deliver_of_invariant
        (KeepsBooks before) ?_ (deliverable.debited sales.length)
      · exact keepsBooks_customers _ _
      · intro db sale _ _ reserved soFar
        exact soFar.trans (keepsBooks_deliver _ reserved)
  | submitReceipt config orderId receiptFileId =>
      exact absurd rfl (noReceipt config orderId receiptFileId)
  | confirmCustomerTopup topupId => exact absurd rfl (noTopup topupId)
  | _ => exact commits.elim

/-- A sale keeps the books if it charges every commission once. -/
theorem ServiceCall.keepsBooks {call : ServiceCall}
    (isSale : call.isSale = true) (once : call.ChargesOnce db) :
    KeepsBooks db (call.runAlone db) := by
  have others : (∀ orderId, call ≠ .confirmOrder orderId ∧
      call ≠ .rejectOrder orderId ∧ call ≠ .activateOrder orderId) →
      (∀ config orderId receiptFileId,
        call ≠ .submitReceipt config orderId receiptFileId) →
      (∀ topupId, call ≠ .confirmCustomerTopup topupId) →
        KeepsBooks db (call.runAlone db) :=
    fun noDecision noReceipt noTopup => keepsBooks_of_guarantee
      (keepsBooks_of_writes noDecision isSale)
      (keepsBooks_of_commits noReceipt noTopup isSale)
  cases call with
  | submitReceipt config orderId receiptFileId =>
      have alone : (submitReceipt config orderId receiptFileId).runAlone db =
          OrderService.receiptSubmitted config orderId receiptFileId db :=
        OrderService.runAlone_submitReceipt
      rw [alone]
      exact keepsBooks_receiptSubmitted once
  | confirmOrder orderId =>
      exact keepsBooks_withStatus OrderStatus.noConfusion once
  | rejectOrder orderId =>
      exact keepsBooks_withStatus OrderStatus.noConfusion once
  | activateOrder orderId =>
      have alone : (activateOrder orderId).runAlone db =
          OrderService.orderActivated orderId db :=
        OrderService.runAlone_activateOrder
      have activated := @keepsBooks_withStatus db orderId .activated
        OrderStatus.noConfusion once
      rw [alone, OrderService.orderActivated]
      cases db.row .orders orderId with
      | none => exact activated
      | some order =>
          dsimp only
          split
          · exact activated.trans (.of_rows
              (fun _ => row_modify_of_ne (by decide))
              fun _ => row_modify_of_ne (by decide))
          · exact activated
  | confirmCustomerTopup topupId =>
      have alone : (confirmCustomerTopup topupId).runAlone db =
          CustomerWalletService.topupConfirmed topupId db :=
        CustomerWalletService.runAlone_confirmTopup
      rw [alone]
      exact keepsBooks_topupConfirmed once
  | _ =>
      exact others (fun _ => ⟨nofun, nofun, nofun⟩) (fun _ _ _ => nofun)
        fun _ => nofun

end Steps

section Reports

variable {db : Db} {ofReseller recent : Nat → Bool}

/-- When all orders are activated, a report over all of them adds up the
commission that they carry. -/
theorem sumOf_activatedOrders (activated : AllActivated db)
    (packages : PackagesThere db)
    (covered : ∀ id order, db.row .orders id = some order →
      recent id = true) :
    ReportService.sumOf
        (ReportService.activatedOrders ofReseller recent db)
        (·.commissionAmount) db =
      commissionCarried ofReseller db := by
  have isActivated : ∀ id order, db.row .orders id = some order →
      order.status = .activated := by
    intro id order found
    by_contra other
    have member : id ∈ db.idsWhere .orders
        (fun order => order.status ≠ .activated) :=
      mem_idsWhere.mpr ⟨order, found, decide_eq_true other⟩
    rw [activated] at member
    cases member
  have isThere : ∀ id order, db.row .orders id = some order →
      (db.row .packages order.packageId).isSome = true := by
    intro id order found
    by_contra missing
    have member : id ∈ db.idsWhere .orders
        (fun order => (db.row .packages order.packageId).isNone) :=
      mem_idsWhere.mpr ⟨order, found, by simpa using missing⟩
    rw [packages] at member
    cases member
  have allRecent : ReportService.activatedOrders ofReseller recent db =
      db.idsWhere .orders fun order =>
        order.status = .activated && ofReseller order.resellerId &&
          (db.row .packages order.packageId).isSome := by
    apply List.filter_eq_self.mpr
    intro id member
    obtain ⟨order, found, -⟩ := mem_idsWhere.mp member
    exact covered id order found
  rw [ReportService.sumOf, allRecent, sum_map_idsWhere]
  apply total_congr_value
  intro id order found
  rw [isActivated id order found, isThere id order found, OrderRow.charged,
    isActivated id order found]
  simp

theorem CommissionCarried.reportsDeductions (carried : CommissionCarried db)
    (activated : AllActivated db) (packages : PackagesThere db) :
    ReportsDeductions db where
  reseller resellerId recent covered := by
    have paid : (ReportService.resellerSalesSummary resellerId recent
        db).totalCommissionPaid =
          commissionDeducted (· = resellerId) db := by
      rw [carried]
      exact sumOf_activatedOrders activated packages covered
    refine ⟨paid, ?_⟩
    rw [← paid]
    rfl
  platform recent covered := by
    rw [carried]
    exact sumOf_activatedOrders activated packages covered

end Reports

section Runs

theorem SalesEvent.keepsBooks {db : Db} {event : SalesEvent}
    (once : event.ChargesOnce db) : KeepsBooks db (event.step db) := by
  cases event with
  | call call isSale => exact call.keepsBooks isSale once
  | elsewhere change keeps => exact keeps db

/-- The orders carry the commission that was deducted after every run in which
every commission is charged once. -/
theorem commissionCarried_final {start : Db} {events : List SalesEvent}
    (carried : CommissionCarried start)
    (once : StepRuns.Along SalesEvent.step SalesEvent.ChargesOnce start events) :
    CommissionCarried
      (StepRuns.final SalesEvent.step start
        events) := by
  have kept := (StepRuns.along_of_guarded CommissionCarried
    (fun _ _ => True) (fun db event holds once => ?_) carried once).2
  · exact kept
  · refine ⟨trivial, fun ofReseller => ?_⟩
    have books := SalesEvent.keepsBooks once ofReseller
    have before := holds ofReseller
    linarith

end Runs

end Baste
