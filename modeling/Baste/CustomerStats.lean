import Baste.GroupedTotals
import Baste.OrderPackages

/-!
# Statistics of customers and reports of sales

The statistics group the activated orders by customer, the reports add them up
by reseller and over the whole platform.  As long as no order mixes a reseller
with the customer of another, they all show the same sales.
-/

namespace Database

variable {Table : Type} {Row : Table → Type} {db : Database Table Row}
variable {name : Table}

/-- A test of ids that looks at their rows. -/
theorem filter_idsWhere {test other : Row name → Bool} {keep : Nat → Bool}
    (same : ∀ id row, db.row name id = some row →
      (test row && keep id) = other row) :
    (db.idsWhere name test).filter keep = db.idsWhere name other := by
  unfold idsWhere KeyedTable.idsWhere
  rw [List.filter_filter]
  apply List.filter_congr
  intro id _
  cases found : (db.table name).row id with
  | none => simp
  | some row =>
      rw [Option.any_some, Option.any_some, Bool.and_comm]
      exact same id row found

end Database

namespace Baste

open Database GroupedTotals

namespace CustomerStatsService

/-- The activated orders of a customer, in whatever shop. -/
def ordersOf (db : Db) (customerId : Nat) : List Nat :=
  db.idsWhere .orders fun order =>
    order.customerId = customerId && order.status = .activated

/-- The customers of the reseller with such orders: `GROUP BY cu.id`. -/
def buyers (resellerId : Nat) (db : Db) : List Nat :=
  (db.idsWhere .customers (·.resellerId = resellerId)).filter fun id =>
    ordersOf db id ≠ []

/-- A row of `top_customers`. -/
structure CustomerTotal where
  telegramUserId : Int
  orderCount : Nat
  totalSpent : Cents
  deriving DecidableEq, Repr

def totalOf (db : Db) (customerId : Nat) : CustomerTotal where
  telegramUserId :=
    (db.row .customers customerId).elim 0 (·.telegramUserId)
  orderCount := (ordersOf db customerId).length
  totalSpent :=
    ReportService.sumOf (ordersOf db customerId) (·.packagePrice) db

/-- The server may return this from `top_customers`: it sorts the customers by
what they have spent, and leaves those who have spent the same in any
order. -/
def IsTopCustomers (resellerId limit : Nat) (db : Db)
    (top : List CustomerTotal) : Prop :=
  ∃ ordered : List CustomerTotal,
    ordered.Perm ((buyers resellerId db).map (totalOf db)) ∧
      ordered.Pairwise (fun first second =>
        second.totalSpent ≤ first.totalSpent) ∧
      top = ordered.take limit

/-- `top_customers` of a server that keeps the order of the ids. -/
def topCustomers (resellerId limit : Nat) (db : Db) : List CustomerTotal :=
  (((buyers resellerId db).map (totalOf db)).mergeSort fun first second =>
    second.totalSpent ≤ first.totalSpent).take limit

/-- What `repeat_customer_rate` counts. -/
structure RepeatCustomers where
  totalCustomers : Nat
  repeatCustomers : Nat
  deriving DecidableEq, Repr

def repeatCustomerRate (resellerId : Nat) (db : Db) : RepeatCustomers where
  totalCustomers := (buyers resellerId db).length
  repeatCustomers :=
    (buyers resellerId db).countP fun id => 1 < (ordersOf db id).length

theorem isTopCustomers_topCustomers (resellerId limit : Nat) (db : Db) :
    IsTopCustomers resellerId limit db (topCustomers resellerId limit db) := by
  refine ⟨_, List.mergeSort_perm _ _, ?_, rfl⟩
  have sorted := @List.pairwise_mergeSort CustomerTotal
    (fun first second => decide (second.totalSpent ≤ first.totalSpent))
    (fun first second third => ?_) (fun first second => ?_)
    ((buyers resellerId db).map (totalOf db))
  · exact sorted.imp fun le => of_decide_eq_true le
  · simp only [decide_eq_true_eq]
    exact fun start rest => le_trans rest start
  · simp only [Bool.or_eq_true, decide_eq_true_eq]
    exact le_total _ _

section Agreement

variable {resellerId : Nat} {db : Db}

/-- The customer of the order with this id. -/
def customerOf (db : Db) (orderId : Nat) : Nat :=
  (db.row .orders orderId).elim 0 (·.customerId)

/-- The activated orders of the reseller, of all times. -/
abbrev soldOrders (resellerId : Nat) (db : Db) : List Nat :=
  ReportService.activatedOrders (· = resellerId) (fun _ => true) db

theorem soldOrders_eq (packages : PackagesThere db) :
    soldOrders resellerId db = db.idsWhere .orders fun order =>
      order.status = .activated && order.resellerId = resellerId := by
  apply filter_idsWhere
  intro id order found
  rw [packagesThere_iff.mp packages id order found]
  simp

/-- An order of a customer of the reseller is an order of the reseller. -/
theorem groupItems_soldOrders {customerId : Nat} {customer : CustomerRow}
    (parties : PartiesMatch db) (packages : PackagesThere db)
    (isCustomer : db.row .customers customerId = some customer)
    (ofReseller : customer.resellerId = resellerId) :
    groupItems (customerOf db) (soldOrders resellerId db) customerId =
      ordersOf db customerId := by
  unfold groupItems ordersOf
  rw [soldOrders_eq packages]
  apply filter_idsWhere
  intro id order found
  have isCustomerOf : customerOf db id = order.customerId := by
    rw [customerOf, found]
    rfl
  rw [isCustomerOf]
  by_cases same : order.customerId = customerId
  · obtain ⟨userId, other, isOther, sameReseller, -⟩ := parties id order found
    rw [same] at isOther
    cases isOther.symm.trans isCustomer
    have match_ : order.resellerId = resellerId := by
      rw [← sameReseller, ofReseller]
    simp [same, match_]
  · simp [same]

theorem mem_ordersOf {customerId orderId : Nat} :
    orderId ∈ ordersOf db customerId ↔
      ∃ order, db.row .orders orderId = some order ∧
        order.customerId = customerId ∧ order.status = .activated := by
  unfold ordersOf
  simp [mem_idsWhere]

theorem nodup_buyers : (buyers resellerId db).Nodup :=
  ((db.table .customers).idsWhere_nodup _).filter _

theorem mem_buyers {customerId : Nat} :
    customerId ∈ buyers resellerId db ↔
      (∃ customer, db.row .customers customerId = some customer ∧
        customer.resellerId = resellerId) ∧ ordersOf db customerId ≠ [] := by
  unfold buyers
  simp [mem_idsWhere]

/-- Who has ordered at the reseller is one of its buyers. -/
theorem customerOf_mem_buyers (parties : PartiesMatch db)
    (packages : PackagesThere db) {orderId : Nat}
    (sold : orderId ∈ soldOrders resellerId db) :
    customerOf db orderId ∈ buyers resellerId db := by
  rw [soldOrders_eq packages] at sold
  obtain ⟨order, found, test⟩ := mem_idsWhere.mp sold
  simp only [Bool.and_eq_true, decide_eq_true_eq] at test
  obtain ⟨isActivated, ofReseller⟩ := test
  have isCustomerOf : customerOf db orderId = order.customerId := by
    rw [customerOf, found]
    rfl
  rw [isCustomerOf, mem_buyers]
  obtain ⟨userId, customer, isCustomer, sameReseller, -⟩ :=
    parties orderId order found
  refine ⟨⟨customer, isCustomer, sameReseller.trans ofReseller⟩, ?_⟩
  exact List.ne_nil_of_mem
    (mem_ordersOf.mpr ⟨order, found, rfl, isActivated⟩)

theorem groupItems_of_mem_buyers (parties : PartiesMatch db)
    (packages : PackagesThere db) {customerId : Nat}
    (buyer : customerId ∈ buyers resellerId db) :
    groupItems (customerOf db) (soldOrders resellerId db) customerId =
      ordersOf db customerId := by
  obtain ⟨⟨customer, isCustomer, ofReseller⟩, -⟩ := mem_buyers.mp buyer
  exact groupItems_soldOrders parties packages isCustomer ofReseller

/-- The values of the orders of all groups add up to those of all orders. -/
theorem sum_sumOf {groupOf : Nat → Nat} {groups orders : List Nat}
    {part : Nat → List Nat} {value : OrderRow → Cents}
    (distinct : groups.Nodup)
    (grouped : ∀ id ∈ orders, groupOf id ∈ groups)
    (isPart : ∀ group ∈ groups, groupItems groupOf orders group = part group) :
    (groups.map fun group => ReportService.sumOf (part group) value db).sum =
      ReportService.sumOf orders value db := by
  have totals : (groups.map fun group =>
      ReportService.sumOf (part group) value db) = groups.map (groupTotal
        groupOf (fun id => (db.row .orders id).elim 0 value) orders) := by
    apply List.map_congr_left
    intro group member
    rw [groupTotal, isPart group member]
    rfl
  rw [totals, sum_groupTotal distinct grouped]
  rfl

theorem sum_length {groupOf : Nat → Nat} {groups orders : List Nat}
    {part : Nat → List Nat} (distinct : groups.Nodup)
    (grouped : ∀ id ∈ orders, groupOf id ∈ groups)
    (isPart : ∀ group ∈ groups, groupItems groupOf orders group = part group) :
    (groups.map fun group => (part group).length).sum = orders.length := by
  rw [← sum_length_groupItems distinct grouped]
  apply congrArg List.sum
  apply List.map_congr_left
  intro group member
  rw [isPart group member]

end Agreement

end CustomerStatsService

open CustomerStatsService

/-- The reports of the resellers add up to the report on the platform. -/
structure AddsUp (parts : List SalesSummary) (whole : PlatformSummary) :
    Prop where
  orderCount : (parts.map (·.orderCount)).sum = whole.orderCount
  totalSales : (parts.map (·.totalSales)).sum = whole.totalSales
  commission : (parts.map (·.totalCommissionPaid)).sum =
    whole.totalCommissionCollected
  profit : (parts.map (·.realProfit)).sum = whole.totalResellerProfit

/-- The statistics of a shop show the sales of its report: the list of all
customers adds up to it, and customers that have come back account for
further orders. -/
structure ShowsSales (resellerId : Nat) (db : Db) (report : SalesSummary) :
    Prop where
  listed : ∀ limit top, IsTopCustomers resellerId limit db top →
    (repeatCustomerRate resellerId db).totalCustomers ≤ limit →
      (top.map (·.orderCount)).sum = report.orderCount ∧
        (top.map (·.totalSpent)).sum = report.totalSales
  repeated : (repeatCustomerRate resellerId db).totalCustomers +
    (repeatCustomerRate resellerId db).repeatCustomers ≤ report.orderCount
  firstOnly : (repeatCustomerRate resellerId db).repeatCustomers = 0 →
    (repeatCustomerRate resellerId db).totalCustomers = report.orderCount

/-- The figures that the admin panel and the panels of resellers show agree:
those on the platform with those of the resellers that have orders, in every
window, and those of a reseller with those of its customers, over all times. -/
structure FiguresAgree (db : Db) : Prop where
  platform : ∀ (recent : Nat → Bool) (resellers : List Nat),
    resellers.Nodup →
    (∀ id order, db.row .orders id = some order →
      order.resellerId ∈ resellers) →
    AddsUp (resellers.map fun resellerId =>
        ReportService.resellerSalesSummary resellerId recent db)
      (ReportService.platformWideSummary recent db)
  customers : ∀ resellerId, ShowsSales resellerId db
    (ReportService.resellerSalesSummary resellerId (fun _ => true) db)

section Figures

variable {db : Db} {resellerId : Nat}

/-- The reseller of the order with this id. -/
def resellerOf (db : Db) (orderId : Nat) : Nat :=
  (db.row .orders orderId).elim 0 (·.resellerId)

theorem groupItems_activatedOrders (recent : Nat → Bool) :
    groupItems (resellerOf db)
        (ReportService.activatedOrders (fun _ => true) recent db) resellerId =
      ReportService.activatedOrders (· = resellerId) recent db := by
  unfold groupItems ReportService.activatedOrders
  rw [List.filter_comm]
  apply congrArg (List.filter recent)
  apply filter_idsWhere
  intro id order found
  have isReseller : resellerOf db id = order.resellerId := by
    rw [resellerOf, found]
    rfl
  rw [isReseller, Bool.and_true, Bool.and_right_comm]

/-- What is left of all sales is what is left of those of each reseller. -/
theorem sum_profit {resellers : List Nat} {sales costs commissions : Nat → Cents}
    {allSales allCosts allCommissions : Cents}
    (sumSales : (resellers.map sales).sum = allSales)
    (sumCosts : (resellers.map costs).sum = allCosts)
    (sumCommissions : (resellers.map commissions).sum = allCommissions) :
    (resellers.map fun resellerId =>
      sales resellerId - costs resellerId - commissions resellerId).sum =
        allSales - allCosts - allCommissions := by
  have split : (resellers.map fun resellerId =>
      sales resellerId - costs resellerId - commissions resellerId +
        (costs resellerId + commissions resellerId)).sum =
          (resellers.map sales).sum := by
    apply congrArg List.sum
    apply List.map_congr_left
    intro resellerId _
    ring
  rw [List.sum_map_add, List.sum_map_add, sumSales, sumCosts,
    sumCommissions] at split
  linarith only [split]

theorem addsUp_platform (recent : Nat → Bool) {resellers : List Nat}
    (distinct : resellers.Nodup)
    (covered : ∀ id order, db.row .orders id = some order →
      order.resellerId ∈ resellers) :
    AddsUp (resellers.map fun resellerId =>
        ReportService.resellerSalesSummary resellerId recent db)
      (ReportService.platformWideSummary recent db) := by
  let orders := ReportService.activatedOrders (fun _ => true) recent db
  have grouped : ∀ id ∈ orders, resellerOf db id ∈ resellers := by
    intro id member
    obtain ⟨order, found, -⟩ := mem_idsWhere.mp (List.mem_filter.mp member).1
    have isReseller : resellerOf db id = order.resellerId := by
      rw [resellerOf, found]
      rfl
    rw [isReseller]
    exact covered id order found
  have isPart : ∀ resellerId ∈ resellers,
      groupItems (resellerOf db) orders resellerId =
        ReportService.activatedOrders (· = resellerId) recent db :=
    fun _ _ => groupItems_activatedOrders recent
  have sums (value : OrderRow → Cents) :=
    @sum_sumOf db _ _ _ _ value distinct grouped isPart
  constructor
  · rw [List.map_map]
    exact sum_length distinct grouped isPart
  · rw [List.map_map]
    exact sums _
  · rw [List.map_map]
    exact sums _
  · rw [List.map_map]
    exact sum_profit (sums _) (sums _) (sums _)

/-- Every customer on the list has ordered once, and who has come back has
ordered once more. -/
theorem orderCounts {customers : List Nat} {count : Nat → Nat}
    (ordered : ∀ id ∈ customers, 0 < count id) :
    customers.length + customers.countP (fun id => 1 < count id) ≤
        (customers.map count).sum ∧
      (customers.countP (fun id => 1 < count id) = 0 →
        customers.length = (customers.map count).sum) := by
  induction customers with
  | nil => simp
  | cons id customers ih =>
      obtain ⟨atLeast, exact⟩ := ih fun other member =>
        ordered other (List.mem_cons_of_mem _ member)
      have once := ordered id List.mem_cons_self
      rw [List.map_cons, List.sum_cons, List.length_cons, List.countP_cons]
      by_cases again : 1 < count id
      · simp only [again, decide_true, if_true]
        omega
      · simp only [again, decide_false, Bool.false_eq_true, if_false]
        omega

theorem sum_of_isTopCustomers {limit : Nat} {top : List CustomerTotal}
    {Total : Type} [AddCommMonoid Total] (value : CustomerTotal → Total)
    (isTop : IsTopCustomers resellerId limit db top)
    (all : (buyers resellerId db).length ≤ limit) :
    (top.map value).sum =
      ((buyers resellerId db).map fun id => value (totalOf db id)).sum := by
  obtain ⟨ordered, perm, -, rfl⟩ := isTop
  have whole : ordered.take limit = ordered := by
    apply List.take_of_length_le
    rw [perm.length_eq, List.length_map]
    exact all
  rw [whole, (perm.map value).sum_eq, List.map_map]
  rfl

theorem showsSales (parties : PartiesMatch db) (packages : PackagesThere db)
    (resellerId : Nat) :
    ShowsSales resellerId db
      (ReportService.resellerSalesSummary resellerId (fun _ => true) db) := by
  have grouped : ∀ id ∈ soldOrders resellerId db,
      customerOf db id ∈ buyers resellerId db :=
    fun _ => customerOf_mem_buyers parties packages
  have isPart : ∀ id ∈ buyers resellerId db,
      groupItems (customerOf db) (soldOrders resellerId db) id =
        ordersOf db id :=
    fun _ => groupItems_of_mem_buyers parties packages
  have counts := sum_length nodup_buyers grouped isPart
  have repeats := @orderCounts (buyers resellerId db)
    (fun id => (ordersOf db id).length) fun id buyer =>
      List.length_pos_of_ne_nil (mem_buyers.mp buyer).2
  rw [counts] at repeats
  constructor
  · intro limit top isTop all
    constructor
    · rw [sum_of_isTopCustomers _ isTop all]
      exact counts
    · rw [sum_of_isTopCustomers _ isTop all]
      exact sum_sumOf nodup_buyers grouped isPart
  · exact repeats.1
  · exact repeats.2

end Figures

namespace BotsWorld

/-- In a run of all bots without a restore, the figures go on agreeing. -/
theorem figures_agree (world : BotsWorld)
    (parties : PartiesMatch world.platform.db)
    (packages : PackagesThere world.platform.db) (events : List BotsEvent)
    (noRestore : StepRuns.Along step
      (fun world event => ¬ world.Restores event) world events) :
    FiguresAgree (StepRuns.final step world events).platform.db where
  platform recent _ distinct covered := addsUp_platform recent distinct covered
  customers := showsSales (partiesMatch_final parties noRestore)
    (packagesThere_final packages noRestore)

theorem figures_agree_deletesSold :
    FiguresAgree (StepRuns.final step (newBotsWorld bannedDb)
      deletesSold).platform.db :=
  figures_agree (newBotsWorld bannedDb)
    (partiesMatch_of_new row_orders_bannedDb) (by decide +kernel) deletesSold
    (by decide +kernel)

end BotsWorld

end Baste
