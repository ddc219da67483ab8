import Baste.BulkPurchases

/-!
# Purchases of one charge code

A code can be bought alone or as a bulk purchase of one.  The first links the
code to its order after the transaction, by looking the order up, and the
second inside it.  Both make the same checks in the same order and leave the
same rows, except for the text of the order code; but one of the two order
codes can be taken while the other is new.
-/

namespace Baste

open Database Transaction

/-- The order under another code. -/
def OrderRow.withOrderCode (orderCode : String) (order : OrderRow) : OrderRow :=
  { order with orderCode := orderCode }

namespace ChargeService

/-- There is an order with the code. -/
def Taken (db : Db) (orderCode : String) : Prop :=
  db.idsWhere .orders (·.orderCode = orderCode) ≠ []

/-- The rows are the same up to the codes of orders. -/
structure SameUpToCodes (first second : Db) : Prop where
  others : ∀ name id, name ≠ .orders → first.row name id = second.row name id
  orders : ∀ id, (first.row .orders id).map (·.withOrderCode "") =
    (second.row .orders id).map (·.withOrderCode "")

/-- The two ways to buy one code end alike: with the same class of error and
no change, or with the same code in the same order and the same rows. -/
inductive Agree (before : Db) :
    Db × Option Outcome → Db × Option Outcome → Prop where
  | refused (firstError secondError : ServiceError) (first second : Db)
      (sameClass : firstError.ctorIdx = secondError.ctorIdx)
      (firstUnchanged : ∀ name id, first.row name id = before.row name id)
      (secondUnchanged : ∀ name id, second.row name id = before.row name id) :
      Agree before (first, some (.error firstError))
        (second, some (.error secondError))
  | bought (orderId : Nat) (order : OrderRow) (bulkCode code : String)
      (price : Cents) (first second : Db) (same : SameUpToCodes first second) :
      Agree before (first, some (.ok (.delivered orderId order code)))
        (second, some (.ok (.bulk ⟨[⟨orderId, bulkCode, code⟩], price, price,
          1⟩)))

section Agreement

variable {resellerId packageId customerId : Nat} {db : Db}
variable {customer : CustomerRow} {price : Cents} {orderCode : String}
variable {codeId : Nat} {code : String}

/-- The database in which the order of one code is inserted. -/
def paidOnce (customerId : Nat) (price : Cents) (db : Db) : Db :=
  db.modify .customers customerId fun customer =>
    customer.withBalance (customer.walletBalance - price)

/-- An order can be inserted exactly if its code is not taken. -/
theorem insertable_iff
    (reseller : (db.row .resellers resellerId).isSome)
    (package : (db.row .packages packageId).isSome)
    (customer : (db.row .customers customerId).isSome) :
    OrderService.orderInsertable (paidOnce customerId price db)
        (chargeOrder orderCode resellerId packageId customerId price code) =
      true ↔ ¬ Taken db orderCode := by
  have sameOrders : (paidOnce customerId price db).idsWhere .orders
      (·.orderCode = orderCode) = db.idsWhere .orders
        (·.orderCode = orderCode) := by
    rw [Database.idsWhere, paidOnce, Database.modify,
      table_on_ne (by decide), Database.idsWhere]
  have customerStays : ((paidOnce customerId price db).row .customers
      customerId).isSome = true := by
    rw [paidOnce, row_modify_self, Option.isSome_map]
    exact customer
  have otherStays : ∀ name id, name ≠ .customers →
      (paidOnce customerId price db).row name id = db.row name id :=
    fun name id other => row_modify_of_ne other
  change (decide ((paidOnce customerId price db).idsWhere .orders
      (·.orderCode = orderCode) = []) &&
    ((paidOnce customerId price db).row .resellers resellerId).isSome &&
    ((paidOnce customerId price db).row .packages packageId).isSome &&
    ((paidOnce customerId price db).row .customers customerId).isSome &&
    true) = true ↔ _
  rw [sameOrders, otherStays _ _ (by decide), otherStays _ _ (by decide),
    reseller, package, customerStays]
  simp [Taken]

/-- The new order and its sold code, before they are linked. -/
def soldOnce (resellerId packageId customerId : Nat) (price : Cents)
    (orderCode : String) (codeId : Nat) (code : String) (db : Db) : Db :=
  ((paidOnce customerId price (db.reserve .orders)).put .orders
    (db.nextId .orders)
    (chargeOrder orderCode resellerId packageId customerId price code)).modify
      .chargeCodes codeId (·.soldTo customerId)

/-- The new order is found under its code. -/
theorem findOrder_soldOnce (new : ¬ Taken db orderCode) :
    OrderService.findOrder (soldOnce resellerId packageId customerId price
        orderCode codeId code db) orderCode =
      some (db.nextId .orders, chargeOrder orderCode resellerId packageId
        customerId price code) := by
  let after := soldOnce resellerId packageId customerId price orderCode codeId
    code db
  have row : after.row .orders (db.nextId .orders) = some (chargeOrder
      orderCode resellerId packageId customerId price code) := by
    simp only [after, soldOnce]
    rw [row_modify_of_ne (by decide), row_put_self]
    simp [paidOnce]
  have otherRow : ∀ id, id ≠ db.nextId .orders →
      after.row .orders id = db.row .orders id := by
    intro id other
    simp only [after, soldOnce]
    rw [row_modify_of_ne (by decide), row_put_ne other, paidOnce,
      row_modify_of_ne (by decide), row_reserve]
  have only : ∀ id order, after.row .orders id = some order →
      order.orderCode = orderCode → id = db.nextId .orders := by
    intro id order found same
    by_contra other
    rw [otherRow id other] at found
    exact new (List.ne_nil_of_mem
      (mem_idsWhere.mpr ⟨order, found, decide_eq_true same⟩))
  exact OrderService.findOrder_eq row only

/-- The end of a single purchase. -/
def deliveredReply :
    Except ServiceError ((Nat × OrderRow) × String) → Program Outcome :=
  ServiceCall.finish fun found => .delivered found.1.1 found.1.2 found.2

/-- The transaction of a single purchase that runs alone. -/
theorem runAlone_deliverOne
    (customerFound : db.row .customers customerId = some customer)
    (reseller : (db.row .resellers resellerId).isSome)
    (package : (db.row .packages packageId).isSome) :
    let run := (purchaseCharge.deliver resellerId packageId customerId
      deliveredReply price orderCode).runAlone none db
    if customer.walletBalance < price then
      run = (db, some (.error insufficientBalanceError))
    else
      match availableCodes db packageId 1 with
      | [] => ∃ message, run =
          (db, some (.error (.chargeOutOfStock message none)))
      | (codeId, code) :: _ =>
          (Taken db orderCode ∧
            run = (db.reserve .orders, some (.error .integrityError))) ∨
          ¬ Taken db orderCode ∧ run =
            ((soldOnce resellerId packageId customerId price orderCode codeId
              code db).modify .chargeCodes codeId
                (·.withSoldOrder (db.nextId .orders)),
              some (.ok (.delivered (db.nextId .orders)
                (chargeOrder orderCode resellerId packageId customerId price
                  code) code))) := by
  intro run
  split_ifs with poor
  · simp [run, purchaseCharge.deliver, lockBalance, customerFound, poor,
      deliveredReply, ServiceCall.finish, Except.map]
  · cases stock : availableCodes db packageId 1 with
    | nil =>
        refine ⟨"موجودی این شارژ تمام شده است.", ?_⟩
        simp [run, purchaseCharge.deliver, lockBalance, lockAvailableCodes,
          customerFound, poor, stock, deliveredReply, ServiceCall.finish,
          Except.map]
    | cons entry rest =>
        obtain ⟨codeId, code⟩ := entry
        obtain ⟨goOn, goesOn, whenRefused, whenInserted⟩ :
            ∃ goOn, run = (OrderService.insertOrder (chargeOrder orderCode
                resellerId packageId customerId price code) goOn).runAlone
                  (some (paidOnce customerId price)) db ∧
              goOn none =
                .rollback (deliveredReply (.error .integrityError)) ∧
              ∀ orderId, goOn (some orderId) =
                updateRow .chargeCodes codeId (·.soldTo customerId) (.commit
                  (purchaseCharge.linkOrder deliveredReply orderCode codeId
                    code)) := by
          simp only [run, purchaseCharge.deliver, Program.runAlone_begin,
            lockBalance, Program.runAlone_selectForUpdate, id_eq, customerFound,
            if_neg poor, lockAvailableCodes, stock, debit,
            runAlone_updateRow_pending]
          exact ⟨_, rfl, rfl, fun _ => rfl⟩
        by_cases taken : Taken db orderCode
        · left
          refine ⟨taken, ?_⟩
          have refused : ¬ OrderService.orderInsertable
              (paidOnce customerId price db) (chargeOrder orderCode resellerId
                packageId customerId price code) = true := by
            rw [insertable_iff reseller package (by rw [customerFound]; rfl)]
            exact not_not.mpr taken
          rw [goesOn, OrderService.insertOrder,
            runAlone_insertRow_pending_refused refused, whenRefused]
          rfl
        · right
          refine ⟨taken, ?_⟩
          have accepted : OrderService.orderInsertable
              (paidOnce customerId price db) (chargeOrder orderCode resellerId
                packageId customerId price code) = true :=
            (insertable_iff reseller package
              (by rw [customerFound]; rfl)).mpr taken
          rw [goesOn, OrderService.insertOrder,
            runAlone_insertRow_pending accepted, whenInserted]
          have sameId : (paidOnce customerId price db).nextId .orders =
              db.nextId .orders := by
            simp [paidOnce]
          rw [sameId]
          change (purchaseCharge.linkOrder deliveredReply orderCode codeId
            code).runAlone none (soldOnce resellerId packageId customerId price
              orderCode codeId code db) = _
          rw [purchaseCharge.linkOrder, Program.runAlone_select,
            findOrder_soldOnce taken]
          rfl

/-- The transaction of a bulk purchase of one code that runs alone. -/
theorem runAlone_deliverBulkOfOne {reseller : ResellerRow}
    {stamps : Nat → OrderStamp}
    (customerFound : db.row .customers customerId = some customer)
    (resellerFound : db.row .resellers resellerId = some reseller)
    (package : (db.row .packages packageId).isSome) :
    let bulkCode :=
      generateOrderCode reseller.orderPrefix (stamps 1) (some 1)
    let run := (purchaseChargeBulk.deliver resellerId packageId customerId 1
      stamps (ServiceCall.finish .bulk) (some reseller) price).runAlone none db
    if customer.walletBalance < price then
      run = (db, some (.error insufficientBalanceError))
    else
      match availableCodes db packageId 1 with
      | [] => ∃ message, run =
          (db, some (.error (.chargeOutOfStock message (some 0))))
      | (codeId, code) :: _ =>
          (Taken db bulkCode ∧
            run = (db.reserve .orders, some (.error .integrityError))) ∨
          ¬ Taken db bulkCode ∧ run =
            (((paidOnce customerId price (db.reserve .orders)).put .orders
              (db.nextId .orders) (chargeOrder bulkCode resellerId packageId
                customerId price code)).modify .chargeCodes codeId
                  (fun row => (row.soldTo customerId).withSoldOrder
                    (db.nextId .orders)),
              some (.ok (.bulk ⟨[⟨db.nextId .orders, bulkCode, code⟩], price,
                price, 1⟩))) := by
  intro bulkCode run
  have total : price * 1 = price := mul_one price
  split_ifs with poor
  · simp [run, purchaseChargeBulk.deliver, lockBalance, customerFound, poor,
      total, ServiceCall.finish, Except.map]
  · cases stock : availableCodes db packageId 1 with
    | nil =>
        refine ⟨s!"تنها {0} عدد از این شارژ موجود است.", ?_⟩
        simp [run, purchaseChargeBulk.deliver, lockBalance, lockAvailableCodes,
          customerFound, poor, total, stock, ServiceCall.finish, Except.map]
    | cons entry rest =>
        obtain ⟨codeId, code⟩ := entry
        have onlyOne : rest = [] := by
          have length := @length_availableCodes packageId 1 db
          rw [stock, List.length_cons] at length
          apply List.eq_nil_of_length_eq_zero
          omega
        obtain ⟨goOn, goesOn, whenRefused, whenInserted⟩ :
            ∃ goOn, run = (OrderService.insertOrder (chargeOrder bulkCode
                resellerId packageId customerId price code) goOn).runAlone
                  (some (paidOnce customerId price)) db ∧
              goOn none = .rollback
                (ServiceCall.finish .bulk (.error .integrityError)) ∧
              ∀ orderId, goOn (some orderId) =
                updateRow .chargeCodes codeId
                  (fun row => (row.soldTo customerId).withSoldOrder orderId)
                  (.commit (ServiceCall.finish .bulk (.ok
                    ⟨[⟨orderId, bulkCode, code⟩], price, price, 1⟩))) := by
          simp only [run, purchaseChargeBulk.deliver, Program.runAlone_begin,
            lockBalance, Program.runAlone_selectForUpdate, id_eq, customerFound,
            total, if_neg poor, lockAvailableCodes, Int.toNat_one, stock,
            onlyOne, List.length_singleton, Nat.cast_one, lt_self_iff_false,
            if_false, debit, runAlone_updateRow_pending]
          exact ⟨_, rfl, rfl, fun _ => rfl⟩
        by_cases taken : Taken db bulkCode
        · left
          refine ⟨taken, ?_⟩
          have refused : ¬ OrderService.orderInsertable
              (paidOnce customerId price db) (chargeOrder bulkCode resellerId
                packageId customerId price code) = true := by
            rw [insertable_iff (by rw [resellerFound]; rfl) package
              (by rw [customerFound]; rfl)]
            exact not_not.mpr taken
          rw [goesOn, OrderService.insertOrder,
            runAlone_insertRow_pending_refused refused, whenRefused]
          rfl
        · right
          refine ⟨taken, ?_⟩
          have accepted : OrderService.orderInsertable
              (paidOnce customerId price db) (chargeOrder bulkCode resellerId
                packageId customerId price code) = true :=
            (insertable_iff (by rw [resellerFound]; rfl) package
              (by rw [customerFound]; rfl)).mpr taken
          rw [goesOn, OrderService.insertOrder,
            runAlone_insertRow_pending accepted, whenInserted]
          have sameId : (paidOnce customerId price db).nextId .orders =
              db.nextId .orders := by
            simp [paidOnce]
          rw [sameId]
          rfl

/-- To mark a code and to link it in two statements is the same as to do both
in one. -/
theorem sameUpToCodes_link {base : Db} {orderId : Nat}
    {first second : OrderRow} (mark link : ChargeCodeRow → ChargeCodeRow)
    (same : first.withOrderCode "" = second.withOrderCode "") :
    SameUpToCodes
      (((base.put .orders orderId first).modify .chargeCodes codeId
        mark).modify .chargeCodes codeId link)
      ((base.put .orders orderId second).modify .chargeCodes codeId
        fun row => link (mark row)) where
  others name id notOrders := by
    by_cases isCodes : name = .chargeCodes
    · subst isCodes
      rw [row_modify, row_modify, row_modify, row_put_of_ne notOrders,
        row_put_of_ne notOrders]
      split_ifs
      · rw [Option.map_map]
        rfl
      · rfl
    · rw [row_modify_of_ne isCodes, row_modify_of_ne isCodes,
        row_modify_of_ne isCodes, row_put_of_ne notOrders,
        row_put_of_ne notOrders]
  orders id := by
    rw [row_modify_of_ne (by decide), row_modify_of_ne (by decide),
      row_modify_of_ne (by decide)]
    by_cases new : id = orderId
    · subst new
      by_cases reserved : id < base.nextId .orders
      · rw [row_put_self reserved, row_put_self reserved]
        exact congrArg some same
      · have absent : ∀ order : OrderRow,
            (base.put .orders id order).row .orders id = none := by
          intro order
          by_contra present
          obtain ⟨found, row⟩ := Option.ne_none_iff_exists'.mp present
          have bound := lt_nextId_of_row row
          rw [nextId_put] at bound
          exact reserved bound
        rw [absent, absent]
    · rw [row_put_ne new, row_put_ne new]

/-- To buy one code, and to buy one code in bulk, agree unless just one of the
two order codes is taken. -/
theorem purchases_agree {reseller : ResellerRow} {stamp : OrderStamp}
    {stamps : Nat → OrderStamp}
    (resellerFound : db.row .resellers resellerId = some reseller)
    (customerFound : db.row .customers customerId = some customer)
    (alike :
      Taken db (generateOrderCode reseller.orderPrefix stamp none) ↔
        Taken db (generateOrderCode reseller.orderPrefix (stamps 1) (some 1))) :
    Agree db
      ((ServiceCall.purchaseCharge resellerId packageId customerId
        stamp).program.runAlone none db)
      ((ServiceCall.purchaseChargeBulk resellerId packageId customerId 1
        stamps).program.runAlone none db) := by
  have single : (ServiceCall.purchaseCharge resellerId packageId customerId
      stamp).program =
        purchaseCharge resellerId packageId customerId stamp deliveredReply :=
    rfl
  have bulk : (ServiceCall.purchaseChargeBulk resellerId packageId customerId 1
      stamps).program =
        purchaseChargeBulk resellerId packageId customerId 1 stamps
          (ServiceCall.finish .bulk) :=
    rfl
  rw [single, bulk, purchaseCharge, purchaseChargeBulk, if_neg (by decide),
    Program.runAlone_select, Program.runAlone_select,
    OrderService.runAlone_refuseBlacklisted,
    OrderService.runAlone_refuseBlacklisted]
  split_ifs with listed
  · exact .refused _ _ db db rfl (fun _ _ => rfl) fun _ _ => rfl
  rw [Program.runAlone_select, Program.runAlone_select,
    Program.runAlone_select, Program.runAlone_select, resellerFound]
  cases packageFound : db.row .packages packageId with
  | none => exact .refused _ _ db db rfl (fun _ _ => rfl) fun _ _ => rfl
  | some package =>
      have known : (db.row .packages packageId).isSome := by
        rw [packageFound]
        rfl
      have singleEnds := @runAlone_deliverOne resellerId packageId customerId
        db customer package.salePrice
        (generateOrderCode reseller.orderPrefix stamp none) customerFound
        (by rw [resellerFound]; rfl) known
      have bulkEnds := @runAlone_deliverBulkOfOne resellerId packageId
        customerId db customer package.salePrice reseller stamps customerFound
        resellerFound known
      dsimp only at singleEnds bulkEnds ⊢
      split_ifs at singleEnds bulkEnds with poor
      · rw [singleEnds, bulkEnds]
        exact .refused _ _ db db rfl (fun _ _ => rfl) fun _ _ => rfl
      · cases stock : availableCodes db packageId 1 with
        | nil =>
            rw [stock] at singleEnds bulkEnds
            obtain ⟨message, singleEnds⟩ := singleEnds
            obtain ⟨other, bulkEnds⟩ := bulkEnds
            rw [singleEnds, bulkEnds]
            exact .refused _ _ db db rfl (fun _ _ => rfl) fun _ _ => rfl
        | cons entry rest =>
            obtain ⟨codeId, code⟩ := entry
            rw [stock] at singleEnds bulkEnds
            rcases singleEnds with ⟨taken, singleEnds⟩ | ⟨new, singleEnds⟩
            · rcases bulkEnds with ⟨-, bulkEnds⟩ | ⟨bulkNew, -⟩
              · rw [singleEnds, bulkEnds]
                exact .refused _ _ _ _ rfl (fun _ _ => row_reserve)
                  fun _ _ => row_reserve
              · exact absurd (alike.mp taken) bulkNew
            · rcases bulkEnds with ⟨bulkTaken, -⟩ | ⟨-, bulkEnds⟩
              · exact absurd (alike.mpr bulkTaken) new
              · rw [singleEnds, bulkEnds]
                apply Agree.bought
                exact sameUpToCodes_link (·.soldTo customerId)
                  (·.withSoldOrder (db.nextId .orders)) rfl

end Agreement

theorem purchases_agree_shop :
    Agree shopDb
      ((ServiceCall.purchaseCharge 1 1 1 (shopStamp "AAA")).program.runAlone
        none shopDb)
      ((ServiceCall.purchaseChargeBulk 1 1 1 1 fun _ =>
        shopStamp "AAA").program.runAlone none shopDb) := by
  have none : ∀ orderCode, ¬ Taken shopDb orderCode := by
    intro orderCode taken
    obtain ⟨id, member⟩ := List.exists_mem_of_ne_nil _ taken
    obtain ⟨order, found, -⟩ := mem_idsWhere.mp member
    have all : ∀ id < 2, shopDb.row .orders id = none := by decide
    have small : id < 2 := (lt_nextId_of_row found).trans (by decide)
    cases (all id small).symm.trans found
  exact @purchases_agree 1 1 1 shopDb shopCustomer shopReseller
    (shopStamp "AAA") (fun _ => shopStamp "AAA") rfl rfl
    (iff_of_false (none _) (none _))

/-- A shop that has sold a code in this second, in an order with the same
random characters. -/
def sameSecondDb : Db :=
  (shopDb.reserve .orders).put .orders 1
    (chargeOrder "AR-C-240131-120000AAA" 1 1 1 800 "A0")

/-- The order code of the single purchase is taken, and that of the bulk
purchase is not. -/
theorem single_collides_bulk_does_not :
    ¬ Agree sameSecondDb
      ((ServiceCall.purchaseCharge 1 1 1 (shopStamp "AAA")).program.runAlone
        none sameSecondDb)
      ((ServiceCall.purchaseChargeBulk 1 1 1 1 fun _ =>
        shopStamp "AAA").program.runAlone none sameSecondDb) := by
  have single : ((ServiceCall.purchaseCharge 1 1 1 (shopStamp
      "AAA")).program.runAlone none sameSecondDb).2 =
        some (.error .integrityError) := by
    decide +kernel
  have bulk : ((ServiceCall.purchaseChargeBulk 1 1 1 1 fun _ => shopStamp
      "AAA").program.runAlone none sameSecondDb).2.any (·.isOk) = true := by
    decide +kernel
  intro agree
  generalize (ServiceCall.purchaseCharge 1 1 1 (shopStamp
    "AAA")).program.runAlone none sameSecondDb = first at agree single
  generalize (ServiceCall.purchaseChargeBulk 1 1 1 1 fun _ => shopStamp
    "AAA").program.runAlone none sameSecondDb = second at agree bulk
  cases agree with
  | refused => cases bulk
  | bought => cases single

end ChargeService

end Baste
