import Baste.ServiceCalls

/-!
# Purchases of several charge codes

A bulk purchase that runs alone: it checks, locks and debits once, and then
delivers the codes of the lowest ids one by one.  Its order codes end in a
sequence number, so they cannot collide among themselves, and the loop can
only fail when one of them is taken already.
-/

namespace Baste

open Database Transaction

/-- A reading that a clock can give. -/
structure ClockReading.Valid (now : ClockReading) : Prop where
  month : now.month ≤ 12
  day : now.day ≤ 31
  hour : now.hour < 24
  minute : now.minute < 60
  second : now.second < 60

/-- A valid reading and three random characters. -/
structure OrderStamp.WellFormed (stamp : OrderStamp) : Prop where
  clock : stamp.now.Valid
  suffix : stamp.suffix.length = 3

namespace ChargeService

section OrderCodes

theorem length_twoDigits {number : Nat} (small : number < 100) :
    (twoDigits number).length = 2 := by
  have all : ∀ number < 100, (twoDigits number).length = 2 := by
    decide +kernel
  exact all number small

/-- The part of an order code before its sequence number. -/
def orderCodeHead (orderPrefix : String) (stamp : OrderStamp) : String :=
  s!"{orderPrefix}-C-{stamp.now.date}-{stamp.now.time}{stamp.suffix}"

theorem generateOrderCode_some (orderPrefix : String) (stamp : OrderStamp)
    (sequence : Nat) :
    generateOrderCode orderPrefix stamp (some sequence) =
      orderCodeHead orderPrefix stamp ++
        generateOrderCode.threeDigits sequence :=
  rfl

theorem length_orderCodeHead {stamp : OrderStamp}
    (wellFormed : stamp.WellFormed) (orderPrefix : String) :
    (orderCodeHead orderPrefix stamp).length = orderPrefix.length + 19 := by
  obtain ⟨⟨month, day, hour, minute, second⟩, suffix⟩ := wellFormed
  have year : stamp.now.year % 100 < 100 := Nat.mod_lt _ (by decide)
  have date : stamp.now.date.length = 6 := by
    rw [ClockReading.date, String.length_append, String.length_append,
      length_twoDigits year, length_twoDigits (by omega),
      length_twoDigits (by omega)]
  have time : stamp.now.time.length = 6 := by
    rw [ClockReading.time, String.length_append, String.length_append,
      length_twoDigits (by omega), length_twoDigits (by omega),
      length_twoDigits (by omega)]
  have parts : orderCodeHead orderPrefix stamp =
      orderPrefix ++ "-C-" ++ stamp.now.date ++ "-" ++ stamp.now.time ++
        stamp.suffix :=
    rfl
  have mark : "-C-".length = 3 := rfl
  have dash : "-".length = 1 := rfl
  simp only [parts, String.length_append, date, time, suffix, mark, dash]

/-- The digits of a sequence number tell the number. -/
theorem ofDigitChars_threeDigits (number : Nat) :
    Nat.ofDigitChars 10 (generateOrderCode.threeDigits number).toList 0 =
      number := by
  have zeros : ∀ digits : String, Nat.ofDigitChars 10 digits.toList 0 = number →
      Nat.ofDigitChars 10 ("0" ++ digits).toList 0 = number ∧
        Nat.ofDigitChars 10 ("00" ++ digits).toList 0 = number := by
    intro digits isNumber
    simp [String.toList_append, Nat.ofDigitChars_cons, isNumber]
  have plain : Nat.ofDigitChars 10 (Nat.repr number).toList 0 = number := by
    simp
  unfold generateOrderCode.threeDigits
  split_ifs
  · exact (zeros _ plain).2
  · exact (zeros _ plain).1
  · exact plain

/-- The order codes of one purchase are different. -/
theorem generateOrderCode_inj {orderPrefix : String} {first second : Nat}
    {stamps : Nat → OrderStamp} (firstWellFormed : (stamps first).WellFormed)
    (secondWellFormed : (stamps second).WellFormed)
    (same : generateOrderCode orderPrefix (stamps first) (some first) =
      generateOrderCode orderPrefix (stamps second) (some second)) :
    first = second := by
  rw [generateOrderCode_some, generateOrderCode_some] at same
  have lists := congrArg String.toList same
  rw [String.toList_append, String.toList_append] at lists
  have heads : (orderCodeHead orderPrefix (stamps first)).toList.length =
      (orderCodeHead orderPrefix (stamps second)).toList.length := by
    rw [String.length_toList, String.length_toList,
      length_orderCodeHead firstWellFormed,
      length_orderCodeHead secondWellFormed]
  have digits := (List.append_inj lists heads).2
  rw [← ofDigitChars_threeDigits first, digits, ofDigitChars_threeDigits]

theorem nodup_orderCodes {orderPrefix : String} {stamps : Nat → OrderStamp}
    {sequence length : Nat}
    (wellFormed : ∀ number ∈ List.range' sequence length,
      (stamps number).WellFormed) :
    ((List.range' sequence length).map fun number =>
      generateOrderCode orderPrefix (stamps number) (some number)).Nodup := by
  apply List.Nodup.map_on _ List.nodup_range'
  intro first firstListed second secondListed same
  exact generateOrderCode_inj (wellFormed first firstListed)
    (wellFormed second secondListed) same

/-- A bulk purchase never generates an order code twice, however often the
clock and the random characters repeat themselves. -/
theorem bulkOrderCodes_nodup (orderPrefix : String) (quantity : Nat)
    (stamps : Nat → OrderStamp)
    (wellFormed : ∀ sequence, 1 ≤ sequence → sequence ≤ quantity →
      (stamps sequence).WellFormed) :
    ((List.range' 1 quantity).map fun sequence =>
      generateOrderCode orderPrefix (stamps sequence)
        (some sequence)).Nodup := by
  apply nodup_orderCodes
  intro sequence listed
  have bounds := List.mem_range'_1.mp listed
  exact wellFormed sequence bounds.1 (by omega)

/-- A thousand codes of one second, with the same random characters. -/
theorem bulkOrderCodes_nodup_thousand :
    ((List.range' 1 1000).map fun sequence =>
      generateOrderCode "AR" (shopStamp "A10") (some sequence)).Nodup :=
  bulkOrderCodes_nodup "AR" 1000 (fun _ => shopStamp "A10") fun _ _ _ =>
    ⟨by constructor <;> decide, by decide⟩

end OrderCodes

/-- The available codes of the lowest ids. -/
def lowestAvailable (db : Db) (packageId limit : Nat) :
    List (Nat × ChargeCodeRow) :=
  ((db.idsWhere .chargeCodes (isAvailable packageId)).filterMap fun id =>
    (db.row .chargeCodes id).map (id, ·)).take limit

/-- The sales of some codes, with consecutive order ids and sequence
numbers. -/
def salesFrom (orderPrefix : String) (stamps : Nat → OrderStamp) :
    Nat → Nat → List (Nat × ChargeCodeRow) → List Sale
  | _, _, [] => []
  | orderId, sequence, (codeId, code) :: rest =>
      ⟨codeId, code, orderId,
        generateOrderCode orderPrefix (stamps sequence) (some sequence), true⟩ ::
      salesFrom orderPrefix stamps (orderId + 1) (sequence + 1) rest

/-- What the customer is told about a sale. -/
def Sale.delivery (sale : Sale) : Delivery :=
  ⟨sale.orderId, sale.orderCode, sale.code.code⟩

namespace Purchase

variable (purchase : Purchase)

/-- The orders of the sales to come can be inserted one after another. -/
def Clear (quantity : Int) : Db → List Sale → List Sale → Prop
  | _, _, [] => True
  | db, done, sale :: rest =>
      OrderService.orderInsertable
        (done.foldl purchase.deliver (purchase.debited quantity db))
        (purchase.order sale) = true ∧
      Clear quantity (db.reserve .orders) (done ++ [sale]) rest

end Purchase

section Sales

variable {orderPrefix : String} {stamps : Nat → OrderStamp}
variable {orderId sequence : Nat} {codes : List (Nat × ChargeCodeRow)}
variable {purchase : Purchase} {db : Db} {sales : List Sale} {sale : Sale}

theorem availableCodes_eq (packageId limit : Nat) :
    availableCodes db packageId limit =
      (lowestAvailable db packageId limit).map fun entry =>
        (entry.1, entry.2.code) := by
  rw [availableCodes, lowestAvailable, List.map_take, List.map_filterMap]
  simp only [Option.map_map, Function.comp_def]

theorem length_salesFrom :
    (salesFrom orderPrefix stamps orderId sequence codes).length =
      codes.length := by
  induction codes generalizing orderId sequence with
  | nil => rfl
  | cons code codes ih => rw [salesFrom, List.length_cons, ih, List.length_cons]

theorem codes_salesFrom :
    (salesFrom orderPrefix stamps orderId sequence codes).map
        (fun sale => (sale.codeId, sale.code)) =
      codes := by
  induction codes generalizing orderId sequence with
  | nil => rfl
  | cons code codes ih => rw [salesFrom, List.map_cons, ih]

theorem orderIds_salesFrom :
    (salesFrom orderPrefix stamps orderId sequence codes).map (·.orderId) =
      List.range' orderId codes.length := by
  induction codes generalizing orderId sequence with
  | nil => rfl
  | cons code codes ih =>
      rw [salesFrom, List.map_cons, ih, List.length_cons, List.range'_succ]

theorem orderCodes_salesFrom :
    (salesFrom orderPrefix stamps orderId sequence codes).map (·.orderCode) =
      (List.range' sequence codes.length).map fun sequence =>
        generateOrderCode orderPrefix (stamps sequence) (some sequence) := by
  induction codes generalizing orderId sequence with
  | nil => rfl
  | cons code codes ih =>
      rw [salesFrom, List.map_cons, ih, List.length_cons, List.range'_succ,
        List.map_cons]

theorem linked_of_mem_salesFrom
    (member : sale ∈ salesFrom orderPrefix stamps orderId sequence codes) :
    sale.linked = true := by
  induction codes generalizing orderId sequence with
  | nil => cases member
  | cons code codes ih =>
      rw [salesFrom] at member
      rcases List.mem_cons.mp member with rfl | later
      · rfl
      · exact ih later

/-- An order is there after some sales because it was there before, or because
it belongs to one of them. -/
theorem order_of_row_foldl_deliver {id : Nat} {order : OrderRow}
    (found : (sales.foldl purchase.deliver db).row .orders id = some order) :
    db.row .orders id = some order ∨
      ∃ sale ∈ sales, order = purchase.order sale := by
  induction sales generalizing db with
  | nil => exact .inl found
  | cons sale sales ih =>
      rcases ih found with early | ⟨other, member, isOrder⟩
      · rw [Purchase.deliver, row_modify_of_ne (by decide)] at early
        by_cases same : id = sale.orderId
        · subst same
          have reserved := lt_nextId_of_row early
          rw [nextId_put] at reserved
          rw [row_put_self reserved, Option.some_inj] at early
          exact .inr ⟨sale, List.mem_cons_self, early.symm⟩
        · rw [row_put_ne same] at early
          exact .inl early
      · exact .inr ⟨other, List.mem_cons_of_mem _ member, isOrder⟩

/-- Orders whose codes are new and different can be inserted one after
another. -/
theorem clear_of_fresh {quantity : Int} {done : List Sale}
    (reseller : (db.row .resellers purchase.resellerId).isSome)
    (package : (db.row .packages purchase.packageId).isSome)
    (customer : (db.row .customers purchase.customerId).isSome)
    (fresh : ∀ sale ∈ sales, ∀ id order, db.row .orders id = some order →
      order.orderCode ≠ sale.orderCode)
    (distinct : ((done ++ sales).map (·.orderCode)).Nodup) :
    purchase.Clear quantity db done sales := by
  induction sales generalizing db done with
  | nil => trivial
  | cons sale sales ih =>
      have debitedRow : ∀ name id, name ≠ .customers →
          (purchase.debited quantity db).row name id = db.row name id :=
        fun name id other => row_modify_of_ne other
      constructor
      · have noOrder : (done.foldl purchase.deliver
            (purchase.debited quantity db)).idsWhere .orders
              (·.orderCode = (purchase.order sale).orderCode) = [] := by
          rw [List.eq_nil_iff_forall_not_mem]
          intro id member
          obtain ⟨order, found, same⟩ := mem_idsWhere.mp member
          rw [decide_eq_true_eq] at same
          rcases order_of_row_foldl_deliver found with early |
            ⟨other, otherDone, rfl⟩
          · rw [debitedRow _ _ (by decide)] at early
            exact fresh sale List.mem_cons_self id order early same
          · rw [List.map_append, List.nodup_append] at distinct
            exact distinct.2.2 other.orderCode (List.mem_map_of_mem otherDone)
              sale.orderCode List.mem_cons_self same
        rw [OrderService.orderInsertable, noOrder,
          Purchase.row_foldl_deliver_of_ne (by decide) (by decide),
          Purchase.row_foldl_deliver_of_ne (by decide) (by decide),
          Purchase.row_foldl_deliver_of_ne (by decide) (by decide),
          debitedRow _ _ (by decide), debitedRow _ _ (by decide)]
        have customerStays : ((purchase.debited quantity db).row .customers
            purchase.customerId).isSome = true := by
          rw [Purchase.debited, row_modify_self, Option.isSome_map]
          exact customer
        simpa [Purchase.order, chargeOrder, OrderService.phoneNumberFits]
          using ⟨⟨reseller, package⟩, customerStays⟩
      · apply ih
        · rwa [row_reserve]
        · rwa [row_reserve]
        · rwa [row_reserve]
        · intro other member id order found
          rw [row_reserve] at found
          exact fresh other (List.mem_cons_of_mem _ member) id order found
        · rw [List.append_assoc]
          exact distinct

variable {Result : Type} {failed : ServiceError → Program Result}
variable {next : List Delivery → Program Result} {reseller : ResellerRow}

/-- The loop of a bulk purchase delivers all codes, or it is rolled back at an
order code that is taken. -/
theorem runAlone_deliverCodes {quantity : Int} {done : List Sale}
    {delivered : List Delivery} :
    let sales := salesFrom reseller.orderPrefix stamps (db.nextId .orders)
      sequence codes
    let run := (deliverCodes purchase.resellerId purchase.packageId
      purchase.customerId (some reseller) purchase.price stamps failed next
      (codes.map fun entry => (entry.1, entry.2.code)) sequence
      delivered).runAlone (some fun later => done.foldl purchase.deliver
        (purchase.debited quantity later)) db
    (run = (next (delivered ++ sales.map (·.delivery))).runAlone none
      ((done ++ sales).foldl purchase.deliver (purchase.debited quantity
        ((·.reserve .orders)^[codes.length] db)))) ∨
    ¬ purchase.Clear quantity db done sales ∧
      ∃ after, (∀ name id, after.row name id = db.row name id) ∧
        run = (failed .integrityError).runAlone none after := by
  induction codes generalizing db done sequence delivered with
  | nil =>
      left
      simp [deliverCodes, salesFrom]
  | cons entry codes ih =>
      obtain ⟨codeId, code⟩ := entry
      let sale : Sale := ⟨codeId, code, db.nextId .orders,
        generateOrderCode reseller.orderPrefix (stamps sequence)
          (some sequence), true⟩
      have sameId : (done.foldl purchase.deliver
          (purchase.debited quantity db)).nextId .orders =
            db.nextId .orders := by
        simp [Purchase.debited]
      intro sales run
      by_cases accepted : OrderService.orderInsertable
          (done.foldl purchase.deliver (purchase.debited quantity db))
          (purchase.order sale) = true
      · have goesOn : run = (deliverCodes purchase.resellerId
            purchase.packageId purchase.customerId (some reseller)
            purchase.price stamps failed next
            (codes.map fun entry => (entry.1, entry.2.code)) (sequence + 1)
            (delivered ++ [sale.delivery])).runAlone
              (some fun later => (done ++ [sale]).foldl purchase.deliver
                (purchase.debited quantity later))
              (db.reserve .orders) := by
          unfold run
          rw [List.map_cons, deliverCodes, OrderService.insertOrder,
            runAlone_insertRow_pending accepted]
          simp only [runAlone_updateRow_pending, sameId, List.foldl_append]
          rfl
        have nextSales : sales = sale :: salesFrom reseller.orderPrefix stamps
            ((db.reserve .orders).nextId .orders) (sequence + 1) codes := by
          unfold sales
          rw [salesFrom, nextId_reserve_self]
        rw [goesOn, nextSales]
        rcases @ih (sequence + 1) (db.reserve .orders) (done ++ [sale])
          (delivered ++ [sale.delivery]) with delivers | ⟨notClear, refused⟩
        · left
          rw [delivers]
          simp only [List.append_assoc, List.singleton_append, List.map_cons,
            List.length_cons, Function.iterate_succ_apply]
        · right
          refine ⟨fun clear => notClear clear.2, ?_⟩
          obtain ⟨after, sameRows, ends⟩ := refused
          exact ⟨after, fun name id => (sameRows name id).trans row_reserve,
            ends⟩
      · right
        refine ⟨fun clear => accepted clear.1, db.reserve .orders,
          fun _ _ => row_reserve, ?_⟩
        unfold run
        rw [List.map_cons, deliverCodes, OrderService.insertOrder,
          runAlone_insertRow_pending_refused accepted]
        rfl

end Sales

/-- How many codes of a product can be sold. -/
def availableCount (db : Db) (packageId : Nat) : Nat :=
  (db.idsWhere .chargeCodes (isAvailable packageId)).length

/-- A bulk purchase has sold the available codes of the lowest ids, each in an
order of its own, and taken the price from the wallet; everything else is as
before. -/
structure SoldInBulk (purchase : Purchase) (quantity : Int) (before after : Db)
    (sales : List Sale) : Prop where
  price : (before.row .packages purchase.packageId).map (·.salePrice) =
    some purchase.price
  number : (sales.length : Int) = quantity
  lowest : sales.map (·.codeId) =
    (before.idsWhere .chargeCodes (isAvailable purchase.packageId)).take
      quantity.toNat
  codes : ∀ sale ∈ sales,
    before.row .chargeCodes sale.codeId = some sale.code
  ownOrders : (sales.map (·.orderId)).Nodup
  newOrders : ∀ sale ∈ sales, before.row .orders sale.orderId = none
  sold : ∀ sale ∈ sales, after.row .chargeCodes sale.codeId =
    some ((sale.code.soldTo purchase.customerId).withSoldOrder sale.orderId)
  otherCodes : ∀ id, id ∉ sales.map (·.codeId) →
    after.row .chargeCodes id = before.row .chargeCodes id
  ordered : ∀ sale ∈ sales, after.row .orders sale.orderId =
    some (chargeOrder sale.orderCode purchase.resellerId purchase.packageId
      purchase.customerId purchase.price sale.code.code)
  otherOrders : ∀ id, id ∉ sales.map (·.orderId) →
    after.row .orders id = before.row .orders id
  paid : after.row .customers purchase.customerId =
    (before.row .customers purchase.customerId).map fun customer =>
      customer.withBalance (customer.walletBalance - purchase.price * quantity)
  otherCustomers : ∀ id, id ≠ purchase.customerId →
    after.row .customers id = before.row .customers id
  otherTables : ∀ name id, name ≠ .chargeCodes → name ≠ .orders →
    name ≠ .customers → after.row name id = before.row name id

/-- A bulk purchase ends in one of two ways. -/
inductive BulkOutcome (resellerId packageId customerId : Nat) (quantity : Int)
    (before : Db) : Db × Option Outcome → Prop where
  | sold (price : Cents) (after : Db) (sales : List Sale)
      (effect : SoldInBulk ⟨resellerId, packageId, customerId, price⟩ quantity
        before after sales) :
      BulkOutcome resellerId packageId customerId quantity before
        (after, some (.ok (.bulk ⟨sales.map (·.delivery), price * quantity,
          price, quantity⟩)))
  | refused (error : ServiceError) (after : Db)
      (unchanged : ∀ name id, after.row name id = before.row name id)
      (count : ∀ message available,
        error = .chargeOutOfStock message available →
        available = some (availableCount before packageId)) :
      BulkOutcome resellerId packageId customerId quantity before
        (after, some (.error error))

/-- What the purchase needs. -/
def CanBuy (resellerId packageId customerId : Nat) (quantity : Int)
    (db : Db) : Prop :=
  1 ≤ quantity ∧ (db.row .resellers resellerId).isSome ∧
    ∃ package customer, db.row .packages packageId = some package ∧
      db.row .customers customerId = some customer ∧
      BlacklistService.blacklisted db customer.telegramUserId
        (some resellerId) = false ∧
      package.salePrice * quantity ≤ customer.walletBalance ∧
      quantity ≤ availableCount db packageId

/-- The order codes that the purchase generates are not taken yet. -/
structure GeneratesNew (resellerId : Nat) (quantity : Int)
    (stamps : Nat → OrderStamp) (db : Db) : Prop where
  wellFormed : ∀ sequence : Nat, 1 ≤ sequence → sequence ≤ quantity →
    (stamps sequence).WellFormed
  fresh : ∀ reseller, db.row .resellers resellerId = some reseller →
    ∀ sequence : Nat, 1 ≤ sequence → sequence ≤ quantity →
    ∀ id order, db.row .orders id = some order →
      order.orderCode ≠ generateOrderCode reseller.orderPrefix
        (stamps sequence) (some sequence)

section Outcomes

variable {resellerId packageId customerId limit : Nat} {quantity : Int}
variable {stamps : Nat → OrderStamp} {db : Db} {purchase : Purchase}
variable {sales : List Sale}

theorem ids_lowestAvailable :
    (lowestAvailable db packageId limit).map Prod.fst =
      (db.idsWhere .chargeCodes (isAvailable packageId)).take limit := by
  have allFound : ∀ ids : List Nat,
      (∀ id ∈ ids, (db.row .chargeCodes id).isSome) →
      (ids.filterMap fun id => (db.row .chargeCodes id).map (id, ·)).map
        Prod.fst = ids := by
    intro ids found
    induction ids with
    | nil => rfl
    | cons id ids ih =>
        obtain ⟨code, row⟩ :=
          Option.isSome_iff_exists.mp (found id List.mem_cons_self)
        have rest := ih fun other member =>
          found other (List.mem_cons_of_mem _ member)
        simp [row, rest]
  rw [lowestAvailable, List.map_take, allFound]
  intro id member
  obtain ⟨code, row, -⟩ := mem_idsWhere.mp member
  rw [row]
  rfl

theorem row_of_mem_lowestAvailable {entry : Nat × ChargeCodeRow}
    (member : entry ∈ lowestAvailable db packageId limit) :
    db.row .chargeCodes entry.1 = some entry.2 ∧
      isAvailable packageId entry.2 = true := by
  obtain ⟨id, listed, mapped⟩ :=
    List.mem_filterMap.mp (List.mem_of_mem_take member)
  obtain ⟨code, found, passes⟩ := mem_idsWhere.mp listed
  rw [found] at mapped
  cases mapped
  exact ⟨found, passes⟩

theorem length_availableCodes :
    (availableCodes db packageId limit).length =
      min limit (availableCount db packageId) := by
  rw [availableCodes_eq, List.length_map, ← List.length_map Prod.fst,
    ids_lowestAvailable, List.length_take, availableCount]

/-- What the sales leave of the codes and the orders. -/
theorem row_foldl_deliver (deliverable : purchase.Deliverable db sales) :
    (∀ sale ∈ sales,
      (sales.foldl purchase.deliver db).row .chargeCodes sale.codeId =
          some (purchase.sell sale sale.code) ∧
        (sales.foldl purchase.deliver db).row .orders sale.orderId =
          some (purchase.order sale)) ∧
    (∀ id, id ∉ sales.map (·.codeId) →
      (sales.foldl purchase.deliver db).row .chargeCodes id =
        db.row .chargeCodes id) ∧
    ∀ id, id ∉ sales.map (·.orderId) →
      (sales.foldl purchase.deliver db).row .orders id =
        db.row .orders id := by
  induction sales generalizing db with
  | nil => exact ⟨nofun, fun _ _ => rfl, fun _ _ => rfl⟩
  | cons sale sales ih =>
      obtain ⟨sold, otherCodes, otherOrders⟩ := ih deliverable.tail
      obtain ⟨codeNew, -⟩ := List.nodup_cons.mp deliverable.codes_nodup
      obtain ⟨orderNew, -⟩ := List.nodup_cons.mp deliverable.orders_nodup
      refine ⟨fun other member => ?_, fun id absent => ?_, fun id absent => ?_⟩
      · rcases List.mem_cons.mp member with rfl | later
        · rw [List.foldl_cons, otherCodes _ codeNew, otherOrders _ orderNew,
            Purchase.deliver, row_modify_self, row_put_of_ne (by decide),
            (deliverable.available _ List.mem_cons_self).1,
            row_modify_of_ne (by decide),
            row_put_self (deliverable.reserved _ List.mem_cons_self).2]
          exact ⟨rfl, rfl⟩
        · exact sold other later
      · rw [List.map_cons, List.mem_cons, not_or] at absent
        obtain ⟨different, later⟩ := absent
        rw [List.foldl_cons, otherCodes id later, Purchase.deliver,
          row_modify_ne different, row_put_of_ne (by decide)]
      · rw [List.map_cons, List.mem_cons, not_or] at absent
        obtain ⟨different, later⟩ := absent
        rw [List.foldl_cons, otherOrders id later, Purchase.deliver,
          row_modify_of_ne (by decide), row_put_ne different]

theorem row_iterate_reserve (count : Nat) (name : TableName) (id : Nat) :
    ((Database.reserve · .orders)^[count] db).row name id = db.row name id := by
  induction count generalizing db with
  | zero => rfl
  | succ count ih => rw [Function.iterate_succ_apply, ih, row_reserve]

theorem nextId_iterate_reserve (count : Nat) :
    ((Database.reserve · .orders)^[count] db).nextId .orders =
      db.nextId .orders + count := by
  induction count generalizing db with
  | zero => rfl
  | succ count ih =>
      rw [Function.iterate_succ_apply, ih, nextId_reserve_self]
      omega

theorem mem_range'_of_mem_salesFrom {orderPrefix : String}
    {orderId sequence : Nat} {codes : List (Nat × ChargeCodeRow)} {sale : Sale}
    (member : sale ∈ salesFrom orderPrefix stamps orderId sequence codes) :
    orderId ≤ sale.orderId ∧ sale.orderId < orderId + codes.length := by
  have listed : sale.orderId ∈ List.range' orderId codes.length := by
    rw [← orderIds_salesFrom]
    exact List.mem_map_of_mem member
  simpa using listed

theorem pair_of_mem_salesFrom {orderPrefix : String}
    {orderId sequence : Nat} {codes : List (Nat × ChargeCodeRow)} {sale : Sale}
    (member : sale ∈ salesFrom orderPrefix stamps orderId sequence codes) :
    (sale.codeId, sale.code) ∈ codes := by
  rw [← @codes_salesFrom orderPrefix stamps orderId sequence codes]
  exact List.mem_map_of_mem member

theorem codeIds_salesFrom {orderPrefix : String}
    {orderId sequence : Nat} {codes : List (Nat × ChargeCodeRow)} :
    (salesFrom orderPrefix stamps orderId sequence codes).map (·.codeId) =
      codes.map Prod.fst := by
  have pairs := congrArg (List.map Prod.fst)
    (@codes_salesFrom orderPrefix stamps orderId sequence codes)
  simpa [Function.comp_def] using pairs

/-- The available codes of the lowest ids can be delivered in new orders. -/
theorem deliverable_salesFrom (orderPrefix : String) (sequence limit : Nat) :
    let codes := lowestAvailable db purchase.packageId limit
    purchase.Deliverable ((Database.reserve · .orders)^[codes.length] db)
      (salesFrom orderPrefix stamps (db.nextId .orders) sequence codes) where
  available sale member := by
    rw [row_iterate_reserve]
    exact row_of_mem_lowestAvailable (pair_of_mem_salesFrom member)
  reserved sale member := by
    obtain ⟨new, bound⟩ := mem_range'_of_mem_salesFrom member
    constructor
    · rw [row_iterate_reserve]
      by_contra present
      obtain ⟨found, row⟩ := Option.ne_none_iff_exists'.mp present
      exact absurd (lt_nextId_of_row row) (not_lt.mpr new)
    · rw [nextId_iterate_reserve]
      exact bound
  codes_nodup := by
    rw [codeIds_salesFrom, ids_lowestAvailable]
    exact ((db.table .chargeCodes).idsWhere_nodup _).sublist
      (List.take_sublist _ _)
  orders_nodup := by
    rw [orderIds_salesFrom]
    exact List.nodup_range'

/-- The codes that are delivered, from a state in which they were
available. -/
theorem soldInBulk_salesFrom {orderPrefix : String} {sequence : Nat}
    {package : PackageRow}
    (found : db.row .packages purchase.packageId = some package)
    (price : package.salePrice = purchase.price) (enough : 0 ≤ quantity)
    (available : quantity ≤ availableCount db purchase.packageId) :
    let codes := lowestAvailable db purchase.packageId quantity.toNat
    let sales := salesFrom orderPrefix stamps (db.nextId .orders) sequence codes
    SoldInBulk purchase quantity db
      (sales.foldl purchase.deliver (purchase.debited quantity
        ((Database.reserve · .orders)^[codes.length] db))) sales := by
  intro codes sales
  have deliverable : purchase.Deliverable
      ((Database.reserve · .orders)^[codes.length] db) sales :=
    deliverable_salesFrom orderPrefix sequence quantity.toNat
  obtain ⟨sold, otherCodes, otherOrders⟩ :=
    row_foldl_deliver (deliverable.debited quantity)
  have debitedRow : ∀ name id, name ≠ .customers →
      (purchase.debited quantity
        ((Database.reserve · .orders)^[codes.length] db)).row name id =
          db.row name id := by
    intro name id other
    rw [Purchase.debited, row_modify_of_ne other, row_iterate_reserve]
  have customerRow : ∀ id, (sales.foldl purchase.deliver
      (purchase.debited quantity
        ((Database.reserve · .orders)^[codes.length] db))).row .customers id =
          if id = purchase.customerId then
            (db.row .customers id).map fun customer =>
              customer.withBalance
                (customer.walletBalance - purchase.price * quantity)
          else db.row .customers id := by
    intro id
    rw [Purchase.row_foldl_deliver_of_ne (by decide) (by decide),
      Purchase.debited, row_modify, row_iterate_reserve]
  constructor
  · rw [found, Option.map_some, price]
  · have length : codes.length = min quantity.toNat
        (availableCount db purchase.packageId) := by
      rw [← length_availableCodes, availableCodes_eq, List.length_map]
    rw [length_salesFrom, length]
    omega
  · rw [codeIds_salesFrom, ids_lowestAvailable]
  · intro sale member
    exact (row_of_mem_lowestAvailable (pair_of_mem_salesFrom member)).1
  · exact deliverable.orders_nodup
  · intro sale member
    rw [← row_iterate_reserve codes.length]
    exact (deliverable.reserved sale member).1
  · intro sale member
    rw [(sold sale member).1, Purchase.sell,
      if_pos (linked_of_mem_salesFrom member)]
  · intro id absent
    rw [otherCodes id absent, debitedRow _ _ (by decide)]
  · intro sale member
    rw [(sold sale member).2, Purchase.order]
  · intro id absent
    rw [otherOrders id absent, debitedRow _ _ (by decide)]
  · rw [customerRow, if_pos rfl]
  · intro id other
    rw [customerRow, if_neg other]
  · intro name id notCodes notOrders notCustomers
    rw [Purchase.row_foldl_deliver_of_ne notOrders notCodes,
      debitedRow _ _ notCustomers]

/-- The purchase has returned its codes. -/
def HasBought (run : Db × Option Outcome) : Prop :=
  ∃ bought, run.2 = some (.ok (.bulk bought))

/-- The transaction of a bulk purchase that runs alone. -/
theorem runAlone_bulkDeliver {package : PackageRow}
    (enough : 1 ≤ quantity)
    (found : db.row .packages packageId = some package) :
    let run := (purchaseChargeBulk.deliver resellerId packageId customerId
      quantity stamps (ServiceCall.finish .bulk)
      (db.row .resellers resellerId) package.salePrice).runAlone none db
    let covers := (db.row .resellers resellerId).isSome ∧
      ∃ customer, db.row .customers customerId = some customer ∧
        package.salePrice * quantity ≤ customer.walletBalance ∧
        quantity ≤ availableCount db packageId
    BulkOutcome resellerId packageId customerId quantity db run ∧
      (HasBought run → covers) ∧
      (GeneratesNew resellerId quantity stamps db → covers →
        HasBought run) := by
  intro run covers
  have refused : ∀ (error : ServiceError) (after : Db),
      run = (after, some (.error error)) →
      (∀ name id, after.row name id = db.row name id) →
      (∀ message available, error = .chargeOutOfStock message available →
        available = some (availableCount db packageId)) →
      ¬ covers →
      BulkOutcome resellerId packageId customerId quantity db run ∧
        (HasBought run → covers) ∧
        (GeneratesNew resellerId quantity stamps db → covers →
          HasBought run) := by
    intro error after ends unchanged count notCovered
    rw [ends]
    refine ⟨.refused error after unchanged count, ?_,
      fun _ covered => absurd covered notCovered⟩
    rintro ⟨bought, isOk⟩
    cases isOk
  cases customerFound : db.row .customers customerId with
  | none =>
      refine refused .noneNotSubscriptable db ?_ (fun _ _ => rfl) nofun ?_
      · simp [run, purchaseChargeBulk.deliver, lockBalance, customerFound,
          ServiceCall.finish, Except.map]
      · rintro ⟨-, customer, present, -⟩
        cases customerFound.symm.trans present
  | some customer =>
      by_cases poor :
          customer.walletBalance < package.salePrice * quantity
      · refine refused insufficientBalanceError db ?_ (fun _ _ => rfl) nofun ?_
        · simp [run, purchaseChargeBulk.deliver, lockBalance, customerFound,
            poor, ServiceCall.finish, Except.map]
        · rintro ⟨-, other, present, paid, -⟩
          cases customerFound.symm.trans present
          exact absurd poor (not_lt.mpr paid)
      · have count := @length_availableCodes packageId quantity.toNat db
        by_cases short :
            ((availableCodes db packageId quantity.toNat).length : Int) <
              quantity
        · have all : (availableCodes db packageId quantity.toNat).length =
              availableCount db packageId := by
            omega
          let size := (availableCodes db packageId quantity.toNat).length
          refine refused (.chargeOutOfStock
            s!"تنها {size} عدد از این شارژ موجود است." (some size)) db ?_
            (fun _ _ => rfl) ?_ ?_
          · simp [run, purchaseChargeBulk.deliver, lockBalance,
              lockAvailableCodes, customerFound, poor, short,
              ServiceCall.finish, Except.map, size]
          · intro message available same
            cases same
            exact congrArg some all
          · rintro ⟨-, other, -, -, stock⟩
            omega
        · have stock : quantity ≤ availableCount db packageId := by
            omega
          let purchase : Purchase :=
            ⟨resellerId, packageId, customerId, package.salePrice⟩
          let codes := lowestAvailable db packageId quantity.toNat
          have delivers : run = (deliverCodes resellerId packageId customerId
              (db.row .resellers resellerId) package.salePrice stamps
              (fun error => ServiceCall.finish .bulk (.error error))
              (fun delivered => ServiceCall.finish .bulk
                (.ok ⟨delivered, package.salePrice * quantity,
                  package.salePrice, quantity⟩))
              (codes.map fun entry => (entry.1, entry.2.code)) 1
              []).runAlone
                (some fun later => ([] : List Sale).foldl purchase.deliver
                  (purchase.debited quantity later)) db := by
            rw [← availableCodes_eq]
            simp [run, purchaseChargeBulk.deliver, lockBalance,
              lockAvailableCodes, customerFound, poor, short, debit]
            rfl
          cases resellerFound : db.row .resellers resellerId with
          | none =>
              have some : ∃ entry rest, codes = entry :: rest := by
                apply List.exists_cons_of_length_pos
                have length : codes.length =
                    min quantity.toNat (availableCount db packageId) := by
                  rw [← count, availableCodes_eq, List.length_map]
                omega
              obtain ⟨entry, rest, isCons⟩ := some
              rw [isCons, resellerFound] at delivers
              refine refused .noneNotSubscriptable db delivers
                (fun _ _ => rfl) nofun ?_
              rintro ⟨present, -⟩
              rw [resellerFound] at present
              cases present
          | some reseller =>
              rw [resellerFound] at delivers
              rcases @runAlone_deliverCodes stamps 1 codes purchase db Outcome
                (fun error => ServiceCall.finish .bulk (.error error))
                (fun delivered => ServiceCall.finish .bulk
                  (.ok ⟨delivered, package.salePrice * quantity,
                    package.salePrice, quantity⟩)) reseller quantity [] []
                with success | ⟨notClear, after, unchanged, ends⟩
              · have effect : SoldInBulk purchase quantity db _ _ :=
                  @soldInBulk_salesFrom quantity stamps db purchase
                    reseller.orderPrefix 1 package found rfl (by omega) stock
                have ends := delivers.trans success
                refine ⟨?_, fun _ => ?_, fun _ _ => ?_⟩
                · rw [ends]
                  exact .sold package.salePrice _ _ effect
                · exact ⟨by rw [resellerFound]; rfl, customer, customerFound,
                    not_lt.mp poor, stock⟩
                · rw [ends]
                  exact ⟨_, rfl⟩
              · have ran := delivers.trans ends
                have inRange : ∀ sequence ∈ List.range' 1 codes.length,
                    1 ≤ sequence ∧ (sequence : Int) ≤ quantity := by
                  intro sequence member
                  rw [availableCodes_eq, List.length_map] at count
                  have bounds := List.mem_range'_1.mp member
                  have length : codes.length = min quantity.toNat
                    (availableCount db packageId) := count
                  omega
                refine ⟨?_, ?_, fun generates _ => absurd ?_ notClear⟩
                · rw [ran]
                  exact .refused .integrityError after unchanged nofun
                · rintro ⟨bought, isOk⟩
                  rw [ran] at isOk
                  cases isOk
                · apply clear_of_fresh
                  · rw [resellerFound]
                    rfl
                  · rw [found]
                    rfl
                  · rw [customerFound]
                    rfl
                  · intro sale member id order orderFound
                    have isCode : sale.orderCode ∈ (salesFrom
                        reseller.orderPrefix stamps (db.nextId .orders) 1
                        codes).map (·.orderCode) :=
                      List.mem_map_of_mem member
                    rw [orderCodes_salesFrom] at isCode
                    obtain ⟨sequence, listed, same⟩ := List.mem_map.mp isCode
                    obtain ⟨first, last⟩ := inRange sequence listed
                    rw [← same]
                    exact generates.fresh reseller resellerFound sequence first
                      last id order orderFound
                  · rw [List.nil_append, orderCodes_salesFrom]
                    apply nodup_orderCodes
                    intro sequence listed
                    obtain ⟨first, last⟩ := inRange sequence listed
                    exact generates.wellFormed sequence first last

/-- A bulk purchase that runs alone is refused before its transaction starts,
or it is this transaction. -/
theorem runAlone_purchaseChargeBulk (resellerId packageId customerId : Nat)
    (quantity : Int) (stamps : Nat → OrderStamp) (db : Db) :
    let run := (ServiceCall.purchaseChargeBulk resellerId packageId customerId
      quantity stamps).program.runAlone none db
    (∃ error : ServiceError, run = (db, some (.error error)) ∧
      (∀ message available, error ≠ .chargeOutOfStock message available) ∧
      ¬ CanBuy resellerId packageId customerId quantity db) ∨
    ∃ package, db.row .packages packageId = some package ∧ 1 ≤ quantity ∧
      (∀ customer, db.row .customers customerId = some customer →
        BlacklistService.blacklisted db customer.telegramUserId
          (some resellerId) = false) ∧
      run = (purchaseChargeBulk.deliver resellerId packageId customerId
        quantity stamps (ServiceCall.finish .bulk)
        (db.row .resellers resellerId) package.salePrice).runAlone none db := by
  intro run
  have runIs : run = (purchaseChargeBulk resellerId packageId customerId
      quantity stamps (ServiceCall.finish .bulk)).runAlone none db :=
    rfl
  rw [purchaseChargeBulk] at runIs
  split_ifs at runIs with tooFew
  · refine .inl ⟨_, runIs, nofun, ?_⟩
    rintro ⟨enough, -⟩
    omega
  rw [Program.runAlone_select, OrderService.runAlone_refuseBlacklisted] at runIs
  split_ifs at runIs with listed
  · refine .inl ⟨_, runIs, nofun, ?_⟩
    rintro ⟨-, -, _, customer, -, found, notListed, -⟩
    rw [found, Option.any_some, notListed] at listed
    cases listed
  rw [Program.runAlone_select, Program.runAlone_select] at runIs
  cases packageFound : db.row .packages packageId with
  | none =>
      rw [packageFound] at runIs
      refine .inl ⟨_, runIs, nofun, ?_⟩
      rintro ⟨-, -, package, -, found, -⟩
      cases packageFound.symm.trans found
  | some package =>
      rw [packageFound] at runIs
      have enough : 1 ≤ quantity := by omega
      refine .inr ⟨package, rfl, enough, fun customer found => ?_, runIs⟩
      rw [found, Option.any_some] at listed
      simpa using listed

/-- A bulk purchase that runs alone raises and changes nothing, or it has
exactly the effect that it should have. -/
theorem bulkOutcome_runAlone (resellerId packageId customerId : Nat)
    (quantity : Int) (stamps : Nat → OrderStamp) (db : Db) :
    BulkOutcome resellerId packageId customerId quantity db
      ((ServiceCall.purchaseChargeBulk resellerId packageId customerId
        quantity stamps).program.runAlone none db) := by
  rcases runAlone_purchaseChargeBulk resellerId packageId customerId quantity
    stamps db with ⟨error, ends, other, -⟩ | ⟨package, found, enough, -, ends⟩
  · rw [ends]
    exact .refused error db (fun _ _ => rfl) fun message available same =>
      absurd same (other message available)
  · rw [ends]
    exact (runAlone_bulkDeliver enough found).1

/-- A bulk purchase that runs alone raises and changes nothing, or it has
exactly the effect that it should have.  When its order codes are new, it
succeeds exactly if everything that it needs is there. -/
theorem purchaseChargeBulk_exact (resellerId packageId customerId : Nat)
    (quantity : Int) (stamps : Nat → OrderStamp) (db : Db) :
    let run := (ServiceCall.purchaseChargeBulk resellerId packageId customerId
      quantity stamps).program.runAlone none db
    BulkOutcome resellerId packageId customerId quantity db run ∧
      (GeneratesNew resellerId quantity stamps db →
        (HasBought run ↔
          CanBuy resellerId packageId customerId quantity db)) := by
  intro run
  have outcome : BulkOutcome resellerId packageId customerId quantity db run :=
    bulkOutcome_runAlone resellerId packageId customerId quantity stamps db
  refine ⟨outcome, fun generates => ?_⟩
  rcases runAlone_purchaseChargeBulk resellerId packageId customerId quantity
    stamps db with ⟨error, ends, -, cannot⟩ |
      ⟨package, found, enough, notListed, ends⟩
  · apply iff_of_false _ cannot
    rintro ⟨bought, isOk⟩
    cases (congrArg Prod.snd ends).symm.trans isOk
  · have transaction := @runAlone_bulkDeliver resellerId packageId customerId
      quantity stamps db package enough found
    obtain ⟨-, covered, covers⟩ := transaction
    rw [← ends] at covered covers
    constructor
    · intro bought
      obtain ⟨reseller, customer, customerFound, paid, stock⟩ := covered bought
      exact ⟨enough, reseller, package, customer, found, customerFound,
        notListed customer customerFound, paid, stock⟩
    · rintro ⟨-, reseller, other, customer, same, customerFound, -, paid, stock⟩
      cases found.symm.trans same
      exact covers generates ⟨reseller, customer, customerFound, paid, stock⟩

end Outcomes

/-- A shop with three available codes, which has sold another one a second
before. -/
def stockedDb : Db :=
  .filled fun
    | .resellers => [shopReseller]
    | .customers => [shopCustomer]
    | .packages => [shopPackage]
    | .orders => [chargeOrder "AR-C-240131-115959AAA001" 1 1 1 800 "A0"]
    | .chargeCodes =>
        [{ resellerId := 1, packageId := 1, code := "A0", status := .sold
           soldToCustomerId := some 1, soldOrderId := some 1 },
          { resellerId := 1, packageId := 1, code := "A1" },
          { resellerId := 1, packageId := 1, code := "A2" },
          { resellerId := 1, packageId := 1, code := "A3" }]
    | _ => []

theorem purchaseChargeBulk_exact_two :
    HasBought ((ServiceCall.purchaseChargeBulk 1 1 1 2 fun _ =>
      shopStamp "AAA").program.runAlone none stockedDb) := by
  have generates : GeneratesNew 1 2 (fun _ => shopStamp "AAA") stockedDb :=
    { wellFormed := fun _ _ _ => ⟨by constructor <;> decide, by decide⟩
      fresh := by
        intro reseller isReseller sequence positive small id order found
        have prefixed : reseller.orderPrefix = "AR" := by
          cases isReseller
          rfl
        have sold := List.mem_singleton.mp (KeyedTable.mem_of_row_ofRows found)
        have two : sequence = 1 ∨ sequence = 2 := by omega
        rw [prefixed, sold]
        rcases two with rfl | rfl
        · decide +kernel
        · decide +kernel }
  have can : CanBuy 1 1 1 2 stockedDb :=
    ⟨by decide, by decide, shopPackage, shopCustomer, rfl, rfl,
      by decide +kernel, by decide, by decide +kernel⟩
  exact ((purchaseChargeBulk_exact 1 1 1 2 (fun _ => shopStamp "AAA")
    stockedDb).2 generates).mpr can

end ChargeService

end Baste
