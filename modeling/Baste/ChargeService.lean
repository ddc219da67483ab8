import Baste.OrderService

/-!
# Charge codes

The stock of prepaid codes of a charge product, and their sale from the
customer's wallet.  A purchase locks the customer and the codes, and delivers
them in one transaction: one code and one order row each.
-/

namespace Baste

open Database Transaction

/-- The code after its sale. -/
def ChargeCodeRow.soldTo (customerId : Nat) (code : ChargeCodeRow) :
    ChargeCodeRow :=
  { code with status := .sold, soldToCustomerId := some customerId }

/-- The code with the order it was delivered in. -/
def ChargeCodeRow.withSoldOrder (orderId : Nat) (code : ChargeCodeRow) :
    ChargeCodeRow :=
  { code with soldOrderId := some orderId }

namespace ChargeService

variable {Result : Type}

def generateOrderCode (orderPrefix : String) (stamp : OrderStamp)
    (sequence : Option Nat) : String :=
  let code :=
    s!"{orderPrefix}-C-{stamp.now.date}-{stamp.now.time}{stamp.suffix}"
  match sequence with
  | none => code
  | some sequence => code ++ threeDigits sequence
where
  /-- `{sequence:03d}` -/
  threeDigits (number : Nat) : String :=
    if number < 10 then s!"00{number}"
    else if number < 100 then s!"0{number}"
    else s!"{number}"

/-- The characters that end a line for `str.splitlines`. -/
def isLineBoundary (char : Char) : Bool :=
  char.toNat ∈ [0x0a, 0x0b, 0x0c, 0x0d, 0x1c, 0x1d, 0x1e, 0x85, 0x2028, 0x2029]

/-- `str.splitlines`, with the characters of the current line so far. -/
def splitLines (current : List Char) : List Char → List (List Char)
  | [] => if current = [] then [] else [current.reverse]
  | '\r' :: '\n' :: rest => current.reverse :: splitLines [] rest
  | char :: rest =>
      if isLineBoundary char then current.reverse :: splitLines [] rest
      else splitLines (char :: current) rest

/-- The characters that `str.strip` removes. -/
def isSpace (char : Char) : Bool :=
  char.toNat ∈ [0x09, 0x0a, 0x0b, 0x0c, 0x0d, 0x1c, 0x1d, 0x1e, 0x1f, 0x20,
    0x85, 0xa0, 0x1680, 0x2028, 0x2029, 0x202f, 0x205f, 0x3000] ||
  0x2000 ≤ char.toNat && char.toNat ≤ 0x200a

def strip (line : List Char) : List Char :=
  ((line.dropWhile isSpace).reverse.dropWhile isSpace).reverse

/-- The distinct non-blank lines of a text, in order of first occurrence. -/
def cleanLines (rawText : String) : List String :=
  (splitLines [] rawText.toList).foldl (fun cleaned rawLine =>
    let line := String.ofList (strip rawLine)
    if line = "" || line ∈ cleaned then cleaned else cleaned ++ [line]) []

/-- A code that can still be sold. -/
def isAvailable (packageId : Nat) (code : ChargeCodeRow) : Bool :=
  code.packageId = packageId && code.status = .available

/-- A new row of the stock. -/
def stockRow (resellerId packageId : Nat) (code : String) :
    ChargeCodeRow where
  resellerId := resellerId
  packageId := packageId
  code := code

/-- Insert the codes one by one.  The column holds 128 characters. -/
def insertCodes (resellerId packageId : Nat) (added : Nat)
    (next : Except ServiceError Nat → Program Result) :
    List String → Program Result
  | [] => next (.ok added)
  | code :: codes =>
      insertRow .chargeCodes []
        (fun db => code.length ≤ 128 &&
          (db.row .resellers resellerId).isSome &&
          (db.row .packages packageId).isSome)
        (stockRow resellerId packageId code) fun
          | some _ => insertCodes resellerId packageId added next codes
          | none =>
              next (.error (if code.length ≤ 128 then .integrityError
                else .dataError))

def addChargeCodes (resellerId packageId : Nat) (rawText : String)
    (next : Except ServiceError Nat → Program Result) : Program Result :=
  let cleaned := cleanLines rawText
  insertCodes resellerId packageId cleaned.length next cleaned

def deleteAvailableCode (codeId : Nat)
    (next : Except ServiceError Unit → Program Result) : Program Result :=
  deleteRows .chargeCodes
      (fun db =>
        if (db.row .chargeCodes codeId).any (·.status = .available) then
          [codeId]
        else []) <|
    next (.ok ())

def clearAvailableCodes (packageId : Nat)
    (next : Except ServiceError Nat → Program Result) : Program Result :=
  .select fun now =>
    let count := now.count .chargeCodes (isAvailable packageId)
    deleteRows .chargeCodes (·.idsWhere .chargeCodes (isAvailable packageId)) <|
      next (.ok count)

/-- The first available codes of a product, with their ids. -/
def availableCodes (db : Db) (packageId limit : Nat) : List (Nat × String) :=
  ((db.idsWhere .chargeCodes (isAvailable packageId)).filterMap fun id =>
    (db.row .chargeCodes id).map fun code => (id, code.code)).take limit

/-- `SELECT … ORDER BY id ASC LIMIT … FOR UPDATE` -/
def lockAvailableCodes (packageId limit : Nat)
    (next : List (Nat × String) → Program Result) : Program Result :=
  .selectForUpdate
    (fun db => (availableCodes db packageId limit).map (.row .chargeCodes ·.1))
    fun now => next (availableCodes now packageId limit)

/-- The row of an order that delivers a code. -/
def chargeOrder (orderCode : String) (resellerId packageId customerId : Nat)
    (price : Cents) (code : String) : OrderRow where
  orderCode := orderCode
  resellerId := resellerId
  packageId := packageId
  customerId := customerId
  status := .activated
  orderType := .charge
  packagePrice := price
  paidFromWallet := true
  deliveredChargeCode := some code

def blacklistedError : ServiceError :=
  .chargeCustomerBlacklisted "این مشتری در لیست سیاه است و امکان خرید ندارد."

def insufficientBalanceError : ServiceError :=
  .chargeInsufficientBalance "موجودی کیف‌پول کافی نیست."

/-- Lock the customer's row and go on with the balance if it covers the
price. -/
def lockBalance (customerId : Nat) (price : Cents)
    (failed : ServiceError → Program Result) (next : Program Result) :
    Program Result :=
  .selectForUpdate (fun _ => [.row .customers customerId]) fun now =>
    match now.row .customers customerId with
    | none => .rollback (failed .noneNotSubscriptable)
    | some customer =>
        if customer.walletBalance < price then
          .rollback (failed insufficientBalanceError)
        else next

/-- Take the price from the customer's wallet. -/
def debit (customerId : Nat) (price : Cents) (next : Program Result) :
    Program Result :=
  updateRow .customers customerId
    (fun customer => customer.withBalance (customer.walletBalance - price)) next

def purchaseCharge (resellerId packageId customerId : Nat)
    (stamp : OrderStamp)
    (next : Except ServiceError ((Nat × OrderRow) × String) →
      Program Result) : Program Result :=
  .select fun now =>
    OrderService.refuseBlacklisted (now.row .customers customerId) resellerId
      (next (.error blacklistedError)) <|
      .select fun now =>
        let reseller := now.row .resellers resellerId
        .select fun now =>
          match now.row .packages packageId, reseller with
          | none, _ => next (.error (.valueError "محصول شارژ پیدا نشد."))
          | some _, none => next (.error .noneNotSubscriptable)
          | some package, some reseller =>
              deliver package.salePrice
                (generateOrderCode reseller.orderPrefix stamp none)
where
  deliver (price : Cents) (orderCode : String) : Program Result :=
    .begin <|
      lockBalance customerId price (fun error => next (.error error)) <|
        lockAvailableCodes packageId 1 fun
          | [] =>
              .rollback <| next (.error
                (.chargeOutOfStock "موجودی این شارژ تمام شده است." none))
          | (codeId, code) :: _ =>
              debit customerId price <|
                OrderService.insertOrder
                  (chargeOrder orderCode resellerId packageId customerId price
                    code) fun
                  | none => .rollback (next (.error .integrityError))
                  | some _ =>
                      updateRow .chargeCodes codeId (·.soldTo customerId) <|
                        .commit (linkOrder orderCode codeId code)
  linkOrder (orderCode : String) (codeId : Nat) (code : String) :
      Program Result :=
    .select fun now =>
      match OrderService.findOrder now orderCode with
      | none =>
          next (.error (.runtimeError
            s!"سفارش {orderCode} ثبت شد ولی بلافاصله پیدا نشد."))
      | some found =>
          updateRow .chargeCodes codeId (·.withSoldOrder found.1) <|
            next (.ok (found, code))

/-- One delivered code of a bulk purchase. -/
structure Delivery where
  orderId : Nat
  orderCode : String
  code : String
  deriving DecidableEq, Repr

/-- What a bulk purchase returns. -/
structure BulkPurchase where
  orders : List Delivery
  totalPrice : Cents
  unitPrice : Cents
  quantity : Int
  deriving DecidableEq, Repr

/-- The loop of a bulk purchase: one order and one sold code at a time. -/
def deliverCodes (resellerId packageId customerId : Nat)
    (reseller : Option ResellerRow) (price : Cents)
    (stamps : Nat → OrderStamp) (failed : ServiceError → Program Result)
    (next : List Delivery → Program Result) :
    List (Nat × String) → Nat → List Delivery → Program Result
  | [], _, delivered => .commit (next delivered)
  | (codeId, code) :: rest, seq, delivered =>
      match reseller with
      | none => .rollback (failed .noneNotSubscriptable)
      | some found =>
          let orderCode :=
            generateOrderCode found.orderPrefix (stamps seq) (some seq)
          OrderService.insertOrder
            (chargeOrder orderCode resellerId packageId customerId price
              code) fun
            | none => .rollback (failed .integrityError)
            | some orderId =>
                updateRow .chargeCodes codeId
                    (fun row =>
                      (row.soldTo customerId).withSoldOrder orderId) <|
                  deliverCodes resellerId packageId customerId reseller price
                    stamps failed next rest (seq + 1)
                    (delivered ++ [⟨orderId, orderCode, code⟩])

def purchaseChargeBulk (resellerId packageId customerId : Nat)
    (quantity : Int) (stamps : Nat → OrderStamp)
    (next : Except ServiceError BulkPurchase → Program Result) :
    Program Result :=
  if quantity < 1 then
    next (.error (.valueError "تعداد باید حداقل ۱ باشد."))
  else
    .select fun now =>
      OrderService.refuseBlacklisted (now.row .customers customerId) resellerId
        (next (.error blacklistedError)) <|
        .select fun now =>
          let reseller := now.row .resellers resellerId
          .select fun now =>
            match now.row .packages packageId with
            | none => next (.error (.valueError "محصول شارژ پیدا نشد."))
            | some package => deliver reseller package.salePrice
where
  deliver (reseller : Option ResellerRow) (unitPrice : Cents) :
      Program Result :=
    let totalPrice := unitPrice * quantity
    .begin <|
      lockBalance customerId totalPrice (fun error => next (.error error)) <|
        lockAvailableCodes packageId quantity.toNat fun available =>
          if available.length < quantity then
            .rollback <| next (.error (.chargeOutOfStock
              s!"تنها {available.length} عدد از این شارژ موجود است."
              (some available.length)))
          else
            debit customerId totalPrice <|
              deliverCodes resellerId packageId customerId reseller unitPrice
                stamps (fun error => next (.error error))
                (fun delivered =>
                  next (.ok ⟨delivered, totalPrice, unitPrice, quantity⟩))
                available 1 []

section Effects

/-- What is bought, by whom, and for how much a piece. -/
structure Purchase where
  resellerId : Nat
  packageId : Nat
  customerId : Nat
  price : Cents

/-- A sold code and the order it is delivered in. -/
structure Sale where
  codeId : Nat
  code : ChargeCodeRow
  orderId : Nat
  orderCode : String
  linked : Bool

namespace Purchase

variable (purchase : Purchase)

/-- The order row of a sale. -/
def order (sale : Sale) : OrderRow :=
  chargeOrder sale.orderCode purchase.resellerId purchase.packageId
    purchase.customerId purchase.price sale.code.code

/-- The sold row of the stock. -/
def sell (sale : Sale) (code : ChargeCodeRow) : ChargeCodeRow :=
  if sale.linked then
    (code.soldTo purchase.customerId).withSoldOrder sale.orderId
  else code.soldTo purchase.customerId

/-- Insert the order of a sale and mark its code as sold. -/
def deliver (db : Db) (sale : Sale) : Db :=
  (db.put .orders sale.orderId (purchase.order sale)).modify .chargeCodes
    sale.codeId (purchase.sell sale)

/-- Take the price of a number of pieces from the wallet. -/
def debited (quantity : Int) (db : Db) : Db :=
  db.modify .customers purchase.customerId fun customer =>
    customer.withBalance (customer.walletBalance - purchase.price * quantity)

/-- The sales can be delivered: their codes are available and distinct, and
their order ids are reserved and distinct. -/
structure Deliverable (db : Db) (sales : List Sale) : Prop where
  available : ∀ sale ∈ sales,
    db.row .chargeCodes sale.codeId = some sale.code ∧
      isAvailable purchase.packageId sale.code = true
  reserved : ∀ sale ∈ sales, db.Reserved .orders sale.orderId
  codes_nodup : (sales.map (·.codeId)).Nodup
  orders_nodup : (sales.map (·.orderId)).Nodup

variable {purchase}

theorem sell_linked {codeId orderId : Nat} {code : ChargeCodeRow}
    {orderCode : String} :
    purchase.sell ⟨codeId, code, orderId, orderCode, true⟩ = fun row =>
      (row.soldTo purchase.customerId).withSoldOrder orderId :=
  rfl

theorem sell_unlinked {codeId orderId : Nat} {code : ChargeCodeRow}
    {orderCode : String} :
    purchase.sell ⟨codeId, code, orderId, orderCode, false⟩ =
      (·.soldTo purchase.customerId) :=
  rfl

@[simp]
theorem nextId_foldl_deliver {sales : List Sale} {db : Db}
    {name : TableName} :
    (sales.foldl purchase.deliver db).nextId name = db.nextId name := by
  induction sales generalizing db with
  | nil => rfl
  | cons sale sales ih => rw [List.foldl_cons, ih, deliver]; simp

theorem frame_foldl_deliver {sales : List Sale} {held : List RowKey}
    {before mid : Db} (frame : dbView.Frame held before mid)
    (locked : ∀ sale ∈ sales, .row .chargeCodes sale.codeId ∈ held ∧
      .row .orders sale.orderId ∈ held) :
    dbView.Frame held before (sales.foldl purchase.deliver mid) := by
  induction sales generalizing mid with
  | nil => exact frame
  | cons sale sales ih =>
      obtain ⟨codeHeld, orderHeld⟩ := locked sale (by simp)
      exact ih (frame_modify (frame_put frame orderHeld _) codeHeld _)
        fun other member => locked other (by simp [member])

section Rows

variable {sales : List Sale} {db : Db} {id : Nat}

@[simp]
theorem row_foldl_deliver_of_ne {name : TableName} (notOrders : name ≠ .orders)
    (notCodes : name ≠ .chargeCodes) :
    (sales.foldl purchase.deliver db).row name id = db.row name id := by
  induction sales generalizing db with
  | nil => rfl
  | cons sale sales ih =>
      rw [List.foldl_cons, ih, deliver, row_modify_of_ne notCodes,
        row_put_of_ne notOrders]

/-- After the first sale the others can still be delivered. -/
theorem Deliverable.tail {sale : Sale}
    (deliverable : purchase.Deliverable db (sale :: sales)) :
    purchase.Deliverable (purchase.deliver db sale) sales := by
  obtain ⟨codeNew, codesNodup⟩ := List.nodup_cons.mp deliverable.codes_nodup
  obtain ⟨orderNew, ordersNodup⟩ :=
    List.nodup_cons.mp deliverable.orders_nodup
  refine ⟨?_, ?_, codesNodup, ordersNodup⟩
  · intro other member
    have different : other.codeId ≠ sale.codeId := by
      intro same
      exact codeNew (List.mem_map.mpr ⟨other, member, same⟩)
    rw [deliver, row_modify_ne different, row_put_of_ne (by decide)]
    exact deliverable.available other (by simp [member])
  · intro other member
    have different : other.orderId ≠ sale.orderId := by
      intro same
      exact orderNew (List.mem_map.mpr ⟨other, member, same⟩)
    have otherReserved := deliverable.reserved other (by simp [member])
    constructor
    · rw [deliver, row_modify_of_ne (by decide), row_put_ne different]
      exact otherReserved.1
    · simpa [deliver] using otherReserved.2

/-- Taking the price touches neither codes nor orders. -/
theorem Deliverable.debited (deliverable : purchase.Deliverable db sales)
    (quantity : Int) :
    purchase.Deliverable (purchase.debited quantity db) sales where
  available sale member := by
    rw [Purchase.debited, row_modify_of_ne (by decide)]
    exact deliverable.available sale member
  reserved sale member := by
    simpa [Database.Reserved, Purchase.debited] using
      deliverable.reserved sale member
  codes_nodup := deliverable.codes_nodup
  orders_nodup := deliverable.orders_nodup

/-- What survives the sale of one available code survives all sales. -/
theorem foldl_deliver_of_invariant (invariant : Db → Prop)
    (kept : ∀ db sale, db.row .chargeCodes sale.codeId = some sale.code →
      isAvailable purchase.packageId sale.code = true →
      db.Reserved .orders sale.orderId → invariant db →
      invariant (purchase.deliver db sale))
    (deliverable : purchase.Deliverable db sales) (initial : invariant db) :
    invariant (sales.foldl purchase.deliver db) := by
  induction sales generalizing db with
  | nil => exact initial
  | cons sale sales ih =>
      obtain ⟨found, available⟩ := deliverable.available sale (by simp)
      have reserved := deliverable.reserved sale (by simp)
      exact ih deliverable.tail
        (kept db sale found available reserved initial)

/-- The sales add the values of their orders to a total over the orders. -/
theorem total_orders_foldl_deliver {Total : Type} [AddCommMonoid Total]
    (value : OrderRow → Total)
    (deliverable : purchase.Deliverable db sales) :
    (sales.foldl purchase.deliver db).total .orders value =
      db.total .orders value +
        (sales.map fun sale => value (purchase.order sale)).sum := by
  induction sales generalizing db with
  | nil => simp
  | cons sale sales ih =>
      rw [List.foldl_cons, ih deliverable.tail, deliver,
        total_modify_of_ne (by decide),
        total_put (deliverable.reserved sale (by simp)), List.map_cons,
        List.sum_cons, add_assoc]

end Rows

end Purchase

/-- What a purchase may change: a commit pays for and delivers some codes, and
a later statement links a code to its order. -/
def purchaseGuarantee (resellerId packageId customerId : Nat) :
    Guarantee Db where
  writes before after := ∃ codeId orderId,
    after = before.modify .chargeCodes codeId (·.withSoldOrder orderId)
  commits before after := ∃ (price : Cents) (sales : List Sale)
      (customer : CustomerRow),
    let purchase : Purchase := ⟨resellerId, packageId, customerId, price⟩
    before.row .customers customerId = some customer ∧
    price * sales.length ≤ customer.walletBalance ∧
    purchase.Deliverable before sales ∧
    after = sales.foldl purchase.deliver
      (purchase.debited sales.length before)

/-- An upload adds available rows with lines of its text. -/
def addGuarantee (resellerId packageId : Nat) (rawText : String) :
    Guarantee Db where
  writes before after := ∃ code ∈ cleanLines rawText,
    after = (before.reserve .chargeCodes).put .chargeCodes
      (before.nextId .chargeCodes) (stockRow resellerId packageId code)
  commits _ _ := False

/-- A deletion removes available rows only. -/
def eraseGuarantee : Guarantee Db where
  writes before after := ∃ ids,
    (∀ id ∈ ids, ∃ code, before.row .chargeCodes id = some code ∧
      code.status = .available) ∧
    after = before.erase .chargeCodes ids
  commits _ _ := False

end Effects

section Safety

variable {invariant : Db → Prop} {state : Db}

theorem mem_availableCodes {db : Db} {packageId limit : Nat}
    {entry : Nat × String}
    (member : entry ∈ availableCodes db packageId limit) :
    ∃ code, db.row .chargeCodes entry.1 = some code ∧
      isAvailable packageId code = true ∧ code.code = entry.2 := by
  obtain ⟨id, listed, mapped⟩ :=
    List.mem_filterMap.mp (List.mem_of_mem_take member)
  obtain ⟨code, found, passes⟩ := mem_idsWhere.mp listed
  rw [found] at mapped
  cases mapped
  exact ⟨code, found, passes, rfl⟩

theorem availableCodes_nodup (db : Db) (packageId limit : Nat) :
    ((availableCodes db packageId limit).map Prod.fst).Nodup := by
  have sublist : ∀ ids : List Nat,
      ((ids.filterMap fun id => (db.row .chargeCodes id).map
        fun code => (id, code.code)).map Prod.fst).Sublist ids := by
    intro ids
    induction ids with
    | nil => simp
    | cons id ids ih =>
        cases found : db.row .chargeCodes id with
        | none => simpa [found] using ih.cons id
        | some code => simpa [found] using ih
  have codes := (sublist _).nodup ((db.table .chargeCodes).idsWhere_nodup
    (isAvailable packageId))
  exact codes.sublist ((List.take_sublist _ _).map _)

/-- The rows a purchase has locked, between two of its statements: the
customer, the codes of the sales made so far, and the codes to come. -/
structure Delivering (purchase : Purchase) (customer : CustomerRow)
    (held : List RowKey) (db : Db) (sales : List Sale)
    (rest : List (Nat × String)) : Prop where
  customer_row : db.row .customers purchase.customerId = some customer
  customer_held : .row .customers purchase.customerId ∈ held
  available : ∀ sale ∈ sales,
    db.row .chargeCodes sale.codeId = some sale.code ∧
      isAvailable purchase.packageId sale.code = true
  reserved : ∀ sale ∈ sales, db.Reserved .orders sale.orderId
  sales_held : ∀ sale ∈ sales, .row .chargeCodes sale.codeId ∈ held ∧
    .row .orders sale.orderId ∈ held
  rest_available : ∀ entry ∈ rest, ∃ code,
    db.row .chargeCodes entry.1 = some code ∧
      isAvailable purchase.packageId code = true ∧ code.code = entry.2
  rest_held : ∀ entry ∈ rest, .row .chargeCodes entry.1 ∈ held
  codes_nodup : (sales.map (·.codeId) ++ rest.map Prod.fst).Nodup
  orders_nodup : (sales.map (·.orderId)).Nodup

namespace Delivering

variable {purchase : Purchase} {customer : CustomerRow}
variable {held more : List RowKey} {db now : Db} {sales : List Sale}
variable {rest : List (Nat × String)} {codeId : Nat} {code : String}

theorem of_rely
    (delivering : Delivering purchase customer held db sales rest)
    (relies : dbView.Rely held db now) :
    Delivering purchase customer held now sales rest where
  customer_row := by
    rw [← rely_row relies delivering.customer_held]
    exact delivering.customer_row
  customer_held := delivering.customer_held
  available sale member := by
    rw [← rely_row relies (delivering.sales_held sale member).1]
    exact delivering.available sale member
  reserved sale member :=
    rely_reserved relies (delivering.sales_held sale member).2
      (delivering.reserved sale member)
  sales_held := delivering.sales_held
  rest_available entry member := by
    rw [← rely_row relies (delivering.rest_held entry member)]
    exact delivering.rest_available entry member
  rest_held := delivering.rest_held
  codes_nodup := delivering.codes_nodup
  orders_nodup := delivering.orders_nodup

theorem of_subset
    (delivering : Delivering purchase customer held db sales rest)
    (subset : held ⊆ more) :
    Delivering purchase customer more db sales rest :=
  { delivering with
    customer_held := subset delivering.customer_held
    sales_held := fun sale member =>
      ⟨subset (delivering.sales_held sale member).1,
        subset (delivering.sales_held sale member).2⟩
    rest_held := fun entry member =>
      subset (delivering.rest_held entry member) }

/-- One more order is inserted for the next code. -/
theorem sold
    (delivering : Delivering purchase customer held db sales
      ((codeId, code) :: rest)) (orderCode : String) (linked : Bool)
    (subset : held ⊆ more)
    (orderHeld : .row .orders (db.nextId .orders) ∈ more) :
    ∃ row, row.code = code ∧
      Delivering purchase customer more (db.reserve .orders)
        (sales ++ [⟨codeId, row, db.nextId .orders, orderCode, linked⟩])
        rest := by
  obtain ⟨row, found, available, sameCode⟩ :=
    delivering.rest_available _ List.mem_cons_self
  have fresh : ∀ sale ∈ sales, sale.orderId ≠ db.nextId .orders :=
    fun sale member => (delivering.reserved sale member).2.ne
  refine ⟨row, sameCode, ?_, ?_, ?_, ?_, ?_, ?_, ?_, ?_, ?_⟩
  · rw [row_reserve]
    exact delivering.customer_row
  · exact subset delivering.customer_held
  · intro sale member
    rw [row_reserve]
    rcases List.mem_append.mp member with earlier | last
    · exact delivering.available sale earlier
    · cases List.mem_singleton.mp last
      exact ⟨found, available⟩
  · intro sale member
    rcases List.mem_append.mp member with earlier | last
    · have reserved := delivering.reserved sale earlier
      exact ⟨row_reserve.trans reserved.1,
        reserved.2.trans_le nextId_le_reserve⟩
    · cases List.mem_singleton.mp last
      exact reserved_reserve db _
  · intro sale member
    rcases List.mem_append.mp member with earlier | last
    · have locked := delivering.sales_held sale earlier
      exact ⟨subset locked.1, subset locked.2⟩
    · cases List.mem_singleton.mp last
      exact ⟨subset (delivering.rest_held _ List.mem_cons_self), orderHeld⟩
  · intro entry member
    rw [row_reserve]
    exact delivering.rest_available entry (List.mem_cons_of_mem _ member)
  · exact fun entry member =>
      subset (delivering.rest_held entry (List.mem_cons_of_mem _ member))
  · have nodup := delivering.codes_nodup
    simpa [List.append_assoc] using nodup
  · rw [List.map_append, List.nodup_append]
    refine ⟨delivering.orders_nodup, by simp, ?_⟩
    intro first firstMem second secondMem
    obtain ⟨sale, member, rfl⟩ := List.mem_map.mp firstMem
    have same : second = db.nextId .orders := by simpa using secondMem
    exact same ▸ fresh sale member

theorem deliverable
    (delivering : Delivering purchase customer held db sales []) :
    purchase.Deliverable db sales where
  available := delivering.available
  reserved := delivering.reserved
  codes_nodup := by simpa using delivering.codes_nodup
  orders_nodup := delivering.orders_nodup

/-- The pending changes of a purchase touch locked rows only. -/
theorem frame
    (delivering : Delivering purchase customer held db sales rest)
    (quantity : Int) :
    dbView.Frame held db
      (sales.foldl purchase.deliver (purchase.debited quantity db)) :=
  Purchase.frame_foldl_deliver
    (frame_modify (.refl db) delivering.customer_held _)
    delivering.sales_held

end Delivering

theorem safe_deliverCodes {guarantee : Guarantee Db} {purchase : Purchase}
    {customer : CustomerRow} {quantity : Nat} {rest : List (Nat × String)}
    {sales : List Sale} {held : List RowKey}
    (reseller : Option ResellerRow) (stamps : Nat → OrderStamp)
    (failed : ServiceError → Program Result)
    (next : List Delivery → Program Result) (seq : Nat)
    (delivered : List Delivery)
    (affordable : purchase.price * quantity ≤ customer.walletBalance)
    (allowed : ∀ before after,
      (purchaseGuarantee purchase.resellerId purchase.packageId
        purchase.customerId).commits before after →
      guarantee.commits before after)
    (failedSafe : ∀ error now,
      (failed error).Safe dbView invariant guarantee none [] now)
    (nextSafe : ∀ delivered now,
      (next delivered).Safe dbView invariant guarantee none [] now)
    (length : sales.length + rest.length = quantity)
    (delivering : Delivering purchase customer held state sales rest) :
    (deliverCodes purchase.resellerId purchase.packageId purchase.customerId
      reseller purchase.price stamps failed next rest seq delivered).Safe
        dbView invariant guarantee
        (some fun later => sales.foldl purchase.deliver
          (purchase.debited quantity later)) held state := by
  induction rest generalizing sales seq delivered held state with
  | nil =>
      refine Program.Safe.commit (fun now relies _ => ?_) (nextSafe _)
      have stillDelivering := delivering.of_rely relies
      refine ⟨stillDelivering.frame _, allowed _ _ ?_⟩
      have allSold : sales.length = quantity := by simpa using length
      subst allSold
      exact ⟨purchase.price, sales, customer, stillDelivering.customer_row,
        affordable, stillDelivering.deliverable, rfl⟩
  | cons entry rest ih =>
      obtain ⟨codeId, code⟩ := entry
      cases reseller with
      | none => exact Program.Safe.rollback (failedSafe _)
      | some found =>
          rw [deliverCodes]
          refine safe_insert_pending (fun now relies _ _ => ?_) fun _ _ =>
            Program.Safe.rollback (failedSafe _)
          have sameId : (sales.foldl purchase.deliver
              (purchase.debited quantity now)).nextId .orders =
                now.nextId .orders := by
            simp [Purchase.debited]
          simp only [sameId]
          refine safe_update_pending fun later kept _ => ?_
          obtain ⟨row, sameCode, stepped⟩ :=
            (delivering.of_rely relies).sold
              (generateOrderCode found.orderPrefix (stamps seq) (some seq))
              true
              (fun key member => List.mem_cons_of_mem _
                (List.mem_append_right _ member))
              List.mem_cons_self
          have locked := (stepped.of_rely kept).of_subset
            (List.subset_cons_self (.row .chargeCodes codeId) _)
          have oneMore := ih (seq + 1)
            (delivered ++ [⟨now.nextId .orders,
              generateOrderCode found.orderPrefix (stamps seq) (some seq),
              code⟩])
            (by simp at length ⊢; omega) locked
          simpa [List.foldl_append, Purchase.deliver, Purchase.order,
            Purchase.sell_linked, sameCode] using oneMore

theorem safe_lockBalance {guarantee : Guarantee Db} {customerId : Nat}
    {price : Cents} {failed : ServiceError → Program Result}
    {next : Program Result}
    (failedSafe : ∀ error now,
      (failed error).Safe dbView invariant guarantee none [] now)
    (paid : ∀ now customer, now.row .customers customerId = some customer →
      price ≤ customer.walletBalance →
      next.Safe dbView invariant guarantee (some id)
        [.row .customers customerId] now) :
    (lockBalance customerId price failed next).Safe dbView invariant guarantee
      (some id) [] state := by
  refine Program.Safe.selectForUpdate fun now _ _ => ?_
  simp only [id_eq]
  cases found : now.row .customers customerId with
  | none => exact Program.Safe.rollback (failedSafe _)
  | some customer =>
      dsimp only
      split_ifs with poor
      · exact Program.Safe.rollback (failedSafe _)
      · exact paid now customer found (not_lt.mp poor)

/-- The codes are locked, and nothing is sold yet. -/
theorem delivering_of_locked (purchase : Purchase) (limit : Nat)
    {customer : CustomerRow} {before now : Db}
    (found : before.row .customers purchase.customerId = some customer)
    (relies : dbView.Rely [.row .customers purchase.customerId] before now) :
    Delivering purchase customer
      ((availableCodes now purchase.packageId limit).map
        (.row .chargeCodes ·.1) ++ [.row .customers purchase.customerId])
      now [] (availableCodes now purchase.packageId limit) where
  customer_row := by
    rw [← rely_row relies (by simp)]
    exact found
  customer_held := by simp
  available := by simp
  reserved := by simp
  sales_held := by simp
  rest_available _ member := mem_availableCodes member
  rest_held entry member :=
    List.mem_append_left _ (List.mem_map_of_mem member)
  codes_nodup := by
    simpa using availableCodes_nodup now purchase.packageId limit
  orders_nodup := by simp

theorem safe_purchaseChargeBulk {resellerId packageId customerId : Nat}
    {quantity : Int} {stamps : Nat → OrderStamp}
    {next : Except ServiceError BulkPurchase → Program Result}
    (continues : ∀ reply now, (next reply).Safe dbView invariant
      (purchaseGuarantee resellerId packageId customerId) none [] now) :
    (purchaseChargeBulk resellerId packageId customerId quantity stamps
      next).Safe dbView invariant
        (purchaseGuarantee resellerId packageId customerId) none [] state := by
  unfold purchaseChargeBulk
  split_ifs with tooFew
  · exact continues _ state
  refine Program.Safe.select fun first _ _ => ?_
  refine OrderService.safe_refuseBlacklisted (continues _) fun _ => ?_
  refine Program.Safe.select fun second _ _ =>
    Program.Safe.select fun third _ _ => ?_
  cases third.row .packages packageId with
  | none => exact continues _ third
  | some package => exact safe_deliver (not_lt.mp tooFew) continues
where
  safe_deliver {resellerId packageId customerId : Nat} {quantity : Int}
      {stamps : Nat → OrderStamp} {reseller : Option ResellerRow}
      {price : Cents} {state : Db}
      {next : Except ServiceError BulkPurchase → Program Result}
      (enough : 1 ≤ quantity)
      (continues : ∀ reply now, (next reply).Safe dbView invariant
        (purchaseGuarantee resellerId packageId customerId) none [] now) :
      (purchaseChargeBulk.deliver resellerId packageId customerId quantity
        stamps next reseller price).Safe dbView invariant
          (purchaseGuarantee resellerId packageId customerId) none []
          state := by
    let purchase : Purchase := ⟨resellerId, packageId, customerId, price⟩
    refine Program.Safe.begin <|
      safe_lockBalance (fun _ => continues _) fun first customer found paid =>
        Program.Safe.selectForUpdate fun second relies _ => ?_
    simp only [id_eq]
    split_ifs with short
    · exact Program.Safe.rollback (continues _)
    have delivering :=
      delivering_of_locked purchase quantity.toNat found relies
    have length : (availableCodes second packageId quantity.toNat).length =
        quantity.toNat := by
      have atMost : (availableCodes second packageId quantity.toNat).length ≤
          quantity.toNat := List.length_take_le _ _
      omega
    refine safe_update_pending fun third kept _ => ?_
    have cast : ((quantity.toNat : Nat) : Int) = quantity := by omega
    have sold := safe_deliverCodes reseller stamps
      (fun error => next (.error error))
      (fun delivered =>
        next (.ok ⟨delivered, price * quantity, price, quantity⟩)) 1 []
      (by rw [cast]; exact paid) (fun _ _ => id) (fun _ => continues _)
      (fun _ => continues _) (by simpa using length)
      ((delivering.of_rely kept).of_subset
        (List.subset_cons_self (.row .customers customerId) _))
    rw [cast] at sold
    exact sold

theorem safe_purchaseCharge {resellerId packageId customerId : Nat}
    {stamp : OrderStamp}
    {next : Except ServiceError ((Nat × OrderRow) × String) → Program Result}
    (continues : ∀ reply now, (next reply).Safe dbView invariant
      (purchaseGuarantee resellerId packageId customerId) none [] now) :
    (purchaseCharge resellerId packageId customerId stamp next).Safe dbView
      invariant (purchaseGuarantee resellerId packageId customerId) none []
      state := by
  refine Program.Safe.select fun first _ _ => ?_
  refine OrderService.safe_refuseBlacklisted (continues _) fun _ => ?_
  refine Program.Safe.select fun second _ _ =>
    Program.Safe.select fun third _ _ => ?_
  cases third.row .packages packageId with
  | none => exact continues _ third
  | some package =>
      cases second.row .resellers resellerId with
      | none => exact continues _ third
      | some reseller => exact safe_deliver continues
where
  safe_deliver {resellerId packageId customerId : Nat} {price : Cents}
      {orderCode : String} {state : Db}
      {next : Except ServiceError ((Nat × OrderRow) × String) →
        Program Result}
      (continues : ∀ reply now, (next reply).Safe dbView invariant
        (purchaseGuarantee resellerId packageId customerId) none [] now) :
      (purchaseCharge.deliver resellerId packageId customerId next price
        orderCode).Safe dbView invariant
          (purchaseGuarantee resellerId packageId customerId) none []
          state := by
    let purchase : Purchase := ⟨resellerId, packageId, customerId, price⟩
    refine Program.Safe.begin <|
      safe_lockBalance (fun _ => continues _) fun first customer found paid =>
        Program.Safe.selectForUpdate fun second relies _ => ?_
    simp only [id_eq]
    have delivering := delivering_of_locked purchase 1 found relies
    revert delivering
    cases available : availableCodes second packageId 1 with
    | nil => exact fun _ => Program.Safe.rollback (continues _)
    | cons entry rest =>
        obtain ⟨codeId, code⟩ := entry
        intro delivering
        have onlyOne : rest = [] := by
          have atMost : (availableCodes second packageId 1).length ≤ 1 :=
            List.length_take_le _ _
          rw [available] at atMost
          exact List.length_eq_zero_iff.mp (by simpa using atMost)
        subst onlyOne
        refine safe_update_pending fun third kept _ =>
          safe_insert_pending (fun fourth relies _ _ => ?_) fun _ _ =>
            Program.Safe.rollback (continues _)
        simp only [id_eq, nextId_modify]
        have locked := (delivering.of_rely kept).of_subset
          (List.subset_cons_self (.row .customers customerId) _)
        obtain ⟨row, sameCode, stepped⟩ :=
          (locked.of_rely relies).sold orderCode false
            (fun key member => List.mem_cons_of_mem _
              (List.mem_append_right _ member))
            List.mem_cons_self
        refine safe_update_pending fun fifth relies _ =>
          Program.Safe.commit (fun last lastRelies _ => ?_) fun now =>
            safe_linkOrder continues
        have sold := ((stepped.of_rely relies).of_subset
          (List.subset_cons_self (.row .chargeCodes codeId) _)).of_rely
            lastRelies
        subst sameCode
        have frame := sold.frame 1
        simp only [Purchase.debited, mul_one] at frame
        refine ⟨frame, price, _, customer, sold.customer_row,
          by simpa using paid, sold.deliverable, ?_⟩
        simp [Purchase.debited, Purchase.deliver, Purchase.order,
          Purchase.sell_unlinked]
  safe_linkOrder {resellerId packageId customerId codeId : Nat}
      {orderCode code : String} {state : Db}
      {next : Except ServiceError ((Nat × OrderRow) × String) →
        Program Result}
      (continues : ∀ reply now, (next reply).Safe dbView invariant
        (purchaseGuarantee resellerId packageId customerId) none [] now) :
      (purchaseCharge.linkOrder next orderCode codeId code).Safe dbView
        invariant (purchaseGuarantee resellerId packageId customerId) none []
        state := by
    refine Program.Safe.select fun now _ _ => ?_
    cases OrderService.findOrder now orderCode with
    | none => exact continues _ now
    | some found =>
        exact safe_update fun later _ _ =>
          ⟨⟨codeId, found.1, rfl⟩, continues _ _⟩

theorem safe_addChargeCodes {resellerId packageId : Nat} {rawText : String}
    {next : Except ServiceError Nat → Program Result}
    (continues : ∀ reply now, (next reply).Safe dbView invariant
      (addGuarantee resellerId packageId rawText) none [] now) :
    (addChargeCodes resellerId packageId rawText next).Safe dbView invariant
      (addGuarantee resellerId packageId rawText) none [] state := by
  have inserted : ∀ (added : Nat) (codes : List String) (now : Db),
      codes ⊆ cleanLines rawText →
      (insertCodes resellerId packageId added next codes).Safe dbView invariant
        (addGuarantee resellerId packageId rawText) none [] now := by
    intro added codes
    induction codes with
    | nil => exact fun now _ => continues _ now
    | cons code codes ih =>
        intro now subset
        rw [insertCodes]
        refine safe_insert (fun now _ _ _ => ⟨?_, ?_⟩) fun now =>
          continues _ now
        · exact ⟨code, subset List.mem_cons_self, rfl⟩
        · exact ih _ fun line member =>
            subset (List.mem_cons_of_mem _ member)
  exact inserted _ _ state (List.Subset.refl _)

theorem safe_deleteAvailableCode {codeId : Nat}
    {next : Except ServiceError Unit → Program Result}
    (continues : ∀ reply now, (next reply).Safe dbView invariant
      eraseGuarantee none [] now) :
    (deleteAvailableCode codeId next).Safe dbView invariant eraseGuarantee
      none [] state := by
  refine safe_delete fun now _ _ => ⟨⟨_, ?_, rfl⟩, continues _ _⟩
  intro id member
  split_ifs at member with deletable
  · obtain ⟨code, found, available⟩ := (Option.any_eq_true _ _).mp deletable
    rw [List.mem_singleton.mp member]
    exact ⟨code, found, by simpa using available⟩
  · simp at member

theorem safe_clearAvailableCodes {packageId : Nat}
    {next : Except ServiceError Nat → Program Result}
    (continues : ∀ reply now, (next reply).Safe dbView invariant
      eraseGuarantee none [] now) :
    (clearAvailableCodes packageId next).Safe dbView invariant eraseGuarantee
      none [] state := by
  refine Program.Safe.select fun first _ _ =>
    safe_delete fun now _ _ => ⟨⟨_, ?_, rfl⟩, continues _ _⟩
  intro id member
  obtain ⟨code, found, passes⟩ := mem_idsWhere.mp member
  exact ⟨code, found, (by simpa [isAvailable] using passes : _ ∧ _).2⟩

end Safety

end ChargeService

end Baste
