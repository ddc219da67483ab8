import Baste.DiscountedPrices

/-!
# Discount commands

A customer sends `/discount CODE` while the receipt of an order is awaited.
The handler overwrites the price of the order with what the code leaves of it,
and then counts the use of the code.  The order stays in this state, so that
the next command finds the discounted price.  The price is a discount of the
price at creation as long as every command with a valid code finds that price.
-/

namespace Baste

open Database Transaction BotScripts ShopBot ShopBot.CustomerOrders

def OrderRow.withPrice (price : Cents) (order : OrderRow) : OrderRow :=
  { order with packagePrice := price }

/-- The code after one more use. -/
def DiscountCodeRow.counted (row : DiscountCodeRow) : DiscountCodeRow :=
  { row with usageCount := row.usageCount + 1 }

/-- What a code leaves of a price, as the column of the price stores it. -/
def discountOf (price : Cents) (row : DiscountCodeRow) : Cents :=
  storeDecimal (applyDiscount (decimal price) row)

/-- A command in the conversation about an order. -/
structure DiscountCommand where
  shop : Shop
  code : String
  orderId : Option Nat

namespace DiscountCommand

/-- The command in a message. -/
def ofMessage (shop : Shop) (orderId : Option Nat) (message : Message) :
    Option DiscountCommand :=
  (message.text.bind fun text => afterFirstWord text.toList).map fun rest =>
    ⟨shop, String.ofList (ChargeService.strip rest), orderId⟩

section Programs

variable {Result : Type} (command : DiscountCommand)

def order (db : Db) : Option OrderRow :=
  command.orderId.bind (db.row .orders)

/-- The code, if it is valid now. -/
def validCode (db : Db) : Option (Nat × DiscountCodeRow) :=
  validateDiscountCode command.shop command.code db

def counting (codeId : Nat) (next : Program Result) : Program Result :=
  updateRow .discountCodes codeId (·.counted) next

def pricing (orderId : Nat) (price : Cents) (codeId : Nat)
    (next : Program Result) : Program Result :=
  updateRow .orders orderId (·.withPrice price) (counting codeId next)

/-- The rest of the command after the order has been read. -/
def validating (order : Option OrderRow)
    (next : Except HandlerError Unit → Program Result) : Program Result :=
  .select fun db =>
    match command.validCode db, command.orderId, order with
    | none, _, _ => next (.ok ())
    | some (codeId, row), some orderId, some order =>
        pricing orderId (discountOf order.packagePrice row) codeId
          (next (.ok ()))
    | some _, _, _ => next (.error .typeError)

/-- The statements of `apply_discount_code`. -/
def program (next : Except HandlerError Unit → Program Result) :
    Program Result :=
  .select fun db => command.validating (command.order db) next

/-- The database after a command that runs with no other call in between. -/
def runAlone (db : Db) : Db :=
  ((command.program .done).runAlone none db).1

end Programs

section Alone

variable {command : DiscountCommand} {db : Db}

theorem runAlone_invalid (invalid : command.validCode db = none) :
    command.runAlone db = db := by
  simp [runAlone, program, validating, invalid]

theorem runAlone_valid {orderId codeId : Nat} {order : OrderRow}
    {row : DiscountCodeRow} (about : command.orderId = some orderId)
    (found : db.row .orders orderId = some order)
    (valid : command.validCode db = some (codeId, row)) :
    command.runAlone db =
      (db.modify .orders orderId
        (·.withPrice (discountOf order.packagePrice row))).modify
          .discountCodes codeId (·.counted) := by
  simp [runAlone, program, validating, valid, about, DiscountCommand.order,
    found, pricing, counting]

theorem runAlone_without_order (none_ : command.order db = none) :
    command.runAlone db = db := by
  unfold runAlone program validating
  rw [Program.runAlone_select, Program.runAlone_select, none_]
  rcases command.validCode db with _ | valid
  · rfl
  · cases command.orderId <;> rfl

end Alone

/-- The handler runs the statements of its command. -/
theorem db_applyDiscountCode {shop : Shop} {message : Message}
    {command : DiscountCommand} (visit : Visit ShopState ShopData)
    (sent : ofMessage shop visit.conversation.data.orderId message =
      some command) :
    (((applyDiscountCode shop).action (.message message)).runOn
        visit).2.platform.db =
      command.runAlone visit.platform.db := by
  obtain ⟨rest, rests, isCommand⟩ := Option.map_eq_some_iff.mp sent
  obtain ⟨text, isText, follows⟩ := Option.bind_eq_some_iff.mp rests
  have sameCode : validateDiscountCode shop
      (String.ofList (ChargeService.strip rest)) visit.platform.db =
        command.validCode visit.platform.db := by
    rw [← isCommand]
    rfl
  have sameOrder : visit.conversation.data.orderId = command.orderId := by
    rw [← isCommand]
  simp only [applyDiscountCode, onMessage, textOf, isText, required,
    Failing.runOn_bind, Failing.runOn_pure, follows, getData,
    Failing.runOn_get, runOn_query, sameCode, sameOrder]
  rcases valid : command.validCode visit.platform.db with _ | ⟨codeId, row⟩
  · rw [runAlone_invalid valid]
    rfl
  · cases about : command.orderId with
    | none =>
        rw [runAlone_without_order (by rw [DiscountCommand.order, about]; rfl)]
        rfl
    | some orderId =>
        cases found : visit.platform.db.row .orders orderId with
        | none =>
            rw [runAlone_without_order
              (by rw [DiscountCommand.order, about]; exact found)]
            simp only [Option.bind_some, found]
            rfl
        | some order =>
            rw [runAlone_valid about found valid]
            simp only [Option.bind_some, found]
            rfl

theorem row_of_validCode {command : DiscountCommand} {db : Db}
    {codeId : Nat} {row : DiscountCodeRow}
    (valid : command.validCode db = some (codeId, row)) :
    db.row .discountCodes codeId = some row := by
  obtain ⟨found, -⟩ := Option.filter_eq_some_iff.mp valid
  obtain ⟨id, first, present⟩ := Option.bind_eq_some_iff.mp found
  obtain ⟨other, isOther, same⟩ := Option.map_eq_some_iff.mp present
  cases same
  exact isOther

/-- A valid code belongs to the reseller of the bot. -/
theorem resellerId_of_validCode {command : DiscountCommand} {db : Db}
    {codeId : Nat} {row : DiscountCodeRow}
    (valid : command.validCode db = some (codeId, row)) :
    row.resellerId = command.shop.resellerId := by
  obtain ⟨found, -⟩ := Option.filter_eq_some_iff.mp valid
  obtain ⟨id, first, present⟩ := Option.bind_eq_some_iff.mp found
  obtain ⟨other, isOther, same⟩ := Option.map_eq_some_iff.mp present
  cases same
  obtain ⟨_, isRow, matching⟩ :=
    mem_idsWhere.mp (List.mem_of_head? first)
  cases isRow.symm.trans isOther
  simp only [Bool.and_eq_true, decide_eq_true_eq] at matching
  exact matching.1.1

end DiscountCommand

def priceOf (orderId : Nat) (db : Db) : Option Cents :=
  (db.row .orders orderId).map (·.packagePrice)

/-- What may happen while the receipt of an order is awaited: a command comes,
or something else changes the database. -/
inductive DiscountEvent where
  | sent (command : DiscountCommand)
  | elsewhere (change : Db → Db)

namespace DiscountEvent

def step (db : Db) : DiscountEvent → Db
  | .sent command => command.runAlone db
  | .elsewhere change => change db

/-- The commands come from the conversation about the order with the bot of the
reseller, and nothing else changes its price. -/
def IsAbout (resellerId orderId : Nat) : DiscountEvent → Prop
  | .sent command =>
      command.orderId = some orderId ∧ command.shop.resellerId = resellerId
  | .elsewhere change => ∀ db, priceOf orderId (change db) = priceOf orderId db

/-- The valid code that a command finds. -/
def validCode (db : Db) : DiscountEvent → Option DiscountCodeRow
  | .sent command => (command.validCode db).map Prod.snd
  | .elsewhere _ => none

/-- The valid codes that the commands find. -/
def validCodes : Db → List DiscountEvent → List DiscountCodeRow
  | _, [] => []
  | db, event :: events =>
      (event.validCode db).toList ++ validCodes (event.step db) events

/-- After every event the order has its price at creation, or what one of the
codes of the reseller leaves of that price. -/
def DiscountedOnce (resellerId orderId : Nat) (price : Cents) (db : Db)
    (events : List DiscountEvent) : Prop :=
  ∀ past, past <+: events → ∃ current,
    priceOf orderId (StepRuns.final step db past) = some current ∧
      (current = price ∨ ∃ row ∈ validCodes db past,
        row.resellerId = resellerId ∧ current = discountOf price row)

/-- A command with a valid code finds the price at creation. -/
def FindsPrice (orderId : Nat) (price : Cents) (db : Db)
    (event : DiscountEvent) : Prop :=
  event.validCode db ≠ none → priceOf orderId db = some price

section Sequences

variable {resellerId orderId : Nat} {price current : Cents} {db : Db}
variable {event : DiscountEvent} {events : List DiscountEvent}

theorem resellerId_of_mem_validCodes
    (about : ∀ event ∈ events, event.IsAbout resellerId orderId)
    {row : DiscountCodeRow} (member : row ∈ validCodes db events) :
    row.resellerId = resellerId := by
  induction events generalizing db with
  | nil => cases member
  | cons event events ih =>
      rcases List.mem_append.mp member with here | later
      · have aboutHere := about event List.mem_cons_self
        cases event with
        | elsewhere change => cases here
        | sent command =>
            obtain ⟨⟨codeId, found⟩, valid, same⟩ :=
              Option.map_eq_some_iff.mp (Option.mem_toList.mp here)
            cases same
            exact (DiscountCommand.resellerId_of_validCode valid).trans
              aboutHere.2
      · exact ih (fun event listed =>
          about event (List.mem_cons_of_mem _ listed)) later

/-- An event overwrites the price with a discount of the current one, or it
leaves the price as it is. -/
theorem priceOf_step (about : event.IsAbout resellerId orderId)
    (isCurrent : priceOf orderId db = some current) :
    priceOf orderId (event.step db) =
      some (((event.validCode db).map (discountOf current)).getD current) := by
  cases event with
  | elsewhere change => exact (about db).trans isCurrent
  | sent command =>
      obtain ⟨order, found, isPrice⟩ := Option.map_eq_some_iff.mp isCurrent
      rcases valid : command.validCode db with _ | ⟨codeId, row⟩
      · rw [validCode, valid, step, DiscountCommand.runAlone_invalid valid]
        exact isCurrent
      · rw [validCode, valid, step,
          DiscountCommand.runAlone_valid about.1 found valid, priceOf,
          row_modify_of_ne (by decide), row_modify_self, found, isPrice]
        rfl

/-- The price is always among the price at creation and its discounts, with
the codes found before and those found since. -/
theorem final_price_of_findsPrice
    (about : ∀ event ∈ events, event.IsAbout resellerId orderId)
    (isCurrent : priceOf orderId db = some current)
    {earlier : List DiscountCodeRow}
    (once : current = price ∨ ∃ row ∈ earlier, current = discountOf price row)
    (guarded : StepRuns.Along step (FindsPrice orderId price) db events) :
    ∃ last, priceOf orderId (StepRuns.final step db events) = some last ∧
      (last = price ∨ ∃ row ∈ earlier ++ validCodes db events,
        last = discountOf price row) := by
  induction events generalizing db current earlier with
  | nil =>
      rw [validCodes, List.append_nil]
      exact ⟨current, isCurrent, once⟩
  | cons event events ih =>
      have next := priceOf_step (about event List.mem_cons_self) isCurrent
      have stillOnce :
          ((event.validCode db).map (discountOf current)).getD current =
              price ∨
            ∃ row ∈ earlier ++ (event.validCode db).toList,
              ((event.validCode db).map (discountOf current)).getD current =
                discountOf price row := by
        cases valid : event.validCode db with
        | none => simpa using once
        | some row =>
            have atCreation : priceOf orderId db = some price :=
              guarded.1 (by simp [valid])
            cases isCurrent.symm.trans atCreation
            right
            exact ⟨row, by simp, rfl⟩
      rw [StepRuns.final_cons, validCodes, ← List.append_assoc]
      exact ih
        (fun event listed => about event (List.mem_cons_of_mem _ listed))
        next stillOnce guarded.2

theorem discountedOnce_of_findsPrice
    (about : ∀ event ∈ events, event.IsAbout resellerId orderId)
    (atCreation : priceOf orderId db = some price)
    (guarded : StepRuns.Along step (FindsPrice orderId price) db events) :
    DiscountedOnce resellerId orderId price db events := by
  rintro past ⟨rest, rfl⟩
  have aboutPast : ∀ event ∈ past, event.IsAbout resellerId orderId :=
    fun event listed => about event (List.mem_append_left rest listed)
  have guardedPast := (StepRuns.along_append.mp guarded).1
  have atStart : price = price ∨
      ∃ row ∈ ([] : List DiscountCodeRow), price = discountOf price row :=
    .inl rfl
  obtain ⟨last, isLast, once⟩ :=
    final_price_of_findsPrice aboutPast atCreation atStart guardedPast
  refine ⟨last, isLast, once.imp_right ?_⟩
  rintro ⟨row, member, same⟩
  rw [List.nil_append] at member
  exact ⟨row, member, resellerId_of_mem_validCodes aboutPast member, same⟩

/-- An order is created with the price of its package. -/
theorem priceOf_created {packageId customerId : Nat}
    {phoneNumber : Option String} {stamp : OrderStamp} {before created : Db}
    {order : OrderRow} {package : PackageRow}
    (offered : before.row .packages packageId = some package)
    (creates : (ServiceCall.createOrder resellerId packageId customerId
      phoneNumber stamp).program.runAlone none before =
        (created, some (.ok (.created orderId order)))) :
    priceOf orderId created = some package.salePrice := by
  rw [ServiceCall.program, OrderService.createOrder, Program.runAlone_select,
    OrderService.runAlone_refuseBlacklisted] at creates
  split_ifs at creates
  · cases creates
  rw [Program.runAlone_select, Program.runAlone_select, offered] at creates
  cases known : before.row .resellers resellerId with
  | none =>
      rw [known] at creates
      cases creates
  | some reseller =>
      rw [known] at creates
      dsimp only at creates
      let new : OrderRow :=
        { orderCode :=
            OrderService.generateOrderCode reseller.orderPrefix stamp
          resellerId := resellerId
          packageId := packageId
          customerId := customerId
          packagePrice := package.salePrice
          phoneNumber := phoneNumber }
      by_cases accepted : OrderService.orderInsertable before new = true
      · rw [OrderService.insertOrder, runAlone_insertRow accepted] at creates
        have inserted : ((before.reserve .orders).put .orders
            (before.nextId .orders) new).row .orders (before.nextId .orders) =
              some new :=
          row_put_self (by simp)
        have found := OrderService.findOrder_inserted accepted
        rw [OrderService.fetchInserted, Program.runAlone_select, found]
          at creates
        cases creates
        rw [priceOf, inserted]
        rfl
      · rw [OrderService.insertOrder, runAlone_insertRow_refused accepted]
          at creates
        cases creates

/-- The order is discounted once as long as every command with a valid code
finds the price at which the order was created. -/
theorem created_order_discountedOnce {packageId customerId : Nat}
    {phoneNumber : Option String} {stamp : OrderStamp} {before created : Db}
    {order : OrderRow} {package : PackageRow}
    (offered : before.row .packages packageId = some package)
    (creates : (ServiceCall.createOrder resellerId packageId customerId
      phoneNumber stamp).program.runAlone none before =
        (created, some (.ok (.created orderId order))))
    (about : ∀ event ∈ events, event.IsAbout resellerId orderId)
    (guarded : StepRuns.Along step (FindsPrice orderId package.salePrice)
      created events) :
    DiscountedOnce resellerId orderId package.salePrice created events :=
  discountedOnce_of_findsPrice about (priceOf_created offered creates) guarded

end Sequences

section Examples

/-- A shop with one product of 80,000 and two codes. -/
def discountDb : Db :=
  .filled fun
    | .resellers => [shopReseller]
    | .customers => [shopCustomer]
    | .packages => [{ shopPackage with salePrice := 8000000 }]
    | .discountCodes =>
        [shopDiscount 1000, { shopDiscount 5000 with code := "HALF" }]
    | _ => []

/-- The customer has ordered the product. -/
def orderedDb : Db :=
  ((ServiceCall.createOrder 1 1 1 none (shopStamp "A1")).program.runAlone none
    discountDb).1

def orderedRow : OrderRow where
  orderCode := "AR-240131-120000A1"
  resellerId := 1
  packageId := 1
  customerId := 1
  packagePrice := 8000000

/-- The customer sends a code. -/
def sends (code : String) : DiscountEvent :=
  .sent ⟨⟨shopSettings, shopSurroundings⟩, code, some 1⟩

theorem sends_isAbout {first second : String} :
    ∀ event ∈ [sends first, sends second], event.IsAbout 1 1 :=
  List.forall_mem_cons.mpr ⟨⟨rfl, rfl⟩, List.forall_mem_cons.mpr
    ⟨⟨rfl, rfl⟩, List.forall_mem_nil _⟩⟩

theorem created_order_discountedOnce_shop :
    DiscountedOnce 1 1 8000000 orderedDb [sends "EID10", sends "EID11"] := by
  have offered : discountDb.row .packages 1 =
      some { shopPackage with salePrice := 8000000 } := by
    decide +kernel
  have creates : (ServiceCall.createOrder 1 1 1 none
      (shopStamp "A1")).program.runAlone none discountDb =
        (orderedDb, some (.ok (.created 1 orderedRow))) := by
    apply Prod.ext rfl
    decide +kernel
  apply created_order_discountedOnce offered creates sends_isAbout
  refine ⟨fun _ => by decide +kernel, fun valid => ?_, trivial⟩
  exact absurd (by decide +kernel) valid

/-- A second code is applied to the price that the first one has left. -/
theorem discounted_twice :
    (ServiceCall.createOrder 1 1 1 none (shopStamp "A1")).program.runAlone none
        discountDb = (orderedDb, some (.ok (.created 1 orderedRow))) ∧
      (∀ event ∈ [sends "EID10", sends "HALF"], event.IsAbout 1 1) ∧
      ¬ DiscountedOnce 1 1 8000000 orderedDb
        [sends "EID10", sends "HALF"] := by
  refine ⟨?_, sends_isAbout, fun once => ?_⟩
  · apply Prod.ext rfl
    decide +kernel
  · obtain ⟨current, isCurrent, single⟩ := once _ (List.prefix_refl _)
    have last : priceOf 1 (StepRuns.final step orderedDb
        [sends "EID10", sends "HALF"]) = some 3600000 := by
      decide +kernel
    cases isCurrent.symm.trans last
    rcases single with same | ⟨row, member, -, same⟩
    · exact absurd same (by decide)
    · have others : ∀ row ∈ validCodes orderedDb
          [sends "EID10", sends "HALF"],
          (3600000 : Cents) ≠ discountOf 8000000 row := by
        decide +kernel
      exact others row member same

end Examples

end DiscountEvent

end Baste
