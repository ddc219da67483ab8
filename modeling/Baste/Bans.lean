import Baste.AutoBlacklist
import Baste.OrderParties
import Baste.OwnScripts

/-!
# Bans

Whoever is on the blacklist, of a reseller or of all, never gets another order
there: the services that create orders refuse, and no bot removes an entry.
-/

namespace Baste

open BotScripts Database BlacklistService

section Entries

variable {resellerId : Nat} {userId : Int} {before after db : Db}

/-- A user who is listed stays listed while the entries stay. -/
theorem blacklisted_of_entries {reseller : Option Nat}
    (listed : blacklisted before userId reseller = true)
    (kept : ∀ id entry, before.row .blacklist id = some entry →
      after.row .blacklist id = some entry) :
    blacklisted after userId reseller = true := by
  have stays : ∀ test : BlacklistRow → Bool,
      before.idsWhere .blacklist test ≠ [] →
        after.idsWhere .blacklist test ≠ [] := by
    intro test some
    obtain ⟨id, member⟩ := List.exists_mem_of_ne_nil _ some
    obtain ⟨entry, found, passes⟩ := mem_idsWhere.mp member
    exact List.ne_nil_of_mem
      (mem_idsWhere.mpr ⟨entry, kept id entry found, passes⟩)
  unfold blacklisted at listed ⊢
  rw [Bool.or_eq_true] at listed ⊢
  rcases listed with everywhere | here
  · left
    rw [decide_eq_true_eq] at everywhere ⊢
    exact stays _ everywhere
  · right
    rw [Option.any_eq_true] at here ⊢
    obtain ⟨reporter, isReporter, here⟩ := here
    rw [decide_eq_true_eq] at here
    exact ⟨reporter, isReporter, decide_eq_true (stays _ here)⟩

theorem blacklisted_of_retains {reseller : Option Nat}
    (listed : blacklisted before userId reseller = true)
    (retains : Retains ownerPolicy before after) :
    blacklisted after userId reseller = true := by
  apply blacklisted_of_entries listed
  intro id entry found
  obtain ⟨now, isNow, allows⟩ := retains .blacklist id entry found trivial
  rw [RowPolicy.eq_of_allows_fixed allows] at isNow
  exact isNow

theorem IsOther.retained {customerId : Nat}
    (other : IsOther resellerId userId before customerId)
    (retains : Retains ownerPolicy before after) :
    IsOther resellerId userId after customerId := by
  obtain ⟨customer, found, notUser⟩ := other
  obtain ⟨now, isNow, allows⟩ := retains .customers customerId customer found
    trivial
  have same : (now.resellerId, now.telegramUserId) =
      (customer.resellerId, customer.telegramUserId) := allows.permanent
  obtain ⟨sameReseller, sameUser⟩ := Prod.mk.inj same
  exact ⟨now, isNow, by rw [sameReseller, sameUser]; exact notUser⟩

end Entries

section Services

variable {resellerId packageId customerId : Nat} {userId : Int} {db : Db}

/-- The services refuse the purchase of a listed user. -/
theorem runAlone_listed {call : ServiceCall} {error : ServiceError}
    (own : IsCustomer resellerId userId db customerId)
    (listed : blacklisted db userId (some resellerId) = true)
    (seller : call.seller = some resellerId)
    (refusal : call.refusal = some (customerId, error)) :
    call.program.runAlone none db = (db, some (.error error)) := by
  obtain ⟨customer, found, -, ofUser⟩ := own
  apply runAlone_refused refusal found
  intro other isSeller
  cases seller.symm.trans isSeller
  rw [ofUser]
  exact listed

theorem unchanged_listed {call : ServiceCall} {error : ServiceError}
    (own : IsCustomer resellerId userId db customerId)
    (listed : blacklisted db userId (some resellerId) = true)
    (seller : call.seller = some resellerId)
    (refusal : call.refusal = some (customerId, error)) :
    call.runAlone db = db :=
  congrArg Prod.fst (runAlone_listed own listed seller refusal)

/-- A bulk purchase is refused for its quantity or for its customer. -/
theorem unchanged_purchaseChargeBulk {quantity : Int}
    {stamps : Nat → OrderStamp}
    (own : IsCustomer resellerId userId db customerId)
    (listed : blacklisted db userId (some resellerId) = true) :
    (ServiceCall.purchaseChargeBulk resellerId packageId customerId quantity
      stamps).runAlone db = db := by
  by_cases tooFew : quantity < 1
  · rw [ServiceCall.runAlone, ServiceCall.program,
      ChargeService.purchaseChargeBulk, if_pos tooFew]
    rfl
  · exact unchanged_listed own listed rfl (if_neg tooFew)

end Services

namespace ShopBot

section Scripts

variable {shop : Shop} {userId : Int} {db : Db}
variable {Result Next : Type}

/-- Started with this database, the script ends with it. -/
def KeepsThis (db : Db) (script : ShopScript Result) : Prop :=
  script.Ensures (fun visit => visit.platform.db = db)
    (fun _ visit => visit.platform.db = db)
    fun _ visit => visit.platform.db = db

theorem keepsThis_of_keeps {script : ShopScript Result}
    (keeps : KeepsPlatform (fun platform => platform.db) script) :
    KeepsThis db script := by
  intro visit same
  have kept := keeps visit
  dsimp only at kept
  revert kept
  rcases script.runOn visit with ⟨error | value, reached⟩
  · exact fun kept => kept.trans same
  · exact fun kept => kept.trans same

theorem keepsThis_attempt {service : ServiceCall}
    (refused : service.runAlone db = db) :
    KeepsThis db (attempt service : ShopScript Outcome) := by
  intro visit same
  have ran := @db_attempt _ _ visit service
  rw [same, refused] at ran
  revert ran
  rcases (attempt service : ShopScript Outcome).runOn visit with
    ⟨error | value, reached⟩
  · exact fun ran => ran
  · exact fun ran => ran

/-- A listed user gets nothing but an entry as a customer. -/
def Bars (shop : Shop) (userId : Int) (script : ShopScript Result) : Prop :=
  ∀ visit, blacklisted visit.platform.db userId (some shop.resellerId) = true →
    SameOutside [.customers] visit.platform.db
      (script.runOn visit).2.platform.db

theorem bars_of_keeps {script : ShopScript Result}
    (keeps : KeepsPlatform (fun platform => platform.db) script) :
    Bars shop userId script := by
  intro visit _
  have same : (script.runOn visit).2.platform.db = visit.platform.db :=
    keeps visit
  rw [same]
  exact .refl _

theorem bars_after_look {script : ShopScript Result}
    {next : Result → ShopScript Next} (looks : Looks script)
    (rest : ∀ value, Bars shop userId (next value)) :
    Bars shop userId (script >>= next) := by
  intro visit listed
  have same : (script.runOn visit).2 = visit := looks visit
  rw [Failing.runOn_bind]
  revert same
  rcases script.runOn visit with ⟨error | value, reached⟩
  · rintro rfl
    exact .refl _
  · rintro rfl
    exact rest value _ listed

/-- What is done for the customer is refused. -/
theorem bars_getOrCreateCustomer_bind {next : Nat → ShopScript Next}
    (keeps : ∀ customerId db,
      IsCustomer shop.resellerId userId db customerId →
        blacklisted db userId (some shop.resellerId) = true →
          KeepsThis db (next customerId)) :
    Bars shop userId
      (getOrCreateCustomer shop.resellerId userId >>= next) := by
  intro visit listed
  have same := @sameOutside_getOrCreateCustomer visit userId shop.resellerId
  have own := @isCustomer_getOrCreateCustomer visit userId shop.resellerId
  rw [Failing.runOn_bind]
  revert same own
  rcases (getOrCreateCustomer shop.resellerId userId).runOn visit with
    ⟨error | customerId, first⟩
  · exact fun same _ => same
  · intro same own
    have stillListed : blacklisted first.platform.db userId
        (some shop.resellerId) = true :=
      blacklisted_of_entries listed fun id entry found => by
        rw [same.rows .blacklist (by decide), found]
    have ends := keeps customerId first.platform.db (own rfl) stillListed
      first rfl
    dsimp only
    revert ends
    rcases (next customerId).runOn first with ⟨error | value, last⟩
    · intro ends
      dsimp only at ends ⊢
      rw [ends]
      exact same
    · intro ends
      dsimp only at ends ⊢
      rw [ends]
      exact same

theorem bars_processPurchase {phoneNumber : String} :
    Bars shop userId
      (CustomerOrders.processPurchase shop userId phoneNumber) := by
  apply bars_after_look looks_getData
  intro data
  split
  · exact bars_of_keeps keeps_clear
  · apply bars_getOrCreateCustomer_bind
    intro customerId db own listed
    apply Failing.Ensures.bind (keepsThis_attempt
      (unchanged_listed own listed rfl rfl))
    intro outcome
    split
    · exact keepsThis_of_keeps keeps_clear
    · exact keepsThis_of_keeps keeps_clear
    · apply Failing.Ensures.bind (keepsThis_attempt
        (unchanged_listed own listed rfl rfl))
      intro ordered
      split
      · exact keepsThis_of_keeps (keeps_nextQuestion _ _)
      · exact keepsThis_of_keeps keeps_clear
      · exact keepsThis_of_keeps (Failing.keeps_throw _)
    · exact keepsThis_of_keeps (Failing.keeps_throw _)

theorem bars_receivePhoneNumberContact {message : Message} :
    Bars shop message.sender
      ((CustomerOrders.receivePhoneNumberContact shop).action
        (.message message)) :=
  bars_after_look (looks_required _ _) fun _ => bars_processPurchase

theorem bars_receivePhoneNumberText {message : Message} :
    Bars shop message.sender
      ((CustomerOrders.receivePhoneNumberText shop).action
        (.message message)) := by
  apply bars_after_look (looks_required _ _)
  intro text
  split
  · exact bars_of_keeps (Failing.keeps_pure ())
  · exact bars_processPurchase

theorem bars_handleChargeQuantityInput {message : Message} :
    Bars shop message.sender
      ((CustomerCharge.handleChargeQuantityInput shop).action
        (.message message)) := by
  apply bars_after_look looks_getData
  intro data
  split
  · exact bars_of_keeps keeps_clear
  · dsimp only
    split
    · exact bars_of_keeps (Failing.keeps_pure ())
    · apply bars_after_look (looks_query _)
      intro package
      split
      · exact bars_of_keeps keeps_clear
      · apply bars_getOrCreateCustomer_bind
        intro customerId db own listed
        apply Failing.Ensures.bind (keepsThis_attempt
          (unchanged_purchaseChargeBulk own listed))
        intro outcome
        split
        · exact keepsThis_of_keeps keeps_clear
        · exact keepsThis_of_keeps keeps_clear
        · exact keepsThis_of_keeps (Failing.keeps_pure ())
        · exact keepsThis_of_keeps (Failing.keeps_pure ())
        · exact keepsThis_of_keeps (Failing.keeps_throw _)

end Scripts

end ShopBot

namespace ShopWorld

variable {world : ShopWorld} {shop : Shop} {update : Update}

/-- No update of a listed user creates an order. -/
theorem not_created_of_listed {id : Nat} {order : OrderRow}
    (listed : blacklisted world.platform.db update.sender
      (some shop.resellerId) = true)
    (absent : world.platform.db.row .orders id = none) :
    (world.handle shop update).platform.db.row .orders id ≠ some order := by
  intro created
  obtain ⟨script, ran, completes⟩ := script_of_created absent created
  have barred : ShopBot.Bars shop update.sender script := by
    cases update with
    | callback callback =>
        rcases completes with ⟨takes, -⟩ | ⟨-, takes, -⟩ | ⟨takes, -⟩ <;>
          cases takes
    | message message =>
        rcases completes with ⟨-, rfl⟩ | ⟨-, -, rfl⟩ | ⟨-, rfl⟩
        · exact ShopBot.bars_receivePhoneNumberContact
        · exact ShopBot.bars_receivePhoneNumberText
        · exact ShopBot.bars_handleChargeQuantityInput
  have same := barred ⟨world.platform, world.conversationOf update⟩ listed
  rw [ran, same.rows .orders (by decide), absent] at created
  cases created

end ShopWorld

namespace BotsWorld

variable {world : BotsWorld} {event : BotsEvent}
variable {resellerId : Nat} {userId : Int} {start : Db}

/-- The user is banned from the shop, and all orders since the start are those
of other customers. -/
structure ServedOthers (resellerId : Nat) (userId : Int) (start : Db)
    (world : BotsWorld) : Prop where
  listed : blacklisted world.platform.db userId (some resellerId) = true
  others : ∀ id order, start.row .orders id = none →
    world.platform.db.row .orders id = some order →
      IsOther resellerId userId world.platform.db order.customerId

theorem servedOthers_step (served : world.ServedOthers resellerId userId start)
    (noRestore : ¬ world.Restores event) :
    (world.step event).ServedOthers resellerId userId start := by
  have keeps := keepsOwners_step noRestore
  refine ⟨blacklisted_of_retains served.listed keeps, ?_⟩
  intro id order absent created
  cases before : world.platform.db.row .orders id with
  | some old =>
      have other := served.others id old absent before
      obtain ⟨now, isNow, allows⟩ := keeps .orders id old before trivial
      cases isNow.symm.trans created
      have same : (order.resellerId, order.customerId) =
          (old.resellerId, old.customerId) := allows.permanent
      rw [(Prod.mk.inj same).2]
      exact other.retained keeps
  | none =>
      obtain ⟨sender, ofSender, customer, found, ofReseller, ofUser⟩ :=
        parties_of_created noRestore before created
      refine ⟨customer, found, ?_⟩
      rintro ⟨sameReseller, sameUser⟩
      cases event with
      | admin => exact ofSender
      | shop received =>
          obtain ⟨isReseller, isSender⟩ := ofSender
          have isShop : received.shop.resellerId = resellerId := by
            rw [isReseller, ← ofReseller, sameReseller]
          have isUser : received.update.sender = userId := by
            rw [isSender, ← ofUser, sameUser]
          have listed := served.listed
          rw [← isShop, ← isUser] at listed
          exact @ShopWorld.not_created_of_listed
            (world.shopBots.bot received.shop.resellerId) received.shop
            received.update id order listed before created

/-- Once a user is on the blacklist of a shop or of all shops, no run of all
bots without a restore ends the ban: the services refuse whatever the user
wants to buy, and every order that is created is that of another customer. -/
theorem banned_gets_no_order (resellerId : Nat) (userId : Int)
    (world : BotsWorld)
    (listed : blacklisted world.platform.db userId (some resellerId) = true)
    (events : List BotsEvent)
    (noRestore : StepRuns.Along step
      (fun world event => ¬ world.Restores event) world events) :
    let after := (StepRuns.final step world events).platform.db
    blacklisted after userId (some resellerId) = true ∧
      (∀ (call : ServiceCall) (customerId : Nat) (error : ServiceError),
        call.seller = some resellerId →
        call.refusal = some (customerId, error) →
        IsCustomer resellerId userId after customerId →
          call.program.runAlone none after = (after, some (.error error))) ∧
      ∀ id order, world.platform.db.row .orders id = none →
        after.row .orders id = some order →
          IsOther resellerId userId after order.customerId := by
  intro after
  have start : world.ServedOthers resellerId userId world.platform.db :=
    ⟨listed, fun id order absent found => by cases absent.symm.trans found⟩
  have served := (StepRuns.along_of_guarded
    (ServedOthers resellerId userId world.platform.db) (fun _ _ => True)
    (fun _ _ served noRestore => ⟨trivial, servedOthers_step served noRestore⟩)
    start noRestore).2
  refine ⟨served.listed, ?_, served.others⟩
  intro call customerId error seller refusal own
  exact runAlone_listed own served.listed seller refusal

/-- The shop with instant charges, whose owner has banned the first customer;
there is another customer with the same money. -/
def bannedDb : Db :=
  .filled fun
    | .resellers => [shopReseller]
    | .categories =>
        [{ resellerId := 1, operatorName := "ایرانسل", title := "ایرانسل"
           catalogType := .charge },
          { resellerId := 1, operatorName := "ایرانسل"
            parentCategoryId := some 1, title := "شارژ"
            catalogType := .charge }]
    | .customers => [shopCustomer, { shopCustomer with telegramUserId := 8 }]
    | .packages => [{ shopPackage with categoryId := 2 }]
    | .chargeCodes => [{ resellerId := 1, packageId := 1, code := "A1" }]
    | .blacklist =>
        [{ telegramUserId := 7, reportedByResellerId := some 1
           reason := none, isGlobal := false }]
    | _ => []

/-- A user walks through the keyboards and orders one charge code. -/
def buysCharge (userId : Int) : List BotsEvent :=
  [ShopBot.customerChargeButtonText, "📁 ایرانسل", "📂 شارژ",
    "🔋 1 GB — 8 تومان", ShopBot.customerBuyChargeButtonText, "1"].map
      fun text => .shop ⟨⟨shopSettings, shopSurroundings⟩,
        .message { sender := userId, chat := userId, text := some text }⟩

/-- The bans of the first customer and of a wallet order that is tried after
the run. -/
theorem banned_gets_no_order_buysCharge :
    let after := (StepRuns.final step (newBotsWorld bannedDb)
      (buysCharge 7 ++ buysCharge 8)).platform.db
    IsOther 1 7 after 2 ∧
      (ServiceCall.createOrderPaidByWallet 1 1 1 none
        (shopStamp "A1B2")).program.runAlone none after =
          (after, some (.error OrderService.blacklistedError)) := by
  intro after
  have ordered : (after.row .orders 1).map (·.customerId) = some 2 := by
    decide +kernel
  have user : (after.row .customers 1).map (fun customer =>
      (customer.resellerId, customer.telegramUserId)) = some (1, 7) := by
    decide +kernel
  obtain ⟨order, found, ofOther⟩ := Option.map_eq_some_iff.mp ordered
  obtain ⟨customer, isRow, same⟩ := Option.map_eq_some_iff.mp user
  obtain ⟨ofReseller, ofUser⟩ := Prod.mk.inj same
  obtain ⟨-, refuses, others⟩ := banned_gets_no_order 1 7
    (newBotsWorld bannedDb) (by decide +kernel) (buysCharge 7 ++ buysCharge 8)
    (by decide +kernel)
  have isOther := others 1 order (by decide +kernel) found
  rw [ofOther] at isOther
  exact ⟨isOther, refuses _ 1 _ rfl rfl ⟨customer, isRow, ofReseller, ofUser⟩⟩

/-- The other customer's order is the only one. -/
example :
    let after := (StepRuns.final step (newBotsWorld bannedDb)
      (buysCharge 7 ++ buysCharge 8)).platform.db
    (after.idsWhere .orders fun _ => true) = [1] ∧
      (after.row .orders 1).map (·.customerId) = some 2 := by
  decide +kernel

end BotsWorld

end Baste
