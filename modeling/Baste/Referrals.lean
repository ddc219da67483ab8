import Baste.ShopFootprints
import Mathlib.Logic.Relation

/-!
# Referral links

A new customer who comes through the link of another one is linked to it.  The
links of a reseller form a forest as long as they are only made for customers
that are new, and only to customers that are there.
-/

namespace Baste

section Relations

open Relation

variable {Item : Type*} {relation wider : Item → Item → Prop}

/-- Nothing leads back to where it starts. -/
def Acyclic (relation : Item → Item → Prop) : Prop :=
  ∀ item, ¬ TransGen relation item item

theorem Acyclic.of_le (acyclic : Acyclic wider)
    (le : ∀ first second, relation first second → wider first second) :
    Acyclic relation :=
  fun item path => acyclic item (TransGen.mono le item item path)

/-- An edge to an item from which nothing leads on closes no cycle. -/
theorem Acyclic.insert {new : Item} (acyclic : Acyclic relation)
    (splits : ∀ first second, wider first second →
      relation first second ∨ second = new)
    (leaf : ∀ item, ¬ wider new item) : Acyclic wider := by
  have ends : ∀ {first second}, TransGen wider first second →
      TransGen relation first second ∨ second = new := by
    intro first second path
    induction path with
    | single edge => exact (splits _ _ edge).imp_left .single
    | tail _ edge ih =>
        rcases ih with before | rfl
        · exact (splits _ _ edge).imp_left before.tail
        · exact absurd edge (leaf _)
  intro item path
  rcases ends path with inside | rfl
  · exact acyclic item inside
  · obtain ⟨next, edge, -⟩ := TransGen.head'_iff.mp path
    exact leaf next edge

end Relations

section Links

/-- The first customer has referred the second one. -/
def Refers (resellerId : Nat) (db : Db) (referrer referred : Int) : Prop :=
  ∃ id link, db.row .referralLinks id = some link ∧
    link.resellerId = resellerId ∧ link.referrerCustomerId = referrer ∧
    (link.referredCustomerId : Int) = referred

def IsCustomerOf (resellerId : Nat) (db : Db) (customerId : Int) : Prop :=
  ∃ id : Nat, customerId = id ∧
    ∃ customer, db.row .customers id = some customer ∧
      customer.resellerId = resellerId

/-- The links of each reseller have no cycles and lead between customers of
the reseller. -/
structure LinksSound (db : Db) : Prop where
  acyclic : ∀ resellerId, Acyclic (Refers resellerId db)
  ends : ∀ id link, db.row .referralLinks id = some link →
    IsCustomerOf link.resellerId db link.referrerCustomerId ∧
      IsCustomerOf link.resellerId db link.referredCustomerId

variable {before after : Db}

/-- The links stay when no link is added and customers are at most added. -/
theorem LinksSound.of_same_links (sound : LinksSound before)
    (links : ∀ id, after.row .referralLinks id = before.row .referralLinks id)
    (customers : ∀ resellerId customerId,
      IsCustomerOf resellerId before customerId →
        IsCustomerOf resellerId after customerId) :
    LinksSound after where
  acyclic resellerId := by
    refine (sound.acyclic resellerId).of_le ?_
    rintro first second ⟨id, link, found, rest⟩
    exact ⟨id, link, links id ▸ found, rest⟩
  ends id link found := by
    rw [links] at found
    have before := sound.ends id link found
    exact ⟨customers _ _ before.1, customers _ _ before.2⟩

theorem IsCustomerOf.row_ne_none {resellerId customerId : Nat} {db : Db}
    (is : IsCustomerOf resellerId db customerId) :
    db.row .customers customerId ≠ none := by
  obtain ⟨id, same, customer, found, -⟩ := is
  rw [Int.ofNat.inj same, found]
  exact Option.some_ne_none customer

/-- A link to a customer who was not there before closes no cycle. -/
theorem LinksSound.of_new_link {link : ReferralLinkRow}
    (sound : LinksSound before)
    (links : ∀ id found, after.row .referralLinks id = some found →
      before.row .referralLinks id = some found ∨ found = link)
    (customers : ∀ resellerId customerId,
      IsCustomerOf resellerId before customerId →
        IsCustomerOf resellerId after customerId)
    (referrer : IsCustomerOf link.resellerId before link.referrerCustomerId)
    (absent : before.row .customers link.referredCustomerId = none)
    (referred : IsCustomerOf link.resellerId after
      link.referredCustomerId) :
    LinksSound after where
  acyclic resellerId := by
    have stranger : ∀ reseller,
        ¬ IsCustomerOf reseller before link.referredCustomerId :=
      fun _ is => is.row_ne_none absent
    refine @Acyclic.insert _ _ _ (link.referredCustomerId : Int)
      (sound.acyclic resellerId) ?_ ?_
    · rintro first second ⟨id, found, isLink, rest⟩
      rcases links id found isLink with old | rfl
      · exact .inl ⟨id, found, old, rest⟩
      · exact .inr rest.2.2.symm
    · rintro item ⟨id, found, isLink, -, isReferrer, -⟩
      rcases links id found isLink with old | rfl
      · have ends := (sound.ends id found old).1
        rw [isReferrer] at ends
        exact stranger _ ends
      · rw [isReferrer] at referrer
        exact stranger _ referrer
  ends id found isLink := by
    rcases links id found isLink with old | rfl
    · have ends := sound.ends id found old
      exact ⟨customers _ _ ends.1, customers _ _ ends.2⟩
    · exact ⟨customers _ _ referrer, referred⟩

end Links

section Scripts

open BotScripts ShopBot ShopBot.CustomerOrders Database

variable {resellerId : Nat} {userId : Int} {db : Db}
variable {visit : Visit ShopState ShopData}

/-- The rows of a user among the customers of a reseller. -/
def customerRows (resellerId : Nat) (userId : Int) (db : Db) : List Nat :=
  db.idsWhere .customers fun customer =>
    customer.resellerId = resellerId && customer.telegramUserId = userId

/-- The customer that a user is or becomes. -/
def customerIdOf (resellerId : Nat) (userId : Int) (db : Db) : Nat :=
  (customerRows resellerId userId db).headD (db.nextId .customers)

/-- The database in which the user is a customer. -/
def withCustomer (resellerId : Nat) (userId : Int) (db : Db) : Db :=
  if customerRows resellerId userId db = [] then
    (db.reserve .customers).put .customers (db.nextId .customers)
      ⟨resellerId, userId, 0⟩
  else db

theorem runOn_getOrCreateCustomer :
    (getOrCreateCustomer resellerId userId).runOn visit =
      (.ok (customerIdOf resellerId userId visit.platform.db),
        { visit with
          platform.db := withCustomer resellerId userId visit.platform.db }) := by
  unfold getOrCreateCustomer customerIdOf withCustomer
  rw [Failing.runOn_bind, runOn_query]
  dsimp only
  cases listed : customerRows resellerId userId visit.platform.db with
  | cons first rest =>
      unfold customerRows at listed
      rw [listed]
      rfl
  | nil =>
      have stays : (visit.platform.db.reserve .customers).idsWhere .customers
          (fun customer => customer.resellerId = resellerId &&
            customer.telegramUserId = userId) = [] := by
        rw [← listed]
        exact KeyedTable.idsWhere_congr (fun _ => row_reserve) _
      unfold customerRows at listed
      rw [listed]
      simp [executeInsert, executeWrite, Failing.runOn_bind, runOn_query,
        stays]
      rfl

/-- The link can be stored. -/
def LinkFits (resellerId : Nat) (referrer : Int) (referred : Nat)
    (db : Db) : Prop :=
  referrer ≠ referred ∧
    db.idsWhere .referralLinks (fun link =>
      link.resellerId = resellerId && link.referredCustomerId = referred) = [] ∧
    (db.row .resellers resellerId).isSome = true

instance (referrer : Int) (referred : Nat) :
    Decidable (LinkFits resellerId referrer referred db) := by
  unfold LinkFits
  infer_instance

/-- The database in which the link is stored, if it can be. -/
def withLink (resellerId : Nat) (referrer : Int) (referred : Nat) (db : Db) :
    Db :=
  if LinkFits resellerId referrer referred db then
    (db.reserve .referralLinks).put .referralLinks
      (db.nextId .referralLinks) ⟨resellerId, clipped referrer, referred⟩
  else if referrer ≠ referred then db.reserve .referralLinks
  else db

theorem db_registerReferral {referrer : Int} {referred : Nat} :
    ((registerReferral resellerId referrer referred).runOn
        visit).2.platform.db =
      withLink resellerId referrer referred visit.platform.db := by
  have reserved : (visit.platform.db.reserve .referralLinks).idsWhere
      .referralLinks (fun link => link.resellerId = resellerId &&
        link.referredCustomerId = referred) =
      visit.platform.db.idsWhere .referralLinks fun link =>
        link.resellerId = resellerId && link.referredCustomerId = referred :=
    KeyedTable.idsWhere_congr (fun _ => row_reserve) _
  unfold registerReferral withLink
  by_cases differs : referrer ≠ referred
  · simp only [if_pos differs, executeWrite, Failing.runOn_bind, runOn_query,
      Failing.runOn_modify, reserved, row_reserve]
    by_cases fits : LinkFits resellerId referrer referred visit.platform.db
    · rw [if_pos fits, fits.2.1, fits.2.2]
      rfl
    · have refused : (visit.platform.db.idsWhere .referralLinks (fun link =>
          link.resellerId = resellerId &&
            link.referredCustomerId = referred) = [] &&
          (visit.platform.db.row .resellers resellerId).isSome) = false := by
        rw [← Bool.not_eq_true, Bool.and_eq_true, decide_eq_true_eq]
        exact fun both => fits ⟨differs, both⟩
      rw [if_neg fits, refused]
      rfl
  · rw [if_neg differs, if_neg differs, if_neg fun fits => differs fits.1]
    rfl

/-- What a start command does when it reaches the customers' part of a bot. -/
theorem db_customerStart {shop : Shop} {message : Message} {text : String}
    (isText : message.text = some text) :
    (((customerStart shop).action (.message message)).runOn
        visit).2.platform.db =
      let joined :=
        withCustomer shop.resellerId message.sender visit.platform.db
      match (afterFirstWord text.toList).bind referrerOf with
      | none => joined
      | some referrer =>
          withLink shop.resellerId referrer
            (customerIdOf shop.resellerId message.sender visit.platform.db)
            joined := by
  simp only [customerStart, onMessage, clear, textOf, isText, required,
    Failing.runOn_bind, Failing.runOn_modify, Failing.runOn_pure,
    runOn_getOrCreateCustomer]
  cases (afterFirstWord text.toList).bind referrerOf with
  | none => rfl
  | some referrer => exact db_registerReferral

theorem sameOutside_withCustomer :
    SameOutside [.customers] db (withCustomer resellerId userId db) := by
  unfold withCustomer
  split
  · exact SameOutside.reserve.trans (.put (by decide))
  · exact .refl db

/-- The user is a customer afterwards. -/
theorem isCustomer_withCustomer :
    ∃ customer, (withCustomer resellerId userId db).row .customers
        (customerIdOf resellerId userId db) = some customer ∧
      customer.resellerId = resellerId ∧ customer.telegramUserId = userId := by
  unfold withCustomer customerIdOf
  cases listed : customerRows resellerId userId db with
  | nil => exact ⟨_, row_put_self (by simp), rfl, rfl⟩
  | cons first rest =>
      have member : first ∈ customerRows resellerId userId db := by
        rw [listed]
        exact List.mem_cons_self
      obtain ⟨customer, found, isOwn⟩ := mem_idsWhere.mp member
      rw [Bool.and_eq_true, decide_eq_true_eq, decide_eq_true_eq] at isOwn
      exact ⟨customer, found, isOwn⟩

/-- A customer is new if and only if the user had no row. -/
theorem row_customerIdOf_eq_none :
    db.row .customers (customerIdOf resellerId userId db) = none ↔
      customerRows resellerId userId db = [] := by
  constructor
  · intro absent
    by_contra listed
    obtain ⟨customer, found, -⟩ :=
      @isCustomer_withCustomer resellerId userId db
    rw [withCustomer, if_neg listed, absent] at found
    cases found
  · intro none_
    rw [customerIdOf, none_]
    exact row_nextId

theorem isCustomerOf_withCustomer {otherReseller : Nat} {customerId : Int}
    (is : IsCustomerOf otherReseller db customerId) :
    IsCustomerOf otherReseller (withCustomer resellerId userId db)
      customerId := by
  obtain ⟨id, same, customer, found, isOf⟩ := is
  refine ⟨id, same, customer, ?_, isOf⟩
  unfold withCustomer
  split
  · have old : id ≠ db.nextId .customers := by
      have := lt_nextId_of_row found
      omega
    rw [row_put_ne old, row_reserve, found]
  · exact found

theorem row_withCustomer_ne {id : Nat}
    (other : id ≠ customerIdOf resellerId userId db) :
    (withCustomer resellerId userId db).row .customers id =
      db.row .customers id := by
  unfold withCustomer
  split
  · rename_i none_
    rw [customerIdOf, none_, List.headD_nil] at other
    rw [row_put_ne other, row_reserve]
  · rfl

theorem linkFits_withCustomer {referrer : Int} {referred : Nat} :
    LinkFits resellerId referrer referred
        (withCustomer resellerId userId db) ↔
      LinkFits resellerId referrer referred db := by
  have same := @sameOutside_withCustomer resellerId userId db
  unfold LinkFits
  rw [same.idsWhere_eq (by decide), same.rows .resellers (by decide)]

theorem sameOutside_withLink {referrer : Int} {referred : Nat} :
    SameOutside [.referralLinks] db
      (withLink resellerId referrer referred db) := by
  unfold withLink
  split
  · exact SameOutside.reserve.trans (.put (by decide))
  · split
    · exact .reserve
    · exact .refl db

theorem row_withLink_self {referrer : Int} {referred : Nat}
    (fits : LinkFits resellerId referrer referred db) :
    (withLink resellerId referrer referred db).row .referralLinks
        (db.nextId .referralLinks) =
      some ⟨resellerId, clipped referrer, referred⟩ := by
  rw [withLink, if_pos fits]
  exact row_put_self (by simp)

theorem row_withLink_ne {referrer : Int} {referred id : Nat}
    (other : id ≠ db.nextId .referralLinks) :
    (withLink resellerId referrer referred db).row .referralLinks id =
      db.row .referralLinks id := by
  unfold withLink
  split
  · rw [row_put_ne other, row_reserve]
  · split
    · exact row_reserve
    · rfl

/-- A link that does not fit is not stored. -/
theorem row_withLink_of_not_fits {referrer : Int} {referred id : Nat}
    (refused : ¬ LinkFits resellerId referrer referred db) :
    (withLink resellerId referrer referred db).row .referralLinks id =
      db.row .referralLinks id := by
  rw [withLink, if_neg refused]
  split
  · exact row_reserve
  · rfl

end Scripts

section Commands

open BotScripts BotScripts.Footprint ShopBot Database

/-- The handlers that come before the start command of customers. -/
def startHandlers (shop : Shop) (isOwner : Int → Bool) : List ShopHandler :=
  staffHandlers shop isOwner ++ [CustomerOrders.customerCancel]

theorem exists_handlers_eq (shop : Shop) (isOwner : Int → Bool) :
    ∃ rest, handlers shop isOwner = startHandlers shop isOwner ++
      (CustomerOrders.customerStart shop :: rest) :=
  ⟨CustomerOrders.showSupportFromKeyboard ::
      CustomerOrders.showCatalogFromKeyboard shop ::
      CustomerOrders.handleOperatorPick ::
      CustomerOrders.handleSubcategoryPick shop ::
      CustomerOrders.handlePackagePick ::
      CustomerOrders.handlePackageDetailBack ::
      CustomerOrders.handleBuyButton ::
      CustomerOrders.cancelPhoneNumberEntry ::
      CustomerOrders.receivePhoneNumberContact shop ::
      CustomerOrders.receivePhoneNumberText shop ::
      CustomerOrders.applyDiscountCode shop ::
      CustomerOrders.receiveReceipt shop ::
      (CustomerCharge.router shop ++ CustomerWallet.router shop), rfl⟩

/-- What the reseller's dialogues write to. -/
def panelTables : List TableName :=
  [.resellers, .orders, .walletTransactions, .disputes, .categories,
    .packages, .chargeCodes, .discountCodes, .referrals,
    .forcedJoinChannels, .resellerPaymentCards]

/-- A message in a dialogue of the reseller changes no customer and no
link. -/
theorem sameOutside_startHandlers {shop : Shop} {isOwner : Int → Bool}
    {message : Message} :
    ∀ handler ∈ startHandlers shop isOwner,
      ∀ visit : Visit ShopState ShopData,
        SameOutside panelTables visit.platform.db
          ((handler.action (.message message)).runOn visit).2.platform.db := by
  have within : ∀ {footprint : ShopFootprint} {handler : ShopHandler},
      footprint.Admits handler → footprint.tables ⊆ panelTables →
        ∀ visit : Visit ShopState ShopData,
          SameOutside panelTables visit.platform.db
            ((handler.action (.message message)).runOn
              visit).2.platform.db :=
    fun admits subset visit => (admits _ visit).rows.mono subset
  have press : ∀ visit : Visit ShopState ShopData,
      SameOutside panelTables visit.platform.db
        ((pure () : ShopScript Unit).runOn visit).2.platform.db :=
    fun visit => .refl _
  simp only [startHandlers, List.forall_mem_append]
  refine ⟨?staff, ?customers⟩
  case staff =>
    apply forall_staffHandlers
    case start =>
      exact fun handler member => within
        (@ResellerStart.admits_router (ResellerChargeStock.footprint []) isOwner
          handler member) (by decide)
    case orders =>
      simp only [ResellerOrders.router, List.forall_mem_cons, List.not_mem_nil,
        false_imp_iff, implies_true, and_true]
      exact ⟨press, press, press, press, press, press, press,
        within ResellerOrders.admits_submitDisputeReason (by decide)⟩
    case catalog =>
      exact fun handler member => within
        (ResellerCatalog.admits_router shop handler member) (by decide)
    case chargeStock =>
      exact fun handler member => within
        (ResellerChargeStock.admits_router shop handler member) (by decide)
    case wallet =>
      exact fun handler member => within
        (ResellerWallet.admits_router shop handler member) (by decide)
    case settings =>
      exact fun handler member => within
        (ResellerSettings.admits_router shop handler member) (by decide)
    case paymentMethods =>
      exact fun handler member => within
        (ResellerPaymentMethods.admits_router shop handler member) (by decide)
    case shows => exact fun _ visit => .refl _
    case lists => exact fun _ visit => .refl _
  case customers =>
    simp only [List.forall_mem_cons, List.not_mem_nil, false_imp_iff,
      implies_true, and_true]
    exact within (CustomerOrders.admits_customerCancel []) (by decide)

/-- Somebody sends a start command to one of the bots. -/
structure StartCommand where
  shop : Shop
  sender : Int
  chat : Int
  /-- What follows `/start` in the text. -/
  rest : List Char

namespace StartCommand

def text (command : StartCommand) : String :=
  String.ofList ("/start".toList ++ command.rest)

def message (command : StartCommand) : Message where
  sender := command.sender
  chat := command.chat
  text := some command.text

/-- The id in the payload `ref_<id>`. -/
def payload (command : StartCommand) : Option Int :=
  (afterFirstWord command.text.toList).bind CustomerOrders.referrerOf

def received (command : StartCommand) : ShopUpdate :=
  ⟨command.shop, .message command.message⟩

/-- The command comes to the handler for customers. -/
def Reaches (command : StartCommand) (world : ShopsWorld) : Prop :=
  Handler.dispatch (startHandlers command.shop fun userId =>
      isResellerOwner command.shop.resellerId userId world.platform.db)
    ((world.bot command.shop.resellerId).conversationOf
      (.message command.message)).state (.message command.message) = none

instance (command : StartCommand) (world : ShopsWorld) :
    Decidable (command.Reaches world) := by
  unfold Reaches
  rw [← Option.isNone_iff_eq_none]
  infer_instance

variable {command : StartCommand} {world : ShopsWorld}

/-- What a command does that comes to the handler for customers. -/
theorem db_of_reaches (reaches : command.Reaches world) :
    (world.step command.received).platform.db =
      let resellerId := command.shop.resellerId
      let joined := withCustomer resellerId command.sender world.platform.db
      match command.payload with
      | none => joined
      | some referrer =>
          withLink resellerId referrer
            (customerIdOf resellerId command.sender world.platform.db)
            joined := by
  obtain ⟨rest, split⟩ := exists_handlers_eq command.shop fun userId =>
    isResellerOwner command.shop.resellerId userId world.platform.db
  have takes : (CustomerOrders.customerStart command.shop).takes
      ((world.bot command.shop.resellerId).conversationOf
        (.message command.message)).state (.message command.message) =
      true := by
    have chars : command.text.toList = "/start".toList ++ command.rest :=
      String.toList_ofList
    change "/start".toList.isPrefixOf command.text.toList = true
    rw [chars]
    exact List.isPrefixOf_iff_prefix.mpr (List.prefix_append _ _)
  have start : Handler.dispatch
      (CustomerOrders.customerStart command.shop :: rest) _ _ = some _ :=
    Handler.dispatch_cons_of_takes takes
  have found := (Handler.dispatch_append_of_none reaches).trans start
  rw [← split] at found
  exact (congrArg Platform.db (BotWorld.platform_receive found)).trans
    (db_customerStart rfl)

/-- Any other command is a message in a dialogue of the reseller. -/
theorem sameOutside_of_not_reaches (other : ¬ command.Reaches world) :
    SameOutside panelTables world.platform.db
      (world.step command.received).platform.db := by
  obtain ⟨rest, split⟩ := exists_handlers_eq command.shop fun userId =>
    isResellerOwner command.shop.resellerId userId world.platform.db
  obtain ⟨script, early⟩ := Option.ne_none_iff_exists'.mp other
  have found : Handler.dispatch (startHandlers command.shop _ ++
      (CustomerOrders.customerStart command.shop :: rest)) _ _ = some _ :=
    Handler.dispatch_append_of_some early
  rw [← split] at found
  obtain ⟨handler, member, -, rfl⟩ := Handler.exists_of_dispatch early
  have ran : (world.step command.received).platform = _ :=
    BotWorld.platform_receive found
  rw [ran]
  exact sameOutside_startHandlers handler member
    ⟨(world.bot command.shop.resellerId).platform, _⟩

/-- The links stay sound, and a link that the command adds carries its payload
and is that of the customer whom it has created. -/
structure Links (command : StartCommand) (before after : Db) : Prop where
  sound : LinksSound after
  new : ∀ id link, before.row .referralLinks id = none →
    after.row .referralLinks id = some link →
      command.payload.map CustomerOrders.clipped =
          some link.referrerCustomerId ∧
        before.row .customers link.referredCustomerId = none ∧
        ∃ customer,
          after.row .customers link.referredCustomerId = some customer ∧
          customer.resellerId = link.resellerId ∧
          customer.telegramUserId = command.sender

/-- If the command reaches the customers' part and its link can be stored, the
sender is not a customer yet, and the payload is the id of a customer of the
reseller. -/
def RefersNew (command : StartCommand) (world : ShopsWorld) : Prop :=
  command.Reaches world → ∀ referrer ∈ command.payload,
    LinkFits command.shop.resellerId referrer
        (customerIdOf command.shop.resellerId command.sender
          world.platform.db) world.platform.db →
      customerRows command.shop.resellerId command.sender
          world.platform.db = [] ∧
        IsCustomerOf command.shop.resellerId world.platform.db
          (CustomerOrders.clipped referrer)

variable {before after : Db}

/-- Without a new link there is nothing to check. -/
theorem links_of_same (sound : LinksSound before)
    (same : ∀ id, after.row .referralLinks id = before.row .referralLinks id)
    (customers : ∀ resellerId customerId,
      IsCustomerOf resellerId before customerId →
        IsCustomerOf resellerId after customerId) :
    command.Links before after where
  sound := sound.of_same_links same customers
  new id link absent found := by
    rw [same, absent] at found
    cases found

theorem isCustomerOf_of_same_rows
    (same : ∀ id, after.row .customers id = before.row .customers id)
    {resellerId : Nat} {customerId : Int}
    (is : IsCustomerOf resellerId before customerId) :
    IsCustomerOf resellerId after customerId := by
  obtain ⟨id, isId, customer, found, isOf⟩ := is
  exact ⟨id, isId, customer, (same id).trans found, isOf⟩

/-- A command whose link is stored keeps the links as they should be if and
only if it refers a new customer. -/
theorem links_iff_of_stored {resellerId : Nat} {referrer : Int}
    (carries : command.payload = some referrer) (sound : LinksSound before)
    (fits : LinkFits resellerId referrer
      (customerIdOf resellerId command.sender before) before) :
    command.Links before
        (withLink resellerId referrer
          (customerIdOf resellerId command.sender before)
          (withCustomer resellerId command.sender before)) ↔
      customerRows resellerId command.sender before = [] ∧
        IsCustomerOf resellerId before (CustomerOrders.clipped referrer) := by
  have fitting := (@linkFits_withCustomer resellerId command.sender before
    referrer _).mpr fits
  have stored := row_withLink_self fitting
  have joined := @sameOutside_withCustomer resellerId command.sender before
  have customers := (@sameOutside_withLink resellerId
    (withCustomer resellerId command.sender before) referrer
    (customerIdOf resellerId command.sender before)).rows .customers
      (by decide)
  have old := fun {id : Nat} => @row_withLink_ne resellerId
    (withCustomer resellerId command.sender before) referrer
    (customerIdOf resellerId command.sender before) id
  obtain ⟨customer, isOwn, ofReseller, ofSender⟩ :=
    @isCustomer_withCustomer resellerId command.sender before
  generalize isAfter : withLink resellerId referrer
    (customerIdOf resellerId command.sender before)
    (withCustomer resellerId command.sender before) = after at *
  have fresh : before.row .referralLinks
      ((withCustomer resellerId command.sender before).nextId
        .referralLinks) = none := by
    rw [← joined.rows .referralLinks (by decide)]
    exact row_nextId
  constructor
  · intro links
    obtain ⟨-, absent, -⟩ := links.new _ _ fresh stored
    refine ⟨row_customerIdOf_eq_none.mp absent, ?_⟩
    obtain ⟨id, isReferrer, found, isFound, ofFound⟩ :=
      (links.sound.ends _ _ stored).1
    have different : id ≠ customerIdOf resellerId command.sender before := by
      rintro rfl
      exact links.sound.acyclic resellerId _
        (.single ⟨_, _, stored, rfl, isReferrer, rfl⟩)
    rw [customers, row_withCustomer_ne different] at isFound
    exact ⟨id, isReferrer, found, isFound, ofFound⟩
  · rintro ⟨none_, isReferrer⟩
    have absent := row_customerIdOf_eq_none.mpr none_
    have isNew : after.row .customers
        (customerIdOf resellerId command.sender before) = some customer := by
      rw [customers, isOwn]
    have split : ∀ id found, after.row .referralLinks id = some found →
        before.row .referralLinks id = some found ∨
          found = ⟨resellerId, CustomerOrders.clipped referrer,
            customerIdOf resellerId command.sender before⟩ := by
      intro id found isLink
      by_cases isLast : id =
          (withCustomer resellerId command.sender before).nextId
            .referralLinks
      · rw [isLast, stored] at isLink
        exact .inr (Option.some.inj isLink).symm
      · rw [old isLast, joined.rows .referralLinks (by decide)] at isLink
        exact .inl isLink
    refine ⟨sound.of_new_link split (fun reseller customerId is => ?_)
      isReferrer absent ⟨_, rfl, customer, isNew, ofReseller⟩, ?_⟩
    · exact isCustomerOf_of_same_rows customers (isCustomerOf_withCustomer is)
    · intro id link unused isLink
      rcases split id link isLink with there | rfl
      · rw [unused] at there
        cases there
      · refine ⟨by rw [carries, Option.map_some], absent, customer, isNew,
          ofReseller, ofSender⟩

/-- A command keeps the links as they should be if and only if it refers a new
customer or stores nothing. -/
theorem links_iff (sound : LinksSound world.platform.db) :
    command.Links world.platform.db
        (world.step command.received).platform.db ↔
      command.RefersNew world := by
  by_cases reaches : command.Reaches world
  · have joined := @sameOutside_withCustomer command.shop.resellerId
      command.sender world.platform.db
    rw [db_of_reaches reaches]
    cases carries : command.payload with
    | none =>
        have nothing : command.RefersNew world := by
          intro _ referrer isReferrer
          rw [carries] at isReferrer
          cases isReferrer
        exact iff_of_true (links_of_same sound
          (joined.rows .referralLinks (by decide))
          fun _ _ => isCustomerOf_withCustomer) nothing
    | some referrer =>
        by_cases fits : LinkFits command.shop.resellerId referrer
            (customerIdOf command.shop.resellerId command.sender
              world.platform.db) world.platform.db
        · refine (links_iff_of_stored carries sound fits).trans ?_
          constructor
          · rintro new _ other isOther -
            cases carries.symm.trans isOther
            exact new
          · exact fun refers => refers reaches referrer carries fits
        · have unfitting := mt (@linkFits_withCustomer
            command.shop.resellerId command.sender world.platform.db referrer
            _).mp fits
          have refused := fun id =>
            @row_withLink_of_not_fits _ _ referrer _ id unfitting
          have nothing : command.RefersNew world := by
            intro _ other isOther isFitting
            cases carries.symm.trans isOther
            exact absurd isFitting fits
          refine iff_of_true (links_of_same sound (fun id => ?_)
            fun _ _ is => ?_) nothing
          · exact (refused id).trans (joined.rows .referralLinks (by decide) id)
          · exact isCustomerOf_of_same_rows
              (sameOutside_withLink.rows .customers (by decide))
              (isCustomerOf_withCustomer is)
  · have same := sameOutside_of_not_reaches reaches
    exact iff_of_true
      (links_of_same sound (same.rows .referralLinks (by decide)) fun _ _ =>
        isCustomerOf_of_same_rows (same.rows .customers (by decide)))
      fun isReached => absurd isReached reaches

/-- The command comes to its bot. -/
def step (world : ShopsWorld) (command : StartCommand) : ShopsWorld :=
  world.step command.received

/-- In every run of start commands, the links stay as they should be if and
only if links are only stored for new customers and to customers. -/
theorem along_links_iff (sound : LinksSound world.platform.db)
    (commands : List StartCommand) :
    StepRuns.Along step
        (fun now command =>
          command.Links now.platform.db (step now command).platform.db)
        world commands ↔
      StepRuns.Along step (fun now command => command.RefersNew now) world
        commands := by
  apply StepRuns.along_iff (fun now => LinksSound now.platform.db)
  · exact fun _ _ sound => links_iff sound
  · exact fun _ _ sound refers => ((links_iff sound).mpr refers).sound
  · exact sound

section Examples

/-- A user sends the command to the first shop, with this after it. -/
def starts (userId : Int) (rest : String) : StartCommand where
  shop := ⟨shopSettings, shopSurroundings⟩
  sender := userId
  chat := userId
  rest := rest.toList

/-- A shop to which nobody has come yet. -/
def newCustomersDb : Db :=
  Db.filled fun
    | .resellers => [shopReseller]
    | _ => []

theorem linksSound_of_no_links {db : Db}
    (none_ : ∀ id, db.row .referralLinks id = none) : LinksSound db where
  acyclic resellerId := by
    have noEdge : ∀ first second, ¬ Refers resellerId db first second := by
      rintro first second ⟨id, link, found, -⟩
      cases (none_ id).symm.trans found
    intro customerId path
    obtain ⟨next, edge, -⟩ := Relation.TransGen.head'_iff.mp path
    exact noEdge _ _ edge
  ends id link found := by
    cases (none_ id).symm.trans found

theorem linksSound_newCustomersDb : LinksSound newCustomersDb := by
  apply linksSound_of_no_links
  intro id
  rw [Option.eq_none_iff_forall_ne_some]
  intro link found
  have member : link ∈ ([] : List ReferralLinkRow) :=
    KeyedTable.mem_of_row_ofRows found
  cases member

theorem along_links_iff_referred :
    StepRuns.Along step
        (fun now command =>
          command.Links now.platform.db (step now command).platform.db)
        (newShopsWorld newCustomersDb) [starts 7 "", starts 8 " ref_1"] ↔
      StepRuns.Along step (fun now command => command.RefersNew now)
        (newShopsWorld newCustomersDb) [starts 7 "", starts 8 " ref_1"] :=
  along_links_iff linksSound_newCustomersDb _

/-- The first customer comes back through the link of the second one, whom the
first one has referred. -/
def referringBack : List StartCommand :=
  [starts 7 "", starts 8 " ref_1", starts 7 " ref_2"]

/-- Two customers have referred each other. -/
theorem referring_back_closes_cycle :
    LinksSound newCustomersDb ∧
      ¬ StepRuns.Along step
        (fun now command =>
          command.Links now.platform.db (step now command).platform.db)
        (newShopsWorld newCustomersDb) referringBack := by
  refine ⟨linksSound_newCustomersDb, ?_⟩
  rintro ⟨-, -, links, -⟩
  have sound := links.sound
  have forth : (StepRuns.final step (newShopsWorld newCustomersDb)
      referringBack).platform.db.row .referralLinks 1 =
        some ⟨1, 1, 2⟩ := by
    decide +kernel
  have back : (StepRuns.final step (newShopsWorld newCustomersDb)
      referringBack).platform.db.row .referralLinks 2 =
        some ⟨1, 2, 1⟩ := by
    decide +kernel
  have refersForth : Refers 1 (StepRuns.final step
      (newShopsWorld newCustomersDb) referringBack).platform.db 1 2 :=
    ⟨1, _, forth, rfl, rfl, rfl⟩
  have refersBack : Refers 1 (StepRuns.final step
      (newShopsWorld newCustomersDb) referringBack).platform.db 2 1 :=
    ⟨2, _, back, rfl, rfl, rfl⟩
  exact sound.acyclic 1 1 ((Relation.TransGen.single refersForth).tail
    refersBack)

end Examples

end StartCommand

end Commands

end Baste
