import Baste.CustomerBot
import Baste.ResellerCatalog
import Baste.ResellerPanel

/-!
# Runs of a reseller's bot

The dispatcher of a bot with all its routers, and the bot in a world where
other components change the database between two updates.
-/

namespace Baste

namespace ShopBot

/-- The handlers that take an update in the dispatcher of a bot.  The owner of
the reseller is looked up when the update comes. -/
def handlers (shop : Shop) (isOwner : Int → Bool) : List ShopHandler :=
  ResellerStart.router isOwner ++ ResellerOrders.router shop ++
    ResellerCatalog.router shop ++ ResellerChargeStock.router shop ++
    ResellerWallet.router shop ++ ResellerSettings.router shop ++
    ResellerReports.router ++ ResellerStats.router ++
    ResellerPaymentMethods.router shop ++ OperatorOrders.router shop ++
    CustomerOrders.router shop ++ CustomerCharge.router shop ++
    CustomerWallet.router shop

/-- The handlers of the routers for the staff, which come first. -/
def staffHandlers (shop : Shop) (isOwner : Int → Bool) : List ShopHandler :=
  ResellerStart.router isOwner ++ ResellerOrders.router shop ++
    ResellerCatalog.router shop ++ ResellerChargeStock.router shop ++
    ResellerWallet.router shop ++ ResellerSettings.router shop ++
    ResellerReports.router ++ ResellerStats.router ++
    ResellerPaymentMethods.router shop ++ OperatorOrders.router shop

section Routers

open BotScripts

variable {shop : Shop} {isOwner : Int → Bool} {holds : ShopHandler → Prop}

/-- The handlers of the reports, the statistics and the operators only show
something. -/
theorem forall_staffHandlers
    (start : ∀ handler ∈ ResellerStart.router isOwner, holds handler)
    (orders : ∀ handler ∈ ResellerOrders.router shop, holds handler)
    (catalog : ∀ handler ∈ ResellerCatalog.router shop, holds handler)
    (chargeStock : ∀ handler ∈ ResellerChargeStock.router shop, holds handler)
    (wallet : ∀ handler ∈ ResellerWallet.router shop, holds handler)
    (settings : ∀ handler ∈ ResellerSettings.router shop, holds handler)
    (paymentMethods : ∀ handler ∈ ResellerPaymentMethods.router shop,
      holds handler)
    (shows : ∀ test, holds (onCallback test fun _ => pure ()))
    (lists : ∀ test, holds (onMessage test fun _ => pure ())) :
    ∀ handler ∈ staffHandlers shop isOwner, holds handler := by
  simp only [staffHandlers, ResellerReports.router, ResellerStats.router,
    OperatorOrders.router, List.forall_mem_append, List.forall_mem_cons,
    List.not_mem_nil, false_imp_iff, implies_true, and_true]
  have reports := And.intro (shows (dataIs "rmenu:reports"))
    (shows (dataIs "reports:excel"))
  exact ⟨⟨⟨⟨⟨⟨⟨⟨⟨start, orders⟩, catalog⟩, chargeStock⟩, wallet⟩, settings⟩,
    reports⟩, shows _⟩, paymentMethods⟩, lists _⟩

/-- The routers of the customers follow those of the staff. -/
theorem forall_handlers
    (staff : ∀ handler ∈ staffHandlers shop isOwner, holds handler)
    (customerOrders : ∀ handler ∈ CustomerOrders.router shop, holds handler)
    (customerCharge : ∀ handler ∈ CustomerCharge.router shop, holds handler)
    (customerWallet : ∀ handler ∈ CustomerWallet.router shop, holds handler) :
    ∀ handler ∈ handlers shop isOwner, holds handler := by
  have routers : handlers shop isOwner = staffHandlers shop isOwner ++
      CustomerOrders.router shop ++ CustomerCharge.router shop ++
        CustomerWallet.router shop :=
    rfl
  rw [routers]
  simp only [List.forall_mem_append]
  exact ⟨⟨⟨staff, customerOrders⟩, customerCharge⟩, customerWallet⟩

end Routers

end ShopBot

abbrev ShopWorld := BotWorld ShopState ShopData

namespace ShopWorld

/-- An update comes to the bot. -/
def handle (world : ShopWorld) (shop : Shop) (update : Update) : ShopWorld :=
  world.receive
    (ShopBot.handlers shop fun userId =>
      ShopBot.isResellerOwner shop.resellerId userId world.platform.db)
    update

end ShopWorld

/-- What may happen next: an update comes to the bot, or something else
changes what the bots share, such as another bot. -/
inductive ShopEvent where
  | received (surroundings : Surroundings) (update : Update)
  | elsewhere (change : Platform → Platform)

def ShopEvent.step (settings : ShopSettings) (world : ShopWorld) :
    ShopEvent → ShopWorld
  | .received surroundings update =>
      world.handle ⟨settings, surroundings⟩ update
  | .elsewhere change => { world with platform := change world.platform }

/-- The bots of all resellers: what they share, and the conversations of each
of them. -/
structure ShopsWorld where
  platform : Platform
  conversations : Nat → Int × Int → Conversation ShopState ShopData

/-- An update for one of the bots. -/
structure ShopUpdate where
  shop : Shop
  update : Update

namespace ShopsWorld

/-- The bot of a reseller. -/
def bot (world : ShopsWorld) (resellerId : Nat) : ShopWorld where
  platform := world.platform
  conversations := world.conversations resellerId

def step (world : ShopsWorld) (received : ShopUpdate) : ShopsWorld :=
  let resellerId := received.shop.resellerId
  let after := (world.bot resellerId).handle received.shop received.update
  { platform := after.platform
    conversations :=
      Function.update world.conversations resellerId after.conversations }

end ShopsWorld

section Examples

/-- The bot of the first reseller. -/
def shopSettings : ShopSettings where
  resellerId := 1
  botUsername := "shop_bot"
  config := {}

def shopSurroundings : Surroundings where
  now := 0
  stamp _ := shopStamp "A1B2"
  token := "token"
  hasJoined _ := true
  collate text := text

/-- A customer sends this text. -/
def customerTypes (text : String) : Update :=
  .message { sender := 7, chat := 7, text := some text }

/-- Nobody has talked to the bot yet. -/
def newShopWorld (db : Db) : ShopWorld where
  platform := { db := db }
  conversations _ := { data := ∅ }

/-- Nobody has talked to any bot yet. -/
def newShopsWorld (db : Db) : ShopsWorld where
  platform := { db := db }
  conversations _ _ := { data := ∅ }

end Examples

end Baste
