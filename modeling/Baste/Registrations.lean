import Baste.AdminButtons
import Baste.ShopButtons
import Baste.TypedNumbers

/-!
# The order of registration

A dispatcher asks its handlers in the order in which they were registered.
The order matters between handlers of messages only: of the handlers of
callback queries, at most one takes an update.
-/

namespace Baste

open BotScripts

section Order

variable {State Data : Type}

/-- The handler takes some message in some state. -/
def HearsMessages (handler : BotHandler State Data) : Prop :=
  ∃ state message, handler.takes state (.message message) = true

/-- The handlers are not both handlers of messages. -/
def MayPass (first second : BotHandler State Data) : Prop :=
  HearsMessages first → ¬ HearsMessages second

theorem not_hearsMessages_onCallback {test : Option State → String → Bool}
    {action : Callback → BotScript State Data Unit} :
    ¬ HearsMessages (onCallback test action) := by
  rintro ⟨state, message, takes⟩
  cases takes

variable {handlers other : List (BotHandler State Data)}
variable {state : Option State} {update : Update}

/-- Handlers of callback queries may stand anywhere. -/
theorem dispatch_reordered
    (reordered : Handler.Reordered MayPass handlers other)
    (unambiguous : ∀ callback,
      Handler.Unambiguous handlers state (.callback callback)) :
    Handler.dispatch other state update =
      Handler.dispatch handlers state update := by
  cases update with
  | callback callback =>
      exact Handler.dispatch_perm (unambiguous callback) reordered.perm
  | message message =>
      apply reordered.dispatch_eq
      intro first second passes takesFirst
      rw [← Bool.not_eq_true]
      intro takesSecond
      exact passes ⟨state, message, takesFirst⟩ ⟨state, message, takesSecond⟩

theorem receive_reordered {world : BotWorld State Data}
    (reordered : Handler.Reordered MayPass handlers other)
    (unambiguous : ∀ callback, Handler.Unambiguous handlers
      (world.conversationOf update).state (.callback callback)) :
    world.receive other update = world.receive handlers update := by
  have sameHandler := @dispatch_reordered _ _ _ _
    (world.conversationOf update).state update reordered unambiguous
  unfold BotWorld.receive
  dsimp only
  rw [sameHandler]

end Order

/-- Lists of handlers for the dispatchers of both kinds of bots.  Handlers of
messages stand in the order of the program. -/
structure Registration where
  admin : AdminEnvironment → List AdminHandler
  shop : Shop → (Int → Bool) → List ShopHandler
  reordered_admin : ∀ environment,
    Handler.Reordered MayPass (AdminBot.handlers environment)
      (admin environment)
  reordered_shop : ∀ received isOwner,
    Handler.Reordered MayPass (ShopBot.handlers received isOwner)
      (shop received isOwner)

namespace Registration

/-- An update comes to a bot whose handlers are registered so. -/
def step (registration : Registration) (world : BotsWorld) :
    BotsEvent → BotsWorld
  | .admin environment update =>
      let after := world.adminBot.receive (registration.admin environment)
        update
      { platform := after.platform
        admin := after.conversations
        shops := world.shops }
  | .shop received =>
      let resellerId := received.shop.resellerId
      let bot := world.shopBots.bot resellerId
      let after := bot.receive
        (registration.shop received.shop fun userId =>
          ShopBot.isResellerOwner resellerId userId bot.platform.db)
        received.update
      { platform := after.platform
        admin := world.admin
        shops := Function.update world.shops resellerId after.conversations }

theorem step_eq (registration : Registration) (world : BotsWorld)
    (event : BotsEvent) : registration.step world event = world.step event := by
  cases event with
  | admin environment update =>
      have same := @receive_reordered _ _ _ _ update world.adminBot
        (registration.reordered_admin environment)
        fun _ => AdminBot.unambiguous_callback
      unfold step
      dsimp only
      rw [same]
      rfl
  | shop received =>
      have same := @receive_reordered _ _ _ _ received.update
        (world.shopBots.bot received.shop.resellerId)
        (registration.reordered_shop received.shop fun userId =>
          ShopBot.isResellerOwner received.shop.resellerId userId
            world.platform.db)
        fun _ => ShopBot.unambiguous_callback
      unfold step
      dsimp only
      rw [show (world.shopBots.bot received.shop.resellerId).platform =
        world.platform from rfl, same]
      rfl

section Example

variable (received : Shop) (isOwner : Int → Bool)

def routersBeforeStats : List ShopHandler :=
  ShopBot.ResellerStart.router isOwner ++
    ShopBot.ResellerOrders.router received ++
    ShopBot.ResellerCatalog.router received ++
    ShopBot.ResellerChargeStock.router received ++
    ShopBot.ResellerWallet.router received ++
    ShopBot.ResellerSettings.router received ++
    ShopBot.ResellerReports.router

def routersAfterStats : List ShopHandler :=
  ShopBot.ResellerPaymentMethods.router received ++
    ShopBot.OperatorOrders.router received ++
    ShopBot.CustomerOrders.router received ++
    ShopBot.CustomerCharge.router received ++
    ShopBot.CustomerWallet.router received

/-- The statistics of a reseller may be registered last. -/
def statsLast : Registration where
  admin := AdminBot.handlers
  shop received isOwner := routersBeforeStats received isOwner ++
    (routersAfterStats received ++ [ShopBot.ResellerStats.showStatsCb])
  reordered_admin _ := .refl _
  reordered_shop received isOwner := by
    have passes : ∀ other ∈ routersAfterStats received,
        MayPass ShopBot.ResellerStats.showStatsCb other :=
      fun _ _ hears => absurd hears not_hearsMessages_onCallback
    have moved := (Handler.Reordered.move passes []).append_left
      (routersBeforeStats received isOwner)
    simpa [ShopBot.handlers, ShopBot.ResellerStats.router, routersBeforeStats,
      routersAfterStats] using moved

end Example

/-- As long as the handlers of messages stay in their order, no run of all
bots depends on where the handlers of callback queries are registered. -/
theorem final_eq (registration : Registration) (world : BotsWorld)
    (events : List BotsEvent) :
    StepRuns.final registration.step world events =
      StepRuns.final BotsWorld.step world events := by
  have same : registration.step = BotsWorld.step := by
    funext world event
    exact registration.step_eq world event
  rw [same]

/-- The super admin and the owner of a shop enter percentages, and the owner
opens the statistics. -/
theorem final_eq_statsLast :
    let events := entersPercents "10" ++
      [.shop ⟨⟨shopSettings, shopSurroundings⟩,
        .callback ⟨1001, 1001, "rmenu:stats"⟩⟩]
    StepRuns.final statsLast.step (newBotsWorld resellerDb) events =
      StepRuns.final BotsWorld.step (newBotsWorld resellerDb) events :=
  final_eq statsLast (newBotsWorld resellerDb) _

end Registration

end Baste
