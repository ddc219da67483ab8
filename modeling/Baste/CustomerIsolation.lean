import Baste.OrderParties
import Baste.OwnHandlers

/-!
# What a customer cannot touch

Whatever somebody who is not of the staff of a shop sends to its bot, in
whatever order and whatever happens in between: the orders, top-ups and
balances of all others stay as they are, and nothing is decided about the
sender's own top-ups.
-/

namespace Baste

open BotScripts Database

namespace ShopWorld

variable {world : ShopWorld} {shop : Shop} {update : Update}

/-- The bot serves whoever is not of the staff. -/
theorem served_handle
    (stranger : ShopBot.isStaff shop.resellerId update.sender
      world.platform.db = false)
    (own : OwnConversation shop.resellerId update.sender world.platform.db
      (world.conversationOf update)) (others : Nat → Prop) :
    Served shop.resellerId update.sender others world.platform.db
      ⟨(world.handle shop update).platform,
        (world.handle shop update).conversationOf update⟩ := by
  have start : Served shop.resellerId update.sender others world.platform.db
      ⟨world.platform, world.conversationOf update⟩ :=
    ⟨Std.Refl.refl _, own⟩
  unfold handle
  cases found : Handler.dispatch (ShopBot.handlers shop fun userId =>
      ShopBot.isResellerOwner shop.resellerId userId world.platform.db)
      (world.conversationOf update).state update with
  | none =>
      rw [BotWorld.receive_of_none found]
      exact start
  | some script =>
      rw [BotWorld.visit_receive found]
      obtain ⟨handler, member, takes, rfl⟩ := Handler.exists_of_dispatch found
      exact ShopBot.minds_handlers shop _ handler member update others _ _
        stranger takes start

end ShopWorld

namespace BotsWorld

/-- No backup is restored, and the user is not of the staff of the shop when
an update comes from the user. -/
def StaysStranger (resellerId : Nat) (userId : Int) (world : BotsWorld)
    (event : BotsEvent) : Prop :=
  ¬ world.Restores event ∧ (IsFrom resellerId userId event →
    ShopBot.isStaff resellerId userId world.platform.db = false)

instance (resellerId : Nat) (userId : Int) (world : BotsWorld) :
    DecidablePred (world.StaysStranger resellerId userId) :=
  fun _ => inferInstanceAs (Decidable (_ ∧ _))

/-- The conversations of the user with the bot are about what is the user's
own. -/
def TalksAboutOwn (resellerId : Nat) (userId : Int) (world : BotsWorld) :
    Prop :=
  ∀ chat, OwnConversation resellerId userId world.platform.db
    (world.shops resellerId (chat, userId))

/-- If the update is the user's, it leaves the records of others alone. -/
def LeavesOthers (resellerId : Nat) (userId : Int) (world : BotsWorld)
    (event : BotsEvent) : Prop :=
  IsFrom resellerId userId event →
    SparesOthers resellerId userId world.platform.db
      (world.step event).platform.db

variable {world : BotsWorld} {event : BotsEvent}
variable {resellerId : Nat} {userId : Int}

/-- A conversation of which the update is no part stays. -/
theorem shops_step_of_ne {chat : Int}
    (other : ∀ received, event = .shop received →
      received.shop.resellerId = resellerId →
        (received.update.chat, received.update.sender) ≠ (chat, userId)) :
    (world.step event).shops resellerId (chat, userId) =
      world.shops resellerId (chat, userId) := by
  cases event with
  | admin => rfl
  | shop received =>
      have updated : (world.step (.shop received)).shops =
          Function.update world.shops received.shop.resellerId
            ((world.shopBots.bot received.shop.resellerId).handle
              received.shop received.update).conversations :=
        rfl
      rw [updated, Function.update_apply]
      split
      · next same =>
        subst same
        have elsewhere := other received rfl rfl
        unfold ShopWorld.handle
        rw [BotWorld.conversations_receive_of_ne (Ne.symm elsewhere)]
        rfl
      · rfl

theorem served_step {received : ShopUpdate}
    (ofUser : IsFrom resellerId userId (.shop received))
    (stranger : ShopBot.isStaff resellerId userId world.platform.db = false)
    (own : world.TalksAboutOwn resellerId userId) (others : Nat → Prop) :
    Served resellerId userId others world.platform.db
      ⟨(world.step (.shop received)).platform,
        (world.step (.shop received)).shops resellerId
          (received.update.chat, userId)⟩ := by
  obtain ⟨rfl, rfl⟩ := ofUser
  have served := @ShopWorld.served_handle
    (world.shopBots.bot received.shop.resellerId) received.shop
    received.update stranger (own received.update.chat) others
  have updated : (world.step (.shop received)).shops
      received.shop.resellerId =
        ((world.shopBots.bot received.shop.resellerId).handle received.shop
          received.update).conversations :=
    Function.update_self _ _ _
  rw [updated]
  exact served

theorem talksAboutOwn_step (own : world.TalksAboutOwn resellerId userId)
    (stranger : world.StaysStranger resellerId userId event) :
    world.LeavesOthers resellerId userId event ∧
      (world.step event).TalksAboutOwn resellerId userId := by
  constructor
  · intro ofUser
    cases event with
    | admin => exact ofUser.elim
    | shop received =>
        exact (served_step ofUser (stranger.2 ofUser) own _).spares.sparesOthers
  · intro chat
    by_cases here : ∃ received, event = .shop received ∧
        IsFrom resellerId userId event ∧ received.update.chat = chat
    · obtain ⟨received, rfl, ofUser, rfl⟩ := here
      exact (served_step ofUser (stranger.2 ofUser) own fun _ => True).own
    · have stays : (world.step event).shops resellerId (chat, userId) =
          world.shops resellerId (chat, userId) := by
        apply shops_step_of_ne
        rintro received rfl ofShop same
        obtain ⟨sameChat, sameUser⟩ := Prod.mk.inj same
        exact here ⟨received, rfl, ⟨ofShop, sameUser⟩, sameChat⟩
      rw [stays]
      exact (own chat).retained (keepsOwners_step stranger.1)

/-- In every run of all bots without a restore, no update from somebody who is
not of the staff of the shop touches an order, a top-up or the balance of
anybody else, decides about a top-up, or changes an entry of the ledger, a
dispute, a referral or a ban. -/
theorem strangers_spare_others (resellerId : Nat) (userId : Int)
    (world : BotsWorld) (own : world.TalksAboutOwn resellerId userId)
    (events : List BotsEvent)
    (stranger : StepRuns.Along step (StaysStranger resellerId userId) world
      events) :
    StepRuns.Along step (LeavesOthers resellerId userId) world events :=
  (StepRuns.along_of_guarded (TalksAboutOwn resellerId userId) _
    (fun _ _ own stranger => talksAboutOwn_step own stranger) own stranger).1

theorem talksAboutOwn_newBotsWorld (db : Db) :
    (newBotsWorld db).TalksAboutOwn resellerId userId :=
  fun _ => ownConversation_start (by decide)

/-- A shop with two customers, each of whom has asked for a top-up. -/
def twoCustomersDb : Db :=
  .filled fun
    | .resellers => [shopReseller]
    | .customers => [shopCustomer, { shopCustomer with telegramUserId := 8 }]
    | .customerWalletTopups =>
        [{ resellerId := 1, customerId := 1, amount := 500, method := .card },
          { resellerId := 1, customerId := 2, amount := 700, method := .card }]
    | _ => []

/-- The first customer sends this text. -/
def customerSends (text : String) : BotsEvent :=
  .shop ⟨⟨shopSettings, shopSurroundings⟩, customerTypes text⟩

/-- The first customer comes with a link of the second, and both the customer
and the owner press the button that confirms a top-up. -/
def pressesConfirm : List BotsEvent :=
  [customerSends "/start ref_2",
    .shop ⟨⟨shopSettings, shopSurroundings⟩,
      .callback ⟨7, 7, "wallet_topup_confirm:2"⟩⟩,
    .shop (ownerTaps "wallet_topup_confirm:2"),
    customerSends ShopBot.customerWalletButtonText]

theorem strangers_spare_others_pressesConfirm :
    StepRuns.Along step (LeavesOthers 1 7) (newBotsWorld twoCustomersDb)
      pressesConfirm :=
  strangers_spare_others 1 7 _ (talksAboutOwn_newBotsWorld twoCustomersDb) _
    (by decide +kernel)

/-- Only the press of the owner counts. -/
example :
    let world := newBotsWorld twoCustomersDb
    let pressed := StepRuns.final step world (pressesConfirm.take 2)
    let confirmed := StepRuns.final step world (pressesConfirm.take 3)
    walletBalance pressed.platform.db 2 = 2000 ∧
      walletBalance confirmed.platform.db 2 = 2700 := by
  decide +kernel

end BotsWorld

end Baste
