import Baste.AdminDialogue
import Baste.PriceWarnings
import Baste.ShopDialogue
import Baste.TypedNumbers

/-!
# The dialogues of all bots

In no run does a handler look up an answer that its conversation does not
have, as long as the buttons under a warning of a suspicious price are pressed
while the conversation waits for them.
-/

namespace Baste

open BotScripts

namespace ShopBot

variable {state : Option ShopState} {update : Update} {shop : Shop}

/-- A button under a warning is pressed where and while the conversation waits
for it. -/
def PressedInTime (state : Option ShopState) (update : Update) : Prop :=
  ∀ button ∈ ResellerCatalog.warningButtons,
    button.1.takes state update = true → state = some button.2

instance : DecidablePred (PressedInTime state) :=
  fun _ => inferInstanceAs (Decidable (∀ button ∈ _, _ → _))

theorem leavesReady_warningButton {handler : ShopHandler}
    {visit : Visit ShopState ShopData}
    (isButton : handler ∈ ResellerCatalog.warningButtons.map Prod.fst)
    (takes : handler.takes visit.conversation.state update = true)
    (ready : dialogue.Ready visit.conversation)
    (inTime : PressedInTime visit.conversation.state update) :
    dialogue.LeavesReady (handler.action update) visit := by
  obtain ⟨button, listed, rfl⟩ := List.mem_map.mp isButton
  have waits := ready button.2 (inTime button listed takes)
  simp only [ResellerCatalog.warningButtons, List.mem_cons, List.not_mem_nil,
    or_false] at listed
  cases update with
  | message message =>
      rcases listed with rfl | rfl | rfl <;> cases takes
  | callback callback =>
      rcases listed with rfl | rfl | rfl
      · exact ResellerCatalog.prompts_confirmSuspiciousPrice.leavesReady ready
          waits
      · exact ResellerCatalog.prompts_editSuspiciousPrice.leavesReady ready
          waits
      · exact ResellerCatalog.prompts_editAgainSuspiciousPrice.leavesReady
          ready waits

end ShopBot

namespace BotsWorld

/-- All conversations have what their questions need. -/
structure Ready (world : BotsWorld) : Prop where
  admin : world.adminBot.Ready AdminBot.dialogue
  shops : ∀ resellerId,
    (world.shopBots.bot resellerId).Ready ShopBot.dialogue

/-- A button under a warning is pressed in time. -/
def PressedInTime (world : BotsWorld) : BotsEvent → Prop
  | .admin .. => True
  | .shop received => ShopBot.PressedInTime
      ((world.shopBots.bot received.shop.resellerId).conversationOf
        received.update).state received.update

instance (world : BotsWorld) : DecidablePred world.PressedInTime
  | .admin .. => inferInstanceAs (Decidable True)
  | .shop _ => inferInstanceAs (Decidable (ShopBot.PressedInTime _ _))

/-- What the handler of the update raises. -/
def raised (world : BotsWorld) : BotsEvent → Option HandlerError
  | .admin environment update =>
      world.adminBot.raised (AdminBot.handlers environment) update
  | .shop received =>
      let resellerId := received.shop.resellerId
      (world.shopBots.bot resellerId).raised
        (ShopBot.handlers received.shop fun userId =>
          ShopBot.isResellerOwner resellerId userId world.platform.db)
        received.update

variable {world : BotsWorld} {event : BotsEvent}

theorem ready_step (ready : world.Ready)
    (inTime : world.PressedInTime event) :
    world.raised event ≠ some .keyError ∧ (world.step event).Ready := by
  cases event with
  | admin environment update =>
      obtain ⟨finds, after⟩ := @BotWorld.raised_and_ready _ _ _
        (AdminBot.handlers environment) _ world.adminBot update ready.admin
        fun handler member takes =>
          AdminBot.obeys_handlers handler member _ takes (ready.admin _)
      exact ⟨finds, ⟨after, ready.shops⟩⟩
  | shop received =>
      have bot := ready.shops received.shop.resellerId
      obtain ⟨finds, after⟩ := @BotWorld.raised_and_ready _ _ _
        (ShopBot.handlers received.shop fun userId =>
          ShopBot.isResellerOwner received.shop.resellerId userId
            world.platform.db) _
        (world.shopBots.bot received.shop.resellerId) received.update bot
        fun handler member takes => by
          rcases ShopBot.obeys_or_warningButton received.shop _ handler
            member with obeys | isButton
          · exact obeys _ takes (bot _)
          · exact ShopBot.leavesReady_warningButton isButton takes (bot _)
              inTime
      refine ⟨finds, ⟨ready.admin, ?_⟩⟩
      intro resellerId key
      have updated : (world.step (.shop received)).shops =
          Function.update world.shops received.shop.resellerId
            ((world.shopBots.bot received.shop.resellerId).handle
              received.shop received.update).conversations :=
        rfl
      change ShopBot.dialogue.Ready
        ((world.step (.shop received)).shops resellerId key)
      rw [updated, Function.update_apply]
      split
      · exact after key
      · exact ready.shops resellerId key

/-- No handler ever raises `KeyError` for an answer that was not given, in no
run of all bots in which the buttons under the warnings of suspicious prices
are pressed in time. -/
theorem answers_found (world : BotsWorld) (ready : world.Ready)
    (events : List BotsEvent)
    (inTime : StepRuns.Along step PressedInTime world events) :
    StepRuns.Along step (fun world event =>
      world.raised event ≠ some .keyError) world events :=
  (StepRuns.along_of_guarded Ready _
    (fun _ _ ready inTime => ready_step ready inTime) ready inTime).1

theorem ready_newBotsWorld (db : Db) : (newBotsWorld db).Ready where
  admin _ := Dialogue.ready_start
  shops _ _ := Dialogue.ready_start

/-- The reseller adds a package.  The bot warns of its price, the reseller
presses the button for another price and enters one. -/
def correctsPrice : List BotsEvent :=
  [.shop (ownerTaps "catalog:pick_category:package:2"),
    .shop (ownerTypes "7 GB"), .shop (ownerTypes "10000"),
    .shop (ownerTaps "price_edit:token"), .shop (ownerTypes "65000"),
    .shop (ownerTypes "60000")]

theorem answers_found_correctsPrice :
    StepRuns.Along step (fun world event =>
      world.raised event ≠ some .keyError) (newBotsWorld PricedWorld.pricingDb)
        correctsPrice :=
  answers_found _ (ready_newBotsWorld PricedWorld.pricingDb) _
    ⟨by decide +kernel, by decide +kernel, by decide +kernel,
      by decide +kernel, by decide +kernel, by decide +kernel, trivial⟩

/-- A stray press leads to a question that nobody can answer. -/
example :
    let world := StepRuns.final step (newBotsWorld PricedWorld.pricingDb)
      [.shop (ownerTaps "price_edit:token")]
    world.raised (.shop (ownerTypes "65000")) = some .keyError := by
  decide +kernel

end BotsWorld

end Baste
