import Baste.AdminAccess
import Baste.AdminNumbers
import Baste.ShopNumbers

/-!
# Runs with typed numbers

The bot of the super admin and the bots of all resellers, whose users type
numbers.  The handlers check one range only: a number that is none of its
column is stored all the same.  In runs in which the answers are in range, all
numbers stay in their ranges, no answer makes a handler raise, and what may be
entered may be edited to and the other way round.
-/

namespace Baste

open BotScripts Database NumericQuestion

/-- The bot of the super admin and the bots of all resellers: what they share,
and the conversations of each of them. -/
structure BotsWorld where
  platform : Platform
  admin : Int × Int → Conversation AdminState AdminData
  shops : Nat → Int × Int → Conversation ShopState ShopData

/-- An update for one of the bots. -/
inductive BotsEvent where
  | admin (environment : AdminEnvironment) (update : Update)
  | shop (received : ShopUpdate)

namespace BotsWorld

/-- The bot of the super admin. -/
def adminBot (world : BotsWorld) : AdminWorld where
  platform := world.platform
  conversations := world.admin

/-- The bots of the resellers. -/
def shopBots (world : BotsWorld) : ShopsWorld where
  platform := world.platform
  conversations := world.shops

def step (world : BotsWorld) : BotsEvent → BotsWorld
  | .admin environment update =>
      let after :=
        world.adminBot.receive (AdminBot.handlers environment) update
      { platform := after.platform
        admin := after.conversations
        shops := world.shops }
  | .shop received =>
      let after := world.shopBots.step received
      { platform := after.platform
        admin := world.admin
        shops := after.conversations }

/-- What the super admin's bot works on when the update comes. -/
def adminVisit (world : BotsWorld) (update : Update) :
    Visit AdminState AdminData where
  platform := world.platform
  conversation := world.adminBot.conversationOf update

/-- What a reseller's bot works on when the update comes. -/
def shopVisit (world : BotsWorld) (received : ShopUpdate) :
    Visit ShopState ShopData where
  platform := world.platform
  conversation :=
    (world.shopBots.bot received.shop.resellerId).conversationOf
      received.update

/-- The numbers are in their ranges, wherever they are. -/
structure InRange (world : BotsWorld) : Prop where
  admin : ∀ key, NumbersInRange AdminBot.NumbersOf
    ⟨world.platform, world.admin key⟩
  shops : ∀ resellerId key, NumbersInRange ShopBot.NumbersOf
    ⟨world.platform, world.shops resellerId key⟩

/-- The numbers that people type and those in the files that they restore are
in their ranges. -/
def AnswersInRange (world : BotsWorld) : BotsEvent → Prop
  | .admin environment update =>
      let visit := world.adminVisit update
      (∀ question ∈ AdminBot.numericQuestions,
        question.AnsweredInRange visit.conversation.state update) ∧
      ((AdminBot.confirmRestoreCb environment).takes visit.conversation.state
          update = true →
        AdminBot.RestoresInRange environment visit)
  | .shop received =>
      ∀ question ∈ ShopBot.numericQuestions received.shop,
        question.AnsweredInRange (world.shopVisit received).conversation.state
          received.update

/-- The answer to a question for a number does not make its handler raise, and
the questions for a new number and for another one admit the same answers. -/
def TakesNumbers (world : BotsWorld) : BotsEvent → Prop
  | .admin _ update =>
      let visit := world.adminVisit update
      (∀ question ∈ AdminBot.numericQuestions,
        question.RaisesAnyway visit update) ∧
      AdminBot.commissionQuestion.AdmitsAlike AdminBot.newCommissionQuestion
        visit.conversation.state update
  | .shop received =>
      let visit := world.shopVisit received
      (∀ question ∈ ShopBot.numericQuestions received.shop,
        question.RaisesAnyway visit received.update) ∧
      (ShopBot.priceQuestion received.shop).AdmitsAlike
        (ShopBot.priceEditQuestion received.shop) visit.conversation.state
        received.update ∧
      (ShopBot.costPriceQuestion received.shop).AdmitsAlike
        ShopBot.costEditQuestion visit.conversation.state received.update

/-- The step takes numbers as it should and leaves all numbers of the database
in their ranges. -/
def KeepsNumbers (world : BotsWorld) (event : BotsEvent) : Prop :=
  world.TakesNumbers event ∧ RowsInRange (world.step event).platform.db

end BotsWorld

namespace BotsWorld

variable {world : BotsWorld} {event : BotsEvent}

theorem takesNumbers_of_answersInRange
    (answers : world.AnswersInRange event) : world.TakesNumbers event := by
  cases event with
  | admin environment update =>
      obtain ⟨answered, -⟩ := answers
      have takes := AdminBot.takesNumbers_of_mem
      constructor
      · intro question member
        exact (takes question member).raisesAnyway (answered question member)
      · exact AdminBot.takesNumbers_commission.admitsAlike
          AdminBot.takesNumbers_newCommission rfl rfl
          (answered _ (by simp [AdminBot.numericQuestions]))
          (answered _ (by simp [AdminBot.numericQuestions]))
  | shop received =>
      have takes := @ShopBot.takesNumbers_of_mem received.shop
      refine ⟨?_, ?_, ?_⟩
      · intro question member
        exact (takes question member).raisesAnyway (answers question member)
      · exact ShopBot.takesNumbers_price.admitsAlike
          ShopBot.takesNumbers_priceEdit rfl rfl
          (answers _ (by simp [ShopBot.numericQuestions]))
          (answers _ (by simp [ShopBot.numericQuestions]))
      · exact ShopBot.takesNumbers_costPrice.admitsAlike
          ShopBot.takesNumbers_costEdit rfl rfl
          (answers _ (by simp [ShopBot.numericQuestions]))
          (answers _ (by simp [ShopBot.numericQuestions]))

theorem inRange_of_admin {reached : AdminWorld} (inRange : world.InRange)
    (after : ∀ key, NumbersInRange AdminBot.NumbersOf
      ⟨reached.platform, reached.conversations key⟩) :
    InRange ⟨reached.platform, reached.conversations, world.shops⟩ where
  admin := after
  shops resellerId key :=
    (after key).with_conversation (inRange.shops resellerId key).data

theorem inRange_of_shop {resellerId : Nat} {reached : ShopWorld}
    (inRange : world.InRange)
    (after : ∀ key, NumbersInRange ShopBot.NumbersOf
      ⟨reached.platform, reached.conversations key⟩) :
    InRange ⟨reached.platform, world.admin,
      Function.update world.shops resellerId reached.conversations⟩ where
  admin key := (after key).with_conversation (inRange.admin key).data
  shops other key := by
    apply (after key).with_conversation
    dsimp only
    rw [Function.update_apply]
    split_ifs
    · exact (after key).data
    · exact (inRange.shops other key).data

theorem inRange_step (inRange : world.InRange)
    (answers : world.AnswersInRange event) : (world.step event).InRange := by
  cases event with
  | admin environment update =>
      obtain ⟨answered, restores⟩ := answers
      apply inRange_of_admin inRange
      apply BotWorld.numbersInRange_receive inRange.admin
      intro handler member takes
      exact AdminBot.numbersInRange_of_takes member takes answered restores
        (inRange.admin _)
  | shop received =>
      apply inRange_of_shop inRange
      apply BotWorld.numbersInRange_receive
        (inRange.shops received.shop.resellerId)
      intro handler member takes
      exact ShopBot.numbersInRange_of_takes member takes answers
        (inRange.shops _ _)

end BotsWorld

section Examples

variable {environment : AdminEnvironment} {world : BotsWorld} {shop : Shop}

theorem answersInRange_admin_callback {callback : Callback}
    (other : callback.data ≠ "restore_confirm") :
    world.AnswersInRange (.admin environment (.callback callback)) := by
  constructor
  · exact fun question _ => answeredInRange_callback
  · intro takes
    have confirms := (Bool.and_eq_true _ _).mp takes
    exact absurd (of_decide_eq_true confirms.2) other

theorem answersInRange_admin_message {message : Message} {text : String}
    (isText : message.text = some text)
    (inRange : ∀ question ∈ AdminBot.numericQuestions,
      question.InRange text) :
    world.AnswersInRange (.admin environment (.message message)) := by
  constructor
  · exact fun question member =>
      answeredInRange_message isText (inRange question member)
  · intro takes
    cases takes

theorem answersInRange_shop_callback {callback : Callback} :
    world.AnswersInRange (.shop ⟨shop, .callback callback⟩) :=
  fun _ _ => answeredInRange_callback

theorem answersInRange_shop_message {message : Message} {text : String}
    (isText : message.text = some text)
    (inRange : ∀ question ∈ ShopBot.numericQuestions shop,
      question.InRange text) :
    world.AnswersInRange (.shop ⟨shop, .message message⟩) :=
  fun question member =>
    answeredInRange_message isText (inRange question member)

/-- Nobody has talked to any bot yet. -/
def newBotsWorld (db : Db) : BotsWorld where
  platform := { db := db }
  admin _ := { data := ∅ }
  shops _ _ := { data := ∅ }

theorem inRange_newBotsWorld {db : Db} (rows : RowsInRange db) :
    (newBotsWorld db).InRange where
  admin _ := ⟨rows, nofun, nofun, AdminBot.numbersOf_empty⟩
  shops _ _ := ⟨rows, nofun, nofun, ShopBot.numbersOf_empty⟩

/-- One reseller without anything to sell. -/
def resellerDb : Db :=
  .filled fun
    | .resellers => [shopReseller]
    | _ => []

theorem rowsInRange_resellerDb : RowsInRange resellerDb := by
  intro name id row found
  have member := KeyedTable.mem_of_row_ofRows found
  cases name with
  | resellers =>
      cases List.mem_singleton.mp member
      exact ⟨⟨by decide, by decide⟩, by decide⟩
  | _ => cases member

/-- The super admin enters another commission, and the reseller the percentage
of referrals. -/
def entersPercents (text : String) : List BotsEvent :=
  [.admin plainAdminEnvironment
      (.callback ⟨1, 1, "reseller_edit_commission:1"⟩),
    .admin plainAdminEnvironment
      (.message { sender := 1, chat := 1, text := some text }),
    .shop ⟨⟨shopSettings, shopSurroundings⟩,
      .callback ⟨1001, 1001, "settings:referral_percent"⟩⟩,
    .shop ⟨⟨shopSettings, shopSurroundings⟩,
      .message { sender := 1001, chat := 1001, text := some text }⟩]

end Examples

end Baste
