import Baste.AdminAccess
import Baste.AdminButtons

/-!
# The keyboards of the super admin

What each button of each keyboard is for, by its place in the keyboard, and
that pressing it does what it is for.
-/

namespace Baste

open BotScripts

/-- The keyboards of the super admin's bot, with what they are made from. -/
inductive AdminKeyboard where
  | adminMainMenu
  | backToAdminMenuButton
  | adminResellersSubmenu
  | resellerRowButtons (resellerId : Nat) (status : ResellerStatus)
  | adminWalletSubmenu
  | topupConfirmButton (transactionId : Nat)
  | disputeDecisionButtons (disputeId : Nat)
  | adminFeaturesSubmenu
  | blacklistAddButton
  | adminBackupSubmenu
  | restoreConfirmButtons

namespace AdminKeyboard

def markup : AdminKeyboard → InlineKeyboardMarkup
  | adminMainMenu => Keyboards.adminMainMenu
  | backToAdminMenuButton => Keyboards.backToAdminMenuButton
  | adminResellersSubmenu => Keyboards.adminResellersSubmenu
  | resellerRowButtons resellerId status =>
      Keyboards.resellerRowButtons resellerId status.word.val
  | adminWalletSubmenu => Keyboards.adminWalletSubmenu
  | topupConfirmButton transactionId =>
      Keyboards.topupConfirmButton transactionId
  | disputeDecisionButtons disputeId =>
      Keyboards.disputeDecisionButtons disputeId
  | adminFeaturesSubmenu => Keyboards.adminFeaturesSubmenu
  | blacklistAddButton => Keyboards.blacklistAddButton
  | adminBackupSubmenu => Keyboards.adminBackupSubmenu
  | restoreConfirmButtons => Keyboards.restoreConfirmButtons

/-- The status that the button in a reseller's row asks for. -/
def otherStatus : ResellerStatus → ResellerStatus
  | .active => .suspended
  | .suspended => .active

/-- What the buttons are for. -/
def commands : AdminKeyboard → List (List AdminCommand)
  | adminMainMenu =>
      [[.item .resellers], [.item .wallet], [.item .features],
        [.item .report], [.item .backup]]
  | backToAdminMenuButton => [[.item .home]]
  | adminResellersSubmenu =>
      [[.item .addReseller], [.item .listResellers], [.item .home]]
  | resellerRowButtons resellerId status =>
      [[.toggleReseller resellerId (otherStatus status)],
        [.editCommission resellerId]]
  | adminWalletSubmenu =>
      [[.item .topups], [.item .disputes], [.item .home]]
  | topupConfirmButton transactionId => [[.confirmTopup transactionId]]
  | disputeDecisionButtons disputeId =>
      [[.approveDispute disputeId, .rejectDispute disputeId]]
  | adminFeaturesSubmenu =>
      [[.item .crypto], [.item .blacklist], [.item .broadcast], [.item .home]]
  | blacklistAddButton => [[.item .addToBlacklist]]
  | adminBackupSubmenu =>
      [[.item .takeBackup], [.item .startRestore], [.item .home]]
  | restoreConfirmButtons => [[.confirmRestore, .cancelRestore]]

theorem toggle_data (resellerId : Nat) (status : ResellerStatus) :
    s!"reseller_toggle:{resellerId}" ++ (":" ++ status.word.val) =
      (AdminCommand.toggleReseller resellerId status).data := by
  rw [← String.append_assoc]
  rfl

theorem carries_markup (keyboard : AdminKeyboard) :
    List.Forall₂ (List.Forall₂ fun button command =>
        button.callbackData = AdminCommand.data command)
      keyboard.markup keyboard.commands := by
  cases keyboard with
  | resellerRowButtons resellerId status =>
      have toggles : ∀ toggle ∈ (Keyboards.resellerRowButtons resellerId
          status.word.val).flatten.head?, toggle.callbackData =
            (AdminCommand.toggleReseller resellerId
              (otherStatus status)).data := by
        cases status with
        | active => rintro _ ⟨⟩; exact toggle_data resellerId .suspended
        | suspended => rintro _ ⟨⟩; exact toggle_data resellerId .active
      exact .cons (.cons (toggles _ rfl) .nil) (.cons (.cons rfl .nil) .nil)
  | _ =>
      -- The buttons of the others are listed one by one.
      repeat' first
        | exact .nil
        | apply List.Forall₂.cons
        | exact rfl

end AdminKeyboard

namespace AdminBot

/-- The bot does what a command says for the sender. -/
def obey (environment : AdminEnvironment) (world : AdminWorld)
    (sender chat : Int) (command : AdminCommand) : AdminWorld :=
  let conversation := world.conversations (chat, sender)
  let visit := ((perform environment sender chat conversation.state
    command).runOn ⟨world.platform, conversation⟩).2
  { platform := visit.platform
    conversations := Function.update world.conversations (chat, sender)
      visit.conversation }

variable {environment : AdminEnvironment} {world : AdminWorld}
variable {sender chat : Int} {command : AdminCommand}

theorem obey_of_pure
    (nothing : perform environment sender chat
      (world.conversations (chat, sender)).state command = pure ()) :
    obey environment world sender chat command = world := by
  unfold obey
  dsimp only
  rw [nothing]
  simp

theorem receive_of_dispatch {callback : Callback}
    (isSender : callback.sender = sender) (isChat : callback.chat = chat)
    (found : Handler.dispatch (handlers environment)
        (world.conversations (chat, sender)).state (.callback callback) =
      some (perform environment sender chat
        (world.conversations (chat, sender)).state command)) :
    world.receive (handlers environment) (.callback callback) =
      obey environment world sender chat command := by
  subst isSender isChat
  unfold BotWorld.receive BotWorld.conversationOf
  dsimp only [Update.chat, Update.sender]
  rw [found]
  rfl

/-- The buttons under a summary of a backup. -/
theorem receive_confirmation {text : String}
    {action : Callback → AdminScript Unit}
    (member : onConfirmation text action ∈ handlers environment)
    (listed : text.toList ∈
      ["restore_confirm".toList, "restore_cancel".toList])
    (does : ∀ state, perform environment sender chat state command =
      if state = some .waitingConfirmation then action ⟨sender, chat, text⟩
      else pure ()) :
    world.receive (handlers environment) (.callback ⟨sender, chat, text⟩) =
      obey environment world sender chat command := by
  have found := @dispatch_confirmation environment sender chat _ _
    (world.conversations (chat, sender)).state member listed
  by_cases asked : (world.conversations (chat, sender)).state =
      some .waitingConfirmation
  · rw [if_pos asked] at found
    apply receive_of_dispatch rfl rfl
    rw [found, does, if_pos asked]
  · rw [if_neg asked] at found
    rw [obey_of_pure (by rw [does, if_neg asked])]
    exact BotWorld.receive_of_none found

/-- The data of a command is answered with what the command says. -/
theorem receive_data (environment : AdminEnvironment) (world : AdminWorld)
    (sender chat : Int) (command : AdminCommand) :
    world.receive (handlers environment)
        (.callback ⟨sender, chat, command.data⟩) =
      obey environment world sender chat command := by
  have confirms : confirmRestoreCb environment ∈ handlers environment := by
    simp [handlers, backup]
  have cancels : cancelRestoreCb ∈ handlers environment := by
    simp [handlers, backup]
  by_cases isConfirm : command = .confirmRestore
  · subst isConfirm
    exact receive_confirmation confirms (List.mem_cons_self) fun state => rfl
  · by_cases isCancel : command = .cancelRestore
    · subst isCancel
      exact receive_confirmation cancels
        (List.mem_cons_of_mem _ List.mem_cons_self) fun state => rfl
    · obtain ⟨handler, member, handles⟩ :=
        exists_handles environment sender chat command isConfirm isCancel
      apply receive_of_dispatch rfl rfl
      rw [Handler.dispatch_of_unambiguous unambiguous_callback member
        (handles.takes _), handles.does]

end AdminBot

namespace AdminWorld

/-- A button of a keyboard does what stands at its place, whatever the
conversation is at and whoever presses it.  The two under the summary of a
backup do nothing unless the summary waits for an answer. -/
theorem receive_markup (environment : AdminEnvironment) (world : AdminWorld)
    (sender chat : Int) (keyboard : AdminKeyboard) :
    List.Forall₂ (List.Forall₂ fun button command =>
        world.receive (AdminBot.handlers environment)
            (.callback ⟨sender, chat, button.callbackData⟩) =
          AdminBot.obey environment world sender chat command)
      keyboard.markup keyboard.commands := by
  refine keyboard.carries_markup.imp fun _ _ row => row.imp ?_
  intro button command carries
  rw [carries]
  exact AdminBot.receive_data environment world sender chat command

end AdminWorld

end Baste
