import Baste.AdminBot
import Baste.Dialogues

/-!
# The dialogue of the super admin

What the questions of the admin panel need of the earlier answers, and that
the handlers of the panel always find it.
-/

namespace Baste

namespace AdminBot

open BotScripts Dialogue

inductive AdminKey where
  | botToken
  | telegramNumericId
  | commissionPercent
  | creditLimitNegative
  | editResellerId
  | coin
  | address
  | network
  | telegramId
  | restoreFilepath
  deriving DecidableEq

/-- The key is in the data. -/
def isKeySet (data : AdminData) : AdminKey → Bool
  | .botToken => data.botToken.isSome
  | .telegramNumericId => data.telegramNumericId.isSome
  | .commissionPercent => data.commissionPercent.isSome
  | .creditLimitNegative => data.creditLimitNegative.isSome
  | .editResellerId => data.editResellerId.isSome
  | .coin => data.coin.isSome
  | .address => data.address.isSome
  | .network => data.network.isSome
  | .telegramId => data.telegramId.isSome
  | .restoreFilepath => data.restoreFilepath.isSome

def dialogue : Dialogue AdminState AdminData AdminKey where
  isSet := isKeySet
  needs
    | .enteringTelegramId => [.botToken]
    | .enteringCommissionPercent => [.botToken, .telegramNumericId]
    | .enteringCreditLimit =>
        [.botToken, .telegramNumericId, .commissionPercent]
    | .enteringOrderPrefix =>
        [.botToken, .telegramNumericId, .commissionPercent,
          .creditLimitNegative]
    | .enteringNewCommissionPercent => [.editResellerId]
    | .enteringAddress => [.coin]
    | .enteringNetwork => [.coin, .address]
    | .enteringPrice => [.coin, .address, .network]
    | .enteringBlacklistReason => [.telegramId]
    | .waitingConfirmation => [.restoreFilepath]
    | _ => []

variable {update : Update} {environment : AdminEnvironment}
variable {known : List AdminKey}

section Questions

theorem obeys_telegramIdQuestion {question next : AdminState}
    {key : AdminKey} {change : Int → AdminData → AdminData}
    (stores : ∀ id, dialogue.Stores question next key (change id)) :
    dialogue.Obeys (onMessage (inState question) fun message => do
      match readTelegramId (← strippedText message) with
      | none => pure ()
      | some id =>
          updateData (change id)
          setState next) update := by
  apply obeys_inState
  intro message
  refine prompts_after (aside_strippedText message) fun text => ?_
  cases readTelegramId text with
  | none => exact prompts_pure ()
  | some id => exact (stores id).prompts

end Questions

section ResellerManagement

theorem prompts_cancel :
    dialogue.Prompts known (do
      if (← getState).isSome then clear : AdminScript Unit) := by
  refine prompts_after aside_getState fun state => ?_
  exact prompts_ite prompts_clear (prompts_pure ())

theorem obeys_receiveOrderPrefixAndSave :
    dialogue.Obeys (receiveOrderPrefixAndSave environment) update := by
  apply obeys_inState
  intro message
  refine prompts_getData_bind fun data has => ?_
  refine prompts_after (aside_strippedText _) fun text => ?_
  dsimp only
  cases data.botToken.bind fun token =>
    (environment.getMe token).map (token, ·) with
  | none => exact prompts_clear
  | some found =>
      refine prompts_required_bind (has .telegramNumericId (by decide))
        fun telegramNumericId => ?_
      refine prompts_required_bind (has .commissionPercent (by decide))
        fun commissionPercent => ?_
      refine prompts_required_bind (has .creditLimitNegative (by decide))
        fun creditLimit => ?_
      refine prompts_after (aside_storedAmount _) fun percent => ?_
      refine prompts_after (aside_storedAmount _) fun limit => ?_
      exact prompts_after aside_executeInsert fun _ => prompts_clear

theorem obeys_toggleResellerStatus :
    dialogue.Obeys toggleResellerStatus update := by
  apply obeys_onCallback
  intro callback
  split
  · refine prompts_after (aside_required (by decide) _) fun resellerId => ?_
    refine prompts_after (aside_required (by decide) _) fun status => ?_
    exact prompts_of_aside (aside_executeWrite _)
  · exact prompts_throw (by decide)

theorem obeys_startEditCommission :
    dialogue.Obeys startEditCommission update := by
  apply obeys_onCallback
  intro callback
  refine prompts_after (aside_integerField _ _) fun resellerId => ?_
  refine prompts_after (aside_query _) fun reseller => ?_
  have grows : dialogue.Grows fun data =>
      { data with editResellerId := some resellerId } := by
    intro data key isSet
    cases key <;> first | exact isSet | rfl
  have asks := @prompts_nextQuestion _ _ _ dialogue [] _ [.editResellerId]
    .enteringNewCommissionPercent grows (fun _ => has_singleton.mpr rfl)
    (by decide)
  exact prompts_ite asks (prompts_pure ())

theorem obeys_receiveNewCommissionAndSave :
    dialogue.Obeys receiveNewCommissionAndSave update := by
  apply obeys_inState
  intro message
  refine prompts_after (aside_textOf _) fun text => ?_
  split
  · exact prompts_pure ()
  · exact prompts_pure ()
  · exact prompts_throw (by decide)
  · apply prompts_ite
    · exact prompts_pure ()
    · refine prompts_getData_bind fun data has => ?_
      refine prompts_required_bind (has .editResellerId (by decide))
        fun resellerId => ?_
      exact prompts_after (aside_executeWrite _) fun _ => prompts_clear

theorem stores_botToken (token : String) :
    dialogue.Stores .enteringBotToken .enteringTelegramId .botToken
      ({ · with botToken := some token }) where
  grows _ key isSet := by cases key <;> first | exact isSet | rfl
  sets _ := rfl
  inside := by decide

theorem stores_telegramNumericId (id : Int) :
    dialogue.Stores .enteringTelegramId .enteringCommissionPercent
      .telegramNumericId ({ · with telegramNumericId := some id }) where
  grows _ key isSet := by cases key <;> first | exact isSet | rfl
  sets _ := rfl
  inside := by decide

theorem stores_commissionPercent (percent : Numerals.Decimal) :
    dialogue.Stores .enteringCommissionPercent .enteringCreditLimit
      .commissionPercent ({ · with commissionPercent := some percent }) where
  grows _ key isSet := by cases key <;> first | exact isSet | rfl
  sets _ := rfl
  inside := by decide

theorem stores_creditLimitNegative (limit : Numerals.Decimal) :
    dialogue.Stores .enteringCreditLimit .enteringOrderPrefix
      .creditLimitNegative
      ({ · with creditLimitNegative := some limit }) where
  grows _ key isSet := by cases key <;> first | exact isSet | rfl
  sets _ := rfl
  inside := by decide

theorem obeys_resellerManagement :
    ∀ handler ∈ resellerManagement environment,
      dialogue.Obeys handler update := by
  simp only [resellerManagement, List.forall_mem_cons, List.not_mem_nil,
    false_imp_iff, implies_true, and_true]
  have answers : ∀ callback : Callback, dialogue.Prompts []
      (answerDocument callback.chat .platformReport) :=
    fun _ => prompts_of_aside (aside_modify fun _ => rfl)
  exact ⟨obeys_onMessage fun _ => prompts_pure (), obeys_onCallback_pure,
    obeys_onMessage fun _ => prompts_cancel, obeys_onCallback_pure,
    obeys_ask (by decide), obeys_textQuestion stores_botToken,
    obeys_telegramIdQuestion stores_telegramNumericId,
    obeys_decimalQuestion stores_commissionPercent,
    obeys_decimalQuestion stores_creditLimitNegative,
    obeys_receiveOrderPrefixAndSave, obeys_onCallback_pure,
    obeys_toggleResellerStatus, obeys_startEditCommission,
    obeys_receiveNewCommissionAndSave, obeys_onCallback answers⟩

end ResellerManagement

theorem obeys_walletAndDisputes :
    ∀ handler ∈ walletAndDisputes, dialogue.Obeys handler update := by
  simp only [walletAndDisputes, List.forall_mem_cons, List.not_mem_nil,
    false_imp_iff, implies_true, and_true]
  have decides : ∀ (service : Nat → ServiceCall) (callback : Callback),
      dialogue.Prompts [] (do
        let number ← integerField callback 1
        let _ ← call (service (rowId number)) : AdminScript Unit) :=
    fun _ _ => prompts_of_aside aside_numberedCall
  exact ⟨obeys_onCallback_pure, obeys_onCallback_pure,
    obeys_onCallback (decides .confirmTopup), obeys_onCallback_pure,
    obeys_onCallback (decides .approveDispute),
    obeys_onCallback (decides .rejectDispute)⟩

section FeaturesAndSettings

theorem stores_coin (coin : String) :
    dialogue.Stores .enteringCoin .enteringAddress .coin
      ({ · with coin := some coin }) where
  grows _ key isSet := by cases key <;> first | exact isSet | rfl
  sets _ := rfl
  inside := by decide

theorem stores_address (address : String) :
    dialogue.Stores .enteringAddress .enteringNetwork .address
      ({ · with address := some address }) where
  grows _ key isSet := by cases key <;> first | exact isSet | rfl
  sets _ := rfl
  inside := by decide

theorem stores_network (network : String) :
    dialogue.Stores .enteringNetwork .enteringPrice .network
      ({ · with network := some network }) where
  grows _ key isSet := by cases key <;> first | exact isSet | rfl
  sets _ := rfl
  inside := by decide

theorem stores_telegramId (id : Int) :
    dialogue.Stores .enteringBlacklistId .enteringBlacklistReason .telegramId
      ({ · with telegramId := some id }) where
  grows _ key isSet := by cases key <;> first | exact isSet | rfl
  sets _ := rfl
  inside := by decide

theorem aside_upsertCryptoSetting {coinName address network : String}
    {price : Numerals.Decimal} :
    Aside (upsertCryptoSetting coinName address network price) := by
  refine (aside_query _).bind fun existing => ?_
  split
  · exact (aside_storedAmount _).bind fun _ => aside_executeWrite _
  · refine (aside_storedAmount _).bind fun _ => ?_
    exact aside_executeInsert.bind fun _ => aside_pure ()

theorem obeys_receivePriceAndSave :
    dialogue.Obeys receivePriceAndSave update := by
  apply obeys_inState
  intro message
  refine prompts_after (aside_textOf _) fun text => ?_
  split
  · exact prompts_pure ()
  · refine prompts_getData_bind fun data has => ?_
    refine prompts_required_bind (has .coin (by decide)) fun coin => ?_
    refine prompts_required_bind (has .address (by decide)) fun address => ?_
    refine prompts_required_bind (has .network (by decide)) fun network => ?_
    exact prompts_after aside_upsertCryptoSetting fun _ => prompts_clear

theorem obeys_receiveBlacklistReasonAndSave :
    dialogue.Obeys receiveBlacklistReasonAndSave update := by
  apply obeys_inState
  intro message
  refine prompts_getData_bind fun data has => ?_
  refine prompts_after (aside_strippedText _) fun text => ?_
  refine prompts_required_bind (has .telegramId (by decide))
    fun telegramId => ?_
  have adds : Aside (addToBlacklist telegramId
      (if text = "-" then "بدون دلیل ثبت‌شده" else text) none true) :=
    aside_executeInsert.bind fun _ => aside_pure ()
  exact prompts_after adds fun _ => prompts_clear

theorem obeys_featuresAndSettings :
    ∀ handler ∈ featuresAndSettings, dialogue.Obeys handler update := by
  simp only [featuresAndSettings, List.forall_mem_cons, List.not_mem_nil,
    false_imp_iff, implies_true, and_true]
  exact ⟨obeys_onCallback_pure, obeys_ask (by decide),
    obeys_textQuestion stores_coin,
    obeys_textQuestion stores_address,
    obeys_textQuestion stores_network, obeys_receivePriceAndSave,
    obeys_onCallback_pure, obeys_ask (by decide),
    obeys_telegramIdQuestion stores_telegramId,
    obeys_receiveBlacklistReasonAndSave, obeys_ask (by decide),
    obeys_inState fun _ => prompts_clear⟩

end FeaturesAndSettings

section Backups

theorem aside_setPendingRestore (user : Int) (file : Option FileContent) :
    Aside (setPendingRestore user file) :=
  aside_modify fun _ => rfl

theorem obeys_takeBackupCb :
    dialogue.Obeys (takeBackupCb environment) update := by
  apply obeys_onCallback
  intro callback
  apply prompts_of_aside
  refine (aside_query _).bind fun sizeBytes => ?_
  exact aside_executeInsert.bind fun _ => aside_modify fun _ => rfl

theorem obeys_receiveRestoreFile :
    dialogue.Obeys (receiveRestoreFile environment) update := by
  apply obeys_onMessage
  intro message
  refine prompts_after (aside_required (by decide) _) fun document => ?_
  refine prompts_after (aside_setPendingRestore _ _) fun _ => ?_
  split
  · exact prompts_after (aside_setPendingRestore _ _) fun _ => prompts_clear
  · have grows : dialogue.Grows fun data =>
        { data with restoreFilepath := some message.sender } := by
      intro data key isSet
      cases key <;> first | exact isSet | rfl
    have asks := @prompts_nextQuestion _ _ _ dialogue [] _ [.restoreFilepath]
      .waitingConfirmation grows (fun _ => has_singleton.mpr rfl) (by decide)
    exact prompts_ite asks (prompts_throw (by decide))

theorem obeys_onConfirmation {text : String}
    {action : Callback → AdminScript Unit}
    (prompts : ∀ callback,
      dialogue.Prompts [.restoreFilepath] (action callback)) :
    dialogue.Obeys (onConfirmation text action) update := by
  refine @obeys_pressed _ _ _ dialogue update _ .waitingConfirmation _ ?_
    prompts
  intro now data takes
  exact of_decide_eq_true ((Bool.and_eq_true _ _).mp takes).1

theorem obeys_confirmRestoreCb :
    dialogue.Obeys (confirmRestoreCb environment) update := by
  apply obeys_onConfirmation
  intro callback
  refine prompts_getData_bind fun data has => ?_
  refine prompts_required_bind (has .restoreFilepath (by decide))
    fun user => ?_
  refine prompts_after aside_get fun visit => ?_
  refine prompts_after (aside_query _) fun restored => ?_
  refine prompts_after (aside_setPendingRestore _ _) fun _ => ?_
  split
  · exact prompts_after (aside_executeWrite _) fun _ => prompts_clear
  · exact prompts_clear
  · exact prompts_throw (by decide)

theorem obeys_cancelRestoreCb : dialogue.Obeys cancelRestoreCb update := by
  apply obeys_onConfirmation
  intro callback
  refine prompts_getData_bind fun data has => ?_
  cases data.restoreFilepath with
  | none => exact prompts_clear
  | some user =>
      exact prompts_after (aside_setPendingRestore user none) fun _ =>
        prompts_clear

theorem obeys_backup :
    ∀ handler ∈ backup environment, dialogue.Obeys handler update := by
  simp only [backup, List.forall_mem_cons, List.not_mem_nil, false_imp_iff,
    implies_true, and_true]
  exact ⟨obeys_onCallback_pure, obeys_takeBackupCb, obeys_ask (by decide),
    obeys_receiveRestoreFile, obeys_confirmRestoreCb, obeys_cancelRestoreCb⟩

end Backups

/-- All handlers of the panel find what they look up. -/
theorem obeys_handlers :
    ∀ handler ∈ handlers environment, dialogue.Obeys handler update := by
  simp only [handlers, List.forall_mem_append]
  exact ⟨⟨⟨obeys_resellerManagement, obeys_walletAndDisputes⟩,
    obeys_featuresAndSettings⟩, obeys_backup⟩

end AdminBot

end Baste
