import Baste.AdminAccess
import Baste.BotDeeds

/-!
# The deeds of the super admin's bot

Besides the confirmation of a restore, the handlers of the super admin's bot
only do what those of the shops do.
-/

namespace Baste

open BotScripts Database

namespace AdminBot

variable {environment : AdminEnvironment}

section Questions

theorem does_nextQuestion {change : AdminData → AdminData}
    {next : AdminState} :
    Does (do updateData change; setState next : AdminScript Unit) :=
  does_of_keeps (keeps_nextQuestion change next)

theorem doesDeeds_show {test : Option AdminState → String → Bool} :
    DoesDeeds (onCallback test fun _ => (pure () : AdminScript Unit)) :=
  doesDeeds_onCallback fun _ => does_pure ()

theorem doesDeeds_ask {test : Option AdminState → String → Bool}
    {question : AdminState} :
    DoesDeeds (onCallback test fun _ =>
      (setState question : AdminScript Unit)) :=
  doesDeeds_onCallback fun _ => does_of_keeps (keeps_setState question)

/-- A handler that stores the stripped text and asks the next question. -/
theorem doesDeeds_textQuestion {test : Option AdminState → Message → Bool}
    {change : String → AdminData → AdminData} {next : AdminState} :
    DoesDeeds (onMessage test fun message => do
      let text ← strippedText message
      updateData (change text)
      setState next) :=
  doesDeeds_onMessage fun message =>
    does_after (keeps_strippedText message) fun _ => does_nextQuestion

/-- A handler that stores a typed number and asks the next question. -/
theorem doesDeeds_decimalQuestion {test : Option AdminState → Message → Bool}
    {change : Numerals.Decimal → AdminData → AdminData} {next : AdminState} :
    DoesDeeds (onMessage test fun message => do
      match typedDecimal (← textOf message) with
      | none => pure ()
      | some value =>
          updateData (change value)
          setState next) := by
  apply doesDeeds_onMessage
  intro message
  refine does_after (keeps_required _ _) fun text => ?_
  cases typedDecimal text with
  | none => exact does_pure ()
  | some value => exact does_nextQuestion

/-- A handler that stores a typed Telegram id and asks the next question. -/
theorem doesDeeds_telegramIdQuestion
    {test : Option AdminState → Message → Bool}
    {change : Int → AdminData → AdminData} {next : AdminState} :
    DoesDeeds (onMessage test fun message => do
      match readTelegramId (← strippedText message) with
      | none => pure ()
      | some id =>
          updateData (change id)
          setState next) := by
  apply doesDeeds_onMessage
  intro message
  refine does_after (keeps_strippedText message) fun text => ?_
  cases readTelegramId text with
  | none => exact does_pure ()
  | some id => exact does_nextQuestion

end Questions

section ResellerManagement

theorem doesDeeds_receiveOrderPrefixAndSave :
    DoesDeeds (receiveOrderPrefixAndSave environment) := by
  have stored : ∀ amount, KeepsPlatform (fun platform => platform.db)
      (storedAmount amount : AdminScript Cents) := by
    intro amount
    cases amount with
    | finite amount => exact Failing.keeps_pure _
    | infinity | nan => exact Failing.keeps_throw _
  have inserts : ∀ {allowed : Db → Bool} (row : ResellerRow),
      row.walletCreditBalance = 0 →
        Does (executeInsert .resellers allowed row : AdminScript Nat) :=
    @fun _ row isNew => @does_executeInsert _ _ .resellers _ row isNew
  apply doesDeeds_onMessage
  intro message
  refine does_after keeps_getData fun data => ?_
  refine does_after (keeps_strippedText _) fun text => ?_
  dsimp only
  cases data.botToken.bind fun token =>
    (environment.getMe token).map (token, ·) with
  | none => exact does_clear
  | some found =>
      refine does_after (keeps_required _ _) fun telegramNumericId => ?_
      refine does_after (keeps_required _ _) fun commissionPercent => ?_
      refine does_after (keeps_required _ _) fun creditLimit => ?_
      refine does_after (stored _) fun commissionPercent => ?_
      refine does_after (stored _) fun creditLimit => ?_
      exact (inserts _ rfl).bind fun _ => does_clear

theorem doesDeeds_toggleResellerStatus : DoesDeeds toggleResellerStatus := by
  apply doesDeeds_onCallback
  intro callback
  split
  · refine does_after (keeps_required _ _) fun resellerId => ?_
    refine does_after (keeps_required _ _) fun status => ?_
    exact does_executeWrite fun _ => .reseller fun _ => rfl
  · exact does_throw _

theorem doesDeeds_startEditCommission : DoesDeeds startEditCommission := by
  apply doesDeeds_onCallback
  intro callback
  refine does_after (keeps_integerField _ _) fun resellerId => ?_
  refine does_after (keeps_query _) fun reseller => ?_
  exact does_ite does_nextQuestion (does_pure ())

theorem doesDeeds_receiveNewCommissionAndSave :
    DoesDeeds receiveNewCommissionAndSave := by
  apply doesDeeds_onMessage
  intro message
  refine does_after (keeps_required _ _) fun text => ?_
  split
  · exact does_pure ()
  · exact does_pure ()
  · exact does_throw _
  · next percent _ =>
    apply does_ite
    · exact does_pure ()
    · refine does_after keeps_getData fun data => ?_
      refine does_after (keeps_required _ _) fun resellerId => ?_
      have updates : Does (executeWrite (·.modify .resellers (rowId resellerId)
          ({ · with commissionPercent := storeDecimal percent })) :
            AdminScript Unit) :=
        does_executeWrite fun _ => .reseller fun _ => rfl
      exact updates.bind fun _ => does_clear

theorem does_answerDocument {chat : Int} {document : Document} :
    Does (answerDocument chat document) :=
  does_of_keeps (Failing.keeps_modify fun _ => rfl)

theorem doesDeeds_resellerManagement :
    ∀ handler ∈ resellerManagement environment, DoesDeeds handler := by
  simp only [resellerManagement, List.forall_mem_cons, List.not_mem_nil,
    false_imp_iff, implies_true, and_true]
  refine ⟨doesDeeds_onMessage fun _ => does_pure (), doesDeeds_show,
    doesDeeds_onMessage fun _ => ?cancel, doesDeeds_show, doesDeeds_ask,
    doesDeeds_textQuestion, doesDeeds_telegramIdQuestion,
    doesDeeds_decimalQuestion, doesDeeds_decimalQuestion,
    doesDeeds_receiveOrderPrefixAndSave, doesDeeds_show,
    doesDeeds_toggleResellerStatus, doesDeeds_startEditCommission,
    doesDeeds_receiveNewCommissionAndSave,
    doesDeeds_onCallback fun _ => does_answerDocument⟩
  exact does_after keeps_getState fun _ => does_ite does_clear (does_pure ())

end ResellerManagement

theorem doesDeeds_walletAndDisputes :
    ∀ handler ∈ walletAndDisputes, DoesDeeds handler := by
  simp only [walletAndDisputes, List.forall_mem_cons, List.not_mem_nil,
    false_imp_iff, implies_true, and_true]
  have decides : ∀ (service : Nat → ServiceCall) (callback : Callback),
      Does (do
        let number ← integerField callback 1
        let _ ← call (service (rowId number)) : AdminScript Unit) :=
    fun _ _ => does_numberedCall
  exact ⟨doesDeeds_show, doesDeeds_show,
    doesDeeds_onCallback (decides .confirmTopup), doesDeeds_show,
    doesDeeds_onCallback (decides .approveDispute),
    doesDeeds_onCallback (decides .rejectDispute)⟩

section FeaturesAndSettings

theorem does_upsertCryptoSetting {coinName address network : String}
    {price : Numerals.Decimal} :
    Does (upsertCryptoSetting coinName address network price) := by
  have stored : KeepsPlatform (fun platform => platform.db)
      (storedAmount price : AdminScript Cents) := by
    cases price with
    | finite amount => exact Failing.keeps_pure _
    | infinity | nan => exact Failing.keeps_throw _
  refine does_after (keeps_query _) fun existing => ?_
  split
  · refine does_after stored fun cents => does_executeWrite fun _ => ?_
    exact @BotDeed.settings _ _ [.cryptoSettings] (.modify (by decide))
      (by decide)
  · refine does_after stored fun cents => ?_
    have inserts := @does_executeInsert AdminState AdminData .cryptoSettings
      (fun _ => coinName.length ≤ 32 && address.length ≤ 128 &&
        network.length ≤ 32) ⟨coinName, address, network, cents⟩ trivial
    exact inserts.bind fun _ => does_pure ()

theorem doesDeeds_receivePriceAndSave : DoesDeeds receivePriceAndSave := by
  apply doesDeeds_onMessage
  intro message
  refine does_after (keeps_required _ _) fun text => ?_
  split
  · exact does_pure ()
  · refine does_after keeps_getData fun data => ?_
    refine does_after (keeps_required _ _) fun coin => ?_
    refine does_after (keeps_required _ _) fun address => ?_
    refine does_after (keeps_required _ _) fun network => ?_
    exact does_upsertCryptoSetting.bind fun _ => does_clear

theorem doesDeeds_receiveBlacklistReasonAndSave :
    DoesDeeds receiveBlacklistReasonAndSave := by
  apply doesDeeds_onMessage
  intro message
  refine does_after keeps_getData fun data => ?_
  refine does_after (keeps_strippedText _) fun text => ?_
  refine does_after (keeps_required _ _) fun telegramId => ?_
  have inserts := @does_executeInsert AdminState AdminData .blacklist
  exact ((inserts trivial).bind fun _ => does_pure ()).bind
    fun _ => does_clear

theorem doesDeeds_featuresAndSettings :
    ∀ handler ∈ featuresAndSettings, DoesDeeds handler := by
  simp only [featuresAndSettings, List.forall_mem_cons, List.not_mem_nil,
    false_imp_iff, implies_true, and_true]
  exact ⟨doesDeeds_show, doesDeeds_ask, doesDeeds_textQuestion,
    doesDeeds_textQuestion, doesDeeds_textQuestion,
    doesDeeds_receivePriceAndSave, doesDeeds_show, doesDeeds_ask,
    doesDeeds_telegramIdQuestion, doesDeeds_receiveBlacklistReasonAndSave,
    doesDeeds_ask, doesDeeds_onMessage fun _ => does_clear⟩

end FeaturesAndSettings

section Backups

theorem keeps_setPendingRestore (user : Int) (file : Option FileContent) :
    KeepsPlatform (fun platform => platform.db)
      (setPendingRestore user file) :=
  Failing.keeps_modify fun _ => rfl

theorem doesDeeds_takeBackupCb : DoesDeeds (takeBackupCb environment) := by
  apply doesDeeds_onCallback
  intro callback
  refine does_after (keeps_query _) fun sizeBytes => ?_
  have inserts := @does_executeInsert AdminState AdminData .backupLogs
  exact (inserts trivial).bind fun _ => does_answerDocument

theorem doesDeeds_receiveRestoreFile :
    DoesDeeds (receiveRestoreFile environment) := by
  apply doesDeeds_onMessage
  intro message
  refine does_after (keeps_required _ _) fun document => ?_
  refine does_after (keeps_setPendingRestore _ _) fun _ => ?_
  split
  · exact does_after (keeps_setPendingRestore _ _) fun _ => does_clear
  · exact does_ite does_nextQuestion (does_throw _)

theorem doesDeeds_cancelRestoreCb : DoesDeeds cancelRestoreCb := by
  unfold cancelRestoreCb onConfirmation
  apply doesDeeds_onCallback
  intro callback
  refine does_after keeps_getData fun data => ?_
  cases data.restoreFilepath with
  | none => exact does_clear
  | some user =>
      exact does_after (keeps_setPendingRestore user none) fun _ => does_clear

end Backups

/-- The other handlers of the bot only do such deeds. -/
theorem restores_or_doesDeeds (environment : AdminEnvironment) :
    ∀ handler ∈ handlers environment,
      handler = confirmRestoreCb environment ∨ DoesDeeds handler := by
  have backups : ∀ handler ∈ backup environment,
      handler = confirmRestoreCb environment ∨ DoesDeeds handler := by
    simp only [backup, List.forall_mem_cons, List.not_mem_nil, false_imp_iff,
      implies_true, and_true]
    exact ⟨.inr doesDeeds_show, .inr doesDeeds_takeBackupCb,
      .inr doesDeeds_ask, .inr doesDeeds_receiveRestoreFile, .inl trivial,
      .inr doesDeeds_cancelRestoreCb⟩
  simp only [handlers, List.forall_mem_append]
  exact ⟨⟨⟨fun handler member =>
      .inr (doesDeeds_resellerManagement handler member),
    fun handler member => .inr (doesDeeds_walletAndDisputes handler member)⟩,
    fun handler member =>
      .inr (doesDeeds_featuresAndSettings handler member)⟩, backups⟩

end AdminBot

end Baste
