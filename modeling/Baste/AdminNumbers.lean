import Baste.AdminBot
import Baste.NumericQuestions

/-!
# The numbers that the super admin types

The panel asks for the commission and the credit limit of a new reseller, and
for a new commission.  Only the handler of the last checks the range.  The
numbers stay in their ranges as long as the answers are in range.
-/

namespace Baste

namespace AdminBot

open BotScripts BotScripts.Footprint Database NumericQuestion

/-- The numbers of a new reseller that the conversation remembers. -/
def NumbersOf (data : AdminData) : Prop :=
  (∀ percent, data.commissionPercent = some percent →
    IsPercentage percent) ∧
  ∀ limit, data.creditLimitNegative = some limit → IsAmount limit

theorem numbersOf_empty : NumbersOf ∅ :=
  ⟨nofun, nofun⟩

section Questions

def commissionQuestion : NumericQuestion AdminState AdminData :=
  forDecimal .enteringCommissionPercent receiveCommission typedDecimal
    IsExactPercentage

def creditLimitQuestion : NumericQuestion AdminState AdminData :=
  forDecimal .enteringCreditLimit receiveCreditLimit typedDecimal IsAmount

def newCommissionQuestion : NumericQuestion AdminState AdminData :=
  forDecimal .enteringNewCommissionPercent receiveNewCommissionAndSave
    typedDecimal IsExactPercentage

/-- The questions of the panel for numbers in these columns. -/
def numericQuestions : List (NumericQuestion AdminState AdminData) :=
  [commissionQuestion, creditLimitQuestion, newCommissionQuestion]

end Questions

section Others

/-- What the panel may touch besides the numbers. -/
def besidesNumbers : Footprint AdminState AdminData where
  tables := [.disputes, .cryptoSettings, .blacklist, .backupLogs]
  states := [.enteringBotToken, .enteringTelegramId,
    .enteringCommissionPercent, .enteringCreditLimit, .enteringOrderPrefix,
    .enteringNewCommissionPercent, .enteringCoin, .enteringAddress,
    .enteringNetwork, .enteringPrice, .enteringBlacklistId,
    .enteringBlacklistReason, .enteringBroadcastText, .waitingFile,
    .waitingConfirmation]
  others data :=
    { commissionPercent := data.commissionPercent
      creditLimitNegative := data.creditLimitNegative }

theorem within_answerDocument {chat : Int} {document : Document} :
    besidesNumbers.Within (answerDocument chat document) :=
  within_modify fun visit =>
    ⟨.refl _, fun _ => ⟨rfl, rfl⟩, .refl visit.conversation⟩

theorem within_setPendingRestore {user : Int} {file : Option FileContent} :
    besidesNumbers.Within (setPendingRestore user file) :=
  within_modify fun visit =>
    ⟨.refl _, fun _ => ⟨rfl, rfl⟩, .refl visit.conversation⟩

theorem admits_asks {data : String} {state : AdminState}
    (member : state ∈ besidesNumbers.states) :
    besidesNumbers.Admits (onCallback (dataIs data) fun _ => setState state) :=
  admits_onCallback fun _ => within_setState member

theorem admits_cancelAnyState : besidesNumbers.Admits cancelAnyState := by
  apply admits_onMessage
  intro message
  apply within_getState.bind
  intro state
  exact within_ite within_clear (within_pure _)

/-- The handlers that store a stripped text and ask the next question. -/
theorem admits_storesText {state next : AdminState}
    {store : String → AdminData → AdminData}
    (kept : ∀ text data, besidesNumbers.others (store text data) =
      besidesNumbers.others data)
    (member : next ∈ besidesNumbers.states) :
    besidesNumbers.Admits (onMessage (inState state) fun message => do
      let text ← strippedText message
      updateData (store text)
      setState next) := by
  apply admits_onMessage
  intro message
  apply (within_strippedText _).bind
  intro text
  exact within_nextQuestion (kept text) member

theorem admits_receiveTelegramId : besidesNumbers.Admits receiveTelegramId := by
  apply admits_onMessage
  intro message
  apply (within_strippedText _).bind
  intro text
  cases readTelegramId text with
  | none => exact within_pure _
  | some id => exact within_nextQuestion (fun _ => rfl) (by simp [besidesNumbers])

theorem admits_startEditCommission :
    besidesNumbers.Admits startEditCommission := by
  apply admits_onCallback
  intro callback
  apply (within_integerField _ _).bind
  intro resellerId
  apply (within_query _).bind
  intro found
  apply within_ite
  · exact within_nextQuestion (fun _ => rfl) (by simp [besidesNumbers])
  · exact within_pure _

theorem admits_rejectDisputeCb : besidesNumbers.Admits rejectDisputeCb := by
  apply admits_onCallback
  intro callback
  apply (within_integerField _ _).bind
  intro disputeId
  exact (within_call (by simp [ServiceCall.tables, besidesNumbers])).bind
    fun _ => within_pure _

theorem within_upsertCryptoSetting {coinName address network : String}
    {price : Numerals.Decimal} :
    besidesNumbers.Within
      (upsertCryptoSetting coinName address network price) := by
  apply (within_query _).bind
  intro found
  cases found with
  | cons existing _ =>
      apply (within_storedAmount _).bind
      intro price
      exact within_executeWrite fun _ => .modify (by decide)
  | nil =>
      apply (within_storedAmount _).bind
      intro price
      exact (within_executeInsert (by decide)).bind fun _ => within_pure _

theorem admits_receivePriceAndSave :
    besidesNumbers.Admits receivePriceAndSave := by
  apply admits_onMessage
  intro message
  apply (within_textOf _).bind
  intro text
  cases typedDecimal text with
  | none => exact within_pure _
  | some price =>
      apply within_getData.bind
      intro data
      apply (within_required _ _).bind
      intro coin
      apply (within_required _ _).bind
      intro address
      apply (within_required _ _).bind
      intro network
      exact within_upsertCryptoSetting.bind fun _ => within_clear

theorem admits_receiveBlacklistId :
    besidesNumbers.Admits receiveBlacklistId := by
  apply admits_onMessage
  intro message
  apply (within_strippedText _).bind
  intro text
  cases readTelegramId text with
  | none => exact within_pure _
  | some id => exact within_nextQuestion (fun _ => rfl) (by simp [besidesNumbers])

theorem admits_receiveBlacklistReasonAndSave :
    besidesNumbers.Admits receiveBlacklistReasonAndSave := by
  apply admits_onMessage
  intro message
  apply within_getData.bind
  intro data
  apply (within_strippedText _).bind
  intro text
  apply (within_required _ _).bind
  intro telegramId
  have added : ∀ reason, besidesNumbers.Within
      (addToBlacklist telegramId reason none true) :=
    fun reason => (within_executeInsert (by decide)).bind fun _ =>
      within_pure _
  exact (added _).bind fun _ => within_clear

theorem admits_takeBackupCb (environment : AdminEnvironment) :
    besidesNumbers.Admits (takeBackupCb environment) := by
  apply admits_onCallback
  intro callback
  apply (within_query _).bind
  intro sizeBytes
  apply (within_executeInsert (by decide)).bind
  intro _
  exact within_answerDocument

theorem admits_receiveRestoreFile (environment : AdminEnvironment) :
    besidesNumbers.Admits (receiveRestoreFile environment) := by
  apply admits_onMessage
  intro message
  apply (within_required _ _).bind
  intro document
  apply within_setPendingRestore.bind
  intro _
  cases validateBackupFile (environment.download document) with
  | error _ => exact within_setPendingRestore.bind fun _ => within_clear
  | ok data =>
      apply within_ite
      · exact within_nextQuestion (fun _ => rfl) (by simp [besidesNumbers])
      · exact within_throw _

theorem admits_cancelRestoreCb : besidesNumbers.Admits cancelRestoreCb := by
  unfold cancelRestoreCb onConfirmation
  apply admits_onCallback
  intro callback
  apply within_getData.bind
  intro data
  cases data.restoreFilepath with
  | some user =>
      exact within_setPendingRestore.bind fun _ => within_clear
  | none => exact within_clear

/-- The handlers that write to resellers or remember numbers of them. -/
def resellerHandlers (environment : AdminEnvironment) : List AdminHandler :=
  [receiveCommission, receiveCreditLimit,
    receiveOrderPrefixAndSave environment, toggleResellerStatus,
    receiveNewCommissionAndSave, confirmTopupCb, approveDisputeCb,
    confirmRestoreCb environment]

theorem resellerHandler_or_admits (environment : AdminEnvironment) :
    ∀ handler ∈ handlers environment,
      handler ∈ resellerHandlers environment ∨
        besidesNumbers.Admits handler := by
  simp only [handlers, resellerManagement, walletAndDisputes,
    featuresAndSettings, backup, List.forall_mem_append, List.forall_mem_cons,
    List.not_mem_nil, false_imp_iff, implies_true, and_true]
  refine ⟨⟨⟨?_, ?_⟩, ?_⟩, ?_⟩
  · exact ⟨.inr (admits_onMessage fun _ => within_pure _),
      .inr admits_onCallback_pure,
      .inr admits_cancelAnyState,
      .inr admits_onCallback_pure,
      .inr (admits_asks (by decide)),
      .inr (admits_storesText (fun _ _ => rfl) (by decide)),
      .inr admits_receiveTelegramId,
      .inl (by simp [resellerHandlers]),
      .inl (by simp [resellerHandlers]),
      .inl (by simp [resellerHandlers]),
      .inr admits_onCallback_pure,
      .inl (by simp [resellerHandlers]),
      .inr admits_startEditCommission,
      .inl (by simp [resellerHandlers]),
      .inr (admits_onCallback fun _ => within_answerDocument)⟩
  · exact ⟨.inr admits_onCallback_pure,
      .inr admits_onCallback_pure,
      .inl (by simp [resellerHandlers]),
      .inr admits_onCallback_pure,
      .inl (by simp [resellerHandlers]),
      .inr admits_rejectDisputeCb⟩
  · exact ⟨.inr admits_onCallback_pure,
      .inr (admits_asks (by decide)),
      .inr (admits_storesText (fun _ _ => rfl) (by decide)),
      .inr (admits_storesText (fun _ _ => rfl) (by decide)),
      .inr (admits_storesText (fun _ _ => rfl) (by decide)),
      .inr admits_receivePriceAndSave,
      .inr admits_onCallback_pure,
      .inr (admits_asks (by decide)),
      .inr admits_receiveBlacklistId,
      .inr admits_receiveBlacklistReasonAndSave,
      .inr (admits_asks (by decide)),
      .inr (admits_onMessage fun _ => within_clear)⟩
  · exact ⟨.inr admits_onCallback_pure,
      .inr (admits_takeBackupCb environment),
      .inr (admits_asks (by decide)),
      .inr (admits_receiveRestoreFile environment),
      .inl (by simp [resellerHandlers]),
      .inr admits_cancelRestoreCb⟩

end Others

section Answers

variable {environment : AdminEnvironment} {message : Message}

theorem stays_receiveCommission (answers : ∀ text, message.text = some text →
      commissionQuestion.InRange text) :
    StaysInRange NumbersOf
      (receiveCommission.action (.message message)) := by
  apply stays_required_bind
  intro text isText
  cases isNumber : typedDecimal text with
  | none => exact stays_pure _
  | some percent =>
      apply (stays_updateData fun data numbers => ?_).bind
      · exact fun _ => stays_setState _
      · refine ⟨fun other same => ?_, numbers.2⟩
        cases same
        exact (answers text isText percent isNumber).isPercentage

theorem stays_receiveCreditLimit (answers : ∀ text, message.text = some text →
      creditLimitQuestion.InRange text) :
    StaysInRange NumbersOf
      (receiveCreditLimit.action (.message message)) := by
  apply stays_required_bind
  intro text isText
  cases isNumber : typedDecimal text with
  | none => exact stays_pure _
  | some limit =>
      apply (stays_updateData fun data numbers => ?_).bind
      · exact fun _ => stays_setState _
      · refine ⟨numbers.1, fun other same => ?_⟩
        cases same
        exact answers text isText _ isNumber

theorem stays_receiveNewCommissionAndSave :
    StaysInRange NumbersOf
      (receiveNewCommissionAndSave.action (.message message)) := by
  apply (stays_required _ _).bind
  intro text
  split
  · exact stays_pure _
  · exact stays_pure _
  · exact stays_throw _
  · split
    · exact stays_pure _
    · rename_i percent _ outside
      rw [not_or, not_lt, not_lt] at outside
      apply stays_getData_bind
      intro data _
      apply (stays_required _ _).bind
      intro resellerId
      have saved : StaysInRange NumbersOf (executeWrite
          (·.modify .resellers (rowId resellerId)
            ({ · with commissionPercent := storeDecimal percent })) :
          AdminScript Unit) :=
        stays_executeWrite fun db inRange => AllRows.modify inRange
          fun row holds => ⟨isPercent_storeDecimal outside.1 outside.2, holds.2⟩
      exact saved.bind fun _ => stays_clear numbersOf_empty

/-- A reseller is stored with numbers in range if they were in range in the
conversation. -/
theorem stays_receiveOrderPrefixAndSave :
    StaysInRange NumbersOf
      ((receiveOrderPrefixAndSave environment).action
        (.message message)) := by
  apply stays_getData_bind
  intro data numbers
  apply (stays_strippedText message).bind
  intro text
  dsimp only
  split
  · exact stays_clear numbersOf_empty
  · apply (stays_required _ _).bind
    intro telegramNumericId
    apply stays_required_bind
    intro commissionPercent isPercent
    apply stays_required_bind
    intro creditLimit isLimit
    apply stays_storedAmount_bind
    rintro percent rfl
    apply stays_storedAmount_bind
    rintro limit rfl
    have isPercentage := numbers.1 _ isPercent
    have isAmount := numbers.2 _ isLimit
    apply (stays_executeInsert ?_).bind
    · exact fun _ => stays_clear numbersOf_empty
    · exact ⟨isPercentage, isAmount.1⟩

theorem stays_toggleResellerStatus {callback : Callback} :
    StaysInRange NumbersOf
      (toggleResellerStatus.action (.callback callback)) := by
  unfold toggleResellerStatus
  dsimp only [onCallback]
  split
  · apply (stays_required _ _).bind
    intro resellerId
    apply (stays_required _ _).bind
    intro status
    exact stays_executeWrite fun db inRange =>
      RowsInRange.modify_reseller inRange fun _ => ⟨rfl, rfl⟩
  · exact stays_throw _

/-- A service is called with the number in the callback data. -/
theorem stays_numberedCall {callback : Callback}
    (service : Int → ServiceCall) :
    StaysInRange NumbersOf (do
      let number ← integerField callback 1
      let _ ← call (service number) : AdminScript Unit) := by
  apply (stays_integerField _ _).bind
  intro number
  exact (stays_call _).bind fun _ => stays_pure _

/-- The restored file has its numbers in range. -/
def RestoresInRange (environment : AdminEnvironment)
    (visit : Visit AdminState AdminData) : Prop :=
  ∀ user db, visit.conversation.data.restoreFilepath = some user →
    safelyRestored environment
        ((visit.platform.pendingRestores user).getD .missing)
        visit.platform.db = .ok db →
      RowsInRange db

theorem numbersInRange_confirmRestoreCb {callback : Callback}
    {visit : Visit AdminState AdminData}
    (inRange : NumbersInRange NumbersOf visit)
    (restores : RestoresInRange environment visit) :
    NumbersInRange NumbersOf
      (((confirmRestoreCb environment).action
        (.callback callback)).runOn visit).2 := by
  cases isUser : visit.conversation.data.restoreFilepath with
  | none =>
      simp [confirmRestoreCb, onConfirmation, onCallback, getData, required,
        Failing.runOn_bind, isUser, inRange]
  | some user =>
      cases outcome : safelyRestored environment
        ((visit.platform.pendingRestores user).getD .missing)
          visit.platform.db with
      | ok db =>
          simp only [confirmRestoreCb, onConfirmation, onCallback, getData,
            required, setPendingRestore, executeWrite, clear,
            Failing.runOn_bind, Failing.runOn_get, Failing.runOn_pure,
            Failing.runOn_modify, runOn_query, isUser, outcome]
          exact ⟨restores user db isUser outcome, inRange.prices,
            inRange.edits, numbersOf_empty⟩
      | error error =>
          simp only [confirmRestoreCb, onConfirmation, onCallback, getData,
            required, setPendingRestore, Failing.runOn_bind,
            Failing.runOn_get, Failing.runOn_pure, Failing.runOn_modify,
            runOn_query, isUser, outcome]
          cases error with
          | invalid =>
              exact ⟨inRange.rows, inRange.prices, inRange.edits,
                numbersOf_empty⟩
          | _ =>
              exact ⟨inRange.rows, inRange.prices, inRange.edits,
                inRange.data⟩

/-- The handlers keep the numbers in range if the answers and the restored
files have them in range. -/
theorem numbersInRange_of_handler {handler : AdminHandler} {update : Update}
    {visit : Visit AdminState AdminData}
    (member : handler ∈ resellerHandlers environment)
    (takes : handler.takes visit.conversation.state update = true)
    (answers : ∀ question ∈ numericQuestions,
      question.AnsweredInRange visit.conversation.state update)
    (restores : (confirmRestoreCb environment).takes visit.conversation.state
      update = true → RestoresInRange environment visit)
    (inRange : NumbersInRange NumbersOf visit) :
    NumbersInRange NumbersOf ((handler.action update).runOn visit).2 := by
  simp only [resellerHandlers, List.mem_cons, List.not_mem_nil,
    or_false] at member
  cases update with
  | message message =>
      rcases member with rfl | rfl | rfl | rfl | rfl | rfl | rfl | rfl
      · have state := of_decide_eq_true takes
        exact stays_receiveCommission (fun text =>
          answers commissionQuestion (by simp [numericQuestions]) state message
            text rfl) visit inRange
      · have state := of_decide_eq_true takes
        exact stays_receiveCreditLimit (fun text =>
          answers creditLimitQuestion (by simp [numericQuestions]) state
            message text rfl) visit inRange
      · exact stays_receiveOrderPrefixAndSave visit inRange
      · exact inRange
      · exact stays_receiveNewCommissionAndSave visit inRange
      · exact inRange
      · exact inRange
      · exact inRange
  | callback callback =>
      rcases member with rfl | rfl | rfl | rfl | rfl | rfl | rfl | rfl
      · exact inRange
      · exact inRange
      · exact inRange
      · exact stays_toggleResellerStatus visit inRange
      · exact inRange
      · exact stays_numberedCall (fun number => .confirmTopup (rowId number))
          visit inRange
      · exact stays_numberedCall
          (fun number => .approveDispute (rowId number)) visit inRange
      · exact numbersInRange_confirmRestoreCb inRange (restores takes)

/-- The handlers of the panel keep the numbers in range if the answers and the
restored files have them in range. -/
theorem numbersInRange_of_takes {environment : AdminEnvironment}
    {handler : AdminHandler} {update : Update}
    {visit : Visit AdminState AdminData}
    (member : handler ∈ handlers environment)
    (takes : handler.takes visit.conversation.state update = true)
    (answers : ∀ question ∈ numericQuestions,
      question.AnsweredInRange visit.conversation.state update)
    (restores : (confirmRestoreCb environment).takes visit.conversation.state
      update = true → RestoresInRange environment visit)
    (inRange : NumbersInRange NumbersOf visit) :
    NumbersInRange NumbersOf ((handler.action update).runOn visit).2 := by
  rcases resellerHandler_or_admits environment handler member with
    writes | admits
  · exact numbersInRange_of_handler writes takes answers restores inRange
  · have kept : ∀ first second : AdminData,
        besidesNumbers.others second = besidesNumbers.others first →
          NumbersOf first → NumbersOf second := by
      intro first second same numbers
      have percent := congrArg AdminData.commissionPercent same
      have limit := congrArg AdminData.creditLimitNegative same
      constructor
      · rw [show second.commissionPercent = first.commissionPercent from
          percent]
        exact numbers.1
      · rw [show second.creditLimitNegative = first.creditLimitNegative from
          limit]
        exact numbers.2
    exact stays_of_within (admits update) (by decide) rfl kept
      numbersOf_empty visit inRange

end Answers

section Asking

theorem answer_commission (message : Message) :
    commissionQuestion.answer message =
      reads typedDecimal (fun percent => do
        updateData ({ · with commissionPercent := some percent })
        setState .enteringCreditLimit) message := by
  apply bind_congr
  intro text
  cases typedDecimal text with
  | none => rfl
  | some percent => rfl

theorem takesNumbers_commission : commissionQuestion.TakesNumbers := by
  apply takesNumbers_of_reads answer_commission (fun _ => Iff.rfl)
    typedDecimal_zero
  · exact fun _ _ _ _ => neverFails_nextQuestion.failsLike
  · exact fun _ _ _ _ => .bind fun _ => endsOutside_setState (by decide)

theorem answer_creditLimit (message : Message) :
    creditLimitQuestion.answer message =
      reads typedDecimal (fun limit => do
        updateData ({ · with creditLimitNegative := some limit })
        setState .enteringOrderPrefix) message := by
  apply bind_congr
  intro text
  cases typedDecimal text with
  | none => rfl
  | some limit => rfl

theorem takesNumbers_creditLimit : creditLimitQuestion.TakesNumbers := by
  apply takesNumbers_of_reads answer_creditLimit (fun _ => Iff.rfl)
    typedDecimal_zero
  · exact fun _ _ _ _ => neverFails_nextQuestion.failsLike
  · exact fun _ _ _ _ => .bind fun _ => endsOutside_setState (by decide)

/-- What is done with a number that is read as the new commission. -/
def saveNewCommission : Numerals.Decimal → AdminScript Unit
  | .infinity _ => pure ()
  | .nan => throw .invalidOperation
  | .finite percent =>
      if percent < 0 ∨ 100 < percent then pure ()
      else do
        let data ← getData
        let resellerId ← required .keyError data.editResellerId
        executeWrite (·.modify .resellers (rowId resellerId)
          ({ · with commissionPercent := storeDecimal percent }))
        clear

theorem answer_newCommission (message : Message) :
    newCommissionQuestion.answer message =
      reads typedDecimal saveNewCommission message := by
  apply bind_congr
  intro text
  rcases typedDecimal text with _ | percent | negative | _
  · rfl
  · rfl
  · rfl
  · rfl

theorem saveNewCommission_finite {percent : Rat} (low : 0 ≤ percent)
    (high : percent ≤ 100) :
    saveNewCommission (.finite percent) = (do
      let data ← getData
      let resellerId ← required .keyError data.editResellerId
      executeWrite (·.modify .resellers (rowId resellerId)
        ({ · with commissionPercent := storeDecimal percent }))
      clear) := by
  rw [saveNewCommission, if_neg (by simp [low, high])]

theorem takesNumbers_newCommission : newCommissionQuestion.TakesNumbers := by
  apply takesNumbers_of_reads answer_newCommission (fun _ => Iff.rfl)
    typedDecimal_zero
  · intro text number inRange isNumber
    obtain ⟨percent, rfl, low, high⟩ := (inRange _ isNumber).exists_finite
    rw [saveNewCommission_finite low high,
      saveNewCommission_finite le_rfl (by norm_num)]
    apply Failing.FailsLike.bind
    intro data
    apply Failing.FailsLike.bind
    intro resellerId
    exact neverFails_lastWrite.failsLike
  · intro text number inRange isNumber
    obtain ⟨percent, rfl, low, high⟩ := (inRange _ isNumber).exists_finite
    rw [saveNewCommission_finite low high]
    apply EndsOutside.bind
    intro data
    apply EndsOutside.bind
    intro resellerId
    apply EndsOutside.bind
    intro _
    exact endsOutside_clear _

theorem takesNumbers_of_mem :
    ∀ question ∈ numericQuestions, question.TakesNumbers := by
  simp only [numericQuestions, List.forall_mem_cons, List.not_mem_nil,
    false_imp_iff, implies_true, and_true]
  exact ⟨takesNumbers_commission, takesNumbers_creditLimit,
    takesNumbers_newCommission⟩

end Asking

end AdminBot

end Baste
