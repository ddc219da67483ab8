import Baste.AdminBot
import Baste.StepRuns

/-!
# Access to the bot of the super admin

No handler of the admin panel looks at who sent an update.  An update changes
nothing that matters, whoever sends it, as long as it does not come to one of
the handlers that write to the database or send a document.
-/

namespace Baste

open BotScripts

/-- What the claim on the admin bot is about: the database and the documents
that have been sent. -/
def Platform.exposed (platform : Platform) : Db × List (Int × Document) :=
  (platform.db, platform.sent)

/-- The script changes neither the database nor the documents sent. -/
abbrev QuietScript {State Data Result : Type}
    (script : BotScript State Data Result) : Prop :=
  KeepsPlatform Platform.exposed script

namespace AdminBot

theorem quiet_setPendingRestore (user : Int) (file : Option FileContent) :
    QuietScript (setPendingRestore user file) :=
  Failing.keeps_modify fun _ => rfl

/-- The update is one of the two commands that the panel takes in every
state. -/
def isCommand : Update → Bool
  | .message message =>
      message.text = some "/start" || message.text = some "/cancel"
  | .callback _ => false

/-- In this state the update is meant for a handler that writes or sends. -/
def isSensitive (state : Option AdminState) : Update → Bool
  | .message message =>
      inState .enteringOrderPrefix state message ||
        inState .enteringNewCommissionPercent state message ||
        inState .enteringPrice state message ||
        inState .enteringBlacklistReason state message
  | .callback callback =>
      dataStarts "reseller_toggle:" state callback.data ||
        dataIs "amenu:report" state callback.data ||
        dataStarts "topup_confirm:" state callback.data ||
        dataStarts "dispute_approve:" state callback.data ||
        dataStarts "dispute_reject:" state callback.data ||
        dataIs "backup_take" state callback.data ||
        (state = some .waitingConfirmation &&
          dataIs "restore_confirm" state callback.data)

section Handlers

variable {state : Option AdminState} {update : Update}
variable {environment : AdminEnvironment}

/-- The handler writes nothing and sends no document, or the update is one of
those that are meant for it. -/
def IsGuarded (state : Option AdminState) (update : Update)
    (handler : AdminHandler) : Prop :=
  handler.takes state update = true → isSensitive state update = false →
    QuietScript (handler.action update)

theorem guarded_show {test : Option AdminState → String → Bool} :
    IsGuarded state update (onCallback test fun _ => pure ()) :=
  fun _ _ => keeps_onCallback fun _ => Failing.keeps_pure ()

theorem guarded_ask {test : Option AdminState → String → Bool}
    (question : AdminState) :
    IsGuarded state update (onCallback test fun _ => setState question) :=
  fun _ _ => keeps_onCallback fun _ => keeps_setState question

/-- A handler of a sensitive state. -/
theorem guarded_state {sensitive : AdminState}
    {action : Message → AdminScript Unit}
    (listed : ∀ message, isSensitive (some sensitive) (.message message) =
      true) :
    IsGuarded state update (onMessage (inState sensitive) action) := by
  intro takes harmless
  cases update with
  | callback _ => cases takes
  | message message =>
      have same : inState sensitive state message = true := takes
      have isState : state = some sensitive := by
        simpa [inState] using same
      subst isState
      simp [listed] at harmless

/-- A handler of sensitive callback data. -/
theorem guarded_data {test : Option AdminState → String → Bool}
    {action : Callback → AdminScript Unit}
    (listed : ∀ callback : Callback, test state callback.data = true →
      isSensitive state (.callback callback) = true) :
    IsGuarded state update (onCallback test action) := by
  intro takes harmless
  cases update with
  | message _ => cases takes
  | callback callback => simp [listed callback takes] at harmless

/-- A handler of messages that writes nothing. -/
theorem guarded_message {test : Option AdminState → Message → Bool}
    {action : Message → AdminScript Unit}
    (quiet : ∀ message, QuietScript (action message)) :
    IsGuarded state update (onMessage test action) :=
  fun _ _ => keeps_onMessage quiet

/-- A handler of callback queries that writes nothing. -/
theorem guarded_callback {test : Option AdminState → String → Bool}
    {action : Callback → AdminScript Unit}
    (quiet : ∀ callback, QuietScript (action callback)) :
    IsGuarded state update (onCallback test action) :=
  fun _ _ => keeps_onCallback quiet

/-- A handler that stores the stripped text and asks the next question. -/
theorem guarded_textQuestion {test : Option AdminState → Message → Bool}
    (change : String → AdminData → AdminData) (next : AdminState) :
    IsGuarded state update (onMessage test fun message => do
      let text ← strippedText message
      updateData (change text)
      setState next) := by
  apply guarded_message
  intro message
  apply (keeps_strippedText message).bind
  intro text
  exact keeps_nextQuestion (change text) next

/-- A handler that stores a typed number and asks the next question. -/
theorem guarded_decimalQuestion {test : Option AdminState → Message → Bool}
    (change : Numerals.Decimal → AdminData → AdminData) (next : AdminState) :
    IsGuarded state update (onMessage test fun message => do
      match typedDecimal (← textOf message) with
      | none => pure ()
      | some value =>
          updateData (change value)
          setState next) := by
  apply guarded_message
  intro message
  apply (keeps_required _ _).bind
  intro text
  cases typedDecimal text with
  | none => exact Failing.keeps_pure ()
  | some value => exact keeps_nextQuestion (change value) next

/-- A handler that stores a typed Telegram id and asks the next question. -/
theorem guarded_telegramIdQuestion
    {test : Option AdminState → Message → Bool}
    (change : Int → AdminData → AdminData) (next : AdminState) :
    IsGuarded state update (onMessage test fun message => do
      match readTelegramId (← strippedText message) with
      | none => pure ()
      | some id =>
          updateData (change id)
          setState next) := by
  apply guarded_message
  intro message
  apply (keeps_strippedText message).bind
  intro text
  cases readTelegramId text with
  | none => exact Failing.keeps_pure ()
  | some id => exact keeps_nextQuestion (change id) next

theorem quiet_cancelAnyState :
    QuietScript (cancelAnyState.action update) := by
  apply keeps_onMessage
  intro _
  apply keeps_getState.bind
  intro state
  cases state with
  | none => exact Failing.keeps_pure ()
  | some state => exact keeps_clear

theorem guarded_startEditCommission :
    IsGuarded state update startEditCommission := by
  apply guarded_callback
  intro callback
  apply (keeps_integerField callback 1).bind
  intro resellerId
  apply (keeps_query _).bind
  intro reseller
  cases reseller with
  | none => exact Failing.keeps_pure ()
  | some reseller => exact keeps_nextQuestion _ _

theorem guarded_resellerManagement :
    ∀ handler ∈ resellerManagement environment,
      IsGuarded state update handler := by
  simp only [resellerManagement, List.forall_mem_cons, List.not_mem_nil,
    false_implies, implies_true, and_true]
  refine ⟨guarded_message fun _ => Failing.keeps_pure (), guarded_show,
    fun _ _ => quiet_cancelAnyState, guarded_show, guarded_ask _,
    guarded_textQuestion _ _, guarded_telegramIdQuestion _ _,
    guarded_decimalQuestion _ _, guarded_decimalQuestion _ _,
    guarded_state fun _ => rfl, guarded_show, guarded_data ?toggle,
    guarded_startEditCommission, guarded_state fun _ => rfl,
    guarded_data ?report⟩
  case toggle => simp +contextual [isSensitive]
  case report => simp +contextual [isSensitive]

theorem guarded_walletAndDisputes :
    ∀ handler ∈ walletAndDisputes, IsGuarded state update handler := by
  simp only [walletAndDisputes, List.forall_mem_cons, List.not_mem_nil,
    false_implies, implies_true, and_true]
  refine ⟨guarded_show, guarded_show, guarded_data ?confirm, guarded_show,
    guarded_data ?approve, guarded_data ?reject⟩
  case confirm => simp +contextual [isSensitive]
  case approve => simp +contextual [isSensitive]
  case reject => simp +contextual [isSensitive]

theorem guarded_featuresAndSettings :
    ∀ handler ∈ featuresAndSettings, IsGuarded state update handler := by
  simp only [featuresAndSettings, List.forall_mem_cons, List.not_mem_nil,
    false_implies, implies_true, and_true]
  exact ⟨guarded_show, guarded_ask _, guarded_textQuestion _ _,
    guarded_textQuestion _ _, guarded_textQuestion _ _,
    guarded_state fun _ => rfl, guarded_show, guarded_ask _,
    guarded_telegramIdQuestion _ _, guarded_state fun _ => rfl,
    guarded_ask _, guarded_message fun _ => keeps_clear⟩

/-- An uploaded file is kept, or refused, and not restored. -/
theorem guarded_receiveRestoreFile :
    IsGuarded state update (receiveRestoreFile environment) := by
  apply guarded_message
  intro message
  apply (keeps_required _ _).bind
  intro document
  apply (quiet_setPendingRestore _ _).bind
  intro _
  cases validateBackupFile (environment.download document) with
  | error error =>
      exact (quiet_setPendingRestore _ _).bind fun _ => keeps_clear
  | ok data =>
      dsimp only
      split_ifs
      · exact keeps_nextQuestion _ _
      · exact Failing.keeps_throw _

theorem guarded_confirmRestoreCb :
    IsGuarded state update (confirmRestoreCb environment) := by
  unfold confirmRestoreCb onConfirmation
  apply guarded_data
  intro callback takes
  simp only [isSensitive]
  rw [takes, Bool.or_true]

theorem guarded_cancelRestoreCb :
    IsGuarded state update cancelRestoreCb := by
  unfold cancelRestoreCb onConfirmation
  apply guarded_callback
  intro callback
  apply keeps_getData.bind
  intro data
  cases data.restoreFilepath with
  | none => exact keeps_clear
  | some user =>
      exact (quiet_setPendingRestore user none).bind fun _ => keeps_clear

theorem guarded_backup :
    ∀ handler ∈ backup environment, IsGuarded state update handler := by
  simp only [backup, List.forall_mem_cons, List.not_mem_nil,
    false_implies, implies_true, and_true]
  refine ⟨guarded_show, guarded_data ?take, guarded_ask _,
    guarded_receiveRestoreFile, guarded_confirmRestoreCb,
    guarded_cancelRestoreCb⟩
  simp +contextual [isSensitive]

theorem guarded_handlers :
    ∀ handler ∈ handlers environment, IsGuarded state update handler := by
  simp only [handlers, List.forall_mem_append]
  exact ⟨⟨⟨guarded_resellerManagement, guarded_walletAndDisputes⟩,
    guarded_featuresAndSettings⟩, guarded_backup⟩

/-- The commands come to handlers that write nothing. -/
theorem quiet_of_command {script : AdminScript Unit}
    (command : isCommand update = true)
    (found : Handler.dispatch (handlers environment) state update =
      some script) :
    QuietScript script := by
  cases update with
  | callback callback => cases command
  | message message =>
      have isText : message.text = some "/start" ∨
          message.text = some "/cancel" := by
        simpa [isCommand] using command
      rcases isText with start | cancel
      · have takes : adminStart.takes state (.message message) = true := by
          simp [adminStart, onMessage, textIs, start]
        have first : Handler.dispatch (handlers environment) state
            (.message message) = some (adminStart.action (.message message)) :=
          Handler.dispatch_cons_of_takes takes
        obtain rfl := Option.some.inj (first.symm.trans found)
        exact Failing.keeps_pure ()
      · have passes : adminStart.takes state (.message message) = false := by
          simp [adminStart, onMessage, textIs, cancel]
        have takes : cancelAnyState.takes state (.message message) =
            true := by
          simp [cancelAnyState, onMessage, textIs, cancel]
        have second : Handler.dispatch (handlers environment) state
            (.message message) =
              some (cancelAnyState.action (.message message)) :=
          (Handler.dispatch_cons_of_not_takes passes).trans <|
            (Handler.dispatch_cons_of_not_takes rfl).trans <|
              Handler.dispatch_cons_of_takes takes
        obtain rfl := Option.some.inj (second.symm.trans found)
        exact quiet_cancelAnyState

/-- An update that is a command, or not meant for a handler that writes or
sends, changes nothing. -/
theorem quiet_of_dispatch {script : AdminScript Unit}
    (harmless : isCommand update = true ∨ isSensitive state update = false)
    (found : Handler.dispatch (handlers environment) state update =
      some script) :
    QuietScript script := by
  rcases harmless with command | harmless
  · exact quiet_of_command command found
  · exact Handler.of_dispatch
      (fun handler member takes =>
        guarded_handlers handler member takes harmless) found

end Handlers

end AdminBot

abbrev AdminWorld := BotWorld AdminState AdminData

/-- What may happen next: an update comes to the admin bot, or something else
changes what the bots share, such as another bot. -/
inductive AdminEvent where
  | received (update : Update)
  | elsewhere (change : Platform → Platform)

namespace AdminEvent

def step (environment : AdminEnvironment) (world : AdminWorld) :
    AdminEvent → AdminWorld
  | .received update => world.receive (AdminBot.handlers environment) update
  | .elsewhere change => { world with platform := change world.platform }

/-- Nobody but the super admin changes the database or is sent a document. -/
def RefusesStrangers (superAdmin : Int) (environment : AdminEnvironment)
    (world : AdminWorld) : AdminEvent → Prop
  | .received update =>
      update.sender ≠ superAdmin →
        (world.receive (AdminBot.handlers environment)
          update).platform.exposed = world.platform.exposed
  | .elsewhere _ => True

/-- What a stranger sends does not come to a handler that writes or sends. -/
def KeepsToQuietHandlers (superAdmin : Int) (world : AdminWorld) :
    AdminEvent → Prop
  | .received update =>
      update.sender ≠ superAdmin →
        AdminBot.isCommand update = true ∨
          AdminBot.isSensitive (world.conversationOf update).state update =
            false
  | .elsewhere _ => True

end AdminEvent

theorem exposed_receive {environment : AdminEnvironment} {world : AdminWorld}
    {update : Update}
    (harmless : AdminBot.isCommand update = true ∨
      AdminBot.isSensitive (world.conversationOf update).state update =
        false) :
    (world.receive (AdminBot.handlers environment) update).platform.exposed =
      world.platform.exposed := by
  unfold BotWorld.receive
  cases found : Handler.dispatch (AdminBot.handlers environment)
      (world.conversationOf update).state update with
  | none => simp [found]
  | some script =>
      simp only [found]
      exact AdminBot.quiet_of_dispatch harmless found
        ⟨world.platform, world.conversationOf update⟩

/-- In every run in which the updates of strangers do not come to the handlers
that write or send, strangers change nothing and are sent nothing. -/
theorem strangers_refused (superAdmin : Int) (environment : AdminEnvironment)
    (world : AdminWorld) (events : List AdminEvent)
    (quiet : StepRuns.Along (AdminEvent.step environment)
      (AdminEvent.KeepsToQuietHandlers superAdmin) world events) :
    StepRuns.Along (AdminEvent.step environment)
      (AdminEvent.RefusesStrangers superAdmin environment) world events := by
  have oneStep : ∀ (world : AdminWorld) (event : AdminEvent), True →
      AdminEvent.KeepsToQuietHandlers superAdmin world event →
      AdminEvent.RefusesStrangers superAdmin environment world event ∧
        True := by
    intro world event _ quietHere
    cases event with
    | elsewhere change => exact ⟨trivial, trivial⟩
    | received update =>
        exact ⟨fun stranger => exposed_receive (quietHere stranger), trivial⟩
  exact (StepRuns.along_of_guarded (fun _ => True) _ oneStep trivial quiet).1

section Examples

/-- An environment whose files are all unreadable. -/
def plainAdminEnvironment : AdminEnvironment where
  getMe _ := none
  encryptToken token := token
  download _ := .undecodable
  backupSize _ := 0
  restoreFromDict _ db := .ok db

/-- A shop whose reseller has asked for a top-up of 500.00. -/
def pendingTopupDb : Db :=
  .filled fun
    | .resellers => [shopReseller]
    | .walletTransactions =>
        [{ resellerId := 1, type := .topup, amount := 50000,
           status := .pending, reference := none }]
    | _ => []

def topupWorld : AdminWorld where
  platform := { db := pendingTopupDb }
  conversations _ := { data := ∅ }

/-- A stranger looks around, uploads a file, and gives up; the super admin
confirms the top-up. -/
def visitEvents : List AdminEvent :=
  [.received (.message { sender := 7, chat := 7, text := some "/start" }),
    .received (.callback ⟨7, 7, "backup_restore_start"⟩),
    .received (.message { sender := 7, chat := 7, document := some "file" }),
    .received (.callback ⟨1, 1, "topup_confirm:1"⟩),
    .received (.message { sender := 7, chat := 7, text := some "/cancel" })]

theorem strangers_refused_visit :
    StepRuns.Along (AdminEvent.step plainAdminEnvironment)
      (AdminEvent.RefusesStrangers 1 plainAdminEnvironment) topupWorld
      visitEvents := by
  apply strangers_refused
  refine ⟨?_, ?_, ?_, ?_, ?_, trivial⟩
  · exact fun _ => .inl (by decide)
  · exact fun _ => .inr (by decide +kernel)
  · exact fun _ => .inr (by decide +kernel)
  · exact fun stranger => (stranger rfl).elim
  · exact fun _ => .inl (by decide)

/-- A stranger confirms the top-up of a reseller, and is sent a backup. -/
theorem stranger_confirms_topup :
    let confirmed := topupWorld.receive
      (AdminBot.handlers plainAdminEnvironment)
      (.callback ⟨7, 7, "topup_confirm:1"⟩)
    let backedUp := topupWorld.receive
      (AdminBot.handlers plainAdminEnvironment)
      (.callback ⟨7, 7, "backup_take"⟩)
    (topupWorld.platform.db.row .resellers 1).map
        (·.walletCreditBalance) = some 1000 ∧
      (confirmed.platform.db.row .resellers 1).map
        (·.walletCreditBalance) = some 51000 ∧
      backedUp.platform.sent = [(7, .backup)] ∧
      ¬ AdminEvent.RefusesStrangers 1 plainAdminEnvironment topupWorld
        (.received (.callback ⟨7, 7, "topup_confirm:1"⟩)) := by
  intro confirmed backedUp
  have before : (topupWorld.platform.db.row .resellers 1).map
      (·.walletCreditBalance) = some 1000 := by
    decide +kernel
  have after : (confirmed.platform.db.row .resellers 1).map
      (·.walletCreditBalance) = some 51000 := by
    decide +kernel
  refine ⟨before, after, by decide +kernel, ?_⟩
  intro refused
  have unchanged := congrArg Prod.fst (refused (by decide))
  change confirmed.platform.db = topupWorld.platform.db at unchanged
  rw [unchanged, before] at after
  exact absurd after (by decide)

end Examples

end Baste
