import Baste.AdminBot
import Baste.Keyboards

/-!
# The buttons of the super admin's bot

The keyboards of the super admin, what their buttons are for, and that pressing
a button does what it is for.  Only the two buttons under the summary of an
uploaded backup depend on the state of the conversation.
-/

namespace Baste

open BotScripts

/-- The entries of the panel that need no argument. -/
inductive AdminItem where
  | home
  | resellers
  | addReseller
  | listResellers
  | report
  | wallet
  | topups
  | disputes
  | features
  | crypto
  | blacklist
  | addToBlacklist
  | broadcast
  | backup
  | takeBackup
  | startRestore

inductive AdminCommand where
  | item (item : AdminItem)
  | confirmRestore
  | cancelRestore
  | toggleReseller (resellerId : Nat) (status : ResellerStatus)
  | editCommission (resellerId : Nat)
  | confirmTopup (transactionId : Nat)
  | approveDispute (disputeId : Nat)
  | rejectDispute (disputeId : Nat)

def AdminItem.words : AdminItem → List FieldText
  | home => [⟨"amenu", by decide⟩, ⟨"home", FieldText.colon_notMem_home⟩]
  | resellers => [⟨"amenu", by decide⟩, ⟨"resellers", by decide⟩]
  | addReseller =>
      [⟨"amenu", by decide⟩, ⟨"resellers", by decide⟩,
        ⟨"add", FieldText.colon_notMem_add⟩]
  | listResellers =>
      [⟨"amenu", by decide⟩, ⟨"resellers", by decide⟩,
        ⟨"list", FieldText.colon_notMem_list⟩]
  | report => [⟨"amenu", by decide⟩, ⟨"report", by decide⟩]
  | wallet => [⟨"amenu", by decide⟩, ⟨"wallet", FieldText.colon_notMem_wallet⟩]
  | topups =>
      [⟨"amenu", by decide⟩, ⟨"wallet", FieldText.colon_notMem_wallet⟩,
        ⟨"topups", by decide⟩]
  | disputes =>
      [⟨"amenu", by decide⟩, ⟨"wallet", FieldText.colon_notMem_wallet⟩,
        ⟨"disputes", by decide⟩]
  | features => [⟨"amenu", by decide⟩, ⟨"features", by decide⟩]
  | crypto =>
      [⟨"amenu", by decide⟩, ⟨"features", by decide⟩, ⟨"crypto", by decide⟩]
  | blacklist =>
      [⟨"amenu", by decide⟩, ⟨"features", by decide⟩,
        ⟨"blacklist", by decide⟩]
  | addToBlacklist => [⟨"blacklist_add_start", by decide⟩]
  | broadcast =>
      [⟨"amenu", by decide⟩, ⟨"features", by decide⟩,
        ⟨"broadcast", by decide⟩]
  | backup => [⟨"amenu", by decide⟩, ⟨"backup", by decide⟩]
  | takeBackup => [⟨"backup_take", by decide⟩]
  | startRestore => [⟨"backup_restore_start", by decide⟩]

/-- The member of the enumeration as a text. -/
def ResellerStatus.word : ResellerStatus → FieldText
  | active => ⟨"active", by decide⟩
  | suspended => ⟨"suspended", by decide⟩

namespace AdminCommand

/-- The command as fields. -/
def fields : AdminCommand → List FieldText
  | .item chosen => chosen.words
  | .confirmRestore => [⟨"restore_confirm", by decide⟩]
  | .cancelRestore => [⟨"restore_cancel", by decide⟩]
  | .toggleReseller id status =>
      [⟨"reseller_toggle", by decide⟩, .ofNat id, status.word]
  | .editCommission id =>
      [⟨"reseller_edit_commission", by decide⟩, .ofNat id]
  | .confirmTopup id => [⟨"topup_confirm", by decide⟩, .ofNat id]
  | .approveDispute id => [⟨"dispute_approve", by decide⟩, .ofNat id]
  | .rejectDispute id => [⟨"dispute_reject", by decide⟩, .ofNat id]

/-- The callback data of a button with the command. -/
def data (command : AdminCommand) : String :=
  fieldData command.fields

end AdminCommand

namespace AdminBot

section Performing

def performItem (environment : AdminEnvironment) (sender chat : Int) :
    AdminItem → AdminScript Unit
  | .addReseller => setState .enteringBotToken
  | .report => answerDocument chat .platformReport
  | .crypto => setState .enteringCoin
  | .addToBlacklist => setState .enteringBlacklistId
  | .broadcast => setState .enteringBroadcastText
  | .takeBackup => do
      let sizeBytes ← query environment.backupSize
      let _ ← executeInsert .backupLogs (fun _ => true)
        ⟨sender, some sizeBytes, some "دستی از پنل مدیر کل"⟩
      answerDocument chat .backup
  | .startRestore => setState .waitingFile
  | .home | .resellers | .listResellers | .wallet | .topups | .disputes
  | .features | .blacklist | .backup => pure ()

/-- Restore the file that waits for a confirmation. -/
def performRestore (environment : AdminEnvironment) : AdminScript Unit := do
  let data ← getData
  let user ← required .keyError data.restoreFilepath
  let file := (← get).platform.pendingRestores user
  let restored ← query (safelyRestored environment (file.getD .missing))
  setPendingRestore user none
  match restored with
  | .ok db =>
      executeWrite fun _ => db
      clear
  | .error (.invalid _) => clear
  | .error _ => throw .backup

/-- Forget the file that waits for a confirmation. -/
def performCancel : AdminScript Unit := do
  let data ← getData
  match data.restoreFilepath with
  | some user => setPendingRestore user none
  | none => pure ()
  clear

/-- What a command does in a conversation with the state. -/
def perform (environment : AdminEnvironment) (sender chat : Int)
    (state : Option AdminState) : AdminCommand → AdminScript Unit
  | .item chosen => performItem environment sender chat chosen
  | .confirmRestore =>
      if state = some .waitingConfirmation then performRestore environment
      else pure ()
  | .cancelRestore =>
      if state = some .waitingConfirmation then performCancel else pure ()
  | .toggleReseller id status =>
      executeWrite (·.modify .resellers id ({ · with status := status }))
  | .editCommission id => do
      if (← query (·.row .resellers id)).isSome then
        updateData ({ · with editResellerId := some (id : Int) })
        setState .enteringNewCommissionPercent
  | .confirmTopup id => do let _ ← call (.confirmTopup id)
  | .approveDispute id => do let _ ← call (.approveDispute id)
  | .rejectDispute id => do let _ ← call (.rejectDispute id)

end Performing

section Routes

/-- The routes of all handlers but the two under a summary. -/
def panelRoutes : List (TextRoute Char) :=
  [.nothing, .exactly "amenu:home".toList, .nothing,
    .exactly "amenu:resellers".toList, .exactly "amenu:resellers:add".toList,
    .nothing, .nothing, .nothing, .nothing, .nothing,
    .exactly "amenu:resellers:list".toList,
    .starting "reseller_toggle:".toList,
    .starting "reseller_edit_commission:".toList, .nothing,
    .exactly "amenu:report".toList, .exactly "amenu:wallet".toList,
    .exactly "amenu:wallet:topups".toList, .starting "topup_confirm:".toList,
    .exactly "amenu:wallet:disputes".toList,
    .starting "dispute_approve:".toList, .starting "dispute_reject:".toList,
    .exactly "amenu:features".toList, .exactly "amenu:features:crypto".toList,
    .nothing, .nothing, .nothing, .nothing,
    .exactly "amenu:features:blacklist".toList,
    .exactly "blacklist_add_start".toList, .nothing, .nothing,
    .exactly "amenu:features:broadcast".toList, .nothing,
    .exactly "amenu:backup".toList, .exactly "backup_take".toList,
    .exactly "backup_restore_start".toList, .nothing]

def confirmationRoutes : List (TextRoute Char) :=
  [.exactly "restore_confirm".toList, .exactly "restore_cancel".toList]

def callbackRoutes : List (TextRoute Char) :=
  panelRoutes ++ confirmationRoutes

theorem apart_callbackRoutes :
    callbackRoutes.Pairwise fun first second => first.apart second = true := by
  simp only [callbackRoutes, panelRoutes, confirmationRoutes,
    String.reduceToList]
  decide +kernel

variable {environment : AdminEnvironment} {state : Option AdminState}
variable {callback : Callback}

theorem follows_onConfirmation {text : String}
    {action : Callback → AdminScript Unit} :
    FollowsData state callback (onConfirmation text action)
      (.exactly text.toList) :=
  fun takes => @takes_of_dataIs _ state _ _ ((Bool.and_eq_true _ _).mp takes).2

/-- All handlers but the two under a summary. -/
def panelHandlers (environment : AdminEnvironment) : List AdminHandler :=
  resellerManagement environment ++ walletAndDisputes ++ featuresAndSettings ++
    [backupMenu, takeBackupCb environment, startRestoreCb,
      receiveRestoreFile environment]

theorem handlers_eq (environment : AdminEnvironment) :
    handlers environment = panelHandlers environment ++
      [confirmRestoreCb environment, cancelRestoreCb] := by
  simp only [handlers, panelHandlers, backup, List.append_assoc,
    List.cons_append, List.nil_append]

theorem follow_panelHandlers :
    List.Forall₂ (FollowsData state callback) (panelHandlers environment)
      panelRoutes := by
  simp only [panelHandlers, resellerManagement, walletAndDisputes,
    featuresAndSettings, List.cons_append, List.nil_append, panelRoutes]
  repeat' apply List.Forall₂.cons
  all_goals first
    | exact follows_dataStarts
    | exact follows_dataIs
    | exact follows_onMessage
    | exact List.Forall₂.nil

theorem follow_handlers :
    List.Forall₂ (FollowsData state callback) (handlers environment)
      callbackRoutes := by
  rw [handlers_eq]
  exact List.rel_append follow_panelHandlers
    (.cons follows_onConfirmation (.cons follows_onConfirmation .nil))

/-- No callback query is taken by two handlers. -/
theorem unambiguous_callback :
    Handler.Unambiguous (handlers environment) state (.callback callback) :=
  Handler.unambiguous_of_follows follow_handlers apart_callbackRoutes

end Routes

section Commands

variable {environment : AdminEnvironment} {sender chat : Int}
variable {command : AdminCommand} {handler : AdminHandler}

/-- The handler takes the data of the command, in every state, and does what
the command says. -/
structure Handles (environment : AdminEnvironment) (sender chat : Int)
    (command : AdminCommand) (handler : AdminHandler) : Prop where
  takes : ∀ state,
    handler.takes state (.callback ⟨sender, chat, command.data⟩) = true
  does : ∀ state, handler.action (.callback ⟨sender, chat, command.data⟩) =
    perform environment sender chat state command

theorem Handles.of_dataIs {text : String}
    {action : Callback → AdminScript Unit} (same : command.data = text)
    (does : ∀ state, action ⟨sender, chat, command.data⟩ =
      perform environment sender chat state command) :
    Handles environment sender chat command
      (onCallback (dataIs text) action) :=
  ⟨fun _ => decide_eq_true same, does⟩

theorem Handles.of_dataStarts {start : String}
    {action : Callback → AdminScript Unit} (first rest : List FieldText)
    (fields : command.fields = first ++ rest)
    (isStart : fieldData first ++ ":" = start) (some_ : first ≠ [])
    (more : rest ≠ [])
    (does : ∀ state, action ⟨sender, chat, command.data⟩ =
      perform environment sender chat state command) :
    Handles environment sender chat command
      (onCallback (dataStarts start) action) where
  takes state := by
    change dataStarts start state (fieldData command.fields) = true
    rw [fields]
    exact dataStarts_fieldData isStart some_ more state
  does := does

theorem handles_item (chosen : AdminItem) :
    ∃ handler ∈ handlers environment,
      Handles environment sender chat (.item chosen) handler := by
  have inResellers : ∀ {handler : AdminHandler},
      handler ∈ resellerManagement environment →
        handler ∈ handlers environment :=
    fun member => by simp [handlers, member]
  have inWallet : ∀ {handler : AdminHandler}, handler ∈ walletAndDisputes →
      handler ∈ handlers environment :=
    fun member => by simp [handlers, member]
  have inFeatures : ∀ {handler : AdminHandler},
      handler ∈ featuresAndSettings → handler ∈ handlers environment :=
    fun member => by simp [handlers, member]
  have inBackup : ∀ {handler : AdminHandler}, handler ∈ backup environment →
      handler ∈ handlers environment :=
    fun member => by simp [handlers, member]
  cases chosen with
  | home =>
      exact ⟨backHome, inResellers (by simp [resellerManagement]),
        .of_dataIs rfl fun _ => rfl⟩
  | resellers =>
      exact ⟨resellersMenu, inResellers (by simp [resellerManagement]),
        .of_dataIs rfl fun _ => rfl⟩
  | addReseller =>
      exact ⟨startAddResellerCb, inResellers (by simp [resellerManagement]),
        .of_dataIs rfl fun _ => rfl⟩
  | listResellers =>
      exact ⟨listResellersCb, inResellers (by simp [resellerManagement]),
        .of_dataIs rfl fun _ => rfl⟩
  | report =>
      exact ⟨platformReportCb, inResellers (by simp [resellerManagement]),
        .of_dataIs rfl fun _ => rfl⟩
  | wallet =>
      exact ⟨walletMenu, inWallet (by simp [walletAndDisputes]),
        .of_dataIs rfl fun _ => rfl⟩
  | topups =>
      exact ⟨listPendingTopupsCb, inWallet (by simp [walletAndDisputes]),
        .of_dataIs rfl fun _ => rfl⟩
  | disputes =>
      exact ⟨listPendingDisputesCb, inWallet (by simp [walletAndDisputes]),
        .of_dataIs rfl fun _ => rfl⟩
  | features =>
      exact ⟨featuresMenu, inFeatures (by simp [featuresAndSettings]),
        .of_dataIs rfl fun _ => rfl⟩
  | crypto =>
      exact ⟨startSetCrypto, inFeatures (by simp [featuresAndSettings]),
        .of_dataIs rfl fun _ => rfl⟩
  | blacklist =>
      exact ⟨showBlacklistCb, inFeatures (by simp [featuresAndSettings]),
        .of_dataIs rfl fun _ => rfl⟩
  | addToBlacklist =>
      exact ⟨startBlacklistAdd, inFeatures (by simp [featuresAndSettings]),
        .of_dataIs rfl fun _ => rfl⟩
  | broadcast =>
      exact ⟨startBroadcast, inFeatures (by simp [featuresAndSettings]),
        .of_dataIs rfl fun _ => rfl⟩
  | backup =>
      exact ⟨backupMenu, inBackup (by simp [backup]),
        .of_dataIs rfl fun _ => rfl⟩
  | takeBackup =>
      exact ⟨takeBackupCb environment, inBackup (by simp [backup]),
        .of_dataIs rfl fun _ => rfl⟩
  | startRestore =>
      exact ⟨startRestoreCb, inBackup (by simp [backup]),
        .of_dataIs rfl fun _ => rfl⟩

/-- A handler with an id in its callback data. -/
theorem handles_id {id : Nat} {word : FieldText} {start : String}
    {handler : AdminHandler} {action : Nat → AdminScript Unit}
    (isHandler : handler = onCallback (dataStarts start) fun callback => do
      let number ← integerField callback 1
      action (rowId number))
    (fields : command.fields = [word, .ofNat id])
    (isStart : fieldData [word] ++ ":" = start)
    (does : ∀ state, action id =
      perform environment sender chat state command) :
    Handles environment sender chat command handler := by
  subst isHandler
  refine .of_dataStarts [word] [.ofNat id] fields isStart
    (List.cons_ne_nil _ _) (List.cons_ne_nil _ _) fun state => ?_
  have read : (integerField ⟨sender, chat, command.data⟩ 1 :
      AdminScript Int) = pure (id : Int) := by
    rw [AdminCommand.data, fields]
    exact integerField_fieldData rfl
  rw [read, pure_bind, rowId, Int.toNat_natCast, does state]

theorem handles_confirmTopup (id : Nat) :
    Handles environment sender chat (.confirmTopup id) confirmTopupCb :=
  @handles_id _ _ _ _ id ⟨"topup_confirm", by decide⟩ _ _
    (fun id => do let _ ← call (.confirmTopup id)) rfl rfl rfl fun _ => rfl

theorem handles_approveDispute (id : Nat) :
    Handles environment sender chat (.approveDispute id) approveDisputeCb :=
  @handles_id _ _ _ _ id ⟨"dispute_approve", by decide⟩ _ _
    (fun id => do let _ ← call (.approveDispute id)) rfl rfl rfl fun _ => rfl

theorem handles_rejectDispute (id : Nat) :
    Handles environment sender chat (.rejectDispute id) rejectDisputeCb :=
  @handles_id _ _ _ _ id ⟨"dispute_reject", by decide⟩ _ _
    (fun id => do let _ ← call (.rejectDispute id)) rfl rfl rfl fun _ => rfl

theorem handles_editCommission (id : Nat) :
    Handles environment sender chat (.editCommission id)
      startEditCommission := by
  refine .of_dataStarts [_] [.ofNat id] rfl rfl (List.cons_ne_nil _ _)
    (List.cons_ne_nil _ _) fun state => ?_
  have read : (integerField ⟨sender, chat,
      (AdminCommand.editCommission id).data⟩ 1 : AdminScript Int) =
        pure (id : Int) :=
    integerField_fieldData rfl
  rw [read]
  rfl

theorem handles_toggleReseller (id : Nat) (status : ResellerStatus) :
    Handles environment sender chat (.toggleReseller id status)
      toggleResellerStatus := by
  refine .of_dataStarts [_] [.ofNat id, status.word] rfl rfl
    (List.cons_ne_nil _ _) (List.cons_ne_nil _ _) fun state => ?_
  have split : dataFields (AdminCommand.toggleReseller id status).data =
      ["reseller_toggle", toString id, status.word.val] :=
    dataFields_fieldData (List.cons_ne_nil _ _)
  have isStatus : readResellerStatus status.word.val = some status := by
    cases status <;> rfl
  dsimp only
  rw [split]
  dsimp only
  rw [typedInteger_repr, isStatus]
  rfl

/-- Every command besides the two under a summary has its handler. -/
theorem exists_handles (environment : AdminEnvironment) (sender chat : Int)
    (command : AdminCommand) (noConfirm : command ≠ .confirmRestore)
    (noCancel : command ≠ .cancelRestore) :
    ∃ handler ∈ handlers environment,
      Handles environment sender chat command handler := by
  cases command with
  | item chosen => exact handles_item chosen
  | confirmRestore => exact absurd rfl noConfirm
  | cancelRestore => exact absurd rfl noCancel
  | toggleReseller id status =>
      exact ⟨_, by simp [handlers, resellerManagement],
        handles_toggleReseller id status⟩
  | editCommission id =>
      exact ⟨_, by simp [handlers, resellerManagement],
        handles_editCommission id⟩
  | confirmTopup id =>
      exact ⟨confirmTopupCb, by simp [handlers, walletAndDisputes],
        handles_confirmTopup id⟩
  | approveDispute id =>
      exact ⟨approveDisputeCb, by simp [handlers, walletAndDisputes],
        handles_approveDispute id⟩
  | rejectDispute id =>
      exact ⟨rejectDisputeCb, by simp [handlers, walletAndDisputes],
        handles_rejectDispute id⟩

theorem panelRoutes_not_takes :
    ∀ text ∈ ["restore_confirm".toList, "restore_cancel".toList],
      ∀ route ∈ panelRoutes, route.takes text = false := by
  simp only [panelRoutes, String.reduceToList]
  decide +kernel

/-- While no summary waits for an answer, nobody answers its buttons. -/
theorem dispatch_elsewhere {callback : Callback} {state : Option AdminState}
    (elsewhere : state ≠ some .waitingConfirmation)
    (onNone : ∀ route ∈ panelRoutes,
      route.takes callback.data.toList = false) :
    Handler.dispatch (handlers environment) state (.callback callback) =
      none := by
  have unasked : ∀ {text : String} {action : Callback → AdminScript Unit},
      (onConfirmation text action).takes state (.callback callback) =
        false :=
    Bool.and_eq_false_iff.mpr (.inl (decide_eq_false elsewhere))
  have inPanel := Handler.dispatch_eq_none_iff.mp
    (Handler.dispatch_eq_none_of_follows
      (@follow_panelHandlers environment state callback) onNone)
  rw [handlers_eq, Handler.dispatch_eq_none_iff]
  intro handler member
  rcases List.mem_append.mp member with isPanel | confirmation
  · exact inPanel handler isPanel
  · rcases List.mem_pair.mp confirmation with rfl | rfl
    · exact unasked
    · exact unasked

/-- The two buttons under a summary. -/
theorem dispatch_confirmation {text : String}
    {action : Callback → AdminScript Unit} {state : Option AdminState}
    (member : onConfirmation text action ∈ handlers environment)
    (listed : text.toList ∈
      ["restore_confirm".toList, "restore_cancel".toList]) :
    Handler.dispatch (handlers environment) state
        (.callback ⟨sender, chat, text⟩) =
      if state = some .waitingConfirmation then
        some (action ⟨sender, chat, text⟩)
      else none := by
  split
  · next asked =>
    have takes : (onConfirmation text action).takes state
        (.callback ⟨sender, chat, text⟩) = true :=
      Bool.and_eq_true_iff.mpr ⟨decide_eq_true asked, decide_eq_true rfl⟩
    exact Handler.dispatch_of_unambiguous unambiguous_callback member takes
  · next elsewhere =>
    exact dispatch_elsewhere elsewhere
      (panelRoutes_not_takes text.toList listed)

end Commands

end AdminBot

end Baste
