import Baste.BotUpdates

/-!
# The bot of the super admin

The handlers of the admin panel: resellers, top-ups and disputes, settings and
the blacklist, backup and restore.
-/

namespace Baste

inductive AdminState where
  | enteringBotToken
  | enteringTelegramId
  | enteringCommissionPercent
  | enteringCreditLimit
  | enteringOrderPrefix
  | enteringNewCommissionPercent
  | enteringCoin
  | enteringAddress
  | enteringNetwork
  | enteringPrice
  | enteringBlacklistId
  | enteringBlacklistReason
  | enteringBroadcastText
  | waitingFile
  | waitingConfirmation
  deriving DecidableEq, Repr

/-- The data of a conversation, with the value of each key that is set. -/
structure AdminData where
  botToken : Option String := none
  telegramNumericId : Option Int := none
  commissionPercent : Option Numerals.Decimal := none
  creditLimitNegative : Option Numerals.Decimal := none
  editResellerId : Option Int := none
  coin : Option String := none
  address : Option String := none
  network : Option String := none
  telegramId : Option Int := none
  restoreFilepath : Option Int := none

instance : EmptyCollection AdminData := ⟨{}⟩

abbrev AdminHandler := BotHandler AdminState AdminData

abbrev AdminScript (Result : Type) := BotScript AdminState AdminData Result

/-- What the handlers use of Telegram, of the key for the tokens and of the
server: the name of the bot with a token, the encryption of a token, the
content of an uploaded file, the size of a backup, and what the database
becomes when a document is restored. -/
structure AdminEnvironment where
  getMe : String → Option String
  encryptToken : String → String
  download : String → FileContent
  backupSize : Db → Nat
  restoreFromDict : BackupData → Db → Except RestoreError Db

namespace AdminBot

open BotScripts

section ResellerManagement

def adminStart : AdminHandler :=
  onMessage (textIs "/start") fun _ => pure ()

def backHome : AdminHandler :=
  onCallback (dataIs "amenu:home") fun _ => pure ()

def cancelAnyState : AdminHandler :=
  onMessage (textIs "/cancel") fun _ => do
    if (← getState).isSome then clear

def resellersMenu : AdminHandler :=
  onCallback (dataIs "amenu:resellers") fun _ => pure ()

def startAddResellerCb : AdminHandler :=
  onCallback (dataIs "amenu:resellers:add") fun _ =>
    setState .enteringBotToken

def receiveBotToken : AdminHandler :=
  onMessage (inState .enteringBotToken) fun message => do
    let token ← strippedText message
    updateData ({ · with botToken := some token })
    setState .enteringTelegramId

/-- The number of a stripped text whose characters after the minus signs are
digits.  For any other text the bot asks again, or `int` raises. -/
def readTelegramId (text : String) : Option Int :=
  let digits := text.toList.dropWhile (· = '-')
  if digits ≠ [] ∧ digits.all Numerals.isDigit then
    Numerals.readInteger text.toList
  else none

def receiveTelegramId : AdminHandler :=
  onMessage (inState .enteringTelegramId) fun message => do
    match readTelegramId (← strippedText message) with
    | none => pure ()
    | some id =>
        updateData ({ · with telegramNumericId := some id })
        setState .enteringCommissionPercent

def receiveCommission : AdminHandler :=
  onMessage (inState .enteringCommissionPercent) fun message => do
    match typedDecimal (← textOf message) with
    | none => pure ()
    | some percent =>
        updateData ({ · with commissionPercent := some percent })
        setState .enteringCreditLimit

def receiveCreditLimit : AdminHandler :=
  onMessage (inState .enteringCreditLimit) fun message => do
    match typedDecimal (← textOf message) with
    | none => pure ()
    | some limit =>
        updateData ({ · with creditLimitNegative := some limit })
        setState .enteringOrderPrefix

/-- The prefix fits into its column and no other reseller has it. -/
def prefixAllowed (orderPrefix : String) (db : Db) : Bool :=
  orderPrefix.length ≤ 8 &&
    db.idsWhere .resellers (·.orderPrefix = orderPrefix) = []

def receiveOrderPrefixAndSave (environment : AdminEnvironment) :
    AdminHandler :=
  onMessage (inState .enteringOrderPrefix) fun message => do
    let data ← getData
    let orderPrefix := Uppercase.upper (← strippedText message)
    -- A missing token is caught together with one that the server refuses.
    match data.botToken.bind fun token =>
      (environment.getMe token).map (token, ·) with
    | none => clear
    | some (token, username) =>
        let telegramNumericId ← required .keyError data.telegramNumericId
        let commissionPercent ← required .keyError data.commissionPercent
        let creditLimit ← required .keyError data.creditLimitNegative
        let row : ResellerRow :=
          { botTokenEncrypted := environment.encryptToken token
            botUsername := username
            telegramNumericId := telegramNumericId
            orderPrefix := orderPrefix
            commissionPercent := ← storedAmount commissionPercent
            walletCreditBalance := 0
            creditLimitNegative := ← storedAmount creditLimit
            testModeEnabled := false
            testModeOrderLimit := 0
            testModeOrdersUsed := 0 }
        let _ ← executeInsert .resellers (prefixAllowed orderPrefix) row
        clear

def listResellersCb : AdminHandler :=
  onCallback (dataIs "amenu:resellers:list") fun _ => pure ()

/-- The member of the column's enumeration. -/
def readResellerStatus : String → Option ResellerStatus
  | "active" => some .active
  | "suspended" => some .suspended
  | _ => none

def toggleResellerStatus : AdminHandler :=
  onCallback (dataStarts "reseller_toggle:") fun callback => do
    match dataFields callback.data with
    | [_, resellerId, newStatus] =>
        let resellerId ← required .valueError (typedInteger resellerId)
        let status ← required (.service .dataError)
          (readResellerStatus newStatus)
        executeWrite (·.modify .resellers (rowId resellerId)
          ({ · with status := status }))
    | _ => throw .valueError

def startEditCommission : AdminHandler :=
  onCallback (dataStarts "reseller_edit_commission:") fun callback => do
    let resellerId ← integerField callback 1
    if (← query (·.row .resellers (rowId resellerId))).isSome then
      updateData ({ · with editResellerId := some resellerId })
      setState .enteringNewCommissionPercent

def receiveNewCommissionAndSave : AdminHandler :=
  onMessage (inState .enteringNewCommissionPercent) fun message => do
    match typedDecimal (← textOf message) with
    | none | some (.infinity _) => pure ()
    | some .nan => throw .invalidOperation
    | some (.finite percent) =>
        if percent < 0 ∨ 100 < percent then pure ()
        else
          let data ← getData
          let resellerId ← required .keyError data.editResellerId
          executeWrite (·.modify .resellers (rowId resellerId)
            ({ · with commissionPercent := storeDecimal percent }))
          clear

/-- Send a document to the chat of an update. -/
def answerDocument (chat : Int) (document : Document) : AdminScript Unit :=
  modify fun visit =>
    { visit with platform.sent := visit.platform.sent ++ [(chat, document)] }

def platformReportCb : AdminHandler :=
  onCallback (dataIs "amenu:report") fun callback =>
    answerDocument callback.chat .platformReport

/-- The router in `reseller_management.py`. -/
def resellerManagement (environment : AdminEnvironment) :
    List AdminHandler :=
  [adminStart, backHome, cancelAnyState, resellersMenu, startAddResellerCb,
    receiveBotToken, receiveTelegramId, receiveCommission, receiveCreditLimit,
    receiveOrderPrefixAndSave environment, listResellersCb,
    toggleResellerStatus, startEditCommission, receiveNewCommissionAndSave,
    platformReportCb]

end ResellerManagement

section WalletAndDisputes

def walletMenu : AdminHandler :=
  onCallback (dataIs "amenu:wallet") fun _ => pure ()

def listPendingTopupsCb : AdminHandler :=
  onCallback (dataIs "amenu:wallet:topups") fun _ => pure ()

def confirmTopupCb : AdminHandler :=
  onCallback (dataStarts "topup_confirm:") fun callback => do
    let transactionId ← integerField callback 1
    let _ ← call (.confirmTopup (rowId transactionId))

def listPendingDisputesCb : AdminHandler :=
  onCallback (dataIs "amenu:wallet:disputes") fun _ => pure ()

def approveDisputeCb : AdminHandler :=
  onCallback (dataStarts "dispute_approve:") fun callback => do
    let disputeId ← integerField callback 1
    let _ ← call (.approveDispute (rowId disputeId))

def rejectDisputeCb : AdminHandler :=
  onCallback (dataStarts "dispute_reject:") fun callback => do
    let disputeId ← integerField callback 1
    let _ ← call (.rejectDispute (rowId disputeId))

/-- The router in `wallet_and_disputes.py`. -/
def walletAndDisputes : List AdminHandler :=
  [walletMenu, listPendingTopupsCb, confirmTopupCb, listPendingDisputesCb,
    approveDisputeCb, rejectDisputeCb]

end WalletAndDisputes

section FeaturesAndSettings

def featuresMenu : AdminHandler :=
  onCallback (dataIs "amenu:features") fun _ => pure ()

def startSetCrypto : AdminHandler :=
  onCallback (dataIs "amenu:features:crypto") fun _ => setState .enteringCoin

def receiveCoin : AdminHandler :=
  onMessage (inState .enteringCoin) fun message => do
    let coin ← strippedText message
    updateData ({ · with coin := some coin })
    setState .enteringAddress

def receiveAddress : AdminHandler :=
  onMessage (inState .enteringAddress) fun message => do
    let address ← strippedText message
    updateData ({ · with address := some address })
    setState .enteringNetwork

def receiveNetwork : AdminHandler :=
  onMessage (inState .enteringNetwork) fun message => do
    let network ← strippedText message
    updateData ({ · with network := some network })
    setState .enteringPrice

/-- `upsert_crypto_setting` -/
def upsertCryptoSetting (coinName address network : String)
    (price : Numerals.Decimal) : AdminScript Unit := do
  match ← query (·.idsWhere .cryptoSettings (·.coinName = coinName)) with
  | existing :: _ =>
      let price ← storedAmount price
      executeWrite (·.modify .cryptoSettings existing
        ({ · with address := address, network := network, price := price }))
  | [] =>
      let _ ← executeInsert .cryptoSettings
        (fun _ => coinName.length ≤ 32 && address.length ≤ 128 &&
          network.length ≤ 32)
        ⟨coinName, address, network, ← storedAmount price⟩

def receivePriceAndSave : AdminHandler :=
  onMessage (inState .enteringPrice) fun message => do
    match typedDecimal (← textOf message) with
    | none => pure ()
    | some price =>
        let data ← getData
        let coin ← required .keyError data.coin
        let address ← required .keyError data.address
        let network ← required .keyError data.network
        upsertCryptoSetting coin address network price
        clear

def showBlacklistCb : AdminHandler :=
  onCallback (dataIs "amenu:features:blacklist") fun _ => pure ()

def startBlacklistAdd : AdminHandler :=
  onCallback (dataIs "blacklist_add_start") fun _ =>
    setState .enteringBlacklistId

def receiveBlacklistId : AdminHandler :=
  onMessage (inState .enteringBlacklistId) fun message => do
    match readTelegramId (← strippedText message) with
    | none => pure ()
    | some id =>
        updateData ({ · with telegramId := some id })
        setState .enteringBlacklistReason

/-- `add_to_blacklist` -/
def addToBlacklist (telegramUserId : Int) (reason : String)
    (resellerId : Option Nat) (isGlobal : Bool) : AdminScript Unit := do
  let _ ← executeInsert .blacklist (fun _ => reason.length ≤ 255)
    ⟨telegramUserId, resellerId, some reason, isGlobal⟩

def receiveBlacklistReasonAndSave : AdminHandler :=
  onMessage (inState .enteringBlacklistReason) fun message => do
    let data ← getData
    let text ← strippedText message
    let reason := if text = "-" then "بدون دلیل ثبت‌شده" else text
    let telegramId ← required .keyError data.telegramId
    addToBlacklist telegramId reason none true
    clear

def startBroadcast : AdminHandler :=
  onCallback (dataIs "amenu:features:broadcast") fun _ =>
    setState .enteringBroadcastText

def receiveBroadcastTextAndSend : AdminHandler :=
  onMessage (inState .enteringBroadcastText) fun _ => clear

/-- The router in `features_and_settings.py`. -/
def featuresAndSettings : List AdminHandler :=
  [featuresMenu, startSetCrypto, receiveCoin, receiveAddress, receiveNetwork,
    receivePriceAndSave, showBlacklistCb, startBlacklistAdd,
    receiveBlacklistId, receiveBlacklistReasonAndSave, startBroadcast,
    receiveBroadcastTextAndSend]

end FeaturesAndSettings

section Backups

def backupMenu : AdminHandler :=
  onCallback (dataIs "amenu:backup") fun _ => pure ()

def takeBackupCb (environment : AdminEnvironment) : AdminHandler :=
  onCallback (dataIs "backup_take") fun callback => do
    let sizeBytes ← query environment.backupSize
    let _ ← executeInsert .backupLogs (fun _ => true)
      ⟨callback.sender, some sizeBytes, some "دستی از پنل مدیر کل"⟩
    answerDocument callback.chat .backup

def startRestoreCb : AdminHandler :=
  onCallback (dataIs "backup_restore_start") fun _ => setState .waitingFile

/-- The file `pending_restore_<user>.json`. -/
def setPendingRestore (user : Int) (file : Option FileContent) :
    AdminScript Unit :=
  modify fun visit =>
    { visit with platform.pendingRestores :=
        Function.update visit.platform.pendingRestores user file }

/-- `len` of a table of the document. -/
def hasLength : Json → Bool
  | .array _ | .object _ | .string _ => true
  | _ => false

def receiveRestoreFile (environment : AdminEnvironment) : AdminHandler :=
  onMessage (fun state message =>
      inState .waitingFile state message && message.document.isSome)
    fun message => do
      let document ← required .attributeError message.document
      let file := environment.download document
      setPendingRestore message.sender (some file)
      match validateBackupFile file with
      | .error _ =>
          setPendingRestore message.sender none
          clear
      | .ok data =>
          if data.tables.all fun table => hasLength table.2 then
            updateData ({ · with restoreFilepath := some message.sender })
            setState .waitingConfirmation
          else throw .typeError

/-- The handlers of the buttons under the summary of an uploaded file. -/
def onConfirmation (data : String) (action : Callback → AdminScript Unit) :
    AdminHandler :=
  onCallback (fun state found =>
    state = some .waitingConfirmation && dataIs data state found) action

/-- `perform_safe_restore`, without the safety backup. -/
def safelyRestored (environment : AdminEnvironment) (file : FileContent)
    (db : Db) : Except SafeRestoreError Db :=
  match validateBackupFile file with
  | .error error => .error (.invalid error)
  | .ok data => (environment.restoreFromDict data db).mapError .failed

def confirmRestoreCb (environment : AdminEnvironment) : AdminHandler :=
  onConfirmation "restore_confirm" fun _ => do
    let data ← getData
    let user ← required .keyError data.restoreFilepath
    let file := (← get).platform.pendingRestores user
    let restored ← query (safelyRestored environment (file.getD .missing))
    setPendingRestore user none
    match restored with
    | .ok db =>
        executeWrite fun _ => db
        clear
    | .error (.invalid _) => clear
    | .error _ => throw .backup

def cancelRestoreCb : AdminHandler :=
  onConfirmation "restore_cancel" fun _ => do
    let data ← getData
    match data.restoreFilepath with
    | some user => setPendingRestore user none
    | none => pure ()
    clear

/-- The router in `backup.py`. -/
def backup (environment : AdminEnvironment) : List AdminHandler :=
  [backupMenu, takeBackupCb environment, startRestoreCb,
    receiveRestoreFile environment, confirmRestoreCb environment,
    cancelRestoreCb]

end Backups

/-- `register_admin_handlers` -/
def handlers (environment : AdminEnvironment) : List AdminHandler :=
  resellerManagement environment ++ walletAndDisputes ++
    featuresAndSettings ++ backup environment

end AdminBot

end Baste
