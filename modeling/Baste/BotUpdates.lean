import Baste.BackupService
import Baste.Dispatchers
import Baste.ServiceCalls
import Baste.TypedText
import Baste.Uppercase

/-!
# Updates of a bot

What users send to a bot, the conversation that a bot keeps with each user in
each chat, and the scripts with which it handles an update.  A script changes
the platform and the conversation step by step; when it raises, what it has
done stays done.  The texts that the bots answer are left out.
-/

namespace Baste

structure Contact where
  phoneNumber : String

structure Message where
  sender : Int
  chat : Int
  text : Option String := none
  caption : Option String := none
  photo : Option String := none
  document : Option String := none
  contact : Option Contact := none

/-- The press of a button, with the data of the button or with any other. -/
structure Callback where
  sender : Int
  chat : Int
  data : String

inductive Update where
  | message (message : Message)
  | callback (callback : Callback)

namespace Update

def sender : Update → Int
  | .message sent => sent.sender
  | .callback pressed => pressed.sender

def chat : Update → Int
  | .message sent => sent.chat
  | .callback pressed => pressed.chat

end Update

/-- The state and the data of a conversation. -/
structure Conversation (State Data : Type) where
  state : Option State := none
  data : Data

/-- The documents that the bot of the super admin sends. -/
inductive Document where
  | backup
  | platformReport
  deriving DecidableEq, Repr

/-- A new price of a package that waits for a confirmation. -/
structure PendingEditPrice where
  packageId : Int
  salePrice : Numerals.Decimal

/-- What all bots work on: the database, the uploaded backups that wait for a
confirmation, by user, the documents sent, by chat, and the suspicious prices
that wait for a confirmation, by token. -/
structure Platform where
  db : Db
  pendingRestores : Int → Option FileContent := fun _ => none
  sent : List (Int × Document) := []
  pendingPriceConfirmations : String → Option Numerals.Decimal :=
    fun _ => none
  pendingEditPriceConfirmations : String → Option PendingEditPrice :=
    fun _ => none

inductive HandlerError where
  | service (error : ServiceError)
  | valueError
  | indexError
  | attributeError
  | typeError
  | keyError
  | invalidOperation
  | backup
  | lost
  deriving DecidableEq

/-- What the script of a handler works on. -/
structure Visit (State Data : Type) where
  platform : Platform
  conversation : Conversation State Data

/-- The script of a handler. -/
abbrev BotScript (State Data Result : Type) :=
  Failing HandlerError (Visit State Data) Result

abbrev BotHandler (State Data : Type) :=
  Handler (Option State) Update (BotScript State Data Unit)

namespace BotScripts

section Scripts

variable {State Data Result : Type}

/-- `state.set_state` -/
def setState (state : State) : BotScript State Data Unit :=
  modify fun visit =>
    { visit with conversation.state := some state }

/-- `state.get_state` -/
def getState : BotScript State Data (Option State) :=
  return (← get).conversation.state

/-- `state.update_data` -/
def updateData (change : Data → Data) : BotScript State Data Unit :=
  modify fun visit =>
    { visit with conversation.data := change visit.conversation.data }

/-- `state.get_data` -/
def getData : BotScript State Data Data :=
  return (← get).conversation.data

/-- `state.clear` -/
def clear [EmptyCollection Data] : BotScript State Data Unit :=
  modify fun visit => { visit with conversation := { data := ∅ } }

/-- A read of the database. -/
def query (read : Db → Result) : BotScript State Data Result :=
  return read (← get).platform.db

/-- The value of an optional, or an error. -/
def required (error : HandlerError) :
    Option Result → BotScript State Data Result
  | some value => return value
  | none => throw error

/-- Call a service function and catch what it raises. -/
def attempt (service : ServiceCall) : BotScript State Data Outcome := do
  let (db, outcome) := service.program.runAlone none (← get).platform.db
  modify fun visit => { visit with platform.db := db }
  required .lost outcome

/-- Call a service function. -/
def call (service : ServiceCall) : BotScript State Data Reply := do
  match ← attempt service with
  | .ok reply => return reply
  | .error error => throw (.service error)

/-- Update or delete rows. -/
def executeWrite (change : Db → Db) : BotScript State Data Unit :=
  modify fun visit =>
    { visit with platform.db := change visit.platform.db }

/-- Insert a row if the constraints allow it. -/
def executeInsert (name : TableName) (allowed : Db → Bool) (row : RowOf name) :
    BotScript State Data Nat := do
  let id ← query (·.nextId name)
  executeWrite (·.reserve name)
  if ← query allowed then
    executeWrite (·.put name id row)
    return id
  else throw (.service .integrityError)

/-- Update a row if its columns can hold the new values. -/
def executeUpdate (name : TableName) (id : Nat) (held : Bool)
    (change : RowOf name → RowOf name) : BotScript State Data Unit := do
  if held || (← query fun db => (db.row name id).isNone) then
    executeWrite (·.modify name id change)
  else throw (.service .dataError)

/-- The value of a `DECIMAL(_, 2)` column that is given a decimal.  The server
refuses the special values. -/
def storedAmount : Numerals.Decimal → BotScript State Data Cents
  | .finite amount => return storeDecimal amount
  | _ => throw (.service .dataError)

/-- `message.text`, where a method of it is called. -/
def textOf (message : Message) : BotScript State Data String :=
  required .attributeError message.text

/-- `message.text.strip()` -/
def strippedText (message : Message) : BotScript State Data String :=
  return String.ofList (ChargeService.strip (← textOf message).toList)

/-- The parts of callback data between colons. -/
def dataFields (data : String) : List String :=
  (data.toList.splitOn ':').map String.ofList

/-- `callback.data.split(":")[index]` -/
def dataField (callback : Callback) (index : Nat) :
    BotScript State Data String :=
  required .indexError (dataFields callback.data)[index]?

/-- `int(callback.data.split(":")[index])` -/
def integerField (callback : Callback) (index : Nat) :
    BotScript State Data Int := do
  required .valueError (typedInteger (← dataField callback index))

/-- The row that an integer names.  Keys begin at one, so that neither zero
nor a negative number is the key of a row. -/
def rowId (number : Int) : Nat :=
  number.toNat

end Scripts

/-- Whatever becomes of the script, it does not change what is observed of the
platform. -/
abbrev KeepsPlatform {State Data Result Seen : Type}
    (observe : Platform → Seen) (script : BotScript State Data Result) :
    Prop :=
  script.Keeps fun visit => observe visit.platform

section Keeping

variable {State Data Result Seen : Type} {observe : Platform → Seen}

theorem keeps_setState (state : State) :
    KeepsPlatform observe (setState state : BotScript State Data Unit) :=
  Failing.keeps_modify fun _ => rfl

theorem keeps_updateData (change : Data → Data) :
    KeepsPlatform observe (updateData change : BotScript State Data Unit) :=
  Failing.keeps_modify fun _ => rfl

theorem keeps_getState :
    KeepsPlatform observe (getState : BotScript State Data (Option State)) :=
  Failing.keeps_get.bind fun _ => Failing.keeps_pure _

theorem keeps_getData :
    KeepsPlatform observe (getData : BotScript State Data Data) :=
  Failing.keeps_get.bind fun _ => Failing.keeps_pure _

theorem keeps_clear [EmptyCollection Data] :
    KeepsPlatform observe (clear : BotScript State Data Unit) :=
  Failing.keeps_modify fun _ => rfl

theorem keeps_query (read : Db → Result) :
    KeepsPlatform observe (query read : BotScript State Data Result) :=
  Failing.keeps_get.bind fun _ => Failing.keeps_pure _

theorem keeps_required (error : HandlerError) (value : Option Result) :
    KeepsPlatform observe
      (required error value : BotScript State Data Result) := by
  cases value with
  | none => exact Failing.keeps_throw error
  | some value => exact Failing.keeps_pure value

theorem keeps_strippedText (message : Message) :
    KeepsPlatform observe
      (strippedText message : BotScript State Data String) :=
  (keeps_required _ _).bind fun _ => Failing.keeps_pure _

theorem keeps_dataField (callback : Callback) (index : Nat) :
    KeepsPlatform observe
      (dataField callback index : BotScript State Data String) :=
  keeps_required _ _

theorem keeps_integerField (callback : Callback) (index : Nat) :
    KeepsPlatform observe
      (integerField callback index : BotScript State Data Int) :=
  (keeps_dataField callback index).bind fun _ => keeps_required _ _

/-- Storing a value and going on to the next question changes nothing. -/
theorem keeps_nextQuestion (change : Data → Data) (next : State) :
    KeepsPlatform observe
      (do updateData change; setState next : BotScript State Data Unit) :=
  (keeps_updateData change).bind fun _ => keeps_setState next

end Keeping

section Effects

variable {State Data Result Next : Type} {visit : Visit State Data}

@[simp]
theorem runOn_query {read : Db → Result} :
    (query read : BotScript State Data Result).runOn visit =
      (.ok (read visit.platform.db), visit) :=
  rfl

/-- The integer in a field of callback data. -/
def fieldNumber (data : String) (index : Nat) : Option Int :=
  (dataFields data)[index]?.bind typedInteger

/-- Without an integer in the field the rest of the script does not run. -/
theorem db_integerField_bind {callback : Callback} {index : Nat}
    {next : Int → BotScript State Data Next} :
    ((integerField callback index >>= next).runOn visit).2.platform.db =
      match fieldNumber callback.data index with
      | none => visit.platform.db
      | some number => ((next number).runOn visit).2.platform.db := by
  simp only [integerField, dataField, fieldNumber, Failing.runOn_bind]
  cases (dataFields callback.data)[index]? with
  | none => rfl
  | some text =>
      dsimp only [required, Option.bind_some]
      rw [Failing.runOn_pure]
      dsimp only
      cases typedInteger text with
      | none => rfl
      | some number => rfl

/-- What follows without a change of the database does not matter for it. -/
theorem db_bind_of_keeps {first : BotScript State Data Result}
    {next : Result → BotScript State Data Next}
    (keeps : ∀ value, (next value).Keeps fun visit => visit.platform.db) :
    ((first >>= next).runOn visit).2.platform.db =
      (first.runOn visit).2.platform.db :=
  Failing.observe_bind_of_keeps keeps visit

theorem db_attempt {service : ServiceCall} :
    ((attempt service : BotScript State Data Outcome).runOn
        visit).2.platform.db =
      service.runAlone visit.platform.db := by
  unfold attempt
  rw [Failing.runOn_bind, Failing.runOn_get]
  dsimp only
  rw [ServiceCall.runAlone]
  rcases service.program.runAlone none visit.platform.db with
    ⟨db, none | outcome⟩
  · rfl
  · rfl

theorem db_call {service : ServiceCall} :
    ((call service : BotScript State Data Reply).runOn visit).2.platform.db =
      service.runAlone visit.platform.db := by
  have keeps : ∀ outcome : Outcome,
      Failing.Keeps (fun visit : Visit State Data => visit.platform.db)
        (match outcome with
          | .ok reply => pure reply
          | .error error => throw (.service error) :
            BotScript State Data Reply) := by
    intro outcome
    cases outcome with
    | ok reply => exact Failing.keeps_pure reply
    | error error => exact Failing.keeps_throw _
  exact (db_bind_of_keeps keeps).trans db_attempt

/-- Without the value the rest of the script does not run. -/
theorem visit_required_bind {error : HandlerError} {value : Option Result}
    {next : Result → BotScript State Data Next} :
    ((required error value >>= next).runOn visit).2 =
      value.elim visit fun found => ((next found).runOn visit).2 := by
  cases value with
  | none => rfl
  | some found => rfl

theorem visit_integerField_bind {callback : Callback} {index : Nat}
    {next : Int → BotScript State Data Next} :
    ((integerField callback index >>= next).runOn visit).2 =
      (fieldNumber callback.data index).elim visit fun number =>
        ((next number).runOn visit).2 := by
  simp only [integerField, dataField, fieldNumber, Failing.runOn_bind]
  cases (dataFields callback.data)[index]? with
  | none => rfl
  | some text =>
      dsimp only [required, Option.bind_some]
      rw [Failing.runOn_pure]
      dsimp only
      cases typedInteger text with
      | none => rfl
      | some number => rfl

theorem db_executeInsert {name : TableName} {allowed : Db → Bool}
    {row : RowOf name} :
    ((executeInsert name allowed row : BotScript State Data Nat).runOn
        visit).2.platform.db =
      let reserved := visit.platform.db.reserve name
      if allowed reserved then
        reserved.put name (visit.platform.db.nextId name) row
      else reserved := by
  unfold executeInsert executeWrite
  simp only [Failing.runOn_bind, runOn_query, Failing.runOn_modify]
  split
  · rfl
  · rfl

theorem db_executeUpdate {name : TableName} {id : Nat} {held : Bool}
    {change : RowOf name → RowOf name} :
    ((executeUpdate name id held change : BotScript State Data Unit).runOn
        visit).2.platform.db =
      if held || (visit.platform.db.row name id).isNone then
        visit.platform.db.modify name id change
      else visit.platform.db := by
  unfold executeUpdate executeWrite
  simp only [Failing.runOn_bind, runOn_query]
  split
  · rfl
  · rfl

end Effects

section Filters

variable {State Data : Type}

/-- A handler of messages. -/
def onMessage (test : Option State → Message → Bool)
    (action : Message → BotScript State Data Unit) :
    BotHandler State Data where
  takes state
    | .message message => test state message
    | .callback _ => false
  action
    | .message message => action message
    | .callback _ => pure ()

/-- A handler of callback queries. -/
def onCallback (test : Option State → String → Bool)
    (action : Callback → BotScript State Data Unit) :
    BotHandler State Data where
  takes state
    | .message _ => false
    | .callback callback => test state callback.data
  action
    | .message _ => pure ()
    | .callback callback => action callback

/-- `F.data == …` -/
def dataIs (data : String) (_ : Option State) (found : String) : Bool :=
  found = data

/-- `F.data.startswith(…)` -/
def dataStarts (start : String) (_ : Option State) (found : String) : Bool :=
  start.toList.isPrefixOf found.toList

/-- `F.text == …` -/
def textIs (text : String) (_ : Option State) (message : Message) : Bool :=
  message.text = some text

/-- The filter for the state of the conversation. -/
def inState [DecidableEq State] (expected : State) (state : Option State)
    (_ : Message) : Bool :=
  state = some expected

variable {Seen : Type} {observe : Platform → Seen} {update : Update}

theorem keeps_onMessage {test : Option State → Message → Bool}
    {action : Message → BotScript State Data Unit}
    (keeps : ∀ message, KeepsPlatform observe (action message)) :
    KeepsPlatform observe ((onMessage test action).action update) := by
  cases update with
  | message message => exact keeps message
  | callback _ => exact Failing.keeps_pure ()

theorem keeps_onCallback {test : Option State → String → Bool}
    {action : Callback → BotScript State Data Unit}
    (keeps : ∀ callback, KeepsPlatform observe (action callback)) :
    KeepsPlatform observe ((onCallback test action).action update) := by
  cases update with
  | message _ => exact Failing.keeps_pure ()
  | callback callback => exact keeps callback

end Filters

end BotScripts

/-- A bot between two updates: what all bots work on, and the conversations of
this bot by chat and user. -/
structure BotWorld (State Data : Type) where
  platform : Platform
  conversations : Int × Int → Conversation State Data

namespace BotWorld

variable {State Data : Type}

/-- The conversation to which an update belongs. -/
def conversationOf (world : BotWorld State Data) (update : Update) :
    Conversation State Data :=
  world.conversations (update.chat, update.sender)

/-- An update is handled by the first handler that takes it.  An error of the
handler is logged. -/
def receive (handlers : List (BotHandler State Data))
    (world : BotWorld State Data) (update : Update) : BotWorld State Data :=
  let conversation := world.conversationOf update
  match Handler.dispatch handlers conversation.state update with
  | none => world
  | some script =>
      let visit := (script.runOn ⟨world.platform, conversation⟩).2
      { platform := visit.platform
        conversations := Function.update world.conversations
          (update.chat, update.sender) visit.conversation }

theorem platform_receive {handlers : List (BotHandler State Data)}
    {world : BotWorld State Data} {update : Update}
    {script : BotScript State Data Unit}
    (found : Handler.dispatch handlers (world.conversationOf update).state
      update = some script) :
    (world.receive handlers update).platform =
      (script.runOn ⟨world.platform, world.conversationOf update⟩).2.platform := by
  unfold receive
  dsimp only
  rw [found]

/-- What the handler leaves behind. -/
theorem visit_receive {handlers : List (BotHandler State Data)}
    {world : BotWorld State Data} {update : Update}
    {script : BotScript State Data Unit}
    (found : Handler.dispatch handlers (world.conversationOf update).state
      update = some script) :
    (⟨(world.receive handlers update).platform,
        (world.receive handlers update).conversationOf update⟩ :
        Visit State Data) =
      (script.runOn ⟨world.platform, world.conversationOf update⟩).2 := by
  have after : (world.receive handlers update).conversationOf update =
      (script.runOn ⟨world.platform,
        world.conversationOf update⟩).2.conversation := by
    unfold receive
    dsimp only
    rw [found]
    exact Function.update_self _ _ _
  rw [platform_receive found, after]

theorem receive_of_none {handlers : List (BotHandler State Data)}
    {world : BotWorld State Data} {update : Update}
    (nobody : Handler.dispatch handlers (world.conversationOf update).state
      update = none) :
    world.receive handlers update = world := by
  unfold receive
  dsimp only
  rw [nobody]

end BotWorld

end Baste
