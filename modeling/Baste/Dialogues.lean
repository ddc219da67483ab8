import Baste.BotFootprints

/-!
# Dialogues

A bot asks its questions one after the other and stores the answers in the
data of the conversation, where the handlers of later answers read them.  A
dialogue says what must have been stored when the conversation is at a
question.  This file gives the rules by which one shows, statement by
statement, that a handler finds what it reads and leaves the conversation as
the next handler expects it.
-/

namespace Baste

open BotScripts

/-- The keys under which a conversation stores data, and those that must be
set while the conversation is at a question. -/
structure Dialogue (State Data Key : Type) where
  isSet : Data → Key → Bool
  needs : State → List Key

namespace Dialogue

variable {State Data Key Result Next : Type}

/-- All these keys are set. -/
def Has (dialogue : Dialogue State Data Key) (known : List Key)
    (data : Data) : Prop :=
  ∀ key ∈ known, dialogue.isSet data key = true

/-- What the question needs is there. -/
def Ready (dialogue : Dialogue State Data Key)
    (conversation : Conversation State Data) : Prop :=
  ∀ state, conversation.state = some state →
    dialogue.Has (dialogue.needs state) conversation.data

/-- What was set stays set. -/
def Grows (dialogue : Dialogue State Data Key) (change : Data → Data) : Prop :=
  ∀ data key, dialogue.isSet data key = true →
    dialogue.isSet (change data) key = true

variable {dialogue : Dialogue State Data Key} {known : List Key}

theorem ready_start {data : Data} :
    dialogue.Ready { state := none, data := data } :=
  nofun

theorem Has.mono {fewer : List Key} {data : Data}
    (has : dialogue.Has known data) (inside : fewer ⊆ known) :
    dialogue.Has fewer data :=
  fun key member => has key (inside member)

theorem Has.grow {change : Data → Data} {data : Data}
    (has : dialogue.Has known data) (grows : dialogue.Grows change) :
    dialogue.Has known (change data) :=
  fun key member => grows data key (has key member)

theorem has_nil {data : Data} : dialogue.Has [] data :=
  nofun

theorem has_singleton {key : Key} {data : Data} :
    dialogue.Has [key] data ↔ dialogue.isSet data key = true :=
  List.forall_mem_singleton

theorem has_append {more : List Key} {data : Data} :
    dialogue.Has (known ++ more) data ↔
      dialogue.Has known data ∧ dialogue.Has more data :=
  List.forall_mem_append

/-- The script does not touch the conversation, and it looks up no key. -/
structure Aside (script : BotScript State Data Result) : Prop where
  stays : script.Keeps fun visit => visit.conversation
  finds : ∀ visit, (script.runOn visit).1 ≠ .error .keyError

section Asides

theorem aside_pure (value : Result) :
    Aside (pure value : BotScript State Data Result) :=
  ⟨Failing.keeps_pure value, nofun⟩

theorem aside_throw {error : HandlerError} (other : error ≠ .keyError) :
    Aside (throw error : BotScript State Data Result) :=
  ⟨Failing.keeps_throw error, fun _ same => other (Except.error.inj same)⟩

theorem aside_modify {change : Visit State Data → Visit State Data}
    (same : ∀ visit, (change visit).conversation = visit.conversation) :
    Aside (modify change : BotScript State Data Unit) :=
  ⟨Failing.keeps_modify same, nofun⟩

theorem aside_get : Aside (get : BotScript State Data (Visit State Data)) :=
  ⟨Failing.keeps_get, nofun⟩

theorem Aside.bind {script : BotScript State Data Result}
    {next : Result → BotScript State Data Next} (first : Aside script)
    (second : ∀ value, Aside (next value)) : Aside (script >>= next) := by
  refine ⟨first.stays.bind fun value => (second value).stays, ?_⟩
  intro visit
  have finds := first.finds visit
  rw [Failing.runOn_bind]
  revert finds
  rcases script.runOn visit with ⟨error | value, reached⟩
  · exact fun finds same => finds (congrArg _ (Except.error.inj same))
  · exact fun _ => (second value).finds reached

theorem aside_ite {test : Prop} [Decidable test]
    {yes no : BotScript State Data Result} (first : Aside yes)
    (second : Aside no) : Aside (if test then yes else no) := by
  split
  · exact first
  · exact second

theorem aside_query (read : Db → Result) :
    Aside (query read : BotScript State Data Result) :=
  aside_get.bind fun _ => aside_pure _

theorem aside_getState :
    Aside (getState : BotScript State Data (Option State)) :=
  aside_get.bind fun _ => aside_pure _

theorem aside_getData : Aside (getData : BotScript State Data Data) :=
  aside_get.bind fun _ => aside_pure _

theorem aside_required {error : HandlerError} (other : error ≠ .keyError)
    (value : Option Result) :
    Aside (required error value : BotScript State Data Result) := by
  cases value with
  | none => exact aside_throw other
  | some value => exact aside_pure value

theorem aside_textOf (message : Message) :
    Aside (textOf message : BotScript State Data String) :=
  aside_required (by decide) _

theorem aside_strippedText (message : Message) :
    Aside (strippedText message : BotScript State Data String) :=
  (aside_textOf message).bind fun _ => aside_pure _

theorem aside_dataField (callback : Callback) (index : Nat) :
    Aside (dataField callback index : BotScript State Data String) :=
  aside_required (by decide) _

theorem aside_integerField (callback : Callback) (index : Nat) :
    Aside (integerField callback index : BotScript State Data Int) :=
  (aside_dataField callback index).bind fun _ => aside_required (by decide) _

theorem aside_storedAmount (amount : Numerals.Decimal) :
    Aside (storedAmount amount : BotScript State Data Cents) := by
  cases amount with
  | finite => exact aside_pure _
  | infinity | nan => exact aside_throw nofun

theorem aside_executeWrite (change : Db → Db) :
    Aside (executeWrite change : BotScript State Data Unit) :=
  aside_modify fun _ => rfl

theorem aside_executeInsert {name : TableName} {allowed : Db → Bool}
    {row : RowOf name} :
    Aside (executeInsert name allowed row : BotScript State Data Nat) := by
  apply (aside_query _).bind
  intro id
  apply (aside_executeWrite _).bind
  intro _
  apply (aside_query _).bind
  intro isAllowed
  split
  · exact (aside_executeWrite _).bind fun _ => aside_pure _
  · exact aside_throw nofun

theorem aside_executeUpdate {name : TableName} {id : Nat} {held : Bool}
    {change : RowOf name → RowOf name} :
    Aside
      (executeUpdate name id held change : BotScript State Data Unit) := by
  apply (aside_query _).bind
  intro absent
  split
  · exact aside_executeWrite _
  · exact aside_throw nofun

theorem aside_attempt (service : ServiceCall) :
    Aside (attempt service : BotScript State Data Outcome) := by
  apply aside_get.bind
  intro visit
  rcases service.program.runAlone none visit.platform.db with ⟨db, outcome⟩
  refine (aside_modify ?_).bind fun _ => aside_required (by decide) outcome
  exact fun _ => rfl

theorem aside_call (service : ServiceCall) :
    Aside (call service : BotScript State Data Reply) := by
  apply (aside_attempt service).bind
  intro outcome
  cases outcome with
  | ok reply => exact aside_pure reply
  | error error => exact aside_throw nofun

/-- A service function is called with the id in the callback data. -/
theorem aside_numberedCall {callback : Callback}
    {service : Nat → ServiceCall} :
    Aside (do
      let number ← integerField callback 1
      let _ ← call (service (rowId number)) : BotScript State Data Unit) := by
  apply (aside_integerField callback 1).bind
  intro number
  exact (aside_call _).bind fun _ => aside_pure ()

end Asides

/-- If these keys are set, the script finds all keys that it looks up, and
whatever becomes of it, it leaves the conversation ready. -/
def Prompts (dialogue : Dialogue State Data Key) (known : List Key)
    (script : BotScript State Data Result) : Prop :=
  script.Ensures
    (fun visit => dialogue.Ready visit.conversation ∧
      dialogue.Has known visit.conversation.data)
    (fun _ visit => dialogue.Ready visit.conversation)
    fun error visit => error ≠ .keyError ∧ dialogue.Ready visit.conversation

section Scripts

variable {script : BotScript State Data Result}
variable {next : Result → BotScript State Data Next}

theorem Aside.ensures (aside : Aside script) :
    script.Ensures
      (fun visit => dialogue.Ready visit.conversation ∧
        dialogue.Has known visit.conversation.data)
      (fun _ visit => dialogue.Ready visit.conversation ∧
        dialogue.Has known visit.conversation.data)
      fun error visit =>
        error ≠ .keyError ∧ dialogue.Ready visit.conversation := by
  intro visit holds
  have stays := aside.stays visit
  have finds := aside.finds visit
  revert stays finds
  rcases script.runOn visit with ⟨error | value, reached⟩
  · intro stays finds
    dsimp only at stays ⊢
    rw [stays]
    exact ⟨fun same => finds (congrArg _ same), holds.1⟩
  · intro stays _
    dsimp only at stays ⊢
    rw [stays]
    exact holds

theorem prompts_of_aside (aside : Aside script) :
    dialogue.Prompts known script :=
  aside.ensures.weaken (fun _ holds => holds) (fun _ _ holds => holds.1)
    fun _ _ holds => holds

theorem prompts_pure (value : Result) :
    dialogue.Prompts known (pure value : BotScript State Data Result) :=
  prompts_of_aside (aside_pure value)

theorem prompts_throw {error : HandlerError} (other : error ≠ .keyError) :
    dialogue.Prompts known (throw error : BotScript State Data Result) :=
  prompts_of_aside (aside_throw other)

/-- What comes before does not matter for the dialogue. -/
theorem prompts_after (aside : Aside script)
    (rest : ∀ value, dialogue.Prompts known (next value)) :
    dialogue.Prompts known (script >>= next) :=
  Failing.Ensures.bind aside.ensures rest

/-- What comes afterwards looks up no key. -/
theorem prompts_before (prompts : dialogue.Prompts known script)
    (rest : ∀ value, dialogue.Prompts [] (next value)) :
    dialogue.Prompts known (script >>= next) :=
  Failing.Ensures.bind prompts fun value =>
    (rest value).weaken (fun _ ready => ⟨ready, has_nil⟩)
      (fun _ _ holds => holds) fun _ _ holds => holds

theorem prompts_ite {test : Prop} [Decidable test]
    {yes no : BotScript State Data Result}
    (first : dialogue.Prompts known yes)
    (second : dialogue.Prompts known no) :
    dialogue.Prompts known (if test then yes else no) := by
  split
  · exact first
  · exact second

theorem Prompts.mono {more : List Key}
    (prompts : dialogue.Prompts known script) (inside : known ⊆ more) :
    dialogue.Prompts more script :=
  prompts.weaken (fun _ holds => ⟨holds.1, holds.2.mono inside⟩)
    (fun _ _ holds => holds) fun _ _ holds => holds

/-- The data that are read have what is known. -/
theorem prompts_getData_bind {next : Data → BotScript State Data Next}
    (rest : ∀ data, dialogue.Has known data →
      dialogue.Prompts known (next data)) :
    dialogue.Prompts known (getData >>= next) :=
  fun visit holds => rest visit.conversation.data holds.2 visit holds

/-- A key that is set is found. -/
theorem prompts_required_bind {error : HandlerError} {value : Option Result}
    (isSet : value.isSome = true)
    (rest : ∀ found, dialogue.Prompts known (next found)) :
    dialogue.Prompts known (required error value >>= next) := by
  cases value with
  | none => cases isSet
  | some found => exact rest found

theorem prompts_clear [EmptyCollection Data] :
    dialogue.Prompts known (clear : BotScript State Data Unit) :=
  fun _ _ => ready_start

theorem prompts_setState {state : State}
    (inside : dialogue.needs state ⊆ known) :
    dialogue.Prompts known (setState state : BotScript State Data Unit) := by
  intro visit holds other same
  cases same
  exact holds.2.mono inside

theorem prompts_updateData_bind {change : Data → Data} {new : List Key}
    {next : Unit → BotScript State Data Next} (grows : dialogue.Grows change)
    (sets : ∀ data, dialogue.Has new (change data))
    (rest : dialogue.Prompts (new ++ known) (next ())) :
    dialogue.Prompts known (updateData change >>= next) := by
  intro visit holds
  refine rest _ ⟨?_, ?_⟩
  · intro state same
    exact (holds.1 state same).grow grows
  · exact has_append.mpr ⟨sets _, holds.2.grow grows⟩

theorem prompts_updateData {change : Data → Data}
    (grows : dialogue.Grows change) :
    dialogue.Prompts known (updateData change : BotScript State Data Unit) :=
  fun _ holds state same => (holds.1 state same).grow grows

/-- Storing an answer and going on to the next question. -/
theorem prompts_nextQuestion {change : Data → Data} {new : List Key}
    {state : State} (grows : dialogue.Grows change)
    (sets : ∀ data, dialogue.Has new (change data))
    (inside : dialogue.needs state ⊆ new ++ known) :
    dialogue.Prompts known
      (do updateData change; setState state : BotScript State Data Unit) :=
  prompts_updateData_bind grows sets (prompts_setState inside)

end Scripts

/-- An answer is stored under a key, and the next question needs this key and
those of the question before. -/
structure Stores (dialogue : Dialogue State Data Key) (question next : State)
    (key : Key) (change : Data → Data) : Prop where
  grows : dialogue.Grows change
  sets : ∀ data, dialogue.isSet (change data) key = true
  inside : dialogue.needs next ⊆ [key] ++ dialogue.needs question

theorem Stores.prompts {question next : State} {key : Key}
    {change : Data → Data} (stores : dialogue.Stores question next key change) :
    dialogue.Prompts (dialogue.needs question)
      (do updateData change; setState next : BotScript State Data Unit) :=
  prompts_nextQuestion stores.grows
    (fun data => has_singleton.mpr (stores.sets data)) stores.inside

/-- This time the script finds what it looks up, and it leaves the
conversation ready. -/
structure LeavesReady (dialogue : Dialogue State Data Key)
    (script : BotScript State Data Result) (visit : Visit State Data) :
    Prop where
  finds : (script.runOn visit).1 ≠ .error .keyError
  ready : dialogue.Ready (script.runOn visit).2.conversation

/-- The handler finds what it looks up in a conversation that is ready, and
leaves it ready. -/
def Obeys (dialogue : Dialogue State Data Key)
    (handler : BotHandler State Data) (update : Update) : Prop :=
  ∀ visit : Visit State Data,
    handler.takes visit.conversation.state update = true →
      dialogue.Ready visit.conversation →
        dialogue.LeavesReady (handler.action update) visit

section Handlers

variable {update : Update}

theorem Prompts.leavesReady {script : BotScript State Data Result}
    {visit : Visit State Data} (prompts : dialogue.Prompts known script)
    (ready : dialogue.Ready visit.conversation)
    (has : dialogue.Has known visit.conversation.data) :
    dialogue.LeavesReady script visit := by
  have ends := prompts visit ⟨ready, has⟩
  cases run : script.runOn visit with
  | mk result reached =>
      rw [run] at ends
      constructor
      · rw [run]
        rintro rfl
        exact ends.1 rfl
      · rw [run]
        cases result with
        | ok value => exact ends
        | error error => exact ends.2

theorem obeys_onMessage {test : Option State → Message → Bool}
    {action : Message → BotScript State Data Unit}
    (prompts : ∀ message, dialogue.Prompts [] (action message)) :
    dialogue.Obeys (onMessage test action) update := by
  intro visit takes ready
  cases update with
  | message message => exact (prompts message).leavesReady ready has_nil
  | callback _ => cases takes

theorem obeys_onCallback {test : Option State → String → Bool}
    {action : Callback → BotScript State Data Unit}
    (prompts : ∀ callback, dialogue.Prompts [] (action callback)) :
    dialogue.Obeys (onCallback test action) update := by
  intro visit takes ready
  cases update with
  | message _ => cases takes
  | callback callback => exact (prompts callback).leavesReady ready has_nil

/-- The answer to a question, which the handler takes at that question
only. -/
theorem obeys_answer {test : Option State → Message → Bool} {state : State}
    {action : Message → BotScript State Data Unit}
    (asked : ∀ now message, test now message = true → now = some state)
    (prompts : ∀ message,
      dialogue.Prompts (dialogue.needs state) (action message)) :
    dialogue.Obeys (onMessage test action) update := by
  intro visit takes ready
  cases update with
  | message message =>
      exact (prompts message).leavesReady ready (ready state (asked _ _ takes))
  | callback _ => cases takes

theorem obeys_inState [DecidableEq State] {state : State}
    {action : Message → BotScript State Data Unit}
    (prompts : ∀ message,
      dialogue.Prompts (dialogue.needs state) (action message)) :
    dialogue.Obeys (onMessage (inState state) action) update :=
  obeys_answer (fun _ _ takes => of_decide_eq_true takes) prompts

/-- A button that is pressed at a question. -/
theorem obeys_pressed {test : Option State → String → Bool} {state : State}
    {action : Callback → BotScript State Data Unit}
    (asked : ∀ now data, test now data = true → now = some state)
    (prompts : ∀ callback,
      dialogue.Prompts (dialogue.needs state) (action callback)) :
    dialogue.Obeys (onCallback test action) update := by
  intro visit takes ready
  cases update with
  | message _ => cases takes
  | callback callback =>
      exact (prompts callback).leavesReady ready (ready state (asked _ _ takes))

/-- A handler that does nothing but answer. -/
theorem obeys_onCallback_pure {test : Option State → String → Bool} :
    dialogue.Obeys
      (onCallback test fun _ => (pure () : BotScript State Data Unit))
      update :=
  obeys_onCallback fun _ => prompts_pure ()

theorem obeys_ask {test : Option State → String → Bool} {question : State}
    (start : dialogue.needs question ⊆ []) :
    dialogue.Obeys (onCallback test fun _ =>
      (setState question : BotScript State Data Unit)) update :=
  obeys_onCallback fun _ => prompts_setState start

section Answers

variable [DecidableEq State] {question next : State} {key : Key}

theorem obeys_textQuestion {change : String → Data → Data}
    (stores : ∀ text, dialogue.Stores question next key (change text)) :
    dialogue.Obeys (onMessage (inState question) fun message => do
      let text ← strippedText message
      updateData (change text)
      setState next) update :=
  obeys_inState fun message =>
    prompts_after (aside_strippedText message) fun text =>
      (stores text).prompts

theorem obeys_decimalQuestion {change : Numerals.Decimal → Data → Data}
    (stores : ∀ value, dialogue.Stores question next key (change value)) :
    dialogue.Obeys (onMessage (inState question) fun message => do
      match typedDecimal (← textOf message) with
      | none => pure ()
      | some value =>
          updateData (change value)
          setState next) update := by
  apply obeys_inState
  intro message
  refine prompts_after (aside_textOf message) fun text => ?_
  cases typedDecimal text with
  | none => exact prompts_pure ()
  | some value => exact (stores value).prompts

end Answers

end Handlers

end Dialogue

namespace BotWorld

variable {State Data Key : Type} {handlers : List (BotHandler State Data)}
variable {dialogue : Dialogue State Data Key} {world : BotWorld State Data}
variable {update : Update}

/-- What the handler of the update raises. -/
def raised (world : BotWorld State Data)
    (handlers : List (BotHandler State Data)) (update : Update) :
    Option HandlerError :=
  let conversation := world.conversationOf update
  match Handler.dispatch handlers conversation.state update with
  | none => none
  | some script =>
      match (script.runOn ⟨world.platform, conversation⟩).1 with
      | .ok _ => none
      | .error error => some error

/-- All conversations of the bot have what their questions need. -/
def Ready (dialogue : Dialogue State Data Key) (world : BotWorld State Data) :
    Prop :=
  ∀ key, dialogue.Ready (world.conversations key)

theorem raised_and_ready (ready : world.Ready dialogue)
    (leavesReady : ∀ handler ∈ handlers,
      handler.takes (world.conversationOf update).state update = true →
        dialogue.LeavesReady (handler.action update)
          ⟨world.platform, world.conversationOf update⟩) :
    world.raised handlers update ≠ some .keyError ∧
      (world.receive handlers update).Ready dialogue := by
  cases found : Handler.dispatch handlers (world.conversationOf update).state
      update with
  | none =>
      refine ⟨?_, ?_⟩
      · unfold raised
        dsimp only
        rw [found]
        nofun
      · rw [receive_of_none found]
        exact ready
  | some script =>
      obtain ⟨handler, member, takes, rfl⟩ := Handler.exists_of_dispatch found
      obtain ⟨finds, after⟩ := leavesReady handler member takes
      refine ⟨?_, ?_⟩
      · unfold raised
        dsimp only
        rw [found]
        dsimp only
        intro same
        apply finds
        revert same
        rcases ((handler.action update).runOn _).1 with error | value
        · exact fun same => congrArg _ (Option.some.inj same)
        · nofun
      · intro key
        unfold receive
        dsimp only
        rw [found]
        dsimp only
        rw [Function.update_apply]
        split
        · exact after
        · exact ready key

end BotWorld

end Baste
