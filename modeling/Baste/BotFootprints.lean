import Baste.BotUpdates
import Baste.ServiceFootprints

/-!
# Footprints of handlers

The script of a handler leaves most of what it works on alone.  Its footprint
says what it may touch: the rows of some tables, the prices that wait for a
confirmation, and parts of its conversation.  The footprint of a script is
found by going through its statements.
-/

namespace Baste

open Database

namespace BotScripts

/-- What a script may touch: rows of the tables, the suspicious prices, the
state of the conversation, which it may set to one of the states, and the data
of the conversation, of which it cannot set the others. -/
structure Footprint (State Data : Type) where
  tables : List TableName := []
  prices : Bool := false
  states : List State := []
  others : Data → Data

namespace Footprint

variable {State Data : Type}

/-- A conversation goes on from where it is, or it starts again. -/
def Continues [EmptyCollection Data] (footprint : Footprint State Data)
    (before after : Conversation State Data) : Prop :=
  ∃ start : Conversation State Data,
    (start = before ∨ start = { data := ∅ }) ∧
    (after.state = start.state ∨
      ∃ state ∈ footprint.states, after.state = some state) ∧
    footprint.others after.data = footprint.others start.data

/-- Nothing outside the footprint has changed. -/
structure Covers [EmptyCollection Data] (footprint : Footprint State Data)
    (before after : Visit State Data) : Prop where
  rows : SameOutside footprint.tables before.platform.db after.platform.db
  prices : footprint.prices = false →
    after.platform.pendingPriceConfirmations =
        before.platform.pendingPriceConfirmations ∧
      after.platform.pendingEditPriceConfirmations =
        before.platform.pendingEditPriceConfirmations
  conversation : footprint.Continues before.conversation after.conversation

/-- One footprint lies within another. -/
structure Le (footprint wider : Footprint State Data) : Prop where
  tables : footprint.tables ⊆ wider.tables
  prices : wider.prices = false → footprint.prices = false
  states : footprint.states ⊆ wider.states
  others : ∀ first second,
    footprint.others first = footprint.others second →
      wider.others first = wider.others second

section Conversations

variable [EmptyCollection Data] {footprint wider : Footprint State Data}

theorem Continues.refl (conversation : Conversation State Data) :
    footprint.Continues conversation conversation :=
  ⟨conversation, .inl rfl, .inl rfl, rfl⟩

theorem Continues.trans {first second third : Conversation State Data}
    (start : footprint.Continues first second)
    (rest : footprint.Continues second third) :
    footprint.Continues first third := by
  obtain ⟨_, rfl | rfl, states, data⟩ := rest
  · obtain ⟨origin, from_, before, same⟩ := start
    refine ⟨origin, from_, ?_, data.trans same⟩
    rcases states with kept | moved
    · rw [kept]
      exact before
    · exact .inr moved
  · exact ⟨_, .inr rfl, states, data⟩

theorem Covers.refl (visit : Visit State Data) :
    footprint.Covers visit visit :=
  ⟨.refl _, fun _ => ⟨rfl, rfl⟩, .refl _⟩

theorem Covers.trans {first second third : Visit State Data}
    (start : footprint.Covers first second)
    (rest : footprint.Covers second third) :
    footprint.Covers first third where
  rows := start.rows.trans rest.rows
  prices untouched :=
    ⟨(rest.prices untouched).1.trans (start.prices untouched).1,
      (rest.prices untouched).2.trans (start.prices untouched).2⟩
  conversation := start.conversation.trans rest.conversation

instance : Std.Refl footprint.Covers := ⟨Covers.refl⟩

instance : IsTrans (Visit State Data) footprint.Covers :=
  ⟨fun _ _ _ => Covers.trans⟩

theorem Covers.mono {before after : Visit State Data}
    (covers : footprint.Covers before after) (le : footprint.Le wider) :
    wider.Covers before after where
  rows := covers.rows.mono le.tables
  prices untouched := covers.prices (le.prices untouched)
  conversation := by
    obtain ⟨start, from_, states, data⟩ := covers.conversation
    refine ⟨start, from_, ?_, le.others _ _ data⟩
    rcases states with kept | ⟨state, member, moved⟩
    · exact .inl kept
    · exact .inr ⟨state, le.states member, moved⟩

end Conversations

/-- Whatever becomes of the script, it stays within the footprint. -/
abbrev Within [EmptyCollection Data] {Result : Type}
    (footprint : Footprint State Data)
    (script : BotScript State Data Result) : Prop :=
  script.Moves id footprint.Covers

/-- The handler stays within the footprint with every update. -/
def Admits [EmptyCollection Data] (footprint : Footprint State Data)
    (handler : BotHandler State Data) : Prop :=
  ∀ update, footprint.Within (handler.action update)

theorem Admits.mono [EmptyCollection Data]
    {footprint wider : Footprint State Data} {handler : BotHandler State Data}
    (admits : footprint.Admits handler) (le : footprint.Le wider) :
    wider.Admits handler :=
  fun update visit => (admits update visit).mono le

end Footprint

section Rules

variable {State Data Result Next : Type} [EmptyCollection Data]
variable {footprint : Footprint State Data}

theorem within_pure (value : Result) :
    footprint.Within (pure value : BotScript State Data Result) :=
  (Failing.keeps_pure value).moves

theorem within_throw (error : HandlerError) :
    footprint.Within (throw error : BotScript State Data Result) :=
  (Failing.keeps_throw error).moves

theorem within_ite {test : Prop} [Decidable test]
    {yes no : BotScript State Data Result} (first : footprint.Within yes)
    (second : footprint.Within no) :
    footprint.Within (if test then yes else no) := by
  split
  · exact first
  · exact second

theorem within_get :
    footprint.Within (get : BotScript State Data (Visit State Data)) :=
  Failing.keeps_get.moves

theorem within_modify {change : Visit State Data → Visit State Data}
    (covers : ∀ visit, footprint.Covers visit (change visit)) :
    footprint.Within (modify change : BotScript State Data Unit) :=
  Failing.moves_modify covers

theorem within_query (read : Db → Result) :
    footprint.Within (query read : BotScript State Data Result) :=
  within_get.bind fun _ => within_pure _

theorem within_getState :
    footprint.Within (getState : BotScript State Data (Option State)) :=
  within_get.bind fun _ => within_pure _

theorem within_getData :
    footprint.Within (getData : BotScript State Data Data) :=
  within_get.bind fun _ => within_pure _

theorem within_required (error : HandlerError) (value : Option Result) :
    footprint.Within (required error value : BotScript State Data Result) := by
  cases value with
  | none => exact within_throw error
  | some value => exact within_pure value

theorem within_textOf (message : Message) :
    footprint.Within (textOf message : BotScript State Data String) :=
  within_required _ _

theorem within_strippedText (message : Message) :
    footprint.Within (strippedText message : BotScript State Data String) :=
  (within_textOf message).bind fun _ => within_pure _

theorem within_dataField (callback : Callback) (index : Nat) :
    footprint.Within (dataField callback index : BotScript State Data String) :=
  within_required _ _

theorem within_integerField (callback : Callback) (index : Nat) :
    footprint.Within
      (integerField callback index : BotScript State Data Int) :=
  (within_dataField callback index).bind fun _ => within_required _ _

theorem within_storedAmount (amount : Numerals.Decimal) :
    footprint.Within (storedAmount amount : BotScript State Data Cents) := by
  cases amount with
  | finite => exact within_pure _
  | infinity | nan => exact within_throw _

theorem within_setState {state : State} (member : state ∈ footprint.states) :
    footprint.Within (setState state : BotScript State Data Unit) :=
  within_modify fun visit =>
    ⟨.refl _, fun _ => ⟨rfl, rfl⟩,
      ⟨visit.conversation, .inl rfl, .inr ⟨state, member, rfl⟩, rfl⟩⟩

theorem within_updateData {change : Data → Data}
    (kept : ∀ data, footprint.others (change data) = footprint.others data) :
    footprint.Within (updateData change : BotScript State Data Unit) :=
  within_modify fun visit =>
    ⟨.refl _, fun _ => ⟨rfl, rfl⟩,
      ⟨visit.conversation, .inl rfl, .inl rfl, kept _⟩⟩

theorem within_clear :
    footprint.Within (clear : BotScript State Data Unit) :=
  within_modify fun _ =>
    ⟨.refl _, fun _ => ⟨rfl, rfl⟩, ⟨_, .inr rfl, .inl rfl, rfl⟩⟩

/-- Storing a value and going on to the next question. -/
theorem within_nextQuestion {change : Data → Data} {next : State}
    (kept : ∀ data, footprint.others (change data) = footprint.others data)
    (member : next ∈ footprint.states) :
    footprint.Within
      (do updateData change; setState next : BotScript State Data Unit) :=
  (within_updateData kept).bind fun _ => within_setState member

theorem within_executeWrite {change : Db → Db}
    (rows : ∀ db, SameOutside footprint.tables db (change db)) :
    footprint.Within (executeWrite change : BotScript State Data Unit) :=
  within_modify fun visit =>
    ⟨rows visit.platform.db, fun _ => ⟨rfl, rfl⟩, .refl visit.conversation⟩

theorem within_executeInsert {name : TableName} {allowed : Db → Bool}
    {row : RowOf name} (inside : name ∈ footprint.tables) :
    footprint.Within
      (executeInsert name allowed row : BotScript State Data Nat) := by
  apply (within_query _).bind
  intro id
  apply (within_executeWrite fun _ => .reserve).bind
  intro _
  apply (within_query _).bind
  intro isAllowed
  split
  · exact (within_executeWrite fun _ => .put inside).bind fun _ =>
      within_pure _
  · exact within_throw _

theorem within_executeUpdate {name : TableName} {id : Nat} {held : Bool}
    {change : RowOf name → RowOf name} (inside : name ∈ footprint.tables) :
    footprint.Within
      (executeUpdate name id held change : BotScript State Data Unit) := by
  apply (within_query _).bind
  intro absent
  split
  · exact within_executeWrite fun _ => .modify inside
  · exact within_throw _

omit [EmptyCollection Data] in
/-- A service call changes only the database. -/
theorem visit_attempt {service : ServiceCall} {visit : Visit State Data} :
    ((attempt service : BotScript State Data Outcome).runOn visit).2 =
      { visit with
        platform.db := service.runAlone visit.platform.db } := by
  unfold attempt
  rw [Failing.runOn_bind, Failing.runOn_get]
  dsimp only
  rw [ServiceCall.runAlone]
  rcases service.program.runAlone none visit.platform.db with
    ⟨db, none | outcome⟩
  · rfl
  · rfl

theorem within_attempt {service : ServiceCall}
    (inside : service.tables ⊆ footprint.tables) :
    footprint.Within (attempt service : BotScript State Data Outcome) := by
  intro visit
  rw [id, id, visit_attempt]
  exact ⟨(service.sameOutside_runAlone _).mono inside,
    fun _ => ⟨rfl, rfl⟩, .refl visit.conversation⟩

theorem within_call {service : ServiceCall}
    (inside : service.tables ⊆ footprint.tables) :
    footprint.Within (call service : BotScript State Data Reply) := by
  apply (within_attempt inside).bind
  intro outcome
  cases outcome with
  | ok reply => exact within_pure reply
  | error error => exact within_throw _

theorem admits_onMessage {test : Option State → Message → Bool}
    {action : Message → BotScript State Data Unit}
    (within : ∀ message, footprint.Within (action message)) :
    footprint.Admits (onMessage test action) := by
  intro update
  cases update with
  | message message => exact within message
  | callback _ => exact within_pure ()

theorem admits_onCallback {test : Option State → String → Bool}
    {action : Callback → BotScript State Data Unit}
    (within : ∀ callback, footprint.Within (action callback)) :
    footprint.Admits (onCallback test action) := by
  intro update
  cases update with
  | message _ => exact within_pure ()
  | callback callback => exact within callback

/-- A handler that does nothing but answer. -/
theorem admits_onCallback_pure {test : Option State → String → Bool} :
    footprint.Admits
      (onCallback test fun _ => (pure () : BotScript State Data Unit)) :=
  admits_onCallback fun _ => within_pure ()

end Rules

end BotScripts

namespace BotWorld

open BotScripts

variable {State Data : Type} [EmptyCollection Data]
variable {handlers : List (BotHandler State Data)}
variable {footprint : Footprint State Data} {world : BotWorld State Data}
variable {update : Update}

omit [EmptyCollection Data] in
/-- Other conversations stay where they are. -/
theorem conversations_receive_of_ne {key : Int × Int}
    (other : key ≠ (update.chat, update.sender)) :
    (world.receive handlers update).conversations key =
      world.conversations key := by
  unfold receive
  dsimp only
  split
  · rfl
  · exact Function.update_of_ne other _ _

end BotWorld

end Baste
