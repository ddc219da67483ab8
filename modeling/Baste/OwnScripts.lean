import Baste.CustomerFootprints
import Baste.OwnRecords

/-!
# Scripts for a customer

A script that serves a customer leaves the records of others alone, and the
conversation that it leaves behind is about an order and a top-up of the
customer at most.  This file gives the rules by which one shows it, statement
by statement, with what is known of the database in between.
-/

namespace Baste

open BotScripts BotScripts.Footprint Database

/-- The conversation is about an order and a top-up of the user, if about any,
and it does not wait for the reason of a dispute. -/
structure OwnConversation (resellerId : Nat) (userId : Int) (db : Db)
    (conversation : Conversation ShopState ShopData) : Prop where
  undisputed : conversation.state ≠ some .enteringReason
  order : ∀ id, conversation.data.orderId = some id →
    IsOwnOrder resellerId userId db id
  topup : ∀ id, conversation.data.topupId = some id →
    IsOwnTopup resellerId userId db id

/-- Since the start the records of others have been left alone, and the
conversation is the user's. -/
structure Served (resellerId : Nat) (userId : Int) (others : Nat → Prop)
    (start : Db) (visit : Visit ShopState ShopData) : Prop where
  spares : Spares resellerId userId others start visit.platform.db
  own : OwnConversation resellerId userId visit.platform.db visit.conversation

/-- The script serves the user wherever this is known of the database, and
this is learnt from its result. -/
def Serves {Result : Type} (resellerId : Nat) (userId : Int)
    (others : Nat → Prop) (known : Db → Prop) (script : ShopScript Result)
    (learnt : Result → Db → Prop) : Prop :=
  ∀ start, script.Ensures
    (fun visit => Served resellerId userId others start visit ∧
      known visit.platform.db)
    (fun result visit => Served resellerId userId others start visit ∧
      learnt result visit.platform.db)
    fun _ visit => Served resellerId userId others start visit

/-- The script does not change what it works on. -/
abbrev Looks {Result : Type} (script : ShopScript Result) : Prop :=
  script.Keeps id

section Conversations

variable {resellerId : Nat} {userId : Int} {others : Nat → Prop}
variable {before after : Db}

theorem ownConversation_start {state : Option ShopState}
    (undisputed : state ≠ some .enteringReason) :
    OwnConversation resellerId userId before { state := state, data := ∅ } :=
  ⟨undisputed, nofun, nofun⟩

theorem OwnConversation.retained
    {conversation : Conversation ShopState ShopData}
    (own : OwnConversation resellerId userId before conversation)
    (retains : Retains ownerPolicy before after) :
    OwnConversation resellerId userId after conversation :=
  ⟨own.undisputed, fun id found => (own.order id found).retained retains,
    fun id found => (own.topup id found).retained retains⟩

/-- The database changes for the user. -/
theorem Served.move {start : Db} {visit : Visit ShopState ShopData}
    {platform : Platform}
    (served : Served resellerId userId others start visit)
    (spares : Spares resellerId userId others visit.platform.db platform.db)
    (keeps : Retains ownerPolicy visit.platform.db platform.db) :
    Served resellerId userId others start
      ⟨platform, visit.conversation⟩ :=
  ⟨IsTrans.trans _ _ _ served.spares spares, served.own.retained keeps⟩

end Conversations

section Looks

variable {Result Next : Type}

theorem looks_pure (value : Result) : Looks (pure value : ShopScript Result) :=
  Failing.keeps_pure value

theorem looks_throw (error : HandlerError) :
    Looks (throw error : ShopScript Result) :=
  Failing.keeps_throw error

theorem looks_query (read : Db → Result) :
    Looks (query read : ShopScript Result) :=
  Failing.keeps_get.bind fun _ => looks_pure _

theorem looks_getState : Looks (getState : ShopScript (Option ShopState)) :=
  Failing.keeps_get.bind fun _ => looks_pure _

theorem looks_getData : Looks (getData : ShopScript ShopData) :=
  Failing.keeps_get.bind fun _ => looks_pure _

theorem looks_required (error : HandlerError) (value : Option Result) :
    Looks (required error value : ShopScript Result) := by
  cases value with
  | none => exact looks_throw error
  | some value => exact looks_pure value

theorem looks_storedAmount (amount : Numerals.Decimal) :
    Looks (storedAmount amount : ShopScript Cents) := by
  cases amount with
  | finite => exact looks_pure _
  | infinity | nan => exact looks_throw _

end Looks

namespace Serves

variable {resellerId : Nat} {userId : Int} {others : Nat → Prop}
variable {Result Next : Type} {known : Db → Prop}
variable {script : ShopScript Result} {learnt : Result → Db → Prop}

theorem bind {next : Result → ShopScript Next} {last : Next → Db → Prop}
    (first : Serves resellerId userId others known script learnt)
    (rest : ∀ value,
      Serves resellerId userId others (learnt value) (next value) last) :
    Serves resellerId userId others known (script >>= next) last :=
  fun start => (first start).bind fun value => rest value start

theorem weaken {more : Db → Prop} {less : Result → Db → Prop}
    (serves : Serves resellerId userId others known script learnt)
    (before : ∀ db, more db → known db)
    (after : ∀ value db, learnt value db → less value db) :
    Serves resellerId userId others more script less :=
  fun start => (serves start).weaken
    (fun _ holds => ⟨holds.1, before _ holds.2⟩)
    (fun value _ holds => ⟨holds.1, after value _ holds.2⟩)
    fun _ _ holds => holds

theorem of_looks (looks : Looks script) :
    Serves resellerId userId others known script fun _ => known := by
  intro start visit holds
  have same : (script.runOn visit).2 = visit := looks visit
  revert same
  rcases script.runOn visit with ⟨error | value, reached⟩
  · rintro rfl
    exact holds.1
  · rintro rfl
    exact holds

/-- What is read first matters for nobody. -/
theorem after_look {next : Result → ShopScript Next} {last : Next → Db → Prop}
    (looks : Looks script)
    (rest : ∀ value,
      Serves resellerId userId others known (next value) last) :
    Serves resellerId userId others known (script >>= next) last :=
  (of_looks looks).bind rest

theorem pure (value : Result) :
    Serves resellerId userId others known (pure value : ShopScript Result)
      fun _ => known :=
  of_looks (looks_pure value)

theorem throw (error : HandlerError) :
    Serves resellerId userId others known (throw error : ShopScript Result)
      learnt :=
  fun _ _ holds => holds.1

theorem ite {test : Prop} [Decidable test] {yes no : ShopScript Result}
    (first : Serves resellerId userId others known yes learnt)
    (second : Serves resellerId userId others known no learnt) :
    Serves resellerId userId others known (if test then yes else no)
      learnt := by
  split
  · exact first
  · exact second

/-- What is read is known. -/
theorem query_bind {read : Db → Result} {next : Result → ShopScript Next}
    {last : Next → Db → Prop}
    (rest : ∀ value, Serves resellerId userId others
      (fun db => known db ∧ read db = value) (next value) last) :
    Serves resellerId userId others known (query read >>= next) last :=
  fun start visit holds => rest (read visit.platform.db) start visit
    ⟨holds.1, holds.2, rfl⟩

/-- An order and a top-up in the data are the user's. -/
theorem getData_bind {next : ShopData → ShopScript Next}
    {last : Next → Db → Prop}
    (rest : ∀ data, Serves resellerId userId others
      (fun db => known db ∧
        (∀ id, data.orderId = some id → IsOwnOrder resellerId userId db id) ∧
        ∀ id, data.topupId = some id → IsOwnTopup resellerId userId db id)
      (next data) last) :
    Serves resellerId userId others known (getData >>= next) last :=
  fun start visit holds => rest visit.conversation.data start visit
    ⟨holds.1, holds.2, holds.1.own.order, holds.1.own.topup⟩

theorem clear : Serves resellerId userId others known
    (clear : ShopScript Unit) fun _ => known :=
  fun _ _ holds =>
    ⟨⟨holds.1.spares, ownConversation_start (by decide)⟩, holds.2⟩

theorem setState {state : ShopState} (undisputed : state ≠ .enteringReason) :
    Serves resellerId userId others known
      (BotScripts.setState state : ShopScript Unit) fun _ => known := by
  intro start visit holds
  refine ⟨⟨holds.1.spares, ?_, holds.1.own.order, holds.1.own.topup⟩, holds.2⟩
  intro same
  exact undisputed (Option.some.inj same)

/-- The data may get another order or top-up of the user. -/
theorem updateData {change : ShopData → ShopData}
    (order : ∀ db, known db → ∀ data id, (change data).orderId = some id →
      data.orderId = some id ∨ IsOwnOrder resellerId userId db id)
    (topup : ∀ db, known db → ∀ data id, (change data).topupId = some id →
      data.topupId = some id ∨ IsOwnTopup resellerId userId db id) :
    Serves resellerId userId others known
      (BotScripts.updateData change : ShopScript Unit) fun _ => known := by
  intro start visit holds
  refine ⟨⟨holds.1.spares, holds.1.own.undisputed, ?_, ?_⟩, holds.2⟩
  · intro id found
    exact (order _ holds.2 _ id found).elim (holds.1.own.order id) fun own => own
  · intro id found
    exact (topup _ holds.2 _ id found).elim (holds.1.own.topup id) fun own => own

theorem executeWrite {change : Db → Db} {reached : Db → Prop}
    (spares : ∀ db, known db →
      Spares resellerId userId others db (change db))
    (keeps : ∀ db, known db → Retains ownerPolicy db (change db))
    (reaches : ∀ db, known db → reached (change db)) :
    Serves resellerId userId others known
      (BotScripts.executeWrite change : ShopScript Unit) fun _ => reached :=
  fun _ visit holds =>
    ⟨holds.1.move (spares _ holds.2) (keeps visit.platform.db holds.2),
      reaches _ holds.2⟩

/-- The new row of the statement. -/
theorem executeInsert {name : TableName} {allowed : Db → Bool}
    {row : RowOf name} {reached : Nat → Db → Prop}
    (reaches : ∀ db, known db → reached (db.nextId name)
      ((db.reserve name).put name (db.nextId name) row)) :
    Serves resellerId userId others known
      (BotScripts.executeInsert name allowed row : ShopScript Nat) reached := by
  rintro start visit ⟨served, holds⟩
  unfold BotScripts.executeInsert BotScripts.executeWrite
  simp only [Failing.runOn_bind, runOn_query, Failing.runOn_modify]
  cases isAllowed : allowed (visit.platform.db.reserve name) with
  | true => exact ⟨served.move Spares.insert .insert, reaches _ holds⟩
  | false => exact served.move Spares.reserve .reserve

/-- A call of a service that is about the user. -/
theorem attempt {service : ServiceCall}
    {reached : Outcome → Db → Prop}
    (about : ∀ db, known db → service.IsAbout resellerId userId db)
    (reaches : ∀ db after outcome, known db →
      service.program.runAlone none db = (after, some outcome) →
        Retains ownerPolicy db after → reached outcome after) :
    Serves resellerId userId others known
      (BotScripts.attempt service : ShopScript Outcome) reached := by
  rintro start visit ⟨served, holds⟩
  have spares := @ServiceCall.spares_runAlone _ _ others service _
    (about _ holds)
  have keeps := keepsOwners_runAlone service visit.platform.db
  rw [ServiceCall.runAlone] at spares keeps
  unfold BotScripts.attempt
  rw [Failing.runOn_bind, Failing.runOn_get]
  dsimp only
  cases ran : service.program.runAlone none visit.platform.db with
  | mk after outcome =>
      rw [ran] at spares keeps
      cases outcome with
      | none => exact served.move spares keeps
      | some outcome =>
          exact ⟨served.move spares keeps,
            reaches _ after outcome holds ran keeps⟩

/-- A call of a service whose outcome does not matter. -/
theorem attempt_about {service : ServiceCall}
    (about : ∀ db, known db → service.IsAbout resellerId userId db)
    (keeps : ∀ db after, known db → Retains ownerPolicy db after →
      known after) :
    Serves resellerId userId others known
      (BotScripts.attempt service : ShopScript Outcome) fun _ => known :=
  attempt about fun db after _ holds _ => keeps db after holds

theorem call {service : ServiceCall}
    (about : ∀ db, known db → service.IsAbout resellerId userId db)
    (keeps : ∀ db after, known db → Retains ownerPolicy db after →
      known after) :
    Serves resellerId userId others known
      (BotScripts.call service : ShopScript Reply) fun _ => known := by
  apply (attempt_about about keeps).bind
  intro outcome
  cases outcome with
  | ok reply => exact pure reply
  | error error => exact throw _

theorem forget (serves : Serves resellerId userId others known script learnt) :
    Serves resellerId userId others known script fun _ _ => True :=
  serves.weaken (fun _ holds => holds) fun _ _ _ => trivial

/-- Only with a value the rest of the script runs. -/
theorem required_bind {error : HandlerError} {value : Option Result}
    {next : Result → ShopScript Next} {last : Next → Db → Prop}
    (rest : ∀ found, value = some found →
      Serves resellerId userId others known (next found) last) :
    Serves resellerId userId others known (required error value >>= next)
      last := by
  cases value with
  | none => exact fun _ _ holds => holds.1
  | some found => exact rest found rfl

/-- The script touches neither the records nor the order and the top-up of the
conversation. -/
theorem of_within {footprint : Footprint ShopState ShopData}
    (within : footprint.Within script)
    (tables : ∀ name ∈ Spares.recordTables, name ∉ footprint.tables)
    (states : .enteringReason ∉ footprint.states)
    (data : ∀ first second, footprint.others first = footprint.others second →
      first.orderId = second.orderId ∧ first.topupId = second.topupId) :
    Serves resellerId userId others known script fun _ _ => True := by
  rintro start visit ⟨served, -⟩
  have covers : footprint.Covers visit (script.runOn visit).2 := within visit
  have spares : Spares resellerId userId others visit.platform.db
      (script.runOn visit).2.platform.db :=
    .of_sameOutside covers.rows tables
  have owners : ∀ name ∈ ownerTables, name ∉ footprint.tables := by
    intro name member
    apply tables
    revert member
    cases name <;> decide
  have keeps := keepsOwners_of_sameOutside covers.rows owners
  have own : OwnConversation resellerId userId
      (script.runOn visit).2.platform.db
        (script.runOn visit).2.conversation := by
    obtain ⟨origin, from_, moved, same⟩ := covers.conversation
    have before : OwnConversation resellerId userId visit.platform.db
        origin := by
      rcases from_ with rfl | rfl
      · exact served.own
      · exact ownConversation_start (by decide)
    obtain ⟨sameOrder, sameTopup⟩ := data _ _ same
    obtain ⟨undisputed, order, topup⟩ := before.retained keeps
    refine ⟨?_, by rw [sameOrder]; exact order, by rw [sameTopup]; exact topup⟩
    rcases moved with stayed | ⟨state, inside, moved⟩
    · rw [stayed]
      exact undisputed
    · rw [moved]
      intro reason
      rw [← Option.some.inj reason] at states
      exact states inside
  have ends : Served resellerId userId others start (script.runOn visit).2 :=
    ⟨IsTrans.trans _ _ _ served.spares spares, own⟩
  revert ends
  rcases script.runOn visit with ⟨error | value, reached⟩
  · exact fun ends => ends
  · exact fun ends => ⟨ends, trivial⟩

/-- What every run of the script ensures is learnt. -/
theorem of_ran {more : Result → Db → Prop}
    (serves : Serves resellerId userId others known script learnt)
    (ran : ∀ visit value after, script.runOn visit = (.ok value, after) →
      more value after.platform.db) :
    Serves resellerId userId others known script more := by
  intro start visit holds
  have ends := serves start visit holds
  have learns := ran visit
  revert ends learns
  rcases script.runOn visit with ⟨error | value, reached⟩
  · exact fun ends _ => ends
  · exact fun ends learns => ⟨ends.1, learns value reached rfl⟩

/-- The customer that is looked up is the user. -/
theorem getOrCreateCustomer :
    Serves resellerId userId others known
      (ShopBot.getOrCreateCustomer resellerId userId)
      fun customerId db => IsCustomer resellerId userId db customerId := by
  have serves : Serves resellerId userId others known
      (ShopBot.getOrCreateCustomer resellerId userId) fun _ _ => True := by
    apply after_look (looks_query _)
    intro customers
    cases customers with
    | nil => exact executeInsert fun _ _ => trivial
    | cons customerId _ =>
        exact (pure customerId).weaken (fun _ holds => holds)
          fun _ _ _ => trivial
  exact serves.of_ran fun _ _ _ => ShopBot.isCustomer_getOrCreateCustomer

end Serves

end Baste
