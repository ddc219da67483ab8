import Baste.CatalogNames
import Baste.PricingSteps

/-!
# Warnings of prices

A price below the floor of an operator is saved only after its confirmation.
The warning keeps the whole draft of the package, but the confirmation takes
only the price from it and puts it into the draft that the conversation has by
then.  So prices are confirmed for the right package exactly as long as every
confirmation finds the draft that the warning was issued for.
-/

namespace Baste

open BotScripts Database ShopBot ShopBot.ResellerCatalog

/-- A package that is being added. -/
structure PackageDraft where
  categoryId : Option Int
  packageName : Option String
  deriving DecidableEq, Repr

def ShopData.packageDraft (data : ShopData) : PackageDraft :=
  ⟨data.categoryId, data.packageName⟩

/-- The row is the package of the draft. -/
structure PackageDraft.IsOf (draft : PackageDraft) (row : PackageRow) :
    Prop where
  folder : draft.categoryId.map rowId = some row.categoryId
  name : draft.packageName = some row.name

/-- The history of the warnings: the drafts and the edits for which they were
issued, by token, and the draft and the price whose confirmation has set the
price in a conversation. -/
structure PriceTrail where
  warned : String → Option PackageDraft := fun _ => none
  warnedOfEdit : String → Option PendingEditPrice := fun _ => none
  confirmed : Int × Int → Option (PackageDraft × Numerals.Decimal) :=
    fun _ => none

/-- The token and the price that a button confirms. -/
def confirmedPrice (platform : Platform) (callback : Callback) :
    Option (String × Numerals.Decimal) :=
  if dataStarts "price_confirm:" (none : Option ShopState) callback.data then
    (dataFields callback.data)[1]?.bind fun token =>
      (platform.pendingPriceConfirmations token).map (token, ·)
  else none

/-- The history after an update.  Typing a price forgets the confirmed one. -/
def PriceTrail.record (trail : PriceTrail) (before after : ShopWorld)
    (token : String) : Update → PriceTrail
  | .message message =>
      let asked := before.conversationOf (.message message)
      let now := (after.conversationOf (.message message)).state
      if asked.state = some .enteringPrice then
        { trail with
          warned :=
            if now = some .confirmingSuspiciousPrice then
              Function.update trail.warned token (some asked.data.packageDraft)
            else trail.warned
          confirmed := Function.update trail.confirmed
            (message.chat, message.sender) none }
      else if asked.state = some .editingPackagePrice ∧
          now = some .confirmingSuspiciousEditPrice then
        { trail with
          warnedOfEdit := Function.update trail.warnedOfEdit token
            (asked.data.packageId.bind fun packageId =>
              (message.text.bind typedAmount).map (⟨packageId, ·⟩)) }
      else trail
  | .callback callback =>
      match confirmedPrice before.platform callback with
      | none => trail
      | some (token, price) =>
          { trail with
            confirmed := Function.update trail.confirmed
              (callback.chat, callback.sender)
              ((trail.warned token).map (·, price)) }

/-- A bot with the history of its warnings. -/
structure PricedWorld where
  world : ShopWorld
  trail : PriceTrail := {}

/-- An update, and what the handlers find when it comes. -/
structure PricedEvent where
  surroundings : Surroundings
  update : Update

namespace PricedWorld

variable (settings : ShopSettings)

@[irreducible]
def step (now : PricedWorld) (event : PricedEvent) : PricedWorld :=
  let shop : Shop := ⟨settings, event.surroundings⟩
  let after := now.world.handle shop event.update
  { world := after
    trail := now.trail.record now.world after shop.token event.update }

/-- The price of the row is below the floor of its operator. -/
def IsCheap (db : Db) (row : PackageRow) : Prop :=
  ∃ folder ∈ db.row .categories row.categoryId,
    IsBelowFloor folder.operatorName db (decimal row.salePrice)

/-- The column holds the price. -/
def IsStored (price : Numerals.Decimal) (row : PackageRow) : Prop :=
  ∃ amount, price = .finite amount ∧ row.salePrice = storeDecimal amount

/-- The update presses the button that confirms an edited price. -/
def ConfirmsEdit (update : Update) (token : String) : Prop :=
  ∃ callback, update = .callback callback ∧
    dataStarts "pkgedit_price_confirm:" (none : Option ShopState)
      callback.data = true ∧
    (dataFields callback.data)[1]? = some token

/-- An update inserts a package below the floor, or sets such a price, only
after the confirmation of a warning for exactly that package and that price.
A confirmed price is set for no other package. -/
structure PricesConfirmed (now : PricedWorld) (event : PricedEvent) :
    Prop where
  inserted : ∀ id row, now.world.platform.db.row .packages id = none →
    (now.step settings event).world.platform.db.row .packages id = some row →
      IsCheap (now.step settings event).world.platform.db row →
        ∃ draft price, now.trail.confirmed
            (event.update.chat, event.update.sender) = some (draft, price) ∧
          draft.IsOf row ∧ IsStored price row
  insertedFor : ∀ id row draft price,
    now.world.platform.db.row .packages id = none →
    (now.step settings event).world.platform.db.row .packages id = some row →
      now.trail.confirmed (event.update.chat, event.update.sender) =
          some (draft, price) →
        draft.IsOf row ∧ IsStored price row
  updated : ∀ id old row,
    now.world.platform.db.row .packages id = some old →
    (now.step settings event).world.platform.db.row .packages id = some row →
      row.salePrice ≠ old.salePrice →
      IsCheap (now.step settings event).world.platform.db row →
        ∃ token pending, ConfirmsEdit event.update token ∧
          now.trail.warnedOfEdit token = some pending ∧
          rowId pending.packageId = id ∧ IsStored pending.salePrice row
  updatedFor : ∀ token pending id, ConfirmsEdit event.update token →
    now.trail.warnedOfEdit token = some pending →
      id ≠ rowId pending.packageId →
        (now.step settings event).world.platform.db.row .packages id =
          now.world.platform.db.row .packages id

/-- The update belongs to no other dialogue of the catalog. -/
def InPricing (now : PricedWorld) (event : PricedEvent) : Prop :=
  ∀ handler ∈ otherDialogues ⟨settings, event.surroundings⟩,
    handler.takes (now.world.conversationOf event.update).state
      event.update = false

/-- A button that confirms a price finds the draft of its warning. -/
def FindsDraft (now : PricedWorld) (event : PricedEvent) : Prop :=
  ∀ callback, event.update = .callback callback →
    ∀ token price,
      confirmedPrice now.world.platform callback = some (token, price) →
        now.trail.warned token =
          some (now.world.conversationOf event.update).data.packageDraft

section Floors

variable {before after : Db}

theorem getMinSanePrice_eq {tables : List TableName} {operatorName : String}
    (same : SameOutside tables before after)
    (outside : .categoryPriceFloors ∉ tables) :
    getMinSanePrice operatorName after =
      getMinSanePrice operatorName before := by
  have rows : after.row .categoryPriceFloors =
      before.row .categoryPriceFloors :=
    funext fun id => same.rows _ outside id
  rw [getMinSanePrice, getMinSanePrice, same.idsWhere_eq outside, rows]

/-- A typed price that passes the floor still passes it as it is stored. -/
theorem passes_storeDecimal {floor : Cents} {price : Rat}
    (passes : ¬ price < decimal floor) :
    ¬ decimal (storeDecimal price) < decimal floor := by
  have atLeast : (floor : Rat) ≤ price * 100 := by
    have := not_lt.mp passes
    unfold decimal at this
    linarith
  have stored : floor ≤ storeDecimal price :=
    (Int.le_floor.mpr atLeast).trans (floor_le_roundHalfAway _)
  have casted : (floor : Rat) ≤ storeDecimal price := by exact_mod_cast stored
  unfold decimal
  linarith

end Floors

section Conversations

/-- The operator in the data is the one on the folder. -/
def NamesOperator (db : Db) (data : ShopData) : Prop :=
  ∀ categoryId ∈ data.categoryId, ∀ operatorName ∈ data.operatorName,
    ∃ folder, db.row .categories (rowId categoryId) = some folder ∧
      folder.operatorName = operatorName

/-- The price is not below the floor for the folder in the data. -/
def PassesFloor (db : Db) (data : ShopData) (price : Numerals.Decimal) :
    Prop :=
  ∀ amount, price = .finite amount → ∀ categoryId ∈ data.categoryId,
    ∀ folder ∈ db.row .categories (rowId categoryId),
      ¬ IsBelowFloor folder.operatorName db amount

/-- A conversation that asks for the last number has a price that has been
confirmed for its draft, or one that needs no confirmation. -/
def IsSettled (db : Db)
    (confirmed : Option (PackageDraft × Numerals.Decimal))
    (conversation : Conversation ShopState ShopData) : Prop :=
  conversation.state = some .enteringCostPrice →
    ∀ price ∈ conversation.data.salePrice,
      confirmed = some (conversation.data.packageDraft, price) ∨
        confirmed = none ∧ PassesFloor db conversation.data price

variable {before after : Db} {tables : List TableName}

theorem NamesOperator.of_sameOutside {data : ShopData}
    (names : NamesOperator before data)
    (same : SameOutside tables before after)
    (folders : .categories ∉ tables) : NamesOperator after data := by
  intro categoryId isFolder operatorName isName
  rw [same.rows _ folders]
  exact names categoryId isFolder operatorName isName

theorem IsSettled.of_sameOutside
    {confirmed : Option (PackageDraft × Numerals.Decimal)}
    {conversation : Conversation ShopState ShopData}
    (settled : IsSettled before confirmed conversation)
    (same : SameOutside tables before after)
    (folders : .categories ∉ tables)
    (floors : .categoryPriceFloors ∉ tables) :
    IsSettled after confirmed conversation := by
  intro inState price isPrice
  rcases settled inState price isPrice with isConfirmed | ⟨typed, passes⟩
  · exact .inl isConfirmed
  · refine .inr ⟨typed, fun amount isFinite categoryId isFolder folder found =>
      ?_⟩
    rw [same.rows _ folders] at found
    rw [IsBelowFloor, getMinSanePrice_eq same floors]
    exact passes amount isFinite categoryId isFolder folder found

theorem isSettled_of_state_ne {db : Db}
    {confirmed : Option (PackageDraft × Numerals.Decimal)}
    {conversation : Conversation ShopState ShopData}
    (elsewhere : conversation.state ≠ some .enteringCostPrice) :
    IsSettled db confirmed conversation :=
  fun inState => absurd inState elsewhere

end Conversations

/-- Nobody is warned, and no price is confirmed, but as the history says. -/
structure Tracked (now : PricedWorld) : Prop where
  edits : ∀ token pending,
    now.world.platform.pendingEditPriceConfirmations token = some pending →
      now.trail.warnedOfEdit token = some pending
  operators : ∀ key, NamesOperator now.world.platform.db
    (now.world.conversations key).data
  settled : ∀ key, IsSettled now.world.platform.db (now.trail.confirmed key)
    (now.world.conversations key)

section Steps

variable {settings : ShopSettings} {now : PricedWorld} {event : PricedEvent}

theorem world_step : (now.step settings event).world =
    now.world.handle ⟨settings, event.surroundings⟩ event.update := by
  rw [step]

theorem trail_step : (now.step settings event).trail =
    now.trail.record now.world (now.step settings event).world
      event.surroundings.token event.update := by
  rw [step]

/-- What the handler of an update works on. -/
def visitBefore (now : PricedWorld) (event : PricedEvent) :
    Visit ShopState ShopData :=
  ⟨now.world.platform, now.world.conversationOf event.update⟩

/-- What the handler leaves behind. -/
def visitAfter (settings : ShopSettings) (now : PricedWorld)
    (event : PricedEvent) : Visit ShopState ShopData :=
  ⟨(now.step settings event).world.platform,
    (now.step settings event).world.conversationOf event.update⟩

/-- An update presses a pending confirmation, or it belongs to the rest of the
shop, or it makes another step of the pricing dialogues. -/
inductive Outcome (settings : ShopSettings) (now : PricedWorld)
    (event : PricedEvent) : Prop where
  | confirmed (callback : Callback) (token : String)
      (price : Numerals.Decimal) (isPress : event.update = .callback callback)
      (pending : confirmedPrice now.world.platform callback =
        some (token, price))
      (left : visitAfter settings now event =
        { platform :=
            { now.world.platform with
              pendingPriceConfirmations := Function.update
                now.world.platform.pendingPriceConfirmations token none }
          conversation :=
            ⟨some .enteringCostPrice,
              { (now.world.conversationOf event.update).data with
                salePrice := some price }⟩ })
  | elsewhere
      (noPress : ∀ callback, event.update = .callback callback →
        confirmedPrice now.world.platform callback = none)
      (covers : outsideCatalog.Covers (visitBefore now event)
        (visitAfter settings now event))
  | stepped
      (noPress : ∀ callback, event.update = .callback callback →
        confirmedPrice now.world.platform callback = none)
      (step : PricingStep ⟨settings, event.surroundings⟩
        (visitBefore now event) event.update (visitAfter settings now event))

/-- The button finds its pending price. -/
theorem of_confirmedPrice {platform : Platform} {callback : Callback}
    {token : String} {price : Numerals.Decimal}
    (pending : confirmedPrice platform callback = some (token, price)) :
    dataStarts "price_confirm:" (none : Option ShopState) callback.data =
        true ∧
      (dataFields callback.data)[1]? = some token ∧
      platform.pendingPriceConfirmations token = some price := by
  unfold confirmedPrice at pending
  split at pending
  · rename_i starts
    obtain ⟨found, field, isPending⟩ := Option.bind_eq_some_iff.mp pending
    obtain ⟨other, isPrice, same⟩ := Option.map_eq_some_iff.mp isPending
    cases same
    exact ⟨starts, field, isPrice⟩
  · cases pending

/-- What happens to the update. -/
def script (settings : ShopSettings) (now : PricedWorld)
    (event : PricedEvent) : Option (ShopScript Unit) :=
  Handler.dispatch
    (handlers ⟨settings, event.surroundings⟩ fun userId =>
      isResellerOwner settings.resellerId userId now.world.platform.db)
    (now.world.conversationOf event.update).state event.update

theorem visitAfter_of_script {action : ShopScript Unit}
    (found : script settings now event = some action) :
    visitAfter settings now event =
      (action.runOn (visitBefore now event)).2 := by
  rw [visitAfter, world_step]
  exact BotWorld.visit_receive found

theorem visitAfter_of_none (nobody : script settings now event = none) :
    visitAfter settings now event = visitBefore now event := by
  have same : now.world.handle ⟨settings, event.surroundings⟩ event.update =
      now.world := by
    rw [ShopWorld.handle]
    exact BotWorld.receive_of_none nobody
  rw [visitAfter, world_step, same, visitBefore]

/-- A handler other than those of the other dialogues stays in the pricing
dialogues or outside the catalog. -/
theorem outcome_of_handler (inPricing : InPricing settings now event)
    (noPress : ∀ callback, event.update = .callback callback →
      confirmedPrice now.world.platform callback = none)
    {action : ShopScript Unit}
    (found : script settings now event = some action) :
    Outcome settings now event := by
  have ran := visitAfter_of_script found
  obtain ⟨handler, member, takes, rfl⟩ := Handler.exists_of_dispatch found
  rcases catalog_or_admits _ _ handler member with catalog | rest
  · rcases pricing_or_other_or_admits handler catalog with
      pricing | other | shows
    · apply Outcome.stepped noPress
      rw [ran]
      exact pricingStep_of_handler pricing takes
    · rw [inPricing handler other] at takes
      cases takes
    · apply Outcome.elsewhere noPress
      rw [ran]
      exact shows event.update _
  · apply Outcome.elsewhere noPress
    rw [ran]
    exact rest event.update _

theorem outcome_of_press {callback : Callback} {token : String}
    {price : Numerals.Decimal} (isPress : event.update = .callback callback)
    (pending : confirmedPrice now.world.platform callback =
      some (token, price)) :
    Outcome settings now event := by
  obtain ⟨starts, field, isPending⟩ := of_confirmedPrice pending
  apply Outcome.confirmed callback token price isPress pending
  have found : script settings now event =
      some (confirmSuspiciousPrice.action (.callback callback)) := by
    rw [script, isPress]
    exact dispatch_priceConfirm starts
  rw [visitAfter_of_script found]
  exact @visit_confirmSuspiciousPrice (visitBefore now event) callback token
    price field isPending

theorem outcome (inPricing : InPricing settings now event) :
    Outcome settings now event := by
  by_cases pressed : ∃ callback token price,
      event.update = .callback callback ∧
        confirmedPrice now.world.platform callback = some (token, price)
  · obtain ⟨callback, token, price, isPress, pending⟩ := pressed
    exact outcome_of_press isPress pending
  · have noPress : ∀ callback, event.update = .callback callback →
        confirmedPrice now.world.platform callback = none := by
      intro callback isPress
      rw [Option.eq_none_iff_forall_not_mem]
      rintro ⟨token, price⟩ pending
      exact pressed ⟨callback, token, price, isPress, pending⟩
    cases found : script settings now event with
    | none =>
        apply Outcome.elsewhere noPress
        rw [visitAfter_of_none found]
        exact .refl _
    | some action => exact outcome_of_handler inPricing noPress found

/-- The folders and the price floors stay. -/
theorem Outcome.rows (outcome : Outcome settings now event) :
    ∃ tables, SameOutside tables (visitBefore now event).platform.db
        (visitAfter settings now event).platform.db ∧
      .categories ∉ tables ∧ .categoryPriceFloors ∉ tables := by
  cases outcome with
  | confirmed _ _ _ _ _ left =>
      rw [left]
      exact ⟨[], .refl _, by decide, by decide⟩
  | elsewhere _ covers => exact ⟨_, covers.rows, by decide, by decide⟩
  | stepped _ step => exact ⟨_, step.rows, by decide, by decide⟩

end Steps

section Records

variable {trail : PriceTrail} {before after : ShopWorld} {token : String}
variable {message : Message} {callback : Callback}

theorem record_of_noPress
    (noPress : confirmedPrice before.platform callback = none) :
    trail.record before after token (.callback callback) = trail := by
  rw [PriceTrail.record, noPress]

theorem confirmed_record_of_press {pressed : String}
    {price : Numerals.Decimal}
    (pending : confirmedPrice before.platform callback =
      some (pressed, price)) :
    (trail.record before after token (.callback callback)).confirmed
        (callback.chat, callback.sender) =
      (trail.warned pressed).map (·, price) := by
  rw [PriceTrail.record, pending]
  exact Function.update_self _ _ _

/-- A price that is typed is not confirmed. -/
theorem confirmed_record_of_typed
    (typed : (before.conversationOf (.message message)).state =
      some .enteringPrice) :
    (trail.record before after token (.message message)).confirmed
        (message.chat, message.sender) = none := by
  rw [PriceTrail.record]
  rw [if_pos typed]
  exact Function.update_self _ _ _

theorem confirmed_record_of_message
    (elsewhere : (before.conversationOf (.message message)).state ≠
      some .enteringPrice) :
    (trail.record before after token (.message message)).confirmed =
      trail.confirmed := by
  rw [PriceTrail.record]
  rw [if_neg elsewhere]
  split <;> rfl

theorem confirmed_record_of_noPress {update : Update}
    (noPress : ∀ callback, update = .callback callback →
      confirmedPrice before.platform callback = none)
    (elsewhere : (before.conversationOf update).state ≠ some .enteringPrice) :
    (trail.record before after token update).confirmed = trail.confirmed := by
  cases update with
  | message message => exact confirmed_record_of_message elsewhere
  | callback callback => rw [record_of_noPress (noPress callback rfl)]

/-- What is confirmed in a conversation concerns no other. -/
theorem confirmed_record_of_ne {update : Update} {key : Int × Int}
    (other : key ≠ (update.chat, update.sender)) :
    (trail.record before after token update).confirmed key =
      trail.confirmed key := by
  cases update with
  | message message =>
      by_cases typed : (before.conversationOf (.message message)).state =
          some .enteringPrice
      · rw [PriceTrail.record, if_pos typed]
        exact Function.update_of_ne other _ _
      · rw [confirmed_record_of_message typed]
  | callback callback =>
      cases pressed : confirmedPrice before.platform callback with
      | none => rw [record_of_noPress pressed]
      | some pending =>
          rw [PriceTrail.record, pressed]
          exact Function.update_of_ne other _ _

/-- Only a message that brings an edit to its confirmation is a warning. -/
theorem warnedOfEdit_record {update : Update}
    (unwarned : (before.conversationOf update).state =
        some .editingPackagePrice →
      (after.conversationOf update).state ≠
        some .confirmingSuspiciousEditPrice) :
    (trail.record before after token update).warnedOfEdit =
      trail.warnedOfEdit := by
  cases update with
  | message message =>
      rw [PriceTrail.record]
      split
      · rfl
      · rw [if_neg fun both => unwarned both.1 both.2]
  | callback callback =>
      cases pressed : confirmedPrice before.platform callback with
      | none => rw [record_of_noPress pressed]
      | some pending =>
          rw [PriceTrail.record, pressed]

theorem warnedOfEdit_record_of_warning {update : Update} {text : String}
    {packageId : Int} {price : Numerals.Decimal}
    (isMessage : update = .message message)
    (editing : (before.conversationOf update).state =
      some .editingPackagePrice)
    (warned : (after.conversationOf update).state =
      some .confirmingSuspiciousEditPrice)
    (isText : message.text = some text)
    (isAmount : typedAmount text = some price)
    (ofPackage : (before.conversationOf update).data.packageId =
      some packageId) :
    (trail.record before after token update).warnedOfEdit =
      Function.update trail.warnedOfEdit token (some ⟨packageId, price⟩) := by
  subst isMessage
  rw [PriceTrail.record, if_neg (by rw [editing]; decide),
    if_pos ⟨editing, warned⟩, ofPackage, isText]
  dsimp only [Option.bind_some]
  rw [isAmount]
  rfl

end Records

section PricingSteps

variable {shop : Shop} {before after : Visit ShopState ShopData}
variable {update : Update}

/-- An edit that waits for its confirmation has waited before, or its warning
is issued now. -/
theorem edits_of_pricingStep (step : PricingStep shop before update after) :
    ((∀ token pending,
        after.platform.pendingEditPriceConfirmations token = some pending →
          before.platform.pendingEditPriceConfirmations token =
            some pending) ∧
      (before.conversation.state = some .editingPackagePrice →
        after.conversation.state ≠ some .confirmingSuspiciousEditPrice)) ∨
    ∃ message text packageId price, update = .message message ∧
      before.conversation.state = some .editingPackagePrice ∧
      message.text = some text ∧ typedAmount text = some price ∧
      before.conversation.data.packageId = some packageId ∧
      after.platform.pendingEditPriceConfirmations = Function.update
        before.platform.pendingEditPriceConfirmations shop.token
        (some ⟨packageId, price⟩) ∧
      after.conversation.state = some .confirmingSuspiciousEditPrice := by
  have dropped : ∀ {pendings : String → Option PendingEditPrice}
      {dropped token : String} {pending : PendingEditPrice},
      Function.update pendings dropped none token = some pending →
        pendings token = some pending := by
    intro pendings dropped token pending waits
    by_cases same : token = dropped
    · subst same
      rw [Function.update_self] at waits
      cases waits
    · rwa [Function.update_of_ne same] at waits
  cases step with
  | warnedOfEdit inState isText isAmount ofPackage =>
      exact .inr ⟨_, _, _, _, rfl, inState, isText, isAmount, ofPackage, rfl,
        rfl⟩
  | editConfirmed | editDropped =>
      exact .inl ⟨fun _ _ waits => dropped waits, by rintro - ⟨⟩⟩
  | editForgotten =>
      refine .inl ⟨fun _ _ waits => dropped waits, fun editing => ?_⟩
      rw [editing]
      decide
  | editAskedAgain =>
      exact .inl ⟨fun _ _ waits => dropped waits, by rintro - ⟨⟩⟩
  | idle | notAdded | forgotten | editedUnanswered =>
      refine .inl ⟨fun _ _ waits => waits, fun editing => ?_⟩
      rw [editing]
      decide
  | _ => exact .inl ⟨fun _ _ waits => waits, by rintro - ⟨⟩⟩

theorem operators_of_pricingStep (step : PricingStep shop before update after)
    (names : NamesOperator before.platform.db before.conversation.data) :
    NamesOperator after.platform.db after.conversation.data := by
  have started : NamesOperator after.platform.db ∅ := by
    intro categoryId isFolder
    cases isFolder
  have kept := names.of_sameOutside step.rows (by decide)
  cases step with
  | picked found =>
      rintro _ ⟨⟩ _ ⟨⟩
      exact ⟨_, found, rfl⟩
  | added | edited | editConfirmed | editDropped | ended => exact started
  | _ => exact kept

/-- Nothing but a confirmation or a price that passes the floor leads to the
last question. -/
theorem settled_of_pricingStep (step : PricingStep shop before update after)
    {confirmed later : Option (PackageDraft × Numerals.Decimal)}
    (noPress : ∀ callback, update = .callback callback →
      confirmedPrice before.platform callback = none)
    (typed : ∀ message, update = .message message →
      before.conversation.state = some .enteringPrice → later = none)
    (same : before.conversation.state ≠ some .enteringPrice →
      later = confirmed)
    (names : NamesOperator before.platform.db before.conversation.data)
    (settled : IsSettled before.platform.db confirmed before.conversation) :
    IsSettled after.platform.db later after.conversation := by
  have stays : after.conversation = before.conversation →
      IsSettled after.platform.db later after.conversation := by
    intro unchanged inState
    rw [unchanged] at inState ⊢
    rw [same (by rw [inState]; decide)]
    exact settled.of_sameOutside step.rows (by decide) (by decide) inState
  cases step with
  | idle | forgotten | notAdded | editForgotten | editedUnanswered =>
      exact stays rfl
  | priced inState ofOperator passes =>
      rintro - _ ⟨⟩
      refine .inr ⟨typed _ rfl inState, ?_⟩
      intro amount isFinite categoryId isFolder folder found
      obtain ⟨other, isOther, sameName⟩ :=
        names categoryId isFolder _ ofOperator
      cases found.symm.trans isOther
      rw [sameName]
      exact passes amount isFinite
  | confirmed starts field pending =>
      have absent := noPress _ rfl
      rw [confirmedPrice, if_pos starts, field, Option.bind_some,
        pending] at absent
      cases absent
  | _ => exact isSettled_of_state_ne (by rintro ⟨⟩)

/-- What a step does to the packages. -/
theorem packages_of_pricingStep (step : PricingStep shop before update after) :
    (∀ id, after.platform.db.row .packages id =
        before.platform.db.row .packages id) ∨
    (∃ (message : Message) (categoryId : Int) (packageName : String)
        (price costPrice : Rat), update = .message message ∧
      before.conversation.state = some .enteringCostPrice ∧
      before.conversation.data.categoryId = some categoryId ∧
      before.conversation.data.packageName = some packageName ∧
      before.conversation.data.salePrice = some (.finite price) ∧
      after.platform.db = (before.platform.db.reserve .packages).put .packages
        (before.platform.db.nextId .packages)
        { resellerId := shop.resellerId
          categoryId := rowId categoryId
          name := packageName
          salePrice := storeDecimal price
          costPrice := some (storeDecimal costPrice) }) ∨
    (∃ (message : Message) (packageId : Int) (price : Rat),
      update = .message message ∧
      (¬ IsBelowFloor (operatorNameOf (rowId packageId)
        before.platform.db) before.platform.db price) ∧
      after.platform.db = before.platform.db.modify .packages
        (rowId packageId) (setSalePrice (storeDecimal price))) ∨
    ∃ (callback : Callback) (token : String) (packageId : Int) (price : Rat),
      update = .callback callback ∧
      dataStarts "pkgedit_price_confirm:" (none : Option ShopState)
        callback.data = true ∧
      (dataFields callback.data)[1]? = some token ∧
      before.platform.pendingEditPriceConfirmations token =
        some ⟨packageId, .finite price⟩ ∧
      after.platform.db = before.platform.db.modify .packages
        (rowId packageId) (setSalePrice (storeDecimal price)) := by
  cases step with
  | added inState inFolder hasName hasPrice =>
      exact .inr (.inl ⟨_, _, _, _, _, rfl, inState, inFolder, hasName,
        hasPrice, rfl⟩)
  | edited passes | editedUnanswered passes =>
      exact .inr (.inr (.inl ⟨_, _, _, rfl, passes, rfl⟩))
  | editConfirmed starts field pending =>
      exact .inr (.inr (.inr ⟨_, _, _, _, rfl, starts, field, pending, rfl⟩))
  | notAdded => exact .inl fun _ => row_reserve
  | _ => exact .inl fun _ => rfl

/-- The rest of the shop leads to none of the dialogues of the catalog. -/
theorem state_of_covers
    (covers : outsideCatalog.Covers before after) {state : ShopState}
    (catalog : state ∉ outsideCatalog.states)
    (inState : after.conversation.state = some state) :
    before.conversation.state = some state ∧
      outsideCatalog.others after.conversation.data =
        outsideCatalog.others before.conversation.data := by
  obtain ⟨start, from_, states, data⟩ := covers.conversation
  have started : start.state = some state := by
    rcases states with kept | ⟨other, member, moved⟩
    · rw [← kept, inState]
    · rw [inState] at moved
      cases moved
      exact absurd member catalog
  rcases from_ with rfl | rfl
  · exact ⟨started, data⟩
  · cases started

/-- The rest of the shop keeps the package that is being added. -/
theorem draft_of_others {first second : ShopData}
    (same : outsideCatalog.others first = outsideCatalog.others second) :
    first.packageDraft = second.packageDraft ∧
      first.operatorName = second.operatorName ∧
      first.salePrice = second.salePrice := by
  refine ⟨?_, ?_, ?_⟩
  · change (outsideCatalog.others first).packageDraft =
      (outsideCatalog.others second).packageDraft
    rw [same]
  · change (outsideCatalog.others first).operatorName =
      (outsideCatalog.others second).operatorName
    rw [same]
  · change (outsideCatalog.others first).salePrice =
      (outsideCatalog.others second).salePrice
    rw [same]

theorem operators_of_covers (covers : outsideCatalog.Covers before after)
    (names : NamesOperator before.platform.db before.conversation.data) :
    NamesOperator after.platform.db after.conversation.data := by
  have kept := names.of_sameOutside covers.rows (by decide)
  obtain ⟨start, from_, states, data⟩ := covers.conversation
  obtain ⟨draft, operator, -⟩ := draft_of_others data
  have folder : after.conversation.data.categoryId = start.data.categoryId :=
    congrArg PackageDraft.categoryId draft
  unfold NamesOperator
  rw [folder, operator]
  rcases from_ with rfl | rfl
  · exact kept
  · intro categoryId isFolder
    cases isFolder

theorem settled_of_covers (covers : outsideCatalog.Covers before after)
    {confirmed later : Option (PackageDraft × Numerals.Decimal)}
    (same : before.conversation.state ≠ some .enteringPrice →
      later = confirmed)
    (settled : IsSettled before.platform.db confirmed before.conversation) :
    IsSettled after.platform.db later after.conversation := by
  intro inState price isPrice
  obtain ⟨asked, data⟩ := state_of_covers covers (by decide) inState
  obtain ⟨draft, -, salePrice⟩ := draft_of_others data
  have folder : after.conversation.data.categoryId =
      before.conversation.data.categoryId :=
    congrArg PackageDraft.categoryId draft
  have kept := settled.of_sameOutside covers.rows (by decide) (by decide)
    asked price (salePrice ▸ isPrice)
  rw [same (by rw [asked]; decide), draft]
  unfold PassesFloor at kept ⊢
  rw [folder]
  exact kept

end PricingSteps

section Invariants

variable {settings : ShopSettings} {now : PricedWorld} {event : PricedEvent}

theorem conversations_step_of_ne {key : Int × Int}
    (other : key ≠ (event.update.chat, event.update.sender)) :
    (now.step settings event).world.conversations key =
      now.world.conversations key := by
  rw [world_step]
  exact BotWorld.conversations_receive_of_ne other

theorem edits_step (outcome : Outcome settings now event)
    (edits : ∀ token pending,
      now.world.platform.pendingEditPriceConfirmations token = some pending →
        now.trail.warnedOfEdit token = some pending) :
    ∀ token pending,
      (visitAfter settings now event).platform.pendingEditPriceConfirmations
          token = some pending →
        (now.step settings event).trail.warnedOfEdit token = some pending := by
  have stays :
      (∀ token pending, (visitAfter settings now
          event).platform.pendingEditPriceConfirmations token = some pending →
        now.world.platform.pendingEditPriceConfirmations token =
          some pending) →
      ((visitBefore now event).conversation.state =
          some .editingPackagePrice →
        (visitAfter settings now event).conversation.state ≠
          some .confirmingSuspiciousEditPrice) →
      ∀ token pending,
        (visitAfter settings now event).platform.pendingEditPriceConfirmations
            token = some pending →
          (now.step settings event).trail.warnedOfEdit token =
            some pending := by
    intro waited unwarned token pending waits
    have same : (now.step settings event).trail.warnedOfEdit =
        now.trail.warnedOfEdit := by
      rw [trail_step]
      exact warnedOfEdit_record unwarned
    rw [same]
    exact edits token pending (waited token pending waits)
  cases outcome with
  | confirmed callback token price isPress pending left =>
      apply stays
      · rw [left]
        exact fun _ _ waits => waits
      · rw [left]
        rintro - ⟨⟩
  | elsewhere noPress covers =>
      apply stays
      · rw [(covers.prices rfl).2]
        exact fun _ _ waits => waits
      · intro editing warned
        have before := (state_of_covers covers (by decide) warned).1
        rw [editing] at before
        cases before
  | stepped noPress step =>
      rcases edits_of_pricingStep step with ⟨waited, unwarned⟩ |
        ⟨message, text, packageId, price, isMessage, editing, isText, isAmount,
          ofPackage, waits, warned⟩
      · exact stays waited unwarned
      · intro token pending waiting
        rw [waits] at waiting
        have same : (now.step settings event).trail.warnedOfEdit =
            Function.update now.trail.warnedOfEdit event.surroundings.token
              (some ⟨packageId, price⟩) := by
          rw [trail_step]
          exact warnedOfEdit_record_of_warning isMessage editing warned isText
            isAmount ofPackage
        rw [same]
        by_cases isToken : token = event.surroundings.token
        · subst isToken
          rw [Function.update_self] at waiting ⊢
          exact waiting
        · rw [Function.update_of_ne isToken] at waiting ⊢
          exact edits token pending waiting

theorem operators_step (outcome : Outcome settings now event)
    (names : ∀ key, NamesOperator now.world.platform.db
      (now.world.conversations key).data) (key : Int × Int) :
    NamesOperator (visitAfter settings now event).platform.db
      ((now.step settings event).world.conversations key).data := by
  obtain ⟨tables, rows, folders, -⟩ := outcome.rows
  by_cases other : key ≠ (event.update.chat, event.update.sender)
  · rw [conversations_step_of_ne other]
    exact (names key).of_sameOutside rows folders
  have own : NamesOperator (visitBefore now event).platform.db
      (visitBefore now event).conversation.data :=
    names (event.update.chat, event.update.sender)
  rw [not_not.mp other]
  change NamesOperator (visitAfter settings now event).platform.db
    (visitAfter settings now event).conversation.data
  have kept := own.of_sameOutside rows folders
  cases outcome with
  | confirmed callback token price isPress pending left =>
      rw [left] at kept ⊢
      exact kept
  | elsewhere noPress covers =>
      exact operators_of_covers covers own
  | stepped noPress step => exact operators_of_pricingStep step own

theorem settled_step (outcome : Outcome settings now event)
    (finds : FindsDraft now event)
    (names : ∀ key, NamesOperator now.world.platform.db
      (now.world.conversations key).data)
    (settled : ∀ key, IsSettled now.world.platform.db (now.trail.confirmed key)
      (now.world.conversations key)) (key : Int × Int) :
    IsSettled (visitAfter settings now event).platform.db
      ((now.step settings event).trail.confirmed key)
      ((now.step settings event).world.conversations key) := by
  obtain ⟨tables, rows, folders, floors⟩ := outcome.rows
  by_cases other : key ≠ (event.update.chat, event.update.sender)
  · have same : (now.step settings event).trail.confirmed key =
        now.trail.confirmed key := by
      rw [trail_step]
      exact confirmed_record_of_ne other
    rw [conversations_step_of_ne other, same]
    exact (settled key).of_sameOutside rows folders floors
  have own : IsSettled (visitBefore now event).platform.db
      (now.trail.confirmed (event.update.chat, event.update.sender))
      (visitBefore now event).conversation :=
    settled (event.update.chat, event.update.sender)
  have unlessTyped :
      (∀ callback, event.update = .callback callback →
        confirmedPrice now.world.platform callback = none) →
      (visitBefore now event).conversation.state ≠ some .enteringPrice →
      (now.step settings event).trail.confirmed
          (event.update.chat, event.update.sender) =
        now.trail.confirmed (event.update.chat, event.update.sender) := by
    intro noPress asked
    rw [trail_step, confirmed_record_of_noPress noPress asked]
  rw [not_not.mp other]
  change IsSettled (visitAfter settings now event).platform.db _
    (visitAfter settings now event).conversation
  cases outcome with
  | confirmed callback token price isPress pending left =>
      have confirmed : (now.step settings event).trail.confirmed
          (event.update.chat, event.update.sender) =
            some ((now.world.conversationOf event.update).data.packageDraft,
              price) := by
        have found := finds callback isPress token price pending
        rw [trail_step]
        rw [isPress] at found ⊢
        rw [← Option.map_some (f := fun draft => (draft, price)), ← found]
        exact confirmed_record_of_press pending
      rw [left, confirmed]
      rintro - _ ⟨⟩
      exact .inl rfl
  | elsewhere noPress covers =>
      exact settled_of_covers covers (unlessTyped noPress) own
  | stepped noPress step =>
      have typed : ∀ message, event.update = .message message →
          (visitBefore now event).conversation.state = some .enteringPrice →
          (now.step settings event).trail.confirmed
            (event.update.chat, event.update.sender) = none := by
        intro message isMessage asked
        rw [trail_step]
        change (now.world.conversationOf event.update).state =
          some .enteringPrice at asked
        rw [isMessage] at asked ⊢
        exact confirmed_record_of_typed asked
      exact settled_of_pricingStep step noPress typed (unlessTyped noPress)
        (names (event.update.chat, event.update.sender)) own

theorem tracked_step (tracked : Tracked now)
    (inPricing : InPricing settings now event)
    (finds : FindsDraft now event) : Tracked (now.step settings event) where
  edits := edits_step (outcome inPricing) tracked.edits
  operators := operators_step (outcome inPricing) tracked.operators
  settled := settled_step (outcome inPricing) finds tracked.operators
    tracked.settled

end Invariants

section Prices

variable {settings : ShopSettings} {now : PricedWorld} {event : PricedEvent}

/-- Nothing is asked of an update that leaves the packages alone. -/
theorem pricesConfirmed_of_rows
    (same : ∀ id, (visitAfter settings now event).platform.db.row .packages
        id = (visitBefore now event).platform.db.row .packages id) :
    PricesConfirmed settings now event where
  inserted id row absent present := by
    cases (absent.symm.trans (same id).symm).trans present
  insertedFor id row _ _ absent present := by
    cases (absent.symm.trans (same id).symm).trans present
  updated id old row before after changed := by
    cases (before.symm.trans (same id).symm).trans after
    exact absurd rfl changed
  updatedFor _ _ id _ _ _ := same id

/-- A message confirms no edit. -/
theorem not_confirmsEdit {message : Message} {token : String}
    (isMessage : event.update = .message message) :
    ¬ ConfirmsEdit event.update token := by
  rintro ⟨callback, isCallback, -⟩
  rw [isMessage] at isCallback
  cases isCallback

theorem pricesConfirmed_of_added (tracked : Tracked now) {message : Message}
    {categoryId : Int} {packageName : String} {price costPrice : Rat}
    {resellerId : Nat} (isMessage : event.update = .message message)
    (inState : (visitBefore now event).conversation.state =
      some .enteringCostPrice)
    (inFolder : (visitBefore now event).conversation.data.categoryId =
      some categoryId)
    (hasName : (visitBefore now event).conversation.data.packageName =
      some packageName)
    (hasPrice : (visitBefore now event).conversation.data.salePrice =
      some (.finite price))
    (left : (visitAfter settings now event).platform.db =
      ((visitBefore now event).platform.db.reserve .packages).put .packages
        ((visitBefore now event).platform.db.nextId .packages)
        { resellerId := resellerId
          categoryId := rowId categoryId
          name := packageName
          salePrice := storeDecimal price
          costPrice := some (storeDecimal costPrice) }) :
    PricesConfirmed settings now event := by
  have same : SameOutside [.packages] (visitBefore now event).platform.db
      (visitAfter settings now event).platform.db := by
    rw [left]
    exact SameOutside.reserve.trans (.put (by decide))
  have isNew : ∀ id, id ≠ (visitBefore now event).platform.db.nextId
      .packages →
      (visitAfter settings now event).platform.db.row .packages id =
        (visitBefore now event).platform.db.row .packages id := by
    intro id other
    rw [left, row_put_ne other, row_reserve]
  have new : ∀ id row,
      (visitBefore now event).platform.db.row .packages id = none →
      (visitAfter settings now event).platform.db.row .packages id = some row →
      row.categoryId = rowId categoryId ∧ row.name = packageName ∧
        row.salePrice = storeDecimal price := by
    intro id row absent present
    by_cases other : id = (visitBefore now event).platform.db.nextId .packages
    · subst other
      rw [left, row_put_self (by simp)] at present
      cases present
      exact ⟨rfl, rfl, rfl⟩
    · rw [isNew id other, absent] at present
      cases present
  have isOf : ∀ {row : PackageRow}, row.categoryId = rowId categoryId →
      row.name = packageName →
      (visitBefore now event).conversation.data.packageDraft.IsOf row := by
    intro row inRow nameInRow
    constructor
    · change (visitBefore now event).conversation.data.categoryId.map rowId =
        some row.categoryId
      rw [inFolder, inRow, Option.map_some]
    · change (visitBefore now event).conversation.data.packageName =
        some row.name
      rw [hasName, nameInRow]
  have settled := tracked.settled (event.update.chat, event.update.sender)
    inState _ hasPrice
  constructor
  · intro id row absent present cheap
    obtain ⟨inRow, nameInRow, priceInRow⟩ := new id row absent present
    rcases settled with isConfirmed | ⟨-, passes⟩
    · exact ⟨_, _, isConfirmed, isOf inRow nameInRow, price, rfl, priceInRow⟩
    · obtain ⟨folder, found, floor, isFloor, below⟩ := cheap
      have found' : folder ∈ (visitAfter settings now event).platform.db.row
          .categories row.categoryId := found
      have isFloor' : floor ∈ getMinSanePrice folder.operatorName
          (visitAfter settings now event).platform.db := isFloor
      rw [inRow, same.rows _ (by decide)] at found'
      rw [getMinSanePrice_eq same (by decide)] at isFloor'
      rw [priceInRow] at below
      have atLeast : ¬ price < decimal floor := fun cheap =>
        passes price rfl categoryId inFolder folder found'
          ⟨floor, isFloor', cheap⟩
      exact absurd below (passes_storeDecimal atLeast)
  · intro id row draft confirmedAt absent present isConfirmed
    obtain ⟨inRow, nameInRow, priceInRow⟩ := new id row absent present
    rcases settled with settled | ⟨typed, -⟩
    · cases isConfirmed.symm.trans settled
      exact ⟨isOf inRow nameInRow, price, rfl, priceInRow⟩
    · cases typed.symm.trans isConfirmed
  · intro id old row before after changed
    by_cases other : id = (visitBefore now event).platform.db.nextId .packages
    · subst other
      cases before.symm.trans row_nextId
    · cases (before.symm.trans (isNew id other).symm).trans after
      exact absurd rfl changed
  · intro token pending id confirms
    exact absurd confirms (not_confirmsEdit isMessage)

section Edits

variable {packageId : Int} {price : Rat}

/-- An edit inserts nothing, and it changes its own package only. -/
theorem row_of_edit
    (left : (visitAfter settings now event).platform.db =
      (visitBefore now event).platform.db.modify .packages (rowId packageId)
        (setSalePrice (storeDecimal price))) {id : Nat} {row : PackageRow}
    (present : (visitAfter settings now event).platform.db.row .packages id =
      some row) :
    ∃ old, (visitBefore now event).platform.db.row .packages id = some old ∧
      (old = row ∨ id = rowId packageId ∧
        row = setSalePrice (storeDecimal price) old) := by
  rw [left] at present
  by_cases edited : id = rowId packageId
  · subst edited
    rw [row_modify_self] at present
    obtain ⟨old, before, rfl⟩ := Option.map_eq_some_iff.mp present
    exact ⟨old, before, .inr ⟨rfl, rfl⟩⟩
  · rw [row_modify_ne edited] at present
    exact ⟨row, present, .inl rfl⟩

theorem pricesConfirmed_of_edit
    (left : (visitAfter settings now event).platform.db =
      (visitBefore now event).platform.db.modify .packages (rowId packageId)
        (setSalePrice (storeDecimal price)))
    (updated : ∀ old,
      (visitBefore now event).platform.db.row .packages (rowId packageId) =
        some old →
      IsCheap (visitAfter settings now event).platform.db
          (setSalePrice (storeDecimal price) old) →
        ∃ token pending, ConfirmsEdit event.update token ∧
          now.trail.warnedOfEdit token = some pending ∧
          rowId pending.packageId = rowId packageId ∧
          pending.salePrice = .finite price)
    (updatedFor : ∀ token pending, ConfirmsEdit event.update token →
      now.trail.warnedOfEdit token = some pending →
        pending.packageId = packageId) :
    PricesConfirmed settings now event where
  inserted id row absent present := by
    obtain ⟨old, before, -⟩ := row_of_edit left present
    cases absent.symm.trans before
  insertedFor id row _ _ absent present := by
    obtain ⟨old, before, -⟩ := row_of_edit left present
    cases absent.symm.trans before
  updated id old row before after changed cheap := by
    obtain ⟨other, before', kept | ⟨rfl, isNew⟩⟩ := row_of_edit left after
    · cases before.symm.trans before'
      rw [kept] at changed
      exact absurd rfl changed
    · cases before.symm.trans before'
      rw [isNew] at cheap ⊢
      obtain ⟨token, pending, confirms, warned, isPackage, isPrice⟩ :=
        updated old before cheap
      exact ⟨token, pending, confirms, warned, isPackage, price, isPrice, rfl⟩
  updatedFor token pending id confirms warned other := by
    have isPackage := updatedFor token pending confirms warned
    rw [isPackage] at other
    change (visitAfter settings now event).platform.db.row .packages id = _
    rw [left]
    exact row_modify_ne other

theorem pricesConfirmed_of_edited {message : Message}
    (isMessage : event.update = .message message)
    (passes : ¬ IsBelowFloor (operatorNameOf (rowId packageId)
        (visitBefore now event).platform.db)
      (visitBefore now event).platform.db price)
    (left : (visitAfter settings now event).platform.db =
      (visitBefore now event).platform.db.modify .packages (rowId packageId)
        (setSalePrice (storeDecimal price))) :
    PricesConfirmed settings now event := by
  apply pricesConfirmed_of_edit left
  · rintro old before ⟨folder, found, floor, isFloor, below⟩
    have same : SameOutside [.packages] (visitBefore now event).platform.db
        (visitAfter settings now event).platform.db := by
      rw [left]
      exact .modify (by decide)
    have found' : (visitBefore now event).platform.db.row .categories
        old.categoryId = some folder := by
      rw [← same.rows _ (by decide)]
      exact found
    have isOperator : operatorNameOf (rowId packageId)
        (visitBefore now event).platform.db = folder.operatorName := by
      rw [operatorNameOf, before, Option.bind_some, found']
      rfl
    rw [getMinSanePrice_eq same (by decide)] at isFloor
    have atLeast : ¬ price < decimal floor := fun cheap =>
      passes ⟨floor, by rw [isOperator]; exact isFloor, cheap⟩
    exact absurd below (passes_storeDecimal atLeast)
  · intro token pending confirms
    exact absurd confirms (not_confirmsEdit isMessage)

theorem pricesConfirmed_of_editConfirmed (tracked : Tracked now)
    {callback : Callback} {token : String}
    (isCallback : event.update = .callback callback)
    (starts : dataStarts "pkgedit_price_confirm:" (none : Option ShopState)
      callback.data = true)
    (field : (dataFields callback.data)[1]? = some token)
    (pending : (visitBefore now event).platform.pendingEditPriceConfirmations
      token = some ⟨packageId, .finite price⟩)
    (left : (visitAfter settings now event).platform.db =
      (visitBefore now event).platform.db.modify .packages (rowId packageId)
        (setSalePrice (storeDecimal price))) :
    PricesConfirmed settings now event := by
  have warned := tracked.edits token _ pending
  apply pricesConfirmed_of_edit left
  · intro old before cheap
    exact ⟨token, _, ⟨callback, isCallback, starts, field⟩, warned, rfl, rfl⟩
  · rintro other edit ⟨pressed, isPress, -, ofPress⟩ warnedOther
    cases isCallback.symm.trans isPress
    cases field.symm.trans ofPress
    cases warned.symm.trans warnedOther
    rfl

end Edits

/-- As long as every confirmation of a price finds the draft that it was
issued for, a step sets no unconfirmed price below a floor. -/
theorem pricesConfirmed_step (tracked : Tracked now)
    (inPricing : InPricing settings now event) :
    PricesConfirmed settings now event := by
  cases outcome inPricing with
  | confirmed callback token price isPress pending left =>
      apply pricesConfirmed_of_rows
      intro id
      rw [left]
      rfl
  | elsewhere noPress covers =>
      exact pricesConfirmed_of_rows (covers.rows.rows _ (by decide))
  | stepped noPress step =>
      rcases packages_of_pricingStep step with kept |
        ⟨message, categoryId, packageName, price, costPrice, isMessage,
          inState, inFolder, hasName, hasPrice, left⟩ |
        ⟨message, packageId, price, isMessage, passes, left⟩ |
        ⟨callback, token, packageId, price, isCallback, starts, field, pending,
          left⟩
      · exact pricesConfirmed_of_rows kept
      · exact pricesConfirmed_of_added tracked isMessage inState inFolder
          hasName hasPrice left
      · exact pricesConfirmed_of_edited isMessage passes left
      · exact pricesConfirmed_of_editConfirmed tracked isCallback starts field
          pending left

end Prices

section Runs

variable {settings : ShopSettings}

/-- Nobody has talked to the bot, and it has warned of nothing. -/
def start (db : Db) : PricedWorld where
  world := newShopWorld db

theorem tracked_start (db : Db) : Tracked (start db) where
  edits _ _ pending := by cases pending
  operators _ _ isFolder := by cases isFolder
  settled _ := isSettled_of_state_ne (by rintro ⟨⟩)

/-- In every run of the dialogues for prices in which the confirmations of new
prices find the drafts of their warnings, no price below a floor is written
without its confirmation, and no confirmation is for another package. -/
theorem along_pricesConfirmed {db : Db} {events : List PricedEvent}
    (inPricing : StepRuns.Along (step settings) (InPricing settings)
      (start db) events)
    (finds : StepRuns.Along (step settings) FindsDraft (start db) events) :
    StepRuns.Along (step settings) (PricesConfirmed settings) (start db)
      events :=
  (StepRuns.along_of_guarded Tracked (PricesConfirmed settings)
    (fun _ _ tracked guard =>
      ⟨pricesConfirmed_step tracked guard.1,
        tracked_step tracked guard.1 guard.2⟩)
    (tracked_start db) (StepRuns.along_and inPricing finds)).1

end Runs

section Examples

instance {settings : ShopSettings} {now : PricedWorld} {event : PricedEvent} :
    Decidable (InPricing settings now event) :=
  inferInstanceAs (Decidable (∀ handler ∈ otherDialogues
    ⟨settings, event.surroundings⟩, _ = false))

/-- The button of an update finds the draft of its warning. -/
def findsDraft (now : PricedWorld) (event : PricedEvent) : Bool :=
  match event.update with
  | .message _ => true
  | .callback callback =>
      (confirmedPrice now.world.platform callback).all fun pending =>
        now.trail.warned pending.1 ==
          some (now.world.conversationOf event.update).data.packageDraft

theorem findsDraft_iff {now : PricedWorld} {event : PricedEvent} :
    findsDraft now event = true ↔ FindsDraft now event := by
  obtain ⟨surroundings, message | callback⟩ := event
  · refine ⟨fun _ callback isPress => ?_, fun _ => rfl⟩
    cases isPress
  · have pressed : findsDraft now ⟨surroundings, .callback callback⟩ = true ↔
        ∀ pending ∈ confirmedPrice now.world.platform callback,
          now.trail.warned pending.1 = some (now.world.conversationOf
            (.callback callback)).data.packageDraft := by
      simp [findsDraft, Option.all_eq_true]
    rw [pressed]
    constructor
    · rintro finds _ ⟨⟩ token price pending
      exact finds (token, price) pending
    · rintro finds ⟨token, price⟩ pending
      exact finds callback rfl token price pending

instance {now : PricedWorld} {event : PricedEvent} :
    Decidable (FindsDraft now event) :=
  decidable_of_iff _ findsDraft_iff

/-- The owner of the shop does this. -/
def priced (received : ShopUpdate) : PricedEvent :=
  ⟨received.shop.toSurroundings, received.update⟩

/-- Two operators with a subfolder each.  Packages of the second one cost at
least 60000. -/
def pricingDb : Db :=
  Db.filled fun
    | .resellers => [shopReseller]
    | .categories =>
        [{ resellerId := 1, operatorName := "ایرانسل", title := "ایرانسل" },
          { resellerId := 1, operatorName := "ایرانسل"
            parentCategoryId := some 1, title := "ماهانه" },
          { resellerId := 1, operatorName := "همراه اول", title := "همراه اول" },
          { resellerId := 1, operatorName := "همراه اول"
            parentCategoryId := some 3, title := "ماهانه" }]
    | .categoryPriceFloors => [⟨"ایرانسل", 5000000⟩, ⟨"همراه اول", 6000000⟩]
    | _ => []

/-- A package that is cheap for the first operator waits for its
confirmation. -/
def warnsOfCheapPackage : List PricedEvent :=
  [priced (ownerTaps "catalog:pick_category:package:2"),
    priced (ownerTypes "7 GB"), priced (ownerTypes "10000")]

/-- The confirmation of the price is pressed at once. -/
def confirmsCheapPackage : List PricedEvent :=
  warnsOfCheapPackage ++
    [priced (ownerTaps "price_confirm:token"), priced (ownerTypes "9000")]

theorem along_pricesConfirmed_of_cheap :
    StepRuns.Along (step shopSettings) (PricesConfirmed shopSettings)
      (start pricingDb) confirmsCheapPackage :=
  along_pricesConfirmed (by decide +kernel) (by decide +kernel)

/-- Before the confirmation is pressed, a package of the second operator is
begun in the same chat. -/
def confirmsForOther : List PricedEvent :=
  warnsOfCheapPackage ++
    [priced (ownerTaps "catalog:pick_category:package:4"),
      priced (ownerTypes "30 GB"), priced (ownerTaps "price_confirm:token")]

/-- The old button sets the price of the other package, of which nobody has
been warned. -/
theorem confirms_price_of_other :
    StepRuns.Along (step shopSettings) (InPricing shopSettings)
        (start pricingDb)
        (confirmsForOther ++ [priced (ownerTypes "9000")]) ∧
      ¬ StepRuns.Along (step shopSettings) (PricesConfirmed shopSettings)
        (start pricingDb)
        (confirmsForOther ++ [priced (ownerTypes "9000")]) := by
  refine ⟨by decide +kernel, fun along => ?_⟩
  have last := (StepRuns.along_append.mp along).2.1
  have confirmed : (StepRuns.final (step shopSettings) (start pricingDb)
      confirmsForOther).trail.confirmed (1001, 1001) =
        some (⟨some 2, some "7 GB"⟩, .finite 10000) := by
    decide +kernel
  have inserted : ((StepRuns.final (step shopSettings) (start pricingDb)
      confirmsForOther).step shopSettings
        (priced (ownerTypes "9000"))).world.platform.db.row .packages 1 =
      some { resellerId := 1, categoryId := 4, name := "30 GB"
             salePrice := 1000000, costPrice := some 900000 } := by
    decide +kernel
  obtain ⟨isOf, -⟩ := last.insertedFor 1 _ _ _ (by decide +kernel) inserted
    confirmed
  exact absurd isOf.name (by decide)

end Examples

end PricedWorld

end Baste
