import Baste.OwnRecords

/-!
# The parties of an order

An order is created by its customer at the bot of its reseller: no other update
of any bot creates one.
-/

namespace Baste

open BotScripts BotScripts.Footprint Database

namespace AdminBot

variable {environment : AdminEnvironment}

/-- The panel of the super admin, besides its decisions on top-ups and
disputes. -/
def besidesOrders : Footprint AdminState AdminData where
  tables := .resellers :: besidesNumbers.tables
  states := besidesNumbers.states
  others _ := ∅

/-- The handler creates no order. -/
def CreatesNoOrders (handler : AdminHandler) : Prop :=
  ∀ update, (handler.action update).Moves (fun visit => visit.platform.db)
    OrdersRemain

theorem createsNoOrders_of_admits {footprint : Footprint AdminState AdminData}
    {handler : AdminHandler} (admits : footprint.Admits handler)
    (outside : .orders ∉ footprint.tables) : CreatesNoOrders handler :=
  fun update visit => .of_sameOutside (admits update visit).rows outside

theorem createsNoOrders_numberedCall {test : Option AdminState → String → Bool}
    {service : Nat → ServiceCall}
    (existing : ∀ id, (service id).createsOrders = false) :
    CreatesNoOrders (onCallback test fun callback => do
      let number ← integerField callback 1
      let _ ← call (service (rowId number))) := by
  intro update visit
  cases update with
  | message _ => exact .refl _
  | callback callback =>
      have ran := @db_integerField_bind _ _ _ visit callback 1 fun number => do
        let _ ← call (service (rowId number))
      dsimp only [onCallback]
      rw [ran]
      cases fieldNumber callback.data 1 with
      | none => exact .refl _
      | some number =>
          have same := @db_bind_of_keeps AdminState AdminData _ _ visit
            (call (service (rowId number))) (fun _ => pure ())
            fun _ => Failing.keeps_pure ()
          dsimp only
          rw [same, db_call]
          exact (service (rowId number)).ordersRemain_runAlone (existing _) _

theorem admits_decimalQuestion {state next : AdminState}
    {change : Numerals.Decimal → AdminData → AdminData}
    (inside : next ∈ besidesOrders.states) :
    besidesOrders.Admits (onMessage (inState state) fun message => do
      match typedDecimal (← textOf message) with
      | none => pure ()
      | some value =>
          updateData (change value)
          setState next) := by
  apply admits_onMessage
  intro message
  apply (within_textOf _).bind
  intro text
  cases typedDecimal text with
  | none => exact within_pure _
  | some value => exact within_nextQuestion (fun _ => rfl) inside

theorem admits_receiveOrderPrefixAndSave :
    besidesOrders.Admits (receiveOrderPrefixAndSave environment) := by
  apply admits_onMessage
  intro message
  apply within_getData.bind
  intro data
  apply (within_strippedText _).bind
  intro text
  dsimp only
  cases data.botToken.bind fun token =>
    (environment.getMe token).map (token, ·) with
  | none => exact within_clear
  | some found =>
      apply (within_required _ _).bind
      intro telegramNumericId
      apply (within_required _ _).bind
      intro commissionPercent
      apply (within_required _ _).bind
      intro creditLimit
      apply (within_storedAmount _).bind
      intro commissionPercent
      apply (within_storedAmount _).bind
      intro creditLimit
      exact (within_executeInsert (by decide)).bind fun _ => within_clear

theorem admits_toggleResellerStatus :
    besidesOrders.Admits toggleResellerStatus := by
  apply admits_onCallback
  intro callback
  split
  · apply (within_required _ _).bind
    intro resellerId
    apply (within_required _ _).bind
    intro status
    exact within_executeWrite fun _ => .modify (by decide)
  · exact within_throw _

theorem admits_receiveNewCommissionAndSave :
    besidesOrders.Admits receiveNewCommissionAndSave := by
  apply admits_onMessage
  intro message
  apply (within_textOf _).bind
  intro text
  split
  · exact within_pure _
  · exact within_pure _
  · exact within_throw _
  · apply within_ite
    · exact within_pure _
    · apply within_getData.bind
      intro data
      apply (within_required _ _).bind
      intro resellerId
      exact (within_executeWrite fun _ => .modify (by decide)).bind
        fun _ => within_clear

/-- Only a restore brings orders to the database from the panel. -/
theorem restores_or_createsNoOrders (environment : AdminEnvironment) :
    ∀ handler ∈ handlers environment,
      handler = confirmRestoreCb environment ∨ CreatesNoOrders handler := by
  intro handler member
  have beside : ∀ {other : AdminHandler}, besidesOrders.Admits other →
      CreatesNoOrders other :=
    fun admits => createsNoOrders_of_admits admits (by decide)
  rcases resellerHandler_or_admits environment handler member with
    writes | admits
  · simp only [resellerHandlers, List.mem_cons, List.not_mem_nil,
      or_false] at writes
    rcases writes with rfl | rfl | rfl | rfl | rfl | rfl | rfl | rfl
    · exact .inr (beside (admits_decimalQuestion (by decide)))
    · exact .inr (beside (admits_decimalQuestion (by decide)))
    · exact .inr (beside admits_receiveOrderPrefixAndSave)
    · exact .inr (beside admits_toggleResellerStatus)
    · exact .inr (beside admits_receiveNewCommissionAndSave)
    · exact .inr (createsNoOrders_numberedCall fun _ => rfl)
    · exact .inr (createsNoOrders_numberedCall fun _ => rfl)
    · exact .inl rfl
  · exact .inr (createsNoOrders_of_admits admits (by decide))

end AdminBot

/-- Every order's customer is a customer of the order's reseller. -/
def PartiesMatch (db : Db) : Prop :=
  ∀ id order, db.row .orders id = some order →
    ∃ userId, IsCustomer order.resellerId userId db order.customerId

namespace BotsWorld

/-- The update is from the user and for the bot of the reseller. -/
def IsFrom (resellerId : Nat) (userId : Int) : BotsEvent → Prop
  | .admin .. => False
  | .shop received => received.shop.resellerId = resellerId ∧
      received.update.sender = userId

instance (resellerId : Nat) (userId : Int) :
    DecidablePred (IsFrom resellerId userId)
  | .admin .. => inferInstanceAs (Decidable False)
  | .shop _ => inferInstanceAs (Decidable (_ ∧ _))

variable {world : BotsWorld} {event : BotsEvent}

theorem keepsOwners_step (noRestore : ¬ world.Restores event) :
    Retains ownerPolicy world.platform.db (world.step event).platform.db :=
  related_of_botDeeds (fun _ _ => keepsOwners_of_botDeed)
    (botDeeds_step noRestore)

/-- The update that creates an order is from the customer of the order and for
the bot of its reseller. -/
theorem parties_of_created {id : Nat} {order : OrderRow}
    (noRestore : ¬ world.Restores event)
    (absent : world.platform.db.row .orders id = none)
    (created : (world.step event).platform.db.row .orders id = some order) :
    ∃ userId, IsFrom order.resellerId userId event ∧
      IsCustomer order.resellerId userId (world.step event).platform.db
        order.customerId := by
  cases event with
  | admin environment update =>
      have ran : (world.step (.admin environment update)).platform =
          (world.adminBot.receive (AdminBot.handlers environment)
            update).platform := rfl
      rw [ran] at created
      cases found : Handler.dispatch (AdminBot.handlers environment)
          (world.adminBot.conversationOf update).state update with
      | none =>
          rw [BotWorld.receive_of_none found] at created
          cases absent.symm.trans created
      | some script =>
          rw [BotWorld.platform_receive found] at created
          obtain ⟨handler, member, takes, rfl⟩ :=
            Handler.exists_of_dispatch found
          rcases AdminBot.restores_or_createsNoOrders environment handler
            member with rfl | creates
          · exact absurd takes noRestore
          · have still := creates update ⟨world.adminBot.platform,
              world.adminBot.conversationOf update⟩ id absent
            cases still.symm.trans created
  | shop received =>
      have ran : (world.step (.shop received)).platform =
          ((world.shopBots.bot received.shop.resellerId).handle received.shop
            received.update).platform := rfl
      rw [ran] at created ⊢
      obtain ⟨message, sent, buys⟩ := @ShopWorld.purchase_of_created
        (world.shopBots.bot received.shop.resellerId) received.shop
        received.update id order absent created
      have bought : ∃ type packageId phoneNumber, ShopBot.IsPurchase
          received.shop type message.sender packageId phoneNumber
          world.platform.db ((world.shopBots.bot
            received.shop.resellerId).handle received.shop
              received.update).platform.db order := by
        rcases buys with ⟨-, packageId, phoneNumber, -, -, purchase⟩ |
          ⟨-, packageId, -, purchase⟩
        · exact ⟨_, packageId, _, purchase⟩
        · exact ⟨_, packageId, _, purchase⟩
      obtain ⟨_, _, _, isFor, isCustomer⟩ := bought
      refine ⟨message.sender, ⟨isFor.reseller.symm, by rw [sent]; rfl⟩, ?_⟩
      rw [isFor.reseller]
      exact isCustomer

/-- A step keeps what matches: an order that was there keeps its parties, and
a new one gets parties that match. -/
theorem partiesMatch_step (parties : PartiesMatch world.platform.db)
    (noRestore : ¬ world.Restores event) :
    PartiesMatch (world.step event).platform.db := by
  have keeps := keepsOwners_step noRestore
  intro id order found
  cases before : world.platform.db.row .orders id with
  | some old =>
      obtain ⟨userId, isCustomer⟩ := parties id old before
      obtain ⟨now, isNow, allows⟩ := keeps .orders id old before trivial
      cases isNow.symm.trans found
      have same : (order.resellerId, order.customerId) =
          (old.resellerId, old.customerId) := allows.permanent
      obtain ⟨sameReseller, sameCustomer⟩ := Prod.mk.inj same
      rw [sameReseller, sameCustomer]
      exact ⟨userId, isCustomer.retained keeps⟩
  | none =>
      obtain ⟨userId, -, isCustomer⟩ :=
        parties_of_created noRestore before found
      exact ⟨userId, isCustomer⟩

theorem partiesMatch_final (parties : PartiesMatch world.platform.db)
    {events : List BotsEvent}
    (noRestore : StepRuns.Along step
      (fun world event => ¬ world.Restores event) world events) :
    PartiesMatch (StepRuns.final step world events).platform.db :=
  (StepRuns.along_of_guarded
    (fun now : BotsWorld => PartiesMatch now.platform.db) (fun _ _ => True)
    (fun _ _ parties noRestore => ⟨trivial, partiesMatch_step parties noRestore⟩)
    parties noRestore).2

end BotsWorld

end Baste
