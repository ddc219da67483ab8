import Baste.DiscountLimits

/-!
# Discounts while a receipt is submitted

A receipt reads the order, and with it the price, before the transaction that
charges the commission.  A command that overwrites the price in between, or
after the receipt has been accepted, leaves a commission that does not belong
to the price.  Nothing else does: the commission is that of the price as long
as no command changes the price of an order under review, or of one whose
receipt is being submitted.
-/

namespace Baste

open Database Transaction

/-- The calls of a conversation about an order. -/
inductive OrderCall where
  | discount (command : DiscountCommand)
  | submitReceipt (config : Config) (receiptFileId : String)

namespace OrderCall

abbrev Ending := Except HandlerError (Option OrderRow)

def endOfDiscount (result : Except HandlerError Unit) : Ending :=
  result.map fun _ => none

def endOfSubmission (result : Except ServiceError (Option OrderRow)) : Ending :=
  result.mapError .service

def program (orderId : Nat) : OrderCall → Program Ending
  | discount command => command.program fun result => .done (endOfDiscount result)
  | submitReceipt config receiptFileId =>
      OrderService.submitReceipt config orderId receiptFileId fun result =>
        .done (endOfSubmission result)

/-- What a call may do to the committed database, in a system that keeps the
invariant. -/
def guarantee (orderId : Nat) (invariant : Db → Prop) : OrderCall → Guarantee Db
  | discount _ =>
      { writes := fun before after =>
          (∃ id price, after = before.modify .orders id (·.withPrice price)) ∨
            ∃ id, after = before.modify .discountCodes id (·.counted)
        commits := fun _ _ => False }
  | submitReceipt _ receiptFileId =>
      OrderService.submitGuarantee invariant orderId receiptFileId

section Safety

variable {orderId : Nat} {invariant : Db → Prop} {held : List RowKey} {db : Db}

/-- A command changes prices and counts uses, from wherever it is. -/
theorem safe_point (command : DiscountCommand) (point : DiscountPoint) :
    (point.program command endOfDiscount).Safe dbView invariant
      ((discount command).guarantee orderId invariant) none held db := by
  have counting : ∀ codeId held db,
      (DiscountCommand.counting codeId (.done (endOfDiscount (.ok ())))).Safe
        dbView invariant ((discount command).guarantee orderId invariant) none
        held db :=
    fun codeId held db => safe_update fun now _ _ =>
      ⟨.inr ⟨codeId, rfl⟩, trivial⟩
  have pricing : ∀ id price codeId held db,
      (DiscountCommand.pricing id price codeId
        (.done (endOfDiscount (.ok ())))).Safe dbView invariant
          ((discount command).guarantee orderId invariant) none held db :=
    fun id price codeId held db => safe_update fun now _ _ =>
      ⟨.inl ⟨id, price, rfl⟩, counting codeId held _⟩
  have validating : ∀ order held db,
      (command.validating order fun result => .done (endOfDiscount result)).Safe
        dbView invariant ((discount command).guarantee orderId invariant) none
        held db := by
    intro order held db
    refine Program.Safe.select fun now _ _ => ?_
    rcases command.validCode now with _ | ⟨codeId, row⟩
    · trivial
    · cases command.orderId with
      | none => trivial
      | some id =>
          cases order with
          | none => trivial
          | some order => exact pricing id _ codeId held now
  cases point with
  | started => exact Program.Safe.select fun now _ _ => validating _ held now
  | orderRead order => exact validating order held db
  | validated id price codeId => exact pricing id price codeId held db
  | priced codeId => exact counting codeId held db
  | ended result => trivial
  | lost => trivial

theorem safe_program (call : OrderCall) :
    (call.program orderId).Safe dbView invariant
      (call.guarantee orderId invariant) none held db := by
  cases call with
  | discount command => exact safe_point command .started
  | submitReceipt config receiptFileId =>
      apply Program.Safe.of_subset (List.nil_subset held)
      have ends : ∀ reply now,
          (Program.done (endOfSubmission reply) : Program Ending).Safe dbView
            invariant (OrderService.submitGuarantee invariant orderId
              receiptFileId) none [] now :=
        fun _ _ => trivial
      exact OrderService.safe_submitReceipt ends

end Safety

end OrderCall

/-- Any number of calls about one order. -/
abbrev OrderSystem (Caller : Type) :=
  System Caller Db RowKey OrderCall.Ending

namespace OrderSystem

variable {Caller : Type}

def start (orderId : Nat) (calls : Caller → OrderCall) (db : Db) :
    OrderSystem Caller :=
  System.start db fun caller => (calls caller).program orderId

/-- The event lets a command overwrite the price of the order with another
one. -/
def ChangesPrice (orderId : Nat) (calls : Caller → OrderCall)
    (system : OrderSystem Caller) (event : Event Caller) : Prop :=
  ∃ caller command price codeId, event = .advance caller ∧
    calls caller = .discount command ∧
    system.process caller = ⟨(DiscountPoint.validated orderId price
      codeId).program command OrderCall.endOfDiscount, none⟩ ∧
    system.Free caller [.row .orders orderId] ∧
    priceOf orderId system.state ≠ some price

/-- No receipt is being submitted: each has not yet read the order, or it has
ended, or it is lost. -/
def NoneSubmitting (orderId : Nat) (calls : Caller → OrderCall)
    (system : OrderSystem Caller) : Prop :=
  ∀ caller config receiptFileId,
    calls caller = .submitReceipt config receiptFileId →
    system.process caller = ⟨(calls caller).program orderId, none⟩ ∨
      (∃ result, (system.process caller).program = .done result) ∨
      (system.process caller).program = .lost

/-- The order is under review, and no test order. -/
def UnderReview (orderId : Nat) (db : Db) : Prop :=
  ∃ order, db.row .orders orderId = some order ∧
    order.status = .awaitingReceiptReview ∧ order.isTestOrder = false

variable [DecidableEq Caller] (orderId : Nat) (calls : Caller → OrderCall)
variable (db : Db)

/-- The calls after some scheduling decisions. -/
def run (events : List (Event Caller)) : OrderSystem Caller :=
  StepRuns.final System.step (start orderId calls db) events

/-- The order has been under review. -/
def HasReached (events : List (Event Caller)) : Prop :=
  ∃ past, past <+: events ∧ UnderReview orderId (run orderId calls db past).state

/-- A price is changed only while the order has not been under review and no
receipt is being submitted. -/
def ChangesInTime (events : List (Event Caller)) : Prop :=
  ∀ past event, past ++ [event] <+: events →
    ChangesPrice orderId calls (run orderId calls db past) event →
    ¬ HasReached orderId calls db past ∧
      NoneSubmitting orderId calls (run orderId calls db past)

/-- From the moment the order is under review, its commission is that of its
price with the percentage, and its price stays as it is. -/
def CommissionRight (percent : Cents) (events : List (Event Caller)) : Prop :=
  ∀ past, past <+: events → HasReached orderId calls db past →
    (∃ order, (run orderId calls db past).state.row .orders orderId =
        some order ∧
      order.isTestOrder = false ∧
      order.commissionAmount = storeDecimal
        (decimal order.packagePrice * decimal percent / 100)) ∧
    ∀ event, past ++ [event] <+: events →
      priceOf orderId (run orderId calls db (past ++ [event])).state =
        priceOf orderId (run orderId calls db past).state

end OrderSystem

/-- The order has the price, and the settings of its reseller are the given
ones. -/
structure HasTerms (orderId : Nat) (price : Cents) (resellerId : Nat)
    (settings : ResellerRow) (db : Db) : Prop where
  order : ∃ order, db.row .orders orderId = some order ∧
    order.packagePrice = price ∧ order.resellerId = resellerId
  reseller : (db.row .resellers resellerId).map (·.withCreditBalance 0) =
    some (settings.withCreditBalance 0)

/-- The commission of the order is that of the price, unless it is a test
order. -/
def Charged (orderId : Nat) (price : Cents) (settings : ResellerRow) (db : Db) :
    Prop :=
  ∃ order, db.row .orders orderId = some order ∧
    order.isTestOrder = settings.takesTestOrder ∧
    (order.isTestOrder = false → order.commissionAmount = storeDecimal
      (decimal price * decimal settings.commissionPercent / 100))

/-- The order changes in nothing but its price. -/
def SameButPrice (orderId : Nat) (before after : Db) : Prop :=
  (before.row .orders orderId).map (·.withPrice 0) =
    (after.row .orders orderId).map (·.withPrice 0)

/-- A change charges the commission of the price, or it leaves the order as it
is up to its price. -/
def ChargesRight (orderId : Nat) (price : Cents) (settings : ResellerRow)
    (before after : Db) : Prop :=
  SameButPrice orderId before after ∨ Charged orderId price settings after

section Terms

variable {orderId resellerId : Nat} {price : Cents} {settings : ResellerRow}
variable {before after db : Db}

theorem HasTerms.of_sameRows (terms : HasTerms orderId price resellerId settings
      before)
    (sameOrder : after.row .orders orderId = before.row .orders orderId)
    (sameReseller : after.row .resellers resellerId =
      before.row .resellers resellerId) :
    HasTerms orderId price resellerId settings after where
  order := by
    rw [sameOrder]
    exact terms.order
  reseller := by
    rw [sameReseller]
    exact terms.reseller

theorem HasTerms.of_quiet
    (terms : HasTerms orderId price resellerId settings before)
    (quiet : dbView.Quiet before after) :
    HasTerms orderId price resellerId settings after :=
  terms.of_sameRows (quiet_row quiet .orders orderId).symm
    (quiet_row quiet .resellers resellerId).symm

theorem SameButPrice.of_quiet (quiet : dbView.Quiet before after) :
    SameButPrice orderId before after :=
  congrArg _ (quiet_row quiet .orders orderId)

/-- Everything else about the order can be told from before. -/
theorem SameButPrice.charged (same : SameButPrice orderId before after)
    (charged : Charged orderId price settings before) :
    Charged orderId price settings after := by
  obtain ⟨order, found, isTest, commission⟩ := charged
  rw [SameButPrice, found] at same
  cases foundAfter : after.row .orders orderId with
  | none =>
      rw [foundAfter] at same
      cases same
  | some later =>
      rw [foundAfter] at same
      have sameRow : order.withPrice 0 = later.withPrice 0 :=
        Option.some_inj.mp same
      have sameTest : order.isTestOrder = later.isTestOrder :=
        (congrArg OrderRow.isTestOrder sameRow :)
      have sameCommission : order.commissionAmount = later.commissionAmount :=
        (congrArg OrderRow.commissionAmount sameRow :)
      refine ⟨later, foundAfter, sameTest ▸ isTest, fun noTest => ?_⟩
      rw [← sameCommission]
      exact commission (sameTest.trans noTest)

theorem SameButPrice.symm (same : SameButPrice orderId before after) :
    SameButPrice orderId after before :=
  Eq.symm same

theorem SameButPrice.underReview (same : SameButPrice orderId before after)
    (reviewed : OrderSystem.UnderReview orderId before) :
    OrderSystem.UnderReview orderId after := by
  obtain ⟨order, found, status, noTest⟩ := reviewed
  rw [SameButPrice, found] at same
  cases foundAfter : after.row .orders orderId with
  | none =>
      rw [foundAfter] at same
      cases same
  | some later =>
      rw [foundAfter] at same
      have sameRow : order.withPrice 0 = later.withPrice 0 :=
        Option.some_inj.mp same
      have sameTest : order.isTestOrder = later.isTestOrder :=
        (congrArg OrderRow.isTestOrder sameRow :)
      have sameStatus : order.status = later.status :=
        (congrArg OrderRow.status sameRow :)
      exact ⟨later, foundAfter, sameStatus ▸ status, sameTest ▸ noTest⟩

/-- What the calls rely on while the price stays as it is. -/
def termsEnvironment (orderId : Nat) (price : Cents) (resellerId : Nat)
    (settings : ResellerRow) : Environment dbView where
  invariant := HasTerms orderId price resellerId settings
  stable before after := priceOf orderId after = priceOf orderId before
  invariant_of_quiet := HasTerms.of_quiet
  stable_of_quiet quiet := by
    rw [priceOf, priceOf, quiet_row quiet .orders orderId]
  stable_trans first second := second.trans first

/-- What a receipt computes from the order and the settings that it has
seen. -/
theorem HasTerms.seen_due {order : OrderRow} {seen : ResellerRow}
    (orderSeen : Seen (HasTerms orderId price resellerId settings) .orders
      orderId order)
    (resellerSeen : Seen (HasTerms orderId price resellerId settings)
      .resellers order.resellerId seen) :
    order.resellerId = resellerId ∧
      seen.takesTestOrder = settings.takesTestOrder ∧
      OrderService.commissionOf order seen =
        decimal price * decimal settings.commissionPercent / 100 := by
  obtain ⟨past, terms, found⟩ := orderSeen
  obtain ⟨other, isOther, samePrice, sameReseller⟩ := terms.order
  cases isOther.symm.trans found
  obtain ⟨settled, settledTerms, foundReseller⟩ := resellerSeen
  have same := settledTerms.reseller
  rw [← sameReseller, foundReseller] at same
  have sameSettings : seen.withCreditBalance 0 = settings.withCreditBalance 0 :=
    Option.some_inj.mp same
  have sameTest : seen.takesTestOrder = settings.takesTestOrder :=
    (congrArg ResellerRow.takesTestOrder sameSettings :)
  have samePercent : seen.commissionPercent = settings.commissionPercent :=
    (congrArg ResellerRow.commissionPercent sameSettings :)
  refine ⟨sameReseller, sameTest, ?_⟩
  rw [OrderService.commissionOf, samePrice, samePercent]

/-- The receipt of the order is stored with the price that it has. -/
theorem HasTerms.withReceipt {status : OrderStatus} {receiptFileId : String}
    {commission : Rat} {isTest : Bool}
    (terms : HasTerms orderId price resellerId settings before) :
    HasTerms orderId price resellerId settings (before.modify .orders orderId
      (·.withReceipt status receiptFileId commission isTest)) where
  order := by
    obtain ⟨order, found, samePrice, sameReseller⟩ := terms.order
    rw [row_modify_self, found]
    exact ⟨_, rfl, samePrice, sameReseller⟩
  reseller := by
    rw [row_modify_of_ne (by decide)]
    exact terms.reseller

theorem HasTerms.deducted {id : Nat} {balance : Cents} {amount : Rat}
    {orderCode : String}
    (terms : HasTerms orderId price resellerId settings before) :
    HasTerms orderId price resellerId settings
      (WalletService.deducted balance resellerId amount orderCode id
        before) where
  order := by
    rw [WalletService.deducted, row_withLedgerEntry_of_ne (by decide)
      (by decide)]
    exact terms.order
  reseller := by
    rw [← terms.reseller, WalletService.deducted,
      row_resellers_withLedgerEntry, if_pos rfl]
    cases before.row .resellers resellerId <;> rfl

theorem HasTerms.charged {status : OrderStatus} {receiptFileId : String}
    {commission : Rat} {isTest : Bool}
    (terms : HasTerms orderId price resellerId settings before)
    (sameTest : isTest = settings.takesTestOrder)
    (isDue : isTest = false → commission =
      decimal price * decimal settings.commissionPercent / 100) :
    Charged orderId price settings (before.modify .orders orderId
      (·.withReceipt status receiptFileId commission isTest)) := by
  obtain ⟨order, found, -⟩ := terms.order
  refine ⟨order.withReceipt status receiptFileId commission isTest, ?_,
    sameTest, fun noTest => ?_⟩
  · rw [row_modify_self, found]
    rfl
  · rw [← isDue noTest]
    rfl

/-- A receipt that has seen the price and the settings charges right. -/
theorem OrderService.SubmitCommits.chargesRight {receiptFileId : String}
    (terms : HasTerms orderId price resellerId settings before)
    (commits : OrderService.SubmitCommits
      (HasTerms orderId price resellerId settings) orderId receiptFileId before
      after) :
    HasTerms orderId price resellerId settings after ∧
      ChargesRight orderId price settings before after := by
  cases commits with
  | testOrder order seen orderSeen resellerSeen isTest =>
      obtain ⟨-, sameTest, -⟩ := HasTerms.seen_due orderSeen resellerSeen
      exact ⟨terms.withReceipt,
        .inr (terms.charged (isTest.symm.trans sameTest) nofun)⟩
  | failed order seen reseller orderSeen resellerSeen noTest found exceeds =>
      obtain ⟨-, sameTest, isDue⟩ := HasTerms.seen_due orderSeen resellerSeen
      exact ⟨terms.withReceipt,
        .inr (terms.charged (noTest.symm.trans sameTest) fun _ => isDue)⟩
  | charged order seen reseller id orderSeen resellerSeen noTest found within
      reserved =>
      obtain ⟨sameReseller, sameTest, isDue⟩ :=
        HasTerms.seen_due orderSeen resellerSeen
      rw [sameReseller]
      exact ⟨terms.deducted.withReceipt, .inr (terms.deducted.charged
        (noTest.symm.trans sameTest) fun _ => isDue)⟩

/-- What the price of the order has become is that of a stable step. -/
theorem HasTerms.of_price {id : Nat} {newPrice : Cents}
    (terms : HasTerms orderId price resellerId settings before)
    (stable : priceOf orderId (before.modify .orders id (·.withPrice newPrice)) =
      priceOf orderId before) :
    HasTerms orderId price resellerId settings
      (before.modify .orders id (·.withPrice newPrice)) where
  order := by
    obtain ⟨order, found, samePrice, sameReseller⟩ := terms.order
    rw [row_modify]
    split_ifs with same
    · rw [priceOf, priceOf, ← same, row_modify_self, found] at stable
      rw [found]
      exact ⟨_, rfl, (Option.some_inj.mp stable).trans samePrice, sameReseller⟩
    · exact ⟨order, found, samePrice, sameReseller⟩
  reseller := by
    rw [row_modify_of_ne (by decide)]
    exact terms.reseller

theorem sameButPrice_withPrice {id : Nat} {newPrice : Cents} :
    SameButPrice orderId before
      (before.modify .orders id (·.withPrice newPrice)) := by
  rw [SameButPrice, row_modify]
  split_ifs
  · cases before.row .orders orderId <;> rfl
  · rfl

theorem HasTerms.counted {codeId : Nat}
    (terms : HasTerms orderId price resellerId settings before) :
    HasTerms orderId price resellerId settings
      (before.modify .discountCodes codeId (·.counted)) :=
  terms.of_sameRows (row_modify_of_ne (by decide))
    (row_modify_of_ne (by decide))

/-- The changes that a call has made so far have charged right. -/
abbrev HasChargedRight (orderId : Nat) (price : Cents)
    (settings : ResellerRow) (_ : Db) (past : List (Recorded Db RowKey))
    (_ : Option OrderCall.Ending) : Prop :=
  Program.AllRelated (ChargesRight orderId price settings) past

variable {held : List RowKey} {past : List (Recorded Db RowKey)}

/-- A command charges nothing, from wherever it is. -/
theorem leads_point (command : DiscountCommand) (point : DiscountPoint)
    (related : HasChargedRight orderId price settings db past none) :
    (point.program command OrderCall.endOfDiscount).Leads
      (termsEnvironment orderId price resellerId settings)
      (HasChargedRight orderId price settings) none held db past := by
  have counting : ∀ codeId db past,
      HasChargedRight orderId price settings db past none →
      (DiscountCommand.counting codeId
        (.done (OrderCall.endOfDiscount (.ok ())))).Leads
          (termsEnvironment orderId price resellerId settings)
          (HasChargedRight orderId price settings) none held db past := by
    intro codeId db past related
    refine leads_update related fun now relies stable => ?_
    have sameOrder : SameButPrice orderId now
        (now.modify .discountCodes codeId (·.counted)) := by
      rw [SameButPrice, row_modify_of_ne (by decide)]
    exact ⟨relies.holds.counted, related.concat (.inl sameOrder)⟩
  have pricing : ∀ id newPrice codeId db,
      (DiscountCommand.pricing id newPrice codeId
        (.done (OrderCall.endOfDiscount (.ok ())))).Leads
          (termsEnvironment orderId price resellerId settings)
          (HasChargedRight orderId price settings) none held db past := by
    intro id newPrice codeId db
    refine leads_update related fun now relies stable => ?_
    exact ⟨relies.holds.of_price stable, counting codeId _ _
      (related.concat (.inl sameButPrice_withPrice))⟩
  have validating : ∀ order db,
      (command.validating order fun result =>
        .done (OrderCall.endOfDiscount result)).Leads
          (termsEnvironment orderId price resellerId settings)
          (HasChargedRight orderId price settings) none held db past := by
    intro order db
    refine Program.leads_select related fun now _ => ?_
    rcases command.validCode now with _ | ⟨codeId, row⟩
    · exact related
    · cases command.orderId with
      | none => exact related
      | some id =>
          cases order with
          | none => exact related
          | some order => exact pricing id _ codeId now
  cases point with
  | started =>
      exact Program.leads_select related fun now _ => validating _ now
  | orderRead order => exact validating order db
  | validated id newPrice codeId => exact pricing id newPrice codeId db
  | priced codeId => exact counting codeId db past related
  | ended result => exact related
  | lost => exact related

/-- A call at its beginning charges right whatever happens, as long as the
price stays. -/
theorem leads_program (call : OrderCall)
    (related : HasChargedRight orderId price settings db past none) :
    (call.program orderId).Leads
      (termsEnvironment orderId price resellerId settings)
      (HasChargedRight orderId price settings) none held db past := by
  cases call with
  | discount command => exact leads_point command .started related
  | submitReceipt config receiptFileId =>
      have follows : Program.Follows
          (termsEnvironment orderId price resellerId settings)
          (ChargesRight orderId price settings)
          (OrderService.submitGuarantee
            (HasTerms orderId price resellerId settings) orderId
            receiptFileId) :=
        { quiet := fun _ _ _ quiet => .inl (.of_quiet quiet)
          writes := fun _ _ _ impossible => impossible.elim
          commits := fun _ _ terms commits => commits.chargesRight terms }
      exact Program.Safe.leads follows related
        (OrderCall.safe_program (.submitReceipt config receiptFileId))

end Terms

namespace OrderSystem

variable {Caller : Type} [DecidableEq Caller]
variable {orderId resellerId : Nat} {calls : Caller → OrderCall}
variable {settings : ResellerRow} {system : OrderSystem Caller}
variable {event : Event Caller}

/-- The commands are at the points of their programs. -/
def AtPoints (calls : Caller → OrderCall) (system : OrderSystem Caller) : Prop :=
  ∀ caller command, calls caller = .discount command → ∃ point,
    system.process caller =
      ⟨DiscountPoint.program command OrderCall.endOfDiscount point, none⟩

abbrev SoundCalls (orderId : Nat) (calls : Caller → OrderCall)
    (system : OrderSystem Caller) : Prop :=
  System.Sound dbView (fun _ => True)
    (fun caller => (calls caller).guarantee orderId fun _ => True) system

theorem AtPoints.step (atPoints : AtPoints calls system)
    (event : Event Caller) : AtPoints calls (system.step event) := by
  intro caller command isDiscount
  obtain ⟨point, isAt⟩ := atPoints caller command isDiscount
  by_cases own : caller = event.call
  · cases event with
    | advance other =>
        have same : caller = other := own
        subst same
        by_cases free : system.Free caller point.rows
        · refine ⟨(point.advance command system.state).2, ?_⟩
          rw [DiscountPoint.step_advance isAt free, System.resume]
          exact Function.update_self ..
        · refine ⟨point, ?_⟩
          rw [DiscountPoint.step_waiting isAt free]
          exact isAt
    | lose other =>
        have same : caller = other := own
        subst same
        obtain ⟨locks, -, stepped⟩ := DiscountPoint.step_lose isAt
        refine ⟨point.lose, ?_⟩
        rw [stepped, System.resume]
        exact Function.update_self ..
  · refine ⟨point, ?_⟩
    rw [System.process_step_of_ne own]
    exact isAt

/-- A receipt keeps the price. -/
theorem priceOf_submitCommits {invariant : Db → Prop} {receiptFileId : String}
    {before after : Db} (commits : OrderService.SubmitCommits invariant orderId
      receiptFileId before after) :
    priceOf orderId after = priceOf orderId before := by
  have withReceipt : ∀ (db : Db) status commission isTest,
      priceOf orderId (db.modify .orders orderId
        (·.withReceipt status receiptFileId commission isTest)) =
          priceOf orderId db := by
    intro db status commission isTest
    rw [priceOf, priceOf, row_modify_self]
    cases db.row .orders orderId <;> rfl
  cases commits with
  | testOrder => exact withReceipt ..
  | failed => exact withReceipt ..
  | charged =>
      rw [withReceipt, priceOf, priceOf, WalletService.deducted,
        row_withLedgerEntry_of_ne (by decide) (by decide)]

/-- No other step changes the price. -/
theorem priceOf_step (sound : SoundCalls orderId calls system)
    (atPoints : AtPoints calls system)
    (keeps : ¬ ChangesPrice orderId calls system event) :
    priceOf orderId (system.step event).state =
      priceOf orderId system.state := by
  cases event with
  | lose caller => rw [System.state_step_lose]
  | advance caller =>
      cases isCall : calls caller with
      | discount command =>
          obtain ⟨point, isAt⟩ := atPoints caller command isCall
          by_cases free : system.Free caller point.rows
          · rw [DiscountPoint.step_advance isAt free]
            cases point with
            | validated id price codeId =>
                dsimp only [DiscountPoint.advance]
                by_cases same : orderId = id
                · subst same
                  by_cases isPrice : priceOf orderId system.state = some price
                  · obtain ⟨order, found, -⟩ :=
                      Option.map_eq_some_iff.mp isPrice
                    rw [isPrice, priceOf, row_modify_self, found]
                    rfl
                  · exact absurd ⟨caller, command, price, codeId, rfl, isCall,
                      isAt, free, isPrice⟩ keeps
                · rw [priceOf, priceOf, row_modify_ne same]
            | priced codeId =>
                dsimp only [DiscountPoint.advance]
                rw [priceOf, priceOf, row_modify_of_ne (by decide)]
            | started | orderRead | ended | lost => rfl
          · rw [DiscountPoint.step_waiting isAt free]
      | submitReceipt config receiptFileId =>
          cases (sound.step (.of_true ..) (.advance caller)).2 with
          | quiet _ quiet =>
              rw [priceOf, priceOf, quiet_row quiet .orders orderId]
          | written _ _ writes =>
              rw [Event.call, isCall] at writes
              exact writes.elim
          | committed _ commits =>
              rw [Event.call, isCall] at commits
              exact priceOf_submitCommits commits

/-- The calls charge right for the price that the order has, and have done so
if the order has been under review. -/
structure InStep (orderId resellerId : Nat) (settings : ResellerRow)
    (calls : Caller → OrderCall) (reached : Prop)
    (system : OrderSystem Caller) : Prop where
  sound : SoundCalls orderId calls system
  atPoints : AtPoints calls system
  charges : ∃ price past,
    System.Led (termsEnvironment orderId price resellerId settings)
      (fun _ => HasChargedRight orderId price settings) system past ∧
    (reached → Charged orderId price settings system.state ∧
      settings.takesTestOrder = false)
  unreviewed : ¬ reached → ¬ UnderReview orderId system.state

/-- What a step does is among the changes that its call is led to. -/
theorem chargesRight_step {price : Cents}
    {past : Caller → List (Recorded Db RowKey)}
    (led : System.Led (termsEnvironment orderId price resellerId settings)
      (fun _ => HasChargedRight orderId price settings) system past)
    (next : System.Led (termsEnvironment orderId price resellerId settings)
      (fun _ => HasChargedRight orderId price settings) (system.step event)
      (system.extended past event)) :
    ChargesRight orderId price settings system.state
      (system.step event).state := by
  cases recorded : system.recordsNow event with
  | false => exact .inl (.of_quiet (led.quiet recorded))
  | true =>
      have member : (⟨system.state, (system.step event).state,
          system.writtenNow event⟩ : Recorded Db RowKey) ∈
            system.extended past event event.call := by
        simp [System.extended, System.record, recorded]
      have related : Program.AllRelated (ChargesRight orderId price settings)
          (system.extended past event event.call) := by
        rcases (next.leads event.call).isAllowed with ⟨_, -, soFar⟩ | soFar
        · exact soFar
        · exact soFar
      exact related _ member

/-- A step that does not change the price. -/
theorem InStep.step_of_keeps {reached : Prop}
    (inStep : InStep orderId resellerId settings calls reached system)
    (keeps : ¬ ChangesPrice orderId calls system event) :
    InStep orderId resellerId settings calls
      (reached ∨ UnderReview orderId (system.step event).state)
      (system.step event) := by
  obtain ⟨price, past, led, charged⟩ := inStep.charges
  have next := led.step event
    (priceOf_step inStep.sound inStep.atPoints keeps)
  refine ⟨(inStep.sound.step (.of_true ..) event).1, inStep.atPoints.step event,
    ⟨price, _, next, ?_⟩, fun notReached => (not_or.mp notReached).2⟩
  intro reachedNow
  rcases chargesRight_step led next with same | chargedNow
  · have before : reached := by
      rcases reachedNow with before | reviewed
      · exact before
      · by_contra notReached
        exact inStep.unreviewed notReached (same.symm.underReview reviewed)
    obtain ⟨chargedBefore, noTest⟩ := charged before
    exact ⟨same.charged chargedBefore, noTest⟩
  · refine ⟨chargedNow, ?_⟩
    rcases reachedNow with before | ⟨order, found, -, noTest⟩
    · exact (charged before).2
    · obtain ⟨other, isOther, sameTest, -⟩ := chargedNow
      cases isOther.symm.trans found
      rw [← sameTest]
      exact noTest

/-- A command changes the price before anything has read it. -/
theorem InStep.step_of_changes {reached : Prop}
    (inStep : InStep orderId resellerId settings calls reached system)
    (changes : ChangesPrice orderId calls system event)
    (notReached : ¬ reached)
    (none_ : NoneSubmitting orderId calls system) :
    InStep orderId resellerId settings calls
      (reached ∨ UnderReview orderId (system.step event).state)
      (system.step event) := by
  obtain ⟨_, _, led, -⟩ := inStep.charges
  have sound := (inStep.sound.step (.of_true ..) event).1
  have atPoints := inStep.atPoints.step event
  obtain ⟨caller, command, price, codeId, rfl, isDiscount, isAt, free, -⟩ :=
    changes
  have stepped := DiscountPoint.step_advance isAt free
  have same : SameButPrice orderId system.state
      (system.step (.advance caller)).state := by
    rw [stepped]
    exact sameButPrice_withPrice
  have unreviewed : ¬ UnderReview orderId
      (system.step (.advance caller)).state := fun reviewed =>
    inStep.unreviewed notReached (same.symm.underReview reviewed)
  have terms : HasTerms orderId price resellerId settings
      (system.step (.advance caller)).state := by
    obtain ⟨order, found, -, sameReseller⟩ := led.holds.order
    have sameResellers := led.holds.reseller
    rw [stepped]
    refine ⟨⟨order.withPrice price, ?_, rfl, sameReseller⟩, ?_⟩
    · dsimp only [DiscountPoint.advance]
      rw [row_modify_self, found]
      rfl
    · dsimp only [DiscountPoint.advance]
      rw [row_modify_of_ne (by decide)]
      exact sameResellers
  refine ⟨sound, atPoints, ⟨price, fun _ => [], ?_, fun reachedNow =>
    (not_or.mpr ⟨notReached, unreviewed⟩ reachedNow).elim⟩,
    fun _ => unreviewed⟩
  refine
    { holds := terms
      exclusive := sound.exclusive
      lasting := fun _ => fun _ related => related
      leads := fun other => ?_ }
  cases isCall : calls other with
  | discount otherCommand =>
      obtain ⟨point, isThere⟩ := atPoints other otherCommand isCall
      rw [isThere]
      exact leads_point otherCommand point nofun
  | submitReceipt config receiptFileId =>
      have different : other ≠ caller := by
        rintro rfl
        cases isCall.symm.trans isDiscount
      rw [System.process_step_of_ne different]
      rcases none_ other config receiptFileId isCall with
        fresh | ⟨result, isDone⟩ | isLost
      · rw [fresh]
        exact leads_program _ nofun
      · rw [isDone]
        exact nofun
      · rw [isLost]
        exact nofun

section Runs

variable {db : Db} {order : OrderRow} {events past : List (Event Caller)}

theorem run_concat : run orderId calls db (past ++ [event]) =
    (run orderId calls db past).step event :=
  StepRuns.final_append ..

theorem hasReached_concat : HasReached orderId calls db (past ++ [event]) ↔
    HasReached orderId calls db past ∨
      UnderReview orderId ((run orderId calls db past).step event).state := by
  constructor
  · rintro ⟨first, isPrefix, reviewed⟩
    rcases List.prefix_concat_iff.mp isPrefix with rfl | earlier
    · rw [run_concat] at reviewed
      exact .inr reviewed
    · exact .inl ⟨first, earlier, reviewed⟩
  · rintro (⟨first, isPrefix, reviewed⟩ | reviewed)
    · exact ⟨first, isPrefix.trans (List.prefix_append past [event]), reviewed⟩
    · refine ⟨past ++ [event], List.prefix_refl _, ?_⟩
      rw [run_concat]
      exact reviewed

theorem inStep_start (found : db.row .orders orderId = some order)
    (known : db.row .resellers order.resellerId = some settings)
    (awaits : order.status ≠ .awaitingReceiptReview) :
    InStep orderId order.resellerId settings calls
      (HasReached orderId calls db []) (start orderId calls db) := by
  have unreviewed : ¬ UnderReview orderId db := by
    rintro ⟨other, isOther, reviewed, -⟩
    cases isOther.symm.trans found
    exact awaits reviewed
  have terms : HasTerms orderId order.packagePrice order.resellerId settings
      db := by
    refine ⟨⟨order, found, rfl, rfl⟩, ?_⟩
    rw [known]
    rfl
  have notReached : ¬ HasReached orderId calls db [] := by
    rintro ⟨first, isPrefix, reviewed⟩
    rw [List.prefix_nil.mp isPrefix] at reviewed
    exact unreviewed reviewed
  refine ⟨.start trivial fun caller => OrderCall.safe_program _, ?_,
    ⟨order.packagePrice, fun _ => [], ?_, fun reached =>
      (notReached reached).elim⟩, fun _ => unreviewed⟩
  · intro caller command isDiscount
    refine ⟨.started, ?_⟩
    dsimp only [start, System.start]
    rw [isDiscount]
    rfl
  · exact .start (fun _ => fun _ related => related) terms fun caller =>
      leads_program _ nofun

/-- While prices are changed in time, the calls charge right. -/
theorem inStep_run (found : db.row .orders orderId = some order)
    (known : db.row .resellers order.resellerId = some settings)
    (awaits : order.status ≠ .awaitingReceiptReview)
    (inTime : ChangesInTime orderId calls db events)
    (isPrefix : past <+: events) :
    InStep orderId order.resellerId settings calls
      (HasReached orderId calls db past) (run orderId calls db past) := by
  induction past using List.reverseRecOn with
  | nil => exact inStep_start found known awaits
  | append_singleton past event ih =>
      have inStep := ih ((List.prefix_append past [event]).trans isPrefix)
      rw [run_concat, propext hasReached_concat]
      by_cases changes : ChangesPrice orderId calls
          (run orderId calls db past) event
      · obtain ⟨notReached, none_⟩ := inTime past event isPrefix changes
        exact inStep.step_of_changes changes notReached none_
      · exact inStep.step_of_keeps changes

/-- The commission is that of the price in every run in which prices are
changed in time. -/
theorem commissionRight_of_changesInTime
    (found : db.row .orders orderId = some order)
    (known : db.row .resellers order.resellerId = some settings)
    (awaits : order.status ≠ .awaitingReceiptReview)
    (inTime : ChangesInTime orderId calls db events) :
    CommissionRight orderId calls db settings.commissionPercent events := by
  intro past isPrefix reached
  have inStep := inStep_run found known awaits inTime isPrefix
  constructor
  · obtain ⟨price, _, led, charged⟩ := inStep.charges
    obtain ⟨⟨current, isCurrent, sameTest, commission⟩, noTest⟩ :=
      charged reached
    obtain ⟨other, isOther, isPrice, -⟩ := led.holds.order
    cases isOther.symm.trans isCurrent
    refine ⟨current, isCurrent, sameTest.trans noTest, ?_⟩
    rw [isPrice]
    exact commission (sameTest.trans noTest)
  · intro event next
    rw [run_concat]
    apply priceOf_step inStep.sound inStep.atPoints
    intro changes
    exact (inTime past event next changes).1 reached

/-- The event is about a command. -/
def IsDiscount (calls : Caller → OrderCall) (event : Event Caller) : Prop :=
  ∃ command, calls event.call = .discount command

/-- Commands change the order in nothing but its price, and receipts wait. -/
theorem run_discounts (discounts : ∀ event ∈ past, IsDiscount calls event) :
    SoundCalls orderId calls (run orderId calls db past) ∧
      SameButPrice orderId db (run orderId calls db past).state ∧
      ∀ caller config receiptFileId,
        calls caller = .submitReceipt config receiptFileId →
        (run orderId calls db past).process caller =
          ⟨(calls caller).program orderId, none⟩ := by
  induction past using List.reverseRecOn with
  | nil =>
      exact ⟨.start trivial fun caller => OrderCall.safe_program _, rfl,
        fun _ _ _ _ => rfl⟩
  | append_singleton past event ih =>
      obtain ⟨sound, same, fresh⟩ := ih fun earlier member =>
        discounts earlier (List.mem_append_left _ member)
      obtain ⟨command, isDiscount⟩ := discounts event (by simp)
      obtain ⟨stillSound, change⟩ := sound.step (.of_true ..) event
      rw [run_concat]
      refine ⟨stillSound, same.trans ?_, ?_⟩
      · cases change with
        | quiet _ quiet => exact SameButPrice.of_quiet quiet
        | written _ _ writes =>
            rw [isDiscount] at writes
            rcases writes with ⟨id, price, after⟩ | ⟨id, after⟩
            · rw [after]
              exact sameButPrice_withPrice
            · rw [after, row_modify_of_ne (by decide)]
        | committed _ commits =>
            rw [isDiscount] at commits
            exact commits.elim
      · intro caller config receiptFileId isSubmission
        have different : caller ≠ event.call := by
          rintro rfl
          cases isSubmission.symm.trans isDiscount
        rw [System.process_step_of_ne different]
        exact fresh caller config receiptFileId isSubmission

/-- Commands that come before every receipt change prices in time. -/
theorem changesInTime_of_discounts_first
    (found : db.row .orders orderId = some order)
    (awaits : order.status ≠ .awaitingReceiptReview)
    {first second : List (Event Caller)}
    (discounts : ∀ event ∈ first, IsDiscount calls event)
    (receipts : ∀ event ∈ second, ¬ IsDiscount calls event) :
    ChangesInTime orderId calls db (first ++ second) := by
  rintro past event isPrefix ⟨caller, command, -, -, rfl, isCall, -⟩
  have isDiscount : IsDiscount calls (.advance caller) := ⟨command, isCall⟩
  have early : past <+: first := by
    rcases List.prefix_or_prefix_of_prefix isPrefix
      (List.prefix_append first second) with inFirst | ⟨rest, same⟩
    · exact (List.prefix_append past _).trans inFirst
    · rcases List.eq_nil_or_concat rest with rfl | ⟨init, last, rfl⟩
      · rw [List.append_nil] at same
        rw [same]
        exact List.prefix_append past _
      · rw [← same] at isPrefix
        have inSecond := (List.prefix_append_right_inj first).mp isPrefix
        rw [List.concat_eq_append, ← List.append_assoc] at same
        obtain ⟨-, isLast⟩ := List.append_inj' same rfl
        have member : last ∈ second := inSecond.subset (by simp)
        rw [List.singleton_inj.mp isLast] at member
        exact (receipts _ member isDiscount).elim
  have onlyDiscounts : ∀ event ∈ past, IsDiscount calls event :=
    fun event member => discounts event (early.subset member)
  obtain ⟨-, -, fresh⟩ :=
    @run_discounts _ _ orderId calls db past onlyDiscounts
  refine ⟨?_, fun other config receiptFileId isSubmission =>
    .inl (fresh other config receiptFileId isSubmission)⟩
  rintro ⟨before, isBefore, reviewed⟩
  have stillDiscounts : ∀ event ∈ before, IsDiscount calls event :=
    fun event member => onlyDiscounts event (isBefore.subset member)
  obtain ⟨-, same, -⟩ :=
    @run_discounts _ _ orderId calls db before stillDiscounts
  obtain ⟨other, isOther, status, -⟩ := same.symm.underReview reviewed
  cases isOther.symm.trans found
  exact awaits status

end Runs

section Examples

/-- A shop with credit, a code and an order of 80,000. -/
def reviewDb : Db :=
  .filled fun
    | .resellers => [{ shopReseller with walletCreditBalance := 100000000 }]
    | .customers => [shopCustomer]
    | .packages => [shopPackage]
    | .orders => [DiscountEvent.orderedRow]
    | .discountCodes => [ShopBot.CustomerOrders.shopDiscount 1000]
    | _ => []

/-- The customer sends a code and the receipt. -/
def codeAndReceipt : Fin 2 → OrderCall
  | 0 => .discount
      ⟨⟨shopSettings, shopSurroundings⟩, "EID10", some 1⟩
  | 1 => .submitReceipt {} "receipt"

def codeFirst : List (Event (Fin 2)) :=
  List.replicate 4 (.advance 0)

def receiptLast : List (Event (Fin 2)) :=
  List.replicate 12 (.advance 1)

/-- The receipt is submitted while the command is about to change the price. -/
def receiptBetween : List (Event (Fin 2)) :=
  [.advance 0, .advance 0] ++ receiptLast ++ [.advance 0]

theorem commissionRight_of_changesInTime_shop :
    CommissionRight 1 codeAndReceipt reviewDb 1000 (codeFirst ++ receiptLast) := by
  have found : reviewDb.row .orders 1 = some DiscountEvent.orderedRow := by
    decide +kernel
  have known : reviewDb.row .resellers DiscountEvent.orderedRow.resellerId =
      some { shopReseller with walletCreditBalance := 100000000 } := by
    decide +kernel
  have awaits : DiscountEvent.orderedRow.status ≠ .awaitingReceiptReview := by
    decide
  apply commissionRight_of_changesInTime found known awaits
  apply changesInTime_of_discounts_first found awaits
  · intro event member
    rw [List.eq_of_mem_replicate member]
    exact ⟨_, rfl⟩
  · rintro event member ⟨command, isDiscount⟩
    rw [List.eq_of_mem_replicate member] at isDiscount
    cases isDiscount

/-- The receipt is charged with the old price, which then changes. -/
theorem price_changes_under_review :
    ¬ CommissionRight 1 codeAndReceipt reviewDb 1000 receiptBetween := by
  intro right
  have charged : (run 1 codeAndReceipt reviewDb receiptBetween).state.row
      .orders 1 = some
        { DiscountEvent.orderedRow with
          status := .awaitingReceiptReview
          receiptImage := some "receipt"
          packagePrice := 7200000
          commissionAmount := 800000 } := by
    decide +kernel
  have reached : HasReached 1 codeAndReceipt reviewDb receiptBetween :=
    ⟨_, List.prefix_refl _, _, charged, rfl, rfl⟩
  obtain ⟨⟨order, found, -, commission⟩, -⟩ :=
    right _ (List.prefix_refl _) reached
  cases found.symm.trans charged
  exact absurd commission (by decide +kernel)

end Examples

end OrderSystem

end Baste
