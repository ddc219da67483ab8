import Baste.ChargeStock

/-!
# The texts of delivered codes

An upload drops repeated lines of its own text, but it does not look at the
stock, and neither does any constraint of the table.  A text that is uploaded
again becomes a second row, which is sold a second time.  As long as every
inserted line is new to the stock of the product, each text is delivered in
one order at most.
-/

namespace Baste

open Database Transaction PartialMatching

/-- The text that a code of the product has, sold or not. -/
def stockText (packageId : Nat) (db : Db) (codeId : Nat) : Option String :=
  (db.row .chargeCodes codeId).bind fun code =>
    if code.packageId = packageId then some code.code else none

/-- The text that an order of the product delivers. -/
def deliveredText (packageId : Nat) (db : Db) (orderId : Nat) :
    Option String :=
  (deliveredAs db orderId).bind fun record =>
    if record.packageId = packageId then record.code else none

/-- No two rows of the product's stock have the same text. -/
def DistinctTexts (packageId : Nat) (db : Db) : Prop :=
  Separates (stockText packageId db)

/-- No text is delivered in two orders of the product. -/
def DeliveredOnce (packageId : Nat) (db : Db) : Prop :=
  Separates (deliveredText packageId db)

/-- The text is that of some row of the product's stock. -/
def InStock (packageId : Nat) (line : String) (db : Db) : Prop :=
  ∃ codeId, stockText packageId db codeId = some line

section Steps

variable {packageId : Nat} {before after : Db}

theorem DistinctTexts.of_same (distinct : DistinctTexts packageId before)
    (fewer : ∀ codeId text, stockText packageId after codeId = some text →
      stockText packageId before codeId = some text) :
    DistinctTexts packageId after := by
  intro first second text firstText secondText
  exact distinct first second text (fewer first text firstText)
    (fewer second text secondText)

theorem stockText_of_quiet (quiet : dbView.Quiet before after) (codeId : Nat) :
    stockText packageId after codeId = stockText packageId before codeId := by
  rw [stockText, ← quiet_row quiet, stockText]

/-- Changes of a code that keep its product and its text. -/
theorem stockText_modify {key : Nat} {change : ChargeCodeRow → ChargeCodeRow}
    (samePackage : ∀ code, (change code).packageId = code.packageId)
    (sameCode : ∀ code, (change code).code = code.code) (codeId : Nat) :
    stockText packageId (before.modify .chargeCodes key change) codeId =
      stockText packageId before codeId := by
  rw [stockText, row_modify, stockText]
  split_ifs
  · cases before.row .chargeCodes codeId with
    | none => rfl
    | some code => simp [samePackage, sameCode]
  · rfl

theorem stockText_link {key orderId codeId : Nat} :
    stockText packageId
        (before.modify .chargeCodes key (·.withSoldOrder orderId)) codeId =
      stockText packageId before codeId := by
  apply stockText_modify
  · intro code
    rfl
  · intro code
    rfl

theorem stockText_purchase {purchase : ChargeService.Purchase}
    {sales : List ChargeService.Sale} {quantity : Int}
    (deliverable : purchase.Deliverable before sales) (codeId : Nat) :
    stockText packageId
        (sales.foldl purchase.deliver (purchase.debited quantity before))
        codeId = stockText packageId before codeId := by
  apply ChargeService.Purchase.foldl_deliver_of_invariant
    (fun db => stockText packageId db codeId =
      stockText packageId before codeId) ?_ (deliverable.debited quantity)
  · rw [stockText, ChargeService.Purchase.debited,
      row_modify_of_ne (by decide), stockText]
  · intro db sale _ _ _ soFar
    have sellKeeps : ∀ code, (purchase.sell sale code).packageId =
          code.packageId ∧ (purchase.sell sale code).code = code.code := by
      intro code
      unfold ChargeService.Purchase.sell
      split <;> exact ⟨rfl, rfl⟩
    rw [ChargeService.Purchase.deliver,
      stockText_modify (fun code => (sellKeeps code).1)
        (fun code => (sellKeeps code).2), ← soFar, stockText,
      row_put_of_ne (by decide), stockText]

theorem stockText_erase {ids : List Nat} {codeId : Nat} {text : String}
    (found : stockText packageId (before.erase .chargeCodes ids) codeId =
      some text) : stockText packageId before codeId = some text := by
  by_cases deleted : codeId ∈ ids
  · rw [stockText, row_erase_of_mem deleted] at found
    cases found
  · rw [stockText, row_erase_of_notMem deleted] at found
    exact found

/-- The database after the insertion of a line. -/
def uploaded (resellerId packageId : Nat) (line : String) (db : Db) : Db :=
  (db.reserve .chargeCodes).put .chargeCodes (db.nextId .chargeCodes)
    (ChargeService.stockRow resellerId packageId line)

theorem stockText_uploaded {resellerId other : Nat} {line : String} :
    stockText packageId (uploaded resellerId other line before) =
      Function.update (stockText packageId before)
        (before.nextId .chargeCodes)
        (if other = packageId then some line else none) := by
  funext codeId
  rw [stockText, uploaded]
  by_cases new : codeId = before.nextId .chargeCodes
  · subst new
    rw [Function.update_self, row_put_self (by simp)]
    rfl
  · rw [Function.update_of_ne new, row_put_ne new, row_reserve, stockText]

theorem stockText_nextId :
    stockText packageId before (before.nextId .chargeCodes) = none := by
  rw [stockText, row_nextId, Option.bind_none]

/-- The texts stay distinct exactly when the line is new. -/
theorem distinctTexts_uploaded_iff {resellerId other : Nat} {line : String}
    (distinct : DistinctTexts packageId before) :
    DistinctTexts packageId (uploaded resellerId other line before) ↔
      (other = packageId → ¬ InStock packageId line before) := by
  have newText : stockText packageId (uploaded resellerId other line before)
      (before.nextId .chargeCodes) =
        if other = packageId then some line else none := by
    rw [stockText_uploaded, Function.update_self]
  have oldText : ∀ codeId, codeId ≠ before.nextId .chargeCodes →
      stockText packageId (uploaded resellerId other line before) codeId =
        stockText packageId before codeId := by
    intro codeId different
    rw [stockText_uploaded, Function.update_of_ne different]
  constructor
  · rintro distinctAfter rfl ⟨codeId, found⟩
    have different : codeId ≠ before.nextId .chargeCodes := by
      rintro rfl
      rw [stockText_nextId] at found
      cases found
    apply different
    apply distinctAfter _ _ line
    · rw [oldText codeId different]
      exact found
    · rw [newText, if_pos rfl]
  · intro fresh first second text firstText secondText
    -- Two old rows differ as before; the new one differs from every old one.
    have notNew : ∀ codeId, codeId ≠ before.nextId .chargeCodes →
        stockText packageId before codeId = some text →
        stockText packageId (uploaded resellerId other line before)
          (before.nextId .chargeCodes) ≠ some text := by
      intro codeId different found new
      rw [newText] at new
      split_ifs at new with own
      exact fresh own ⟨codeId, by rw [found, new]⟩
    by_cases firstNew : first = before.nextId .chargeCodes
    · by_cases secondNew : second = before.nextId .chargeCodes
      · rw [firstNew, secondNew]
      · rw [oldText second secondNew] at secondText
        rw [firstNew] at firstText
        exact absurd firstText (notNew second secondNew secondText)
    · rw [oldText first firstNew] at firstText
      by_cases secondNew : second = before.nextId .chargeCodes
      · rw [secondNew] at secondText
        exact absurd secondText (notNew first firstNew firstText)
      · rw [oldText second secondNew] at secondText
        exact distinct first second text firstText secondText

/-- Distinct texts in the stock are delivered once, because the orders match
the sold rows. -/
theorem deliveredOnce_of_distinctTexts (matched : StockMatched before)
    (distinct : DistinctTexts packageId before) :
    DeliveredOnce packageId before := by
  apply Matched.separates matched
  intro first second text firstText secondText
  have stocked : ∀ codeId,
      ((soldAs before codeId).bind fun record =>
        if record.packageId = packageId then record.code else none) =
          some text →
      stockText packageId before codeId = some text := by
    intro codeId sold
    rw [soldAs] at sold
    rw [stockText]
    cases found : before.row .chargeCodes codeId with
    | none => simp [found] at sold
    | some code =>
        rw [found, Option.bind_some, ChargeCodeRow.saleRecord] at sold
        split_ifs at sold
        · simpa using sold
        · cases sold
  exact distinct first second text (stocked first firstText)
    (stocked second secondText)

variable {call : ServiceCall} {invariant : Db → Prop}

theorem DistinctTexts.of_commits (operation : call.IsStockOperation)
    (distinct : DistinctTexts packageId before)
    (commits : (call.guarantee invariant).commits before after) :
    DistinctTexts packageId after := by
  cases call with
  | addChargeCodes | deleteAvailableCode | clearAvailableCodes =>
      exact commits.elim
  | purchaseCharge | purchaseChargeBulk =>
      obtain ⟨price, sales, customer, _, _, deliverable, rfl⟩ := commits
      apply distinct.of_same
      intro codeId text found
      rw [stockText_purchase deliverable] at found
      exact found
  | _ => exact operation.elim

/-- A statement outside a transaction keeps the texts distinct unless it
inserts a line that is in stock. -/
theorem distinctTexts_of_writes_iff (operation : call.IsStockOperation)
    (distinct : DistinctTexts packageId before)
    (writes : (call.guarantee invariant).writes before after) :
    DistinctTexts packageId after ↔
      ∀ resellerId rawText, call = .addChargeCodes resellerId packageId rawText →
        ∀ line, after = uploaded resellerId packageId line before →
          ¬ InStock packageId line before := by
  cases call with
  | addChargeCodes resellerId other rawText =>
      obtain ⟨line, _, inserted⟩ := writes
      have afterEq : after = uploaded resellerId other line before := inserted
      rw [afterEq, distinctTexts_uploaded_iff distinct]
      constructor
      · intro fresh _ _ same line' sameAfter
        cases same
        have sameText := congrArg
          (fun db => stockText packageId db (before.nextId .chargeCodes))
          sameAfter
        simp only [stockText_uploaded, Function.update_self, if_true,
          Option.some.injEq] at sameText
        rw [← sameText]
        exact fresh rfl
      · rintro fresh rfl
        exact fresh resellerId rawText rfl line rfl
  | deleteAvailableCode | clearAvailableCodes =>
      obtain ⟨ids, _, rfl⟩ := writes
      have kept : DistinctTexts packageId (before.erase .chargeCodes ids) :=
        distinct.of_same fun _ _ => stockText_erase
      exact iff_of_true kept nofun
  | purchaseCharge | purchaseChargeBulk =>
      obtain ⟨codeId, orderId, rfl⟩ := writes
      have kept : DistinctTexts packageId (before.modify .chargeCodes codeId
          (·.withSoldOrder orderId)) := by
        apply distinct.of_same
        intro other text found
        rw [stockText_link] at found
        exact found
      exact iff_of_true kept nofun
  | _ => exact operation.elim

end Steps

section Runs

variable {Caller : Type} [DecidableEq Caller] (calls : Caller → ServiceCall)

/-- If the step inserts a line into the product's stock, the line is new. -/
def InsertsFreshLine (packageId : Nat) (system : ServiceSystem Caller)
    (event : Event Caller) : Prop :=
  ∀ resellerId rawText,
    calls event.call = .addChargeCodes resellerId packageId rawText →
    ∀ line, (system.step event).state =
        uploaded resellerId packageId line system.state →
      ¬ InStock packageId line system.state

variable {calls}

theorem distinctTexts_step_iff
    (operations : ∀ caller, (calls caller).IsStockOperation) {packageId : Nat}
    {system : ServiceSystem Caller} {event : Event Caller}
    (sound : SoundCalls StockMatched calls system)
    (distinct : DistinctTexts packageId system.state) :
    DistinctTexts packageId (system.step event).state ↔
      InsertsFreshLine calls packageId system event := by
  -- A step that inserts nothing keeps the texts and meets the guard.
  have noInsertion : DistinctTexts packageId (system.step event).state →
      (∀ resellerId line, (system.step event).state ≠
        uploaded resellerId packageId line system.state) →
      (DistinctTexts packageId (system.step event).state ↔
        InsertsFreshLine calls packageId system event) := by
    intro kept nothing
    exact ⟨fun _ resellerId _ _ line inserted =>
      absurd inserted (nothing resellerId line), fun _ => kept⟩
  cases (sound.step (preserved_stockMatched operations) event).2 with
  | quiet _ quiet =>
      apply noInsertion
      · apply distinct.of_same
        intro codeId text found
        rw [stockText_of_quiet quiet] at found
        exact found
      · intro resellerId line inserted
        have unchanged : stockText packageId (system.step event).state
            (system.state.nextId .chargeCodes) = _ :=
          stockText_of_quiet quiet (system.state.nextId .chargeCodes)
        rw [stockText_nextId, inserted, stockText_uploaded,
          Function.update_self, if_pos rfl] at unchanged
        cases unchanged
  | written _ _ writes =>
      exact distinctTexts_of_writes_iff (operations _) distinct writes
  | committed _ commits =>
      have kept := distinct.of_commits (operations _) commits
      refine ⟨fun _ resellerId rawText called => ?_, fun _ => kept⟩
      rw [called] at commits
      exact commits.elim

/-- In every interleaving of calls on the stock: the stock never holds a text
of the product twice exactly when every line is new when it is inserted, and
then no text is ever delivered in two orders of the product. -/
theorem texts_delivered_once (calls : Caller → ServiceCall)
    (operations : ∀ caller, (calls caller).IsStockOperation)
    (packageId : Nat) (db : Db) (matched : StockMatched db)
    (distinct : DistinctTexts packageId db) (events : List (Event Caller)) :
    (StepRuns.Along System.step
        (fun system event =>
          DistinctTexts packageId (system.step event).state)
        (startCalls db calls) events ↔
      StepRuns.Along System.step (InsertsFreshLine calls packageId)
        (startCalls db calls) events) ∧
    (StepRuns.Along System.step (InsertsFreshLine calls packageId)
        (startCalls db calls) events →
      StepRuns.Along System.step
        (fun system event =>
          DeliveredOnce packageId (system.step event).state)
        (startCalls db calls) events) := by
  have preserved := preserved_stockMatched operations
  let invariant (system : ServiceSystem Caller) : Prop :=
    SoundCalls StockMatched calls system ∧
      DistinctTexts packageId system.state
  have initial : invariant (startCalls db calls) :=
    ⟨soundCalls_start matched, distinct⟩
  have kept : ∀ system event, invariant system →
      InsertsFreshLine calls packageId system event →
      invariant (system.step event) := by
    rintro system event ⟨sound, distinct⟩ fresh
    exact ⟨(sound.step preserved event).1,
      (distinctTexts_step_iff operations sound distinct).mpr fresh⟩
  constructor
  · apply StepRuns.along_iff invariant ?_ kept initial
    rintro system event ⟨sound, distinct⟩
    exact distinctTexts_step_iff operations sound distinct
  · intro fresh
    have along := StepRuns.along_of_guarded invariant
      (fun system event => DeliveredOnce packageId (system.step event).state)
      ?_ initial fresh
    · exact along.1
    · intro system event holds fresh
      have after := kept system event holds fresh
      exact ⟨deliveredOnce_of_distinctTexts after.1.holds after.2, after⟩

end Runs

/-- The code that the shop has is uploaded again, and a customer buys two. -/
def resentCalls : Fin 2 → ServiceCall
  | 0 => .addChargeCodes 1 1 "A1"
  | 1 => .purchaseChargeBulk 1 1 1 2 fun _ => shopStamp "AA"

def resentEvents : List (Event (Fin 2)) :=
  .advance 0 :: List.replicate 14 (.advance 1)

theorem distinctTexts_shopDb : DistinctTexts 1 shopDb := by
  have onlyRow : ∀ codeId text, stockText 1 shopDb codeId = some text →
      codeId = 1 := by
    intro codeId text found
    by_contra elsewhere
    have absent : shopDb.row .chargeCodes codeId = none := by
      change (if codeId = 0 then none else [_][codeId - 1]?) = none
      split_ifs
      · rfl
      · exact List.getElem?_eq_none (by simp; omega)
    rw [stockText, absent] at found
    cases found
  intro first second text firstText secondText
  rw [onlyRow first text firstText, onlyRow second text secondText]

theorem texts_delivered_once_shop :
    (StepRuns.Along System.step
        (fun system event => DistinctTexts 1 (system.step event).state)
        (startCalls shopDb stockCalls) stockEvents ↔
      StepRuns.Along System.step (InsertsFreshLine stockCalls 1)
        (startCalls shopDb stockCalls) stockEvents) ∧
    (StepRuns.Along System.step (InsertsFreshLine stockCalls 1)
        (startCalls shopDb stockCalls) stockEvents →
      StepRuns.Along System.step
        (fun system event => DeliveredOnce 1 (system.step event).state)
        (startCalls shopDb stockCalls) stockEvents) :=
  texts_delivered_once stockCalls isStockOperation_stockCalls 1 shopDb
    stockMatched_shopDb distinctTexts_shopDb stockEvents

/-- The text is delivered in two orders. -/
theorem text_delivered_twice :
    let after := (runCalls shopDb resentCalls resentEvents).state
    deliveredText 1 after 1 = some "A1" ∧
      deliveredText 1 after 2 = some "A1" ∧ ¬ DeliveredOnce 1 after := by
  have first : deliveredText 1
      (runCalls shopDb resentCalls resentEvents).state 1 = some "A1" := by
    decide +kernel
  have second : deliveredText 1
      (runCalls shopDb resentCalls resentEvents).state 2 = some "A1" := by
    decide +kernel
  refine ⟨first, second, fun once => ?_⟩
  exact absurd (once 1 2 "A1" first second) (by decide)

end Baste
