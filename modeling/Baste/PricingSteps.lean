import Baste.ShopFootprints

/-!
# Steps of the pricing dialogues

A package is added and its price is edited in dialogues that warn of prices
below the floor of its operator.  This file says once what an update can do in
these dialogues: one constructor for each thing that a handler does, and the
theorem that the handlers do nothing else.
-/

namespace Baste

open BotScripts Database

/-- A message or a button of the conversation moves it on. -/
def Visit.goTo (visit : Visit ShopState ShopData) (state : ShopState)
    (data : ShopData) : Visit ShopState ShopData :=
  { visit with conversation := ⟨some state, data⟩ }

namespace ShopBot.ResellerCatalog

/-- `get_min_sane_price` -/
def getMinSanePrice (operatorName : String) (db : Db) : Option Cents :=
  ((db.idsWhere .categoryPriceFloors (·.operatorName = operatorName)).head?.bind
    (db.row .categoryPriceFloors)).map (·.minSanePrice)

/-- A number below the floor of the operator is suspicious. -/
def IsBelowFloor (operatorName : String) (db : Db) (price : Rat) : Prop :=
  ∃ floor ∈ getMinSanePrice operatorName db, price < decimal floor

/-- What an update can do in the dialogues for prices. -/
inductive PricingStep (shop : Shop) (before : Visit ShopState ShopData) :
    Update → Visit ShopState ShopData → Prop where
  | idle {update : Update} : PricingStep shop before update before
  | picked {callback : Callback} {categoryId : Int} {folder : CategoryRow}
      {catalogType : String}
      (found : before.platform.db.row .categories (rowId categoryId) =
        some folder) :
      PricingStep shop before (.callback callback)
        (before.goTo .enteringName
          { before.conversation.data with
            categoryId := some categoryId
            operatorName := some folder.operatorName
            catalogType := some catalogType })
  | named {message : Message} {packageName : String} :
      PricingStep shop before (.message message)
        (before.goTo .enteringPrice
          { before.conversation.data with packageName := some packageName })
  | warned {message : Message} {price : Numerals.Decimal}
      (inState : before.conversation.state = some .enteringPrice) :
      PricingStep shop before (.message message)
        { platform :=
            { before.platform with
              pendingPriceConfirmations := Function.update
                before.platform.pendingPriceConfirmations shop.token
                (some price) }
          conversation :=
            ⟨some .confirmingSuspiciousPrice, before.conversation.data⟩ }
  | priced {message : Message} {price : Numerals.Decimal}
      {operatorName : String}
      (inState : before.conversation.state = some .enteringPrice)
      (ofOperator : before.conversation.data.operatorName = some operatorName)
      (passes : ∀ amount, price = .finite amount →
        ¬ IsBelowFloor operatorName before.platform.db amount) :
      PricingStep shop before (.message message)
        (before.goTo .enteringCostPrice
          { before.conversation.data with salePrice := some price })
  | confirmed {callback : Callback} {token : String}
      {price : Numerals.Decimal}
      (starts : dataStarts "price_confirm:" (none : Option ShopState)
        callback.data = true)
      (field : (dataFields callback.data)[1]? = some token)
      (pending : before.platform.pendingPriceConfirmations token =
        some price) :
      PricingStep shop before (.callback callback)
        { platform :=
            { before.platform with
              pendingPriceConfirmations := Function.update
                before.platform.pendingPriceConfirmations token none }
          conversation :=
            ⟨some .enteringCostPrice,
              { before.conversation.data with salePrice := some price }⟩ }
  | forgotten {callback : Callback} {token : String} :
      PricingStep shop before (.callback callback)
        { before with
          platform :=
            { before.platform with
              pendingPriceConfirmations := Function.update
                before.platform.pendingPriceConfirmations token none } }
  | askedAgain {callback : Callback} {token : String} :
      PricingStep shop before (.callback callback)
        { platform :=
            { before.platform with
              pendingPriceConfirmations := Function.update
                before.platform.pendingPriceConfirmations token none }
          conversation := ⟨some .enteringPrice, before.conversation.data⟩ }
  | added {message : Message} {categoryId : Int} {packageName : String}
      {price costPrice : Rat}
      (inState : before.conversation.state = some .enteringCostPrice)
      (inFolder : before.conversation.data.categoryId = some categoryId)
      (hasName : before.conversation.data.packageName = some packageName)
      (hasPrice : before.conversation.data.salePrice = some (.finite price)) :
      PricingStep shop before (.message message)
        { platform :=
            { before.platform with
              db := (before.platform.db.reserve .packages).put .packages
                (before.platform.db.nextId .packages)
                { resellerId := shop.resellerId
                  categoryId := rowId categoryId
                  name := packageName
                  salePrice := storeDecimal price
                  costPrice := some (storeDecimal costPrice) } }
          conversation := { data := ∅ } }
  | notAdded {message : Message} :
      PricingStep shop before (.message message)
        { before with
          platform :=
            { before.platform with
              db := before.platform.db.reserve .packages } }
  | editing {callback : Callback} {packageId : Int} {catalogType : String} :
      PricingStep shop before (.callback callback)
        (before.goTo .editingPackagePrice
          { before.conversation.data with
            catalogType := some catalogType
            packageId := some packageId })
  | warnedOfEdit {message : Message} {text : String} {packageId : Int}
      {price : Numerals.Decimal}
      (inState : before.conversation.state = some .editingPackagePrice)
      (isText : message.text = some text)
      (isAmount : typedAmount text = some price)
      (ofPackage : before.conversation.data.packageId = some packageId) :
      PricingStep shop before (.message message)
        { platform :=
            { before.platform with
              pendingEditPriceConfirmations := Function.update
                before.platform.pendingEditPriceConfirmations shop.token
                (some ⟨packageId, price⟩) }
          conversation :=
            ⟨some .confirmingSuspiciousEditPrice,
              before.conversation.data⟩ }
  | edited {message : Message} {packageId : Int} {price : Rat}
      (passes : ¬ IsBelowFloor (operatorNameOf (rowId packageId)
        before.platform.db) before.platform.db price) :
      PricingStep shop before (.message message)
        { platform :=
            { before.platform with
              db := before.platform.db.modify .packages (rowId packageId)
                (setSalePrice (storeDecimal price)) }
          conversation := { data := ∅ } }
  | editedUnanswered {message : Message} {packageId : Int} {price : Rat}
      (passes : ¬ IsBelowFloor (operatorNameOf (rowId packageId)
        before.platform.db) before.platform.db price) :
      PricingStep shop before (.message message)
        { before with
          platform :=
            { before.platform with
              db := before.platform.db.modify .packages (rowId packageId)
                (setSalePrice (storeDecimal price)) } }
  | editConfirmed {callback : Callback} {token : String} {packageId : Int}
      {price : Rat}
      (starts : dataStarts "pkgedit_price_confirm:" (none : Option ShopState)
        callback.data = true)
      (field : (dataFields callback.data)[1]? = some token)
      (pending : before.platform.pendingEditPriceConfirmations token =
        some ⟨packageId, .finite price⟩) :
      PricingStep shop before (.callback callback)
        { platform :=
            { before.platform with
              db := before.platform.db.modify .packages (rowId packageId)
                (setSalePrice (storeDecimal price))
              pendingEditPriceConfirmations := Function.update
                before.platform.pendingEditPriceConfirmations token none }
          conversation := { data := ∅ } }
  | editForgotten {callback : Callback} {token : String} :
      PricingStep shop before (.callback callback)
        { before with
          platform :=
            { before.platform with
              pendingEditPriceConfirmations := Function.update
                before.platform.pendingEditPriceConfirmations token none } }
  | editDropped {callback : Callback} {token : String} :
      PricingStep shop before (.callback callback)
        { platform :=
            { before.platform with
              pendingEditPriceConfirmations := Function.update
                before.platform.pendingEditPriceConfirmations token none }
          conversation := { data := ∅ } }
  | ended {message : Message} :
      PricingStep shop before (.message message)
        { before with conversation := { data := ∅ } }
  | editAskedAgain {callback : Callback} {token : String} :
      PricingStep shop before (.callback callback)
        { platform :=
            { before.platform with
              pendingEditPriceConfirmations := Function.update
                before.platform.pendingEditPriceConfirmations token none }
          conversation :=
            ⟨some .editingPackagePrice, before.conversation.data⟩ }

/-- The dialogues write to the packages only. -/
theorem PricingStep.rows {shop : Shop} {before after : Visit ShopState ShopData}
    {update : Update} (step : PricingStep shop before update after) :
    SameOutside [.packages] before.platform.db after.platform.db := by
  cases step with
  | added => exact SameOutside.reserve.trans (.put (by decide))
  | notAdded => exact .reserve
  | edited | editedUnanswered | editConfirmed => exact .modify (by decide)
  | _ => exact .refl _

section Handlers

variable {shop : Shop} {visit : Visit ShopState ShopData}
variable {callback : Callback} {message : Message}

theorem pricingStep_pickCategory :
    PricingStep shop visit (.callback callback)
      ((pickCategory.action (.callback callback)).runOn visit).2 := by
  change PricingStep shop visit _ ((typeAndId callback >>= _).runOn visit).2
  unfold typeAndId
  simp only [bind_assoc, pure_bind]
  rw [dataField, visit_required_bind]
  cases (dataFields callback.data)[2]? with
  | none => exact .idle
  | some catalogType =>
      rw [Option.elim, visit_integerField_bind]
      cases fieldNumber callback.data 3 with
      | none => exact .idle
      | some categoryId =>
          rw [Option.elim, Failing.runOn_bind, runOn_query]
          dsimp only
          rw [visit_required_bind]
          cases found : visit.platform.db.row .categories (rowId categoryId) with
          | none => exact .idle
          | some folder => exact .picked found

theorem pricingStep_receivePackageName :
    PricingStep shop visit (.message message)
      ((receivePackageName.action (.message message)).runOn visit).2 := by
  change PricingStep shop visit _
    ((strippedText message >>= _).runOn visit).2
  unfold strippedText textOf
  simp only [bind_assoc, pure_bind]
  rw [visit_required_bind]
  cases message.text with
  | none => exact .idle
  | some text => exact .named

/-- The check changes nothing, and a number that it lets pass is not below the
floor. -/
theorem of_isPriceSuspicious (operatorName : String)
    (price : Numerals.Decimal) :
    ∃ result, (isPriceSuspicious operatorName price).runOn visit =
        (result, visit) ∧
      (result = .ok false → ∀ amount, price = .finite amount →
        ¬ IsBelowFloor operatorName visit.platform.db amount) := by
  unfold isPriceSuspicious
  rw [Failing.runOn_bind, runOn_query]
  dsimp only
  rw [Failing.runOn_bind, runOn_query]
  dsimp only
  cases found : (visit.platform.db.idsWhere .categoryPriceFloors
      (·.operatorName = operatorName)).head?.bind
        (visit.platform.db.row .categoryPriceFloors) with
  | none =>
      refine ⟨.ok false, rfl, fun _ amount _ => ?_⟩
      rintro ⟨floor, isFloor, -⟩
      rw [getMinSanePrice, found] at isFloor
      cases isFloor
  | some floor =>
      cases price with
      | finite amount =>
          refine ⟨_, rfl, fun passes other same => ?_⟩
          cases same
          rintro ⟨lowest, isFloor, below⟩
          rw [getMinSanePrice, found] at isFloor
          cases isFloor
          simp [below] at passes
      | infinity negative => exact ⟨_, rfl, fun _ => nofun⟩
      | nan => exact ⟨_, rfl, fun _ => nofun⟩

theorem pricingStep_receivePrice
    (inState : visit.conversation.state = some .enteringPrice) :
    PricingStep shop visit (.message message)
      (((receivePrice shop).action (.message message)).runOn visit).2 := by
  change PricingStep shop visit _ ((textOf message >>= _).runOn visit).2
  rw [textOf, visit_required_bind]
  cases message.text with
  | none => exact .idle
  | some text =>
      rw [Option.elim]
      cases typedAmount text with
      | none => exact .idle
      | some price =>
          dsimp only
          rw [getData, bind_assoc, Failing.runOn_bind, Failing.runOn_get]
          dsimp only
          rw [pure_bind, visit_required_bind]
          cases ofOperator : visit.conversation.data.operatorName with
          | none => exact .idle
          | some operatorName =>
              obtain ⟨result, checked, passes⟩ :=
                @of_isPriceSuspicious visit operatorName price
              rw [Option.elim, Failing.runOn_bind, checked]
              rcases result with error | suspicious
              · exact .idle
              · cases suspicious with
                | true => exact .warned inState
                | false => exact .priced inState ofOperator (passes rfl)

/-- A confirmation puts the pending price into the conversation. -/
theorem visit_confirmSuspiciousPrice {token : String}
    {price : Numerals.Decimal}
    (field : (dataFields callback.data)[1]? = some token)
    (pending : visit.platform.pendingPriceConfirmations token = some price) :
    ((confirmSuspiciousPrice.action (.callback callback)).runOn visit).2 =
      { platform :=
          { visit.platform with
            pendingPriceConfirmations := Function.update
              visit.platform.pendingPriceConfirmations token none }
        conversation :=
          ⟨some .enteringCostPrice,
            { visit.conversation.data with salePrice := some price }⟩ } := by
  change ((dataField callback 1 >>= _).runOn visit).2 = _
  rw [dataField, visit_required_bind, field, Option.elim, Failing.runOn_bind,
    Failing.runOn_get]
  dsimp only
  rw [Failing.runOn_bind, setPendingPrice, Failing.runOn_modify]
  dsimp only
  rw [pending]
  rfl

theorem pricingStep_confirmSuspiciousPrice
    (starts : dataStarts "price_confirm:" (none : Option ShopState)
      callback.data = true) :
    PricingStep shop visit (.callback callback)
      ((confirmSuspiciousPrice.action (.callback callback)).runOn visit).2 := by
  cases field : (dataFields callback.data)[1]? with
  | none =>
      change PricingStep shop visit _
        ((dataField callback 1 >>= _).runOn visit).2
      rw [dataField, visit_required_bind, field]
      exact .idle
  | some token =>
      cases pending : visit.platform.pendingPriceConfirmations token with
      | none =>
          change PricingStep shop visit _
            ((dataField callback 1 >>= _).runOn visit).2
          rw [dataField, visit_required_bind, field, Option.elim,
            Failing.runOn_bind, Failing.runOn_get]
          dsimp only
          rw [Failing.runOn_bind, setPendingPrice, Failing.runOn_modify]
          dsimp only
          rw [pending]
          exact .forgotten
      | some price =>
          rw [visit_confirmSuspiciousPrice field pending]
          exact .confirmed starts field pending

theorem pricingStep_editSuspiciousPrice :
    PricingStep shop visit (.callback callback)
      ((editSuspiciousPrice.action (.callback callback)).runOn visit).2 := by
  change PricingStep shop visit _ ((dataField callback 1 >>= _).runOn visit).2
  rw [dataField, visit_required_bind]
  cases (dataFields callback.data)[1]? with
  | none => exact .idle
  | some token => exact .askedAgain

/-- The insertion of a package at the end of its dialogue. -/
theorem pricingStep_insertPackage {categoryId : Int} {packageName : String}
    {price costPrice : Rat} {allowed : Db → Bool}
    (inState : visit.conversation.state = some .enteringCostPrice)
    (inFolder : visit.conversation.data.categoryId = some categoryId)
    (hasName : visit.conversation.data.packageName = some packageName)
    (hasPrice : visit.conversation.data.salePrice = some (.finite price)) :
    PricingStep shop visit (.message message)
      ((do
        let _ ← executeInsert .packages allowed
          { resellerId := shop.resellerId
            categoryId := rowId categoryId
            name := packageName
            salePrice := storeDecimal price
            costPrice := some (storeDecimal costPrice) }
        clear : ShopScript Unit).runOn visit).2 := by
  unfold executeInsert executeWrite
  simp only [bind_assoc]
  rw [Failing.runOn_bind, runOn_query]
  dsimp only
  rw [Failing.runOn_bind, Failing.runOn_modify]
  dsimp only
  rw [Failing.runOn_bind, runOn_query]
  dsimp only
  split
  · exact .added inState inFolder hasName hasPrice
  · exact .notAdded

theorem pricingStep_receiveCostPriceAndSave
    (inState : visit.conversation.state = some .enteringCostPrice) :
    PricingStep shop visit (.message message)
      (((receiveCostPriceAndSave shop).action (.message message)).runOn
        visit).2 := by
  change PricingStep shop visit _ ((textOf message >>= _).runOn visit).2
  rw [textOf, visit_required_bind]
  cases message.text with
  | none => exact .idle
  | some text =>
      rw [Option.elim]
      cases typedAmount text with
      | none => exact .idle
      | some costPrice =>
          dsimp only
          rw [getData, bind_assoc, Failing.runOn_bind, Failing.runOn_get]
          dsimp only
          rw [pure_bind, visit_required_bind]
          cases inFolder : visit.conversation.data.categoryId with
          | none => exact .idle
          | some categoryId =>
              rw [Option.elim, visit_required_bind]
              cases hasName : visit.conversation.data.packageName with
              | none => exact .idle
              | some packageName =>
                  rw [Option.elim, visit_required_bind]
                  cases hasPrice : visit.conversation.data.salePrice with
                  | none => exact .idle
                  | some price =>
                      rw [Option.elim, insertPackage, bind_assoc]
                      cases price with
                      | infinity | nan => exact .idle
                      | finite price =>
                          rw [storedAmount, pure_bind, bind_assoc]
                          cases costPrice with
                          | infinity | nan => exact .idle
                          | finite costPrice =>
                              rw [storedAmount, pure_bind, bind_assoc]
                              exact pricingStep_insertPackage inState
                                inFolder hasName hasPrice

theorem pricingStep_startEditPackagePrice :
    PricingStep shop visit (.callback callback)
      ((startEditPackagePrice.action (.callback callback)).runOn visit).2 := by
  change PricingStep shop visit _ ((typeAndId callback >>= _).runOn visit).2
  unfold typeAndId
  simp only [bind_assoc, pure_bind]
  rw [dataField, visit_required_bind]
  cases (dataFields callback.data)[2]? with
  | none => exact .idle
  | some catalogType =>
      rw [Option.elim, visit_integerField_bind]
      cases fieldNumber callback.data 3 with
      | none => exact .idle
      | some packageId => exact .editing

theorem pricingStep_editAgainSuspiciousPrice :
    PricingStep shop visit (.callback callback)
      ((editAgainSuspiciousPrice.action (.callback callback)).runOn
        visit).2 := by
  change PricingStep shop visit _ ((dataField callback 1 >>= _).runOn visit).2
  rw [dataField, visit_required_bind]
  cases (dataFields callback.data)[1]? with
  | none => exact .idle
  | some token => exact .editAskedAgain

/-- A price is written if the package is there and the column holds it. -/
theorem visit_executePrice (packageId : Nat) (price : Numerals.Decimal) :
    (executePrice packageId price setSalePrice).runOn visit =
        (.ok (), visit) ∨
      (∃ error, (executePrice packageId price setSalePrice).runOn visit =
        (.error error, visit)) ∨
      ∃ amount, price = .finite amount ∧
        (executePrice packageId price setSalePrice).runOn visit =
          (.ok (), { visit with
            platform.db := visit.platform.db.modify .packages packageId
              (setSalePrice (storeDecimal amount)) }) := by
  unfold executePrice
  rw [Failing.runOn_bind, runOn_query]
  dsimp only
  split
  · cases price with
    | finite amount => exact .inr (.inr ⟨amount, rfl, rfl⟩)
    | infinity | nan => exact .inr (.inl ⟨_, rfl⟩)
  · exact .inl rfl

/-- Without the catalog type the edit ends nothing. -/
theorem visit_answerWithSubmenu (data : ShopData) :
    ((answerWithSubmenu data).runOn visit).2 = visit ∨
      ((answerWithSubmenu data).runOn visit).2 =
        { visit with conversation := { data := ∅ } } := by
  rw [answerWithSubmenu, visit_required_bind]
  cases data.catalogType with
  | none => exact .inl rfl
  | some catalogType => exact .inr rfl

theorem pricingStep_receivePackagePriceEdit
    (inState : visit.conversation.state = some .editingPackagePrice) :
    PricingStep shop visit (.message message)
      (((receivePackagePriceEdit shop).action (.message message)).runOn
        visit).2 := by
  change PricingStep shop visit _ ((textOf message >>= _).runOn visit).2
  rw [textOf, visit_required_bind]
  cases isText : message.text with
  | none => exact .idle
  | some text =>
      rw [Option.elim]
      cases isAmount : typedAmount text with
      | none => exact .idle
      | some price =>
          dsimp only
          rw [getData, bind_assoc, Failing.runOn_bind, Failing.runOn_get]
          dsimp only
          rw [pure_bind, visit_required_bind]
          cases ofPackage : visit.conversation.data.packageId with
          | none => exact .idle
          | some packageId =>
              obtain ⟨result, checked, passes⟩ := @of_isPriceSuspicious visit
                (operatorNameOf (rowId packageId) visit.platform.db) price
              rw [Option.elim, Failing.runOn_bind, runOn_query]
              dsimp only
              rw [Failing.runOn_bind, checked]
              rcases result with error | suspicious
              · exact .idle
              · cases suspicious with
                | true =>
                    dsimp only
                    rw [if_pos rfl, visit_required_bind]
                    cases visit.conversation.data.catalogType with
                    | none => exact .idle
                    | some catalogType =>
                        exact .warnedOfEdit inState isText isAmount ofPackage
                | false =>
                    dsimp only
                    rw [if_neg Bool.false_ne_true, Failing.runOn_bind]
                    rcases visit_executePrice (rowId packageId) price with
                      absent | ⟨error, refused⟩ | ⟨amount, isFinite, written⟩
                    · rw [absent]
                      dsimp only
                      rcases visit_answerWithSubmenu visit.conversation.data
                        with stays | ends
                      · rw [stays]
                        exact .idle
                      · rw [ends]
                        exact .ended
                    · rw [refused]
                      exact .idle
                    · rw [written]
                      dsimp only
                      rcases visit_answerWithSubmenu visit.conversation.data
                        with stays | ends
                      · rw [stays]
                        exact .editedUnanswered (passes rfl amount isFinite)
                      · rw [ends]
                        exact .edited (passes rfl amount isFinite)

theorem pricingStep_confirmEditSuspiciousPrice
    (starts : dataStarts "pkgedit_price_confirm:" (none : Option ShopState)
      callback.data = true) :
    PricingStep shop visit (.callback callback)
      ((confirmEditSuspiciousPrice.action (.callback callback)).runOn
        visit).2 := by
  change PricingStep shop visit _ ((dataField callback 1 >>= _).runOn visit).2
  rw [dataField, visit_required_bind]
  cases field : (dataFields callback.data)[1]? with
  | none => exact .idle
  | some token =>
      rw [Option.elim, Failing.runOn_bind, Failing.runOn_get]
      dsimp only
      rw [Failing.runOn_bind, setPendingEditPrice, Failing.runOn_modify]
      dsimp only
      cases pending : visit.platform.pendingEditPriceConfirmations token with
      | none => exact .editForgotten
      | some edit =>
          dsimp only
          rw [Failing.runOn_bind]
          rcases visit_executePrice (rowId edit.packageId) edit.salePrice with
            absent | ⟨error, refused⟩ | ⟨amount, isFinite, written⟩
          · rw [absent]
            exact .editDropped
          · rw [refused]
            exact .editForgotten
          · rcases edit with ⟨packageId, price⟩
            cases isFinite
            rw [written]
            exact .editConfirmed starts field pending

end Handlers

section Router

variable {shop : Shop} {visit : Visit ShopState ShopData}

/-- The handlers that add a package or edit its price. -/
def pricingHandlers (shop : Shop) : List ShopHandler :=
  [pickCategory, receivePackageName, receivePrice shop,
    confirmSuspiciousPrice, editSuspiciousPrice, receiveCostPriceAndSave shop,
    startEditPackagePrice, receivePackagePriceEdit shop,
    confirmEditSuspiciousPrice, editAgainSuspiciousPrice]

/-- The handlers that change something else in the catalog. -/
def otherDialogues (shop : Shop) : List ShopHandler :=
  [startAddOperator, receiveOperatorNameAndSave shop, pickOperatorForSub,
    receiveSubcategoryTitleAndSave shop, startEditOperatorName,
    saveOperatorNameEdit, startEditSubcategoryTitle, saveSubcategoryTitleEdit,
    startEditPackageName, savePackageNameEdit, startEditPackageCost,
    savePackageCostEdit, togglePackageActive, deleteOperatorConfirmed,
    deleteSubcategoryConfirmed, deletePackageConfirmed]

theorem pricingStep_of_handler {handler : ShopHandler} {update : Update}
    (pricing : handler ∈ pricingHandlers shop)
    (takes : handler.takes visit.conversation.state update = true) :
    PricingStep shop visit update ((handler.action update).runOn visit).2 := by
  simp only [pricingHandlers, List.mem_cons, List.not_mem_nil,
    or_false] at pricing
  cases update with
  | message message =>
      rcases pricing with rfl | rfl | rfl | rfl | rfl | rfl | rfl | rfl | rfl |
        rfl
      · exact .idle
      · exact pricingStep_receivePackageName
      · exact pricingStep_receivePrice (of_decide_eq_true takes)
      · exact .idle
      · exact .idle
      · exact pricingStep_receiveCostPriceAndSave (of_decide_eq_true takes)
      · exact .idle
      · exact pricingStep_receivePackagePriceEdit (of_decide_eq_true takes)
      · exact .idle
      · exact .idle
  | callback callback =>
      rcases pricing with rfl | rfl | rfl | rfl | rfl | rfl | rfl | rfl | rfl |
        rfl
      · exact pricingStep_pickCategory
      · exact .idle
      · exact .idle
      · exact pricingStep_confirmSuspiciousPrice takes
      · exact pricingStep_editSuspiciousPrice
      · exact .idle
      · exact pricingStep_startEditPackagePrice
      · exact .idle
      · exact pricingStep_confirmEditSuspiciousPrice takes
      · exact pricingStep_editAgainSuspiciousPrice

/-- The rest of the catalog only shows what is there. -/
theorem pricing_or_other_or_admits :
    ∀ handler ∈ router shop, handler ∈ pricingHandlers shop ∨
      handler ∈ otherDialogues shop ∨ outsideCatalog.Admits handler := by
  have prices : ∀ {handler : ShopHandler}, handler ∈ pricingHandlers shop →
      handler ∈ pricingHandlers shop ∨ handler ∈ otherDialogues shop ∨
        outsideCatalog.Admits handler := .inl
  have others : ∀ {handler : ShopHandler}, handler ∈ otherDialogues shop →
      handler ∈ pricingHandlers shop ∨ handler ∈ otherDialogues shop ∨
        outsideCatalog.Admits handler := fun member => .inr (.inl member)
  have shows : ∀ {handler : ShopHandler}, outsideCatalog.Admits handler →
      handler ∈ pricingHandlers shop ∨ handler ∈ otherDialogues shop ∨
        outsideCatalog.Admits handler := fun admits => .inr (.inr admits)
  simp only [router, List.forall_mem_cons, List.not_mem_nil, false_imp_iff,
    implies_true, and_true]
  exact ⟨shows admits_onCallback_pure,
    shows admits_dataField,
    shows admits_dataField,
    others (by simp [otherDialogues]),
    others (by simp [otherDialogues]),
    shows admits_dataField,
    others (by simp [otherDialogues]),
    others (by simp [otherDialogues]),
    shows admits_dataField,
    shows admits_showDetail,
    prices (by simp [pricingHandlers]),
    prices (by simp [pricingHandlers]),
    prices (by simp [pricingHandlers]),
    prices (by simp [pricingHandlers]),
    prices (by simp [pricingHandlers]),
    prices (by simp [pricingHandlers]),
    shows admits_dataField,
    shows admits_showDetail,
    shows admits_showDetail,
    shows admits_showDetail,
    others (by simp [otherDialogues]),
    others (by simp [otherDialogues]),
    others (by simp [otherDialogues]),
    others (by simp [otherDialogues]),
    others (by simp [otherDialogues]),
    others (by simp [otherDialogues]),
    prices (by simp [pricingHandlers]),
    prices (by simp [pricingHandlers]),
    prices (by simp [pricingHandlers]),
    prices (by simp [pricingHandlers]),
    others (by simp [otherDialogues]),
    others (by simp [otherDialogues]),
    others (by simp [otherDialogues]),
    shows admits_showDetail,
    others (by simp [otherDialogues]),
    shows admits_showDetail,
    shows admits_showDetail,
    others (by simp [otherDialogues]),
    shows admits_showDetail,
    shows admits_showDetail,
    others (by simp [otherDialogues]),
    shows admits_showDetail⟩

end Router

section Dispatch

variable {shop : Shop} {isOwner : Int → Bool} {state : Option ShopState}

/-- Callback data that starts in one way does not start in another. -/
theorem not_dataStarts {start other data : String}
    (starts : dataStarts start state data = true)
    (apart : start.toList.isPrefixOf other.toList = false ∧
      other.toList.isPrefixOf start.toList = false) :
    dataStarts other state data = false := by
  rw [Bool.eq_false_iff]
  intro alsoStarts
  rcases List.prefix_or_prefix_of_prefix (List.isPrefixOf_iff_prefix.mp starts)
      (List.isPrefixOf_iff_prefix.mp alsoStarts) with continued | continued
  · exact Bool.false_ne_true
      (apart.1.symm.trans (List.isPrefixOf_iff_prefix.mpr continued))
  · exact Bool.false_ne_true
      (apart.2.symm.trans (List.isPrefixOf_iff_prefix.mpr continued))

theorem not_dataIs {start other data : String}
    (starts : dataStarts start state data = true)
    (apart : start.toList.isPrefixOf other.toList = false) :
    dataIs other state data = false := by
  rw [dataIs, decide_eq_false_iff_not]
  rintro rfl
  exact Bool.false_ne_true (apart.symm.trans starts)

/-- The button that confirms a price goes to its handler. -/
theorem dispatch_priceConfirm {callback : Callback}
    (starts : dataStarts "price_confirm:" state callback.data = true) :
    Handler.dispatch (ShopBot.handlers shop isOwner) state
        (.callback callback) =
      some (confirmSuspiciousPrice.action (.callback callback)) := by
  have is : ∀ {data : String},
      "price_confirm:".toList.isPrefixOf data.toList = false →
        dataIs data state callback.data = false :=
    not_dataIs starts
  have other : ∀ {start : String},
      "price_confirm:".toList.isPrefixOf start.toList = false ∧
          start.toList.isPrefixOf "price_confirm:".toList = false →
        dataStarts start state callback.data = false :=
    not_dataStarts starts
  have inStart : Handler.dispatch (ResellerStart.router isOwner) state
      (.callback callback) = none := by
    rw [Handler.dispatch_eq_none_iff]
    simp only [ResellerStart.router, List.forall_mem_cons]
    exact ⟨rfl, rfl, is (by decide), fun _ member => by cases member⟩
  have inOrders : Handler.dispatch (ResellerOrders.router shop) state
      (.callback callback) = none := by
    rw [Handler.dispatch_eq_none_iff]
    simp only [ResellerOrders.router, List.forall_mem_cons]
    exact ⟨is (by decide), other (by decide), other (by decide),
      other (by decide), other (by decide), other (by decide),
      other (by decide), rfl, fun _ member => by cases member⟩
  have inCatalog : Handler.dispatch (router shop) state (.callback callback) =
      some (confirmSuspiciousPrice.action (.callback callback)) := by
    have before : Handler.dispatch
        [catalogTypeMenuCb, catalogMenu, viewCatalog, startAddOperator,
          receiveOperatorNameAndSave shop, startAddSubcategory,
          pickOperatorForSub, receiveSubcategoryTitleAndSave shop,
          startAddPackage, pickOperatorForPkg, pickCategory,
          receivePackageName, receivePrice shop] state
        (.callback callback) = none := by
      rw [Handler.dispatch_eq_none_iff]
      simp only [List.forall_mem_cons]
      exact ⟨is (by decide), other (by decide), other (by decide),
        other (by decide), rfl, other (by decide), other (by decide), rfl,
        other (by decide), other (by decide), other (by decide), rfl, rfl,
        fun _ member => by cases member⟩
    exact (Handler.dispatch_append_of_none before).trans
      (Handler.dispatch_cons_of_takes starts)
  unfold ShopBot.handlers
  iterate 10 apply Handler.dispatch_append_of_some
  exact (Handler.dispatch_append_of_none
    ((Handler.dispatch_append_of_none inStart).trans inOrders)).trans inCatalog

end Dispatch

end ShopBot.ResellerCatalog

end Baste
