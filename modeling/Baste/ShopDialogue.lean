import Baste.Dialogues
import Baste.ShopRuns

/-!
# The dialogues of a reseller's bot

What the questions of the bot need of the earlier answers.  The handlers find
it, but for the buttons under the warning of a suspicious price: these lead to
a question about a package in whatever chat and at whatever time they are
pressed.
-/

namespace Baste

namespace ShopBot

open BotScripts Dialogue

inductive ShopKey where
  | catalogType
  | operatorName
  | parentOperatorId
  | categoryId
  | packageName
  | salePrice
  | operatorId
  | subcategoryId
  | packageId
  | disputeOrderId
  | coinName
  | txHash
  | code
  | percent
  | cardNumber
  | cardHolderName
  | topupMethod
  deriving DecidableEq

/-- The key is in the data. -/
def isKeySet (data : ShopData) : ShopKey → Bool
  | .catalogType => data.catalogType.isSome
  | .operatorName => data.operatorName.isSome
  | .parentOperatorId => data.parentOperatorId.isSome
  | .categoryId => data.categoryId.isSome
  | .packageName => data.packageName.isSome
  | .salePrice => data.salePrice.isSome
  | .operatorId => data.operatorId.isSome
  | .subcategoryId => data.subcategoryId.isSome
  | .packageId => data.packageId.isSome
  | .disputeOrderId => data.disputeOrderId.isSome
  | .coinName => data.coinName.isSome
  | .txHash => data.txHash.isSome
  | .code => data.code.isSome
  | .percent => data.percent.isSome
  | .cardNumber => data.cardNumber.isSome
  | .cardHolderName => data.cardHolderName.isSome
  | .topupMethod => data.topupMethod.isSome

def dialogue : Dialogue ShopState ShopData ShopKey where
  isSet := isKeySet
  needs
    | .enteringSubcategoryTitle => [.operatorName, .parentOperatorId]
    | .enteringName => [.operatorName, .categoryId]
    | .enteringPrice | .confirmingSuspiciousPrice =>
        [.operatorName, .categoryId, .packageName]
    | .enteringCostPrice => [.categoryId, .packageName, .salePrice]
    | .editingOperatorName => [.catalogType, .operatorId]
    | .editingSubcategoryTitle => [.catalogType, .subcategoryId]
    | .editingPackageName | .editingPackagePrice
    | .confirmingSuspiciousEditPrice | .editingPackageCostPrice =>
        [.catalogType, .packageId]
    | .enteringReason => [.disputeOrderId]
    | .enteringTxHash => [.coinName]
    | .enteringCryptoAmount => [.coinName, .txHash]
    | .enteringDiscountPercent => [.code]
    | .enteringDiscountUsageLimit => [.code, .percent]
    | .enteringCardHolder => [.cardNumber]
    | .enteringBankName => [.cardNumber, .cardHolderName]
    | .enteringAmount => [.topupMethod]
    | _ => []

variable {update : Update} {shop : Shop} {known : List ShopKey}

section Shared

/-- Other data than those under the keys are stored. -/
theorem grows_of_beside {change : ShopData → ShopData}
    (beside : ∀ data key, isKeySet (change data) key = isKeySet data key) :
    dialogue.Grows change :=
  fun data key isSet => (beside data key).trans isSet

theorem aside_getOrCreateCustomer {resellerId : Nat} {userId : Int} :
    Aside (getOrCreateCustomer resellerId userId) := by
  refine (aside_query _).bind fun found => ?_
  split
  · exact aside_pure _
  · exact aside_executeInsert

theorem aside_getReferralSettings {resellerId : Nat} :
    Aside (getReferralSettings resellerId) := by
  refine (aside_query _).bind fun found => ?_
  refine aside_ite ?_ (aside_pure ())
  exact aside_executeInsert.bind fun _ => aside_pure ()

/-- A handler that shows something. -/
theorem obeys_shows {test : Option ShopState → String → Bool}
    {action : Callback → ShopScript Unit}
    (aside : ∀ callback, Aside (action callback)) :
    dialogue.Obeys (onCallback test action) update :=
  obeys_onCallback fun callback => prompts_of_aside (aside callback)

/-- The answer to the last question ends the conversation. -/
theorem prompts_end {Result : Type} {script : ShopScript Result}
    (aside : Aside script) :
    dialogue.Prompts known (do let _ ← script; clear : ShopScript Unit) :=
  prompts_after aside fun _ => prompts_clear

theorem obeys_inStateWith {state : ShopState}
    {test : Option ShopState → Message → Bool}
    {action : Message → ShopScript Unit}
    (prompts : ∀ message,
      dialogue.Prompts (dialogue.needs state) (action message)) :
    dialogue.Obeys (onMessage (inStateWith state test) action) update := by
  refine obeys_answer (fun now message takes => ?_) prompts
  exact of_decide_eq_true ((Bool.and_eq_true _ _).mp takes).1

theorem prompts_cancel :
    dialogue.Prompts known (do
      if (← getState).isSome then clear : ShopScript Unit) := by
  refine prompts_after aside_getState fun state => ?_
  exact prompts_ite prompts_clear (prompts_pure ())

end Shared

namespace ResellerOrders

theorem obeys_onPermitted {test : Option ShopState → String → Bool}
    {action : Callback → ShopScript Unit}
    (prompts : ∀ callback, dialogue.Prompts [] (action callback)) :
    dialogue.Obeys (onPermitted shop test action) update := by
  apply obeys_onCallback
  intro callback
  refine prompts_after (aside_query _) fun permitted => ?_
  exact prompts_ite (prompts callback) (prompts_pure ())

theorem obeys_decides {start : String} {service : Nat → ServiceCall} :
    dialogue.Obeys (onPermitted shop (dataStarts start) fun callback => do
      let number ← integerField callback 1
      let _ ← call (service (rowId number))) update :=
  obeys_onPermitted fun _ => prompts_of_aside aside_numberedCall

theorem obeys_confirmWalletTopup :
    dialogue.Obeys (confirmWalletTopup shop) update := by
  apply obeys_onPermitted
  intro callback
  apply prompts_of_aside
  refine (aside_integerField _ _).bind fun topupId => ?_
  refine (aside_attempt _).bind fun outcome => ?_
  split
  · exact aside_pure ()
  · exact aside_pure ()
  · exact aside_pure ()
  · exact aside_throw nofun

theorem obeys_openDispute : dialogue.Obeys (openDispute shop) update := by
  apply obeys_onPermitted
  intro callback
  refine prompts_after (aside_integerField _ _) fun orderId => ?_
  have grows : dialogue.Grows fun data =>
      { data with disputeOrderId := some orderId } := by
    intro data key isSet
    cases key <;> first | exact isSet | rfl
  exact @prompts_nextQuestion _ _ _ dialogue [] _ [.disputeOrderId] _ grows
    (fun _ => has_singleton.mpr rfl) (by decide)

theorem aside_createDispute {orderId resellerId : Nat}
    {reason : Option String} :
    Aside (createDispute orderId resellerId reason) := by
  cases reason with
  | some reason => exact (aside_call _).bind fun _ => aside_pure ()
  | none => exact (aside_executeWrite _).bind fun _ => aside_throw nofun

theorem obeys_submitDisputeReason :
    dialogue.Obeys submitDisputeReason update := by
  apply obeys_inState
  intro message
  refine prompts_getData_bind fun data has => ?_
  refine prompts_required_bind (has .disputeOrderId (by decide))
    fun orderId => ?_
  refine prompts_after (aside_query _) fun found => ?_
  refine prompts_after (aside_required (by decide) _) fun order => ?_
  exact prompts_end aside_createDispute

theorem obeys_router :
    ∀ handler ∈ router shop, dialogue.Obeys handler update := by
  simp only [router, List.forall_mem_cons, List.not_mem_nil, false_imp_iff,
    implies_true, and_true]
  exact ⟨obeys_onPermitted fun _ => prompts_pure (), obeys_decides,
    obeys_decides, obeys_decides, obeys_confirmWalletTopup, obeys_decides,
    obeys_openDispute, obeys_submitDisputeReason⟩

end ResellerOrders

namespace ResellerCatalog

section Adding

theorem aside_typeAndId {callback : Callback} : Aside (typeAndId callback) :=
  (aside_dataField _ _).bind fun _ =>
    (aside_integerField _ _).bind fun _ => aside_pure _

theorem obeys_showsField {start : String} {index : Nat} :
    dialogue.Obeys (onCallback (dataStarts start) fun callback => do
      let _ ← dataField callback index : ShopHandler) update :=
  obeys_shows fun _ => (aside_dataField _ _).bind fun _ => aside_pure ()

theorem obeys_showDetail {start : String} :
    dialogue.Obeys (showDetail start) update :=
  obeys_shows fun _ => aside_typeAndId.bind fun _ => aside_pure ()

theorem obeys_startAddOperator : dialogue.Obeys startAddOperator update := by
  apply obeys_onCallback
  intro callback
  refine prompts_after (aside_dataField _ _) fun catalogType => ?_
  apply prompts_updateData_bind
  · intro data key isSet
    cases key <;> first | exact isSet | rfl
  · exact fun _ => has_nil
  · exact prompts_setState (by decide)

theorem aside_insertCategory {resellerId : Nat} {operatorName title : String}
    {parentCategoryId : Option Int} {catalogType : String} :
    Aside (insertCategory resellerId operatorName title parentCategoryId
      catalogType) := by
  refine (aside_required (by decide) _).bind fun readType => ?_
  exact aside_executeInsert.bind fun _ => aside_pure ()

theorem obeys_receiveOperatorNameAndSave :
    dialogue.Obeys (receiveOperatorNameAndSave shop) update := by
  apply obeys_inState
  intro message
  refine prompts_after aside_getData fun data => ?_
  refine prompts_after (aside_strippedText _) fun operatorName => ?_
  exact prompts_end aside_insertCategory

theorem obeys_pickOperatorForSub :
    dialogue.Obeys pickOperatorForSub update := by
  apply obeys_onCallback
  intro callback
  refine prompts_after aside_typeAndId fun picked => ?_
  refine prompts_after (aside_query _) fun found => ?_
  refine prompts_after (aside_required (by decide) _) fun operator => ?_
  have grows : dialogue.Grows fun data =>
      { data with
        parentOperatorId := some picked.2
        operatorName := some operator.operatorName
        catalogType := some picked.1 } := by
    intro data key isSet
    cases key <;> first | exact isSet | rfl
  refine @prompts_nextQuestion _ _ _ dialogue [] _
    [.operatorName, .parentOperatorId] _ grows (fun data => ?_) (by decide)
  exact List.forall_mem_cons.mpr ⟨rfl, has_singleton.mpr rfl⟩

theorem obeys_receiveSubcategoryTitleAndSave :
    dialogue.Obeys (receiveSubcategoryTitleAndSave shop) update := by
  apply obeys_inState
  intro message
  refine prompts_getData_bind fun data has => ?_
  refine prompts_after (aside_strippedText _) fun title => ?_
  refine prompts_required_bind (has .operatorName (by decide))
    fun operatorName => ?_
  refine prompts_required_bind (has .parentOperatorId (by decide))
    fun parentOperatorId => ?_
  exact prompts_end aside_insertCategory

theorem obeys_pickCategory : dialogue.Obeys pickCategory update := by
  apply obeys_onCallback
  intro callback
  refine prompts_after aside_typeAndId fun picked => ?_
  refine prompts_after (aside_query _) fun found => ?_
  refine prompts_after (aside_required (by decide) _) fun category => ?_
  have grows : dialogue.Grows fun data =>
      { data with
        categoryId := some picked.2
        operatorName := some category.operatorName
        catalogType := some picked.1 } := by
    intro data key isSet
    cases key <;> first | exact isSet | rfl
  refine @prompts_nextQuestion _ _ _ dialogue [] _
    [.operatorName, .categoryId] _ grows (fun data => ?_) (by decide)
  exact List.forall_mem_cons.mpr ⟨rfl, has_singleton.mpr rfl⟩

theorem stores_packageName (packageName : String) :
    dialogue.Stores .enteringName .enteringPrice .packageName
      ({ · with packageName := some packageName }) where
  grows _ key isSet := by cases key <;> first | exact isSet | rfl
  sets _ := rfl
  inside := by decide

end Adding

section Prices

theorem aside_isPriceSuspicious {operatorName : String}
    {salePrice : Numerals.Decimal} :
    Aside (isPriceSuspicious operatorName salePrice) := by
  refine (aside_query _).bind fun floors => ?_
  refine (aside_query _).bind fun floor => ?_
  split
  · exact aside_pure _
  · exact aside_pure _
  · exact aside_pure _
  · exact aside_throw (by decide)

theorem aside_setPendingPrice {token : String}
    {price : Option Numerals.Decimal} : Aside (setPendingPrice token price) :=
  aside_modify fun _ => rfl

theorem aside_setPendingEditPrice {token : String}
    {pending : Option PendingEditPrice} :
    Aside (setPendingEditPrice token pending) :=
  aside_modify fun _ => rfl

/-- The price of a new package is the next to last answer. -/
theorem prompts_salePrice {salePrice : Numerals.Decimal} :
    dialogue.Prompts [.operatorName, .categoryId, .packageName] (do
      updateData ({ · with salePrice := some salePrice })
      setState .enteringCostPrice : ShopScript Unit) := by
  have grows : dialogue.Grows fun data =>
      { data with salePrice := some salePrice } := by
    intro data key isSet
    cases key <;> first | exact isSet | rfl
  exact @prompts_nextQuestion _ _ _ dialogue _ _ [.salePrice] _ grows
    (fun _ => has_singleton.mpr rfl) (by decide)

theorem obeys_receivePrice : dialogue.Obeys (receivePrice shop) update := by
  apply obeys_inState
  intro message
  refine prompts_after (aside_textOf _) fun text => ?_
  split
  · exact prompts_pure ()
  · refine prompts_getData_bind fun data has => ?_
    refine prompts_required_bind (has .operatorName (by decide))
      fun operatorName => ?_
    refine prompts_after aside_isPriceSuspicious fun suspicious => ?_
    apply prompts_ite
    · exact prompts_after aside_setPendingPrice fun _ =>
        prompts_setState (by decide)
    · exact prompts_salePrice

theorem aside_insertPackage {resellerId : Nat} {categoryId : Int}
    {name : String} {salePrice costPrice : Numerals.Decimal} :
    Aside (insertPackage resellerId categoryId name salePrice costPrice) := by
  refine (aside_storedAmount _).bind fun _ => ?_
  refine (aside_storedAmount _).bind fun _ => ?_
  exact aside_executeInsert.bind fun _ => aside_pure ()

theorem obeys_receiveCostPriceAndSave :
    dialogue.Obeys (receiveCostPriceAndSave shop) update := by
  apply obeys_inState
  intro message
  refine prompts_after (aside_textOf _) fun text => ?_
  split
  · exact prompts_pure ()
  · refine prompts_getData_bind fun data has => ?_
    refine prompts_required_bind (has .categoryId (by decide))
      fun categoryId => ?_
    refine prompts_required_bind (has .packageName (by decide))
      fun packageName => ?_
    refine prompts_required_bind (has .salePrice (by decide))
      fun salePrice => ?_
    exact prompts_end aside_insertPackage

theorem prompts_confirmSuspiciousPrice {callback : Callback} :
    dialogue.Prompts (dialogue.needs .confirmingSuspiciousPrice)
      (confirmSuspiciousPrice.action (.callback callback)) := by
  refine prompts_after (aside_dataField _ _) fun token => ?_
  refine prompts_after aside_get fun visit => ?_
  refine prompts_after aside_setPendingPrice fun _ => ?_
  split
  · exact prompts_pure ()
  · exact prompts_salePrice

theorem prompts_editSuspiciousPrice {callback : Callback} :
    dialogue.Prompts (dialogue.needs .confirmingSuspiciousPrice)
      (editSuspiciousPrice.action (.callback callback)) := by
  refine prompts_after (aside_dataField _ _) fun token => ?_
  exact prompts_after aside_setPendingPrice fun _ =>
    prompts_setState (by decide)

theorem aside_executePrice {packageId : Nat} {price : Numerals.Decimal}
    {change : Cents → PackageRow → PackageRow} :
    Aside (executePrice packageId price change) := by
  refine (aside_query _).bind fun found => ?_
  refine aside_ite ?_ (aside_pure ())
  exact (aside_storedAmount _).bind fun _ => aside_executeWrite _

/-- The menu of the catalog is found, and the conversation is over. -/
theorem prompts_answerWithSubmenu {data : ShopData}
    (isSet : data.catalogType.isSome = true) :
    dialogue.Prompts known (answerWithSubmenu data) :=
  prompts_required_bind isSet fun _ => prompts_clear

theorem obeys_receivePackagePriceEdit :
    dialogue.Obeys (receivePackagePriceEdit shop) update := by
  apply obeys_inState
  intro message
  refine prompts_after (aside_textOf _) fun text => ?_
  split
  · exact prompts_pure ()
  · refine prompts_getData_bind fun data has => ?_
    refine prompts_required_bind (has .packageId (by decide))
      fun packageId => ?_
    refine prompts_after (aside_query _) fun operatorName => ?_
    refine prompts_after aside_isPriceSuspicious fun suspicious => ?_
    apply prompts_ite
    · refine prompts_required_bind (has .catalogType (by decide))
        fun catalogType => ?_
      exact prompts_after aside_setPendingEditPrice fun _ =>
        prompts_setState (by decide)
    · exact prompts_after aside_executePrice fun _ =>
        prompts_answerWithSubmenu (has .catalogType (by decide))

theorem obeys_confirmEditSuspiciousPrice :
    dialogue.Obeys confirmEditSuspiciousPrice update := by
  apply obeys_onCallback
  intro callback
  refine prompts_after (aside_dataField _ _) fun token => ?_
  refine prompts_after aside_get fun visit => ?_
  refine prompts_after aside_setPendingEditPrice fun _ => ?_
  split
  · exact prompts_pure ()
  · exact prompts_end aside_executePrice

theorem prompts_editAgainSuspiciousPrice {callback : Callback} :
    dialogue.Prompts (dialogue.needs .confirmingSuspiciousEditPrice)
      (editAgainSuspiciousPrice.action (.callback callback)) := by
  refine prompts_after (aside_dataField _ _) fun token => ?_
  exact prompts_after aside_setPendingEditPrice fun _ =>
    prompts_setState (by decide)

end Prices

section Managing

/-- A question about a folder or a package, whose catalog and id are stored. -/
theorem obeys_startEdit {start : String}
    {remember : Int → ShopData → ShopData} {question : ShopState}
    {key : ShopKey} (inside : dialogue.needs question ⊆ [.catalogType, key])
    (grows : ∀ id, dialogue.Grows (remember id))
    (sets : ∀ id data, isKeySet (remember id data) key = true) :
    dialogue.Obeys (startEdit start remember question) update := by
  apply obeys_onCallback
  intro callback
  refine prompts_after aside_typeAndId fun picked => ?_
  have named : dialogue.Grows fun data =>
      { data with catalogType := some picked.1 } := by
    intro data other isSet
    cases other <;> first | exact isSet | rfl
  refine @prompts_nextQuestion _ _ _ dialogue [] _ [.catalogType, key] _
    (fun data other isSet => grows picked.2 _ other (named data other isSet))
    (fun data => ?_) inside
  exact List.forall_mem_cons.mpr
    ⟨grows picked.2 _ .catalogType rfl, has_singleton.mpr (sets _ _)⟩

theorem obeys_startEditPackage {start : String} {question : ShopState}
    (inside : dialogue.needs question ⊆ [.catalogType, .packageId]) :
    dialogue.Obeys
      (startEdit start (fun id data => { data with packageId := some id })
        question) update := by
  refine obeys_startEdit inside (fun id data key isSet => ?_) fun _ _ => rfl
  cases key <;> first | exact isSet | rfl

theorem obeys_startEditOperatorName :
    dialogue.Obeys startEditOperatorName update := by
  refine @obeys_startEdit _ _ _ _ .operatorId (by decide)
    (fun id data key isSet => ?_) fun _ _ => rfl
  cases key <;> first | exact isSet | rfl

theorem obeys_startEditSubcategoryTitle :
    dialogue.Obeys startEditSubcategoryTitle update := by
  refine @obeys_startEdit _ _ _ _ .subcategoryId (by decide)
    (fun id data key isSet => ?_) fun _ _ => rfl
  cases key <;> first | exact isSet | rfl

theorem obeys_saveOperatorNameEdit :
    dialogue.Obeys saveOperatorNameEdit update := by
  apply obeys_inState
  intro message
  refine prompts_getData_bind fun data has => ?_
  refine prompts_after (aside_strippedText _) fun newName => ?_
  refine prompts_required_bind (has .operatorId (by decide))
    fun operatorId => ?_
  exact prompts_after aside_executeUpdate fun _ =>
    prompts_answerWithSubmenu (has .catalogType (by decide))

theorem obeys_saveSubcategoryTitleEdit :
    dialogue.Obeys saveSubcategoryTitleEdit update := by
  apply obeys_inState
  intro message
  refine prompts_getData_bind fun data has => ?_
  refine prompts_after (aside_strippedText _) fun newTitle => ?_
  refine prompts_required_bind (has .subcategoryId (by decide))
    fun subcategoryId => ?_
  exact prompts_after aside_executeUpdate fun _ =>
    prompts_answerWithSubmenu (has .catalogType (by decide))

theorem obeys_savePackageNameEdit :
    dialogue.Obeys savePackageNameEdit update := by
  apply obeys_inState
  intro message
  refine prompts_getData_bind fun data has => ?_
  refine prompts_after (aside_strippedText _) fun newName => ?_
  refine prompts_required_bind (has .packageId (by decide))
    fun packageId => ?_
  exact prompts_after aside_executeUpdate fun _ =>
    prompts_answerWithSubmenu (has .catalogType (by decide))

theorem obeys_savePackageCostEdit :
    dialogue.Obeys savePackageCostEdit update := by
  apply obeys_inState
  intro message
  refine prompts_after (aside_textOf _) fun text => ?_
  split
  · exact prompts_pure ()
  · refine prompts_getData_bind fun data has => ?_
    refine prompts_required_bind (has .packageId (by decide))
      fun packageId => ?_
    exact prompts_after aside_executePrice fun _ =>
      prompts_answerWithSubmenu (has .catalogType (by decide))

theorem obeys_togglePackageActive :
    dialogue.Obeys togglePackageActive update :=
  obeys_shows fun _ => aside_typeAndId.bind fun _ => aside_executeWrite _

theorem obeys_deleteConfirmed {start : String}
    {delete : Nat → Db → Option Db} :
    dialogue.Obeys (deleteConfirmed start delete) update := by
  apply obeys_shows
  intro callback
  refine aside_typeAndId.bind fun named => ?_
  refine (aside_query _).bind fun after => ?_
  split
  · exact aside_executeWrite _
  · exact aside_pure ()

end Managing

/-- The buttons under the warnings of suspicious prices, each with the state
in which the conversation waits for it. -/
def warningButtons : List (ShopHandler × ShopState) :=
  [(confirmSuspiciousPrice, .confirmingSuspiciousPrice),
    (editSuspiciousPrice, .confirmingSuspiciousPrice),
    (editAgainSuspiciousPrice, .confirmingSuspiciousEditPrice)]

/-- All other handlers of the catalog find what they look up. -/
theorem obeys_or_warningButton :
    ∀ handler ∈ router shop,
      dialogue.Obeys handler update ∨
        handler ∈ warningButtons.map Prod.fst := by
  simp only [router, List.forall_mem_cons, List.not_mem_nil, false_imp_iff,
    implies_true, and_true]
  exact ⟨.inl obeys_onCallback_pure, .inl obeys_showsField,
    .inl obeys_showsField, .inl obeys_startAddOperator,
    .inl obeys_receiveOperatorNameAndSave, .inl obeys_showsField,
    .inl obeys_pickOperatorForSub, .inl obeys_receiveSubcategoryTitleAndSave,
    .inl obeys_showsField, .inl obeys_showDetail, .inl obeys_pickCategory,
    .inl (obeys_textQuestion stores_packageName), .inl obeys_receivePrice,
    .inr (by simp [warningButtons]), .inr (by simp [warningButtons]),
    .inl obeys_receiveCostPriceAndSave, .inl obeys_showsField,
    .inl obeys_showDetail, .inl obeys_showDetail, .inl obeys_showDetail,
    .inl obeys_startEditOperatorName, .inl obeys_saveOperatorNameEdit,
    .inl obeys_startEditSubcategoryTitle,
    .inl obeys_saveSubcategoryTitleEdit,
    .inl (obeys_startEditPackage (by decide)), .inl obeys_savePackageNameEdit,
    .inl (obeys_startEditPackage (by decide)),
    .inl obeys_receivePackagePriceEdit, .inl obeys_confirmEditSuspiciousPrice,
    .inr (by simp [warningButtons]),
    .inl (obeys_startEditPackage (by decide)), .inl obeys_savePackageCostEdit,
    .inl obeys_togglePackageActive, .inl obeys_showDetail,
    .inl obeys_deleteConfirmed, .inl obeys_showDetail, .inl obeys_showDetail,
    .inl obeys_deleteConfirmed, .inl obeys_showDetail, .inl obeys_showDetail,
    .inl obeys_deleteConfirmed, .inl obeys_showDetail⟩

end ResellerCatalog

namespace ResellerChargeStock

theorem aside_actionAndId {callback : Callback} :
    Aside (actionAndId callback) :=
  (aside_dataField _ _).bind fun _ =>
    (aside_integerField _ _).bind fun _ => aside_pure _

theorem obeys_shows_actionAndId {start : String} :
    dialogue.Obeys (onCallback (dataStarts start) fun callback => do
      let _ ← actionAndId callback : ShopHandler) update :=
  obeys_shows fun _ => aside_actionAndId.bind fun _ => aside_pure ()

theorem obeys_actOnProduct : dialogue.Obeys actOnProduct update := by
  apply obeys_onCallback
  intro callback
  refine prompts_after aside_actionAndId fun named => ?_
  refine prompts_after (aside_query _) fun package => ?_
  refine prompts_ite ?_ (prompts_pure ())
  apply prompts_updateData_bind
  · apply grows_of_beside
    intro data key
    cases key <;> rfl
  · exact fun _ => has_nil
  · exact prompts_setState (by decide)

theorem obeys_receiveChargeCodes :
    dialogue.Obeys (receiveChargeCodes shop) update := by
  apply obeys_inState
  intro message
  refine prompts_after aside_getData fun data => ?_
  split
  · refine prompts_ite ?_ (prompts_pure ())
    refine prompts_after (aside_call _) fun added => ?_
    exact prompts_ite prompts_clear (prompts_pure ())
  · exact prompts_pure ()

theorem obeys_deleteSingleCode :
    dialogue.Obeys deleteSingleCode update := by
  apply obeys_shows
  intro callback
  refine (aside_integerField _ _).bind fun codeId => ?_
  refine (aside_integerField _ _).bind fun packageId => ?_
  exact (aside_call _).bind fun _ => aside_pure ()

theorem obeys_clearAllCodes : dialogue.Obeys clearAllCodes update := by
  apply obeys_shows
  intro callback
  refine (aside_integerField _ _).bind fun packageId => ?_
  exact (aside_call _).bind fun _ => aside_pure ()

theorem obeys_router :
    ∀ handler ∈ router shop, dialogue.Obeys handler update := by
  simp only [router, List.forall_mem_cons, List.not_mem_nil, false_imp_iff,
    implies_true, and_true]
  exact ⟨obeys_onCallback_pure, ResellerCatalog.obeys_showsField,
    obeys_shows_actionAndId, obeys_shows_actionAndId, obeys_actOnProduct,
    obeys_receiveChargeCodes, obeys_deleteSingleCode, obeys_clearAllCodes⟩

end ResellerChargeStock

namespace ResellerWallet

theorem aside_requestTopup {resellerId : Nat} {amount : Numerals.Decimal}
    {method : PaymentMethod} {reference : Option String} :
    Aside (requestTopup resellerId amount method reference) := by
  cases amount with
  | finite amount =>
      refine aside_ite ?_ (aside_throw nofun)
      exact (aside_call _).bind fun _ => aside_pure ()
  | infinity | nan => exact aside_throw nofun

theorem obeys_receiveTopupAmount :
    dialogue.Obeys (receiveTopupAmount shop) update := by
  apply obeys_inState
  intro message
  refine prompts_after (aside_textOf _) fun text => ?_
  split
  · exact prompts_pure ()
  · exact prompts_end aside_requestTopup

theorem obeys_receiveZarinpalAmount :
    dialogue.Obeys receiveZarinpalAmount update := by
  apply obeys_inState
  intro message
  refine prompts_after (aside_textOf _) fun text => ?_
  dsimp only
  split
  · exact prompts_clear
  · exact prompts_pure ()

theorem obeys_showCryptoOptions :
    dialogue.Obeys showCryptoOptions update := by
  apply obeys_onCallback
  intro callback
  refine prompts_after (aside_query _) fun coins => ?_
  exact prompts_ite (prompts_setState (by decide)) (prompts_pure ())

theorem stores_coinName (coinName : String) :
    dialogue.Stores .enteringCoin .enteringTxHash .coinName
      ({ · with coinName := some coinName }) where
  grows _ key isSet := by cases key <;> first | exact isSet | rfl
  sets _ := rfl
  inside := by decide

theorem stores_txHash (txHash : String) :
    dialogue.Stores .enteringTxHash .enteringCryptoAmount .txHash
      ({ · with txHash := some txHash }) where
  grows _ key isSet := by cases key <;> first | exact isSet | rfl
  sets _ := rfl
  inside := by decide

theorem obeys_receiveCryptoAmountAndSave :
    dialogue.Obeys (receiveCryptoAmountAndSave shop) update := by
  apply obeys_inState
  intro message
  refine prompts_after (aside_textOf _) fun text => ?_
  split
  · exact prompts_pure ()
  · refine prompts_getData_bind fun data has => ?_
    refine prompts_required_bind (has .coinName (by decide))
      fun coinName => ?_
    refine prompts_required_bind (has .txHash (by decide)) fun txHash => ?_
    exact prompts_end aside_requestTopup

theorem obeys_router :
    ∀ handler ∈ router shop, dialogue.Obeys handler update := by
  simp only [router, List.forall_mem_cons, List.not_mem_nil, false_imp_iff,
    implies_true, and_true]
  exact ⟨obeys_onCallback_pure, obeys_ask (by decide),
    obeys_receiveTopupAmount, obeys_ask (by decide),
    obeys_receiveZarinpalAmount, obeys_showCryptoOptions,
    obeys_textQuestion stores_coinName, obeys_textQuestion stores_txHash,
    obeys_receiveCryptoAmountAndSave⟩

end ResellerWallet

namespace ResellerSettings

theorem aside_setReferralEnabled {resellerId : Nat} {enabled : Bool} :
    Aside (setReferralEnabled resellerId enabled) :=
  aside_getReferralSettings.bind fun _ => aside_executeWrite _

theorem aside_setReferralProfitPercent {resellerId : Nat}
    {percent : Numerals.Decimal} :
    Aside (setReferralProfitPercent resellerId percent) := by
  refine aside_getReferralSettings.bind fun _ => ?_
  exact (aside_storedAmount _).bind fun _ => aside_executeWrite _

theorem obeys_receiveReferralPercent :
    dialogue.Obeys (receiveReferralPercent shop) update := by
  apply obeys_inState
  intro message
  refine prompts_after (aside_textOf _) fun text => ?_
  split
  · exact prompts_pure ()
  · exact prompts_end aside_setReferralProfitPercent

theorem obeys_receiveChannelId :
    dialogue.Obeys (receiveChannelId shop) update := by
  apply obeys_inState
  intro message
  refine prompts_after (aside_strippedText _) fun channelId => ?_
  exact prompts_end aside_executeInsert

theorem obeys_receiveDiscountCode :
    dialogue.Obeys receiveDiscountCode update := by
  apply obeys_inState
  intro message
  refine prompts_after (aside_strippedText _) fun text => ?_
  have grows : dialogue.Grows fun data =>
      { data with code := some (Uppercase.upper text) } := by
    intro data key isSet
    cases key <;> first | exact isSet | rfl
  exact @prompts_nextQuestion _ _ _ dialogue _ _ [.code] _ grows
    (fun _ => has_singleton.mpr rfl) (by decide)

theorem stores_percent (percent : Numerals.Decimal) :
    dialogue.Stores .enteringDiscountPercent .enteringDiscountUsageLimit
      .percent ({ · with percent := some percent }) where
  grows _ key isSet := by cases key <;> first | exact isSet | rfl
  sets _ := rfl
  inside := by decide

theorem obeys_receiveDiscountUsageLimitAndSave :
    dialogue.Obeys (receiveDiscountUsageLimitAndSave shop) update := by
  apply obeys_inState
  intro message
  refine prompts_after (aside_textOf _) fun text => ?_
  split
  · exact prompts_pure ()
  · refine prompts_getData_bind fun data has => ?_
    refine prompts_required_bind (has .code (by decide)) fun code => ?_
    refine prompts_required_bind (has .percent (by decide))
      fun percent => ?_
    refine prompts_after (aside_storedAmount _) fun percent => ?_
    exact prompts_end aside_executeInsert

end ResellerSettings

/-- The answer is a setting of the reseller. -/
theorem obeys_resellerSetting {state : ShopState} {limit : Nat}
    {change : String → ResellerRow → ResellerRow} :
    dialogue.Obeys (onMessage (inState state) fun message => do
      let text ← strippedText message
      executeUpdate .resellers shop.resellerId (text.length ≤ limit)
        (change text)
      clear : ShopHandler) update := by
  apply obeys_inState
  intro message
  refine prompts_after (aside_strippedText _) fun text => ?_
  exact prompts_after aside_executeUpdate fun _ => prompts_clear

theorem ResellerSettings.obeys_router :
    ∀ handler ∈ router shop, dialogue.Obeys handler update := by
  simp only [router, List.forall_mem_cons, List.not_mem_nil, false_imp_iff,
    implies_true, and_true]
  exact ⟨obeys_shows fun _ => aside_getReferralSettings,
    obeys_shows fun _ => (aside_dataField _ _).bind fun _ =>
      aside_setReferralEnabled,
    obeys_ask (by decide), obeys_receiveReferralPercent,
    obeys_ask (by decide), obeys_receiveChannelId, obeys_ask (by decide),
    obeys_receiveDiscountCode, obeys_decimalQuestion stores_percent,
    obeys_receiveDiscountUsageLimitAndSave, obeys_ask (by decide),
    obeys_resellerSetting⟩

namespace ResellerPaymentMethods

theorem obeys_toggleCardCb : dialogue.Obeys (toggleCardCb shop) update := by
  apply obeys_shows
  intro callback
  refine (aside_integerField _ _).bind fun cardId => ?_
  refine (aside_query _).bind fun card => ?_
  split
  · exact aside_pure ()
  · exact aside_executeWrite _

theorem obeys_removeCardCb : dialogue.Obeys (removeCardCb shop) update := by
  apply obeys_shows
  intro callback
  refine (aside_integerField _ _).bind fun cardId => ?_
  refine (aside_query _).bind fun card => ?_
  exact aside_ite (aside_executeWrite _) (aside_pure ())

theorem obeys_receiveCardNumber :
    dialogue.Obeys receiveCardNumber update := by
  apply obeys_inState
  intro message
  refine prompts_after (aside_textOf _) fun text => ?_
  refine prompts_ite ?_ (prompts_pure ())
  have grows : ∀ cardNumber : String, dialogue.Grows fun data =>
      { data with cardNumber := some cardNumber } := by
    intro cardNumber data key isSet
    cases key <;> first | exact isSet | rfl
  exact @prompts_nextQuestion _ _ _ dialogue _ _ [.cardNumber] _ (grows _)
    (fun _ => has_singleton.mpr rfl) (by decide)

theorem stores_cardHolderName (holder : String) :
    dialogue.Stores .enteringCardHolder .enteringBankName .cardHolderName
      ({ · with cardHolderName := some holder }) where
  grows _ key isSet := by cases key <;> first | exact isSet | rfl
  sets _ := rfl
  inside := by decide

theorem obeys_receiveBankNameAndSave :
    dialogue.Obeys (receiveBankNameAndSave shop) update := by
  apply obeys_inState
  intro message
  refine prompts_after (aside_strippedText _) fun text => ?_
  refine prompts_getData_bind fun data has => ?_
  refine prompts_required_bind (has .cardNumber (by decide))
    fun cardNumber => ?_
  refine prompts_required_bind (has .cardHolderName (by decide))
    fun cardHolderName => ?_
  exact prompts_end aside_executeInsert

theorem obeys_router :
    ∀ handler ∈ router shop, dialogue.Obeys handler update := by
  simp only [router, List.forall_mem_cons, List.not_mem_nil, false_imp_iff,
    implies_true, and_true]
  exact ⟨obeys_onCallback_pure, obeys_onCallback_pure, obeys_toggleCardCb,
    obeys_removeCardCb, obeys_ask (by decide), obeys_receiveCardNumber,
    obeys_textQuestion stores_cardHolderName, obeys_receiveBankNameAndSave,
    obeys_ask (by decide), obeys_resellerSetting⟩

end ResellerPaymentMethods

section Customers

/-- The labels of a keyboard are stored, and the conversation goes on. -/
theorem prompts_browse {change : ShopData → ShopData} {state : ShopState}
    (beside : ∀ data key, isKeySet (change data) key = isKeySet data key)
    (free : dialogue.needs state = []) :
    dialogue.Prompts known (do
      setState state
      updateData change : ShopScript Unit) := by
  refine prompts_before (prompts_setState ?_) fun _ =>
    prompts_updateData (grows_of_beside beside)
  rw [free]
  exact List.nil_subset _

theorem prompts_listed {change : ShopData → ShopData} {state : ShopState}
    (beside : ∀ data key, isKeySet (change data) key = isKeySet data key)
    (free : dialogue.needs state = []) :
    dialogue.Prompts known (do
      updateData change
      setState state : ShopScript Unit) := by
  refine prompts_updateData_bind (grows_of_beside beside)
    (fun _ => has_nil) (prompts_setState ?_)
  rw [free]
  exact List.nil_subset _

theorem prompts_goTo {state : ShopState} (free : dialogue.needs state = []) :
    dialogue.Prompts known (setState state : ShopScript Unit) := by
  apply prompts_setState
  rw [free]
  exact List.nil_subset _

end Customers

namespace CustomerOrders

theorem aside_registerReferral {resellerId referredCustomerId : Nat}
    {referrerCustomerId : Int} :
    Aside (registerReferral resellerId referrerCustomerId
      referredCustomerId) := by
  refine aside_ite ?_ (aside_pure ())
  refine (aside_query _).bind fun id => ?_
  refine (aside_executeWrite _).bind fun _ => ?_
  refine (aside_query _).bind fun isNew => ?_
  exact aside_ite (aside_executeWrite _) (aside_pure ())

theorem obeys_customerStart : dialogue.Obeys (customerStart shop) update := by
  apply obeys_onMessage
  intro message
  refine prompts_before prompts_clear fun _ => ?_
  refine prompts_after (aside_textOf _) fun text => ?_
  refine prompts_after aside_getOrCreateCustomer fun customerId => ?_
  split
  · exact prompts_pure ()
  · exact prompts_of_aside aside_registerReferral

theorem prompts_showOperators :
    dialogue.Prompts known (showOperators shop) := by
  refine prompts_after (aside_query _) fun joined => ?_
  refine prompts_ite ?_ (prompts_pure ())
  refine prompts_after (aside_query _) fun operators => ?_
  refine prompts_ite ?_ (prompts_pure ())
  refine prompts_after (aside_query _) fun labels => ?_
  exact prompts_browse (fun _ key => by cases key <;> rfl) rfl

theorem obeys_handleOperatorPick :
    dialogue.Obeys handleOperatorPick update := by
  apply obeys_inState
  intro message
  refine prompts_ite prompts_clear ?_
  refine prompts_after aside_getData fun data => ?_
  split
  · exact prompts_pure ()
  · refine prompts_after (aside_query _) fun subcategories => ?_
    refine prompts_ite ?_ (prompts_pure ())
    refine prompts_after (aside_query _) fun labels => ?_
    exact prompts_browse (fun _ key => by cases key <;> rfl) rfl

theorem obeys_handleSubcategoryPick :
    dialogue.Obeys (handleSubcategoryPick shop) update := by
  apply obeys_inState
  intro message
  refine prompts_ite prompts_showOperators ?_
  refine prompts_after aside_getData fun data => ?_
  split
  · exact prompts_pure ()
  · refine prompts_after (aside_query _) fun packages => ?_
    refine prompts_ite ?_ (prompts_pure ())
    refine prompts_after (aside_query _) fun labels => ?_
    exact prompts_listed (fun _ key => by cases key <;> rfl) rfl

theorem obeys_handlePackagePick :
    dialogue.Obeys handlePackagePick update := by
  apply obeys_inState
  intro message
  refine prompts_ite (prompts_goTo rfl) ?_
  refine prompts_after aside_getData fun data => ?_
  split
  · exact prompts_pure ()
  · refine prompts_after (aside_query _) fun listed => ?_
    refine prompts_ite ?_ (prompts_pure ())
    exact prompts_browse (fun _ key => by cases key <;> rfl) rfl

theorem obeys_handleBuyButton : dialogue.Obeys handleBuyButton update := by
  apply obeys_inStateWith
  intro message
  refine prompts_after aside_getData fun data => ?_
  split
  · exact prompts_clear
  · exact prompts_goTo rfl

theorem prompts_processPurchase {userId : Int} {phoneNumber : String} :
    dialogue.Prompts known (processPurchase shop userId phoneNumber) := by
  refine prompts_after aside_getData fun data => ?_
  split
  · exact prompts_clear
  · refine prompts_after aside_getOrCreateCustomer fun customerId => ?_
    refine prompts_after (aside_attempt _) fun paid => ?_
    split
    · exact prompts_clear
    · exact prompts_clear
    · refine prompts_after (aside_attempt _) fun ordered => ?_
      split
      · exact prompts_listed (fun _ key => by cases key <;> rfl) rfl
      · exact prompts_clear
      · exact prompts_throw nofun
    · exact prompts_throw nofun

theorem obeys_receivePhoneNumberContact :
    dialogue.Obeys (receivePhoneNumberContact shop) update := by
  apply obeys_inStateWith
  intro message
  exact prompts_after (aside_required (by decide) _) fun contact =>
    prompts_processPurchase

theorem obeys_receivePhoneNumberText :
    dialogue.Obeys (receivePhoneNumberText shop) update := by
  apply obeys_inStateWith
  intro message
  refine prompts_after (aside_textOf _) fun text => ?_
  split
  · exact prompts_pure ()
  · exact prompts_processPurchase

theorem obeys_applyDiscountCode :
    dialogue.Obeys (applyDiscountCode shop) update := by
  apply obeys_inStateWith
  intro message
  apply prompts_of_aside
  refine (aside_textOf _).bind fun text => ?_
  refine (aside_required (by decide) _).bind fun rest => ?_
  refine aside_getData.bind fun data => ?_
  refine (aside_query _).bind fun order => ?_
  refine (aside_query _).bind fun found => ?_
  split
  · exact aside_pure ()
  · exact aside_throw (by decide)
  · refine (aside_required (by decide) _).bind fun order => ?_
    exact (aside_executeWrite _).bind fun _ => aside_executeWrite _

theorem obeys_receiveReceipt :
    dialogue.Obeys (receiveReceipt shop) update := by
  apply obeys_inStateWith
  intro message
  refine prompts_after (aside_required (by decide) _) fun receipt => ?_
  refine prompts_after aside_getData fun data => ?_
  refine prompts_after (aside_required (by decide) _) fun orderId => ?_
  refine prompts_after (aside_attempt _) fun outcome => ?_
  split
  · exact prompts_clear
  · exact prompts_clear
  · exact prompts_pure ()
  · exact prompts_throw nofun

theorem obeys_router :
    ∀ handler ∈ router shop, dialogue.Obeys handler update := by
  simp only [router, List.forall_mem_cons, List.not_mem_nil, false_imp_iff,
    implies_true, and_true]
  exact ⟨obeys_onMessage fun _ => prompts_cancel, obeys_customerStart,
    obeys_onMessage fun _ => prompts_pure (),
    obeys_onMessage fun _ => prompts_showOperators,
    obeys_handleOperatorPick, obeys_handleSubcategoryPick,
    obeys_handlePackagePick, obeys_inStateWith fun _ => prompts_goTo rfl,
    obeys_handleBuyButton, obeys_inStateWith fun _ => prompts_goTo rfl,
    obeys_receivePhoneNumberContact, obeys_receivePhoneNumberText,
    obeys_applyDiscountCode, obeys_receiveReceipt⟩

end CustomerOrders

namespace CustomerCharge

theorem prompts_showOperators :
    dialogue.Prompts known (showOperators shop) := by
  refine prompts_after (aside_query _) fun joined => ?_
  refine prompts_ite ?_ (prompts_pure ())
  refine prompts_after (aside_query _) fun operators => ?_
  refine prompts_ite ?_ (prompts_pure ())
  refine prompts_after (aside_query _) fun labels => ?_
  exact prompts_browse (fun _ key => by cases key <;> rfl) rfl

theorem obeys_handleChargeOperatorPick :
    dialogue.Obeys handleChargeOperatorPick update := by
  apply obeys_inState
  intro message
  refine prompts_ite prompts_clear ?_
  refine prompts_after aside_getData fun data => ?_
  split
  · exact prompts_pure ()
  · refine prompts_after (aside_query _) fun subcategories => ?_
    refine prompts_ite ?_ (prompts_pure ())
    refine prompts_after (aside_query _) fun labels => ?_
    exact prompts_browse (fun _ key => by cases key <;> rfl) rfl

theorem obeys_handleChargeSubcategoryPick :
    dialogue.Obeys handleChargeSubcategoryPick update := by
  apply obeys_inState
  intro message
  refine prompts_ite (prompts_goTo rfl) ?_
  refine prompts_after aside_getData fun data => ?_
  split
  · exact prompts_pure ()
  · refine prompts_after (aside_query _) fun products => ?_
    refine prompts_ite ?_ (prompts_pure ())
    refine prompts_after (aside_query _) fun labels => ?_
    exact prompts_listed (fun _ key => by cases key <;> rfl) rfl

theorem obeys_handleChargeProductPick :
    dialogue.Obeys handleChargeProductPick update := by
  apply obeys_inState
  intro message
  refine prompts_ite (prompts_goTo rfl) ?_
  refine prompts_after aside_getData fun data => ?_
  split
  · exact prompts_pure ()
  · refine prompts_after (aside_query _) fun listed => ?_
    refine prompts_ite ?_ (prompts_pure ())
    exact prompts_browse (fun _ key => by cases key <;> rfl) rfl

theorem obeys_handleBuyChargeButton :
    dialogue.Obeys handleBuyChargeButton update := by
  apply obeys_inStateWith
  intro message
  refine prompts_after aside_getData fun data => ?_
  split
  · exact prompts_clear
  · exact prompts_goTo rfl

theorem obeys_handleChargeQuantityBack :
    dialogue.Obeys handleChargeQuantityBack update := by
  apply obeys_inStateWith
  intro message
  refine prompts_after (aside_query _) fun listed => ?_
  refine prompts_after aside_getData fun data => ?_
  exact prompts_ite (prompts_goTo rfl) prompts_clear

theorem obeys_handleChargeQuantityInput :
    dialogue.Obeys (handleChargeQuantityInput shop) update := by
  apply obeys_inState
  intro message
  refine prompts_after aside_getData fun data => ?_
  split
  · exact prompts_clear
  · dsimp only
    split
    · exact prompts_pure ()
    · refine prompts_after (aside_query _) fun package => ?_
      refine prompts_ite prompts_clear ?_
      refine prompts_after aside_getOrCreateCustomer fun customerId => ?_
      refine prompts_after (aside_attempt _) fun outcome => ?_
      split
      · exact prompts_clear
      · exact prompts_clear
      · exact prompts_pure ()
      · exact prompts_pure ()
      · exact prompts_throw nofun

theorem obeys_router :
    ∀ handler ∈ router shop, dialogue.Obeys handler update := by
  simp only [router, List.forall_mem_cons, List.not_mem_nil, false_imp_iff,
    implies_true, and_true]
  exact ⟨obeys_onMessage fun _ => prompts_showOperators,
    obeys_handleChargeOperatorPick, obeys_handleChargeSubcategoryPick,
    obeys_handleChargeProductPick,
    obeys_inStateWith fun _ => prompts_goTo rfl,
    obeys_handleBuyChargeButton, obeys_handleChargeQuantityBack,
    obeys_handleChargeQuantityInput⟩

end CustomerCharge

namespace CustomerWallet

theorem prompts_openWallet {userId : Int} :
    dialogue.Prompts known (openWallet shop userId) :=
  prompts_before prompts_clear fun _ =>
    prompts_of_aside (aside_getOrCreateCustomer.bind fun _ => aside_pure ())

theorem obeys_startTopup : dialogue.Obeys (startTopup shop) update := by
  apply obeys_onMessage
  intro message
  refine prompts_after (aside_query _) fun takes => ?_
  exact prompts_ite (prompts_goTo rfl) (prompts_pure ())

theorem obeys_chooseTopupMethod :
    dialogue.Obeys (chooseTopupMethod shop) update := by
  apply obeys_inState
  intro message
  apply prompts_ite
  · exact prompts_before prompts_clear fun _ => prompts_openWallet
  · split
    · exact prompts_pure ()
    · next method _ =>
      have grows : dialogue.Grows fun data =>
          { data with topupMethod := some method } := by
        intro data key isSet
        cases key <;> first | exact isSet | rfl
      exact @prompts_nextQuestion _ _ _ dialogue _ _ [.topupMethod] _ grows
        (fun _ => has_singleton.mpr rfl) (by decide)

theorem aside_createTopupRequest {resellerId customerId : Nat}
    {amount : Numerals.Decimal} {method : PaymentMethod} :
    Aside (createTopupRequest resellerId customerId amount method) :=
  (aside_storedAmount _).bind fun _ => aside_executeInsert

theorem obeys_receiveTopupAmount :
    dialogue.Obeys (receiveTopupAmount shop) update := by
  apply obeys_inState
  intro message
  refine prompts_after (aside_textOf _) fun text => ?_
  split
  · exact prompts_pure ()
  · refine prompts_getData_bind fun data has => ?_
    refine prompts_required_bind (has .topupMethod (by decide))
      fun method => ?_
    refine prompts_after aside_getOrCreateCustomer fun customerId => ?_
    refine prompts_after aside_createTopupRequest fun topupId => ?_
    exact prompts_listed (fun _ key => by cases key <;> rfl) rfl

theorem obeys_receiveTopupReceipt :
    dialogue.Obeys receiveTopupReceipt update := by
  apply obeys_inStateWith
  intro message
  refine prompts_after (aside_required (by decide) _) fun receipt => ?_
  refine prompts_after aside_getData fun data => ?_
  split
  · exact prompts_clear
  · exact prompts_after (aside_executeWrite _) fun _ => prompts_clear

theorem obeys_router :
    ∀ handler ∈ router shop, dialogue.Obeys handler update := by
  simp only [router, List.forall_mem_cons, List.not_mem_nil, false_imp_iff,
    implies_true, and_true]
  exact ⟨obeys_onMessage fun _ => prompts_openWallet, obeys_startTopup,
    obeys_chooseTopupMethod, obeys_receiveTopupAmount,
    obeys_receiveTopupReceipt⟩

end CustomerWallet

/-- All handlers but those of the buttons under a warning find what they look
up. -/
theorem obeys_or_warningButton (shop : Shop) (isOwner : Int → Bool) :
    ∀ handler ∈ handlers shop isOwner,
      dialogue.Obeys handler update ∨
        handler ∈ ResellerCatalog.warningButtons.map Prod.fst := by
  have start : ∀ handler ∈ ResellerStart.router isOwner,
      dialogue.Obeys handler update := by
    simp only [ResellerStart.router, List.forall_mem_cons, List.not_mem_nil,
      false_imp_iff, implies_true, and_true]
    exact ⟨obeys_onMessage fun _ => prompts_pure (),
      obeys_onMessage fun _ => prompts_cancel, obeys_onCallback_pure⟩
  have reports : ∀ handler ∈ ResellerReports.router,
      dialogue.Obeys handler update := by
    simp only [ResellerReports.router, List.forall_mem_cons,
      List.not_mem_nil, false_imp_iff, implies_true, and_true]
    exact ⟨obeys_onCallback_pure, obeys_onCallback_pure⟩
  have stats : ∀ handler ∈ ResellerStats.router,
      dialogue.Obeys handler update :=
    List.forall_mem_singleton.mpr obeys_onCallback_pure
  have operators : ∀ handler ∈ OperatorOrders.router shop,
      dialogue.Obeys handler update :=
    List.forall_mem_singleton.mpr (obeys_onMessage fun _ => prompts_pure ())
  intro handler member
  rw [handlers] at member
  simp only [List.mem_append, or_assoc] at member
  rcases member with starts | orders | catalog | stock | wallet | settings |
    reported | counted | methods | operated | bought | charged | paid
  · exact .inl (start handler starts)
  · exact .inl (ResellerOrders.obeys_router handler orders)
  · exact ResellerCatalog.obeys_or_warningButton handler catalog
  · exact .inl (ResellerChargeStock.obeys_router handler stock)
  · exact .inl (ResellerWallet.obeys_router handler wallet)
  · exact .inl (ResellerSettings.obeys_router handler settings)
  · exact .inl (reports handler reported)
  · exact .inl (stats handler counted)
  · exact .inl (ResellerPaymentMethods.obeys_router handler methods)
  · exact .inl (operators handler operated)
  · exact .inl (CustomerOrders.obeys_router handler bought)
  · exact .inl (CustomerCharge.obeys_router handler charged)
  · exact .inl (CustomerWallet.obeys_router handler paid)

end ShopBot

end Baste
