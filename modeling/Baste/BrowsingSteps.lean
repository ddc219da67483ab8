import Baste.BrowsingButtons
import Baste.ShopFootprints

/-!
# Steps of browsing

What a customer can still buy is on the screen: the package that has been
picked, and those of the last listing.  A handler with which customers browse
lists what a button that it has shown leads to, picks a package of a listing,
goes back or forth, or starts again; it leaves everything else alone, and the
other handlers leave what is on the screen alone.
-/

namespace Baste

namespace ShopBot

open BotScripts BotScripts.Footprint Database

section Screen

/-- The state in which the packages of a folder are shown. -/
def listedState : CatalogType → ShopState
  | .package => .browsingPackages
  | .charge => .browsingChargeProducts

/-- The state in which a package has been picked. -/
def pickedState : CatalogType → ShopState
  | .package => .packageSelected
  | .charge => .productSelected

/-- The state of the last question before a purchase. -/
def buyingState : CatalogType → ShopState
  | .package => .enteringPhoneNumber
  | .charge => .enteringQuantity

/-- The states in which a package is on the screen. -/
def screenStates (catalogType : CatalogType) : List ShopState :=
  [listedState catalogType, pickedState catalogType, buyingState catalogType]

/-- The package that has been picked. -/
def pickedId : CatalogType → ShopData → Option Nat
  | .package => (·.selectedPackageId)
  | .charge => (·.selectedChargePackageId)

def pick : CatalogType → Nat → ShopData → ShopData
  | .package, id, data => { data with selectedPackageId := some id }
  | .charge, id, data => { data with selectedChargePackageId := some id }

/-- The customer can buy the package without another listing. -/
inductive OnScreen (catalogType : CatalogType)
    (conversation : Conversation ShopState ShopData) (id : Nat) : Prop
  | listed {categoryId : Nat} {text : String}
      (state : ∃ state ∈ screenStates catalogType,
        conversation.state = some state)
      (label : (text, id) ∈
        (Listing.packages catalogType categoryId).labels conversation.data)
  | picked
      (state : ∃ state ∈ [pickedState catalogType, buyingState catalogType],
        conversation.state = some state)
      (isPicked : pickedId catalogType conversation.data = some id)

variable {conversation : Conversation ShopState ShopData}
variable {catalogType : CatalogType} {state : ShopState} {id : Nat}

theorem OnScreen.exists_state (onScreen : OnScreen catalogType conversation id) :
    ∃ state ∈ screenStates catalogType, conversation.state = some state := by
  cases onScreen with
  | listed isState _ => exact isState
  | picked isState _ =>
      obtain ⟨state, member, isState⟩ := isState
      exact ⟨state, List.mem_cons_of_mem _ member, isState⟩

theorem not_onScreen (isState : conversation.state = some state)
    (outside : state ∉ screenStates catalogType) :
    ¬ OnScreen catalogType conversation id := by
  intro onScreen
  obtain ⟨other, member, isOther⟩ := onScreen.exists_state
  cases isState.symm.trans isOther
  exact outside member

theorem not_onScreen_empty : ¬ OnScreen catalogType { data := ∅ } id := by
  intro onScreen
  obtain ⟨_, _, isState⟩ := onScreen.exists_state
  cases isState

/-- The two parts of the catalog have their own states. -/
theorem screenStates_disjoint {other : CatalogType}
    (member : state ∈ screenStates catalogType)
    (also : state ∈ screenStates other) : other = catalogType := by
  simp only [screenStates, List.mem_cons, List.not_mem_nil,
    or_false] at member also
  cases catalogType <;> cases other <;>
    simp only [listedState, pickedState, buyingState] at member also ⊢ <;>
    rcases member with rfl | rfl | rfl <;>
    simp at also

/-- Going back or forth, once a package has been picked, brings nothing new to
the screen. -/
theorem onScreen_of_moved {next : ShopState} {other : CatalogType}
    (isState : conversation.state = some state)
    (isPicked : state ∈ [pickedState catalogType, buyingState catalogType])
    (member : next ∈ screenStates catalogType)
    (onScreen : OnScreen other ⟨some next, conversation.data⟩ id) :
    OnScreen other conversation id := by
  obtain ⟨_, also, same⟩ := onScreen.exists_state
  cases same
  cases screenStates_disjoint member also
  cases onScreen with
  | listed _ label =>
      exact .listed ⟨state, List.mem_cons_of_mem _ isPicked, isState⟩ label
  | picked _ found => exact .picked ⟨state, isPicked, isState⟩ found

end Screen

section Browsing

/-- A button that the customer has been shown leads to the listing. -/
def Listing.IsReached (shop : Shop) (data : ShopData) : Listing → Prop
  | .operators _ resellerId => resellerId = shop.resellerId
  | .folders catalogType operatorId => ∃ resellerId text,
      (text, operatorId) ∈
        (Listing.operators catalogType resellerId).labels data
  | .packages catalogType categoryId => ∃ operatorId text,
      (text, categoryId) ∈
        (Listing.folders catalogType operatorId).labels data

/-- What may become of a conversation while a customer browses. -/
inductive Browses (shop : Shop) (db : Db)
    (before : Conversation ShopState ShopData) :
    Conversation ShopState ShopData → Prop
  | stays : Browses shop db before before
  | clears : Browses shop db before { data := ∅ }
  | moves {state : ShopState}
      (fewer : ∀ catalogType id,
        OnScreen catalogType ⟨some state, before.data⟩ id →
          OnScreen catalogType before id) :
      Browses shop db before ⟨some state, before.data⟩
  | lists {listing : Listing} (reached : listing.IsReached shop before.data) :
      Browses shop db before (listing.conversation db before.data)
  | picks {catalogType : CatalogType} {id : Nat}
      (onScreen : OnScreen catalogType before id) :
      Browses shop db before
        ⟨some (pickedState catalogType), pick catalogType id before.data⟩

/-- The script takes a step of browsing and does nothing else. -/
structure TakesStep (shop : Shop) (script : ShopScript Unit)
    (visit : Visit ShopState ShopData) : Prop where
  platform : (script.runOn visit).2.platform = visit.platform
  conversation : Browses shop visit.platform.db visit.conversation
    (script.runOn visit).2.conversation

variable {shop : Shop} {visit : Visit ShopState ShopData}
variable {message : Message}

theorem takesStep_of_eq {script : ShopScript Unit}
    {conversation : Conversation ShopState ShopData}
    (ran : (script.runOn visit).2 = ⟨visit.platform, conversation⟩)
    (browses : Browses shop visit.platform.db visit.conversation
      conversation) : TakesStep shop script visit where
  platform := by rw [ran]
  conversation := by
    rw [ran]
    exact browses

theorem takesStep_stays {script : ShopScript Unit}
    (ran : (script.runOn visit).2 = visit) : TakesStep shop script visit :=
  takesStep_of_eq ran .stays

theorem takesStep_clear : TakesStep shop clear visit :=
  takesStep_of_eq rfl .clears

theorem takesStep_setState {state : ShopState}
    (fewer : ∀ catalogType id,
      OnScreen catalogType ⟨some state, visit.conversation.data⟩ id →
        OnScreen catalogType visit.conversation id) :
    TakesStep shop (setState state) visit :=
  takesStep_of_eq rfl (.moves fewer)

theorem takesStep_of_lists {listing : Listing} {script : ShopScript Unit}
    (lists : listing.Lists script)
    (reached : listing.IsReached shop visit.conversation.data) :
    TakesStep shop script visit := by
  rcases lists visit with stays | shows
  · exact takesStep_stays stays
  · exact takesStep_of_eq shows (.lists reached)

theorem exists_mem_of_get {labels : LabelMap} {text : Option String}
    {id : Nat} (found : labels.get text = some id) :
    ∃ label, (label, id) ∈ labels := by
  cases text with
  | none => cases found
  | some text =>
      obtain ⟨before, after, same, -⟩ := List.lookup_eq_some_iff.mp found
      have member : (text, id) ∈ labels.reverse := by simp [same]
      exact ⟨text, List.mem_reverse.mp member⟩

/-- What the button that leads back does. -/
def Listing.leave (shop : Shop) : Listing → ShopScript Unit
  | .operators _ _ => backToMainMenu
  | .folders .package _ => CustomerOrders.showOperators shop
  | .folders .charge _ => setState .browsingChargeOperators
  | .packages .package _ => setState .browsingOperators
  | .packages .charge _ => setState .browsingChargeSubcategories

/-- The handler of a listing leads back, to what a button stands for, or
nowhere. -/
theorem Listing.runOn_handler_cases (listing : Listing) :
    ((listing.handler shop).action (.message message)).runOn visit =
        (listing.leave shop).runOn visit ∨
      ((listing.handler shop).action (.message message)).runOn visit =
        (.ok (), visit) ∨
      ∃ text id, (text, id) ∈ listing.labels visit.conversation.data ∧
        ((listing.handler shop).action (.message message)).runOn visit =
          (listing.choose id).runOn visit := by
  by_cases isBack : message.text = some listing.back
  · left
    rcases listing with catalogType | catalogType | catalogType <;>
      cases catalogType <;>
        exact congrArg (Failing.runOn · visit) (if_pos isBack)
  · right
    cases found : (listing.labels visit.conversation.data).get
        message.text with
    | none =>
        left
        have reads : ∀ next : ShopData → ShopScript Unit,
            (getData >>= next).runOn visit =
              (next visit.conversation.data).runOn visit :=
          fun _ => rfl
        rcases listing with catalogType | catalogType | catalogType <;>
          cases catalogType
        all_goals
          refine (congrArg (Failing.runOn · visit) (if_neg isBack)).trans ?_
          refine (reads _).trans ?_
          dsimp only [Listing.labels] at found
          rw [found]
          rfl
    | some id =>
        right
        obtain ⟨text, label⟩ := exists_mem_of_get found
        cases isText : message.text with
        | none =>
            rw [isText] at found
            cases found
        | some typed =>
            rw [isText] at found isBack
            refine ⟨text, id, label, listing.runOn_handler isText ?_ found⟩
            exact fun same => isBack (congrArg some same)

theorem takesStep_leave {listing : Listing} :
    TakesStep shop (listing.leave shop) visit := by
  have nothing : ∀ {state : ShopState},
      (∀ catalogType, state ∉ screenStates catalogType) →
      TakesStep shop (setState state) visit := by
    intro state outside
    apply takesStep_setState
    intro catalogType id onScreen
    exact absurd onScreen (not_onScreen rfl (outside catalogType))
  rcases listing with catalogType | catalogType | catalogType
  · exact takesStep_clear
  · cases catalogType with
    | package =>
        exact takesStep_of_lists (Listing.lists_showOperators shop) rfl
    | charge => exact nothing (by rintro ⟨⟩ <;> decide)
  · cases catalogType with
    | package => exact nothing (by rintro ⟨⟩ <;> decide)
    | charge => exact nothing (by rintro ⟨⟩ <;> decide)

/-- Who picks a package of a listing has it on the screen. -/
theorem takesStep_choose_package {catalogType : CatalogType}
    {categoryId packageId : Nat}
    (onScreen : OnScreen catalogType visit.conversation packageId) :
    TakesStep shop
      ((Listing.packages catalogType categoryId).choose packageId) visit := by
  have ran : (((Listing.packages catalogType categoryId).choose
        packageId).runOn visit).2 = visit ∨
      (((Listing.packages catalogType categoryId).choose
          packageId).runOn visit).2 =
        ⟨visit.platform, some (pickedState catalogType),
          pick catalogType packageId visit.conversation.data⟩ := by
    cases catalogType
    all_goals
      unfold Listing.choose
      rw [Failing.runOn_bind, runOn_query]
      dsimp only
      split
      · exact .inr rfl
      · exact .inl rfl
  rcases ran with stays | picks
  · exact takesStep_stays stays
  · exact takesStep_of_eq picks (.picks onScreen)

/-- The keyboards of the catalog. -/
theorem takesStep_listing {listing : Listing}
    (isState : visit.conversation.state = some listing.state) :
    TakesStep shop ((listing.handler shop).action (.message message))
      visit := by
  have of_runOn : ∀ {script : ShopScript Unit},
      ((listing.handler shop).action (.message message)).runOn visit =
        script.runOn visit → TakesStep shop script visit →
      TakesStep shop ((listing.handler shop).action (.message message))
        visit := by
    intro script same takes
    constructor
    · rw [same]
      exact takes.platform
    · rw [same]
      exact takes.conversation
  rcases listing.runOn_handler_cases with back | nowhere | chosen
  · exact of_runOn back takesStep_leave
  · exact takesStep_stays (congrArg Prod.snd nowhere)
  · obtain ⟨text, id, label, ran⟩ := chosen
    apply of_runOn ran
    rcases listing with
      ⟨catalogType, resellerId⟩ | ⟨catalogType, operatorId⟩ |
        ⟨catalogType, categoryId⟩
    · exact takesStep_of_lists
        (Listing.lists_choose_operator catalogType resellerId id)
        ⟨resellerId, text, label⟩
    · exact takesStep_of_lists
        (Listing.lists_choose_folder catalogType operatorId id)
        ⟨operatorId, text, label⟩
    · apply takesStep_choose_package
      refine .listed ⟨_, ?_, isState⟩ label
      cases catalogType <;> exact List.mem_cons_self

end Browsing

section Handlers

variable {shop : Shop} {visit : Visit ShopState ShopData}
variable {message : Message}

theorem takesStep_showCatalog :
    TakesStep shop
      ((CustomerOrders.showCatalogFromKeyboard shop).action
        (.message message)) visit :=
  takesStep_of_lists (Listing.lists_showOperators shop) rfl

theorem takesStep_showChargeCatalog :
    TakesStep shop
      ((CustomerCharge.showChargeCatalogFromKeyboard shop).action
        (.message message)) visit :=
  takesStep_of_lists (Listing.lists_showChargeOperators shop) rfl

/-- A step back or forth, once a package has been picked. -/
theorem takesStep_moves {catalogType : CatalogType} {state next : ShopState}
    (isState : visit.conversation.state = some state)
    (isPicked : state ∈ [pickedState catalogType, buyingState catalogType])
    (member : next ∈ screenStates catalogType) :
    TakesStep shop (setState next) visit :=
  takesStep_setState fun _ _ => onScreen_of_moved isState isPicked member

theorem isState_of_takes {state : ShopState}
    {test : Option ShopState → Message → Bool}
    (takes : inStateWith state test visit.conversation.state message = true) :
    visit.conversation.state = some state :=
  of_decide_eq_true (Bool.and_eq_true_iff.mp takes).1

theorem takesStep_packageDetailBack
    (takes : CustomerOrders.handlePackageDetailBack.takes
      visit.conversation.state (.message message) = true) :
    TakesStep shop
      (CustomerOrders.handlePackageDetailBack.action (.message message))
      visit :=
  @takesStep_moves _ _ .package _ _ (isState_of_takes takes) (by decide)
    (by decide)

theorem takesStep_cancelPhoneNumberEntry
    (takes : CustomerOrders.cancelPhoneNumberEntry.takes
      visit.conversation.state (.message message) = true) :
    TakesStep shop
      (CustomerOrders.cancelPhoneNumberEntry.action (.message message))
      visit :=
  @takesStep_moves _ _ .package _ _ (isState_of_takes takes) (by decide)
    (by decide)

theorem takesStep_chargeDetailBack
    (takes : CustomerCharge.handleChargeDetailBack.takes
      visit.conversation.state (.message message) = true) :
    TakesStep shop
      (CustomerCharge.handleChargeDetailBack.action (.message message))
      visit :=
  @takesStep_moves _ _ .charge _ _ (isState_of_takes takes) (by decide)
    (by decide)

theorem takesStep_buyButton
    (takes : CustomerOrders.handleBuyButton.takes
      visit.conversation.state (.message message) = true) :
    TakesStep shop (CustomerOrders.handleBuyButton.action (.message message))
      visit := by
  have moves : TakesStep shop (setState .enteringPhoneNumber) visit :=
    @takesStep_moves _ _ .package _ _ (isState_of_takes takes) (by decide)
      (by decide)
  cases found : visit.conversation.data.selectedPackageId with
  | none =>
      refine takesStep_of_eq ?_ .clears
      simp [CustomerOrders.handleBuyButton, onMessage, getData,
        Failing.runOn_bind, found, backToMainMenu, clear]
  | some packageId =>
      refine takesStep_of_eq ?_ moves.conversation
      simp [CustomerOrders.handleBuyButton, onMessage, getData,
        Failing.runOn_bind, found, setState]

theorem takesStep_buyChargeButton
    (takes : CustomerCharge.handleBuyChargeButton.takes
      visit.conversation.state (.message message) = true) :
    TakesStep shop
      (CustomerCharge.handleBuyChargeButton.action (.message message))
      visit := by
  have moves : TakesStep shop (setState .enteringQuantity) visit :=
    @takesStep_moves _ _ .charge _ _ (isState_of_takes takes) (by decide)
      (by decide)
  cases found : visit.conversation.data.selectedChargePackageId with
  | none =>
      refine takesStep_of_eq ?_ .clears
      simp [CustomerCharge.handleBuyChargeButton, onMessage, getData,
        Failing.runOn_bind, found, backToMainMenu, clear]
  | some packageId =>
      refine takesStep_of_eq ?_ moves.conversation
      simp [CustomerCharge.handleBuyChargeButton, onMessage, getData,
        Failing.runOn_bind, found, setState]

theorem takesStep_chargeQuantityBack
    (takes : CustomerCharge.handleChargeQuantityBack.takes
      visit.conversation.state (.message message) = true) :
    TakesStep shop
      (CustomerCharge.handleChargeQuantityBack.action (.message message))
      visit := by
  have moves : TakesStep shop (setState .productSelected) visit :=
    @takesStep_moves _ _ .charge _ _ (isState_of_takes takes) (by decide)
      (by decide)
  cases found : visit.conversation.data.selectedChargePackageId.any
      (isListed · visit.platform.db) with
  | false =>
      refine takesStep_of_eq ?_ .clears
      simp [CustomerCharge.handleChargeQuantityBack, onMessage, getData,
        Failing.runOn_bind, found, backToMainMenu, clear]
  | true =>
      refine takesStep_of_eq ?_ moves.conversation
      simp [CustomerCharge.handleChargeQuantityBack, onMessage, getData,
        Failing.runOn_bind, found, setState]

/-- The handlers with which customers browse. -/
def browsingHandlers (shop : Shop) : List ShopHandler :=
  [CustomerOrders.showCatalogFromKeyboard shop,
    CustomerOrders.handleOperatorPick,
    CustomerOrders.handleSubcategoryPick shop,
    CustomerOrders.handlePackagePick,
    CustomerOrders.handlePackageDetailBack, CustomerOrders.handleBuyButton,
    CustomerOrders.cancelPhoneNumberEntry,
    CustomerCharge.showChargeCatalogFromKeyboard shop,
    CustomerCharge.handleChargeOperatorPick,
    CustomerCharge.handleChargeSubcategoryPick,
    CustomerCharge.handleChargeProductPick,
    CustomerCharge.handleChargeDetailBack,
    CustomerCharge.handleBuyChargeButton,
    CustomerCharge.handleChargeQuantityBack]

/-- Every handler with which customers browse takes a step of browsing. -/
theorem takesStep_of_mem {handler : ShopHandler} {update : Update}
    (member : handler ∈ browsingHandlers shop)
    (takes : handler.takes visit.conversation.state update = true) :
    TakesStep shop (handler.action update) visit := by
  cases update with
  | callback callback =>
      simp only [browsingHandlers, List.mem_cons, List.not_mem_nil,
        or_false] at member
      rcases member with rfl | rfl | rfl | rfl | rfl | rfl | rfl | rfl | rfl |
        rfl | rfl | rfl | rfl | rfl <;>
        exact takesStep_stays rfl
  | message message =>
      have keyboard : ∀ listing : Listing,
          visit.conversation.state = some listing.state →
          TakesStep shop ((listing.handler shop).action (.message message))
            visit :=
        fun _ => takesStep_listing
      simp only [browsingHandlers, List.mem_cons, List.not_mem_nil,
        or_false] at member
      rcases member with rfl | rfl | rfl | rfl | rfl | rfl | rfl | rfl | rfl |
        rfl | rfl | rfl | rfl | rfl
      · exact takesStep_showCatalog
      · exact keyboard (.operators .package 0) (of_decide_eq_true takes)
      · exact keyboard (.folders .package 0) (of_decide_eq_true takes)
      · exact keyboard (.packages .package 0) (of_decide_eq_true takes)
      · exact takesStep_packageDetailBack takes
      · exact takesStep_buyButton takes
      · exact takesStep_cancelPhoneNumberEntry takes
      · exact takesStep_showChargeCatalog
      · exact keyboard (.operators .charge 0) (of_decide_eq_true takes)
      · exact keyboard (.folders .charge 0) (of_decide_eq_true takes)
      · exact keyboard (.packages .charge 0) (of_decide_eq_true takes)
      · exact takesStep_chargeDetailBack takes
      · exact takesStep_buyChargeButton takes
      · exact takesStep_chargeQuantityBack takes

end Handlers

section Others

/-- What the other handlers may touch. -/
def besidesBrowsing : ShopFootprint where
  tables := outsideCatalog.tables ++ [.categories, .packages]
  prices := true
  states := (ResellerOrders.footprint []).states ++
    (ResellerCatalog.footprint []).states ++
    (ResellerChargeStock.footprint []).states ++
    (ResellerWallet.footprint []).states ++
    (ResellerSettings.footprint []).states ++
    (ResellerPaymentMethods.footprint []).states ++
    (CustomerOrders.ordering []).states ++
    (CustomerWallet.footprint []).states
  others data :=
    { operatorMap := data.operatorMap
      subcategoryMap := data.subcategoryMap
      packageMap := data.packageMap
      selectedPackageId := data.selectedPackageId
      chargeOperatorMap := data.chargeOperatorMap
      chargeSubcategoryMap := data.chargeSubcategoryMap
      chargeProductMap := data.chargeProductMap
      selectedChargePackageId := data.selectedChargePackageId }

/-- A dialogue that has nothing to do with browsing. -/
theorem le_besidesBrowsing {footprint : ShopFootprint}
    (tables : footprint.tables ⊆ besidesBrowsing.tables)
    (states : footprint.states ⊆ besidesBrowsing.states)
    (others : ∀ data, besidesBrowsing.others (footprint.others data) =
      besidesBrowsing.others data) :
    footprint.Le besidesBrowsing where
  tables := tables
  prices := nofun
  states := states
  others first second same := by
    rw [← others first, ← others second, same]

/-- Every handler is one with which customers browse, or it leaves alone what
they browse. -/
theorem browsing_or_admits (shop : Shop) (isOwner : Int → Bool) :
    ∀ handler ∈ handlers shop isOwner,
      handler ∈ browsingHandlers shop ∨ besidesBrowsing.Admits handler := by
  have rest : ∀ {footprint : ShopFootprint} {router : List ShopHandler},
      (∀ handler ∈ router, footprint.Admits handler) →
      footprint.Le besidesBrowsing → ∀ handler ∈ router,
        handler ∈ browsingHandlers shop ∨ besidesBrowsing.Admits handler :=
    fun admits le handler member => .inr ((admits handler member).mono le)
  have orders : ∀ {tables : List TableName} {handler : ShopHandler},
      (CustomerOrders.ordering tables).Admits handler →
      tables ⊆ besidesBrowsing.tables → besidesBrowsing.Admits handler := by
    intro tables handler admits inside
    have states : (CustomerOrders.ordering []).states ⊆
        besidesBrowsing.states := by
      decide
    exact admits.mono (le_besidesBrowsing inside states fun _ => rfl)
  apply forall_handlers
  case staff =>
    apply forall_staffHandlers
    case start =>
      exact fun handler member =>
        .inr (ResellerStart.admits_router isOwner handler member)
    case orders =>
      exact rest (ResellerOrders.admits_router shop) (le_besidesBrowsing
        (by decide) (by decide) fun _ => rfl)
    case catalog =>
      exact rest (ResellerCatalog.admits_router shop) (le_besidesBrowsing
        (by decide) (by decide) fun _ => rfl)
    case chargeStock =>
      exact rest (ResellerChargeStock.admits_router shop) (le_besidesBrowsing
        (by decide) (by decide) fun _ => rfl)
    case wallet =>
      exact rest (ResellerWallet.admits_router shop) (le_besidesBrowsing
        (by decide) (by decide) fun _ => rfl)
    case settings =>
      exact rest (ResellerSettings.admits_router shop) (le_besidesBrowsing
        (by decide) (by decide) fun _ => rfl)
    case paymentMethods =>
      exact rest (ResellerPaymentMethods.admits_router shop)
        (le_besidesBrowsing (by decide) (by decide) fun _ => rfl)
    case shows => exact fun _ => .inr admits_onCallback_pure
    case lists => exact fun _ => .inr (admits_onMessage fun _ => within_pure ())
  case customerOrders =>
    simp only [CustomerOrders.router, List.forall_mem_cons, List.not_mem_nil,
      false_imp_iff, implies_true, and_true]
    exact ⟨.inr (orders (CustomerOrders.admits_customerCancel [])
        (by decide)),
      .inr (orders (CustomerOrders.admits_customerStart shop) (by decide)),
      .inr (admits_onMessage fun _ => within_pure ()),
      .inl (by simp [browsingHandlers]),
      .inl (by simp [browsingHandlers]),
      .inl (by simp [browsingHandlers]),
      .inl (by simp [browsingHandlers]),
      .inl (by simp [browsingHandlers]),
      .inl (by simp [browsingHandlers]),
      .inl (by simp [browsingHandlers]),
      .inr (orders (CustomerOrders.admits_receivePhoneNumberContact shop)
        (by decide)),
      .inr (orders (CustomerOrders.admits_receivePhoneNumberText shop)
        (by decide)),
      .inr (orders (CustomerOrders.admits_applyDiscountCode shop)
        (by decide)),
      .inr (orders (CustomerOrders.admits_receiveReceipt shop) (by decide))⟩
  case customerCharge =>
    simp only [CustomerCharge.router, List.forall_mem_cons, List.not_mem_nil,
      false_imp_iff, implies_true, and_true]
    exact ⟨.inl (by simp [browsingHandlers]),
      .inl (by simp [browsingHandlers]),
      .inl (by simp [browsingHandlers]),
      .inl (by simp [browsingHandlers]),
      .inl (by simp [browsingHandlers]),
      .inl (by simp [browsingHandlers]),
      .inl (by simp [browsingHandlers]),
      .inr (CustomerCharge.admits_handleChargeQuantityInput shop
        (by decide))⟩
  case customerWallet =>
    exact rest (CustomerWallet.admits_router shop) (le_besidesBrowsing
      (by decide) (by decide) fun _ => rfl)

variable {first second : ShopData} {catalogType : CatalogType}

/-- The other handlers leave the labels alone. -/
theorem labels_of_others
    (same : besidesBrowsing.others second = besidesBrowsing.others first)
    (listing : Listing) : listing.labels second = listing.labels first := by
  have labels : ∀ data, listing.labels data =
      listing.labels (besidesBrowsing.others data) := by
    intro data
    rcases listing with catalogType | catalogType | catalogType <;>
      cases catalogType <;> rfl
  rw [labels second, labels first, same]

theorem pickedId_of_others
    (same : besidesBrowsing.others second = besidesBrowsing.others first) :
    pickedId catalogType second = pickedId catalogType first := by
  have picked : ∀ data, pickedId catalogType data =
      pickedId catalogType (besidesBrowsing.others data) := by
    intro data
    cases catalogType <;> rfl
  rw [picked second, picked first, same]

/-- The other handlers bring nothing to the screen. -/
theorem onScreen_of_continues {before after : Conversation ShopState ShopData}
    {id : Nat} (continues : besidesBrowsing.Continues before after)
    (onScreen : OnScreen catalogType after id) :
    OnScreen catalogType before id := by
  obtain ⟨start, isStart, states, same⟩ := continues
  have kept : after.state = start.state := by
    rcases states with kept | ⟨state, member, isState⟩
    · exact kept
    · have outside : ∀ state ∈ besidesBrowsing.states, ∀ catalogType,
          state ∉ screenStates catalogType := by
        intro state member catalogType
        revert state
        cases catalogType <;> decide
      exact absurd onScreen
        (not_onScreen isState (outside state member catalogType))
  have wasOnScreen : OnScreen catalogType start id := by
    cases onScreen with
    | listed isState label =>
        rw [kept] at isState
        rw [labels_of_others same] at label
        exact .listed isState label
    | picked isState isPicked =>
        rw [kept] at isState
        rw [pickedId_of_others same] at isPicked
        exact .picked isState isPicked
  rcases isStart with rfl | rfl
  · exact wasOnScreen
  · exact absurd wasOnScreen not_onScreen_empty

end Others

end ShopBot

end Baste
