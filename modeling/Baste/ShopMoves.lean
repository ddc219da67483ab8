import Baste.CatalogDeletions
import Baste.ShopFootprints

/-!
# What the handlers of a shop do to orders and charge codes

Besides the messages that complete a purchase, the handlers of a shop write to
orders and charge codes in a few ways only: by service functions that create
no order, by changes of an order that leave its package, and by deletions in
the catalog.  A relation between databases that allows these holds between the
database before and after every handler.
-/

namespace Baste

open BotScripts Database

/-- The service function is one of a purchase. -/
def ServiceCall.createsOrders : ServiceCall → Bool
  | createOrder .. | createOrderPaidByWallet .. | purchaseCharge ..
  | purchaseChargeBulk .. => true
  | _ => false

/-- The relation holds whatever a handler does that completes no purchase. -/
structure AllowsHandlers (related : Db → Db → Prop) : Prop where
  outside : ∀ {tables : List TableName} {before after : Db},
    SameOutside tables before after → .orders ∉ tables →
      .chargeCodes ∉ tables → related before after
  deletion : ∀ {before after : Db},
    SameOutside [.categories, .packages, .chargeCodes] before after →
      (∀ id code, after.row .chargeCodes id = some code →
        before.row .chargeCodes id = some code) → related before after
  change : ∀ {db : Db} {id : Nat} {change : OrderRow → OrderRow},
    (∀ order, (change order).packageId = order.packageId) →
      related db (db.modify .orders id change)
  service : ∀ (call : ServiceCall) (db : Db), call.createsOrders = false →
    related db (call.runAlone db)

namespace ShopBot

section Scripts

variable {related : Db → Db → Prop}

/-- Whatever becomes of the script, the database afterwards is related to the
one before. -/
def MovesDb {Result : Type} (related : Db → Db → Prop)
    (script : ShopScript Result) : Prop :=
  script.Moves (fun visit => visit.platform.db) related

theorem MovesDb.ran {Result : Type} {script : ShopScript Result}
    (moves : MovesDb related script) (visit : Visit ShopState ShopData) :
    related visit.platform.db (script.runOn visit).2.platform.db :=
  moves visit

variable [Std.Refl related] {Result : Type} {script : ShopScript Result}

theorem movesDb_of_keeps
    (keeps : KeepsPlatform (fun platform => platform.db) script) :
    MovesDb related script :=
  keeps.moves

theorem movesDb_pure {value : Result} :
    MovesDb related (pure value : ShopScript Result) :=
  movesDb_of_keeps (Failing.keeps_pure value)

theorem movesDb_throw {error : HandlerError} :
    MovesDb related (throw error : ShopScript Result) :=
  movesDb_of_keeps (Failing.keeps_throw error)

theorem movesDb_clear : MovesDb related (clear : ShopScript Unit) :=
  movesDb_of_keeps keeps_clear

omit [Std.Refl related] in
theorem MovesDb.bind [IsTrans Db related] {Next : Type}
    {next : Result → ShopScript Next} (first : MovesDb related script)
    (rest : ∀ value, MovesDb related (next value)) :
    MovesDb related (script >>= next) :=
  Failing.Moves.bind first rest

theorem movesDb_bind [IsTrans Db related] {Next : Type}
    {next : Result → ShopScript Next}
    (keeps : KeepsPlatform (fun platform => platform.db) script)
    (rest : ∀ value, MovesDb related (next value)) :
    MovesDb related (script >>= next) :=
  (movesDb_of_keeps keeps).bind rest

omit [Std.Refl related] in
theorem movesDb_attempt {service : ServiceCall}
    (moves : ∀ db, related db (service.runAlone db)) :
    MovesDb related (attempt service : ShopScript _) := by
  intro visit
  dsimp only
  rw [db_attempt]
  exact moves _

omit [Std.Refl related] in
theorem movesDb_call {service : ServiceCall}
    (moves : ∀ db, related db (service.runAlone db)) :
    MovesDb related (call service : ShopScript _) := by
  intro visit
  dsimp only
  rw [db_call]
  exact moves _

theorem movesDb_onCallback {test : Option ShopState → String → Bool}
    {action : Callback → ShopScript Unit} {update : Update}
    (moves : ∀ callback, MovesDb related (action callback)) :
    MovesDb related ((onCallback test action).action update) := by
  cases update with
  | message _ => exact movesDb_pure
  | callback callback => exact moves callback

theorem movesDb_onMessage {test : Option ShopState → Message → Bool}
    {action : Message → ShopScript Unit} {update : Update}
    (moves : ∀ message, MovesDb related (action message)) :
    MovesDb related ((onMessage test action).action update) := by
  cases update with
  | message message => exact moves message
  | callback _ => exact movesDb_pure

end Scripts

/-- A handler that writes to neither orders nor charge codes. -/
theorem movesDb_of_admits {related : Db → Db → Prop}
    (allows : AllowsHandlers related) {footprint : ShopFootprint}
    {handler : ShopHandler} (admits : footprint.Admits handler)
    (noOrders : .orders ∉ footprint.tables)
    (noCodes : .chargeCodes ∉ footprint.tables) (update : Update) :
    MovesDb related (handler.action update) :=
  fun visit => allows.outside (admits update visit).rows noOrders noCodes

namespace ResellerCatalog

section Deletions

variable {db after : Db}

/-- Charge codes may disappear, and nothing else happens to them. -/
def CodesOnlyGo (before after : Db) : Prop :=
  ∀ id code, after.row .chargeCodes id = some code →
    before.row .chargeCodes id = some code

theorem codesOnlyGo_deletePackages {packageIds : List Nat}
    (deleted : deletePackages packageIds db = some after) :
    CodesOnlyGo db after := by
  unfold deletePackages at deleted
  split at deleted
  · cases deleted
    intro id code found
    rw [row_erase_of_ne (by decide)] at found
    by_cases gone : id ∈ db.idsWhere .chargeCodes (·.packageId ∈ packageIds)
    · rw [row_erase_of_mem gone] at found
      cases found
    · rwa [row_erase_of_notMem gone] at found
  · cases deleted

theorem codesOnlyGo_deleteCategories {categoryIds : List Nat}
    (deleted : deleteCategories categoryIds db = some after) :
    CodesOnlyGo db after := by
  obtain ⟨between, packages, rfl⟩ := Option.map_eq_some_iff.mp deleted
  intro id code found
  apply codesOnlyGo_deletePackages packages id code
  rw [row_erase_of_ne (by decide)] at found
  rw [← found]
  exact ((sameOutside_releaseFolders _ between).rows .chargeCodes
    (by decide) id).symm

theorem codesOnlyGo_deleteOperatorTree {operatorId : Nat}
    (deleted : deleteOperatorTree operatorId db = some after) :
    CodesOnlyGo db after := by
  rcases of_deleteOperatorTree deleted with
    alone | ⟨first, second, subIds, packages, categories, last⟩
  · exact codesOnlyGo_deleteCategories alone
  · intro id code found
    apply codesOnlyGo_deletePackages packages
    apply codesOnlyGo_deleteCategories categories
    exact codesOnlyGo_deleteCategories last id code found

theorem codesOnlyGo_deleteSubcategoryTree {subcategoryId : Nat}
    (deleted : deleteSubcategoryTree subcategoryId db = some after) :
    CodesOnlyGo db after := by
  obtain ⟨between, packages, categories⟩ :=
    Option.bind_eq_some_iff.mp deleted
  intro id code found
  apply codesOnlyGo_deletePackages packages
  exact codesOnlyGo_deleteCategories categories id code found

end Deletions

end ResellerCatalog

section Handlers

variable {related : Db → Db → Prop} [Std.Refl related] [IsTrans Db related]
variable {shop : Shop} {update : Update}

/-- A decision about an order that the callback data names. -/
theorem movesDb_decision (allows : AllowsHandlers related) {start : String}
    {service : Nat → ServiceCall}
    (existing : ∀ id, (service id).createsOrders = false) :
    MovesDb related
      ((ResellerOrders.onPermitted shop (dataStarts start) fun callback => do
        let number ← integerField callback 1
        let _ ← call (service (rowId number))).action update) := by
  apply movesDb_onCallback
  intro callback
  refine movesDb_bind (keeps_query _) fun permitted => ?_
  split
  · refine movesDb_bind (keeps_integerField _ _) fun number => ?_
    have decides := movesDb_call fun db =>
      allows.service (service (rowId number)) db (existing _)
    exact decides.bind fun _ => movesDb_pure
  · exact movesDb_pure

theorem movesDb_submitDisputeReason (allows : AllowsHandlers related) :
    MovesDb related (ResellerOrders.submitDisputeReason.action update) := by
  apply movesDb_onMessage
  intro message
  refine movesDb_bind keeps_getData fun data => ?_
  refine movesDb_bind (keeps_required _ _) fun orderId => ?_
  refine movesDb_bind (keeps_query _) fun found => ?_
  refine movesDb_bind (keeps_required _ _) fun order => ?_
  have created : MovesDb related (ResellerOrders.createDispute (rowId orderId)
      order.resellerId message.text) := by
    cases message.text with
    | some reason =>
        have disputes := movesDb_call fun db => allows.service
          (.createDispute (rowId orderId) order.resellerId reason) db rfl
        exact disputes.bind fun _ => movesDb_pure
    | none =>
        have changes : MovesDb related (executeWrite (·.modify .orders
            (rowId orderId) (·.withStatus .refundPending))) :=
          Failing.moves_modify fun _ => allows.change fun _ => rfl
        exact changes.bind fun _ => movesDb_throw
  exact created.bind fun _ => movesDb_clear

theorem movesDb_deleteConfirmed {start : String}
    {delete : Nat → Db → Option Db}
    (moves : ∀ id db after, delete id db = some after → related db after) :
    MovesDb related ((ResellerCatalog.deleteConfirmed start delete).action
      update) := by
  apply movesDb_onCallback
  intro callback
  have names : MovesDb related (ResellerCatalog.typeAndId callback) :=
    (movesDb_bind (keeps_dataField _ _)) fun _ =>
      (movesDb_bind (keeps_integerField _ _)) fun _ => movesDb_pure
  apply names.bind
  intro named visit
  dsimp only
  rw [ResellerCatalog.visit_inTransaction]
  dsimp only
  cases deleted : delete (rowId named.2) visit.platform.db with
  | none => exact Std.Refl.refl _
  | some after => exact moves _ _ after deleted

/-- The handlers of the catalog. -/
theorem movesDb_catalog (allows : AllowsHandlers related) :
    ∀ handler ∈ ResellerCatalog.router shop, ∀ update,
      MovesDb related (handler.action update) := by
  open ResellerCatalog in
  intro handler member update
  rcases folderHandler_or_deletes_or_admits shop handler member with
    folder | rfl | beside
  · simp only [folderHandlers, List.mem_cons, List.not_mem_nil,
      or_false] at folder
    rcases folder with rfl | rfl | rfl | rfl | rfl | rfl
    · exact movesDb_of_admits allows (admits_receiveOperatorNameAndSave shop)
        (by decide) (by decide) update
    · exact movesDb_of_admits allows (admits_receiveSubcategoryTitleAndSave shop)
        (by decide) (by decide) update
    · exact movesDb_of_admits allows admits_saveOperatorNameEdit (by decide)
        (by decide) update
    · exact movesDb_of_admits allows admits_saveSubcategoryTitleEdit (by decide)
        (by decide) update
    · exact movesDb_deleteConfirmed fun id db after deleted =>
        allows.deletion (deletes_deleteOperatorTree id db after deleted)
          (codesOnlyGo_deleteOperatorTree deleted)
    · exact movesDb_deleteConfirmed fun id db after deleted =>
        allows.deletion (deletes_deleteSubcategoryTree id db after deleted)
          (codesOnlyGo_deleteSubcategoryTree deleted)
  · exact movesDb_deleteConfirmed fun id db after deleted =>
      allows.deletion ((deletes_deletePackage id db after deleted).mono
        (List.subset_cons_self _ _)) (codesOnlyGo_deletePackages deleted)
  · exact movesDb_of_admits allows beside (by decide) (by decide) update

/-- The handlers of the stock. -/
theorem movesDb_chargeStock (allows : AllowsHandlers related) :
    ∀ handler ∈ ResellerChargeStock.router shop, ∀ update,
      MovesDb related (handler.action update) := by
  open ResellerChargeStock in
  have rest : ∀ {handler : ShopHandler}, (footprint []).Admits handler →
      ∀ update, MovesDb related (handler.action update) :=
    fun admits => movesDb_of_admits allows admits (by decide) (by decide)
  have calls : ∀ service : ServiceCall, service.createsOrders = false →
      MovesDb related (call service : ShopScript _) :=
    fun service existing =>
      movesDb_call fun db => allows.service service db existing
  simp only [router, List.forall_mem_cons, List.not_mem_nil, false_imp_iff,
    implies_true, and_true]
  refine ⟨rest admits_onCallback_pure, rest (admits_pickOperatorForAction _),
    rest (admits_pickCategoryForAction _),
    rest (admits_pickProductForAction _), rest (admits_actOnProduct _),
    fun update => ?upload, fun update => ?delete, fun update => ?clear⟩
  case upload =>
    apply movesDb_onMessage
    intro message
    refine movesDb_bind keeps_getData fun data => ?_
    split
    · split
      · apply (calls _ rfl).bind
        intro added
        split
        · exact movesDb_clear
        · exact movesDb_pure
      · exact movesDb_pure
    · exact movesDb_pure
  case delete =>
    apply movesDb_onCallback
    intro callback
    refine movesDb_bind (keeps_integerField _ _) fun codeId => ?_
    refine movesDb_bind (keeps_integerField _ _) fun page => ?_
    exact (calls _ rfl).bind fun _ => movesDb_pure
  case clear =>
    apply movesDb_onCallback
    intro callback
    refine movesDb_bind (keeps_integerField _ _) fun packageId => ?_
    exact (calls _ rfl).bind fun _ => movesDb_pure

theorem movesDb_applyDiscountCode (allows : AllowsHandlers related) :
    MovesDb related
      ((CustomerOrders.applyDiscountCode shop).action update) := by
  apply movesDb_onMessage
  intro message
  refine movesDb_bind (keeps_required _ _) fun text => ?_
  refine movesDb_bind (keeps_required _ _) fun rest => ?_
  refine movesDb_bind keeps_getData fun data => ?_
  refine movesDb_bind (keeps_query _) fun order => ?_
  refine movesDb_bind (keeps_query _) fun found => ?_
  split
  · exact movesDb_pure
  · exact movesDb_throw
  · refine movesDb_bind (keeps_required _ _) fun order => ?_
    have priced : ∀ {id : Nat} {price : Cents},
        MovesDb related (executeWrite (·.modify .orders id fun order =>
          { order with packagePrice := price }) : ShopScript Unit) :=
      Failing.moves_modify fun _ => allows.change fun _ => rfl
    apply priced.bind
    intro _
    exact Failing.moves_modify fun visit =>
      @AllowsHandlers.outside _ allows [.discountCodes] _ _
        (.modify (by decide)) (by decide) (by decide)

theorem movesDb_receiveReceipt (allows : AllowsHandlers related) :
    MovesDb related ((CustomerOrders.receiveReceipt shop).action update) := by
  apply movesDb_onMessage
  intro message
  refine movesDb_bind (keeps_required _ _) fun receiptFileId => ?_
  refine movesDb_bind keeps_getData fun data => ?_
  refine movesDb_bind (keeps_required _ _) fun orderId => ?_
  have submits := movesDb_attempt fun db =>
    allows.service (.submitReceipt shop.config orderId receiptFileId) db rfl
  apply submits.bind
  intro outcome
  split
  · exact movesDb_clear
  · exact movesDb_clear
  · exact movesDb_pure
  · exact movesDb_throw

/-- The handlers before those of the phone number. -/
def earlierHandlers (shop : Shop) (isOwner : Int → Bool) :
    List ShopHandler :=
  staffHandlers shop isOwner ++
    [CustomerOrders.customerCancel, CustomerOrders.customerStart shop,
      CustomerOrders.showSupportFromKeyboard,
      CustomerOrders.showCatalogFromKeyboard shop,
      CustomerOrders.handleOperatorPick,
      CustomerOrders.handleSubcategoryPick shop,
      CustomerOrders.handlePackagePick,
      CustomerOrders.handlePackageDetailBack, CustomerOrders.handleBuyButton,
      CustomerOrders.cancelPhoneNumberEntry]

/-- The handlers between those of the phone number and the quantity. -/
def middleHandlers (shop : Shop) : List ShopHandler :=
  [CustomerOrders.applyDiscountCode shop, CustomerOrders.receiveReceipt shop,
    CustomerCharge.showChargeCatalogFromKeyboard shop,
    CustomerCharge.handleChargeOperatorPick,
    CustomerCharge.handleChargeSubcategoryPick,
    CustomerCharge.handleChargeProductPick,
    CustomerCharge.handleChargeDetailBack,
    CustomerCharge.handleBuyChargeButton,
    CustomerCharge.handleChargeQuantityBack]

theorem handlers_eq (isOwner : Int → Bool) :
    handlers shop isOwner = earlierHandlers shop isOwner ++
      (CustomerOrders.receivePhoneNumberContact shop ::
        CustomerOrders.receivePhoneNumberText shop ::
          (middleHandlers shop ++
            (CustomerCharge.handleChargeQuantityInput shop ::
              CustomerWallet.router shop))) :=
  rfl

theorem movesDb_earlier (allows : AllowsHandlers related)
    (isOwner : Int → Bool) :
    ∀ handler ∈ earlierHandlers shop isOwner, ∀ update,
      MovesDb related (handler.action update) := by
  have rest : ∀ {footprint : ShopFootprint} {handler : ShopHandler},
      footprint.Admits handler → .orders ∉ footprint.tables →
        .chargeCodes ∉ footprint.tables →
          ∀ update, MovesDb related (handler.action update) :=
    movesDb_of_admits allows
  simp only [earlierHandlers, List.forall_mem_append]
  refine ⟨?staff, ?customers⟩
  case staff =>
    apply forall_staffHandlers
    case start =>
      exact fun handler member => rest
        (@ResellerStart.admits_router (ResellerChargeStock.footprint []) isOwner
          handler member) (by decide) (by decide)
    case orders =>
      simp only [ResellerOrders.router, List.forall_mem_cons, List.not_mem_nil,
        false_imp_iff, implies_true, and_true]
      exact ⟨rest (@ResellerOrders.admits_onPermitted shop [] _ _
          fun _ => within_pure _) (by decide) (by decide),
        fun _ => movesDb_decision allows fun _ => rfl,
        fun _ => movesDb_decision allows fun _ => rfl,
        fun _ => movesDb_decision allows fun _ => rfl,
        rest (ResellerOrders.admits_confirmWalletTopup shop) (by decide)
          (by decide),
        rest (ResellerOrders.admits_rejectWalletTopup shop) (by decide)
          (by decide),
        rest (ResellerOrders.admits_openDispute shop []) (by decide)
          (by decide),
        fun _ => movesDb_submitDisputeReason allows⟩
    case catalog => exact movesDb_catalog allows
    case chargeStock => exact movesDb_chargeStock allows
    case wallet =>
      exact fun handler member => rest
        (ResellerWallet.admits_router shop handler member) (by decide)
          (by decide)
    case settings =>
      exact fun handler member => rest
        (ResellerSettings.admits_router shop handler member) (by decide)
          (by decide)
    case paymentMethods =>
      exact fun handler member => rest
        (ResellerPaymentMethods.admits_router shop handler member) (by decide)
          (by decide)
    case shows => exact fun _ _ => movesDb_onCallback fun _ => movesDb_pure
    case lists => exact fun _ _ => movesDb_onMessage fun _ => movesDb_pure
  case customers =>
    simp only [List.forall_mem_cons, List.not_mem_nil, false_imp_iff,
      implies_true, and_true]
    exact ⟨rest (CustomerOrders.admits_customerCancel []) (by decide)
        (by decide),
      rest (CustomerOrders.admits_customerStart shop) (by decide)
        (by decide),
      fun _ => movesDb_onMessage fun _ => movesDb_pure,
      rest (CustomerOrders.admits_showCatalogFromKeyboard shop [])
        (by decide) (by decide),
      rest (CustomerOrders.admits_handleOperatorPick []) (by decide)
        (by decide),
      rest (CustomerOrders.admits_handleSubcategoryPick shop []) (by decide)
        (by decide),
      rest (CustomerOrders.admits_handlePackagePick []) (by decide)
        (by decide),
      rest (CustomerOrders.admits_handlePackageDetailBack []) (by decide)
        (by decide),
      rest (CustomerOrders.admits_handleBuyButton []) (by decide)
        (by decide),
      rest (CustomerOrders.admits_cancelPhoneNumberEntry []) (by decide)
        (by decide)⟩

theorem movesDb_middle (allows : AllowsHandlers related) :
    ∀ handler ∈ middleHandlers shop, ∀ update,
      MovesDb related (handler.action update) := by
  have rest : ∀ {handler : ShopHandler},
      (CustomerCharge.footprint []).Admits handler →
        ∀ update, MovesDb related (handler.action update) :=
    fun admits => movesDb_of_admits allows admits (by decide) (by decide)
  simp only [middleHandlers, List.forall_mem_cons, List.not_mem_nil,
    false_imp_iff, implies_true, and_true]
  exact ⟨fun _ => movesDb_applyDiscountCode allows,
    fun _ => movesDb_receiveReceipt allows,
    rest (CustomerCharge.admits_showChargeCatalogFromKeyboard shop []),
    rest (CustomerCharge.admits_handleChargeOperatorPick []),
    rest (CustomerCharge.admits_handleChargeSubcategoryPick []),
    rest (CustomerCharge.admits_handleChargeProductPick []),
    rest (CustomerCharge.admits_handleChargeDetailBack []),
    rest (CustomerCharge.admits_handleBuyChargeButton []),
    rest (CustomerCharge.admits_handleChargeQuantityBack [])⟩

omit [Std.Refl related] [IsTrans Db related] in
/-- The action of a list of handlers that all move along the relation. -/
theorem movesDb_of_dispatch {handlers : List ShopHandler}
    {state : Option ShopState} {script : ShopScript Unit}
    (moves : ∀ handler ∈ handlers, ∀ update,
      MovesDb related (handler.action update))
    (found : Handler.dispatch handlers state update = some script) :
    MovesDb related script :=
  Handler.of_dispatch (fun handler member _ => moves handler member update)
    found

theorem purchase_or_movesDb_of_rest (allows : AllowsHandlers related)
    {state : Option ShopState} {script : ShopScript Unit}
    (found : Handler.dispatch (middleHandlers shop ++
      (CustomerCharge.handleChargeQuantityInput shop ::
        CustomerWallet.router shop)) state update = some script) :
    MovesDb related script ∨
      ((CustomerCharge.handleChargeQuantityInput shop).takes state update =
          true ∧
        script = (CustomerCharge.handleChargeQuantityInput shop).action
          update) := by
  cases middle : Handler.dispatch (middleHandlers shop) state update with
  | some first =>
      cases (Handler.dispatch_append_of_some middle).symm.trans found
      exact .inl (movesDb_of_dispatch (movesDb_middle allows) middle)
  | none =>
      rw [Handler.dispatch_append_of_none middle] at found
      cases quantity : (CustomerCharge.handleChargeQuantityInput shop).takes
          state update with
      | true =>
          cases (Handler.dispatch_cons_of_takes quantity).symm.trans found
          exact .inr ⟨rfl, rfl⟩
      | false =>
          rw [Handler.dispatch_cons_of_not_takes quantity] at found
          refine .inl (movesDb_of_dispatch (fun handler member => ?_) found)
          exact movesDb_of_admits allows
            (CustomerWallet.admits_router shop handler member) (by decide)
              (by decide)

/-- The script of an update moves along the relation, or it is that of one of
the messages that complete a purchase. -/
theorem purchase_or_movesDb (allows : AllowsHandlers related)
    {isOwner : Int → Bool} {state : Option ShopState}
    {script : ShopScript Unit}
    (found : Handler.dispatch (handlers shop isOwner) state update =
      some script) :
    MovesDb related script ∨
      ((CustomerOrders.receivePhoneNumberContact shop).takes state update =
          true ∧
        script = (CustomerOrders.receivePhoneNumberContact shop).action
          update) ∨
      ((CustomerOrders.receivePhoneNumberContact shop).takes state update =
          false ∧
        (CustomerOrders.receivePhoneNumberText shop).takes state update =
          true ∧
        script = (CustomerOrders.receivePhoneNumberText shop).action update) ∨
      ((CustomerCharge.handleChargeQuantityInput shop).takes state update =
          true ∧
        script = (CustomerCharge.handleChargeQuantityInput shop).action
          update) := by
  rw [handlers_eq] at found
  cases early : Handler.dispatch (earlierHandlers shop isOwner) state
      update with
  | some first =>
      cases (Handler.dispatch_append_of_some early).symm.trans found
      exact .inl (movesDb_of_dispatch (movesDb_earlier allows isOwner) early)
  | none =>
      rw [Handler.dispatch_append_of_none early] at found
      cases contact : (CustomerOrders.receivePhoneNumberContact shop).takes
          state update with
      | true =>
          cases (Handler.dispatch_cons_of_takes contact).symm.trans found
          exact .inr (.inl ⟨rfl, rfl⟩)
      | false =>
          rw [Handler.dispatch_cons_of_not_takes contact] at found
          cases text : (CustomerOrders.receivePhoneNumberText shop).takes
              state update with
          | true =>
              cases (Handler.dispatch_cons_of_takes text).symm.trans found
              exact .inr (.inr (.inl ⟨rfl, rfl, rfl⟩))
          | false =>
              rw [Handler.dispatch_cons_of_not_takes text] at found
              exact (purchase_or_movesDb_of_rest allows found).imp_right
                fun charge => .inr (.inr charge)

end Handlers

end ShopBot

end Baste
