import Baste.ShopCommands

/-!
# The buttons of a reseller's panel

No callback data is taken by two handlers of a reseller's bot, so that the
order of its routers does not matter for callback queries.  The data of a
command is taken by the handler of the command, which reads back the arguments
that were written: pressing a button does what the command says, in every
state of the conversation.
-/

namespace Baste

open BotScripts

namespace ShopBot

section Routes

def startRoutes : List (TextRoute Char) :=
  [.nothing, .nothing, .exactly "rmenu:home".toList]

def ordersRoutes : List (TextRoute Char) :=
  [.exactly "rmenu:orders".toList, .starting "approve_receipt:".toList,
    .starting "reject_receipt:".toList, .starting "activate_order:".toList,
    .starting "wallet_topup_confirm:".toList,
    .starting "wallet_topup_reject:".toList,
    .starting "open_dispute:".toList, .nothing]

def catalogRoutes : List (TextRoute Char) :=
  [.exactly "rmenu:catalog".toList, .starting "catalog:menu:".toList,
    .starting "catalog:view:".toList,
    .starting "catalog:add_operator:".toList, .nothing,
    .starting "catalog:add_subcategory:".toList,
    .starting "catalog:pick_operator_for_sub:".toList, .nothing,
    .starting "catalog:add_package:".toList,
    .starting "catalog:pick_operator_for_pkg:".toList,
    .starting "catalog:pick_category:".toList, .nothing, .nothing,
    .starting "price_confirm:".toList, .starting "price_edit:".toList,
    .nothing, .starting "catalog:manage:".toList,
    .starting "catalog:manage_op:".toList,
    .starting "catalog:manage_sub:".toList,
    .starting "catalog:manage_pkg:".toList,
    .starting "catalog:edit_op_name:".toList, .nothing,
    .starting "catalog:edit_sub_title:".toList, .nothing,
    .starting "catalog:edit_pkg_name:".toList, .nothing,
    .starting "catalog:edit_pkg_price:".toList, .nothing,
    .starting "pkgedit_price_confirm:".toList,
    .starting "pkgedit_price_edit:".toList,
    .starting "catalog:edit_pkg_cost:".toList, .nothing,
    .starting "catalog:toggle_pkg:".toList,
    .starting "catalog:del_op:".toList,
    .starting "catalog:del_op_yes:".toList,
    .starting "catalog:del_op_no:".toList,
    .starting "catalog:del_sub:".toList,
    .starting "catalog:del_sub_yes:".toList,
    .starting "catalog:del_sub_no:".toList,
    .starting "catalog:del_pkg:".toList,
    .starting "catalog:del_pkg_yes:".toList,
    .starting "catalog:del_pkg_no:".toList]

def chargeStockRoutes : List (TextRoute Char) :=
  [.exactly "rmenu:charge_stock".toList, .starting "cstock:pick:".toList,
    .starting "cstock:op:".toList, .starting "cstock:cat:".toList,
    .starting "cstock:prod:".toList, .nothing,
    .starting "cstock:delcode:".toList, .starting "cstock:clearall:".toList]

def walletRoutes : List (TextRoute Char) :=
  [.exactly "rmenu:wallet".toList, .exactly "wallet:topup_card".toList,
    .nothing, .exactly "wallet:topup_zarinpal".toList, .nothing,
    .exactly "wallet:topup_crypto".toList, .nothing, .nothing, .nothing]

def settingsRoutes : List (TextRoute Char) :=
  [.exactly "rmenu:settings".toList,
    .starting "settings:referral_set:".toList,
    .exactly "settings:referral_percent".toList, .nothing,
    .exactly "settings:add_channel".toList, .nothing,
    .exactly "settings:add_discount".toList, .nothing, .nothing, .nothing,
    .exactly "settings:set_support_contact".toList, .nothing]

def reportsRoutes : List (TextRoute Char) :=
  [.exactly "rmenu:reports".toList, .exactly "reports:excel".toList]

def statsRoutes : List (TextRoute Char) :=
  [.exactly "rmenu:stats".toList]

def paymentMethodsRoutes : List (TextRoute Char) :=
  [.exactly "rmenu:payment_methods".toList, .exactly "pm:list_cards".toList,
    .starting "pm:toggle_card:".toList, .starting "pm:remove_card:".toList,
    .exactly "pm:add_card".toList, .nothing, .nothing, .nothing,
    .exactly "pm:set_zarinpal".toList, .nothing]

/-- The routers of the customers and the operators take messages only. -/
def callbackRoutes : List (TextRoute Char) :=
  startRoutes ++ ordersRoutes ++ catalogRoutes ++ chargeStockRoutes ++
    walletRoutes ++ settingsRoutes ++ reportsRoutes ++ statsRoutes ++
    paymentMethodsRoutes ++
    List.replicate 28 .nothing

theorem apart_callbackRoutes :
    callbackRoutes.Pairwise fun first second => first.apart second = true := by
  simp only [callbackRoutes, startRoutes, ordersRoutes, catalogRoutes,
    chargeStockRoutes, walletRoutes, settingsRoutes, reportsRoutes,
    statsRoutes, paymentMethodsRoutes, String.reduceToList]
  decide +kernel

variable {shop : Shop} {isOwner : Int → Bool} {state : Option ShopState}
variable {callback : Callback}

theorem follow_handlers :
    List.Forall₂ (FollowsData state callback) (handlers shop isOwner)
      callbackRoutes := by
  simp only [handlers, ResellerStart.router, ResellerOrders.router,
    ResellerCatalog.router, ResellerChargeStock.router, ResellerWallet.router,
    ResellerSettings.router, ResellerReports.router, ResellerStats.router,
    ResellerPaymentMethods.router, OperatorOrders.router,
    CustomerOrders.router, CustomerCharge.router, CustomerWallet.router,
    List.cons_append, List.nil_append, callbackRoutes, startRoutes,
    ordersRoutes, catalogRoutes, chargeStockRoutes, walletRoutes,
    settingsRoutes, reportsRoutes, statsRoutes, paymentMethodsRoutes]
  repeat' apply List.Forall₂.cons
  all_goals first
    | exact follows_dataStarts
    | exact follows_dataIs
    | exact follows_onMessage
    | exact List.Forall₂.nil

/-- No callback query is taken by two handlers. -/
theorem unambiguous_callback :
    Handler.Unambiguous (handlers shop isOwner) state (.callback callback) :=
  Handler.unambiguous_of_follows follow_handlers apart_callbackRoutes

end Routes

section Commands

variable {shop : Shop} {isOwner : Int → Bool} {sender chat : Int}
variable {handler : ShopHandler} {command : ShopCommand}

theorem mem_handlers :
    handler ∈ handlers shop isOwner ↔
      handler ∈ ResellerStart.router isOwner ∨
      handler ∈ ResellerOrders.router shop ∨
      handler ∈ ResellerCatalog.router shop ∨
      handler ∈ ResellerChargeStock.router shop ∨
      handler ∈ ResellerWallet.router shop ∨
      handler ∈ ResellerSettings.router shop ∨
      handler ∈ ResellerReports.router ∨ handler ∈ ResellerStats.router ∨
      handler ∈ ResellerPaymentMethods.router shop ∨
      handler ∈ OperatorOrders.router shop ∨
      handler ∈ CustomerOrders.router shop ∨
      handler ∈ CustomerCharge.router shop ∨
      handler ∈ CustomerWallet.router shop := by
  simp only [handlers, List.mem_append, or_assoc]

/-- The handler takes the data of the command, in every state, and does what
the command says. -/
structure Handles (shop : Shop) (sender chat : Int) (command : ShopCommand)
    (handler : ShopHandler) : Prop where
  takes : ∀ state,
    handler.takes state (.callback ⟨sender, chat, command.data⟩) = true
  does : handler.action (.callback ⟨sender, chat, command.data⟩) =
    perform shop sender command

theorem Handles.of_dataIs {text : String}
    {action : Callback → ShopScript Unit} (same : command.data = text)
    (does : action ⟨sender, chat, command.data⟩ =
      perform shop sender command) :
    Handles shop sender chat command (onCallback (dataIs text) action) :=
  ⟨fun _ => decide_eq_true same, does⟩

theorem Handles.of_dataStarts {start : String}
    {action : Callback → ShopScript Unit} (first rest : List FieldText)
    (fields : command.fields = first ++ rest)
    (isStart : fieldData first ++ ":" = start) (some_ : first ≠ [])
    (more : rest ≠ [])
    (does : action ⟨sender, chat, command.data⟩ =
      perform shop sender command) :
    Handles shop sender chat command (onCallback (dataStarts start) action) where
  takes state := by
    change dataStarts start state (fieldData command.fields) = true
    rw [fields]
    exact dataStarts_fieldData isStart some_ more state
  does := does

/-- Callback data with a text and an id. -/
theorem typeAndId_fieldData {first second type : FieldText} {id : Nat} :
    ResellerCatalog.typeAndId
        ⟨sender, chat, fieldData [first, second, type, .ofNat id]⟩ =
      pure (type.val, (id : Int)) := by
  rw [ResellerCatalog.typeAndId, @dataField_fieldData _ _ _ _ _ _ type rfl,
    @integerField_fieldData _ _ _ _ _ _ id rfl]
  rfl

theorem actionAndId_fieldData {first second action : FieldText} {id : Nat} :
    ResellerChargeStock.actionAndId
        ⟨sender, chat, fieldData [first, second, action, .ofNat id]⟩ =
      pure (action.val, (id : Int)) :=
  typeAndId_fieldData

theorem handles_page (shown : PanelPage) :
    ∃ handler ∈ handlers shop isOwner,
      Handles shop sender chat (.page shown) handler := by
  cases shown with
  | home =>
      exact ⟨ResellerStart.backHome, mem_handlers.mpr (by simp [ResellerStart.router]),
        .of_dataIs rfl rfl⟩
  | catalog =>
      exact ⟨ResellerCatalog.catalogTypeMenuCb,
        mem_handlers.mpr (by simp [ResellerCatalog.router]), .of_dataIs rfl rfl⟩
  | orders =>
      refine ⟨ResellerOrders.listPendingOrdersCb shop,
        mem_handlers.mpr (by simp [ResellerOrders.router]), .of_dataIs rfl ?_⟩
      simp only [ite_self]
      rfl
  | wallet =>
      exact ⟨ResellerWallet.walletMenu,
        mem_handlers.mpr (by simp [ResellerWallet.router]), .of_dataIs rfl rfl⟩
  | paymentMethods =>
      exact ⟨ResellerPaymentMethods.paymentMethodsMenu,
        mem_handlers.mpr (by simp [ResellerPaymentMethods.router]), .of_dataIs rfl rfl⟩
  | settings =>
      exact ⟨ResellerSettings.settingsMenu shop,
        mem_handlers.mpr (by simp [ResellerSettings.router]), .of_dataIs rfl rfl⟩
  | reports =>
      exact ⟨ResellerReports.showReportCb,
        mem_handlers.mpr (by simp [ResellerReports.router]), .of_dataIs rfl rfl⟩
  | stats =>
      exact ⟨ResellerStats.showStatsCb,
        mem_handlers.mpr (by simp [ResellerStats.router]), .of_dataIs rfl rfl⟩
  | chargeStock =>
      exact ⟨ResellerChargeStock.chargeStockMenuCb,
        mem_handlers.mpr (by simp [ResellerChargeStock.router]), .of_dataIs rfl rfl⟩

theorem handles_item (chosen : PanelItem) :
    ∃ handler ∈ handlers shop isOwner,
      Handles shop sender chat (.item chosen) handler := by
  cases chosen with
  | topupCard =>
      exact ⟨ResellerWallet.startTopupCard,
        mem_handlers.mpr (by simp [ResellerWallet.router]), .of_dataIs rfl rfl⟩
  | topupZarinpal =>
      exact ⟨ResellerWallet.startTopupZarinpal,
        mem_handlers.mpr (by simp [ResellerWallet.router]), .of_dataIs rfl rfl⟩
  | topupCrypto =>
      exact ⟨ResellerWallet.showCryptoOptions,
        mem_handlers.mpr (by simp [ResellerWallet.router]), .of_dataIs rfl rfl⟩
  | listCards =>
      exact ⟨ResellerPaymentMethods.listCardsCb,
        mem_handlers.mpr (by simp [ResellerPaymentMethods.router]), .of_dataIs rfl rfl⟩
  | addCard =>
      exact ⟨ResellerPaymentMethods.startAddCard,
        mem_handlers.mpr (by simp [ResellerPaymentMethods.router]), .of_dataIs rfl rfl⟩
  | setZarinpal =>
      exact ⟨ResellerPaymentMethods.showZarinpal,
        mem_handlers.mpr (by simp [ResellerPaymentMethods.router]), .of_dataIs rfl rfl⟩
  | referralPercent =>
      exact ⟨ResellerSettings.startReferralPercent,
        mem_handlers.mpr (by simp [ResellerSettings.router]), .of_dataIs rfl rfl⟩
  | addChannel =>
      exact ⟨ResellerSettings.startAddChannel,
        mem_handlers.mpr (by simp [ResellerSettings.router]), .of_dataIs rfl rfl⟩
  | addDiscount =>
      exact ⟨ResellerSettings.startAddDiscount,
        mem_handlers.mpr (by simp [ResellerSettings.router]), .of_dataIs rfl rfl⟩
  | setSupportContact =>
      exact ⟨ResellerSettings.startSetSupportContact,
        mem_handlers.mpr (by simp [ResellerSettings.router]), .of_dataIs rfl rfl⟩
  | excel =>
      exact ⟨ResellerReports.exportExcelCb,
        mem_handlers.mpr (by simp [ResellerReports.router]), .of_dataIs rfl rfl⟩

/-- A handler for the staff, with an id in its callback data. -/
theorem handles_permitted (action : ReviewAction) (id : Nat) {start : String}
    (isStart : fieldData [action.word] ++ ":" = start) :
    Handles shop sender chat (.review action id)
      (ResellerOrders.onPermitted shop (dataStarts start) fun callback => do
        let number ← integerField callback 1
        performReview action (rowId number)) := by
  refine .of_dataStarts [action.word] [.ofNat id] rfl isStart
    (List.cons_ne_nil _ _) (List.cons_ne_nil _ _) ?_
  have read : (integerField ⟨sender, chat,
      (ShopCommand.review action id).data⟩ 1 : ShopScript Int) =
        pure (id : Int) :=
    integerField_fieldData rfl
  dsimp only
  rw [read, pure_bind, rowId, Int.toNat_natCast]
  rfl

theorem handles_review (action : ReviewAction) (id : Nat) :
    ∃ handler ∈ handlers shop isOwner,
      Handles shop sender chat (.review action id) handler := by
  cases action with
  | approveReceipt =>
      exact ⟨ResellerOrders.approveReceipt shop,
        mem_handlers.mpr (by simp [ResellerOrders.router]), handles_permitted _ id rfl⟩
  | rejectReceipt =>
      exact ⟨ResellerOrders.rejectReceipt shop,
        mem_handlers.mpr (by simp [ResellerOrders.router]), handles_permitted _ id rfl⟩
  | activateOrder =>
      exact ⟨ResellerOrders.activate shop,
        mem_handlers.mpr (by simp [ResellerOrders.router]), handles_permitted _ id rfl⟩
  | walletTopupConfirm =>
      exact ⟨ResellerOrders.confirmWalletTopup shop,
        mem_handlers.mpr (by simp [ResellerOrders.router]), handles_permitted _ id rfl⟩
  | walletTopupReject =>
      exact ⟨ResellerOrders.rejectWalletTopup shop,
        mem_handlers.mpr (by simp [ResellerOrders.router]), handles_permitted _ id rfl⟩
  | openDispute =>
      refine ⟨ResellerOrders.openDispute shop,
        mem_handlers.mpr (by simp [ResellerOrders.router]),
        .of_dataStarts [_] [_] rfl rfl (List.cons_ne_nil _ _)
          (List.cons_ne_nil _ _) ?_⟩
      have read : (integerField ⟨sender, chat,
          (ShopCommand.review .openDispute id).data⟩ 1 : ShopScript Int) =
            pure (id : Int) :=
        integerField_fieldData rfl
      dsimp only
      rw [read, pure_bind]
      rfl

/-- A handler with a token in its callback data. -/
theorem handles_token {command : ShopCommand} {word token : FieldText}
    {start : String} {action : String → ShopScript Unit}
    (fields : command.fields = [word, token])
    (isStart : fieldData [word] ++ ":" = start)
    (does : action token.val = perform shop sender command) :
    Handles shop sender chat command
      (onCallback (dataStarts start) fun callback => do
        let found ← dataField callback 1
        action found) := by
  refine .of_dataStarts [word] [token] fields isStart (List.cons_ne_nil _ _)
    (List.cons_ne_nil _ _) ?_
  have read : (dataField ⟨sender, chat, command.data⟩ 1 : ShopScript String) =
      pure token.val := by
    rw [ShopCommand.data, fields]
    exact dataField_fieldData rfl
  rw [read, pure_bind, does]

theorem handles_confirmPrice (token : FieldText) :
    Handles shop sender chat (.confirmPrice token)
      ResellerCatalog.confirmSuspiciousPrice :=
  handles_token rfl rfl rfl

theorem handles_editPrice (token : FieldText) :
    Handles shop sender chat (.editPrice token)
      ResellerCatalog.editSuspiciousPrice :=
  handles_token rfl rfl rfl

theorem handles_confirmNewPrice (token : FieldText) :
    Handles shop sender chat (.confirmNewPrice token)
      ResellerCatalog.confirmEditSuspiciousPrice :=
  handles_token rfl rfl rfl

theorem handles_editNewPrice (token : FieldText) :
    Handles shop sender chat (.editNewPrice token)
      ResellerCatalog.editAgainSuspiciousPrice :=
  handles_token rfl rfl rfl

theorem handles_catalog (shown : CatalogPage) (type : FieldText) :
    ∃ handler ∈ handlers shop isOwner,
      Handles shop sender chat (.catalog shown type) handler := by
  have read : (dataField ⟨sender, chat,
      (ShopCommand.catalog shown type).data⟩ 2 : ShopScript String) =
        pure type.val :=
    dataField_fieldData rfl
  have shows : ∀ {start : String},
      fieldData [⟨"catalog", by decide⟩, shown.word] ++ ":" = start →
      shown ≠ .addOperator →
        Handles shop sender chat (.catalog shown type)
          (onCallback (dataStarts start) fun callback => do
            let _ ← dataField callback 2) := by
    intro start isStart other
    refine .of_dataStarts [_, _] [type] rfl isStart (List.cons_ne_nil _ _)
      (List.cons_ne_nil _ _) ?_
    rw [read]
    cases shown <;> first | rfl | exact absurd rfl other
  cases shown with
  | menu =>
      exact ⟨ResellerCatalog.catalogMenu,
        mem_handlers.mpr (by simp [ResellerCatalog.router]), shows rfl (by simp)⟩
  | view =>
      exact ⟨ResellerCatalog.viewCatalog,
        mem_handlers.mpr (by simp [ResellerCatalog.router]), shows rfl (by simp)⟩
  | addOperator =>
      refine ⟨ResellerCatalog.startAddOperator,
        mem_handlers.mpr (by simp [ResellerCatalog.router]),
        .of_dataStarts [_, _] [type] rfl rfl (List.cons_ne_nil _ _)
          (List.cons_ne_nil _ _) ?_⟩
      rw [read]
      rfl
  | addSubcategory =>
      exact ⟨ResellerCatalog.startAddSubcategory,
        mem_handlers.mpr (by simp [ResellerCatalog.router]), shows rfl (by simp)⟩
  | addPackage =>
      exact ⟨ResellerCatalog.startAddPackage,
        mem_handlers.mpr (by simp [ResellerCatalog.router]), shows rfl (by simp)⟩
  | manage =>
      exact ⟨ResellerCatalog.manageOperatorsCb,
        mem_handlers.mpr (by simp [ResellerCatalog.router]), shows rfl (by simp)⟩

/-- A handler for a folder or a package of the catalog. -/
theorem handles_onEntry (action : CatalogAction) (type : FieldText) (id : Nat)
    {start : String} {body : String × Int → ShopScript Unit}
    (isStart :
      fieldData [⟨"catalog", by decide⟩, action.word] ++ ":" = start)
    (does : body (type.val, id) = performEntry type.val id action) :
    Handles shop sender chat (.entry action type id)
      (onCallback (dataStarts start) fun callback =>
        ResellerCatalog.typeAndId callback >>= body) := by
  refine .of_dataStarts [_, _] [type, .ofNat id] rfl isStart
    (List.cons_ne_nil _ _) (List.cons_ne_nil _ _) ?_
  rw [ShopCommand.data, ShopCommand.fields, typeAndId_fieldData, pure_bind,
    does]
  rfl

theorem handles_showDetail (action : CatalogAction) (type : FieldText)
    (id : Nat) {start : String}
    (isStart :
      fieldData [⟨"catalog", by decide⟩, action.word] ++ ":" = start)
    (does : performEntry type.val id action = pure ()) :
    Handles shop sender chat (.entry action type id)
      (ResellerCatalog.showDetail start) :=
  handles_onEntry action type id isStart does.symm

theorem handles_startEdit (action : CatalogAction) (type : FieldText)
    (id : Nat) {start : String} {remember : Int → ShopData → ShopData}
    {question : ShopState}
    (isStart :
      fieldData [⟨"catalog", by decide⟩, action.word] ++ ":" = start)
    (does : performEntry type.val id action =
      askFor type.val (remember id) question) :
    Handles shop sender chat (.entry action type id)
      (ResellerCatalog.startEdit start remember question) :=
  handles_onEntry action type id isStart does.symm

theorem handles_deleteConfirmed (target : CatalogTarget) (type : FieldText)
    (id : Nat) {start : String}
    (isStart :
      fieldData [⟨"catalog", by decide⟩,
        (CatalogAction.deleteYes target).word] ++ ":" = start) :
    Handles shop sender chat (.entry (.deleteYes target) type id)
      (ResellerCatalog.deleteConfirmed start (deleteTarget target)) :=
  handles_onEntry (.deleteYes target) type id isStart rfl

theorem handles_entry (action : CatalogAction) (type : FieldText) (id : Nat) :
    ∃ handler ∈ handlers shop isOwner,
      Handles shop sender chat (.entry action type id) handler := by
  cases action with
  | manage target =>
      cases target with
      | operator =>
          exact ⟨ResellerCatalog.manageOperatorDetailCb,
            mem_handlers.mpr (by simp [ResellerCatalog.router]),
            handles_showDetail _ type id rfl rfl⟩
      | subcategory =>
          exact ⟨ResellerCatalog.manageSubcategoryDetailCb,
            mem_handlers.mpr (by simp [ResellerCatalog.router]),
            handles_showDetail _ type id rfl rfl⟩
      | package =>
          exact ⟨ResellerCatalog.managePackageDetailCb,
            mem_handlers.mpr (by simp [ResellerCatalog.router]),
            handles_showDetail _ type id rfl rfl⟩
  | editOpName =>
      exact ⟨ResellerCatalog.startEditOperatorName,
        mem_handlers.mpr (by simp [ResellerCatalog.router]),
        handles_startEdit _ type id rfl rfl⟩
  | editSubTitle =>
      exact ⟨ResellerCatalog.startEditSubcategoryTitle,
        mem_handlers.mpr (by simp [ResellerCatalog.router]),
        handles_startEdit _ type id rfl rfl⟩
  | editPkgName =>
      exact ⟨ResellerCatalog.startEditPackageName,
        mem_handlers.mpr (by simp [ResellerCatalog.router]),
        handles_startEdit _ type id rfl rfl⟩
  | editPkgPrice =>
      exact ⟨ResellerCatalog.startEditPackagePrice,
        mem_handlers.mpr (by simp [ResellerCatalog.router]),
        handles_startEdit _ type id rfl rfl⟩
  | editPkgCost =>
      exact ⟨ResellerCatalog.startEditPackageCost,
        mem_handlers.mpr (by simp [ResellerCatalog.router]),
        handles_startEdit _ type id rfl rfl⟩
  | togglePkg =>
      exact ⟨ResellerCatalog.togglePackageActive,
        mem_handlers.mpr (by simp [ResellerCatalog.router]),
        handles_onEntry _ type id rfl rfl⟩
  | delete target =>
      cases target with
      | operator =>
          exact ⟨ResellerCatalog.confirmDeleteOperator,
            mem_handlers.mpr (by simp [ResellerCatalog.router]),
            handles_showDetail _ type id rfl rfl⟩
      | subcategory =>
          exact ⟨ResellerCatalog.confirmDeleteSubcategory,
            mem_handlers.mpr (by simp [ResellerCatalog.router]),
            handles_showDetail _ type id rfl rfl⟩
      | package =>
          exact ⟨ResellerCatalog.confirmDeletePackage,
            mem_handlers.mpr (by simp [ResellerCatalog.router]),
            handles_showDetail _ type id rfl rfl⟩
  | deleteYes target =>
      cases target with
      | operator =>
          exact ⟨ResellerCatalog.deleteOperatorConfirmed,
            mem_handlers.mpr (by simp [ResellerCatalog.router]),
            handles_deleteConfirmed .operator type id rfl⟩
      | subcategory =>
          exact ⟨ResellerCatalog.deleteSubcategoryConfirmed,
            mem_handlers.mpr (by simp [ResellerCatalog.router]),
            handles_deleteConfirmed .subcategory type id rfl⟩
      | package =>
          exact ⟨ResellerCatalog.deletePackageConfirmed,
            mem_handlers.mpr (by simp [ResellerCatalog.router]),
            handles_deleteConfirmed .package type id rfl⟩
  | deleteNo target =>
      cases target with
      | operator =>
          exact ⟨ResellerCatalog.deleteOperatorCancelled,
            mem_handlers.mpr (by simp [ResellerCatalog.router]),
            handles_showDetail _ type id rfl rfl⟩
      | subcategory =>
          exact ⟨ResellerCatalog.deleteSubcategoryCancelled,
            mem_handlers.mpr (by simp [ResellerCatalog.router]),
            handles_showDetail _ type id rfl rfl⟩
      | package =>
          exact ⟨ResellerCatalog.deletePackageCancelled,
            mem_handlers.mpr (by simp [ResellerCatalog.router]),
            handles_showDetail _ type id rfl rfl⟩
  | pickOperatorForSub =>
      exact ⟨ResellerCatalog.pickOperatorForSub,
        mem_handlers.mpr (by simp [ResellerCatalog.router]),
        handles_onEntry _ type id rfl rfl⟩
  | pickOperatorForPkg =>
      exact ⟨ResellerCatalog.pickOperatorForPkg,
        mem_handlers.mpr (by simp [ResellerCatalog.router]),
        handles_onEntry _ type id rfl rfl⟩
  | pickCategory =>
      exact ⟨ResellerCatalog.pickCategory,
        mem_handlers.mpr (by simp [ResellerCatalog.router]),
        handles_onEntry _ type id rfl rfl⟩

theorem handles_card (id : Nat) :
    Handles shop sender chat (.toggleCard id)
        (ResellerPaymentMethods.toggleCardCb shop) ∧
      Handles shop sender chat (.removeCard id)
        (ResellerPaymentMethods.removeCardCb shop) := by
  constructor
  · refine .of_dataStarts [_, _] [.ofNat id] rfl rfl (List.cons_ne_nil _ _)
      (List.cons_ne_nil _ _) ?_
    have read : (integerField ⟨sender, chat,
        (ShopCommand.toggleCard id).data⟩ 2 : ShopScript Int) =
          pure (id : Int) :=
      integerField_fieldData rfl
    rw [read]
    rfl
  · refine .of_dataStarts [_, _] [.ofNat id] rfl rfl (List.cons_ne_nil _ _)
      (List.cons_ne_nil _ _) ?_
    have read : (integerField ⟨sender, chat,
        (ShopCommand.removeCard id).data⟩ 2 : ShopScript Int) =
          pure (id : Int) :=
      integerField_fieldData rfl
    rw [read]
    rfl

theorem handles_setReferral (enable : Bool) :
    Handles shop sender chat (.setReferral enable)
      (ResellerSettings.toggleReferral shop) := by
  cases enable with
  | true =>
      refine .of_dataStarts [_, _] [_] rfl rfl (List.cons_ne_nil _ _)
        (List.cons_ne_nil _ _) ?_
      have read : (dataField ⟨sender, chat,
          (ShopCommand.setReferral true).data⟩ 2 : ShopScript String) =
            pure "on" :=
        @dataField_fieldData _ _ _ _ _ _ ⟨"on", by decide⟩ rfl
      rw [read]
      rfl
  | false =>
      refine .of_dataStarts [_, _] [_] rfl rfl (List.cons_ne_nil _ _)
        (List.cons_ne_nil _ _) ?_
      have read : (dataField ⟨sender, chat,
          (ShopCommand.setReferral false).data⟩ 2 : ShopScript String) =
            pure "off" :=
        @dataField_fieldData _ _ _ _ _ _ ⟨"off", by decide⟩ rfl
      rw [read]
      rfl

theorem handles_stock (action : FieldText) :
    Handles shop sender chat (.stock action)
      ResellerChargeStock.pickOperatorForAction := by
  refine .of_dataStarts [_, _] [action] rfl rfl (List.cons_ne_nil _ _)
    (List.cons_ne_nil _ _) ?_
  have read : (dataField ⟨sender, chat, (ShopCommand.stock action).data⟩ 2 :
      ShopScript String) = pure action.val :=
    dataField_fieldData rfl
  rw [read]
  rfl

/-- A handler on the way to a charge product. -/
theorem handles_onStock (step : StockLevel) (action : FieldText) (id : Nat)
    {start : String} {body : String × Int → ShopScript Unit}
    (isStart : fieldData [⟨"cstock", by decide⟩, step.word] ++ ":" = start)
    (does : body (action.val, id) =
      perform shop sender (.stockEntry step action id)) :
    Handles shop sender chat (.stockEntry step action id)
      (onCallback (dataStarts start) fun callback =>
        ResellerChargeStock.actionAndId callback >>= body) := by
  refine .of_dataStarts [_, _] [action, .ofNat id] rfl isStart
    (List.cons_ne_nil _ _) (List.cons_ne_nil _ _) ?_
  rw [ShopCommand.data, ShopCommand.fields, actionAndId_fieldData, pure_bind,
    does]

theorem handles_stockEntry (step : StockLevel) (action : FieldText)
    (id : Nat) :
    ∃ handler ∈ handlers shop isOwner,
      Handles shop sender chat (.stockEntry step action id) handler := by
  cases step with
  | operator =>
      exact ⟨ResellerChargeStock.pickCategoryForAction,
        mem_handlers.mpr (by simp [ResellerChargeStock.router]),
        handles_onStock _ action id rfl rfl⟩
  | category =>
      exact ⟨ResellerChargeStock.pickProductForAction,
        mem_handlers.mpr (by simp [ResellerChargeStock.router]),
        handles_onStock _ action id rfl rfl⟩
  | product =>
      exact ⟨ResellerChargeStock.actOnProduct,
        mem_handlers.mpr (by simp [ResellerChargeStock.router]),
        handles_onStock _ action id rfl rfl⟩

theorem handles_deleteCode (codeId packageId : Nat) :
    Handles shop sender chat (.deleteCode codeId packageId)
      ResellerChargeStock.deleteSingleCode := by
  refine .of_dataStarts [_, _] [.ofNat codeId, .ofNat packageId] rfl rfl
    (List.cons_ne_nil _ _) (List.cons_ne_nil _ _) ?_
  have readCode : (integerField ⟨sender, chat,
      (ShopCommand.deleteCode codeId packageId).data⟩ 2 : ShopScript Int) =
        pure (codeId : Int) :=
    integerField_fieldData rfl
  have readPackage : (integerField ⟨sender, chat,
      (ShopCommand.deleteCode codeId packageId).data⟩ 3 : ShopScript Int) =
        pure (packageId : Int) :=
    integerField_fieldData rfl
  rw [readCode, pure_bind, readPackage]
  rfl

theorem handles_clearCodes (packageId : Nat) :
    Handles shop sender chat (.clearCodes packageId)
      ResellerChargeStock.clearAllCodes := by
  refine .of_dataStarts [_, _] [.ofNat packageId] rfl rfl
    (List.cons_ne_nil _ _) (List.cons_ne_nil _ _) ?_
  have read : (integerField ⟨sender, chat,
      (ShopCommand.clearCodes packageId).data⟩ 2 : ShopScript Int) =
        pure (packageId : Int) :=
    integerField_fieldData rfl
  rw [read]
  rfl

/-- Every command has its handler. -/
theorem exists_handles (shop : Shop) (isOwner : Int → Bool)
    (sender chat : Int) (command : ShopCommand) :
    ∃ handler ∈ handlers shop isOwner,
      Handles shop sender chat command handler := by
  have inCatalog : ∀ {handler : ShopHandler},
      handler ∈ ResellerCatalog.router shop →
        handler ∈ handlers shop isOwner :=
    fun member => mem_handlers.mpr (by simp [member])
  have inStock : ∀ {handler : ShopHandler},
      handler ∈ ResellerChargeStock.router shop →
        handler ∈ handlers shop isOwner :=
    fun member => mem_handlers.mpr (by simp [member])
  have inMethods : ∀ {handler : ShopHandler},
      handler ∈ ResellerPaymentMethods.router shop →
        handler ∈ handlers shop isOwner :=
    fun member => mem_handlers.mpr (by simp [member])
  cases command with
  | page shown => exact handles_page shown
  | item chosen => exact handles_item chosen
  | review action id => exact handles_review action id
  | toggleCard id =>
      exact ⟨_, inMethods (by simp [ResellerPaymentMethods.router]),
        (handles_card id).1⟩
  | removeCard id =>
      exact ⟨_, inMethods (by simp [ResellerPaymentMethods.router]),
        (handles_card id).2⟩
  | setReferral enable =>
      exact ⟨_, mem_handlers.mpr (by simp [ResellerSettings.router]),
        handles_setReferral enable⟩
  | confirmPrice token =>
      exact ⟨_, inCatalog (by simp [ResellerCatalog.router]),
        handles_confirmPrice token⟩
  | editPrice token =>
      exact ⟨_, inCatalog (by simp [ResellerCatalog.router]),
        handles_editPrice token⟩
  | confirmNewPrice token =>
      exact ⟨_, inCatalog (by simp [ResellerCatalog.router]),
        handles_confirmNewPrice token⟩
  | editNewPrice token =>
      exact ⟨_, inCatalog (by simp [ResellerCatalog.router]),
        handles_editNewPrice token⟩
  | catalog shown type => exact handles_catalog shown type
  | entry action type id => exact handles_entry action type id
  | stock action =>
      exact ⟨_, inStock (by simp [ResellerChargeStock.router]),
        handles_stock action⟩
  | stockEntry step action id => exact handles_stockEntry step action id
  | deleteCode codeId packageId =>
      exact ⟨_, inStock (by simp [ResellerChargeStock.router]),
        handles_deleteCode codeId packageId⟩
  | clearCodes packageId =>
      exact ⟨_, inStock (by simp [ResellerChargeStock.router]),
        handles_clearCodes packageId⟩

/-- The data of a command reaches the handler that does what it says. -/
theorem dispatch_data (shop : Shop) (isOwner : Int → Bool)
    (state : Option ShopState) (sender chat : Int) (command : ShopCommand) :
    Handler.dispatch (handlers shop isOwner) state
        (.callback ⟨sender, chat, command.data⟩) =
      some (perform shop sender command) := by
  obtain ⟨handler, member, handles⟩ :=
    exists_handles shop isOwner sender chat command
  rw [Handler.dispatch_of_unambiguous unambiguous_callback member
    (handles.takes state), handles.does]

end Commands

end ShopBot

end Baste
