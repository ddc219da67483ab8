import Baste.ShopButtons

/-!
# The keyboards of a reseller's panel

What each button of each keyboard is for, by its place in the keyboard.  The
buttons reach the bot as callback data; pressing one does what it is for.
-/

namespace Baste

open BotScripts

/-- The keyboards that a reseller's bot can show, with what they are made
from. -/
inductive ShopKeyboard where
  | catalogButton
  | topupButton
  | packagePurchaseButton (packageId : Nat)
  | orderReviewButtons (orderId : Nat)
  | activateOrderButton (orderId : Nat)
  | sanityCheckConfirmButtons (pendingToken : FieldText)
  | walletTopupReviewButtons (topupId : Nat)
  | disputeButton (orderId : Nat)
  | resellerMainMenu
  | backToResellerMenuButton
  | catalogTypeMenu
  | catalogSubmenu (catalogType : FieldText)
  | catalogManageOperatorListButtons (operators : List ListedRow)
      (catalogType : FieldText)
  | catalogManageOperatorDetailButtons (catalogType : FieldText)
      (operatorId : Nat) (subcategories : List ListedRow)
  | catalogManageSubcategoryDetailButtons (catalogType : FieldText)
      (operatorId subcategoryId : Nat) (products : List ListedPackage)
  | catalogManagePackageDetailButtons (catalogType : FieldText)
      (subcategoryId packageId : Nat) (isActive : Bool)
  | catalogDeleteConfirmButtons (catalogType : FieldText)
      (target : CatalogTarget) (targetId : Nat)
  | packageEditPriceConfirmButtons (token : FieldText)
  | operatorPickButtons (operators : List ListedRow) (purpose : String)
      (catalogType : FieldText)
  | categoryPickButtons (categories : List ListedRow)
      (catalogType : FieldText)
  | ordersRefreshButton
  | walletSubmenu
  | paymentMethodsSubmenu
  | cardRowButtons (cardId : Nat) (isActive : Bool)
  | settingsSubmenu (referralEnabled : Bool)
  | reportsSubmenu
  | chargeStockMenu
  | chargeOperatorPickButtons (operators : List ListedRow)
      (action : FieldText)
  | chargeCategoryPickButtons (categories : List ListedRow)
      (action : FieldText)
  | chargeProductPickButtons (products : List ListedProduct)
      (action : FieldText)
  | chargeCodeRemoveButtons (codes : List ListedRow) (packageId : Nat)

namespace ShopKeyboard

/-- The keyboard as it is sent. -/
def markup : ShopKeyboard → InlineKeyboardMarkup
  | catalogButton => Keyboards.catalogButton
  | topupButton => Keyboards.topupButton
  | packagePurchaseButton packageId =>
      Keyboards.packagePurchaseButton packageId
  | orderReviewButtons orderId => Keyboards.orderReviewButtons orderId
  | activateOrderButton orderId => Keyboards.activateOrderButton orderId
  | sanityCheckConfirmButtons token =>
      Keyboards.sanityCheckConfirmButtons token.val
  | walletTopupReviewButtons topupId =>
      Keyboards.walletTopupReviewButtons topupId
  | disputeButton orderId => Keyboards.disputeButton orderId
  | resellerMainMenu => Keyboards.resellerMainMenu
  | backToResellerMenuButton => Keyboards.backToResellerMenuButton
  | catalogTypeMenu => Keyboards.catalogTypeMenu
  | catalogSubmenu type => Keyboards.catalogSubmenu type.val
  | catalogManageOperatorListButtons operators type =>
      Keyboards.catalogManageOperatorListButtons operators type.val
  | catalogManageOperatorDetailButtons type operatorId subcategories =>
      Keyboards.catalogManageOperatorDetailButtons type.val operatorId
        subcategories
  | catalogManageSubcategoryDetailButtons type operatorId subcategoryId
      products =>
      Keyboards.catalogManageSubcategoryDetailButtons type.val operatorId
        subcategoryId products
  | catalogManagePackageDetailButtons type subcategoryId packageId isActive =>
      Keyboards.catalogManagePackageDetailButtons type.val subcategoryId
        packageId isActive
  | catalogDeleteConfirmButtons type target targetId =>
      Keyboards.catalogDeleteConfirmButtons type.val target targetId
  | packageEditPriceConfirmButtons token =>
      Keyboards.packageEditPriceConfirmButtons token.val
  | operatorPickButtons operators purpose type =>
      Keyboards.operatorPickButtons operators purpose type.val
  | categoryPickButtons categories type =>
      Keyboards.categoryPickButtons categories type.val
  | ordersRefreshButton => Keyboards.ordersRefreshButton
  | walletSubmenu => Keyboards.walletSubmenu
  | paymentMethodsSubmenu => Keyboards.paymentMethodsSubmenu
  | cardRowButtons cardId isActive => Keyboards.cardRowButtons cardId isActive
  | settingsSubmenu referralEnabled =>
      Keyboards.settingsSubmenu referralEnabled
  | reportsSubmenu => Keyboards.reportsSubmenu
  | chargeStockMenu => Keyboards.chargeStockMenu
  | chargeOperatorPickButtons operators action =>
      Keyboards.chargeOperatorPickButtons operators action.val
  | chargeCategoryPickButtons categories action =>
      Keyboards.chargeCategoryPickButtons categories action.val
  | chargeProductPickButtons products action =>
      Keyboards.chargeProductPickButtons products action.val
  | chargeCodeRemoveButtons codes packageId =>
      Keyboards.chargeCodeRemoveButtons codes packageId

/-- The types of the two catalogs, as texts. -/
def packageType : FieldText := ⟨"package", by decide⟩

def chargeType : FieldText := ⟨"charge", by decide⟩

/-- What the buttons are for.  The buttons of the first three keyboards are for
nothing. -/
def commands : ShopKeyboard → List (List (Option ShopCommand))
  | catalogButton | topupButton | packagePurchaseButton _ => [[none]]
  | orderReviewButtons orderId =>
      [[some (.review .approveReceipt orderId),
        some (.review .rejectReceipt orderId)]]
  | activateOrderButton orderId =>
      [[some (.review .activateOrder orderId)]]
  | sanityCheckConfirmButtons token =>
      [[some (.confirmPrice token), some (.editPrice token)]]
  | walletTopupReviewButtons topupId =>
      [[some (.review .walletTopupConfirm topupId),
        some (.review .walletTopupReject topupId)]]
  | disputeButton orderId => [[some (.review .openDispute orderId)]]
  | resellerMainMenu =>
      [[some (.page .catalog), some (.page .orders)],
        [some (.page .wallet), some (.page .paymentMethods)],
        [some (.page .settings), some (.page .reports)],
        [some (.page .stats), some (.page .chargeStock)]]
  | backToResellerMenuButton => [[some (.page .home)]]
  | catalogTypeMenu =>
      [[some (.catalog .menu packageType)], [some (.catalog .menu chargeType)],
        [some (.page .home)]]
  | catalogSubmenu type =>
      [[some (.catalog .view type)], [some (.catalog .addOperator type)],
        [some (.catalog .addSubcategory type)],
        [some (.catalog .addPackage type)], [some (.catalog .manage type)],
        [some (.page .catalog)]]
  | catalogManageOperatorListButtons operators type =>
      (operators.map fun operator =>
          [some (.entry (.manage .operator) type operator.id)]) ++
        [[some (.catalog .menu type)]]
  | catalogManageOperatorDetailButtons type operatorId subcategories =>
      [some (.entry .editOpName type operatorId),
        some (.entry (.delete .operator) type operatorId)] ::
      (subcategories.map fun subcategory =>
          [some (.entry (.manage .subcategory) type subcategory.id)]) ++
        [[some (.catalog .manage type)]]
  | catalogManageSubcategoryDetailButtons type operatorId subcategoryId
      products =>
      [some (.entry .editSubTitle type subcategoryId),
        some (.entry (.delete .subcategory) type subcategoryId)] ::
      (products.map fun product =>
          [some (.entry (.manage .package) type product.id)]) ++
        [[some (.entry (.manage .operator) type operatorId)]]
  | catalogManagePackageDetailButtons type subcategoryId packageId _ =>
      [[some (.entry .editPkgName type packageId),
          some (.entry .editPkgPrice type packageId)],
        [some (.entry .editPkgCost type packageId),
          some (.entry .togglePkg type packageId)],
        [some (.entry (.delete .package) type packageId)],
        [some (.entry (.manage .subcategory) type subcategoryId)]]
  | catalogDeleteConfirmButtons type target targetId =>
      [[some (.entry (.deleteYes target) type targetId),
        some (.entry (.deleteNo target) type targetId)]]
  | packageEditPriceConfirmButtons token =>
      [[some (.confirmNewPrice token), some (.editNewPrice token)]]
  | operatorPickButtons operators purpose type =>
      let action : CatalogAction :=
        if purpose = "sub" then .pickOperatorForSub else .pickOperatorForPkg
      (operators.map fun operator => [some (.entry action type operator.id)]) ++
        [[some (.catalog .menu type)]]
  | categoryPickButtons categories type =>
      (categories.map fun category =>
          [some (.entry .pickCategory type category.id)]) ++
        [[some (.catalog .addPackage type)]]
  | ordersRefreshButton => [[some (.page .orders)], [some (.page .home)]]
  | walletSubmenu =>
      [[some (.item .topupCard)], [some (.item .topupZarinpal)],
        [some (.item .topupCrypto)], [some (.page .home)]]
  | paymentMethodsSubmenu =>
      [[some (.item .listCards)], [some (.item .addCard)],
        [some (.item .setZarinpal)], [some (.page .home)]]
  | cardRowButtons cardId _ =>
      [[some (.toggleCard cardId), some (.removeCard cardId)]]
  | settingsSubmenu referralEnabled =>
      [[some (.setReferral !referralEnabled)],
        [some (.item .referralPercent)], [some (.item .addChannel)],
        [some (.item .addDiscount)], [some (.item .setSupportContact)],
        [some (.page .home)]]
  | reportsSubmenu => [[some (.item .excel)], [some (.page .home)]]
  | chargeStockMenu =>
      [[some (.stock ⟨"add", FieldText.colon_notMem_add⟩)],
        [some (.stock ⟨"list", FieldText.colon_notMem_list⟩)],
        [some (.stock ⟨"remove", by decide⟩)],
        [some (.stock ⟨"sold", by decide⟩)], [some (.page .home)]]
  | chargeOperatorPickButtons operators action =>
      (operators.map fun operator =>
          [some (.stockEntry .operator action operator.id)]) ++
        [[some (.page .chargeStock)]]
  | chargeCategoryPickButtons categories action =>
      (categories.map fun category =>
          [some (.stockEntry .category action category.id)]) ++
        [[some (.stock action)]]
  | chargeProductPickButtons products action =>
      (products.map fun product =>
          [some (.stockEntry .product action product.id)]) ++
        [[some (.page .chargeStock)]]
  | chargeCodeRemoveButtons codes packageId =>
      (codes.map fun code => [some (.deleteCode code.id packageId)]) ++
        [[some (.clearCodes packageId)], [some (.page .chargeStock)]]

end ShopKeyboard

namespace ShopBot

/-- The button carries the command, or data that leads nowhere. -/
def Carries (button : InlineKeyboardButton) : Option ShopCommand → Prop
  | some command => button.callbackData = command.data
  | none => ∀ route ∈ callbackRoutes,
      route.takes button.callbackData.toList = false

/-- Rows of one button each, and a last part. -/
theorem carries_rows {Row : Type} {rows : List Row}
    {button : Row → InlineKeyboardButton} {command : Row → ShopCommand}
    {last : InlineKeyboardMarkup} {lastCommands : List (List (Option ShopCommand))}
    (each : ∀ row, Carries (button row) (some (command row)))
    (rest : List.Forall₂ (List.Forall₂ Carries) last lastCommands) :
    List.Forall₂ (List.Forall₂ Carries)
      ((rows.map fun row => [button row]) ++ last)
      ((rows.map fun row => [some (command row)]) ++ lastCommands) := by
  induction rows with
  | nil => exact rest
  | cons row rows ih => exact .cons (.cons (each row) .nil) ih

/-- The texts of the keyboards that no handler shows. -/
def unusedRoutes : List (TextRoute Char) :=
  [.exactly "show_catalog".toList, .exactly "topup".toList,
    .starting "buy:".toList]

theorem apart_unusedRoutes :
    ∀ unused ∈ unusedRoutes, ∀ route ∈ callbackRoutes,
      unused.apart route = true := by
  simp only [callbackRoutes, startRoutes, ordersRoutes, catalogRoutes,
    chargeStockRoutes, walletRoutes, settingsRoutes, reportsRoutes,
    statsRoutes, paymentMethodsRoutes, unusedRoutes, String.reduceToList]
  decide +kernel

theorem carries_unused {button : InlineKeyboardButton}
    {unused : TextRoute Char} (member : unused ∈ unusedRoutes)
    (takes : unused.takes button.callbackData.toList = true) :
    Carries button none :=
  fun route isRoute => TextRoute.not_takes_of_apart
    (apart_unusedRoutes unused member route isRoute) takes

theorem carries_markup (keyboard : ShopKeyboard) :
    List.Forall₂ (List.Forall₂ Carries) keyboard.markup keyboard.commands := by
  have one : ∀ {button : InlineKeyboardButton} {command : ShopCommand},
      button.callbackData = command.data →
        List.Forall₂ (List.Forall₂ Carries) [[button]] [[some command]] :=
    fun same => .cons (.cons same .nil) .nil
  cases keyboard with
  | catalogButton =>
      exact .cons (.cons (@carries_unused _ (.exactly "show_catalog".toList)
        (by simp [unusedRoutes]) rfl) .nil) .nil
  | topupButton =>
      exact .cons (.cons (@carries_unused _ (.exactly "topup".toList)
        (by simp [unusedRoutes]) rfl) .nil) .nil
  | packagePurchaseButton packageId =>
      have starts : (TextRoute.starting "buy:".toList).takes
          s!"buy:{packageId}".toList = true := by
        rw [TextRoute.takes_starting, String.toList_append]
        exact List.prefix_append _ _
      exact .cons (.cons (@carries_unused _ (.starting "buy:".toList)
        (by simp [unusedRoutes]) starts) .nil) .nil
  | catalogManageOperatorListButtons operators type =>
      exact carries_rows (fun _ => rfl) (one rfl)
  | catalogManageOperatorDetailButtons type operatorId subcategories =>
      exact .cons (.cons rfl (.cons rfl .nil))
        (carries_rows (fun _ => rfl) (one rfl))
  | catalogManageSubcategoryDetailButtons type operatorId subcategoryId
      products =>
      exact .cons (.cons rfl (.cons rfl .nil))
        (carries_rows (fun _ => rfl) (one rfl))
  | catalogDeleteConfirmButtons type target targetId =>
      cases target <;> exact .cons (.cons rfl (.cons rfl .nil)) .nil
  | operatorPickButtons operators purpose type =>
      refine @carries_rows _ operators _ (fun operator => .entry
        (if purpose = "sub" then .pickOperatorForSub else .pickOperatorForPkg)
          type operator.id) _ _ (fun operator => ?_) (one rfl)
      by_cases isSub : purpose = "sub"
      · simp only [if_pos isSub]
        rfl
      · simp only [if_neg isSub]
        rfl
  | categoryPickButtons categories type =>
      exact carries_rows (fun _ => rfl) (one rfl)
  | settingsSubmenu referralEnabled =>
      cases referralEnabled <;>
        exact .cons (.cons rfl .nil) (.cons (.cons rfl .nil)
          (.cons (.cons rfl .nil) (.cons (.cons rfl .nil)
            (.cons (.cons rfl .nil) (one rfl)))))
  | chargeOperatorPickButtons operators action =>
      exact carries_rows (fun _ => rfl) (one rfl)
  | chargeCategoryPickButtons categories action =>
      exact carries_rows (fun _ => rfl) (one rfl)
  | chargeProductPickButtons products action =>
      exact carries_rows (fun _ => rfl) (one rfl)
  | chargeCodeRemoveButtons codes packageId =>
      exact carries_rows (fun _ => rfl) (.cons (.cons rfl .nil) (one rfl))
  | _ =>
      -- The buttons of the others are listed one by one.
      repeat' first
        | exact .nil
        | apply List.Forall₂.cons
        | exact rfl

end ShopBot

namespace ShopWorld

/-- The bot does what a command says for the sender, or nothing. -/
def obey (world : ShopWorld) (shop : Shop) (sender chat : Int) :
    Option ShopCommand → ShopWorld
  | none => world
  | some command =>
      let visit := ((ShopBot.perform shop sender command).runOn
        ⟨world.platform, world.conversations (chat, sender)⟩).2
      { platform := visit.platform
        conversations := Function.update world.conversations (chat, sender)
          visit.conversation }

variable {world : ShopWorld} {shop : Shop} {sender chat : Int}

theorem handle_of_carries {button : InlineKeyboardButton}
    {command : Option ShopCommand} (carries : ShopBot.Carries button command) :
    world.handle shop (.callback ⟨sender, chat, button.callbackData⟩) =
      world.obey shop sender chat command := by
  cases command with
  | none =>
      apply BotWorld.receive_of_none
      exact Handler.dispatch_eq_none_of_follows ShopBot.follow_handlers
        carries
  | some command =>
      have same : button.callbackData = command.data := carries
      rw [same, handle, BotWorld.receive]
      dsimp only
      rw [ShopBot.dispatch_data]
      rfl

/-- Whatever the conversation is at and whoever presses it, a button of a
keyboard does what stands at its place, and the buttons of the first three
keyboards do nothing. -/
theorem handle_markup (world : ShopWorld) (shop : Shop) (sender chat : Int)
    (keyboard : ShopKeyboard) :
    List.Forall₂ (List.Forall₂ fun button command =>
        world.handle shop (.callback ⟨sender, chat, button.callbackData⟩) =
          world.obey shop sender chat command)
      keyboard.markup keyboard.commands :=
  (ShopBot.carries_markup keyboard).imp fun _ _ row =>
    row.imp fun _ _ => handle_of_carries

end ShopWorld

end Baste
