import Baste.CatalogNames
import Baste.OfferedPackages
import Baste.PhoneNumbers
import Baste.PurchaseDebits

/-!
# Sales of packages on offer

Nothing that creates an order asks again whether the package is still for sale.
As long as the reseller leaves alone what is on the screen of some customer,
every new order is for a package for sale, in the part of the catalog that the
customer has browsed, and at its price.
-/

namespace Baste

open BotScripts Database ShopBot

/-- The part of the catalog in which orders of a type are placed. -/
def OrderType.catalogType : OrderType → CatalogType
  | .package => .package
  | .charge => .charge

/-- An order of a customer for a package in a folder. -/
structure IsOfferedSale (package : PackageRow) (folder : CategoryRow)
    (customer : CustomerRow) (order : OrderRow) : Prop where
  isActive : package.isActive = true
  ofReseller : package.resellerId = order.resellerId
  ofCustomer : customer.resellerId = order.resellerId
  shelf : folder.shelf = (order.resellerId, order.orderType.catalogType)
  price : order.packagePrice = package.salePrice

/-- The order has just been created for a package that is for sale. -/
def SoldFromOffer (before after : Db) (order : OrderRow) : Prop :=
  ∃ package folder customer,
    before.row .packages order.packageId = some package ∧
      before.row .categories package.categoryId = some folder ∧
      after.row .customers order.customerId = some customer ∧
      IsOfferedSale package folder customer order

namespace ShopsWorld

/-- Every order that the step creates is for a package that is for sale in the
part of the catalog that the customer has browsed.  What the customer pays at
once is the price of the order. -/
def SellsOffers (world : ShopsWorld) (received : ShopUpdate) : Prop :=
  let before := world.platform.db
  let after := (world.step received).platform.db
  ∀ id order, before.row .orders id = none →
    after.row .orders id = some order →
    ((world.bot received.shop.resellerId).conversationOf
        received.update).state =
        some (buyingState order.orderType.catalogType) ∧
      order.resellerId = received.shop.resellerId ∧
      SoldFromOffer before after order ∧ PaysForOrders before after

variable {world : ShopsWorld} {received : ShopUpdate}

/-- A purchase of what is on the screen. -/
theorem soldFromOffer_of_onScreen {type : OrderType} {shop : Shop}
    {key : Int × Int} {userId : Int} {packageId : Nat}
    {phoneNumber : Option String} {after : Db} {order : OrderRow}
    (onOffer : world.OnOffer)
    (purchase : IsPurchase shop type userId packageId phoneNumber
      world.platform.db after order)
    (onScreen : OnScreen type.catalogType
      (world.conversations shop.resellerId key) packageId) :
    SoldFromOffer world.platform.db after order := by
  obtain ⟨isFor, customer, isCustomer, ofShop, -⟩ := purchase
  obtain ⟨package, found, price⟩ := Option.map_eq_some_iff.mp isFor.price
  obtain ⟨isActive, ofReseller, isFolder⟩ :=
    ((onOffer.shows _ _).packages _ _ onScreen).offered package found
  obtain ⟨folder, isRow, -⟩ := onOffer.sound.packages packageId package found
  refine ⟨package, folder, customer, ?_, isRow, isCustomer, ?_⟩
  · rw [isFor.package]
    exact found
  · constructor
    · exact isActive
    · rw [ofReseller, isFor.reseller]
    · rw [ofShop, isFor.reseller]
    · rw [isFor.reseller, isFor.type]
      exact isFolder.shelf folder isRow
    · exact price.symm

theorem sellsOffers_of_onOffer (onOffer : world.OnOffer) :
    world.SellsOffers received := by
  rw [SellsOffers, platform_step]
  intro id order absent created
  have pays :=
    (world.bot received.shop.resellerId).paysForOrders_of_created absent
      created
  obtain ⟨message, -, ⟨isState, packageId, _, selected, -, purchase⟩ |
    ⟨isState, packageId, selected, purchase⟩⟩ :=
      (world.bot received.shop.resellerId).purchase_of_created absent created
  · have onScreen : OnScreen .package
        ((world.bot received.shop.resellerId).conversationOf received.update)
        packageId :=
      .picked ⟨_, by simp [buyingState], isState⟩ selected
    refine ⟨?_, purchase.1.reseller,
      soldFromOffer_of_onScreen onOffer purchase onScreen, pays⟩
    rw [purchase.1.type]
    exact isState
  · have onScreen : OnScreen .charge
        ((world.bot received.shop.resellerId).conversationOf received.update)
        packageId :=
      .picked ⟨_, by simp [buyingState], isState⟩ selected
    refine ⟨?_, purchase.1.reseller,
      soldFromOffer_of_onScreen onOffer purchase onScreen, pays⟩
    rw [purchase.1.type]
    exact isState

/-- If no step switches a package that somebody has on the screen, and every
new row of the catalog goes where it should, all orders are for packages for
sale. -/
theorem sellsOffers_along (world : ShopsWorld) (start : world.OnOffer)
    (events : List ShopUpdate)
    (leaves : StepRuns.Along step LeavesOffers world events) :
    StepRuns.Along step SellsOffers world events := by
  have oneStep : ∀ (world : ShopsWorld) (received : ShopUpdate),
      world.OnOffer → world.LeavesOffers received →
      world.SellsOffers received ∧ (world.step received).OnOffer :=
    fun _ _ onOffer leaves =>
      ⟨sellsOffers_of_onOffer onOffer, onOffer_step onOffer leaves⟩
  exact (StepRuns.along_of_guarded OnOffer SellsOffers oneStep start leaves).1

end ShopsWorld

section Examples

variable {world : ShopsWorld} {shop : Shop} {message : Message}

theorem onOffer_newShopsWorld {db : Db} (sound : CatalogSound db) :
    (newShopsWorld db).OnOffer where
  sound := sound
  shows resellerId _ :=
    @showsOffers_empty ⟨{ shopSettings with resellerId }, shopSurroundings⟩ db

/-- A message switches nothing. -/
theorem leavesOffers_message
    (inOrder : ∀ state ∈ [ShopState.enteringSubcategoryTitle,
        .enteringCostPrice],
      ((world.bot shop.resellerId).conversationOf (.message message)).state ≠
        some state) :
    world.LeavesOffers ⟨shop, .message message⟩ where
  puts :=
    { subfolder := fun takes =>
        absurd (of_decide_eq_true takes) (inOrder _ (by simp))
      package := fun takes =>
        absurd (of_decide_eq_true takes) (inOrder _ (by simp)) }
  unseen := by
    rintro packageId ⟨callback, number, isCallback, -⟩
    cases isCallback

/-- As long as no customer has anything on the screen, everything may be
switched. -/
theorem leavesOffers_newShopsWorld {db : Db} {callback : Callback} :
    (newShopsWorld db).LeavesOffers ⟨shop, .callback callback⟩ where
  puts :=
    { subfolder := by rintro ⟨⟩
      package := by rintro ⟨⟩ }
  unseen _ _ _ _ _ := not_onScreen_empty

/-- The product is not for sale yet. -/
def unofferedDb : Db :=
  browsingDb.modify .packages 1 fun package =>
    { package with isActive := false }

theorem catalogSound_unofferedDb : CatalogSound unofferedDb := by
  have browsing : CatalogSound browsingDb := by
    constructor
    · intro id folder operatorId found inside
      have member := KeyedTable.mem_of_row_ofRows found
      simp only [List.mem_cons, List.not_mem_nil, or_false] at member
      rcases member with rfl | rfl
      · cases inside
      · cases inside
        exact ⟨_, rfl, rfl⟩
    · intro id package found
      have member := KeyedTable.mem_of_row_ofRows found
      cases List.mem_singleton.mp member
      exact ⟨_, rfl, rfl⟩
  have keeps : KeepsCatalog (fun _ => True) browsingDb unofferedDb :=
    .modify_package (fun _ => ⟨rfl, rfl⟩) fun _ _ => .inr trivial
  exact (keeps browsing).1

/-- The owner puts the product on sale or takes it off. -/
def switchesProduct : ShopUpdate :=
  ownerTaps "catalog:toggle_pkg:package:1"

/-- The customer picks the product. -/
def picksProduct : List ShopUpdate :=
  [ShopBot.customerCatalogButtonText, "📁 ایرانسل", "📂 ماهانه",
    "📦 1 GB — 8 تومان", ShopBot.customerBuyButtonText].map
      fun text => ⟨⟨shopSettings, shopSurroundings⟩, customerTypes text⟩

/-- The customer gives the number for the order. -/
def givesNumber : ShopUpdate where
  shop := ⟨shopSettings, shopSurroundings⟩
  update := customerTypes "09123456789"

theorem sellsOffers_firstOrder :
    StepRuns.Along ShopsWorld.step ShopsWorld.SellsOffers
      (newShopsWorld unofferedDb)
      (switchesProduct :: (picksProduct ++ [givesNumber])) := by
  have orders : StepRuns.Along ShopsWorld.step
      (fun world received =>
        ∀ state ∈ [ShopState.enteringSubcategoryTitle, .enteringCostPrice],
          ((world.bot received.shop.resellerId).conversationOf
            received.update).state ≠ some state)
      (newShopsWorld unofferedDb)
      (switchesProduct :: (picksProduct ++ [givesNumber])) := by
    decide +kernel
  obtain ⟨-, first, second, third, fourth, fifth, sixth, -⟩ := orders
  apply ShopsWorld.sellsOffers_along _
    (onOffer_newShopsWorld catalogSound_unofferedDb)
  exact ⟨leavesOffers_newShopsWorld, leavesOffers_message first,
    leavesOffers_message second, leavesOffers_message third,
    leavesOffers_message fourth, leavesOffers_message fifth,
    leavesOffers_message sixth, trivial⟩

/-- The product is taken off sale before the number comes, and ordered all the
same. -/
theorem not_sellsOffers_switchedBack :
    (newShopsWorld unofferedDb).OnOffer ∧
      ¬ StepRuns.Along ShopsWorld.step ShopsWorld.SellsOffers
        (newShopsWorld unofferedDb)
        (switchesProduct ::
          (picksProduct ++ [switchesProduct, givesNumber])) := by
  refine ⟨onOffer_newShopsWorld catalogSound_unofferedDb, fun along => ?_⟩
  let reached := StepRuns.final ShopsWorld.step (newShopsWorld unofferedDb)
    (switchesProduct :: (picksProduct ++ [switchesProduct]))
  have sells : reached.SellsOffers givesNumber :=
    along.2.2.2.2.2.2.2.1
  have ran : reached.platform.db.row .orders 1 = none ∧
      (reached.step givesNumber).platform.db.row .orders 1 =
        some (numberedOrder "09123456789") ∧
      (reached.platform.db.row .packages 1).map (·.isActive) =
        some false := by
    decide +kernel
  obtain ⟨absent, created, taken⟩ := ran
  obtain ⟨-, -, ⟨package, _, _, found, -, -, sale⟩, -⟩ :=
    sells 1 _ absent created
  have isProduct : reached.platform.db.row .packages 1 = some package := found
  rw [isProduct, Option.map_some, sale.isActive] at taken
  cases taken

end Examples

end Baste
