import Baste.CatalogFootprints
import Baste.CustomerFootprints

/-!
# The catalog and the rest of a shop

The handlers of a bot besides those of the catalog leave the folders, the
packages, the price floors and the dialogues of the catalog alone.
-/

namespace Baste

namespace ShopBot

open BotScripts BotScripts.Footprint Database

/-- Everything but what belongs to the catalog. -/
def outsideCatalog : ShopFootprint where
  tables := [.resellers, .customers, .orders, .walletTransactions,
    .customerWalletTopups, .disputes, .chargeCodes, .resellerPaymentCards,
    .discountCodes, .referrals, .referralLinks, .forcedJoinChannels]
  states := (ResellerOrders.footprint []).states ++
    (ResellerChargeStock.footprint []).states ++
    (ResellerWallet.footprint []).states ++
    (ResellerSettings.footprint []).states ++
    (ResellerPaymentMethods.footprint []).states ++
    (CustomerOrders.footprint []).states ++
    (CustomerCharge.footprint []).states ++
    (CustomerWallet.footprint []).states
  others data :=
    { catalogType := data.catalogType
      operatorName := data.operatorName
      parentOperatorId := data.parentOperatorId
      categoryId := data.categoryId
      packageName := data.packageName
      salePrice := data.salePrice
      operatorId := data.operatorId
      subcategoryId := data.subcategoryId
      packageId := data.packageId }

/-- A dialogue that is part of the rest of the shop. -/
theorem le_outsideCatalog {footprint : ShopFootprint}
    (tables : footprint.tables ⊆ outsideCatalog.tables)
    (prices : footprint.prices = false)
    (states : footprint.states ⊆ outsideCatalog.states)
    (others : ∀ data, outsideCatalog.others (footprint.others data) =
      outsideCatalog.others data) :
    footprint.Le outsideCatalog where
  tables := tables
  prices _ := prices
  states := states
  others first second same := by
    rw [← others first, ← others second, same]

/-- Every handler belongs to the catalog or to the rest of the shop. -/
theorem catalog_or_admits (shop : Shop) (isOwner : Int → Bool) :
    ∀ handler ∈ handlers shop isOwner,
      handler ∈ ResellerCatalog.router shop ∨
        outsideCatalog.Admits handler := by
  have rest : ∀ {footprint : ShopFootprint} {router : List ShopHandler},
      (∀ handler ∈ router, footprint.Admits handler) →
      footprint.Le outsideCatalog → ∀ handler ∈ router,
        handler ∈ ResellerCatalog.router shop ∨
          outsideCatalog.Admits handler :=
    fun admits le handler member => .inr ((admits handler member).mono le)
  apply forall_handlers
  case staff =>
    apply forall_staffHandlers
    case start =>
      exact fun handler member =>
        .inr (ResellerStart.admits_router isOwner handler member)
    case orders =>
      exact rest (ResellerOrders.admits_router shop) (le_outsideCatalog
        (by decide) rfl (by decide) fun _ => rfl)
    case catalog => exact fun handler member => .inl member
    case chargeStock =>
      exact rest (ResellerChargeStock.admits_router shop) (le_outsideCatalog
        (by decide) rfl (by decide) fun _ => rfl)
    case wallet =>
      exact rest (ResellerWallet.admits_router shop) (le_outsideCatalog
        (by decide) rfl (by decide) fun _ => rfl)
    case settings =>
      exact rest (ResellerSettings.admits_router shop) (le_outsideCatalog
        (by decide) rfl (by decide) fun _ => rfl)
    case paymentMethods =>
      exact rest (ResellerPaymentMethods.admits_router shop) (le_outsideCatalog
        (by decide) rfl (by decide) fun _ => rfl)
    case shows => exact fun _ => .inr admits_onCallback_pure
    case lists => exact fun _ => .inr (admits_onMessage fun _ => within_pure ())
  case customerOrders =>
    exact rest (CustomerOrders.admits_router shop) (le_outsideCatalog
      (by decide) rfl (by decide) fun _ => rfl)
  case customerCharge =>
    exact rest (CustomerCharge.admits_router shop) (le_outsideCatalog
      (by decide) rfl (by decide) fun _ => rfl)
  case customerWallet =>
    exact rest (CustomerWallet.admits_router shop) (le_outsideCatalog
      (by decide) rfl (by decide) fun _ => rfl)

end ShopBot

end Baste
