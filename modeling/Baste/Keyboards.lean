import Baste.CallbackFields

/-!
# The keyboards of the bots

The inline keyboards in `utils/keyboards.py`.  The first three are shown by no
handler.
-/

namespace Baste

structure InlineKeyboardButton where
  text : String
  callbackData : String
  style : String
  deriving DecidableEq, Repr

/-- The rows of a keyboard. -/
abbrev InlineKeyboardMarkup := List (List InlineKeyboardButton)

/-- A folder, a package or a charge code in a keyboard. -/
structure ListedRow where
  id : Nat
  name : String

/-- A package with what a keyboard shows of it. -/
structure ListedPackage extends ListedRow where
  isActive : Bool

/-- A charge product with what a keyboard shows of it. -/
structure ListedProduct extends ListedRow where
  salePrice : Cents
  availableCount : Nat

/-- What a button of the catalog deletes. -/
inductive CatalogTarget where
  | operator
  | subcategory
  | package

def CatalogTarget.word : CatalogTarget → String
  | operator => "op"
  | subcategory => "sub"
  | package => "pkg"

namespace Keyboards

section Unused

def catalogButton : InlineKeyboardMarkup :=
  [[⟨"🛍 مشاهده کاتالوگ", "show_catalog", "primary"⟩]]

def topupButton : InlineKeyboardMarkup :=
  [[⟨"💳 افزایش موجودی", "topup", "primary"⟩]]

def packagePurchaseButton (packageId : Nat) : InlineKeyboardMarkup :=
  [[⟨"🛒 خرید بسته", s!"buy:{packageId}", "success"⟩]]

end Unused

section Orders

def orderReviewButtons (orderId : Nat) : InlineKeyboardMarkup :=
  [[⟨"✅ تأیید رسید", s!"approve_receipt:{orderId}", "success"⟩,
    ⟨"❌ رد رسید (فیک)", s!"reject_receipt:{orderId}", "danger"⟩]]

def activateOrderButton (orderId : Nat) : InlineKeyboardMarkup :=
  [[⟨"📦 فعال شد", s!"activate_order:{orderId}", "success"⟩]]

def sanityCheckConfirmButtons (pendingToken : String) : InlineKeyboardMarkup :=
  [[⟨"✅ بله، قیمت درست است", s!"price_confirm:{pendingToken}", "success"⟩,
    ⟨"✏️ اصلاح قیمت", s!"price_edit:{pendingToken}", "danger"⟩]]

def walletTopupReviewButtons (topupId : Nat) : InlineKeyboardMarkup :=
  [[⟨"✅ تأیید و شارژ کیف‌پول", s!"wallet_topup_confirm:{topupId}", "success"⟩,
    ⟨"❌ رد رسید", s!"wallet_topup_reject:{topupId}", "danger"⟩]]

def disputeButton (orderId : Nat) : InlineKeyboardMarkup :=
  [[⟨"🚨 ثبت درخواست استرداد", s!"open_dispute:{orderId}", "danger"⟩]]

end Orders

section Admin

def adminMainMenu : InlineKeyboardMarkup :=
  [[⟨"📋 مدیریت نماینده‌ها", "amenu:resellers", "primary"⟩],
    [⟨"💰 کیف‌پول و استرداد", "amenu:wallet", "primary"⟩],
    [⟨"⚙️ فیچرها و تنظیمات", "amenu:features", "primary"⟩],
    [⟨"📊 گزارش پلتفرم", "amenu:report", "primary"⟩],
    [⟨"🗄 بک‌آپ و ریستور", "amenu:backup", "primary"⟩]]

def backToAdminMenuButton : InlineKeyboardMarkup :=
  [[⟨"⬅️ بازگشت به منوی اصلی", "amenu:home", "primary"⟩]]

def adminResellersSubmenu : InlineKeyboardMarkup :=
  [[⟨"➕ افزودن نماینده جدید", "amenu:resellers:add", "success"⟩],
    [⟨"📋 لیست نماینده‌ها", "amenu:resellers:list", "primary"⟩],
    [⟨"⬅️ بازگشت", "amenu:home", "primary"⟩]]

def resellerRowButtons (resellerId : Nat) (status : String) :
    InlineKeyboardMarkup :=
  let toggle : InlineKeyboardButton :=
    if status = "active" then
      ⟨"⏸ تعلیق", s!"reseller_toggle:{resellerId}:suspended", "danger"⟩
    else
      ⟨"▶️ فعال‌سازی", s!"reseller_toggle:{resellerId}:active", "success"⟩
  [[toggle],
    [⟨"✏️ تغییر کمیسیون", s!"reseller_edit_commission:{resellerId}",
      "primary"⟩]]

def adminWalletSubmenu : InlineKeyboardMarkup :=
  [[⟨"💳 شارژهای در انتظار تأیید", "amenu:wallet:topups", "primary"⟩],
    [⟨"🚨 درخواست‌های استرداد", "amenu:wallet:disputes", "primary"⟩],
    [⟨"⬅️ بازگشت", "amenu:home", "primary"⟩]]

def topupConfirmButton (transactionId : Nat) : InlineKeyboardMarkup :=
  [[⟨"✅ تأیید شارژ", s!"topup_confirm:{transactionId}", "success"⟩]]

def disputeDecisionButtons (disputeId : Nat) : InlineKeyboardMarkup :=
  [[⟨"✅ تأیید استرداد", s!"dispute_approve:{disputeId}", "success"⟩,
    ⟨"❌ رد استرداد", s!"dispute_reject:{disputeId}", "danger"⟩]]

def adminFeaturesSubmenu : InlineKeyboardMarkup :=
  [[⟨"💎 تنظیم رمزارز", "amenu:features:crypto", "primary"⟩],
    [⟨"🚫 لیست سیاه", "amenu:features:blacklist", "primary"⟩],
    [⟨"📢 ارسال اطلاعیه همگانی", "amenu:features:broadcast", "primary"⟩],
    [⟨"⬅️ بازگشت", "amenu:home", "primary"⟩]]

def blacklistAddButton : InlineKeyboardMarkup :=
  [[⟨"➕ افزودن به لیست سیاه", "blacklist_add_start", "danger"⟩]]

def adminBackupSubmenu : InlineKeyboardMarkup :=
  [[⟨"🗄 گرفتن بک‌آپ الان", "backup_take", "success"⟩],
    [⟨"♻️ شروع ریستور", "backup_restore_start", "danger"⟩],
    [⟨"⬅️ بازگشت", "amenu:home", "primary"⟩]]

def restoreConfirmButtons : InlineKeyboardMarkup :=
  [[⟨"✅ تأیید نهایی ریستور", "restore_confirm", "danger"⟩,
    ⟨"❌ لغو", "restore_cancel", "primary"⟩]]

end Admin

section Panel

def resellerMainMenu : InlineKeyboardMarkup :=
  [[⟨"📦 کاتالوگ", "rmenu:catalog", "primary"⟩,
      ⟨"🧾 سفارش‌ها", "rmenu:orders", "primary"⟩],
    [⟨"💰 کیف‌پول کمیسیون", "rmenu:wallet", "primary"⟩,
      ⟨"💳 روش دریافت وجه", "rmenu:payment_methods", "primary"⟩],
    [⟨"⚙️ تنظیمات", "rmenu:settings", "primary"⟩,
      ⟨"📊 گزارش فروش", "rmenu:reports", "primary"⟩],
    [⟨"👥 آمار مشتریان", "rmenu:stats", "primary"⟩,
      ⟨"🎫 مدیریت شارژ", "rmenu:charge_stock", "primary"⟩]]

def backToResellerMenuButton : InlineKeyboardMarkup :=
  [[⟨"⬅️ بازگشت به منوی اصلی", "rmenu:home", "primary"⟩]]

/-- The last row of most keyboards of the panel. -/
def backRow (callbackData : String) : List InlineKeyboardButton :=
  [⟨"⬅️ بازگشت", callbackData, "primary"⟩]

def ordersRefreshButton : InlineKeyboardMarkup :=
  [[⟨"🔄 بروزرسانی لیست", "rmenu:orders", "primary"⟩], backRow "rmenu:home"]

def walletSubmenu : InlineKeyboardMarkup :=
  [[⟨"💳 افزایش با کارت‌به‌کارت", "wallet:topup_card", "success"⟩],
    [⟨"🌐 افزایش با زرین‌پال", "wallet:topup_zarinpal", "success"⟩],
    [⟨"💎 افزایش با رمزارز", "wallet:topup_crypto", "success"⟩],
    backRow "rmenu:home"]

def paymentMethodsSubmenu : InlineKeyboardMarkup :=
  [[⟨"📋 کارت‌های من", "pm:list_cards", "primary"⟩],
    [⟨"➕ افزودن کارت", "pm:add_card", "success"⟩],
    [⟨"🌐 تنظیم زرین‌پال شخصی", "pm:set_zarinpal", "primary"⟩],
    backRow "rmenu:home"]

/-- The text on a button that switches something off or on. -/
def toggleText (isActive : Bool) : String :=
  if isActive then "⛔️ غیرفعال کردن" else "✅ فعال کردن"

def toggleStyle (isActive : Bool) : String :=
  if isActive then "danger" else "success"

def cardRowButtons (cardId : Nat) (isActive : Bool) : InlineKeyboardMarkup :=
  [[⟨toggleText isActive, s!"pm:toggle_card:{cardId}", toggleStyle isActive⟩,
    ⟨"🗑 حذف", s!"pm:remove_card:{cardId}", "danger"⟩]]

def settingsSubmenu (referralEnabled : Bool) : InlineKeyboardMarkup :=
  let text :=
    if referralEnabled then "🔴 غیرفعال کردن رفرال" else "🟢 فعال کردن رفرال"
  let setting := if referralEnabled then "off" else "on"
  [[⟨text, s!"settings:referral_set:{setting}", "primary"⟩],
    [⟨"🔢 تنظیم درصد سود رفرال", "settings:referral_percent", "primary"⟩],
    [⟨"📢 افزودن کانال جوین اجباری", "settings:add_channel", "primary"⟩],
    [⟨"🏷 افزودن کد تخفیف", "settings:add_discount", "success"⟩],
    [⟨"📞 ثبت آیدی پشتیبانی", "settings:set_support_contact", "primary"⟩],
    backRow "rmenu:home"]

def reportsSubmenu : InlineKeyboardMarkup :=
  [[⟨"📄 خروجی اکسل ۳۰ روز اخیر", "reports:excel", "primary"⟩],
    backRow "rmenu:home"]

end Panel

section Catalog

def catalogTypeMenu : InlineKeyboardMarkup :=
  [[⟨"📦 بسته‌های اینترنتی", "catalog:menu:package", "primary"⟩],
    [⟨"🔋 شارژ", "catalog:menu:charge", "primary"⟩],
    backRow "rmenu:home"]

def catalogSubmenu (catalogType : String) : InlineKeyboardMarkup :=
  let addItemText :=
    if catalogType = "package" then "➕ افزودن بسته"
    else "➕ افزودن محصول شارژ"
  [[⟨"📋 مشاهده کاتالوگ", s!"catalog:view:{catalogType}", "primary"⟩],
    [⟨"📁 افزودن اپراتور (پوشه اصلی)", s!"catalog:add_operator:{catalogType}",
      "success"⟩],
    [⟨"📂 افزودن زیرپوشه (ماهانه/هفتگی/...)",
      s!"catalog:add_subcategory:{catalogType}", "success"⟩],
    [⟨addItemText, s!"catalog:add_package:{catalogType}", "success"⟩],
    [⟨"📋 مدیریت/ویرایش پوشه‌ها", s!"catalog:manage:{catalogType}",
      "primary"⟩],
    backRow "rmenu:catalog"]

def catalogManageOperatorListButtons (operators : List ListedRow)
    (catalogType : String) : InlineKeyboardMarkup :=
  (operators.map fun operator =>
      [⟨s!"📁 {operator.name}",
        s!"catalog:manage_op:{catalogType}:{operator.id}", "primary"⟩]) ++
    [backRow s!"catalog:menu:{catalogType}"]

def catalogManageOperatorDetailButtons (catalogType : String)
    (operatorId : Nat) (subcategories : List ListedRow) :
    InlineKeyboardMarkup :=
  [⟨"✏️ ویرایش نام", s!"catalog:edit_op_name:{catalogType}:{operatorId}",
      "primary"⟩,
    ⟨"🗑 حذف", s!"catalog:del_op:{catalogType}:{operatorId}", "danger"⟩] ::
  (subcategories.map fun subcategory =>
      [⟨s!"📂 {subcategory.name}",
        s!"catalog:manage_sub:{catalogType}:{subcategory.id}", "primary"⟩]) ++
    [backRow s!"catalog:manage:{catalogType}"]

def catalogManageSubcategoryDetailButtons (catalogType : String)
    (operatorId subcategoryId : Nat) (products : List ListedPackage) :
    InlineKeyboardMarkup :=
  [⟨"✏️ ویرایش عنوان",
      s!"catalog:edit_sub_title:{catalogType}:{subcategoryId}", "primary"⟩,
    ⟨"🗑 حذف", s!"catalog:del_sub:{catalogType}:{subcategoryId}",
      "danger"⟩] ::
  (products.map fun product =>
      let mark := if product.isActive then "✅" else "⛔️"
      [⟨s!"{mark} {product.name}",
        s!"catalog:manage_pkg:{catalogType}:{product.id}", "primary"⟩]) ++
    [backRow s!"catalog:manage_op:{catalogType}:{operatorId}"]

def catalogManagePackageDetailButtons (catalogType : String)
    (subcategoryId packageId : Nat) (isActive : Bool) :
    InlineKeyboardMarkup :=
  [[⟨"✏️ ویرایش نام", s!"catalog:edit_pkg_name:{catalogType}:{packageId}",
      "primary"⟩,
      ⟨"✏️ ویرایش قیمت فروش",
        s!"catalog:edit_pkg_price:{catalogType}:{packageId}", "primary"⟩],
    [⟨"✏️ ویرایش قیمت خرید",
      s!"catalog:edit_pkg_cost:{catalogType}:{packageId}", "primary"⟩,
      ⟨toggleText isActive, s!"catalog:toggle_pkg:{catalogType}:{packageId}",
        toggleStyle isActive⟩],
    [⟨"🗑 حذف", s!"catalog:del_pkg:{catalogType}:{packageId}", "danger"⟩],
    backRow s!"catalog:manage_sub:{catalogType}:{subcategoryId}"]

def catalogDeleteConfirmButtons (catalogType : String)
    (target : CatalogTarget) (targetId : Nat) : InlineKeyboardMarkup :=
  [[⟨"✅ بله، حذف کن",
      s!"catalog:del_{target.word}_yes:{catalogType}:{targetId}", "danger"⟩,
    ⟨"❌ انصراف", s!"catalog:del_{target.word}_no:{catalogType}:{targetId}",
      "primary"⟩]]

def packageEditPriceConfirmButtons (token : String) : InlineKeyboardMarkup :=
  [[⟨"✅ بله، قیمت درست است", s!"pkgedit_price_confirm:{token}", "success"⟩,
    ⟨"✏️ اصلاح قیمت", s!"pkgedit_price_edit:{token}", "danger"⟩]]

def operatorPickButtons (operators : List ListedRow) (purpose : String)
    (catalogType : String) : InlineKeyboardMarkup :=
  let start :=
    if purpose = "sub" then "catalog:pick_operator_for_sub"
    else "catalog:pick_operator_for_pkg"
  (operators.map fun operator =>
      [⟨s!"📁 {operator.name}", s!"{start}:{catalogType}:{operator.id}",
        "primary"⟩]) ++
    [backRow s!"catalog:menu:{catalogType}"]

def categoryPickButtons (categories : List ListedRow) (catalogType : String) :
    InlineKeyboardMarkup :=
  (categories.map fun category =>
      [⟨s!"📂 {category.name}",
        s!"catalog:pick_category:{catalogType}:{category.id}", "primary"⟩]) ++
    [backRow s!"catalog:add_package:{catalogType}"]

end Catalog

section Stock

def chargeStockMenu : InlineKeyboardMarkup :=
  [[⟨"➕ افزودن کد", "cstock:pick:add", "success"⟩],
    [⟨"📋 نمایش کدهای موجود", "cstock:pick:list", "primary"⟩],
    [⟨"🗑 حذف موجودی", "cstock:pick:remove", "danger"⟩],
    [⟨"🧾 کدهای فروخته‌شده", "cstock:pick:sold", "primary"⟩],
    backRow "rmenu:home"]

def chargeOperatorPickButtons (operators : List ListedRow)
    (action : String) : InlineKeyboardMarkup :=
  (operators.map fun operator =>
      [⟨s!"📁 {operator.name}", s!"cstock:op:{action}:{operator.id}",
        "primary"⟩]) ++
    [backRow "rmenu:charge_stock"]

def chargeCategoryPickButtons (categories : List ListedRow)
    (action : String) : InlineKeyboardMarkup :=
  (categories.map fun category =>
      [⟨s!"📂 {category.name}", s!"cstock:cat:{action}:{category.id}",
        "primary"⟩]) ++
    [backRow ("cstock:pick:" ++ action)]

def chargeProductPickButtons (products : List ListedProduct)
    (action : String) : InlineKeyboardMarkup :=
  (products.map fun product =>
      let price := formatAmount product.salePrice
      [⟨s!"🔋 {product.name} — {price} تومان ({product.availableCount} موجود)",
        s!"cstock:prod:{action}:{product.id}", "primary"⟩]) ++
    [backRow "rmenu:charge_stock"]

def chargeCodeRemoveButtons (codes : List ListedRow) (packageId : Nat) :
    InlineKeyboardMarkup :=
  (codes.map fun code =>
      [⟨s!"🗑 {code.name}", s!"cstock:delcode:{code.id}:{packageId}",
        "danger"⟩]) ++
    [[⟨"🗑 حذف همه‌ی موجودی این محصول", s!"cstock:clearall:{packageId}",
      "danger"⟩], backRow "rmenu:charge_stock"]

end Stock

end Keyboards

end Baste
