import Baste.BotDeeds
import Baste.Referrals

/-!
# The deeds of a shop's bot

Router by router, what the handlers of a reseller's bot do to the database.
-/

namespace Baste

open BotScripts Database

namespace ShopBot

variable {shop : Shop}

theorem does_getOrCreateCustomer {resellerId : Nat} {userId : Int} :
    Does (getOrCreateCustomer resellerId userId) := by
  refine does_after (keeps_query _) fun customers => ?_
  cases customers with
  | nil => exact does_executeInsert rfl
  | cons customerId _ => exact does_pure customerId

namespace ResellerOrders

theorem doesDeeds_onPermitted {test : Option ShopState → String → Bool}
    {action : Callback → ShopScript Unit}
    (does : ∀ callback, Does (action callback)) :
    DoesDeeds (onPermitted shop test action) :=
  doesDeeds_onCallback fun callback =>
    does_after (keeps_query _) fun _ => does_ite (does callback) (does_pure ())

theorem doesDeeds_confirmWalletTopup : DoesDeeds (confirmWalletTopup shop) := by
  apply doesDeeds_onPermitted
  intro callback
  refine does_after (keeps_integerField _ _) fun topupId => ?_
  apply (does_attempt _).bind
  intro outcome
  split
  · exact does_pure ()
  · exact does_pure ()
  · exact does_pure ()
  · exact does_throw _

theorem does_createDispute {orderId resellerId : Nat}
    (reason : Option String) :
    Does (createDispute orderId resellerId reason) := by
  cases reason with
  | some reason => exact (does_call _).bind fun _ => does_pure ()
  | none =>
      have changes := @does_executeWrite ShopState ShopData _
        fun _ => @BotDeed.disputed _ orderId
      exact changes.bind fun _ => does_throw _

theorem doesDeeds_submitDisputeReason : DoesDeeds submitDisputeReason := by
  apply doesDeeds_onMessage
  intro message
  refine does_after keeps_getData fun data => ?_
  refine does_after (keeps_required _ _) fun orderId => ?_
  refine does_after (keeps_query _) fun found => ?_
  refine does_after (keeps_required _ _) fun order => ?_
  exact (does_createDispute _).bind fun _ => does_clear

theorem doesDeeds_router : ∀ handler ∈ router shop, DoesDeeds handler := by
  simp only [router, List.forall_mem_cons, List.not_mem_nil, false_imp_iff,
    implies_true, and_true]
  exact ⟨doesDeeds_onPermitted fun _ => does_pure (),
    doesDeeds_onPermitted fun _ => does_numberedCall,
    doesDeeds_onPermitted fun _ => does_numberedCall,
    doesDeeds_onPermitted fun _ => does_numberedCall,
    doesDeeds_confirmWalletTopup,
    doesDeeds_onPermitted fun _ => does_numberedCall,
    doesDeeds_of_admits (admits_openDispute shop []) (List.nil_subset _),
    doesDeeds_submitDisputeReason⟩

end ResellerOrders

namespace ResellerCatalog

section Deletions

variable {first second third : Db}

theorem clearsCatalog_deletePackages {packageIds : List Nat}
    (deleted : deletePackages packageIds first = some second) :
    ClearsCatalog first second where
  rows := (sameOutside_deletePackages deleted).mono (List.subset_cons_self _ _)
  codes := codesOnlyGo_deletePackages deleted
  spares id code found ordered := by
    unfold deletePackages at deleted
    split at deleted
    · next unordered =>
      cases deleted
      rw [row_erase_of_ne (by decide), row_erase_of_notMem, found]
      intro listed
      obtain ⟨other, isOther, inside⟩ := mem_idsWhere.mp listed
      cases found.symm.trans isOther
      obtain ⟨orderId, order, isOrder, refers⟩ := ordered
      have samePackage := List.mem_singleton.mp refers
      have among : orderId ∈ first.idsWhere .orders
          (·.packageId ∈ packageIds) :=
        mem_idsWhere.mpr ⟨order, isOrder, by rw [samePackage]; exact inside⟩
      rw [unordered] at among
      cases among
    · cases deleted
  ordered id ordered := by
    unfold deletePackages at deleted
    split at deleted
    · next unordered =>
      cases deleted
      rw [row_erase_of_notMem, row_erase_of_ne (by decide)]
      intro listed
      obtain ⟨orderId, order, isOrder, refers⟩ := ordered
      have samePackage := List.mem_singleton.mp refers
      have among : orderId ∈ first.idsWhere .orders
          (·.packageId ∈ packageIds) :=
        mem_idsWhere.mpr ⟨order, isOrder, by simpa [samePackage] using listed⟩
      rw [unordered] at among
      cases among
    · cases deleted

theorem clearsCatalog_deleteCategories {categoryIds : List Nat}
    (deleted : deleteCategories categoryIds first = some second) :
    ClearsCatalog first second := by
  obtain ⟨between, packages, rfl⟩ := Option.map_eq_some_iff.mp deleted
  have folders : SameOutside [.categories] between
      ((releaseFolders (insideOf categoryIds between) between).erase
        .categories categoryIds) :=
    (sameOutside_releaseFolders _ between).trans (.erase (by decide))
  refine (clearsCatalog_deletePackages packages).trans ⟨?_, ?_, ?_, ?_⟩
  · exact folders.mono (by decide)
  · intro id code found
    rw [← found]
    exact (folders.rows .chargeCodes (by decide) id).symm
  · intro id code found _
    rw [← found]
    exact folders.rows .chargeCodes (by decide) id
  · exact fun id _ => folders.rows .packages (by decide) id

theorem clearsCatalog_deleteOperatorTree {operatorId : Nat}
    (deleted : deleteOperatorTree operatorId first = some second) :
    ClearsCatalog first second := by
  rcases of_deleteOperatorTree deleted with
    alone | ⟨_, _, _, packages, categories, last⟩
  · exact clearsCatalog_deleteCategories alone
  · exact ((clearsCatalog_deletePackages packages).trans
      (clearsCatalog_deleteCategories categories)).trans
        (clearsCatalog_deleteCategories last)

theorem clearsCatalog_deleteSubcategoryTree {subcategoryId : Nat}
    (deleted : deleteSubcategoryTree subcategoryId first = some second) :
    ClearsCatalog first second := by
  obtain ⟨_, packages, categories⟩ := Option.bind_eq_some_iff.mp deleted
  exact (clearsCatalog_deletePackages packages).trans
    (clearsCatalog_deleteCategories categories)

end Deletions

theorem keeps_typeAndId {callback : Callback} :
    KeepsPlatform (fun platform => platform.db) (typeAndId callback) :=
  (keeps_dataField _ _).bind fun _ =>
    (keeps_integerField _ _).bind fun _ => Failing.keeps_pure _

theorem doesDeeds_deleteConfirmed {start : String}
    {delete : Nat → Db → Option Db}
    (clears : ∀ id db after, delete id db = some after →
      ClearsCatalog db after) :
    DoesDeeds (deleteConfirmed start delete) := by
  apply doesDeeds_onCallback
  intro callback
  refine does_after keeps_typeAndId fun named visit => ?_
  dsimp only
  rw [visit_inTransaction]
  dsimp only
  cases deleted : delete (rowId named.2) visit.platform.db with
  | none => exact .refl
  | some after => exact .single (.deletion (clears _ _ after deleted))

theorem doesDeeds_folderHandlers :
    ∀ handler ∈ folderHandlers shop, DoesDeeds handler := by
  simp only [folderHandlers, List.forall_mem_cons, List.not_mem_nil,
    false_imp_iff, implies_true, and_true]
  exact ⟨doesDeeds_of_admits (admits_receiveOperatorNameAndSave shop)
      (by decide),
    doesDeeds_of_admits (admits_receiveSubcategoryTitleAndSave shop)
      (by decide),
    doesDeeds_of_admits admits_saveOperatorNameEdit (by decide),
    doesDeeds_of_admits admits_saveSubcategoryTitleEdit (by decide),
    doesDeeds_deleteConfirmed fun _ _ _ => clearsCatalog_deleteOperatorTree,
    doesDeeds_deleteConfirmed fun _ _ _ =>
      clearsCatalog_deleteSubcategoryTree⟩

theorem does_storedAmount {amount : Numerals.Decimal} :
    Does (storedAmount amount : ShopScript Cents) := by
  cases amount with
  | finite amount => exact does_pure _
  | infinity | nan => exact does_throw _

theorem does_updatePackage {packageId : Nat} {held : Bool}
    {change : PackageRow → PackageRow} :
    Does (executeUpdate .packages packageId held change :
      ShopScript Unit) :=
  does_executeUpdate fun _ => .package

theorem doesDeeds_receiveCostPriceAndSave :
    DoesDeeds (receiveCostPriceAndSave shop) := by
  apply doesDeeds_onMessage
  intro message
  refine does_after (keeps_required _ _) fun text => ?_
  cases typedAmount text with
  | none => exact does_pure ()
  | some costPrice =>
      refine does_after keeps_getData fun data => ?_
      refine does_after (keeps_required _ _) fun categoryId => ?_
      refine does_after (keeps_required _ _) fun packageName => ?_
      refine does_after (keeps_required _ _) fun salePrice => ?_
      have inserts : Does (insertPackage shop.resellerId categoryId
          packageName salePrice costPrice) := by
        apply does_storedAmount.bind
        intro salePrice
        apply does_storedAmount.bind
        intro costPrice
        have puts := @does_executeInsert ShopState ShopData .packages
        exact (puts trivial).bind fun _ => does_pure ()
      exact inserts.bind fun _ => does_clear

theorem doesDeeds_savePackageNameEdit : DoesDeeds savePackageNameEdit := by
  apply doesDeeds_onMessage
  intro message
  refine does_after keeps_getData fun data => ?_
  refine does_after (keeps_strippedText message) fun newName => ?_
  refine does_after (keeps_required _ _) fun packageId => ?_
  exact does_updatePackage.bind fun _ =>
    does_of_keeps keeps_answerWithSubmenu

theorem does_executePrice {packageId : Nat} {price : Numerals.Decimal}
    {change : Cents → PackageRow → PackageRow} :
    Does (executePrice packageId price change) := by
  refine does_after (keeps_query _) fun found => ?_
  refine does_ite ?_ (does_pure ())
  apply does_storedAmount.bind
  intro cents
  exact does_executeWrite fun _ => .package

theorem does_setPendingEditPrice {token : String}
    {price : Option PendingEditPrice} :
    Does (setPendingEditPrice token price) :=
  does_within (@within_setPendingEditPrice [] token price) (List.nil_subset _)

theorem doesDeeds_receivePackagePriceEdit :
    DoesDeeds (receivePackagePriceEdit shop) := by
  apply doesDeeds_onMessage
  intro message
  refine does_after (keeps_required _ _) fun text => ?_
  cases typedAmount text with
  | none => exact does_pure ()
  | some price =>
      refine does_after keeps_getData fun data => ?_
      refine does_after (keeps_required _ _) fun packageId => ?_
      refine does_after (keeps_query _) fun operatorName => ?_
      have asks : Does (isPriceSuspicious operatorName price) :=
        does_within (@within_isPriceSuspicious (footprint []) _ _)
          (List.nil_subset _)
      apply asks.bind
      intro suspicious
      apply does_ite
      · refine does_after (keeps_required _ _) fun catalogType => ?_
        apply does_setPendingEditPrice.bind
        exact fun _ => does_of_keeps (keeps_setState _)
      · exact does_executePrice.bind fun _ =>
          does_of_keeps keeps_answerWithSubmenu

theorem doesDeeds_confirmEditSuspiciousPrice :
    DoesDeeds confirmEditSuspiciousPrice := by
  apply doesDeeds_onCallback
  intro callback
  refine does_after (keeps_dataField _ _) fun token => ?_
  refine does_after Failing.keeps_get fun visit => ?_
  apply does_setPendingEditPrice.bind
  intro _
  cases visit.platform.pendingEditPriceConfirmations token with
  | none => exact does_pure ()
  | some pending => exact does_executePrice.bind fun _ => does_clear

theorem doesDeeds_savePackageCostEdit : DoesDeeds savePackageCostEdit := by
  apply doesDeeds_onMessage
  intro message
  refine does_after (keeps_required _ _) fun text => ?_
  cases typedAmount text with
  | none => exact does_pure ()
  | some costPrice =>
      refine does_after keeps_getData fun data => ?_
      refine does_after (keeps_required _ _) fun packageId => ?_
      exact does_executePrice.bind fun _ =>
        does_of_keeps keeps_answerWithSubmenu

theorem doesDeeds_togglePackageActive : DoesDeeds togglePackageActive := by
  apply doesDeeds_onCallback
  intro callback
  refine does_after keeps_typeAndId fun named => ?_
  exact does_executeWrite fun _ => .package

theorem doesDeeds_packageHandlers :
    ∀ handler ∈ packageHandlers shop, DoesDeeds handler := by
  simp only [packageHandlers, List.forall_mem_cons, List.not_mem_nil,
    false_imp_iff, implies_true, and_true]
  exact ⟨doesDeeds_receiveCostPriceAndSave, doesDeeds_savePackageNameEdit,
    doesDeeds_receivePackagePriceEdit, doesDeeds_confirmEditSuspiciousPrice,
    doesDeeds_savePackageCostEdit, doesDeeds_togglePackageActive⟩

theorem doesDeeds_router : ∀ handler ∈ router shop, DoesDeeds handler := by
  intro handler member
  rcases writer_or_admits shop handler member with writes | beside
  · rcases List.mem_append.mp writes with early | edits
    · rcases List.mem_append.mp early with folder | deletes
      · exact doesDeeds_folderHandlers handler folder
      · cases List.mem_singleton.mp deletes
        exact doesDeeds_deleteConfirmed
          fun _ _ _ => clearsCatalog_deletePackages
    · exact doesDeeds_packageHandlers handler edits
  · exact doesDeeds_of_admits beside (List.nil_subset _)

end ResellerCatalog

namespace ResellerChargeStock

theorem doesDeeds_receiveChargeCodes :
    DoesDeeds (receiveChargeCodes shop) := by
  apply doesDeeds_onMessage
  intro message
  refine does_after keeps_getData fun data => ?_
  split
  · apply does_ite
    · apply (does_call _).bind
      intro added
      exact does_ite does_clear (does_pure ())
    · exact does_pure ()
  · exact does_pure ()

theorem doesDeeds_deleteSingleCode : DoesDeeds deleteSingleCode := by
  apply doesDeeds_onCallback
  intro callback
  refine does_after (keeps_integerField _ _) fun codeId => ?_
  refine does_after (keeps_integerField _ _) fun page => ?_
  exact (does_call _).bind fun _ => does_pure ()

theorem doesDeeds_clearAllCodes : DoesDeeds clearAllCodes := by
  apply doesDeeds_onCallback
  intro callback
  refine does_after (keeps_integerField _ _) fun packageId => ?_
  exact (does_call _).bind fun _ => does_pure ()

theorem doesDeeds_router : ∀ handler ∈ router shop, DoesDeeds handler := by
  have rest : ∀ {handler : ShopHandler}, (footprint []).Admits handler →
      DoesDeeds handler :=
    fun admits => doesDeeds_of_admits admits (List.nil_subset _)
  simp only [router, List.forall_mem_cons, List.not_mem_nil, false_imp_iff,
    implies_true, and_true]
  exact ⟨rest admits_onCallback_pure, rest (admits_pickOperatorForAction _),
    rest (admits_pickCategoryForAction _),
    rest (admits_pickProductForAction _), rest (admits_actOnProduct _),
    doesDeeds_receiveChargeCodes, doesDeeds_deleteSingleCode,
    doesDeeds_clearAllCodes⟩

end ResellerChargeStock

namespace ResellerWallet

theorem does_requestTopup {resellerId : Nat} {amount : Numerals.Decimal}
    {method : PaymentMethod} {reference : Option String} :
    Does (requestTopup resellerId amount method reference) := by
  cases amount with
  | finite amount =>
      exact does_ite ((does_call _).bind fun _ => does_pure ()) (does_throw _)
  | infinity | nan => exact does_throw _

theorem doesDeeds_receiveTopupAmount :
    DoesDeeds (receiveTopupAmount shop) := by
  apply doesDeeds_onMessage
  intro message
  refine does_after (keeps_required _ _) fun text => ?_
  cases typedAmount text with
  | none => exact does_pure ()
  | some amount => exact does_requestTopup.bind fun _ => does_clear

theorem doesDeeds_receiveCryptoAmountAndSave :
    DoesDeeds (receiveCryptoAmountAndSave shop) := by
  apply doesDeeds_onMessage
  intro message
  refine does_after (keeps_required _ _) fun text => ?_
  cases typedAmount text with
  | none => exact does_pure ()
  | some amount =>
      refine does_after keeps_getData fun data => ?_
      refine does_after (keeps_required _ _) fun coinName => ?_
      refine does_after (keeps_required _ _) fun txHash => ?_
      exact does_requestTopup.bind fun _ => does_clear

theorem doesDeeds_router : ∀ handler ∈ router shop, DoesDeeds handler := by
  have rest : ∀ {handler : ShopHandler}, (footprint []).Admits handler →
      DoesDeeds handler :=
    fun admits => doesDeeds_of_admits admits (List.nil_subset _)
  simp only [router, List.forall_mem_cons, List.not_mem_nil, false_imp_iff,
    implies_true, and_true]
  exact ⟨rest admits_onCallback_pure, rest (admits_startTopupCard _),
    doesDeeds_receiveTopupAmount, rest (admits_startTopupZarinpal _),
    rest (admits_receiveZarinpalAmount _), rest (admits_showCryptoOptions _),
    rest (admits_receiveCryptoCoin _), rest (admits_receiveCryptoTxHash _),
    doesDeeds_receiveCryptoAmountAndSave⟩

end ResellerWallet

/-- A setting of the reseller is replaced. -/
theorem doesDeeds_resellerSetting {state : ShopState} {limit : Nat}
    {change : String → ResellerRow → ResellerRow}
    (kept : ∀ text reseller,
      (change text reseller).account = reseller.account) :
    DoesDeeds (onMessage (inState state) fun message => do
      let text ← strippedText message
      executeUpdate .resellers shop.resellerId (text.length ≤ limit)
        (change text)
      clear : ShopHandler) := by
  apply doesDeeds_onMessage
  intro message
  refine does_after (keeps_strippedText _) fun text => ?_
  have updates := @does_executeUpdate ShopState ShopData .resellers
    shop.resellerId (text.length ≤ limit) (change text)
      fun _ => .reseller (kept text)
  exact updates.bind fun _ => does_clear

theorem ResellerSettings.doesDeeds_router :
    ∀ handler ∈ router shop, DoesDeeds handler := by
  have rest : ∀ {handler : ShopHandler},
      (footprint [.referrals]).Admits handler → DoesDeeds handler :=
    fun admits => doesDeeds_of_admits admits (by decide)
  simp only [router, List.forall_mem_cons, List.not_mem_nil, false_imp_iff,
    implies_true, and_true]
  exact ⟨rest (admits_settingsMenu shop), rest (admits_toggleReferral shop),
    rest (admits_startReferralPercent _),
    rest (admits_receiveReferralPercent shop), rest (admits_startAddChannel _),
    doesDeeds_of_admits (admits_receiveChannelId shop) (by decide),
    rest (admits_startAddDiscount _), rest (admits_receiveDiscountCode _),
    rest (admits_receiveDiscountPercent _),
    doesDeeds_of_admits (admits_receiveDiscountUsageLimitAndSave shop)
      (by decide),
    rest (admits_startSetSupportContact _),
    doesDeeds_resellerSetting fun _ _ => rfl⟩

theorem ResellerPaymentMethods.doesDeeds_router :
    ∀ handler ∈ router shop, DoesDeeds handler := by
  have rest : ∀ {handler : ShopHandler},
      (footprint [.resellerPaymentCards]).Admits handler → DoesDeeds handler :=
    fun admits => doesDeeds_of_admits admits (by decide)
  simp only [router, List.forall_mem_cons, List.not_mem_nil, false_imp_iff,
    implies_true, and_true]
  exact ⟨rest admits_onCallback_pure, rest admits_onCallback_pure,
    rest (admits_toggleCardCb shop), rest (admits_removeCardCb shop),
    rest (admits_startAddCard _), rest (admits_receiveCardNumber _),
    rest (admits_receiveCardHolder _),
    rest (admits_receiveBankNameAndSave shop), rest (admits_showZarinpal _),
    doesDeeds_resellerSetting fun _ _ => rfl⟩

namespace CustomerOrders

theorem does_registerReferral {resellerId referredCustomerId : Nat}
    {referrerCustomerId : Int} :
    Does (registerReferral resellerId referrerCustomerId
      referredCustomerId) := by
  intro visit
  dsimp only
  rw [db_registerReferral, withLink]
  split_ifs
  · exact .single (.insert trivial)
  · exact .single (.settings .reserve (List.nil_subset _))
  · exact .refl

theorem doesDeeds_customerStart : DoesDeeds (customerStart shop) := by
  apply doesDeeds_onMessage
  intro message
  refine does_after keeps_clear fun _ => ?_
  refine does_after (keeps_required _ _) fun text => ?_
  apply does_getOrCreateCustomer.bind
  intro customerId
  split
  · exact does_pure ()
  · exact does_registerReferral

theorem does_processPurchase {userId : Int} {phoneNumber : String} :
    Does (processPurchase shop userId phoneNumber) := by
  refine does_after keeps_getData fun data => ?_
  split
  · exact does_clear
  · apply does_getOrCreateCustomer.bind
    intro customerId
    apply (does_attempt _).bind
    intro paid
    split
    · exact does_clear
    · exact does_clear
    · apply (does_attempt _).bind
      intro ordered
      split
      · exact does_of_keeps (keeps_nextQuestion _ _)
      · exact does_clear
      · exact does_throw _
    · exact does_throw _

theorem doesDeeds_applyDiscountCode : DoesDeeds (applyDiscountCode shop) := by
  apply doesDeeds_onMessage
  intro message
  refine does_after (keeps_required _ _) fun text => ?_
  refine does_after (keeps_required _ _) fun rest => ?_
  refine does_after keeps_getData fun data => ?_
  refine does_after (keeps_query _) fun order => ?_
  refine does_after (keeps_query _) fun found => ?_
  split
  · exact does_pure ()
  · exact does_throw _
  · refine does_after (keeps_required _ _) fun order => ?_
    apply (does_executeWrite fun _ => .discount).bind
    intro _
    apply does_executeWrite
    intro db
    exact @BotDeed.settings _ _ [.discountCodes] (.modify (by decide))
      (by decide)

theorem doesDeeds_receiveReceipt : DoesDeeds (receiveReceipt shop) := by
  apply doesDeeds_onMessage
  intro message
  refine does_after (keeps_required _ _) fun receiptFileId => ?_
  refine does_after keeps_getData fun data => ?_
  refine does_after (keeps_required _ _) fun orderId => ?_
  apply (does_attempt _).bind
  intro outcome
  split
  · exact does_clear
  · exact does_clear
  · exact does_pure ()
  · exact does_throw _

theorem doesDeeds_receivePhoneNumberText :
    DoesDeeds (receivePhoneNumberText shop) := by
  apply doesDeeds_onMessage
  intro message
  refine does_after (keeps_required _ _) fun text => ?_
  split
  · exact does_pure ()
  · exact does_processPurchase

theorem doesDeeds_router : ∀ handler ∈ router shop, DoesDeeds handler := by
  have rest : ∀ {handler : ShopHandler}, (footprint []).Admits handler →
      DoesDeeds handler :=
    fun admits => doesDeeds_of_admits admits (List.nil_subset _)
  simp only [router, List.forall_mem_cons, List.not_mem_nil, false_imp_iff,
    implies_true, and_true]
  exact ⟨doesDeeds_of_admits (admits_customerCancel []) (List.nil_subset _),
    doesDeeds_customerStart,
    doesDeeds_onMessage fun _ => does_pure (),
    rest (admits_showCatalogFromKeyboard shop _),
    rest (admits_handleOperatorPick _),
    rest (admits_handleSubcategoryPick shop _),
    rest (admits_handlePackagePick _),
    rest (admits_handlePackageDetailBack _), rest (admits_handleBuyButton _),
    rest (admits_cancelPhoneNumberEntry _),
    doesDeeds_onMessage fun _ =>
      does_after (keeps_required _ _) fun _ => does_processPurchase,
    doesDeeds_receivePhoneNumberText, doesDeeds_applyDiscountCode,
    doesDeeds_receiveReceipt⟩

end CustomerOrders

namespace CustomerCharge

theorem doesDeeds_handleChargeQuantityInput :
    DoesDeeds (handleChargeQuantityInput shop) := by
  apply doesDeeds_onMessage
  intro message
  refine does_after keeps_getData fun data => ?_
  split
  · exact does_clear
  · dsimp only
    split
    · exact does_pure ()
    · refine does_after (keeps_query _) fun package => ?_
      apply does_ite
      · exact does_clear
      · apply does_getOrCreateCustomer.bind
        intro customerId
        apply (does_attempt _).bind
        intro outcome
        split
        · exact does_clear
        · exact does_clear
        · exact does_pure ()
        · exact does_pure ()
        · exact does_throw _

theorem doesDeeds_router : ∀ handler ∈ router shop, DoesDeeds handler := by
  have rest : ∀ {handler : ShopHandler}, (footprint []).Admits handler →
      DoesDeeds handler :=
    fun admits => doesDeeds_of_admits admits (List.nil_subset _)
  simp only [router, List.forall_mem_cons, List.not_mem_nil, false_imp_iff,
    implies_true, and_true]
  exact ⟨rest (admits_showChargeCatalogFromKeyboard shop _),
    rest (admits_handleChargeOperatorPick _),
    rest (admits_handleChargeSubcategoryPick _),
    rest (admits_handleChargeProductPick _),
    rest (admits_handleChargeDetailBack _),
    rest (admits_handleBuyChargeButton _),
    rest (admits_handleChargeQuantityBack _),
    doesDeeds_handleChargeQuantityInput⟩

end CustomerCharge

namespace CustomerWallet

theorem does_openWallet {userId : Int} : Does (openWallet shop userId) :=
  does_after keeps_clear fun _ =>
    does_getOrCreateCustomer.bind fun _ => does_pure ()

theorem doesDeeds_chooseTopupMethod : DoesDeeds (chooseTopupMethod shop) := by
  apply doesDeeds_onMessage
  intro message
  apply does_ite
  · exact does_after keeps_clear fun _ => does_openWallet
  · split
    · exact does_pure ()
    · exact does_of_keeps (keeps_nextQuestion _ _)

theorem does_createTopupRequest {resellerId customerId : Nat}
    {amount : Numerals.Decimal} {method : PaymentMethod} :
    Does (createTopupRequest resellerId customerId amount method) := by
  have stored : KeepsPlatform (fun platform => platform.db)
      (storedAmount amount : ShopScript Cents) := by
    cases amount with
    | finite amount => exact Failing.keeps_pure _
    | infinity | nan => exact Failing.keeps_throw _
  refine does_after stored fun cents => ?_
  exact @does_executeInsert _ _ .customerWalletTopups _ _ ⟨rfl, rfl⟩

theorem doesDeeds_receiveTopupAmount :
    DoesDeeds (receiveTopupAmount shop) := by
  apply doesDeeds_onMessage
  intro message
  refine does_after (keeps_required _ _) fun text => ?_
  split
  · exact does_pure ()
  · refine does_after keeps_getData fun data => ?_
    refine does_after (keeps_required _ _) fun method => ?_
    apply does_getOrCreateCustomer.bind
    intro customerId
    apply does_createTopupRequest.bind
    intro topupId
    exact does_of_keeps (keeps_nextQuestion _ _)

theorem doesDeeds_receiveTopupReceipt : DoesDeeds receiveTopupReceipt := by
  apply doesDeeds_onMessage
  intro message
  refine does_after (keeps_required _ _) fun receiptFileId => ?_
  refine does_after keeps_getData fun data => ?_
  split
  · exact does_clear
  · exact (does_executeWrite fun _ => .receipt).bind fun _ => does_clear

theorem doesDeeds_router : ∀ handler ∈ router shop, DoesDeeds handler := by
  simp only [router, List.forall_mem_cons, List.not_mem_nil, false_imp_iff,
    implies_true, and_true]
  exact ⟨doesDeeds_onMessage fun _ => does_openWallet,
    doesDeeds_of_admits (admits_startTopup shop []) (List.nil_subset _),
    doesDeeds_chooseTopupMethod, doesDeeds_receiveTopupAmount,
    doesDeeds_receiveTopupReceipt⟩

end CustomerWallet

/-- Every handler of a reseller's bot does such deeds only. -/
theorem doesDeeds_handlers (shop : Shop) (isOwner : Int → Bool) :
    ∀ handler ∈ handlers shop isOwner, DoesDeeds handler := by
  apply forall_handlers
  case staff =>
    apply forall_staffHandlers
    case start =>
      intro handler member
      exact doesDeeds_of_admits (@ResellerStart.admits_router
        (ResellerChargeStock.footprint []) isOwner handler member)
          (List.nil_subset _)
    case orders => exact ResellerOrders.doesDeeds_router
    case catalog => exact ResellerCatalog.doesDeeds_router
    case chargeStock => exact ResellerChargeStock.doesDeeds_router
    case wallet => exact ResellerWallet.doesDeeds_router
    case settings => exact ResellerSettings.doesDeeds_router
    case paymentMethods => exact ResellerPaymentMethods.doesDeeds_router
    case shows => exact fun _ => doesDeeds_onCallback fun _ => does_pure ()
    case lists => exact fun _ => doesDeeds_onMessage fun _ => does_pure ()
  case customerOrders => exact CustomerOrders.doesDeeds_router
  case customerCharge => exact CustomerCharge.doesDeeds_router
  case customerWallet => exact CustomerWallet.doesDeeds_router

end ShopBot

end Baste
