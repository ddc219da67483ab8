import Baste.BotFootprints
import Baste.ShopRuns

/-!
# Footprints of the panel

What the handlers of a reseller and the reseller's operators may touch, except
for those of the catalog.  Every router keeps to the data of its own dialogues.
-/

namespace Baste

namespace ShopBot

open BotScripts BotScripts.Footprint Database

abbrev ShopFootprint := Footprint ShopState ShopData

section Shared

variable {footprint : ShopFootprint}

theorem within_getOrCreateCustomer {resellerId : Nat} {userId : Int}
    (inside : .customers ∈ footprint.tables) :
    footprint.Within (getOrCreateCustomer resellerId userId) := by
  apply (within_query _).bind
  intro found
  cases found with
  | cons customerId _ => exact within_pure customerId
  | nil => exact within_executeInsert inside

theorem within_getReferralSettings {resellerId : Nat}
    (inside : .referrals ∈ footprint.tables) :
    footprint.Within (getReferralSettings resellerId) := by
  apply (within_query _).bind
  intro found
  apply within_ite
  · exact (within_executeInsert inside).bind fun _ => within_pure _
  · exact within_pure _

end Shared

namespace ResellerStart

variable {footprint : ShopFootprint} (isOwner : Int → Bool)

/-- The entry clears a conversation at most. -/
theorem admits_router :
    ∀ handler ∈ router isOwner, footprint.Admits handler := by
  have cancel : footprint.Admits (resellerCancel isOwner) := by
    apply admits_onMessage
    intro message
    apply within_getState.bind
    intro state
    exact within_ite within_clear (within_pure _)
  simp only [router, List.forall_mem_cons, List.not_mem_nil, false_imp_iff,
    implies_true, and_true]
  exact ⟨admits_onMessage fun _ => within_pure _, cancel,
    admits_onCallback_pure⟩

end ResellerStart

namespace ResellerOrders

/-- Decisions on orders remember the order of a dispute. -/
def footprint (tables : List TableName) : ShopFootprint where
  tables := tables
  states := [.enteringReason]
  others data := { data with disputeOrderId := none }

theorem more {tables wider : List TableName} {handler : ShopHandler}
    (admits : (footprint tables).Admits handler) (subset : tables ⊆ wider) :
    (footprint wider).Admits handler :=
  admits.mono ⟨subset, id, List.Subset.refl _, fun _ _ => id⟩

variable (shop : Shop) {tables : List TableName}

theorem admits_onPermitted {test : Option ShopState → String → Bool}
    {action : Callback → ShopScript Unit}
    (within : ∀ callback, (footprint tables).Within (action callback)) :
    (footprint tables).Admits (onPermitted shop test action) := by
  apply admits_onCallback
  intro callback
  apply (within_query _).bind
  intro permitted
  exact within_ite (within callback) (within_pure _)

/-- A service is called with the number in the callback data. -/
theorem within_numberedCall {callback : Callback} {service : Nat → ServiceCall}
    (inside : ∀ id, (service id).tables ⊆ tables) :
    (footprint tables).Within (do
      let number ← integerField callback 1
      let _ ← call (service (rowId number))) := by
  apply (within_integerField _ _).bind
  intro number
  exact (within_call (inside _)).bind fun _ => within_pure _

theorem admits_approveReceipt :
    (footprint [.orders]).Admits (approveReceipt shop) :=
  admits_onPermitted shop fun _ =>
    within_numberedCall fun _ => List.Subset.refl _

theorem admits_rejectReceipt :
    (footprint [.orders]).Admits (rejectReceipt shop) :=
  admits_onPermitted shop fun _ =>
    within_numberedCall fun _ => List.Subset.refl _

theorem admits_activate :
    (footprint [.resellers, .orders]).Admits (activate shop) :=
  admits_onPermitted shop fun _ =>
    within_numberedCall fun _ => List.Subset.refl _

theorem admits_confirmWalletTopup :
    (footprint [.resellers, .customers, .walletTransactions,
      .customerWalletTopups]).Admits (confirmWalletTopup shop) := by
  apply admits_onPermitted
  intro callback
  apply (within_integerField _ _).bind
  intro number
  apply (within_attempt (List.Subset.refl _)).bind
  intro outcome
  split
  · exact within_pure _
  · exact within_pure _
  · exact within_pure _
  · exact within_throw _

theorem admits_rejectWalletTopup :
    (footprint [.customerWalletTopups]).Admits (rejectWalletTopup shop) :=
  admits_onPermitted shop fun _ =>
    within_numberedCall fun _ => List.Subset.refl _

theorem admits_openDispute (tables : List TableName) :
    (footprint tables).Admits (openDispute shop) := by
  apply admits_onPermitted
  intro callback
  apply (within_integerField _ _).bind
  intro orderId
  exact within_nextQuestion (fun _ => rfl) List.mem_cons_self

theorem within_createDispute {orderId resellerId : Nat}
    (reason : Option String) :
    (footprint [.orders, .disputes]).Within
      (createDispute orderId resellerId reason) := by
  cases reason with
  | some reason =>
      exact (within_call (List.Subset.refl _)).bind fun _ => within_pure _
  | none =>
      apply (within_executeWrite fun _ => .modify (by decide)).bind
      intro _
      exact within_throw _

theorem admits_submitDisputeReason :
    (footprint [.orders, .disputes]).Admits submitDisputeReason := by
  apply admits_onMessage
  intro message
  apply within_getData.bind
  intro data
  apply (within_required _ _).bind
  intro orderId
  apply (within_query _).bind
  intro found
  apply (within_required _ _).bind
  intro order
  exact (within_createDispute _).bind fun _ => within_clear

theorem admits_router :
    ∀ handler ∈ router shop,
      (footprint [.resellers, .customers, .orders, .walletTransactions,
        .customerWalletTopups, .disputes]).Admits handler := by
  simp only [router, List.forall_mem_cons, List.not_mem_nil, false_imp_iff,
    implies_true, and_true]
  exact ⟨admits_onPermitted shop fun _ => within_pure _,
    more (admits_approveReceipt shop) (by decide),
    more (admits_rejectReceipt shop) (by decide),
    more (admits_activate shop) (by decide),
    more (admits_confirmWalletTopup shop) (by decide),
    more (admits_rejectWalletTopup shop) (by decide),
    admits_openDispute shop _,
    more (admits_submitDisputeReason) (by decide)⟩

end ResellerOrders

namespace ResellerChargeStock

/-- An upload remembers the package of the codes. -/
def footprint (tables : List TableName) : ShopFootprint where
  tables := tables
  states := [.enteringCodes]
  others data := { data with chargePackageId := none }

theorem more {tables wider : List TableName} {handler : ShopHandler}
    (admits : (footprint tables).Admits handler) (subset : tables ⊆ wider) :
    (footprint wider).Admits handler :=
  admits.mono ⟨subset, id, List.Subset.refl _, fun _ _ => id⟩

variable (shop : Shop) (tables : List TableName)

theorem within_actionAndId (callback : Callback) :
    (footprint tables).Within (actionAndId callback) := by
  apply (within_dataField _ _).bind
  intro action
  exact (within_integerField _ _).bind fun _ => within_pure _

theorem admits_pickOperatorForAction :
    (footprint tables).Admits pickOperatorForAction :=
  admits_onCallback fun _ =>
    (within_dataField _ _).bind fun _ => within_pure _

theorem admits_pickCategoryForAction :
    (footprint tables).Admits pickCategoryForAction :=
  admits_onCallback fun _ =>
    (within_actionAndId tables _).bind fun _ => within_pure _

theorem admits_pickProductForAction :
    (footprint tables).Admits pickProductForAction :=
  admits_onCallback fun _ =>
    (within_actionAndId tables _).bind fun _ => within_pure _

theorem admits_actOnProduct : (footprint tables).Admits actOnProduct := by
  apply admits_onCallback
  intro callback
  apply (within_actionAndId tables _).bind
  intro picked
  apply (within_query _).bind
  intro package
  apply within_ite
  · exact within_nextQuestion (fun _ => rfl) List.mem_cons_self
  · exact within_pure _

theorem admits_receiveChargeCodes :
    (footprint [.chargeCodes]).Admits (receiveChargeCodes shop) := by
  apply admits_onMessage
  intro message
  apply within_getData.bind
  intro data
  split
  · apply within_ite
    · apply (within_call (List.Subset.refl _)).bind
      intro added
      exact within_ite within_clear (within_pure _)
    · exact within_pure _
  · exact within_pure _

theorem admits_deleteSingleCode :
    (footprint [.chargeCodes]).Admits deleteSingleCode := by
  apply admits_onCallback
  intro callback
  apply (within_integerField _ _).bind
  intro codeId
  apply (within_integerField _ _).bind
  intro page
  exact (within_call (List.Subset.refl _)).bind fun _ => within_pure _

theorem admits_clearAllCodes :
    (footprint [.chargeCodes]).Admits clearAllCodes := by
  apply admits_onCallback
  intro callback
  apply (within_integerField _ _).bind
  intro packageId
  exact (within_call (List.Subset.refl _)).bind fun _ => within_pure _

theorem admits_router :
    ∀ handler ∈ router shop,
      (footprint [.chargeCodes]).Admits handler := by
  simp only [router, List.forall_mem_cons, List.not_mem_nil, false_imp_iff,
    implies_true, and_true]
  exact ⟨admits_onCallback_pure,
    admits_pickOperatorForAction _,
    admits_pickCategoryForAction _,
    admits_pickProductForAction _,
    admits_actOnProduct _,
    admits_receiveChargeCodes shop,
    admits_deleteSingleCode,
    admits_clearAllCodes⟩

end ResellerChargeStock

namespace ResellerWallet

/-- A top-up with a coin remembers the coin and the hash. -/
def footprint (tables : List TableName) : ShopFootprint where
  tables := tables
  states := [.enteringCreditAmount, .enteringZarinpalAmount, .enteringCoin,
    .enteringTxHash, .enteringCryptoAmount]
  others data := { data with coinName := none, txHash := none }

theorem more {tables wider : List TableName} {handler : ShopHandler}
    (admits : (footprint tables).Admits handler) (subset : tables ⊆ wider) :
    (footprint wider).Admits handler :=
  admits.mono ⟨subset, id, List.Subset.refl _, fun _ _ => id⟩

variable (shop : Shop) (tables : List TableName)

theorem within_requestTopup {resellerId : Nat} {amount : Numerals.Decimal}
    {method : PaymentMethod} {reference : Option String} :
    (footprint [.walletTransactions]).Within
      (requestTopup resellerId amount method reference) := by
  cases amount with
  | finite amount =>
      apply within_ite
      · exact (within_call (List.Subset.refl _)).bind fun _ => within_pure _
      · exact within_throw _
  | infinity | nan => exact within_throw _

theorem admits_startTopupCard : (footprint tables).Admits startTopupCard :=
  admits_onCallback fun _ => within_setState (by simp [footprint])

theorem admits_receiveTopupAmount :
    (footprint [.walletTransactions]).Admits (receiveTopupAmount shop) := by
  apply admits_onMessage
  intro message
  apply (within_textOf _).bind
  intro text
  cases typedAmount text with
  | none => exact within_pure _
  | some amount => exact within_requestTopup.bind fun _ => within_clear

theorem admits_startTopupZarinpal :
    (footprint tables).Admits startTopupZarinpal :=
  admits_onCallback fun _ => within_setState (by simp [footprint])

theorem admits_receiveZarinpalAmount :
    (footprint tables).Admits receiveZarinpalAmount := by
  apply admits_onMessage
  intro message
  apply (within_textOf _).bind
  intro text
  exact within_ite within_clear (within_pure _)

theorem admits_showCryptoOptions :
    (footprint tables).Admits showCryptoOptions := by
  apply admits_onCallback
  intro callback
  apply (within_query _).bind
  intro coins
  exact within_ite (within_setState (by simp [footprint])) (within_pure _)

theorem admits_receiveCryptoCoin :
    (footprint tables).Admits receiveCryptoCoin := by
  apply admits_onMessage
  intro message
  apply (within_strippedText _).bind
  intro coinName
  exact within_nextQuestion (fun _ => rfl) (by simp [footprint])

theorem admits_receiveCryptoTxHash :
    (footprint tables).Admits receiveCryptoTxHash := by
  apply admits_onMessage
  intro message
  apply (within_strippedText _).bind
  intro txHash
  exact within_nextQuestion (fun _ => rfl) (by simp [footprint])

theorem admits_receiveCryptoAmountAndSave :
    (footprint [.walletTransactions]).Admits
      (receiveCryptoAmountAndSave shop) := by
  apply admits_onMessage
  intro message
  apply (within_textOf _).bind
  intro text
  cases typedAmount text with
  | none => exact within_pure _
  | some amount =>
      apply within_getData.bind
      intro data
      apply (within_required _ _).bind
      intro coinName
      apply (within_required _ _).bind
      intro txHash
      exact within_requestTopup.bind fun _ => within_clear

theorem admits_router :
    ∀ handler ∈ router shop,
      (footprint [.walletTransactions]).Admits handler := by
  simp only [router, List.forall_mem_cons, List.not_mem_nil, false_imp_iff,
    implies_true, and_true]
  exact ⟨admits_onCallback_pure,
    admits_startTopupCard _,
    admits_receiveTopupAmount shop,
    admits_startTopupZarinpal _,
    admits_receiveZarinpalAmount _,
    admits_showCryptoOptions _,
    admits_receiveCryptoCoin _,
    admits_receiveCryptoTxHash _,
    admits_receiveCryptoAmountAndSave shop⟩

end ResellerWallet

namespace ResellerSettings

/-- A new discount code remembers the code and the percentage. -/
def footprint (tables : List TableName) : ShopFootprint where
  tables := tables
  states := [.enteringReferralPercent, .enteringChannelId,
    .enteringDiscountCode, .enteringDiscountPercent,
    .enteringDiscountUsageLimit, .enteringSupportContact]
  others data := { data with code := none, percent := none }

theorem more {tables wider : List TableName} {handler : ShopHandler}
    (admits : (footprint tables).Admits handler) (subset : tables ⊆ wider) :
    (footprint wider).Admits handler :=
  admits.mono ⟨subset, id, List.Subset.refl _, fun _ _ => id⟩

variable (shop : Shop) (tables : List TableName)

theorem within_updateReferrals {resellerId : Nat}
    {change : ReferralRow → ReferralRow} :
    (footprint [.referrals]).Within (updateReferrals resellerId change) := by
  apply within_executeWrite
  intro db
  apply SameOutside.foldl
  intro db id
  exact .modify (by decide)

theorem admits_settingsMenu :
    (footprint [.referrals]).Admits (settingsMenu shop) :=
  admits_onCallback fun _ => within_getReferralSettings List.mem_cons_self

theorem admits_toggleReferral :
    (footprint [.referrals]).Admits (toggleReferral shop) := by
  apply admits_onCallback
  intro callback
  apply (within_dataField _ _).bind
  intro choice
  apply (within_getReferralSettings List.mem_cons_self).bind
  intro _
  exact within_updateReferrals

theorem admits_startReferralPercent :
    (footprint tables).Admits startReferralPercent :=
  admits_onCallback fun _ => within_setState (by simp [footprint])

theorem admits_receiveReferralPercent :
    (footprint [.referrals]).Admits (receiveReferralPercent shop) := by
  apply admits_onMessage
  intro message
  apply (within_textOf _).bind
  intro text
  cases typedDecimal text with
  | none => exact within_pure _
  | some percent =>
      have saved : (footprint [.referrals]).Within
          (setReferralProfitPercent shop.resellerId percent) := by
        apply (within_getReferralSettings List.mem_cons_self).bind
        intro _
        apply (within_storedAmount _).bind
        intro percent
        exact within_updateReferrals
      exact saved.bind fun _ => within_clear

theorem admits_startAddChannel : (footprint tables).Admits startAddChannel :=
  admits_onCallback fun _ => within_setState (by simp [footprint])

theorem admits_receiveChannelId :
    (footprint [.forcedJoinChannels]).Admits (receiveChannelId shop) := by
  apply admits_onMessage
  intro message
  apply (within_strippedText _).bind
  intro channelId
  exact (within_executeInsert List.mem_cons_self).bind fun _ => within_clear

theorem admits_startAddDiscount :
    (footprint tables).Admits startAddDiscount :=
  admits_onCallback fun _ => within_setState (by simp [footprint])

theorem admits_receiveDiscountCode :
    (footprint tables).Admits receiveDiscountCode := by
  apply admits_onMessage
  intro message
  apply (within_strippedText _).bind
  intro code
  exact within_nextQuestion (fun _ => rfl) (by simp [footprint])

theorem admits_receiveDiscountPercent :
    (footprint tables).Admits receiveDiscountPercent := by
  apply admits_onMessage
  intro message
  apply (within_textOf _).bind
  intro text
  cases typedDecimal text with
  | none => exact within_pure _
  | some percent =>
      exact within_nextQuestion (fun _ => rfl) (by simp [footprint])

theorem admits_receiveDiscountUsageLimitAndSave :
    (footprint [.discountCodes]).Admits
      (receiveDiscountUsageLimitAndSave shop) := by
  apply admits_onMessage
  intro message
  apply (within_textOf _).bind
  intro text
  cases typedInteger text with
  | none => exact within_pure _
  | some usageLimit =>
      apply within_getData.bind
      intro data
      apply (within_required _ _).bind
      intro code
      apply (within_required _ _).bind
      intro percent
      apply (within_storedAmount _).bind
      intro stored
      exact (within_executeInsert List.mem_cons_self).bind fun _ =>
        within_clear

theorem admits_startSetSupportContact :
    (footprint tables).Admits startSetSupportContact :=
  admits_onCallback fun _ => within_setState (by simp [footprint])

theorem admits_receiveSupportContact :
    (footprint [.resellers]).Admits (receiveSupportContact shop) := by
  apply admits_onMessage
  intro message
  apply (within_strippedText _).bind
  intro contact
  exact (within_executeUpdate List.mem_cons_self).bind fun _ => within_clear

theorem admits_router :
    ∀ handler ∈ router shop,
      (footprint [.resellers, .discountCodes, .referrals,
        .forcedJoinChannels]).Admits handler := by
  simp only [router, List.forall_mem_cons, List.not_mem_nil, false_imp_iff,
    implies_true, and_true]
  exact ⟨more (admits_settingsMenu shop) (by decide),
    more (admits_toggleReferral shop) (by decide),
    admits_startReferralPercent _,
    more (admits_receiveReferralPercent shop) (by decide),
    admits_startAddChannel _,
    more (admits_receiveChannelId shop) (by decide),
    admits_startAddDiscount _,
    admits_receiveDiscountCode _,
    admits_receiveDiscountPercent _,
    more (admits_receiveDiscountUsageLimitAndSave shop) (by decide),
    admits_startSetSupportContact _,
    more (admits_receiveSupportContact shop) (by decide)⟩

end ResellerSettings

namespace ResellerPaymentMethods

/-- A new card remembers the number and the holder. -/
def footprint (tables : List TableName) : ShopFootprint where
  tables := tables
  states := [.enteringCardNumber, .enteringCardHolder, .enteringBankName,
    .enteringZarinpalMerchant]
  others data := { data with cardNumber := none, cardHolderName := none }

theorem more {tables wider : List TableName} {handler : ShopHandler}
    (admits : (footprint tables).Admits handler) (subset : tables ⊆ wider) :
    (footprint wider).Admits handler :=
  admits.mono ⟨subset, id, List.Subset.refl _, fun _ _ => id⟩

variable (shop : Shop) (tables : List TableName)

theorem admits_toggleCardCb :
    (footprint [.resellerPaymentCards]).Admits (toggleCardCb shop) := by
  apply admits_onCallback
  intro callback
  apply (within_integerField _ _).bind
  intro cardId
  apply (within_query _).bind
  intro found
  cases found with
  | none => exact within_pure _
  | some card => exact within_executeWrite fun _ => .modify (by decide)

theorem admits_removeCardCb :
    (footprint [.resellerPaymentCards]).Admits (removeCardCb shop) := by
  apply admits_onCallback
  intro callback
  apply (within_integerField _ _).bind
  intro cardId
  apply (within_query _).bind
  intro found
  apply within_ite
  · exact within_executeWrite fun _ => .erase (by decide)
  · exact within_pure _

theorem admits_startAddCard : (footprint tables).Admits startAddCard :=
  admits_onCallback fun _ => within_setState (by simp [footprint])

theorem admits_receiveCardNumber :
    (footprint tables).Admits receiveCardNumber := by
  apply admits_onMessage
  intro message
  apply (within_textOf _).bind
  intro text
  apply within_ite
  · exact within_nextQuestion (fun _ => rfl) (by simp [footprint])
  · exact within_pure _

theorem admits_receiveCardHolder :
    (footprint tables).Admits receiveCardHolder := by
  apply admits_onMessage
  intro message
  apply (within_strippedText _).bind
  intro holder
  exact within_nextQuestion (fun _ => rfl) (by simp [footprint])

theorem admits_receiveBankNameAndSave :
    (footprint [.resellerPaymentCards]).Admits
      (receiveBankNameAndSave shop) := by
  apply admits_onMessage
  intro message
  apply (within_strippedText _).bind
  intro text
  apply within_getData.bind
  intro data
  apply (within_required _ _).bind
  intro cardNumber
  apply (within_required _ _).bind
  intro cardHolderName
  exact (within_executeInsert List.mem_cons_self).bind fun _ => within_clear

theorem admits_showZarinpal : (footprint tables).Admits showZarinpal :=
  admits_onCallback fun _ => within_setState (by simp [footprint])

theorem admits_receiveZarinpalMerchant :
    (footprint [.resellers]).Admits (receiveZarinpalMerchant shop) := by
  apply admits_onMessage
  intro message
  apply (within_strippedText _).bind
  intro merchantId
  exact (within_executeUpdate List.mem_cons_self).bind fun _ => within_clear

theorem admits_router :
    ∀ handler ∈ router shop,
      (footprint [.resellers, .resellerPaymentCards]).Admits handler := by
  simp only [router, List.forall_mem_cons, List.not_mem_nil, false_imp_iff,
    implies_true, and_true]
  exact ⟨admits_onCallback_pure,
    admits_onCallback_pure,
    more (admits_toggleCardCb shop) (by decide),
    more (admits_removeCardCb shop) (by decide),
    admits_startAddCard _,
    admits_receiveCardNumber _,
    admits_receiveCardHolder _,
    more (admits_receiveBankNameAndSave shop) (by decide),
    admits_showZarinpal _,
    more (admits_receiveZarinpalMerchant shop) (by decide)⟩

end ResellerPaymentMethods

end ShopBot

end Baste
