import Baste.ServiceCalls

/-!
# The cap on pending orders

A receipt counts the customer's orders under review in a transaction of its
own, and nothing keeps the number until the order itself is written.  The
number stays within the cap exactly as long as every receipt that is accepted
finds a free place when it commits.
-/

namespace Baste

open Database Transaction

/-- The calls that submit and decide on receipts. -/
def ServiceCall.IsReceiptOperation (config : Config) : ServiceCall → Prop
  | .submitReceipt own _ _ => own = config
  | .confirmOrder _ | .rejectOrder _ => True
  | _ => False

/-- The customer has at most as many orders under review as the setting
allows. -/
def WithinCap (config : Config) (customerId : Nat) (db : Db) : Prop :=
  OrderService.countPendingOrders db customerId ≤
    config.maxPendingOrdersPerCustomer

instance (config : Config) (customerId : Nat) (db : Db) :
    Decidable (WithinCap config customerId db) :=
  inferInstanceAs (Decidable ((_ : Int) ≤ _))

/-- The receipt of the order will be accepted: its reseller is in test mode, or
has the credit for the commission. -/
def AcceptsReceipt (db : Db) (orderId : Nat) : Prop :=
  ∃ order reseller, db.row .orders orderId = some order ∧
    db.row .resellers order.resellerId = some reseller ∧
    (reseller.takesTestOrder = true ∨
      ¬ WalletService.ExceedsCredit reseller
        (OrderService.commissionOf order reseller))

/-- If the call is an accepted receipt for an order of the customer that is not
yet under review, there is a place left for it. -/
def HasFreePlace (config : Config) (customerId : Nat) (db : Db) :
    ServiceCall → Prop
  | .submitReceipt _ orderId _ => AcceptsReceipt db orderId →
      ∀ order, db.row .orders orderId = some order →
        order.customerId = customerId →
        order.status ≠ .awaitingReceiptReview →
        OrderService.countPendingOrders db customerId <
          config.maxPendingOrdersPerCustomer
  | _ => True

/-- What no receipt and no decision on it changes about an order. -/
def OrderRow.terms (order : OrderRow) : OrderRow :=
  order.withReceipt .awaitingPayment "" 0 false

/-- Orders are as at the start, except for what receipts and decisions
write. -/
structure KeepsOrders (start db : Db) : Prop where
  order_row : ∀ id, (db.row .orders id).map OrderRow.terms =
    (start.row .orders id).map OrderRow.terms

/-- Orders and resellers are as at the start, except for what receipts and
decisions write. -/
structure KeepsTerms (start db : Db) : Prop extends KeepsOrders start db where
  reseller_row : ∀ id,
    (db.row .resellers id).map (·.withCreditBalance 0) =
      (start.row .resellers id).map (·.withCreditBalance 0)

section Terms

variable {start db : Db} {orderId : Nat}

theorem KeepsOrders.of_sameOrders {after : Db} (kept : KeepsOrders start db)
    (same : ∀ id, after.row .orders id = db.row .orders id) :
    KeepsOrders start after where
  order_row id := by
    rw [same]
    exact kept.order_row id

theorem KeepsOrders.modify (kept : KeepsOrders start db)
    {change : OrderRow → OrderRow}
    (sameTerms : ∀ order, (change order).terms = order.terms) :
    KeepsOrders start (db.modify .orders orderId change) where
  order_row id := by
    rw [← kept.order_row id, row_modify]
    split_ifs
    · cases db.row .orders id with
      | none => rfl
      | some order => exact congrArg some (sameTerms order)
    · rfl

/-- An order that was read is still there with its terms. -/
theorem KeepsOrders.seen_order {found : OrderRow} {past : Db}
    (kept : KeepsOrders start db) (pastKept : KeepsOrders start past)
    (foundPast : past.row .orders orderId = some found) :
    ∃ current, db.row .orders orderId = some current ∧
      current.terms = found.terms := by
  have same := (kept.order_row orderId).trans
    (pastKept.order_row orderId).symm
  rw [foundPast] at same
  cases row : db.row .orders orderId with
  | none => simp [row] at same
  | some current => exact ⟨current, rfl, by simpa [row] using same⟩

theorem KeepsTerms.of_quiet {after : Db} (kept : KeepsTerms start db)
    (quiet : dbView.Quiet db after) : KeepsTerms start after where
  toKeepsOrders := kept.toKeepsOrders.of_sameOrders fun id =>
    (quiet_row quiet .orders id).symm
  reseller_row id := by
    rw [← quiet_row quiet]
    exact kept.reseller_row id

theorem KeepsTerms.modify_orders (kept : KeepsTerms start db)
    {change : OrderRow → OrderRow}
    (sameTerms : ∀ order, (change order).terms = order.terms) :
    KeepsTerms start (db.modify .orders orderId change) where
  toKeepsOrders := kept.toKeepsOrders.modify sameTerms
  reseller_row id := by
    rw [row_modify_of_ne (by decide)]
    exact kept.reseller_row id

theorem KeepsTerms.deducted (kept : KeepsTerms start db) {resellerId id : Nat}
    {balance : Cents} {amount : Rat} {orderCode : String} :
    KeepsTerms start
      (WalletService.deducted balance resellerId amount orderCode id db) where
  toKeepsOrders := kept.toKeepsOrders.of_sameOrders fun _ =>
    row_withLedgerEntry_of_ne (by decide) (by decide)
  reseller_row key := by
    rw [← kept.reseller_row key, WalletService.deducted,
      row_resellers_withLedgerEntry]
    split_ifs
    · cases db.row .resellers key <;> rfl
    · rfl

theorem KeepsTerms.seen_order {found : OrderRow} (kept : KeepsTerms start db)
    (seen : Seen (KeepsTerms start) .orders orderId found) :
    ∃ current, db.row .orders orderId = some current ∧
      current.terms = found.terms := by
  obtain ⟨past, pastKept, foundPast⟩ := seen
  exact kept.toKeepsOrders.seen_order pastKept.toKeepsOrders foundPast

theorem KeepsTerms.seen_reseller {resellerId : Nat} {found : ResellerRow}
    (kept : KeepsTerms start db)
    (seen : Seen (KeepsTerms start) .resellers resellerId found) :
    ∃ current, db.row .resellers resellerId = some current ∧
      current.withCreditBalance 0 = found.withCreditBalance 0 := by
  obtain ⟨past, pastKept, foundPast⟩ := seen
  have same := (kept.reseller_row resellerId).trans
    (pastKept.reseller_row resellerId).symm
  rw [foundPast] at same
  cases row : db.row .resellers resellerId with
  | none => simp [row] at same
  | some current => exact ⟨current, rfl, by simpa [row] using same⟩

/-- Whether the receipt is accepted can be told from the current rows instead
of those that the call has read. -/
theorem KeepsTerms.acceptsReceipt_iff {order : OrderRow} {seen : ResellerRow}
    (kept : KeepsTerms start db)
    (orderSeen : Seen (KeepsTerms start) .orders orderId order)
    (resellerSeen : Seen (KeepsTerms start) .resellers order.resellerId seen) :
    AcceptsReceipt db orderId ↔ ∃ reseller,
      db.row .resellers order.resellerId = some reseller ∧
      (seen.takesTestOrder = true ∨
        ¬ WalletService.ExceedsCredit reseller
          (OrderService.commissionOf order seen)) := by
  obtain ⟨current, currentRow, sameOrder⟩ := kept.seen_order orderSeen
  obtain ⟨setting, settingRow, sameReseller⟩ :=
    kept.seen_reseller resellerSeen
  have owner : current.resellerId = order.resellerId :=
    (congrArg OrderRow.resellerId sameOrder :)
  have price : current.packagePrice = order.packagePrice :=
    (congrArg OrderRow.packagePrice sameOrder :)
  have percent : setting.commissionPercent = seen.commissionPercent :=
    (congrArg ResellerRow.commissionPercent sameReseller :)
  have test : setting.takesTestOrder = seen.takesTestOrder :=
    (congrArg ResellerRow.takesTestOrder sameReseller :)
  have commission : OrderService.commissionOf current setting =
      OrderService.commissionOf order seen := by
    rw [OrderService.commissionOf, OrderService.commissionOf, price, percent]
  constructor
  · rintro ⟨found, reseller, foundRow, resellerRow, accepts⟩
    cases foundRow.symm.trans currentRow
    rw [owner] at resellerRow
    cases resellerRow.symm.trans settingRow
    rw [test, commission] at accepts
    exact ⟨setting, settingRow, accepts⟩
  · rintro ⟨reseller, resellerRow, accepts⟩
    cases resellerRow.symm.trans settingRow
    rw [← test, ← commission] at accepts
    exact ⟨current, setting, currentRow, owner ▸ settingRow, accepts⟩

end Terms

section Counts

variable {config : Config} {customerId : Nat} {before after db : Db}
variable {orderId : Nat}

/-- The order is one of those that the cap counts. -/
def isPending (customerId : Nat) (order : OrderRow) : Bool :=
  order.customerId = customerId && order.status = .awaitingReceiptReview

theorem countPendingOrders_congr
    (sameOrders : ∀ id, after.row .orders id = before.row .orders id) :
    OrderService.countPendingOrders after customerId =
      OrderService.countPendingOrders before customerId :=
  total_congr _ sameOrders

/-- Changing one order changes the number by what the order counts for. -/
theorem countPendingOrders_modify {order : OrderRow} (customerId : Nat)
    (found : db.row .orders orderId = some order)
    (change : OrderRow → OrderRow) :
    OrderService.countPendingOrders (db.modify .orders orderId change)
        customerId + (if isPending customerId order then 1 else 0) =
      OrderService.countPendingOrders db customerId +
        (if isPending customerId (change order) then 1 else 0) := by
  exact total_modify found change fun order =>
    if isPending customerId order then 1 else 0

/-- An order that gets another status than the one of a review takes no new
place. -/
theorem countPendingOrders_modify_le {change : OrderRow → OrderRow}
    (notPending : ∀ order, (change order).status ≠ .awaitingReceiptReview) :
    OrderService.countPendingOrders (db.modify .orders orderId change)
        customerId ≤
      OrderService.countPendingOrders db customerId := by
  cases found : db.row .orders orderId with
  | none =>
      rw [countPendingOrders_congr fun id => row_modify_absent found]
  | some order =>
      have changed := countPendingOrders_modify customerId found change
      have free : isPending customerId (change order) = false := by
        simp [isPending, notPending order]
      rw [free] at changed
      simp only [Bool.false_eq_true, if_false] at changed
      omega

theorem WithinCap.modify (within : WithinCap config customerId db)
    {change : OrderRow → OrderRow}
    (notPending : ∀ order, (change order).status ≠ .awaitingReceiptReview) :
    WithinCap config customerId (db.modify .orders orderId change) := by
  have fewer : OrderService.countPendingOrders
      (db.modify .orders orderId change) customerId ≤
        OrderService.countPendingOrders db customerId :=
    countPendingOrders_modify_le notPending
  unfold WithinCap at within ⊢
  omega

/-- A receipt that is accepted keeps the number within the cap exactly when it
finds a place. -/
theorem withinCap_accepted_iff {order : OrderRow}
    {change : OrderRow → OrderRow}
    (within : WithinCap config customerId db)
    (found : db.row .orders orderId = some order)
    (accepted : (change order).status = .awaitingReceiptReview)
    (sameCustomer : (change order).customerId = order.customerId) :
    WithinCap config customerId (db.modify .orders orderId change) ↔
      (order.customerId = customerId →
        order.status ≠ .awaitingReceiptReview →
        OrderService.countPendingOrders db customerId <
          config.maxPendingOrdersPerCustomer) := by
  have changed := countPendingOrders_modify customerId found change
  have nowPending : isPending customerId (change order) =
      decide (order.customerId = customerId) := by
    rw [isPending, accepted, sameCustomer]
    exact Bool.and_true _
  rw [nowPending] at changed
  unfold WithinCap at within ⊢
  by_cases own : order.customerId = customerId
  · by_cases reviewed : order.status = .awaitingReceiptReview
    · have counted : isPending customerId order = true := by
        simp [isPending, own, reviewed]
      simp only [counted, own, decide_true, if_true] at changed
      refine iff_of_true (by omega) fun _ notReviewed => ?_
      exact absurd reviewed notReviewed
    · have notCounted : isPending customerId order = false := by
        simp [isPending, reviewed]
      simp only [notCounted, own, decide_true, if_true, Bool.false_eq_true,
        if_false] at changed
      constructor
      · intro still _ _
        omega
      · intro place
        have := place own reviewed
        omega
  · have notCounted : isPending customerId order = false := by
      simp [isPending, own]
    simp only [notCounted, own, decide_false, Bool.false_eq_true,
      if_false] at changed
    exact iff_of_true (by omega) fun same => absurd same own

theorem hasFreePlace_iff {order : OrderRow} {own : Config}
    {receiptFileId : String} (accepts : AcceptsReceipt db orderId)
    (found : db.row .orders orderId = some order) :
    HasFreePlace config customerId db
        (.submitReceipt own orderId receiptFileId) ↔
      (order.customerId = customerId →
        order.status ≠ .awaitingReceiptReview →
        OrderService.countPendingOrders db customerId <
          config.maxPendingOrdersPerCustomer) := by
  constructor
  · intro place
    exact place accepts order found
  · intro place _ other otherFound
    cases otherFound.symm.trans found
    exact place

/-- What the commit of a receipt does to the number of pending orders. -/
theorem WithinCap.submitCommits {start : Db} {own : Config}
    {receiptFileId : String} (within : WithinCap config customerId before)
    (kept : KeepsTerms start before)
    (commits : OrderService.SubmitCommits (KeepsTerms start) orderId
      receiptFileId before after) :
    WithinCap config customerId after ↔
      HasFreePlace config customerId before
        (.submitReceipt own orderId receiptFileId) := by
  cases commits with
  | testOrder order seen orderSeen resellerSeen isTest =>
      obtain ⟨current, found, -⟩ := kept.seen_order orderSeen
      obtain ⟨setting, settingFound, -⟩ := kept.seen_reseller resellerSeen
      have accepts : AcceptsReceipt before orderId :=
        (kept.acceptsReceipt_iff orderSeen resellerSeen).mpr
          ⟨setting, settingFound, .inl isTest⟩
      rw [hasFreePlace_iff accepts found]
      exact withinCap_accepted_iff within found rfl rfl
  | failed order seen reseller orderSeen resellerSeen noTest found exceeds =>
      have refuses : ¬ AcceptsReceipt before orderId := by
        intro accepts
        obtain ⟨other, otherFound, isTest | covered⟩ :=
          (kept.acceptsReceipt_iff orderSeen resellerSeen).mp accepts
        · rw [noTest] at isTest
          contradiction
        · cases otherFound.symm.trans found
          exact covered exceeds
      exact iff_of_true (within.modify fun _ => by simp [OrderRow.withReceipt])
        fun accepts => absurd accepts refuses
  | charged order seen reseller id orderSeen resellerSeen noTest found covered
      reserved =>
      obtain ⟨current, currentFound, -⟩ := kept.seen_order orderSeen
      have accepts : AcceptsReceipt before orderId :=
        (kept.acceptsReceipt_iff orderSeen resellerSeen).mpr
          ⟨reseller, found, .inr covered⟩
      have sameOrders : ∀ key, (WalletService.deducted
          reseller.walletCreditBalance order.resellerId
          (OrderService.commissionOf order seen) order.orderCode id
          before).row .orders key = before.row .orders key := by
        intro key
        rw [WalletService.deducted,
          row_withLedgerEntry_of_ne (by decide) (by decide)]
      rw [hasFreePlace_iff accepts currentFound,
        ← countPendingOrders_congr sameOrders]
      refine withinCap_accepted_iff ?_ ((sameOrders _).trans currentFound) rfl
        rfl
      rw [WithinCap, countPendingOrders_congr sameOrders]
      exact within

theorem KeepsTerms.after_submitCommits {start : Db} {receiptFileId : String}
    (kept : KeepsTerms start before)
    (commits : OrderService.SubmitCommits (KeepsTerms start) orderId
      receiptFileId before after) : KeepsTerms start after := by
  cases commits with
  | testOrder => exact kept.modify_orders fun _ => rfl
  | failed => exact kept.modify_orders fun _ => rfl
  | charged => exact kept.deducted.modify_orders fun _ => rfl

end Counts

section Operations

variable {config : Config} {call : ServiceCall} {invariant : Db → Prop}
variable {before after : Db}

/-- The only statement outside a transaction decides on one order. -/
theorem ServiceCall.writes_of_isReceiptOperation
    (operation : call.IsReceiptOperation config)
    (writes : (call.guarantee invariant).writes before after) :
    ∃ orderId status, status ≠ OrderStatus.awaitingReceiptReview ∧
      after = before.modify .orders orderId (·.withStatus status) := by
  cases call with
  | submitReceipt => exact writes.elim
  | confirmOrder orderId => exact ⟨orderId, .confirmed, by decide, writes⟩
  | rejectOrder orderId => exact ⟨orderId, .rejected, by decide, writes⟩
  | _ => exact operation.elim

/-- The only commit is that of a receipt. -/
theorem ServiceCall.commits_of_isReceiptOperation
    (operation : call.IsReceiptOperation config)
    (commits : (call.guarantee invariant).commits before after) :
    ∃ own orderId receiptFileId,
      call = .submitReceipt own orderId receiptFileId ∧
      OrderService.SubmitCommits invariant orderId receiptFileId before
        after := by
  cases call with
  | submitReceipt own orderId receiptFileId =>
      exact ⟨own, orderId, receiptFileId, rfl, commits⟩
  | confirmOrder => exact commits.elim
  | rejectOrder => exact commits.elim
  | _ => exact operation.elim

end Operations

section Runs

variable {Caller : Type} [DecidableEq Caller] {config : Config}
variable {calls : Caller → ServiceCall}

omit [DecidableEq Caller] in
theorem preserved_keepsTerms
    (operations : ∀ caller, (calls caller).IsReceiptOperation config)
    (start : Db) : PreservedBy (KeepsTerms start) calls where
  quiet _ _ := KeepsTerms.of_quiet
  writes caller before after kept writes := by
    obtain ⟨orderId, status, -, rfl⟩ :=
      ServiceCall.writes_of_isReceiptOperation (operations caller) writes
    exact kept.modify_orders fun _ => rfl
  commits caller before after kept commits := by
    obtain ⟨own, orderId, receiptFileId, -, commits⟩ :=
      ServiceCall.commits_of_isReceiptOperation (operations caller) commits
    exact kept.after_submitCommits commits

/-- In every interleaving of receipts, confirmations and rejections, a customer
has no more orders under review than the cap allows in every state if and only
if every accepted receipt for one of the orders finds a free place when it
commits. -/
theorem withinCap_iff_hasFreePlace
    (operations : ∀ caller, (calls caller).IsReceiptOperation config)
    (customerId : Nat) (db : Db) (within : WithinCap config customerId db)
    (events : List (Event Caller)) :
    StepRuns.Along System.step
        (fun system event => WithinCap config customerId
          (system.step event).state)
        (startCalls db calls) events ↔
      StepRuns.Along System.step
        (fun system event => system.Commits event →
          HasFreePlace config customerId system.state (calls event.call))
        (startCalls db calls) events := by
  let invariant (system : ServiceSystem Caller) : Prop :=
    SoundCalls (KeepsTerms db) calls system ∧
      WithinCap config customerId system.state
  have preserved := preserved_keepsTerms operations db
  have oneStep : ∀ system event, invariant system →
      (WithinCap config customerId (system.step event).state ↔
        (system.Commits event →
          HasFreePlace config customerId system.state (calls event.call))) ∧
      SoundCalls (KeepsTerms db) calls (system.step event) := by
    rintro system event ⟨sound, within⟩
    obtain ⟨soundAfter, change⟩ := sound.step preserved event
    refine ⟨?_, soundAfter⟩
    have operation := operations event.call
    cases change with
    | quiet noCommit quiet =>
        have sameCount : OrderService.countPendingOrders
            (system.step event).state customerId =
              OrderService.countPendingOrders system.state customerId :=
          countPendingOrders_congr fun id => (quiet_row quiet .orders id).symm
        refine iff_of_true ?_ fun commits => absurd commits noCommit
        rw [WithinCap, sameCount]
        exact within
    | written noCommit _ writes =>
        obtain ⟨orderId, status, notPending, decided⟩ :=
          ServiceCall.writes_of_isReceiptOperation operation writes
        refine iff_of_true ?_ fun commits => absurd commits noCommit
        rw [decided]
        exact within.modify fun _ => notPending
    | committed isCommit commits =>
        obtain ⟨own, orderId, receiptFileId, isReceipt, commits⟩ :=
          ServiceCall.commits_of_isReceiptOperation operation commits
        rw [isReceipt]
        exact (within.submitCommits sound.holds commits).trans
          ⟨fun place _ => place, fun place => place isCommit⟩
  refine StepRuns.along_iff invariant
    (fun system event holds => (oneStep system event holds).1)
    (fun system event holds guard => ⟨(oneStep system event holds).2,
      (oneStep system event holds).1.mpr guard⟩) ?_ events
  exact ⟨soundCalls_start ⟨⟨fun _ => rfl⟩, fun _ => rfl⟩, within⟩

end Runs

/-- Four orders of one customer, of a reseller in test mode. -/
def crowdedDb : Db :=
  .filled fun
    | .resellers =>
        [{ shopReseller with testModeEnabled := true, testModeOrderLimit := 9 }]
    | .customers => [shopCustomer]
    | .packages => [shopPackage]
    | .orders => ["AR-1", "AR-2", "AR-3", "AR-4"].map fun orderCode =>
        { orderCode := orderCode
          resellerId := 1
          packageId := 1
          customerId := 1
          packagePrice := 800 }
    | _ => []

def crowdedCalls (caller : Fin 4) : ServiceCall :=
  .submitReceipt {} (caller + 1) "photo"

/-- All four receipts count the pending orders before one of them commits. -/
def crowdedEvents : List (Event (Fin 4)) :=
  ((List.finRange 4).flatMap fun caller =>
    List.replicate 3 (.advance caller)) ++
  (List.finRange 4).flatMap fun caller => List.replicate 4 (.advance caller)

theorem withinCap_iff_hasFreePlace_crowded :
    StepRuns.Along System.step
        (fun system event => WithinCap {} 1 (system.step event).state)
        (startCalls crowdedDb crowdedCalls) crowdedEvents ↔
      StepRuns.Along System.step
        (fun system event => system.Commits event →
          HasFreePlace {} 1 system.state (crowdedCalls event.call))
        (startCalls crowdedDb crowdedCalls) crowdedEvents := by
  have operations : ∀ caller, (crowdedCalls caller).IsReceiptOperation {} :=
    fun _ => rfl
  exact withinCap_iff_hasFreePlace operations 1 crowdedDb (by decide +kernel) _

/-- The cap is three, and four orders are under review. -/
theorem four_orders_pending :
    let after := (runCalls crowdedDb crowdedCalls crowdedEvents).state
    OrderService.countPendingOrders crowdedDb 1 = 0 ∧
      OrderService.countPendingOrders after 1 = 4 ∧
      ¬ WithinCap {} 1 after := by
  decide +kernel

end Baste
