import Baste.OrderOperations

/-!
# Disputes and the status of their order

The status of an order and the review statuses of its disputes are written by
separate statements: a rejection does not touch the order, an approval does
not look at the dispute's status, and the operations on the order look at
neither.  This file gives the exact condition on each operation under which
order and disputes stay in step and decisions stay as they are.
-/

namespace Baste

open Database

/-- The order has a dispute with the review status. -/
def HasDispute (db : Db) (orderId : Nat) (review : ReviewStatus) : Prop :=
  ∃ id dispute, db.row .disputes id = some dispute ∧
    dispute.orderId = orderId ∧ dispute.reviewStatus = review

/-- The order awaits a refund while a dispute about it is pending, and is
refunded once one is approved. -/
def DisputesMatch (orderId : Nat) (db : Db) : Prop :=
  ∀ status, statusOf db orderId = some status →
    (status = .refundPending ↔ HasDispute db orderId .pending) ∧
    (status = .refunded ↔ HasDispute db orderId .approved)

/-- Disputes about the order that have been decided stay as they are. -/
def DecisionsKept (orderId : Nat) (before after : Db) : Prop :=
  ∀ id dispute, before.row .disputes id = some dispute →
    dispute.orderId = orderId → dispute.reviewStatus ≠ .pending →
    ∃ later, after.row .disputes id = some later ∧ later.orderId = orderId ∧
      later.reviewStatus = dispute.reviewStatus ∧
      later.refundedAmount = dispute.refundedAmount

/-- The order has another dispute with the review status. -/
def OtherDispute (db : Db) (orderId disputeId : Nat) (review : ReviewStatus) :
    Prop :=
  ∃ id dispute, id ≠ disputeId ∧ db.row .disputes id = some dispute ∧
    dispute.orderId = orderId ∧ dispute.reviewStatus = review

/-- The operation respects the disputes about the order: no operation on the
order interferes with a dispute, no refunded order is disputed again, a
dispute is approved as the last pending one, and it is rejected only while
another one is pending. -/
def RespectsDisputes (orderId : Nat) (db : Db) (operation : OrderOperation) :
    Prop :=
  ∀ status, statusOf db orderId = some status →
    match operation with
    | .submitReceipt config key _ => key = orderId →
        (receiptStatus config db key).isSome →
        status ≠ .refundPending ∧ status ≠ .refunded
    | .confirmOrder key | .rejectOrder key | .activateOrder key =>
        key = orderId → status ≠ .refundPending ∧ status ≠ .refunded
    | .createDispute key resellerId _ => key = orderId →
        if (db.row .resellers resellerId).isSome then status ≠ .refunded
        else status = .refundPending
    | .approveDispute disputeId => ∀ dispute order,
        refundedOrder db disputeId = some orderId →
        db.row .disputes disputeId = some dispute →
        db.row .orders orderId = some order →
        ¬ OtherDispute db orderId disputeId .pending ∧
        (dispute.reviewStatus = .pending ∨
          (dispute.reviewStatus = .approved ∧
            dispute.refundedAmount = some order.commissionAmount))
    | .rejectDispute disputeId => ∀ dispute,
        db.row .disputes disputeId = some dispute →
        dispute.orderId = orderId →
        dispute.reviewStatus = .rejected ∨
          (dispute.reviewStatus = .pending ∧
            OtherDispute db orderId disputeId .pending)

section Steps

variable {orderId : Nat} {before after : Db} {status : OrderStatus}

theorem hasDispute_congr {review : ReviewStatus}
    (same : ∀ id, after.row .disputes id = before.row .disputes id) :
    HasDispute after orderId review ↔ HasDispute before orderId review := by
  simp only [HasDispute, same]

theorem decisionsKept_of_same
    (same : ∀ id, after.row .disputes id = before.row .disputes id) :
    DecisionsKept orderId before after := by
  intro id dispute found own _
  exact ⟨dispute, by rw [same, found], own, rfl, rfl⟩

/-- For an order in a known status, the match is about that status. -/
theorem disputesMatch_iff (current : statusOf before orderId = some status) :
    DisputesMatch orderId before ↔
      (status = .refundPending ↔ HasDispute before orderId .pending) ∧
      (status = .refunded ↔ HasDispute before orderId .approved) := by
  rw [DisputesMatch, current]
  exact ⟨fun all => all status rfl, fun here found same => by
    cases same
    exact here⟩

/-- A step that changes neither the status nor the disputes. -/
theorem disputesMatch_of_same (matching : DisputesMatch orderId before)
    (same : ∀ id, after.row .disputes id = before.row .disputes id)
    (sameStatus : statusOf after orderId = statusOf before orderId) :
    DisputesMatch orderId after := by
  intro later found
  rw [sameStatus] at found
  rw [hasDispute_congr same, hasDispute_congr same]
  exact matching later found

/-- Writing a status that knows no disputes. -/
theorem disputesMatch_write_iff {written : OrderStatus}
    (matching : DisputesMatch orderId before)
    (current : statusOf before orderId = some status)
    (same : ∀ id, after.row .disputes id = before.row .disputes id)
    (wrote : statusOf after orderId = some written)
    (notPending : written ≠ .refundPending) (notRefunded : written ≠ .refunded) :
    DisputesMatch orderId after ↔
      status ≠ .refundPending ∧ status ≠ .refunded := by
  obtain ⟨pending, approved⟩ := (disputesMatch_iff current).mp matching
  rw [disputesMatch_iff wrote, hasDispute_congr same, hasDispute_congr same,
    ← pending, ← approved]
  simp only [notPending, notRefunded, false_iff, ne_eq]

/-- What is right after a step: the match, and all earlier decisions. -/
def InStep (orderId : Nat) (before after : Db) : Prop :=
  DisputesMatch orderId after ∧ DecisionsKept orderId before after

theorem inStep_of_same (matching : DisputesMatch orderId before)
    (same : ∀ id, after.row .disputes id = before.row .disputes id)
    (sameStatus : statusOf after orderId = statusOf before orderId) :
    InStep orderId before after :=
  ⟨disputesMatch_of_same matching same sameStatus, decisionsKept_of_same same⟩

/-- A step that leaves the disputes about the order as they are. -/
theorem inStep_of_sameDisputes (matching : DisputesMatch orderId before)
    (sameStatus : statusOf after orderId = statusOf before orderId)
    (sameDisputes : ∀ id dispute, dispute.orderId = orderId →
      (after.row .disputes id = some dispute ↔
        before.row .disputes id = some dispute)) :
    InStep orderId before after := by
  have sameReviews : ∀ review, HasDispute after orderId review ↔
      HasDispute before orderId review := by
    intro review
    constructor <;>
    · rintro ⟨id, dispute, found, about, reviewed⟩
      have same := sameDisputes id dispute about
      exact ⟨id, dispute, by simpa [same] using found, about, reviewed⟩
  constructor
  · intro later found
    rw [sameStatus] at found
    rw [sameReviews, sameReviews]
    exact matching later found
  · intro id dispute found about _
    exact ⟨dispute, (sameDisputes id dispute about).mpr found, about, rfl, rfl⟩

theorem writes_onOrder {operation : OrderOperation} {key : Nat}
    {written : OrderStatus} (onOrder : .disputes ∉ operation.tables)
    (writes : operation.writes before = some (key, written)) :
    written ≠ .refundPending ∧ written ≠ .refunded := by
  cases operation with
  | submitReceipt config id receiptFileId =>
      obtain ⟨outcome, received, same⟩ := Option.map_eq_some_iff.mp writes
      cases same
      have result : ReceiptResult key "" before
          (receiptStatus config before key) _ := receiptResult_run
      rw [received] at result
      generalize OrderOperation.run before _ = after at result
      cases result <;> decide
  | confirmOrder | rejectOrder | activateOrder =>
      cases writes
      decide
  | createDispute | approveDispute | rejectDispute =>
      simp [OrderOperation.tables] at onOrder

/-- An operation on the order stays in step unless it writes the status of an
order with a pending or an approved dispute. -/
theorem inStep_onOrder_iff {operation : OrderOperation}
    (onOrder : .disputes ∉ operation.tables)
    (matching : DisputesMatch orderId before)
    (current : statusOf before orderId = some status) :
    InStep orderId before (operation.run before) ↔
      ∀ written, operation.writes before = some (orderId, written) →
        status ≠ .refundPending ∧ status ≠ .refunded := by
  have same : ∀ id, (operation.run before).row .disputes id =
      before.row .disputes id := operation.row_run_of_notMem onOrder
  have after : statusOf (operation.run before) orderId = _ :=
    statusOf_run operation
  cases writes : operation.writes before with
  | none =>
      rw [writes] at after
      exact iff_of_true (inStep_of_same matching same after) nofun
  | some write =>
      obtain ⟨key, written⟩ := write
      rw [writes] at after
      by_cases own : key = orderId
      · subst own
        simp only [if_true, current, Option.map_some] at after
        obtain ⟨notPending, notRefunded⟩ := writes_onOrder onOrder writes
        have matches_iff := disputesMatch_write_iff matching current same after
          notPending notRefunded
        constructor
        · intro inStep _ _
          exact matches_iff.mp inStep.1
        · intro allowed
          exact ⟨matches_iff.mpr (allowed written rfl),
            decisionsKept_of_same same⟩
      · simp only [if_neg own] at after
        refine iff_of_true (inStep_of_same matching same after) ?_
        intro written' impossible
        cases impossible
        exact absurd rfl own

section Replacement

variable {disputeId : Nat} {old new : DisputeRow} {review : ReviewStatus}

/-- A dispute is replaced by another row about the same order. -/
structure Replaced (before after : Db) (disputeId : Nat)
    (old new : DisputeRow) : Prop where
  found : before.row .disputes disputeId = some old
  row : ∀ id, after.row .disputes id =
    if id = disputeId then some new else before.row .disputes id
  sameOrder : new.orderId = old.orderId

theorem hasDispute_iff_other
    (found : before.row .disputes disputeId = some old)
    (own : old.orderId = orderId) :
    HasDispute before orderId review ↔
      old.reviewStatus = review ∨
        OtherDispute before orderId disputeId review := by
  constructor
  · rintro ⟨id, dispute, disputeFound, about, reviewed⟩
    by_cases same : id = disputeId
    · subst same
      cases found.symm.trans disputeFound
      exact .inl reviewed
    · exact .inr ⟨id, dispute, same, disputeFound, about, reviewed⟩
  · rintro (reviewed | ⟨id, dispute, _, disputeFound, about, reviewed⟩)
    · exact ⟨disputeId, old, found, own, reviewed⟩
    · exact ⟨id, dispute, disputeFound, about, reviewed⟩

theorem Replaced.row_self (replaced : Replaced before after disputeId old new) :
    after.row .disputes disputeId = some new := by
  rw [replaced.row, if_pos rfl]

theorem Replaced.hasDispute_iff
    (replaced : Replaced before after disputeId old new)
    (own : old.orderId = orderId) :
    HasDispute after orderId review ↔
      new.reviewStatus = review ∨
        OtherDispute before orderId disputeId review := by
  rw [hasDispute_iff_other replaced.row_self (replaced.sameOrder.trans own)]
  have sameOthers : OtherDispute after orderId disputeId review ↔
      OtherDispute before orderId disputeId review := by
    constructor <;>
    · rintro ⟨id, dispute, different, found, rest⟩
      have sameRow := replaced.row id
      rw [if_neg different] at sameRow
      exact ⟨id, dispute, different, by rw [← found, sameRow], rest⟩
  rw [sameOthers]

/-- A decision is kept when the new row repeats it. -/
theorem Replaced.decisionsKept_iff
    (replaced : Replaced before after disputeId old new)
    (own : old.orderId = orderId) :
    DecisionsKept orderId before after ↔
      (old.reviewStatus ≠ .pending →
        new.reviewStatus = old.reviewStatus ∧
          new.refundedAmount = old.refundedAmount) := by
  constructor
  · intro kept decided
    obtain ⟨later, found, _, review, amount⟩ :=
      kept disputeId old replaced.found own decided
    cases replaced.row_self.symm.trans found
    exact ⟨review, amount⟩
  · intro repeated id dispute found about decided
    by_cases same : id = disputeId
    · subst same
      cases replaced.found.symm.trans found
      obtain ⟨review, amount⟩ := repeated decided
      exact ⟨new, replaced.row_self, replaced.sameOrder.trans own, review,
        amount⟩
    · refine ⟨dispute, ?_, about, rfl, rfl⟩
      rw [replaced.row, if_neg same, found]

/-- A dispute about another order. -/
theorem Replaced.inStep_of_ne
    (replaced : Replaced before after disputeId old new)
    (other : old.orderId ≠ orderId) (matching : DisputesMatch orderId before)
    (sameStatus : statusOf after orderId = statusOf before orderId) :
    InStep orderId before after := by
  apply inStep_of_sameDisputes matching sameStatus
  intro id dispute about
  rw [replaced.row]
  split_ifs with same
  · rw [same, replaced.found]
    constructor <;> intro found <;> cases found
    · exact absurd (replaced.sameOrder.symm.trans about) other
    · exact absurd about other
  · rfl

end Replacement

section Operations

variable {db : Db}

/-- A new dispute about an order that is there. -/
theorem inStep_create_iff {key resellerId : Nat} {reason : String}
    (matching : DisputesMatch orderId db)
    (current : statusOf db orderId = some status) :
    InStep orderId db
        (OrderOperation.run db (.createDispute key resellerId reason)) ↔
      (key = orderId →
        if (db.row .resellers resellerId).isSome then status ≠ .refunded
        else status = .refundPending) := by
  obtain ⟨pending, approved⟩ := (disputesMatch_iff current).mp matching
  have after : statusOf
      (OrderOperation.run db (.createDispute key resellerId reason)) orderId =
        if key = orderId then (statusOf db orderId).map fun _ => .refundPending
        else statusOf db orderId := statusOf_run _
  have rows := fun id => row_disputes_create db id key resellerId reason
  by_cases own : key = orderId
  · subst own
    have known : (db.row .orders key).isSome := by
      rw [statusOf] at current
      obtain ⟨order, found, _⟩ := Option.map_eq_some_iff.mp current
      rw [found]
      rfl
    simp only [if_true, current, Option.map_some] at after
    simp only [known, true_and] at rows
    rw [forall_prop_of_true (show key = key from rfl)]
    split_ifs with reseller
    · simp only [reseller, and_true] at rows
      -- The new row is the only change, and no earlier dispute has its id.
      have sameOld : ∀ id dispute, db.row .disputes id = some dispute →
          (OrderOperation.run db
            (.createDispute key resellerId reason)).row .disputes id =
              some dispute := by
        intro id dispute found
        have old : id ≠ db.nextId .disputes := by
          rintro rfl
          rw [row_nextId] at found
          cases found
        rw [rows, if_neg old, found]
      have nowPending : HasDispute
          (OrderOperation.run db (.createDispute key resellerId reason)) key
            .pending :=
        ⟨db.nextId .disputes, _, by rw [rows, if_pos rfl], rfl, rfl⟩
      have sameApproved : HasDispute
          (OrderOperation.run db (.createDispute key resellerId reason)) key
            .approved ↔ HasDispute db key .approved := by
        constructor
        · rintro ⟨id, dispute, found, about, reviewed⟩
          rw [rows] at found
          split_ifs at found with new
          · cases found
            cases reviewed
          · exact ⟨id, dispute, found, about, reviewed⟩
        · rintro ⟨id, dispute, found, about, reviewed⟩
          exact ⟨id, dispute, sameOld id dispute found, about, reviewed⟩
      rw [InStep, disputesMatch_iff after, sameApproved, ← approved]
      constructor
      · rintro ⟨⟨_, notRefunded⟩, _⟩ refunded
        cases notRefunded.mpr refunded
      · intro notRefunded
        have notNow : ¬ OrderStatus.refundPending = .refunded := by decide
        refine ⟨⟨iff_of_true rfl nowPending, iff_of_false notNow notRefunded⟩,
          ?_⟩
        intro id dispute found about _
        exact ⟨dispute, sameOld id dispute found, about, rfl, rfl⟩
    · simp only [reseller, Bool.false_eq_true, and_false, if_false] at rows
      rw [InStep, disputesMatch_iff after, hasDispute_congr rows,
        hasDispute_congr rows, ← pending, ← approved]
      constructor
      · rintro ⟨⟨samePending, _⟩, _⟩
        exact samePending.mp rfl
      · rintro rfl
        exact ⟨⟨Iff.rfl, Iff.rfl⟩, decisionsKept_of_same rows⟩
  · rw [if_neg own] at after
    refine iff_of_true (inStep_of_sameDisputes matching after ?_)
      fun same => absurd same own
    intro id dispute about
    rw [rows]
    split_ifs with new
    · rw [new.1, row_nextId]
      constructor <;> intro found <;> cases found
      exact absurd about own
    · rfl

theorem inStep_approve_iff {disputeId : Nat}
    (matching : DisputesMatch orderId db)
    (current : statusOf db orderId = some status) :
    InStep orderId db (OrderOperation.run db (.approveDispute disputeId)) ↔
      ∀ dispute order, refundedOrder db disputeId = some orderId →
        db.row .disputes disputeId = some dispute →
        db.row .orders orderId = some order →
        ¬ OtherDispute db orderId disputeId .pending ∧
        (dispute.reviewStatus = .pending ∨
          (dispute.reviewStatus = .approved ∧
            dispute.refundedAmount = some order.commissionAmount)) := by
  have after : statusOf (OrderOperation.run db (.approveDispute disputeId))
      orderId = _ := statusOf_run _
  rw [OrderOperation.writes] at after
  rcases row_disputes_approve db disputeId with
    ⟨refused, same⟩ | ⟨dispute, order, refunds, found, orderFound, rows⟩
  · rw [refused] at after
    refine iff_of_true (inStep_of_same matching same after) ?_
    intro _ _ refunds
    rw [refused] at refunds
    cases refunds
  · rw [refunds] at after
    have replaced : Replaced db
        (OrderOperation.run db (.approveDispute disputeId)) disputeId dispute
        (dispute.approve order.commissionAmount) := ⟨found, rows, rfl⟩
    by_cases own : dispute.orderId = orderId
    · subst own
      simp only [Option.map_some, if_true, current] at after
      rw [InStep, disputesMatch_iff after, replaced.hasDispute_iff rfl,
        replaced.hasDispute_iff rfl, replaced.decisionsKept_iff rfl]
      constructor
      · rintro ⟨⟨noPending, _⟩, kept⟩ dispute' order' _ found' orderFound'
        cases found.symm.trans found'
        cases orderFound.symm.trans orderFound'
        constructor
        · intro other
          cases noPending.mpr (.inr other)
        · by_cases undecided : dispute.reviewStatus = .pending
          · exact .inl undecided
          · obtain ⟨review, amount⟩ := kept undecided
            exact .inr ⟨review.symm, amount.symm⟩
      · intro allowed
        obtain ⟨noOther, decision⟩ :=
          allowed dispute order refunds found orderFound
        have notNow : ¬ OrderStatus.refunded = .refundPending := by decide
        refine ⟨⟨iff_of_false notNow ?_, iff_of_true rfl (.inl rfl)⟩, ?_⟩
        · rintro (impossible | other)
          · cases impossible
          · exact noOther other
        · intro decided
          rcases decision with pending | ⟨approved, amount⟩
          · exact absurd pending decided
          · exact ⟨approved.symm, amount.symm⟩
    · simp only [Option.map_some, if_neg own] at after
      refine iff_of_true (replaced.inStep_of_ne own matching after) ?_
      intro _ _ refundsOwn
      rw [refunds] at refundsOwn
      exact absurd (Option.some.inj refundsOwn) own

theorem inStep_reject_iff {disputeId : Nat}
    (matching : DisputesMatch orderId db)
    (current : statusOf db orderId = some status) :
    InStep orderId db (OrderOperation.run db (.rejectDispute disputeId)) ↔
      ∀ dispute, db.row .disputes disputeId = some dispute →
        dispute.orderId = orderId →
        dispute.reviewStatus = .rejected ∨
          (dispute.reviewStatus = .pending ∧
            OtherDispute db orderId disputeId .pending) := by
  have after : statusOf (OrderOperation.run db (.rejectDispute disputeId))
      orderId = statusOf db orderId := statusOf_run _
  have rows := fun id => row_disputes_reject db id disputeId
  cases found : db.row .disputes disputeId with
  | none =>
      refine iff_of_true (inStep_of_same matching (fun id => ?_) after) nofun
      rw [rows]
      split_ifs with same
      · rw [same, found, Option.map_none]
      · rfl
  | some dispute =>
      have replaced : Replaced db
          (OrderOperation.run db (.rejectDispute disputeId)) disputeId dispute
          dispute.reject := by
        refine ⟨found, fun id => ?_, rfl⟩
        rw [rows]
        split_ifs with same
        · rw [same, found, Option.map_some]
        · rfl
      by_cases own : dispute.orderId = orderId
      · subst own
        obtain ⟨pending, approved⟩ := (disputesMatch_iff current).mp matching
        rw [current] at after
        rw [hasDispute_iff_other found rfl] at pending approved
        rw [InStep, disputesMatch_iff after, replaced.hasDispute_iff rfl,
          replaced.hasDispute_iff rfl, replaced.decisionsKept_iff rfl]
        constructor
        · rintro ⟨⟨pendingAfter, _⟩, kept⟩ _ same _
          cases same
          cases reviewed : dispute.reviewStatus with
          | pending =>
              have awaiting := pending.mpr (.inl reviewed)
              rcases pendingAfter.mp awaiting with impossible | other
              · cases impossible
              · exact .inr ⟨rfl, other⟩
          | approved =>
              have review := (kept (by simp [reviewed])).1
              rw [reviewed] at review
              cases review
          | rejected => exact .inl rfl
        · intro allowed
          rcases allowed dispute rfl rfl with rejected | ⟨isPending, other⟩
          · rw [rejected] at pending approved
            exact ⟨⟨pending, approved⟩, fun _ => ⟨rejected.symm, rfl⟩⟩
          · rw [isPending] at approved
            have approvedAfter : status = .refunded ↔
                ReviewStatus.rejected = .approved ∨
                  OtherDispute db dispute.orderId disputeId .approved := by
              simpa using approved
            exact ⟨⟨iff_of_true (pending.mpr (.inl isPending)) (.inr other),
              approvedAfter⟩, fun decided => absurd isPending decided⟩
      · refine iff_of_true (replaced.inStep_of_ne own matching after) ?_
        rintro _ same about
        cases same
        exact absurd about own

/-- One operation keeps order and disputes in step exactly when it respects
the disputes. -/
theorem inStep_iff (operation : OrderOperation)
    (matching : DisputesMatch orderId db)
    (current : statusOf db orderId = some status) :
    InStep orderId db (operation.run db) ↔
      RespectsDisputes orderId db operation := by
  have turn : ∀ holds : OrderStatus → Prop,
      (∀ found, statusOf db orderId = some found → holds found) ↔
        holds status := by
    intro holds
    rw [current]
    exact ⟨fun all => all status rfl, fun here found same => by
      cases same
      exact here⟩
  rw [RespectsDisputes, turn]
  cases operation with
  | submitReceipt config key receiptFileId =>
      rw [inStep_onOrder_iff (by simp [OrderOperation.tables]) matching current]
      simp only [OrderOperation.writes, Option.map_eq_some_iff,
        Prod.mk.injEq, Option.isSome_iff_exists]
      constructor
      · rintro allowed rfl ⟨outcome, received⟩
        exact allowed outcome ⟨outcome, received, rfl, rfl⟩
      · rintro allowed written ⟨outcome, received, rfl, _⟩
        exact allowed rfl ⟨outcome, received⟩
  | confirmOrder key | rejectOrder key | activateOrder key =>
      rw [inStep_onOrder_iff (by simp [OrderOperation.tables]) matching current]
      simp [OrderOperation.writes]
  | createDispute => exact inStep_create_iff matching current
  | approveDispute => exact inStep_approve_iff matching current
  | rejectDispute => exact inStep_reject_iff matching current

theorem statusOf_run_exists (operation : OrderOperation)
    (current : statusOf db orderId = some status) :
    ∃ later, statusOf (operation.run db) orderId = some later := by
  rw [statusOf_run, current]
  split
  · exact ⟨_, rfl⟩
  · split_ifs <;> exact ⟨_, rfl⟩

end Operations

end Steps

/-- For every order whose disputes match its status, and for every run of the
operations: order and disputes match in every state reached and no decision on
a dispute changes, exactly when every operation respects the disputes. -/
theorem disputes_match_iff (orderId : Nat) (db : Db)
    (known : (db.row .orders orderId).isSome)
    (matching : DisputesMatch orderId db) (operations : List OrderOperation) :
    StepRuns.Along OrderOperation.run
        (fun now operation => DisputesMatch orderId (operation.run now) ∧
          DecisionsKept orderId now (operation.run now)) db operations ↔
      StepRuns.Along OrderOperation.run (RespectsDisputes orderId) db
        operations := by
  let invariant (now : Db) : Prop :=
    DisputesMatch orderId now ∧ ∃ status, statusOf now orderId = some status
  have initial : invariant db := by
    obtain ⟨order, found⟩ := Option.isSome_iff_exists.mp known
    exact ⟨matching, order.status, by rw [statusOf, found, Option.map_some]⟩
  apply StepRuns.along_iff invariant ?_ ?_ initial
  · rintro now operation ⟨matching, status, current⟩
    exact inStep_iff operation matching current
  · rintro now operation ⟨matching, status, current⟩ respects
    have inStep := (inStep_iff operation matching current).mpr respects
    exact ⟨inStep.1, statusOf_run_exists operation current⟩

/-- An order whose receipt was rejected, without disputes. -/
def disputeDb : Db :=
  .filled fun
    | .resellers => [shopReseller]
    | .customers => [shopCustomer]
    | .packages => [{ shopPackage with salePrice := 1000 }]
    | .orders => [shopOrder.withStatus .rejected]
    | _ => []

theorem disputesMatch_disputeDb : DisputesMatch 1 disputeDb := by
  have none : ∀ review, ¬ HasDispute disputeDb 1 review := by
    rintro review ⟨id, dispute, found, _⟩
    have listed := KeyedTable.mem_of_row_ofRows found
    cases listed
  intro status current
  have rejected : status = .rejected := by
    have same : statusOf disputeDb 1 = some .rejected := by decide
    rw [same] at current
    exact (Option.some.inj current).symm
  subst rejected
  exact ⟨iff_of_false nofun (none _), iff_of_false nofun (none _)⟩

theorem disputes_match_iff_approved :
    StepRuns.Along OrderOperation.run
        (fun now operation => DisputesMatch 1 (operation.run now) ∧
          DecisionsKept 1 now (operation.run now)) disputeDb
        [.createDispute 1 1 "fake", .approveDispute 1] ↔
      StepRuns.Along OrderOperation.run (RespectsDisputes 1) disputeDb
        [.createDispute 1 1 "fake", .approveDispute 1] :=
  disputes_match_iff 1 disputeDb (by decide) disputesMatch_disputeDb _

/-- After the rejection of its only dispute the order still awaits a refund,
and the rejection of an approved dispute changes the decision. -/
theorem rejected_dispute_pending :
    statusOf (StepRuns.final OrderOperation.run disputeDb
        [.createDispute 1 1 "fake", .rejectDispute 1]) 1 =
        some .refundPending ∧
      ((StepRuns.final OrderOperation.run disputeDb
        [.createDispute 1 1 "fake", .approveDispute 1,
          .rejectDispute 1]).row .disputes 1).map (·.reviewStatus) =
        some .rejected ∧
      ¬ StepRuns.Along OrderOperation.run
        (fun now operation => DisputesMatch 1 (operation.run now) ∧
          DecisionsKept 1 now (operation.run now)) disputeDb
        [.createDispute 1 1 "fake", .rejectDispute 1] := by
  refine ⟨by decide +kernel, by decide +kernel, ?_⟩
  rintro ⟨_, ⟨matching, _⟩, _⟩
  obtain ⟨id, dispute, found, _, pending⟩ :=
    (matching .refundPending (by decide +kernel)).1.mp rfl
  have bound := lt_of_lt_of_le (lt_nextId_of_row found)
    (show _ ≤ 2 by decide +kernel)
  have decided : ∀ id < 2, ∀ dispute ∈ (StepRuns.final OrderOperation.run
      disputeDb [.createDispute 1 1 "fake", .rejectDispute 1]).row .disputes id,
      dispute.reviewStatus ≠ .pending := by decide +kernel
  exact decided id bound dispute found pending

end Baste
