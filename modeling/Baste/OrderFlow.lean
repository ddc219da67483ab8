import Baste.OrderOperations
import Mathlib.Logic.Relation

/-!
# The flow of the order statuses

The documented flow of an order, and the operations that write its status.
None of them looks at the current status, so a button that is pressed late or
twice moves an order against the flow.  A run keeps to the flow exactly when
every operation is called on an order in a status that the operation is
documented for, or in the status that it writes anyway.
-/

namespace Baste

open Database Relation

/-- The documented changes of the status of an order, except for leaving
`refundPending` when the dispute is rejected. -/
inductive Flow : OrderStatus → OrderStatus → Prop where
  | receiptAccepted : Flow .awaitingPayment .awaitingReceiptReview
  | receiptFailed : Flow .awaitingPayment .failedInsufficientCredit
  | confirmed : Flow .awaitingReceiptReview .confirmed
  | rejected : Flow .awaitingReceiptReview .rejected
  | activated : Flow .confirmed .activated
  | disputed : Flow .rejected .refundPending
  | refunded : Flow .refundPending .refunded

/-- The operation rejects a dispute about the order. -/
def RejectsDisputeOf (orderId : Nat) (db : Db) : OrderOperation → Prop
  | .rejectDispute disputeId => ∃ dispute,
      db.row .disputes disputeId = some dispute ∧ dispute.orderId = orderId
  | _ => False

/-- The operation keeps the status of the order or changes it along the
flow. -/
def StatusFollows (orderId : Nat) (db : Db) (operation : OrderOperation) :
    Prop :=
  ∀ status later, statusOf db orderId = some status →
    statusOf (operation.run db) orderId = some later →
    later = status ∨ Flow status later ∨
      (status = .refundPending ∧ RejectsDisputeOf orderId db operation)

/-- If the operation writes the status of the order, the order is in a status
that the operation is documented for, or in the one that is written. -/
def CalledInTurn (orderId : Nat) (db : Db) (operation : OrderOperation) :
    Prop :=
  ∀ status, statusOf db orderId = some status →
    match operation with
    | .submitReceipt config key _ => key = orderId →
        ∀ outcome, receiptStatus config db key = some outcome →
          status = .awaitingPayment ∨ status = outcome
    | .confirmOrder key => key = orderId →
        status = .awaitingReceiptReview ∨ status = .confirmed
    | .rejectOrder key => key = orderId →
        status = .awaitingReceiptReview ∨ status = .rejected
    | .activateOrder key => key = orderId →
        status = .confirmed ∨ status = .activated
    | .createDispute key _ _ => key = orderId →
        status = .rejected ∨ status = .refundPending
    | .approveDispute disputeId => refundedOrder db disputeId = some orderId →
        status = .refundPending ∨ status = .refunded
    | .rejectDispute _ => True

section Steps

variable {orderId : Nat} {db : Db}

/-- The only status from which the flow leads to a status. -/
def OrderStatus.source : OrderStatus → Option OrderStatus
  | .awaitingPayment => none
  | .awaitingReceiptReview | .failedInsufficientCredit => some .awaitingPayment
  | .confirmed | .rejected => some .awaitingReceiptReview
  | .activated => some .confirmed
  | .refundPending => some .rejected
  | .refunded => some .refundPending

theorem flow_iff_source {status later : OrderStatus} :
    Flow status later ↔ later.source = some status := by
  constructor
  · intro flow
    cases flow <;> rfl
  · intro fromSource
    cases later <;> cases fromSource <;> constructor

/-- The status that an accepted or a failed receipt writes. -/
theorem flow_receiptStatus {config : Config} {key : Nat}
    {status outcome : OrderStatus}
    (received : receiptStatus config db key = some outcome) :
    Flow status outcome ↔ status = .awaitingPayment := by
  have result : ReceiptResult key "" db (receiptStatus config db key) _ :=
    receiptResult_run
  rw [received] at result
  generalize OrderOperation.run db _ = after at result
  cases result with
  | testOrder | charged | failed =>
      rw [flow_iff_source]
      exact Option.some_inj.trans eq_comm

/-- For an order that is there, a step follows the flow when the status that
it writes does. -/
theorem statusFollows_iff {operation : OrderOperation} {status : OrderStatus}
    (current : statusOf db orderId = some status)
    (notRejected : ¬ RejectsDisputeOf orderId db operation) :
    StatusFollows orderId db operation ↔
      ∀ written, operation.writes db = some (orderId, written) →
        written = status ∨ Flow status written := by
  have after : statusOf (operation.run db) orderId = _ := statusOf_run operation
  rw [current] at after
  have unwritten : (∀ written, operation.writes db ≠ some (orderId, written)) →
      statusOf (operation.run db) orderId = some status →
      (StatusFollows orderId db operation ↔
        ∀ written, operation.writes db = some (orderId, written) →
          written = status ∨ Flow status written) := by
    intro nothing unchanged
    constructor
    · intro _ written writes
      exact absurd writes (nothing written)
    · intro _ before later beforeStatus laterStatus
      rw [current] at beforeStatus
      rw [unchanged, beforeStatus] at laterStatus
      exact .inl (Option.some.inj laterStatus).symm
  cases writes : operation.writes db with
  | none =>
      rw [writes] at after unwritten
      exact unwritten nofun after
  | some write =>
      obtain ⟨key, written⟩ := write
      rw [writes] at after unwritten
      by_cases own : key = orderId
      · subst own
        simp only [if_true, Option.map_some] at after
        constructor
        · intro follows written' writes'
          cases writes'
          rcases follows status written current after with kept | flow | rejects
          · exact .inl kept
          · exact .inr flow
          · exact absurd rejects.2 notRejected
        · intro flows before later beforeStatus laterStatus
          rw [current] at beforeStatus
          rw [after] at laterStatus
          cases beforeStatus
          cases laterStatus
          rcases flows written rfl with kept | flow
          · exact .inl kept
          · exact .inr (.inl flow)
      · simp only [if_neg own] at after
        apply unwritten _ after
        intro written' same
        cases same
        exact own rfl

/-- One step follows the flow exactly when it is called in turn. -/
theorem statusFollows_iff_calledInTurn (operation : OrderOperation) :
    StatusFollows orderId db operation ↔
      CalledInTurn orderId db operation := by
  cases current : statusOf db orderId with
  | none =>
      constructor
      · intro _ status found
        rw [current] at found
        cases found
      · intro _ status later found
        rw [current] at found
        cases found
  | some status =>
      have turn : ∀ holds : OrderStatus → Prop,
          (∀ found, statusOf db orderId = some found → holds found) ↔
            holds status := by
        intro holds
        rw [current]
        exact ⟨fun all => all status rfl, fun here found same => by
          cases same
          exact here⟩
      rw [CalledInTurn, turn]
      cases operation with
      | submitReceipt config key receiptFileId =>
          rw [statusFollows_iff current id]
          simp only [OrderOperation.writes, Option.map_eq_some_iff,
            Prod.mk.injEq]
          constructor
          · rintro flows rfl outcome received
            rcases flows outcome ⟨outcome, received, rfl, rfl⟩ with same | flow
            · exact .inr same.symm
            · exact .inl ((flow_receiptStatus received).mp flow)
          · rintro inTurn written ⟨outcome, received, rfl, rfl⟩
            rcases inTurn rfl outcome received with first | same
            · exact .inr ((flow_receiptStatus received).mpr first)
            · exact .inl same.symm
      | confirmOrder key =>
          rw [statusFollows_iff current id]
          simp [OrderOperation.writes, flow_iff_source, OrderStatus.source, eq_comm,
            or_comm]
      | rejectOrder key =>
          rw [statusFollows_iff current id]
          simp [OrderOperation.writes, flow_iff_source, OrderStatus.source, eq_comm,
            or_comm]
      | activateOrder key =>
          rw [statusFollows_iff current id]
          simp [OrderOperation.writes, flow_iff_source, OrderStatus.source, eq_comm,
            or_comm]
      | createDispute key resellerId reason =>
          rw [statusFollows_iff current id]
          simp [OrderOperation.writes, flow_iff_source, OrderStatus.source, eq_comm,
            or_comm]
      | approveDispute disputeId =>
          rw [statusFollows_iff current id]
          simp [OrderOperation.writes, flow_iff_source, OrderStatus.source, eq_comm,
            or_comm]
      | rejectDispute disputeId =>
          refine iff_of_true ?_ trivial
          intro before later beforeStatus laterStatus
          rw [statusOf_run, beforeStatus] at laterStatus
          exact .inl (Option.some.inj laterStatus).symm

/-- A step that is called in turn keeps the status or moves along the
flow. -/
theorem flow_of_calledInTurn {operation : OrderOperation}
    {status : OrderStatus} (inTurn : CalledInTurn orderId db operation)
    (current : statusOf db orderId = some status) :
    ∃ later, statusOf (operation.run db) orderId = some later ∧
      (later = status ∨ Flow status later) := by
  have exists_later : ∃ later,
      statusOf (operation.run db) orderId = some later := by
    rw [statusOf_run, current]
    split
    · exact ⟨_, rfl⟩
    · split_ifs <;> exact ⟨_, rfl⟩
  obtain ⟨later, after⟩ := exists_later
  refine ⟨later, after, ?_⟩
  have follows := (statusFollows_iff_calledInTurn operation).mpr inTurn
  rcases follows status later current after with kept | flow | ⟨_, rejects⟩
  · exact .inl kept
  · exact .inr flow
  · cases operation with
    | rejectDispute disputeId =>
        rw [statusOf_run, current] at after
        exact .inl (Option.some.inj after).symm
    | _ => exact rejects.elim

/-- What the flow never leaves, a path along the flow never leaves. -/
theorem reflTransGen_closed (closed : OrderStatus → Prop)
    (step : ∀ status later, closed status → Flow status later → closed later)
    {status last : OrderStatus} (first : closed status)
    (path : ReflTransGen Flow status last) : closed last := by
  induction path with
  | refl => exact first
  | tail _ flow ih => exact step _ _ ih flow

end Steps

/-- The statuses that an order reaches in a run that is called in turn. -/
theorem path_of_calledInTurn {orderId : Nat} {db : Db} {status : OrderStatus}
    {operations : List OrderOperation}
    (current : statusOf db orderId = some status)
    (inTurn : StepRuns.Along OrderOperation.run (CalledInTurn orderId) db
      operations) :
    ∃ last, statusOf (StepRuns.final OrderOperation.run db operations)
        orderId = some last ∧
      ReflTransGen Flow status last := by
  have along := StepRuns.along_of_guarded
    (fun now => ∃ last, statusOf now orderId = some last ∧
      ReflTransGen Flow status last) (fun _ _ => True) ?_
    ⟨status, current, .refl⟩ inTurn
  · exact along.2
  · rintro now operation ⟨last, found, path⟩ guard
    obtain ⟨later, after, kept | flow⟩ := flow_of_calledInTurn guard found
    · exact ⟨trivial, later, after, kept ▸ path⟩
    · exact ⟨trivial, later, after, path.tail flow⟩

/-- For every order and every run of the operations: the status follows the
documented flow along the whole run exactly when every operation is called in
turn.  In such a run an activated order stays activated, a rejected or
refunded order is never activated, and only an order whose receipt is under
review is confirmed. -/
theorem statusFollows_run_iff (orderId : Nat) (db : Db)
    (operations : List OrderOperation) :
    (StepRuns.Along OrderOperation.run (StatusFollows orderId) db operations ↔
      StepRuns.Along OrderOperation.run (CalledInTurn orderId) db
        operations) ∧
    (StepRuns.Along OrderOperation.run (CalledInTurn orderId) db operations →
      (∀ earlier, earlier <+: operations → ∀ status,
        statusOf (StepRuns.final OrderOperation.run db earlier) orderId =
          some status →
        ∃ last, statusOf (StepRuns.final OrderOperation.run db operations)
            orderId = some last ∧
          ReflTransGen Flow status last ∧
          (status = .activated → last = .activated) ∧
          (status = .rejected ∨ status = .refunded → last ≠ .activated)) ∧
      StepRuns.Along OrderOperation.run
        (fun now operation =>
          statusOf now orderId = some .awaitingPayment ∨
            statusOf now orderId = some .failedInsufficientCredit →
          statusOf (operation.run now) orderId ≠ some .confirmed) db
        operations) := by
  constructor
  · exact StepRuns.along_iff (fun _ => True)
      (fun now operation _ => statusFollows_iff_calledInTurn operation)
      (fun _ _ _ _ => trivial) trivial operations
  intro inTurn
  constructor
  · rintro earlier ⟨rest, rfl⟩ status current
    have later := (StepRuns.along_append.mp inTurn).2
    obtain ⟨last, found, path⟩ := path_of_calledInTurn current later
    rw [StepRuns.final_append]
    refine ⟨last, found, path, ?_, ?_⟩
    · rintro rfl
      exact reflTransGen_closed (· = .activated)
        (fun _ _ same flow => by subst same; cases flow) rfl path
    · intro refused activated
      -- Rejected, disputed and refunded orders stay among themselves.
      have stays := reflTransGen_closed
        (fun status => status = .rejected ∨ status = .refundPending ∨
          status = .refunded) ?_ ?_ path
      · rw [activated] at stays
        simp at stays
      · rintro status later (rfl | rfl | rfl) flow <;> cases flow <;> simp
      · rcases refused with rfl | rfl <;> simp
  · refine (StepRuns.along_of_guarded (fun _ => True) _ ?_ trivial inTurn).1
    intro now operation _ guard
    refine ⟨fun unpaid confirmed => ?_, trivial⟩
    rcases unpaid with current | current <;>
    · obtain ⟨later, after, kept | flow⟩ := flow_of_calledInTurn guard current
      · rw [confirmed] at after
        cases after
        cases kept
      · rw [confirmed] at after
        cases after
        cases flow

/-- An order whose receipt never came is confirmed, and a rejected order is
activated. -/
theorem unpaid_order_confirmed :
    statusOf (StepRuns.final OrderOperation.run orderDb [.confirmOrder 1]) 1 =
        some .confirmed ∧
      statusOf (StepRuns.final OrderOperation.run orderDb
        [.submitReceipt {} 1 "photo", .rejectOrder 1, .activateOrder 1]) 1 =
        some .activated ∧
      ¬ StepRuns.Along OrderOperation.run (StatusFollows 1) orderDb
        [.confirmOrder 1] := by
  refine ⟨by decide, by decide +kernel, ?_⟩
  rintro ⟨follows, _⟩
  rcases follows .awaitingPayment .confirmed (by decide) (by decide) with
    kept | flow | ⟨impossible, _⟩
  · cases kept
  · cases flow
  · cases impossible

end Baste
