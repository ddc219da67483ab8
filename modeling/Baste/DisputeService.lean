import Baste.OrderService

/-!
# Disputes

A reseller asks for a refund of the commission on an order, and the admin
approves or rejects it.  Each function is a sequence of statements that commit
one by one; only the refund itself is a transaction.
-/

namespace Baste

open Database Transaction

/-- The dispute after its approval. -/
def DisputeRow.approve (refundedAmount : Cents) (dispute : DisputeRow) :
    DisputeRow :=
  { dispute with
    reviewStatus := .approved
    refundedAmount := some refundedAmount }

/-- The dispute after its rejection. -/
def DisputeRow.reject (dispute : DisputeRow) : DisputeRow :=
  { dispute with reviewStatus := .rejected }

namespace DisputeService

variable {Result : Type}

/-- The row of a new dispute. -/
def newDispute (orderId resellerId : Nat) (reason : String) : DisputeRow where
  orderId := orderId
  resellerId := resellerId
  reason := reason

def createDispute (orderId resellerId : Nat) (reason : String)
    (next : Except ServiceError Nat → Program Result) : Program Result :=
  updateRow .orders orderId (·.withStatus .refundPending) <|
    insertRow .disputes []
      (fun db => (db.row .orders orderId).isSome &&
        (db.row .resellers resellerId).isSome)
      (newDispute orderId resellerId reason) fun
        | some id => next (.ok id)
        | none => next (.error .integrityError)

def approveDispute (disputeId : Nat)
    (next : Except ServiceError Unit → Program Result) : Program Result :=
  .select fun now =>
    match now.row .disputes disputeId with
    | none => next (.error (.valueError "درخواست استرداد پیدا نشد."))
    | some dispute =>
        .select fun now =>
          match now.row .orders dispute.orderId with
          | none => next (.error .noneNotSubscriptable)
          | some order =>
              WalletService.refundCommission dispute.resellerId
                (decimal order.commissionAmount) order.orderCode fun
                | .error error => next (.error error)
                | .ok () =>
                    updateRow .disputes disputeId
                        (·.approve order.commissionAmount) <|
                      updateRow .orders dispute.orderId
                          (·.withStatus .refunded) <|
                        blacklistCustomer order.customerId
where
  blacklistCustomer (customerId : Nat) : Program Result :=
    .select fun now =>
      match now.row .customers customerId with
      | none => next (.ok ())
      | some customer =>
          BlacklistService.maybeAutoBlacklist customer.telegramUserId fun
            | .ok _ => next (.ok ())
            | .error error => next (.error error)

def rejectDispute (disputeId : Nat)
    (next : Except ServiceError Unit → Program Result) : Program Result :=
  updateRow .disputes disputeId (·.reject) <| next (.ok ())

section Alone

variable {disputeId : Nat} {db : Db} {Reply : Type}

/-- What `createDispute` leaves behind when it runs alone. -/
def disputeCreated (orderId resellerId : Nat) (reason : String) (db : Db) :
    Db :=
  let marked :=
    (db.modify .orders orderId (·.withStatus .refundPending)).reserve .disputes
  if (db.row .orders orderId).isSome ∧ (db.row .resellers resellerId).isSome
  then
    marked.put .disputes (db.nextId .disputes)
      (newDispute orderId resellerId reason)
  else marked

theorem runAlone_createDispute {orderId resellerId : Nat} {reason : String}
    {reply : Except ServiceError Nat → Reply} :
    ((createDispute orderId resellerId reason fun result =>
        .done (reply result)).runAlone none db).1 =
      disputeCreated orderId resellerId reason db := by
  unfold createDispute disputeCreated
  rw [runAlone_updateRow]
  by_cases known : (db.row .orders orderId).isSome ∧
      (db.row .resellers resellerId).isSome
  · rw [runAlone_insertRow (by simpa using known), if_pos known, nextId_modify]
    rfl
  · rw [runAlone_insertRow_refused (by simpa using known), if_neg known]
    rfl

/-- What `approveDispute` leaves behind when it runs alone, before the
customer is looked up in the blacklist. -/
def disputeApproved (disputeId : Nat) (db : Db) : Db :=
  match db.row .disputes disputeId with
  | none => db
  | some dispute =>
      match db.row .orders dispute.orderId with
      | none => db
      | some order =>
          match db.row .resellers dispute.resellerId with
          | none => db
          | some reseller =>
              ((WalletService.refunded reseller.walletCreditBalance
                  dispute.resellerId (decimal order.commissionAmount)
                  order.orderCode (db.nextId .walletTransactions)
                  (db.reserve .walletTransactions)).modify .disputes disputeId
                    (·.approve order.commissionAmount)).modify .orders
                  dispute.orderId (·.withStatus .refunded)

/-- Only the blacklist may differ from `disputeApproved`. -/
theorem runAlone_approveDispute {reply : Except ServiceError Unit → Reply}
    (name : TableName) (other : name ≠ .blacklist) :
    ((approveDispute disputeId fun result =>
        .done (reply result)).runAlone none db).1.table name =
      (disputeApproved disputeId db).table name := by
  unfold approveDispute disputeApproved
  rw [Program.runAlone_select]
  cases disputeFound : db.row .disputes disputeId with
  | none => rfl
  | some dispute =>
      dsimp only
      rw [Program.runAlone_select]
      cases db.row .orders dispute.orderId with
      | none => rfl
      | some order =>
          dsimp only
          cases found : db.row .resellers dispute.resellerId with
          | none =>
              obtain ⟨error, raised⟩ :=
                WalletService.runAlone_refundCommission_unknown found
              rw [raised]
              rfl
          | some reseller =>
              rw [WalletService.runAlone_refundCommission found]
              dsimp only
              rw [runAlone_updateRow, runAlone_updateRow,
                approveDispute.blacklistCustomer, Program.runAlone_select]
              split
              · rfl
              · obtain ⟨reply, after, ran, kept⟩ :=
                  BlacklistService.runAlone_maybeAutoBlacklist
                rw [ran]
                cases reply <;> exact kept name other

end Alone

section Safety

variable {invariant : Db → Prop} {state : Db}

/-- The writes of a new dispute: the order's status, then the dispute. -/
def createGuarantee (orderId resellerId : Nat) (reason : String) :
    Guarantee Db where
  writes before after :=
    after = before.modify .orders orderId (·.withStatus .refundPending) ∨
    after = (before.reserve .disputes).put .disputes (before.nextId .disputes)
      (newDispute orderId resellerId reason)
  commits _ _ := False

theorem safe_createDispute {orderId resellerId : Nat} {reason : String}
    {next : Except ServiceError Nat → Program Result}
    (continues : ∀ reply now, (next reply).Safe dbView invariant
      (createGuarantee orderId resellerId reason) none [] now) :
    (createDispute orderId resellerId reason next).Safe dbView invariant
      (createGuarantee orderId resellerId reason) none [] state :=
  safe_update fun _ _ _ => ⟨.inl rfl,
    safe_insert (fun _ _ _ _ => ⟨.inr rfl, continues _ _⟩) (continues _)⟩

/-- What an approval may change, with the dispute and the order as they were
read before: the refund in one transaction, then the dispute, the order and
perhaps the blacklist. -/
def approveGuarantee (invariant : Db → Prop) (disputeId : Nat) :
    Guarantee Db where
  writes before after := ∃ dispute order,
    Seen invariant .disputes disputeId dispute ∧
    Seen invariant .orders dispute.orderId order ∧
    (after = before.modify .disputes disputeId
        (·.approve order.commissionAmount) ∨
      after = before.modify .orders dispute.orderId (·.withStatus .refunded) ∨
      ∃ entry, after = (before.reserve .blacklist).put .blacklist
        (before.nextId .blacklist) entry)
  commits before after := ∃ dispute order,
    Seen invariant .disputes disputeId dispute ∧
    Seen invariant .orders dispute.orderId order ∧
    (WalletService.refundGuarantee dispute.resellerId
      (decimal order.commissionAmount) order.orderCode).commits before after

theorem safe_approveDispute {disputeId : Nat}
    {next : Except ServiceError Unit → Program Result}
    (continues : ∀ reply now, (next reply).Safe dbView invariant
      (approveGuarantee invariant disputeId) none [] now) :
    (approveDispute disputeId next).Safe dbView invariant
      (approveGuarantee invariant disputeId) none [] state := by
  refine Program.Safe.select fun first _ firstHolds => ?_
  cases disputeFound : first.row .disputes disputeId with
  | none => exact continues _ first
  | some dispute =>
      refine Program.Safe.select fun second _ secondHolds => ?_
      cases orderFound : second.row .orders dispute.orderId with
      | none => exact continues _ second
      | some order =>
          have disputeSeen : Seen invariant .disputes disputeId dispute :=
            ⟨first, firstHolds, disputeFound⟩
          have orderSeen : Seen invariant .orders dispute.orderId order :=
            ⟨second, secondHolds, orderFound⟩
          refine WalletService.safe_refundCommission
            (fun _ _ refund => ⟨dispute, order, disputeSeen, orderSeen, refund⟩)
            fun reply third => ?_
          cases reply with
          | error error => exact continues _ third
          | ok _ =>
              refine safe_update fun _ _ _ =>
                ⟨⟨dispute, order, disputeSeen, orderSeen, .inl rfl⟩, ?_⟩
              refine safe_update fun _ _ _ =>
                ⟨⟨dispute, order, disputeSeen, orderSeen, .inr (.inl rfl)⟩, ?_⟩
              refine Program.Safe.select fun fifth _ _ => ?_
              cases fifth.row .customers order.customerId with
              | none => exact continues _ fifth
              | some customer =>
                  refine BlacklistService.safe_maybeAutoBlacklist
                    (fun before entry => ⟨dispute, order, disputeSeen,
                      orderSeen, .inr (.inr ⟨entry, rfl⟩)⟩) fun reply now => ?_
                  cases reply <;> exact continues _ now

/-- The write of a rejection, which touches the dispute only. -/
def rejectGuarantee (disputeId : Nat) : Guarantee Db where
  writes before after := after = before.modify .disputes disputeId (·.reject)
  commits _ _ := False

theorem safe_rejectDispute {disputeId : Nat}
    {next : Except ServiceError Unit → Program Result}
    (continues : ∀ reply now, (next reply).Safe dbView invariant
      (rejectGuarantee disputeId) none [] now) :
    (rejectDispute disputeId next).Safe dbView invariant
      (rejectGuarantee disputeId) none [] state :=
  safe_update fun _ _ _ => ⟨rfl, continues _ _⟩

end Safety

end DisputeService

end Baste
