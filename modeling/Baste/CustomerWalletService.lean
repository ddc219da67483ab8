import Baste.OrderService

/-!
# The customer wallet

The reseller's decisions on a customer's top-up request.  A confirmation
credits the customer and charges the reseller's commission in one transaction,
but looks at the status of the request before that transaction.
-/

namespace Baste

open Database Transaction

/-- The request with a new status. -/
def CustomerWalletTopupRow.withStatus (status : TopupStatus)
    (topup : CustomerWalletTopupRow) : CustomerWalletTopupRow :=
  { topup with status := status }

/-- The balance of a customer, zero if there is no such customer: what
`get_wallet_balance` reads. -/
def walletBalance (db : Db) (customerId : Nat) : Cents :=
  (db.row .customers customerId).elim 0 (·.walletBalance)

namespace CustomerWalletService

variable {Result : Type}

/-- The commission on a top-up, before it is stored. -/
def commissionOf (topup : CustomerWalletTopupRow) (reseller : ResellerRow) :
    Rat :=
  decimal topup.amount * decimal reseller.commissionPercent / 100

def topupReference (topupId : Nat) : String :=
  s!"wallet-topup-{topupId}"

def confirmTopup (topupId : Nat)
    (next : Except ServiceError (Option CustomerWalletTopupRow) →
      Program Result) : Program Result :=
  .select fun now =>
    match now.row .customerWalletTopups topupId with
    | none => next (.error (.valueError "درخواست شارژ پیدا نشد."))
    | some topup =>
        if topup.status ≠ .pending then
          next (.error (.valueError "این درخواست قبلاً پردازش شده است."))
        else
          .select fun now =>
            match now.row .resellers topup.resellerId with
            | none => next (.error .noneNotSubscriptable)
            | some reseller =>
                .begin <|
                  updateRow .customers topup.customerId
                      (fun customer => customer.withBalance
                        (customer.walletBalance + topup.amount)) <|
                    WalletService.deductCommissionInTx topup.resellerId
                      (commissionOf topup reseller) (topupReference topupId)
                      fun
                      | .ok () =>
                          setStatus .confirmed <|
                            .select fun now => next
                              (.ok (now.row .customerWalletTopups topupId))
                      | .error (.insufficientCredit _) =>
                          setStatus .confirmedInsufficientCredit <|
                            next (.error (.walletTopupInsufficientCredit
                              topupId topup.resellerId))
                      | .error error => .rollback (next (.error error))
where
  setStatus (status : TopupStatus) (rest : Program Result) : Program Result :=
    updateRow .customerWalletTopups topupId (·.withStatus status) <|
      .commit rest

def rejectTopup (topupId : Nat)
    (next : Except ServiceError Unit → Program Result) : Program Result :=
  updateRow .customerWalletTopups topupId (·.withStatus .rejected) <|
    next (.ok ())

/-- The database after a top-up has been credited to its customer. -/
def credited (topup : CustomerWalletTopupRow) (db : Db) : Db :=
  db.modify .customers topup.customerId fun customer =>
    customer.withBalance (customer.walletBalance + topup.amount)

section Alone

variable {topupId : Nat} {db : Db} {Reply : Type}

/-- What `confirmTopup` leaves behind when it runs alone. -/
def topupConfirmed (topupId : Nat) (db : Db) : Db :=
  match db.row .customerWalletTopups topupId with
  | none => db
  | some topup =>
      if topup.status ≠ .pending then db
      else
        match db.row .resellers topup.resellerId with
        | none => db
        | some reseller =>
            let commission := commissionOf topup reseller
            if WalletService.ExceedsCredit reseller commission then
              (credited topup db).modify .customerWalletTopups topupId
                (·.withStatus .confirmedInsufficientCredit)
            else
              (WalletService.deducted reseller.walletCreditBalance
                topup.resellerId commission (topupReference topupId)
                (db.nextId .walletTransactions)
                (credited topup (db.reserve .walletTransactions))).modify
                  .customerWalletTopups topupId (·.withStatus .confirmed)

theorem runAlone_confirmTopup
    {reply : Except ServiceError (Option CustomerWalletTopupRow) → Reply} :
    ((confirmTopup topupId fun result => .done (reply result)).runAlone none
        db).1 =
      topupConfirmed topupId db := by
  unfold confirmTopup topupConfirmed
  rw [Program.runAlone_select]
  cases topupFound : db.row .customerWalletTopups topupId with
  | none => rfl
  | some topup =>
      dsimp only
      split_ifs with processed
      · rfl
      rw [Program.runAlone_select]
      cases resellerFound : db.row .resellers topup.resellerId with
      | none => rfl
      | some reseller =>
          have sameReseller : (credited topup db).row .resellers
              topup.resellerId = some reseller := by
            rw [credited, row_modify_of_ne (by decide), resellerFound]
          dsimp only
          rw [Program.runAlone_begin, runAlone_updateRow_pending]
          split_ifs with exceeds
          · obtain ⟨message, raised⟩ :=
              WalletService.runAlone_deductCommissionInTx_pending_exceeded
                sameReseller exceeds
            exact congrArg Prod.fst raised
          · exact congrArg Prod.fst
              (WalletService.runAlone_deductCommissionInTx_pending
                sameReseller exceeds)

end Alone

section Safety

variable {invariant : Db → Prop} {state : Db}

/-- The commits of a confirmation.  The request and its pending status were
read in an earlier state. -/
inductive ConfirmCommits (invariant : Db → Prop) (topupId : Nat)
    (before : Db) : Db → Prop where
  | confirmed (topup : CustomerWalletTopupRow) (seen reseller : ResellerRow)
      (id : Nat)
      (topupSeen : Seen invariant .customerWalletTopups topupId topup)
      (wasPending : topup.status = .pending)
      (found : before.row .resellers topup.resellerId = some reseller)
      (within : ¬ WalletService.ExceedsCredit reseller
        (commissionOf topup seen))
      (reserved : before.Reserved .walletTransactions id) :
      ConfirmCommits invariant topupId before
        ((WalletService.deducted reseller.walletCreditBalance
          topup.resellerId (commissionOf topup seen) (topupReference topupId)
          id (credited topup before)).modify .customerWalletTopups topupId
            (·.withStatus .confirmed))
  | insufficientCredit (topup : CustomerWalletTopupRow)
      (topupSeen : Seen invariant .customerWalletTopups topupId topup)
      (wasPending : topup.status = .pending) :
      ConfirmCommits invariant topupId before
        ((credited topup before).modify .customerWalletTopups topupId
          (·.withStatus .confirmedInsufficientCredit))

def confirmGuarantee (invariant : Db → Prop) (topupId : Nat) :
    Guarantee Db where
  writes _ _ := False
  commits := ConfirmCommits invariant topupId

/-- The write of a rejection, which does not look at the request first. -/
def rejectGuarantee (topupId : Nat) : Guarantee Db where
  writes before after :=
    after = before.modify .customerWalletTopups topupId
      (·.withStatus .rejected)
  commits _ _ := False

theorem safe_confirmTopup {topupId : Nat}
    {next : Except ServiceError (Option CustomerWalletTopupRow) →
      Program Result}
    (continues : ∀ reply now, (next reply).Safe dbView invariant
      (confirmGuarantee invariant topupId) none [] now) :
    (confirmTopup topupId next).Safe dbView invariant
      (confirmGuarantee invariant topupId) none [] state := by
  refine Program.Safe.select fun first _ firstHolds => ?_
  cases topupFound : first.row .customerWalletTopups topupId with
  | none => exact continues _ first
  | some topup =>
      dsimp only
      split_ifs with processed
      · exact continues _ first
      have topupSeen : Seen invariant .customerWalletTopups topupId topup :=
        ⟨first, firstHolds, topupFound⟩
      have wasPending := not_not.mp processed
      refine Program.Safe.select fun second _ _ => ?_
      cases second.row .resellers topup.resellerId with
      | none => exact continues _ second
      | some seen =>
          refine Program.Safe.begin <| safe_update_pending fun _ _ _ =>
            WalletService.checks_deductCommissionInTx
              Program.Safe.checksPending
              (fun _ => table_on_ne (by decide) _)
              (fun _ => table_on_ne (by decide) _) ?_ ?_ ?_
          · intro now reseller id locks _ found within reserved subset
              resellerHeld entryHeld
            have customerHeld : .row .customers topup.customerId ∈ locks :=
              subset (by simp)
            refine safe_update_pending fun later kept _ =>
              Program.Safe.commit (fun last relies _ => ⟨?_, ?_⟩) fun now =>
                Program.Safe.select fun later _ _ => continues _ later
            · refine frame_modify ?_ (by simp) _
              exact WalletService.frame_withLedgerEntry
                (frame_modify (.refl last) (by simp [customerHeld]) _)
                (by simp [resellerHeld]) (by simp [entryHeld])
            · refine .confirmed topup seen reseller id topupSeen wasPending ?_
                within ?_
              · rw [← rely_row relies (by simp [resellerHeld]),
                  ← rely_row kept resellerHeld]
                exact found
              · exact rely_reserved relies (by simp [entryHeld])
                  (rely_reserved kept entryHeld reserved)
          · intro now reseller message _ _ _
            refine safe_update_pending fun later _ _ =>
              Program.Safe.commit (fun last _ _ =>
                ⟨?_, .insufficientCredit topup topupSeen wasPending⟩)
                (continues _)
            exact frame_modify (frame_modify (.refl last) (by simp) _)
              (by simp) _
          · rintro error changes locks now (rfl | ⟨message, rfl⟩)
            · exact Program.Safe.rollback (continues _)
            · exact Program.Safe.rollback (continues _)

theorem safe_rejectTopup {topupId : Nat}
    {next : Except ServiceError Unit → Program Result}
    (continues : ∀ reply now, (next reply).Safe dbView invariant
      (rejectGuarantee topupId) none [] now) :
    (rejectTopup topupId next).Safe dbView invariant (rejectGuarantee topupId)
      none [] state :=
  safe_update fun _ _ _ => ⟨rfl, continues _ _⟩

end Safety

end CustomerWalletService

end Baste
