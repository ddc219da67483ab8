import Baste.ServiceCalls
import Mathlib.Tactic.Linarith

/-!
# Deciding on customer top-ups

Any number of confirmations and rejections of customer top-ups, in any
interleaving of their statements.  A confirmation looks at the request before
its transaction and a rejection does not look at it at all, so both do their
work again on a request that has been credited in the meantime.  As long as
that does not happen, the credits to each customer are those of the requests
that end up confirmed.
-/

namespace Baste

open Database Transaction

/-- The statuses of a request whose amount has been credited. -/
def TopupStatus.isCredited : TopupStatus → Bool
  | .confirmed | .confirmedInsufficientCredit => true
  | .pending | .rejected => false

/-- One if the request has been credited, according to its status. -/
def creditedOnce (db : Db) (topupId : Nat) : Nat :=
  if (db.row .customerWalletTopups topupId).any (·.status.isCredited) then 1
  else 0

/-- What a request counts for in the wallet of a customer. -/
def creditedAmount (customerId : Nat) (topup : CustomerWalletTopupRow) :
    Cents :=
  if topup.customerId = customerId ∧ topup.status.isCredited then topup.amount
  else 0

/-- The total of a customer's credited requests. -/
def creditedTotal (db : Db) (customerId : Nat) : Cents :=
  db.total .customerWalletTopups (creditedAmount customerId)

/-- The calls that decide on a customer's top-up. -/
def ServiceCall.IsTopupDecision : ServiceCall → Prop
  | .confirmCustomerTopup _ | .rejectCustomerTopup _ => True
  | _ => False

/-- What no decision changes: the customers there are, and the customers and
amounts of the requests. -/
structure SameRequests (start db : Db) : Prop where
  terms : ∀ id, (db.row .customerWalletTopups id).map
      (fun topup => (topup.customerId, topup.amount)) =
    (start.row .customerWalletTopups id).map
      fun topup => (topup.customerId, topup.amount)
  customers : ∀ id, (db.row .customers id).isSome =
    (start.row .customers id).isSome

section Steps

variable {start before after : Db} {topupId : Nat}

theorem SameRequests.refl (db : Db) : SameRequests db db :=
  ⟨fun _ => rfl, fun _ => rfl⟩

theorem SameRequests.of_quiet (same : SameRequests start before)
    (quiet : dbView.Quiet before after) : SameRequests start after where
  terms id := by
    rw [← quiet_row quiet]
    exact same.terms id
  customers id := by
    rw [← quiet_row quiet]
    exact same.customers id

/-- A request that has been read before is still there, with its terms. -/
theorem SameRequests.of_seen {topup : CustomerWalletTopupRow}
    (same : SameRequests start before)
    (seen : Seen (SameRequests start) .customerWalletTopups topupId topup) :
    ∃ current, before.row .customerWalletTopups topupId = some current ∧
      current.customerId = topup.customerId ∧
      current.amount = topup.amount := by
  obtain ⟨past, pastSame, foundPast⟩ := seen
  have terms := (same.terms topupId).trans (pastSame.terms topupId).symm
  rw [foundPast] at terms
  obtain ⟨current, found, equal⟩ := Option.map_eq_some_iff.mp terms
  exact ⟨current, found, congrArg Prod.fst equal, congrArg Prod.snd equal⟩

theorem SameRequests.withStatus (same : SameRequests start before)
    (status : TopupStatus) :
    SameRequests start (before.modify .customerWalletTopups topupId
      (·.withStatus status)) where
  terms id := by
    rw [← same.terms id, row_modify]
    split_ifs
    · rw [Option.map_map]
      rfl
    · rfl
  customers id := by
    rw [row_modify_of_ne (by decide)]
    exact same.customers id

theorem SameRequests.credited (same : SameRequests start before)
    (topup : CustomerWalletTopupRow) :
    SameRequests start (CustomerWalletService.credited topup before) where
  terms id := by
    rw [CustomerWalletService.credited, row_modify_of_ne (by decide)]
    exact same.terms id
  customers id := by
    rw [← same.customers id, CustomerWalletService.credited, row_modify]
    split_ifs <;> simp

theorem SameRequests.deducted {balance : Cents} {resellerId id : Nat}
    {amount : Rat} {orderCode : String} (same : SameRequests start before) :
    SameRequests start
      (WalletService.deducted balance resellerId amount orderCode id before)
    where
  terms key := by
    rw [WalletService.deducted,
      row_withLedgerEntry_of_ne (by decide) (by decide)]
    exact same.terms key
  customers key := by
    rw [WalletService.deducted,
      row_withLedgerEntry_of_ne (by decide) (by decide)]
    exact same.customers key

theorem SameRequests.after_confirm (same : SameRequests start before)
    (commits : CustomerWalletService.ConfirmCommits (SameRequests start)
      topupId before after) : SameRequests start after := by
  cases commits with
  | confirmed topup => exact (same.credited topup).deducted.withStatus _
  | insufficientCredit topup => exact (same.credited topup).withStatus _

/-- A status update that leaves the request uncredited adds nothing; one that
credits it adds its amount. -/
theorem creditedTotal_withStatus {status : TopupStatus} {customerId : Nat}
    {topup : CustomerWalletTopupRow}
    (found : before.row .customerWalletTopups topupId = some topup)
    (uncredited : topup.status.isCredited = false) :
    creditedTotal (before.modify .customerWalletTopups topupId
        (·.withStatus status)) customerId =
      creditedTotal before customerId +
        if topup.customerId = customerId ∧ status.isCredited then topup.amount
        else 0 := by
  have sum := total_modify found (·.withStatus status)
    (creditedAmount customerId)
  have nothingBefore : creditedAmount customerId topup = 0 := by
    simp [creditedAmount, uncredited]
  rw [nothingBefore, add_zero] at sum
  exact sum

theorem creditedOnce_withStatus {status : TopupStatus} {key : Nat}
    {topup : CustomerWalletTopupRow}
    (found : before.row .customerWalletTopups topupId = some topup)
    (uncredited : topup.status.isCredited = false) :
    creditedOnce (before.modify .customerWalletTopups topupId
        (·.withStatus status)) key =
      creditedOnce before key +
        if key = topupId ∧ status.isCredited then 1 else 0 := by
  by_cases same : key = topupId
  · subst same
    simp [creditedOnce, found, uncredited, CustomerWalletTopupRow.withStatus]
  · simp [creditedOnce, row_modify_ne same, same]

/-- The effect of a confirmation on the accounts of all customers. -/
theorem after_confirm (customerId key : Nat) (same : SameRequests start before)
    (uncredited : ∀ topup,
      before.row .customerWalletTopups topupId = some topup →
      topup.status.isCredited = false)
    (commits : CustomerWalletService.ConfirmCommits (SameRequests start)
      topupId before after) :
    creditedOnce before key + (if key = topupId then 1 else 0) =
        creditedOnce after key ∧
      ((before.row .customers customerId).isSome →
        walletBalance after customerId - creditedTotal after customerId =
          walletBalance before customerId -
            creditedTotal before customerId) := by
  -- Both kinds of commit credit the customer and set a credited status, on a
  -- database whose requests and customers are those before the commit.
  have main : ∀ (mid : Db) (topup current : CustomerWalletTopupRow)
      (status : TopupStatus), status.isCredited = true →
      current.customerId = topup.customerId → current.amount = topup.amount →
      before.row .customerWalletTopups topupId = some current →
      (∀ id, mid.row .customerWalletTopups id =
        before.row .customerWalletTopups id) →
      mid.row .customers customerId =
        (CustomerWalletService.credited topup before).row .customers
          customerId →
      after = mid.modify .customerWalletTopups topupId (·.withStatus status) →
      creditedOnce before key + (if key = topupId then 1 else 0) =
          creditedOnce after key ∧
        ((before.row .customers customerId).isSome →
          walletBalance after customerId - creditedTotal after customerId =
            walletBalance before customerId -
              creditedTotal before customerId) := by
    intro mid topup current status isCredited sameCustomer sameAmount found
      sameTopups sameCustomers afterEq
    subst afterEq
    have midFound := (sameTopups topupId).trans found
    have notYet := uncredited current found
    constructor
    · rw [creditedOnce_withStatus midFound notYet]
      simp [creditedOnce, sameTopups, isCredited]
    · intro known
      obtain ⟨customer, customerFound⟩ := Option.isSome_iff_exists.mp known
      have sameTotal : creditedTotal mid customerId =
          creditedTotal before customerId := total_congr _ sameTopups
      rw [creditedTotal_withStatus midFound notYet, sameTotal, walletBalance,
        row_modify_of_ne (by decide), sameCustomers,
        CustomerWalletService.credited, row_modify, walletBalance,
        customerFound]
      simp only [isCredited, and_true, sameCustomer, sameAmount]
      by_cases own : customerId = topup.customerId
      · simp [own, CustomerRow.withBalance]
      · simp [own, Ne.symm own]
  cases commits with
  | confirmed topup seen reseller id topupSeen _ _ _ _ =>
      obtain ⟨current, found, sameCustomer, sameAmount⟩ :=
        same.of_seen topupSeen
      refine main _ topup current .confirmed rfl sameCustomer sameAmount found
        ?_ ?_ rfl
      · intro id
        rw [WalletService.deducted,
          row_withLedgerEntry_of_ne (by decide) (by decide),
          CustomerWalletService.credited, row_modify_of_ne (by decide)]
      · rw [WalletService.deducted,
          row_withLedgerEntry_of_ne (by decide) (by decide)]
  | insufficientCredit topup topupSeen _ =>
      obtain ⟨current, found, sameCustomer, sameAmount⟩ :=
        same.of_seen topupSeen
      refine main _ topup current .confirmedInsufficientCredit rfl sameCustomer
        sameAmount found ?_ rfl rfl
      intro id
      rw [CustomerWalletService.credited, row_modify_of_ne (by decide)]

/-- A rejection of a request that is not credited changes no account. -/
theorem after_reject (customerId key : Nat)
    (uncredited : ∀ topup,
      before.row .customerWalletTopups topupId = some topup →
      topup.status.isCredited = false) :
    let after := before.modify .customerWalletTopups topupId
      (·.withStatus .rejected)
    creditedOnce before key = creditedOnce after key ∧
      walletBalance after customerId - creditedTotal after customerId =
        walletBalance before customerId - creditedTotal before customerId := by
  intro after
  have sameBalance : walletBalance after customerId =
      walletBalance before customerId := by
    rw [walletBalance, row_modify_of_ne (by decide), walletBalance]
  cases found : before.row .customerWalletTopups topupId with
  | none =>
      have sameTopups : ∀ id, after.row .customerWalletTopups id =
          before.row .customerWalletTopups id :=
        fun id => row_modify_absent found
      refine ⟨by rw [creditedOnce, creditedOnce, sameTopups], ?_⟩
      rw [sameBalance, creditedTotal, total_congr _ sameTopups, creditedTotal]
  | some topup =>
      have notYet := uncredited topup found
      constructor
      · rw [creditedOnce_withStatus found notYet]
        simp [TopupStatus.isCredited]
      · rw [sameBalance, creditedTotal_withStatus found notYet]
        simp [TopupStatus.isCredited]

end Steps

section Runs

variable {Caller : Type} [DecidableEq Caller] (calls : Caller → ServiceCall)

/-- The request that a call decides on. -/
def ServiceCall.decidedTopup : ServiceCall → Option Nat
  | .confirmCustomerTopup topupId | .rejectCustomerTopup topupId => some topupId
  | _ => none

def ServiceCall.confirmsTopup (topupId : Nat) : ServiceCall → Bool
  | .confirmCustomerTopup id => topupId = id
  | _ => false

/-- One at the commit of a confirmation of the request. -/
def creditCommit (topupId : Nat) (system : ServiceSystem Caller)
    (event : Event Caller) : Nat :=
  if system.Commits event ∧ (calls event.call).confirmsTopup topupId then 1
  else 0

/-- How often the request has been credited, counting an earlier credit. -/
def creditCount (db : Db) (events : List (Event Caller)) (topupId : Nat) :
    Nat :=
  creditedOnce db topupId +
    StepRuns.tally System.step (creditCommit calls topupId)
      (startCalls db calls) events

/-- The decision that takes effect now is on a request that has not been
credited. -/
def DecidesUncredited (system : ServiceSystem Caller) (event : Event Caller) :
    Prop :=
  (system.Commits event ∨ system.Writes event) →
    ∀ topupId topup, (calls event.call).decidedTopup = some topupId →
      system.state.row .customerWalletTopups topupId = some topup →
      topup.status.isCredited = false

variable {calls} {start : Db}

omit [DecidableEq Caller] in
theorem preserved_sameRequests
    (decisions : ∀ caller, (calls caller).IsTopupDecision) :
    PreservedBy (SameRequests start) calls where
  quiet _ _ := SameRequests.of_quiet
  writes caller before after same writes := by
    have decision := decisions caller
    cases called : calls caller with
    | confirmCustomerTopup => rw [called] at writes; exact writes.elim
    | rejectCustomerTopup =>
        rw [called] at writes
        cases writes
        exact same.withStatus _
    | _ => rw [called] at decision; exact decision.elim
  commits caller before after same commits := by
    have decision := decisions caller
    cases called : calls caller with
    | confirmCustomerTopup =>
        rw [called] at commits
        exact same.after_confirm commits
    | rejectCustomerTopup => rw [called] at commits; exact commits.elim
    | _ => rw [called] at decision; exact decision.elim

/-- One step whose decision is on an uncredited request: it credits what it
counts for, and the balance moves with the credited requests. -/
theorem decision_step (decisions : ∀ caller, (calls caller).IsTopupDecision)
    {system : ServiceSystem Caller} {event : Event Caller}
    (sound : SoundCalls (SameRequests start) calls system)
    (uncredited : DecidesUncredited calls system event) :
    SoundCalls (SameRequests start) calls (system.step event) ∧
    (∀ topupId, creditedOnce system.state topupId +
        creditCommit calls topupId system event =
      creditedOnce (system.step event).state topupId) ∧
    ∀ customerId, (start.row .customers customerId).isSome →
      walletBalance (system.step event).state customerId -
          creditedTotal (system.step event).state customerId =
        walletBalance system.state customerId -
          creditedTotal system.state customerId := by
  obtain ⟨soundAfter, change⟩ :=
    sound.step (preserved_sameRequests decisions) event
  refine ⟨soundAfter, ?_⟩
  have decision := decisions event.call
  cases change with
  | quiet noCommit quiet =>
      have sameTopups : ∀ id, (system.step event).state.row
          .customerWalletTopups id = system.state.row .customerWalletTopups id :=
        fun id => (quiet_row quiet _ id).symm
      refine ⟨fun topupId => ?_, fun customerId _ => ?_⟩
      · rw [creditedOnce, creditedOnce, sameTopups]
        simp [creditCommit, noCommit]
      · rw [walletBalance, ← quiet_row quiet, creditedTotal,
          total_congr _ sameTopups, walletBalance, creditedTotal]
  | written noCommit isWrite writes =>
      have notYet := uncredited (.inr isWrite)
      cases called : calls event.call with
      | confirmCustomerTopup =>
          rw [called] at writes
          exact writes.elim
      | rejectCustomerTopup rejected =>
          rw [called] at writes
          have accounts := fun customerId key => after_reject customerId key
            fun topup => notYet rejected topup (by rw [called]; rfl)
          rw [show (system.step event).state = _ from writes]
          refine ⟨fun topupId => ?_, fun customerId _ =>
            (accounts customerId 0).2⟩
          simpa [creditCommit, noCommit] using (accounts 0 topupId).1
      | _ => rw [called] at decision; exact decision.elim
  | committed isCommit commits =>
      have notYet := uncredited (.inl isCommit)
      cases called : calls event.call with
      | confirmCustomerTopup confirmed =>
          rw [called] at commits
          have accounts := fun customerId key => after_confirm customerId key
            sound.holds
            (fun topup => notYet confirmed topup (by rw [called]; rfl))
            commits
          refine ⟨fun topupId => ?_, fun customerId known =>
            (accounts customerId 0).2 ?_⟩
          · simpa [creditCommit, isCommit, called,
              ServiceCall.confirmsTopup] using (accounts 0 topupId).1
          · rw [sound.holds.customers]
            exact known
      | rejectCustomerTopup =>
          rw [called] at commits
          exact commits.elim
      | _ => rw [called] at decision; exact decision.elim

/-- Over a run of decisions on uncredited requests, the credits are counted by
the statuses. -/
theorem decision_run (decisions : ∀ caller, (calls caller).IsTopupDecision)
    {system : ServiceSystem Caller} {events : List (Event Caller)}
    (sound : SoundCalls (SameRequests start) calls system)
    (uncredited : StepRuns.Along System.step (DecidesUncredited calls) system
      events) :
    SoundCalls (SameRequests start) calls
        (StepRuns.final System.step system events) ∧
    (∀ topupId, creditedOnce system.state topupId +
        StepRuns.tally System.step (creditCommit calls topupId) system events =
      creditedOnce (StepRuns.final System.step system events).state topupId) ∧
    ∀ customerId, (start.row .customers customerId).isSome →
      walletBalance (StepRuns.final System.step system events).state
          customerId -
          creditedTotal (StepRuns.final System.step system events).state
            customerId =
        walletBalance system.state customerId -
          creditedTotal system.state customerId := by
  have kept := fun (system : ServiceSystem Caller) (event : Event Caller)
    (sound : SoundCalls (SameRequests start) calls system)
    (guard : DecidesUncredited calls system event) =>
      decision_step decisions sound guard
  refine ⟨(StepRuns.along_of_guarded (SoundCalls (SameRequests start) calls)
    (fun _ _ => True) (fun system event sound guard =>
      ⟨trivial, (kept system event sound guard).1⟩) sound uncredited).2,
    fun topupId => ?_, fun customerId known => ?_⟩
  · exact StepRuns.tally_telescopes (SoundCalls (SameRequests start) calls)
      (fun system => creditedOnce system.state topupId)
      (fun system event sound guard => (kept system event sound guard).1)
      (fun system event sound guard =>
        (kept system event sound guard).2.1 topupId) sound uncredited
  · refine (StepRuns.along_of_guarded
      (fun current => SoundCalls (SameRequests start) calls current ∧
        walletBalance current.state customerId -
            creditedTotal current.state customerId =
          walletBalance system.state customerId -
            creditedTotal system.state customerId) (fun _ _ => True)
      (fun current event holds guard => ?_) ⟨sound, rfl⟩ uncredited).2.2
    obtain ⟨soundAfter, _, balances⟩ := kept current event holds.1 guard
    exact ⟨trivial, soundAfter, (balances customerId known).trans holds.2⟩

theorem creditedOnce_of_row {db : Db} {topupId : Nat}
    {topup : CustomerWalletTopupRow}
    (found : db.row .customerWalletTopups topupId = some topup) :
    creditedOnce db topupId = if topup.status.isCredited then 1 else 0 := by
  simp [creditedOnce, found]

/-- In every interleaving of decisions that take effect on uncredited requests
only: a request is credited at most once, and exactly when its status says so;
a credited request stays credited; and each customer has been credited with
the amounts of its credited requests. -/
theorem topups_credited_once (calls : Caller → ServiceCall)
    (decisions : ∀ caller, (calls caller).IsTopupDecision) (db : Db)
    (events : List (Event Caller))
    (uncredited : StepRuns.Along System.step (DecidesUncredited calls)
      (startCalls db calls) events) :
    (∀ topupId, creditCount calls db events topupId ≤ 1 ∧
      ∀ topup, (runCalls db calls events).state.row .customerWalletTopups
          topupId = some topup →
        (creditCount calls db events topupId = 1 ↔
          topup.status.isCredited = true)) ∧
    (∀ earlier, earlier <+: events → ∀ topupId,
      creditedOnce (runCalls db calls earlier).state topupId ≤
        creditedOnce (runCalls db calls events).state topupId) ∧
    ∀ customerId, (db.row .customers customerId).isSome →
      walletBalance (runCalls db calls events).state customerId -
          walletBalance db customerId =
        creditedTotal (runCalls db calls events).state customerId -
          creditedTotal db customerId := by
  have sound : SoundCalls (SameRequests db) calls (startCalls db calls) :=
    soundCalls_start (.refl db)
  obtain ⟨_, counts, balances⟩ := decision_run decisions sound uncredited
  refine ⟨fun topupId => ?_, ?_, fun customerId known => ?_⟩
  · have count : creditCount calls db events topupId =
        creditedOnce (runCalls db calls events).state topupId := counts topupId
    rw [count]
    refine ⟨by rw [creditedOnce]; split_ifs <;> omega, fun topup found => ?_⟩
    rw [creditedOnce_of_row found]
    cases topup.status.isCredited <;> simp
  · rintro earlier ⟨later, rfl⟩ topupId
    obtain ⟨early, late⟩ := StepRuns.along_append.mp uncredited
    have soundMid := (decision_run decisions sound early).1
    have mid := (decision_run decisions soundMid late).2.1 topupId
    rw [runCalls, runCalls, StepRuns.final_append]
    omega
  · have balance := balances customerId known
    simp only [startCalls, System.start] at balance
    have moved : walletBalance (runCalls db calls events).state customerId -
        creditedTotal (runCalls db calls events).state customerId =
          walletBalance db customerId - creditedTotal db customerId := balance
    linarith

end Runs

/-- A pending top-up of 5.00 of a customer with an empty wallet. -/
def pendingTopup : CustomerWalletTopupRow where
  resellerId := 1
  customerId := 1
  amount := 500
  method := .card

def topupReseller : ResellerRow where
  botTokenEncrypted := "gAAAAA"
  botUsername := "shop_bot"
  telegramNumericId := 1001
  orderPrefix := "AR"
  commissionPercent := 1000
  walletCreditBalance := 1000
  creditLimitNegative := 0
  testModeEnabled := false
  testModeOrderLimit := 0
  testModeOrdersUsed := 0

def topupDb : Db :=
  .filled fun
    | .resellers => [topupReseller]
    | .customers => [{ resellerId := 1, telegramUserId := 7, walletBalance := 0 }]
    | .customerWalletTopups => [pendingTopup]
    | _ => []

/-- Two confirmations and a rejection of the same request. -/
def topupCalls : Fin 3 → ServiceCall
  | 0 => .confirmCustomerTopup 1
  | 1 => .confirmCustomerTopup 1
  | 2 => .rejectCustomerTopup 1

theorem isTopupDecision_topupCalls (caller : Fin 3) :
    (topupCalls caller).IsTopupDecision :=
  match caller with
  | 0 => trivial
  | 1 => trivial
  | 2 => trivial

theorem decidesUncredited_of_pending {system : ServiceSystem (Fin 3)}
    {event : Event (Fin 3)}
    (pending : system.state.row .customerWalletTopups 1 = some pendingTopup) :
    DecidesUncredited topupCalls system event := by
  intro _ topupId topup decided found
  have same : topupId = 1 := by
    generalize event.call = caller at decided
    match caller with
    | 0 => exact (Option.some.inj decided).symm
    | 1 => exact (Option.some.inj decided).symm
    | 2 => exact (Option.some.inj decided).symm
  subst same
  cases pending.symm.trans found
  rfl

/-- One confirmation on its own, up to its commit. -/
theorem topups_credited_once_confirmed :
    creditCount topupCalls topupDb (List.replicate 9 (.advance 0)) 1 ≤ 1 ∧
      walletBalance (runCalls topupDb topupCalls
          (List.replicate 9 (.advance 0))).state 1 - walletBalance topupDb 1 =
        creditedTotal (runCalls topupDb topupCalls
          (List.replicate 9 (.advance 0))).state 1 -
          creditedTotal topupDb 1 := by
  have applied := topups_credited_once topupCalls isTopupDecision_topupCalls
    topupDb (List.replicate 9 (.advance 0)) (by
      refine ⟨?_, ?_, ?_, ?_, ?_, ?_, ?_, ?_, ?_, trivial⟩ <;>
        exact decidesUncredited_of_pending (by decide +kernel))
  exact ⟨(applied.1 1).1, applied.2.2 1 (by decide)⟩

/-- Two confirmations that both read the pending request credit it twice, and a
rejection after a confirmation leaves a credited request rejected. -/
theorem topup_credited_twice :
    let both : List (Event (Fin 3)) := [.advance 0, .advance 1] ++
      List.replicate 8 (.advance 0) ++ List.replicate 8 (.advance 1)
    let rejected : List (Event (Fin 3)) :=
      List.replicate 9 (.advance 0) ++ [.advance 2]
    creditCount topupCalls topupDb both 1 = 2 ∧
      walletBalance (runCalls topupDb topupCalls both).state 1 = 1000 ∧
      creditedTotal (runCalls topupDb topupCalls both).state 1 = 500 ∧
      walletBalance (runCalls topupDb topupCalls rejected).state 1 = 500 ∧
      (runCalls topupDb topupCalls rejected).state.row .customerWalletTopups 1 =
        some (pendingTopup.withStatus .rejected) := by
  decide +kernel

end Baste
