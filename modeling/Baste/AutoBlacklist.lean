import Baste.ServiceCalls

/-!
# The automatic blacklist

An approval marks its dispute, counts the confirmed fake receipts of the user
and enters the user into the blacklist, in three separate commits.  Disputes
that were approved stay approved and entries are never removed, so the last of
several approvals to mark a dispute counts all of them before it returns.  A
user with an entry is refused by all four ways to buy.
-/

namespace Baste

open Database Transaction

open BlacklistService

def GloballyListed (db : Db) (user : Int) : Prop :=
  ∃ id entry, db.row .blacklist id = some entry ∧
    isGloballyListed user entry = true

/-- The user behind an order. -/
def userOf (db : Db) (orderId : Nat) : Option Int :=
  ((db.row .orders orderId).map (·.customerId)).bind fun customerId =>
    (db.row .customers customerId).map (·.telegramUserId)

/-- The user behind the order of a dispute. -/
def disputedUser (db : Db) (disputeId : Nat) : Option Int :=
  ((db.row .disputes disputeId).map (·.orderId)).bind (userOf db)

def isApproved (db : Db) (disputeId : Nat) : Bool :=
  (db.row .disputes disputeId).any (·.reviewStatus = .approved)

/-- Entries are never removed or changed, and customer rows keep their user. -/
structure KeepsUsers (before after : Db) : Prop where
  entries : ∀ id entry, before.row .blacklist id = some entry →
    after.row .blacklist id = some entry
  users : ∀ id, (after.row .customers id).map (·.telegramUserId) =
    (before.row .customers id).map (·.telegramUserId)

/-- Disputes and orders keep what they belong to, and approved disputes stay
approved. -/
structure KeepsApproved (before after : Db) : Prop where
  users : ∀ id, (after.row .customers id).map (·.telegramUserId) =
    (before.row .customers id).map (·.telegramUserId)
  customers : ∀ id, (after.row .orders id).map (·.customerId) =
    (before.row .orders id).map (·.customerId)
  orders : ∀ id, (after.row .disputes id).map (·.orderId) =
    (before.row .disputes id).map (·.orderId)
  approved : ∀ id, isApproved before id = true → isApproved after id = true

section Users

variable {before mid after db : Db}

theorem KeepsUsers.refl (db : Db) : KeepsUsers db db :=
  ⟨fun _ _ found => found, fun _ => rfl⟩

theorem KeepsUsers.trans (first : KeepsUsers before mid)
    (second : KeepsUsers mid after) : KeepsUsers before after where
  entries id entry found :=
    second.entries id entry (first.entries id entry found)
  users id := (second.users id).trans (first.users id)

theorem KeepsUsers.of_quiet (quiet : dbView.Quiet before after) :
    KeepsUsers before after where
  entries id entry found := by
    rw [← quiet_row quiet]
    exact found
  users id := by rw [quiet_row quiet]

/-- Other tables do not matter. -/
theorem KeepsUsers.of_tables
    (entries : ∀ id, after.row .blacklist id = before.row .blacklist id)
    (customers : ∀ id, after.row .customers id = before.row .customers id) :
    KeepsUsers before after where
  entries id entry found := (entries id).trans found
  users id := by rw [customers]

variable {name : TableName} {id : Nat}

theorem KeepsUsers.modify {change : RowOf name → RowOf name}
    (entries : TableName.blacklist ≠ name)
    (customers : TableName.customers ≠ name) :
    KeepsUsers db (db.modify name id change) :=
  .of_tables (fun _ => row_modify_of_ne entries)
    fun _ => row_modify_of_ne customers

theorem KeepsUsers.put {new : RowOf name} (entries : TableName.blacklist ≠ name)
    (customers : TableName.customers ≠ name) :
    KeepsUsers db (db.put name id new) :=
  .of_tables (fun _ => row_put_of_ne entries) fun _ => row_put_of_ne customers

theorem KeepsUsers.reserve : KeepsUsers db (db.reserve name) :=
  .of_tables (fun _ => row_reserve) fun _ => row_reserve

theorem KeepsUsers.erase {ids : List Nat}
    (entries : TableName.blacklist ≠ name)
    (customers : TableName.customers ≠ name) :
    KeepsUsers db (db.erase name ids) :=
  .of_tables (fun _ => row_erase_of_ne entries)
    fun _ => row_erase_of_ne customers

theorem KeepsUsers.withBalance {change : CustomerRow → Cents} :
    KeepsUsers db (db.modify .customers id fun customer =>
      customer.withBalance (change customer)) where
  entries key entry found := by
    rw [row_modify_of_ne (by decide)]
    exact found
  users key := by
    rw [row_modify]
    split_ifs
    · cases db.row .customers key <;> rfl
    · rfl

theorem KeepsUsers.enter {entry : BlacklistRow} :
    KeepsUsers db ((db.reserve .blacklist).put .blacklist
      (db.nextId .blacklist) entry) where
  entries key found isEntry := by
    have old : key ≠ db.nextId .blacklist := (lt_nextId_of_row isEntry).ne
    rw [row_put_ne old, row_reserve]
    exact isEntry
  users key := by rw [row_put_of_ne (by decide), row_reserve]

theorem GloballyListed.of_keeps {user : Int}
    (listed : GloballyListed before user) (kept : KeepsUsers before after) :
    GloballyListed after user := by
  obtain ⟨id, entry, found, isListed⟩ := listed
  exact ⟨id, entry, kept.entries id entry found, isListed⟩

theorem idsWhere_ne_nil_iff {user : Int} :
    db.idsWhere .blacklist (isGloballyListed user) ≠ [] ↔
      GloballyListed db user := by
  constructor
  · intro some
    obtain ⟨id, member⟩ := List.exists_mem_of_ne_nil _ some
    exact ⟨id, mem_idsWhere.mp member⟩
  · rintro ⟨id, listed⟩
    exact List.ne_nil_of_mem (mem_idsWhere.mpr listed)

end Users

section Calls

variable {call : ServiceCall} {invariant : Db → Prop} {before after : Db}

theorem keepsUsers_withLedgerEntry {db : Db} {resellerId id : Nat}
    {balance : Cents} {entry : WalletTransactionRow} :
    KeepsUsers db (db.withLedgerEntry resellerId balance id entry) :=
  .of_tables
    (fun _ => row_withLedgerEntry_of_ne (by decide) (by decide))
    fun _ => row_withLedgerEntry_of_ne (by decide) (by decide)

/-- No statement outside a transaction removes an entry, or gives a customer
row another user. -/
theorem ServiceCall.keepsUsers_of_writes
    (writes : (call.guarantee invariant).writes before after) :
    KeepsUsers before after := by
  cases call with
  | createOrder =>
      obtain ⟨_, _, rfl⟩ := writes
      exact .trans .reserve (.put (by decide) (by decide))
  | confirmOrder | rejectOrder | rejectCustomerTopup | rejectDispute =>
      cases writes
      exact .modify (by decide) (by decide)
  | activateOrder =>
      rcases writes with rfl | ⟨_, -, rfl⟩
      · exact .modify (by decide) (by decide)
      · exact .modify (by decide) (by decide)
  | createDispute =>
      rcases writes with rfl | rfl
      · exact .modify (by decide) (by decide)
      · exact .trans .reserve (.put (by decide) (by decide))
  | approveDispute =>
      obtain ⟨_, _, -, -, rfl | rfl | ⟨_, rfl⟩⟩ := writes
      · exact .modify (by decide) (by decide)
      · exact .modify (by decide) (by decide)
      · exact .enter
  | addChargeCodes =>
      obtain ⟨_, _, rfl⟩ := writes
      exact .trans .reserve (.put (by decide) (by decide))
  | deleteAvailableCode | clearAvailableCodes =>
      obtain ⟨_, _, rfl⟩ := writes
      exact .erase (by decide) (by decide)
  | purchaseCharge | purchaseChargeBulk =>
      obtain ⟨_, _, rfl⟩ := writes
      exact .modify (by decide) (by decide)
  | _ => exact writes.elim

/-- No transaction does. -/
theorem ServiceCall.keepsUsers_of_commits
    (commits : (call.guarantee invariant).commits before after) :
    KeepsUsers before after := by
  cases call with
  | deductCommission =>
      obtain ⟨_, _, _, _, _, rfl⟩ := commits
      exact keepsUsers_withLedgerEntry
  | refundCommission =>
      obtain ⟨_, _, _, _, rfl⟩ := commits
      exact keepsUsers_withLedgerEntry
  | requestTopup =>
      obtain ⟨_, _, rfl⟩ := commits
      exact .put (by decide) (by decide)
  | confirmTopup =>
      obtain ⟨_, _, _, _, _, rfl⟩ := commits
      exact .trans (.modify (by decide) (by decide))
        (.modify (by decide) (by decide))
  | createOrderPaidByWallet =>
      obtain ⟨_, _, _, _, _, _, _, rfl⟩ := commits
      exact .trans .withBalance (.put (by decide) (by decide))
  | submitReceipt =>
      cases commits with
      | testOrder | failed => exact .modify (by decide) (by decide)
      | charged =>
          exact .trans keepsUsers_withLedgerEntry
            (.modify (by decide) (by decide))
  | confirmCustomerTopup =>
      cases commits with
      | confirmed =>
          exact .trans (.trans .withBalance keepsUsers_withLedgerEntry)
            (.modify (by decide) (by decide))
      | insufficientCredit =>
          exact .trans .withBalance (.modify (by decide) (by decide))
  | approveDispute =>
      obtain ⟨_, _, _, _, _, _, _, _, rfl⟩ := commits
      exact keepsUsers_withLedgerEntry
  | purchaseCharge | purchaseChargeBulk =>
      obtain ⟨_, _, _, _, _, _, rfl⟩ := commits
      apply KeepsUsers.trans KeepsUsers.withBalance
      apply KeepsUsers.of_tables
      · exact fun _ => ChargeService.Purchase.row_foldl_deliver_of_ne
          (by decide) (by decide)
      · exact fun _ => ChargeService.Purchase.row_foldl_deliver_of_ne
          (by decide) (by decide)
  | _ => exact commits.elim

end Calls

section Counts

variable {before mid after db : Db} {user : Int} {disputeId : Nat}

theorem KeepsApproved.refl (db : Db) : KeepsApproved db db :=
  ⟨fun _ => rfl, fun _ => rfl, fun _ => rfl, fun _ isTrue => isTrue⟩

theorem KeepsApproved.trans (first : KeepsApproved before mid)
    (second : KeepsApproved mid after) : KeepsApproved before after where
  users id := (second.users id).trans (first.users id)
  customers id := (second.customers id).trans (first.customers id)
  orders id := (second.orders id).trans (first.orders id)
  approved id isTrue := second.approved id (first.approved id isTrue)

/-- Other tables do not matter. -/
theorem KeepsApproved.of_tables
    (customers : ∀ id, after.row .customers id = before.row .customers id)
    (orders : ∀ id, after.row .orders id = before.row .orders id)
    (disputes : ∀ id, after.row .disputes id = before.row .disputes id) :
    KeepsApproved before after where
  users id := by rw [customers]
  customers id := by rw [orders]
  orders id := by rw [disputes]
  approved id isTrue := by
    rw [isApproved, disputes]
    exact isTrue

theorem KeepsApproved.of_quiet (quiet : dbView.Quiet before after) :
    KeepsApproved before after :=
  .of_tables (fun id => (quiet_row quiet _ id).symm)
    (fun id => (quiet_row quiet _ id).symm)
    fun id => (quiet_row quiet _ id).symm

theorem KeepsApproved.approve {amount : Cents} :
    KeepsApproved db (db.modify .disputes disputeId (·.approve amount)) where
  users id := by rw [row_modify_of_ne (by decide)]
  customers id := by rw [row_modify_of_ne (by decide)]
  orders id := by
    rw [row_modify]
    split_ifs
    · cases db.row .disputes id <;> rfl
    · rfl
  approved id isTrue := by
    rw [isApproved, row_modify]
    split_ifs
    · rw [isApproved] at isTrue
      cases found : db.row .disputes id with
      | none =>
          rw [found] at isTrue
          cases isTrue
      | some dispute => rfl
    · exact isTrue

theorem KeepsApproved.withStatus {orderId : Nat} {status : OrderStatus} :
    KeepsApproved db (db.modify .orders orderId (·.withStatus status)) where
  users id := by rw [row_modify_of_ne (by decide)]
  customers id := by
    rw [row_modify]
    split_ifs
    · cases db.row .orders id <;> rfl
    · rfl
  orders id := by rw [row_modify_of_ne (by decide)]
  approved id isTrue := by
    rw [isApproved, row_modify_of_ne (by decide)]
    exact isTrue

theorem KeepsApproved.withStatus_back {orderId : Nat} {status : OrderStatus} :
    KeepsApproved (db.modify .orders orderId (·.withStatus status)) db where
  users id := (KeepsApproved.withStatus.users id).symm
  customers id := (KeepsApproved.withStatus.customers id).symm
  orders id := (KeepsApproved.withStatus.orders id).symm
  approved id isTrue := by
    rw [isApproved, row_modify_of_ne (by decide)] at isTrue
    exact isTrue

theorem userOf_congr (kept : KeepsApproved before after) (orderId : Nat) :
    userOf after orderId = userOf before orderId := by
  rw [userOf, userOf, kept.customers]
  congr
  funext customerId
  exact kept.users customerId

theorem disputedUser_congr (kept : KeepsApproved before after)
    (disputeId : Nat) :
    disputedUser after disputeId = disputedUser before disputeId := by
  have sameUsers : userOf after = userOf before := funext (userOf_congr kept)
  rw [disputedUser, disputedUser, kept.orders, sameUsers]

theorem isConfirmedFakeReceipt_iff {dispute : DisputeRow}
    (found : db.row .disputes disputeId = some dispute) :
    isConfirmedFakeReceipt db user dispute = true ↔
      isApproved db disputeId = true ∧
        disputedUser db disputeId = some user := by
  rw [isApproved, disputedUser, found, isConfirmedFakeReceipt]
  cases orderFound : db.row .orders dispute.orderId with
  | none => simp [userOf, orderFound]
  | some order =>
      cases customerFound : db.row .customers order.customerId with
      | none => simp [userOf, orderFound, customerFound]
      | some customer => simp [userOf, orderFound, customerFound]

/-- The number is that of the approved disputes of the user. -/
theorem count_le_of_approved
    (implies : ∀ id, isApproved before id = true →
      disputedUser before id = some user →
      isApproved after id = true ∧ disputedUser after id = some user) :
    countConfirmedFakeReceipts before user ≤
      countConfirmedFakeReceipts after user := by
  refine count_le_count fun id dispute found passes => ?_
  obtain ⟨isTrue, isUser⟩ := (isConfirmedFakeReceipt_iff found).mp passes
  have later := implies id isTrue isUser
  cases foundLater : after.row .disputes id with
  | none =>
      rw [isApproved, foundLater] at later
      cases later.1
  | some dispute =>
      exact ⟨dispute, rfl, (isConfirmedFakeReceipt_iff foundLater).mpr later⟩

theorem count_mono (kept : KeepsApproved before after) :
    countConfirmedFakeReceipts before user ≤
      countConfirmedFakeReceipts after user :=
  count_le_of_approved fun id isTrue isUser =>
    ⟨kept.approved id isTrue, (disputedUser_congr kept id).trans isUser⟩

/-- An approved dispute of somebody else does not count. -/
theorem count_approve_le {amount : Cents}
    (other : disputedUser db disputeId ≠ some user) :
    countConfirmedFakeReceipts
        (db.modify .disputes disputeId (·.approve amount)) user ≤
      countConfirmedFakeReceipts db user := by
  refine count_le_of_approved fun id isTrue isUser => ?_
  rw [disputedUser_congr KeepsApproved.approve] at isUser
  have different : id ≠ disputeId := by
    rintro rfl
    exact other isUser
  rw [isApproved, row_modify_ne different] at isTrue
  exact ⟨isTrue, isUser⟩

end Counts

/-- Approved disputes and entries stay. -/
def approvalEnvironment (start : Db) : Environment dbView where
  invariant := KeepsApproved start
  stable before after := KeepsUsers before after ∧ KeepsApproved before after
  invariant_of_quiet kept quiet := kept.trans (.of_quiet quiet)
  stable_of_quiet quiet := ⟨.of_quiet quiet, .of_quiet quiet⟩
  stable_trans first second :=
    ⟨first.1.trans second.1, first.2.trans second.2⟩

/-- A change that an approval makes: it marks its dispute, enters a user who
has reached the threshold, or concerns neither disputes nor the blacklist. -/
inductive ApprovalChange (disputeId : Nat) (change : Recorded Db RowKey) : Prop
  | other (back : KeepsApproved change.after change.before)
      (entries : ∀ id, change.after.row .blacklist id =
        change.before.row .blacklist id)
  | marked (amount : Cents)
      (stored : change.after =
        change.before.modify .disputes disputeId (·.approve amount))
  | entered (user : Int) (count : Nat)
      (reached : autoBlacklistThreshold ≤
        countConfirmedFakeReceipts change.before user)
      (stored : change.after =
        (change.before.reserve .blacklist).put .blacklist
          (change.before.nextId .blacklist) (autoBlacklistEntry user count))

/-- An approval that has returned has entered its user, if the user had reached
the threshold by one of its changes. -/
structure ApprovalHistory (start : Db) (disputeId : Nat) (state : Db)
    (past : List (Recorded Db RowKey)) (result : Option Outcome) : Prop where
  changes : ∀ change ∈ past, ApprovalChange disputeId change
  entered : result = some (.ok .nothing) →
    ∀ user, disputedUser start disputeId = some user → ∀ change ∈ past,
      autoBlacklistThreshold ≤ countConfirmedFakeReceipts change.after user →
      GloballyListed state user
  changed : result = some (.ok .nothing) →
    ∃ change ∈ past, KeepsApproved start change.after

/-- All changes are those of an approval, and nothing that they approved has
been taken back. -/
structure ApprovalWritten (disputeId : Nat) (past : List (Recorded Db RowKey))
    (state : Db) : Prop where
  changes : ∀ change ∈ past, ApprovalChange disputeId change
  kept : ∀ change ∈ past, KeepsApproved change.after state

section Approvals

variable {start : Db} {disputeId : Nat} {state : Db}
variable {past : List (Recorded Db RowKey)}

theorem ApprovalWritten.concat {now after : Db} {rows : List RowKey}
    (written : ApprovalWritten disputeId past state)
    (since : KeepsApproved state now)
    (isChange : ApprovalChange disputeId ⟨now, after, rows⟩)
    (kept : KeepsApproved now after) :
    ApprovalWritten disputeId (past ++ [⟨now, after, rows⟩]) after where
  changes change member := by
    rcases List.mem_append.mp member with earlier | isLast
    · exact written.changes change earlier
    · rw [List.mem_singleton.mp isLast]
      exact isChange
  kept change member := by
    rcases List.mem_append.mp member with earlier | isLast
    · exact (written.kept change earlier).trans (since.trans kept)
    · rw [List.mem_singleton.mp isLast]
      exact .refl after

theorem lasting_approvalHistory :
    (approvalEnvironment start).Lasting (ApprovalHistory start disputeId) := by
  intro before after past result stable history
  refine ⟨history.changes, fun isOk user isUser change member reached => ?_,
    history.changed⟩
  exact (history.entered isOk user isUser change member reached).of_keeps
    stable.1

/-- A transaction that refunds a commission, or does nothing. -/
theorem leads_refundCommission {environment : Environment dbView}
    {allowed : Db → List (Recorded Db RowKey) → Option Outcome → Prop}
    {resellerId : Nat} {amount : Rat} {orderCode : String}
    {next : Except ServiceError Unit → Program Outcome}
    (soFar : ∀ state, allowed state past none)
    (refunded : ∀ now balance id rows, environment.invariant now →
      let after :=
        WalletService.refunded balance resellerId amount orderCode id now
      environment.stable now after →
      environment.invariant after ∧
        (next (.ok ())).Leads environment allowed none [] after
          (past ++ [⟨now, after, rows⟩]))
    (failed : ∀ error now,
      (next (.error error)).Leads environment allowed none [] now past) :
    (WalletService.refundCommission resellerId amount orderCode next).Leads
      environment allowed none [] state past := by
  refine ⟨soFar _, ?_⟩
  refine Program.leads_selectForUpdate soFar fun now relies _ => ?_
  simp only [id_eq]
  cases found : now.row .resellers resellerId with
  | none => exact Program.leads_rollback (soFar _) fun _ _ => failed _ _
  | some reseller =>
      refine WalletService.checks_recordEntry
        (Program.Leads.checksPending soFar) (fun _ => rfl) ?_ fun _ _ _ =>
          Program.leads_rollback (soFar _) fun _ _ => failed _ _
      intro later id locks kept reserved _ resellerHeld entryHeld
      refine ⟨soFar _, fun last relies => ⟨?_, refunded last _ id _
        relies.holds⟩⟩
      exact WalletService.frame_withLedgerEntry (.refl last) resellerHeld
        entryHeld

/-- The last part of an approval, after any changes. -/
theorem leads_blacklistCustomer {customerId : Nat}
    (written : ApprovalWritten disputeId past state)
    (changed : ∃ change ∈ past, KeepsApproved start change.after)
    (sameUser : disputedUser start disputeId =
      (start.row .customers customerId).map (·.telegramUserId)) :
    (DisputeService.approveDispute.blacklistCustomer
        (ServiceCall.finish fun _ => .nothing) customerId).Leads
      (approvalEnvironment start) (ApprovalHistory start disputeId) none []
      state past := by
  have soFar : ∀ {state}, ApprovalHistory start disputeId state past none :=
    ⟨written.changes, by simp, by simp⟩
  refine Program.leads_select soFar fun first firstRelies => ?_
  have sameCustomer : disputedUser start disputeId =
      (first.row .customers customerId).map (·.telegramUserId) :=
    sameUser.trans (firstRelies.holds.users customerId).symm
  cases found : first.row .customers customerId with
  | none =>
      refine ⟨written.changes, fun _ user isUser => ?_, fun _ => changed⟩
      rw [sameCustomer, found] at isUser
      cases isUser
  | some customer =>
      rw [found] at sameCustomer
      have isOwn : ∀ user, disputedUser start disputeId = some user →
          user = customer.telegramUserId := by
        intro user isUser
        exact Option.some.inj (isUser.symm.trans sameCustomer)
      have done : ∀ {state past}, (∀ change ∈ past,
          ApprovalChange disputeId change) →
          (∃ change ∈ past, KeepsApproved start change.after) →
          GloballyListed state customer.telegramUserId →
          ApprovalHistory start disputeId state past
            (some (.ok .nothing)) := by
        intro state past changes changed listed
        refine ⟨changes, fun _ user isUser _ _ _ => ?_, fun _ => changed⟩
        rw [isOwn user isUser]
        exact listed
      refine Program.leads_select soFar fun second secondRelies => ?_
      dsimp only
      split_ifs with reached
      · refine Program.leads_select soFar fun third thirdRelies => ?_
        split_ifs with listed
        · exact done written.changes changed (idsWhere_ne_nil_iff.mp listed)
        · refine leads_insert soFar (fun last relies _ stable =>
            ⟨relies.holds.trans stable.2, ?_⟩) fun last _ refused => ?_
          · have since : KeepsApproved second last :=
              thirdRelies.stable.2.trans relies.stable.2
            refine done (written.concat ?_ ?_ stable.2).changes ?_ ?_
            · exact (firstRelies.stable.2.trans secondRelies.stable.2).trans
                since
            · exact .entered customer.telegramUserId _
                (reached.trans (count_mono since)) rfl
            · obtain ⟨change, member, kept⟩ := changed
              exact ⟨change, List.mem_append_left _ member, kept⟩
            · refine ⟨_, _, row_put_self (by simp), ?_⟩
              simp [isGloballyListed, autoBlacklistEntry]
          · cases refused
      · refine ⟨written.changes,
          fun _ user isUser change member reachedBefore => ?_,
          fun _ => changed⟩
        rw [isOwn user isUser] at reachedBefore
        refine absurd (reachedBefore.trans (count_mono ?_)) reached
        exact (written.kept change member).trans
          (firstRelies.stable.2.trans secondRelies.stable.2)

theorem approvalChange_refunded {balance : Cents} {resellerId id : Nat}
    {amount : Rat} {orderCode : String} {rows : List RowKey} :
    ApprovalChange disputeId ⟨state, WalletService.refunded balance resellerId
      amount orderCode id state, rows⟩ := by
  have same : ∀ {name}, name ≠ TableName.resellers →
      name ≠ TableName.walletTransactions → ∀ key,
      (WalletService.refunded balance resellerId amount orderCode id
        state).row name key = state.row name key :=
    fun noReseller noEntry _ => row_withLedgerEntry_of_ne noReseller noEntry
  apply ApprovalChange.other
  · apply KeepsApproved.of_tables
    · exact fun key => (same (by decide) (by decide) key).symm
    · exact fun key => (same (by decide) (by decide) key).symm
    · exact fun key => (same (by decide) (by decide) key).symm
  · exact same (by decide) (by decide)

/-- Whatever runs in between, an approval has one of these histories. -/
theorem leads_approveDispute :
    (ServiceCall.approveDispute disputeId).program.Leads
      (approvalEnvironment start) (ApprovalHistory start disputeId) none []
      state [] := by
  have nothing : ∀ state, ApprovalHistory start disputeId state [] none :=
    fun _ => ⟨by simp, by simp, by simp⟩
  have failed : ∀ error state, ApprovalHistory start disputeId state []
      (some (.error error)) := fun _ _ => ⟨by simp, by simp, by simp⟩
  refine Program.leads_select (nothing _) fun first firstRelies => ?_
  cases disputeFound : first.row .disputes disputeId with
  | none => exact failed _ _
  | some dispute =>
      refine Program.leads_select (nothing _) fun second secondRelies => ?_
      cases orderFound : second.row .orders dispute.orderId with
      | none => exact failed _ _
      | some order =>
          have sameUser : disputedUser start disputeId =
              (start.row .customers order.customerId).map
                (·.telegramUserId) := by
            rw [disputedUser, ← firstRelies.holds.orders, disputeFound,
              Option.map_some, Option.bind_some, userOf,
              ← secondRelies.holds.customers, orderFound]
            rfl
          refine leads_refundCommission nothing
            (fun third balance id rows thirdHolds stable => ?_)
            fun error now => failed _ _
          refine ⟨thirdHolds.trans stable.2, ?_⟩
          have nothingWritten : ApprovalWritten disputeId [] third :=
            ⟨by simp, by simp⟩
          have refunded : ApprovalWritten disputeId ([] ++ [⟨third, _, rows⟩])
              (WalletService.refunded balance dispute.resellerId
                (decimal order.commissionAmount) order.orderCode id third) :=
            nothingWritten.concat (.refl third) approvalChange_refunded stable.2
          refine leads_update ⟨refunded.changes, by simp, by simp⟩
            fun fourth relies stays => ⟨relies.holds.trans stays.2, ?_⟩
          have marked : ApprovalWritten disputeId (_ ++
              [⟨fourth, _, [.row .disputes disputeId]⟩]) _ :=
            refunded.concat relies.stable.2
              (.marked order.commissionAmount rfl) stays.2
          refine leads_update ⟨marked.changes, by simp, by simp⟩
            fun fifth relies stays => ⟨relies.holds.trans stays.2, ?_⟩
          refine leads_blacklistCustomer (marked.concat relies.stable.2
            (.other .withStatus_back fun _ => row_modify_of_ne (by decide))
            stays.2) ⟨⟨third, _, rows⟩, ?_, thirdHolds.trans stable.2⟩ sameUser
          apply List.mem_append_left
          apply List.mem_append_left
          exact List.mem_singleton_self _

end Approvals

/-- The customer of a purchase, and the error that it raises if the customer
is blacklisted. -/
def ServiceCall.refusal : ServiceCall → Option (Nat × ServiceError)
  | .createOrder _ _ customerId _ _
  | .createOrderPaidByWallet _ _ customerId _ _ =>
      some (customerId, OrderService.blacklistedError)
  | .purchaseCharge _ _ customerId _ =>
      some (customerId, ChargeService.blacklistedError)
  | .purchaseChargeBulk _ _ customerId quantity _ =>
      if quantity < 1 then none
      else some (customerId, ChargeService.blacklistedError)
  | _ => none

/-- The reseller from whom a purchase buys. -/
def ServiceCall.seller : ServiceCall → Option Nat
  | .createOrder resellerId .. | .createOrderPaidByWallet resellerId ..
  | .purchaseCharge resellerId .. | .purchaseChargeBulk resellerId .. =>
      some resellerId
  | _ => none

section Purchases

variable {call : ServiceCall} {customerId : Nat} {customer : CustomerRow}
variable {error : ServiceError} {db : Db}

/-- All purchases begin with the same two statements. -/
theorem ServiceCall.program_of_refusal
    (refusal : call.refusal = some (customerId, error)) :
    ∃ (resellerId : Nat) (rest : Db → Program Outcome),
      call.seller = some resellerId ∧ call.program = .select fun now =>
      OrderService.refuseBlacklisted (now.row .customers customerId) resellerId
        (.done (.error error)) (rest now) := by
  cases call with
  | createOrder resellerId =>
      cases refusal
      exact ⟨resellerId, _, rfl, rfl⟩
  | createOrderPaidByWallet resellerId =>
      cases refusal
      exact ⟨resellerId, _, rfl, rfl⟩
  | purchaseCharge resellerId =>
      cases refusal
      exact ⟨resellerId, _, rfl, rfl⟩
  | purchaseChargeBulk resellerId packageId customerId quantity stamps =>
      by_cases tooFew : quantity < 1
      · simp [ServiceCall.refusal, tooFew] at refusal
      · simp only [ServiceCall.refusal, tooFew, if_false] at refusal
        cases refusal
        exact ⟨resellerId, _, rfl, if_neg tooFew⟩
  | _ => cases refusal

/-- A purchase for a user whom the seller's list or the global one has raises
the error and changes nothing. -/
theorem runAlone_refused
    (refusal : call.refusal = some (customerId, error))
    (found : db.row .customers customerId = some customer)
    (listed : ∀ resellerId, call.seller = some resellerId →
      blacklisted db customer.telegramUserId (some resellerId) = true) :
    call.program.runAlone none db = (db, some (.error error)) := by
  obtain ⟨resellerId, rest, isSeller, same⟩ :=
    ServiceCall.program_of_refusal refusal
  rw [same, Program.runAlone_select, found, OrderService.refuseBlacklisted,
    runAlone_isBlacklisted, listed resellerId isSeller]
  rfl

/-- Nothing but entries and customers matters. -/
def barredEnvironment : Environment dbView where
  invariant _ := True
  stable := KeepsUsers
  invariant_of_quiet _ _ := trivial
  stable_of_quiet := .of_quiet
  stable_trans := .trans

/-- The call has changed nothing, and returns nothing but the error. -/
def Refused (error : ServiceError) (_ : Db)
    (past : List (Recorded Db RowKey)) (result : Option Outcome) : Prop :=
  past = [] ∧ ∀ outcome, result = some outcome → outcome = .error error

theorem leads_refused
    (refusal : call.refusal = some (customerId, error))
    (found : db.row .customers customerId = some customer)
    (listed : GloballyListed db customer.telegramUserId) :
    call.program.Leads barredEnvironment (Refused error) none [] db [] := by
  obtain ⟨resellerId, rest, -, same⟩ := ServiceCall.program_of_refusal refusal
  have nothing : ∀ state, Refused error state [] none :=
    fun _ => ⟨rfl, by simp⟩
  rw [same]
  refine Program.leads_select (nothing _) fun first firstRelies => ?_
  have sameUser := firstRelies.stable.users customerId
  rw [found] at sameUser
  obtain ⟨current, currentFound, isUser⟩ :=
    Option.map_eq_some_iff.mp sameUser
  rw [currentFound, OrderService.refuseBlacklisted]
  refine Program.leads_select (nothing _) fun second secondRelies => ?_
  have listedNow : GloballyListed second current.telegramUserId := by
    rw [isUser]
    exact listed.of_keeps (firstRelies.stable.trans secondRelies.stable)
  rw [if_pos (idsWhere_ne_nil_iff.mpr listedNow)]
  exact ⟨rfl, by simp⟩

/-- Other calls do as they please. -/
theorem leads_barredEnvironment (call : ServiceCall) :
    call.program.Leads barredEnvironment
      (fun _ past _ => Program.AllRelated (fun _ _ => True) past) none [] db
      [] := by
  have follows : Program.Follows barredEnvironment (fun _ _ => True)
      (call.guarantee fun _ => True) :=
    ⟨fun _ _ _ _ => trivial, fun _ _ _ _ => ⟨trivial, trivial⟩,
      fun _ _ _ _ => ⟨trivial, trivial⟩⟩
  have safe := ServiceCall.safe_program (fun _ => True) call db
  exact safe.leads follows (by simp [Program.AllRelated])

end Purchases

section Runs

variable {Caller : Type} [DecidableEq Caller] {approved : Caller → Nat}
variable {start : Db} {system : ServiceSystem Caller}
variable {past : Caller → List (Recorded Db RowKey)}

/-- Approvals of disputes, each dispute any number of times. -/
def approvals (approved : Caller → Nat) (caller : Caller) : ServiceCall :=
  .approveDispute (approved caller)

/-- No step of any calls removes an entry. -/
theorem keepsUsers_step {calls : Caller → ServiceCall}
    (sound : SoundCalls (fun _ => True) calls system) (event : Event Caller) :
    KeepsUsers system.state (system.step event).state := by
  cases (sound.step (.of_true ..) event).2 with
  | quiet _ quiet => exact .of_quiet quiet
  | written _ _ writes => exact ServiceCall.keepsUsers_of_writes writes
  | committed _ commits => exact ServiceCall.keepsUsers_of_commits commits

/-- No step of approvals takes an approval back. -/
theorem keepsApproved_step
    (sound : SoundCalls (fun _ => True) (approvals approved) system)
    (event : Event Caller) :
    KeepsApproved system.state (system.step event).state := by
  cases (sound.step ((.of_true ..)) event).2 with
  | quiet _ quiet => exact .of_quiet quiet
  | written _ _ writes =>
      obtain ⟨dispute, order, -, -, stored | stored | ⟨entry, stored⟩⟩ := writes
      · rw [stored]
        exact .approve
      · rw [stored]
        exact .withStatus
      · rw [stored]
        apply KeepsApproved.of_tables
        · exact fun _ => by rw [row_put_of_ne (by decide), row_reserve]
        · exact fun _ => by rw [row_put_of_ne (by decide), row_reserve]
        · exact fun _ => by rw [row_put_of_ne (by decide), row_reserve]
  | committed _ commits =>
      obtain ⟨dispute, order, -, -, reseller, id, -, -, stored⟩ := commits
      rw [stored]
      apply KeepsApproved.of_tables
      · exact fun _ => row_withLedgerEntry_of_ne (by decide) (by decide)
      · exact fun _ => row_withLedgerEntry_of_ne (by decide) (by decide)
      · exact fun _ => row_withLedgerEntry_of_ne (by decide) (by decide)

/-- Whoever reaches the threshold is listed, or one of the approvals that has
made the user reach it will see to it; and nobody is listed below it. -/
structure Pursued (start : Db) (approved : Caller → Nat)
    (system : ServiceSystem Caller)
    (past : Caller → List (Recorded Db RowKey)) : Prop where
  sound : SoundCalls (fun _ => True) (approvals approved) system
  led : System.Led (approvalEnvironment start)
    (fun caller => ApprovalHistory start (approved caller)) system past
  pursued : ∀ user,
    (autoBlacklistThreshold ≤ countConfirmedFakeReceipts start user →
      GloballyListed start user) →
    autoBlacklistThreshold ≤ countConfirmedFakeReceipts system.state user →
    GloballyListed system.state user ∨
      ∃ caller, disputedUser start (approved caller) = some user ∧
        ∃ change ∈ past caller,
          autoBlacklistThreshold ≤ countConfirmedFakeReceipts change.after user
  automatic : ∀ id entry, system.state.row .blacklist id = some entry →
    start.row .blacklist id = some entry ∨
      ∃ user count, entry = autoBlacklistEntry user count ∧
        autoBlacklistThreshold ≤ countConfirmedFakeReceipts system.state user

theorem pursued_start :
    Pursued start approved (startCalls start (approvals approved))
      fun _ => [] where
  sound := soundCalls_start trivial
  led := System.Led.start (fun _ => lasting_approvalHistory) (.refl start)
    fun _ => leads_approveDispute
  pursued _ listedBefore reached := .inl (listedBefore reached)
  automatic _ _ found := .inl found

/-- A step that changes neither the counts nor the blacklist. -/
theorem Pursued.of_back (now : Pursued start approved system past)
    {event : Event Caller}
    (ledAfter : System.Led (approvalEnvironment start)
      (fun caller => ApprovalHistory start (approved caller))
      (system.step event) (system.extended past event))
    (back : KeepsApproved (system.step event).state system.state)
    (entries : ∀ id entry, (system.step event).state.row .blacklist id =
        some entry → system.state.row .blacklist id = some entry ∨
      ∃ user count, entry = autoBlacklistEntry user count ∧
        autoBlacklistThreshold ≤
          countConfirmedFakeReceipts system.state user) :
    Pursued start approved (system.step event)
      (system.extended past event) where
  sound := (now.sound.step ((.of_true ..)) event).1
  led := ledAfter
  pursued user listedBefore reached := by
    rcases now.pursued user listedBefore (reached.trans (count_mono back)) with
      listed | ⟨caller, isUser, change, member, soon⟩
    · exact .inl (listed.of_keeps (keepsUsers_step now.sound event))
    · exact .inr ⟨caller, isUser, change, List.mem_append_left _ member, soon⟩
  automatic id entry found := by
    have kept : ∀ user, autoBlacklistThreshold ≤
          countConfirmedFakeReceipts system.state user →
        autoBlacklistThreshold ≤
          countConfirmedFakeReceipts (system.step event).state user :=
      fun user reached => reached.trans
        (count_mono (keepsApproved_step now.sound event))
    rcases entries id entry found with old | ⟨user, count, isEntry, reached⟩
    · rcases now.automatic id entry old with
        first | ⟨user, count, isEntry, reached⟩
      · exact .inl first
      · exact .inr ⟨user, count, isEntry, kept user reached⟩
    · exact .inr ⟨user, count, isEntry, kept user reached⟩

theorem Pursued.step (now : Pursued start approved system past)
    (event : Event Caller) :
    Pursued start approved (system.step event)
      (system.extended past event) := by
  have ledAfter := now.led.step event
    ⟨keepsUsers_step now.sound event, keepsApproved_step now.sound event⟩
  cases recorded : system.recordsNow event with
  | false =>
      have quiet := now.led.quiet recorded
      refine now.of_back ledAfter (.of_tables ?_ ?_ ?_) ?_
      · exact fun id => quiet_row quiet _ id
      · exact fun id => quiet_row quiet _ id
      · exact fun id => quiet_row quiet _ id
      · intro id entry found
        rw [← quiet_row quiet] at found
        exact .inl found
  | true =>
      have grows : system.extended past event event.call =
          past event.call ++ [⟨system.state, (system.step event).state,
            system.writtenNow event⟩] := by
        simp [System.extended, System.record, recorded]
      have isLast : (⟨system.state, (system.step event).state,
          system.writtenNow event⟩ : Recorded Db RowKey) ∈
            system.extended past event event.call := by
        rw [grows]
        exact List.mem_append_right _ (List.mem_singleton_self _)
      cases (ledAfter.isAllowed event.call).changes _ isLast with
      | other back entries =>
          refine now.of_back ledAfter back fun id entry found => .inl ?_
          rw [← entries]
          exact found
      | entered user count reached stored =>
          dsimp only at stored reached
          refine now.of_back ledAfter (.of_tables ?_ ?_ ?_) ?_
          · intro id
            rw [stored, row_put_of_ne (by decide), row_reserve]
          · intro id
            rw [stored, row_put_of_ne (by decide), row_reserve]
          · intro id
            rw [stored, row_put_of_ne (by decide), row_reserve]
          · intro id entry found
            rw [stored] at found
            by_cases isNew : id = system.state.nextId .blacklist
            · subst isNew
              rw [row_put_self (by simp)] at found
              cases found
              exact .inr ⟨user, count, rfl, reached⟩
            · rw [row_put_ne isNew, row_reserve] at found
              exact .inl found
      | marked amount stored =>
          dsimp only at stored
          refine ⟨(now.sound.step ((.of_true ..)) event).1, ledAfter, ?_, ?_⟩
          · intro user listedBefore reached
            by_cases own : disputedUser system.state (approved event.call) =
                some user
            · rw [disputedUser_congr now.led.holds] at own
              exact .inr ⟨event.call, own, _, isLast, reached⟩
            · have before : autoBlacklistThreshold ≤
                  countConfirmedFakeReceipts system.state user := by
                rw [stored] at reached
                exact reached.trans (count_approve_le own)
              rcases now.pursued user listedBefore before with
                listed | ⟨caller, isUser, change, member, soon⟩
              · exact .inl (listed.of_keeps (keepsUsers_step now.sound event))
              · exact .inr ⟨caller, isUser, change,
                  List.mem_append_left _ member, soon⟩
          · intro id entry found
            rw [stored, row_modify_of_ne (by decide)] at found
            rcases now.automatic id entry found with
              first | ⟨user, count, isEntry, reached⟩
            · exact .inl first
            · exact .inr ⟨user, count, isEntry, reached.trans
                (count_mono (keepsApproved_step now.sound event))⟩

theorem Pursued.run (now : Pursued start approved system past)
    (events : List (Event Caller)) :
    Pursued start approved (StepRuns.final System.step system events)
      fun caller => past caller ++ system.history caller events := by
  induction events generalizing system past with
  | nil => simpa [System.history] using now
  | cons event events ih =>
      simpa [System.history, System.extended] using ih (now.step event)

/-- Whatever calls run from here, a purchase for a listed user changes nothing,
and raises the error if it ends. -/
theorem refused_run {calls : Caller → ServiceCall} {db : Db} {caller : Caller}
    {customerId : Nat} {customer : CustomerRow} {error : ServiceError}
    (refusal : (calls caller).refusal = some (customerId, error))
    (found : db.row .customers customerId = some customer)
    (listed : GloballyListed db customer.telegramUserId)
    (events : List (Event Caller)) :
    Refused error (runCalls db calls events).state
      ((startCalls db calls).history caller events)
      ((runCalls db calls events).result caller) := by
  let allowed (other : Caller) : Db → List (Recorded Db RowKey) →
      Option Outcome → Prop :=
    if other = caller then Refused error
    else fun _ past _ => Program.AllRelated (fun _ _ => True) past
  have led : System.Led barredEnvironment allowed (startCalls db calls)
      fun _ => [] := by
    refine System.Led.start (fun other => ?_) trivial fun other => ?_
    · by_cases same : other = caller
      · simp only [allowed, same, if_true]
        exact fun _ refused => refused
      · simp only [allowed, same, if_false]
        exact fun _ related => related
    · by_cases same : other = caller
      · simp only [allowed, same, if_true]
        exact leads_refused refusal found listed
      · simp only [allowed, same, if_false]
        exact leads_barredEnvironment _
  have stays : ∀ (system : ServiceSystem Caller) event,
      SoundCalls (fun _ => True) calls system →
      SoundCalls (fun _ => True) calls (system.step event) :=
    fun _ event sound => (sound.step (.of_true ..) event).1
  have kept : ∀ (system : ServiceSystem Caller) event,
      SoundCalls (fun _ => True) calls system →
      KeepsUsers system.state (system.step event).state :=
    fun _ event sound => keepsUsers_step sound event
  have stable : System.StableRun barredEnvironment (startCalls db calls)
      events :=
    StepRuns.along_of_invariant stays kept (soundCalls_start trivial) events
  have history := (led.run stable).isAllowed caller
  simpa [allowed] using history

/-- From the database on, whatever else has changed in it but its blacklist,
every purchase for a customer row of the user raises its error and changes
nothing, alone and among any other calls. -/
def BarredFrom (db : Db) (user : Int) : Prop :=
  ∀ now : Db, (∀ id entry, db.row .blacklist id = some entry →
      now.row .blacklist id = some entry) →
    ∀ call customerId customer error,
      ServiceCall.refusal call = some (customerId, error) →
      now.row .customers customerId = some customer →
      customer.telegramUserId = user →
      call.program.runAlone none now = (now, some (.error error)) ∧
      ∀ (calls : Nat → ServiceCall) caller events, calls caller = call →
        Refused error (runCalls now calls events).state
          ((startCalls now calls).history caller events)
          ((runCalls now calls events).result caller)

theorem barredFrom_of_listed {db : Db} {user : Int}
    (listed : GloballyListed db user) : BarredFrom db user := by
  intro now kept call customerId customer error refusal found isUser
  have listedNow : GloballyListed now customer.telegramUserId := by
    obtain ⟨id, entry, isEntry, isListed⟩ := listed
    rw [isUser]
    exact ⟨id, entry, kept id entry isEntry, isListed⟩
  have everywhere : ∀ resellerId, call.seller = some resellerId →
      blacklisted now customer.telegramUserId (some resellerId) = true := by
    intro resellerId _
    simp [blacklisted, idsWhere_ne_nil_iff.mpr listedNow]
  refine ⟨runAlone_refused refusal found everywhere, ?_⟩
  rintro calls caller events rfl
  exact refused_run refusal found listedNow events

/-- When all approvals have returned, whoever has reached the threshold is
listed, unless the user had reached it before without being listed and was not
approved again; no automatic entry is of anybody who has not reached it; and
whoever is listed is barred from buying. -/
theorem approvals_run (start : Db) (events : List (Event Caller))
    (returned : ∀ caller, (runCalls start (approvals approved) events).result
      caller = some (.ok .nothing)) :
    let after := (runCalls start (approvals approved) events).state
    (∀ user,
      (autoBlacklistThreshold ≤ countConfirmedFakeReceipts start user →
        GloballyListed start user ∨
          ∃ caller, disputedUser start (approved caller) = some user) →
      autoBlacklistThreshold ≤ countConfirmedFakeReceipts after user →
      GloballyListed after user) ∧
    (∀ id entry, after.row .blacklist id = some entry →
      start.row .blacklist id = some entry ∨
        ∃ user count, entry = autoBlacklistEntry user count ∧
          autoBlacklistThreshold ≤ countConfirmedFakeReceipts after user) ∧
    ∀ user, GloballyListed after user → BarredFrom after user := by
  have pursued : Pursued start approved
      (runCalls start (approvals approved) events) _ :=
    pursued_start.run events
  refine ⟨fun user listedBefore reached => ?_, pursued.automatic,
    fun user => barredFrom_of_listed⟩
  by_cases approvedAgain :
      autoBlacklistThreshold ≤ countConfirmedFakeReceipts start user ∧
        ∃ caller, disputedUser start (approved caller) = some user
  · obtain ⟨before, caller, isUser⟩ := approvedAgain
    have history := pursued.led.isAllowed caller
    obtain ⟨change, member, kept⟩ := history.changed (returned caller)
    exact history.entered (returned caller) user isUser change member
      (before.trans (count_mono kept))
  · have listed : autoBlacklistThreshold ≤
        countConfirmedFakeReceipts start user → GloballyListed start user :=
      fun before => (listedBefore before).resolve_right fun again =>
        approvedAgain ⟨before, again⟩
    rcases pursued.pursued user listed reached with
      now | ⟨caller, isUser, change, member, soon⟩
    · exact now
    · exact (pursued.led.isAllowed caller).entered (returned caller) user
        isUser change member soon

end Runs

/-- Three disputes over three orders of a customer. -/
def fakeReceiptsDb : Db :=
  .filled fun
    | .resellers => [shopReseller]
    | .customers => [shopCustomer]
    | .packages => [shopPackage]
    | .orders => ["AR-1", "AR-2", "AR-3"].map fun orderCode =>
        { orderCode := orderCode
          resellerId := 1
          packageId := 1
          customerId := 1
          packagePrice := 800 }
    | .disputes => [1, 2, 3].map fun orderId =>
        { orderId := orderId, resellerId := 1, reason := "fake" }
    | _ => []

def fakeReceiptIds : Fin 3 → Nat
  | 0 => 1
  | 1 => 2
  | 2 => 3

/-- All three approvals mark their disputes before one of them counts. -/
def fakeReceiptEvents : List (Event (Fin 3)) :=
  ((List.finRange 3).flatMap fun caller =>
    List.replicate 9 (.advance caller)) ++
  (List.finRange 3).flatMap fun caller => List.replicate 9 (.advance caller)

theorem approvals_run_three :
    let after :=
      (runCalls fakeReceiptsDb (approvals fakeReceiptIds) fakeReceiptEvents).state
    (∀ user,
      (autoBlacklistThreshold ≤ countConfirmedFakeReceipts fakeReceiptsDb user →
        GloballyListed fakeReceiptsDb user ∨
          ∃ caller, disputedUser fakeReceiptsDb (fakeReceiptIds caller) =
            some user) →
      autoBlacklistThreshold ≤ countConfirmedFakeReceipts after user →
      GloballyListed after user) ∧
    (∀ id entry, after.row .blacklist id = some entry →
      fakeReceiptsDb.row .blacklist id = some entry ∨
        ∃ user count, entry = autoBlacklistEntry user count ∧
          autoBlacklistThreshold ≤ countConfirmedFakeReceipts after user) ∧
    ∀ user, GloballyListed after user → BarredFrom after user :=
  approvals_run fakeReceiptsDb fakeReceiptEvents (by decide +kernel)

example :
    let after :=
      (runCalls fakeReceiptsDb (approvals fakeReceiptIds) fakeReceiptEvents).state
    countConfirmedFakeReceipts after shopCustomer.telegramUserId = 3 ∧
      (after.idsWhere .blacklist fun _ => true).length = 1 := by
  decide +kernel

end Baste
