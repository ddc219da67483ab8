import Baste.BotRecords
import Baste.OrderOrigins

/-!
# The records of a customer

Which orders and top-ups belong to a user in a shop, and which records a change
made for the user leaves alone: those of all other customers.
-/

namespace Baste

open BotScripts Database Transaction

section Owners

/-- The row is that of another customer than the user in the shop. -/
def IsOther (resellerId : Nat) (userId : Int) (db : Db) (customerId : Nat) :
    Prop :=
  ∃ customer, db.row .customers customerId = some customer ∧
    ¬ (customer.resellerId = resellerId ∧ customer.telegramUserId = userId)

/-- The order of the user in the shop. -/
def IsOwnOrder (resellerId : Nat) (userId : Int) (db : Db) (orderId : Nat) :
    Prop :=
  ∃ order, db.row .orders orderId = some order ∧
    IsCustomer resellerId userId db order.customerId

/-- The top-up of the user in the shop. -/
def IsOwnTopup (resellerId : Nat) (userId : Int) (db : Db) (topupId : Nat) :
    Prop :=
  ∃ topup, db.row .customerWalletTopups topupId = some topup ∧
    IsCustomer resellerId userId db topup.customerId

variable {resellerId : Nat} {userId : Int} {before after : Db}

theorem not_isOther_of_isCustomer {db : Db} {customerId : Nat}
    (own : IsCustomer resellerId userId db customerId) :
    ¬ IsOther resellerId userId db customerId := by
  rintro ⟨customer, found, isOther⟩
  obtain ⟨same, isSame, identity⟩ := own
  cases found.symm.trans isSame
  exact isOther identity

/-- Customers stay what they are, orders and top-ups stay theirs, and bans
stay. -/
def ownerPolicy : ∀ name, RowPolicy (RowOf name)
  | .customers => .keeping
      (fun customer : CustomerRow =>
        (customer.resellerId, customer.telegramUserId))
      fun _ => (none : Option Unit)
  | .orders => .keeping
      (fun order : OrderRow => (order.resellerId, order.customerId))
      fun _ => (none : Option Unit)
  | .customerWalletTopups =>
      .keeping CustomerWalletTopupRow.customerId fun _ => (none : Option Unit)
  | .blacklist => .fixed
  | _ => .free

/-- The tables in which owners and bans are written down. -/
def ownerTables : List TableName :=
  [.customers, .orders, .customerWalletTopups, .blacklist]

theorem IsCustomer.retained {customerId : Nat}
    (own : IsCustomer resellerId userId before customerId)
    (retains : Retains ownerPolicy before after) :
    IsCustomer resellerId userId after customerId := by
  obtain ⟨customer, found, ofReseller, ofUser⟩ := own
  obtain ⟨now, isNow, allows⟩ := retains .customers customerId customer found
    trivial
  have same : (now.resellerId, now.telegramUserId) =
      (customer.resellerId, customer.telegramUserId) := allows.permanent
  obtain ⟨sameReseller, sameUser⟩ := Prod.mk.inj same
  exact ⟨now, isNow, sameReseller.trans ofReseller, sameUser.trans ofUser⟩

theorem IsOwnOrder.retained {orderId : Nat}
    (own : IsOwnOrder resellerId userId before orderId)
    (retains : Retains ownerPolicy before after) :
    IsOwnOrder resellerId userId after orderId := by
  obtain ⟨order, found, ofUser⟩ := own
  obtain ⟨now, isNow, allows⟩ := retains .orders orderId order found trivial
  have same : (now.resellerId, now.customerId) =
      (order.resellerId, order.customerId) := allows.permanent
  rw [← (Prod.mk.inj same).2] at ofUser
  exact ⟨now, isNow, ofUser.retained retains⟩

theorem IsOwnTopup.retained {topupId : Nat}
    (own : IsOwnTopup resellerId userId before topupId)
    (retains : Retains ownerPolicy before after) :
    IsOwnTopup resellerId userId after topupId := by
  obtain ⟨topup, found, ofUser⟩ := own
  obtain ⟨now, isNow, allows⟩ := retains .customerWalletTopups topupId topup
    found trivial
  have same : now.customerId = topup.customerId := allows.permanent
  exact ⟨now, isNow, by rw [same]; exact ofUser.retained retains⟩

theorem keepsOwners_of_sameOutside {tables : List TableName}
    (same : SameOutside tables before after)
    (outside : ∀ name ∈ ownerTables, name ∉ tables) :
    Retains ownerPolicy before after := by
  refine .of_sameOutside same fun name inside row => ?_
  have other : name ∉ ownerTables := fun member => outside name member inside
  cases name with
  | customers | orders | customerWalletTopups | blacklist =>
      exact absurd (by decide) other
  | _ => exact RowPolicy.not_stays_free

/-- What the bots keep of the records says whose they are. -/
theorem botRecordPolicy_refines :
    ∀ name, (botRecordPolicy name).Refines (ownerPolicy name) := by
  intro name
  cases name with
  | customers =>
      refine ⟨fun _ stays => stays, ?_⟩
      intro old new _ allows
      have same : new.withBalance 0 = old.withBalance 0 := allows.permanent
      have reseller := congrArg CustomerRow.resellerId same
      have user := congrArg CustomerRow.telegramUserId same
      exact ⟨Prod.ext reseller user, fun _ isSettled => by cases isSettled⟩
  | orders =>
      refine ⟨fun _ stays => stays, ?_⟩
      intro old new _ allows
      have same : new.agreement = old.agreement := allows.permanent
      have reseller := congrArg OrderRow.resellerId same
      have customer := congrArg OrderRow.customerId same
      exact ⟨Prod.ext reseller customer, fun _ isSettled => by cases isSettled⟩
  | customerWalletTopups =>
      refine ⟨fun _ stays => stays, ?_⟩
      intro old new _ allows
      have customer :=
        congrArg CustomerWalletTopupRow.customerId allows.permanent
      exact ⟨customer, fun _ isSettled => by cases isSettled⟩
  | blacklist => exact .refl
  | _ => exact RowPolicy.refines_free

theorem keepsOwners_of_retains (retains : Retains botRecordPolicy before after) :
    Retains ownerPolicy before after :=
  retains.weaken botRecordPolicy_refines

theorem keepsOwners_runAlone (call : ServiceCall) (db : Db) :
    Retains ownerPolicy db (call.runAlone db) :=
  keepsOwners_of_retains
    ((call.retains_runAlone db).weaken recordPolicy_refines)

/-- Every deed of a bot leaves everything to its owner. -/
theorem keepsOwners_of_botDeed (deed : BotDeed before after) :
    Retains ownerPolicy before after := by
  cases deed with
  | service call => exact keepsOwners_runAlone call before
  | insert => exact .insert
  | settings same inside =>
      refine keepsOwners_of_sameOutside same fun name owner member => ?_
      have setting := inside member
      revert owner setting
      cases name <;> decide
  | package =>
      exact @keepsOwners_of_sameOutside _ _ [.packages] (.modify (by decide))
        (by decide)
  | deletion clears =>
      exact keepsOwners_of_sameOutside clears.rows (by decide)
  | discount | disputed =>
      exact .modify fun _ _ _ => ⟨rfl, fun _ isSettled => isSettled⟩
  | receipt =>
      exact .modify fun _ _ _ => ⟨rfl, fun _ isSettled => isSettled⟩
  | reseller =>
      exact @keepsOwners_of_sameOutside _ _ [.resellers] (.modify (by decide))
        (by decide)

end Owners

open Classical in
/-- What stays as it is when something is done for the user: the rows of other
customers, with their orders and top-ups, what is decided about the user's own
top-ups, and the ledger, the disputes, the referrals and the bans, to which
new ones may be added. -/
noncomputable def sparing (resellerId : Nat) (userId : Int) (others : Nat → Prop) :
    ∀ name, RowPolicy (RowOf name)
  | .customers => .fixing fun customer : CustomerRow =>
      ¬ (customer.resellerId = resellerId ∧ customer.telegramUserId = userId)
  | .orders => .fixing fun order : OrderRow => others order.customerId
  | .customerWalletTopups => .keeping
      (fun topup : CustomerWalletTopupRow =>
        if others topup.customerId then topup
        else { topup with receiptImage := none })
      fun _ => (none : Option Unit)
  | .walletTransactions | .disputes | .referralLinks | .blacklist => .fixed
  | _ => .free

/-- The change leaves the records of all others alone. -/
def SparesOthers (resellerId : Nat) (userId : Int) (before after : Db) :
    Prop :=
  Retains (sparing resellerId userId (IsOther resellerId userId before))
    before after

/-- As long as some customers are others, the change leaves their records
alone, and they stay others. -/
def Spares (resellerId : Nat) (userId : Int) (others : Nat → Prop)
    (before after : Db) : Prop :=
  (∀ id, others id → IsOther resellerId userId before id) →
    Retains (sparing resellerId userId others) before after ∧
      ∀ id, others id → IsOther resellerId userId after id

namespace Spares

variable {resellerId : Nat} {userId : Int} {others : Nat → Prop}
variable {before after : Db} {db : Db} {id : Nat}

theorem sparesOthers
    (spares : Spares resellerId userId
      (IsOther resellerId userId before) before after) :
    SparesOthers resellerId userId before after :=
  (spares fun _ isOther => isOther).1

instance : Std.Refl (Spares resellerId userId others) :=
  ⟨fun db areOthers => ⟨.refl db, areOthers⟩⟩

instance : IsTrans Db (Spares resellerId userId others) where
  trans _ _ _ start rest areOthers := by
    obtain ⟨first, between⟩ := start areOthers
    obtain ⟨second, later⟩ := rest between
    exact ⟨first.trans second, later⟩

/-- The rows of others stay, so that they stay others. -/
theorem of_retains
    (retains : (∀ id, others id → IsOther resellerId userId before id) →
      Retains (sparing resellerId userId others) before after) :
    Spares resellerId userId others before after := by
  intro areOthers
  refine ⟨retains areOthers, ?_⟩
  intro id isOther
  obtain ⟨customer, found, notUser⟩ := areOthers id isOther
  obtain ⟨now, isNow, allows⟩ := retains areOthers .customers id customer found
    notUser
  have same : now = customer := allows.permanent
  exact ⟨now, isNow, by rw [same]; exact notUser⟩

/-- The tables with records of customers and of what was done for them. -/
def recordTables : List TableName :=
  [.customers, .orders, .customerWalletTopups, .walletTransactions, .disputes,
    .referralLinks, .blacklist]

theorem of_sameOutside {tables : List TableName}
    (same : SameOutside tables before after)
    (outside : ∀ name ∈ recordTables, name ∉ tables) :
    Spares resellerId userId others before after := by
  refine of_retains fun _ => .of_sameOutside same ?_
  intro name inside row
  have other : name ∉ recordTables := fun member => outside name member inside
  cases name with
  | customers | orders | customerWalletTopups | walletTransactions | disputes
  | referralLinks | blacklist => exact absurd (by decide) other
  | _ => exact RowPolicy.not_stays_free

theorem insert {name : TableName} {row : RowOf name} :
    Spares resellerId userId others db
      ((db.reserve name).put name (db.nextId name) row) :=
  of_retains fun _ => .insert

theorem reserve {name : TableName} :
    Spares resellerId userId others db (db.reserve name) :=
  of_retains fun _ => .reserve

theorem put {name : TableName} {row : RowOf name}
    (absent : db.row name id = none) :
    Spares resellerId userId others db (db.put name id row) :=
  of_retains fun _ => .put absent

theorem modify_customer {change : CustomerRow → CustomerRow}
    (own : IsCustomer resellerId userId db id) :
    Spares resellerId userId others db (db.modify .customers id change) := by
  refine of_retains fun _ => .modify ?_
  intro old found notUser
  exact absurd ⟨old, found, notUser⟩ (not_isOther_of_isCustomer own)

theorem modify_order {change : OrderRow → OrderRow}
    (own : IsOwnOrder resellerId userId db id) :
    Spares resellerId userId others db (db.modify .orders id change) := by
  refine of_retains fun areOthers => .modify ?_
  intro old found isOther
  obtain ⟨order, isOrder, ofUser⟩ := own
  cases found.symm.trans isOrder
  exact absurd (areOthers _ isOther) (not_isOther_of_isCustomer ofUser)

theorem modify_topup {receiptFileId : String}
    (own : IsOwnTopup resellerId userId db id) :
    Spares resellerId userId others db
      (db.modify .customerWalletTopups id
        ({ · with receiptImage := some receiptFileId })) := by
  refine of_retains fun areOthers => .modify ?_
  intro old found _
  obtain ⟨topup, isTopup, ofUser⟩ := own
  cases found.symm.trans isTopup
  have notOther : ¬ others old.customerId :=
    fun isOther => not_isOther_of_isCustomer ofUser (areOthers _ isOther)
  refine ⟨?_, fun _ isSettled => by cases isSettled⟩
  simp [sparing, RowPolicy.keeping, notOther]

theorem withLedgerEntry {balance : Cents} {entry : WalletTransactionRow}
    {reseller : Nat} (reserved : db.Reserved .walletTransactions id) :
    Spares resellerId userId others db
      (db.withLedgerEntry reseller balance id entry) := by
  have balanced : Spares resellerId userId others db
      (db.modify .resellers reseller (·.withCreditBalance balance)) :=
    @of_sameOutside _ _ _ _ _ [.resellers] (.modify List.mem_cons_self)
      (by decide)
  refine IsTrans.trans _ _ _ balanced (put ?_)
  rw [row_modify_of_ne (by decide), reserved.1]

theorem deliver {purchase : ChargeService.Purchase} {sale : ChargeService.Sale}
    (reserved : db.Reserved .orders sale.orderId) :
    Spares resellerId userId others db (purchase.deliver db sale) := by
  rw [ChargeService.Purchase.deliver]
  apply IsTrans.trans _ _ _ (put reserved.1)
  exact @of_sameOutside _ _ _ _ _ [.chargeCodes] (.modify List.mem_cons_self)
    (by decide)

end Spares

namespace ServiceCall

variable {resellerId : Nat} {userId : Int} {others : Nat → Prop}
variable {invariant : Db → Prop} {call : ServiceCall} {before after : Db}

/-- The call is about a customer or an order of the user, or about no customer
at all. -/
def IsAbout (resellerId : Nat) (userId : Int) (db : Db) : ServiceCall → Prop
  | .createOrder .. | .requestTopup .. => True
  | .createOrderPaidByWallet _ _ customerId ..
  | .purchaseChargeBulk _ _ customerId .. =>
      IsCustomer resellerId userId db customerId
  | .submitReceipt _ orderId _ => IsOwnOrder resellerId userId db orderId
  | _ => False

theorem IsAbout.retained (about : call.IsAbout resellerId userId before)
    (retains : Retains ownerPolicy before after) :
    call.IsAbout resellerId userId after := by
  cases call with
  | createOrder | requestTopup => trivial
  | createOrderPaidByWallet | purchaseChargeBulk =>
      exact IsCustomer.retained about retains
  | submitReceipt => exact IsOwnOrder.retained about retains
  | _ => exact about.elim

theorem spares_of_writes (about : call.IsAbout resellerId userId before)
    (writes : (call.guarantee invariant).writes before after) :
    Spares resellerId userId others before after := by
  cases call with
  | createOrder =>
      obtain ⟨_, _, rfl⟩ := writes
      exact .insert
  | purchaseChargeBulk =>
      obtain ⟨_, _, rfl⟩ := writes
      exact @Spares.of_sameOutside _ _ _ _ _ [.chargeCodes]
        (.modify List.mem_cons_self) (by decide)
  | requestTopup | createOrderPaidByWallet | submitReceipt =>
      exact writes.elim
  | _ => exact about.elim

theorem spares_of_commits (about : call.IsAbout resellerId userId before)
    (commits : (call.guarantee invariant).commits before after) :
    Spares resellerId userId others before after := by
  cases call with
  | createOrder => exact commits.elim
  | requestTopup =>
      obtain ⟨_, reserved, rfl⟩ := commits
      exact .put reserved.1
  | createOrderPaidByWallet =>
      obtain ⟨_, _, _, _, -, -, reserved, rfl⟩ := commits
      refine IsTrans.trans _ _ _ (Spares.modify_customer about) (.put ?_)
      rw [row_modify_of_ne (by decide), reserved.1]
  | purchaseChargeBulk =>
      obtain ⟨_, sales, _, _, _, deliverable, rfl⟩ := commits
      apply ChargeService.Purchase.foldl_deliver_of_invariant
        (Spares resellerId userId others before) ?_ (deliverable.debited _)
      · exact .modify_customer about
      · intro now sale found available reserved soFar
        exact IsTrans.trans _ _ _ soFar (Spares.deliver reserved)
  | submitReceipt =>
      cases commits with
      | testOrder | failed => exact .modify_order about
      | charged _ _ _ _ _ _ _ _ _ reserved =>
          have charged := @Spares.withLedgerEntry resellerId userId others
          refine IsTrans.trans _ _ _ (charged reserved) (.modify_order ?_)
          exact IsOwnOrder.retained about (keepsOwners_of_retains
            ((retains_withLedgerEntry reserved).weaken recordPolicy_refines))
  | _ => exact about.elim

/-- A call for the user leaves the records of others alone. -/
theorem spares_runAlone {db : Db}
    (about : call.IsAbout resellerId userId db) :
    Spares resellerId userId others db (call.runAlone db) := by
  let invariant (now : Db) : Prop :=
    call.IsAbout resellerId userId now ∧ Spares resellerId userId others db now
  have preserves : System.Preserves dbView invariant
      fun _ : Unit => call.guarantee invariant :=
    { quiet := fun _ _ holds quiet =>
        ⟨holds.1.retained (.of_quiet quiet), IsTrans.trans _ _ _ holds.2
          (.of_sameOutside (.of_quiet quiet) fun _ _ => List.not_mem_nil)⟩
      writes := fun _ _ _ holds writes =>
        ⟨holds.1.retained (keepsOwners_of_retains
            ((retains_of_writes writes).weaken recordPolicy_refines)),
          IsTrans.trans _ _ _ holds.2 (spares_of_writes holds.1 writes)⟩
      commits := fun _ _ _ holds commits =>
        ⟨holds.1.retained (keepsOwners_of_retains
            ((retains_of_commits commits).weaken recordPolicy_refines)),
          IsTrans.trans _ _ _ holds.2 (spares_of_commits holds.1 commits)⟩ }
  exact ((call.safe_program invariant db).runAlone preserves
    ⟨about, Std.Refl.refl db⟩).2

end ServiceCall

end Baste
