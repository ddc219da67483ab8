import Baste.OrderOrigins
import Baste.WalletPurchases

/-!
# What purchases take from the wallet

A message that completes a purchase takes from the balance of the customer the
prices of the new orders that are paid from the wallet, and nothing else.  An
order that waits for its receipt takes nothing.
-/

namespace Baste

open BotScripts Database Transaction

/-- What is taken from the balances of customers are the prices of the orders
that are paid from them. -/
def PaysForOrders (before after : Db) : Prop :=
  ∀ customerId,
    paidTotal before customerId +
        (walletBalance before customerId - walletBalance after customerId) =
      paidTotal after customerId

namespace PaysForOrders

variable {first second third : Db}

theorem refl (db : Db) : PaysForOrders db db := by
  intro customerId
  rw [sub_self, add_zero]

theorem trans (start : PaysForOrders first second)
    (rest : PaysForOrders second third) : PaysForOrders first third := by
  intro customerId
  have early := start customerId
  have late := rest customerId
  linarith

instance : Std.Refl PaysForOrders := ⟨refl⟩

instance : IsTrans Db PaysForOrders := ⟨fun _ _ _ => trans⟩

/-- Neither balances nor orders are touched. -/
theorem of_rows
    (customers : ∀ id, second.row .customers id = first.row .customers id)
    (orders : ∀ id, second.row .orders id = first.row .orders id) :
    PaysForOrders first second := by
  intro customerId
  have balance : walletBalance second customerId =
      walletBalance first customerId := by
    rw [walletBalance, customers, walletBalance]
  have total : paidTotal second customerId = paidTotal first customerId :=
    total_congr _ orders
  rw [balance, total, sub_self, add_zero]

/-- A new customer has nothing in the wallet. -/
theorem put_customer {new : CustomerRow} (poor : new.walletBalance = 0) :
    PaysForOrders first
      ((first.reserve .customers).put .customers (first.nextId .customers)
        new) := by
  intro customerId
  have total : paidTotal ((first.reserve .customers).put .customers
      (first.nextId .customers) new) customerId =
        paidTotal first customerId := by
    rw [paidTotal, total_put_of_ne (by decide), total_reserve, paidTotal]
  have balance : walletBalance ((first.reserve .customers).put .customers
      (first.nextId .customers) new) customerId =
        walletBalance first customerId := by
    by_cases isNew : customerId = first.nextId .customers
    · simp [isNew, walletBalance, row_put_self, row_nextId, poor]
    · rw [walletBalance, row_put_ne isNew, row_reserve, walletBalance]
  rw [balance, total, sub_self, add_zero]

/-- An order that is not paid from the wallet. -/
theorem put_order {new : OrderRow} (unpaid : new.paidFromWallet = false) :
    PaysForOrders first
      ((first.reserve .orders).put .orders (first.nextId .orders) new) := by
  intro customerId
  have reserved : (first.reserve .orders).Reserved .orders
      (first.nextId .orders) := ⟨by rw [row_reserve, row_nextId], by simp⟩
  rw [walletBalance_put_order, paidTotal, paidTotal, total_put reserved,
    total_reserve]
  simp [walletBalance, paidAmount, unpaid]

end PaysForOrders

namespace ServiceCall

variable {invariant : Db → Prop} {call : ServiceCall} {before after : Db}

theorem paysForOrders_of_writes (creates : call.createsOrders = true)
    (writes : (call.guarantee invariant).writes before after) :
    PaysForOrders before after := by
  cases call with
  | createOrder =>
      obtain ⟨_, _, rfl⟩ := writes
      exact .put_order rfl
  | createOrderPaidByWallet => exact writes.elim
  | purchaseCharge | purchaseChargeBulk =>
      obtain ⟨_, _, rfl⟩ := writes
      exact .of_rows (fun _ => row_modify_of_ne (by decide))
        fun _ => row_modify_of_ne (by decide)
  | _ => cases creates

theorem paysForOrders_of_commits (creates : call.createsOrders = true)
    (commits : (call.guarantee invariant).commits before after) :
    PaysForOrders before after := by
  cases call with
  | createOrder => exact commits.elim
  | createOrderPaidByWallet => exact fun _ => paidTotal_walletOrder commits
  | purchaseCharge | purchaseChargeBulk =>
      exact fun _ => paidTotal_purchase commits
  | _ => cases creates

/-- A service function that creates orders takes what is paid for them. -/
theorem paysForOrders_runAlone (creates : call.createsOrders = true)
    (db : Db) : PaysForOrders db (call.runAlone db) := by
  let invariant : Db → Prop := PaysForOrders db
  have preserves : System.Preserves dbView invariant
      fun _ : Unit => call.guarantee invariant :=
    { quiet := fun _ _ holds quiet =>
        holds.trans (.of_rows (fun id => (quiet_row quiet _ id).symm)
          fun id => (quiet_row quiet _ id).symm)
      writes := fun _ _ _ holds writes =>
        holds.trans (paysForOrders_of_writes creates writes)
      commits := fun _ _ _ holds commits =>
        holds.trans (paysForOrders_of_commits creates commits) }
  exact (call.safe_program invariant db).runAlone preserves (.refl db)

end ServiceCall

namespace ShopBot

variable {shop : Shop} {userId : Int}

/-- Whatever becomes of the script, it takes what is paid for its orders. -/
abbrev Pays {Result : Type} (script : ShopScript Result) : Prop :=
  script.Moves (fun visit => visit.platform.db) PaysForOrders

theorem pays_of_keeps {Result : Type} {script : ShopScript Result}
    (keeps : KeepsPlatform (fun platform => platform.db) script) :
    Pays script :=
  keeps.moves

theorem pays_bind {Result Next : Type} {script : ShopScript Result}
    {next : Result → ShopScript Next} (first : Pays script)
    (rest : ∀ value, Pays (next value)) : Pays (script >>= next) :=
  Failing.Moves.bind first rest

theorem pays_attempt {service : ServiceCall}
    (creates : service.createsOrders = true) :
    Pays (attempt service) := by
  intro visit
  dsimp only
  rw [db_attempt]
  exact service.paysForOrders_runAlone creates _

theorem pays_getOrCreateCustomer {resellerId : Nat} :
    Pays (getOrCreateCustomer resellerId userId) := by
  apply pays_bind (pays_of_keeps (keeps_query _))
  intro found
  split
  · exact pays_of_keeps (Failing.keeps_pure _)
  · intro visit
    dsimp only
    rw [db_executeInsert]
    dsimp only
    split
    · exact .put_customer rfl
    · exact .of_rows (fun _ => row_reserve) fun _ => row_reserve

theorem pays_orderWithReceipt {packageId customerId : Nat}
    {phoneNumber : String} :
    Pays (CustomerOrders.orderWithReceipt shop packageId customerId
      phoneNumber) := by
  apply pays_bind (pays_attempt rfl)
  intro outcome
  split
  · exact pays_of_keeps (keeps_nextQuestion _ _)
  · exact pays_of_keeps keeps_clear
  · exact pays_of_keeps (Failing.keeps_throw _)

theorem pays_processPurchase {phoneNumber : String} :
    Pays (CustomerOrders.processPurchase shop userId phoneNumber) := by
  apply pays_bind (pays_of_keeps keeps_getData)
  intro data
  split
  · exact pays_of_keeps keeps_clear
  · apply pays_bind pays_getOrCreateCustomer
    intro customerId
    apply pays_bind (pays_attempt rfl)
    intro outcome
    split
    · exact pays_of_keeps keeps_clear
    · exact pays_of_keeps keeps_clear
    · exact pays_orderWithReceipt
    · exact pays_of_keeps (Failing.keeps_throw _)

theorem pays_receivePhoneNumberContact {message : Message} :
    Pays ((CustomerOrders.receivePhoneNumberContact shop).action
      (.message message)) := by
  apply pays_bind (pays_of_keeps (keeps_required _ _))
  exact fun _ => pays_processPurchase

theorem pays_receivePhoneNumberText {message : Message} :
    Pays ((CustomerOrders.receivePhoneNumberText shop).action
      (.message message)) := by
  apply pays_bind (pays_of_keeps (keeps_required _ _))
  intro text
  split
  · exact pays_of_keeps (Failing.keeps_pure ())
  · exact pays_processPurchase

theorem pays_handleChargeQuantityInput {message : Message} :
    Pays ((CustomerCharge.handleChargeQuantityInput shop).action
      (.message message)) := by
  apply pays_bind (pays_of_keeps keeps_getData)
  intro data
  split
  · exact pays_of_keeps keeps_clear
  · dsimp only
    split
    · exact pays_of_keeps (Failing.keeps_pure ())
    · apply pays_bind (pays_of_keeps (keeps_query _))
      intro missing
      split
      · exact pays_of_keeps keeps_clear
      · apply pays_bind pays_getOrCreateCustomer
        intro customerId
        apply pays_bind (pays_attempt rfl)
        intro outcome
        split
        · exact pays_of_keeps keeps_clear
        · exact pays_of_keeps keeps_clear
        · exact pays_of_keeps (Failing.keeps_pure ())
        · exact pays_of_keeps (Failing.keeps_pure ())
        · exact pays_of_keeps (Failing.keeps_throw _)

end ShopBot

namespace ShopWorld

open ShopBot

variable {world : ShopWorld} {shop : Shop} {update : Update}

/-- An update that creates an order takes what is paid for its orders. -/
theorem paysForOrders_of_created {id : Nat} {order : OrderRow}
    (absent : world.platform.db.row .orders id = none)
    (created : (world.handle shop update).platform.db.row .orders id =
      some order) :
    PaysForOrders world.platform.db (world.handle shop update).platform.db := by
  obtain ⟨script, ran, completes⟩ := script_of_created absent created
  rw [ran]
  suffices pays : Pays script from
    pays ⟨world.platform, world.conversationOf update⟩
  cases update with
  | callback callback =>
      rcases completes with ⟨takes, -⟩ | ⟨-, takes, -⟩ | ⟨takes, -⟩ <;>
        cases takes
  | message message =>
      rcases completes with ⟨-, rfl⟩ | ⟨-, -, rfl⟩ | ⟨-, rfl⟩
      · exact pays_receivePhoneNumberContact
      · exact pays_receivePhoneNumberText
      · exact pays_handleChargeQuantityInput

end ShopWorld

end Baste
