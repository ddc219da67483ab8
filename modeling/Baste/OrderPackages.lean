import Baste.Bans
import Baste.SalesReports
import Baste.SinglePurchases

/-!
# The package of an order

An order is created for a package that is there, and a package that has orders
is not deleted.
-/

namespace Baste

open Database

section Rows

variable {before after db : Db}

theorem packagesThere_iff :
    PackagesThere db ↔ ∀ id order, db.row .orders id = some order →
      (db.row .packages order.packageId).isSome = true := by
  constructor
  · intro packages id order found
    by_contra missing
    have member : id ∈ db.idsWhere .orders
        (fun order => (db.row .packages order.packageId).isNone) :=
      mem_idsWhere.mpr ⟨order, found, by simpa using missing⟩
    rw [packages] at member
    cases member
  · intro packages
    rw [PackagesThere, List.eq_nil_iff_forall_not_mem]
    intro id member
    obtain ⟨order, found, missing⟩ := mem_idsWhere.mp member
    have isThere := packages id order found
    rw [Option.isNone_iff_eq_none.mp missing] at isThere
    cases isThere

/-- Orders that refer to packages go on doing so. -/
def KeepsPackages (before after : Db) : Prop :=
  PackagesThere before → PackagesThere after

instance : Std.Refl KeepsPackages :=
  ⟨fun _ packages => packages⟩

instance : IsTrans Db KeepsPackages :=
  ⟨fun _ _ _ start rest packages => rest (start packages)⟩

/-- The orders are old ones or are for packages that are there, and the
packages of orders stay. -/
theorem KeepsPackages.of_rows
    (orders : ∀ id order, after.row .orders id = some order →
      (∃ old, before.row .orders id = some old ∧
        old.packageId = order.packageId) ∨
      (after.row .packages order.packageId).isSome = true)
    (packages : ∀ id order, before.row .orders id = some order →
      (before.row .packages order.packageId).isSome = true →
      (after.row .packages order.packageId).isSome = true) :
    KeepsPackages before after := by
  intro there
  rw [packagesThere_iff] at there ⊢
  intro id order found
  rcases orders id order found with ⟨old, isOld, same⟩ | isThere
  · rw [← same]
    exact packages id old isOld (there id old isOld)
  · exact isThere

theorem KeepsPackages.of_sameOutside {tables : List TableName}
    (same : SameOutside tables before after) (noOrders : .orders ∉ tables)
    (noPackages : .packages ∉ tables) : KeepsPackages before after := by
  apply KeepsPackages.of_rows
  · intro id order found
    rw [same.rows .orders noOrders] at found
    exact .inl ⟨order, found, rfl⟩
  · intro id order _ isThere
    rw [same.rows .packages noPackages]
    exact isThere

theorem KeepsPackages.modify_order {id : Nat} {change : OrderRow → OrderRow}
    (samePackage : ∀ order, (change order).packageId = order.packageId) :
    KeepsPackages db (db.modify .orders id change) := by
  apply KeepsPackages.of_rows
  · intro other order found
    by_cases same : other = id
    · subst same
      rw [row_modify_self] at found
      obtain ⟨old, isOld, rfl⟩ := Option.map_eq_some_iff.mp found
      exact .inl ⟨old, isOld, (samePackage old).symm⟩
    · rw [row_modify_ne same] at found
      exact .inl ⟨order, found, rfl⟩
  · intro other order _ isThere
    rw [row_modify_of_ne (by decide)]
    exact isThere

theorem KeepsPackages.modify_package {id : Nat}
    {change : PackageRow → PackageRow} :
    KeepsPackages db (db.modify .packages id change) := by
  apply KeepsPackages.of_rows
  · intro other order found
    rw [row_modify_of_ne (by decide)] at found
    exact .inl ⟨order, found, rfl⟩
  · intro other order _ isThere
    by_cases same : order.packageId = id
    · rw [same, row_modify_self, Option.isSome_map, ← same]
      exact isThere
    · rw [row_modify_ne same]
      exact isThere

theorem keepsPackages_insert {name : TableName} {row : RowOf name}
    (isNew : IsNewRow name row) :
    KeepsPackages db ((db.reserve name).put name (db.nextId name) row) := by
  have same : SameOutside [name] db
      ((db.reserve name).put name (db.nextId name) row) :=
    SameOutside.reserve.trans (.put List.mem_cons_self)
  cases name with
  | orders => exact isNew.elim
  | packages =>
      apply KeepsPackages.of_rows
      · intro id order found
        rw [same.rows .orders (by decide)] at found
        exact .inl ⟨order, found, rfl⟩
      · intro id order _ isThere
        by_cases isId : order.packageId = db.nextId .packages
        · rw [isId, row_put_self (by simp)]
          rfl
        · rw [row_put_ne isId, row_reserve]
          exact isThere
  | _ => exact .of_sameOutside same (by decide) (by decide)

end Rows

namespace ServiceCall

section Calls

open Transaction

variable {resellerId packageId customerId : Nat} {db : Db}
variable {stamp : OrderStamp}

/-- The order is for the package, which is there. -/
def IsForPackage (packageId : Nat) (db : Db) (order : OrderRow) : Prop :=
  order.packageId = packageId ∧ (db.row .packages packageId).isSome = true

/-- What a single purchase of one code writes. -/
theorem createsOnly_soldOnce {price : Cents} {orderCode code : String}
    {codeId : Nat} (package : (db.row .packages packageId).isSome = true) :
    CreatesOnly (IsForPackage packageId db) db
      ((ChargeService.soldOnce resellerId packageId customerId price orderCode
        codeId code db).modify .chargeCodes codeId
          (·.withSoldOrder (db.nextId .orders))) := by
  have reserves : CreatesOnly (IsForPackage packageId db) db
      (db.reserve .orders) :=
    .of_row_eq fun _ => row_reserve
  have pays : CreatesOnly (IsForPackage packageId db) (db.reserve .orders)
      (ChargeService.paidOnce customerId price (db.reserve .orders)) :=
    @CreatesOnly.of_sameOutside _ _ _ [.customers] (.modify (by decide))
      (by decide)
  have reserved : (ChargeService.paidOnce customerId price
      (db.reserve .orders)).Reserved .orders (db.nextId .orders) := by
    constructor
    · rw [ChargeService.paidOnce, row_modify_of_ne (by decide), row_reserve,
        row_nextId]
    · simp [ChargeService.paidOnce]
  have inserts := (reserves.trans pays).trans (.put reserved
    ⟨(rfl : (ChargeService.chargeOrder orderCode resellerId packageId
      customerId price code).packageId = packageId), package⟩)
  apply inserts.trans
  exact @CreatesOnly.of_sameOutside _ _ _ [.chargeCodes]
    ((SameOutside.modify (by decide)).trans (.modify (by decide))) (by decide)

theorem createsOnly_purchaseCharge :
    CreatesOnly (IsForPackage packageId db) db
      ((purchaseCharge resellerId packageId customerId stamp).runAlone
        db) := by
  have nothing : CreatesOnly (IsForPackage packageId db) db db :=
    .of_row_eq fun _ => rfl
  have single : (purchaseCharge resellerId packageId customerId
      stamp).program = ChargeService.purchaseCharge resellerId packageId
        customerId stamp ChargeService.deliveredReply :=
    rfl
  rw [runAlone, single, ChargeService.purchaseCharge, Program.runAlone_select,
    OrderService.runAlone_refuseBlacklisted]
  split_ifs
  · exact nothing
  rw [Program.runAlone_select, Program.runAlone_select]
  cases package : db.row .packages packageId with
  | none => exact nothing
  | some offered =>
      cases reseller : db.row .resellers resellerId with
      | none => exact nothing
      | some seller =>
          dsimp only
          cases customer : db.row .customers customerId with
          | none =>
              rw [ChargeService.purchaseCharge.deliver, Program.runAlone_begin,
                ChargeService.lockBalance, Program.runAlone_selectForUpdate,
                id, customer]
              exact nothing
          | some buyer =>
              have isThere : (db.row .packages packageId).isSome = true := by
                rw [package]
                rfl
              have ran := @ChargeService.runAlone_deliverOne resellerId
                packageId customerId db buyer offered.salePrice
                (ChargeService.generateOrderCode seller.orderPrefix stamp none)
                customer (by rw [reseller]; rfl) isThere
              dsimp only at ran
              split_ifs at ran
              · rw [ran]
                exact nothing
              · split at ran
                · obtain ⟨_, ran⟩ := ran
                  rw [ran]
                  exact nothing
                · rcases ran with ⟨-, ran⟩ | ⟨-, ran⟩
                  · rw [ran]
                    exact .of_row_eq fun _ => row_reserve
                  · rw [ran]
                    exact createsOnly_soldOnce isThere

/-- The orders that a call creates are for a package that is there. -/
theorem isForPackage_of_created {call : ServiceCall} {id : Nat}
    {order : OrderRow} (absent : db.row .orders id = none)
    (created : (call.runAlone db).row .orders id = some order) :
    (db.row .packages order.packageId).isSome = true := by
  have isThere : ∀ {type : OrderType} {resellerId packageId customerId : Nat}
      {phoneNumber : Option String},
      IsFor type resellerId packageId customerId phoneNumber db order →
        (db.row .packages order.packageId).isSome = true := by
    intro type resellerId packageId customerId phoneNumber isFor
    obtain ⟨package, found, -⟩ := Option.map_eq_some_iff.mp isFor.price
    rw [isFor.package, found]
    rfl
  cases creates : call.createsOrders with
  | false =>
      have still := call.ordersRemain_runAlone creates db id absent
      cases still.symm.trans created
  | true =>
      cases call with
      | createOrder =>
          exact isThere (createsOnly_createOrder.created id order absent
            created)
      | createOrderPaidByWallet =>
          exact isThere (createsOnly_createOrderPaidByWallet.created id order
            absent created)
      | purchaseChargeBulk =>
          exact isThere (createsOnly_purchaseChargeBulk.created id order absent
            created)
      | purchaseCharge =>
          obtain ⟨isFor, package⟩ :=
            createsOnly_purchaseCharge.created id order absent created
          rw [isFor]
          exact package
      | _ => cases creates

theorem keepsPackages_runAlone (call : ServiceCall) (db : Db) :
    KeepsPackages db (call.runAlone db) := by
  have packages : ∀ id, (call.runAlone db).row .packages id =
      db.row .packages id := by
    refine (call.sameOutside_runAlone db).rows .packages ?_
    cases call <;> simp [ServiceCall.tables]
  apply KeepsPackages.of_rows
  · intro id order found
    cases before : db.row .orders id with
    | none =>
        right
        rw [packages]
        exact isForPackage_of_created before found
    | some old =>
        obtain ⟨now, isNow, allows⟩ :=
          call.retains_runAlone db .orders id old before trivial
        cases isNow.symm.trans found
        have same : order.asOrdered = old.asOrdered := allows.permanent
        have samePackage := congrArg OrderRow.packageId same
        exact .inl ⟨old, rfl, samePackage.symm⟩
  · intro id order _ isThere
    rw [packages]
    exact isThere

end Calls

end ServiceCall

/-- No deed of a bot takes the package of an order away. -/
theorem keepsPackages_of_botDeed {before after : Db}
    (deed : BotDeed before after) : KeepsPackages before after := by
  cases deed with
  | service call => exact call.keepsPackages_runAlone before
  | insert isNew => exact keepsPackages_insert isNew
  | settings same inside =>
      apply KeepsPackages.of_sameOutside same
      · exact fun member => absurd (inside member) (by decide)
      · exact fun member => absurd (inside member) (by decide)
  | package => exact .modify_package
  | deletion clears =>
      apply KeepsPackages.of_rows
      · intro id order found
        rw [clears.rows.rows .orders (by decide)] at found
        exact .inl ⟨order, found, rfl⟩
      · intro id order found isThere
        rw [clears.ordered order.packageId
          ⟨id, order, found, List.mem_singleton_self _⟩]
        exact isThere
  | discount => exact .modify_order fun _ => rfl
  | disputed => exact .modify_order fun _ => rfl
  | receipt =>
      exact @KeepsPackages.of_sameOutside _ _ [.customerWalletTopups]
        (.modify (by decide)) (by decide) (by decide)
  | reseller =>
      exact @KeepsPackages.of_sameOutside _ _ [.resellers]
        (.modify (by decide)) (by decide) (by decide)

namespace BotsWorld

variable {world : BotsWorld} {event : BotsEvent}

theorem packagesThere_step (packages : PackagesThere world.platform.db)
    (noRestore : ¬ world.Restores event) :
    PackagesThere (world.step event).platform.db :=
  related_of_botDeeds (fun _ _ => keepsPackages_of_botDeed)
    (botDeeds_step noRestore) packages

theorem packagesThere_final (packages : PackagesThere world.platform.db)
    {events : List BotsEvent}
    (noRestore : StepRuns.Along step
      (fun world event => ¬ world.Restores event) world events) :
    PackagesThere (StepRuns.final step world events).platform.db :=
  (StepRuns.along_of_guarded
    (fun now : BotsWorld => PackagesThere now.platform.db) (fun _ _ => True)
    (fun _ _ packages noRestore =>
      ⟨trivial, packagesThere_step packages noRestore⟩)
    packages noRestore).2

/-- In a run of all bots without a restore, every order is for a customer of
its reseller and for a package that is there, whatever is deleted. -/
theorem orders_refer (world : BotsWorld)
    (parties : PartiesMatch world.platform.db)
    (packages : PackagesThere world.platform.db) (events : List BotsEvent)
    (noRestore : StepRuns.Along step
      (fun world event => ¬ world.Restores event) world events) :
    ∀ id order,
      (StepRuns.final step world events).platform.db.row .orders id =
        some order →
      (∃ userId, IsCustomer order.resellerId userId
        (StepRuns.final step world events).platform.db order.customerId) ∧
      ((StepRuns.final step world events).platform.db.row .packages
        order.packageId).isSome = true := by
  have parties := partiesMatch_final parties noRestore
  have packages := packagesThere_iff.mp (packagesThere_final packages noRestore)
  exact fun id order found =>
    ⟨parties id order found, packages id order found⟩

theorem partiesMatch_of_new {db : Db}
    (noOrders : ∀ id, db.row .orders id = none) : PartiesMatch db := by
  intro id order found
  rw [noOrders id] at found
  cases found

theorem row_orders_bannedDb (id : Nat) : bannedDb.row .orders id = none := by
  rw [Option.eq_none_iff_forall_ne_some]
  intro order found
  cases KeyedTable.mem_of_row_ofRows found

/-- A customer orders from a package, and the owner wants to delete it. -/
def deletesSold : List BotsEvent :=
  buysCharge 8 ++ [.shop (ownerTaps "catalog:del_pkg_yes:charge:1")]

theorem orders_refer_deletesSold :
    (∃ userId, IsCustomer 1 userId (StepRuns.final step
        (newBotsWorld bannedDb) deletesSold).platform.db 2) ∧
      ((StepRuns.final step (newBotsWorld bannedDb)
        deletesSold).platform.db.row .packages 1).isSome = true := by
  have ordered : ((StepRuns.final step (newBotsWorld bannedDb)
      deletesSold).platform.db.row .orders 1).map (fun order =>
        (order.resellerId, order.customerId, order.packageId)) =
          some (1, 2, 1) := by
    decide +kernel
  obtain ⟨order, found, parts⟩ := Option.map_eq_some_iff.mp ordered
  obtain ⟨ofReseller, rest⟩ := Prod.mk.inj parts
  obtain ⟨ofCustomer, ofPackage⟩ := Prod.mk.inj rest
  have refers := orders_refer (newBotsWorld bannedDb)
    (partiesMatch_of_new row_orders_bannedDb) (by decide +kernel) deletesSold
    (by decide +kernel) 1 order found
  rw [ofReseller, ofCustomer, ofPackage] at refers
  exact refers

/-- Only a package without orders is deleted. -/
example :
    let packagesAfter := fun events => (StepRuns.final step
      (newBotsWorld bannedDb) events).platform.db.idsWhere .packages
        fun _ => true
    packagesAfter deletesSold = [1] ∧ packagesAfter
      [.shop (ownerTaps "catalog:del_pkg_yes:charge:1")] = [] := by
  decide +kernel

end BotsWorld

end Baste
