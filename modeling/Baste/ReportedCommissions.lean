import Baste.OrderPackages

/-!
# Reported commissions

The reports show the commission that was deducted after every run in which
every commission is charged once.
-/

namespace Baste

open Database

theorem SalesEvent.keepsPackages (event : SalesEvent) (db : Db) :
    KeepsPackages db (event.step db) := by
  cases event with
  | call call _ => exact call.keepsPackages_runAlone db
  | elsewhere change _ packages => exact packages db

/-- After a run that charges every commission once, if all orders have been
activated, the reports show the commission that was deducted. -/
theorem reportsDeductions_of_chargesOnce {start : Db}
    {events : List SalesEvent} (carried : CommissionCarried start)
    (packages : PackagesThere start)
    (once : StepRuns.Along SalesEvent.step SalesEvent.ChargesOnce start events)
    (activated : AllActivated (StepRuns.final
      SalesEvent.step start events)) :
    ReportsDeductions (StepRuns.final
      SalesEvent.step start events) := by
  have packagesAfter := StepRuns.final_of_invariant PackagesThere
    (fun db event => event.keepsPackages db) packages events
  have carriedAfter := commissionCarried_final carried once
  exact carriedAfter.reportsDeductions activated packagesAfter

section Examples

/-- Nothing has been deducted for no orders. -/
theorem commissionCarried_of_new {db : Db}
    (noEntries : ∀ id, db.row .walletTransactions id = none)
    (noOrders : ∀ id, db.row .orders id = none) : CommissionCarried db := by
  intro ofReseller
  rw [commissionDeducted, total_of_empty _ noEntries, commissionCarried,
    total_of_empty _ noOrders]

theorem commissionCarried_shopDb : CommissionCarried shopDb := by
  apply commissionCarried_of_new
  · intro id
    rw [Option.eq_none_iff_forall_ne_some]
    intro entry found
    cases KeyedTable.mem_of_row_ofRows found
  · intro id
    rw [Option.eq_none_iff_forall_ne_some]
    intro order found
    cases KeyedTable.mem_of_row_ofRows found

/-- A customer orders a package with a receipt and another one from the
wallet. -/
def soldBothWays : List SalesEvent :=
  [.call (.createOrder 1 1 1 none (shopStamp "A1B2")) rfl,
    .call (.submitReceipt {} 1 "receipt") rfl,
    .call (.confirmOrder 1) rfl, .call (.activateOrder 1) rfl,
    .call (.createOrderPaidByWallet 1 1 1 none (shopStamp "C3D4")) rfl,
    .call (.activateOrder 2) rfl]

theorem reportsDeductions_soldBothWays :
    ReportsDeductions
      (StepRuns.final SalesEvent.step shopDb soldBothWays) :=
  reportsDeductions_of_chargesOnce commissionCarried_shopDb
    (by decide +kernel) (by decide +kernel) (by decide +kernel)

/-- A top-up is confirmed, which costs a commission, and the customer orders
from the wallet. -/
def soldFromTopup : List SalesEvent :=
  [.call (.confirmCustomerTopup 1) rfl,
    .call (.createOrderPaidByWallet 1 1 1 none (shopStamp "A1B2")) rfl,
    .call (.activateOrder 1) rfl]

/-- The report shows no commission, but 0.50 have been deducted. -/
theorem topup_commission_not_reported :
    CommissionCarried shopDb ∧
      AllActivated (StepRuns.final SalesEvent.step shopDb soldFromTopup) ∧
      PackagesThere (StepRuns.final SalesEvent.step shopDb soldFromTopup) ∧
      ¬ ReportsDeductions
        (StepRuns.final SalesEvent.step shopDb soldFromTopup) := by
  refine ⟨commissionCarried_shopDb, by decide +kernel, by decide +kernel, ?_⟩
  intro reports
  have shown := (reports.reseller 1 (fun _ => true) fun _ _ _ => rfl).1
  have reported : (ReportService.resellerSalesSummary 1 (fun _ => true)
      (StepRuns.final SalesEvent.step shopDb
        soldFromTopup)).totalCommissionPaid = 0 := by
    decide +kernel
  have deducted : commissionDeducted (· = 1)
      (StepRuns.final SalesEvent.step shopDb soldFromTopup) = 50 := by
    decide +kernel
  rw [reported, deducted] at shown
  exact absurd shown (by decide)

end Examples

end Baste