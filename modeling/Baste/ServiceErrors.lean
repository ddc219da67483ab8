import Baste.Schema

/-!
# Errors of the services

The exceptions that leave the service functions, with the values and texts
they carry, and the way a transaction block ends.
-/

namespace Baste

inductive ServiceError where
  | valueError (message : String)
  | typeError (message : String)
  | runtimeError (message : String)
  | integrityError
  | dataError
  | insufficientCredit (message : String)
  | pendingOrderLimitExceeded (message : String)
  | customerBlacklisted (message : String)
  | orderInsufficientCredit (orderId resellerId : Nat) (orderCode : String)
  | walletInsufficientBalance (message : String)
  | walletTopupInsufficientCredit (topupId resellerId : Nat)
  | chargeCustomerBlacklisted (message : String)
  | chargeInsufficientBalance (message : String)
  | chargeOutOfStock (message : String) (available : Option Nat)
  deriving DecidableEq, Repr

namespace ServiceError

/-- Reading a column of a row that was not found. -/
def noneNotSubscriptable : ServiceError :=
  .typeError "'NoneType' object is not subscriptable"

/-- The text of an exception, unless it comes from the server. -/
def message : ServiceError → Option String
  | .valueError message | .typeError message | .runtimeError message
  | .insufficientCredit message | .pendingOrderLimitExceeded message
  | .customerBlacklisted message | .walletInsufficientBalance message
  | .chargeCustomerBlacklisted message | .chargeInsufficientBalance message
  | .chargeOutOfStock message _ => some message
  | .integrityError | .dataError => none
  | .orderInsufficientCredit _ resellerId orderCode =>
      some s!"کسر کمیسیون سفارش {orderCode} به‌خاطر کمبود اعتبار نماینده {resellerId} ناموفق بود."
  | .walletTopupInsufficientCredit _ resellerId =>
      some s!"شارژ کیف‌پول مشتری ثبت شد ولی کسر کمیسیون نماینده {resellerId} به‌خاطر کمبود اعتبار ناموفق بود."

end ServiceError

/-- The end of a transaction block: commit, or roll back and raise. -/
def closeTransaction {Reply Result : Type}
    (next : Except ServiceError Reply → Program Result) :
    Except ServiceError Reply → Program Result
  | .ok reply => .commit (next (.ok reply))
  | .error error => .rollback (next (.error error))

end Baste
