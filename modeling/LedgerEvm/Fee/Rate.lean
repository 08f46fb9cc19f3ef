import LedgerEvm.Clamp
import LedgerEvm.Error

namespace LedgerEvm

/-!
# Exchange rates

A rate equates an amount of the ledger's currency with an amount of cents.
-/

/-- So many hbar are worth so many cents, until the expiration second. -/
structure ExchangeRate where
  hbarEquiv : Int32
  centEquiv : Int32
  expiration : Int64
  deriving Repr, DecidableEq

namespace ExchangeRate

/-- A rate that does not expire. -/
def lasting (hbarEquiv centEquiv : Int32) : ExchangeRate :=
  ⟨hbarEquiv, centEquiv, Int64.maxValue⟩

/-- Refuse a rate without cents or with a negative side. -/
def validate (rate : ExchangeRate) : Except PricingError Unit :=
  if rate.centEquiv ≤ 0 ∨ rate.hbarEquiv < 0 then
    .error (.invalidExchangeRate rate.hbarEquiv rate.centEquiv)
  else
    .ok ()

/--
Cents become currency at the rate, rounded toward zero and moved into range.  A
rate without cents makes everything free.
-/
def tinybars (rate : ExchangeRate) (tinycents : Int64) : Int64 :=
  if rate.centEquiv ≤ 0 then
    0
  else
    Int64.ofIntClamp
      ((tinycents.toInt * rate.hbarEquiv.toInt).tdiv rate.centEquiv.toInt)

end ExchangeRate

end LedgerEvm
