import LedgerEvm.Fee.Schedule

namespace LedgerEvm

/-!
# Unit prices

The price of one unit of a resource in the ledger's currency: the listed price,
converted at the rate in effect, never below one, and scaled while the ledger is
congested.
-/

/-- How many thousandths a listed price is written in. -/
def priceScale : Int64 :=
  1000

/-- Where unit prices come from. -/
structure PriceSource where
  schedule : FeeSchedule
  rates : RateTable
  multiplier : Functionality → Timestamp → Int64 := fun _ _ => 1

namespace PriceSource

/-- At least one, scaled; a product out of range is the greatest price. -/
def scaled (tinybars multiplier : Int64) : Int64 :=
  let unscaled := Int64.larger tinybars 1
  if Int64.maxValue / unscaled < multiplier then
    Int64.maxValue
  else
    unscaled * multiplier

/-- The listed price of a resource in tinycents. -/
def tinycents
    (source : PriceSource)
    (functionality : Functionality)
    (resource : Resource)
    (instant : Timestamp) :
    Except PricingError Int64 := do
  let prices ← source.schedule.standardPrices functionality instant
  return prices.service.amount resource / priceScale

/-- The price of a resource in tinybars. -/
def price
    (source : PriceSource)
    (functionality : Functionality)
    (resource : Resource)
    (instant : Timestamp) :
    Except PricingError Int64 := do
  let tinycents ← source.tinycents functionality resource instant
  let rate ← source.rates.rateAt instant
  return scaled (rate.tinybars tinycents) (source.multiplier functionality instant)

/-- The price of gas in tinybars. -/
def gasPrice
    (source : PriceSource)
    (functionality : Functionality)
    (instant : Timestamp) :
    Except PricingError Int64 :=
  source.price functionality .gas instant

/-- The price of gas in tinycents. -/
def gasTinycents
    (source : PriceSource)
    (functionality : Functionality)
    (instant : Timestamp) :
    Except PricingError Int64 :=
  source.tinycents functionality .gas instant

end PriceSource

end LedgerEvm
