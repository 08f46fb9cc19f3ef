import LedgerEvm.Fee.Prices
import LedgerEvm.Fee.Usage

namespace LedgerEvm

/-!
# Charges

A party's charge is the sum of amounts times prices, held between the least and the
greatest fee, brought to tinycents, converted at the rate and scaled.  Every step
stops at the ends of the 64-bit range.
-/

namespace Charge

/-- A base and products, summed in order and held in range at every step. -/
def accumulate (base : Int64) (terms : List (Int64 × Int64)) : Int64 :=
  terms.foldl (fun total term => total.addClamp (term.1.mulClamp term.2)) base

/-- Hold a charge between the least and the greatest fee and bring it to tinycents. -/
def constrained (nominal least greatest : Int64) : Int64 :=
  let held :=
    if nominal < least then least
    else if greatest < nominal then greatest
    else nominal
  held / priceScale

/-- The charge of the network for its share of the usage. -/
def network (usage : Usage) (prices : FeeComponents) : Int64 :=
  constrained
    (accumulate prices.constant
      [(usage.universalBpt, prices.bpt), (usage.networkVpt, prices.vpt),
        (usage.networkRbh, prices.rbh)])
    prices.min prices.max

/-- The charge of the node for its share of the usage. -/
def node (usage : Usage) (prices : FeeComponents) : Int64 :=
  constrained
    (accumulate prices.constant
      [(usage.universalBpt, prices.bpt), (usage.nodeVpt, prices.vpt),
        (usage.nodeBpr, prices.bpr), (usage.nodeSbpr, prices.sbpr)])
    prices.min prices.max

/-- The charge of the service for its share of the usage. -/
def service (usage : Usage) (prices : FeeComponents) : Int64 :=
  constrained
    (accumulate prices.constant
      [(usage.serviceRbh, prices.rbh), (usage.serviceSbh, prices.sbh)])
    prices.min prices.max

/-- The charge for listed amounts of every resource. -/
def components (amounts prices : FeeComponents) : Int64 :=
  constrained
    (accumulate 0 (Resource.all.map fun resource =>
      (amounts.amount resource, prices.amount resource)))
    prices.min prices.max

/-- A charge in the ledger's currency, scaled. -/
def tinybars (tinycents : Int64) (rate : ExchangeRate) (multiplier : Int64) : Int64 :=
  (rate.tinybars tinycents).mulClamp multiplier

end Charge

namespace Fees

/-- The fees for counted usage. -/
def ofUsage
    (usage : Usage)
    (prices : FeeData)
    (rate : ExchangeRate)
    (multiplier : Int64) :
    Fees where
  node := Charge.tinybars (Charge.node usage prices.node) rate multiplier
  network := Charge.tinybars (Charge.network usage prices.network) rate multiplier
  service := Charge.tinybars (Charge.service usage prices.service) rate multiplier

/-- The fees for listed amounts of every resource. -/
def ofAmounts
    (prices amounts : FeeData)
    (rate : ExchangeRate)
    (multiplier : Int64) :
    Fees where
  node := Charge.tinybars (Charge.components amounts.node prices.node) rate multiplier
  network := Charge.tinybars (Charge.components amounts.network prices.network) rate multiplier
  service := Charge.tinybars (Charge.components amounts.service prices.service) rate multiplier

end Fees

end LedgerEvm
