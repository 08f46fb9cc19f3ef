import LedgerEvm.Fee.Components
import LedgerEvm.Fee.Rate
import LedgerEvm.Transaction

namespace LedgerEvm

/-!
# Price lists over time

Prices and rates take effect at a second and hold until the next list.  A question
about an instant is answered by the list that took effect last.
-/

namespace Effective

/-- The greatest of some seconds that is not after the second asked about. -/
def latest? (seconds : List Int64) (asked : Int64) : Option Int64 :=
  seconds.foldl
    (fun best second =>
      if asked < second then best
      else
        match best with
        | none => some second
        | some earlier => if earlier < second then some second else some earlier)
    none

end Effective

/-- Prices of one functionality from a second on. -/
structure PriceRow where
  second : Int64
  functionality : Functionality
  prices : FeeData
  deriving Repr, DecidableEq

/-- Price rows in the order of listing; a later row replaces an equal earlier one. -/
structure FeeSchedule where
  rows : List PriceRow
  deriving Repr, DecidableEq

namespace FeeSchedule

/-- The schedule without prices. -/
def empty : FeeSchedule :=
  ⟨[]⟩

/-- List prices for several functionalities. -/
def list
    (schedule : FeeSchedule)
    (effective : Timestamp)
    (functionalities : List Functionality)
    (prices : FeeData) :
    FeeSchedule :=
  ⟨schedule.rows ++ functionalities.map fun functionality =>
    ⟨effective.seconds, functionality, prices⟩⟩

/-- The error that says no price is listed. -/
def missing (functionality : Functionality) (instant : Timestamp) : PricingError :=
  .missingFeeSchedule functionality.name instant.seconds

/--
The prices of a functionality in all its variants.  Only the list in effect
counts, also when it leaves the functionality out and an earlier one had it.
-/
def pricesOf
    (schedule : FeeSchedule)
    (functionality : Functionality)
    (instant : Timestamp) :
    Except PricingError (List FeeData) :=
  let second := Effective.latest? (schedule.rows.map PriceRow.second) instant.seconds
  match schedule.rows.filter fun row =>
      second == some row.second && row.functionality == functionality with
  | [] => .error (missing functionality instant)
  | rows => .ok (rows.map PriceRow.prices)

/-- The prices of one variant, the last listed winning. -/
def ofVariant? (prices : List FeeData) (variant : PriceVariant) : Option FeeData :=
  (prices.filter fun entry => entry.variant == variant).getLast?

/-- The prices of a functionality's standard variant. -/
def standardPrices
    (schedule : FeeSchedule)
    (functionality : Functionality)
    (instant : Timestamp) :
    Except PricingError FeeData := do
  match ofVariant? (← schedule.pricesOf functionality instant) .standard with
  | some prices => return prices
  | none => throw (missing functionality instant)

/-- The prices of a variant, or of the standard variant when it has none of its own. -/
def variantPrices
    (schedule : FeeSchedule)
    (functionality : Functionality)
    (variant : PriceVariant)
    (instant : Timestamp) :
    Except PricingError FeeData := do
  let prices ← schedule.pricesOf functionality instant
  match (ofVariant? prices variant).or (ofVariant? prices .standard) with
  | some prices => return prices
  | none => throw (missing functionality instant)

end FeeSchedule

/-- Rates with the second from which each holds, in the order of listing. -/
structure RateTable where
  rows : List (Int64 × ExchangeRate)
  deriving Repr, DecidableEq

namespace RateTable

/-- The table without rates. -/
def empty : RateTable :=
  ⟨[]⟩

/-- List a rate; it replaces one listed before for the same second. -/
def list (table : RateTable) (effective : Timestamp) (rate : ExchangeRate) : RateTable :=
  ⟨table.rows ++ [(effective.seconds, rate)]⟩

/-- The rate in effect at an instant. -/
def rateAt (table : RateTable) (instant : Timestamp) : Except PricingError ExchangeRate :=
  let second := Effective.latest? (table.rows.map Prod.fst) instant.seconds
  match (table.rows.filter fun row => second == some row.1).getLast? with
  | some row => .ok row.2
  | none => .error (.missingExchangeRate instant.seconds)

end RateTable

end LedgerEvm
