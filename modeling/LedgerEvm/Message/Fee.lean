import LedgerEvm.Fee.Prices
import LedgerEvm.Fee.Usage
import LedgerEvm.Message.Name

namespace LedgerEvm

/-!
# Fees in requests and answers

Price lists and rates are read in the order of listing.  Where a request lists none,
contract calls and questions about tokens are free and twelve cents equal one hbar.
-/

namespace FeeComponents

instance : OfDatum FeeComponents where
  ofDatum datum :=
    { min := datum.get "min"
      max := datum.get "max"
      constant := datum.get "constant"
      bpt := datum.get "bpt"
      vpt := datum.get "vpt"
      rbh := datum.get "rbh"
      sbh := datum.get "sbh"
      gas := datum.get "gas"
      tv := datum.get "tv"
      bpr := datum.get "bpr"
      sbpr := datum.get "sbpr" }

instance : ToDatum FeeComponents where
  toDatum components := .record
    [("min", .of components.min), ("max", .of components.max),
     ("constant", .of components.constant), ("bpt", .of components.bpt),
     ("vpt", .of components.vpt), ("rbh", .of components.rbh), ("sbh", .of components.sbh),
     ("gas", .of components.gas), ("tv", .of components.tv), ("bpr", .of components.bpr),
     ("sbpr", .of components.sbpr)]

end FeeComponents

namespace FeeData

instance : OfDatum FeeData where
  ofDatum datum :=
    { node := datum.get "node"
      network := datum.get "network"
      service := datum.get "service"
      variant := datum.get "sub_type" }

instance : ToDatum FeeData where
  toDatum data := .record
    [("node", .of data.node), ("network", .of data.network), ("service", .of data.service),
     ("sub_type", .of data.variant)]

end FeeData

instance : ToDatum Fees where
  toDatum fees := .record
    [("node", .of fees.node), ("network", .of fees.network), ("service", .of fees.service),
     ("total", .of fees.total)]

namespace ExchangeRate

instance : OfDatum ExchangeRate where
  ofDatum datum :=
    { hbarEquiv := datum.get "hbar"
      centEquiv := datum.get "cent"
      expiration := datum.getD "expiration" Int64.maxValue }

instance : ToDatum ExchangeRate where
  toDatum rate := .record
    [("hbar", .of rate.hbarEquiv), ("cent", .of rate.centEquiv),
     ("expiration", .of rate.expiration)]

end ExchangeRate

namespace PriceSource

/-- The instant from which a listing holds. -/
def effective (listing : Datum) : Timestamp :=
  Timestamp.ofSeconds (listing.get "at")

/-- The schedule where none is listed. -/
def standardSchedule : FeeSchedule :=
  FeeSchedule.empty.list ⟨0⟩ [.contractCall, .tokenGetInfo] { }

/-- The rates where none are listed. -/
def standardRates : RateTable :=
  RateTable.empty.list ⟨0⟩ (ExchangeRate.lasting 1 12)

/-- Add a price listing to a schedule. -/
def listPrices (schedule : FeeSchedule) (listing : Datum) : FeeSchedule :=
  schedule.list (effective listing) (listing.get "functions") listing.read

/-- Add a rate listing to a table. -/
def listRate (table : RateTable) (listing : Datum) : RateTable :=
  table.list (effective listing) listing.read

instance : OfDatum PriceSource where
  ofDatum datum :=
    { schedule :=
        (((datum.get? "prices" : Option Datum).map fun listings =>
          listings.items.foldl listPrices FeeSchedule.empty)).getD standardSchedule
      rates :=
        (((datum.get? "rates" : Option Datum).map fun listings =>
          listings.items.foldl listRate RateTable.empty)).getD standardRates }

end PriceSource

instance : ToDatum Usage where
  toDatum usage := .record
    [("universal_bpt", .of usage.universalBpt), ("network_vpt", .of usage.networkVpt),
     ("network_rbh", .of usage.networkRbh), ("node_bpr", .of usage.nodeBpr),
     ("node_sbpr", .of usage.nodeSbpr), ("node_vpt", .of usage.nodeVpt),
     ("service_rbh", .of usage.serviceRbh), ("service_sbh", .of usage.serviceSbh),
     ("nft_transfers", .of usage.nftTransfers)]

instance : OfDatum SignatureUsage where
  ofDatum datum :=
    ⟨datum.get "num_sigs", datum.get "sigs_size", datum.get "payer_keys"⟩

end LedgerEvm
