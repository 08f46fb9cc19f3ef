import LedgerEvm.Fee.Assessment

namespace LedgerEvm

/-!
# Gas for token operations

A token operation costs the fee of the transaction it stands for, but at least its
own minimum price.  The fee is turned into gas by the price of gas, rounded up, and
a fifth is added.
-/

/-- The kinds of operation with a minimum price. -/
inductive OperationKind where
  | associate
  | dissociate
  | mintFungible
  | mintNft
  | burnFungible
  | burnNft
  | wipeFungible
  | wipeNft
  | transferFungible
  | transferNft
  | approve
  | create
  | randomSeed
  deriving Repr, DecidableEq

namespace OperationKind

/-- The minimum price in tinycents. -/
def tinycents : OperationKind → Int64
  | .associate => 500000000
  | .dissociate => 500000000
  | .approve => 500000000
  | .mintNft => 200000000
  | .create => 10000000000
  | _ => 10000000

end OperationKind

namespace PriceSource

/-- The minimum price of an operation in tinybars. -/
def minimumPrice
    (source : PriceSource)
    (kind : OperationKind)
    (instant : Timestamp) :
    Except PricingError Int64 := do
  let rate ← source.rates.rateAt instant
  return rate.tinybars kind.tinycents

/-- The price of gas for calls, at least one. -/
def callGasPrice (source : PriceSource) (instant : Timestamp) : Except PricingError UInt64 := do
  let price ← source.gasPrice .contractCall instant
  return (Int64.larger price 1).toUInt64

/-- A fee as gas, rounded up, with a fifth on top. -/
def gasOfFee (tinybars : Int64) (gasPrice : UInt64) : UInt64 :=
  let fee := tinybars.toInt.toNat
  let base := UInt64.ofNat ((fee + gasPrice.toNat - 1) / gasPrice.toNat)
  base.addClamp (base / 5)

/-- The gas of an operation that stands for a transaction of the sender. -/
def operationGas
    (source : PriceSource)
    (instant : Timestamp)
    (minimum : Int64)
    (body : TransactionBody)
    (sender : Address)
    (world : World) :
    Except PricingError UInt64 := do
  let gasPrice ← source.callGasPrice instant
  let signed ←
    SignedTransaction.ofTransaction
      { payer := sender, validStart := instant, memo := "", body }
  let fees ← signed.fees 0 source world instant
  return gasOfFee (Int64.larger minimum fees.total) gasPrice

/-- The gas of a question: the price of one, but at least so much gas. -/
def queryGas
    (source : PriceSource)
    (instant : Timestamp)
    (minimumGas : UInt64) :
    Except PricingError UInt64 := do
  let gasPrice ← source.callGasPrice instant
  let price ← source.price .tokenGetInfo .constant instant
  let minimum := Int64.ofNatClamp (minimumGas.toNat * gasPrice.toNat)
  return gasOfFee (Int64.larger minimum price) gasPrice

/-- The gas of an operation that costs its minimum price. -/
def minimumGas
    (source : PriceSource)
    (instant : Timestamp)
    (kind : OperationKind) :
    Except PricingError UInt64 := do
  let gasPrice ← source.callGasPrice instant
  return gasOfFee (← source.minimumPrice kind instant) gasPrice

end PriceSource

end LedgerEvm
