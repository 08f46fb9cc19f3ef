import LedgerEvm.Fee.Components

namespace LedgerEvm

/-!
# Resource usage

What a transaction uses, counted while its body is read.  Byte seconds are
recorded as byte hours, and any recorded amount is at least one hour.
-/

/-! ## Sizes of stored things in bytes, and two lengths of time in seconds -/

namespace Size

/-- A 64-bit number. -/
def long : Int64 := 8

/-- A 32-bit number. -/
def int : Int64 := 4

/-- A truth value. -/
def bool : Int64 := 4

/-- An entity number with its shard and realm. -/
def entityId : Int64 := 3 * long

/-- An account with an amount. -/
def accountAmount : Int64 := entityId + long

/-- A transaction's identity. -/
def transactionId : Int64 := entityId + long

/-- An exchange rate. -/
def exchangeRate : Int64 := 2 * int + long

/-- A receipt. -/
def receipt : Int64 := int + 2 * exchangeRate

/-- A transaction without its body's own data. -/
def transactionBody : Int64 := entityId + transactionId + 2 * long

/-- The association of an account with a token. -/
def tokenRelation : Int64 := 3 * entityId + 2 * bool + long

/-- A numbered piece of a token without its metadata. -/
def nft : Int64 := entityId + 2 * long

/-- How long a receipt is kept. -/
def receiptSeconds : Int64 := 180

/-- The seconds of one hour. -/
def hour : Int64 := 3600

end Size

/-- The quotient, at least one unless one side is zero. -/
def positiveQuotient (dividend divisor : Int64) : Int64 :=
  if dividend = 0 ∨ divisor = 0 then 0 else Int64.larger (dividend / divisor) 1

/-- The signatures on a transaction. -/
structure SignatureUsage where
  numSigs : Int32
  sigsSize : Int32
  numPayerKeys : Int32
  deriving Repr, DecidableEq

/-- What every transaction uses, whatever its body. -/
structure BaseUsage where
  memoBytes : Int32
  numTransfers : Int32
  deriving Repr, DecidableEq

/-- Usage counted so far, for all three parties. -/
structure Usage where
  universalBpt : Int64 := 0
  networkVpt : Int64 := 0
  networkRbh : Int64 := 0
  nodeBpr : Int64 := 0
  nodeSbpr : Int64 := 0
  nodeVpt : Int64 := 0
  serviceRbh : Int64 := 0
  serviceSbh : Int64 := 0
  nftTransfers : Int64 := 0
  deriving Repr, DecidableEq

namespace Usage

/-- Nothing used. -/
def zero : Usage :=
  { }

/-- Count bytes of the transaction. -/
def addBpt (usage : Usage) (amount : Int64) : Usage :=
  { usage with universalBpt := usage.universalBpt.addClamp amount }

/-- Count verifications by the network. -/
def addVpt (usage : Usage) (amount : Int64) : Usage :=
  { usage with networkVpt := usage.networkVpt.addClamp amount }

/-- Count receipt byte seconds of the service. -/
def addRbs (usage : Usage) (amount : Int64) : Usage :=
  { usage with
    serviceRbh := usage.serviceRbh.addClamp (positiveQuotient amount Size.hour) }

/-- Count storage byte seconds of the service. -/
def addSbs (usage : Usage) (amount : Int64) : Usage :=
  { usage with
    serviceSbh := usage.serviceSbh.addClamp (positiveQuotient amount Size.hour) }

/-- Count receipt byte seconds of the network. -/
def addNetworkRbs (usage : Usage) (amount : Int64) : Usage :=
  { usage with
    networkRbh := usage.networkRbh.addClamp (positiveQuotient amount Size.hour) }

/-- Count moves of numbered pieces. -/
def addNftTransfers (usage : Usage) (count : Int64) : Usage :=
  { usage with nftTransfers := usage.nftTransfers.addClamp count }

/-- The usage of a transaction before its body is read. -/
def ofTransaction (base : BaseUsage) (signatures : SignatureUsage) : Usage :=
  let fresh : Usage :=
    { universalBpt :=
        Size.transactionBody + base.memoBytes.toInt64 + signatures.sigsSize.toInt64
      networkVpt := signatures.numSigs.toInt64
      networkRbh := positiveQuotient (Size.receipt * Size.receiptSeconds) Size.hour
      nodeBpr := Size.int
      nodeVpt := signatures.numPayerKeys.toInt64 }
  fresh.addBpt (Size.accountAmount * base.numTransfers.toInt64)

end Usage

end LedgerEvm
