import LedgerEvm.Fee.Prices
import LedgerEvm.Machine.Memory
import LedgerEvm.Range

namespace LedgerEvm

/-!
# Gas

What instructions cost beyond their static share.  The charge for a log also pays
for keeping the record, at the ledger's price of receipt storage.
-/

namespace Gas

/-- The least number of whole words that so many bytes fill. -/
def wordCount (bytes : Nat) : UInt64 :=
  UInt64.ofNatClamp ((bytes + 31) / 32)

/-- A charge for every word of so many bytes. -/
def perWord (cost : UInt64) (bytes : Nat) : UInt64 :=
  cost.mulClamp (wordCount bytes)

/-- The static share of exponentiation. -/
def powBase : UInt64 := 10

/-- The whole cost of exponentiation. -/
def pow (exponent : Word) : UInt64 :=
  powBase + 50 * UInt64.ofNat exponent.byteLength

/-- The cost of the words that are hashed. -/
def keccakWords (bytes : Nat) : UInt64 :=
  perWord 6 bytes

/-- The cost of the words that are copied. -/
def copy (bytes : Nat) : UInt64 :=
  perWord 3 bytes

/-- The cost of the words of init code. -/
def initCode (bytes : Nat) : UInt64 :=
  perWord 2 bytes

/-- The cost of reading something that was accessed before. -/
def warmRead : UInt64 := 100

/-- The cost of the first access to an account. -/
def coldAccount : UInt64 := 2600

/-- The cost of the first access to a storage slot. -/
def coldSlot : UInt64 := 2100

/-- The cost of accessing an account. -/
def accountAccess (wasWarm : Bool) : UInt64 :=
  if wasWarm then warmRead else coldAccount

/-- The cost of reading a storage slot. -/
def storageLoad (wasWarm : Bool) : UInt64 :=
  if wasWarm then warmRead else coldSlot

/-- The cost of filling an empty slot. -/
def storageSet : UInt64 := 20000

/-- The cost of changing a filled slot. -/
def storageReset : UInt64 := 2900

/-- The refund for emptying a slot. -/
def clearRefund : Int64 := 4800

/-- A frame with no more gas than this may not write storage. -/
def storageSentry : UInt64 := 2300

/--
The cost of writing a storage slot and the refund it changes.  The first change
of a slot in a simulation pays in full, later ones pay the price of a read and
correct the refund; a write that restores the initial value gives back what the
first change cost beyond a read.
-/
def storageStore (initial current new : Word) (wasWarm : Bool) : UInt64 × Int64 :=
  let cold := if wasWarm then 0 else coldSlot
  if current = new then
    (cold + warmRead, 0)
  else if initial = current then
    if initial = 0 then
      (cold + storageSet, 0)
    else
      (cold + storageReset, if new = 0 then clearRefund else 0)
  else
    let cleared : Int64 :=
      if initial = 0 then 0
      else if current = 0 then -clearRefund
      else if new = 0 then clearRefund
      else 0
    let restored : Int64 :=
      if initial = new then
        ((if initial = 0 then storageSet else storageReset) - warmRead).toInt64
      else
        0
    (cold + warmRead, cleared + restored)

/-- The cost of sending currency with a call. -/
def callValue : UInt64 := 9000

/-- The gas a callee gets on top when currency is sent. -/
def callStipend : UInt64 := 2300

/-- The cost of bringing an account into being. -/
def newAccount : UInt64 := 25000

/-- All but a sixty-fourth of the gas. -/
def callCap (available : UInt64) : UInt64 :=
  available - available / 64

/-- The gas handed to a callee: what is asked for, capped. -/
def forwarded (available : UInt64) (requested : Word) : UInt64 :=
  let cap := callCap available
  if cap.toNat < requested.toNat then cap else UInt64.ofNat requested.toNat

/-- The refund that is paid: at most a fifth of the gas used. -/
def cappedRefund (used : UInt64) (counter : Int64) : UInt64 :=
  let earned := counter.toUInt64?.getD 0
  if used / 5 < earned then used / 5 else earned

/-- The cost of deploying code. -/
def codeDeposit (bytes : Nat) : UInt64 :=
  UInt64.mulClamp 200 (UInt64.ofNatClamp bytes)

/-- The cost of a transaction before its first instruction. -/
def intrinsic (_payload : Bytes) (_isCreation : Bool) : UInt64 :=
  0

/-- The cost of self-destruction, before the access to the beneficiary. -/
def selfDestruct (beneficiaryIsEmpty : Bool) (value : Word) : UInt64 :=
  if beneficiaryIsEmpty && value != 0 then 5000 + newAccount else 5000

/-- The cost of a log by topics and data. -/
def standardLog (bytes topics : Nat) : UInt64 :=
  (UInt64.addClamp 375 (UInt64.mulClamp 375 (UInt64.ofNatClamp topics))).addClamp
    (UInt64.mulClamp 8 (UInt64.ofNatClamp bytes))

/-- The bytes of a log's record: its head, the filter, the topics and the data. -/
def logRecordSize (bytes topics : Nat) : Nat :=
  24 + 256 + 32 * topics + bytes

/-- How long a log's record is kept. -/
def logSeconds : Nat := 180

/-- The gas that pays for keeping a log's record at a price per byte hour. -/
def logStorage (rbhTinybars : Int64) (gasPrice : UInt64) (bytes topics : Nat) : UInt64 :=
  let tinybars := logSeconds * rbhTinybars.toInt.toNat * logRecordSize bytes topics / 3600
  UInt64.ofNatClamp (tinybars / Nat.max gasPrice.toNat 1)

/-- When and under which price list a log is charged, and the price of gas then. -/
structure LogContext where
  now : Timestamp
  functionality : Functionality
  gasPrice : UInt64
  deriving Repr, DecidableEq

namespace LogContext

/-- Logs of contract calls. -/
def contractCall (now : Timestamp) (gasPrice : Word) : LogContext :=
  ⟨now, .contractCall, gasPrice.toUInt64Clamp⟩

end LogContext

/-- The cost of a log: by topics and data, or by storage when that is more. -/
def log
    (source : PriceSource)
    (context : LogContext)
    (bytes topics : Nat) :
    Except PricingError UInt64 := do
  let standard := standardLog bytes topics
  let price ← source.price context.functionality .rbh context.now
  let storage := logStorage price context.gasPrice bytes topics
  return if standard < storage then storage else standard

/-- The refund that is paid never exceeds a fifth of the gas used. -/
theorem cappedRefund_le
    (used : UInt64)
    (counter : Int64) :
    cappedRefund used counter ≤ used / 5 := by
  simp only [cappedRefund]
  split
  · exact UInt64.le_refl _
  · rename_i notLess
    exact UInt64.not_lt.mp notLess

end Gas

end LedgerEvm
