import LedgerEvm.Fee.Prices
import LedgerEvm.Machine.Block
import LedgerEvm.Machine.Memory
import LedgerEvm.Machine.Ruleset

namespace LedgerEvm

/-!
# Environments

What every frame of a transaction reads and none changes: the rules of the version,
the prices, the hashes of earlier blocks, the limits of the machine, and what may cut
the transaction off.
-/

/-- The limits of the machine. -/
structure Limits where
  maxCallDepth : UInt16 := 1024
  maxCodeSize : Nat := 24576
  maxInitCodeSize : Nat := 49152
  maxMemorySize : Nat := Memory.standardLimit
  deriving Repr, DecidableEq

/--
The flag by which a transaction is cancelled.  It is looked at before every step and
may be set at any time, so it is known by the number of the step before which it is
seen.
-/
structure Cancellation where
  isSeenAt : Nat → Bool

namespace Cancellation

/-- A flag that stays as it is. -/
def constant (flag : Bool) : Cancellation :=
  ⟨fun _ => flag⟩

end Cancellation

/--
The number of steps after which a transaction is taken to run forever, with the time
it has taken by then and the time it was given.
-/
structure Deadline where
  maxSteps : Nat := 10000000
  elapsedMillis : UInt64 := 0
  maxMillis : UInt64 := 10000
  deriving Repr, DecidableEq

/-- The surroundings of a transaction. -/
structure Environment where
  rules : Ruleset
  prices : PriceSource
  blockHashes : BlockHashes := ⟨[]⟩
  limits : Limits := { }
  cancelled : Cancellation := Cancellation.constant false
  deadline : Deadline := { }

end LedgerEvm
