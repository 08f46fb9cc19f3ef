import LedgerEvm.Abi.Selector
import LedgerEvm.Error
import LedgerEvm.Machine.Trace

namespace LedgerEvm

/-!
# Outcomes

How a frame ends, as its caller sees it, and the result of a whole transaction.
-/

/-- A record that a contract leaves for the outside. -/
structure Log where
  address : Address
  topics : List Hash
  data : Bytes
  deriving Repr, DecidableEq

/-- How a frame ends. -/
inductive FrameStatus where
  | completed
  | reverted
  | halted (error : VmError)
  deriving Repr, DecidableEq

/-- What a frame hands back to its caller. -/
structure Outcome where
  status : FrameStatus
  output : Bytes := []
  gas : UInt64
  refund : Int64 := 0
  logs : Array Log := #[]
  created : Option Address := none
  deriving Repr, DecidableEq

namespace Outcome

/-- The outcome of a frame that changed nothing and left an output. -/
def completed (output : Bytes) (gas : UInt64) : Outcome :=
  { status := .completed, output, gas }

/-- The outcome of a frame that gave up with an output. -/
def reverted (output : Bytes) (gas : UInt64) : Outcome :=
  { status := .reverted, output, gas }

/-- The outcome of a failed frame, which loses its gas unless the failure spares it. -/
def halted (error : VmError) (gas : UInt64) : Outcome :=
  { status := .halted error, gas := if error.consumesAllGas then 0 else gas }

/-- Whether the frame's writes are kept. -/
def isSuccess (outcome : Outcome) : Bool :=
  outcome.status == .completed

end Outcome

/-- The result of a transaction. -/
structure CallResult where
  success : Bool := false
  output : Bytes := []
  gasUsed : UInt64
  gasRefund : UInt64 := 0
  logs : List Log := []
  revertReason : Option String := none
  haltReason : Option HaltReason := none
  created : Option Address := none
  steps : List TraceStep := []
  deriving Repr, DecidableEq

/-- Reverted calls may carry a text as their reason, in the form of a call. -/
def revertSelector : Selector :=
  ⟨0x08c379a0⟩

/--
The text that reverted output carries: the selector, a word that is passed over,
the length and the bytes of the text.
-/
def revertText? (data : Bytes) : Option String :=
  if data.length < 68 then
    none
  else if data.take Selector.size ≠ revertSelector.toBytes then
    none
  else
    let length := Bytes.toNat ((data.drop 36).take 32)
    (data.window? 68 length).bind Bytes.toString?

namespace CallResult

/-- The result of a transaction that ran to its end. -/
def succeeded (output : Bytes) (gasUsed : UInt64) : CallResult :=
  { success := true, output, gasUsed }

/-- The result of a transaction that failed with a text. -/
def failed (reason : String) (gasUsed : UInt64) : CallResult :=
  { gasUsed, revertReason := some reason }

/-- The result of a transaction that reverted with data. -/
def reverted (data : Bytes) (gasUsed : UInt64) : CallResult :=
  { output := data, gasUsed, revertReason := revertText? data }

/-- The result of a transaction that halted exceptionally. -/
def halted (reason : HaltReason) (gasUsed : UInt64) : CallResult :=
  { gasUsed, haltReason := some reason, revertReason := some reason.text }

end CallResult

end LedgerEvm
