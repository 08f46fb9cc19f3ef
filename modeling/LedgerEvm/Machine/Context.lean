import LedgerEvm.Machine.Block

namespace LedgerEvm

/-!
# Frame contexts

A frame runs the code of one address on behalf of another.  The ways to call
differ in what the new frame inherits: whose storage it writes, who appears as its
caller, which value it sees, and whether it may change anything.
-/

/-- What a frame knows about the call it serves. -/
structure FrameContext where
  origin : Address
  caller : Address
  address : Address
  codeAddress : Address
  value : Word
  data : Bytes
  gasLimit : UInt64
  gasPrice : Word
  block : Block
  depth : UInt16 := 0
  isStatic : Bool := false
  deriving Repr, DecidableEq

/-- The ways to call. -/
inductive CallKind where
  | call
  | callCode
  | delegateCall
  | staticCall
  deriving Repr, DecidableEq

namespace CallKind

/-- Whether the call names a value. -/
def hasValue : CallKind → Bool
  | .call => true
  | .callCode => true
  | .delegateCall => false
  | .staticCall => false

end CallKind

namespace FrameContext

/-- The context of a transaction's first frame. -/
def ofTransaction
    (origin target : Address)
    (value : Word)
    (data : Bytes)
    (gasLimit : UInt64)
    (gasPrice : Word)
    (block : Block) :
    FrameContext :=
  { origin, caller := origin, address := target, codeAddress := target, value, data, gasLimit,
    gasPrice, block }

/-- The context of a frame that runs an address's code for that address. -/
def calling
    (context : FrameContext)
    (target : Address)
    (value : Word)
    (data : Bytes)
    (gas : UInt64) :
    FrameContext :=
  { context with
    caller := context.address
    address := target
    codeAddress := target
    value
    data
    gasLimit := gas
    depth := context.depth.succClamp }

/--
The context of a called frame.  A code call runs the target's code for the calling
address; a delegate call does so with the caller and the value of the calling
frame; a static call forbids changes.
-/
def child
    (context : FrameContext)
    (kind : CallKind)
    (target : Address)
    (value : Word)
    (data : Bytes)
    (gas : UInt64) :
    FrameContext :=
  match kind with
  | .call => context.calling target value data gas
  | .callCode =>
      { context.calling context.address value data gas with codeAddress := target }
  | .delegateCall =>
      { context.calling context.address context.value data gas with
        caller := context.caller
        codeAddress := target }
  | .staticCall => { context.calling target 0 data gas with isStatic := true }

/-- A frame called from a static frame is static, however it is called. -/
theorem isStatic_child
    {context : FrameContext}
    (static : context.isStatic = true)
    (kind : CallKind)
    (target : Address)
    (value : Word)
    (data : Bytes)
    (gas : UInt64) :
    (context.child kind target value data gas).isStatic = true := by
  cases kind <;> simp [child, calling, static]

end FrameContext

end LedgerEvm
