import LedgerEvm.Machine.Run

namespace LedgerEvm

/-!
# Transactions in the machine

A transaction is one call or one creation over a fresh frame of the world.  Its
result tells the gas it used after the refund; nothing it wrote outlives it.
-/

namespace Environment

/-- Mark the accounts that a transaction names as accessed. -/
def warmed (context : FrameContext) (isCreation : Bool) (world : World) : World :=
  let withOrigin := world.push.warmAccount context.origin
  if isCreation then withOrigin else withOrigin.warmAccount context.address

/-- The first frame of a transaction. -/
def firstFrame
    (environment : Environment)
    (context : FrameContext)
    (isCreation : Bool) :
    SimAction Outcome :=
  if isCreation then
    SimAction.createContract environment environment.runner context.origin
      { context with data := [] } context.data
  else
    SimAction.messageCall environment environment.runner .call context

/-- The result that the outcome of the first frame makes, without the trace. -/
def settle (gasLimit : UInt64) (outcome : Outcome) : CallResult :=
  let gasUsed := gasLimit.subClamp outcome.gas
  match outcome.status with
  | .completed =>
      let refund := Gas.cappedRefund gasUsed outcome.refund
      { CallResult.succeeded outcome.output (gasUsed - refund) with
        gasRefund := refund
        logs := outcome.logs.toList
        created := outcome.created }
  | .reverted => CallResult.reverted outcome.output gasUsed
  | .halted error =>
      match error.haltReason? with
      | some reason => CallResult.halted reason gasUsed
      | none => CallResult.failed error.message gasUsed

/--
Run a transaction over a world.  A failure that is not the program's own is an
error; whatever a program does is a result.
-/
def transact
    (environment : Environment)
    (context : FrameContext)
    (isCreation : Bool)
    (world : World)
    (trace : Trace) :
    Except VmError CallResult :=
  let intrinsic := Gas.intrinsic context.data isCreation
  if context.gasLimit < intrinsic then
    .ok (CallResult.halted .insufficientGas context.gasLimit)
  else
    let paid := { context with gasLimit := context.gasLimit - intrinsic }
    match environment.firstFrame paid isCreation
        { world := warmed context isCreation world, trace } with
    | .ok outcome after =>
        .ok { settle context.gasLimit outcome with steps := after.trace.steps.toList }
    | .error error _ => .error error

end Environment

end LedgerEvm
