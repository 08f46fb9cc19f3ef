import LedgerEvm.Machine.Effect
import LedgerEvm.Machine.FixedContract
import LedgerEvm.TokenService.Dispatch

namespace LedgerEvm

/-!
# Calls and creations

A message call moves its value and lets the target answer: a fixed contract, a
system contract, a token, or code.  A creation draws an address, runs its init code
and deploys what that returns.  Each works in a frame of the world that is kept only
when it completes.

Code is run by a runner that is handed in, so that nothing here is recursive.
-/

/-- Runs code in a context. -/
abbrev Runner := FrameContext → Bytes → SimAction Outcome

namespace SimAction

/-- The output of a call that reverts with a text. -/
def revertOutput (reason : String) : Bytes :=
  AbiValue.encodeCall revertSelector [.string reason]

/-- The outcome of a call that was answered without code. -/
def answered
    (result : Except PrecompileError (UInt64 × Bytes))
    (gasLimit : UInt64) :
    SimAction Outcome :=
  match result with
  | .ok (gasCost, output) => pure (Outcome.completed output (gasLimit.subClamp gasCost))
  | .error error =>
      match VmError.ofPrecompile error with
      | .revert reason => pure (Outcome.reverted (revertOutput reason) gasLimit)
      | failure =>
          if failure.isAbort then throw failure else pure (Outcome.halted failure gasLimit)

/-- Carry out an action of the token service, whose refusal is an answer too. -/
def attempt {α : Type} (action : TokenAction α) : SimAction (Except PrecompileError α) :=
  fun simulation =>
    match action simulation.world with
    | .ok answer world => .ok (.ok answer) { simulation with world }
    | .error error world => .ok (.error error) { simulation with world }

/-- The outcome of a call of a system contract. -/
def answeredBy
    (result : Except PrecompileError SystemAnswer)
    (gasLimit : UInt64) :
    SimAction Outcome :=
  answered (result.map fun answer => (answer.gasCost, answer.output)) gasLimit

/-- Whether calls to an address are calls of a token. -/
def isTokenCall (world : World) (address : Address) : Except StateError Bool := do
  if world.redirectsTokenCalls then
    return (← world.token address).isSome
  return false

/-- Run the code at an address; where there is none the call completes at once. -/
def runCode (runner : Runner) (context : FrameContext) : SimAction Outcome := do
  let code ← ask fun world => world.code context.codeAddress
  if code.isEmpty then
    return Outcome.completed [] context.gasLimit
  else
    runner context code

/-- Let the target of a call answer. -/
def runTarget
    (environment : Environment)
    (runner : Runner)
    (context : FrameContext) :
    SimAction Outcome := do
  let target := context.codeAddress
  let prices := environment.prices
  let call : SystemCall :=
    { sender := context.caller
      timestamp := context.block.timestamp
      gasLimit := context.gasLimit
      isStatic := context.isStatic }
  match FixedContract.at? target with
  | some contract => answered (contract.execute context.data context.gasLimit) context.gasLimit
  | none =>
      if target = Address.tokenService then
        answeredBy (← attempt (call.answerService prices context.data)) context.gasLimit
      else if target = Address.exchangeRate then
        answeredBy (call.answerExchangeRate prices context.data) context.gasLimit
      else if target = Address.randomSeed then
        answeredBy (call.answerRandomSeed prices context.data context.block.randomSeed)
          context.gasLimit
      else if ← ask fun world => isTokenCall world target then
        answeredBy (← attempt (call.answerToken prices target context.data)) context.gasLimit
      else
        runCode runner context

/--
Move a value and go on.  When the value cannot be moved the frame has failed before
its first instruction.
-/
def withTransfer
    (context : FrameContext)
    (target : Address)
    (next : SimAction Outcome) :
    SimAction Outcome := fun simulation =>
  match simulation.world.transfer context.caller target context.value with
  | .ok world => next { simulation with world }
  | .error error =>
      if error.isAbort then
        .error error simulation
      else
        .ok (Outcome.halted error context.gasLimit) simulation

/-- Call the target of a context; only a plain call moves the value. -/
def messageCall
    (environment : Environment)
    (runner : Runner)
    (kind : CallKind)
    (context : FrameContext) :
    SimAction Outcome :=
  framed Outcome.isSuccess
    (if kind = .call then
      withTransfer context context.address (runTarget environment runner context)
    else
      runTarget environment runner context)

/-- The byte that deployed code may not start with. -/
def reservedByte : UInt8 :=
  0xef

/-- Deploy code at a new contract and tell what it costs. -/
def deploy
    (limits : Limits)
    (address : Address)
    (code : Bytes)
    (gas : UInt64)
    (world : World) :
    Except VmError (UInt64 × World) := do
  if limits.maxCodeSize < code.length then
    throw (.codeSizeExceeded code.length limits.maxCodeSize)
  if code.head? = some reservedByte then
    throw .invalidCodePrefix
  let cost := Gas.codeDeposit code.length
  if gas < cost then
    throw .outOfGas
  let (_, deployed) ←
    World.lookUp (world.updateAccount address fun account => { account with code })
  return (cost, deployed)

/-- Deploy what completed init code returned. -/
def deployOutput
    (limits : Limits)
    (address : Address)
    (outcome : Outcome) :
    SimAction Outcome := fun simulation =>
  match deploy limits address outcome.output outcome.gas simulation.world with
  | .ok (cost, world) =>
      .ok { outcome with gas := outcome.gas - cost, created := some address }
        { simulation with world }
  | .error error =>
      if error.isAbort then
        .error error simulation
      else
        .ok (Outcome.halted error outcome.gas) simulation

/-- A free address for a new contract; the numbers drawn on the way stay used. -/
def freshAddress (creator : Address) : SimAction Address := fun simulation =>
  match simulation.world.newContractAddress creator with
  | (.ok address, world) => .ok address { simulation with world }
  | (.error error, world) => .error (.state error) { simulation with world }

/-- Count one more thing that an account has sent. -/
def countNonce (address : Address) : SimAction Unit :=
  change fun world => do
    let (_, counted) ←
      World.lookUp (world.updateAccount address fun account =>
        { account with nonce := account.nonce.addClamp 1 })
    return ((), counted)

/-- Put the account of a contract that is being created. -/
def putNewContract (address : Address) : SimAction Unit :=
  change fun world =>
    .ok ((), world.createAccount { Account.newContract address [] with nonce := 1 })

/-- Create a contract with init code on behalf of a creator. -/
def createContract
    (environment : Environment)
    (runner : Runner)
    (creator : Address)
    (context : FrameContext)
    (initCode : Bytes) :
    SimAction Outcome := do
  let address ← freshAddress creator
  countNonce creator
  let context := { context with caller := creator, address, codeAddress := address }
  framed Outcome.isSuccess do
    putNewContract address
    withTransfer context address do
      let outcome ← runner context initCode
      if outcome.isSuccess then
        deployOutput environment.limits address outcome
      else
        return outcome

end SimAction

namespace Exec

/-! ## Instructions that call -/

/-- Look at the target of a call before it is made; `false` skips the call. -/
def inspectCallee (rule : AddressRule) (kind : CallKind) (target : Address) : Exec Bool :=
  if kind = .delegateCall then
    inspect rule target
  else do
    inspect.access target
    return true

/-- Pay for moving a value with a call, and for a target that comes into being. -/
def chargeValue (kind : CallKind) (target : Address) : Exec Unit := do
  charge Gas.callValue
  if kind = .call then
    if !(← ask fun world => world.answersAt target) then
      charge Gas.newAccount

/-- Whether the frame may start another one that takes a value along. -/
def canStart (limits : Limits) (value : Word) (checksBalance : Bool) : Exec Bool := do
  let context ← context
  if limits.maxCallDepth ≤ context.depth then
    return false
  if checksBalance then
    return !decide ((← ask fun world => world.balance context.address) < value)
  return true

/-- Take the outcome of a call: its output, what is left of its gas, its refund and logs. -/
def takeOutcome (outcome : Outcome) (offset size : Nat) : Exec Unit := do
  giveBack outcome.gas
  updateMemory fun memory =>
    memory.storeWindow offset outcome.output 0 (Nat.min size outcome.output.length)
  if outcome.isSuccess then
    takeSuccess outcome
  updateFrame fun frame => { frame with returnData := outcome.output }
  pushBool outcome.isSuccess
where
  /-- Take the refund and the logs of a frame that completed. -/
  takeSuccess (outcome : Outcome) : Exec Unit :=
    updateFrame fun frame =>
      { frame with
        refund := frame.refund + outcome.refund
        logs := frame.logs ++ outcome.logs }

/-- The operands of a call instruction, windows of memory as offset and size. -/
structure CallOperands where
  requested : Word
  target : Address
  value : Word
  input : Word × Word
  output : Word × Word
  deriving Repr, DecidableEq

namespace CallOperands

/-- Whether the call sends currency along. -/
def movesValue (operands : CallOperands) (kind : CallKind) : Bool :=
  kind.hasValue && operands.value != 0

end CallOperands

/-- A frame that a call is about to start, and the window for its output. -/
structure CallLaunch where
  context : FrameContext
  output : Nat × Nat
  deriving Repr, DecidableEq

/-- Take the operands of a call; a static frame may not send currency along. -/
def popCall (kind : CallKind) : Exec CallOperands := do
  let requested ← pop
  let target ← popAddress
  let value ← if kind.hasValue then pop else pure 0
  let input ← pop2
  let output ← pop2
  if (← context).isStatic ∧ kind = .call ∧ value ≠ 0 then
    throw .writeInStaticContext
  return { requested, target, value, input, output }

/--
Set gas aside for the frame that a call starts.  A frame that may not be started
leaves the gas where it was.
-/
def launchCall
    (limits : Limits)
    (kind : CallKind)
    (operands : CallOperands)
    (input output : Nat × Nat) :
    Exec (Option CallLaunch) := do
  let movesValue := operands.movesValue kind
  let forwarded := Gas.forwarded (← frame).gas operands.requested
  charge forwarded
  if ← canStart limits operands.value movesValue then
    let gas := if movesValue then forwarded + Gas.callStipend else forwarded
    let data ← readMemory input.1 input.2
    let child := (← context).child kind operands.target operands.value data gas
    return some ⟨child, output⟩
  else
    giveBack forwarded
    return none

/-- Take the operands of a call, pay for it and set gas aside; nothing when the call is skipped. -/
def prepareCall (environment : Environment) (kind : CallKind) : Exec (Option CallLaunch) := do
  let operands ← popCall kind
  let input ← expand operands.input.1 operands.input.2
  let output ← expand operands.output.1 operands.output.2
  updateFrame fun frame => { frame with returnData := [] }
  if ← inspectCallee environment.rules.addresses kind operands.target then
    if operands.movesValue kind then
      chargeValue kind operands.target
    launchCall environment.limits kind operands input output
  else
    return none

/-- Call another address. -/
def call (environment : Environment) (runner : Runner) (kind : CallKind) : Exec Unit := do
  match ← prepareCall environment kind with
  | some launch =>
      let outcome ←
        onSimulation (SimAction.messageCall environment runner kind launch.context)
      takeOutcome outcome launch.output.1 launch.output.2
  | none => push 0

/-- Take the outcome of a creation: the new address, or nothing. -/
def takeCreation (outcome : Outcome) : Exec Unit := do
  giveBack outcome.gas
  match outcome.status, outcome.created with
  | .completed, some address =>
      takeOutcome.takeSuccess outcome
      pushAddress address
  | .reverted, _ =>
      updateFrame fun frame => { frame with returnData := outcome.output }
      push 0
  | _, _ => push 0

/-- Refuse init code beyond the limit and pay for its words, where the rules say so. -/
def chargeInitCode (environment : Environment) (length : Nat) : Exec Unit := do
  if environment.rules.spec.limitsInitCode then
    let max := environment.limits.maxInitCodeSize
    if max < length then
      throw (.initCodeSizeExceeded length max)
    charge (Gas.initCode length)

/-- A frame that a creation is about to start, and its code. -/
structure CreationLaunch where
  context : FrameContext
  initCode : Bytes
  deriving Repr, DecidableEq

/-- Set gas aside for the frame that a creation starts, unless it may not be started. -/
def launchCreation
    (limits : Limits)
    (value : Word)
    (start length : Nat) :
    Exec (Option CreationLaunch) := do
  if ← canStart limits value true then
    let gas := Gas.callCap (← frame).gas
    charge gas
    let initCode ← readMemory start length
    return some ⟨(← context).calling Address.zero value [] gas, initCode⟩
  else
    return none

/--
Take the operands of a creation, pay for it and set gas aside; nothing when it is
skipped.  A salt is taken, but the address does not depend on it.
-/
def prepareCreation
    (environment : Environment)
    (salted : Bool) :
    Exec (Option CreationLaunch) := do
  let (value, offset, size) ← pop3
  if salted then
    let _ ← pop
  let (start, length) ← expand offset size
  chargeInitCode environment length
  if salted then
    charge (Gas.keccakWords length)
  updateFrame fun frame => { frame with returnData := [] }
  launchCreation environment.limits value start length

/-- Create a contract. -/
def create (environment : Environment) (runner : Runner) (salted : Bool) : Exec Unit := do
  match ← prepareCreation environment salted with
  | some launch =>
      let creator := (← context).address
      let outcome ←
        onSimulation
          (SimAction.createContract environment runner creator launch.context launch.initCode)
      takeCreation outcome
  | none => push 0

end Exec

end LedgerEvm
