import LedgerEvm.Proofs.Machine.Calls
import LedgerEvm.Proofs.Machine.Indices

namespace LedgerEvm

/-!
# Instructions with checked indices

The instructions once more, with every index that they form for the stack, memory, code,
call data and returned data looked up in range, and with every word that is made an index
below the largest one.  Where an index is out of range they stop.  They never do: each
checked instruction does what the unchecked one does.
-/

/-- How a checked action fails: as the machine does, or at an index out of range. -/
inductive CheckFailure where
  | error (error : VmError)
  | outOfRange

/-- What an instruction with checked indices does. -/
abbrev Checked := EStateM CheckFailure Machine

namespace Checked

open Exec (frame context pop pop2 pop3 popList push pushNat charge giveBack)

/-- An action that forms no index. -/
def lift {α : Type} (action : Exec α) : Checked α := fun machine =>
  match action machine with
  | .ok answer after => .ok answer after
  | .error error after => .error (.error error) after

/-- What was found in range. -/
def found {α : Type} : Option α → Checked α
  | some answer => pure answer
  | none => throw .outOfRange

/--
The index that a word stands for.  Numbers of 64 bits are indices, and so are all up to
a length that there is.
-/
def index (length : Nat) (word : Word) : Checked Nat :=
  found
    (if word.toNat < UInt64.size ∨ word.toNat ≤ length then some word.toNat else none)

/-! ## Memory -/

/-- Change the memory by index. -/
def updateMemory (update : Memory → Option Memory) : Checked Unit := do
  let memory ← found (update (← lift frame).memory)
  lift (Exec.updateMemory fun _ => memory)

/-- The bytes of a window of memory. -/
def readMemory (offset size : Nat) : Checked Bytes := do
  found ((← lift frame).memory.readByIndex? offset size)

/-- A memory offset or size; from 2^32 on none can be paid for. -/
def memoryOperand (word : Word) : Checked Nat :=
  if word.toNat < UInt32.size then index 0 word else throw (.error .outOfGas)

/-- Pay for a window of memory and grow to hold it.  An empty window touches nothing. -/
def expand (offset size : Word) : Checked (Nat × Nat) := do
  if size = 0 then
    return (0, 0)
  let offset ← memoryOperand offset
  let size ← memoryOperand size
  let (present, needed) ← lift (Exec.neededWords offset size)
  lift (charge (Memory.expansionCost present needed))
  lift (Exec.updateMemory fun memory => memory.growTo needed)
  return (offset, size)

/-- The offset in a source, which is its end for every offset beyond. -/
def sourceOffset (source : Bytes) (offset : Word) : Checked Nat :=
  if source.length < offset.toNat then pure source.length else index source.length offset

/-- Pay for and make a copy of a window of a source into memory. -/
def copyToMemory (destination offset size : Word) (source : Bytes) : Checked Unit := do
  let (target, length) ← expand destination size
  lift (charge (Gas.copy length))
  let start ← sourceOffset source offset
  updateMemory fun memory => memory.storeByIndex? target source start length

/-! ## Instructions -/

/-- Leave the hash of a window of memory. -/
def hashMemory : Checked Unit := do
  let (offset, size) ← lift pop2
  let (start, length) ← expand offset size
  lift (charge (Gas.keccakWords length))
  let bytes ← readMemory start length
  lift (push (Keccak.keccak256 bytes).word)

/-- The word of a byte string at an offset, with zeros past the end. -/
def wordAt (bytes : Bytes) (offset : Word) : Checked Word :=
  if offset.toNat < bytes.length then do
    let start ← index bytes.length offset
    return Word.ofBytes (← found (bytes.windowByIndex? start 32))
  else
    return Word.ofBytes (List.replicate 32 0)

/-- Leave a word of the call data. -/
def callDataLoad : Checked Unit := do
  let offset ← lift pop
  let word ← wordAt (← lift context).data offset
  lift (push word)

/-- Copy call data into memory. -/
def callDataCopy : Checked Unit := do
  let (destination, offset, size) ← lift pop3
  copyToMemory destination offset size (← lift context).data

/-- Copy the code that runs into memory. -/
def codeCopy : Checked Unit := do
  let (destination, offset, size) ← lift pop3
  copyToMemory destination offset size (← lift frame).program.bytes

/-- Copy the code at an address into memory. -/
def extCodeCopy (rule : AddressRule) : Checked Unit := do
  let address ← lift Exec.popAddress
  let (destination, offset, size) ← lift pop3
  let code ← lift (Exec.lookUp rule address [] fun world => world.code address)
  copyToMemory destination offset size code

/-- Copy what the last call returned into memory; all of the window has to be there. -/
def returnDataCopy : Checked Unit := do
  let (destination, offset, size) ← lift pop3
  let data := (← lift frame).returnData
  if data.length < offset.toNat + size.toNat then
    throw
      (.error
        (.returnDataOutOfBounds (offset.toNat % UInt64.size) (size.toNat % UInt64.size)
          data.length))
  copyToMemory destination offset size data

/-- Leave the word at an offset of memory. -/
def memoryLoad : Checked Unit := do
  let offset ← lift pop
  let (start, _) ← expand offset 32
  let bytes ← readMemory start 32
  lift (push (Word.ofBytes bytes))

/-- Write a word to memory. -/
def memoryStore : Checked Unit := do
  let (offset, word) ← lift pop2
  let (start, _) ← expand offset 32
  updateMemory fun memory => memory.overwrite? start (start + 32) word.toBytes

/-- Write the lowest byte of a word to memory. -/
def memoryStoreByte : Checked Unit := do
  let (offset, word) ← lift pop2
  let (start, _) ← expand offset 1
  updateMemory fun memory => memory.overwrite? start (start + 1) [UInt8.ofNat word.toNat]

/-- Copy a window of memory to another place. -/
def memoryCopy : Checked Unit := do
  let (destination, source, size) ← lift pop3
  let (_, length) ← expand (if destination < source then source else destination) size
  lift (charge (Gas.copy length))
  if length > 0 then
    let target ← index 0 destination
    let start ← index 0 source
    updateMemory fun memory => memory.copyByIndex? target start length

/-- Leave the bytes of code that follow and go on behind them. -/
def pushImmediate (size : Nat) : Checked Unit := do
  let frame ← lift frame
  let word ← found (frame.program.immediateByIndex? frame.position size)
  lift (Exec.updateFrame fun frame => { frame with position := frame.position + size })
  lift (push word)

/-- Leave a copy of the word at a depth. -/
def dup (depth : Nat) : Checked Unit := do
  let stack := (← lift frame).stack
  if depth + 1 ≤ stack.size then
    let word ← found (stack.peekByIndex? depth)
    lift (push word)
  else
    throw (.error .stackUnderflow)

/-- Exchange the top word with the one so many places below it. -/
def swap (places : Nat) : Checked Unit := do
  let stack := (← lift frame).stack
  if places = 0 ∨ stack.size ≤ places then
    throw (.error .stackUnderflow)
  else
    let top ← found (stack.peekByIndex? 0)
    let lower ← found (stack.peekByIndex? places)
    lift (Exec.updateFrame fun frame =>
      { frame with stack := frame.stack.exchanged places top lower })

/-- Leave the place of the instruction. -/
def position : Checked Unit := do
  let next := (← lift frame).position
  let here ← found (if 1 ≤ next then some (next - 1) else none)
  lift (pushNat here)

/-- End the frame with a window of memory as its output. -/
def finishWith (ending : FrameEnding) : Checked Unit := do
  let (offset, size) ← lift pop2
  let (start, length) ← expand offset size
  let output ← readMemory start length
  lift (Exec.updateFrame fun frame => { frame with output })
  lift (Exec.finish ending)

/-- Leave a log with so many topics. -/
def log (prices : PriceSource) (count : Nat) : Checked Unit := do
  let (offset, size) ← lift pop2
  let topics ← lift (popList count)
  let (start, length) ← expand offset size
  let context ← lift context
  let charged := Gas.LogContext.contractCall context.block.timestamp context.gasPrice
  match Gas.log prices charged length count with
  | .ok cost => lift (charge cost)
  | .error error => throw (.error (.ofPricing error))
  let data ← readMemory start length
  let log : Log := ⟨context.address, topics.map Hash.mk, data⟩
  lift (Exec.updateFrame fun frame => { frame with logs := frame.logs.push log })

/-! ## Instructions that call -/

/-- Take the outcome of a call. -/
def takeOutcome (outcome : Outcome) (offset size : Nat) : Checked Unit := do
  lift (giveBack outcome.gas)
  updateMemory fun memory =>
    memory.storeByIndex? offset outcome.output 0 (Nat.min size outcome.output.length)
  if outcome.isSuccess then
    lift (Exec.takeOutcome.takeSuccess outcome)
  lift (Exec.updateFrame fun frame => { frame with returnData := outcome.output })
  lift (Exec.pushBool outcome.isSuccess)

/-- Set gas aside for the frame that a call starts, unless it may not be started. -/
def launchCall
    (limits : Limits)
    (kind : CallKind)
    (operands : Exec.CallOperands)
    (input output : Nat × Nat) :
    Checked (Option Exec.CallLaunch) := do
  let movesValue := operands.movesValue kind
  let forwarded := Gas.forwarded (← lift frame).gas operands.requested
  lift (charge forwarded)
  if ← lift (Exec.canStart limits operands.value movesValue) then
    let gas := if movesValue then forwarded + Gas.callStipend else forwarded
    let data ← readMemory input.1 input.2
    let child := (← lift context).child kind operands.target operands.value data gas
    return some ⟨child, output⟩
  else
    lift (giveBack forwarded)
    return none

/-- Take the operands of a call, pay for it and set gas aside. -/
def prepareCall
    (environment : Environment)
    (kind : CallKind) :
    Checked (Option Exec.CallLaunch) := do
  let operands ← lift (Exec.popCall kind)
  let input ← expand operands.input.1 operands.input.2
  let output ← expand operands.output.1 operands.output.2
  lift (Exec.updateFrame fun frame => { frame with returnData := [] })
  if ← lift (Exec.inspectCallee environment.rules.addresses kind operands.target) then
    if operands.movesValue kind then
      lift (Exec.chargeValue kind operands.target)
    launchCall environment.limits kind operands input output
  else
    return none

/-- Call another address. -/
def call (environment : Environment) (runner : Runner) (kind : CallKind) : Checked Unit := do
  match ← prepareCall environment kind with
  | some launch =>
      let outcome ←
        lift
          (Exec.onSimulation (SimAction.messageCall environment runner kind launch.context))
      takeOutcome outcome launch.output.1 launch.output.2
  | none => lift (push 0)

/-- Set gas aside for the frame that a creation starts, unless it may not be started. -/
def launchCreation
    (limits : Limits)
    (value : Word)
    (start length : Nat) :
    Checked (Option Exec.CreationLaunch) := do
  if ← lift (Exec.canStart limits value true) then
    let gas := Gas.callCap (← lift frame).gas
    lift (charge gas)
    let initCode ← readMemory start length
    return some ⟨(← lift context).calling Address.zero value [] gas, initCode⟩
  else
    return none

/-- Take the operands of a creation, pay for it and set gas aside. -/
def prepareCreation
    (environment : Environment)
    (salted : Bool) :
    Checked (Option Exec.CreationLaunch) := do
  let (value, offset, size) ← lift pop3
  if salted then
    let _ ← lift pop
  let (start, length) ← expand offset size
  lift (Exec.chargeInitCode environment length)
  if salted then
    lift (charge (Gas.keccakWords length))
  lift (Exec.updateFrame fun frame => { frame with returnData := [] })
  launchCreation environment.limits value start length

/-- Create a contract. -/
def create (environment : Environment) (runner : Runner) (salted : Bool) : Checked Unit := do
  match ← prepareCreation environment salted with
  | some launch =>
      let creator := (← lift context).address
      let outcome ←
        lift
          (Exec.onSimulation
            (SimAction.createContract environment runner creator launch.context
              launch.initCode))
      lift (Exec.takeCreation outcome)
  | none => lift (push 0)

/-! ## Steps -/

/-- Let an instruction act. -/
def execute
    (environment : Environment)
    (runner : Runner)
    (instruction : Instruction) :
    Checked Unit :=
  match instruction with
  | .keccak => hashMemory
  | .callDataLoad => callDataLoad
  | .callDataCopy => callDataCopy
  | .codeCopy => codeCopy
  | .extCodeCopy => extCodeCopy environment.rules.addresses
  | .returnDataCopy => returnDataCopy
  | .memoryLoad => memoryLoad
  | .memoryStore => memoryStore
  | .memoryStoreByte => memoryStoreByte
  | .memoryCopy => memoryCopy
  | .position => position
  | .push size => pushImmediate size.val
  | .dup depth => dup depth.val
  | .swap depth => swap (depth.val + 1)
  | .log topics => log environment.prices topics.val
  | .create => create environment runner false
  | .create2 => create environment runner true
  | .call => call environment runner .call
  | .callCode => call environment runner .callCode
  | .delegateCall => call environment runner .delegateCall
  | .staticCall => call environment runner .staticCall
  | .output => finishWith .stopped
  | .revert => finishWith .reverted
  | other => lift (Exec.execute environment runner other)

/-- The instruction at the frame's position, when the rules and the frame allow it. -/
def fetch (environment : Environment) : Checked Instruction := do
  let frame ← lift frame
  let byte ← found frame.program.code[frame.position]?
  match environment.rules.instruction? byte with
  | some instruction =>
      if frame.context.isStatic ∧ instruction.modifiesState then
        throw (.error .writeInStaticContext)
      return instruction
  | none => throw (.error (.invalidOpcode byte))

/-- Correct the recorded cost of an instruction that has acted, also when it failed. -/
def amending
    (place : Option Nat)
    (gasBefore : UInt64)
    (action : Checked Unit) :
    Checked Unit :=
  fun machine =>
    match action machine with
    | .ok _ after => .ok () (Exec.amending.amend place gasBefore after)
    | .error failure after => .error failure (Exec.amending.amend place gasBefore after)

/-- One step of a frame. -/
def step (environment : Environment) (runner : Runner) : Checked Unit := do
  lift (Exec.countStep environment)
  let instruction ← fetch environment
  let gasBefore := (← lift frame).gas
  let place ← lift (Exec.recordStep instruction)
  lift (charge instruction.staticCost)
  lift Exec.advance
  amending place gasBefore (execute environment runner instruction)

end Checked

end LedgerEvm
