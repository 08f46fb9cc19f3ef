import LedgerEvm.Machine.Call

namespace LedgerEvm

/-!
# Steps

One step fetches the instruction at the frame's position, checks that it is allowed,
records it in the trace, takes its static cost and lets it act.
-/

namespace Exec

/-- Let an instruction act. -/
def execute
    (environment : Environment)
    (runner : Runner)
    (instruction : Instruction) :
    Exec Unit :=
  let rules := environment.rules
  match instruction with
  | .stop => finish .stopped
  | .add => binary fun left right => left + right
  | .mul => binary fun left right => left * right
  | .sub => binary fun left right => left - right
  | .div => binary Word.div
  | .signedDiv => binary Word.signedDiv
  | .mod => binary Word.mod
  | .signedMod => binary Word.signedMod
  | .addMod => ternary Word.addMod
  | .mulMod => ternary Word.mulMod
  | .pow => power
  | .signExtend => binary Word.signExtend
  | .less => relation fun left right => decide (left < right)
  | .greater => relation fun left right => decide (right < left)
  | .signedLess => relation Word.signedLess
  | .signedGreater => relation fun left right => Word.signedLess right left
  | .equal => relation fun left right => left == right
  | .isZero => unary fun word => Word.ofBool (word == 0)
  | .bitAnd => binary fun left right => left &&& right
  | .bitOr => binary fun left right => left ||| right
  | .bitXor => binary fun left right => left ^^^ right
  | .bitNot => unary fun word => ~~~word
  | .byte => binary Word.byte
  | .shiftLeft => binary Word.shiftLeft
  | .shiftRight => binary Word.shiftRight
  | .arithmeticShiftRight => binary Word.arithmeticShiftRight
  | .keccak => hashMemory
  | .address => pushContext fun context => context.address.toWord
  | .balance => balance rules.addresses
  | .origin => pushContext fun context => context.origin.toWord
  | .caller => pushContext fun context => context.caller.toWord
  | .callValue => pushContext fun context => context.value
  | .callDataLoad => do
      let offset ← pop
      pushContext fun context => wordAt context.data offset
  | .callDataSize => pushContext fun context => BitVec.ofNat 256 context.data.length
  | .callDataCopy => do
      let (destination, offset, size) ← pop3
      copyToMemory destination offset size (← context).data
  | .codeSize => do
      pushNat (← frame).program.size
  | .codeCopy => do
      let (destination, offset, size) ← pop3
      copyToMemory destination offset size (← frame).program.bytes
  | .gasPrice => pushContext fun context => context.gasPrice
  | .extCodeSize => extCodeSize rules.addresses
  | .extCodeCopy => extCodeCopy rules.addresses
  | .returnDataSize => do
      pushNat (← frame).returnData.length
  | .returnDataCopy => returnDataCopy
  | .extCodeHash => extCodeHash rules.addresses
  | .blockHash => blockHash environment.blockHashes
  | .coinbase => pushContext fun context => context.block.coinbase.toWord
  | .timestamp => pushContext fun context => BitVec.ofNat 256 context.block.seconds
  | .number => pushContext fun context => Word.ofUInt64 context.block.number
  | .prevRandao => randomValue rules.spec
  | .gasLimit => pushContext fun context => Word.ofUInt64 context.block.gasLimit
  | .chainId => pushContext fun context => Word.ofUInt64 context.block.chainId
  | .selfBalance => do
      let address := (← context).address
      push (← ask fun world => world.balance address)
  | .baseFee => pushContext fun context => context.block.baseFee
  | .blobHash => unary fun _ => 0
  | .blobBaseFee => push 0
  | .pop => do
      let _ ← pop
  | .memoryLoad => memoryLoad
  | .memoryStore => memoryStore
  | .memoryStoreByte => memoryStoreByte
  | .storageLoad => storageLoad
  | .storageStore => storageStore
  | .jump => do
      jump (← pop)
  | .jumpIf => jumpIf
  | .position => do
      pushNat ((← frame).position - 1)
  | .memorySize => do
      pushNat (← frame).memory.size
  | .gas => do
      push (Word.ofUInt64 (← frame).gas)
  | .jumpDest => pure ()
  | .transientLoad => transientLoad
  | .transientStore => transientStore
  | .memoryCopy => memoryCopy
  | .push size => pushImmediate size.val
  | .dup depth => updateStack fun stack => stack.dup depth.val
  | .swap depth => updateStack fun stack => stack.swap (depth.val + 1)
  | .log topics => log environment.prices topics.val
  | .create => create environment runner false
  | .call => call environment runner .call
  | .callCode => call environment runner .callCode
  | .output => finishWith .stopped
  | .delegateCall => call environment runner .delegateCall
  | .create2 => create environment runner true
  | .staticCall => call environment runner .staticCall
  | .revert => finishWith .reverted
  | .invalid => throw (.invalidOpcode 0xfe)
  | .selfDestruct => selfDestruct rules.selfDestruct

/-- Count a step, unless the transaction is cut off before it. -/
def countStep (environment : Environment) : Exec Unit := fun
  | ⟨frame, ⟨world, trace, steps⟩⟩ =>
      let deadline := environment.deadline
      if environment.cancelled.isSeenAt steps then
        .error .cancelled ⟨frame, ⟨world, trace, steps⟩⟩
      else if deadline.maxSteps ≤ steps then
        .error (.timeout deadline.elapsedMillis deadline.maxMillis)
          ⟨frame, ⟨world, trace, steps + 1⟩⟩
      else
        .ok () ⟨frame, ⟨world, trace, steps + 1⟩⟩

/-- The instruction at the frame's position, when the rules and the frame allow it. -/
def fetch (environment : Environment) : Exec Instruction := do
  let frame ← frame
  let byte := frame.program.code.getD frame.position 0
  match environment.rules.instruction? byte with
  | some instruction =>
      if frame.context.isStatic ∧ instruction.modifiesState then
        throw .writeInStaticContext
      return instruction
  | none => throw (.invalidOpcode byte)

/-- Record an instruction that is about to act. -/
def recordStep (instruction : Instruction) : Exec (Option Nat) := fun
  | ⟨frame, ⟨world, trace, steps⟩⟩ =>
      let (place, recorded) :=
        trace.record frame.position instruction.name frame.gas instruction.staticCost
          frame.context.depth frame.stack frame.memory
      .ok place ⟨frame, ⟨world, recorded, steps⟩⟩

/-- Correct the recorded cost of an instruction that has acted, also when it failed. -/
def amending (place : Option Nat) (gasBefore : UInt64) (action : Exec Unit) : Exec Unit :=
  fun machine =>
    match action machine with
    | .ok _ after => .ok () (amend after)
    | .error error after => .error error (amend after)
where
  /-- The machine with the corrected trace. -/
  amend : Machine → Machine
    | ⟨frame, ⟨world, trace, steps⟩⟩ =>
        ⟨frame, ⟨world, trace.amendCost place (gasBefore.subClamp frame.gas), steps⟩⟩

/-- Go on to the next byte of code. -/
def advance : Exec Unit :=
  updateFrame fun frame => { frame with position := frame.position + 1 }

/-- One step of a frame. -/
def step (environment : Environment) (runner : Runner) : Exec Unit := do
  countStep environment
  let instruction ← fetch environment
  let gasBefore := (← frame).gas
  let place ← recordStep instruction
  charge instruction.staticCost
  advance
  amending place gasBefore (execute environment runner instruction)

end Exec

end LedgerEvm
