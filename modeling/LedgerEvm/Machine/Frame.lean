import LedgerEvm.Machine.Context
import LedgerEvm.Machine.Environment
import LedgerEvm.Machine.Gas
import LedgerEvm.Machine.OperandStack
import LedgerEvm.Machine.Outcome
import LedgerEvm.Machine.Program
import LedgerEvm.Machine.Simulation

namespace LedgerEvm

/-!
# Frames

A frame is a program in execution.  This module holds its state and the parts that
instructions are made of: taking and leaving words, paying gas, growing memory and
jumping.
-/

/-- How a frame ended by itself. -/
inductive FrameEnding where
  | stopped
  | reverted
  deriving Repr, DecidableEq

/-- A program in execution. -/
structure Frame where
  context : FrameContext
  program : Program
  position : Nat := 0
  stack : OperandStack := OperandStack.empty
  memory : Memory
  gas : UInt64
  refund : Int64 := 0
  logs : Array Log := #[]
  returnData : Bytes := []
  output : Bytes := []
  ending : Option FrameEnding := none

namespace Frame

/-- The frame before its first instruction. -/
def start (limits : Limits) (context : FrameContext) (code : Bytes) : Frame where
  context
  program := Program.ofBytes code
  memory := Memory.withLimit limits.maxMemorySize
  gas := context.gasLimit

/-- Whether the frame has ended, by itself or at the end of its code. -/
def isOver (frame : Frame) : Bool :=
  frame.ending.isSome || decide (frame.program.size ≤ frame.position)

/-- What a frame that has ended hands back. -/
def outcome (frame : Frame) : Outcome :=
  if frame.ending = some .reverted then
    Outcome.reverted frame.output frame.gas
  else
    { status := .completed
      output := frame.output
      gas := frame.gas
      refund := frame.refund
      logs := frame.logs }

/-- Change the memory. -/
def updateMemory (frame : Frame) (update : Memory → Memory) : Frame :=
  match frame with
  | ⟨context, program, position, stack, memory, gas, refund, logs, returnData, output, ending⟩ =>
      ⟨context, program, position, stack, update memory, gas, refund, logs, returnData, output,
        ending⟩

end Frame

/-- A frame with what it shares with the other frames. -/
structure Machine where
  frame : Frame
  simulation : Simulation

/-- What an instruction does. -/
abbrev Exec := EStateM VmError Machine

namespace Exec

/-! ## State -/

/-- The frame. -/
def frame : Exec Frame := fun machine =>
  .ok machine.frame machine

/-- What the frame knows about the call it serves. -/
def context : Exec FrameContext := fun machine =>
  .ok machine.frame.context machine

/-- Change the frame. -/
def updateFrame (update : Frame → Frame) : Exec Unit := fun
  | ⟨frame, simulation⟩ => .ok () ⟨update frame, simulation⟩

/-- Change the memory of the frame. -/
def updateMemory (update : Memory → Memory) : Exec Unit :=
  updateFrame fun frame => frame.updateMemory update

/-- The answer of the world to a question. -/
def ask {α : Type} (question : World → Except StateError α) : Exec α := fun machine =>
  match question machine.simulation.world with
  | .ok answer => .ok answer machine
  | .error error => .error (.state error) machine

/-- Change the world. -/
def updateWorld (update : World → World) : Exec Unit := fun
  | ⟨frame, simulation⟩ =>
      .ok () ⟨frame, { simulation with world := update simulation.world }⟩

/-- Change the trace. -/
def updateTrace (update : Trace → Trace) : Exec Unit := fun
  | ⟨frame, ⟨world, trace, steps⟩⟩ => .ok () ⟨frame, ⟨world, update trace, steps⟩⟩

/-- An action on what the frames share. -/
def onSimulation {α : Type} (action : SimAction α) : Exec α := fun
  | ⟨frame, simulation⟩ =>
      match action simulation with
      | .ok answer after => .ok answer ⟨frame, after⟩
      | .error error after => .error error ⟨frame, after⟩

/-! ## Words -/

/-- Leave a word. -/
def push (word : Word) : Exec Unit := fun
  | ⟨frame, simulation⟩ =>
      match frame.stack.push word with
      | .ok stack => .ok () ⟨{ frame with stack }, simulation⟩
      | .error error => .error error ⟨frame, simulation⟩

/-- Leave a condition as a word. -/
def pushBool (condition : Bool) : Exec Unit :=
  push (Word.ofBool condition)

/-- Leave a number as a word. -/
def pushNat (value : Nat) : Exec Unit :=
  push (BitVec.ofNat 256 value)

/-- Leave an address as a word. -/
def pushAddress (address : Address) : Exec Unit :=
  push address.toWord

/-- Take a word. -/
def pop : Exec Word := fun
  | ⟨frame, simulation⟩ =>
      match frame.stack.pop with
      | .ok (word, stack) => .ok word ⟨{ frame with stack }, simulation⟩
      | .error error => .error error ⟨frame, simulation⟩

/-- Take a word for the address in its low bytes. -/
def popAddress : Exec Address := do
  return Address.ofWord (← pop)

/-- Take two words, the top one first. -/
def pop2 : Exec (Word × Word) := do
  let first ← pop
  let second ← pop
  return (first, second)

/-- Take three words, the top one first. -/
def pop3 : Exec (Word × Word × Word) := do
  let first ← pop
  let second ← pop
  let third ← pop
  return (first, second, third)

/-- Take as many words as asked for, the top one first. -/
def popList : Nat → Exec (List Word)
  | 0 => pure []
  | count + 1 => do
      let word ← pop
      return word :: (← popList count)

/-- Change the stack in a way that may fail. -/
def updateStack (update : OperandStack → Except VmError OperandStack) : Exec Unit := fun
  | ⟨frame, simulation⟩ =>
      match update frame.stack with
      | .ok stack => .ok () ⟨{ frame with stack }, simulation⟩
      | .error error => .error error ⟨frame, simulation⟩

/-! ## Gas and memory -/

/-- Pay gas; a frame that cannot pay loses what it has. -/
def charge (gas : UInt64) : Exec Unit := fun
  | ⟨frame, simulation⟩ =>
      if frame.gas < gas then
        .error .outOfGas ⟨{ frame with gas := 0 }, simulation⟩
      else
        .ok () ⟨{ frame with gas := frame.gas - gas }, simulation⟩

/-- Get gas back. -/
def giveBack (gas : UInt64) : Exec Unit :=
  updateFrame fun frame => { frame with gas := frame.gas + gas }

/-- A memory offset or size; from 2^32 on none can be paid for. -/
def memoryOperand (word : Word) : Exec Nat :=
  if word.toNat < UInt32.size then pure word.toNat else throw .outOfGas

/-- The number of words that a window needs; a window beyond the limit cannot be paid for. -/
def neededWords (offset size : Nat) : Exec (Nat × Nat) := fun machine =>
  match machine.frame.memory.requiredWords offset size with
  | .ok needed => .ok (machine.frame.memory.words, needed) machine
  | .error _ => .error .outOfGas machine

/-- Pay for a window of memory and grow to hold it.  An empty window touches nothing. -/
def expand (offset size : Word) : Exec (Nat × Nat) := do
  if size = 0 then
    return (0, 0)
  let offset ← memoryOperand offset
  let size ← memoryOperand size
  let (present, needed) ← neededWords offset size
  charge (Memory.expansionCost present needed)
  updateMemory fun memory => memory.growTo needed
  return (offset, size)

/-- The bytes of a window of memory. -/
def readMemory (offset size : Nat) : Exec Bytes := fun machine =>
  .ok (machine.frame.memory.read offset size) machine

/-- Pay for and make a copy of a window of a source into memory. -/
def copyToMemory (destination offset size : Word) (source : Bytes) : Exec Unit := do
  let (target, length) ← expand destination size
  charge (Gas.copy length)
  updateMemory fun memory =>
    memory.storeWindow target source (Nat.min offset.toNat source.length) length

/-! ## Flow -/

/-- Go on at a jump destination. -/
def jump (destination : Word) : Exec Unit := fun
  | ⟨frame, simulation⟩ =>
      if destination.toNat < UInt32.size ∧ frame.program.isJumpDest destination.toNat then
        .ok () ⟨{ frame with position := destination.toNat }, simulation⟩
      else
        .error (.invalidJump (destination.toNat % UInt64.size)) ⟨frame, simulation⟩

/-- End the frame. -/
def finish (ending : FrameEnding) : Exec Unit :=
  updateFrame fun frame => { frame with ending := some ending }

end Exec

end LedgerEvm
