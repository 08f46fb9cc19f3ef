import LedgerEvm.Machine.Memory
import LedgerEvm.Machine.OperandStack

namespace LedgerEvm

/-!
# Traces

A trace records every executed instruction with what the caller asked to see.  A
trace that is off records nothing and answers every question with nothing.
-/

/-- Whether a trace follows instructions or only operations. -/
inductive TraceMode where
  | opcode
  | operation
  deriving Repr, DecidableEq

/-- What a trace shows beside position, name, gas and depth. -/
structure TraceOptions where
  stack : Bool := true
  memory : Bool := false
  storage : Bool := false
  deriving Repr, DecidableEq

/-- One executed instruction. -/
structure TraceStep where
  position : Nat
  name : String
  gas : UInt64
  gasCost : UInt64
  depth : UInt16
  stack : List Word
  memory : List Hash
  storage : List (Word × Word)
  reason : Option String
  deriving Repr, DecidableEq

/-- A trace in progress. -/
structure Trace where
  enabled : Bool
  options : TraceOptions
  steps : Array TraceStep
  deriving Repr, DecidableEq

namespace Trace

/-- A trace of the given mode; only instructions are recorded. -/
def ofMode (mode : TraceMode) (options : TraceOptions) : Trace :=
  ⟨mode == .opcode, options, #[]⟩

/-- A trace that is off. -/
def off : Trace :=
  ⟨false, { }, #[]⟩

instance : Inhabited Trace := ⟨off⟩

/-- Record an instruction; the answer is its place in the trace. -/
def record
    (trace : Trace)
    (position : Nat)
    (name : String)
    (gas gasCost : UInt64)
    (depth : UInt16)
    (stack : OperandStack)
    (memory : Memory) :
    Option Nat × Trace :=
  if trace.enabled then
    (some trace.steps.size,
      { trace with
        steps := trace.steps.push
          { position, name, gas, gasCost, depth
            stack := if trace.options.stack then stack.bottomFirst else []
            memory := if trace.options.memory then memory.toWords else []
            storage := []
            reason := none } })
  else
    (none, trace)

/-- Change the last step. -/
def changeLast (trace : Trace) (change : TraceStep → TraceStep) : Trace :=
  { trace with steps := trace.steps.modify (trace.steps.size - 1) change }

/-- Correct the cost of a recorded instruction. -/
def amendCost (trace : Trace) (place : Option Nat) (gasCost : UInt64) : Trace :=
  match place with
  | some index =>
      { trace with
        steps := trace.steps.modify index fun step => { step with gasCost } }
  | none => trace

/-- Record a storage access of the last instruction. -/
def recordStorage (trace : Trace) (key value : Word) : Trace :=
  if trace.enabled && trace.options.storage then
    trace.changeLast fun step => { step with storage := step.storage ++ [(key, value)] }
  else
    trace

/-- Record why a frame halted at the last instruction. -/
def recordReason (trace : Trace) (reason : String) : Trace :=
  if trace.enabled then
    trace.changeLast fun step => { step with reason := some reason }
  else
    trace

end Trace

end LedgerEvm
