import LedgerEvm.Machine.Step

namespace LedgerEvm

/-!
# Runs

A frame runs step by step until it is over or fails.  Every step ends its frame or
uses up gas, so the gas at the start bounds the number of steps of the frame and of
all frames below it.
-/

namespace Frame

/-- The text that the trace shows for a failure. -/
def reasonText (error : VmError) : String :=
  match error.haltReason? with
  | some reason => reason.text
  | none => error.message

/-- The outcome of a frame that failed, unless the failure ends the whole transaction. -/
def failWith (error : VmError) (gas : UInt64) : SimAction Outcome := fun simulation =>
  if error.isAbort then
    .error error simulation
  else
    .ok (Outcome.halted error gas)
      { simulation with trace := simulation.trace.recordReason (reasonText error) }

/-- Run a frame; the number bounds the steps of the frame and the depth of its calls. -/
def run (environment : Environment) : Nat → Frame → SimAction Outcome
  | 0, _ => throw (.internal "the steps are not paid for")
  | fuel + 1, frame => fun simulation =>
      if frame.isOver then
        .ok frame.outcome simulation
      else
        let runner : Runner := fun context code =>
          run environment fuel (Frame.start environment.limits context code)
        match Exec.step environment runner ⟨frame, simulation⟩ with
        | .ok _ after => run environment fuel after.frame after.simulation
        | .error error after => failWith error after.frame.gas after.simulation

/-- A bound on the steps of a frame that starts with so much gas. -/
def stepBound (gas : UInt64) : Nat :=
  gas.toNat + 2

end Frame

namespace Environment

/-- Runs the code of a frame within a bound that its context sets. -/
def runnerWithin (environment : Environment) (bound : FrameContext → Nat) : Runner :=
  fun context code =>
    Frame.run environment (bound context) (Frame.start environment.limits context code)

/-- Runs the code of a first frame. -/
def runner (environment : Environment) : Runner :=
  environment.runnerWithin fun context => Frame.stepBound context.gasLimit

end Environment

end LedgerEvm
