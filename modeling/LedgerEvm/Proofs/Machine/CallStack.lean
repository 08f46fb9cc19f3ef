import LedgerEvm.Proofs.Machine.Spending

namespace LedgerEvm

/-!
# The stack of frames

At each moment one frame is active, and the frames below it wait for it.  From one moment
to the next an instruction of the active frame acts, and may start another frame, or a
frame that has ended hands on how it has ended.  No bound is set to this; it comes to
the same end as the run of the first frame with its bound.
-/

/-- The frame on top: it runs, or it has ended and hands on how. -/
inductive ActiveFrame where
  | running (machine : Machine)
  | ended (result : EStateM.Result VmError Simulation Outcome)

namespace ActiveFrame

/-- The frame after it has done something, which ends it when it fails. -/
def ofResult : EStateM.Result VmError Machine Unit → ActiveFrame
  | .ok _ after => .running after
  | .error error after => .ended (Frame.failWith error after.frame.gas after.simulation)

/-- Whether an instruction is next. -/
def executes : ActiveFrame → Bool
  | .running machine => !machine.frame.isOver
  | .ended _ => false

/-- What the frames share, as the frame on top knows it. -/
def simulation : ActiveFrame → Simulation
  | .running machine => machine.simulation
  | .ended (.ok _ after) => after
  | .ended (.error _ after) => after

end ActiveFrame

/-- The frames of a run at one moment. -/
structure CallStack where
  active : ActiveFrame
  waiting : List WaitingFrame

namespace CallStack

/-- The stack of a first frame before its first instruction. -/
def first
    (limits : Limits)
    (context : FrameContext)
    (code : Bytes)
    (simulation : Simulation) :
    CallStack :=
  ⟨.running ⟨Frame.start limits context code, simulation⟩, []⟩

/-- The stack after the next instruction, or after an end has been handed on. -/
def next (environment : Environment) : CallStack → Option CallStack
  | ⟨.running machine, waiting⟩ =>
      if machine.frame.isOver then
        some ⟨.ended (.ok machine.frame.outcome machine.simulation), waiting⟩
      else
        match Exec.launch? environment machine with
        | some launch =>
            some ⟨.running (launch.start environment.limits), launch.waiting :: waiting⟩
        | none => some ⟨.ofResult (Exec.step environment Runner.idle machine), waiting⟩
  | ⟨.ended result, frame :: waiting⟩ =>
      some ⟨.ofResult (frame.resume environment.limits result), waiting⟩
  | ⟨.ended _, []⟩ => none

/-- The instructions that act on the way to the next stack. -/
def instructions (stack : CallStack) : Nat :=
  if stack.active.executes then 1 else 0

/-- One move in given surroundings. -/
def Moves (environment : Environment) (before after : CallStack) : Prop :=
  before.next environment = some after

/-- What a move can do. -/
inductive Moved (environment : Environment) : CallStack → CallStack → Prop where
  /-- A frame that is over is closed. -/
  | close
      {machine : Machine} {waiting : List WaitingFrame}
      (finished : machine.frame.isOver = true) :
      Moved environment ⟨.running machine, waiting⟩
        ⟨.ended (.ok machine.frame.outcome machine.simulation), waiting⟩
  /-- An instruction starts a frame. -/
  | launch
      {machine : Machine} {waiting : List WaitingFrame} {launch : FrameLaunch}
      (runs : machine.frame.isOver = false)
      (found : Exec.launch? environment machine = some launch) :
      Moved environment ⟨.running machine, waiting⟩
        ⟨.running (launch.start environment.limits), launch.waiting :: waiting⟩
  /-- An instruction acts and starts no frame. -/
  | act
      {machine : Machine} {waiting : List WaitingFrame}
      (runs : machine.frame.isOver = false) :
      Moved environment ⟨.running machine, waiting⟩
        ⟨.ofResult (Exec.step environment Runner.idle machine), waiting⟩
  /-- A frame that has ended hands on how. -/
  | handOn
      {result : EStateM.Result VmError Simulation Outcome}
      {frame : WaitingFrame} {waiting : List WaitingFrame} :
      Moved environment ⟨.ended result, frame :: waiting⟩
        ⟨.ofResult (frame.resume environment.limits result), waiting⟩

theorem Moves.moved
    {environment : Environment}
    {before after : CallStack}
    (move : Moves environment before after) :
    Moved environment before after := by
  obtain ⟨active, waiting⟩ := before
  unfold Moves at move
  cases active with
  | ended result =>
      cases waiting with
      | nil => cases move
      | cons frame waiting =>
          cases move
          exact .handOn
  | running machine =>
      cases runs : machine.frame.isOver with
      | true =>
          simp only [next, runs, if_true] at move
          cases move
          exact .close runs
      | false =>
          cases found : Exec.launch? environment machine with
          | none =>
              simp only [next, runs, found, Bool.false_eq_true, if_false] at move
              cases move
              exact .act runs
          | some launch =>
              simp only [next, runs, found, Bool.false_eq_true, if_false] at move
              cases move
              exact .launch runs found

/-- Moves from one stack to another, and how many instructions act in them. -/
inductive Leads (moves : CallStack → CallStack → Prop) :
    Nat → CallStack → CallStack → Prop where
  | stay (stack : CallStack) : Leads moves 0 stack stack
  | go
      {count : Nat} {before middle after : CallStack}
      (move : moves before middle)
      (leads : Leads moves count middle after) :
      Leads moves (before.instructions + count) before after

namespace Leads

variable
  {moves moves' : CallStack → CallStack → Prop}
  {count count' : Nat}
  {before middle after : CallStack}

theorem one
    (move : moves before after) :
    Leads moves before.instructions before after :=
  .go move (.stay after)

theorem trans
    (leads : Leads moves count before middle)
    (goesOn : Leads moves count' middle after) :
    Leads moves (count + count') before after := by
  induction leads with
  | stay stack =>
      rw [Nat.zero_add]
      exact goesOn
  | go move leads inductionHypothesis =>
      rw [Nat.add_assoc]
      exact .go move (inductionHypothesis goesOn)

/-- What every move keeps, a run keeps. -/
theorem keeps
    {property : CallStack → Prop}
    (leads : Leads moves count before after)
    (kept : ∀ {before after : CallStack}, moves before after → property before → property after)
    (begins : property before) :
    property after := by
  induction leads with
  | stay stack => exact begins
  | go move leads inductionHypothesis => exact inductionHypothesis (kept move begins)

theorem imp
    (leads : Leads moves count before after)
    (implies : ∀ {before after : CallStack}, moves before after → moves' before after) :
    Leads moves' count before after := by
  induction leads with
  | stay stack => exact .stay stack
  | go move leads inductionHypothesis => exact .go (implies move) inductionHypothesis

end Leads

/-- The stack after a number of moves, each of which is allowed. -/
def advance
    (environment : Environment)
    (isAllowed : CallStack → Bool) :
    Nat → CallStack → Option CallStack
  | 0, stack => some stack
  | count + 1, stack =>
      if isAllowed stack then
        (stack.next environment).bind (advance environment isAllowed count)
      else
        none

theorem leads_of_advance
    {environment : Environment}
    {isAllowed : CallStack → Bool}
    {count : Nat}
    {start stack : CallStack}
    (reached : advance environment isAllowed count start = some stack) :
    ∃ instructions,
      Leads (fun before after => Moves environment before after ∧ isAllowed before = true)
        instructions start stack := by
  induction count generalizing start with
  | zero =>
      cases reached
      exact ⟨_, .stay _⟩
  | succ count inductionHypothesis =>
      simp only [advance] at reached
      split at reached
      · rename_i allowed
        obtain ⟨middle, move, reached⟩ := Option.bind_eq_some_iff.mp reached
        obtain ⟨instructions, leads⟩ := inductionHypothesis reached
        exact ⟨_, .go ⟨move, allowed⟩ leads⟩
      · cases reached

/-- Check all stacks from one on, as long as the run takes no more than so many moves. -/
def checksRun (environment : Environment) (check : CallStack → Bool) : Nat → CallStack → Bool
  | 0, _ => false
  | count + 1, stack =>
      check stack && (stack.next environment).all (checksRun environment check count)

/-- A stack that a checked run leads to has been checked. -/
theorem check_of_leads
    {environment : Environment}
    {check : CallStack → Bool}
    {moves count : Nat}
    {start stack : CallStack}
    (checked : checksRun environment check moves start = true)
    (leads : Leads (Moves environment) count start stack) :
    check stack = true := by
  induction leads generalizing moves with
  | stay stack =>
      cases moves with
      | zero => cases checked
      | succ moves => exact (Bool.and_eq_true_iff.mp checked).1
  | go move leads inductionHypothesis =>
      cases moves with
      | zero => cases checked
      | succ moves =>
          have others := (Bool.and_eq_true_iff.mp checked).2
          unfold Moves at move
          rw [move] at others
          exact inductionHypothesis others

/-! ## The end of a run -/

/-- The frame is over or its gas is within the bound of its run. -/
def PaidFor (fuel : Nat) (frame : Frame) : Prop :=
  frame.isOver = true ∧ 1 ≤ fuel ∨ frame.gas.toNat + 2 ≤ fuel

variable
  {environment : Environment}
  {machine : Machine}
  {waiting : List WaitingFrame}

theorem moves_of_isOver
    (finished : machine.frame.isOver = true) :
    Moves environment ⟨.running machine, waiting⟩
      ⟨.ended (.ok machine.frame.outcome machine.simulation), waiting⟩ := by
  simp only [Moves, next, finished, if_true]

theorem moves_of_launch?
    {launch : FrameLaunch}
    (runs : machine.frame.isOver = false)
    (found : Exec.launch? environment machine = some launch) :
    Moves environment ⟨.running machine, waiting⟩
      ⟨.running (launch.start environment.limits), launch.waiting :: waiting⟩ := by
  simp only [Moves, next, runs, found, Bool.false_eq_true, if_false]

theorem moves_of_no_launch
    (runs : machine.frame.isOver = false)
    (none : Exec.launch? environment machine = none) :
    Moves environment ⟨.running machine, waiting⟩
      ⟨.ofResult (Exec.step environment Runner.idle machine), waiting⟩ := by
  simp only [Moves, next, runs, none, Bool.false_eq_true, if_false]

/-- Whoever runs the frames that a step starts, the stack comes to where the step leads. -/
theorem leads_step
    {runner : Runner}
    (runs : machine.frame.isOver = false)
    (launched : ∀ {launch : FrameLaunch},
      Exec.launch? environment machine = some launch →
      ∃ count,
        Leads (Moves environment) count
          ⟨.running (launch.start environment.limits), launch.waiting :: waiting⟩
          ⟨.ended (runner launch.context launch.code launch.simulation),
            launch.waiting :: waiting⟩) :
    ∃ count,
      Leads (Moves environment) count ⟨.running machine, waiting⟩
        ⟨.ofResult (Exec.step environment runner machine), waiting⟩ := by
  cases found : Exec.launch? environment machine with
  | none =>
      rw [Exec.step_of_no_launch found runner Runner.idle]
      exact ⟨_, .one (moves_of_no_launch runs found)⟩
  | some launch =>
      obtain ⟨count, leads⟩ := launched found
      rw [Exec.step_of_launch? found runner]
      exact ⟨_, .go (moves_of_launch? runs found) (leads.trans (.one rfl))⟩

/-- A frame that is paid for comes to the end of its run. -/
theorem leads_run
    (environment : Environment)
    {fuel : Nat}
    {frame : Frame}
    (paid : PaidFor fuel frame)
    (simulation : Simulation)
    (waiting : List WaitingFrame) :
    ∃ count,
      Leads (Moves environment) count ⟨.running ⟨frame, simulation⟩, waiting⟩
        ⟨.ended (Frame.run environment fuel frame simulation), waiting⟩ := by
  -- the bound serves the rest of the frame and the frames it starts, as in the run itself
  induction fuel generalizing frame simulation waiting with
  | zero =>
      rcases paid with ⟨_, impossible⟩ | impossible <;> omega
  | succ fuel inductionHypothesis =>
      rw [Frame.run_succ]
      cases runs : frame.isOver with
      | true =>
          exact ⟨_, .one (moves_of_isOver runs)⟩
      | false =>
          have enough : frame.gas.toNat + 1 ≤ fuel := by
            rcases paid with ⟨finished, _⟩ | enough
            · rw [runs] at finished
              cases finished
            · omega
          have leaves : (environment.runnerWithin fun _ => fuel).LeavesAtMost :=
            environment.runnerWithin_leavesAtMost _
          have stepped :
              ∃ count,
                Leads (Moves environment) count ⟨.running ⟨frame, simulation⟩, waiting⟩
                  ⟨.ofResult
                      (Exec.step environment (environment.runnerWithin fun _ => fuel)
                        ⟨frame, simulation⟩), waiting⟩ := by
            apply leads_step runs
            intro launch found
            have given := Exec.gas_of_launch? found
            change _ ≤ frame.gas.toNat at given
            have paidChild : launch.context.gasLimit.toNat + 2 ≤ fuel := by omega
            exact inductionHypothesis (.inr paidChild) _ _
          obtain ⟨count, leads⟩ := stepped
          simp only [Bool.false_eq_true, if_false]
          cases result :
              Exec.step environment (environment.runnerWithin fun _ => fuel)
                ⟨frame, simulation⟩ with
          | error error after =>
              rw [result] at leads
              exact ⟨count, leads⟩
          | ok answer after =>
              rw [result] at leads
              have progressed :=
                (Exec.step_progresses leaves frame.gas.toNat).of_ok result (Nat.le_refl _)
              have paidOn : PaidFor fuel after.frame := by
                rcases progressed with spent | ⟨finished, _⟩
                · change after.frame.gas.toNat + 1 ≤ frame.gas.toNat at spent
                  right
                  omega
                · exact .inl ⟨finished, by omega⟩
              obtain ⟨count', leads'⟩ :=
                inductionHypothesis paidOn after.simulation waiting
              exact ⟨_, leads.trans leads'⟩

end CallStack

end LedgerEvm
