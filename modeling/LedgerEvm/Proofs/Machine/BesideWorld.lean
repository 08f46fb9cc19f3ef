import LedgerEvm.Proofs.Machine.CallStack
import LedgerEvm.Proofs.Machine.Evolution

namespace LedgerEvm

/-!
# What frames share beside the world

The frames of a transaction share a world, a trace and a count of steps.  As they act they
change the world and note in the trace what they access in storage.  What depends on neither
is kept by all that instructions, calls and creations do, if the frames they start keep it.
-/

/-- A property of what frames share that does not depend on the world. -/
structure BesideWorld (invariant : Simulation → Prop) : Prop where
  world :
    ∀ {simulation : Simulation} (world : World),
      invariant simulation →
      invariant { simulation with world }

/-- A property that does not depend on the accesses that the trace shows either. -/
structure BesideAccess (invariant : Simulation → Prop) : Prop
    extends BesideWorld invariant where
  recordStorage :
    ∀ {world : World} {trace : Trace} {steps : Nat} (key value : Word),
      invariant ⟨world, trace, steps⟩ →
      invariant ⟨world, trace.recordStorage key value, steps⟩

/-- What the frames share has a property. -/
def Machine.Shares (property : Simulation → Prop) (machine : Machine) : Prop :=
  property machine.simulation

namespace BesideWorld

open SimAction

variable
  {α : Type}
  {invariant : Simulation → Prop}
  (beside : BesideWorld invariant)
include beside

/-! ## Calls and creations -/

theorem keeps_change
    (update : World → Except VmError (α × World)) :
    Keeps invariant (change update) :=
  SimAction.keeps_change fun holds _ => beside.world _ holds

theorem keeps_attempt
    (action : TokenAction α) :
    Keeps invariant (attempt action) := by
  intro simulation holds
  unfold attempt
  cases action simulation.world <;> exact beside.world _ holds

/-- Closing a frame of the world leaves the rest as it is. -/
theorem stateOf_closeFrame
    (keeps : α → Bool)
    {ended : EStateM.Result VmError Simulation α}
    (holds : invariant (stateOf ended)) :
    invariant (stateOf (closeFrame keeps ended)) := by
  cases ended <;> exact beside.world _ holds

theorem keeps_framed
    {keeps : α → Bool}
    {action : SimAction α}
    (kept : Keeps invariant action) :
    Keeps invariant (framed keeps action) := by
  intro simulation holds
  refine Ensures.of_leaves ?_ simulation rfl
  rw [leaves_eq_stateOf, framed_eq]
  exact beside.stateOf_closeFrame keeps (kept.holds_leaves (beside.world _ holds))

theorem keeps_withTransfer
    {next : SimAction Outcome}
    (context : FrameContext)
    (target : Address)
    (kept : Keeps invariant next) :
    Keeps invariant (withTransfer context target next) := by
  intro simulation holds
  unfold withTransfer
  cases simulation.world.transfer context.caller target context.value with
  | ok world => exact kept { simulation with world } (beside.world _ holds)
  | error error =>
      dsimp only
      cases error.isAbort <;> exact holds

theorem keeps_freshAddress
    (creator : Address) :
    Keeps invariant (freshAddress creator) := by
  intro simulation holds
  unfold freshAddress
  cases simulation.world.newContractAddress creator with
  | mk answer world => cases answer <;> exact beside.world _ holds

theorem keeps_deployOutput
    (limits : Limits)
    (address : Address)
    (outcome : Outcome) :
    Keeps invariant (deployOutput limits address outcome) := by
  intro simulation holds
  unfold deployOutput
  cases deploy limits address outcome.output outcome.gas simulation.world with
  | ok deployed => exact beside.world _ holds
  | error error =>
      dsimp only
      cases error.isAbort <;> exact holds

theorem keeps_found
    (creator : Address)
    (context : FrameContext) :
    Keeps invariant (found creator context) := by
  refine (beside.keeps_freshAddress creator).bind fun address => ?_
  refine (beside.keeps_change _).bind fun _ => ?_
  refine (beside.keeps_change _).bind fun _ => ?_
  refine (beside.keeps_change _).bind fun _ => ?_
  exact (beside.keeps_change _).bind fun _ => Keeps.pure _

theorem of_opened?
    {kind : CallKind}
    {context : FrameContext}
    {simulation opened : Simulation}
    (opens : opened? kind context simulation = some opened)
    (holds : invariant simulation) :
    invariant opened := by
  obtain ⟨world, rfl, _⟩ := opened?_cases opens
  exact beside.world _ holds

section Runner

variable
  {environment : Environment}
  {runner : Runner}
  (kept : ∀ context code, Keeps invariant (runner context code))
include kept

theorem keeps_runTarget
    (context : FrameContext) :
    Keeps invariant (runTarget environment runner context) :=
  keeps_runTarget_of_answers (fun _ _ => beside.keeps_attempt _) (kept context)

theorem keeps_messageCall
    (kind : CallKind)
    (context : FrameContext) :
    Keeps invariant (messageCall environment runner kind context) := by
  refine beside.keeps_framed ?_
  split
  · exact beside.keeps_withTransfer _ _ (beside.keeps_runTarget kept context)
  · exact beside.keeps_runTarget kept context

theorem keeps_createContract
    (creator : Address)
    (context : FrameContext)
    (initCode : Bytes) :
    Keeps invariant (createContract environment runner creator context initCode) := by
  refine (beside.keeps_freshAddress creator).bind fun address => ?_
  refine (beside.keeps_change _).bind fun _ => ?_
  refine beside.keeps_framed ((beside.keeps_change _).bind fun _ => ?_)
  refine beside.keeps_withTransfer _ _ ((kept _ initCode).bind fun outcome => ?_)
  split
  · exact beside.keeps_deployOutput _ _ _
  · exact Keeps.pure _

end Runner

/-- What becomes of an ended frame changes at most the world. -/
theorem stateOf_settle
    (limits : Limits)
    (awaited : Awaited)
    {ended : EStateM.Result VmError Simulation Outcome}
    (holds : invariant (stateOf ended)) :
    invariant (stateOf (awaited.settle limits ended)) := by
  cases ended with
  | error error after => cases awaited <;> exact holds
  | ok outcome after =>
      cases awaited with
      | call output => exact holds
      | creation address =>
          simp only [Awaited.settle]
          split
          · exact (beside.keeps_deployOutput limits address outcome).holds_leaves holds
          · exact holds

end BesideWorld

/-- Whatever an action comes to, its cost is amended by the gas that it leaves. -/
theorem Exec.leaves_amending
    (place : Option Nat)
    (gasBefore : UInt64)
    (action : Exec Unit)
    (machine : Machine) :
    leaves (amending place gasBefore action) machine =
      amending.amend place gasBefore (leaves action machine) := by
  unfold leaves amending
  cases action machine <;> rfl

namespace BesideAccess

open Exec

variable
  {invariant : Simulation → Prop}
  {environment : Environment}
  (beside : BesideAccess invariant)
include beside

/-! ## Instructions -/

theorem calm :
    Calm true true false (Machine.Shares invariant) where
  moveWithin _ _ _ holds := holds
  recordStorage := beside.recordStorage
  touch _ holds := beside.world _ holds

/-- Every instruction keeps the property as it acts, if the frames that it starts do. -/
theorem keptBesideLedger
    {runner : Runner}
    (kept : ∀ context code, Keeps invariant (runner context code)) :
    KeptBesideLedger environment runner true true (Machine.Shares invariant) where
  toCalm := beside.calm
  giveBack _ _ holds := holds
  change _ := keeps_onSimulation fun _ => beside.keeps_change _
  messageCall _ _ := keeps_onSimulation fun _ => beside.keeps_messageCall kept _ _
  createContract _ _ _ := keeps_onSimulation fun _ => beside.keeps_createContract kept _ _ _

/-- What has been waited for is taken with the property as it is. -/
theorem keeps_take
    (awaited : Awaited)
    (outcome : Outcome) :
    Keeps (Machine.Shares invariant) (awaited.take outcome) :=
  Awaited.ensures_take beside.calm (fun _ holds => holds) awaited

/-- An instruction hands the property on to the frame that it starts. -/
theorem of_instructionLaunch?
    {place : Option Nat}
    {gasBefore : UInt64}
    {machine : Machine}
    {instruction : Instruction}
    {launch : FrameLaunch}
    (found : instructionLaunch? environment place gasBefore machine instruction = some launch)
    (holds : invariant machine.simulation) :
    invariant launch.simulation := by
  rcases exists_of_instructionLaunch? found with ⟨kind, called⟩ | ⟨_, salted, created⟩
  · obtain ⟨prepared, paid, code, opened, prepares, runs, rfl⟩ := exists_of_callLaunch? called
    obtain ⟨opened', opens, runs⟩ := Option.bind_eq_some_iff.mp runs
    obtain ⟨code', _, runs⟩ := Option.bind_eq_some_iff.mp runs
    cases runs
    have readied : invariant paid.simulation :=
      (beside.calm.prepareCall (fun _ _ => id) environment kind).of_ok prepares holds
    exact beside.of_opened? opens readied
  · obtain ⟨prepared, paid, context, founded, prepares, founds, rfl⟩ :=
      exists_of_creationLaunch? created
    have readied : invariant paid.simulation :=
      (beside.calm.prepareCreation environment salted).of_ok prepares holds
    exact (beside.keeps_found _ _).of_ok founds readied

/-- A frame that goes on has only its own cost amended beside what it does with the world. -/
theorem exists_of_resume
    (limits : Limits)
    (waiting : WaitingFrame)
    {ended : EStateM.Result VmError Simulation Outcome}
    (holds : invariant (stateOf ended)) :
    ∃ machine : Machine,
      invariant machine.simulation ∧
        stateOf (waiting.resume limits ended) =
          amending.amend waiting.place waiting.gasBefore machine := by
  have closed :
      invariant
        (stateOf
          (SimAction.closeFrame Outcome.isSuccess (waiting.awaited.settle limits ended))) :=
    beside.stateOf_closeFrame _ (beside.stateOf_settle limits waiting.awaited holds)
  unfold WaitingFrame.resume
  cases result : SimAction.closeFrame Outcome.isSuccess (waiting.awaited.settle limits ended) with
  | ok outcome after =>
      rw [result] at closed
      refine ⟨leaves (waiting.awaited.take outcome) ⟨waiting.frame, after⟩, ?_, ?_⟩
      · exact (beside.keeps_take waiting.awaited outcome).holds_leaves closed
      · exact leaves_amending _ _ _ _
  | error error after =>
      rw [result] at closed
      exact ⟨⟨waiting.frame, after⟩, closed, rfl⟩

end BesideAccess

/-!
## The count of steps

Steps are counted before an instruction is fetched, and nowhere else: what instructions,
calls and creations do leaves the count as it is.  So the count rises at most by the
instructions that act.
-/

/-- So many steps have been counted. -/
def Simulation.Counted (steps : Nat) (simulation : Simulation) : Prop :=
  simulation.steps = steps

/-- So many steps have been counted. -/
def Machine.Counted (steps : Nat) (machine : Machine) : Prop :=
  machine.simulation.Counted steps

/-- Neither the world nor the trace tells how many steps have been counted. -/
theorem Simulation.besideAccess_counted
    (steps : Nat) :
    BesideAccess (Simulation.Counted steps) where
  world _ counted := counted
  recordStorage _ _ counted := counted

namespace Exec

variable
  {steps : Nat}
  {environment : Environment}

theorem quiet_counted
    (steps : Nat) :
    Quiet false (Machine.Counted steps) where
  move _ counted := counted
  trace _ counted := counted
  touch _ counted := counted

/-! ### Steps -/

/-- At most one step is counted before an instruction acts. -/
theorem counted_begin :
    Ensures (Machine.Counted steps) (begin environment)
      (fun _ => Machine.Counted (steps + 1))
      (fun _ machine => machine.simulation.steps ≤ steps + 1) := by
  have counts :
      Ensures (Machine.Counted steps) (countStep environment)
        (fun _ => Machine.Counted (steps + 1))
        (fun _ machine => machine.simulation.steps ≤ steps + 1) := by
    rintro ⟨frame, ⟨world, trace, count⟩⟩ rfl
    simp only [countStep]
    by_cases cancelled : environment.cancelled.isSeenAt count = true
    · simp only [if_pos cancelled]
      exact Nat.le_succ _
    · by_cases late : environment.deadline.maxSteps ≤ count
      · simp only [if_neg cancelled, if_pos late]
        exact Nat.le_refl _
      · simp only [if_neg cancelled, if_neg late]
        exact rfl
  have quiet := quiet_counted (steps + 1)
  have rest :
      ∀ instruction : Instruction,
        Keeps (Machine.Counted (steps + 1)) (do
          let gasBefore := (← frame).gas
          let place ← recordStep instruction
          charge instruction.staticCost
          advance
          return (instruction, place, gasBefore)) := by
    intro instruction
    refine keeps_frame.bind fun frame => ?_
    refine Keeps.bind (fun _ counted => counted) fun place => ?_
    refine (quiet.charge _).bind fun _ => ?_
    exact (quiet.updateFrame fun frame => .advance frame 1).bind fun _ => Keeps.pure _
  refine Ensures.bind counts fun _ => ?_
  have goesOn := (keeps_fetch environment).bind rest
  exact goesOn.imp_failed fun _ _ counted => Nat.le_of_eq counted

/-- At most one step is counted in a step that starts no frame. -/
theorem counted_step
    {runner : Runner}
    (kept : ∀ steps context code, Keeps (Simulation.Counted steps) (runner context code)) :
    Ensures (Machine.Counted steps) (step environment runner)
      (fun _ machine => machine.simulation.steps ≤ steps + 1)
      (fun _ machine => machine.simulation.steps ≤ steps + 1) := by
  rw [step_eq]
  refine Ensures.bind counted_begin fun begun => ?_
  have acts :
      Keeps (Machine.Counted (steps + 1)) (execute environment runner begun.1) :=
    ((Simulation.besideAccess_counted (steps + 1)).keptBesideLedger
      (kept (steps + 1))).execute (fun _ => rfl) fun _ => rfl
  have amended :=
    ensures_amending begun.2.1 begun.2.2 acts (fun _ counted => counted)
      fun _ counted => counted
  exact amended.imp (fun _ => id) (fun _ _ => Nat.le_of_eq) fun _ _ => Nat.le_of_eq

/-- A frame starts with the count of the step that starts it. -/
theorem counted_launch?
    {machine : Machine}
    {launch : FrameLaunch}
    (found : launch? environment machine = some launch) :
    launch.simulation.steps = machine.simulation.steps + 1 := by
  obtain ⟨instruction, place, gasBefore, ready, begun, found⟩ := exists_of_launch? found
  have counted : ready.simulation.steps = machine.simulation.steps + 1 :=
    counted_begin.of_ok begun rfl
  exact (Simulation.besideAccess_counted _).of_instructionLaunch? found counted

end Exec

/-! ### Moves -/

namespace CallStack

/-- The steps that have been counted. -/
def steps (stack : CallStack) : Nat :=
  stack.active.simulation.steps

theorem steps_ofResult
    (result : EStateM.Result VmError Machine Unit) :
    (ActiveFrame.ofResult result).simulation.steps = (stateOf result).simulation.steps := by
  cases result with
  | ok answer after => rfl
  | error error after =>
      simp only [ActiveFrame.ofResult, Frame.failWith]
      cases error.isAbort <;> rfl

theorem steps_ended
    (ended : EStateM.Result VmError Simulation Outcome) :
    (ActiveFrame.ended ended).simulation.steps = (stateOf ended).steps := by
  cases ended <;> rfl

/-- Nothing is counted while a frame that has ended hands on how. -/
theorem steps_resume
    (limits : Limits)
    (waiting : WaitingFrame)
    (ended : EStateM.Result VmError Simulation Outcome) :
    (ActiveFrame.ofResult (waiting.resume limits ended)).simulation.steps =
      (ActiveFrame.ended ended).simulation.steps := by
  have begun : (stateOf ended).Counted (stateOf ended).steps := rfl
  obtain ⟨machine, counted, resumed⟩ :=
    (Simulation.besideAccess_counted _).exists_of_resume limits waiting begun
  rw [steps_ofResult, steps_ended, resumed]
  exact counted

/-- The count rises at most by the instructions that act. -/
theorem steps_moves
    {environment : Environment}
    {before after : CallStack}
    (move : Moves environment before after) :
    after.steps ≤ before.steps + before.instructions := by
  have one
      {machine : Machine}
      (waiting : List WaitingFrame)
      (runs : machine.frame.isOver = false) :
      instructions ⟨.running machine, waiting⟩ = 1 := by
    simp only [instructions, ActiveFrame.executes, runs, Bool.not_false, if_true]
  cases move.moved with
  | handOn => exact Nat.le_of_eq (steps_resume environment.limits _ _)
  | close finished => exact Nat.le_add_right _ _
  | @launch machine waiting launch runs found =>
      rw [one waiting runs]
      exact Nat.le_of_eq (Exec.counted_launch? found)
  | @act machine waiting runs =>
      rw [one waiting runs]
      change (ActiveFrame.ofResult _).simulation.steps ≤ _
      rw [steps_ofResult, ← leaves_eq_stateOf]
      have idle :
          ∀ steps context code,
            Keeps (Simulation.Counted steps) (Runner.idle context code) :=
        fun _ _ _ => Keeps.throw _
      exact (Exec.counted_step idle).holds_leaves rfl

theorem Leads.steps_le
    {environment : Environment}
    {count : Nat}
    {before after : CallStack}
    (leads : Leads (Moves environment) count before after) :
    after.steps ≤ before.steps + count := by
  induction leads with
  | stay stack => exact Nat.le_refl _
  | go move leads inductionHypothesis =>
      have counted := steps_moves move
      omega

end CallStack

end LedgerEvm
