import LedgerEvm.Proofs.Machine.BesideWorld
import LedgerEvm.Proofs.Machine.FrameInvariants
import LedgerEvm.Proofs.Machine.Termination
import LedgerEvm.Proofs.Machine.WorldInvariants

namespace LedgerEvm

/-!
# The frames of a run

A transaction begins with the stack of its first frame, and what it comes to is what that
stack leads to.
-/

open World (AtEachLevel)

/-! ## First frames -/

namespace Environment

open CallStack (first Leads Moves)

variable
  {environment : Environment}
  {context : FrameContext}
  {isCreation : Bool}
  {entered : Simulation}

/-- The frames of a transaction as its first frame begins, when that gets to run code. -/
def firstStack?
    (environment : Environment)
    (context : FrameContext)
    (isCreation : Bool)
    (simulation : Simulation) :
    Option CallStack :=
  if isCreation then
    match SimAction.found context.origin { context with data := [] } simulation with
    | .ok context' founded => some (first environment.limits context' context.data founded)
    | .error _ _ => none
  else
    match SimAction.callLaunch? .call context simulation with
    | some (code, opened) => some (first environment.limits context code opened)
    | none => none

/-- A first frame whose code is run by another runner. -/
def firstFrameBy
    (environment : Environment)
    (runner : Runner)
    (context : FrameContext)
    (isCreation : Bool) :
    SimAction Outcome :=
  if isCreation then
    SimAction.createContract environment runner context.origin { context with data := [] }
      context.data
  else
    SimAction.messageCall environment runner .call context

/-- A first frame comes to what its code comes to, whoever runs that. -/
theorem exists_firstFrameBy_eq
    {start : CallStack}
    (begins : environment.firstStack? context isCreation entered = some start) :
    ∃ context' code opened, ∃ awaited : Awaited,
      start = .first environment.limits context' code opened ∧
        ∀ runner,
          environment.firstFrameBy runner context isCreation entered =
            SimAction.closeFrame Outcome.isSuccess
              (awaited.settle environment.limits (runner context' code opened)) := by
  unfold firstStack? at begins
  cases isCreation with
  | true =>
      simp only [if_true] at begins
      split at begins
      · rename_i context' founded founds
        cases begins
        exact ⟨context', context.data, founded, .creation context'.address, rfl, fun runner =>
          SimAction.createContract_of_found founds runner context.data⟩
      · cases begins
  | false =>
      simp only [Bool.false_eq_true, if_false] at begins
      split at begins
      · rename_i code opened launches
        cases begins
        refine ⟨context, code, opened, .call ⟨0, 0⟩, rfl, fun runner => ?_⟩
        refine (SimAction.messageCall_of_callLaunch? launches runner).trans ?_
        cases runner context code opened <;> rfl
      · cases begins

/-- Where no frame is started, nothing is run. -/
theorem firstFrameBy_of_no_frame
    (noFrame : environment.firstStack? context isCreation entered = none)
    (runner other : Runner) :
    environment.firstFrameBy runner context isCreation entered =
      environment.firstFrameBy other context isCreation entered := by
  unfold firstStack? at noFrame
  cases isCreation with
  | true =>
      simp only [if_true] at noFrame
      split at noFrame
      · cases noFrame
      · rename_i failed
        exact SimAction.createContract_of_not_found failed runner other context.data
  | false =>
      simp only [Bool.false_eq_true, if_false] at noFrame
      split at noFrame
      · cases noFrame
      · rename_i noLaunch
        exact SimAction.messageCall_of_no_launch noLaunch runner other

/-- A transaction that has enough gas to begin settles what its first frame comes to. -/
theorem exists_of_transact
    {world : World}
    {trace : Trace}
    {result : CallResult}
    (done : environment.transact context isCreation world trace = .ok result) :
    context.gasLimit < Gas.intrinsic context.data isCreation ∧
        result = CallResult.halted .insufficientGas context.gasLimit ∨
      ∃ outcome after,
        environment.firstFrame
            { context with gasLimit := context.gasLimit - Gas.intrinsic context.data isCreation }
            isCreation { world := warmed context isCreation world, trace } =
          .ok outcome after ∧
        result = { settle context.gasLimit outcome with steps := after.trace.steps.toList } := by
  unfold transact at done
  dsimp only at done
  split at done
  · rename_i short
    cases done
    exact .inl ⟨short, rfl⟩
  · split at done
    · rename_i outcome after ran
      cases done
      exact .inr ⟨outcome, after, ran, rfl⟩
    · cases done

theorem success_settle
    (gasLimit : UInt64)
    (outcome : Outcome) :
    (settle gasLimit outcome).success = outcome.isSuccess := by
  obtain ⟨status, output, gas, refund, logs, created⟩ := outcome
  cases status with
  | completed => rfl
  | reverted => rfl
  | halted error =>
      unfold settle
      dsimp only
      split <;> rfl

/-- The first frame comes to what its run leads to, unless no frame is started. -/
theorem exists_of_firstFrame
    {outcome : Outcome}
    {after : Simulation}
    (ran : environment.firstFrame context isCreation entered = .ok outcome after) :
    environment.firstStack? context isCreation entered = none ∧
        environment.firstFrameBy Runner.idle context isCreation entered = .ok outcome after ∨
      ∃ context' code opened count ended, ∃ awaited : Awaited,
        environment.firstStack? context isCreation entered =
            some (first environment.limits context' code opened) ∧
          Leads (Moves environment) count (first environment.limits context' code opened)
            ⟨.ended ended, []⟩ ∧
          SimAction.closeFrame Outcome.isSuccess (awaited.settle environment.limits ended) =
            .ok outcome after := by
  change environment.firstFrameBy environment.runner context isCreation entered = _ at ran
  cases begins : environment.firstStack? context isCreation entered with
  | none =>
      rw [firstFrameBy_of_no_frame begins environment.runner Runner.idle] at ran
      exact .inl ⟨rfl, ran⟩
  | some start =>
      obtain ⟨context', code, opened, awaited, rfl, settles⟩ := exists_firstFrameBy_eq begins
      obtain ⟨count, _, leads⟩ := environment.leads_runner context' code opened
      exact
        .inr ⟨context', code, opened, count, _, awaited, rfl, leads, (settles _).symm.trans ran⟩

/-- Frames of the world do not change the trace. -/
theorem besideWorld_trace
    (trace : Trace) :
    BesideWorld fun simulation => simulation.trace = trace where
  world _ same := same

/-- The first frame begins with what does not depend on the world as it was. -/
theorem exists_of_firstStack?_beside
    {invariant : Simulation → Prop}
    {entered : Simulation}
    {start : CallStack}
    (beside : BesideWorld invariant)
    (holds : invariant entered)
    (begins : environment.firstStack? context isCreation entered = some start) :
    ∃ context' code opened,
      start = .first environment.limits context' code opened ∧ invariant opened := by
  unfold firstStack? at begins
  cases isCreation with
  | true =>
      simp only [if_true] at begins
      split at begins
      · rename_i founds
        cases begins
        exact ⟨_, _, _, rfl, (beside.keeps_found _ _).of_ok founds holds⟩
      · cases begins
  | false =>
      simp only [Bool.false_eq_true, if_false] at begins
      split at begins
      · rename_i launches
        cases begins
        obtain ⟨opened, opens, launches⟩ := Option.bind_eq_some_iff.mp launches
        obtain ⟨code, _, launches⟩ := Option.bind_eq_some_iff.mp launches
        cases launches
        exact ⟨_, _, _, rfl, beside.of_opened? opens holds⟩
      · cases begins

/-- Where no frame is started nothing is recorded, and else what the first frame leaves is shown. -/
theorem steps_of_transact
    {world : World}
    {trace : Trace}
    {result : CallResult}
    (empty : trace.steps = #[])
    (done : environment.transact context isCreation world trace = .ok result) :
    let paid :=
      { context with gasLimit := context.gasLimit - Gas.intrinsic context.data isCreation }
    let entered : Simulation := { world := warmed context isCreation world, trace }
    result.steps = [] ∨
      ∃ start count ended,
        environment.firstStack? paid isCreation entered = some start ∧
          Leads (Moves environment) count start ⟨.ended ended, []⟩ ∧
          result.steps = (stateOf ended).trace.steps.toList := by
  intro paid entered
  rcases exists_of_transact done with ⟨_, rfl⟩ | ⟨outcome, after, ran, rfl⟩
  · exact .inl rfl
  rcases exists_of_firstFrame ran with
    ⟨_, ran⟩ | ⟨context', code, opened, count, ended, awaited, begins, leads, closes⟩
  · have kept :
        Keeps (fun simulation => simulation.trace = trace)
          (environment.firstFrameBy Runner.idle paid isCreation) := by
      unfold firstFrameBy
      split
      · exact (besideWorld_trace trace).keeps_createContract (fun _ _ => Keeps.throw _) _ _ _
      · exact (besideWorld_trace trace).keeps_messageCall (fun _ _ => Keeps.throw _) _ _
    left
    change after.trace.steps.toList = []
    rw [kept.of_ok ran rfl, empty]
  · refine .inr ⟨_, count, ended, begins, leads, ?_⟩
    have beside := besideWorld_trace (stateOf ended).trace
    have closed :=
      beside.stateOf_closeFrame Outcome.isSuccess
        (beside.stateOf_settle environment.limits awaited rfl)
    rw [closes] at closed
    exact congrArg (fun trace => trace.steps.toList) closed

end Environment

namespace CallStack

/-- The active frame runs, and with the frames that wait it passes a check. -/
def passes (check : Machine → List WaitingFrame → Bool) : CallStack → Bool
  | ⟨.running machine, waiting⟩ => check machine waiting
  | ⟨.ended _, _⟩ => false

variable {environment : Environment}

/-- The first frame of a transaction begins, with the code that answers it or with init code. -/
inductive Begins
    (environment : Environment)
    (context : FrameContext)
    (world : World)
    (trace : Trace) :
    CallStack → Prop where
  | call
      {code : Bytes} {opened : Simulation}
      (launches :
        SimAction.callLaunch? .call context
            { world := Environment.warmed context false world, trace } =
          some (code, opened)) :
      Begins environment context world trace (first environment.limits context code opened)
  | creation
      {context' : FrameContext} {founded : Simulation}
      (founds :
        SimAction.found context.origin { context with data := [] }
            { world := Environment.warmed context true world, trace } =
          .ok context' founded) :
      Begins environment context world trace
        (first environment.limits context' context.data founded)

/-- A call whose moves can be computed begins, and leads to where they come to. -/
theorem exists_run_of_advance
    {environment : Environment}
    {context : FrameContext}
    {world : World}
    {isAllowed check : CallStack → Bool}
    (count : Nat)
    (runs :
      ((SimAction.callLaunch? .call context
          { world := Environment.warmed context false world }).bind fun launch =>
        advance environment isAllowed count
          (first environment.limits context launch.1 launch.2)).any check = true) :
    ∃ start instructions stack,
      start.Begins environment context world Trace.off ∧
        Leads (fun before after => Moves environment before after ∧ isAllowed before = true)
          instructions start stack ∧
        check stack = true := by
  obtain ⟨stack, reached, checked⟩ := (Option.any_eq_true _ _).mp runs
  obtain ⟨launch, launches, reached⟩ := Option.bind_eq_some_iff.mp reached
  obtain ⟨instructions, leads⟩ := leads_of_advance reached
  exact ⟨_, instructions, stack, .call launches, leads, checked⟩

/-- So does a call that is computed up to a moment when its active frame runs. -/
theorem exists_running_of_advance
    {environment : Environment}
    {context : FrameContext}
    {world : World}
    {check : Machine → List WaitingFrame → Bool}
    (count : Nat)
    (runs :
      ((SimAction.callLaunch? .call context
          { world := Environment.warmed context false world }).bind fun launch =>
        advance environment (fun _ => true) count
          (first environment.limits context launch.1 launch.2)).any
        (fun stack => stack.passes check) = true) :
    ∃ start instructions machine waiting,
      start.Begins environment context world Trace.off ∧
        Leads (Moves environment) instructions start ⟨.running machine, waiting⟩ ∧
        check machine waiting = true := by
  obtain ⟨start, instructions, ⟨active, waiting⟩, begins, leads, checked⟩ :=
    exists_run_of_advance count runs
  cases active with
  | ended result => cases checked
  | running machine =>
      exact ⟨start, instructions, machine, waiting, begins, leads.imp fun move => move.1, checked⟩

end CallStack

namespace World

variable
  {mayFound : Address → Prop}
  {invariant : World → Prop}
  {environment : Environment}
  {context : FrameContext}

/-- What holds where a transaction enters holds in the stack of its first frame. -/
theorem KeptByCode.begins
    {rule : SelfDestructRule}
    (kept : KeptByCode rule mayFound invariant)
    {world : World}
    {trace : Trace}
    {start : CallStack}
    (begins : start.Begins environment context world trace)
    (entered : ∀ isCreation, invariant (Environment.warmed context isCreation world)) :
    start.Holds mayFound invariant := by
  have outermost (isCreation : Bool) :
      AtEachLevel invariant 0 (Environment.warmed context isCreation world) :=
    .outermost (entered isCreation)
  cases begins with
  | call launches =>
      exact ⟨.outermost (kept.callLaunch? (outermost false) launches).holds, nofun⟩
  | creation founds =>
      exact ⟨.outermost (kept.found (outermost true) founds).1.holds, nofun⟩

/-- The first frame keeps what all of a run keeps. -/
theorem KeptByRuns.firstFrame
    (kept : KeptByRuns environment.rules.selfDestruct mayFound invariant)
    (context : FrameContext)
    (isCreation : Bool) :
    Keeps (fun simulation => invariant simulation.world)
      (environment.firstFrame context isCreation) := by
  unfold Environment.firstFrame
  split
  · exact kept.createContract (kept.runnerWithin _) _ _ _
  · exact kept.messageCall kept.answer (kept.runnerWithin _) _ _

end World

/-!
## Where the frames of a run come from

The first frame of a run has been there from the start.  Every other one has been started by an
instruction of the frame that now waits for it, at an earlier moment of the run, and has kept
the context and the program it was started with.
-/

namespace Frame

/-- The frame serves this call with this program. -/
def Serves (context : FrameContext) (program : Program) (frame : Frame) : Prop :=
  frame.context = context ∧ frame.program = program

/-- No frame ever serves another call, or with another program. -/
theorem Serves.keptWithin
    (context : FrameContext)
    (program : Program) :
    KeptWithin true true (Serves context program) where
  move moved _ _ serves := ⟨moved.context_eq.trans serves.1, moved.program_eq.trans serves.2⟩
  gas _ serves := serves

end Frame

/-- The frame serves the call that the launch was made for. -/
def FrameLaunch.IsServedBy (launch : FrameLaunch) (frame : Frame) : Prop :=
  frame.Serves launch.context (Program.ofBytes launch.code)

namespace CallStack

variable
  {environment : Environment}
  {start before after stack : CallStack}
  {first : Machine}
  {frame : Frame}
  {waiting : List WaitingFrame}

/--
Where a frame and those that wait for it come from: the lowest is the first one, and each other
one was started by the one below it.
-/
inductive Descends (environment : Environment) (start : CallStack) :
    Frame → List WaitingFrame → Prop where
  /-- The frame is the first one. -/
  | first
      {first : Machine} {frame : Frame}
      (begins : start = ⟨.running first, []⟩)
      (serves : frame.Serves first.frame.context first.frame.program) :
      Descends environment start frame []
  /-- The frame was started by the one that waits for it. -/
  | started
      {starter : Machine} {launch : FrameLaunch} {count : Nat}
      {frame : Frame} {waiting : List WaitingFrame}
      (reached : Leads (Moves environment) count start ⟨.running starter, waiting⟩)
      (runs : starter.frame.isOver = false)
      (found : Exec.launch? environment starter = some launch)
      (serves : launch.IsServedBy frame)
      (below : Descends environment start launch.waiting.frame waiting) :
      Descends environment start frame (launch.waiting :: waiting)

namespace Descends

/-- Where a frame comes from shows in what it serves. -/
theorem congr
    {frame' : Frame}
    (descends : Descends environment start frame waiting)
    (same : frame'.Serves frame.context frame.program) :
    Descends environment start frame' waiting := by
  cases descends with
  | first begins serves =>
      exact .first begins ⟨same.1.trans serves.1, same.2.trans serves.2⟩
  | started reached runs found serves below =>
      exact .started reached runs found ⟨same.1.trans serves.1, same.2.trans serves.2⟩ below

end Descends

/-- Where the frames of a stack that have not ended come from. -/
def HasDescent (environment : Environment) (start : CallStack) : CallStack → Prop
  | ⟨.running machine, waiting⟩ => Descends environment start machine.frame waiting
  | ⟨.ended _, []⟩ => True
  | ⟨.ended _, frame :: waiting⟩ => Descends environment start frame.frame waiting

theorem hasDescent_ended
    {result : EStateM.Result VmError Simulation Outcome}
    (descends : Descends environment start frame waiting) :
    HasDescent environment start ⟨.ended result, waiting⟩ := by
  cases descends with
  | first => exact trivial
  | started _ _ _ _ below => exact below

/-- A frame that has done something comes from where it came from. -/
theorem hasDescent_ofResult
    {result : EStateM.Result VmError Machine Unit}
    (descends : Descends environment start frame waiting)
    (serves :
      ∀ {after : Machine},
        result = .ok () after → after.frame.Serves frame.context frame.program) :
    HasDescent environment start ⟨.ofResult result, waiting⟩ := by
  cases result with
  | ok answer after => exact descends.congr (serves rfl)
  | error error after => exact hasDescent_ended descends

/-- A move keeps where the frames come from, and adds the frame that it starts. -/
theorem hasDescent_moves
    {count : Nat}
    (reached : Leads (Moves environment) count start before)
    (move : Moves environment before after)
    (descent : HasDescent environment start before) :
    HasDescent environment start after := by
  cases move.moved with
  | close finished => exact hasDescent_ended descent
  | @launch machine waiting launch runs found =>
      have waits :=
        (Frame.Serves.keptWithin machine.frame.context machine.frame.program).waiting found
          ⟨rfl, rfl⟩
      exact .started reached runs found ⟨rfl, rfl⟩ (Descends.congr descent waits)
  | @act machine waiting runs =>
      have acts : KeptByInstructions environment Runner.idle false _ :=
        (Frame.Serves.keptWithin machine.frame.context
          machine.frame.program).keptByInstructions Runner.idle
      exact hasDescent_ofResult descent fun result => acts.step.of_ok result ⟨rfl, rfl⟩
  | @handOn result frame waiting =>
      exact hasDescent_ofResult descent fun resumed =>
        (Frame.Serves.keptWithin frame.frame.context frame.frame.program).resume
          environment.limits result ⟨rfl, rfl⟩ resumed

/-- All along a run it is known where its frames come from. -/
theorem hasDescent_of_leads
    {count : Nat}
    (begins : start = ⟨.running first, []⟩)
    (leads : Leads (Moves environment) count start stack) :
    HasDescent environment start stack := by
  let followed (stack : CallStack) : Prop :=
    ∃ count, Leads (Moves environment) count start stack ∧ HasDescent environment start stack
  have kept
      {before after : CallStack}
      (move : Moves environment before after) :
      followed before → followed after := by
    rintro ⟨count, reached, descent⟩
    exact ⟨_, reached.trans (.one move), hasDescent_moves reached move descent⟩
  have initial : followed start := by
    refine ⟨_, .stay start, ?_⟩
    subst begins
    exact .first rfl ⟨rfl, rfl⟩
  obtain ⟨_, _, descent⟩ := @Leads.keeps _ _ _ _ followed leads kept initial
  exact descent

end CallStack

end LedgerEvm
