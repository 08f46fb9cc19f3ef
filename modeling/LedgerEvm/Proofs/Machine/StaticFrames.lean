import LedgerEvm.Proofs.Ledger.Evolution
import LedgerEvm.Proofs.Ledger.Slots
import LedgerEvm.Proofs.Machine.FrameInvariants
import LedgerEvm.Proofs.Machine.BesideWorld

namespace LedgerEvm

/-!
# Static frames

A static frame changes nothing: it marks what it accesses, leaves no logs and earns no refund.  The frames
that it starts are static too, in whatever way they are called, and so it is at every moment
between its start and its end.
-/

open World (AtEachLevel Evolves KeptByEnds OnlyWarmed SameBelow)

/-! ## Outcomes -/

namespace SimAction

/-- Whenever the action has an outcome, that has a property. -/
def Answers (property : Outcome → Prop) (action : SimAction Outcome) : Prop :=
  Yields (fun _ => True) action fun outcome _ => property outcome

namespace Answers

variable {α : Type} {property : Outcome → Prop}

theorem pure
    {outcome : Outcome}
    (holds : property outcome) :
    Answers property (Pure.pure outcome) :=
  fun _ _ => holds

theorem throw
    (error : VmError) :
    Answers property (throwThe VmError error) :=
  fun _ _ => trivial

theorem bind
    {first : SimAction α}
    {next : α → SimAction Outcome}
    (goesOn : ∀ answer, Answers property (next answer)) :
    Answers property (first >>= next) :=
  (Yields.trivially first).bind goesOn

theorem framed
    {action : SimAction Outcome}
    (keeps : Outcome → Bool)
    (answers : Answers property action) :
    Answers property (framed keeps action) := by
  intro simulation _
  have inside := answers { simulation with world := simulation.world.push } trivial
  unfold SimAction.framed
  cases result : action { simulation with world := simulation.world.push } with
  | ok outcome inner =>
      rw [result] at inside
      exact inside
  | error error inner => trivial

theorem withTransfer
    {context : FrameContext}
    {next : SimAction Outcome}
    (halts : ∀ error, property (Outcome.halted error context.gasLimit))
    (target : Address)
    (answers : Answers property next) :
    Answers property (withTransfer context target next) := by
  intro simulation _
  unfold SimAction.withTransfer
  cases simulation.world.transfer context.caller target context.value with
  | ok world => exact answers { simulation with world } trivial
  | error error =>
      dsimp only
      cases error.isAbort with
      | true => trivial
      | false => exact halts error

end Answers

/-- Whenever the action has an outcome, that is bare. -/
def LeavesBare : SimAction Outcome → Prop :=
  Answers Outcome.IsBare

theorem LeavesBare.answered
    (result : Except PrecompileError (UInt64 × Bytes))
    (gasLimit : UInt64) :
    LeavesBare (answered result gasLimit) := by
  unfold SimAction.answered
  split
  · exact .pure ⟨rfl, rfl⟩
  · split
    · exact .pure ⟨rfl, rfl⟩
    · split
      · exact .throw _
      · exact .pure ⟨rfl, rfl⟩

end SimAction

/-- A runner that in static frames only marks what it accesses, and leaves bare outcomes. -/
structure Runner.LeavesStatic (runner : Runner) : Prop where
  evolving : runner.Evolving
  bare :
    ∀ {context : FrameContext} (code : Bytes),
      context.isStatic = true →
      SimAction.LeavesBare (runner context code)

namespace SimAction.LeavesBare

variable
  {environment : Environment}
  {runner : Runner}
  {context : FrameContext}
  (runs : ∀ code, LeavesBare (runner context code))
include runs

theorem runTarget :
    LeavesBare (runTarget environment runner context) := by
  unfold SimAction.runTarget
  dsimp only
  split
  · exact answered _ _
  · split
    · exact .bind fun _ => answered _ _
    · split
      · exact answered _ _
      · split
        · exact answered _ _
        · refine .bind fun isToken => ?_
          split
          · exact .bind fun _ => answered _ _
          · refine .bind fun code => ?_
            split
            · exact .pure ⟨rfl, rfl⟩
            · exact runs code

theorem messageCall
    (kind : CallKind) :
    LeavesBare (messageCall environment runner kind context) := by
  refine .framed _ ?_
  split
  · exact .withTransfer (fun _ => ⟨rfl, rfl⟩) _ (runTarget runs)
  · exact runTarget runs

end SimAction.LeavesBare

/-! ## Instructions -/

/-- A frame that is static and has left no logs and earned no refund. -/
structure Frame.IsStill (frame : Frame) : Prop where
  isStatic : frame.context.isStatic = true
  noLogs : frame.logs = #[]
  noRefund : frame.refund = 0

/-- A still frame in a world that has evolved as static frames let it. -/
structure Machine.IsStill (start : World) (machine : Machine) : Prop where
  evolved : Evolves true start machine.simulation.world
  frame : machine.frame.IsStill

namespace Machine.IsStill

variable {start : World}

theorem of_frame
    {machine : Machine}
    (still : machine.frame.IsStill) :
    machine.IsStill machine.simulation.world :=
  ⟨.refl _, still⟩

theorem quiet
    (start : World) :
    Quiet true (Machine.IsStill start) where
  move move still := by
    refine ⟨still.evolved, ?_, ?_, ?_⟩
    · rw [move.context_eq]
      exact still.frame.isStatic
    · rw [move.logs_eq]
      exact still.frame.noLogs
    · rw [move.refund_eq]
      exact still.frame.noRefund
  trace _ still := ⟨still.evolved, still.frame⟩
  touch move still := ⟨still.evolved.move move, still.frame⟩

theorem giveBack
    (gas : UInt64) :
    Keeps (Machine.IsStill start) (Exec.giveBack gas) :=
  fun _ still =>
    ⟨still.evolved, still.frame.isStatic, still.frame.noLogs, still.frame.noRefund⟩

/-- What a still frame prepares is the call of a static frame that sends nothing along. -/
theorem ensures_prepareCall
    (start : World)
    (environment : Environment)
    (kind : CallKind) :
    Ensures (Machine.IsStill start) (Exec.prepareCall environment kind)
      (fun launch? machine =>
        machine.IsStill start ∧
          ∀ launch, launch? = some launch → Exec.MayCall true kind launch.context)
      (fun _ => Machine.IsStill start) := by
  have evolves :
      Ensures (Machine.Evolved true start) (Exec.prepareCall environment kind)
        (fun launch? machine =>
          machine.Evolved true start ∧
            ∀ launch, launch? = some launch → Exec.MayCall true kind launch.context)
        (fun _ => Machine.Evolved true start) :=
    Exec.ensures_prepareCall_evolved environment kind
  refine (evolves.and ((quiet start).prepareCall giveBack environment kind)).imp
    (fun machine still => ?_) (fun _ _ holds => ?_) fun _ _ holds => holds.2
  · exact ⟨⟨still.evolved, fun _ => still.frame.isStatic⟩, still⟩
  · exact ⟨holds.2, holds.1.2⟩

theorem takeOutcome
    {outcome : Outcome}
    (bare : outcome.IsBare)
    (offset size : Nat) :
    Keeps (Machine.IsStill start) (Exec.takeOutcome outcome offset size) :=
  (quiet start).ensures_takeOutcome (fun _ => bare) (giveBack _) offset size

section

variable
  {environment : Environment}
  {runner : Runner}
  (static : runner.LeavesStatic)
include static

/-- A call of a still frame leaves the frame still. -/
theorem call
    (kind : CallKind) :
    Keeps (Machine.IsStill start) (Exec.call environment runner kind) := by
  refine Ensures.bind (ensures_prepareCall start environment kind) fun launch? => ?_
  refine Ensures.of_fact fun launched => ?_
  cases launch? with
  | none =>
      exact (quiet start).push 0
  | some launch =>
      obtain ⟨inStatic, noValue⟩ := launched launch rfl
      have called :
          Ensures (Machine.IsStill start)
            (Exec.onSimulation
              (SimAction.messageCall environment runner kind launch.context))
            (fun outcome machine => machine.IsStill start ∧ outcome.IsBare)
            (fun _ => Machine.IsStill start) := by
        refine Exec.ensures_onSimulation fun frame => ?_
        have evolves :
            Keeps (Simulation.Evolved true start)
              (SimAction.messageCall environment runner kind launch.context) :=
          SimAction.keeps_messageCall static.evolving inStatic noValue start
        have bare :
            SimAction.LeavesBare
              (SimAction.messageCall environment runner kind launch.context) :=
          .messageCall (fun code => static.bare code (inStatic rfl)) kind
        refine ((evolves.and (Keeps.fact frame.IsStill _)).and bare).imp
          (fun _ still => ⟨⟨still.evolved, still.frame⟩, trivial⟩)
          (fun _ _ holds => ⟨⟨holds.1.1, holds.1.2⟩, holds.2⟩)
          fun _ _ holds => ⟨holds.1.1, holds.1.2⟩
      refine Ensures.bind called fun outcome => ?_
      exact Ensures.of_fact fun bare => takeOutcome bare _ _

/-- A still frame stays still whatever its instructions do. -/
theorem keptByInstructions
    (start : World) :
    KeptByInstructions environment runner true (Machine.IsStill start) where
  toQuiet := quiet start
  setStorage mayWrite := nomatch mayWrite
  setTransient mayWrite := nomatch mayWrite
  selfDestruct mayWrite := nomatch mayWrite
  create mayWrite := nomatch mayWrite
  call kind := call static kind
  static still _ := still.frame.isStatic
  count still := ⟨still.evolved, still.frame⟩

end

end Machine.IsStill

/-! ## Runs -/

theorem Runner.idle_leavesStatic :
    Runner.idle.LeavesStatic where
  evolving _ _ _ _ _ := Keeps.throw _
  bare _ _ _ _ := trivial

namespace Frame

theorem leavesBare_failWith
    (error : VmError)
    (gas : UInt64) :
    SimAction.LeavesBare (failWith error gas) := by
  intro simulation _
  unfold failWith
  cases error.isAbort with
  | true => trivial
  | false => exact ⟨rfl, rfl⟩

theorem IsStill.isBare_outcome
    {frame : Frame}
    (still : frame.IsStill) :
    frame.outcome.IsBare := by
  unfold outcome
  split
  · exact ⟨rfl, rfl⟩
  · exact ⟨still.noLogs, still.noRefund⟩

/-- However long a still frame runs, its outcome is bare. -/
theorem IsStill.leavesBare_run
    (environment : Environment)
    (fuel : Nat)
    {frame : Frame}
    (still : frame.IsStill) :
    SimAction.LeavesBare (run environment fuel frame) := by
  -- the bound of a frame also bounds the frames it starts, so one hypothesis serves both
  induction fuel generalizing frame with
  | zero =>
      exact fun _ _ => trivial
  | succ fuel inductionHypothesis =>
      have static : (environment.runnerWithin fun _ => fuel).LeavesStatic :=
        ⟨environment.evolving_runnerWithin _, fun code inStatic =>
          inductionHypothesis ⟨inStatic, rfl, rfl⟩⟩
      intro simulation _
      have ran :
          Ensures (fun simulation' => Machine.IsStill simulation.world ⟨frame, simulation'⟩)
            (run environment (fuel + 1) frame) (fun outcome _ => outcome.IsBare)
            (fun _ _ => True) := by
        refine ensures_run_succ ?_
          (Machine.IsStill.keptByInstructions static simulation.world).step ?_ ?_ frame
        · exact fun frame _ still => still.frame.isBare_outcome
        · exact fun frame reached still => inductionHypothesis still.frame reached trivial
        · exact fun error frame reached _ => leavesBare_failWith error frame.gas reached trivial
      exact ran simulation ⟨.refl _, still⟩

end Frame

theorem Environment.leavesStatic_runnerWithin
    (environment : Environment)
    (bound : FrameContext → Nat) :
    (environment.runnerWithin bound).LeavesStatic where
  evolving := environment.evolving_runnerWithin bound
  bare _ inStatic := Frame.IsStill.leavesBare_run environment _ ⟨inStatic, rfl, rfl⟩

/-! ## Every moment of a run -/

/-- A still frame that waits for a call. -/
structure WaitingFrame.IsStill (waiting : WaitingFrame) : Prop where
  frame : waiting.frame.IsStill
  awaitsCall : ∃ output, waiting.awaited = .call output

/-- The frame on top is still, or it has ended and hands on nothing but its output. -/
def ActiveFrame.IsStill : ActiveFrame → Prop
  | .running machine => machine.frame.IsStill
  | .ended (.ok outcome _) => outcome.IsBare
  | .ended (.error _ _) => True

/-- All frames are still, and none has changed the world since a start. -/
structure CallStack.IsStill (start : World) (stack : CallStack) : Prop where
  active : stack.active.IsStill
  waiting : ∀ frame ∈ stack.waiting, frame.IsStill
  levels :
    AtEachLevel (OnlyWarmed start) stack.waiting.length stack.active.simulation.world

namespace Exec

/--
A still frame that starts another one does so by a call; the other frame is static and
begins where the first one has left the world, in a frame of its own.
-/
theorem still_of_launch?
    {environment : Environment}
    {machine : Machine}
    {launch : FrameLaunch}
    (still : machine.frame.IsStill)
    (found : launch? environment machine = some launch) :
    launch.context.isStatic = true ∧ launch.waiting.IsStill ∧
      ∃ below,
        Evolves true machine.simulation.world below ∧ launch.simulation.world = below.push := by
  obtain ⟨instruction, place, gasBefore, ready, begun, found⟩ := exists_of_launch? found
  obtain ⟨stillReady, harmless⟩ :=
    (ensures_begin (Machine.IsStill.keptByInstructions Runner.idle_leavesStatic _)).of_ok begun
      (Machine.IsStill.of_frame still)
  rcases exists_of_instructionLaunch? found with ⟨kind, called⟩ | ⟨modifies, _⟩
  · obtain ⟨prepared, paid, code, opened, prepares, runs, rfl⟩ := exists_of_callLaunch? called
    obtain ⟨stillPaid, launched⟩ :=
      (Machine.IsStill.ensures_prepareCall _ environment kind).of_ok prepares stillReady
    obtain ⟨inStatic, noValue⟩ := launched prepared rfl
    refine ⟨inStatic rfl, ⟨stillPaid.frame, prepared.output, rfl⟩, paid.simulation.world,
      stillPaid.evolved, ?_⟩
    obtain ⟨_, opens, runs⟩ := Option.bind_eq_some_iff.mp runs
    obtain ⟨_, _, runs⟩ := Option.bind_eq_some_iff.mp runs
    cases runs
    obtain ⟨world, rfl, ⟨_, rfl⟩ | ⟨isCall, moved⟩⟩ := SimAction.opened?_cases opens
    · rfl
    · -- a call may send a value along, but from a static frame it sends none
      simp only [World.transfer, noValue rfl isCall, true_or, if_true] at moved
      cases moved
      rfl
  · rw [harmless rfl] at modifies
    cases modifies

end Exec

namespace ActiveFrame

variable {start : World}

/-- What a still frame comes to is still, if it has failed or not. -/
theorem still_ofResult
    {action : Exec Unit}
    {machine : Machine}
    (keeps : Keeps (Machine.IsStill start) action)
    (still : machine.IsStill start) :
    (ofResult (action machine)).IsStill ∧
      Evolves true start (ofResult (action machine)).simulation.world := by
  cases result : action machine with
  | ok answer after =>
      have reached := keeps.of_ok result still
      exact ⟨reached.frame, reached.evolved⟩
  | error error after =>
      have reached := keeps.of_error result still
      unfold ofResult Frame.failWith
      dsimp only
      cases error.isAbort with
      | true => exact ⟨trivial, reached.evolved⟩
      | false => exact ⟨⟨rfl, rfl⟩, reached.evolved⟩

end ActiveFrame

namespace CallStack.IsStill

variable
  {environment : Environment}
  {start : World}

theorem first
    (limits : Limits)
    {context : FrameContext}
    (inStatic : context.isStatic = true)
    (code : Bytes)
    (simulation : Simulation) :
    (CallStack.first limits context code simulation).IsStill simulation.world where
  active := ⟨inStatic, rfl, rfl⟩
  waiting _ member := nomatch member
  levels := .outermost (.refl _)

/-- The innermost frame does something that leaves it still. -/
theorem act
    {action : Exec Unit}
    {machine : Machine}
    {waiting : List WaitingFrame}
    (keeps : ∀ start, Keeps (Machine.IsStill start) action)
    (active : machine.frame.IsStill)
    (others : ∀ frame ∈ waiting, frame.IsStill)
    (levels : AtEachLevel (OnlyWarmed start) waiting.length machine.simulation.world) :
    (CallStack.mk (.ofResult (action machine)) waiting).IsStill start := by
  obtain ⟨still, evolves⟩ :=
    ActiveFrame.still_ofResult (keeps machine.simulation.world) (.of_frame active)
  exact ⟨still, others,
    levels.change (.of_evolves evolves) (levels.holds.trans (.of_evolves evolves))⟩

/-- A still frame goes on after a call as it was. -/
theorem resume
    {frame : WaitingFrame}
    {waiting : List WaitingFrame}
    {ended : EStateM.Result VmError Simulation Outcome}
    (limits : Limits)
    (still : (CallStack.mk (.ended ended) (frame :: waiting)).IsStill start) :
    (CallStack.mk (.ofResult (frame.resume limits ended)) waiting).IsStill start := by
  obtain ⟨bare, waits, levels⟩ := still
  obtain ⟨⟨active, output, awaits⟩, others⟩ := List.forall_mem_cons.mp waits
  have amended {action : Exec Unit}
      (keeps : ∀ start, Keeps (Machine.IsStill start) action)
      (start : World) :
      Keeps (Machine.IsStill start) (Exec.amending frame.place frame.gasBefore action) :=
    Exec.ensures_amending _ _ (keeps start) (fun _ still => ⟨still.evolved, still.frame⟩)
      fun _ still => ⟨still.evolved, still.frame⟩
  have ends := OnlyWarmed.keptByEnds start
  cases ended with
  | error error after =>
      have resumed :
          frame.resume limits (.error error after) =
            Exec.amending frame.place frame.gasBefore (throw error)
              ⟨frame.frame, { after with world := after.world.revert }⟩ := by
        simp only [WaitingFrame.resume, Awaited.settle, awaits, SimAction.closeFrame]
      rw [resumed]
      exact act (amended fun _ => Keeps.throw _) active others (levels.revert ends)
  | ok outcome after =>
      have resumed :
          frame.resume limits (.ok outcome after) =
            Exec.amending frame.place frame.gasBefore
              (Exec.takeOutcome outcome output.1 output.2)
              ⟨frame.frame,
                { after with
                  world :=
                    if outcome.isSuccess then after.world.commit else after.world.revert }⟩ := by
        simp only [WaitingFrame.resume, Awaited.settle, Awaited.take, awaits,
          SimAction.closeFrame]
      rw [resumed]
      refine act (amended fun _ => Machine.IsStill.takeOutcome bare _ _) active others ?_
      dsimp only
      split
      · exact levels.commit ends
      · exact levels.revert ends

/-- A move leaves all frames still, and the world unchanged at each level. -/
theorem moves
    {before after : CallStack}
    (move : Moves environment before after)
    (still : before.IsStill start) :
    after.IsStill start := by
  obtain ⟨active, waiting, levels⟩ := still
  cases move.moved with
  | close finished =>
      exact ⟨Frame.IsStill.isBare_outcome active, waiting, levels⟩
  | launch runs found =>
      obtain ⟨inStatic, waits, below, reached, opened⟩ := Exec.still_of_launch? active found
      refine ⟨⟨inStatic, rfl, rfl⟩, List.forall_mem_cons.mpr ⟨waits, waiting⟩, ?_⟩
      have outside :=
        levels.change (.of_evolves reached) (levels.holds.trans (.of_evolves reached))
      change AtEachLevel _ _ (FrameLaunch.simulation _).world
      rw [opened]
      exact .inside outside (.refl _) (outside.holds.trans (.push below))
  | act runs =>
      refine act (fun start => ?_) active waiting levels
      exact (Machine.IsStill.keptByInstructions Runner.idle_leavesStatic start).step
  | handOn =>
      exact resume environment.limits ⟨active, waiting, levels⟩

theorem of_mem_frames
    {stack : CallStack}
    (still : stack.IsStill start) :
    ∀ frame ∈ stack.frames, frame.context.isStatic = true ∧ frame.logs = #[] := by
  obtain ⟨active, waiting⟩ := stack
  have waits :
      ∀ frame ∈ waiting.map WaitingFrame.frame,
        frame.context.isStatic = true ∧ frame.logs = #[] := by
    intro frame member
    obtain ⟨waits, among, rfl⟩ := List.mem_map.mp member
    have still := (still.waiting waits among).frame
    exact ⟨still.isStatic, still.noLogs⟩
  cases active with
  | ended result => exact waits
  | running machine =>
      exact List.forall_mem_cons.mpr ⟨⟨still.active.isStatic, still.active.noLogs⟩, waits⟩

end CallStack.IsStill

/--
Static frames change nothing.  Whatever answers a call in a static frame, the world is only
marked and no log is left; and if code answers, then at every moment all frames of its run
are static, none has left a log, and the world has only been marked.
-/
structure Environment.StaticFramesChangeNothing (environment : Environment) : Prop where
  target :
    ∀ (bound : FrameContext → Nat) (context : FrameContext) (simulation : Simulation),
      context.isStatic = true →
      simulation.world.OnlyWarmed
        (leaves (SimAction.runTarget environment (environment.runnerWithin bound) context)
          simulation).world
  logs :
    ∀ (bound : FrameContext → Nat) (context : FrameContext) (simulation after : Simulation)
      (outcome : Outcome),
      context.isStatic = true →
      SimAction.runTarget environment (environment.runnerWithin bound) context simulation =
        .ok outcome after →
      outcome.logs = #[]
  meanwhile :
    ∀ (limits : Limits) (context : FrameContext) (code : Bytes) (simulation : Simulation)
      (count : Nat) (stack : CallStack),
      context.isStatic = true →
      CallStack.Leads (CallStack.Moves environment) count
        (CallStack.first limits context code simulation) stack →
      simulation.world.OnlyWarmed stack.active.simulation.world ∧
        ∀ frame ∈ stack.frames, frame.context.isStatic = true ∧ frame.logs = #[]

/-- In every environment static frames change nothing. -/
theorem Environment.staticFramesChangeNothing
    (environment : Environment) :
    environment.StaticFramesChangeNothing where
  target bound context simulation inStatic := by
    have evolves :
        Keeps (Simulation.Evolved true simulation.world)
          (SimAction.runTarget environment (environment.runnerWithin bound) context) :=
      SimAction.keeps_runTarget (environment.evolving_runnerWithin bound) (fun _ => inStatic) _
    exact .of_evolves (evolves.holds_leaves (.refl _))
  logs bound context simulation after outcome inStatic answered := by
    have bare :
        SimAction.LeavesBare
          (SimAction.runTarget environment (environment.runnerWithin bound) context) :=
      .runTarget fun code => (environment.leavesStatic_runnerWithin bound).bare code inStatic
    exact (bare.of_ok answered trivial).logs
  meanwhile limits context code simulation count stack inStatic leads := by
    have still : stack.IsStill simulation.world :=
      leads.keeps CallStack.IsStill.moves (.first limits inStatic code simulation)
    exact ⟨still.levels.holds, still.of_mem_frames⟩

end LedgerEvm
